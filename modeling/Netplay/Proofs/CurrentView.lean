/-
Module: Netplay.Proofs.CurrentView
Purpose: Whoever has logged in and stays can tell from the announcements it has heard
  since who is logged in now and how every game stands.
Main exports:
  Venue.letters, Venue.Courteous, Venue.Polite, Venue.informs_step, Venue.stays_run,
  Venue.follow_run, Venue.view_current
-/
import Netplay.Proofs.Observers

namespace Netplay

open Roster (Agrees)

/-! ## Staying -/

namespace Roster

variable {people : Roster} {id : UserId} {serial : Nat}

/-- Which of the users that have had a number has it now. -/
def serial? (people : Roster) (id : UserId) : Option Nat :=
  (people.registered? id).map (·.serial)

theorem key_of_serial? (found : people.serial? id = some serial) :
    (id, serial) ∈ people.present.map (·.key) := by
  obtain ⟨user, known, rfl⟩ := Option.map_eq_some_iff.mp found
  obtain ⟨registered, rfl⟩ := registered?_eq_some known
  exact List.mem_map_of_mem registered

/-- Keys of the registered and keys of the departed are different. -/
theorem Dated.not_gone (dated : people.Dated) {key : UserId × Nat}
    (here : key ∈ people.present.map (·.key)) : key ∉ people.departed.map (·.key) := by
  have unique := dated.unique
  rw [everyone, List.map_append] at unique
  exact (List.disjoint_of_nodup_append unique) here

/-- A registered user whose key is that of one who has logged in hears what is
told to everyone. -/
theorem Known.mem_audience (known : people.Known (id, serial)) (dated : people.Dated)
    (here : (id, serial) ∈ people.present.map (·.key)) : id ∈ people.audience := by
  obtain ⟨user, member, key, flag⟩ := known
  obtain ⟨other, registered, same⟩ := List.mem_map.mp here
  have itself : other = user := List.inj_on_of_nodup_map dated.unique
    (List.mem_append_left _ registered) member (same.trans key.symm)
  subst itself
  exact Roster.mem_audience.mpr ⟨other, registered, flag, congrArg Prod.fst key⟩

end Roster

namespace Venue

variable {settings : Settings} {venue : Venue} {observer : UserId} {key : UserId × Nat}
  {moves : List Move}

theorem named_run (kept : venue.lobby.Kept settings venue.created) (named : venue.lobby.Named)
    (moves : List Move) : (venue.run moves).lobby.Named := by
  induction moves generalizing venue with
  | nil => exact named
  | cons move rest inductionHypothesis =>
      exact inductionHypothesis (kept_step kept move) (named_step kept named move)

/-- Whoever has left stays away. -/
theorem gone_run (kept : venue.lobby.Kept settings venue.created)
    (gone : key ∈ venue.lobby.people.departed.map (·.key)) (moves : List Move) :
    key ∈ (venue.run moves).lobby.people.departed.map (·.key) := by
  induction moves generalizing venue with
  | nil => exact gone
  | cons move rest inductionHypothesis =>
      exact inductionHypothesis (kept_step kept move)
        (people_step (fun _ _ _ turnover => turnover.gone) kept gone move)

theorem known_step (kept : venue.lobby.Kept settings venue.created)
    (known : venue.lobby.people.Known key) (move : Move) :
    (venue.step move).lobby.people.Known key :=
  people_step (fun _ _ nodup turnover => turnover.known nodup) kept known move

/-- Whoever has logged in and is registered in the end has been so all the time. -/
theorem stays_run (kept : venue.lobby.Kept settings venue.created) (named : venue.lobby.Named)
    (known : venue.lobby.people.Known key)
    (stays : key ∈ (venue.run moves).lobby.people.present.map (·.key)) :
    key ∈ venue.lobby.people.present.map (·.key) := by
  obtain ⟨user, member, rfl, -⟩ := known
  rcases List.mem_append.mp member with present | departed
  · exact List.mem_map_of_mem present
  · exact absurd (gone_run kept (List.mem_map_of_mem departed) moves)
      ((named_run kept named moves).dated.not_gone stays)

/-! ## Moves -/

/-- The client that says who it is. -/
def Move.introduced? : Move → Option UserId
  | .introduce user _ _ _ => some user
  | _ => none

/-- A client says who it is only before it is logged in. -/
def Courteous (venue : Venue) (move : Move) : Prop :=
  ∀ user ∈ move.introduced?, (venue.lobby.people.person user).loggedIn = false

instance (venue : Venue) (move : Move) : Decidable (venue.Courteous move) :=
  decidable_of_iff (move.introduced?.all fun user =>
      !(venue.lobby.people.person user).loggedIn) <| by
    simp only [Option.all_eq_true, Bool.not_eq_true', Courteous, Option.mem_def]

/-- From what it is told of a move an observer who stays learns what the move
makes of the view. -/
theorem informs_step (kept : venue.lobby.Kept settings venue.created)
    (named : venue.lobby.Named) {move : Move} (courteous : venue.Courteous move)
    (hears : venue.lobby.Hears observer)
    (stays : observer ∈ (venue.step move).lobby.people.present.map (·.id)) :
    venue.lobby.view.follow (heard observer (venue.outcome move).letters) =
      (venue.step move).lobby.view := by
  rw [step_lobby] at stays ⊢
  cases move with
  | connect address protocol => exact Lobby.informs_connect named address protocol
  | introduce user name emulator connectionType =>
      exact (Lobby.view_introduce kept named (courteous user rfl) name emulator
        connectionType).symm
  | measure user ping => exact (Lobby.view_measure named user ping).symm
  | login user => exact Lobby.informs_login kept named hears user stays
  | quit user message =>
      have remains : observer ≠ user := by
        rw [outcome, Lobby.ids_quit] at stays
        exact of_decide_eq_true (List.mem_filter.mp stays).2
      exact (Lobby.informs_quit kept named hears remains.symm message).1
  | chat user message => exact Lobby.informs_chat hears user message
  | create user name => exact Lobby.informs_createGame hears kept.nodup user name
  | join user game => exact Lobby.informs_joinGame hears kept.nodup user game
  | leave user =>
      rw [outcome, Lobby.quitGame]
      split
      · rfl
      · exact Lobby.informs_leave hears kept.nodup _
  | start user => exact Lobby.informs_startGame hears kept.nodup user
  | ready user => exact Lobby.informs_ready hears kept.nodup user
  | drop user => exact Lobby.informs_dropGame hears kept.nodup user
  | kick user target => exact Lobby.informs_kick kept hears user target
  | gameChat user message => exact Lobby.informs_gameChat kept.nodup user message
  | gap user => exact Lobby.informs_droppedPacket kept.nodup user
  | input user data => exact Lobby.informs_addGameData kept.nodup _ _ user data
  | retry number ticket =>
      rw [outcome, retried]
      split
      · rfl
      · rename_i game found
        split
        · rfl
        · rename_i parked waits
          split
          · have member : game ∈ venue.lobby.allGames := List.mem_of_find?_eq_some found
            exact (congrArg venue.lobby.view.follow
              (heard_tells (Room.tells_resume _ venue.now parked))).trans
              (Lobby.view_works kept.nodup member (Room.works_retry venue.now ticket parked)).symm
          · rfl
  | pass milliseconds => rfl

/-! ## Runs -/

/-- All that is told during a row of moves. -/
def letters (venue : Venue) : List Move → List Letter
  | [] => []
  | move :: rest => (venue.outcome move).letters ++ (venue.step move).letters rest

/-- Clients say who they are only before they are logged in. -/
def Polite (venue : Venue) : List Move → Prop
  | [] => True
  | move :: rest => venue.Courteous move ∧ (venue.step move).Polite rest

instance decidablePolite : (venue : Venue) → (moves : List Move) →
    Decidable (venue.Polite moves)
  | _, [] => inferInstanceAs (Decidable True)
  | venue, move :: rest =>
      have := decidablePolite (venue.step move) rest
      inferInstanceAs (Decidable (_ ∧ _))

/-- Whoever is logged in and stays can tell the view from what it has heard. -/
theorem follow_run {serial : Nat} (kept : venue.lobby.Kept settings venue.created)
    (named : venue.lobby.Named) (known : venue.lobby.people.Known (observer, serial))
    (polite : venue.Polite moves)
    (stays : (observer, serial) ∈ (venue.run moves).lobby.people.present.map (·.key)) :
    venue.lobby.view.follow (heard observer (venue.letters moves)) =
      (venue.run moves).lobby.view := by
  induction moves generalizing venue with
  | nil => rfl
  | cons move rest inductionHypothesis =>
      have keptNext := kept_step kept move
      have namedNext := named_step kept named move
      have knownNext := known_step kept known move
      have here := stays_run kept named known stays
      have hears : venue.lobby.Hears observer :=
        ⟨Lobby.audience_nodup kept, known.mem_audience named.dated here⟩
      have remains : observer ∈ (venue.step move).lobby.people.present.map (·.id) := by
        obtain ⟨user, registered, same⟩ :=
          List.mem_map.mp (stays_run keptNext namedNext knownNext stays)
        exact List.mem_map.mpr ⟨user, registered, congrArg Prod.fst same⟩
      rw [letters, heard_append, View.follow_append,
        informs_step kept named polite.1 hears remains]
      exact inductionHypothesis keptNext namedNext knownNext polite.2 stays

/-- Whoever logs in is known to have done so. -/
theorem known_login (kept : venue.lobby.Kept settings venue.created)
    {user : UserId} (welcome : (venue.outcome (.login user)).result = .ok ()) :
    ∃ serial, (venue.step (.login user)).lobby.people.serial? user = some serial ∧
      (venue.step (.login user)).lobby.people.Known (user, serial) := by
  have keptNext := kept_step kept (.login user)
  rw [step_lobby] at keptNext ⊢
  rcases venue.lobby.login_cases user with
    ⟨refusal, refused⟩ | ⟨newcomer, registered, rfl, -, accepted⟩
  · rw [outcome, refused] at welcome
    cases welcome
  · have audience := (Lobby.mem_audience_welcomed registered newcomer.id).mpr (.inl rfl)
    rw [← accepted] at audience
    obtain ⟨later, present, flag, number⟩ := Roster.mem_audience.mp audience
    have found := find?_key keptNext.users_nodup present
    rw [number] at found
    refine ⟨later.serial, congrArg (Option.map User.serial) found,
      later, List.mem_append_left _ present, ?_, flag⟩
    rw [User.key, number]

/-- Take any run of a relay in which a user logs in, and anything that happens
afterwards, as long as the user stays and clients say who they are only before they
are logged in.  Then the announcements that the user hears turn those who were
logged in at its login into those who are logged in now, and the games of that
moment, as they stood, into the games of now, as they stand. -/
theorem view_current (settings : Settings) (before after : List Move) (observer : UserId)
    {start : Venue} (enters : start = ((opened settings).run before).step (.login observer))
    (welcome : (((opened settings).run before).outcome (.login observer)).result = .ok ())
    (polite : start.Polite after)
    (stays : (start.run after).lobby.people.serial? observer =
      start.lobby.people.serial? observer) :
    start.lobby.view.follow (heard observer (start.letters after)) =
      (start.run after).lobby.view := by
  have kept := kept_opened settings before
  have named := named_run (kept_opened settings []) (Lobby.named_empty settings) before
  obtain ⟨serial, found, known⟩ := known_login kept welcome
  subst enters
  exact follow_run (kept_step kept _) (named_step kept named _) known polite
    (Roster.key_of_serial? (stays.trans found))

/-- Ada has connected and said who she is. -/
def doorstep : List Move :=
  [.connect ⟨"10.0.0.1", 6000⟩ "0.83", .introduce 1 "Ada" "MAME" 1, .measure 1 10]

/-- Ada comes in. -/
def lounge : Venue := ((opened {}).run doorstep).step (.login 1)

/-- Ada watches.  Bo and Cy come and play a round, in the middle of which Cy quits;
Di comes, creates a game of her own, and comes back under another number. -/
def gallery : List Move :=
  arrival 2 "Bo" ++ arrival 3 "Cy" ++
    [.create 2 "duel", .join 3 1, .start 2, .ready 2, .ready 3, .input 2 [1], .quit 3 "bye"] ++
    arrival 4 "Di" ++ [.create 4 "solo"] ++ arrival 5 "Di"

/-- She hears of it all, and need not ask. -/
theorem view_current_gallery :
    (((opened {}).run doorstep).outcome (.login 1)).result = .ok () ∧
      lounge.Polite gallery ∧ (heard 1 (lounge.letters gallery)).length = 15 ∧
      lounge.lobby.view.follow (heard 1 (lounge.letters gallery)) =
        (lounge.run gallery).lobby.view := by
  have welcome : (((opened {}).run doorstep).outcome (.login 1)).result = .ok () := by
    decide +kernel
  have polite : lounge.Polite gallery := by decide +kernel
  exact ⟨welcome, polite, by decide +kernel,
    view_current {} doorstep gallery 1 rfl welcome polite (by decide +kernel)⟩

end Venue

end Netplay
