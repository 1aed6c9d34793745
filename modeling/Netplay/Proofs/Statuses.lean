/-
Module: Netplay.Proofs.Statuses
Purpose: The status of a registered user: it is connecting until it is logged in,
  and it plays only while its entry names a game.
Main exports:
  User.Proper, Roster.Each, Lobby.Left.proper, Lobby.invariant_proper,
  Venue.proper_run
-/
import Netplay.Proofs.Coherence

namespace Netplay

/-- A user is connecting exactly as long as it is not logged in, and one that plays
has an entry that names a game. -/
structure User.Proper (user : User) : Prop where
  connecting : user.status = .connecting ↔ user.loggedIn = false
  placed : user.status = .playing → user.game.isSome

/-- A logged-in user that is idle is so properly. -/
theorem User.Proper.idle {user : User} (loggedIn : user.loggedIn = true)
    (idle : user.status = .idle) : user.Proper where
  connecting := by
    rw [loggedIn, idle]
    decide
  placed := fun plays => by
    rw [idle] at plays
    cases plays

/-! ## Rosters -/

namespace Roster

/-- Every registered user is like that. -/
def Each (holds : User → Prop) (people : Roster) : Prop := ∀ user ∈ people.present, holds user

namespace Each

variable {holds : User → Prop} {people : Roster}

theorem update {change : User → User} {id : UserId} (each : people.Each holds)
    (keeps : ∀ user, user.id = id → holds user → holds (change user)) :
    (people.update id change).Each holds := by
  unfold Roster.update
  split
  · intro later member
    obtain ⟨user, registered, rfl⟩ := List.mem_map.mp member
    split
    · rename_i same
      exact keeps user same (each user registered)
    · exact each user registered
  · exact each

/-- Changes one after the other. -/
theorem foldl {α : Type} (key : α → UserId) (change : α → User → User) {items : List α}
    (each : people.Each holds)
    (keeps : ∀ item ∈ items, ∀ user, user.id = key item → holds user → holds (change item user)) :
    (items.foldl (fun people item => people.update (key item) (change item)) people).Each
      holds := by
  induction items generalizing people with
  | nil => exact each
  | cons first rest inductionHypothesis =>
      exact inductionHypothesis (each.update (keeps first List.mem_cons_self))
        fun item member => keeps item (List.mem_cons_of_mem first member)

theorem numberPlayers {change : UInt8 → User → User} {members : List UserId}
    (each : people.Each holds)
    (keeps : ∀ player user, user.id ∈ members → holds user → holds (change player user)) :
    (Room.numberPlayers people members change).Each holds := by
  unfold Room.numberPlayers
  refine each.foldl Prod.fst (fun entry => change (UInt8.ofNat (entry.2 + 1)))
    fun entry member user same => ?_
  have among : entry.1 ∈ members := by
    rw [← List.zipIdx_map_fst 0 members]
    exact List.mem_map.mpr ⟨entry, member, rfl⟩
  exact keeps _ user (same ▸ among)

theorem depart (each : people.Each holds) (user : User) : (people.depart user).Each holds :=
  fun other member => each other (List.mem_filter.mp member).1

end Each

/-- Registered users are proper, and those with some numbers are logged in. -/
def Proper (people : Roster) (ids : List UserId) : Prop :=
  people.Each fun user => user.Proper ∧ (user.id ∈ ids → user.loggedIn = true)

end Roster

/-! ## Games -/

namespace Room

variable {room after : Room} {mayRejoin : Prop} {id : UserId} {ids : List UserId}

/-- Members start to play, whose entries name a game. -/
theorem Plays.proper (plays : room.Plays mayRejoin after)
    (proper : room.people.Each User.Proper)
    (hosts : ∀ user ∈ room.people.present, user.id ∈ room.game.members →
      user.loggedIn = true ∧ user.game.isSome) : after.people.Each User.Proper := by
  have each : room.people.Each fun user => user.Proper ∧ (user.id ∈ room.game.members →
      user.loggedIn = true ∧ user.game.isSome) :=
    fun user registered => ⟨proper user registered, hosts user registered⟩
  cases plays with
  | start owner waiting someone =>
      have seated : (numberPlayers room.people room.game.members seatPlayer).Each fun user =>
          user.Proper ∧ (user.id ∈ room.game.members →
            user.loggedIn = true ∧ user.game.isSome) := by
        refine each.numberPlayers fun player user member before => ?_
        obtain ⟨loggedIn, place⟩ := before.2 member
        refine ⟨⟨?_, fun _ => place⟩, before.2⟩
        change UserStatus.playing = .connecting ↔ user.loggedIn = false
        rw [loggedIn]
        decide
      exact fun user registered => (seated user registered).1
  | ready member gathering seat next rejoins => exact proper
  | @drop id slot member on seat =>
      have idled : (room.people.update id fun user => { user with status := .idle }).Each
          fun user => user.Proper ∧ (user.id ∈ room.game.members →
            user.loggedIn = true ∧ user.game.isSome) :=
        each.update fun user same before =>
          ⟨.idle (before.2 (same ▸ member)).1 rfl, before.2⟩
      have rested : (room.rested id).Each User.Proper := fun user registered =>
        (idled user registered).1
      unfold bench
      split
      · exact rested
      · exact rested
  | work works => exact works.people ▸ proper

/-- A user that is not in a round any more, or not in a game, is idle. -/
theorem proper_left (room : Room) (proper : room.people.Proper ids) (among : id ∈ ids) :
    (room.left id).people.Proper ids := by
  have gone {people : Roster} (proper : people.Proper ids) :
      (people.update id (·.leaveGame)).Proper ids :=
    proper.update fun user same before => ⟨.idle (before.2 (same ▸ among)) rfl, before.2⟩
  have without {room : Room} (proper : room.people.Proper ids) :
      (room.without id).people.Proper ids := by
    unfold Room.without
    simp only
    split
    · exact (gone proper).numberPlayers fun player user _ before =>
        ⟨⟨before.1.connecting, before.1.placed⟩, before.2⟩
    · exact gone proper
  rcases room.left_cases id with goes | ⟨slot, -, goes⟩
  · rw [goes]
    exact without proper
  · rw [goes]
    have rested : (room.rested id).Proper ids :=
      proper.update fun user same before => ⟨.idle (before.2 (same ▸ among)) rfl, before.2⟩
    refine without ?_
    unfold bench
    split
    · exact rested
    · exact rested

/-- Nor are users that are sent away. -/
theorem proper_dismissed {people : Roster} {members : List UserId} (proper : people.Proper ids)
    (among : ∀ member ∈ members, member ∈ ids) : (dismissed people members).Proper ids :=
  proper.foldl id (fun _ => User.leaveGame) fun member isMember _ same before =>
    ⟨.idle (before.2 (same ▸ among member isMember)) rfl, before.2⟩

end Room

/-! ## The lobby -/

namespace Lobby

variable {lobby after : Lobby} {game : Game} {settings : Settings} {created : Nat}

/-- The entries of members name their game, and members are logged in. -/
theorem Kept.hosts (kept : lobby.Kept settings created) (live : game ∈ lobby.games) :
    ∀ user ∈ lobby.people.present, user.id ∈ game.members →
      user.loggedIn = true ∧ user.game = some game.id := by
  intro user registered member
  obtain ⟨other, otherRegistered, number, loggedIn⟩ := kept.registered live member
  obtain rfl := List.inj_on_of_nodup_map kept.users_nodup otherRegistered registered number
  exact ⟨loggedIn, (gameOf?_eq_ok (kept.placed.here other registered game live member)).1⟩

/-- Leaving a game keeps users proper. -/
theorem Left.proper {id : UserId} (left : lobby.Left id game after) (member : id ∈ game.members)
    (proper : lobby.people.Proper game.members) : after.people.Proper game.members := by
  have gone : ((lobby.room game).left id).people.Proper game.members :=
    Room.proper_left (lobby.room game) proper member
  cases left with
  | stays guest => exact gone
  | closes owner room kept =>
      subst room
      obtain ⟨before, -, leaves⟩ := (lobby.room game).left_game id
      refine Room.proper_dismissed gone fun other here => ?_
      rw [leaves] at here
      exact (List.mem_filter.mp here).1

/-- Every effect on a lobby keeps users proper. -/
theorem invariant_proper (settings : Settings) (created : Nat) (mayRejoin : Prop) :
    Invariant mayRejoin fun lobby =>
      lobby.Kept settings created ∧ lobby.people.Each User.Proper where
  placed := fun holds => holds.1.placed
  effect := fun {lobby after} before effect => by
    obtain ⟨kept, proper⟩ := before
    refine ⟨(invariant_kept settings created mayRejoin).effect kept effect, ?_⟩
    have members {game : Game} (live : game ∈ lobby.games) :
        lobby.people.Proper game.members := fun user registered =>
      ⟨proper user registered, fun member => (kept.hosts live user registered member).1⟩
    have each {people : Roster} {ids : List UserId} (all : people.Proper ids) :
        people.Each User.Proper := fun user registered => (all user registered).1
    cases effect with
    | nothing => exact proper
    | @connect id counter address protocol space positive fresh =>
        intro user registered
        rcases List.mem_append.mp registered with old | new
        · exact proper user old
        · rw [List.mem_singleton.mp new]
          exact ⟨⟨fun _ => rfl, fun _ => rfl⟩, fun plays => by cases plays⟩
    | @describe change id describes =>
        refine proper.update fun user _ before => ⟨?_, ?_⟩
        · rw [describes.status, describes.loggedIn]
          exact before.connecting
        · rw [describes.status, describes.game]
          exact before.placed
    | @logIn id absent => exact proper.update fun user _ before => .idle rfl rfl
    | play live plays =>
        refine plays.proper proper fun user registered member => ?_
        obtain ⟨loggedIn, place⟩ := kept.hosts live user registered member
        exact ⟨loggedIn, Option.isSome_iff_exists.mpr ⟨_, place⟩⟩
    | @work game room member works =>
        have people : (lobby.withRoom room).people = lobby.people := works.people
        rw [people]
        exact proper
    | @join user game registered loggedIn free live welcome waiting space =>
        exact proper.update fun user _ before => ⟨before.connecting, fun _ => rfl⟩
    | leave live member left => exact each (left.proper member (members live))
    | @kick target game kicked after live member guest barred left =>
        have all : lobby.people.Proper game.members := members live
        exact each (left.proper member all)
    | depart registered absent => exact proper.depart _
    | departMember registered live member left =>
        exact each (left.proper member ((members live).depart _))

/-- So does the creation of a game. -/
theorem proper_createGame (proper : lobby.people.Each User.Proper) (id : UserId)
    (name : String) : (lobby.createGame id name).state.people.Each User.Proper := by
  rcases lobby.createGame_cases id name with
    refused | ⟨user, -, -, -, -, -, ⟨-, state⟩ | ⟨-, makes⟩⟩
  · rw [refused.state]
    exact proper
  · rw [state]
    exact proper
  · rw [makes.state]
    exact proper.update fun user _ before => ⟨before.connecting, fun _ => rfl⟩

end Lobby

namespace Venue

variable {settings : Settings} {venue : Venue}

/-- Every move keeps users proper. -/
theorem proper_step (kept : venue.lobby.Kept settings venue.created)
    (proper : venue.lobby.people.Each User.Proper) (move : Move) :
    (venue.step move).lobby.people.Each User.Proper := by
  by_cases creates : move.Creates
  · cases move with
    | create user name => exact Lobby.proper_createGame proper user name
    | _ => exact absurd creates id
  · exact (invariant_step (Lobby.invariant_proper settings venue.created True) ⟨kept, proper⟩
      creates fun _ => trivial).2

/-- At any time registered users are proper. -/
theorem proper_run (settings : Settings) (moves : List Move) :
    ((opened settings).run moves).lobby.people.Each User.Proper := by
  have run : ∀ venue : Venue, venue.lobby.Kept settings venue.created →
      venue.lobby.people.Each User.Proper →
        (venue.run moves).lobby.people.Each User.Proper := by
    induction moves with
    | nil => exact fun _ _ proper => proper
    | cons move rest inductionHypothesis =>
        exact fun venue kept proper => inductionHypothesis (venue.step move)
          (kept_step kept move) (proper_step kept proper move)
  exact run (opened settings) (Lobby.kept_empty settings) fun user registered => by
    cases registered

end Venue

end Netplay
