/-
Module: Netplay.Proofs.LobbyView
Purpose: What someone who is logged in can see of a relay, and that every operation
  tells it all that changes of it.
Main exports:
  View, View.learn, View.follow, Lobby.view, heard, Lobby.Hears, Lobby.Informs,
  Lobby.informs_playAndTell, Lobby.informs_joinGame, Lobby.informs_leave
-/
import Mathlib.Data.Set.Insert
import Mathlib.Logic.Function.Basic
import Netplay.Proofs.Badges
import Netplay.Proofs.Notices
import Netplay.Proofs.Refusals

namespace Netplay

open Roster (Agrees)

/-! ## Views -/

/-- Who is logged in, and how each game stands. -/
@[ext] structure View where
  here : Set UserId
  game : GameId → Option GameSummary

namespace View

/-- The view after an announcement. -/
def learn (view : View) : ServerEvent → View
  | .chat _ _ => view
  | .userJoined user => { view with here := insert user.id view.here }
  | .userQuit user _ => { view with here := view.here \ {user.id} }
  | .gameCreated game => { view with game := Function.update view.game game.id (some game) }
  | .gameStatusChanged game =>
      { view with game := Function.update view.game game.id (some game) }
  | .gameClosed id => { view with game := Function.update view.game id none }

/-- The view after announcements, one after the other. -/
def follow (view : View) (events : List ServerEvent) : View := events.foldl learn view

@[simp] theorem follow_nil (view : View) : view.follow [] = view := rfl

@[simp] theorem follow_cons (view : View) (event : ServerEvent) (events : List ServerEvent) :
    view.follow (event :: events) = (view.learn event).follow events := rfl

/-- The end of a game makes its earlier announcements moot. -/
theorem learn_closed (view : View) (game : GameSummary) :
    (view.learn (.gameStatusChanged game)).learn (.gameClosed game.id) =
      view.learn (.gameClosed game.id) :=
  congrArg (View.mk view.here) (Function.update_idem ..)

theorem follow_append (view : View) (first second : List ServerEvent) :
    view.follow (first ++ second) = (view.follow first).follow second :=
  List.foldl_append

end View

/-- Who is logged in to a lobby, and how its live games stand. -/
def Lobby.view (lobby : Lobby) : View where
  here := { id | id ∈ lobby.people.audience }
  game := fun id => (lobby.game? id).map (·.summary lobby.people)

theorem Lobby.view_game (lobby : Lobby) (id : GameId) :
    lobby.view.game id = (lobby.game? id).map (·.summary lobby.people) := rfl

/-! ## Hearing -/

/-- The announcement in a letter to the observer. -/
def Letter.announcement? (observer : UserId) (letter : Letter) : Option ServerEvent :=
  match letter.event with
  | .server event => if letter.recipient = observer then some event else none
  | _ => none

/-- The announcements that an observer hears. -/
def heard (observer : UserId) (letters : List Letter) : List ServerEvent :=
  letters.filterMap (Letter.announcement? observer)

section Heard

variable {observer : UserId} {kinds : List GameEvent.Kind} {letters more : List Letter}

@[simp] theorem heard_nil : heard observer [] = [] := rfl

@[simp] theorem heard_append :
    heard observer (letters ++ more) = heard observer letters ++ heard observer more :=
  List.filterMap_append

@[simp] theorem heard_user (recipient : UserId) (event : UserEvent) (letters : List Letter) :
    heard observer (⟨recipient, .user event⟩ :: letters) = heard observer letters := rfl

theorem heard_other {recipient : UserId} (differs : recipient ≠ observer) (event : ServerEvent)
    (letters : List Letter) :
    heard observer (⟨recipient, .server event⟩ :: letters) = heard observer letters :=
  List.filterMap_cons_none (if_neg differs)

/-- What is told to the members of a game announces nothing. -/
theorem heard_tells (tells : Tells kinds letters) : heard observer letters = [] := by
  rw [heard, List.filterMap_eq_nil_iff]
  intro letter member
  obtain ⟨game, event, said, -⟩ := tells letter member
  rw [Letter.announcement?, said]

/-- A letter to one of several recipients, none of whom gets two. -/
theorem heard_toAll {recipients : List UserId} (nodup : recipients.Nodup)
    (member : observer ∈ recipients) (event : ServerEvent) :
    heard observer (Letter.toAll recipients (.server event)) = [event] := by
  induction recipients with
  | nil => cases member
  | cons first rest inductionHypothesis =>
      obtain ⟨absent, restNodup⟩ := List.nodup_cons.mp nodup
      have others (apart : observer ∉ rest) :
          heard observer (Letter.toAll rest (.server event)) = [] := by
        rw [heard, List.filterMap_eq_nil_iff]
        intro letter here
        obtain ⟨recipient, listed, rfl⟩ := List.mem_map.mp here
        exact if_neg fun (same : recipient = observer) => apart (same ▸ listed)
      rcases List.mem_cons.mp member with rfl | later
      · have told : heard observer (Letter.toAll (observer :: rest) (.server event)) =
            event :: heard observer (Letter.toAll rest (.server event)) :=
          List.filterMap_cons_some (if_pos rfl)
        rw [told, others absent]
      · have differs : first ≠ observer := fun same => absent (same ▸ later)
        have passed : heard observer (Letter.toAll (first :: rest) (.server event)) =
            heard observer (Letter.toAll rest (.server event)) :=
          List.filterMap_cons_none (if_neg differs)
        rw [passed, inductionHypothesis restNodup later]

end Heard

namespace Lobby

variable {lobby after : Lobby} {game : Game} {observer id : UserId} {α : Type}

/-- The observer is logged in, once. -/
structure Hears (lobby : Lobby) (observer : UserId) : Prop where
  once : lobby.people.audience.Nodup
  listens : observer ∈ lobby.people.audience

theorem Hears.of_audience (hears : lobby.Hears observer)
    (same : after.people.audience = lobby.people.audience) : after.Hears observer :=
  ⟨same ▸ hears.once, same ▸ hears.listens⟩

theorem heard_broadcast (hears : lobby.Hears observer) (event : ServerEvent) :
    heard observer (lobby.broadcast event) = [event] :=
  heard_toAll hears.once hears.listens event

/-- From the announcements in the letters of the step the observer learns what
the step makes of the view. -/
def Informs (observer : UserId) (lobby : Lobby) (step : Step Lobby α) : Prop :=
  lobby.view.follow (heard observer step.letters) = step.state.view

theorem informs_refuse (observer : UserId) (lobby : Lobby) (refusal : Refusal) :
    lobby.Informs observer (Step.refuse (α := α) lobby refusal) := rfl

end Lobby

/-! ## Games -/

namespace Room

variable {room after : Room}

/-- It is the same game, with the same people around it. -/
structure Resembles (room after : Room) : Prop where
  number : after.game.id = room.game.id
  agrees : Agrees User.badge room.people after.people

theorem Resembles.refl (room : Room) : room.Resembles room := ⟨rfl, .refl _⟩

theorem resembles_plays {mayRejoin : Prop} (plays : room.Plays mayRejoin after) :
    room.Resembles after :=
  ⟨plays.keeps.id, plays.agrees User.lasting_badge.offSeat⟩

theorem resembles_join (room : Room) (id : UserId) : room.Resembles (room.join id).state := by
  refine ⟨?_, agrees_join User.lasting_badge room id⟩
  rcases room.join_cases id with ⟨refused, -⟩ | ⟨-, -, -, -, makes⟩
  · rw [refused.state]
  · rw [makes.state]
    rfl

theorem resembles_quit (room : Room) (id : UserId) : room.Resembles (room.quit id).state := by
  rcases room.quit_cases id with ⟨refused, -⟩ | ⟨-, makes⟩
  · rw [refused.state]
    exact .refl room
  · obtain ⟨before, keeps, leaves⟩ := room.left_game id
    rw [makes.state]
    refine ⟨?_, agrees_left User.lasting_badge room id⟩
    rw [leaves]
    exact keeps.id

/-- As long as some are not ready, a game keeps its status. -/
theorem status_ready {id : UserId} (early : (room.ready id).result = .ok false) :
    (room.ready id).state.game.status = room.game.status := by
  revert early
  unfold ready
  simp only
  split
  · exact fun _ => rfl
  · split
    · exact fun _ => rfl
    · split
      · exact fun _ => rfl
      · split
        · intro early
          cases early
        · exact fun _ => rfl

/-- As long as others play, a game keeps its status. -/
theorem status_drop {id : UserId} (others : (room.drop id).result = .ok false) :
    (room.drop id).state.game.status = room.game.status := by
  revert others
  unfold drop
  simp only
  split
  · exact fun _ => rfl
  · split
    · exact fun _ => rfl
    · split
      · exact fun _ => rfl
      · rename_i slot seat
        intro others
        have plays := Except.ok.inj others
        obtain ⟨_, _, _, _, silent⟩ := (room.game.dims_silence slot).frame
        simp only [Step.done, plays, Bool.false_eq_true, if_false]
        split
        · obtain ⟨_, _, _, _, frame⟩ := (room.game.silence slot).dims_desynchAll.1.frame
          rw [frame, silent]
        · rw [silent]

end Room

namespace Lobby

variable {lobby after : Lobby} {game : Game} {observer id : UserId} {α : Type}

/-! ## What games look like -/

theorem summary_names {people later : Roster}
    (names : game.ownerName later = game.ownerName people) :
    game.summary later = game.summary people := by
  rw [Game.summary, names, Game.summary]

/-- A game looks the same as long as its status does not change. -/
theorem summary_keeps {people later : Roster} {next : Game} (keeps : game.Keeps next)
    (status : next.status = game.status) (agrees : Agrees User.badge people later) :
    next.summary later = game.summary people := by
  have names : next.ownerName later = game.ownerName people := by
    rw [Game.ownerName_agrees next agrees, Game.ownerName_eq, keeps.owner, keeps.ownerSerial,
      Game.ownerName_eq]
  rw [Game.summary, names, keeps.id, keeps.name, keeps.emulator, keeps.owner, status,
    keeps.members, keeps.settings, Game.summary]

/-- While the games stay and their owners keep their names, all look the same. -/
theorem view_games (games : after.games = lobby.games)
    (names : ∀ game ∈ lobby.games,
      game.ownerName after.people = game.ownerName lobby.people) :
    after.view.game = lobby.view.game := by
  funext id
  unfold view game?
  simp only
  rw [games]
  cases found : lobby.games.find? (·.id = id) with
  | none => rfl
  | some game => exact congrArg some (summary_names (names game (List.mem_of_find?_eq_some found)))

/-- Something happens in a live game. -/
theorem view_withRoom {room : Room} (live : game ∈ lobby.games)
    (resembles : (lobby.room game).Resembles room) :
    (lobby.withRoom room).view =
      lobby.view.learn (.gameStatusChanged (room.game.summary room.people)) := by
  have number : room.game.id = game.id := resembles.number
  have agrees : Agrees User.badge lobby.people room.people := resembles.agrees
  refine View.ext ?_ (funext fun id => ?_)
  · exact congrArg (fun audience => { id | id ∈ audience }) agrees.audience
  · change ((lobby.withRoom room).game? id).map (·.summary room.people) =
      Function.update lobby.view.game room.game.id (some (room.game.summary room.people)) id
    by_cases same : id = room.game.id
    · rw [same, Function.update_self, number, game?_withRoom live number]
      rfl
    · rw [Function.update_of_ne same, find_withRoom, view_game]
      cases found : lobby.game? id with
      | none => rfl
      | some other =>
          have differs : other.id ≠ room.game.id := (game?_eq_some found).2 ▸ same
          rw [Option.map_some, if_neg differs, Option.map_some, Option.map_some,
            summary_names (Game.ownerName_agrees other agrees)]

/-- Something happens in a game that does not show. -/
theorem view_withRoom_same {room : Room} (nodup : (lobby.allGames.map (·.id)).Nodup)
    (member : game ∈ lobby.allGames) (resembles : (lobby.room game).Resembles room)
    (same : room.game.summary room.people = game.summary lobby.people) :
    (lobby.withRoom room).view = lobby.view := by
  have number : room.game.id = game.id := resembles.number
  have agrees : Agrees User.badge lobby.people room.people := resembles.agrees
  refine View.ext ?_ (funext fun id => ?_)
  · exact congrArg (fun audience => { id | id ∈ audience }) agrees.audience
  · change ((lobby.withRoom room).game? id).map (·.summary room.people) = lobby.view.game id
    rw [find_withRoom, view_game]
    cases found : lobby.game? id with
    | none => rfl
    | some other =>
        rw [Option.map_some, Option.map_some, Option.map_some]
        split
        · rename_i there
          have itself : other = game := List.inj_on_of_nodup_map nodup
            (List.mem_append_left _ (game?_eq_some found).1) member (there.trans number)
          rw [itself, same]
        · rw [summary_names (Game.ownerName_agrees other agrees)]

/-! ## Playing -/

/-- What happens in a game without being announced does not show. -/
theorem informs_play {step : Step Room α} {kinds : List GameEvent.Kind}
    (tells : Tells kinds step.letters) (hidden : (lobby.withRoom step.state).view = lobby.view) :
    lobby.Informs observer (lobby.play step) := by
  unfold Informs play
  rw [heard_tells tells, View.follow_nil, hidden]

/-- Where nothing happens in a live game, nothing shows. -/
theorem view_unplayed (nodup : (lobby.allGames.map (·.id)).Nodup) (live : game ∈ lobby.games)
    {room : Room} (stays : room = lobby.room game) : (lobby.withRoom room).view = lobby.view := by
  rw [stays]
  exact view_withRoom_same nodup (List.mem_append_left _ live) (.refl _) rfl

/-- Whatever happens in a live game is announced, or does not show. -/
theorem informs_playAndTell {step : Step Room α} {kinds : List GameEvent.Kind}
    {announce : α → Bool} (hears : lobby.Hears observer)
    (nodup : (lobby.allGames.map (·.id)).Nodup) (live : game ∈ lobby.games)
    (tells : Tells kinds step.letters) (resembles : (lobby.room game).Resembles step.state)
    (keeps : ∀ refusal, step.result = .error refusal → step.state = lobby.room game)
    (hidden : ∀ value, step.result = .ok value → announce value = false →
      (lobby.withRoom step.state).view = lobby.view) :
    lobby.Informs observer (lobby.playAndTell step announce) := by
  unfold Informs playAndTell play
  cases done : step.result with
  | error refusal =>
      simp only
      rw [heard_tells tells, View.follow_nil, view_unplayed nodup live (keeps refusal done)]
  | ok value =>
      cases told : announce value with
      | false =>
          simp only [told, Bool.false_eq_true, if_false]
          rw [heard_tells tells, View.follow_nil, hidden value done told]
      | true =>
          have number : step.state.game.id = game.id := resembles.number
          have found := game?_withRoom live number
          have still : (lobby.withRoom step.state).Hears observer :=
            hears.of_audience resembles.agrees.audience
          simp only [told, if_true]
          rw [heard_append, heard_tells tells, List.nil_append, broadcastStatus, number, found]
          simp only
          rw [heard_broadcast still, View.follow_cons, View.follow_nil,
            view_withRoom live resembles]
          rfl

/-- What is announced in any case. -/
theorem informs_announced {step : Step Room α} {kinds : List GameEvent.Kind}
    (hears : lobby.Hears observer) (nodup : (lobby.allGames.map (·.id)).Nodup)
    (live : game ∈ lobby.games) (tells : Tells kinds step.letters)
    (resembles : (lobby.room game).Resembles step.state)
    (keeps : ∀ refusal, step.result = .error refusal → step.state = lobby.room game) :
    lobby.Informs observer (lobby.playAndTell step fun _ => true) :=
  informs_playAndTell hears nodup live tells resembles keeps fun _ _ never =>
    absurd never (by decide)

theorem informs_startGame (hears : lobby.Hears observer)
    (nodup : (lobby.allGames.map (·.id)).Nodup) (id : UserId) :
    lobby.Informs observer (lobby.startGame id) := by
  unfold startGame
  split
  · exact informs_refuse observer lobby _
  · rename_i user game player
    have plays : (lobby.room game).Plays True ((lobby.room game).start id).state :=
      Room.plays_start id
    exact informs_announced hears nodup (player?_eq_ok player) (Room.tells_start _ id)
      (Room.resembles_plays plays) fun _ refused => (Room.start_refused _ id refused).1

theorem informs_ready (hears : lobby.Hears observer) (nodup : (lobby.allGames.map (·.id)).Nodup)
    (id : UserId) : lobby.Informs observer (lobby.ready id) := by
  unfold ready
  split
  · exact informs_refuse observer lobby _
  · rename_i user game player
    have live := player?_eq_ok player
    have plays : (lobby.room game).Plays True ((lobby.room game).ready id).state :=
      Room.plays_ready fun _ => trivial
    refine informs_playAndTell hears nodup live (Room.tells_ready _ id)
      (Room.resembles_plays plays) (Room.inert_ready _ id).keeps fun value done early => ?_
    exact view_withRoom_same nodup (List.mem_append_left _ live) (Room.resembles_plays plays)
      (summary_keeps plays.keeps (Room.status_ready (early ▸ done))
        (plays.agrees User.lasting_badge.offSeat))

theorem informs_dropGame (hears : lobby.Hears observer)
    (nodup : (lobby.allGames.map (·.id)).Nodup) (id : UserId) :
    lobby.Informs observer (lobby.dropGame id) := by
  unfold dropGame
  split
  · exact informs_refuse observer lobby _
  · rename_i user game player
    have live := player?_eq_ok player
    have plays : (lobby.room game).Plays True ((lobby.room game).drop id).state :=
      Room.plays_drop id
    refine informs_playAndTell hears nodup live (Room.tells_drop _ id)
      (Room.resembles_plays plays) (Room.inert_drop _ id).keeps fun value done others => ?_
    exact view_withRoom_same nodup (List.mem_append_left _ live) (Room.resembles_plays plays)
      (summary_keeps plays.keeps (Room.status_drop (others ▸ done))
        (plays.agrees User.lasting_badge.offSeat))

theorem informs_joinGame (hears : lobby.Hears observer)
    (nodup : (lobby.allGames.map (·.id)).Nodup) (id : UserId) (target : GameId) :
    lobby.Informs observer (lobby.joinGame id target) := by
  unfold joinGame
  split
  · exact informs_refuse observer lobby _
  · split
    · exact informs_refuse observer lobby _
    · split
      · exact informs_refuse observer lobby _
      · rename_i game live
        exact informs_announced hears nodup (game?_eq_some live).1 (Room.tells_join _ id)
          (Room.resembles_join _ id) (Room.inert_join _ id).keeps

theorem informs_gameChat (nodup : (lobby.allGames.map (·.id)).Nodup) (id : UserId)
    (message : String) : lobby.Informs observer (lobby.gameChat id message) := by
  unfold gameChat
  split
  · exact informs_refuse observer lobby _
  · rename_i user game player
    have live := player?_eq_ok player
    have stays : ((lobby.room game).chat id message).state = lobby.room game := by
      unfold Room.chat
      split
      · rfl
      · rfl
    exact informs_play (Room.tells_chat _ id message) (view_unplayed nodup live stays)

theorem informs_chat (hears : lobby.Hears observer) (id : UserId) (message : String) :
    lobby.Informs observer (lobby.chat id message) := by
  unfold chat
  split
  · exact informs_refuse observer lobby _
  · split
    · exact informs_refuse observer lobby _
    · exact congrArg lobby.view.follow (heard_broadcast hears _)

/-! ## Leaving -/

/-- Other games are found as before where one is left out. -/
theorem find?_others (games : List Game) {left id : GameId} (other : id ≠ left) :
    (games.filter (·.id ≠ left)).find? (·.id = id) = games.find? (·.id = id) := by
  rw [List.find?_filter]
  congr 1
  funext game
  by_cases number : game.id = id
  · simp [number, other]
  · simp [number]

/-- A game that is closed is gone. -/
theorem view_shut (lobby : Lobby) (game : Game) (closed : List Game) :
    (lobby.shut game closed).view = lobby.view.learn (.gameClosed game.id) := by
  have agrees : Agrees User.badge lobby.people (lobby.shut game closed).people :=
    .dismissed User.lasting_badge _ _
  refine View.ext ?_ (funext fun id => ?_)
  · exact congrArg (fun audience => { id | id ∈ audience }) agrees.audience
  · change ((lobby.games.filter (·.id ≠ game.id)).find? (·.id = id)).map _ =
      Function.update lobby.view.game game.id none id
    by_cases same : id = game.id
    · rw [same, Function.update_self, Option.map_eq_none_iff, List.find?_eq_none]
      intro other member
      simpa using (List.mem_filter.mp member).2
    · rw [Function.update_of_ne same, view_game, find?_others lobby.games same, game?]
      cases lobby.games.find? (·.id = id) with
      | none => rfl
      | some other => exact congrArg some (summary_names (Game.ownerName_agrees other agrees))

/-- Closing a game is announced. -/
theorem letters_closeGame (lobby : Lobby) (owner : id = game.owner) :
    (lobby.closeGame game id).letters =
      (lobby.closeGame game id).state.broadcast (.gameClosed game.id) := by
  rcases (lobby.room game).close_cases id with ⟨-, stranger⟩ | ⟨silent, -, -, -, -, makes⟩
  · exact absurd owner stranger
  · obtain ⟨value, done⟩ := makes.result
    unfold closeGame
    simp only [done]
    rfl

/-- From the end of a game the observer also learns what happened in it just
before. -/
theorem follow_closeGame {room : Room} (hears : lobby.Hears observer) (live : game ∈ lobby.games)
    (resembles : (lobby.room game).Resembles room) (owner : id = room.game.owner) :
    lobby.view.follow (heard observer ((lobby.withRoom room).closeGame room.game id).letters) =
      ((lobby.withRoom room).closeGame room.game id).state.view := by
  obtain ⟨closed, -, closes⟩ := closeGame_makes (lobby.withRoom room) owner
  have agrees : Agrees User.badge lobby.people (lobby.withRoom room).people := resembles.agrees
  have still : Hears ((lobby.withRoom room).shut room.game closed) observer :=
    hears.of_audience (agrees.trans (.dismissed User.lasting_badge _ _)).audience
  rw [letters_closeGame (lobby.withRoom room) owner, closes.state, heard_broadcast still,
    View.follow_cons, View.follow_nil, view_shut, view_withRoom live resembles]
  exact (View.learn_closed lobby.view (room.game.summary room.people)).symm

/-- Leaving a game is announced: by how it then stands, or by its end. -/
theorem informs_leave (hears : lobby.Hears observer)
    (nodup : (lobby.allGames.map (·.id)).Nodup) (user : User) :
    lobby.Informs observer (lobby.leave user) := by
  unfold leave
  split
  · exact informs_refuse observer lobby _
  · rename_i game found
    have live := (gameOf?_eq_ok found).2
    have tells := (lobby.room game).tells_quit user.id
    have resembles := (lobby.room game).resembles_quit user.id
    split
    · rename_i owner
      rcases (lobby.room game).quit_cases user.id with ⟨refused, -⟩ | ⟨-, makes⟩
      · obtain ⟨refusal, failed⟩ := refused.result
        simp only [play, failed, Informs]
        rw [heard_tells tells, View.follow_nil, view_unplayed nodup live refused.state]
      · obtain ⟨value, done⟩ := makes.result
        rw [makes.state] at resembles
        obtain ⟨before, keeps, after⟩ := (lobby.room game).left_game user.id
        have itself : user.id = ((lobby.room game).left user.id).game.owner := by
          rw [after]
          exact owner.trans keeps.owner.symm
        simp only [play, done, makes.state, game?_withRoom live resembles.number, Informs,
          Step.after]
        rw [heard_append, heard_tells tells, List.nil_append]
        exact follow_closeGame hears live resembles itself
    · exact informs_announced hears nodup live tells resembles (Room.inert_quit _ user.id).keeps

end Lobby

end Netplay
