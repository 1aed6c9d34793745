/-
Module: Netplay.Proofs.Deeds
Purpose: Every move of a lobby is a row of strokes, each of which touches at most
  one game, by one operation on its room, and tells what that operation tells.
Main exports:
  Room.Deed, Room.perform, Lobby.Stroke, Lobby.Strokes, Venue.Asks,
  Venue.strokes_outcome, Game.Reached, Lobby.Follows, Venue.follows_step,
  Venue.Throughout, Venue.reached_run
-/
import Netplay.Proofs.Chores
import Netplay.Proofs.Refusals

namespace Netplay

/-! ## Operations on a room -/

/-- One operation on a room. -/
inductive Room.Deed where
  | join (user : UserId)
  | start (user : UserId)
  | ready (user : UserId)
  | drop (user : UserId)
  | quit (user : UserId)
  /-- The first user bars the second one. -/
  | bar (user target : UserId)
  | close (user : UserId)
  | chat (user : UserId) (message : String)
  | gap (user : UserId)
  | input (now ticket : Nat) (user : UserId) (data : Bytes)
  /-- A parked merge is taken off the lists and retried. -/
  | retry (now : Nat) (parked : ParkedMerge)

namespace Room

/-- What the operation makes of a room, and what it tells. -/
def perform (room : Room) : Deed → Room × List Letter
  | .join user => ((room.join user).state, (room.join user).letters)
  | .start user => ((room.start user).state, (room.start user).letters)
  | .ready user => ((room.ready user).state, (room.ready user).letters)
  | .drop user => ((room.drop user).state, (room.drop user).letters)
  | .quit user => ((room.quit user).state, (room.quit user).letters)
  | .bar user target => ((room.kick user target).state, (room.kick user target).letters)
  | .close user => ((room.close user).state, (room.close user).letters)
  | .chat user message => ((room.chat user message).state, (room.chat user message).letters)
  | .gap user => room.droppedPacket user
  | .input now ticket user data =>
      ((room.addData now ticket user data).1, (room.addData now ticket user data).2.1)
  | .retry now parked =>
      (((room.unpark parked.merge.ticket).resume now parked).1,
        ((room.unpark parked.merge.ticket).resume now parked).2.1)

/-- The operation can be asked of the room: input comes from a user whose entry
names the game, and only merges in flight are retried. -/
def Deed.Fits (room : Room) : Deed → Prop
  | .input _ _ user _ => (room.people.person user).game = some room.game.id
  | .retry _ parked => parked ∈ room.game.inFlight
  | _ => True

/-- Work on a merge: a message of input is taken in, or a merge is retried. -/
def Deed.IsWork : Deed → Prop
  | .input _ _ _ _ => True
  | .retry _ _ => True
  | _ => False

/-- The message of input that the operation takes in. -/
def Deed.Sends : Deed → UserId → Bytes → Prop
  | .input _ _ user data, speaker, message => speaker = user ∧ message = data
  | _, _, _ => False

/-- All that can become of a room by an operation. -/
inductive Turn (room : Room) : Deed → Room → Prop where
  | rest {deed : Deed} : Turn room deed room
  | join {id : UserId} (new : id ∉ room.game.members) (waiting : room.game.status = .waiting)
      (space : room.game.members.length < room.game.settings.maxPlayers.toNat) :
      Turn room (.join id) (room.joined id)
  | start {id : UserId} (waiting : room.game.status = .waiting)
      (someone : room.game.members ≠ []) (actions : Nat) :
      Turn room (.start id) (room.commence actions)
  /-- A member is ready, and others are not yet. -/
  | mark {id : UserId} {slot : Nat} (gathering : room.game.status = .synchronizing) :
      Turn room (.ready id)
        { room with game := { room.game with queues := room.marked slot } }
  /-- The last member is ready. -/
  | play {id : UserId} {slot : Nat} (gathering : room.game.status = .synchronizing)
      (all : ∀ queue ∈ room.marked slot, queue.synched = true) :
      Turn room (.ready id)
        { room with
          game := { room.game with
            queues := room.marked slot
            status := .playing
            synched := true } }
  | drop {id : UserId} {slot : Nat} (member : id ∈ room.game.members)
      (seat : room.game.slotFor? (room.people.person id) = some slot) :
      Turn room (.drop id) (room.bench id slot)
  | quit {id : UserId} (member : id ∈ room.game.members) : Turn room (.quit id) (room.left id)
  | bar {id target : UserId} (kicked : List UserId) :
      Turn room (.bar id target) { room with game := { room.game with kicked := kicked } }
  | close {id : UserId} {silent : Game} (dims : room.game.Dims silent)
      (off : silent.synched = false) :
      Turn room (.close id)
        ⟨{ silent with members := [] }.endRound, dismissed room.people room.game.members⟩
  | gap {id : UserId} (slot : Nat) :
      Turn room (.gap id) { room with game := room.game.hush slot }
  | work {deed : Deed} {after : Game} {letters : List Letter} (isWork : deed.IsWork)
      (chores : Chores deed.Sends room.people room.game none letters after none) :
      Turn room deed { room with game := after }

section Turn

variable {room after : Room} {deed : Deed} {α : Type} {step : Step Room α}

theorem Turn.of_refused (refused : step.Refused room) : room.Turn deed step.state := by
  rw [refused.state]
  exact .rest

theorem Turn.of_makes (makes : step.Makes after) (turn : room.Turn deed after) :
    room.Turn deed step.state := by
  rw [makes.state]
  exact turn

/-- There is nothing else. -/
theorem turn_perform (fits : deed.Fits room) :
    room.Turn deed (room.perform deed).1 := by
  cases deed with
  | join user =>
      rcases room.join_cases user with ⟨refused, -⟩ | ⟨new, -, waiting, space, makes⟩
      · exact .of_refused refused
      · exact .of_makes makes (.join new waiting space)
  | start user =>
      rcases room.start_cases user with refused | ⟨-, waiting, someone, makes⟩
      · exact .of_refused refused
      · exact .of_makes makes (.start waiting someone _)
  | ready user =>
      rcases room.ready_outcomes user with
        refused | ⟨slot, -, gathering, -, ⟨all, makes⟩ | ⟨-, makes⟩⟩
      · exact .of_refused refused
      · exact .of_makes makes (.play gathering all)
      · exact .of_makes makes (.mark gathering)
  | drop user =>
      rcases room.drop_cases user with ⟨refused, -⟩ | ⟨slot, member, -, seat, makes⟩
      · exact .of_refused refused
      · exact .of_makes makes (.drop member seat)
  | quit user =>
      rcases room.quit_cases user with ⟨refused, -⟩ | ⟨member, makes⟩
      · exact .of_refused refused
      · exact .of_makes makes (.quit member)
  | bar user target =>
      rcases room.kick_cases user target with refused | ⟨kicked, -, -, -, -, makes⟩
      · exact .of_refused refused
      · exact .of_makes makes (.bar kicked)
  | close user =>
      rcases room.close_cases user with ⟨refused, -⟩ | ⟨silent, -, dims, -, off, makes⟩
      · exact .of_refused refused
      · exact .of_makes makes (.close dims off)
  | chat user message =>
      rw [perform, chat]
      split
      · exact .rest
      · exact .rest
  | gap user =>
      rcases room.droppedPacket_cases user with same | ⟨slot, hushed⟩
      · rw [perform, same]
        exact .rest
      · rw [perform, hushed]
        exact .gap slot
  | input now ticket user data =>
      have people := (room.works_addData now ticket user data).people
      have chores := room.chores_addData (Deed.Sends (.input now ticket user data)) now ticket
        ⟨rfl, rfl⟩
      have worked : room.Turn (.input now ticket user data) _ := .work trivial chores
      rwa [← people] at worked
  | retry now parked =>
      have people := (room.works_retry now parked.merge.ticket parked).people
      have chores := room.chores_retry (Deed.Sends (.retry now parked)) fits now
      have worked : room.Turn (.retry now parked) _ := .work trivial chores
      rwa [← people] at worked

/-- No operation gives a game another number. -/
theorem Turn.number (turn : room.Turn deed after) : after.game.id = room.game.id := by
  have bench (id : UserId) (slot : Nat) : (room.bench id slot).game.id = room.game.id := by
    unfold Room.bench
    split
    · exact (Game.Keeps.hush room.game slot).id
    · exact ((Game.Keeps.hush room.game slot).trans (.endRound _)).id
  cases turn with
  | rest => rfl
  | join new waiting space => rfl
  | start waiting someone actions => exact (Game.Keeps.endRound room.game).id
  | mark gathering => rfl
  | play gathering all => rfl
  | drop member seat => exact bench _ _
  | @quit id member =>
      rcases room.left_cases id with goes | ⟨slot, -, goes⟩
      · rw [goes]
        rfl
      · rw [goes]
        exact bench id slot
  | bar kicked => rfl
  | @close id silent dims off =>
      exact (Game.Keeps.endRound { silent with members := [] }).id.trans dims.id
  | gap slot => exact (Game.Keeps.hush room.game slot).id
  | work isWork chores => exact (Game.Keeps.of_works chores.works).id

end Turn

/-- Barring tells nobody anything. -/
theorem letters_kick (room : Room) (id target : UserId) :
    (room.kick id target).letters = [] := by
  unfold kick
  simp only
  split
  · rfl
  · split
    · rfl
    · split
      · rfl
      · rfl

end Room

/-- A game that comes about by operations, in any order and whoever is around at
each of them. -/
inductive Game.Reached : Game → Prop where
  | create (number : GameId) (name : String) (owner : User) (settings : GameSettings) :
      Reached (Game.create number name owner settings)
  | perform {room : Room} {deed : Room.Deed} (before : Reached room.game)
      (fits : deed.Fits room) : Reached (room.perform deed).1.game

/-- A game that was just created. -/
def Game.Blank (game : Game) : Prop :=
  ∃ number name owner settings, game = Game.create number name owner settings

/-! ## Strokes -/

namespace Lobby

open Room (Deed)

/-- A letter that is not about a game. -/
def Aside (letter : Letter) : Prop := ∀ game event, letter.event ≠ .game game event

/-- What a lobby does in one stroke, with what it tells.  Operations on rooms are
limited to those that may be asked, and games are created only where that is the
aim. -/
inductive Stroke (may : Deed → Prop) (founds : Prop) (lobby : Lobby) :
    List Letter → Lobby → Prop where
  /-- No game changes, and what is told is not about a game. -/
  | aside {letters : List Letter} {after : Lobby} (games : after.games = lobby.games)
      (closed : after.closed = lobby.closed) (told : ∀ letter ∈ letters, Aside letter) :
      Stroke may founds lobby letters after
  /-- Something happens in a game, live or closed. -/
  | perform {game : Game} {deed : Deed} (member : game ∈ lobby.allGames)
      (asked : may deed) (fits : deed.Fits (lobby.room game)) :
      Stroke may founds lobby ((lobby.room game).perform deed).2
        (lobby.withRoom ((lobby.room game).perform deed).1)
  /-- A live game is closed, and kept as long as a merge is in flight. -/
  | close {game : Game} {user : UserId} {after : Lobby} (live : game ∈ lobby.games)
      (asked : may (.close user)) (games : after.games = lobby.games.filter (·.id ≠ game.id))
      (closed : after.closed = lobby.closed ∨
        ((lobby.room game).close user).state.game.inFlight ≠ [] ∧
          after.closed = lobby.closed ++ [((lobby.room game).close user).state.game]) :
      Stroke may founds lobby [] after
  /-- A game without members is created. -/
  | found (user : User) (name : String) (aim : founds) :
      Stroke may founds lobby [] (lobby.withFounded user name)

/-- No stroke gives two games one number. -/
theorem Stroke.nodup {may : Deed → Prop} {founds : Prop} {lobby after : Lobby}
    {letters : List Letter} (stroke : Stroke may founds lobby letters after)
    (nodup : (lobby.allGames.map (·.id)).Nodup) : (after.allGames.map (·.id)).Nodup := by
  cases stroke with
  | aside games closed told => rwa [allGames, games, closed]
  | perform member asked fits => exact (Retains.withRoom lobby _).nodup nodup
  | @close game user _ live asked games closed =>
      have number : ((lobby.room game).close user).state.game.id = game.id :=
        (@Room.turn_perform (lobby.room game) (.close user) trivial).number
      have shut := (Retains.shut live (closed.imp_right fun kept => ⟨_, number, kept⟩)).nodup nodup
      rwa [allGames, games]
  | found user name aim => exact nodup_withFounded user name nodup

/-- A row of strokes, with what they tell. -/
inductive Strokes (may : Deed → Prop) (founds : Prop) :
    Lobby → List Letter → Lobby → Prop where
  | done (lobby : Lobby) : Strokes may founds lobby [] lobby
  | more {lobby middle after : Lobby} {letters rest : List Letter}
      (first : Stroke may founds lobby letters middle)
      (others : Strokes may founds middle rest after) :
      Strokes may founds lobby (letters ++ rest) after

namespace Strokes

variable {may : Deed → Prop} {founds : Prop} {lobby middle after : Lobby}
  {letters rest : List Letter}

theorem one (stroke : Stroke may founds lobby letters after) :
    Strokes may founds lobby letters after := by
  have row : Strokes may founds lobby (letters ++ []) after := .more stroke (.done after)
  rwa [List.append_nil] at row

theorem append (first : Strokes may founds lobby letters middle)
    (second : Strokes may founds middle rest after) :
    Strokes may founds lobby (letters ++ rest) after := by
  induction first with
  | done => exact second
  | more stroke _ inductionHypothesis =>
      rw [List.append_assoc]
      exact .more stroke (inductionHypothesis second)

/-- Things are told that are not about a game. -/
theorem tell (lobby : Lobby) (told : ∀ letter ∈ letters, Aside letter) :
    Strokes may founds lobby letters lobby :=
  one (.aside rfl rfl told)

/-- Users change, and no game does. -/
theorem people (lobby : Lobby) (people : Roster) :
    Strokes may founds lobby [] { lobby with people := people } :=
  one (.aside rfl rfl fun _ member => by cases member)

/-- Letters that come before those of a step. -/
theorem before {α : Type} {step : Step Lobby α} (first : Strokes may founds lobby letters middle)
    (row : Strokes may founds middle step.letters step.state) :
    Strokes may founds lobby (step.after letters).letters (step.after letters).state :=
  first.append row

end Strokes

theorem aside_toAll (recipients : List UserId) (event : ServerEvent) :
    ∀ letter ∈ Letter.toAll recipients (.server event), Aside letter := by
  intro letter member game gameEvent about
  obtain ⟨recipient, -, rfl⟩ := List.mem_map.mp member
  cases about

theorem aside_broadcast (lobby : Lobby) (event : ServerEvent) :
    ∀ letter ∈ lobby.broadcast event, Aside letter :=
  aside_toAll _ event

theorem aside_broadcastStatus (lobby : Lobby) (number : GameId) :
    ∀ letter ∈ lobby.broadcastStatus number, Aside letter := by
  unfold broadcastStatus
  split
  · intro letter member
    cases member
  · exact aside_toAll _ _

/-! ## The strokes of each operation -/

section Operations

variable {may : Deed → Prop} {founds : Prop} {lobby : Lobby} {game : Game} {deed : Deed}
  {α : Type}

/-- An operation on a game is one stroke. -/
theorem strokes_play {step : Step Room α} (member : game ∈ lobby.allGames) (asked : may deed)
    (fits : deed.Fits (lobby.room game))
    (performs : (lobby.room game).perform deed = (step.state, step.letters)) :
    Strokes may founds lobby (lobby.play step).letters (lobby.play step).state := by
  have performed : Stroke may founds lobby _ _ := .perform member asked fits
  rw [performs] at performed
  exact .one performed

/-- Telling everyone about it is another. -/
theorem strokes_playAndTell {step : Step Room α} {announce : α → Bool}
    (member : game ∈ lobby.allGames) (asked : may deed) (fits : deed.Fits (lobby.room game))
    (performs : (lobby.room game).perform deed = (step.state, step.letters)) :
    Strokes may founds lobby (lobby.playAndTell step announce).letters
      (lobby.playAndTell step announce).state := by
  have played : Strokes may founds lobby _ _ := strokes_play member asked fits performs
  unfold playAndTell
  simp only
  split
  · exact played
  · split
    · exact played.append (.tell _ (aside_broadcastStatus _ _))
    · exact played

/-- What is asked of the room of a live game. -/
theorem mem_allGames_of_live (live : game ∈ lobby.games) : game ∈ lobby.allGames :=
  List.mem_append_left _ live

theorem strokes_joinGame (id : UserId) (target : GameId) (asked : may (.join id)) :
    Strokes may founds lobby (lobby.joinGame id target).letters
      (lobby.joinGame id target).state := by
  unfold joinGame
  split
  · exact .done lobby
  · split
    · exact .done lobby
    · split
      · exact .done lobby
      · rename_i game found
        exact strokes_playAndTell (mem_allGames_of_live (game?_eq_some found).1) asked trivial rfl

theorem strokes_startGame (id : UserId) (asked : may (.start id)) :
    Strokes may founds lobby (lobby.startGame id).letters (lobby.startGame id).state := by
  unfold startGame
  split
  · exact .done lobby
  · rename_i user game player
    exact strokes_playAndTell (mem_allGames_of_live (player?_eq_ok player)) asked trivial rfl

theorem strokes_ready (id : UserId) (asked : may (.ready id)) :
    Strokes may founds lobby (lobby.ready id).letters (lobby.ready id).state := by
  unfold ready
  split
  · exact .done lobby
  · rename_i user game player
    exact strokes_playAndTell (mem_allGames_of_live (player?_eq_ok player)) asked trivial rfl

theorem strokes_dropGame (id : UserId) (asked : may (.drop id)) :
    Strokes may founds lobby (lobby.dropGame id).letters (lobby.dropGame id).state := by
  unfold dropGame
  split
  · exact .done lobby
  · rename_i user game player
    exact strokes_playAndTell (mem_allGames_of_live (player?_eq_ok player)) asked trivial rfl

theorem strokes_gameChat (id : UserId) (message : String) (asked : may (.chat id message)) :
    Strokes may founds lobby (lobby.gameChat id message).letters
      (lobby.gameChat id message).state := by
  unfold gameChat
  split
  · exact .done lobby
  · rename_i user game player
    exact strokes_play (mem_allGames_of_live (player?_eq_ok player)) asked trivial rfl

theorem strokes_droppedPacket (id : UserId) (asked : may (.gap id)) :
    Strokes may founds lobby (lobby.droppedPacket id).2 (lobby.droppedPacket id).1 := by
  unfold droppedPacket
  split
  · exact .done lobby
  · split
    · exact .done lobby
    · rename_i game found
      exact .one (.perform (mem_allGames_of_live (gameOf?_eq_ok found).2) asked trivial)

/-- The user and the game that are found under a number name each other. -/
theorem person_of_player? {id : UserId} {user : User}
    (found : lobby.player? id = .ok (user, game)) :
    lobby.people.person id = user ∧ user.game = some game.id := by
  unfold player? at found
  split at found
  · cases found
  · rename_i person loggedIn
    split at found
    · cases found
    · rename_i live place
      cases found
      refine ⟨?_, (gameOf?_eq_ok place).1⟩
      unfold loggedIn? at loggedIn
      split at loggedIn
      · cases loggedIn
      · rename_i registered known
        split at loggedIn
        · cases loggedIn
          rw [Roster.person, Roster.find?, known]
          rfl
        · cases loggedIn

/-- The user is registered under the number. -/
theorem registered_of_player? {id : UserId} {user : User}
    (found : lobby.player? id = .ok (user, game)) :
    user ∈ lobby.people.present ∧ user.id = id := by
  unfold player? at found
  split at found
  · cases found
  · rename_i person loggedIn
    split at found
    · cases found
    · cases found
      obtain ⟨registered, number, -⟩ := loggedIn?_eq_ok loggedIn
      exact ⟨registered, number⟩

theorem strokes_addGameData (now ticket : Nat) (id : UserId) (data : Bytes)
    (asked : may (.input now ticket id data)) :
    Strokes may founds lobby (lobby.addGameData now ticket id data).2.1
      (lobby.addGameData now ticket id data).1 := by
  unfold addGameData
  split
  · exact .done lobby
  · rename_i user game player
    obtain ⟨person, place⟩ := person_of_player? player
    have fits : Deed.Fits (lobby.room game) (.input now ticket id data) :=
      (congrArg User.game person).trans place
    exact .one (.perform (mem_allGames_of_live (player?_eq_ok player)) asked fits)

/-- Closing a game takes it off the list and tells everyone. -/
theorem strokes_closeGame (live : game ∈ lobby.games) (owner : UserId)
    (asked : may (.close owner)) :
    Strokes may founds lobby (lobby.closeGame game owner).letters
      (lobby.closeGame game owner).state := by
  unfold closeGame
  simp only
  split
  · exact .one (.perform (mem_allGames_of_live live) asked trivial)
  · refine .append (.one (.close live asked rfl ?_)) (.tell _ (aside_toAll _ _))
    split
    · exact .inl rfl
    · rename_i busy
      exact .inr ⟨busy, rfl⟩

/-- A deed of somebody's parting. -/
def Parting (deed : Deed) : Prop := ∃ user, deed = .quit user ∨ deed = .close user

/-- Leaving a game is to quit it and, for its owner, to close it. -/
theorem strokes_leave (lobby : Lobby) (user : User) (asked : ∀ deed, Parting deed → may deed) :
    Strokes may founds lobby (lobby.leave user).letters (lobby.leave user).state := by
  have quits : may (.quit user.id) := asked _ ⟨user.id, .inl rfl⟩
  unfold leave
  split
  · exact .done lobby
  · rename_i game found
    have member : game ∈ lobby.allGames := mem_allGames_of_live (gameOf?_eq_ok found).2
    split
    · have played : Strokes may founds lobby _ _ := strokes_play member quits trivial rfl
      simp only
      split
      · exact played
      · split
        · exact played
        · rename_i remaining still
          exact played.append (strokes_closeGame (game?_eq_some still).1 user.id
            (asked _ ⟨user.id, .inr rfl⟩))
    · exact strokes_playAndTell member quits trivial rfl

theorem strokes_quitGame (lobby : Lobby) (id : UserId) (asked : ∀ deed, Parting deed → may deed) :
    Strokes may founds lobby (lobby.quitGame id).letters (lobby.quitGame id).state := by
  unfold quitGame
  split
  · exact .done lobby
  · exact strokes_leave lobby _ asked

/-- To leave the relay is to leave one's game, too. -/
theorem strokes_quit (lobby : Lobby) (id : UserId) (message : String)
    (asked : ∀ deed, Parting deed → may deed) :
    Strokes may founds lobby (lobby.quit id message).letters (lobby.quit id message).state := by
  unfold quit
  split
  · exact .done lobby
  · rename_i user known
    have parted : Strokes may founds { lobby with people := lobby.people.depart user }
        (if user.game.isSome then
          (({ lobby with people := lobby.people.depart user }.leave user).state,
            ({ lobby with people := lobby.people.depart user }.leave user).letters)
        else ({ lobby with people := lobby.people.depart user }, [])).2
        (if user.game.isSome then
          (({ lobby with people := lobby.people.depart user }.leave user).state,
            ({ lobby with people := lobby.people.depart user }.leave user).letters)
        else ({ lobby with people := lobby.people.depart user }, [])).1 := by
      split
      · exact strokes_leave _ user asked
      · exact .done _
    refine ((Strokes.people lobby _).append parted).append (.tell _ fun letter member => ?_)
    rcases List.mem_cons.mp member with rfl | told
    · intro game event about
      cases about
    · split at told
      · exact aside_toAll _ _ letter told
      · cases told

theorem strokes_quitAll (lobby : Lobby) (message : String) (ids : List UserId)
    (asked : ∀ deed, Parting deed → may deed) :
    Strokes may founds lobby (lobby.quitAll message ids).2 (lobby.quitAll message ids).1 := by
  induction ids generalizing lobby with
  | nil => exact .done lobby
  | cons first rest inductionHypothesis =>
      exact (strokes_quit lobby first message asked).append (inductionHypothesis _)

/-- A login makes earlier sessions of the user part. -/
theorem strokes_login (lobby : Lobby) (id : UserId) (asked : ∀ deed, Parting deed → may deed) :
    Strokes may founds lobby (lobby.login id).letters (lobby.login id).state := by
  unfold login
  split
  · exact .done lobby
  · split
    · exact .done lobby
    · split
      · exact .done lobby
      · split
        · exact .done lobby
        · rename_i user _ _ _ _ _ _
          refine (strokes_quitAll lobby "Reconnected" (lobby.stale user) asked).append
            (.one (.aside rfl rfl fun letter member => ?_))
          rcases List.mem_cons.mp member with rfl | told
          · intro game event about
            cases about
          · rcases List.mem_append.mp told with joined | welcomed
            · exact aside_toAll _ _ letter joined
            · obtain ⟨message, -, rfl⟩ := List.mem_map.mp welcomed
              intro game event about
              cases about

/-- To kick a member is to bar it and make it part. -/
theorem strokes_kick (lobby : Lobby) (id target : UserId) (asked : may (.bar id target))
    (parts : ∀ deed, Parting deed → may deed) :
    Strokes may founds lobby (lobby.kick id target).letters (lobby.kick id target).state := by
  unfold kick
  split
  · exact .done lobby
  · rename_i user game player
    have barred : Strokes may founds lobby (lobby.play ((lobby.room game).kick id target)).letters
        (lobby.play ((lobby.room game).kick id target)).state :=
      strokes_play (mem_allGames_of_live (player?_eq_ok player)) asked trivial rfl
    have silent : (lobby.play ((lobby.room game).kick id target)).letters = [] :=
      Room.letters_kick _ id target
    simp only
    split
    · exact barred
    · rw [silent] at barred
      refine (barred.append (.tell _ fun letter member => ?_)).before (strokes_leave _ _ parts)
      rw [List.mem_singleton.mp member]
      intro game event about
      cases about

/-- To create a game is to found it and join it. -/
theorem strokes_createGame (lobby : Lobby) (id : UserId) (name : String)
    (asked : may (.join id)) (aim : founds) :
    Strokes may founds lobby (lobby.createGame id name).letters
      (lobby.createGame id name).state := by
  unfold createGame
  split
  · exact .done lobby
  · rename_i user found
    split
    · exact .done lobby
    · split
      · exact .done lobby
      · have itself : lobby.founded user name ∈ (lobby.withFounded user name).allGames :=
          mem_allGames_of_live (List.mem_append_right _ List.mem_cons_self)
        have told := (lobby.withFounded user name).aside_broadcast
          (.gameCreated ((lobby.founded user name).summary (lobby.withFounded user name).people))
        have founded : Strokes may founds lobby _ (lobby.withFounded user name) :=
          .more (.found user name aim) (.tell _ told)
        exact founded.before (strokes_playAndTell itself asked trivial rfl)

end Operations

/-! ## What strokes make of games -/

/-- Every game of the second lobby has come, by this relation, from one of the
first lobby or, where games are created, from one that was just created. -/
def Follows (leads : Game → Game → Prop) (founds : Prop) (lobby after : Lobby) : Prop :=
  ∀ later ∈ after.allGames, ∃ game,
    (game ∈ lobby.allGames ∨ founds ∧ game.Blank) ∧ leads game later

section Follows

variable {may : Deed → Prop} {founds : Prop} {leads : Game → Game → Prop}
  {lobby middle after : Lobby}
  {letters : List Letter}

/-- The games after something happened in one of them. -/
theorem mem_allGames_withRoom {game : Game} {room : Room}
    (member : game ∈ (lobby.withRoom room).allGames) :
    game = room.game ∨ game ∈ lobby.allGames := by
  have place {games : List Game} (among : game ∈ games.map fun other =>
      if other.id = room.game.id then room.game else other) : game = room.game ∨ game ∈ games := by
    obtain ⟨before, old, rfl⟩ := List.mem_map.mp among
    split
    · exact .inl rfl
    · exact .inr old
  rcases List.mem_append.mp member with live | closed
  · exact (place live).imp_right (List.mem_append_left _)
  · exact (place (List.mem_filter.mp closed).1).imp_right (List.mem_append_right _)

theorem Follows.trans (trans : ∀ {one two three}, leads one two → leads two three → leads one three)
    (first : Follows leads founds lobby middle) (second : Follows leads founds middle after) :
    Follows leads founds lobby after := by
  intro later member
  obtain ⟨game, old | blank, reached⟩ := second later member
  · obtain ⟨source, place, led⟩ := first game old
    exact ⟨source, place, trans led reached⟩
  · exact ⟨game, .inr blank, reached⟩

/-- What every operation does to the game of its room, a stroke does to games. -/
theorem Stroke.follows (refl : ∀ game, leads game game)
    (each : ∀ (room : Room) (deed : Deed), may deed → deed.Fits room →
      leads room.game (room.perform deed).1.game)
    (stroke : Stroke may founds lobby letters after) : Follows leads founds lobby after := by
  intro later member
  have stays (old : later ∈ lobby.allGames) :
      ∃ game, (game ∈ lobby.allGames ∨ founds ∧ game.Blank) ∧ leads game later :=
    ⟨later, .inl old, refl later⟩
  cases stroke with
  | aside games closed told =>
      rw [allGames, games, closed] at member
      exact stays member
  | @perform game deed old asked fits =>
      rcases mem_allGames_withRoom member with rfl | still
      · exact ⟨game, .inl old, each (lobby.room game) deed asked fits⟩
      · exact stays still
  | @close game user _ live asked games closed =>
      rw [allGames, games] at member
      rcases List.mem_append.mp member with other | shut
      · exact stays (List.mem_append_left _ (List.mem_filter.mp other).1)
      · rcases closed with same | ⟨-, kept⟩
        · rw [same] at shut
          exact stays (List.mem_append_right _ shut)
        · rw [kept] at shut
          rcases List.mem_append.mp shut with earlier | last
          · exact stays (List.mem_append_right _ earlier)
          · rw [List.mem_singleton.mp last]
            exact ⟨game, .inl (mem_allGames_of_live live),
              each (lobby.room game) (.close user) asked trivial⟩
  | found user name aim =>
      rcases List.mem_append.mp member with live | closed
      · rcases List.mem_append.mp live with other | new
        · exact stays (List.mem_append_left _ (List.mem_filter.mp other).1)
        · rw [List.mem_singleton.mp new]
          exact ⟨_, .inr ⟨aim, _, _, _, _, rfl⟩, refl _⟩
      · exact stays (List.mem_append_right _ (List.mem_filter.mp closed).1)

theorem Strokes.follows (refl : ∀ game, leads game game)
    (trans : ∀ {one two three}, leads one two → leads two three → leads one three)
    (each : ∀ (room : Room) (deed : Deed), may deed → deed.Fits room →
      leads room.game (room.perform deed).1.game)
    (row : Strokes may founds lobby letters after) : Follows leads founds lobby after := by
  induction row with
  | done lobby => exact fun game old => ⟨game, .inl old, refl game⟩
  | more stroke _ inductionHypothesis =>
      exact (stroke.follows refl each).trans trans inductionHypothesis

end Follows

end Lobby

/-! ## The strokes of each move -/

namespace Venue

variable {venue : Venue}

/-- The operations on rooms that a move consists of. -/
def Asks (venue : Venue) : Move → Room.Deed → Prop
  | .create user _, deed => deed = .join user
  | .join user _, deed => deed = .join user
  | .start user, deed => deed = .start user
  | .ready user, deed => deed = .ready user
  | .drop user, deed => deed = .drop user
  | .kick user target, deed => deed = .bar user target ∨ Lobby.Parting deed
  | .leave _, deed => Lobby.Parting deed
  | .quit _ _, deed => Lobby.Parting deed
  | .login _, deed => Lobby.Parting deed
  | .gameChat user message, deed => deed = .chat user message
  | .gap user, deed => deed = .gap user
  | .input user data, deed => deed = .input venue.now venue.nextTicket user data
  | .retry _ ticket, deed =>
      ∃ parked, parked.merge.ticket = ticket ∧ deed = .retry venue.now parked
  | _, _ => False

/-- Every move is a row of strokes that consist of such operations. -/
theorem strokes_outcome (venue : Venue) (move : Move) :
    Lobby.Strokes (venue.Asks move) move.Creates venue.lobby (venue.outcome move).letters
      (venue.outcome move).state := by
  cases move with
  | connect address protocol =>
      rw [outcome, Lobby.connect]
      split
      · exact .done _
      · split
        · exact .done _
        · exact .one (.aside rfl rfl fun _ member => by cases member)
  | introduce user name emulator connectionType => exact .people _ _
  | measure user ping => exact .people _ _
  | login user => exact Lobby.strokes_login _ user fun _ parting => parting
  | quit user message => exact Lobby.strokes_quit _ user message fun _ parting => parting
  | chat user message =>
      rw [outcome, Lobby.chat]
      split
      · exact .done _
      · split
        · exact .done _
        · exact .tell _ (Lobby.aside_broadcast _ _)
  | create user name => exact Lobby.strokes_createGame _ user name rfl trivial
  | join user game => exact Lobby.strokes_joinGame user game rfl
  | leave user => exact Lobby.strokes_quitGame _ user fun _ parting => parting
  | start user => exact Lobby.strokes_startGame user rfl
  | ready user => exact Lobby.strokes_ready user rfl
  | drop user => exact Lobby.strokes_dropGame user rfl
  | kick user target =>
      exact Lobby.strokes_kick _ user target (.inl rfl) fun _ parting => .inr parting
  | gameChat user message => exact Lobby.strokes_gameChat user message rfl
  | gap user => exact Lobby.strokes_droppedPacket user rfl
  | input user data => exact Lobby.strokes_addGameData _ _ user data rfl
  | retry number ticket =>
      rw [outcome, retried]
      split
      · exact .done _
      · rename_i game found
        split
        · exact .done _
        · rename_i parked waits
          split
          · have ticket : parked.merge.ticket = ticket := by
              simpa using List.find?_some waits
            subst ticket
            have retries : venue.Asks (.retry number parked.merge.ticket)
                (.retry venue.now parked) := ⟨parked, rfl, rfl⟩
            have fits : Room.Deed.Fits (venue.lobby.room game) (.retry venue.now parked) :=
              List.mem_of_find?_eq_some waits
            exact .one (.perform (List.mem_of_find?_eq_some found) retries fits)
          · exact .done _
  | pass milliseconds => exact .done _

/-- Only who hands in input sends any. -/
theorem sends_of_asks {move : Move} {deed : Room.Deed} (asked : venue.Asks move deed)
    {user : UserId} {data : Bytes} (sends : deed.Sends user data) : move = .input user data := by
  cases move with
  | input sender message =>
      subst asked
      obtain ⟨rfl, rfl⟩ := sends
      rfl
  | login _ | quit _ _ | leave _ =>
      obtain ⟨_, rfl | rfl⟩ := asked
      · cases sends
      · cases sends
  | kick _ _ =>
      obtain rfl | ⟨_, rfl | rfl⟩ := asked
      · cases sends
      · cases sends
      · cases sends
  | retry _ _ =>
      obtain ⟨_, -, rfl⟩ := asked
      cases sends
  | connect _ _ | introduce _ _ _ _ | measure _ _ | chat _ _ | pass _ => cases asked
  | _ =>
      subst asked
      cases sends

/-- Input is taken in by the game that the entry of its sender names, or is refused. -/
theorem input_cases (venue : Venue) (user : UserId) (data : Bytes) :
    (venue.outcome (.input user data)).letters = [] ∧
        (venue.outcome (.input user data)).state = venue.lobby ∨
      ∃ sender ∈ venue.lobby.people.present, sender.id = user ∧
        ∃ game ∈ venue.lobby.allGames, sender.game = some game.id ∧
          (venue.lobby.people.person user).game = some game.id ∧
          (venue.outcome (.input user data)).letters =
            ((venue.lobby.room game).perform (.input venue.now venue.nextTicket user data)).2 ∧
          (venue.outcome (.input user data)).state = venue.lobby.withRoom
            ((venue.lobby.room game).perform (.input venue.now venue.nextTicket user data)).1 := by
  have letters : (venue.outcome (.input user data)).letters =
      (venue.lobby.addGameData venue.now venue.nextTicket user data).2.1 := rfl
  have state : (venue.outcome (.input user data)).state =
      (venue.lobby.addGameData venue.now venue.nextTicket user data).1 := rfl
  rw [letters, state, Lobby.addGameData]
  split
  · exact .inl ⟨rfl, rfl⟩
  · rename_i person game player
    obtain ⟨itself, names⟩ := Lobby.person_of_player? player
    obtain ⟨registered, number⟩ := Lobby.registered_of_player? player
    exact .inr ⟨person, registered, number, game,
      Lobby.mem_allGames_of_live (Lobby.player?_eq_ok player), names,
      (congrArg User.game itself).trans names, rfl, rfl⟩

/-- A merge of the game with the number is retried, or nothing happens. -/
theorem retry_cases (venue : Venue) (number : GameId) (ticket : Nat) :
    (venue.outcome (.retry number ticket)).letters = [] ∧
        (venue.outcome (.retry number ticket)).state = venue.lobby ∨
      ∃ game ∈ venue.lobby.allGames, game.id = number ∧
        ∃ parked ∈ game.inFlight, parked.merge.ticket = ticket ∧
          (venue.outcome (.retry number ticket)).letters =
            ((venue.lobby.room game).perform (.retry venue.now parked)).2 ∧
          (venue.outcome (.retry number ticket)).state = venue.lobby.withRoom
            ((venue.lobby.room game).perform (.retry venue.now parked)).1 := by
  rw [outcome, retried]
  split
  · exact .inl ⟨rfl, rfl⟩
  · rename_i game found
    split
    · exact .inl ⟨rfl, rfl⟩
    · rename_i parked waits
      split
      · have same : parked.merge.ticket = ticket := by simpa using List.find?_some waits
        subst same
        exact .inr ⟨game, List.mem_of_find?_eq_some found, by simpa using List.find?_some found,
          parked, List.mem_of_find?_eq_some waits, rfl, rfl, rfl⟩
      · exact .inl ⟨rfl, rfl⟩

/-- What every operation that a move asks for does to the game of its room, the
move does to the games of the lobby. -/
theorem follows_step (leads : Game → Game → Prop) (refl : ∀ game, leads game game)
    (trans : ∀ {one two three}, leads one two → leads two three → leads one three) {move : Move}
    (each : ∀ (room : Room) (deed : Room.Deed), venue.Asks move deed → deed.Fits room →
      leads room.game (room.perform deed).1.game) :
    venue.lobby.Follows leads move.Creates (venue.step move).lobby := by
  rw [step_lobby]
  exact (venue.strokes_outcome move).follows refl trans each

/-- Two games of one number are one. -/
theorem game_unique {settings : Settings} {created : Nat} {lobby : Lobby} {game other : Game}
    (kept : lobby.Kept settings created) (member : game ∈ lobby.allGames)
    (otherMember : other ∈ lobby.allGames) (number : other.id = game.id) : other = game :=
  List.inj_on_of_nodup_map kept.nodup otherMember member number

/-- It holds before each of the moves and after them. -/
def Throughout (venue : Venue) (holds : Venue → Prop) : List Move → Prop
  | [] => holds venue
  | move :: rest => holds venue ∧ (venue.step move).Throughout holds rest

instance decidableThroughout {holds : Venue → Prop} [DecidablePred holds] :
    (venue : Venue) → (moves : List Move) → Decidable (venue.Throughout holds moves)
  | venue, [] => inferInstanceAs (Decidable (holds venue))
  | venue, move :: rest =>
      have : Decidable ((venue.step move).Throughout holds rest) :=
        decidableThroughout (venue.step move) rest
      inferInstanceAs (Decidable (_ ∧ _))

/-- What holds throughout holds at first. -/
theorem Throughout.first {holds : Venue → Prop} {moves : List Move}
    (throughout : venue.Throughout holds moves) : holds venue := by
  cases moves with
  | nil => exact throughout
  | cons move rest => exact throughout.1

/-- Where every game of a lobby, live or closed, can be reached, so it is after a move. -/
theorem reached_step (reached : ∀ game ∈ venue.lobby.allGames, game.Reached) (move : Move) :
    ∀ game ∈ (venue.step move).lobby.allGames, game.Reached := by
  intro later member
  obtain ⟨game, old | ⟨-, new⟩, keeps⟩ :=
    venue.follows_step (fun game later => game.Reached → later.Reached)
      (fun _ still => still) (fun one two still => two (one still))
      (fun room deed _ fits reached => .perform reached fits) later member
  · exact keeps (reached game old)
  · obtain ⟨number, name, owner, rules, rfl⟩ := new
    exact keeps (.create number name owner rules)

/-- So every game of a lobby can be reached. -/
theorem reached_run (settings : Settings) (moves : List Move) :
    ∀ game ∈ ((opened settings).run moves).lobby.allGames, game.Reached := by
  have run : ∀ venue : Venue, (∀ game ∈ venue.lobby.allGames, game.Reached) →
      ∀ game ∈ (venue.run moves).lobby.allGames, game.Reached := by
    induction moves with
    | nil => exact fun _ before => before
    | cons move rest inductionHypothesis =>
        exact fun venue before => inductionHypothesis (venue.step move) (reached_step before move)
  exact run (opened settings) fun game member => by cases member

/-- Ada, Bo and Cy play together. -/
def trio : List Move :=
  arrival 1 "Ada" ++ arrival 2 "Bo" ++ arrival 3 "Cy" ++
    [.create 1 "trio", .join 2 1, .join 3 1, .start 1, .ready 1, .ready 2, .ready 3]

end Venue

end Netplay
