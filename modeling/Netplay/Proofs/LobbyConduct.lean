/-
Module: Netplay.Proofs.LobbyConduct
Purpose: What the operations of a lobby can do to it, said once as a list of
  effects, and that each operation has no others.
Main exports:
  Lobby.Left, Lobby.Effect, Lobby.Placed, Lobby.effect_quit, Lobby.effect_kick,
  Lobby.createGame_cases, Lobby.Invariant, Venue.Rejoins, Venue.invariant_step
-/
import Netplay.Proofs.Conduct
import Netplay.Proofs.Venue

namespace Netplay

/-! ## Looking up -/

/-- The user found under a number is registered and has that number. -/
theorem Roster.registered?_eq_some {people : Roster} {id : UserId} {user : User}
    (found : people.registered? id = some user) : user ∈ people.present ∧ user.id = id :=
  ⟨List.mem_of_find?_eq_some found, by simpa using List.find?_some found⟩

/-- A number that is found is not zero and not in use. -/
theorem UserId.firstFree_eq_some {used : List UserId} {tries : Nat}
    {start id next : UserId} (found : firstFree used tries start = some (id, next)) :
    id ≠ 0 ∧ id ∉ used := by
  induction tries generalizing start with
  | zero => cases found
  | succ tries inductionHypothesis =>
      unfold firstFree at found
      split at found
      · rename_i free
        cases found
        exact free
      · exact inductionHypothesis found

namespace Lobby

variable {lobby after : Lobby} {id : UserId} {user : User} {game : Game}

theorem loggedIn?_eq_ok (found : lobby.loggedIn? id = .ok user) :
    user ∈ lobby.people.present ∧ user.id = id ∧ user.loggedIn = true := by
  unfold loggedIn? at found
  split at found
  · cases found
  · rename_i person registered
    obtain ⟨present, number⟩ := Roster.registered?_eq_some registered
    split at found
    · rename_i flag
      cases found
      exact ⟨present, number, flag⟩
    · cases found

theorem game?_eq_some {number : GameId} (found : lobby.game? number = some game) :
    game ∈ lobby.games ∧ game.id = number :=
  ⟨List.mem_of_find?_eq_some found, by simpa using List.find?_some found⟩

theorem gameOf?_eq_ok (found : lobby.gameOf? user = .ok game) :
    user.game = some game.id ∧ game ∈ lobby.games := by
  unfold gameOf? at found
  split at found
  · cases found
  · rename_i number place
    split at found
    · cases found
    · rename_i live
      cases found
      obtain ⟨member, rfl⟩ := game?_eq_some live
      exact ⟨place, member⟩

theorem player?_eq_ok (found : lobby.player? id = .ok (user, game)) :
    game ∈ lobby.games := by
  unfold player? at found
  split at found
  · cases found
  · rename_i person loggedIn
    split at found
    · cases found
    · rename_i live
      cases found
      exact (gameOf?_eq_ok live).2

/-! ## Effects -/

/-- Describing a user changes nothing but what clients say and what is measured
of them. -/
structure Describes (change : User → User) : Prop where
  id : ∀ user, (change user).id = user.id
  serial : ∀ user, (change user).serial = user.serial
  loggedIn : ∀ user, (change user).loggedIn = user.loggedIn
  game : ∀ user, (change user).game = user.game
  player : ∀ user, (change user).player = user.player
  status : ∀ user, (change user).status = user.status

/-- The lobby after a game was closed. -/
def shut (lobby : Lobby) (game : Game) (closed : List Game) : Lobby :=
  { lobby with
    people := Room.dismissed lobby.people game.members
    games := lobby.games.filter (·.id ≠ game.id)
    closed := closed }

/-- A member has left a game; when it was the owner, the game is closed. -/
inductive Left (lobby : Lobby) (id : UserId) (game : Game) : Lobby → Prop where
  | stays (guest : id ≠ game.owner) :
      Left lobby id game (lobby.withRoom ((lobby.room game).left id))
  | closes {room : Room} {closed : List Game} (owner : id = game.owner)
      (left : room = (lobby.room game).left id)
      (kept : closed = (lobby.withRoom room).closed ∨
        ∃ last : Game, last.id = game.id ∧ last.inFlight ≠ [] ∧
          closed = (lobby.withRoom room).closed ++ [last]) :
      Left lobby id game ((lobby.withRoom room).shut room.game closed)

/-- What can become of a lobby in one operation that creates no game. -/
inductive Effect (mayRejoin : Prop) (lobby : Lobby) : Lobby → Prop where
  | nothing : Effect mayRejoin lobby lobby
  /-- A user is registered. -/
  | connect {id counter : UserId} (address : Address) (protocol : String)
      (space : lobby.people.present.length < lobby.server.maxUsers) (positive : id ≠ 0)
      (fresh : id ∉ lobby.people.present.map (·.id)) :
      Effect mayRejoin lobby
        { lobby with
          nextUser := counter
          people := lobby.people.register (User.connecting id address protocol) }
  | describe {change : User → User} (id : UserId) (describes : Describes change) :
      Effect mayRejoin lobby { lobby with people := lobby.people.update id change }
  /-- The login of a user, who is in no game, is complete. -/
  | logIn {id : UserId} (absent : ∀ game ∈ lobby.games, id ∉ game.members) :
      Effect mayRejoin lobby { lobby with people := lobby.people.update id (·.logIn) }
  /-- The members of a live game play. -/
  | play {game : Game} {room : Room} (live : game ∈ lobby.games)
      (plays : (lobby.room game).Plays mayRejoin room) :
      Effect mayRejoin lobby (lobby.withRoom room)
  /-- Work goes on on the merges of a game, live or closed. -/
  | work {game : Game} {room : Room} (member : game ∈ lobby.allGames)
      (works : (lobby.room game).Works room) : Effect mayRejoin lobby (lobby.withRoom room)
  /-- A user whose entry names no game joins a live one. -/
  | join {user : User} {game : Game} (registered : user ∈ lobby.people.present)
      (loggedIn : user.loggedIn = true) (free : user.game = none)
      (live : game ∈ lobby.games) (welcome : user.id ∉ game.kicked)
      (waiting : game.status = .waiting)
      (room : game.members.length < game.settings.maxPlayers.toNat) :
      Effect mayRejoin lobby (lobby.withRoom ((lobby.room game).joined user.id))
  | leave {id : UserId} {game : Game} {after : Lobby} (live : game ∈ lobby.games)
      (member : id ∈ game.members) (left : lobby.Left id game after) :
      Effect mayRejoin lobby after
  /-- The owner bars another member, which leaves. -/
  | kick {target : UserId} {game : Game} {kicked : List UserId} {after : Lobby}
      (live : game ∈ lobby.games) (member : target ∈ game.members)
      (guest : target ≠ game.owner)
      (barred : ∀ user, user ∈ kicked ↔ user ∈ game.kicked ∨ user = target)
      (left : (lobby.withRoom { lobby.room game with
          game := { game with kicked := kicked } }).Left target
        { game with kicked := kicked } after) :
      Effect mayRejoin lobby after
  /-- A user that is in no game leaves the relay. -/
  | depart {user : User} (registered : user ∈ lobby.people.present)
      (absent : ∀ game ∈ lobby.games, user.id ∉ game.members) :
      Effect mayRejoin lobby { lobby with people := lobby.people.depart user }
  /-- A user leaves the relay and its game. -/
  | departMember {user : User} {game : Game} {after : Lobby}
      (registered : user ∈ lobby.people.present) (live : game ∈ lobby.games)
      (member : user.id ∈ game.members)
      (left : Left { lobby with people := lobby.people.depart user } user.id game after) :
      Effect mayRejoin lobby after

/-- A user is a member of no live game. -/
def Absent (lobby : Lobby) (id : UserId) : Prop := ∀ game ∈ lobby.games, id ∉ game.members

/-- Every game has a number of its own, and closed games have merges in flight. -/
structure Neat (lobby : Lobby) : Prop where
  nodup : (lobby.allGames.map (·.id)).Nodup
  busy : ∀ game ∈ lobby.closed, game.inFlight ≠ []

/-- Where nothing happens in a game, nothing happens to the lobby. -/
theorem Neat.withRoom_self (neat : lobby.Neat) (known : game ∈ lobby.allGames) :
    lobby.withRoom (lobby.room game) = lobby := by
  have same : ∀ games : List Game, games ⊆ lobby.allGames →
      (games.map fun entry => if entry.id = game.id then game else entry) = games := by
    intro games among
    refine (List.map_congr_left fun entry here => ?_).trans (List.map_id _)
    split
    · rename_i itself
      exact (List.inj_on_of_nodup_map neat.nodup (among here) known itself).symm
    · rfl
  have busy : lobby.closed.filter (·.inFlight ≠ []) = lobby.closed :=
    List.filter_eq_self.mpr fun entry here => decide_eq_true (neat.busy entry here)
  unfold withRoom room
  simp only
  rw [same lobby.games (List.subset_append_left ..),
    same lobby.closed (List.subset_append_right ..), busy]

/-- Live games find their members and are found by them, nobody plays who is not
logged in, and the lists of games are neat. -/
structure Placed (lobby : Lobby) : Prop where
  found : ∀ game ∈ lobby.games, ∀ member ∈ game.members,
    lobby.gameOf? (lobby.people.person member) = .ok game
  here : ∀ user ∈ lobby.people.present, ∀ game ∈ lobby.games, user.id ∈ game.members →
    lobby.gameOf? user = .ok game
  loggedIn : ∀ user ∈ lobby.people.present, user.loggedIn = false → lobby.Absent user.id
  neat : lobby.Neat

/-! ## The effects of each operation -/

section Operations

variable {mayRejoin : Prop}

/-- Telling changes nothing else. -/
theorem playAndTell_eq {α : Type} (lobby : Lobby) (step : Step Room α)
    (announce : α → Bool) :
    (lobby.playAndTell step announce).state = (lobby.play step).state ∧
      (lobby.playAndTell step announce).result = (lobby.play step).result := by
  unfold playAndTell
  simp only
  split
  · exact ⟨rfl, rfl⟩
  · rename_i value done
    split
    · exact ⟨rfl, rfl⟩
    · exact ⟨rfl, rfl⟩

/-- An operation on a game that is refused puts the room back that it was refused
with. -/
theorem play_refused {α : Type} {step : Step Room α} {room : Room} (lobby : Lobby)
    (refused : step.Refused room) : (lobby.play step).Refused (lobby.withRoom room) :=
  ⟨congrArg lobby.withRoom refused.state, refused.result⟩

/-- One that is carried out changes the game. -/
theorem play_makes {α : Type} {step : Step Room α} {room : Room} (lobby : Lobby)
    (makes : step.Makes room) : (lobby.play step).Makes (lobby.withRoom room) :=
  ⟨congrArg lobby.withRoom makes.state, makes.result⟩

theorem effect_playAndTell {α : Type} {step : Step Room α} {announce : α → Bool}
    (live : game ∈ lobby.games) (plays : (lobby.room game).Plays mayRejoin step.state) :
    Effect mayRejoin lobby (lobby.playAndTell step announce).state := by
  rw [(lobby.playAndTell_eq step announce).1]
  exact .play live plays

theorem effect_startGame (lobby : Lobby) (id : UserId) :
    Effect mayRejoin lobby (lobby.startGame id).state := by
  unfold startGame
  split
  · exact .nothing
  · rename_i user game player
    exact effect_playAndTell (player?_eq_ok player) (Room.plays_start id)

theorem effect_ready {id : UserId} (rejoins : ∀ game ∈ lobby.games,
    (lobby.room game).Rejoins id → mayRejoin) :
    Effect mayRejoin lobby (lobby.ready id).state := by
  unfold ready
  split
  · exact .nothing
  · rename_i user game player
    have live := (player?_eq_ok player)
    exact effect_playAndTell live (Room.plays_ready (rejoins game live))

theorem effect_dropGame (lobby : Lobby) (id : UserId) :
    Effect mayRejoin lobby (lobby.dropGame id).state := by
  unfold dropGame
  split
  · exact .nothing
  · rename_i user game player
    exact effect_playAndTell (player?_eq_ok player) (Room.plays_drop id)

theorem effect_gameChat (lobby : Lobby) (id : UserId) (message : String) :
    Effect mayRejoin lobby (lobby.gameChat id message).state := by
  unfold gameChat
  split
  · exact .nothing
  · rename_i user game player
    exact .play (player?_eq_ok player) (Room.plays_chat id message)

theorem effect_droppedPacket (lobby : Lobby) (id : UserId) :
    Effect mayRejoin lobby (lobby.droppedPacket id).1 := by
  unfold droppedPacket
  split
  · exact .nothing
  · split
    · exact .nothing
    · rename_i game place
      exact .play (gameOf?_eq_ok place).2 (Room.plays_droppedPacket id)

theorem effect_addGameData (lobby : Lobby) (now ticket : Nat) (id : UserId)
    (data : Bytes) : Effect mayRejoin lobby (lobby.addGameData now ticket id data).1 := by
  unfold addGameData
  split
  · exact .nothing
  · rename_i user game player
    exact .play (player?_eq_ok player) (Room.plays_addData now ticket id data)

theorem effect_connect (lobby : Lobby) (address : Address) (protocol : String) :
    Effect mayRejoin lobby (lobby.connect address protocol).state := by
  unfold connect
  split
  · exact .nothing
  · rename_i space
    split
    · exact .nothing
    · rename_i id counter found
      obtain ⟨positive, fresh⟩ := UserId.firstFree_eq_some found
      exact .connect address protocol (Nat.lt_of_not_le space) positive fresh

theorem effect_joinGame (lobby : Lobby) (id : UserId) (target : GameId) :
    Effect mayRejoin lobby (lobby.joinGame id target).state := by
  unfold joinGame
  split
  · exact .nothing
  · rename_i user found
    obtain ⟨registered, rfl, loggedIn⟩ := loggedIn?_eq_ok found
    split
    · exact .nothing
    · rename_i free
      split
      · exact .nothing
      · rename_i game live
        simp only
        rw [(playAndTell_eq ..).1]
        rcases (lobby.room game).join_cases user.id with
          ⟨refused, -⟩ | ⟨-, welcome, waiting, room, makes⟩
        · rw [(lobby.play_refused refused).state]
          exact .play (game?_eq_some live).1 .rest
        · rw [(lobby.play_makes makes).state]
          exact .join registered loggedIn (Option.not_isSome_iff_eq_none.mp free)
            (game?_eq_some live).1 welcome waiting room

/-- The owner closes a game. -/
theorem closeGame_makes (lobby : Lobby) (owner : id = game.owner) :
    ∃ closed, (closed = lobby.closed ∨
        ∃ last : Game, last.id = game.id ∧ last.inFlight ≠ [] ∧
          closed = lobby.closed ++ [last]) ∧
      (lobby.closeGame game id).Makes (lobby.shut game closed) := by
  rcases (lobby.room game).close_cases id with
    ⟨-, stranger⟩ | ⟨silent, -, dims, -, -, makes⟩
  · exact absurd owner stranger
  · obtain ⟨value, done⟩ := makes.result
    have closing := makes.state
    have number : ((lobby.room game).close id).state.game.id = game.id := by
      obtain ⟨_, _, _, _, frame⟩ := dims.frame
      obtain ⟨_, _, ends⟩ := Game.endRound_frame { silent with members := [] }
      rw [closing]
      simp only
      rw [ends, frame]
      rfl
    have people : ((lobby.room game).close id).state.people =
        Room.dismissed lobby.people game.members := by
      rw [closing]
      rfl
    unfold closeGame shut
    simp only [done, people]
    by_cases idle : ((lobby.room game).close id).state.game.inFlight = []
    · rw [if_pos idle]
      exact ⟨_, .inl rfl, rfl, _, rfl⟩
    · rw [if_neg idle]
      exact ⟨_, .inr ⟨_, number, idle, rfl⟩, rfl, _, rfl⟩

/-- What is found under a number after something happened in a game. -/
theorem find_withRoom (lobby : Lobby) (room : Room) (id : GameId) :
    (lobby.withRoom room).game? id =
      (lobby.game? id).map fun game => if game.id = room.game.id then room.game else game := by
  have search : (fun other : Game => decide (other.id = id)) ∘
      (fun other => if other.id = room.game.id then room.game else other) =
        fun other => decide (other.id = id) := by
    funext other
    simp only [Function.comp_apply]
    split
    · rename_i same
      rw [same]
    · rfl
  unfold withRoom game?
  simp only
  rw [List.find?_map, search]

/-- The game after something happened in it is found where it was. -/
theorem game?_withRoom {room : Room} (live : game ∈ lobby.games)
    (number : room.game.id = game.id) :
    (lobby.withRoom room).game? game.id = some room.game := by
  have found : (lobby.game? game.id).isSome :=
    List.find?_isSome.mpr ⟨game, live, decide_eq_true rfl⟩
  obtain ⟨other, first⟩ := Option.isSome_iff_exists.mp found
  rw [find_withRoom, first, Option.map_some,
    if_pos ((game?_eq_some first).2.trans number.symm)]

/-- A user finds its game also after something happened in it. -/
theorem gameOf?_withRoom {room : Room} (found : lobby.gameOf? user = .ok game)
    (number : room.game.id = game.id) :
    (lobby.withRoom room).gameOf? user = .ok room.game := by
  obtain ⟨place, live⟩ := gameOf?_eq_ok found
  rw [gameOf?, place]
  simp only
  rw [game?_withRoom live number]

/-- A user leaves the game it is a member of. -/
theorem leave_makes (found : lobby.gameOf? user = .ok game)
    (member : user.id ∈ game.members) :
    ∃ after, lobby.Left user.id game after ∧ (lobby.leave user).Makes after := by
  have live := (gameOf?_eq_ok found).2
  rcases (lobby.room game).quit_cases user.id with ⟨-, absent⟩ | ⟨-, makes⟩
  · exact absurd member absent
  · have makes := lobby.play_makes makes
    obtain ⟨value, done⟩ := makes.result
    unfold leave
    simp only [found]
    split
    · rename_i owner
      obtain ⟨before, keeps, after⟩ := (lobby.room game).left_game user.id
      have number : ((lobby.room game).left user.id).game.id = game.id := by
        rw [after]
        exact keeps.id
      have itself : user.id = ((lobby.room game).left user.id).game.owner := by
        rw [after]
        exact owner.trans keeps.owner.symm
      obtain ⟨closed, kept, closes⟩ :=
        closeGame_makes (lobby.withRoom ((lobby.room game).left user.id)) itself
      simp only [done, makes.state, game?_withRoom live number]
      rw [number] at kept
      exact ⟨_, .closes owner rfl kept, closes.state, closes.result⟩
    · rename_i guest
      obtain ⟨state, result⟩ :=
        lobby.playAndTell_eq ((lobby.room game).quit user.id) fun _ => true
      exact ⟨_, .stays guest, state.trans makes.state, value, result.trans done⟩

theorem leave_left (found : lobby.gameOf? user = .ok game)
    (member : user.id ∈ game.members) :
    lobby.Left user.id game (lobby.leave user).state := by
  obtain ⟨after, left, makes⟩ := leave_makes found member
  exact makes.state ▸ left

/-- Nobody leaves a game that does not list it: at most it is put back as it was. -/
theorem leave_stranger
    (stranger : ∀ game, lobby.gameOf? user = .ok game → user.id ∉ game.members) :
    (lobby.leave user).Refused lobby ∨ ∃ game ∈ lobby.games,
      (lobby.leave user).Refused (lobby.withRoom (lobby.room game)) := by
  unfold leave
  split
  · exact .inl ⟨rfl, _, rfl⟩
  · rename_i game found
    rcases (lobby.room game).quit_cases user.id with ⟨refused, -⟩ | ⟨member, -⟩
    · have refused := lobby.play_refused refused
      obtain ⟨refusal, failed⟩ := refused.result
      refine .inr ⟨game, (gameOf?_eq_ok found).2, ?_⟩
      split
      · simp only [failed]
        exact refused
      · obtain ⟨state, result⟩ :=
          lobby.playAndTell_eq ((lobby.room game).quit user.id) fun _ => true
        exact ⟨state.trans refused.state, refusal, result.trans failed⟩
    · exact absurd member (stranger game found)

/-- In a neat lobby that changes nothing. -/
theorem leave_refused (neat : lobby.Neat)
    (stranger : ∀ game, lobby.gameOf? user = .ok game → user.id ∉ game.members) :
    (lobby.leave user).Refused lobby := by
  rcases leave_stranger stranger with refused | ⟨game, live, refused⟩
  · exact refused
  · rwa [neat.withRoom_self (List.mem_append_left _ live)] at refused

/-- A user that is a member of no live game leaves none. -/
theorem leave_absent (neat : lobby.Neat) (absent : lobby.Absent user.id) :
    (lobby.leave user).state = lobby :=
  (leave_refused neat fun game found => absent game (gameOf?_eq_ok found).2).state

/-- A user either is a member of a live game, which it leaves, or leaves none. -/
theorem leave_cases (neat : lobby.Neat) (user : User) :
    (∃ game ∈ lobby.games, user.id ∈ game.members ∧
      (lobby.gameOf? user = .ok game → lobby.Left user.id game (lobby.leave user).state)) ∨
    lobby.Absent user.id ∧ (lobby.leave user).state = lobby := by
  by_cases plays : ∃ game ∈ lobby.games, user.id ∈ game.members
  · obtain ⟨game, live, member⟩ := plays
    exact .inl ⟨game, live, member, fun found => leave_left found member⟩
  · have absent : lobby.Absent user.id := fun game live member =>
      plays ⟨game, live, member⟩
    exact .inr ⟨absent, leave_absent neat absent⟩

/-- The lists of games stay neat when users change. -/
theorem Neat.depart (neat : lobby.Neat) (user : User) :
    Neat { lobby with people := lobby.people.depart user } :=
  ⟨neat.nodup, neat.busy⟩

theorem effect_quitGame (placed : lobby.Placed) (id : UserId) :
    Effect mayRejoin lobby (lobby.quitGame id).state := by
  unfold quitGame
  split
  · exact .nothing
  · rename_i user loggedIn
    obtain ⟨registered, -, -⟩ := loggedIn?_eq_ok loggedIn
    rcases leave_cases placed.neat user with ⟨game, live, member, left⟩ | ⟨-, stays⟩
    · exact .leave live member (left (placed.here user registered game live member))
    · rw [stays]
      exact .nothing

theorem effect_quit (placed : lobby.Placed) (id : UserId) (message : String) :
    Effect mayRejoin lobby (lobby.quit id message).state := by
  unfold quit
  split
  · exact .nothing
  · rename_i user known
    obtain ⟨registered, -⟩ := Roster.registered?_eq_some known
    simp only [Step.done]
    rcases leave_cases (placed.neat.depart user) user with
      ⟨game, live, member, left⟩ | ⟨absent, stays⟩
    · have here := placed.here user registered game live member
      have plays : user.game.isSome := by
        rw [(gameOf?_eq_ok here).1]
        rfl
      rw [if_pos plays]
      exact .departMember registered live member (left here)
    · split
      · rw [stays]
        exact .depart registered absent
      · exact .depart registered absent

/-- The person found under a number has that number. -/
theorem id_person (people : Roster) (id : UserId) : (people.person id).id = id := by
  unfold Roster.person
  cases found : people.find? id with
  | none => rfl
  | some user => exact Roster.id_of_find? found

theorem effect_kick (placed : lobby.Placed) (id target : UserId) :
    Effect mayRejoin lobby (lobby.kick id target).state := by
  unfold kick
  split
  · exact .nothing
  · rename_i user game player
    have live := player?_eq_ok player
    rcases (lobby.room game).kick_cases id target with
      refused | ⟨kicked, barred, owner, another, member, makes⟩
    · have refused := lobby.play_refused refused
      obtain ⟨refusal, failed⟩ := refused.result
      simp only [failed, refused.state]
      exact .play live .rest
    · have makes := lobby.play_makes makes
      obtain ⟨value, done⟩ := makes.result
      simp only [done, makes.state, Step.after]
      have found := placed.found game live target member
      have number := id_person lobby.people target
      -- The game is found also now that it bars the member.
      have still : (lobby.withRoom { lobby.room game with
          game := { game with kicked := kicked } }).gameOf?
          (lobby.people.person target) = .ok { game with kicked := kicked } :=
        gameOf?_withRoom found rfl
      have left := leave_left still (number.symm ▸ member)
      rw [number] at left
      exact .kick live member (fun same => another (same.trans owner.symm)) barred left

/-- The game that a user creates. -/
def founded (lobby : Lobby) (user : User) (name : String) : Game :=
  .create (allocateGame lobby.nextGame).1 name user lobby.gameRules

/-- The lobby with that game, before its owner joins. -/
def withFounded (lobby : Lobby) (user : User) (name : String) : Lobby :=
  let others := lobby.games.filter (·.id ≠ (lobby.founded user name).id)
  { lobby with
    games := others ++ [lobby.founded user name]
    closed := lobby.closed.filter (·.id ≠ (lobby.founded user name).id)
    nextGame := (allocateGame lobby.nextGame).2 }

/-- The room of a created game once its owner has joined. -/
def foundedRoom (lobby : Lobby) (user : User) (name : String) : Room :=
  ((lobby.withFounded user name).room (lobby.founded user name)).joined user.id

/-- A user that is in no game creates one and joins it.  Where games have no
room for anybody, it stays without members. -/
theorem createGame_cases (lobby : Lobby) (id : UserId) (name : String) :
    (lobby.createGame id name).Refused lobby ∨
      ∃ user ∈ lobby.people.present, user.id = id ∧ user.loggedIn = true ∧
        user.game = none ∧
        (0 < lobby.server.maxGames → lobby.games.length < lobby.server.maxGames) ∧
        (lobby.gameRules.maxPlayers.toNat = 0 ∧
            (lobby.createGame id name).state = (lobby.withFounded user name).withRoom
              ((lobby.withFounded user name).room (lobby.founded user name)) ∨
          0 < lobby.gameRules.maxPlayers.toNat ∧
            (lobby.createGame id name).Makes
              ((lobby.withFounded user name).withRoom (lobby.foundedRoom user name))) := by
  unfold createGame
  split
  · exact .inl ⟨rfl, _, rfl⟩
  · rename_i user found
    obtain ⟨registered, rfl, loggedIn⟩ := loggedIn?_eq_ok found
    split
    · exact .inl ⟨rfl, _, rfl⟩
    · rename_i free
      split
      · exact .inl ⟨rfl, _, rfl⟩
      · rename_i more
        refine .inr ⟨user, registered, rfl, loggedIn, Option.not_isSome_iff_eq_none.mp free,
          fun limited => Nat.lt_of_not_le fun full => more ⟨limited, full⟩, ?_⟩
        rcases ((lobby.withFounded user name).room (lobby.founded user name)).join_cases
            user.id with ⟨refused, hindered⟩ | ⟨-, -, -, space, makes⟩
        · -- Only want of room hinders a user from joining a game without members.
          rcases hindered with member | barred | busy | full
          · cases member
          · cases barred
          · exact absurd rfl busy
          · refine .inl ⟨Nat.eq_zero_of_le_zero full, ?_⟩
            exact ((playAndTell_eq ..).1).trans (play_refused _ refused).state
        · have makes := (lobby.withFounded user name).play_makes makes
          obtain ⟨value, done⟩ := makes.result
          refine .inr ⟨space, ?_, (allocateGame lobby.nextGame).1, ?_⟩
          · exact ((playAndTell_eq ..).1).trans makes.state
          · exact congrArg (Except.map _) (((playAndTell_eq ..).2).trans done)

/-! ## Logging in -/

/-- The games after something happened in one of them. -/
theorem mem_games_withRoom {room : Room} (member : game ∈ (lobby.withRoom room).games) :
    game = room.game ∧ (∃ other ∈ lobby.games, other.id = room.game.id) ∨
      game ∈ lobby.games ∧ game.id ≠ room.game.id := by
  obtain ⟨before, live, rfl⟩ := List.mem_map.mp member
  split
  · rename_i same
    exact .inl ⟨rfl, before, live, same⟩
  · rename_i differs
    exact .inr ⟨live, differs⟩

/-- Others leaving brings nobody into a game. -/
theorem Left.absent {other : UserId} (left : lobby.Left other game after)
    (live : game ∈ lobby.games) (absent : lobby.Absent id) : after.Absent id := by
  obtain ⟨before, keeps, leaves⟩ := (lobby.room game).left_game other
  have stays : (lobby.withRoom ((lobby.room game).left other)).Absent id := by
    intro target member here
    rcases mem_games_withRoom member with ⟨rfl, -⟩ | ⟨old, -⟩
    · rw [leaves] at here
      exact absent game live ((List.mem_filter.mp here).1)
    · exact absent target old here
  cases left with
  | stays guest => exact stays
  | closes owner room kept =>
      subst room
      exact fun target member => stays target ((List.mem_filter.mp member).1)

/-- Users that quit bring nobody into a game. -/
theorem absent_quit {other : UserId} {message : String} (placed : lobby.Placed)
    (absent : lobby.Absent id) : (lobby.quit other message).state.Absent id := by
  unfold quit
  split
  · exact absent
  · rename_i user known
    obtain ⟨registered, -⟩ := Roster.registered?_eq_some known
    simp only [Step.done]
    split
    · rcases leave_cases (placed.neat.depart user) user with
        ⟨game, live, member, left⟩ | ⟨-, stays⟩
      · exact (left (placed.here user registered game live member)).absent live absent
      · rw [stays]
        exact absent
    · exact absent

end Operations

/-- What every effect keeps, and what sees to it that users and games find each
other. -/
structure Invariant (mayRejoin : Prop) (kept : Lobby → Prop) : Prop where
  placed : ∀ {lobby : Lobby}, kept lobby → lobby.Placed
  effect : ∀ {lobby after : Lobby}, kept lobby → Effect mayRejoin lobby after → kept after

namespace Invariant

variable {mayRejoin : Prop} {kept : Lobby → Prop} (invariant : Invariant mayRejoin kept)
include invariant

/-- Quitting one after the other keeps it, and brings nobody into a game. -/
theorem quitAll (holds : kept lobby) (absent : lobby.Absent id) (message : String)
    (ids : List UserId) : kept (lobby.quitAll message ids).1 ∧
      (lobby.quitAll message ids).1.Absent id := by
  induction ids generalizing lobby with
  | nil => exact ⟨holds, absent⟩
  | cons first rest inductionHypothesis =>
      have placed := invariant.placed holds
      exact inductionHypothesis
        (invariant.effect holds (effect_quit placed first message))
        (absent_quit placed absent)

theorem login (holds : kept lobby) (id : UserId) : kept (lobby.login id).state := by
  unfold Lobby.login
  split
  · exact holds
  · rename_i user known
    obtain ⟨registered, rfl⟩ := Roster.registered?_eq_some known
    split
    · exact holds
    · rename_i out
      split
      · exact holds
      · split
        · exact holds
        · have absent := (invariant.placed holds).loggedIn user registered
            (Bool.eq_false_iff.mpr out)
          obtain ⟨cleared, still⟩ := invariant.quitAll holds absent "Reconnected"
            (lobby.stale user)
          exact invariant.effect cleared (.logIn still)

end Invariant

end Lobby

namespace Venue

variable {venue : Venue}

/-- The move is a signal of a dropped member that it is ready. -/
def Rejoins (venue : Venue) : Move → Prop
  | .ready user => ∃ game ∈ venue.lobby.games, (venue.lobby.room game).Rejoins user
  | _ => False

instance (venue : Venue) (move : Move) : Decidable (venue.Rejoins move) := by
  cases move with
  | ready user =>
      exact inferInstanceAs (Decidable (∃ game ∈ venue.lobby.games,
        (venue.lobby.room game).Rejoins user))
  | _ => exact inferInstanceAs (Decidable False)

/-- The move creates a game. -/
def Move.Creates : Move → Prop
  | .create _ _ => True
  | _ => False

/-- A move that creates no game keeps what every effect keeps. -/
theorem invariant_step {mayRejoin : Prop} {kept : Lobby → Prop}
    (invariant : Lobby.Invariant mayRejoin kept) (holds : kept venue.lobby) {move : Move}
    (creates : ¬ move.Creates) (rejoins : venue.Rejoins move → mayRejoin) :
    kept (venue.step move).lobby := by
  have effect := @invariant.effect venue.lobby
  have placed := invariant.placed holds
  cases move with
  | connect address protocol => exact effect holds (Lobby.effect_connect ..)
  | introduce user name emulator connectionType =>
      exact effect holds (.describe user ⟨fun _ => rfl, fun _ => rfl, fun _ => rfl,
        fun _ => rfl, fun _ => rfl, fun _ => rfl⟩)
  | measure user ping =>
      exact effect holds (.describe user ⟨fun _ => rfl, fun _ => rfl, fun _ => rfl,
        fun _ => rfl, fun _ => rfl, fun _ => rfl⟩)
  | login user => exact invariant.login holds user
  | quit user message => exact effect holds (Lobby.effect_quit placed user message)
  | chat user message =>
      rw [step, Lobby.chat]
      split
      · exact holds
      · split
        · exact holds
        · exact holds
  | create user name => exact absurd trivial creates
  | join user game => exact effect holds (Lobby.effect_joinGame ..)
  | leave user => exact effect holds (Lobby.effect_quitGame placed user)
  | start user => exact effect holds (Lobby.effect_startGame ..)
  | ready user =>
      exact effect holds (Lobby.effect_ready fun game live again =>
        rejoins ⟨game, live, again⟩)
  | drop user => exact effect holds (Lobby.effect_dropGame ..)
  | kick user target => exact effect holds (Lobby.effect_kick placed user target)
  | gameChat user message => exact effect holds (Lobby.effect_gameChat ..)
  | gap user => exact effect holds (Lobby.effect_droppedPacket ..)
  | input user data => exact effect holds (Lobby.effect_addGameData ..)
  | retry game ticket =>
      rw [step, retry]
      split
      · exact holds
      · rename_i target found
        split
        · exact holds
        · rename_i parked waits
          split
          · exact effect holds (.work (List.mem_of_find?_eq_some found)
              (Room.works_retry ..))
          · exact holds
  | pass milliseconds => exact holds

end Venue

end Netplay
