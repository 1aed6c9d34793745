/-
Module: Netplay.Proofs.Customs
Purpose: What the operations on a game keep of it and of its members, a lobby keeps
  of all its live games, because no game has to do with the members of another.
Main exports:
  Game.Custom, Lobby.Observes, Lobby.Knows, Lobby.invariant_observes,
  Venue.observes_step, Venue.observes_run
-/
import Netplay.Proofs.Attendance
import Netplay.Proofs.Statuses

namespace Netplay

/-- A registered user is found under its number. -/
theorem Roster.isSome_find? {user : User} (people : Roster)
    (nodup : (people.present.map (·.id)).Nodup) (registered : user ∈ people.present) :
    (people.find? user.id).isSome := by
  rw [Roster.find?, Roster.registered?, find?_key nodup registered]
  rfl

/-- Nobody has to be seated in a game that was just created. -/
theorem Game.seated_create (number : GameId) (name : String) (owner : User)
    (settings : GameSettings) (people : Roster) :
    (Game.create number name owner settings).Seated people where
  nodup := List.nodup_nil
  few := Nat.zero_le _
  known := fun _ member => by cases member
  waits := fun _ => rfl
  empty := fun busy => absurd rfl busy
  own := List.nodup_nil
  desk := fun _ member => by cases member
  sits := fun on => absurd rfl on

/-- A property of a game and its members that holds at first and that everything
keeps that can happen to them.  Dropped members that get ready again must keep it
only where the first condition holds, and users that join only if they meet the
second one. -/
structure Game.Custom (mayRejoin : Prop) (welcome : User → Prop)
    (holds : Game → Roster → Prop) : Prop where
  created : ∀ (number : GameId) (name : String) (owner : User) (settings : GameSettings)
    (people : Roster), holds (Game.create number name owner settings) people
  /-- It rests on the numbers and the status of the members. -/
  regard : ∀ {game : Game} {people later : Roster}, holds game people →
    (∀ member ∈ game.members, (later.find? member).isSome = (people.find? member).isSome) →
    (∀ member ∈ game.members, (later.person member).player = (people.person member).player) →
    (∀ member ∈ game.members, (later.person member).status = (people.person member).status) →
    holds game later
  plays : ∀ {room after : Room}, holds room.game room.people → room.Plays mayRejoin after →
    holds after.game after.people
  barred : ∀ {game : Game} {people : Roster}, holds game people → ∀ kicked : List UserId,
    holds { game with kicked := kicked } people
  joined : ∀ (room : Room) {id : UserId}, holds room.game room.people →
    id ∉ room.game.members → room.game.status = .waiting →
    room.game.members.length < room.game.settings.maxPlayers.toNat →
    (room.people.find? id).isSome → welcome (room.people.person id) →
    holds (room.joined id).game (room.joined id).people
  left : ∀ (room : Room) {id : UserId}, holds room.game room.people →
    id ∈ room.game.members → holds (room.left id).game (room.left id).people

/-- Only others change. -/
theorem Game.Custom.spared {mayRejoin : Prop} {welcome : User → Prop}
    {holds : Game → Roster → Prop}
    (custom : Game.Custom mayRejoin welcome holds) {game : Game} {people later : Roster}
    (before : holds game people) {ids : List UserId} (spares : people.Spares later ids)
    (apart : ∀ member ∈ game.members, member ∉ ids) : holds game later := by
  refine custom.regard before (fun member here => ?_) (fun member here => ?_)
    fun member here => ?_
  · rw [spares member (apart member here)]
  · rw [spares.person (apart member here)]
  · rw [spares.person (apart member here)]

namespace Lobby

open Roster

variable {mayRejoin : Prop} {welcome : User → Prop} {holds : Game → Roster → Prop}
  {lobby after : Lobby} {game : Game} {settings : Settings} {created : Nat}

/-- It holds of every live game, no two of which share a number or a member. -/
structure Observes (holds : Game → Roster → Prop) (lobby : Lobby) : Prop where
  nodup : (lobby.allGames.map (·.id)).Nodup
  apart : ∀ game ∈ lobby.games, ∀ other ∈ lobby.games, ∀ member ∈ game.members,
    member ∈ other.members → game = other
  each : ∀ game ∈ lobby.games, holds game lobby.people

namespace Observes

/-- Something happens in one game, and it concerns the members of no other. -/
theorem withRoom (custom : Game.Custom mayRejoin welcome holds) {room : Room} {ids : List UserId}
    (observes : lobby.Observes holds)
    (member : game ∈ lobby.allGames) (number : room.game.id = game.id)
    (kept : game ∈ lobby.games → holds room.game room.people)
    (spares : lobby.people.Spares room.people ids)
    (others : ∀ other ∈ lobby.games, other ≠ game → ∀ user ∈ other.members,
      user ∉ ids ∧ (game ∈ lobby.games → user ∉ room.game.members)) :
    (lobby.withRoom room).Observes holds := by
  have unique : ∀ other ∈ lobby.games, other.id = room.game.id → other = game :=
    fun other live same => List.inj_on_of_nodup_map observes.nodup
      (List.mem_append_left _ live) member (same.trans number)
  have still : ∀ other ∈ lobby.games, other.id ≠ room.game.id → other ≠ game := by
    rintro other live differs rfl
    exact differs number.symm
  refine ⟨(Retains.withRoom lobby room).nodup observes.nodup, ?_, ?_⟩
  · intro one oneMember two twoMember user here there
    rcases mem_games_withRoom oneMember with ⟨rfl, other, live, same⟩ | ⟨oneLive, oneDiffers⟩
    · rcases mem_games_withRoom twoMember with ⟨rfl, -⟩ | ⟨twoLive, twoDiffers⟩
      · rfl
      · exact absurd here ((others two twoLive (still two twoLive twoDiffers) user there).2
          (unique other live same ▸ live))
    · rcases mem_games_withRoom twoMember with ⟨rfl, other, live, same⟩ | ⟨twoLive, twoDiffers⟩
      · exact absurd there ((others one oneLive (still one oneLive oneDiffers) user here).2
          (unique other live same ▸ live))
      · exact observes.apart one oneLive two twoLive user here there
  · intro target targetMember
    rcases mem_games_withRoom targetMember with ⟨rfl, other, live, same⟩ | ⟨live, differs⟩
    · exact kept (unique other live same ▸ live)
    · exact custom.spared (observes.each target live) spares fun user here =>
        (others target live (still target live differs) user here).1

/-- In particular, the game may keep its members, and only they are concerned. -/
theorem withRoom_same (custom : Game.Custom mayRejoin welcome holds) {room : Room}
    {ids : List UserId} (observes : lobby.Observes holds)
    (member : game ∈ lobby.allGames) (number : room.game.id = game.id)
    (members : room.game.members = game.members)
    (kept : game ∈ lobby.games → holds room.game room.people)
    (spares : lobby.people.Spares room.people ids)
    (concerned : ∀ id ∈ ids, game ∈ lobby.games ∧ id ∈ game.members) :
    (lobby.withRoom room).Observes holds := by
  refine observes.withRoom custom member number kept spares
    fun other otherLive differs user here => ⟨fun among => ?_, fun live there => ?_⟩
  · obtain ⟨live, there⟩ := concerned user among
    exact differs (observes.apart other otherLive game live user here there)
  · exact differs (observes.apart other otherLive game live user here (members ▸ there))

/-- Only users that are in no live game change. -/
theorem people (custom : Game.Custom mayRejoin welcome holds) {people : Roster}
    (observes : lobby.Observes holds)
    (ids : List UserId) (spares : lobby.people.Spares people ids)
    (absent : ∀ id ∈ ids, lobby.Absent id) :
    Observes holds { lobby with people := people } where
  nodup := observes.nodup
  apart := observes.apart
  each := fun game live => custom.spared (observes.each game live) spares
    fun member here among => absent member among game live here

/-- A user is registered no more. -/
theorem depart (custom : Game.Custom mayRejoin welcome holds) {user : User}
    (observes : lobby.Observes holds)
    (nodup : (lobby.people.present.map (·.id)).Nodup)
    (registered : user ∈ lobby.people.present) :
    Observes holds { lobby with people := lobby.people.depart user } :=
  observes.people custom [] (.depart nodup registered) fun _ among => by cases among

/-- A member leaves. -/
theorem left (custom : Game.Custom mayRejoin welcome holds) {id : UserId}
    (observes : lobby.Observes holds)
    (live : game ∈ lobby.games) (member : id ∈ game.members)
    (left : lobby.Left id game after) : after.Observes holds := by
  obtain ⟨before, keeps, leaves⟩ := (lobby.room game).left_game id
  have number : ((lobby.room game).left id).game.id = game.id := by
    rw [leaves]
    exact keeps.id
  have fewer : ∀ user ∈ ((lobby.room game).left id).game.members, user ∈ game.members := by
    rw [leaves]
    exact fun user stays => (List.mem_filter.mp stays).1
  have spares : lobby.people.Spares ((lobby.room game).left id).people game.members :=
    @Room.spares_left (lobby.room game) id member
  have others : ∀ other ∈ lobby.games, other ≠ game → ∀ user ∈ other.members,
      user ∉ game.members := fun other otherLive differs user here there =>
    differs (observes.apart other otherLive game live user here there)
  have stays : (lobby.withRoom ((lobby.room game).left id)).Observes holds :=
    observes.withRoom custom (List.mem_append_left _ live) number
      (fun _ => custom.left (lobby.room game) (observes.each game live) member) spares
      fun other otherLive differs user here =>
        ⟨others other otherLive differs user here,
          fun _ there => others other otherLive differs user here (fewer user there)⟩
  have nodup := (Retains.left live left).nodup observes.nodup
  cases left with
  | stays guest => exact stays
  | closes owner room kept =>
      subst room
      refine ⟨nodup, ?_, ?_⟩
      · intro one oneMember two twoMember
        exact stays.apart one (List.mem_filter.mp oneMember).1 two
          (List.mem_filter.mp twoMember).1
      · intro target targetMember
        obtain ⟨targetLive, differs⟩ := List.mem_filter.mp targetMember
        refine custom.spared (stays.each target targetLive)
          (Spares.dismissed (fun _ member => member) _) fun user here there => ?_
        have itself : ((lobby.room game).left id).game ∈
            (lobby.withRoom ((lobby.room game).left id)).games :=
          List.mem_map.mpr ⟨game, live, if_pos number.symm⟩
        have same := stays.apart target targetLive _ itself user here there
        exact of_decide_eq_true differs (congrArg Game.id same)

/-- A user that is in no live game joins one that waits and has room. -/
theorem joined (custom : Game.Custom mayRejoin welcome holds) {id : UserId}
    (observes : lobby.Observes holds) (live : game ∈ lobby.games)
    (absent : lobby.Absent id) (waiting : game.status = .waiting)
    (space : game.members.length < game.settings.maxPlayers.toNat)
    (known : (lobby.people.find? id).isSome)
    (welcomed : welcome (lobby.people.person id)) :
    (lobby.withRoom ((lobby.room game).joined id)).Observes holds := by
  have spares : lobby.people.Spares ((lobby.room game).joined id).people [id] := by
    refine .update ?_ List.mem_cons_self
    exact fun _ => rfl
  refine observes.withRoom custom (List.mem_append_left _ live) rfl
    (fun _ => custom.joined (lobby.room game) (observes.each game live) (absent game live)
      waiting space known welcomed) spares ?_
  intro other otherLive differs person here
  have another : person ≠ id := by
    rintro rfl
    exact absent other otherLive here
  refine ⟨fun among => another (List.mem_singleton.mp among), fun _ there => ?_⟩
  rcases List.mem_append.mp there with old | isUser
  · exact differs (observes.apart other otherLive game live person here old)
  · exact another (List.mem_singleton.mp isUser)

/-- A game is created. -/
theorem withFounded (custom : Game.Custom mayRejoin welcome holds) (observes : lobby.Observes holds)
    (user : User) (name : String) : (lobby.withFounded user name).Observes holds := by
  refine ⟨nodup_withFounded user name observes.nodup, ?_, ?_⟩
  · intro one oneMember two twoMember member here there
    rcases List.mem_append.mp oneMember with oneOld | oneNew
    · rcases List.mem_append.mp twoMember with twoOld | twoNew
      · exact observes.apart one (List.mem_filter.mp oneOld).1 two (List.mem_filter.mp twoOld).1
          member here there
      · rw [List.mem_singleton.mp twoNew] at there
        cases there
    · rw [List.mem_singleton.mp oneNew] at here
      cases here
  · intro game live
    rcases List.mem_append.mp live with old | new
    · exact observes.each game (List.mem_filter.mp old).1
    · rw [List.mem_singleton.mp new]
      exact custom.created _ _ _ _ _

end Observes

/-- What is known of a lobby: its books are in order, and users in no game meet the
condition for joining one. -/
structure Knows (welcome : User → Prop) (settings : Settings) (created : Nat) (lobby : Lobby) :
    Prop where
  kept : lobby.Kept settings created
  welcomes : ∀ user ∈ lobby.people.present, user.game = none → welcome user

/-- A user that joins meets the condition. -/
theorem Knows.welcomed {user : User} (knows : lobby.Knows welcome settings created)
    (registered : user ∈ lobby.people.present) (free : user.game = none) :
    welcome (lobby.people.person user.id) := by
  rw [lobby.people.person_of_mem knows.kept.users_nodup registered]
  exact knows.welcomes user registered free

/-- Every effect on a lobby keeps it. -/
theorem invariant_observes {known : Lobby → Prop} (custom : Game.Custom mayRejoin welcome holds)
    (invariant : Invariant mayRejoin known)
    (knows : ∀ lobby, known lobby → lobby.Knows welcome settings created) :
    Invariant mayRejoin fun lobby => known lobby ∧ lobby.Observes holds where
  placed := fun holds => invariant.placed holds.1
  effect := fun {lobby after} before effect => by
    obtain ⟨books, observes⟩ := before
    refine ⟨invariant.effect books effect, ?_⟩
    have known := knows lobby books
    have kept := known.kept
    have ids := kept.users_nodup
    cases effect with
    | nothing => exact observes
    | @connect id counter address protocol space positive fresh =>
        have same : Observes holds { lobby with nextUser := counter } :=
          ⟨observes.nodup, observes.apart, observes.each⟩
        refine same.people custom [id] (.register List.mem_cons_self) ?_
        intro user isUser game live here
        obtain ⟨person, registered, number, -⟩ := kept.registered live here
        rw [← List.mem_singleton.mp isUser, ← number] at fresh
        exact fresh (List.mem_map.mpr ⟨person, registered, rfl⟩)
    | @describe change id describes =>
        refine ⟨observes.nodup, observes.apart, fun game live => ?_⟩
        refine custom.regard (observes.each game live) (fun member _ => ?_) (fun member _ => ?_)
          fun member _ => ?_
        · exact isSome_find?_update describes.id
        · exact field_update (·.player) describes.id describes.player
        · exact field_update (·.status) describes.id describes.status
    | @logIn id absent =>
        refine observes.people custom [id] (.update (fun _ => ?_) List.mem_cons_self) ?_
        · rfl
        · intro user isUser
          rw [List.mem_singleton.mp isUser]
          exact absent
    | play live plays =>
        exact observes.withRoom_same custom (List.mem_append_left _ live) plays.keeps.id
          plays.keeps.members (fun _ => custom.plays (observes.each _ live) plays) plays.spares
          fun _ member => ⟨live, member⟩
    | @work game room member works =>
        have keeps := Game.Keeps.of_works works.game
        have people : room.people = lobby.people := works.people
        exact observes.withRoom_same custom member keeps.id keeps.members
          (fun live => custom.plays (observes.each game live) (.work works))
          (fun other (_ : other ∉ []) => by rw [people]) fun _ among => by cases among
    | @join user game registered loggedIn free live welcome waiting space =>
        exact observes.joined custom live (kept.absent registered free) waiting space
          (lobby.people.isSome_find? ids registered)
          (known.welcomed registered free)
    | leave live member left => exact observes.left custom live member left
    | @kick target game kicked after live member guest barred left =>
        have bars : (lobby.withRoom { lobby.room game with
            game := { game with kicked := kicked } }).Observes holds :=
          observes.withRoom_same custom (List.mem_append_left _ live) rfl rfl
            (fun _ => custom.barred (observes.each game live) kicked) (Spares.refl _ [])
            fun _ among => by cases among
        exact bars.left custom (List.mem_map.mpr ⟨game, live, if_pos rfl⟩) member left
    | depart registered absent => exact observes.depart custom ids registered
    | departMember registered live member left =>
        exact (observes.depart custom ids registered).left custom live member left

/-- So does the creation of a game. -/
theorem Observes.create (custom : Game.Custom mayRejoin welcome holds)
    (knows : lobby.Knows welcome settings created) (observes : lobby.Observes holds)
    (id : UserId) (name : String) : (lobby.createGame id name).state.Observes holds := by
  rcases lobby.createGame_cases id name with
    refused | ⟨user, registered, -, -, free, -, made⟩
  · rw [refused.state]
    exact observes
  · have founded := observes.withFounded custom user name
    rcases made with ⟨-, state⟩ | ⟨space, makes⟩
    · rw [state, knows.kept.neat.founded_self]
      exact founded
    · rw [makes.state]
      have itself : lobby.founded user name ∈ (lobby.withFounded user name).games :=
        List.mem_append_right _ List.mem_cons_self
      refine founded.joined custom itself (fun game live => ?_) rfl space
        (lobby.people.isSome_find? knows.kept.users_nodup registered)
        (knows.welcomed registered free)
      rcases List.mem_append.mp live with old | new
      · exact knows.kept.absent registered free game (List.mem_filter.mp old).1
      · rw [List.mem_singleton.mp new]
        exact List.not_mem_nil

/-- A lobby without games. -/
theorem observes_empty (holds : Game → Roster → Prop) (settings : Settings) :
    (Lobby.empty settings).Observes holds where
  nodup := List.nodup_nil
  apart := fun _ live => by cases live
  each := fun _ live => by cases live

end Lobby

namespace Venue

variable {mayRejoin : Prop} {welcome : User → Prop} {holds : Game → Roster → Prop}
  {settings : Settings} {venue : Venue}

/-- Every move keeps it. -/
theorem observes_step {known : Lobby → Prop} (custom : Game.Custom mayRejoin welcome holds)
    (invariant : Lobby.Invariant mayRejoin known)
    (knows : ∀ lobby, known lobby → lobby.Knows welcome settings venue.created)
    (before : known venue.lobby) (observes : venue.lobby.Observes holds) {move : Move}
    (rejoins : venue.Rejoins move → mayRejoin) : (venue.step move).lobby.Observes holds := by
  by_cases creates : move.Creates
  · cases move with
    | create user name => exact observes.create custom (knows _ before) user name
    | _ => exact absurd creates id
  · exact (invariant_step (Lobby.invariant_observes custom invariant knows) ⟨before, observes⟩
      creates rejoins).2

/-- Where users are proper, those in no game do not play. -/
theorem knows_proper {created : Nat} (lobby : Lobby)
    (books : lobby.Kept settings created ∧ lobby.people.Each User.Proper) :
    lobby.Knows (·.status ≠ .playing) settings created where
  kept := books.1
  welcomes := fun user registered free plays => by
    have placed := (books.2 user registered).placed plays
    rw [free] at placed
    cases placed

/-- What everything keeps holds of all live games at any time. -/
theorem observes_run (custom : Game.Custom True (·.status ≠ .playing) holds)
    (settings : Settings) (moves : List Move) :
    ((opened settings).run moves).lobby.Observes holds := by
  have run : ∀ venue : Venue, venue.lobby.Kept settings venue.created →
      venue.lobby.people.Each User.Proper → venue.lobby.Observes holds →
        (venue.run moves).lobby.Observes holds := by
    induction moves with
    | nil => exact fun _ _ _ observes => observes
    | cons move rest inductionHypothesis =>
        intro venue kept proper observes
        exact inductionHypothesis (venue.step move) (kept_step kept move)
          (proper_step kept proper move)
          (observes_step custom (Lobby.invariant_proper settings venue.created True)
            knows_proper ⟨kept, proper⟩ observes fun _ => trivial)
  exact run (opened settings) (Lobby.kept_empty settings)
    (fun user registered => by cases registered) (Lobby.observes_empty holds settings)

end Venue

end Netplay
