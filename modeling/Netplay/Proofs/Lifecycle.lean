/-
Module: Netplay.Proofs.Lifecycle
Purpose: A game waits, has no queues and has no member that plays, all at once or
  not at all, and users play only in games.
Main exports:
  Game.Lively, Game.custom_lively, Room.Turn.waits, Venue.Move.Parts, Venue.lifecycle
-/
import Netplay.Proofs.Customs
import Netplay.Proofs.Deeds

namespace Netplay

open Roster

namespace Game

/-- Members have their seats, and the game waits exactly as long as none of them
plays. -/
structure Lively (game : Game) (people : Roster) : Prop where
  seated : game.Seated people
  idle : game.status = .waiting →
    ∀ member ∈ game.members, (people.person member).status ≠ .playing
  busy : game.status ≠ .waiting →
    ∃ member ∈ game.members, (people.person member).status = .playing

namespace Lively

variable {game : Game} {people later : Roster}

/-- What members are does not change. -/
theorem regard (lively : game.Lively people)
    (known : ∀ member ∈ game.members, (later.find? member).isSome = (people.find? member).isSome)
    (players : ∀ member ∈ game.members,
      (later.person member).player = (people.person member).player)
    (statuses : ∀ member ∈ game.members,
      (later.person member).status = (people.person member).status) :
    game.Lively later where
  seated := lively.seated.stay (List.Sublist.refl _)
    (fun member here => (known member here).trans (lively.seated.known member here)) players
  idle := fun waiting member here plays =>
    lively.idle waiting member here ((statuses member here).symm.trans plays)
  busy := fun going => by
    obtain ⟨member, here, plays⟩ := lively.busy going
    exact ⟨member, here, (statuses member here).trans plays⟩

/-- A game that waits has no queues, and the other way round. -/
theorem queues_eq_nil_iff (lively : game.Lively people) :
    game.queues = [] ↔ game.status = .waiting := by
  constructor
  · intro none
    by_contra going
    have nobody := lively.seated.empty going (List.map_eq_nil_iff.mpr none)
    obtain ⟨member, here, -⟩ := lively.busy going
    rw [nobody] at here
    cases here
  · exact fun waiting => List.map_eq_nil_iff.mp (lively.seated.waits waiting)

/-- Nor does a member of it play, and the other way round. -/
theorem idle_iff (lively : game.Lively people) :
    (∀ member ∈ game.members, (people.person member).status ≠ .playing) ↔
      game.status = .waiting := by
  constructor
  · intro rests
    by_contra going
    obtain ⟨member, here, plays⟩ := lively.busy going
    exact rests member here plays
  · exact lively.idle

end Lively

end Game

namespace Room

open Game (Lively)

variable {room after : Room} {mayRejoin : Prop} {id : UserId}

/-- The first member, as any other, plays in a round that starts. -/
theorem lively_start (lively : room.game.Lively room.people)
    (waiting : room.game.status = .waiting) (someone : room.game.members ≠ []) (actions : Nat) :
    (room.commence actions).game.Lively (room.commence actions).people := by
  refine ⟨seated_start lively.seated waiting actions, fun still => ?_, fun _ => ?_⟩
  · cases still
  obtain ⟨first, rest, members⟩ := List.exists_cons_of_ne_nil someone
  have place : room.game.members[0]? = some first := by rw [members]; rfl
  have itself := Room.person_numberPlayers (fun player user =>
    (rfl : (seatPlayer player user).id = user.id)) lively.seated.nodup lively.seated.known place
  have keeps := Game.Keeps.endRound room.game
  refine ⟨first, ?_, congrArg User.status itself⟩
  change first ∈ room.game.endRound.members
  rw [keeps.members]
  exact List.mem_of_getElem? place

/-- When a member is dropped the others are asked whether they still play. -/
theorem lively_bench (lively : room.game.Lively room.people) {slot : Nat}
    (on : room.game.queues ≠ []) :
    (room.bench id slot).game.Lively (room.bench id slot).people := by
  have seated := seated_bench lively.seated id slot
  have members : (room.game.hush slot).members = room.game.members :=
    (Game.Keeps.hush room.game slot).members
  have going : (room.game.hush slot).status ≠ .waiting := by
    rw [(room.game.dims_hush slot).status]
    exact fun waiting => on (lively.queues_eq_nil_iff.mpr waiting)
  unfold bench at seated ⊢
  split at seated
  · rename_i plays
    rw [if_pos plays]
    refine ⟨seated, fun waiting => absurd waiting going, fun _ => ?_⟩
    obtain ⟨member, here, still⟩ := List.any_eq_true.mp plays
    exact ⟨member, members.symm ▸ here, of_decide_eq_true still⟩
  · rename_i nobody
    rw [if_neg nobody]
    refine ⟨seated, fun _ member here plays => nobody ?_, fun going => absurd rfl going⟩
    have ends := Game.Keeps.endRound (room.game.hush slot)
    have among : member ∈ room.game.members := by
      rw [← members, ← ends.members]
      exact here
    exact List.any_eq_true.mpr ⟨member, among, decide_eq_true plays⟩

/-- Whatever members play, the game waits exactly as long as none of them does. -/
theorem Plays.lively (plays : room.Plays mayRejoin after)
    (lively : room.game.Lively room.people) : after.game.Lively after.people := by
  have seated := plays.seated lively.seated
  cases plays with
  | start owner waiting someone => exact lively_start lively waiting someone _
  | ready member gathering seat next rejoins =>
      have going : room.game.status ≠ .waiting := by
        rw [gathering]
        decide
      refine ⟨seated, fun waiting => ?_, fun _ => lively.busy going⟩
      rcases next with ⟨rfl, -⟩ | ⟨rfl, -⟩
      · cases waiting
      · cases waiting
  | drop member on seat => exact lively_bench lively on
  | work works =>
      have members := (Game.Keeps.of_works works.game).members
      have status : after.game.status = room.game.status := by
        obtain ⟨_, _, _, _, _, frame⟩ := works.game.frame
        rw [frame]
      rw [works.people] at seated ⊢
      refine ⟨seated, ?_, ?_⟩
      · rw [status, members]
        exact lively.idle
      · rw [status, members]
        exact lively.busy

/-- A member that leaves plays no more, and takes along nobody who does. -/
theorem lively_left (lively : room.game.Lively room.people) (member : id ∈ room.game.members) :
    (room.left id).game.Lively (room.left id).people := by
  have shed : room.Plays True (room.shed id) := plays_shed id
  have rests := shed_rests lively.seated member
  have lively := shed.lively lively
  rw [left]
  generalize room.shed id = before at rests lively
  have seated := seated_without lively.seated id
  have others : before.people.Spares (before.people.update id (·.leaveGame)) [id] := by
    refine .update ?_ List.mem_cons_self
    exact fun _ => rfl
  unfold without at seated ⊢
  simp only at seated ⊢
  split at seated
  · rename_i waiting
    rw [if_pos waiting]
    refine ⟨seated, fun _ other stays => ?_, fun going => absurd waiting going⟩
    obtain ⟨here, differs⟩ := List.mem_filter.mp stays
    have apart : other ∉ [id] := fun itself =>
      of_decide_eq_true differs (List.mem_singleton.mp itself)
    have status := field_numberPlayers (·.status) (fun player user =>
      (rfl : (renumber player user).id = user.id)) (fun _ _ => rfl)
      (before.people.update id (·.leaveGame))
      (before.game.members.filter (· ≠ id)) other
    rw [status, others.person apart]
    exact lively.idle waiting other here
  · rename_i going
    rw [if_neg going]
    refine ⟨seated, fun waiting => absurd waiting going, fun _ => ?_⟩
    obtain ⟨other, here, plays⟩ := lively.busy going
    have differs : other ≠ id := by
      rintro rfl
      exact rests.elim going fun idle => idle plays
    refine ⟨other, List.mem_filter.mpr ⟨here, decide_eq_true differs⟩, ?_⟩
    rw [others.person fun itself => differs (List.mem_singleton.mp itself)]
    exact plays

/-- A user that joins does not play yet. -/
theorem lively_joined (lively : room.game.Lively room.people) (new : id ∉ room.game.members)
    (waiting : room.game.status = .waiting)
    (space : room.game.members.length < room.game.settings.maxPlayers.toNat)
    (known : (room.people.find? id).isSome) (rests : (room.people.person id).status ≠ .playing) :
    (room.joined id).game.Lively (room.joined id).people := by
  refine ⟨seated_joined lively.seated new waiting space known, fun _ member here => ?_,
    fun going => absurd waiting going⟩
  have status : ((room.joined id).people.person member).status =
      (room.people.person member).status :=
    field_update (·.status) (fun _ => rfl) fun _ => rfl
  rw [status]
  rcases List.mem_append.mp here with old | isUser
  · exact lively.idle waiting member old
  · rw [List.mem_singleton.mp isUser]
    exact rests

end Room

/-- Live games are lively, as long as only users join that do not play. -/
theorem Game.custom_lively : Game.Custom True (·.status ≠ .playing) Game.Lively where
  created := fun number name owner settings people =>
    ⟨Game.seated_create number name owner settings people,
      fun _ _ here => absurd here List.not_mem_nil, fun going => absurd rfl going⟩
  regard := Game.Lively.regard
  plays := fun lively plays => plays.lively lively
  barred := fun lively _ =>
    ⟨lively.seated.of_seats rfl rfl rfl Iff.rfl, lively.idle, lively.busy⟩
  joined := fun _ => Room.lively_joined
  left := fun _ => Room.lively_left

/-! ## Back to waiting -/

/-- A game that begins to wait has lost a player, that was dropped or quit. -/
theorem Room.Turn.waits {room after : Room} {deed : Room.Deed} (turn : room.Turn deed after)
    (waiting : after.game.status = .waiting) :
    room.game.status = .waiting ∨ ∃ user, deed = .drop user ∨ deed = .quit user := by
  cases turn with
  | rest => exact .inl waiting
  | join new before space => exact .inl before
  | start before someone actions => exact .inl before
  | mark gathering => exact .inl waiting
  | play gathering all => cases waiting
  | @drop id slot member seat => exact .inr ⟨id, .inl rfl⟩
  | @quit id member => exact .inr ⟨id, .inr rfl⟩
  | bar _ => exact .inl waiting
  | @close id silent dims off =>
      simp only [Game.status_endRound, dims.status] at waiting
      exact .inl waiting
  | gap slot => exact .inl ((room.game.dims_hush slot).status.symm.trans waiting)
  | work isWork chores =>
      obtain ⟨_, _, _, _, _, frame⟩ := chores.works.frame
      simp only at waiting
      rw [frame] at waiting
      exact .inl waiting

namespace Venue

variable {venue : Venue}

/-- The move makes users drop out of a round or leave a game. -/
def Move.Parts : Move → Prop
  | .drop _ => True
  | .leave _ => True
  | .quit _ _ => True
  | .kick _ _ => True
  | .login _ => True
  | _ => False

/-- Only such moves drop members or make them quit. -/
theorem parts_of_asks {move : Move} {user : UserId}
    (asked : venue.Asks move (.drop user) ∨ venue.Asks move (.quit user)) : move.Parts := by
  cases move with
  | drop _ | leave _ | quit _ _ | kick _ _ | login _ => trivial
  | retry _ _ =>
      rcases asked with ⟨_, -, retries⟩ | ⟨_, -, retries⟩
      · cases retries
      · cases retries
  | _ =>
      rcases asked with drops | quits
      · cases drops
      · cases quits

/-- A row of moves after another. -/
theorem run_append (venue : Venue) (first second : List Move) :
    venue.run (first ++ second) = (venue.run first).run second := by
  induction first generalizing venue with
  | nil => rfl
  | cons move rest inductionHypothesis => exact inductionHypothesis (venue.step move)

/-- As long as numbers have not run out, a user whose entry names a game is a member of
it. -/
theorem game_of_entry {settings : Settings} {created : Nat} {lobby : Lobby}
    (kept : lobby.Kept settings created) (few : created < 2 ^ 32 - 1) {user : User}
    (registered : user ∈ lobby.people.present) {number : GameId}
    (names : user.game = some number) :
    ∃ game ∈ lobby.games, game.id = number ∧ user.id ∈ game.members := by
  obtain ⟨party, member, same, here⟩ :=
    (kept.counted few).traced user.guest (Lobby.mem_guests registered) number names
  obtain ⟨game, live, rfl⟩ := List.mem_map.mp member
  exact ⟨game, live, same, here⟩

/-- As long as numbers have not run out, a game that is created takes the place of no
other one. -/
theorem same_createGame {settings : Settings} {created : Nat} {lobby : Lobby}
    (kept : lobby.Kept settings created) (few : created + 1 < 2 ^ 32 - 1) {user : UserId}
    {name : String} {game later : Game} (live : game ∈ lobby.games)
    (after : later ∈ (lobby.createGame user name).state.games) (number : later.id = game.id) :
    later = game := by
  have old (other : later ∈ lobby.games) : later = game :=
    game_unique kept (List.mem_append_left _ live) (List.mem_append_left _ other) number
  have new {user : User} (isNew : later.id = (lobby.founded user name).id) : later = game :=
    absurd (List.mem_map.mpr ⟨game.party, Lobby.mem_parties live, number.symm.trans isNew⟩)
      ((kept.counted (Nat.lt_of_succ_lt few)).fresh user name few)
  have founded {user : User} (member : later ∈ (lobby.withFounded user name).games) :
      later = game := by
    rcases List.mem_append.mp member with other | isNew
    · exact old (List.mem_filter.mp other).1
    · exact new (congrArg Game.id (List.mem_singleton.mp isNew))
  rcases lobby.createGame_cases user name with
    refused | ⟨owner, -, -, -, -, -, ⟨-, state⟩ | ⟨-, makes⟩⟩
  · rw [refused.state] at after
    exact old after
  · rw [state, kept.neat.founded_self] at after
    exact founded after
  · rw [makes.state] at after
    rcases Lobby.mem_games_withRoom after with ⟨isNew, -⟩ | ⟨member, -⟩
    · have number : later.id = (lobby.founded owner name).id := by
        rw [isNew]
        rfl
      exact new number
    · exact founded member

/-- So a game that begins to wait does so because users part. -/
theorem waits_step {settings : Settings} (kept : venue.lobby.Kept settings venue.created)
    (few : venue.created + 1 < 2 ^ 32 - 1) {move : Move} {game later : Game}
    (live : game ∈ venue.lobby.games) (after : later ∈ (venue.step move).lobby.games)
    (number : later.id = game.id) (going : game.status ≠ .waiting)
    (waiting : later.status = .waiting) : move.Parts := by
  by_contra stays
  by_cases creates : move.Creates
  · cases move with
    | create user name => exact going (same_createGame kept few live after number ▸ waiting)
    | _ => exact creates
  obtain ⟨source, origin, name, waits⟩ := venue.follows_step
    (fun game later =>
      later.id = game.id ∧ (later.status = .waiting → game.status = .waiting))
    (fun _ => ⟨rfl, fun waiting => waiting⟩)
    (fun first second => ⟨second.1.trans first.1, fun waiting => first.2 (second.2 waiting)⟩)
    (fun room deed asked fits => by
      have turn := Room.turn_perform fits
      refine ⟨turn.number, fun waiting => (turn.waits waiting).resolve_right ?_⟩
      rintro ⟨user, rfl | rfl⟩
      · exact stays (parts_of_asks (.inl asked))
      · exact stays (parts_of_asks (.inr asked)))
    later (List.mem_append_left _ after)
  rcases origin with old | ⟨made, -⟩
  · obtain rfl := game_unique kept (List.mem_append_left _ live) old (name.symm.trans number)
    exact going (waits waiting)
  · exact creates made

/-- Whatever has happened at a venue: a live game waits, has no queues and has no
member that plays, all at once or not at all.  A user is connecting exactly as long
as it is not logged in; one that plays has an entry that names a game.  It is a member of
it on condition that fewer than 2³² - 1 games have been created: then numbers begin
again, and a new game takes the place of the one with its number.  So a game begins
to wait again exactly when the last of its players is one no more, and that is
because somebody parts. -/
theorem lifecycle (settings : Settings) (moves : List Move) :
    (∀ game ∈ ((opened settings).run moves).lobby.games,
        (game.status = .waiting ↔ game.queues = []) ∧
          (game.status = .waiting ↔ ∀ member ∈ game.members,
            (((opened settings).run moves).lobby.people.person member).status ≠ .playing)) ∧
      (∀ user ∈ ((opened settings).run moves).lobby.people.present,
        (user.status = .connecting ↔ user.loggedIn = false) ∧
          (user.status = .playing → ∃ number, user.game = some number ∧
            (((opened settings).run moves).created < 2 ^ 32 - 1 →
              ∃ game ∈ ((opened settings).run moves).lobby.games,
                game.id = number ∧ user.id ∈ game.members))) ∧
      ∀ (move : Move), ∀ game ∈ ((opened settings).run moves).lobby.games,
        ∀ later ∈ (((opened settings).run moves).step move).lobby.games, later.id = game.id →
          (game.status ≠ .waiting ∧ later.status = .waiting ↔
            (∃ member ∈ game.members,
              (((opened settings).run moves).lobby.people.person member).status = .playing) ∧
            ∀ member ∈ later.members,
              ((((opened settings).run moves).step move).lobby.people.person member).status ≠
                .playing) ∧
          (((opened settings).run moves).created + 1 < 2 ^ 32 - 1 →
            game.status ≠ .waiting → later.status = .waiting → move.Parts) := by
  have lively := fun moves => (observes_run Game.custom_lively settings moves).each
  have proper := proper_run settings moves
  have kept := kept_opened settings moves
  refine ⟨fun game live => ?_, fun user registered => ?_, fun move game live later after number =>
    ⟨?_, fun few => waits_step kept few live after number⟩⟩
  · exact ⟨(lively moves game live).queues_eq_nil_iff.symm, (lively moves game live).idle_iff.symm⟩
  · refine ⟨(proper user registered).connecting, fun plays => ?_⟩
    obtain ⟨number, place⟩ := Option.isSome_iff_exists.mp ((proper user registered).placed plays)
    exact ⟨number, place, fun few => game_of_entry kept few registered place⟩
  · have before := lively moves game live
    have stepped : ((opened settings).run (moves ++ [move])) =
        ((opened settings).run moves).step move := run_append _ moves [move]
    have since := lively (moves ++ [move]) later (stepped ▸ after)
    rw [stepped] at since
    refine and_congr ⟨before.busy, fun plays waiting => ?_⟩ since.idle_iff.symm
    obtain ⟨member, here, plays⟩ := plays
    exact before.idle waiting member here plays

/-- Ada plays with Bo and Cy.  Cy is dropped and Bo leaves, so only Ada plays. -/
def lastPlayer : List Move :=
  arrival 1 "Ada" ++ arrival 2 "Bo" ++ arrival 3 "Cy" ++
    [.create 1 "trio", .join 2 1, .join 3 1, .start 1, .ready 1, .ready 2, .drop 3, .leave 2]

/-- Then Ada is dropped, too. -/
theorem lifecycle_lastPlayer :
    ((opened {}).run lastPlayer).lobby.games.map (·.status) = [.synchronizing] ∧
      (((opened {}).run lastPlayer).step (.drop 1)).lobby.games.map (·.status) = [.waiting] ∧
      ∀ game ∈ ((opened {}).run lastPlayer).lobby.games,
        ∀ later ∈ (((opened {}).run lastPlayer).step (.drop 1)).lobby.games,
          (∃ member ∈ game.members,
            (((opened {}).run lastPlayer).lobby.people.person member).status = .playing) ∧
          ∀ member ∈ later.members,
            ((((opened {}).run lastPlayer).step (.drop 1)).lobby.people.person member).status ≠
              .playing := by
  refine ⟨by decide +kernel, by decide +kernel, fun game live later after => ?_⟩
  have number : ∀ game ∈ ((opened {}).run lastPlayer).lobby.games,
      game.id = 1 ∧ game.status ≠ .waiting := by decide +kernel
  have still : ∀ game ∈ (((opened {}).run lastPlayer).step (.drop 1)).lobby.games,
      game.id = 1 ∧ game.status = .waiting := by decide +kernel
  have cycle := (lifecycle {} lastPlayer).2.2 (.drop 1) game live later after
    ((still later after).1.trans (number game live).1.symm)
  exact cycle.1.mp ⟨(number game live).2, (still later after).2⟩

end Venue

end Netplay
