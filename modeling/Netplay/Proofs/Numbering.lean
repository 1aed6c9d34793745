/-
Module: Netplay.Proofs.Numbering
Purpose: The numbers of the players: they are distinct, and while a game waits
  they follow the order in which members joined, unless a round has ended that
  somebody had left.
Main exports:
  Room.numbers, Room.Numbered, Game.Gapped, Room.Mustered, Hall.Frayed,
  Hall.mustered_run, Hall.numbering
-/
import Mathlib.Data.List.Induction
import Netplay.Proofs.Customs
import Netplay.Proofs.TimeoutBound

namespace Netplay

open Roster

/-! ## Numbers -/

namespace Room

/-- The player numbers of the members, in the order they joined. -/
def numbers (room : Room) : List Nat :=
  room.game.members.map fun member => (room.people.person member).player.toNat

/-- The first member has number one, the second has number two, and so on. -/
def Numbered (room : Room) : Prop := room.numbers = List.range' 1 room.game.members.length

instance (room : Room) : Decidable room.Numbered := inferInstanceAs (Decidable (_ = _))

section Numbers

variable {room after : Room} {id : UserId}

theorem length_numbers (room : Room) : room.numbers.length = room.game.members.length :=
  List.length_map ..

/-- Members are numbered one by one. -/
theorem Numbered.of_each (each : ∀ (index : Nat) (member : UserId),
    room.game.members[index]? = some member →
      (room.people.person member).player.toNat = index + 1) : room.Numbered := by
  refine List.ext_getElem (room.length_numbers.trans (List.length_range' ..).symm)
    fun index inside _ => ?_
  have bound : index < room.game.members.length := room.length_numbers ▸ inside
  have number := each index _ (List.getElem?_eq_getElem bound)
  rw [List.getElem_range', Nat.one_mul, Nat.add_comm, ← number]
  exact List.getElem_map ..

theorem getElem?_numbers {index : Nat} {member : UserId}
    (place : room.game.members[index]? = some member) :
    room.numbers[index]? = some (room.people.person member).player.toNat := by
  rw [numbers, List.getElem?_map, place]
  rfl

theorem Numbered.value (numbered : room.Numbered) {index number : Nat}
    (place : room.numbers[index]? = some number) : number = index + 1 := by
  have inside := (List.getElem?_eq_some_iff.mp place).1
  rw [length_numbers] at inside
  rw [numbered, List.getElem?_range' inside, Nat.one_mul, Nat.add_comm] at place
  exact (Option.some.inj place).symm

theorem Numbered.each (numbered : room.Numbered) {index : Nat} {member : UserId}
    (place : room.game.members[index]? = some member) :
    (room.people.person member).player.toNat = index + 1 :=
  numbered.value (getElem?_numbers place)

/-- Numbers in order are distinct. -/
theorem Numbered.nodup (numbered : room.Numbered) : room.numbers.Nodup := by
  rw [numbered]
  exact List.nodup_range'

/-- In order, the next number is one that nobody has. -/
theorem Numbered.next (numbered : room.Numbered) :
    room.game.members.length + 1 ∉ room.numbers := by
  rw [numbered, List.mem_range'_1]
  omega

/-- Numbers show members and their numbers only. -/
theorem numbers_congr (members : after.game.members = room.game.members)
    (same : ∀ member ∈ room.game.members,
      (after.people.person member).player = (room.people.person member).player) :
    after.numbers = room.numbers := by
  rw [numbers, members]
  exact List.map_congr_left fun member here => congrArg UInt8.toNat (same member here)

theorem Numbered.congr (numbered : room.Numbered)
    (members : after.game.members = room.game.members)
    (numbers : after.numbers = room.numbers) : after.Numbered := by
  rw [Numbered, numbers, members]
  exact numbered

end Numbers

/-! ### What operations make of the numbers -/

section Operations

variable {room : Room} {id : UserId} {slot : Nat}

/-- Others do not notice that a user joins. -/
theorem person_joined {member : UserId} (differs : member ≠ id) :
    (room.joined id).people.person member = room.people.person member := by
  refine person_update_other ?_ differs
  exact fun _ => rfl

/-- A user that joins gets the number after the last place. -/
theorem player_joined (known : (room.people.find? id).isSome)
    (space : room.game.members.length < room.game.settings.maxPlayers.toNat) :
    ((room.joined id).people.person id).player.toNat = room.game.members.length + 1 := by
  have small := room.game.settings.maxPlayers.toNat_lt
  have keeps : ∀ user : User, (user.enterGame room.game.id
      (UInt8.ofNat (room.game.members ++ [id]).length)).id = user.id := fun _ => rfl
  rw [joined]
  simp only
  rw [person_update_self keeps known, User.enterGame, List.length_append]
  exact Nat.mod_eq_of_lt (Nat.lt_of_le_of_lt space small)

theorem numbers_joined (new : id ∉ room.game.members) (known : (room.people.find? id).isSome)
    (space : room.game.members.length < room.game.settings.maxPlayers.toNat) :
    (room.joined id).numbers = room.numbers ++ [room.game.members.length + 1] := by
  refine (List.map_append ..).trans (congrArg₂ (· ++ ·) ?_ ?_)
  · refine List.map_congr_left fun member here => ?_
    rw [person_joined fun same : member = id => new (same ▸ here)]
  · exact congrArg (fun number => [number]) (player_joined known space)

/-- The number that joining returns is that of the next place. -/
theorem join_number {number : UInt8} (joins : (room.join id).result = .ok number) :
    room.game.status = .waiting ∧ number.toNat = room.game.members.length + 1 := by
  have small := room.game.settings.maxPlayers.toNat_lt
  rw [join] at joins
  simp only at joins
  split at joins
  · cases joins
  · split at joins
    · cases joins
    · split at joins
      · cases joins
      · rename_i waiting
        split at joins
        · cases joins
        · rename_i space
          obtain rfl := Except.ok.inj joins
          refine ⟨Decidable.not_not.mp waiting, ?_⟩
          rw [List.length_append]
          exact Nat.mod_eq_of_lt (Nat.lt_of_le_of_lt (Nat.lt_of_not_le space) small)

/-- Going out of the round changes no number. -/
theorem numbers_bench (room : Room) (id : UserId) (slot : Nat) :
    (room.bench id slot).game.members = room.game.members ∧
      (room.bench id slot).numbers = room.numbers := by
  have members : (room.bench id slot).game.members = room.game.members := by
    have hushed := (Game.Keeps.hush room.game slot).members
    unfold bench
    split
    · exact hushed
    · exact (Game.Keeps.endRound _).members.trans hushed
  refine ⟨members, numbers_congr members fun member _ => ?_⟩
  have player : ((room.rested id).person member).player = (room.people.person member).player :=
    field_update (·.player) (fun _ => rfl) fun _ => rfl
  unfold bench
  split
  · exact player
  · exact player

/-- When a member leaves a game that waits, the others are numbered anew. -/
theorem numbered_without (seated : room.game.Seated room.people)
    (waiting : room.game.status = .waiting) : (room.without id).Numbered := by
  have sublist : (room.game.members.filter (· ≠ id)).Sublist room.game.members :=
    List.filter_sublist
  have known : ∀ member ∈ room.game.members.filter (· ≠ id),
      ((room.people.update id (·.leaveGame)).find? member).isSome := by
    intro member here
    refine (isSome_find?_update ?_).trans (seated.known member (sublist.subset here))
    exact fun _ => rfl
  have keeps : ∀ player user, (renumber player user).id = user.id := fun _ _ => rfl
  refine .of_each fun index member place => ?_
  have small := room.game.settings.maxPlayers.toNat_lt
  have few := Nat.le_trans sublist.length_le seated.few
  have inside := (List.getElem?_eq_some_iff.mp place).1
  rw [without, if_pos waiting]
  simp only
  rw [person_numberPlayers keeps (sublist.nodup seated.nodup) known place]
  exact Nat.mod_eq_of_lt (Nat.lt_of_le_of_lt (Nat.le_trans inside few) small)

end Operations

end Room

/-! ## Gaps -/

/-- What is left of a list is its front, if nothing is gone that stood before
something that is left. -/
theorem prefix_of_sublist {α : Type} {rest list : List α} (sublist : rest.Sublist list)
    (nodup : list.Nodup) (solid : ∀ (first second : Nat) (before after : α),
      list[first]? = some before → list[second]? = some after → first < second →
        after ∈ rest → before ∈ rest) : rest <+: list := by
  induction sublist with
  | slnil => exact List.prefix_rfl
  | @cons rest list head sublist inductionHypothesis =>
      cases rest with
      | nil => exact List.nil_prefix
      | cons next others =>
          -- The head is gone, but what is left stood behind it.
          obtain ⟨place, found⟩ := List.getElem?_of_mem (sublist.subset List.mem_cons_self)
          have left := solid 0 (place + 1) head next rfl found (Nat.succ_pos place)
            List.mem_cons_self
          exact absurd (sublist.subset left) (List.nodup_cons.mp nodup).1
  | @cons_cons rest list head sublist inductionHypothesis =>
      obtain ⟨absent, nodup⟩ := List.nodup_cons.mp nodup
      refine List.cons_prefix_cons.mpr ⟨rfl, inductionHypothesis nodup ?_⟩
      intro first second before after firstPlace secondPlace earlier left
      have stays := solid (first + 1) (second + 1) before after firstPlace secondPlace
        (Nat.succ_lt_succ earlier) (List.mem_cons_of_mem _ left)
      rcases List.mem_cons.mp stays with rfl | stays
      · exact absurd (List.mem_of_getElem? firstPlace) absent
      · exact stays

namespace Game

/-- The players of the round that is on, in the order of their numbers. -/
def lineup (game : Game) : List UserId := game.queues.map (·.user)

/-- A player of the round that is on has left the game, and one with a higher
number has not. -/
def Gapped (game : Game) : Prop :=
  ∃ (first second : Nat) (before after : UserId), game.lineup[first]? = some before ∧
    game.lineup[second]? = some after ∧ first < second ∧ before ∉ game.members ∧
      after ∈ game.members

variable {game : Game} {people : Roster}

theorem lineup_seats (game : Game) : game.seats.map (·.user) = game.lineup := by
  rw [seats, List.map_map]
  rfl

/-- Members have the numbers of their queues. -/
theorem Seated.number (seated : game.Seated people) {slot : Nat} {member : UserId}
    (place : game.lineup[slot]? = some member) (here : member ∈ game.members) :
    (people.person member).player.toNat = slot + 1 := by
  have on : game.seats ≠ [] := by
    intro none
    rw [← lineup_seats, none] at place
    cases place
  obtain ⟨own, seat, ownPlace, user, number⟩ := seated.sits on member here
  have ownUser : game.lineup[own]? = some member := by
    rw [← lineup_seats, List.getElem?_map, ownPlace]
    exact congrArg some user
  have inside := (List.getElem?_eq_some_iff.mp ownUser).1
  have distinct : game.lineup.Nodup := game.lineup_seats ▸ seated.own
  obtain rfl : own = slot :=
    (List.getElem?_inj inside distinct).mp (ownUser.trans place.symm)
  exact number

end Game

namespace Room

variable {room after : Room}

/-- The members of a game that is not waiting have numbers of their own. -/
theorem numbers_nodup (seated : room.game.Seated room.people)
    (busy : room.game.status ≠ .waiting) : room.numbers.Nodup := by
  refine List.Nodup.map_on (fun member here other there same => ?_) seated.nodup
  have on : room.game.seats ≠ [] := by
    intro none
    rw [seated.empty busy none] at here
    cases here
  obtain ⟨slot, seat, place, rfl, number⟩ := seated.sits on member here
  obtain ⟨another, otherSeat, otherPlace, rfl, otherNumber⟩ := seated.sits on other there
  obtain rfl : slot = another := by omega
  rw [place] at otherPlace
  cases otherPlace
  rfl

/-- Those who are in a game that is not waiting were in it when the round
started. -/
structure Mustered (room : Room) : Prop where
  seated : room.game.Seated room.people
  remain : room.game.status ≠ .waiting → room.game.members.Sublist room.game.lineup

/-- With a gap, the members are not numbered in order. -/
theorem Mustered.not_numbered (mustered : room.Mustered) (busy : room.game.status ≠ .waiting)
    (gapped : room.game.Gapped) : ¬ room.Numbered := by
  intro numbered
  obtain ⟨first, second, before, after, gone, stays, earlier, absent, here⟩ := gapped
  obtain ⟨place, afterPlace⟩ := List.getElem?_of_mem here
  have behind : place = second := Nat.succ.inj
    ((numbered.each afterPlace).symm.trans (mustered.seated.number stays here))
  have inside := (List.getElem?_eq_some_iff.mp afterPlace).1
  -- The member in the first of the two places is a player with the number of the one gone.
  obtain ⟨member, memberPlace⟩ : ∃ member, room.game.members[first]? = some member :=
    ⟨_, List.getElem?_eq_getElem (by omega)⟩
  have there := List.mem_of_getElem? memberPlace
  obtain ⟨slot, slotPlace⟩ := List.getElem?_of_mem ((mustered.remain busy).subset there)
  have same : slot = first := Nat.succ.inj
    ((mustered.seated.number slotPlace there).symm.trans (numbered.each memberPlace))
  rw [same, gone] at slotPlace
  exact absent (Option.some.inj slotPlace ▸ there)

/-- Without one, they are. -/
theorem Mustered.numbered (mustered : room.Mustered) (busy : room.game.status ≠ .waiting)
    (solid : ¬ room.game.Gapped) : room.Numbered := by
  have front : room.game.members <+: room.game.lineup := by
    refine prefix_of_sublist (mustered.remain busy)
      (room.game.lineup_seats ▸ mustered.seated.own) ?_
    intro first second before after firstPlace secondPlace earlier stays
    by_contra gone
    exact solid ⟨first, second, before, after, firstPlace, secondPlace, earlier, gone, stays⟩
  obtain ⟨others, same⟩ := front
  refine .of_each fun index member place => ?_
  refine mustered.seated.number ?_ (List.mem_of_getElem? place)
  rw [← same, List.getElem?_append_left (List.getElem?_eq_some_iff.mp place).1]
  exact place

/-! ### What moves keep -/

/-- Work on merges moves nobody. -/
theorem Mustered.works (mustered : room.Mustered) (works : room.Works after) :
    after.Mustered where
  seated := works.people ▸ seated_works mustered.seated works.game
  remain := by
    have lineup : after.game.lineup = room.game.lineup := by
      rw [← Game.lineup_seats, ← Game.lineup_seats]
      exact congrArg _ works.game.queues.seats
    obtain ⟨_, _, _, _, _, frame⟩ := works.game.frame
    rw [lineup, frame]
    exact mustered.remain

/-- Nor does a player that goes out of the round. -/
theorem Mustered.bench (mustered : room.Mustered) (id : UserId) (slot : Nat) :
    (room.bench id slot).Mustered where
  seated := seated_bench mustered.seated id slot
  remain := by
    have hushed := mustered.works (.of_game (.of_dims (room.game.dims_hush slot)))
    unfold Room.bench
    split
    · exact hushed.remain
    · exact fun busy => absurd rfl busy

/-- A member leaves, and the others stay. -/
theorem Mustered.without (mustered : room.Mustered) (id : UserId) :
    (room.without id).Mustered where
  seated := seated_without mustered.seated id
  remain := fun busy => List.filter_sublist.trans (mustered.remain busy)

/-- Getting ready is done by those who are there. -/
theorem Mustered.ready {slot : Nat} {status : GameStatus} {synched : Bool}
    (mustered : room.Mustered) (gathering : room.game.status = .synchronizing)
    (next : status ≠ .waiting) : Mustered
      { room with
        game := { room.game with
          queues := room.marked slot, status := status, synched := synched } } where
  seated := seated_ready mustered.seated gathering next
  remain := fun _ => by
    have lineup : (room.marked slot).map (·.user) = room.game.lineup :=
      fields_modify (fun queue => congrArg Seat.user (queue.seat_setSynched true)) _ slot
    rw [Game.lineup, lineup]
    exact mustered.remain (by rw [gathering]; decide)

/-- Nobody is left in a game that is closed. -/
theorem Mustered.closed {silent : Game} (mustered : room.Mustered)
    (dims : room.game.Dims silent) (later : Roster) :
    Mustered ⟨{ silent with members := [] }.endRound, later⟩ := by
  obtain ⟨_, _, frame⟩ := Game.endRound_frame { silent with members := [] }
  obtain ⟨_, _, _, _, same⟩ := dims.frame
  refine ⟨mustered.seated.idle ?_ ?_ ?_ (.inr ?_) ?_, ?_⟩
  · rw [frame, same]
  · rw [frame]
    exact List.nil_sublist _
  · rw [frame]
  · rw [frame]
  · rw [frame]
    exact fun member here => by cases here
  · rw [frame]
    exact fun _ => List.nil_sublist _

/-- Whatever members do, those who are in a round were in it when it
started. -/
theorem Mustered.does {move : Move} (mustered : room.Mustered) (does : room.Does move after) :
    after.Mustered := by
  cases does with
  | rest => exact mustered
  | join new waiting space known =>
      exact ⟨seated_joined mustered.seated new waiting space known,
        fun busy => absurd waiting busy⟩
  | @start id actions waiting someone =>
      refine ⟨seated_start mustered.seated waiting actions, fun _ => ?_⟩
      have members := (Game.Keeps.endRound room.game).members
      have lineup : (room.commence actions).game.lineup = room.game.endRound.members :=
        room.game.endRound.users_startQueues
      rw [lineup]
      exact List.Sublist.refl _
  | allReady member gathering seat all => exact mustered.ready gathering (by decide)
  | @ready id slot member gathering seat missing =>
      have kept : Mustered
          { room with
            game := { room.game with
              queues := room.marked slot
              status := room.game.status
              synched := room.game.synched } } :=
        mustered.ready gathering (by rw [gathering]; decide)
      exact kept
  | drop member seat => exact mustered.bench _ _
  | @quit id member =>
      rcases room.left_cases id with stays | ⟨slot, -, leaves⟩
      · rw [stays]
        exact mustered.without id
      · rw [leaves]
        exact (mustered.bench id slot).without id
  | kick kicked =>
      exact ⟨mustered.seated.of_seats rfl rfl rfl Iff.rfl, mustered.remain⟩
  | close dims mute off => exact mustered.closed dims _
  | gap slot => exact mustered.works (.of_game (.of_dims (room.game.dims_hush slot)))

/-- What a move makes of the numbers.  A round is on, or the members are numbered in
order, or they and their numbers are as before, which takes a drop where a round was
on; or somebody has joined. -/
inductive Recounts (room : Room) (move : Move) (after : Room) : Prop where
  | busy (on : after.game.status ≠ .waiting)
  | anew (numbered : after.Numbered)
  | same (members : after.game.members = room.game.members)
      (numbers : after.numbers = room.numbers)
      (cause : room.game.status = .waiting ∨ ∃ user, move = .drop user)
  | joined {id : UserId} (waiting : room.game.status = .waiting)
      (members : after.game.members = room.game.members ++ [id])
      (numbers : after.numbers = room.numbers ++ [room.game.members.length + 1])

/-- What changes neither members nor numbers nor the status. -/
theorem Recounts.of_same {move : Move} (status : after.game.status = room.game.status)
    (members : after.game.members = room.game.members) (people : after.people = room.people) :
    room.Recounts move after := by
  by_cases waiting : room.game.status = .waiting
  · exact .same members (numbers_congr members fun _ _ => by rw [people]) (.inl waiting)
  · exact .busy (status ▸ waiting)

theorem Recounts.works {move : Move} (works : room.Works after) : room.Recounts move after := by
  obtain ⟨_, _, _, _, _, frame⟩ := works.game.frame
  exact .of_same (by rw [frame]) (by rw [frame]) works.people

/-- When a member leaves, the others are numbered anew unless a round is on. -/
theorem Recounts.without {move : Move} (mustered : after.Mustered) (id : UserId) :
    room.Recounts move (after.without id) := by
  by_cases waiting : after.game.status = .waiting
  · exact .anew (numbered_without mustered.seated waiting)
  · exact .busy waiting

theorem Mustered.recounts {move : Move} (mustered : room.Mustered)
    (does : room.Does move after) : room.Recounts move after := by
  cases does with
  | rest => exact .of_same rfl rfl rfl
  | join new waiting space known =>
      exact .joined waiting rfl (numbers_joined new known space)
  | start waiting someone => exact .busy fun same => by cases same
  | allReady member gathering seat all => exact .busy fun same => by cases same
  | ready member gathering seat missing => exact .of_same rfl rfl rfl
  | @drop id slot member seat =>
      obtain ⟨members, numbers⟩ := room.numbers_bench id slot
      exact .same members numbers (.inr ⟨id, rfl⟩)
  | @quit id member =>
      rcases room.left_cases id with stays | ⟨slot, -, leaves⟩
      · rw [stays]
        exact .without mustered id
      · rw [leaves]
        exact .without (mustered.bench id slot) id
  | kick kicked => exact .of_same rfl rfl rfl
  | @close silent dims mute off =>
      obtain ⟨_, _, frame⟩ := Game.endRound_frame { silent with members := [] }
      refine .anew ?_
      rw [Numbered, numbers, frame]
      rfl
  | gap slot => exact .works (.of_game (.of_dims (room.game.dims_hush slot)))

end Room

/-! ## Runs -/

namespace Hall

variable {hall : Hall}

/-- Along every run, those who are in a round were in it when it started. -/
theorem mustered_run (mustered : hall.room.Mustered) (moves : List Move) :
    (hall.run moves).room.Mustered := by
  induction moves generalizing hall with
  | nil => exact mustered
  | cons move rest inductionHypothesis =>
      refine inductionHypothesis ?_
      rcases hall.does_step move with does | works
      · exact mustered.does does
      · exact mustered.works works

theorem recounts_step (mustered : hall.room.Mustered) (move : Move) :
    hall.room.Recounts move (hall.step move).room := by
  rcases hall.does_step move with does | works
  · exact mustered.recounts does
  · exact .works works

/-- The last of the first moves ends a round, in which there is a gap, with the drop of
a user.  Since then the game has been waiting, and nobody has left. -/
structure Frayed (hall : Hall) (before : List Move) (user : UserId) (after : List Move) :
    Prop where
  busy : (hall.run before).room.game.status ≠ .waiting
  gapped : (hall.run before).room.game.Gapped
  since : ∀ rest, rest <+: after →
    (hall.run (before ++ .drop user :: rest)).room.game.status = .waiting ∧
      (hall.run before).room.game.members <+:
        (hall.run (before ++ .drop user :: rest)).room.game.members ∧
      (hall.run before).room.numbers <+: (hall.run (before ++ .drop user :: rest)).room.numbers

/-- Somewhere among the moves is such a drop. -/
def Frays (hall : Hall) (moves : List Move) : Prop :=
  ∃ before user after, moves = before ++ .drop user :: after ∧ hall.Frayed before user after

/-- The numbers stay as they are as long as the game waits and nobody leaves. -/
theorem Frays.extend {moves : List Move} {move : Move} (frays : hall.Frays moves)
    (waiting : (hall.run (moves ++ [move])).room.game.status = .waiting)
    (members : (hall.run moves).room.game.members <+:
      (hall.run (moves ++ [move])).room.game.members)
    (numbers : (hall.run moves).room.numbers <+: (hall.run (moves ++ [move])).room.numbers) :
    hall.Frays (moves ++ [move]) := by
  obtain ⟨before, user, after, rfl, busy, gapped, since⟩ := frays
  obtain ⟨-, oldMembers, oldNumbers⟩ := since after List.prefix_rfl
  refine ⟨before, user, after ++ [move], List.append_assoc .., busy, gapped,
    fun rest front => ?_⟩
  rcases List.prefix_concat_iff.mp front with rfl | earlier
  · rw [List.append_assoc] at waiting members numbers
    exact ⟨waiting, oldMembers.trans members, oldNumbers.trans numbers⟩
  · exact since rest earlier

/-- Then the members are not numbered in order. -/
theorem Frayed.not_numbered {before after : List Move} {user : UserId}
    (frayed : hall.Frayed before user after) (mustered : hall.room.Mustered) :
    ¬ (hall.run (before ++ .drop user :: after)).room.Numbered := by
  intro numbered
  obtain ⟨-, -, numbers⟩ := frayed.since after List.prefix_rfl
  refine (mustered_run mustered before).not_numbered frayed.busy frayed.gapped ?_
  obtain ⟨others, same⟩ := numbers
  refine .of_each fun index member place => ?_
  have number := Room.getElem?_numbers place
  refine numbered.value ?_
  rw [← same, List.getElem?_append_left (List.getElem?_eq_some_iff.mp number).1]
  exact number

/-- As long as nobody joins, the numbers are distinct all the same. -/
theorem Frayed.nodup {before after : List Move} {user : UserId}
    (frayed : hall.Frayed before user after) (mustered : hall.room.Mustered)
    (members : (hall.run (before ++ .drop user :: after)).room.game.members =
      (hall.run before).room.game.members) :
    (hall.run (before ++ .drop user :: after)).room.numbers.Nodup := by
  obtain ⟨-, -, numbers⟩ := frayed.since after List.prefix_rfl
  have length : (hall.run before).room.numbers.length =
      (hall.run (before ++ .drop user :: after)).room.numbers.length := by
    rw [Room.length_numbers, Room.length_numbers, members]
  rw [← numbers.eq_of_length length]
  exact Room.numbers_nodup (mustered_run mustered before).seated frayed.busy

/-- Where a game waits, its members are numbered in order, or a round has frayed. -/
theorem numbered_run (mustered : hall.room.Mustered) (numbered : hall.room.Numbered)
    (moves : List Move) : (hall.run moves).room.game.status ≠ .waiting ∨
      (hall.run moves).room.Numbered ∨ hall.Frays moves := by
  induction moves using List.reverseRecOn with
  | nil => exact .inr (.inl numbered)
  | append_singleton moves move inductionHypothesis =>
      by_cases waiting : (hall.run (moves ++ [move])).room.game.status = .waiting
      · have musters := mustered_run mustered moves
        have recounts : (hall.run moves).room.Recounts move (hall.run (moves ++ [move])).room :=
          run_append hall moves [move] ▸ recounts_step musters move
        refine .inr ?_
        cases recounts with
        | busy on => exact absurd waiting on
        | anew again => exact .inl again
        | same members numbers cause =>
            rcases inductionHypothesis with busy | inOrder | frays
            · rcases cause with idle | ⟨user, rfl⟩
              · exact absurd idle busy
              · by_cases gapped : (hall.run moves).room.game.Gapped
                · refine .inr ⟨moves, user, [], rfl, busy, gapped, fun rest front => ?_⟩
                  rw [List.prefix_nil.mp front, members, numbers]
                  exact ⟨waiting, List.prefix_rfl, List.prefix_rfl⟩
                · exact .inl ((musters.numbered busy gapped).congr members numbers)
            · exact .inl (inOrder.congr members numbers)
            · refine .inr (frays.extend waiting ?_ ?_)
              · rw [members]
              · rw [numbers]
        | @joined id idle members numbers =>
            rcases inductionHypothesis with busy | inOrder | frays
            · exact absurd idle busy
            · refine .inl ?_
              rw [Room.Numbered, numbers, members, inOrder, List.length_append,
                List.length_singleton, List.range'_1_concat, Nat.add_comm 1]
            · refine .inr (frays.extend waiting ?_ ?_)
              · rw [members]
                exact List.prefix_append ..
              · rw [numbers]
                exact List.prefix_append ..
      · exact .inl waiting

/-- A game that nobody has joined yet is in order. -/
theorem mustered_fresh (id : GameId) (name : String) (owner : User) (settings : GameSettings)
    (people : Roster) : (fresh id name owner settings people).room.Mustered where
  seated := Game.seated_create id name owner settings people
  remain := fun _ => List.nil_sublist _

/-- Whatever has happened to a game, unless a round has ended in it by a drop after a
player had left it while one with a higher number had not: members have distinct numbers;
while the game waits, they are numbered in the order they joined; and a user that joins
gets the next number, which nobody has.

Where a round has ended so, the members are not numbered in order until the next round
starts or somebody leaves, but they have distinct numbers as long as nobody joins. -/
theorem numbering (id : GameId) (name : String) (owner : User) (settings : GameSettings)
    (people : Roster) (moves : List Move) :
    let hall := fresh id name owner settings people
    let room := (hall.run moves).room
    (¬ hall.Frays moves →
        room.numbers.Nodup ∧ (room.game.status = .waiting → room.Numbered) ∧
          ∀ user number, (room.join user).result = .ok number →
            number.toNat = room.game.members.length + 1 ∧ number.toNat ∉ room.numbers) ∧
      ∀ before user after, moves = before ++ .drop user :: after →
        hall.Frayed before user after →
          room.game.status = .waiting ∧ ¬ room.Numbered ∧
            (room.game.members = (hall.run before).room.game.members → room.numbers.Nodup) := by
  intro hall room
  have start : hall.room.Mustered := mustered_fresh id name owner settings people
  have mustered : room.Mustered := mustered_run start moves
  refine ⟨fun whole => ?_, fun before user after split frayed => ?_⟩
  · have numbered : room.game.status = .waiting → room.Numbered := fun waiting => by
      rcases numbered_run start rfl moves with busy | inOrder | frays
      · exact absurd waiting busy
      · exact inOrder
      · exact absurd frays whole
    refine ⟨?_, numbered, fun user number joins => ?_⟩
    · by_cases waiting : room.game.status = .waiting
      · exact (numbered waiting).nodup
      · exact Room.numbers_nodup mustered.seated waiting
    · obtain ⟨waiting, next⟩ := Room.join_number joins
      exact ⟨next, next ▸ (numbered waiting).next⟩
  · subst split
    exact ⟨(frayed.since after List.prefix_rfl).1, frayed.not_numbered start,
      frayed.nodup start⟩

/-- A game that four users may join. -/
def quartet : Hall :=
  fresh 1 "" (guest 1) {} ⟨[guest 1, guest 2, guest 3, guest 4], []⟩

/-- Three users play, the second one leaves, and the others drop out. -/
def lostMiddle : List Move :=
  [.join 1, .join 2, .join 3, .start 1, .ready 1, .ready 2, .ready 3, .quit 2, .drop 1, .drop 3]

/-- After that somebody joins and somebody leaves: all is well again. -/
theorem numbering_healed :
    ¬ quartet.Frays (lostMiddle ++ [.join 4, .quit 3]) ∧
      (quartet.run (lostMiddle ++ [.join 4, .quit 3])).room.numbers = [1, 2] ∧
      ((quartet.run (lostMiddle ++ [.join 4, .quit 3])).room.join 2).result = .ok 3 ∧
      (3 : UInt8).toNat ∉ (quartet.run (lostMiddle ++ [.join 4, .quit 3])).room.numbers := by
  have numbering := numbering 1 "" (guest 1) {} ⟨[guest 1, guest 2, guest 3, guest 4], []⟩
    (lostMiddle ++ [.join 4, .quit 3])
  have inOrder : (quartet.run (lostMiddle ++ [.join 4, .quit 3])).room.Numbered := by
    decide +kernel
  have whole : ¬ quartet.Frays (lostMiddle ++ [.join 4, .quit 3]) :=
    fun ⟨before, user, after, split, frayed⟩ =>
      (numbering.2 before user after split frayed).2.1 inOrder
  have joins : ((quartet.run (lostMiddle ++ [.join 4, .quit 3])).room.join 2).result = .ok 3 := by
    decide +kernel
  exact ⟨whole, by decide +kernel, joins, ((numbering.1 whole).2.2 2 3 joins).2⟩

/-- Before somebody leaves, the one that joins gets a number that is taken: the members
were not numbered in order any more. -/
theorem number_shared :
    (quartet.run lostMiddle).room.game.status = .waiting ∧
      (quartet.run lostMiddle).room.numbers = [1, 3] ∧
      ((quartet.run lostMiddle).room.join 4).result = .ok 3 ∧
      (quartet.run (lostMiddle ++ [.join 4])).room.numbers = [1, 3, 3] := by
  decide +kernel

end Hall

end Netplay
