/-
Module: Netplay.Proofs.Membership
Purpose: Whatever members do besides playing keeps the invariant of an arena,
  and so does every run.
Main exports:
  Arena.Sound.start, Arena.Sound.ready, Arena.Sound.drop, Arena.Sound.quit,
  Arena.Sound.step, Arena.sound_fresh, Arena.Sound.run
-/
import Netplay.Proofs.Conduct
import Netplay.Proofs.Merging

namespace Netplay

namespace Arena

open RoundView

variable {arena : Arena} {user : UserId}

/-! ## The steps of the table -/

/-- Members come, go and change, and the round goes on. -/
theorem Sound.seat (sound : arena.Sound none) {members kicked : List UserId}
    {people : Roster}
    (seated : Game.Seated
      { arena.game with members := members, kicked := kicked } people)
    (types : ∀ person, (people.person person).connectionType =
      (arena.room.people.person person).connectionType) :
    (arena.become
      ⟨{ arena.game with members := members, kicked := kicked }, people⟩).Sound none where
  orderly := ⟨seated, sound.orderly.gathering, sound.orderly.mute, fun on =>
    (sound.orderly.actions on).trans (congrArg UInt8.toNat (types _).symm)⟩
  ledger := sound.ledger.keep rfl rfl (Nat.le_refl _) rfl rfl id Or.inl (.refl _)
    (fun _ _ => rfl) sound.ledger.unfinished
  inStep := sound.inStep.follows rfl (fun _ member => member) fun _ _ => Or.inr
    fun _ _ _ => .still (.refl _) (fun _ => rfl) (fun _ => rfl) fun _ => rfl

/-- The round is over. -/
theorem Sound.endRound (sound : arena.Sound none) {members : List UserId}
    {status : GameStatus} {people : Roster}
    (before : status = .waiting ∨ status = arena.game.status)
    (seated : Game.Seated
      { arena.game.endRound with members := members, status := status } people)
    (types : ∀ person, (people.person person).connectionType =
      (arena.room.people.person person).connectionType) :
    (arena.become
      ⟨{ arena.game.endRound with members := members, status := status },
        people⟩).Sound none := by
  have kept : ∀ round, arena.game.endRound.roundQueues round ≠ [] →
      arena.game.endRound.roundQueues round = arena.game.roundQueues round :=
    fun _ on => Game.roundQueues_endRound_eq on
  have reads : ∀ tag ∈ arena.tags none,
      (arena.game.endRound.roundQueues tag.round).length =
        (arena.game.roundQueues tag.round).length := by
    intro tag member
    obtain ⟨merge, carried, rfl⟩ := List.mem_map.mp member
    obtain ⟨parked, inFlight, rfl⟩ := List.mem_map.mp carried
    exact congrArg List.length (Game.roundQueues_endRound_kept inFlight)
  obtain ⟨users, ended, frame⟩ := arena.game.endRound_frame
  rw [frame] at seated reads kept ⊢
  have still : status ≠ .waiting → status = arena.game.status := fun on =>
    before.resolve_left on
  have gathers : status = .synchronizing → arena.game.status = .synchronizing := by
    rintro rfl
    exact (still (by decide)).symm
  refine ⟨⟨seated, fun gathering => ?_, (fun _ _ _ member => by cases member),
    fun on => ?_⟩, ?_, ?_⟩
  · exact ⟨(sound.orderly.gathering (gathers gathering)).1, fun _ member => by cases member⟩
  · exact (sound.orderly.actions (still on ▸ on)).trans
      (congrArg UInt8.toNat (types _).symm)
  · exact sound.ledger.keep rfl rfl (Nat.le_refl _) rfl rfl gathers Or.inl (.refl _) reads
      sound.ledger.unfinished
  · refine sound.inStep.follows rfl (fun _ member => member) fun round on => Or.inr ?_
    intro _ _ _
    exact .still (.of_eq (kept round on)) (fun _ => rfl) (fun _ => rfl) fun _ => rfl

/-- A round in which nothing has happened begins. -/
theorem begins_of_untouched {hand : Option Merge} (orderly : arena.room.Orderly)
    (untouched : arena.Untouched hand)
    (empty : ∀ queue ∈ arena.game.queues, queue.IsEmpty) (on : arena.game.queues ≠ []) :
    arena.Begins hand arena.game.round := by
  have current := Game.roundQueues_current on
  refine ⟨?_, ?_, ?_, untouched.calls, untouched.turns, ?_⟩
  · rw [current]
    intro queue member
    have desk := orderly.seated.desk queue.seat (List.mem_map.mpr ⟨queue, member, rfl⟩)
    exact desk.1.trans arena.game.length_seats
  · have own := orderly.seated.own
    rw [current]
    rwa [Game.seats, List.map_map] at own
  · exact current ▸ empty
  · exact fun merge member => untouched.tags merge.tag (mem_tags member)

/-- A round begins once the last one is over. -/
theorem Sound.commence (sound : arena.Sound none) (idle : arena.game.queues = [])
    (someone : arena.game.members ≠ [])
    {people : Roster} {actions : Nat}
    (seated : (arena.game.commence actions).Seated people)
    (type : actions = (people.person arena.game.owner).connectionType.toNat) :
    (arena.become ⟨arena.game.commence actions, people⟩).Sound none := by
  have empty : ∀ queue ∈ (arena.game.commence actions).queues, queue.IsEmpty :=
    arena.game.isEmpty_startQueues
  have orderly : Room.Orderly ⟨arena.game.commence actions, people⟩ :=
    ⟨seated, fun _ => ⟨rfl, empty⟩, (fun playing => by cases playing), fun _ => type⟩
  have past : ∀ {round}, round ≤ arena.game.round → round ≠ arena.game.round + 1 := by
    omega
  -- The earlier rounds are ended ones, before and after.
  have queues : ∀ {round}, round ≠ arena.game.round + 1 →
      (arena.game.commence actions).roundQueues round = arena.game.roundQueues round := by
    intro round earlier
    rw [Game.roundQueues, if_neg fun now => earlier now.1, Game.roundQueues,
      if_neg fun now => now.2 idle]
    rfl
  have untouched : (arena.become ⟨arena.game.commence actions, people⟩).Untouched none :=
    ⟨fun call member => past (sound.ledger.calls call member),
      fun turn member => past (sound.ledger.turns turn member),
      fun tag member => past (sound.ledger.merges tag member).1⟩
  refine ⟨orderly, ?_, ?_⟩
  · refine ⟨fun call member => ?_, fun call member here => ?_, fun turn member => ?_,
      fun tag member => ?_, sound.ledger.users, sound.ledger.tickets,
      sound.ledger.unfinished, fun _ => untouched, (fun on => by cases on),
      sound.ledger.quiet⟩
    · exact Nat.le_succ_of_le (sound.ledger.calls call member)
    · exact absurd here (untouched.calls call member)
    · exact Nat.le_succ_of_le (sound.ledger.turns turn member)
    · obtain ⟨begun, ticket, positive, players⟩ := sound.ledger.merges tag member
      exact ⟨Nat.le_succ_of_le begun, ticket, positive,
        players.trans (congrArg List.length (queues (past begun)).symm)⟩
  · refine sound.inStep.follows rfl (fun _ member => member) fun round _ => ?_
    by_cases current : round = arena.game.round + 1
    · left
      subst current
      apply begins_of_untouched orderly untouched empty
      rw [← List.length_pos_iff_ne_nil]
      exact Nat.lt_of_lt_of_eq (List.length_pos_iff_ne_nil.mpr someone)
        arena.game.length_startQueues.symm
    · right
      intro _ _ _
      exact .still (.of_eq (queues current)) (fun _ => rfl) (fun _ => rfl) fun _ => rfl

/-- The players of a new round take their seats. -/
theorem Sound.start (sound : arena.Sound none) :
    (arena.become (arena.room.start user).state).Sound none := by
  unfold Room.start
  simp only
  split
  · exact sound
  · split
    · exact sound
    · rename_i waiting
      have none : arena.game.queues = [] := List.map_eq_nil_iff.mp
        (sound.orderly.seated.waits (Decidable.not_not.mp waiting))
      split
      · exact sound
      · rename_i someone
        split
        · exact sound
        · have idle : arena.room.game.endRound = arena.game := if_pos none
          rw [idle]
          refine sound.commence none someone (sound.orderly.seated.start ?_ ?_ _) ?_
          · exact fun _ _ => rfl
          · exact fun _ _ => rfl
          · refine congrArg UInt8.toNat (Room.field_numberPlayers (·.connectionType) ?_ ?_
              _ _ _).symm
            · exact fun _ _ => rfl
            · exact fun _ _ => rfl

/-- An empty queue that comes into synchrony is still empty. -/
theorem isEmpty_modify {queues : List ActionQueue}
    (empty : ∀ queue ∈ queues, queue.IsEmpty) (slot : Nat) :
    ∀ queue ∈ queues.modify slot (·.setSynched true), queue.IsEmpty := by
  intro later member
  obtain ⟨other, place⟩ := List.getElem?_of_mem member
  rw [List.getElem?_modify] at place
  obtain ⟨queue, before, rfl⟩ := Option.map_eq_some_iff.mp place
  have was := empty queue (List.mem_of_getElem? before)
  split
  · exact was.setSynched
  · exact was

/-- The game after a member has taken part. -/
def marked (game : Game) (slot : Nat) (status : GameStatus) (synched : Bool) : Game :=
  { game with
    queues := game.queues.modify slot (·.setSynched true)
    status := status
    synched := synched }

/-- The players either go on getting ready or begin to play. -/
theorem orderly_marked {room : Room} (orderly : room.Orderly)
    (gathering : room.game.status = .synchronizing) (slot : Nat) {status : GameStatus}
    {synched : Bool}
    (next : (status = .synchronizing ∧ synched = false) ∨
      (status = .playing ∧ synched = true)) :
    Room.Orderly { room with game := marked room.game slot status synched } := by
  obtain ⟨-, empty⟩ := orderly.gathering gathering
  have notWaiting : status ≠ .waiting := by
    rintro rfl
    rcases next with ⟨is, -⟩ | ⟨is, -⟩
    · cases is
    · cases is
  constructor
  · refine orderly.seated.of_seats (fields_modify (·.seat_setSynched true) _ slot) rfl rfl
      ?_
    constructor
    · exact fun waiting => absurd waiting notWaiting
    · intro waiting
      rw [gathering] at waiting
      cases waiting
  · intro still
    refine ⟨?_, isEmpty_modify empty slot⟩
    rcases next with ⟨-, rfl⟩ | ⟨is, -⟩
    · rfl
    · exact absurd (still.symm.trans is) (by decide)
  · intro playing silent
    rcases next with ⟨is, -⟩ | ⟨-, merges⟩
    · exact absurd (is.symm.trans playing) (by decide)
    · exact absurd (merges.symm.trans silent) (by decide)
  · exact fun _ => orderly.actions (by rw [gathering]; decide)

/-- A member takes part: its queue comes into synchrony. -/
theorem Sound.mark (sound : arena.Sound none) (on : arena.game.queues ≠ [])
    (gathering : arena.game.status = .synchronizing) (slot : Nat) {status : GameStatus}
    {synched : Bool}
    (next : (status = .synchronizing ∧ synched = false) ∨
      (status = .playing ∧ synched = true)) :
    (arena.become
      { arena.room with game := marked arena.game slot status synched }).Sound none := by
  have orderly := orderly_marked sound.orderly gathering slot next
  have empty := isEmpty_modify (sound.orderly.gathering gathering).2 slot
  have untouched := sound.ledger.untouched gathering
  have queues : ∀ {round}, round ≠ arena.game.round →
      (marked arena.game slot status synched).roundQueues round =
        arena.game.roundQueues round := by
    intro round past
    rw [Game.roundQueues_of_ne past]
    exact Game.roundQueues_of_ne past
  refine ⟨orderly, ?_, ?_⟩
  · exact sound.ledger.keep rfl rfl (Nat.le_refl _) rfl rfl (fun _ => gathering)
      (fun _ => Or.inr untouched.turns) (.refl _)
      (fun tag member => congrArg List.length (queues (untouched.tags tag member)))
      sound.ledger.unfinished
  · refine sound.inStep.follows rfl (fun _ member => member) fun round _ => ?_
    by_cases current : round = arena.game.round
    · subst current
      left
      refine begins_of_untouched orderly
        ⟨untouched.calls, untouched.turns, untouched.tags⟩ empty ?_
      apply List.ne_nil_of_length_pos
      exact Nat.lt_of_lt_of_eq (List.length_pos_iff.mpr on) (List.length_modify ..).symm
    · right
      intro _ _ _
      exact .still (.of_eq (queues current)) (fun _ => rfl) (fun _ => rfl) fun _ => rfl

/-- Once the last member is ready, play begins. -/
theorem Sound.ready (sound : arena.Sound none) :
    (arena.become (arena.room.ready user).state).Sound none := by
  unfold Room.ready
  simp only
  split
  · exact sound
  · split
    · exact sound
    · rename_i gathering
      have gathering : arena.game.status = .synchronizing := Decidable.not_not.mp gathering
      split
      · exact sound
      · rename_i slot seat
        have on : arena.game.queues ≠ [] := Game.queues_ne_nil_of_slotFor? seat
        split
        · exact sound.mark on gathering slot (Or.inr ⟨rfl, rfl⟩)
        · exact sound.mark on gathering slot
            (Or.inl ⟨gathering, (sound.orderly.gathering gathering).1⟩)

/-! ## Members -/

theorem Sound.join (sound : arena.Sound none)
    (known : (arena.room.people.find? user).isSome) :
    (arena.become (arena.room.join user).state).Sound none := by
  unfold Room.join
  simp only
  split
  · exact sound
  · rename_i new
    split
    · exact sound
    · split
      · exact sound
      · rename_i waiting
        have waiting : arena.game.status = .waiting := Decidable.not_not.mp waiting
        have none : arena.game.seats = [] := sound.orderly.seated.waits waiting
        split
        · exact sound
        · rename_i room
          refine sound.seat ⟨?_, ?_, ?_, fun _ => none, fun on => absurd waiting on,
            sound.orderly.seated.own, sound.orderly.seated.desk,
            fun on => absurd none on⟩ ?_
          · refine List.nodup_append.mpr
              ⟨sound.orderly.seated.nodup, List.nodup_singleton user, ?_⟩
            intro member old other isUser same
            rw [List.mem_singleton] at isUser
            exact new (isUser ▸ same ▸ old)
          · rw [List.length_append, List.length_singleton]
            exact Nat.lt_of_not_le room
          · intro member isMember
            refine (Roster.isSome_find?_update ?_).trans ?_
            · exact fun _ => rfl
            rcases List.mem_append.mp isMember with old | isUser
            · exact sound.orderly.seated.known member old
            · rw [List.mem_singleton.mp isUser]
              exact known
          · exact fun _ => Roster.field_update (·.connectionType) (fun _ => rfl) fun _ => rfl

theorem Sound.kick (sound : arena.Sound none) (target : UserId) :
    (arena.become (arena.room.kick user target).state).Sound none := by
  unfold Room.kick
  simp only
  split
  · exact sound
  · split
    · exact sound
    · split
      · exact sound
      · have same := sound.orderly.seated
        exact sound.seat (same.of_seats rfl rfl rfl Iff.rfl) fun _ => rfl

theorem Sound.close (sound : arena.Sound none) :
    (arena.become (arena.room.close user).state).Sound none := by
  unfold Room.close
  simp only
  split
  · exact sound
  · have silent : arena.game.Dims
        (if arena.game.synched then arena.game.desynchAll else arena.game) := by
      split
      · exact (Game.dims_desynchAll _).1
      · exact .refl _
    have settled := sound.dims silent
    have ends := Game.endRound_members
      (if arena.game.synched then arena.game.desynchAll else arena.game) []
    have frame := Game.endRound_frame
      (if arena.game.synched then arena.game.desynchAll else arena.game)
    rw [ends]
    refine settled.endRound (Or.inr rfl) (settled.orderly.seated.idle ?_
      (List.nil_sublist _) ?_ (Or.inr rfl) fun _ member => by cases member) ?_
    · obtain ⟨users, ended, frame⟩ := frame
      exact congrArg (·.settings) frame
    · obtain ⟨users, ended, frame⟩ := frame
      exact congrArg (·.queues) frame
    · intro person
      refine Roster.field_foldl_update (·.connectionType) ?_ ?_ _ _
      · exact fun _ => rfl
      · exact fun _ => rfl

theorem Sound.gap (sound : arena.Sound none) :
    (arena.become (arena.room.droppedPacket user).1).Sound none := by
  unfold Room.droppedPacket
  simp only
  split
  · exact sound
  · split
    · exact sound
    · split
      · exact sound.dims ((Game.dims_silence ..).trans (Game.dims_desynchIfAlone _))
      · exact sound

/-- A member that is dropped goes out of synchrony.  If nobody plays any more,
the round is over. -/
theorem Sound.drop (sound : arena.Sound none) :
    (arena.become (arena.room.drop user).state).Sound none := by
  unfold Room.drop
  simp only
  split
  · exact sound
  · split
    · exact sound
    · split
      · exact sound
      · rename_i slot _
        generalize settledIs : (if (arena.room.game.silence slot).synched = true ∧
            (arena.room.game.silence slot).synchedCount < 2 then
              (arena.room.game.silence slot).desynchAll
            else arena.room.game.silence slot) = settled
        have dims : arena.game.Dims settled := by
          rw [← settledIs]
          split
          · exact (Game.dims_silence ..).trans (Game.dims_desynchAll _).1
          · exact Game.dims_silence ..
        have sound := sound.dims dims
        have known : ∀ member ∈ settled.members, ((arena.room.people.update user
            fun user => { user with status := .idle }).find? member).isSome := by
          intro member isMember
          refine (Roster.isSome_find?_update ?_).trans ?_
          · exact fun _ => rfl
          · exact sound.orderly.seated.known member isMember
        have types : ∀ person, ((arena.room.people.update user
            fun user => { user with status := .idle }).person person).connectionType =
              (arena.room.people.person person).connectionType := fun _ =>
          Roster.field_update (·.connectionType) (fun _ => rfl) fun _ => rfl
        split
        · obtain ⟨users, ended, frame⟩ := settled.endRound_frame
          refine sound.endRound (Or.inl rfl)
            (sound.orderly.seated.idle ?_ ?_ ?_ (Or.inl rfl) ?_) types
          · exact congrArg (·.settings) frame
          · exact frame ▸ List.Sublist.refl _
          · exact congrArg (·.queues) frame
          · rw [frame]
            exact known
        · refine sound.seat (sound.orderly.seated.stay (List.Sublist.refl _) known ?_) types
          intro member _
          exact Roster.field_update (·.player) (fun _ => rfl) fun _ => rfl

/-- A member is taken off the list, and where no round is on the others are numbered
anew. -/
theorem Sound.without (sound : arena.Sound none) (user : UserId) :
    (arena.become (arena.room.without user)).Sound none := by
  have seated : arena.game.Seated arena.room.people := sound.orderly.seated
  have sublist : (arena.game.members.filter (· ≠ user)).Sublist arena.game.members :=
    List.filter_sublist
  have known : ∀ member ∈ arena.game.members.filter (· ≠ user),
      ((arena.room.people.update user (·.leaveGame)).find? member).isSome := by
    intro member isMember
    refine (Roster.isSome_find?_update ?_).trans ?_
    · exact fun _ => rfl
    · exact seated.known member (List.mem_of_mem_filter isMember)
  have types : ∀ person,
      ((arena.room.people.update user (·.leaveGame)).person person).connectionType =
        (arena.room.people.person person).connectionType := fun _ =>
    Roster.field_update (·.connectionType) (fun _ => rfl) fun _ => rfl
  unfold Room.without
  split
  · rename_i waiting
    have none : arena.game.queues = [] := List.map_eq_nil_iff.mp (seated.waits waiting)
    refine sound.seat (seated.idle rfl sublist none (Or.inl waiting) ?_) ?_
    · intro member isMember
      refine (Room.isSome_numberPlayers ?_ _ _ _).trans (known member isMember)
      exact fun _ _ => rfl
    · intro person
      refine (Room.field_numberPlayers (·.connectionType) ?_ ?_ _ _ _).trans (types person)
      · exact fun _ _ => rfl
      · exact fun _ _ => rfl
  · refine sound.seat (seated.stay sublist known ?_) types
    intro member isMember
    have differs : member ≠ user := by simpa using (List.mem_filter.mp isMember).2
    exact congrArg User.player (Roster.person_update_other (fun _ => rfl) differs)

/-- A member that leaves is dropped first if it plays. -/
theorem Sound.quit (sound : arena.Sound none) :
    (arena.become (arena.room.quit user).state).Sound none := by
  by_cases member : user ∈ arena.game.members
  · have shed : (arena.become (arena.room.shed user)).Sound none := by
      unfold Room.shed
      split
      · exact sound.drop
      · exact sound
    rw [arena.room.quit_eq user member]
    exact shed.without user
  · rw [arena.room.quit_stranger user member]
    exact sound

/-! ## Runs -/

/-- Every move keeps the invariant. -/
theorem Sound.step (sound : arena.Sound none) (move : Move) :
    (arena.step move).Sound none := by
  cases move with
  | join user =>
      unfold Arena.step
      simp only
      split
      · rename_i known
        exact sound.join known
      · exact sound
  | start user => exact sound.start
  | ready user => exact sound.ready
  | drop user => exact sound.drop
  | quit user => exact sound.quit
  | kick user target => exact sound.kick target
  | close user => exact sound.close
  | gap user => exact sound.gap
  | input user data => exact sound.input
  | retry ticket => exact sound.retry ticket
  | pass milliseconds =>
      exact ⟨sound.orderly, sound.ledger.keep rfl rfl (Nat.le_refl _) rfl rfl id Or.inl
        (.refl _) (fun _ _ => rfl) sound.ledger.unfinished, sound.inStep⟩

/-- A new game is in order. -/
theorem sound_fresh (id : GameId) (name : String) (owner : User)
    (settings : GameSettings) (people : Roster) :
    (fresh id name owner settings people).Sound none where
  orderly :=
    { seated :=
        { nodup := List.nodup_nil
          few := Nat.zero_le _
          known := fun _ member => by cases member
          waits := fun _ => rfl
          empty := fun _ _ => rfl
          own := List.nodup_nil
          desk := fun _ member => by cases member
          sits := fun on => absurd rfl on }
      gathering := fun gathering => by cases gathering
      mute := fun playing => by cases playing
      actions := fun on => absurd rfl on }
  ledger :=
    { calls := fun _ member => by cases member
      actions := fun _ member => by cases member
      turns := fun _ member => by cases member
      merges := fun _ member => by cases member
      users := List.nodup_nil
      tickets := List.nodup_nil
      unfinished := fun _ member => by cases member
      untouched := fun gathering => by cases gathering
      unharmed := fun on => by cases on
      quiet := fun _ member => by cases member }
  inStep := fun round actions size _ kept => by
    refine absurd ?_ kept
    exact if_neg fun now => now.2 rfl

/-- Every run keeps the invariant. -/
theorem Sound.run (sound : arena.Sound none) (moves : List Move) :
    (arena.run moves).Sound none := by
  induction moves generalizing arena with
  | nil => exact sound
  | cons move rest inductionHypothesis => exact inductionHypothesis (sound.step move)

end Arena

end Netplay
