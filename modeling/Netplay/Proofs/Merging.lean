/-
Module: Netplay.Proofs.Merging
Purpose: Handing in input and working on merges keep the invariant of an arena.
Main exports:
  Arena.Sound.dims, Arena.Sound.take, Arena.Sound.collect, Arena.Sound.input,
  Arena.Sound.retry
-/
import Netplay.Proofs.Ledger

namespace Netplay.Arena

open RoundView

variable {arena : Arena} {hand : Option Merge}

/-! ## The steps of a merge -/

theorem carried_perm {arena after : Arena} {hand : Option Merge}
    (inFlight : after.game.inFlight.Perm arena.game.inFlight) :
    (after.carried hand).Perm (arena.carried hand) :=
  (inFlight.map _).append_left _

/-- Queues go out of synchrony. -/
theorem Sound.dims (sound : arena.Sound hand) {after : Game}
    (dims : arena.game.Dims after) :
    (arena.become { arena.room with game := after }).Sound hand := by
  have perm : ((arena.become { arena.room with game := after }).carried hand).Perm
      (arena.carried hand) := carried_perm dims.inFlight
  refine ⟨sound.orderly.dims dims, ?_, ?_⟩
  · have kept := fun round => (dims.roundQueues round).1
    have inFlight := dims.inFlight
    have synched := dims.synched
    obtain ⟨queues, waiting, woken, merges, rfl⟩ := dims.frame
    exact sound.ledger.keep rfl rfl (Nat.le_refl _) rfl rfl id
      (fun on => Or.inl (synched on)) (perm.map _) (fun tag _ => kept tag.round)
      fun parked member => sound.ledger.unfinished parked (inFlight.mem_iff.mp member)
  · refine sound.inStep.follows ?_ (fun call member => member) fun round kept => Or.inr ?_
    · obtain ⟨queues, waiting, woken, merges, rfl⟩ := dims.frame
      rfl
    · intro actions size uniform
      exact .still (dims.roundQueues round) (flight_perm sound.ledger.lone perm round)
        (fun user => rfl) fun user => rfl

/-- Merges move between the lists of the game and the hand. -/
theorem Sound.reorder (sound : arena.Sound hand) {later : Option Merge}
    {waiting woken : List ParkedMerge}
    (perm : ((arena.become
      { arena.room with
        game := { arena.game with waiting := waiting, woken := woken } }).carried
          later).Perm (arena.carried hand))
    (unfinished : ∀ parked ∈ waiting ++ woken,
      parked.merge.parts.length < parked.merge.actions * parked.merge.players) :
    (arena.become
      { arena.room with
        game := { arena.game with waiting := waiting, woken := woken } }).Sound
          later where
  orderly := ⟨sound.orderly.seated.of_seats rfl rfl rfl Iff.rfl, sound.orderly.gathering,
    sound.orderly.mute, sound.orderly.actions⟩
  ledger := sound.ledger.keep rfl rfl (Nat.le_refl _) rfl rfl id Or.inl (perm.map _)
    (fun _ _ => rfl) unfinished
  inStep := by
    refine sound.inStep.follows rfl (fun _ member => member) fun round _ => Or.inr ?_
    intro _ _ _
    exact .still (.refl _) (flight_perm sound.ledger.lone perm round) (fun _ => rfl)
      fun _ => rfl

/-- A time-out is counted. -/
theorem Sound.lapse {merge : Merge} (sound : arena.Sound (some merge))
    (timeouts : Nat) : arena.Sound (some { merge with timeouts := timeouts }) where
  orderly := sound.orderly
  ledger := sound.ledger.keep rfl rfl (Nat.le_refl _) rfl rfl id Or.inl (.refl _) (fun _ _ => rfl)
    sound.ledger.unfinished
  inStep := by
    have acts : arena.Acts (some merge) arena
        (some { merge with timeouts := timeouts }) merge.round merge.user := by
      refine ⟨fun _ _ => rfl, fun other person differs => ⟨rfl, rfl, ?_⟩⟩
      have flight : arena.flight (some { merge with timeouts := timeouts }) other person =
          arena.flight none other person := flight_hand_other differs
      exact flight.trans (flight_hand_other differs).symm
    refine sound.inStep.follows rfl (fun _ member => member) (acts.follows ?_)
    intro actions size _
    exact .lapse merge.user merge timeouts (flight_hand arena merge) rfl
      (acts.change (List.append_nil _).symm (List.append_nil _).symm
        (flight_hand arena { merge with timeouts := timeouts }))

/-- A share is collected. -/
theorem Sound.take {merge : Merge} (sound : arena.Sound (some merge))
    (more : merge.parts.length < merge.actions * merge.players)
    {queue later : ActionQueue} {part : Bytes}
    (place : arena.game.queueAt? merge.round merge.slot = some queue)
    (read : queue.read merge.reader merge.share false = .actions part later) :
    (arena.become
      { arena.room with
        game := arena.game.setQueueAt merge.round merge.slot later }).Sound
          (some (merge.take part)) := by
  rw [Game.queueAt?_eq] at place
  obtain ⟨heads, rfl, length⟩ := ActionQueue.read_keeps read
  have queues := arena.game.roundQueues_setQueueAt merge.round merge.slot
    { queue with heads := heads }
  have shape := arena.game.setQueueAt_frame merge.round merge.slot
    { queue with heads := heads }
  have begun : merge.tag ∈ arena.tags (some merge) := List.mem_cons_self
  -- No merge reads the current round while its players get ready.
  have touched : arena.game.status = .synchronizing → merge.round ≠ arena.game.round :=
    fun gathering => (sound.ledger.untouched gathering).tags _ begun
  generalize arena.game.setQueueAt merge.round merge.slot
    { queue with heads := heads } = after at queues shape
  obtain ⟨now, ended, rfl, change⟩ := shape
  have current : now = arena.game.queues ∨ merge.round = arena.game.round ∧
      arena.game.queues[merge.slot]? = some queue ∧
      now = arena.game.queues.set merge.slot { queue with heads := heads } := by
    rcases change with same | ⟨round, changed⟩
    · exact Or.inl same
    · by_cases on : arena.game.queues = []
      · rw [on] at changed ⊢
        exact Or.inl changed
      · rw [round, Game.roundQueues_current on] at place
        exact Or.inr ⟨round, place, changed⟩
  refine ⟨⟨?_, ?_, ?_, sound.orderly.actions⟩, ?_, ?_⟩
  · refine sound.orderly.seated.of_seats ?_ rfl rfl Iff.rfl
    rcases current with same | ⟨-, here, rfl⟩
    · exact congrArg (List.map (·.seat)) same
    · apply fields_set here
      rw [ActionQueue.seat, ActionQueue.seat, length]
  · intro gathering
    rcases current with same | ⟨round, -⟩
    · exact same ▸ sound.orderly.gathering gathering
    · exact absurd round (touched gathering)
  · intro playing off
    have silent := sound.orderly.mute playing off
    rcases current with same | ⟨-, here, same⟩
    · exact same ▸ silent
    · intro target member
      rcases List.mem_or_eq_of_mem_set (same ▸ member) with old | rfl
      · exact silent target old
      · exact silent queue (List.mem_of_getElem? here)
  · refine sound.ledger.keep rfl rfl (Nat.le_refl _) rfl rfl id Or.inl (.refl _) (fun tag _ => ?_)
      sound.ledger.unfinished
    apply (congrArg List.length (queues tag.round)).trans
    split
    · rename_i same
      rw [List.length_set, same]
    · rfl
  · have acts : arena.Acts (some merge)
        (arena.become
          { arena.room with
            game := { arena.game with queues := now, ended := ended } })
        (some (merge.take part)) merge.round merge.user := by
      refine ⟨fun other differs => ?_, fun other person differs => ⟨rfl, rfl, ?_⟩⟩
      · exact (queues other).trans (if_neg differs)
      · rw [flight_hand_other differs]
        exact flight_hand_other differs
    refine sound.inStep.follows rfl (fun _ member => member) (acts.follows ?_)
    intro actions size _
    exact .take merge.user merge queue _ part (flight_hand arena merge) more place read
      ((queues merge.round).trans (if_pos rfl))
      (acts.change (List.append_nil _).symm (List.append_nil _).symm
        (flight_hand _ (merge.take part)))

/-- A merge is parked. -/
theorem Sound.park {merge : Merge} (sound : arena.Sound (some merge))
    (more : merge.parts.length < merge.actions * merge.players) (deadline : Nat) :
    (arena.become (arena.room.park merge deadline)).Sound none := by
  apply sound.reorder
  · have order : List.Perm
        (arena.game.waiting ++ [ParkedMerge.mk merge deadline] ++ arena.game.woken)
        (ParkedMerge.mk merge deadline :: arena.game.inFlight) := by
      rw [List.append_assoc]
      exact List.perm_middle
    exact order.map (·.merge)
  · intro parked member
    rw [List.append_assoc] at member
    rcases List.mem_cons.mp (List.perm_middle.mem_iff.mp member) with rfl | before
    · exact more
    · exact sound.ledger.unfinished parked before

/-- The tickets of the merges on the lists of the game. -/
theorem Sound.tickets (sound : arena.Sound none) :
    (arena.game.inFlight.map (·.merge.ticket)).Nodup := by
  have ledger := sound.ledger.tickets
  rwa [tags, carried, List.map_map, Option.toList_none, List.nil_append,
    List.map_map] at ledger

/-- A merge is taken off the lists of the game. -/
theorem Sound.unpark (sound : arena.Sound none) {parked : ParkedMerge}
    (member : parked ∈ arena.game.inFlight) :
    (arena.become (arena.room.unpark parked.merge.ticket)).Sound (some parked.merge) := by
  apply sound.reorder
  · have order := perm_cons_filter sound.tickets member
    rw [Game.inFlight, List.filter_append] at order
    exact order.map (·.merge)
  · intro other otherMember
    rw [← List.filter_append] at otherMember
    exact sound.ledger.unfinished other (List.mem_of_mem_filter otherMember)

/-! ## Turns -/

/-- A turn that ends no call is put on record. -/
theorem Sound.pause (sound : arena.Sound none) {turn : Turn}
    (begun : turn.round ≤ arena.game.round)
    (touched : arena.game.status = .synchronizing → turn.round ≠ arena.game.round)
    (open_ : turn.result = none) (quiet : turn.frames = []) :
    Sound { arena with turns := arena.turns ++ [turn] } none where
  orderly := sound.orderly
  ledger := sound.ledger.note begun touched
    (fun _ _ error failed => by rw [open_] at failed; cases failed) fun _ => quiet
  inStep := by
    refine sound.inStep.follows rfl (fun _ member => member) fun round _ => Or.inr ?_
    intro actions size _
    refine .still (.refl _) (fun _ => rfl) (fun _ => rfl) fun user => ?_
    apply returns_append_of_not
    rw [open_]
    simp

/-- The last turn of a call whose merge is in hand is put on record: the frame
is complete and sent, or the game merges no more. -/
theorem Sound.conclude {merge : Merge} (sound : arena.Sound (some merge)) {turn : Turn}
    (round : turn.round = merge.round) (user : turn.user = merge.user)
    (ends : (arena.game.synched = false ∧ turn.frames = [] ∧
        ∃ error, turn.result = some (.error error)) ∨
      (merge.actions * merge.players ≤ merge.parts.length ∧
        turn.frames = [⟨merge.user, .game arena.game.id (.data merge.frame)⟩] ∧
        turn.result = some (.ok ()))) :
    Sound { arena with turns := arena.turns ++ [turn] } none where
  orderly := sound.orderly
  ledger := by
    have tag : merge.tag ∈ arena.tags (some merge) := List.mem_cons_self
    refine sound.ledger.dismiss.note (round ▸ (sound.ledger.merges _ tag).1)
      (fun gathering => round ▸ (sound.ledger.untouched gathering).tags _ tag) ?_ ?_
    · intro on _ error failed
      rcases ends with ⟨off, -, -⟩ | ⟨-, -, success⟩
      · rw [on] at off
        cases off
      · rw [success] at failed
        cases failed
    · intro failed
      rcases ends with ⟨-, quiet, -⟩ | ⟨-, -, success⟩
      · exact quiet
      · exact absurd success failed
  inStep := by
    have idle := flight_none_hand sound.ledger.lone
    have done : turn.result.isSome := by
      rcases ends with ⟨-, -, error, failed⟩ | ⟨-, -, success⟩
      · rw [failed]; rfl
      · rw [success]; rfl
    have acts : arena.Acts (some merge) { arena with turns := arena.turns ++ [turn] }
        none merge.round merge.user := by
      refine ⟨fun _ _ => rfl, fun other person differs => ⟨rfl, ?_, ?_⟩⟩
      · apply returns_append_of_not
        rintro ⟨sameRound, sameUser, -⟩
        exact differs (sameRound.symm.trans round) (sameUser.symm.trans user)
      · exact (flight_hand_other differs).symm
    have change : Change (arena.view (some merge) merge.round)
        (view { arena with turns := arena.turns ++ [turn] } none merge.round) merge.user
        [] [turn] none := by
      refine acts.change (List.append_nil _).symm ?_ (idle merge.round)
      rw [returns_append, if_pos ⟨round, user, done⟩]
    refine sound.inStep.follows rfl (fun _ member => member) (acts.follows ?_)
    intro actions size _
    rcases ends with ⟨-, -, error, failed⟩ | ⟨complete, frame, success⟩
    · exact .fail merge.user merge turn error (flight_hand arena merge) failed rfl change
    · exact .finish merge.user merge turn (flight_hand arena merge) complete success frame
        rfl change

/-- Letters without a frame. -/
def Hushed (letters : List Letter) : Prop := ∀ letter ∈ letters, letter.isFrame = false

theorem Hushed.frames {letters : List Letter} (hushed : Hushed letters) :
    letters.filter (·.isFrame) = [] := by
  apply List.filter_eq_nil_iff.mpr
  intro letter member
  rw [hushed letter member]
  exact Bool.false_ne_true

/-- A merge that waits is parked, and the turn put on record. -/
theorem Sound.wait {merge : Merge} (sound : arena.Sound (some merge))
    (more : merge.parts.length < merge.actions * merge.players) (deadline : Nat)
    {told : List Letter} (hushed : Hushed told) :
    (arena.record merge.round merge.user
      (arena.room.park merge deadline, told, .parked)).Sound none := by
  have tag : merge.tag ∈ arena.tags (some merge) := List.mem_cons_self
  exact (sound.park more deadline).pause (sound.ledger.merges _ tag).1
    (fun gathering => (sound.ledger.untouched gathering).tags _ tag) rfl hushed.frames

/-- Collecting shares, up to the end of the merge or its next wait, keeps the
invariant. -/
theorem Sound.collect {remaining : Nat} {merge : Merge}
    (sound : arena.Sound (some merge)) (left : merge.remaining = remaining)
    {told : List Letter} (hushed : Hushed told) :
    (arena.record merge.round merge.user
      ((arena.room.collect arena.now merge remaining).1,
        told ++ (arena.room.collect arena.now merge remaining).2.1,
        (arena.room.collect arena.now merge remaining).2.2)).Sound none := by
  induction remaining generalizing arena merge with
  | zero =>
      have complete : merge.actions * merge.players ≤ merge.parts.length := by
        simp only [Merge.remaining] at left
        omega
      unfold Room.collect
      split
      · rename_i off
        refine sound.conclude rfl rfl (Or.inl ⟨by simpa using off, ?_, _, rfl⟩)
        simpa [Turn.frames] using hushed.frames
      · refine sound.conclude rfl rfl (Or.inr ⟨complete, ?_, rfl⟩)
        rw [Turn.frames, List.filter_append, hushed.frames]
        rfl
  | succ remaining inductionHypothesis =>
      have more : merge.parts.length < merge.actions * merge.players := by
        simp only [Merge.remaining] at left
        omega
      unfold Room.collect
      split
      · rename_i off
        refine sound.conclude rfl rfl (Or.inl ⟨by simpa using off, ?_, _, rfl⟩)
        simpa [Turn.frames] using hushed.frames
      · have quiet : Hushed (told ++ []) := by rwa [List.append_nil]
        split
        · exact sound.wait more _ quiet
        · rename_i queue place
          split
          · rename_i part later read
            apply inductionHypothesis (sound.take more place read)
            simp only [Merge.remaining, Merge.take, List.length_cons] at left ⊢
            omega
          · exact sound.wait more _ quiet
          · exact sound.wait more _ quiet

/-- What is told to all members holds no frame, if the event is none. -/
theorem hushed_tellAll (game : Game) {event : GameEvent} (other : event.kind ≠ .data) :
    Hushed (game.tellAll event) := by
  intro letter member
  obtain ⟨user, -, rfl⟩ := List.mem_map.mp member
  exact decide_eq_false other

theorem Hushed.append {first second : List Letter} (one : Hushed first)
    (two : Hushed second) : Hushed (first ++ second) :=
  List.forall_mem_append.mpr ⟨one, two⟩

theorem hushed_nil : Hushed [] := fun _ member => by cases member

theorem hushed_noteTimeout (room : Room) (timeout : ReadTimeout) :
    Hushed (room.noteTimeout timeout).2 := by
  unfold Room.noteTimeout
  simp only
  split
  · exact hushed_nil
  · split
    · exact hushed_nil
    · split
      · exact hushed_nil
      · split
        · exact hushed_tellAll _ (by simp [GameEvent.kind])
        · apply (hushed_tellAll _ (by simp [GameEvent.kind])).append
          unfold Game.desynchIfAlone
          split
          · exact hushed_tellAll _ (by simp [GameEvent.kind])
          · exact hushed_nil

/-- A merge whose time has run out begins its read anew. -/
theorem Sound.lapsed {merge : Merge} (sound : arena.Sound (some merge))
    (timeout : ReadTimeout) (timeouts : Nat) :
    (arena.record merge.round merge.user
      (((arena.room.noteTimeout timeout).1.collect arena.now
          { merge with timeouts := timeouts } merge.remaining).1,
        (arena.room.noteTimeout timeout).2 ++
          ((arena.room.noteTimeout timeout).1.collect arena.now
            { merge with timeouts := timeouts } merge.remaining).2.1,
        ((arena.room.noteTimeout timeout).1.collect arena.now
          { merge with timeouts := timeouts } merge.remaining).2.2)).Sound none := by
  obtain ⟨dims, people⟩ := arena.room.noteTimeout_dims timeout
  have noted : (arena.room.noteTimeout timeout).1 =
      ⟨(arena.room.noteTimeout timeout).1.game, arena.room.people⟩ := by
    rw [← people]
  have counted := (sound.lapse timeouts).dims dims
  rw [← noted] at counted
  exact counted.collect rfl (hushed_noteTimeout arena.room timeout)

/-- Retrying a merge keeps the invariant. -/
theorem Sound.resume {parked : ParkedMerge} (sound : arena.Sound (some parked.merge))
    (more : parked.merge.parts.length < parked.merge.actions * parked.merge.players) :
    (arena.record parked.merge.round parked.merge.user
      (arena.room.resume arena.now parked)).Sound none := by
  have tag : parked.merge.tag ∈ arena.tags (some parked.merge) := List.mem_cons_self
  -- The queue to be read is there.
  obtain ⟨-, -, positive, players⟩ := sound.ledger.merges _ tag
  have inside : parked.merge.slot <
      (arena.game.roundQueues parked.merge.round).length :=
    Nat.lt_of_lt_of_eq (Nat.mod_lt _ positive) players
  have place : arena.room.game.queueAt? parked.merge.round parked.merge.slot =
      some (arena.game.roundQueues parked.merge.round)[parked.merge.slot] := by
    rw [Game.queueAt?_eq]
    exact List.getElem?_eq_getElem inside
  simp only [Room.resume, place]
  split
  · rename_i part later read
    have taken := sound.take more place (ActionQueue.read_new_of_waited read)
    exact taken.collect rfl hushed_nil
  · exact sound.lapsed _ _
  · split
    · exact sound.lapsed _ _
    · exact sound.wait more _ hushed_nil

theorem Sound.retry (sound : arena.Sound none) (ticket : Nat) :
    (arena.retry ticket).Sound none := by
  unfold Arena.retry
  split
  · exact sound
  · rename_i parked found
    have member := List.mem_of_find?_eq_some found
    obtain rfl : parked.merge.ticket = ticket := by
      simpa using List.find?_some found
    split
    · exact (sound.unpark member).resume (sound.ledger.unfinished parked member)
    · exact sound

/-- When the game retries a merge of its own accord, that is a retry of the
arena. -/
theorem Sound.turn (sound : arena.Sound none) {after : Room} {letters : List Letter}
    {finished : Option Finished}
    (turn : arena.room.turn arena.now = some (after, letters, finished)) :
    ∃ parked ∈ arena.game.inFlight, arena.retry parked.merge.ticket =
      { arena with
        room := after
        turns := arena.turns ++ [⟨parked.merge.round, parked.merge.user, letters,
          finished.map (·.result)⟩] } := by
  obtain ⟨parked, next, result⟩ := Option.map_eq_some_iff.mp turn
  have ready := Room.next?_eq_some next
  refine ⟨parked, ready.1, ?_⟩
  unfold Arena.retry
  rw [find?_key sound.tickets ready.1]
  simp only [if_pos ready.2]
  cases outcome : (arena.room.unpark parked.merge.ticket).resume arena.now parked with
  | mk room rest =>
      obtain ⟨told, progress⟩ := rest
      simp only [outcome] at result
      cases progress with
      | parked => cases result; rfl
      | finished _ => cases result; rfl

/-- Letting every merge proceed as far as it can is a row of retries. -/
theorem Sound.settle (sound : arena.Sound none) (turns : Nat) :
    ∃ tickets : List Nat, (arena.run (tickets.map .retry)).room =
      (arena.room.run arena.now turns).1 := by
  induction turns generalizing arena with
  | zero => exact ⟨[], rfl⟩
  | succ turns inductionHypothesis =>
      unfold Room.run
      cases next : arena.room.turn arena.now with
      | none => exact ⟨[], rfl⟩
      | some outcome =>
          obtain ⟨after, letters, finished⟩ := outcome
          obtain ⟨parked, -, retried⟩ := sound.turn next
          obtain ⟨tickets, settled⟩ :=
            inductionHypothesis (sound.retry parked.merge.ticket)
          refine ⟨parked.merge.ticket :: tickets, settled.trans ?_⟩
          rw [retried]

/-! ## Input -/

section Input

variable {user : UserId} {data : Bytes}

/-- The call of a user that hands in a message. -/
def callOf (arena : Arena) (user : UserId) (data : Bytes) : Call :=
  ⟨arena.game.round, user, arena.game.actionsPerMessage, data⟩

/-- The arena with one more call on record. -/
def called (arena : Arena) (user : UserId) (data : Bytes) : Arena :=
  { arena with
    nextTicket := arena.nextTicket + 1
    calls := arena.calls ++ [arena.callOf user data] }

/-- A user whose last call is over has nothing in flight. -/
theorem idle_of_not_busy (idle : ¬ arena.isBusy user = true) :
    ∀ merge ∈ arena.carried none, merge.user ≠ user := by
  intro merge member same
  obtain ⟨parked, inFlight, rfl⟩ := List.mem_map.mp member
  exact idle (List.any_eq_true.mpr ⟨parked, inFlight, by simpa using same⟩)

/-- While a round is played by members, it has queues. -/
theorem Sound.queues_ne_nil (sound : arena.Sound hand)
    (playing : arena.game.status = .playing) (member : user ∈ arena.game.members) :
    arena.game.queues ≠ [] := by
  intro none
  have nobody := sound.orderly.seated.empty (by rw [playing]; decide)
    (List.map_eq_nil_iff.mpr none)
  rw [nobody] at member
  cases member

/-- A message of the common length that is too short for one byte in each
action is empty. -/
theorem Uniform.short {actions size : Nat} {data : Bytes}
    (whole : data.length = actions * size) (short : data.length / actions = 0) :
    data = [] := by
  apply List.eq_nil_of_length_eq_zero
  by_cases none : actions = 0
  · rw [whole, none, Nat.zero_mul]
  · rw [whole, Nat.mul_div_cancel_left _ (Nat.pos_of_ne_zero none)] at short
    rw [whole, short, Nat.mul_zero]

/-- A message that is refused, because the game merges no more or the message
is too short. -/
theorem Sound.refuse (sound : arena.Sound none)
    (playing : arena.game.status = .playing) (member : user ∈ arena.game.members)
    (idle : ∀ merge ∈ arena.carried none, merge.user ≠ user) {turn : Turn}
    (round : turn.round = arena.game.round) (sender : turn.user = user)
    {error : Refusal} (failed : turn.result = some (.error error))
    (quiet : turn.frames = [])
    (cause : arena.game.synched = false ∨
      data.length / arena.game.actionsPerMessage = 0) :
    Sound { arena.called user data with turns := arena.turns ++ [turn] } none where
  orderly := sound.orderly
  ledger := by
    have called : (arena.called user data).Ledger none :=
      sound.ledger.call rfl rfl playing
    refine called.note (Nat.le_of_eq round) ?_ ?_ fun _ => quiet
    · exact fun gathering => absurd gathering (Game.not_synchronizing playing)
    · intro on _ _ _
      rcases cause with off | short
      · have same : arena.game.synched = true := on
        rw [off] at same
        cases same
      · exact ⟨arena.callOf user data, List.mem_append_right _ (List.mem_singleton_self _),
          rfl, short⟩
  inStep := by
    have messages := arena.messages_append (arena.callOf user data)
    have returns := arena.returns_append turn
    have acts : arena.Acts none
        { arena.called user data with turns := arena.turns ++ [turn] } none
        arena.game.round user := by
      refine ⟨fun _ _ => rfl, fun other person differs => ⟨?_, ?_, rfl⟩⟩
      · apply messages_append_of_not
        rintro ⟨here, self⟩
        exact differs here.symm self.symm
      · apply returns_append_of_not
        rintro ⟨here, self, -⟩
        exact differs (here.symm.trans round) (self.symm.trans sender)
    refine sound.inStep.follows rfl (fun _ before => List.mem_append_left _ before)
      (acts.follows ?_)
    intro actions size uniform
    obtain ⟨sameActions, whole⟩ := uniform (arena.callOf user data)
      (List.mem_append_right _ (List.mem_singleton_self _)) rfl
    have none : arena.flight none arena.game.round user = none :=
      flight_eq_none_iff.mpr fun merge member _ => idle merge member
    refine .refuse user data turn error none whole ?_ failed rfl (acts.change ?_ ?_ none)
    · intro queue queueMember _ synched
      rcases cause with off | short
      · have current := Game.roundQueues_current (sound.queues_ne_nil playing member)
        have silent := sound.orderly.mute playing off queue (current ▸ queueMember)
        rw [silent] at synched
        cases synched
      · exact Uniform.short whole (sameActions ▸ short)
    · exact (messages _ _).trans (by rw [if_pos ⟨rfl, rfl⟩]; rfl)
    · exact (returns _ _).trans (by rw [if_pos ⟨round, sender, by rw [failed]; rfl⟩])

/-- The merge that a call begins. -/
def begun (arena : Arena) (user : UserId) (data : Bytes) : Merge :=
  ⟨arena.nextTicket, user, arena.game.round, (arena.room.people.person user).player,
    arena.game.actionsPerMessage, data.length / arena.game.actionsPerMessage,
    arena.game.queues.length, [], 0⟩

/-- The arena after a message was written to the queue of its sender. -/
def posted (arena : Arena) (user : UserId) (data : Bytes) (slot : Nat) : Arena :=
  (arena.called user data).become
    { arena.room with game := arena.game.write slot data }

/-- In a game that is played and merges, writing leaves the table in order. -/
theorem orderly_write {room : Room} (orderly : room.Orderly)
    (playing : room.game.status = .playing) (on : room.game.synched = true)
    (slot : Nat) : Room.Orderly { room with game := room.game.write slot data } := by
  constructor
  · exact orderly.seated.of_seats (fields_modify (·.seat_add data) _ slot) rfl rfl Iff.rfl
  · exact fun gathering => absurd gathering (Game.not_synchronizing playing)
  · intro _ off
    have same : room.game.synched = false := off
    rw [on] at same
    cases same
  · exact orderly.actions

/-- The call and its merge are put on record. -/
theorem Ledger.post (ledger : arena.Ledger none) (playing : arena.game.status = .playing)
    (idle : ∀ merge ∈ arena.carried none, merge.user ≠ user)
    (seats : arena.game.queues ≠ []) (slot : Nat) :
    (arena.posted user data slot).Ledger (some (arena.begun user data)) := by
  have called : (arena.called user data).Ledger none := ledger.call rfl rfl playing
  have lengths := Game.length_roundQueues_write seats slot data
  have kept : (arena.posted user data slot).Ledger none :=
    called.keep rfl rfl (Nat.le_refl _) rfl rfl id Or.inl (.refl _)
      (fun tag _ => lengths tag.round) called.unfinished
  apply kept.hold
  · exact Nat.lt_succ_self _
  · exact fun tag member => Nat.ne_of_lt (ledger.merges tag member).2.1
  · intro tag member
    obtain ⟨other, otherMember, rfl⟩ := List.mem_map.mp member
    exact idle other otherMember
  · rfl
  · exact List.length_pos_iff_ne_nil.mpr seats
  · refine Eq.trans ?_ (lengths arena.game.round).symm
    rw [Game.roundQueues_current seats]
    rfl
  · exact playing

/-- A call concerns its user in the current round. -/
theorem acts_post (seats : arena.game.queues ≠ []) (slot : Nat) :
    arena.Acts none (arena.posted user data slot) (some (arena.begun user data))
      arena.game.round user := by
  constructor
  · intro other differs
    exact (Game.roundQueues_write seats slot data other).trans (if_neg differs)
  · intro other person differs
    refine ⟨?_, rfl, flight_hand_other differs⟩
    apply messages_append_of_not
    rintro ⟨here, self⟩
    exact differs here.symm self.symm

/-- A message that is taken in: it is written to the queue of its sender, and
a merge is begun. -/
theorem Sound.send (sound : arena.Sound none)
    (playing : arena.game.status = .playing) (on : arena.game.synched = true)
    (idle : ∀ merge ∈ arena.carried none, merge.user ≠ user) {slot : Nat}
    {queue : ActionQueue} (place : arena.game.queues[slot]? = some queue)
    (owner : queue.user = user)
    (reader : (arena.room.people.person user).player.toNat = slot + 1)
    (long : data.length / arena.game.actionsPerMessage ≠ 0) :
    (arena.posted user data slot).Sound (some (arena.begun user data)) := by
  have seats : arena.game.queues ≠ [] := by
    intro none
    rw [none] at place
    cases place
  have current := Game.roundQueues_current seats
  have acts : arena.Acts none (arena.posted user data slot) _ arena.game.round user :=
    acts_post seats slot
  refine ⟨orderly_write sound.orderly playing on slot,
    sound.ledger.post playing idle seats slot, ?_⟩
  refine sound.inStep.follows rfl (fun _ before => List.mem_append_left _ before)
    (acts.follows ?_)
  intro actions size uniform
  have before : arena.Uniform arena.game.round actions size := fun call callMember =>
    uniform call (List.mem_append_left _ callMember)
  obtain ⟨sameActions, whole⟩ := uniform (arena.callOf user data)
    (List.mem_append_right _ (List.mem_singleton_self _)) rfl
  have sameActions : arena.game.actionsPerMessage = actions := sameActions
  have whole : data.length = actions * size := whole
  rw [sameActions, whole] at long
  have positive : 0 < actions := Nat.pos_of_ne_zero fun none => by simp [none] at long
  have width : (arena.begun user data).share = size := by
    rw [begun, sameActions, whole, Nat.mul_div_cancel_left _ positive]
  rw [Nat.mul_div_cancel_left _ positive] at long
  have long : 0 < size := Nat.pos_of_ne_zero long
  have seen : (arena.view none arena.game.round).queues[slot]? = some queue :=
    (congrArg (·[slot]?) current).trans place
  apply RoundView.Event.send user data (arena.begun user data) slot queue seen owner
  · exact flight_eq_none_iff.mpr fun other member _ => idle other member
  · exact whole
  · -- No message of the round is too short, so no call has failed.
    exact fun other turn member => sound.ledger.succeeds on before positive long member
  · exact ⟨rfl, ⟨slot, queue, seen, owner, reader⟩, congrArg List.length current.symm,
      sameActions, width, Nat.mul_pos positive long, Nat.zero_le _⟩
  · rfl
  · refine (Game.roundQueues_write seats slot data arena.game.round).trans
      ((if_pos rfl).trans ?_)
    exact congrArg (List.modify · slot (·.add data)) current.symm
  · refine acts.change ?_ (List.append_nil _).symm (flight_hand _ (arena.begun user data))
    exact (arena.messages_append (arena.callOf user data) _ _).trans
      (by rw [if_pos ⟨rfl, rfl⟩]; rfl)

/-- Nothing is written to a queue out of synchrony. -/
theorem write_silent {game : Game} {slot : Nat} {queue : ActionQueue}
    (place : game.queues[slot]? = some queue) (silent : queue.synched = false) :
    game.write slot data = game := by
  have same : game.queues.modify slot (·.add data) = game.queues := by
    apply List.ext_getElem?
    intro other
    rw [List.getElem?_modify]
    by_cases here : slot = other
    · subst here
      simp [place, ActionQueue.add_of_not_synched queue data silent]
    · simp [here]
  rw [Game.write, same]

/-- Outside of play input is refused. -/
theorem addData_refused (sound : arena.Sound none)
    (other : arena.game.status ≠ .playing) (now ticket : Nat) :
    (arena.room.addData now ticket user data).1 = arena.room := by
  unfold Room.addData
  simp only
  split
  · rfl
  · rename_i on
    -- The players of a game that merges are not getting ready, so no round is on.
    have none : arena.game.queues = [] := by
      cases status : arena.game.status with
      | playing => exact absurd status other
      | waiting => exact List.map_eq_nil_iff.mp (sound.orderly.seated.waits status)
      | synchronizing => simp [(sound.orderly.gathering status).1] at on
    have nowhere : arena.room.game.slotFor? (arena.room.people.person user) = Option.none := by
      unfold Game.slotFor?
      rw [if_pos]
      rw [none]
      by_cases zero : (arena.room.people.person user).player = 0
      · exact Or.inl zero
      · refine Or.inr (Nat.pos_of_ne_zero fun same => zero ?_)
        exact UInt8.toNat_inj.mp same
    rw [nowhere]

/-- Input keeps the invariant. -/
theorem Sound.input (sound : arena.Sound none) : (arena.input user data).Sound none := by
  unfold Arena.input
  split
  · exact sound
  · rename_i free
    obtain ⟨isMember, notBusy⟩ := not_or.mp free
    have member : user ∈ arena.game.members := Decidable.not_not.mp isMember
    have idle := idle_of_not_busy notBusy
    split
    · rename_i playing
      have some := sound.queues_ne_nil playing member
      obtain ⟨slot, queue, seat, place, owner, reader⟩ :=
        sound.orderly.seated.slotFor? member some
      have refuse : ∀ error, (arena.game.synched = false ∨
          data.length / arena.game.actionsPerMessage = 0) →
          ((arena.called user data).record arena.game.round user
            (arena.room, [], .finished (.error error))).Sound none := fun error cause =>
        sound.refuse playing member idle rfl rfl rfl rfl cause
      unfold Room.addData
      simp only
      split
      · rename_i off
        exact refuse _ (Or.inl (by simpa using off))
      · rename_i on
        rw [seat]
        simp only
        split
        · rename_i none
          exact refuse _ (Or.inr (by rw [Arena.game, none]; exact Nat.div_zero _))
        · split
          · rename_i short
            exact refuse _ (Or.inr short)
          · rename_i long
            have merges : arena.game.synched = true := by simpa using on
            have sent := sound.send playing merges idle place owner reader long
            have any : arena.game.queues[slot]?.any (·.synched) = queue.synched := by
              rw [place]
              rfl
            rw [any]
            cases flag : queue.synched with
            | true => exact (sent.dims (Game.dims_wake ..)).collect rfl hushed_nil
            | false =>
                rw [posted, write_silent place flag] at sent
                exact sent.collect rfl hushed_nil
    · rename_i other
      simp only
      rw [addData_refused sound other]
      exact ⟨sound.orderly, sound.ledger.keep rfl rfl (Nat.le_succ _) rfl rfl id Or.inl
        (.refl _) (fun _ _ => rfl) sound.ledger.unfinished, sound.inStep⟩

end Input

end Netplay.Arena
