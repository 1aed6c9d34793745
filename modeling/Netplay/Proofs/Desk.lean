/-
Module: Netplay.Proofs.Desk
Purpose: Everything that can happen at the desk of a queue, in any order; what comes of
  the reads that wait there when they look, and which of them need not look.
Main exports:
  ReadDesk.run, WaitingRead.Due, ReadDesk.Looks, ReadDesk.looks, ReadDesk.Alert,
  ReadDesk.alert_run, ReadDesk.AtRest
-/
import Netplay.Proofs.ActionStream
import Netplay.Proofs.KeyedLists

namespace Netplay

/-- The ticket of a read that begins. -/
def DeskMove.ticket? : DeskMove → Option Nat
  | .get ticket _ _ => some ticket
  | _ => none

/-- What a row of moves makes of the desk. -/
def ReadDesk.run (desk : ReadDesk) : List DeskMove → ReadDesk
  | [] => desk
  | move :: rest => (desk.step move).1.run rest

/-- The read has a reason to look: it was woken or its time has run out. -/
def WaitingRead.Due (now : Nat) (read : WaitingRead) : Prop :=
  read.woken = true ∨ read.deadline ≤ now

instance (now : Nat) (read : WaitingRead) : Decidable (read.Due now) :=
  inferInstanceAs (Decidable (_ ∨ _))

/-- The read as it was before it was woken. -/
def WaitingRead.calm (read : WaitingRead) : WaitingRead := { read with woken := false }

/-- Reads that are the same but for a waking are for the same, and as long. -/
theorem WaitingRead.fields_of_calm {read other : WaitingRead} (same : read.calm = other.calm) :
    read.ticket = other.ticket ∧ read.reader = other.reader ∧ read.count = other.count ∧
      read.deadline = other.deadline := by
  simpa [calm] using same

namespace ReadDesk

variable {desk : ReadDesk} {ticket : Nat} {read : WaitingRead}

/-! ## Looking -/

/-- How a waiting read fails. -/
def fail (desk : ReadDesk) (read : WaitingRead) : FinishedRead :=
  ⟨read.ticket, .error desk.queue.timedOut⟩

theorem due_iff {now : Nat} {read : WaitingRead} :
    read.Due now ↔ ¬ ((!read.woken) = true ∧ now < read.deadline) := by
  unfold WaitingRead.Due
  cases read.woken with
  | false => simp
  | true => simp

/-- A read that is found waits under the ticket. -/
theorem mem_of_find (found : desk.waiting.find? (·.ticket = ticket) = some read) :
    read ∈ desk.waiting ∧ read.ticket = ticket :=
  ⟨List.mem_of_find?_eq_some found, by simpa using List.find?_some found⟩

/-- Without a reason to look nothing happens. -/
theorem look_idle (calm : ∀ read, desk.waiting.find? (·.ticket = ticket) = some read →
    ¬ read.Due desk.now) : desk.look ticket = (desk, []) := by
  unfold look
  split
  · rfl
  · rename_i read found
    exact if_pos (Decidable.not_not.mp fun reason => calm read found (due_iff.mpr reason))

/-- A read that has a reason to look judges the queue as it is. -/
theorem look_of_due (found : desk.waiting.find? (·.ticket = ticket) = some read)
    (due : read.Due desk.now) : desk.look ticket =
      match desk.queue.read read.reader read.count true with
      | .actions bytes after =>
          ({ desk.dismiss read with queue := after }, [⟨ticket, .ok bytes⟩])
      | .failed => (desk.dismiss read, [desk.fail read])
      | .blocked =>
          if read.deadline ≤ desk.now then (desk.dismiss read, [desk.fail read])
          else (desk.hold read, []) := by
  obtain ⟨-, rfl⟩ := mem_of_find found
  simp only [look, found, if_neg (due_iff.mp due)]
  rfl

/-- What a look of the read with a ticket can come to. -/
inductive Looks (desk : ReadDesk) (ticket : Nat) : ReadDesk × List FinishedRead → Prop where
  /-- No read with the ticket has a reason to look. -/
  | idle (calm : ∀ read, desk.waiting.find? (·.ticket = ticket) = some read →
      ¬ read.Due desk.now) : Looks desk ticket (desk, [])
  | answered {read : WaitingRead} {bytes : Bytes} {later : ActionQueue}
      (found : desk.waiting.find? (·.ticket = ticket) = some read) (due : read.Due desk.now)
      (reading : desk.queue.read read.reader read.count true = .actions bytes later) :
      Looks desk ticket ({ desk.dismiss read with queue := later }, [⟨ticket, .ok bytes⟩])
  /-- Synchrony or time is lost. -/
  | ended {read : WaitingRead} (found : desk.waiting.find? (·.ticket = ticket) = some read)
      (due : read.Due desk.now)
      (reason : desk.queue.read read.reader read.count true = .failed ∨
        desk.queue.read read.reader read.count true = .blocked ∧ read.deadline ≤ desk.now) :
      Looks desk ticket (desk.dismiss read, [desk.fail read])
  /-- Too little has come. -/
  | held {read : WaitingRead} (found : desk.waiting.find? (·.ticket = ticket) = some read)
      (due : read.Due desk.now)
      (blocked : desk.queue.read read.reader read.count true = .blocked)
      (early : desk.now < read.deadline) : Looks desk ticket (desk.hold read, [])

/-- Every look comes to one of these. -/
theorem looks (desk : ReadDesk) (ticket : Nat) : desk.Looks ticket (desk.look ticket) := by
  by_cases calm : ∀ read, desk.waiting.find? (·.ticket = ticket) = some read →
      ¬ read.Due desk.now
  · rw [look_idle calm]
    exact .idle calm
  · obtain ⟨read, found, due⟩ : ∃ read,
        desk.waiting.find? (·.ticket = ticket) = some read ∧ read.Due desk.now := by
      simpa using calm
    rw [look_of_due found due]
    cases reading : desk.queue.read read.reader read.count true with
    | actions bytes later => exact .answered found due reading
    | failed => exact .ended found due (.inl reading)
    | blocked =>
        simp only
        split
        · rename_i late
          exact .ended found due (.inr ⟨reading, late⟩)
        · rename_i early
          exact .held found due reading (Nat.lt_of_not_le early)

/-! ### Who waits afterwards -/

/-- Reads that are woken stay the same otherwise. -/
theorem wake_field {α : Type} (field : WaitingRead → α) (desk : ReadDesk) (reason : Bool)
    (spared : ∀ read woken, field { read with woken := woken } = field read) :
    (desk.wake reason).waiting.map field = desk.waiting.map field := by
  rw [wake, List.map_map]
  exact List.map_congr_left fun read _ => spared read _

/-- A read that waits on after another was held waited before, or is the one held. -/
theorem mem_hold {other : WaitingRead} (member : other ∈ (desk.hold read).waiting) :
    other = read.calm ∧ read ∈ desk.waiting ∨ other ≠ read ∧ other ∈ desk.waiting := by
  obtain ⟨before, old, rfl⟩ := List.mem_map.mp member
  split
  · rename_i same
    exact .inl ⟨rfl, same ▸ old⟩
  · rename_i differs
    exact .inr ⟨differs, old⟩

/-- Reads that are held change in nothing but that they are not woken any more. -/
theorem hold_field {α : Type} (field : WaitingRead → α)
    (spared : field read.calm = field read) :
    (desk.hold read).waiting.map field = desk.waiting.map field := by
  rw [hold, List.map_map]
  refine List.map_congr_left fun other _ => ?_
  simp only [Function.comp_apply]
  split
  · rename_i same
    rw [same]
    exact spared
  · rfl

/-- Looking changes no read that waits on, but that it may not be woken any more. -/
theorem calm_look (desk : ReadDesk) (ticket : Nat) :
    ((desk.look ticket).1.waiting.map (·.calm)).Sublist (desk.waiting.map (·.calm)) := by
  have made := desk.looks ticket
  generalize desk.look ticket = after at made
  cases made with
  | idle calm => exact .refl _
  | answered found due reading => exact List.erase_sublist.map _
  | ended found due reason => exact List.erase_sublist.map _
  | held found due blocked early =>
      rw [hold_field (·.calm) rfl]

/-- Each waiting read ends with a look or waits on. -/
theorem tickets_look (desk : ReadDesk) (ticket : Nat) :
    ((desk.look ticket).2.map (·.ticket) ++ (desk.look ticket).1.waiting.map (·.ticket)).Perm
      (desk.waiting.map (·.ticket)) := by
  have gone {read : WaitingRead}
      (found : desk.waiting.find? (·.ticket = ticket) = some read) :
      (read.ticket :: (desk.dismiss read).waiting.map (·.ticket)).Perm
        (desk.waiting.map (·.ticket)) :=
    ((List.perm_cons_erase (mem_of_find found).1).map WaitingRead.ticket).symm
  have made := desk.looks ticket
  generalize desk.look ticket = after at made
  cases made with
  | idle calm => exact .refl _
  | answered found due reading =>
      obtain ⟨-, rfl⟩ := mem_of_find found
      exact gone found
  | ended found due reason => exact gone found
  | held found due blocked early =>
      rw [List.map_nil, List.nil_append, hold_field (·.ticket) rfl]

/-! ## Reads that need not look -/

/-- Every waiting read is a player's, and one that was not woken has to wait: the queue
is in synchrony and too little is there. -/
def Alert (desk : ReadDesk) : Prop :=
  ∀ read ∈ desk.waiting, desk.queue.Serves read.reader ∧
    (read.woken = false → desk.queue.read read.reader read.count true = .blocked)

/-- A read that is answered leaves the others waiting for more. -/
theorem Alert.answered (alert : desk.Alert) {reader : UInt8} {count : Nat} {waited : Bool}
    {bytes : Bytes} {later : ActionQueue} {waiting : List WaitingRead}
    (reading : desk.queue.read reader count waited = .actions bytes later)
    (fewer : waiting ⊆ desk.waiting) :
    ({ desk with queue := later, waiting := waiting } : ReadDesk).Alert := by
  intro read member
  obtain ⟨serves, blocked⟩ := alert read (fewer member)
  obtain ⟨heads, rfl, length⟩ := ActionQueue.read_keeps reading
  refine ⟨⟨serves.1, Nat.le_trans serves.2 (Nat.le_of_eq length.symm)⟩, fun calm => ?_⟩
  exact ActionQueue.blocked_of_answered reading (blocked calm)

/-- Looking keeps it so. -/
theorem alert_look (alert : desk.Alert) (ticket : Nat) : (desk.look ticket).1.Alert := by
  have made := desk.looks ticket
  generalize desk.look ticket = after at made
  cases made with
  | idle calm => exact alert
  | answered found due reading => exact alert.answered reading List.erase_subset
  | ended found due reason => exact fun read member => alert read (List.mem_of_mem_erase member)
  | held found due blocked early =>
      intro other member
      rcases mem_hold member with ⟨rfl, among⟩ | ⟨-, old⟩
      · exact ⟨(alert _ among).1, fun _ => blocked⟩
      · exact alert other old

/-- Waking keeps it so if the readers stay and nobody who goes on sleeping need look. -/
theorem Alert.wake (alert : desk.Alert) {queue : ActionQueue} {reason : Bool}
    (readers : queue.heads.length = desk.queue.heads.length)
    (sleeps : reason = false → ∀ reader count, desk.queue.read reader count true = .blocked →
      queue.read reader count true = .blocked) :
    (ReadDesk.wake { desk with queue := queue } reason).Alert := by
  intro read member
  obtain ⟨before, old, rfl⟩ := List.mem_map.mp member
  obtain ⟨⟨positive, inside⟩, waits⟩ := alert before old
  refine ⟨⟨positive, readers ▸ inside⟩, fun calm => ?_⟩
  obtain ⟨slept, quiet⟩ := Bool.or_eq_false_iff.mp calm
  exact sleeps quiet _ _ (waits slept)

/-- Every move keeps it so. -/
theorem alert_step (alert : desk.Alert) (move : DeskMove) : (desk.step move).1.Alert := by
  cases move with
  | synch on =>
      refine alert.wake (desk.queue.length_setSynched on) fun quiet reader count blocked => ?_
      -- Synchrony is not lost here, and where it is gained nobody sleeps.
      have synched := (ActionQueue.read_eq_blocked_iff.mp blocked).2.1
      have same : desk.queue.setSynched on = desk.queue := by
        cases on with
        | true => exact if_pos synched
        | false =>
            rw [synched] at quiet
            cases quiet
      rwa [same]
  | add actions =>
      refine alert.wake (by rw [desk.queue.add_heads actions]) fun silent reader count blocked => ?_
      rwa [desk.queue.add_of_not_synched actions silent]
  | note number =>
      intro read member
      obtain ⟨serves, waits⟩ := alert read member
      refine ⟨serves, fun calm => ?_⟩
      have short := ActionQueue.read_eq_blocked_iff.mp (waits calm)
      exact ActionQueue.read_eq_blocked_iff.mpr short
  | pass milliseconds => exact alert
  | look ticket => exact alert_look alert ticket
  | get ticket reader count =>
      change (desk.ask ticket reader count).1.Alert
      unfold ask
      split
      · rename_i bytes later reading
        exact alert.answered reading fun _ member => member
      · exact alert
      · rename_i short
        have blocked : desk.queue.read reader count true = .blocked :=
          ActionQueue.read_eq_blocked_iff.mpr (ActionQueue.read_eq_blocked_iff.mp short)
        intro read member
        rcases List.mem_append.mp member with old | new
        · exact alert read old
        · rw [List.mem_singleton.mp new]
          exact ⟨(ActionQueue.read_eq_blocked_iff.mp short).1, fun _ => blocked⟩

/-- So does every run. -/
theorem alert_run (alert : desk.Alert) (moves : List DeskMove) : (desk.run moves).Alert := by
  induction moves generalizing desk with
  | nil => exact alert
  | cons move rest inductionHypothesis => exact inductionHypothesis (alert_step alert move)

/-- At a new desk nobody waits. -/
theorem alert_create (queue : ActionQueue) : (create queue).Alert :=
  fun _ member => by cases member

/-- No waiting read has a reason to look. -/
def AtRest (desk : ReadDesk) : Prop := ∀ read ∈ desk.waiting, ¬ read.Due desk.now

instance (desk : ReadDesk) : Decidable desk.AtRest :=
  inferInstanceAs (Decidable (∀ read ∈ desk.waiting, ¬ read.Due desk.now))

end ReadDesk

end Netplay
