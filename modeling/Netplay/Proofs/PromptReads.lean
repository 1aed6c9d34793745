/-
Module: Netplay.Proofs.PromptReads
Purpose: No waiting read is overlooked and none waits too long: whatever happens
  at a desk, a read that waits on is one that has to, and its time runs from the
  moment it began.
Main exports:
  ActionQueue.Build, ReadDesk.build_run, DeskMove.asked, ReadDesk.waiting_run,
  ReadDesk.atRest_lookAll, ReadDesk.Patient.answered_or_waiting,
  ReadDesk.Patient.answered_of_enough, ReadDesk.all_end, ReadDesk.Prompt,
  ReadDesk.waits_in_time
-/
import Netplay.Proofs.Desk

namespace Netplay

/-! ## What a queue keeps for good -/

/-- The player, the readers and the limits of a queue. -/
structure ActionQueue.Build where
  player : UInt8
  user : UserId
  timeout : Nat
  capacity : Nat
  readers : Nat

/-- The build of a queue. -/
def ActionQueue.build (queue : ActionQueue) : Build :=
  ⟨queue.player, queue.user, queue.timeout, queue.capacity, queue.heads.length⟩

namespace ActionQueue

variable (queue : ActionQueue)

theorem build_setSynched (on : Bool) : (queue.setSynched on).build = queue.build := by
  obtain ⟨_, _, _, frame⟩ := queue.setSynched_frame on
  have readers := queue.length_setSynched on
  rw [frame] at readers ⊢
  rw [build, build, readers]

theorem build_add (actions : Bytes) : (queue.add actions).build = queue.build :=
  queue.add_field actions build fun _ _ _ _ => rfl

theorem build_answered {queue later : ActionQueue} {reader : UInt8} {count : Nat}
    {waited : Bool} {bytes : Bytes}
    (answered : queue.read reader count waited = .actions bytes later) :
    later.build = queue.build := by
  obtain ⟨heads, rfl, length⟩ := read_keeps answered
  rw [build, build, length]

end ActionQueue

namespace ReadDesk

variable {desk : ReadDesk} {ticket : Nat} {tickets : List Nat} {read : WaitingRead}

theorem build_look (desk : ReadDesk) (ticket : Nat) :
    (desk.look ticket).1.queue.build = desk.queue.build := by
  have made := desk.looks ticket
  generalize desk.look ticket = after at made
  cases made with
  | idle calm => rfl
  | answered found due reading => exact ActionQueue.build_answered reading
  | ended found due reason => rfl
  | held found due blocked early => rfl

/-- No move changes the build of the queue. -/
theorem build_step (desk : ReadDesk) (move : DeskMove) :
    (desk.step move).1.queue.build = desk.queue.build := by
  cases move with
  | synch on => exact desk.queue.build_setSynched on
  | add actions => exact desk.queue.build_add actions
  | note number => rfl
  | pass milliseconds => rfl
  | look ticket => exact desk.build_look ticket
  | get ticket reader count =>
      change (desk.ask ticket reader count).1.queue.build = desk.queue.build
      unfold ask
      split
      · rename_i bytes later answered
        exact ActionQueue.build_answered answered
      · rfl
      · rfl

theorem build_run (desk : ReadDesk) (moves : List DeskMove) :
    (desk.run moves).queue.build = desk.queue.build := by
  induction moves generalizing desk with
  | nil => rfl
  | cons move rest inductionHypothesis =>
      exact (inductionHypothesis _).trans (desk.build_step move)

end ReadDesk

/-! ## Where waiting reads come from, and where they go -/

/-- The reads that a row of moves begins, each with the moment its time runs out,
when it is now `now`. -/
def DeskMove.asked (timeout : Nat) : (now : Nat) → List DeskMove → List WaitingRead
  | _, [] => []
  | now, .get ticket reader count :: rest =>
      ⟨ticket, reader, count, now + timeout, false⟩ :: asked timeout now rest
  | now, .pass milliseconds :: rest => asked timeout (now + milliseconds) rest
  | now, _ :: rest => asked timeout now rest

theorem DeskMove.tickets_asked (timeout now : Nat) (moves : List DeskMove) :
    (asked timeout now moves).map (·.ticket) = moves.filterMap ticket? := by
  induction moves generalizing now with
  | nil => rfl
  | cons move rest inductionHypothesis =>
      cases move with
      | get ticket reader count =>
          exact congrArg (ticket :: ·) (inductionHypothesis now)
      | _ => exact inductionHypothesis _

namespace ReadDesk

variable {desk : ReadDesk} {ticket : Nat} {tickets : List Nat} {read : WaitingRead}

theorem now_look (desk : ReadDesk) (ticket : Nat) : (desk.look ticket).1.now = desk.now := by
  have made := desk.looks ticket
  generalize desk.look ticket = after at made
  cases made with
  | idle calm => rfl
  | answered found due reading => rfl
  | ended found due reason => rfl
  | held found due blocked early => rfl

/-- A new read is answered at once, fails at once, or begins to wait behind the others,
with its time running from now on. -/
theorem ask_cases (desk : ReadDesk) (ticket : Nat) (reader : UInt8) (count : Nat) :
    (∃ bytes later, desk.queue.read reader count false = .actions bytes later ∧
      desk.ask ticket reader count = ({ desk with queue := later }, [⟨ticket, .ok bytes⟩])) ∨
    desk.ask ticket reader count = (desk, [⟨ticket, .error desk.queue.timedOut⟩]) ∨
    ∃ read : WaitingRead,
      read = ⟨ticket, reader, count, desk.now + desk.queue.timeout, false⟩ ∧
      desk.ask ticket reader count = ({ desk with waiting := desk.waiting ++ [read] }, []) := by
  unfold ask
  split
  · rename_i bytes later answered
    exact .inl ⟨bytes, later, answered, rfl⟩
  · exact .inr (.inl rfl)
  · exact .inr (.inr ⟨_, rfl, rfl⟩)

/-- The reads that wait are some of those that waited or began since, in order, and
time has run for each since its own beginning. -/
theorem waiting_run (desk : ReadDesk) (moves : List DeskMove) :
    ((desk.run moves).waiting.map (·.calm)).Sublist
      (desk.waiting.map (·.calm) ++ DeskMove.asked desk.queue.timeout desk.now moves) := by
  induction moves generalizing desk with
  | nil =>
      rw [DeskMove.asked, List.append_nil]
      exact .refl _
  | cons move rest inductionHypothesis =>
      have later := inductionHypothesis (desk.step move).1
      rw [show (desk.step move).1.queue.timeout = desk.queue.timeout from
        congrArg ActionQueue.Build.timeout (desk.build_step move)] at later
      -- All moves but a new read only wake reads or end them.
      have fewer : ((desk.step move).1.waiting.map (·.calm)).Sublist (desk.waiting.map (·.calm)) →
          ((desk.run (move :: rest)).waiting.map (·.calm)).Sublist (desk.waiting.map (·.calm) ++
            DeskMove.asked desk.queue.timeout (desk.step move).1.now rest) :=
        fun kept => later.trans (kept.append_right _)
      have woken {after : ReadDesk}
          (same : after.waiting.map (·.calm) = desk.waiting.map (·.calm)) :
          (after.waiting.map (·.calm)).Sublist (desk.waiting.map (·.calm)) := by rw [same]
      cases move with
      | synch on => exact fewer (woken (wake_field (·.calm) _ _ fun _ _ => rfl))
      | add actions => exact fewer (woken (wake_field (·.calm) _ _ fun _ _ => rfl))
      | note number => exact fewer (.refl _)
      | pass milliseconds => exact fewer (.refl _)
      | look ticket =>
          have kept := fewer (desk.calm_look ticket)
          rwa [show (desk.step (.look ticket)).1.now = desk.now from desk.now_look ticket] at kept
      | get ticket reader count =>
          change (((desk.ask ticket reader count).1.run rest).waiting.map (·.calm)).Sublist
            ((desk.ask ticket reader count).1.waiting.map (·.calm) ++
              DeskMove.asked _ (desk.ask ticket reader count).1.now rest) at later
          apply later.trans
          rcases desk.ask_cases ticket reader count with
            ⟨bytes, after, -, made⟩ | made | ⟨read, rfl, made⟩
          · rw [made]
            exact (List.sublist_cons_self ..).append_left _
          · rw [made]
            exact (List.sublist_cons_self ..).append_left _
          · rw [made, List.map_append, List.append_assoc]
            exact .refl _

/-- Each read that waited, and a new one, has ended after a move or waits on. -/
theorem tickets_step (desk : ReadDesk) (move : DeskMove) :
    ((desk.step move).2.map (·.ticket) ++ (desk.step move).1.waiting.map (·.ticket)).Perm
      (desk.waiting.map (·.ticket) ++ move.ticket?.toList) := by
  have unchanged {after : ReadDesk}
      (same : after.waiting.map (·.ticket) = desk.waiting.map (·.ticket)) :
      (after.waiting.map (·.ticket)).Perm (desk.waiting.map (·.ticket) ++ []) := by
    rw [List.append_nil, same]
  cases move with
  | synch on => exact unchanged (wake_field (·.ticket) _ _ fun _ _ => rfl)
  | add actions => exact unchanged (wake_field (·.ticket) _ _ fun _ _ => rfl)
  | note number => exact unchanged rfl
  | pass milliseconds => exact unchanged rfl
  | look ticket => exact (List.append_nil _).symm ▸ desk.tickets_look ticket
  | get ticket reader count =>
      change ((desk.ask ticket reader count).2.map (·.ticket) ++
        (desk.ask ticket reader count).1.waiting.map (·.ticket)).Perm
          (desk.waiting.map (·.ticket) ++ [ticket])
      rcases desk.ask_cases ticket reader count with
        ⟨bytes, later, -, made⟩ | made | ⟨new, isNew, made⟩
      · rw [made]
        exact List.perm_append_comm
      · rw [made]
        exact List.perm_append_comm
      · rw [made, isNew, List.map_append]
        exact .refl _

/-! ## Reads that look one after the other -/

theorem lookAll_eq_run (desk : ReadDesk) (tickets : List Nat) :
    (desk.lookAll tickets).1 = desk.run (tickets.map .look) := by
  induction tickets generalizing desk with
  | nil => rfl
  | cons ticket rest inductionHypothesis => exact inductionHypothesis (desk.look ticket).1

theorem lookAll_cons (desk : ReadDesk) (ticket : Nat) (rest : List Nat) :
    (desk.lookAll (ticket :: rest)).2 =
      (desk.look ticket).2 ++ ((desk.look ticket).1.lookAll rest).2 := rfl

/-- The waiting reads have tickets of their own. -/
def Ticketed (desk : ReadDesk) : Prop := (desk.waiting.map (·.ticket)).Nodup

theorem Ticketed.look (ticketed : desk.Ticketed) (ticket : Nat) :
    (desk.look ticket).1.Ticketed :=
  List.Nodup.of_append_right ((desk.tickets_look ticket).nodup_iff.mpr ticketed)

theorem Ticketed.find (ticketed : desk.Ticketed) (member : read ∈ desk.waiting) :
    desk.waiting.find? (·.ticket = read.ticket) = some read :=
  find?_key ticketed member

/-- Whoever still has a reason to look after a look is another read. -/
theorem due_look (ticketed : desk.Ticketed) (member : read ∈ (desk.look ticket).1.waiting)
    (due : read.Due desk.now) : read ∈ desk.waiting ∧ read.ticket ≠ ticket := by
  have gone {other : WaitingRead}
      (found : desk.waiting.find? (·.ticket = ticket) = some other)
      (stays : read ∈ desk.waiting.erase other) :
      read ∈ desk.waiting ∧ read.ticket ≠ ticket := by
    have old := List.mem_of_mem_erase stays
    refine ⟨old, fun same => ?_⟩
    rw [← same, ticketed.find old] at found
    obtain rfl := Option.some.inj found
    exact (List.Nodup.of_map _ ticketed).not_mem_erase stays
  have made := desk.looks ticket
  generalize desk.look ticket = after at made member
  cases made with
  | idle calm => exact ⟨member, fun same => calm read (same ▸ ticketed.find member) due⟩
  | answered found woken reading => exact gone found member
  | ended found woken reason => exact gone found member
  | held found woken blocked early =>
      rcases mem_hold member with ⟨rfl, -⟩ | ⟨differs, old⟩
      · rcases due with woken | late
        · cases woken
        · exact absurd early (Nat.not_lt_of_le late)
      · refine ⟨old, fun same => differs ?_⟩
        rw [← same, ticketed.find old] at found
        exact Option.some.inj found

/-- Once all that have a reason to look have looked, nobody has one any more. -/
theorem atRest_lookAll (ticketed : desk.Ticketed)
    (all : ∀ read ∈ desk.waiting, read.Due desk.now → read.ticket ∈ tickets) :
    (desk.lookAll tickets).1.AtRest := by
  induction tickets generalizing desk with
  | nil => exact fun read member due => absurd (all read member due) List.not_mem_nil
  | cons ticket rest inductionHypothesis =>
      apply inductionHypothesis (ticketed.look ticket)
      intro read member due
      rw [desk.now_look] at due
      obtain ⟨old, other⟩ := due_look ticketed member due
      exact (List.mem_cons.mp (all read old due)).resolve_left other

/-! ### In synchrony -/

/-- The queue is in synchrony, and every waiting read is a player's and has time left. -/
structure Patient (desk : ReadDesk) : Prop where
  synched : desk.queue.synched = true
  reads : ∀ read ∈ desk.waiting, desk.queue.Serves read.reader ∧ desk.now < read.deadline

/-- In synchrony no read fails that is a player's and has time left: after a look the
others wait as they did, and the one that looked waits on or is answered. -/
theorem Patient.look_cases (patient : desk.Patient) (ticket : Nat) :
    (desk.look ticket).2 = [] ∧ (desk.look ticket).1.queue = desk.queue ∧
        (desk.look ticket).1.waiting.map (·.calm) = desk.waiting.map (·.calm) ∨
      ∃ read ∈ desk.waiting, ∃ bytes later,
        desk.queue.read read.reader read.count true = .actions bytes later ∧
        desk.look ticket =
          ({ desk.dismiss read with queue := later }, [⟨read.ticket, .ok bytes⟩]) := by
  have made := desk.looks ticket
  generalize desk.look ticket = after at made
  cases made with
  | idle calm => exact .inl ⟨rfl, rfl, rfl⟩
  | answered found due reading =>
      obtain ⟨member, rfl⟩ := mem_of_find found
      exact .inr ⟨_, member, _, _, reading, rfl⟩
  | ended found due reason =>
      obtain ⟨serves, early⟩ := patient.reads _ (mem_of_find found).1
      rcases reason with failed | ⟨-, late⟩
      · rcases ActionQueue.read_eq_failed_iff.mp failed with absent | ⟨silent, -⟩
        · exact absurd serves absent
        · rw [patient.synched] at silent
          cases silent
      · exact absurd early (Nat.not_lt_of_le late)
  | held found due blocked early => exact .inl ⟨rfl, rfl, hold_field (·.calm) rfl⟩

/-- Looking leaves all that patient. -/
theorem Patient.look (patient : desk.Patient) (ticket : Nat) : (desk.look ticket).1.Patient := by
  have readers := congrArg ActionQueue.Build.readers (desk.build_look ticket)
  constructor
  · rcases patient.look_cases ticket with ⟨-, same, -⟩ | ⟨read, -, bytes, later, reading, made⟩
    · rw [same]
      exact patient.synched
    · obtain ⟨heads, rfl, -⟩ := ActionQueue.read_keeps reading
      rw [made]
      exact patient.synched
  · intro read member
    obtain ⟨before, old, same⟩ :=
      List.mem_map.mp ((desk.calm_look ticket).subset (List.mem_map_of_mem member))
    obtain ⟨⟨positive, inside⟩, early⟩ := patient.reads before old
    obtain ⟨-, reader, -, deadline⟩ := WaitingRead.fields_of_calm same
    rw [reader] at positive inside
    rw [deadline] at early
    exact ⟨⟨positive, Nat.le_trans inside (Nat.le_of_eq readers.symm)⟩,
      (desk.now_look ticket).symm ▸ early⟩

/-- While the queue is in synchrony and there is time, a read that waited is answered or
waits on. -/
theorem Patient.answered_or_waiting (patient : desk.Patient) (tickets : List Nat)
    (member : read ∈ desk.waiting) :
    read.calm ∈ (desk.lookAll tickets).1.waiting.map (·.calm) ∨
      ∃ bytes, ⟨read.ticket, .ok bytes⟩ ∈ (desk.lookAll tickets).2 := by
  induction tickets generalizing desk read with
  | nil => exact .inl (List.mem_map_of_mem member)
  | cons ticket rest inductionHypothesis =>
      -- A read that is still there after the first look is found again by the others.
      have goesOn (stays : read.calm ∈ (desk.look ticket).1.waiting.map (·.calm)) :
          read.calm ∈ ((desk.look ticket).1.lookAll rest).1.waiting.map (·.calm) ∨
            ∃ bytes, ⟨read.ticket, .ok bytes⟩ ∈ (desk.lookAll (ticket :: rest)).2 := by
        obtain ⟨later, waits, same⟩ := List.mem_map.mp stays
        rw [← same, ← (WaitingRead.fields_of_calm same).1]
        refine (inductionHypothesis (patient.look ticket) waits).imp_right ?_
        rintro ⟨bytes, given⟩
        exact ⟨bytes, List.mem_append_right _ given⟩
      rcases patient.look_cases ticket with ⟨-, -, same⟩ | ⟨other, -, bytes, later, -, made⟩
      · exact goesOn (same ▸ List.mem_map_of_mem member)
      · by_cases itself : read = other
        · subst itself
          refine .inr ⟨bytes, ?_⟩
          rw [lookAll_cons, made]
          exact List.mem_cons_self
        · apply goesOn
          rw [made]
          exact List.mem_map_of_mem ((List.mem_erase_of_ne itself).mpr member)

/-- As long as no read of a reader is answered, as much is there for it as before. -/
theorem Patient.available_lookAll (patient : desk.Patient) {reader : UInt8}
    (positive : reader ≠ 0)
    (none : ∀ read ∈ desk.waiting, read.reader = reader →
      ∀ bytes, ⟨read.ticket, .ok bytes⟩ ∉ (desk.lookAll tickets).2) :
    (desk.lookAll tickets).1.queue.available reader = desk.queue.available reader := by
  induction tickets generalizing desk with
  | nil => rfl
  | cons ticket rest inductionHypothesis =>
      have later : ∀ read ∈ (desk.look ticket).1.waiting, read.reader = reader →
          ∀ bytes, ⟨read.ticket, .ok bytes⟩ ∉ ((desk.look ticket).1.lookAll rest).2 := by
        intro read member own bytes given
        obtain ⟨before, old, same⟩ :=
          List.mem_map.mp ((desk.calm_look ticket).subset (List.mem_map_of_mem member))
        obtain ⟨ticket, reader, -, -⟩ := WaitingRead.fields_of_calm same
        apply none before old (reader.trans own) bytes
        rw [ticket]
        exact List.mem_append_right _ given
      apply (inductionHypothesis (patient.look ticket) later).trans
      rcases patient.look_cases ticket with ⟨-, same, -⟩ | ⟨other, old, bytes, after, reading, made⟩
      · rw [same]
      · have differs : other.reader ≠ reader := by
          refine fun own => none other old own bytes ?_
          rw [lookAll_cons, made]
          exact List.mem_cons_self
        obtain ⟨serves, ⟨silent, -⟩ | ⟨-, -, -, rfl⟩⟩ := ActionQueue.read_answered reading
        · rw [patient.synched] at silent
          cases silent
        · rw [made, ActionQueue.available, ActionQueue.available]
          rw [ActionQueue.position_advance_other serves.1 positive differs.symm]
          rfl

/-- Enough for a waiting read does not lie there unnoticed: once nobody has a reason to
look any more, a read of the same reader has been answered. -/
theorem Patient.answered_of_enough (patient : desk.Patient) (alert : desk.Alert)
    (rest : (desk.lookAll tickets).1.AtRest) (member : read ∈ desk.waiting)
    (enough : read.count ≤ desk.queue.available read.reader) :
    ∃ other ∈ desk.waiting, other.reader = read.reader ∧
      ∃ bytes, ⟨other.ticket, .ok bytes⟩ ∈ (desk.lookAll tickets).2 := by
  by_contra unanswered
  have none : ∀ other ∈ desk.waiting, other.reader = read.reader →
      ∀ bytes, ⟨other.ticket, .ok bytes⟩ ∉ (desk.lookAll tickets).2 :=
    fun other old own bytes given => unanswered ⟨other, old, own, bytes, given⟩
  have same := patient.available_lookAll (patient.reads read member).1.1 none
  -- So it waits on, at a queue that holds as much for it as before, and need not look.
  have waits := patient.answered_or_waiting tickets member
  rcases waits with stays | ⟨bytes, given⟩
  · obtain ⟨later, there, alike⟩ := List.mem_map.mp stays
    have calm : later.woken = false :=
      Bool.eq_false_iff.mpr fun woken => rest later there (.inl woken)
    have still : (desk.lookAll tickets).1.Alert := lookAll_eq_run desk tickets ▸ alert_run alert _
    have few := (ActionQueue.read_eq_blocked_iff.mp ((still later there).2 calm)).2.2
    obtain ⟨-, reader, count, -⟩ := WaitingRead.fields_of_calm alike
    rw [reader, count, same] at few
    exact absurd enough (Nat.not_le_of_lt few)
  · exact none read member rfl bytes given

/-! ### Out of synchrony -/

/-- Out of synchrony a read that looks fails. -/
theorem look_silent (silent : desk.queue.synched = false) (ticket : Nat) :
    desk.look ticket = (desk, []) ∨
      ∃ read ∈ desk.waiting, desk.look ticket = (desk.dismiss read, [desk.fail read]) := by
  have made := desk.looks ticket
  generalize desk.look ticket = after at made
  cases made with
  | idle calm => exact .inl rfl
  | answered found due reading =>
      obtain ⟨-, ⟨-, new, -⟩ | ⟨on, -⟩⟩ := ActionQueue.read_answered reading
      · cases new
      · rw [silent] at on
        cases on
  | ended found due reason =>
      obtain ⟨member, rfl⟩ := mem_of_find found
      exact .inr ⟨_, member, rfl⟩
  | held found due blocked early =>
      have on := (ActionQueue.read_eq_blocked_iff.mp blocked).2.1
      rw [silent] at on
      cases on

/-- Out of synchrony reads end only by failing. -/
theorem ended_lookAll (silent : desk.queue.synched = false) (tickets : List Nat) :
    ((desk.lookAll tickets).2 ++ (desk.lookAll tickets).1.waiting.map desk.fail).Perm
      (desk.waiting.map desk.fail) := by
  induction tickets generalizing desk with
  | nil => exact .refl _
  | cons ticket rest inductionHypothesis =>
      change ((desk.look ticket).2 ++ ((desk.look ticket).1.lookAll rest).2 ++
        ((desk.look ticket).1.lookAll rest).1.waiting.map _).Perm _
      rw [List.append_assoc]
      rcases look_silent silent ticket with made | ⟨read, member, made⟩
      · rw [made]
        exact inductionHypothesis silent
      · rw [made]
        have others : (((desk.dismiss read).lookAll rest).2 ++
            ((desk.dismiss read).lookAll rest).1.waiting.map desk.fail).Perm
              ((desk.dismiss read).waiting.map desk.fail) := inductionHypothesis silent
        exact (others.cons _).trans ((List.perm_cons_erase member).map _).symm

/-- Out of synchrony all reads that wait have been woken, so none is left when nobody has
a reason to look any more. -/
theorem all_end (alert : desk.Alert) (silent : desk.queue.synched = false)
    (rest : (desk.lookAll tickets).1.AtRest) :
    (desk.lookAll tickets).1.waiting = [] ∧
      (desk.lookAll tickets).2.Perm (desk.waiting.map desk.fail) := by
  have still : (desk.lookAll tickets).1.Alert := lookAll_eq_run desk tickets ▸ alert_run alert _
  have off : (desk.lookAll tickets).1.queue.synched = false := by
    clear rest still alert
    induction tickets generalizing desk with
    | nil => exact silent
    | cons ticket rest inductionHypothesis =>
        refine inductionHypothesis (?_ : (desk.look ticket).1.queue.synched = false)
        rcases look_silent silent ticket with made | ⟨read, -, made⟩
        · rwa [made]
        · rw [made]
          exact silent
  have nobody : (desk.lookAll tickets).1.waiting = [] := by
    refine List.eq_nil_iff_forall_not_mem.mpr fun read member => rest read member (.inl ?_)
    cases woken : read.woken with
    | true => rfl
    | false =>
        have on := (ActionQueue.read_eq_blocked_iff.mp ((still read member).2 woken)).2.1
        rw [off] at on
        cases on
  refine ⟨nobody, ?_⟩
  have ended := ended_lookAll silent tickets
  rwa [nobody, List.map_nil, List.append_nil] at ended

/-! ## Promptness -/

/-- A waking changes nothing about the reads that wait, but that they are woken. -/
theorem wake_waiting (queue : ActionQueue) (reason : Bool) (member : read ∈ desk.waiting) :
    ∃ later ∈ (ReadDesk.wake { desk with queue := queue } reason).waiting,
      later.calm = read.calm :=
  ⟨_, List.mem_map_of_mem member, rfl⟩

/-- What holds at a desk at any moment of a run in which those reads began: no waiting
read is overlooked and none is overdue. -/
structure Prompt (players : Nat) (began : List WaitingRead) (desk : ReadDesk) : Prop where
  /-- Whoever waits began in the run, and its time runs from that moment. -/
  origin : (desk.waiting.map (·.calm)).Sublist began
  /-- Only players wait, and one that was not woken has to wait. -/
  watched : ∀ read ∈ desk.waiting, read.reader ≠ 0 ∧ read.reader.toNat ≤ players ∧
    (read.woken = false →
      desk.queue.synched = true ∧ desk.queue.available read.reader < read.count)
  /-- Once nobody has a reason to look, whoever waits has to wait and has time left. -/
  rest : desk.AtRest → ∀ read ∈ desk.waiting, read.reader ≠ 0 ∧
    read.reader.toNat ≤ players ∧ desk.queue.synched = true ∧
    desk.queue.available read.reader < read.count ∧ desk.now < read.deadline
  /-- Nobody has one after every waiting read has looked once. -/
  settles : desk.settle.1.AtRest
  /-- Each read ends once or waits on, whatever happens next. -/
  tickets : ∀ move, ((desk.step move).2.map (·.ticket) ++
      (desk.step move).1.waiting.map (·.ticket)).Perm
    (desk.waiting.map (·.ticket) ++ move.ticket?.toList)
  /-- A read that looks and finds enough in synchrony is answered, whatever woke it. -/
  looking : ∀ read ∈ desk.waiting, read.Due desk.now → desk.queue.synched = true →
    read.count ≤ desk.queue.available read.reader →
    ∃ bytes, (desk.step (.look read.ticket)).2 = [⟨read.ticket, .ok bytes⟩]
  /-- A read whose time has run out ends when it looks. -/
  late : ∀ read ∈ desk.waiting, read.deadline ≤ desk.now →
    ∃ result, (desk.step (.look read.ticket)).2 = [⟨read.ticket, result⟩]
  /-- In synchrony actions that come end a read that has time left only by answering it,
  and if there is enough for it they answer a read of its reader; the order in which the
  reads look does not matter. -/
  writing : desk.queue.synched = true → (∀ read ∈ desk.waiting, desk.now < read.deadline) →
    ∀ actions tickets, ((desk.step (.add actions)).1.lookAll tickets).1.AtRest →
    ∀ read ∈ desk.waiting,
      (read.calm ∈ ((desk.step (.add actions)).1.lookAll tickets).1.waiting.map (·.calm) ∨
        ∃ bytes, ⟨read.ticket, .ok bytes⟩ ∈
          ((desk.step (.add actions)).1.lookAll tickets).2) ∧
      (read.count ≤ (desk.queue.add actions).available read.reader →
        ∃ other ∈ desk.waiting, other.reader = read.reader ∧
          ∃ bytes, ⟨other.ticket, .ok bytes⟩ ∈
            ((desk.step (.add actions)).1.lookAll tickets).2)
  /-- When synchrony is lost all waiting reads fail, in the order in which they look. -/
  silence : ∀ tickets, ((desk.step (.synch false)).1.lookAll tickets).1.AtRest →
    ((desk.step (.synch false)).1.lookAll tickets).1.waiting = [] ∧
      ((desk.step (.synch false)).1.lookAll tickets).2.Perm (desk.waiting.map desk.fail)

/-- Whatever happens at the desk of a new queue, and whenever and in whatever order the
waiting reads get to look, no waiting read is overlooked and none is overdue. -/
theorem waits_in_time (player : UInt8) (user : UserId) (players bufferSize timeout : Nat)
    (moves : List DeskMove) (distinct : (moves.filterMap DeskMove.ticket?).Nodup)
    (desk : ReadDesk)
    (reached : desk =
      (create (ActionQueue.create player user players bufferSize timeout)).run moves) :
    desk.Prompt (max players 1) (DeskMove.asked timeout 0 moves) := by
  have alert : desk.Alert := reached ▸ alert_run (alert_create _) moves
  have origin : (desk.waiting.map (·.calm)).Sublist (DeskMove.asked timeout 0 moves) :=
    reached ▸ waiting_run _ moves
  have ticketed : desk.Ticketed := by
    have own := (origin.map (·.ticket)).nodup (DeskMove.tickets_asked timeout 0 moves ▸ distinct)
    rwa [List.map_map] at own
  have readers : desk.queue.heads.length = max players 1 := by
    have kept := congrArg ActionQueue.Build.readers (build_run (create
      (ActionQueue.create player user players bufferSize timeout)) moves)
    rw [← reached] at kept
    exact kept.trans (List.length_replicate ..)
  have watched : ∀ read ∈ desk.waiting, read.reader ≠ 0 ∧ read.reader.toNat ≤ max players 1 ∧
      (read.woken = false →
        desk.queue.synched = true ∧ desk.queue.available read.reader < read.count) := by
    intro read member
    obtain ⟨serves, waits⟩ := alert read member
    refine ⟨serves.1, readers ▸ serves.2, fun calm => ?_⟩
    exact (ActionQueue.read_eq_blocked_iff.mp (waits calm)).2
  constructor
  case origin => exact origin
  case watched => exact watched
  case rest =>
    intro calm read member
    obtain ⟨positive, inside, waits⟩ := watched read member
    have sleeps : read.woken = false :=
      Bool.eq_false_iff.mpr fun woken => calm read member (.inl woken)
    obtain ⟨synched, few⟩ := waits sleeps
    refine ⟨positive, inside, synched, few, Nat.lt_of_not_le fun late => ?_⟩
    exact calm read member (.inr late)
  case settles => exact atRest_lookAll ticketed fun read member _ => List.mem_map_of_mem member
  case tickets => exact desk.tickets_step
  case looking =>
    intro read member due synched enough
    refine ⟨desk.queue.cells (desk.queue.position read.reader) read.count, ?_⟩
    rw [step, look_of_due (ticketed.find member) due,
      ActionQueue.read_of_enough (alert read member).1 synched enough]
  case late =>
    intro read member late
    rw [step, look_of_due (ticketed.find member) (.inr late)]
    split
    · exact ⟨_, rfl⟩
    · exact ⟨_, rfl⟩
    · rw [if_pos late]
      exact ⟨_, rfl⟩
  case writing =>
    intro synched early actions tickets rest read member
    have patient : (desk.step (.add actions)).1.Patient := by
      refine ⟨(ActionQueue.add_synched ..).trans synched, fun later waits => ?_⟩
      obtain ⟨before, old, rfl⟩ := List.mem_map.mp waits
      obtain ⟨positive, inside⟩ := (alert before old).1
      exact ⟨⟨positive, (ActionQueue.add_heads ..).symm ▸ inside⟩, early before old⟩
    obtain ⟨later, waits, same⟩ :=
      wake_waiting (desk.queue.add actions) desk.queue.synched member
    obtain ⟨ticket, reader, count, -⟩ := WaitingRead.fields_of_calm same
    rw [← same, ← ticket, ← reader, ← count]
    refine ⟨patient.answered_or_waiting tickets waits, fun enough => ?_⟩
    obtain ⟨other, among, own, bytes, given⟩ :=
      patient.answered_of_enough (alert_step alert (.add actions)) rest waits enough
    obtain ⟨before, old, rfl⟩ := List.mem_map.mp among
    exact ⟨before, old, own, bytes, given⟩
  case silence =>
    intro tickets rest
    have finished := all_end (alert_step alert (.synch false))
      (desk.queue.setSynched_synched false) rest
    have same : (desk.step (.synch false)).1.waiting.map (desk.step (.synch false)).1.fail =
        desk.waiting.map desk.fail := by
      have blamed : (desk.queue.setSynched false).timedOut = desk.queue.timedOut := by
        simp [ActionQueue.timedOut]
      refine (wake_field _ _ _ fun _ _ => rfl).trans (List.map_congr_left fun read _ => ?_)
      exact congrArg (fun timeout => FinishedRead.mk read.ticket (.error timeout)) blamed
    rwa [same] at finished

/-- A queue of two players that a read may wait ten milliseconds for. -/
def pair : ReadDesk := create (ActionQueue.create 1 7 2 4 10)

/-- The first player asks for three actions, and two come when more than half of its
time is over: it looks and goes on waiting. -/
def halfServed : List DeskMove :=
  [.synch true, .get 0 1 3, .pass 6, .add [1, 2], .look 0, .get 1 2 2, .pass 3]

theorem waits_in_time_halfServed :
    (pair.run halfServed).waiting = [⟨0, 1, 3, 10, false⟩] ∧
      (pair.run halfServed).AtRest ∧
      (∀ read ∈ (pair.run halfServed).waiting, (pair.run halfServed).now < read.deadline) ∧
      ∃ bytes, ⟨0, .ok bytes⟩ ∈ (((pair.run halfServed).step (.add [3])).1.lookAll [0]).2 := by
  have prompt := waits_in_time 1 7 2 4 10 halfServed (by decide) _ rfl
  have rest : (pair.run halfServed).AtRest := by decide
  have early := fun read member => (prompt.rest rest read member).2.2.2.2
  refine ⟨by decide, rest, early, ?_⟩
  obtain ⟨-, ends⟩ := prompt.writing (by decide) early [3] [0] (by decide) ⟨0, 1, 3, 10, false⟩
    (by decide)
  obtain ⟨other, among, -, given⟩ := ends (by decide)
  have only : (pair.run halfServed).waiting = [⟨0, 1, 3, 10, false⟩] := by decide
  obtain rfl := List.mem_singleton.mp (only ▸ among)
  exact given

/-- A read that is woken by the loss of synchrony is answered if synchrony is back and
enough has come when it looks. -/
example : ((pair.run [.synch true, .get 0 1 2, .synch false, .synch true, .add [7, 8]]).step
    (.look 0)).2 = [⟨0, .ok [7, 8]⟩] := rfl

end ReadDesk

end Netplay
