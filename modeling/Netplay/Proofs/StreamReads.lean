/-
Module: Netplay.Proofs.StreamReads
Purpose: A bounded queue is read like an unbounded stream, by each reader as if it
  were alone: leaving out the reads of one reader, or a read that times out, changes
  nothing else in the journal.
Main exports:
  ActionQueue.Alike, DeskMove.without, DeskEntry.without, ReadDesk.Without,
  ReadDesk.journal_without_reader, ReadDesk.journal_without_missed, ReadDesk.reads_stream
-/
import Mathlib.Data.List.Pairwise
import Netplay.Proofs.Journal

namespace Netplay

/-! ## Queues that differ in some readers -/

namespace ActionQueue

/-- The second queue is the first one, but for how far some of the readers have
read. -/
structure Alike (apart : UInt8 → Prop) (queue other : ActionQueue) : Prop where
  same : other = { queue with heads := other.heads }
  readers : other.heads.length = queue.heads.length
  heads : ∀ reader, reader ≠ 0 → ¬ apart reader →
    other.heads[reader.toNat - 1]? = queue.heads[reader.toNat - 1]?

namespace Alike

variable {apart : UInt8 → Prop} {queue other later : ActionQueue} {reader : UInt8} {count : Nat}
  {waited : Bool} {bytes : Bytes}

theorem refl (queue : ActionQueue) : queue.Alike apart queue :=
  ⟨rfl, rfl, fun _ _ _ => rfl⟩

theorem of_heads {heads : List Nat} (readers : heads.length = queue.heads.length)
    (others : ∀ reader, reader ≠ 0 → ¬ apart reader →
      heads[reader.toNat - 1]? = queue.heads[reader.toNat - 1]?) :
    queue.Alike apart { queue with heads := heads } :=
  ⟨rfl, readers, others⟩

variable (alike : queue.Alike apart other)
include alike

theorem setSynched (on : Bool) : (queue.setSynched on).Alike apart (other.setSynched on) := by
  obtain ⟨same, readers, heads⟩ := alike
  rw [same]
  unfold ActionQueue.setSynched
  split
  · exact of_heads readers heads
  · cases on with
    | true => exact of_heads readers heads
    | false =>
        have emptied : other.heads.map (fun _ => 0) = queue.heads.map (fun _ => 0) := by
          simp [readers]
        simp only [Bool.false_eq_true, if_false, emptied]
        exact refl _

theorem add (actions : Bytes) : (queue.add actions).Alike apart (other.add actions) := by
  obtain ⟨same, readers, heads⟩ := alike
  rw [same, queue.add_with_heads actions other.heads]
  apply of_heads
  · rwa [queue.add_heads]
  · rwa [queue.add_heads]

theorem noteTimeout (timeout : ReadTimeout) :
    (queue.noteTimeout timeout).Alike apart (other.noteTimeout timeout) := by
  obtain ⟨same, readers, heads⟩ := alike
  rw [same]
  exact of_heads readers heads

theorem timedOut : other.timedOut = queue.timedOut := by
  rw [alike.same]
  rfl

theorem synched : other.synched = queue.synched := by
  rw [alike.same]

theorem serves : other.Serves reader ↔ queue.Serves reader := by
  rw [Serves, Serves, alike.readers]

theorem position (positive : reader ≠ 0) (near : ¬ apart reader) :
    other.position reader = queue.position reader := by
  have place := alike.heads reader positive near
  rw [alike.same] at place ⊢
  simp only [ActionQueue.position, head?]
  rw [place]

theorem available (positive : reader ≠ 0) (near : ¬ apart reader) :
    other.available reader = queue.available reader := by
  have place := alike.position positive near
  rw [alike.same] at place ⊢
  rw [ActionQueue.available, place, ActionQueue.available]

theorem cells (head count : Nat) : other.cells head count = queue.cells head count := by
  induction count generalizing head with
  | zero => rfl
  | succ count inductionHypothesis =>
      rw [ActionQueue.cells, ActionQueue.cells, inductionHypothesis, alike.same]

/-- A read that has to wait at the one has to wait at the other. -/
theorem blocked (near : ¬ apart reader) (blocked : queue.read reader count waited = .blocked) :
    other.read reader count waited = .blocked := by
  obtain ⟨serves, on, few⟩ := read_eq_blocked_iff.mp blocked
  apply read_eq_blocked_iff.mpr
  refine ⟨alike.serves.mpr serves, alike.synched.trans on, ?_⟩
  rwa [alike.available serves.1 near]

/-- A read that fails at the one fails at the other. -/
theorem failed (failed : queue.read reader count waited = .failed) :
    other.read reader count waited = .failed := by
  apply read_eq_failed_iff.mpr
  rw [alike.serves, alike.synched]
  exact read_eq_failed_iff.mp failed

/-- The same reader reads as far in both. -/
theorem advance (target : Nat) :
    (queue.advance reader target).Alike apart (other.advance reader target) := by
  obtain ⟨same, readers, heads⟩ := alike
  rw [same]
  apply of_heads
  · simp [ActionQueue.advance, readers]
  · intro near positive there
    simp only [ActionQueue.advance, List.getElem?_set, readers, heads near positive there]

/-- A reader apart reads in the first only. -/
theorem advance_apart (positive : reader ≠ 0) (away : apart reader) (target : Nat) :
    (queue.advance reader target).Alike apart other := by
  obtain ⟨same, readers, heads⟩ := alike
  refine ⟨same, ?_, fun near one there => ?_⟩
  · simp [ActionQueue.advance, readers]
  · have differs : near ≠ reader := fun same => there (same ▸ away)
    simp only [ActionQueue.advance, List.getElem?_set_ne (place_ne positive one differs)]
    exact heads near one there

/-- A read that is answered at the one is answered alike at the other. -/
theorem answered (near : ¬ apart reader)
    (answered : queue.read reader count waited = .actions bytes later) :
    ∃ after, other.read reader count waited = .actions bytes after ∧ later.Alike apart after := by
  obtain ⟨serves, ⟨off, new, zeros, rfl⟩ | ⟨on, enough, given, rfl⟩⟩ := read_answered answered
  · refine ⟨other, ?_, alike⟩
    rw [read_of_serves (alike.serves.mpr serves), if_pos (alike.synched.trans off), new, zeros]
    rfl
  · have place := alike.position serves.1 near
    refine ⟨_, ?_, alike.advance _⟩
    have there : count ≤ other.available reader := by
      rwa [alike.available serves.1 near]
    rw [read_of_enough (alike.serves.mpr serves) (alike.synched.trans on) there, place,
      alike.cells, given]

/-- What readers apart read at the one need not be read at the other. -/
theorem spared (away : apart reader)
    (answered : queue.read reader count waited = .actions bytes later) :
    later.Alike apart other := by
  obtain ⟨serves, ⟨-, -, -, rfl⟩ | ⟨-, -, -, rfl⟩⟩ := read_answered answered
  · exact alike
  · exact alike.advance_apart serves.1 away _

end Alike

end ActionQueue

/-! ## Leaving reads out -/

/-- The ticket of the read that a move is about. -/
def DeskMove.about? : DeskMove → Option Nat
  | .get ticket _ _ | .look ticket => some ticket
  | _ => none

/-- The moves without those that are about the reads under these tickets. -/
def DeskMove.without (tickets : List Nat) (moves : List DeskMove) : List DeskMove :=
  moves.filter fun move => move.about?.all fun ticket => ticket ∉ tickets

/-- The tickets under which a reader asks. -/
def DeskMove.ticketsOf (reader : UInt8) (moves : List DeskMove) : List Nat :=
  moves.filterMap fun
    | .get ticket asker _ => if asker = reader then some ticket else none
    | _ => none

/-- The ticket of the read that an entry is about. -/
def DeskEntry.about? : DeskEntry → Option Nat
  | .did move => move.about?
  | .ended read => some read.ticket

/-- The journal without everything about the reads under these tickets. -/
def DeskEntry.without (tickets : List Nat) (entries : List DeskEntry) : List DeskEntry :=
  entries.filter fun entry => entry.about?.all fun ticket => ticket ∉ tickets

namespace ReadDesk

/-- Whether a read goes with the others: it is left out and its reader is apart or it is
never answered, or it is not left out and its reader is not apart. -/
structure Parted (tickets : List Nat) (apart : UInt8 → Prop) (finished : List FinishedRead)
    (ticket : Nat) (reader : UInt8) : Prop where
  kept : ticket ∉ tickets → ¬ apart reader
  left : ticket ∈ tickets → apart reader ∨ ∀ bytes, ⟨ticket, .ok bytes⟩ ∉ finished

/-- The second desk is the first one without the reads under these tickets. -/
structure Without (tickets : List Nat) (apart : UInt8 → Prop) (desk other : ReadDesk) :
    Prop where
  now : other.now = desk.now
  alike : desk.queue.Alike apart other.queue
  waiting : other.waiting = desk.waiting.filter fun read => read.ticket ∉ tickets

variable {tickets : List Nat} {apart : UInt8 → Prop}

theorem Parted.mono {finished fewer : List FinishedRead} {ticket : Nat} {reader : UInt8}
    (parted : Parted tickets apart finished ticket reader) (subset : fewer ⊆ finished) :
    Parted tickets apart fewer ticket reader :=
  ⟨parted.kept, fun member => (parted.left member).imp_right
    fun never bytes found => never bytes (subset found)⟩

variable {desk other : ReadDesk} {ticket : Nat}

/-- A read that is not left out is found at both desks. -/
theorem Without.find (without : desk.Without tickets apart other) (out : ticket ∉ tickets) :
    other.waiting.find? (·.ticket = ticket) = desk.waiting.find? (·.ticket = ticket) := by
  rw [without.waiting, List.find?_filter]
  refine congrArg (List.find? · desk.waiting) (funext fun read => ?_)
  by_cases same : read.ticket = ticket
  · simp [same, out]
  · simp [same]

/-- A read that is dismissed at the one is dismissed at the other, if it is there. -/
theorem Without.dismiss (without : desk.Without tickets apart other) (read : WaitingRead) :
    (other.dismiss read).waiting =
      (desk.dismiss read).waiting.filter fun read => read.ticket ∉ tickets := by
  rw [ReadDesk.dismiss, ReadDesk.dismiss, without.waiting, List.erase_filter]

/-- So is one that is held. -/
theorem Without.hold (without : desk.Without tickets apart other) (read : WaitingRead) :
    (other.hold read).waiting =
      (desk.hold read).waiting.filter fun read => read.ticket ∉ tickets := by
  rw [ReadDesk.hold, ReadDesk.hold, without.waiting, List.filter_map]
  refine congrArg (List.map _) (List.filter_congr fun other _ => ?_)
  simp only [Function.comp_apply]
  split
  · rename_i same
    rw [same]
  · rfl

/-- And those that are woken. -/
theorem Without.wake (without : desk.Without tickets apart other) {queue after : ActionQueue}
    (alike : queue.Alike apart after) (reason : Bool) :
    (ReadDesk.wake { desk with queue := queue } reason).Without tickets apart
      (ReadDesk.wake { other with queue := after } reason) := by
  refine ⟨without.now, alike, ?_⟩
  simp only [ReadDesk.wake, without.waiting, List.filter_map]
  rfl

/-- A read that is not left out does the same at both desks when it looks. -/
theorem Without.look (without : desk.Without tickets apart other) (out : ticket ∉ tickets)
    (parted : ∀ read ∈ desk.waiting,
      Parted tickets apart (desk.look ticket).2 read.ticket read.reader) :
    (desk.look ticket).1.Without tickets apart (other.look ticket).1 ∧
      (other.look ticket).2 = (desk.look ticket).2 := by
  have there := without.find out
  have near {read : WaitingRead}
      (found : desk.waiting.find? (·.ticket = ticket) = some read) : ¬ apart read.reader := by
    obtain ⟨member, rfl⟩ := mem_of_find found
    exact (parted read member).kept out
  have time {read : WaitingRead} (due : read.Due desk.now) : read.Due other.now :=
    without.now.symm ▸ due
  have made := desk.looks ticket
  generalize desk.look ticket = after at made
  cases made with
  | idle calm =>
      rw [look_idle fun read found => without.now.symm ▸ calm read (there ▸ found)]
      exact ⟨without, rfl⟩
  | @answered read bytes later found due reading =>
      obtain ⟨after, answered, goesOn⟩ := without.alike.answered (near found) reading
      rw [look_of_due (there.trans found) (time due), answered]
      exact ⟨⟨without.now, goesOn, without.dismiss read⟩, rfl⟩
  | @ended read found due reason =>
      have fails : other.fail read = desk.fail read := by
        rw [fail, fail, without.alike.timedOut]
      rw [look_of_due (there.trans found) (time due)]
      rcases reason with failed | ⟨blocked, late⟩
      · rw [without.alike.failed failed, fails]
        exact ⟨⟨without.now, without.alike, without.dismiss read⟩, rfl⟩
      · rw [without.alike.blocked (near found) blocked, fails]
        simp only [without.now, if_pos late]
        exact ⟨⟨without.now, without.alike, without.dismiss read⟩, trivial⟩
  | @held read found due blocked early =>
      rw [look_of_due (there.trans found) (time due),
        without.alike.blocked (near found) blocked]
      simp only [without.now, if_neg (Nat.not_le_of_lt early)]
      exact ⟨⟨without.now, without.alike, without.hold read⟩, trivial⟩

/-- A move that is kept does the same at both desks. -/
theorem Without.step (without : desk.Without tickets apart other) {move : DeskMove}
    (kept : ∀ ticket, move.about? = some ticket → ticket ∉ tickets)
    (parted : ∀ read ∈ desk.waiting,
      Parted tickets apart (desk.step move).2 read.ticket read.reader)
    (asks : ∀ ticket reader count, move = .get ticket reader count →
      Parted tickets apart (desk.step move).2 ticket reader) :
    (desk.step move).1.Without tickets apart (other.step move).1 ∧
      (other.step move).2 = (desk.step move).2 := by
  have alike := without.alike
  cases move with
  | synch on =>
      refine ⟨?_, rfl⟩
      simp only [ReadDesk.step, alike.synched]
      exact without.wake (alike.setSynched on) _
  | add actions =>
      refine ⟨?_, rfl⟩
      simp only [ReadDesk.step, alike.synched]
      exact without.wake (alike.add actions) _
  | note number =>
      refine ⟨⟨without.now, ?_, without.waiting⟩, rfl⟩
      simp only [ReadDesk.step, alike.timedOut]
      exact alike.noteTimeout _
  | pass milliseconds =>
      exact ⟨⟨congrArg (· + milliseconds) without.now, alike, without.waiting⟩, rfl⟩
  | look ticket => exact without.look (kept ticket rfl) parted
  | get ticket reader count =>
      have out : ticket ∉ tickets := kept ticket rfl
      have near := (asks ticket reader count rfl).kept out
      simp only [ReadDesk.step, ask]
      cases answer : desk.queue.read reader count false with
      | actions bytes later =>
          obtain ⟨after, there, goesOn⟩ := alike.answered near answer
          simp only [there]
          exact ⟨⟨without.now, goesOn, without.waiting⟩, trivial⟩
      | failed =>
          simp only [alike.failed answer, alike.timedOut]
          exact ⟨without, trivial⟩
      | blocked =>
          have timeout : other.queue.timeout = desk.queue.timeout := by rw [alike.same]
          simp only [alike.blocked near answer, without.now, timeout]
          refine ⟨⟨rfl, alike, ?_⟩, trivial⟩
          simp [without.waiting, out]

/-- A read that is left out makes no difference to the others when it looks. -/
theorem Without.look_left (without : desk.Without tickets apart other) (out : ticket ∈ tickets)
    (parted : ∀ read ∈ desk.waiting,
      Parted tickets apart (desk.look ticket).2 read.ticket read.reader) :
    (desk.look ticket).1.Without tickets apart other := by
  have gone {read : WaitingRead} (member : read.ticket ∈ tickets) :
      other.waiting = (desk.dismiss read).waiting.filter fun read => read.ticket ∉ tickets := by
    have absent : read ∉ other.waiting := by
      rw [without.waiting]
      simp [member]
    rw [← without.dismiss read]
    exact (List.erase_of_not_mem absent).symm
  have made := desk.looks ticket
  generalize desk.look ticket = after at made parted
  cases made with
  | idle calm => exact without
  | @answered read bytes later found due reading =>
      obtain ⟨member, rfl⟩ := mem_of_find found
      have away : apart read.reader := ((parted read member).left out).resolve_right fun never =>
        never bytes List.mem_cons_self
      exact ⟨without.now, without.alike.spared away reading, gone out⟩
  | @ended read found due reason =>
      obtain ⟨-, rfl⟩ := mem_of_find found
      exact ⟨without.now, without.alike, gone out⟩
  | @held read found due blocked early =>
      obtain ⟨-, rfl⟩ := mem_of_find found
      refine ⟨without.now, without.alike, ?_⟩
      have absent : ∀ own ∈ other.waiting, own ≠ read := by
        rintro own waits rfl
        rw [without.waiting] at waits
        simp [out] at waits
      rw [← without.hold read, ReadDesk.hold]
      exact ((List.map_congr_left fun own waits => if_neg (absent own waits)).trans
        (List.map_id _)).symm

/-- A move about a read that is left out makes no difference to the others. -/
theorem Without.step_left (without : desk.Without tickets apart other) {move : DeskMove}
    (about : move.about? = some ticket) (out : ticket ∈ tickets)
    (parted : ∀ read ∈ desk.waiting,
      Parted tickets apart (desk.step move).2 read.ticket read.reader)
    (asks : ∀ ticket reader count, move = .get ticket reader count →
      Parted tickets apart (desk.step move).2 ticket reader) :
    (desk.step move).1.Without tickets apart other := by
  cases move with
  | look own =>
      obtain rfl : own = ticket := Option.some.inj about
      exact without.look_left out parted
  | get own reader count =>
      obtain rfl : own = ticket := Option.some.inj about
      replace asks : Parted _ _ (desk.ask own reader count).2 _ _ := asks _ _ _ rfl
      change (desk.ask own reader count).1.Without _ _ _
      rcases desk.ask_cases own reader count with
        ⟨bytes, later, answered, made⟩ | made | ⟨read, rfl, made⟩
      · rw [made] at asks ⊢
        have away : apart reader := (asks.left out).resolve_right fun never =>
          never bytes List.mem_cons_self
        exact ⟨without.now, without.alike.spared away answered, without.waiting⟩
      · rw [made]
        exact without
      · rw [made]
        refine ⟨without.now, without.alike, ?_⟩
        simp [without.waiting, out]
  | synch on => cases about
  | add actions => cases about
  | note number => cases about
  | pass milliseconds => cases about

/-- A move ends no read but the one that it is about. -/
theorem about_ended {move : DeskMove} {read : FinishedRead} (ends : read ∈ (desk.step move).2) :
    move.about? = some read.ticket := by
  cases move with
  | look ticket =>
      replace ends : read ∈ (desk.look ticket).2 := ends
      have made := desk.looks ticket
      generalize desk.look ticket = after at made ends
      cases made with
      | idle calm => cases ends
      | answered found due reading => rw [List.mem_singleton.mp ends, DeskMove.about?]
      | ended found due reason =>
          rw [List.mem_singleton.mp ends, DeskMove.about?, ← (mem_of_find found).2, fail]
      | held found due blocked early => cases ends
  | get ticket reader count =>
      replace ends : read ∈ (desk.ask ticket reader count).2 := ends
      rcases desk.ask_cases ticket reader count with ⟨bytes, later, -, made⟩ | made | ⟨_, -, made⟩
      · rw [made] at ends
        rw [List.mem_singleton.mp ends, DeskMove.about?]
      · rw [made] at ends
        rw [List.mem_singleton.mp ends, DeskMove.about?]
      · rw [made] at ends
        cases ends
  | synch on => cases ends
  | add actions => cases ends
  | note number => cases ends
  | pass milliseconds => cases ends

end ReadDesk

/-! ## Journals -/

/-- The read that an entry says has ended. -/
def DeskEntry.ended? : DeskEntry → Option FinishedRead
  | .did _ => none
  | .ended read => some read

theorem DeskEntry.without_append (tickets : List Nat) (front back : List DeskEntry) :
    without tickets (front ++ back) = without tickets front ++ without tickets back :=
  List.filter_append ..

theorem DeskEntry.without_ended (tickets : List Nat) (finished : List FinishedRead) :
    without tickets (finished.map .ended) =
      (finished.filter fun read => read.ticket ∉ tickets).map .ended := by
  simp [without, List.filter_map, Function.comp_def, about?]

namespace ReadDesk

variable {tickets : List Nat} {apart : UInt8 → Prop} {desk other : ReadDesk}

theorem ended_journal (desk : ReadDesk) (move : DeskMove) (rest : List DeskMove) :
    (desk.journal (move :: rest)).filterMap DeskEntry.ended? =
      (desk.step move).2 ++ ((desk.step move).1.journal rest).filterMap DeskEntry.ended? := by
  have ended : (DeskEntry.ended? ∘ DeskEntry.ended) = some := rfl
  rw [journal, List.cons_append, List.filterMap_cons_none rfl, List.filterMap_append,
    List.filterMap_map, ended, List.filterMap_some]

/-- Every read that waited, and every one that begins, ends once or waits on. -/
theorem tickets_journal (desk : ReadDesk) (moves : List DeskMove) :
    (((desk.journal moves).filterMap DeskEntry.ended?).map (·.ticket) ++
        (desk.run moves).waiting.map (·.ticket)).Perm
      (desk.waiting.map (·.ticket) ++ moves.filterMap DeskMove.ticket?) := by
  induction moves generalizing desk with
  | nil => simp [journal, run]
  | cons move rest inductionHypothesis =>
      have later := inductionHypothesis (desk.step move).1
      have now := (desk.tickets_step move).append_right (rest.filterMap DeskMove.ticket?)
      rw [ended_journal, List.map_append, List.append_assoc]
      apply (later.append_left _).trans
      rw [← List.append_assoc]
      apply now.trans
      cases ticket : move.ticket? with
      | none => simp [ticket]
      | some ticket => simp [ticket]

/-- A read that waits after a move waited before, or began with it. -/
theorem waits_or_asks {move : DeskMove} {read : WaitingRead}
    (member : read ∈ (desk.step move).1.waiting) :
    (∃ before ∈ desk.waiting, before.ticket = read.ticket ∧ before.reader = read.reader) ∨
      move = .get read.ticket read.reader read.count := by
  have either := (waiting_run desk [move]).subset (List.mem_map_of_mem member)
  rcases List.mem_append.mp either with old | new
  · obtain ⟨before, waits, same⟩ := List.mem_map.mp old
    obtain ⟨ticket, reader, -, -⟩ := WaitingRead.fields_of_calm same
    exact .inl ⟨before, waits, ticket, reader⟩
  · right
    cases move with
    | get ticket reader count =>
        simp only [DeskMove.asked, List.mem_singleton, WaitingRead.calm,
          WaitingRead.mk.injEq] at new
        obtain ⟨rfl, rfl, rfl, -⟩ := new
        rfl
    | synch on => cases new
    | add actions => cases new
    | note number => cases new
    | pass milliseconds => cases new
    | look ticket => cases new

/-- What is left of the journal when a move and what it ends are in it. -/
theorem without_journal (desk : ReadDesk) (move : DeskMove) (rest : List DeskMove) :
    DeskEntry.without tickets (desk.journal (move :: rest)) =
      DeskEntry.without tickets [.did move] ++
        DeskEntry.without tickets ((desk.step move).2.map .ended) ++
          DeskEntry.without tickets ((desk.step move).1.journal rest) := by
  rw [← DeskEntry.without_append, ← DeskEntry.without_append]
  rfl

/-- The journal without some reads is that of a run without them, if all of them are
of readers apart, or are never answered. -/
theorem Without.journal (without : desk.Without tickets apart other) {moves : List DeskMove}
    (parted : ∀ read ∈ desk.waiting, Parted tickets apart
      ((desk.journal moves).filterMap DeskEntry.ended?) read.ticket read.reader)
    (asks : ∀ ticket reader count, .get ticket reader count ∈ moves → Parted tickets apart
      ((desk.journal moves).filterMap DeskEntry.ended?) ticket reader) :
    other.journal (DeskMove.without tickets moves) =
      DeskEntry.without tickets (desk.journal moves) := by
  induction moves generalizing desk other with
  | nil => rfl
  | cons move rest inductionHypothesis =>
      rw [ended_journal] at parted asks
      have still : ∀ read ∈ (desk.step move).1.waiting, Parted tickets apart
          (((desk.step move).1.journal rest).filterMap DeskEntry.ended?)
          read.ticket read.reader := by
        intro read member
        rcases waits_or_asks member with ⟨before, old, ticket, reader⟩ | begins
        · exact ticket ▸ reader ▸ (parted before old).mono (List.subset_append_right ..)
        · exact (asks _ _ _ (List.mem_cons.mpr (.inl begins.symm))).mono
            (List.subset_append_right ..)
      have later := fun ticket reader count member =>
        (asks ticket reader count (List.mem_cons_of_mem move member)).mono
          (List.subset_append_right ..)
      -- What waits now, and what the move begins, as far as this move can end it.
      have waits := fun read member => (parted read member).mono
        (List.subset_append_left (desk.step move).2 _)
      have begins := fun ticket reader count (asked : move = .get ticket reader count) =>
        (asks ticket reader count (asked ▸ List.mem_cons_self)).mono
          (List.subset_append_left (desk.step move).2 _)
      rw [without_journal]
      by_cases kept : ∀ ticket, move.about? = some ticket → ticket ∉ tickets
      · obtain ⟨goesOn, finished⟩ := without.step kept waits begins
        have stays : (move.about?.all fun ticket => ticket ∉ tickets) = true := by
          simpa [Option.all_eq_true] using kept
        have moves : DeskMove.without tickets (move :: rest) =
            move :: DeskMove.without tickets rest := List.filter_cons_of_pos stays
        have entered : DeskEntry.without tickets [.did move] = [.did move] :=
          List.filter_cons_of_pos stays
        have all : ((desk.step move).2.filter fun read => read.ticket ∉ tickets) =
            (desk.step move).2 := by
          apply List.filter_eq_self.mpr
          exact fun read ends => by simpa using kept read.ticket (about_ended ends)
        rw [moves, entered, DeskEntry.without_ended, all, ReadDesk.journal, finished,
          inductionHypothesis goesOn still later]
        rfl
      · obtain ⟨ticket, about, out⟩ : ∃ ticket, move.about? = some ticket ∧ ticket ∈ tickets := by
          simpa using kept
        have goesOn := without.step_left about out waits begins
        have goes : ¬ (move.about?.all fun ticket => ticket ∉ tickets) = true := by
          simp [about, out]
        have moves : DeskMove.without tickets (move :: rest) = DeskMove.without tickets rest :=
          List.filter_cons_of_neg goes
        have entered : DeskEntry.without tickets [.did move] = [] := List.filter_cons_of_neg goes
        have none : ((desk.step move).2.filter fun read => read.ticket ∉ tickets) = [] := by
          apply List.filter_eq_nil_iff.mpr
          intro read ends
          obtain rfl := Option.some.inj (about.symm.trans (about_ended ends))
          simpa using out
        rw [moves, entered, DeskEntry.without_ended, none, inductionHypothesis goesOn still later]
        rfl

/-! ## Every reader reads a stream -/

/-- Under a ticket of its own only one read begins. -/
theorem reader_unique {moves : List DeskMove} (distinct : (moves.filterMap DeskMove.ticket?).Nodup)
    {ticket : Nat} {first second : UInt8} {one two : Nat}
    (here : .get ticket first one ∈ moves) (there : .get ticket second two ∈ moves) :
    first = second := by
  have pairs := List.pairwise_filterMap.mp distinct
  by_contra differs
  have apart : DeskMove.get ticket first one ≠ .get ticket second two := by simp [differs]
  have symmetric : Std.Symm fun move other : DeskMove => ∀ own, move.ticket? = some own →
      ∀ its, other.ticket? = some its → own ≠ its :=
    ⟨fun _ _ unlike own begins its ends => (unlike its ends own begins).symm⟩
  exact pairs.forall here there apart ticket rfl ticket rfl rfl

/-- All reads of a reader can be left out. -/
theorem journal_without_reader (nobody : desk.waiting = [])
    {moves : List DeskMove} (distinct : (moves.filterMap DeskMove.ticket?).Nodup)
    (reader : UInt8) :
    desk.journal (DeskMove.without (DeskMove.ticketsOf reader moves) moves) =
      DeskEntry.without (DeskMove.ticketsOf reader moves) (desk.journal moves) := by
  have itself : desk.Without (DeskMove.ticketsOf reader moves) (· = reader) desk :=
    ⟨rfl, .refl _, by rw [nobody]; rfl⟩
  apply itself.journal
  · intro read member
    rw [nobody] at member
    cases member
  · intro ticket asker count asked
    constructor
    · rintro missing rfl
      exact missing (List.mem_filterMap.mpr ⟨_, asked, if_pos rfl⟩)
    · intro member
      left
      obtain ⟨move, inRun, tells⟩ := List.mem_filterMap.mp member
      split at tells
      · rename_i own other more
        split at tells
        · rename_i same
          obtain rfl := Option.some.inj tells
          exact (reader_unique distinct asked inRun).trans same
        · cases tells
      · cases tells

/-- A read that is never answered can be left out. -/
theorem journal_without_missed (nobody : desk.waiting = [])
    {moves : List DeskMove} (distinct : (moves.filterMap DeskMove.ticket?).Nodup)
    {ticket : Nat} {late : ReadTimeout}
    (missed : .ended ⟨ticket, .error late⟩ ∈ desk.journal moves) :
    desk.journal (DeskMove.without [ticket] moves) =
      DeskEntry.without [ticket] (desk.journal moves) := by
  have itself : desk.Without [ticket] (fun _ => False) desk :=
    ⟨rfl, .refl _, by rw [nobody]; rfl⟩
  have ends : (((desk.journal moves).filterMap DeskEntry.ended?).map (·.ticket)).Nodup := by
    have all := (desk.tickets_journal moves).nodup_iff.mpr (by simpa [nobody] using distinct)
    exact List.Nodup.of_append_left all
  have never : ∀ bytes, ⟨ticket, .ok bytes⟩ ∉ (desk.journal moves).filterMap DeskEntry.ended? := by
    intro bytes answered
    have failed : ⟨ticket, .error late⟩ ∈ (desk.journal moves).filterMap DeskEntry.ended? :=
      List.mem_filterMap.mpr ⟨_, missed, rfl⟩
    have same := List.inj_on_of_nodup_map ends answered failed rfl
    cases same
  apply itself.journal
  · intro read member
    rw [nobody] at member
    cases member
  · intro own asker count asked
    refine ⟨fun _ away => away, fun member => .inr ?_⟩
    rw [List.mem_singleton.mp member]
    exact never

/-- Out of synchrony a new read of a player is answered at once. -/
theorem get_silent {ticket : Nat} {reader : UInt8} {count : Nat}
    (silent : desk.queue.synched = false) (serves : desk.queue.Serves reader) :
    desk.step (.get ticket reader count) =
      (desk, [⟨ticket, .ok (List.replicate count 0)⟩]) := by
  simp only [step, ask]
  rw [ActionQueue.read_of_serves serves, if_pos silent]
  rfl

/-- Out of synchrony actions that come change nothing. -/
theorem add_silent (silent : desk.queue.synched = false)
    (actions : Bytes) : desk.step (.add actions) = (desk, []) := by
  have asleep : desk.wake false = desk := by
    simp [wake]
  simp only [step, desk.queue.add_of_not_synched actions silent, silent]
  exact congrArg (·, []) asleep

/-- The first player falls behind: of thirteen actions the queue holds eight.  The
second one asks for more than the queue can hold, in vain. -/
def overrun : List DeskMove :=
  [.synch true, .get 0 1 2, .add [1, 2, 3], .look 0,
    .add [4, 5, 6, 7, 8, 9, 10, 11, 12, 13], .get 1 1 2, .get 2 2 9, .pass 10, .look 2,
    .synch false, .get 3 1 2]

end ReadDesk

end Netplay
