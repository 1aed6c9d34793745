/-
Module: Netplay.Proofs.Journal
Purpose: The journal of a desk, and the unbounded stream of actions that can be
  told from it: every answer to a read is the next slice of that stream.
Main exports:
  DeskEntry, ReadDesk.journal, Tape, Tape.next, Tape.read, Tape.Explains,
  Tape.Follows, Tape.accounts_journal
-/
import Mathlib.Data.List.Nodup
import Netplay.Proofs.PromptReads

namespace Netplay

/-- An entry in the journal of a desk: something that happened, or a read that
ended. -/
inductive DeskEntry where
  | did (move : DeskMove)
  | ended (read : FinishedRead)

/-- The journal of a row of moves: each move, and after it the reads that it ends. -/
def ReadDesk.journal (desk : ReadDesk) : List DeskMove → List DeskEntry
  | [] => []
  | move :: rest =>
      .did move :: (desk.step move).2.map .ended ++ (desk.step move).1.journal rest

/-- What a journal tells of the actions that came and of how far they have been
read. -/
structure Tape where
  synched : Bool
  /-- The actions taken in since the queue last came into synchrony. -/
  actions : Bytes
  /-- Where the last answer that each reader got since then ends. -/
  ends : UInt8 → Nat
  /-- Who asked under a ticket, and for how much. -/
  asked : Nat → Option (UInt8 × Nat)

namespace Tape

/-- The tape of an empty journal. -/
def blank : Tape := ⟨false, [], fun _ => 0, fun _ => none⟩

/-- Where a reader goes on: where its last answer ends, or at the oldest action that
has not been overwritten. -/
def start (tape : Tape) (capacity : Nat) (reader : UInt8) : Nat :=
  max (tape.ends reader) (tape.actions.length - capacity)

/-- The answer to a reader that asks for so many actions. -/
def slice (tape : Tape) (capacity : Nat) (reader : UInt8) (count : Nat) : Bytes :=
  (tape.actions.drop (tape.start capacity reader)).take count

/-- The tape after a reader has got so many actions. -/
def read (tape : Tape) (capacity : Nat) (reader : UInt8) (count : Nat) : Tape :=
  { tape with ends := fun other =>
      if other = reader then tape.start capacity reader + count else tape.ends other }

/-- What one more entry in the journal tells. -/
def next (capacity : Nat) (tape : Tape) : DeskEntry → Tape
  | .did (.synch on) =>
      if tape.synched = on then tape
      else { tape with synched := on, actions := [], ends := fun _ => 0 }
  | .did (.add actions) =>
      if tape.synched then { tape with actions := tape.actions ++ actions } else tape
  | .did (.get ticket reader count) =>
      { tape with asked := fun other =>
          if other = ticket then some (reader, count) else tape.asked other }
  | .did (.note _) | .did (.pass _) | .did (.look _) => tape
  | .ended ⟨ticket, .ok _⟩ =>
      match tape.asked ticket with
      | some (reader, count) => if tape.synched then tape.read capacity reader count else tape
      | none => tape
  | .ended ⟨_, .error _⟩ => tape

/-- What a whole journal tells. -/
def ofJournal (capacity : Nat) (entries : List DeskEntry) : Tape :=
  entries.foldl (next capacity) blank

/-- An entry agrees with what the journal told before it: an answer was asked for by
one of the readers, and in synchrony it is the slice of the stream that this reader has
to read next. -/
def Explains (capacity readers : Nat) (tape : Tape) : DeskEntry → Prop
  | .ended ⟨ticket, .ok bytes⟩ =>
      ∃ reader count, tape.asked ticket = some (reader, count) ∧
        reader ≠ 0 ∧ reader.toNat ≤ readers ∧
        (tape.synched = true → tape.start capacity reader + count ≤ tape.actions.length ∧
          bytes = tape.slice capacity reader count) ∧
        (tape.synched = false → bytes = List.replicate count 0)
  | _ => True

/-- Every entry agrees with what those before it told. -/
def Accounts (capacity readers : Nat) (tape : Tape) : List DeskEntry → Prop
  | [] => True
  | entry :: rest =>
      tape.Explains capacity readers entry ∧
        (tape.next capacity entry).Accounts capacity readers rest

variable {capacity readers : Nat} {tape : Tape}

theorem accounts_append {front back : List DeskEntry} :
    tape.Accounts capacity readers (front ++ back) ↔
      tape.Accounts capacity readers front ∧
        (front.foldl (next capacity) tape).Accounts capacity readers back := by
  induction front generalizing tape with
  | nil => simp [Accounts]
  | cons entry rest inductionHypothesis => simp [Accounts, inductionHypothesis, and_assoc]

/-- In a journal that is accounted for, every entry is explained by those before it. -/
theorem Accounts.explains {before after : List DeskEntry} {entry : DeskEntry}
    (accounts : blank.Accounts capacity readers (before ++ entry :: after)) :
    (ofJournal capacity before).Explains capacity readers entry :=
  (accounts_append.mp accounts).2.1

/-- Under every ticket that waits or has been used the tape knows who asked. -/
def Knows (tape : Tape) (waiting : List WaitingRead) : Prop :=
  ∀ read ∈ waiting, tape.asked read.ticket = some (read.reader, read.count)

/-- The queue is the window on the tape. -/
structure Follows (capacity readers : Nat) (tape : Tape) (queue : ActionQueue) : Prop where
  capacity : queue.capacity = capacity
  readers : queue.heads.length = readers
  synched : queue.synched = tape.synched
  holds : queue.Holds tape.actions
  heads : ∀ reader, queue.Serves reader →
    queue.heads[reader.toNat - 1]? = some (tape.ends reader)
  inside : ∀ reader, tape.ends reader ≤ tape.actions.length
  silent : tape.synched = false → tape.actions = [] ∧ ∀ reader, tape.ends reader = 0

namespace Follows

variable {queue later : ActionQueue} (follows : tape.Follows capacity readers queue)
include follows

/-- Where a reader stands is where the tape says. -/
theorem position {reader : UInt8} (serves : queue.Serves reader) :
    queue.position reader = tape.start capacity reader := by
  simp [ActionQueue.position, ActionQueue.head?, follows.heads reader serves, start,
    follows.holds.written, follows.capacity]

theorem setSynched (on : Bool) :
    (tape.next capacity (.did (.synch on))).Follows capacity readers (queue.setSynched on) := by
  unfold ActionQueue.setSynched
  simp only [next, follows.synched]
  split
  · exact follows
  · rename_i changes
    cases on with
    | true =>
        -- The queue was emptied when it lost synchrony, and nothing has come since.
        obtain ⟨none, unread⟩ := follows.silent (Bool.eq_false_iff.mpr changes)
        refine ⟨follows.capacity, follows.readers, rfl, none ▸ ⟨?_, ?_, ?_⟩, ?_, ?_, ?_⟩
        · exact follows.holds.written
        · exact follows.holds.size
        · exact follows.holds.cells
        · exact fun reader serves => (follows.heads reader serves).trans (by rw [unread])
        · simp
        · simp
    | false =>
        refine ⟨follows.capacity, ?_, rfl, ⟨rfl, ?_, fun _ before => by cases before⟩, ?_, ?_, ?_⟩
        · simp [follows.readers]
        · exact List.length_replicate ..
        · intro reader serves
          have inside : reader.toNat - 1 < queue.heads.length := by
            simpa using serves.inside
          simp [inside]
        · simp
        · simp

theorem add (actions : Bytes) :
    (tape.next capacity (.did (.add actions))).Follows capacity readers (queue.add actions) := by
  by_cases on : tape.synched = true
  · have synched := follows.synched.trans on
    refine ⟨?_, ?_, ?_, ?_, ?_, ?_, ?_⟩
    · simp [follows.capacity]
    · simp [follows.readers]
    · simp [next, on, synched]
    · simpa [next, on] using follows.holds.add synched actions
    · simpa [next, on, ActionQueue.Serves] using follows.heads
    · intro reader
      simpa [next, on] using Nat.le_add_right_of_le (follows.inside reader)
    · simp [next, on]
  · have off := Bool.eq_false_iff.mpr on
    rw [queue.add_of_not_synched actions (follows.synched.trans off)]
    simpa [next, off] using follows

theorem noteTimeout (timeout : ReadTimeout) :
    tape.Follows capacity readers (queue.noteTimeout timeout) :=
  ⟨follows.capacity, follows.readers, follows.synched,
    ⟨follows.holds.written, follows.holds.size, follows.holds.cells⟩, follows.heads,
    follows.inside, follows.silent⟩

theorem get (ticket : Nat) (reader : UInt8) (count : Nat) :
    (tape.next capacity (.did (.get ticket reader count))).Follows capacity readers queue :=
  ⟨follows.capacity, follows.readers, follows.synched, follows.holds, follows.heads,
    follows.inside, follows.silent⟩

/-- An answer is explained, and moves the tape on like the queue. -/
theorem answered {ticket : Nat} {reader : UInt8} {count : Nat} {waited : Bool} {bytes : Bytes}
    (known : tape.asked ticket = some (reader, count))
    (answered : queue.read reader count waited = .actions bytes later) :
    tape.Explains capacity readers (.ended ⟨ticket, .ok bytes⟩) ∧
      (tape.next capacity (.ended ⟨ticket, .ok bytes⟩)).Follows capacity readers later := by
  obtain ⟨serves, ⟨off, -, zeros, rfl⟩ | ⟨on, enough, given, rfl⟩⟩ :=
    ActionQueue.read_answered answered
  · have silent : tape.synched = false := follows.synched.symm.trans off
    refine ⟨⟨reader, count, known, serves.1, follows.readers ▸ serves.2, ?_, fun _ => zeros⟩, ?_⟩
    · simp [silent]
    · simpa [next, known, silent] using follows
  · have synched : tape.synched = true := follows.synched.symm.trans on
    have place := follows.position serves
    have whole := follows.holds.written
    have fits : tape.start capacity reader + count ≤ tape.actions.length := by
      have inside : tape.start capacity reader ≤ tape.actions.length :=
        Nat.max_le.mpr ⟨follows.inside reader, Nat.sub_le ..⟩
      rw [ActionQueue.available, place, whole] at enough
      omega
    have slice : bytes = tape.slice capacity reader count := by
      have kept : tape.actions.length ≤ tape.start capacity reader + queue.capacity := by
        rw [start, follows.capacity]
        omega
      rw [given, place, Tape.slice, follows.holds.cells_eq kept fits]
    refine ⟨⟨reader, count, known, serves.1, follows.readers ▸ serves.2,
      fun _ => ⟨fits, slice⟩, ?_⟩, ?_⟩
    · simp [synched]
    · simp only [next, known, synched, if_true, Tape.read, ActionQueue.advance]
      refine ⟨follows.capacity, ?_, on, ⟨whole, follows.holds.size, follows.holds.cells⟩,
        ?_, ?_, ?_⟩
      · simp [follows.readers]
      · intro other reads
        have others : queue.Serves other := ActionQueue.serves_advance.mp reads
        by_cases same : other = reader
        · simp [same, serves.inside, place]
        · simp [same, ActionQueue.place_ne serves.1 others.1 same, follows.heads other others]
      · intro other
        by_cases same : other = reader
        · simpa [same] using fits
        · simpa [same] using follows.inside other
      · simp

end Follows

/-! ## The journal of a run -/

/-- Who asked is not changed by reads that end. -/
theorem asked_next_ended (tape : Tape) (finished : FinishedRead) :
    (tape.next capacity (.ended finished)).asked = tape.asked := by
  obtain ⟨ticket, result⟩ := finished
  cases result with
  | error timeout => rfl
  | ok bytes =>
      simp only [next]
      split
      · split
        · rfl
        · rfl
      · rfl

/-- The tape tells the queue of the desk and the reads that wait there. -/
structure Tells (capacity readers : Nat) (tape : Tape) (desk : ReadDesk) : Prop where
  follows : tape.Follows capacity readers desk.queue
  knows : tape.Knows desk.waiting

/-- Whoever is known stays known when reads end. -/
theorem Knows.ended {waiting : List WaitingRead} (knows : tape.Knows waiting)
    (finished : FinishedRead) : (tape.next capacity (.ended finished)).Knows waiting :=
  fun read member =>
    (congrFun (asked_next_ended tape finished) read.ticket).trans (knows read member)

/-- Waking tells the tape nothing. -/
theorem Knows.wake {desk : ReadDesk} (knows : tape.Knows desk.waiting) (reason : Bool) :
    tape.Knows (desk.wake reason).waiting := by
  intro read member
  obtain ⟨before, old, rfl⟩ := List.mem_map.mp member
  exact knows before old

/-- What a look ends is explained by the tape as it is then. -/
theorem tells_look {desk : ReadDesk} (tells : tape.Tells capacity readers desk) (ticket : Nat) :
    tape.Accounts capacity readers ((desk.look ticket).2.map .ended) ∧
      (((desk.look ticket).2.map .ended).foldl (next capacity) tape).Tells capacity readers
        (desk.look ticket).1 := by
  obtain ⟨follows, knows⟩ := tells
  have made := desk.looks ticket
  generalize desk.look ticket = after at made
  cases made with
  | idle calm => exact ⟨trivial, follows, knows⟩
  | @answered read bytes later found due reading =>
      obtain ⟨member, rfl⟩ := ReadDesk.mem_of_find found
      obtain ⟨explains, goesOn⟩ := follows.answered (knows read member) reading
      refine ⟨⟨explains, trivial⟩, goesOn, fun other stays => ?_⟩
      exact knows.ended ⟨read.ticket, .ok bytes⟩ other (List.mem_of_mem_erase stays)
  | ended found due reason =>
      refine ⟨⟨trivial, trivial⟩, follows, fun read stays => ?_⟩
      exact knows read (List.mem_of_mem_erase stays)
  | @held read found due blocked early =>
      refine ⟨trivial, follows, fun other member => ?_⟩
      rcases ReadDesk.mem_hold member with ⟨rfl, old⟩ | ⟨-, old⟩
      · exact knows read old
      · exact knows other old

/-- What a move makes of the desk, the tape tells, and it explains what is entered. -/
theorem tells_step {desk : ReadDesk} (tells : tape.Tells capacity readers desk) {move : DeskMove}
    (unused : ∀ read ∈ desk.waiting, move.ticket? ≠ some read.ticket) :
    (tape.next capacity (.did move)).Accounts capacity readers ((desk.step move).2.map .ended) ∧
      (((desk.step move).2.map .ended).foldl (next capacity)
        (tape.next capacity (.did move))).Tells capacity readers (desk.step move).1 := by
  obtain ⟨follows, knows⟩ := tells
  cases move with
  | synch on =>
      refine ⟨trivial, follows.setSynched on, fun read member => ?_⟩
      have known := knows.wake (desk.queue.synched && !on) read member
      change (tape.next capacity (.did (.synch on))).asked read.ticket = _
      simp only [next]
      split
      · exact known
      · exact known
  | add actions =>
      refine ⟨trivial, follows.add actions, fun read member => ?_⟩
      have known := knows.wake desk.queue.synched read member
      change (tape.next capacity (.did (.add actions))).asked read.ticket = _
      simp only [next]
      split
      · exact known
      · exact known
  | note number => exact ⟨trivial, follows.noteTimeout _, knows⟩
  | pass milliseconds => exact ⟨trivial, follows, knows⟩
  | look ticket => exact tells_look ⟨follows, knows⟩ ticket
  | get ticket reader count =>
      have asks : (tape.next capacity (.did (.get ticket reader count))).asked ticket =
          some (reader, count) := by simp [next]
      have still : (tape.next capacity (.did (.get ticket reader count))).Knows desk.waiting := by
        intro read member
        have other : read.ticket ≠ ticket := fun same =>
          unused read member (congrArg some same.symm)
        simp [next, other, knows read member]
      change Accounts _ _ _ ((desk.ask ticket reader count).2.map DeskEntry.ended) ∧
        Tells _ _ (((desk.ask ticket reader count).2.map DeskEntry.ended).foldl _ _)
          (desk.ask ticket reader count).1
      rcases desk.ask_cases ticket reader count with
        ⟨bytes, later, answered, made⟩ | made | ⟨read, rfl, made⟩
      · rw [made]
        obtain ⟨explains, goesOn⟩ := (follows.get ticket reader count).answered asks answered
        exact ⟨⟨explains, trivial⟩, goesOn, still.ended ⟨ticket, .ok bytes⟩⟩
      · rw [made]
        exact ⟨⟨trivial, trivial⟩, follows.get ticket reader count, still⟩
      · rw [made]
        refine ⟨trivial, follows.get ticket reader count, fun read member => ?_⟩
        rcases List.mem_append.mp member with old | new
        · exact still read old
        · rw [List.mem_singleton.mp new]
          exact asks

/-- The journal of a run, in which every read has a ticket of its own, is explained
entry by entry. -/
theorem accounts_journal {desk : ReadDesk} (tells : tape.Tells capacity readers desk)
    {moves : List DeskMove}
    (distinct : (desk.waiting.map (·.ticket) ++ moves.filterMap DeskMove.ticket?).Nodup) :
    tape.Accounts capacity readers (desk.journal moves) := by
  induction moves generalizing desk tape with
  | nil => trivial
  | cons move rest inductionHypothesis =>
      have apart : (desk.waiting.map (·.ticket) ++ move.ticket?.toList ++
          rest.filterMap DeskMove.ticket?).Nodup := by
        cases ticket : move.ticket? with
        | none => simpa [ticket] using distinct
        | some ticket => simpa [ticket] using distinct
      have unused : ∀ read ∈ desk.waiting, move.ticket? ≠ some read.ticket := by
        intro read member same
        rw [same] at apart
        have disjoint := List.disjoint_of_nodup_append (List.Nodup.of_append_left apart)
        exact disjoint (List.mem_map_of_mem member) (List.mem_singleton_self _)
      -- Whoever waits after the move waited before it, or began with it.
      have later : ((desk.step move).1.waiting.map (·.ticket) ++
          rest.filterMap DeskMove.ticket?).Nodup := by
        have all := ((desk.tickets_step move).append_right _).nodup_iff.mpr apart
        rw [List.append_assoc] at all
        exact List.Nodup.of_append_right all
      obtain ⟨accounts, goesOn⟩ := tells_step tells unused
      refine ⟨by cases move <;> trivial, accounts_append.mpr ⟨accounts, ?_⟩⟩
      exact inductionHypothesis goesOn later

/-- The blank tape tells the desk of a new queue. -/
theorem tells_create (player : UInt8) (user : UserId) (players bufferSize timeout : Nat) :
    blank.Tells (max bufferSize 1 * max players 1) (max players 1)
      (ReadDesk.create (ActionQueue.create player user players bufferSize timeout)) := by
  have empty := ActionQueue.isEmpty_create player user players bufferSize timeout
  refine ⟨⟨rfl, List.length_replicate .., rfl, empty.holds, ?_, fun _ => Nat.le_refl _,
    fun _ => ⟨rfl, fun _ => rfl⟩⟩, fun read member => by cases member⟩
  intro reader serves
  have inside : reader.toNat - 1 < max players 1 := by
    simpa [ReadDesk.create, ActionQueue.create] using serves.inside
  exact List.getElem?_replicate_of_lt inside

end Tape

end Netplay
