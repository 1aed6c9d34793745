/-
Module: Netplay.Proofs.ActionStream
Purpose: A bounded action queue as a window on the unbounded stream of actions
  written to it, and what comes of the reads of it.
Main exports:
  ActionQueue.Holds, ActionQueue.Holds.add, ActionQueue.Holds.cells_eq,
  ActionQueue.Serves, ActionQueue.available, ActionQueue.read_of_serves,
  ActionQueue.read_eq_blocked_iff, ActionQueue.read_eq_failed_iff,
  ActionQueue.read_answered, ActionQueue.Fades
-/
import Netplay.ActionQueue

namespace Netplay.ActionQueue

/-! ## The ring -/

/-- The queue holds the newest bytes of a stream, as many as fit: each is in the cell
of its position modulo the size of the ring. -/
structure Holds (queue : ActionQueue) (stream : Bytes) : Prop where
  written : queue.written = stream.length
  size : queue.ring.length = queue.capacity
  cells : ∀ position, position < stream.length → stream.length ≤ position + queue.capacity →
    queue.ring[position % queue.capacity]? = stream[position]?

/-- Positions less than a whole ring apart have cells of their own. -/
theorem cell_ne {capacity earlier later : Nat} (before : earlier < later)
    (near : later < earlier + capacity) : earlier % capacity ≠ later % capacity := by
  intro same
  have whole : capacity ∣ later - earlier :=
    Nat.dvd_of_mod_eq_zero (Nat.sub_mod_eq_zero_of_mod_eq same.symm)
  have far := Nat.le_of_dvd (Nat.sub_pos_of_lt before) whole
  omega

/-- A byte that is written is the next one of the stream. -/
theorem Holds.push {queue : ActionQueue} {stream : Bytes} (holds : queue.Holds stream)
    (byte : UInt8) : (queue.push byte).Holds (stream ++ [byte]) := by
  have written := holds.written
  refine ⟨by simp [ActionQueue.push, written], ?_, fun position before near => ?_⟩
  · rw [ActionQueue.push, List.length_set, holds.size]
  · rw [List.length_append, List.length_singleton] at before near
    have near : stream.length + 1 ≤ position + queue.capacity := near
    change (queue.ring.set (queue.written % queue.capacity) byte)[position % queue.capacity]? = _
    rcases Nat.lt_or_eq_of_le (Nat.le_of_lt_succ before) with old | rfl
    · have apart := cell_ne old (Nat.lt_of_lt_of_le (Nat.lt_succ_self _) near)
      rw [written, List.getElem?_set_ne apart.symm, List.getElem?_append_left old]
      exact holds.cells position old (by omega)
    · have inside : stream.length % queue.capacity < queue.ring.length := by
        rw [holds.size]
        exact Nat.mod_lt _ (by omega)
      rw [written, List.getElem?_set_self inside]
      simp

theorem Holds.foldl_push {queue : ActionQueue} {stream : Bytes} (holds : queue.Holds stream)
    (actions : Bytes) : (actions.foldl ActionQueue.push queue).Holds (stream ++ actions) := by
  induction actions generalizing queue stream with
  | nil => rwa [List.append_nil]
  | cons first rest inductionHypothesis =>
      rw [List.append_cons]
      exact inductionHypothesis (holds.push first)

/-- Appending to a queue in synchrony appends to its stream. -/
theorem Holds.add {queue : ActionQueue} {stream : Bytes}
    (holds : queue.Holds stream) (synched : queue.synched = true)
    (actions : Bytes) : (queue.add actions).Holds (stream ++ actions) := by
  obtain ⟨written, size, cells⟩ := holds.foldl_push actions
  rw [ActionQueue.add, if_pos synched]
  exact ⟨written, size, cells⟩

/-- From any position that has not been overwritten, the cells of the ring give the
stream. -/
theorem Holds.cells_eq {queue : ActionQueue} {stream : Bytes} (holds : queue.Holds stream)
    {head count : Nat} (kept : stream.length ≤ head + queue.capacity)
    (there : head + count ≤ stream.length) :
    queue.cells head count = (stream.drop head).take count := by
  induction count generalizing head with
  | zero => rw [ActionQueue.cells, List.take_zero]
  | succ count inductionHypothesis =>
      have inside : head < stream.length := by omega
      have cell := holds.cells head inside kept
      rw [ActionQueue.cells, List.getD_eq_getElem?_getD, cell,
        List.getElem?_eq_getElem inside, Option.getD_some,
        inductionHypothesis (by omega) (by omega), List.drop_eq_getElem_cons inside,
        List.take_succ_cons]

/-! ### What appending leaves alone -/

section Add

variable (queue : ActionQueue) (actions : Bytes)

/-- Only the ring and what is written change. -/
theorem foldl_push_frame : ∃ ring, actions.foldl push queue =
    { queue with ring := ring, written := queue.written + actions.length } := by
  induction actions generalizing queue with
  | nil => exact ⟨queue.ring, rfl⟩
  | cons first rest inductionHypothesis =>
      obtain ⟨ring, frame⟩ := inductionHypothesis (queue.push first)
      refine ⟨ring, frame.trans ?_⟩
      simp only [push, List.length_cons, Nat.add_assoc, Nat.add_comm 1]

theorem add_frame (synched : queue.synched = true) : ∃ ring, queue.add actions =
    { queue with
      ring := ring
      written := queue.written + actions.length
      lastTimeout := none } := by
  obtain ⟨ring, frame⟩ := queue.foldl_push_frame actions
  exact ⟨ring, by rw [add, if_pos synched, frame]⟩

theorem add_written (synched : queue.synched = true) :
    (queue.add actions).written = queue.written + actions.length := by
  obtain ⟨ring, frame⟩ := queue.add_frame actions synched
  rw [frame]

theorem add_of_not_synched (silent : queue.synched = false) :
    queue.add actions = queue := by
  simp [add, silent]

/-- Appending does not change a field of the queue that neither writing nor the last
time-out is about. -/
theorem add_field {α : Type} (field : ActionQueue → α)
    (spared : ∀ queue ring written timeout, field { queue with
      ring := ring, written := written, lastTimeout := timeout } = field queue) :
    field (queue.add actions) = field queue := by
  cases synched : queue.synched with
  | false => rw [add_of_not_synched queue actions synched]
  | true =>
      obtain ⟨ring, frame⟩ := queue.add_frame actions synched
      rw [frame]
      exact spared ..

@[simp] theorem add_player : (queue.add actions).player = queue.player :=
  queue.add_field actions (·.player) fun _ _ _ _ => rfl

@[simp] theorem add_user : (queue.add actions).user = queue.user :=
  queue.add_field actions (·.user) fun _ _ _ _ => rfl

@[simp] theorem add_capacity : (queue.add actions).capacity = queue.capacity :=
  queue.add_field actions (·.capacity) fun _ _ _ _ => rfl

@[simp] theorem add_heads : (queue.add actions).heads = queue.heads :=
  queue.add_field actions (·.heads) fun _ _ _ _ => rfl

@[simp] theorem add_synched : (queue.add actions).synched = queue.synched :=
  queue.add_field actions (·.synched) fun _ _ _ _ => rfl

/-- Where the readers stand makes no difference to what is written. -/
theorem add_with_heads (heads : List Nat) :
    ActionQueue.add { queue with heads := heads } actions =
      { queue.add actions with heads := heads } := by
  have writes : actions.foldl push { queue with heads := heads } =
      { actions.foldl push queue with heads := heads } := by
    induction actions generalizing queue with
    | nil => rfl
    | cons first rest inductionHypothesis => exact inductionHypothesis (queue.push first)
  by_cases synched : queue.synched = true
  · rw [ActionQueue.add, ActionQueue.add, if_pos synched, if_pos synched, writes]
  · rw [ActionQueue.add, ActionQueue.add, if_neg synched, if_neg synched]

end Add

/-! ### What a change of synchrony leaves alone -/

section SetSynched

variable (queue : ActionQueue) (synched : Bool)

/-- Only what is written and where its readers stand may change. -/
theorem setSynched_frame : ∃ written ring heads, queue.setSynched synched =
    { queue with written := written, ring := ring, heads := heads, synched := synched } := by
  unfold setSynched
  split
  · rename_i same
    subst same
    exact ⟨_, _, _, rfl⟩
  · cases synched with
    | false => exact ⟨0, _, _, rfl⟩
    | true => exact ⟨_, _, _, rfl⟩

@[simp] theorem setSynched_synched : (queue.setSynched synched).synched = synched := by
  obtain ⟨_, _, _, frame⟩ := queue.setSynched_frame synched
  rw [frame]

@[simp] theorem setSynched_player : (queue.setSynched synched).player = queue.player := by
  obtain ⟨_, _, _, frame⟩ := queue.setSynched_frame synched
  rw [frame]

@[simp] theorem setSynched_user : (queue.setSynched synched).user = queue.user := by
  obtain ⟨_, _, _, frame⟩ := queue.setSynched_frame synched
  rw [frame]

theorem length_setSynched : (queue.setSynched synched).heads.length = queue.heads.length := by
  unfold setSynched
  split
  · rfl
  · split
    · rfl
    · exact List.length_map ..

@[simp] theorem setSynched_lastTimeout :
    (queue.setSynched synched).lastTimeout = queue.lastTimeout := by
  obtain ⟨_, _, _, frame⟩ := queue.setSynched_frame synched
  rw [frame]

end SetSynched

/-! ## What a read can come to -/

/-- The queue is read by the player with that number. -/
def Serves (queue : ActionQueue) (reader : UInt8) : Prop :=
  reader ≠ 0 ∧ reader.toNat ≤ queue.heads.length

/-- Where the reader reads next: the bytes it has read or lost. -/
def position (queue : ActionQueue) (reader : UInt8) : Nat :=
  (queue.head? (reader.toNat - 1)).getD 0

/-- The bytes that the reader can read now. -/
def available (queue : ActionQueue) (reader : UInt8) : Nat :=
  queue.written - queue.position reader

/-- The queue after the reader has read to a position. -/
def advance (queue : ActionQueue) (reader : UInt8) (position : Nat) : ActionQueue :=
  { queue with heads := queue.heads.set (reader.toNat - 1) position }

section Reads

variable {queue later : ActionQueue} {reader other : UInt8} {count : Nat} {waited : Bool}
  {bytes : Bytes}

theorem Serves.inside (serves : queue.Serves reader) :
    reader.toNat - 1 < queue.heads.length := by
  have positive : reader.toNat ≠ 0 := fun zero => serves.1 (UInt8.toNat_inj.mp zero)
  have few := serves.2
  omega

/-- Readers have places of their own. -/
theorem place_ne (one : reader ≠ 0) (two : other ≠ 0) (differs : other ≠ reader) :
    reader.toNat - 1 ≠ other.toNat - 1 := by
  have first : reader.toNat ≠ 0 := fun zero => one (UInt8.toNat_inj.mp zero)
  have second : other.toNat ≠ 0 := fun zero => two (UInt8.toNat_inj.mp zero)
  have apart : other.toNat ≠ reader.toNat := fun same => differs (UInt8.toNat_inj.mp same)
  omega

/-- What comes of a read, by one of the players or by anybody else. -/
theorem read_of_serves (serves : queue.Serves reader) :
    queue.read reader count waited =
      if queue.synched = false then
        if waited then .failed else .actions (List.replicate count 0) queue
      else if queue.available reader < count then .blocked
      else
        .actions (queue.cells (queue.position reader) count)
          (queue.advance reader (queue.position reader + count)) := by
  have place := List.getElem?_eq_getElem serves.inside
  simp only [read, if_neg serves.1, head?, place, Option.map_some, available, position,
    Option.getD_some, advance]
  cases queue.synched with
  | false => rfl
  | true => rfl

theorem read_of_not_serves (absent : ¬ queue.Serves reader) :
    queue.read reader count waited = .failed := by
  unfold read
  split
  · rfl
  · rename_i positive
    have few : queue.heads.length < reader.toNat :=
      Nat.lt_of_not_le fun inside => absent ⟨positive, inside⟩
    have nowhere : queue.heads[reader.toNat - 1]? = none :=
      List.getElem?_eq_none (by omega)
    simp only [head?, nowhere, Option.map_none]

/-- In synchrony a read of a player that finds enough is answered. -/
theorem read_of_enough (serves : queue.Serves reader) (on : queue.synched = true)
    (enough : count ≤ queue.available reader) :
    queue.read reader count waited =
      .actions (queue.cells (queue.position reader) count)
        (queue.advance reader (queue.position reader + count)) := by
  rw [read_of_serves serves, if_neg (by rw [on]; decide), if_neg (Nat.not_lt_of_le enough)]

/-- A read waits exactly if its reader is a player, the queue is in synchrony and
too little is there. -/
theorem read_eq_blocked_iff : queue.read reader count waited = .blocked ↔
    queue.Serves reader ∧ queue.synched = true ∧ queue.available reader < count := by
  by_cases serves : queue.Serves reader
  · rw [read_of_serves serves]
    cases queue.synched with
    | false => cases waited <;> simp
    | true => simp [serves]
  · simp [read_of_not_serves serves, serves]

/-- A read fails exactly if its reader is no player, or if it has waited and the queue
is out of synchrony. -/
theorem read_eq_failed_iff : queue.read reader count waited = .failed ↔
    ¬ queue.Serves reader ∨ queue.synched = false ∧ waited = true := by
  by_cases serves : queue.Serves reader
  · rw [read_of_serves serves]
    cases queue.synched with
    | false => cases waited <;> simp [serves]
    | true => by_cases few : queue.available reader < count <;> simp [serves, few]
  · simp [read_of_not_serves serves, serves]

/-- What a read that is answered gives, and what it makes of the queue. -/
theorem read_answered (answered : queue.read reader count waited = .actions bytes later) :
    queue.Serves reader ∧
      (queue.synched = false ∧ waited = false ∧ bytes = List.replicate count 0 ∧
          later = queue ∨
        queue.synched = true ∧ count ≤ queue.available reader ∧
          bytes = queue.cells (queue.position reader) count ∧
          later = queue.advance reader (queue.position reader + count)) := by
  by_cases serves : queue.Serves reader
  · refine ⟨serves, ?_⟩
    rw [read_of_serves serves] at answered
    split at answered
    · rename_i silent
      split at answered
      · cases answered
      · rename_i new
        simp only [Reading.actions.injEq] at answered
        exact .inl ⟨silent, Bool.eq_false_iff.mpr new, answered.1.symm, answered.2.symm⟩
    · rename_i on
      split at answered
      · cases answered
      · rename_i enough
        simp only [Reading.actions.injEq] at answered
        exact .inr ⟨Bool.not_eq_false _ ▸ on, Nat.le_of_not_lt enough, answered.1.symm,
          answered.2.symm⟩
  · rw [read_of_not_serves serves] at answered
    cases answered

theorem serves_advance {target : Nat} :
    (queue.advance reader target).Serves other ↔ queue.Serves other := by
  rw [Serves, advance, List.length_set, Serves]

theorem position_advance_self (serves : queue.Serves reader) {target : Nat} :
    (queue.advance reader target).position reader =
      max target (queue.written - queue.capacity) := by
  simp only [position, head?, advance, List.getElem?_set_self serves.inside, Option.map_some,
    Option.getD_some]

theorem position_advance_other (one : reader ≠ 0) (two : other ≠ 0)
    (differs : other ≠ reader) {target : Nat} :
    (queue.advance reader target).position other = queue.position other := by
  simp only [position, head?, advance, List.getElem?_set_ne (place_ne one two differs)]

/-- What one reader reads does not bring more to any other, nor to itself. -/
theorem available_advance_le (serves : queue.Serves reader) (positive : other ≠ 0)
    (read : Nat) :
    (queue.advance reader (queue.position reader + read)).available other ≤
      queue.available other := by
  apply Nat.sub_le_sub_left
  by_cases same : other = reader
  · subst same
    rw [position_advance_self serves]
    omega
  · exact Nat.le_of_eq (position_advance_other serves.1 positive same).symm

/-- A read that has to wait still has to wait after another one is answered. -/
theorem blocked_of_answered {more : Nat} {late : Bool}
    (answered : queue.read reader count waited = .actions bytes later)
    (blocked : queue.read other more late = .blocked) :
    later.read other more late = .blocked := by
  obtain ⟨serves, ⟨-, -, -, rfl⟩ | ⟨-, -, -, rfl⟩⟩ := read_answered answered
  · exact blocked
  · obtain ⟨waits, on, few⟩ := read_eq_blocked_iff.mp blocked
    refine read_eq_blocked_iff.mpr ⟨serves_advance.mpr waits, on, ?_⟩
    exact Nat.lt_of_le_of_lt (available_advance_le serves waits.1 count) few

/-- What a read that is answered gives, from where its reader stands.  Out of synchrony
it gives zeros and changes nothing; in synchrony it gives the oldest bytes that the
reader has neither read nor lost and moves that reader on. -/
theorem read_eq_actions (answered : queue.read reader count waited = .actions bytes later) :
    ∃ head, queue.heads[reader.toNat - 1]? = some head ∧
      ((queue.synched = false ∧ bytes = List.replicate count 0 ∧ later = queue) ∨
        (queue.synched = true ∧
          count ≤ queue.written - max head (queue.written - queue.capacity) ∧
          bytes = queue.cells (max head (queue.written - queue.capacity)) count ∧
          later =
            { queue with
              heads := queue.heads.set (reader.toNat - 1)
                (max head (queue.written - queue.capacity) + count) })) := by
  obtain ⟨serves, outcomes⟩ := read_answered answered
  have place := List.getElem?_eq_getElem serves.inside
  refine ⟨_, place, ?_⟩
  rcases outcomes with ⟨silent, -, zeros, same⟩ | taken
  · exact .inl ⟨silent, zeros, same⟩
  · right
    simpa only [available, advance, position, head?, place, Option.map_some,
      Option.getD_some] using taken

/-- A read moves one reader and changes nothing else. -/
theorem read_keeps (answered : queue.read reader count waited = .actions bytes later) :
    ∃ heads, later = { queue with heads := heads } ∧
      heads.length = queue.heads.length := by
  obtain ⟨-, ⟨-, -, -, rfl⟩ | ⟨-, -, -, rfl⟩⟩ := read_answered answered
  · exact ⟨later.heads, rfl, rfl⟩
  · exact ⟨_, rfl, List.length_set ..⟩

/-- A read that has been waiting and is answered would be answered alike if it
were new. -/
theorem read_new_of_waited (answered : queue.read reader count true = .actions bytes later) :
    queue.read reader count false = .actions bytes later := by
  obtain ⟨serves, ⟨-, new, -⟩ | ⟨on, enough, rfl, rfl⟩⟩ := read_answered answered
  · cases new
  · exact read_of_enough serves on enough

end Reads

/-! ## Queues that only lose synchrony -/

/-- Nothing has been written to the queue, or it has been emptied since. -/
structure IsEmpty (queue : ActionQueue) : Prop where
  written : queue.written = 0
  ring : queue.ring = List.replicate queue.capacity 0
  heads : ∀ head ∈ queue.heads, head = 0

theorem isEmpty_create (player : UInt8) (user : UserId)
    (players bufferSize timeout : Nat) :
    (create player user players bufferSize timeout).IsEmpty :=
  ⟨rfl, rfl, fun _ member => List.eq_of_mem_replicate member⟩

theorem IsEmpty.holds {queue : ActionQueue} (empty : queue.IsEmpty) :
    queue.Holds [] :=
  ⟨empty.written, by rw [empty.ring, List.length_replicate], fun _ before => by cases before⟩

/-- Coming into synchrony writes nothing. -/
theorem IsEmpty.setSynched {queue : ActionQueue} (empty : queue.IsEmpty) :
    (queue.setSynched true).IsEmpty := by
  unfold ActionQueue.setSynched
  split
  · exact empty
  · exact ⟨empty.written, empty.ring, empty.heads⟩

/-- The second queue is the first one at a later time, with nothing written or
read in between: it may have gone out of synchrony, and a time-out may have
been noted. -/
structure Fades (queue later : ActionQueue) : Prop where
  player : later.player = queue.player
  user : later.user = queue.user
  capacity : later.capacity = queue.capacity
  readers : later.heads.length = queue.heads.length
  synched : later.synched = true → queue.synched = true
  content : (later.written = queue.written ∧ later.ring = queue.ring ∧
      later.heads = queue.heads) ∨
    (later.synched = false ∧ later.IsEmpty)

namespace Fades

theorem refl (queue : ActionQueue) : queue.Fades queue :=
  ⟨rfl, rfl, rfl, rfl, id, Or.inl ⟨rfl, rfl, rfl⟩⟩

/-- What is empty stays empty. -/
theorem isEmpty {queue later : ActionQueue} (fades : queue.Fades later)
    (empty : queue.IsEmpty) : later.IsEmpty := by
  rcases fades.content with ⟨written, ring, heads⟩ | ⟨-, gone⟩
  · refine ⟨written ▸ empty.written, ?_, heads ▸ empty.heads⟩
    rw [ring, fades.capacity, empty.ring]
  · exact gone

/-- A queue that is still in synchrony has kept its content. -/
theorem kept {queue later : ActionQueue} (fades : queue.Fades later)
    (synched : later.synched = true) :
    later.written = queue.written ∧ later.ring = queue.ring ∧
      later.heads = queue.heads := by
  rcases fades.content with same | ⟨silent, -⟩
  · exact same
  · rw [silent] at synched
    cases synched

theorem trans {first second third : ActionQueue} (one : first.Fades second)
    (two : second.Fades third) : first.Fades third where
  player := two.player.trans one.player
  user := two.user.trans one.user
  capacity := two.capacity.trans one.capacity
  readers := two.readers.trans one.readers
  synched := fun flag => one.synched (two.synched flag)
  content := by
    rcases two.content with ⟨written, ring, heads⟩ | gone
    · rcases one.content with ⟨written', ring', heads'⟩ | ⟨silent, empty⟩
      · exact Or.inl ⟨written.trans written', ring.trans ring', heads.trans heads'⟩
      · refine Or.inr ⟨?_, two.isEmpty empty⟩
        cases flag : third.synched with
        | false => rfl
        | true => rw [two.synched flag] at silent; cases silent
    · exact Or.inr gone

/-- Putting a queue out of synchrony. -/
theorem setSynched (queue : ActionQueue) :
    queue.Fades (queue.setSynched false) := by
  unfold ActionQueue.setSynched
  split
  · exact refl queue
  · refine ⟨rfl, rfl, rfl, by simp, by simp, Or.inr ⟨rfl, rfl, rfl, ?_⟩⟩
    intro head member
    obtain ⟨old, -, rfl⟩ := List.mem_map.mp member
    rfl

/-- Noting a time-out. -/
theorem noteTimeout (queue : ActionQueue) (timeout : ReadTimeout) :
    queue.Fades (queue.noteTimeout timeout) :=
  ⟨rfl, rfl, rfl, rfl, id, Or.inl ⟨rfl, rfl, rfl⟩⟩

/-- A queue that is still in synchrony still holds its stream. -/
theorem holds {queue later : ActionQueue} (fades : queue.Fades later)
    {stream : Bytes} (holds : queue.Holds stream)
    (synched : later.synched = true) : later.Holds stream := by
  obtain ⟨written, ring, -⟩ := fades.kept synched
  refine ⟨written.trans holds.written, ?_, ?_⟩
  · rw [ring, fades.capacity, holds.size]
  · rw [ring, fades.capacity]
    exact holds.cells

end Fades

end Netplay.ActionQueue
