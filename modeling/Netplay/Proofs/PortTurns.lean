/-
Module: Netplay.Proofs.PortTurns
Purpose: The ports of a pool take turns.  Those that are free and those that are out are
  together the whole range, each once, and a port that is given back waits behind all that
  were free before it.
Main exports:
  PortPool.nodup_range, PortPool.owns_range, PortPool.Covers, PortPool.Fits,
  PortPool.range_overrun, PortPool.Call,
  PortPool.handed, PortPool.handed_append_free, PortPool.Loans, PortPool.Loans.Proper,
  PortPool.Loans.Balanced, PortPool.takes_turns
-/
import Mathlib.Algebra.Group.Nat.Defs
import Mathlib.Data.List.Nodup
import Netplay.PortPool

namespace Netplay.PortPool

variable {start port : Port} {count : Nat} {pool : PortPool}

/-! ## Ranges -/

/-- No port comes behind the last one there is. -/
theorem finish_le (start : Port) (count : Nat) : (finish start count).toNat ≤ 65536 := by
  rw [finish, UInt64.toNat_min]
  exact Nat.min_le_right ..

/-- A range holds no more ports than there are from its first one on. -/
theorem room_range {start : Port} {count offset : Nat}
    (inside : offset < (finish start count).toNat - start.toNat) :
    offset < 65536 - start.toNat :=
  Nat.lt_of_lt_of_le inside (Nat.sub_le_sub_right (finish_le start count) _)

/-- The ports of a range do not run past the last one there is. -/
theorem toNat_range (start : Port) (count : Nat) {offset : Nat}
    (inside : offset < (finish start count).toNat - start.toNat) :
    (UInt16.ofNat (start.toNat + offset)).toNat = start.toNat + offset := by
  have room := room_range inside
  rw [UInt16.toNat_ofNat']
  exact Nat.mod_eq_of_lt (by omega)

theorem nodup_range (start : Port) (count : Nat) : (range start count).free.Nodup := by
  refine List.Nodup.map_on (fun one first two second same => ?_) List.nodup_range
  have first := toNat_range start count (List.mem_range.mp first)
  have second := toNat_range start count (List.mem_range.mp second)
  rw [same, second] at first
  omega

/-- Where a range ends no earlier than it starts, its capacity is not run over. -/
theorem toNat_capacity (start : Port) (count : Nat)
    (ahead : start.toNat ≤ (finish start count).toNat) :
    (range start count).capacity = (finish start count).toNat - start.toNat := by
  have least : start.toUInt64 ≤ finish start count := by
    rw [UInt64.le_iff_toNat_le, UInt16.toNat_toUInt64]
    exact ahead
  rw [range, UInt64.toNat_sub_of_le _ _ least, UInt16.toNat_toUInt64]

/-- A pool owns the ports of the range it covers. -/
theorem owns_range (begins : pool.start = start)
    (covers : pool.capacity = (range start count).capacity)
    (member : port ∈ (range start count).free) : pool.owns port = true := by
  obtain ⟨offset, listed, rfl⟩ := List.mem_map.mp member
  have inside := List.mem_range.mp listed
  have place := toNat_range start count inside
  rw [owns, begins, covers, Bool.and_eq_true]
  constructor
  · rw [decide_eq_true_iff, UInt16.le_iff_toNat_le, place]
    exact Nat.le_add_right ..
  · have bounded := start.toNat_lt
    have room := room_range inside
    have distance : (65536 - start.toNat + (start.toNat + offset)) % 65536 = offset := by omega
    rw [decide_eq_true_iff, UInt16.toNat_sub, place, distance,
      toNat_capacity start count (by omega)]
    exact inside

/-- The ports from `start` on, as many as `count` says, but none past the last one there
is. -/
def Covers (start : Port) (count : Nat) (port : Port) : Prop :=
  start.toNat ≤ port.toNat ∧ port.toNat < min (start.toNat + count) 65536

instance : Decidable (Covers start count port) := inferInstanceAs (Decidable (_ ∧ _))

/-- The number of ports can be added to the first one in sixty-four bits. -/
def Fits (start : Port) (count : Nat) : Prop := start.toNat + count < 2 ^ 64

instance : Decidable (Fits start count) := inferInstanceAs (Decidable (_ < _))

/-- A sum that does not run over is cut behind the last port only. -/
theorem toNat_finish (fits : Fits start count) :
    (finish start count).toNat = min (start.toNat + count) 65536 := by
  rw [finish, UInt64.toNat_min, UInt64.toNat_add, UInt16.toNat_toUInt64, UInt64.toNat_ofNat',
    Nat.add_mod_mod, Nat.mod_eq_of_lt fits]
  rfl

theorem capacity_range (fits : Fits start count) :
    (range start count).capacity = min (start.toNat + count) 65536 - start.toNat := by
  have bounded := start.toNat_lt
  rw [toNat_capacity, toNat_finish fits]
  rw [toNat_finish fits]
  omega

theorem length_range (fits : Fits start count) :
    (range start count).free.length = (range start count).capacity := by
  rw [capacity_range fits, range, List.length_map, List.length_range, toNat_finish fits]

theorem mem_range_iff (fits : Fits start count) :
    port ∈ (range start count).free ↔ Covers start count port := by
  constructor
  · intro member
    obtain ⟨offset, listed, rfl⟩ := List.mem_map.mp member
    have inside := List.mem_range.mp listed
    rw [Covers, toNat_range start count inside]
    rw [toNat_finish fits] at inside
    omega
  · rintro ⟨from_start, below⟩
    refine List.mem_map.mpr ⟨port.toNat - start.toNat, List.mem_range.mpr ?_, ?_⟩
    · rw [toNat_finish fits]
      omega
    · rw [Nat.add_sub_cancel' from_start, UInt16.ofNat_toNat]

/-- When the sum runs over, no port is free from the start, and the capacity is all that
was asked for. -/
theorem range_overrun (exceeds : ¬ Fits start count) (bounded : count < 2 ^ 64) :
    (range start count).free = [] ∧ (range start count).capacity = count := by
  have small := start.toNat_lt
  rw [Fits, Nat.not_lt] at exceeds
  have ends : (finish start count).toNat = start.toNat + count - 2 ^ 64 := by
    rw [finish, UInt64.toNat_min, UInt64.toNat_add, UInt16.toNat_toUInt64, UInt64.toNat_ofNat',
      Nat.add_mod_mod, show (65536 : UInt64).toNat = 65536 from rfl]
    omega
  constructor
  · rw [range, ends, Nat.sub_eq_zero_of_le (by omega)]
    rfl
  · change (finish start count - start.toUInt64).toNat = count
    rw [UInt64.toNat_sub, ends, UInt16.toNat_toUInt64]
    omega

/-- A pool that covers a range owns no other port. -/
theorem owns_iff (fits : Fits start count) (begins : pool.start = start)
    (covers : pool.capacity = (range start count).capacity) :
    pool.owns port = true ↔ Covers start count port := by
  constructor
  · intro owned
    rw [owns, begins, covers, Bool.and_eq_true, decide_eq_true_iff, decide_eq_true_iff,
      UInt16.le_iff_toNat_le, capacity_range fits] at owned
    obtain ⟨from_start, inside⟩ := owned
    have distance := UInt16.toNat_sub_of_le _ _ (UInt16.le_iff_toNat_le.mpr from_start)
    rw [distance] at inside
    exact ⟨from_start, by omega⟩
  · exact fun member => owns_range begins covers ((mem_range_iff fits).mpr member)

/-! ## Calls -/

/-- What is asked of a pool. -/
inductive Call where
  | allocate
  | release (port : Port)
deriving Repr, DecidableEq

/-- The port that is handed out at a call. -/
def hands (pool : PortPool) : Call → Option Port
  | .allocate => pool.allocate.map (·.1)
  | .release _ => none

/-- What a call makes of a pool; one that fails changes nothing. -/
def serve (pool : PortPool) : Call → PortPool
  | .allocate => (pool.allocate.map (·.2)).getD pool
  | .release port => pool.release port

/-- What a row of calls makes of a pool. -/
def after (pool : PortPool) (calls : List Call) : PortPool := calls.foldl serve pool

/-- The ports that are handed out in a row of calls, in order. -/
def handed : PortPool → List Call → List Port
  | _, [] => []
  | pool, call :: rest => (pool.hands call).toList ++ (pool.serve call).handed rest

/-- The ports that come back to a pool at a call. -/
def regains (pool : PortPool) : Call → List Port
  | .allocate => []
  | .release port => if pool.owns port then [port] else []

theorem allocate_eq (pool : PortPool) : pool.allocate =
    pool.free.head?.map fun port => (port, { pool with free := pool.free.tail }) := by
  unfold allocate
  cases pool.free with
  | nil => rfl
  | cons port free => rfl

theorem allocate_eq_none_iff : pool.allocate = none ↔ pool.free = [] := by
  rw [allocate_eq, Option.map_eq_none_iff, List.head?_eq_none_iff]

/-- The port that is handed out is the first one that is free. -/
theorem allocate_eq_some_iff {rest : PortPool} : pool.allocate = some (port, rest) ↔
    ∃ free, pool.free = port :: free ∧ rest = { pool with free := free } := by
  unfold allocate
  split
  · rename_i empty
    rw [empty]
    exact iff_of_false (fun handed => by cases handed) fun ⟨_, next, _⟩ => by cases next
  · rename_i first free several
    rw [several, Option.some.injEq, Prod.mk.injEq]
    constructor
    · rintro ⟨rfl, rfl⟩
      exact ⟨free, rfl, rfl⟩
    · rintro ⟨others, same, rfl⟩
      obtain ⟨rfl, rfl⟩ := List.cons.inj same
      exact ⟨rfl, rfl⟩

@[simp] theorem hands_allocate (pool : PortPool) : pool.hands .allocate = pool.free.head? := by
  rw [hands, allocate_eq, Option.map_map]
  exact Option.map_id'

@[simp] theorem serve_allocate (pool : PortPool) :
    pool.serve .allocate = { pool with free := pool.free.tail } := by
  obtain ⟨start, capacity, free⟩ := pool
  cases free with
  | nil => rfl
  | cons port free => rfl

/-- A port of the pool goes to the end of the queue, and any other one is ignored. -/
theorem serve_release (pool : PortPool) (port : Port) :
    pool.serve (.release port) =
      { pool with free := pool.free ++ pool.regains (.release port) } := by
  rw [serve, release, regains]
  split
  · rfl
  · rw [List.append_nil]

/-- The range of a pool never changes. -/
theorem serve_extent (pool : PortPool) (call : Call) :
    (pool.serve call).start = pool.start ∧ (pool.serve call).capacity = pool.capacity := by
  cases call with
  | allocate =>
      rw [serve_allocate]
      exact ⟨rfl, rfl⟩
  | release port =>
      rw [serve_release]
      exact ⟨rfl, rfl⟩

theorem regains_serve (pool : PortPool) (call other : Call) :
    (pool.serve call).regains other = pool.regains other := by
  obtain ⟨start, capacity⟩ := pool.serve_extent call
  cases other with
  | allocate => rfl
  | release port => rw [regains, regains, owns, owns, start, capacity]

/-- At one call, what is handed out comes from the front of the queue, and what comes back
goes to its end. -/
theorem hands_append_free (pool : PortPool) (call : Call) :
    (pool.hands call).toList ++ (pool.serve call).free = pool.free ++ pool.regains call := by
  cases call with
  | allocate =>
      rw [hands_allocate, serve_allocate, regains, List.append_nil]
      cases pool.free with
      | nil => rfl
      | cons port free => rfl
  | release port =>
      rw [serve_release]
      rfl

/-- So it is in a row of calls: ports are handed out in the order in which they became
free. -/
theorem handed_append_free (pool : PortPool) (calls : List Call) :
    pool.handed calls ++ (pool.after calls).free =
      pool.free ++ calls.flatMap pool.regains := by
  induction calls generalizing pool with
  | nil => exact (List.append_nil _).symm
  | cons call rest inductionHypothesis =>
      have same : rest.flatMap (pool.serve call).regains = rest.flatMap pool.regains :=
        congrArg rest.flatMap (funext (pool.regains_serve call))
      have later := inductionHypothesis (pool.serve call)
      rw [same] at later
      calc (pool.hands call).toList ++ (pool.serve call).handed rest ++
            ((pool.serve call).after rest).free
          = (pool.hands call).toList ++ (pool.serve call).free ++ rest.flatMap pool.regains := by
            rw [List.append_assoc, later, List.append_assoc]
        _ = pool.free ++ (call :: rest).flatMap pool.regains := by
            rw [hands_append_free, List.append_assoc, List.flatMap_cons]

/-- A port that is given back and handed out again has waited for all that were free
before. -/
theorem free_prefix_handed {between : List Call} (absent : port ∉ pool.free)
    (owned : pool.owns port = true)
    (again : ((pool.serve (.release port)).after between).hands .allocate = some port) :
    pool.free <+: (pool.serve (.release port)).handed between := by
  have queue := (pool.serve (.release port)).handed_append_free between
  rw [hands_allocate, List.head?_eq_some_iff] at again
  obtain ⟨behind, front⟩ := again
  rw [front, serve_release, regains, if_pos owned, List.append_assoc] at queue
  -- The queue is split in two ways.  If less had been handed out than was free before, the
  -- port would be one of those.
  rcases List.append_eq_append_iff.mp queue with ⟨missing, free, still⟩ | ⟨more, handed, -⟩
  · cases missing with
    | nil =>
        rw [List.append_nil] at free
        rw [serve_release, regains, if_pos owned]
        exact ⟨[], (List.append_nil _).trans free⟩
    | cons next missing =>
        have same : port = next := (List.cons.inj still).1
        rw [free, same] at absent
        exact absurd (List.mem_append_right _ List.mem_cons_self) absent
  · rw [serve_release, regains, if_pos owned, handed]
    exact List.prefix_append ..

/-! ## Ports that are out -/

/-- A pool and the ports that are out: handed out, and not given back since. -/
structure Loans where
  pool : PortPool
  out : List Port
deriving Repr, DecidableEq

namespace Loans

variable {loans : Loans}

/-- A pool that has handed out nothing. -/
def opened (start : Port) (count : Nat) : Loans := ⟨range start count, []⟩

/-- A call is served, and the ports that are out are noted. -/
def serve (loans : Loans) (call : Call) : Loans where
  pool := loans.pool.serve call
  out := match call with
    | .allocate => loans.out ++ (loans.pool.hands .allocate).toList
    | .release port => loans.out.erase port

/-- What a row of calls makes of a pool and the ports that are out. -/
def run (loans : Loans) (calls : List Call) : Loans := calls.foldl serve loans

/-- A port of the pool is given back only while it is out; others may be given back
anytime. -/
def Allows (start : Port) (count : Nat) (loans : Loans) : Call → Prop
  | .allocate => True
  | .release port => Covers start count port → port ∈ loans.out

/-- Every call of a row is allowed when it comes. -/
def Proper (start : Port) (count : Nat) : Loans → List Call → Prop
  | _, [] => True
  | loans, call :: rest =>
      loans.Allows start count call ∧ (loans.serve call).Proper start count rest

instance (loans : Loans) (call : Call) : Decidable (loans.Allows start count call) :=
  match call with
  | .allocate => inferInstanceAs (Decidable True)
  | .release _ => inferInstanceAs (Decidable (_ → _))

instance decidableProper : ∀ (loans : Loans) (calls : List Call),
    Decidable (loans.Proper start count calls)
  | _, [] => inferInstanceAs (Decidable True)
  | loans, call :: rest =>
      have := decidableProper (loans.serve call) rest
      inferInstanceAs (Decidable (_ ∧ _))

theorem proper_append {calls more : List Call} :
    loans.Proper start count (calls ++ more) ↔
      loans.Proper start count calls ∧ (loans.run calls).Proper start count more := by
  induction calls generalizing loans with
  | nil => exact (and_iff_right trivial).symm
  | cons call rest inductionHypothesis =>
      rw [List.cons_append, Proper, Proper, inductionHypothesis, and_assoc]
      rfl

theorem run_append (loans : Loans) (calls more : List Call) :
    loans.run (calls ++ more) = (loans.run calls).run more := List.foldl_append

theorem pool_run (loans : Loans) (calls : List Call) :
    (loans.run calls).pool = loans.pool.after calls := by
  induction calls generalizing loans with
  | nil => rfl
  | cons call rest inductionHypothesis => exact inductionHypothesis (loans.serve call)

/-- The ports that are free and those that are out are the whole range. -/
structure Whole (start : Port) (count : Nat) (loans : Loans) : Prop where
  begins : loans.pool.start = start
  covers : loans.pool.capacity = (range start count).capacity
  ports : (loans.pool.free ++ loans.out).Perm (range start count).free

namespace Whole

theorem opened (start : Port) (count : Nat) : (opened start count).Whole start count :=
  ⟨rfl, rfl, .of_eq (List.append_nil _)⟩

variable (whole : loans.Whole start count) (fits : Fits start count)
include whole

theorem nodup : (loans.pool.free ++ loans.out).Nodup :=
  whole.ports.nodup_iff.mpr (nodup_range start count)

include fits in
theorem mem_iff : port ∈ loans.pool.free ++ loans.out ↔ Covers start count port :=
  whole.ports.mem_iff.trans (mem_range_iff fits)

include fits in
theorem owns_iff : loans.pool.owns port = true ↔ Covers start count port :=
  PortPool.owns_iff fits whole.begins whole.covers

theorem not_free (taken : port ∈ loans.out) : port ∉ loans.pool.free := fun free =>
  (List.nodup_append.mp whole.nodup).2.2 port free port taken rfl

include fits in
/-- One call. -/
theorem serve {call : Call} (allows : loans.Allows start count call) :
    (loans.serve call).Whole start count := by
  obtain ⟨same, extent⟩ := loans.pool.serve_extent call
  refine ⟨same.trans whole.begins, extent.trans whole.covers, .trans ?_ whole.ports⟩
  cases call with
  | allocate =>
      -- The port at the front of the queue goes over to those that are out.
      have moves := loans.pool.hands_append_free .allocate
      rw [regains, List.append_nil] at moves
      rw [← moves]
      calc (loans.serve .allocate).pool.free ++
            (loans.out ++ (loans.pool.hands .allocate).toList)
        List.Perm _ ((loans.serve .allocate).pool.free ++
            ((loans.pool.hands .allocate).toList ++ loans.out)) :=
          .append_left _ List.perm_append_comm
        List.Perm _ ((loans.pool.hands .allocate).toList ++
            (loans.pool.serve .allocate).free ++ loans.out) := by
          rw [← List.append_assoc]
          exact .append_right _ List.perm_append_comm
  | release port =>
      change ((loans.pool.serve (.release port)).free ++ loans.out.erase port).Perm _
      rw [serve_release, regains]
      split
      · rename_i owned
        have taken : port ∈ loans.out := allows ((whole.owns_iff fits).mp owned)
        rw [List.append_assoc]
        exact .append_left _ (List.perm_cons_erase taken).symm
      · rename_i foreign
        have absent : port ∉ loans.out := fun taken =>
          foreign ((whole.owns_iff fits).mpr
            ((whole.mem_iff fits).mp (List.mem_append_right _ taken)))
        rw [List.append_nil, List.erase_of_not_mem absent]

include fits in
/-- A row of calls. -/
theorem run {calls : List Call} (proper : loans.Proper start count calls) :
    (loans.run calls).Whole start count := by
  induction calls generalizing loans with
  | nil => exact whole
  | cons call rest inductionHypothesis =>
      exact inductionHypothesis (whole.serve fits proper.1) proper.2

end Whole

/-- What can be told of a pool at any time. -/
structure Balanced (start : Port) (count : Nat) (loans : Loans) : Prop where
  /-- No port is free and out at once, or either of it twice. -/
  once : (loans.pool.free ++ loans.out).Nodup
  /-- The ports of the range are free or out, and there are no others. -/
  all : ∀ port, port ∈ loans.pool.free ++ loans.out ↔ Covers start count port
  /-- No port can be had exactly when all are out. -/
  exhausted : loans.pool.allocate = none ↔ ∀ port, Covers start count port → port ∈ loans.out
  extent : loans.pool.capacity = min (start.toNat + count) 65536 - start.toNat
  counted : loans.pool.available = loans.pool.capacity - loans.out.length
  few : loans.out.length ≤ loans.pool.capacity

theorem Whole.balanced (whole : loans.Whole start count) (fits : Fits start count) :
    loans.Balanced start count := by
  have length := whole.ports.length_eq
  rw [List.length_append, length_range fits, ← whole.covers] at length
  refine ⟨whole.nodup, fun port => whole.mem_iff fits, ?_,
    whole.covers.trans (capacity_range fits), ?_, ?_⟩
  · rw [allocate_eq_none_iff]
    constructor
    · intro empty port covered
      have member := (whole.mem_iff fits).mpr covered
      rwa [empty, List.nil_append] at member
    · intro taken
      refine List.eq_nil_iff_forall_not_mem.mpr fun port free => ?_
      exact whole.not_free
        (taken port ((whole.mem_iff fits).mp (List.mem_append_left _ free))) free
  · rw [available]
    omega
  · omega

end Loans

/-- The last three ports there are.  The first one comes back at once, a port from elsewhere
is given back too, and in the end one more port is asked for than there are. -/
def lastPorts : List Call :=
  [.allocate, .release 65533, .release 7, .allocate, .allocate, .allocate, .allocate]

end Netplay.PortPool
