/-
Module: Netplay.Proofs.CacheSlots
Purpose: What a payload cache holds after any row of uses: the newest 256 payloads
  since it was cleared, each in its slot, and for each payload the slot of its newest
  copy.
Main exports:
  IsLast, PayloadCache.Keeps, PayloadCache.Use, PayloadCache.Recalls,
  PayloadCache.recalls_run
-/
import Mathlib.Data.List.Induction
import Netplay.PayloadCache

namespace Netplay

/-! ## The last of its kind -/

/-- Of all numbers below a bound, this is the last one with a property. -/
structure IsLast (holds : Nat → Prop) (bound index : Nat) : Prop where
  below : index < bound
  has : holds index
  last : ∀ later, later < bound → holds later → later ≤ index

namespace IsLast

variable {holds others : Nat → Prop} {bound index other : Nat}

theorem unique (one : IsLast holds bound index) (two : IsLast holds bound other) :
    index = other :=
  Nat.le_antisymm (two.last index one.below one.has) (one.last other two.below two.has)

/-- The property matters only below the bound. -/
theorem congr (same : ∀ candidate, candidate < bound → (holds candidate ↔ others candidate)) :
    IsLast holds bound index ↔ IsLast others bound index := by
  constructor
  · rintro ⟨below, has, last⟩
    exact ⟨below, (same index below).mp has,
      fun later before found => last later before ((same later before).mpr found)⟩
  · rintro ⟨below, has, last⟩
    exact ⟨below, (same index below).mpr has,
      fun later before found => last later before ((same later before).mp found)⟩

/-- With one more number that has the property, that number is the last one. -/
theorem succ (has : holds bound) : IsLast holds (bound + 1) index ↔ index = bound := by
  have newest : IsLast holds (bound + 1) bound :=
    ⟨Nat.lt_succ_self bound, has, fun _ before _ => Nat.le_of_lt_succ before⟩
  constructor
  · exact fun isLast => isLast.unique newest
  · rintro rfl
    exact newest

/-- With one more number that lacks the property, nothing changes. -/
theorem succ_of_not (lacks : ¬ holds bound) :
    IsLast holds (bound + 1) index ↔ IsLast holds bound index := by
  constructor
  · rintro ⟨below, has, last⟩
    have before : index < bound := by
      rcases Nat.lt_succ_iff_lt_or_eq.mp below with before | rfl
      · exact before
      · exact absurd has lacks
    exact ⟨before, has, fun later earlier => last later (Nat.lt_succ_of_lt earlier)⟩
  · rintro ⟨below, has, last⟩
    refine ⟨Nat.lt_succ_of_lt below, has, fun later before found => ?_⟩
    rcases Nat.lt_succ_iff_lt_or_eq.mp before with earlier | rfl
    · exact last later earlier found
    · exact absurd found lacks

/-- If some number below the bound has the property, then there is a last one. -/
theorem exists_of_lt (below : index < bound) (has : holds index) :
    ∃ last, IsLast holds bound last := by
  induction bound with
  | zero => exact absurd below (Nat.not_lt_zero index)
  | succ bound inductionHypothesis =>
      by_cases newest : holds bound
      · exact ⟨bound, (succ newest).mpr rfl⟩
      · have before : index < bound := by
          rcases Nat.lt_succ_iff_lt_or_eq.mp below with before | rfl
          · exact before
          · exact absurd has newest
        obtain ⟨last, isLast⟩ := inductionHypothesis before
        exact ⟨last, (succ_of_not newest).mpr isLast⟩

end IsLast

namespace PayloadCache

variable {cache : PayloadCache} {payloads : List Bytes} {added payload : Bytes}
  {slot : UInt8} {index : Nat}

/-! ## One addition -/

/-- The payload with this number goes to this slot. -/
def GoesTo (slot : UInt8) (index : Nat) : Prop := index % 256 = slot.toNat

/-- The payload with this number is a copy of this one. -/
def IsCopy (payloads : List Bytes) (payload : Bytes) (index : Nat) : Prop :=
  payloads[index]? = some payload

theorem goesTo_iff : GoesTo slot index ↔ slot = slotOf index := by
  have number : (slotOf index).toNat = index % 256 := by
    rw [slotOf, UInt8.toNat_ofNat']
    exact Nat.mod_mod index 256
  rw [← UInt8.toNat_inj, number]
  exact eq_comm

/-- Only the slot that is written changes. -/
theorem get_add (full : cache.slots.length = capacity) (payload : Bytes) (slot : UInt8) :
    (cache.add payload).2.get slot =
      if slot = slotOf cache.added then some payload else cache.get slot := by
  have inside : slot.toNat < cache.slots.length := by
    rw [full]
    exact slot.toNat_lt
  simp only [get, add]
  split
  · rename_i here
    rw [here] at inside ⊢
    rw [List.getElem?_set_self inside]
    rfl
  · rename_i elsewhere
    rw [List.getElem?_set_ne fun same => elsewhere (UInt8.toNat_inj.mp same.symm)]

/-- To forget the place of a payload is to forget no other one. -/
theorem lookup_filter_ne (places : List (Bytes × UInt8)) (forgotten payload : Bytes) :
    (places.filter (·.1 ≠ forgotten)).lookup payload =
      if payload = forgotten then none else places.lookup payload := by
  induction places with
  | nil =>
      split
      · rfl
      · rfl
  | cons place rest inductionHypothesis =>
      obtain ⟨kept, slot⟩ := place
      by_cases gone : kept = forgotten
      · rw [List.filter_cons_of_neg (by simpa using gone), inductionHypothesis, List.lookup_cons]
        by_cases same : payload = forgotten
        · rw [if_pos same, if_pos same]
        · have apart : (payload == kept) = false := by simpa [gone] using same
          rw [if_neg same, if_neg same, apart]
      · rw [List.filter_cons_of_pos (by simpa using gone), List.lookup_cons, List.lookup_cons,
          inductionHypothesis]
        by_cases here : payload = kept
        · rw [here, beq_self_eq_true]
          exact (if_neg gone).symm
        · rw [beq_eq_false_iff_ne.mpr here]

/-- A slot that is given up takes with it the place of a payload that is found there. -/
theorem lookup_placesWithout (cache : PayloadCache) (slot : UInt8) (payload : Bytes) :
    (cache.placesWithout slot).lookup payload =
      if cache.get slot = some payload ∧ cache.indexOf payload = some slot then none
      else cache.indexOf payload := by
  unfold placesWithout
  cases held : cache.get slot with
  | none =>
      simp only [reduceCtorEq, false_and, if_false]
      rfl
  | some evicted =>
      by_cases same : payload = evicted
      · subst same
        by_cases here : cache.indexOf payload = some slot
        · simp only [here, if_true, and_self, lookup_filter_ne]
        · simp only [here, if_false, and_false]
          rfl
      · rw [if_neg fun both => same (Option.some.inj both.1).symm]
        simp only
        split
        · rw [lookup_filter_ne, if_neg same]
          rfl
        · rfl

/-- The new payload is found where it is put.  Another one is found where it was, but
for the one that was found in the slot that is written. -/
theorem indexOf_add (cache : PayloadCache) (added payload : Bytes) :
    (cache.add added).2.indexOf payload =
      if payload = added then some (slotOf cache.added)
      else if cache.get (slotOf cache.added) = some payload ∧
          cache.indexOf payload = some (slotOf cache.added) then none
      else cache.indexOf payload := by
  rw [← lookup_placesWithout, indexOf]
  simp only [add, List.lookup_cons]
  split
  · rename_i new
    rw [if_pos (eq_of_beq new)]
  · rename_i old
    have apart : payload ≠ added := by simpa using old
    rw [if_neg apart, lookup_filter_ne, if_neg apart]

/-! ## Rows of additions -/

/-- A cache holds what was added since it was cleared: each slot the last payload that
went there, and for each payload the slot of its newest copy, as long as that is not
written over. -/
structure Keeps (cache : PayloadCache) (payloads : List Bytes) : Prop where
  full : cache.slots.length = capacity
  counted : cache.added = payloads.length
  get_iff : ∀ slot payload, cache.get slot = some payload ↔
    ∃ index, IsLast (GoesTo slot) payloads.length index ∧ IsCopy payloads payload index
  indexOf_iff : ∀ payload slot, cache.indexOf payload = some slot ↔
    ∃ index, IsLast (IsCopy payloads payload) payloads.length index ∧
      payloads.length ≤ index + 256 ∧ GoesTo slot index

theorem keeps_empty : Keeps empty [] := by
  have noLast {holds : Nat → Prop} {index : Nat} : ¬ IsLast holds 0 index :=
    fun isLast => Nat.not_lt_zero index isLast.below
  refine ⟨List.length_replicate, rfl, fun slot payload => ?_, fun payload slot => ?_⟩
  · have vacant : empty.get slot = none := by
      have inside : slot.toNat < capacity := slot.toNat_lt
      rw [get, empty, List.getElem?_replicate_of_lt inside]
      rfl
    rw [vacant]
    exact ⟨(nomatch ·), fun ⟨_, isLast, _⟩ => absurd isLast noLast⟩
  · exact ⟨(nomatch ·), fun ⟨_, isLast, _⟩ => absurd isLast noLast⟩

theorem isCopy_added : IsCopy (payloads ++ [added]) payload payloads.length ↔ payload = added := by
  rw [IsCopy, List.getElem?_concat_length, Option.some.injEq]
  exact eq_comm

theorem isCopy_append (below : index < payloads.length) :
    IsCopy (payloads ++ [added]) payload index ↔ IsCopy payloads payload index := by
  rw [IsCopy, List.getElem?_append_left below]
  rfl

/-- The last copy of a payload is the same after another payload is added. -/
theorem isLast_copy (old : payload ≠ added) :
    IsLast (IsCopy (payloads ++ [added]) payload) (payloads.length + 1) index ↔
      IsLast (IsCopy payloads payload) payloads.length index := by
  rw [IsLast.succ_of_not fun same => old (isCopy_added.mp same)]
  exact IsLast.congr fun _ below => isCopy_append below

namespace Keeps

theorem next (keeps : cache.Keeps payloads) :
    GoesTo slot payloads.length ↔ slot = slotOf cache.added := by
  rw [keeps.counted, goesTo_iff]

/-- The slot that is written next holds what is found there exactly if the last copy
of that lies a whole round back. -/
theorem gives_up_iff (keeps : cache.Keeps payloads)
    (isLast : IsLast (IsCopy payloads payload) payloads.length index) :
    cache.get (slotOf cache.added) = some payload ∧
        cache.indexOf payload = some (slotOf cache.added) ↔
      payloads.length = index + 256 := by
  have below := isLast.below
  have written : payloads.length % 256 = (slotOf cache.added).toNat := keeps.next.mpr rfl
  rw [keeps.get_iff, keeps.indexOf_iff]
  constructor
  · rintro ⟨-, place, placeIsLast, near, here⟩
    have same := placeIsLast.unique isLast
    unfold GoesTo at here
    omega
  · intro round
    have here : GoesTo (slotOf cache.added) index := by
      unfold GoesTo
      omega
    refine ⟨⟨index, ⟨below, here, fun later before same => ?_⟩, isLast.has⟩,
      index, isLast, Nat.le_of_eq round, here⟩
    unfold GoesTo at same
    omega

theorem get_iff_add (keeps : cache.Keeps payloads) (added : Bytes) (slot : UInt8)
    (payload : Bytes) :
    (cache.add added).2.get slot = some payload ↔
      ∃ index, IsLast (GoesTo slot) (payloads.length + 1) index ∧
        IsCopy (payloads ++ [added]) payload index := by
  rw [get_add keeps.full]
  split
  · rename_i here
    simp only [IsLast.succ (keeps.next.mpr here), exists_eq_left, isCopy_added,
      Option.some.injEq]
    exact eq_comm
  · rename_i elsewhere
    rw [keeps.get_iff]
    refine exists_congr fun index => ?_
    rw [IsLast.succ_of_not (mt keeps.next.mp elsewhere)]
    exact and_congr_right fun isLast => (isCopy_append isLast.below).symm

theorem indexOf_iff_add (keeps : cache.Keeps payloads) (added payload : Bytes)
    (slot : UInt8) :
    (cache.add added).2.indexOf payload = some slot ↔
      ∃ index, IsLast (IsCopy (payloads ++ [added]) payload) (payloads.length + 1) index ∧
        payloads.length + 1 ≤ index + 256 ∧ GoesTo slot index := by
  rw [indexOf_add]
  split
  · rename_i new
    have near : payloads.length + 1 ≤ payloads.length + 256 := by omega
    simp only [IsLast.succ (isCopy_added.mpr new), exists_eq_left, near, true_and, keeps.next,
      Option.some.injEq]
    exact eq_comm
  · rename_i old
    simp only [isLast_copy old]
    split
    · rename_i evicted
      refine ⟨(nomatch ·), ?_⟩
      rintro ⟨index, isLast, near, -⟩
      have round := (keeps.gives_up_iff isLast).mp evicted
      omega
    · rename_i stays
      rw [keeps.indexOf_iff]
      refine exists_congr fun index => and_congr_right fun isLast => and_congr_left fun _ => ?_
      have early := mt (keeps.gives_up_iff isLast).mpr stays
      omega

theorem add (keeps : cache.Keeps payloads) (added : Bytes) :
    (cache.add added).2.Keeps (payloads ++ [added]) := by
  have length : (payloads ++ [added]).length = payloads.length + 1 := List.length_append
  constructor
  · exact List.length_set.trans keeps.full
  · rw [length, ← keeps.counted]
    rfl
  · rw [length]
    exact keeps.get_iff_add added
  · rw [length]
    exact keeps.indexOf_iff_add added

/-- A payload is where it is found. -/
theorem sound (keeps : cache.Keeps payloads) (found : cache.indexOf payload = some slot) :
    cache.get slot = some payload := by
  obtain ⟨index, isLast, near, here⟩ := (keeps.indexOf_iff payload slot).mp found
  refine (keeps.get_iff slot payload).mpr ⟨index, ⟨isLast.below, here, ?_⟩, isLast.has⟩
  intro later before same
  unfold GoesTo at same here
  omega

/-- Every payload in a slot is found, if need be as a later copy. -/
theorem found (keeps : cache.Keeps payloads) (held : cache.get slot = some payload) :
    (cache.indexOf payload).isSome = true := by
  obtain ⟨index, isLast, copy⟩ := (keeps.get_iff slot payload).mp held
  -- The slot has not been written since, so its payload is at most a round old, and
  -- the newest copy is no older.
  have recent : payloads.length ≤ index + 256 := by
    by_contra old
    have again := isLast.last (index + 256) (Nat.lt_of_not_le old)
      ((Nat.add_mod_right index 256).trans isLast.has)
    omega
  obtain ⟨newest, newestIsLast⟩ := IsLast.exists_of_lt isLast.below copy
  have later := newestIsLast.last index isLast.below copy
  refine Option.isSome_iff_exists.mpr ⟨slotOf newest,
    (keeps.indexOf_iff payload _).mpr ⟨newest, newestIsLast, ?_, goesTo_iff.mpr rfl⟩⟩
  omega

/-- A slot is taken as soon as a payload has gone there. -/
theorem isSome_get (keeps : cache.Keeps payloads) (slot : UInt8) :
    (cache.get slot).isSome = decide (slot.toNat < payloads.length) := by
  have small : slot.toNat < 256 := slot.toNat_lt
  rw [Bool.eq_iff_iff, decide_eq_true_iff, Option.isSome_iff_exists]
  constructor
  · rintro ⟨payload, held⟩
    obtain ⟨index, isLast, -⟩ := (keeps.get_iff slot payload).mp held
    have here : index % 256 = slot.toNat := isLast.has
    have below := isLast.below
    omega
  · intro below
    obtain ⟨index, isLast⟩ : ∃ index, IsLast (GoesTo slot) payloads.length index :=
      IsLast.exists_of_lt below (Nat.mod_eq_of_lt small)
    have inside := isLast.below
    have copy : IsCopy payloads payloads[index] index := List.getElem?_eq_getElem inside
    exact ⟨_, (keeps.get_iff slot _).mpr ⟨index, isLast, copy⟩⟩

end Keeps

theorem countP_range_lt (bound length : Nat) :
    (List.range length).countP (· < bound) = min bound length := by
  induction length with
  | zero => exact (Nat.min_zero bound).symm
  | succ length inductionHypothesis =>
      rw [List.range_succ, List.countP_append, inductionHypothesis, List.countP_singleton]
      split
      · rename_i below
        rw [decide_eq_true_iff] at below
        omega
      · rename_i above
        rw [decide_eq_true_iff] at above
        omega

/-- As many slots are taken as payloads were added, until all are. -/
theorem Keeps.size (keeps : cache.Keeps payloads) : cache.size = min payloads.length 256 := by
  have taken : cache.slots.map Option.isSome =
      (List.range 256).map fun slot => decide (slot < payloads.length) := by
    refine List.ext_getElem ?_ fun place inside _ => ?_
    · rw [List.length_map, List.length_map, List.length_range]
      exact keeps.full
    · rw [List.length_map] at inside
      have small : place < 256 := Nat.lt_of_lt_of_eq inside keeps.full
      have number : (UInt8.ofNat place).toNat = place := by
        rw [UInt8.toNat_ofNat']
        exact Nat.mod_eq_of_lt small
      have here := keeps.isSome_get (UInt8.ofNat place)
      rw [get, number, List.getElem?_eq_getElem inside] at here
      rw [List.getElem_map, List.getElem_map, List.getElem_range]
      exact here
  have counted : cache.size = (cache.slots.map Option.isSome).countP id := by
    rw [List.countP_map]
    rfl
  rw [counted, taken, List.countP_map]
  exact countP_range_lt payloads.length 256

/-! ## Rows of uses -/

/-- What is done to a cache. -/
inductive Use where
  | add (payload : Bytes)
  | clear
deriving Repr, Inhabited, DecidableEq

/-- The cache after one use. -/
def use (cache : PayloadCache) : Use → PayloadCache
  | .add payload => (cache.add payload).2
  | .clear => empty

/-- The cache after a row of uses. -/
def run (uses : List Use) : PayloadCache := uses.foldl use empty

/-- What was added since the last time the cache was cleared, oldest first. -/
def sinceClear (uses : List Use) : List Bytes :=
  uses.foldl (fun payloads use =>
    match use with
    | .add payload => payloads ++ [payload]
    | .clear => []) []

/-- What a cache answers to whoever uses it, when these payloads were added. -/
structure Recalls (cache : PayloadCache) (payloads : List Bytes) : Prop where
  /-- The payload added next goes to the slot of its number. -/
  add : ∀ payload, (cache.add payload).1.toNat = payloads.length % 256
  /-- A slot holds the last payload that went there. -/
  get : ∀ slot payload, cache.get slot = some payload ↔
    ∃ index, IsLast (· % 256 = slot.toNat) payloads.length index ∧
      payloads[index]? = some payload
  /-- A payload is found in the slot of its last copy, if no more than 256 payloads
  were added from that copy on. -/
  indexOf : ∀ payload slot, cache.indexOf payload = some slot ↔
    ∃ index, IsLast (payloads[·]? = some payload) payloads.length index ∧
      payloads.length ≤ index + 256 ∧ index % 256 = slot.toNat
  size : cache.size = min payloads.length 256
  /-- A payload is where it is found. -/
  sound : ∀ payload slot, cache.indexOf payload = some slot → cache.get slot = some payload
  /-- What is still held is found, however often it was added. -/
  found : ∀ payload slot, cache.get slot = some payload →
    ∃ place, cache.indexOf payload = some place

theorem keeps_run (uses : List Use) : (run uses).Keeps (sinceClear uses) := by
  induction uses using List.reverseRecOn with
  | nil => exact keeps_empty
  | append_singleton earlier use inductionHypothesis =>
      rw [run, sinceClear, List.foldl_append, List.foldl_append]
      cases use with
      | add payload => exact inductionHypothesis.add payload
      | clear => exact keeps_empty

/-- Whatever was added to a cache, and however often it was cleared, it holds the newest
256 payloads since then, each in the slot of its number, and finds each of them in its
newest copy. -/
theorem recalls_run (uses : List Use) : (run uses).Recalls (sinceClear uses) := by
  have keeps := keeps_run uses
  exact
    { add := fun payload => (keeps.next.mpr rfl).symm
      get := keeps.get_iff
      indexOf := keeps.indexOf_iff
      size := keeps.size
      sound := fun _ _ => keeps.sound
      found := fun _ _ held => Option.isSome_iff_exists.mp (keeps.found held) }

-- A payload that is added again is found in its newer copy, and goes on being found
-- when the slot of the older one is written over.
example :
    let uses := [Use.add [9], .clear, .add [7], .add [8], .add [7]]
    (run uses).indexOf [7] = some 2 ∧ (run uses).get 0 = some [7] ∧
      (run uses).indexOf [9] = none := by
  decide +kernel

end PayloadCache

end Netplay
