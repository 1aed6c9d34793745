/-
Module: Netplay.Proofs.UserNumbers
Purpose: Whoever connects while there is room is given the next free number, wherever
  the counter stands and whoever has which number.
Main exports:
  UserId.following, UserId.place, UserId.firstFree_place, UserId.exists_free_place,
  Lobby.Enrols, Lobby.connect_first
-/
import Mathlib.Data.List.Nodup
import Mathlib.Data.List.Perm.Subperm
import Mathlib.Data.Nat.Find
import Netplay.Lobby.Basic

namespace Netplay

/-! ## The cycle of numbers -/

namespace UserId

/-- The next number in the cycle from 1 to 65535. -/
def following (id : UserId) : UserId := if id = 65535 then 1 else id + 1

/-- The number so many places after the counter in that cycle.  A counter at zero stands
before 1. -/
def place (counter : UserId) : Nat → UserId
  | 0 => if counter = 0 then 1 else counter
  | steps + 1 => following (place counter steps)

/-- Where a place is, counted from the start of the cycle. -/
theorem toNat_place (counter : UserId) (steps : Nat) :
    (place counter steps).toNat = (counter.toNat - 1 + steps) % 65535 + 1 := by
  have bound := counter.toNat_lt
  induction steps with
  | zero =>
      unfold place
      split
      · rename_i zero
        rw [zero]
        rfl
      · rename_i positive
        have positive : counter.toNat ≠ 0 := fun zero => positive (UInt16.toNat_inj.mp zero)
        omega
  | succ steps inductionHypothesis =>
      unfold place following
      split
      · rename_i last
        rw [last] at inductionHypothesis
        simp at inductionHypothesis ⊢
        omega
      · rename_i inner
        have inner : (place counter steps).toNat ≠ 65535 := fun last =>
          inner (UInt16.toNat_inj.mp last)
        rw [UInt16.toNat_add]
        simp
        omega

theorem place_ne_zero (counter : UserId) (steps : Nat) : place counter steps ≠ 0 := by
  intro zero
  have number := toNat_place counter steps
  rw [zero] at number
  exact absurd number (Nat.succ_ne_zero _).symm

/-- The counter that follows stands one place on. -/
theorem place_succ {counter : UserId} (positive : counter ≠ 0) (steps : Nat) :
    place counter (steps + 1) = place (counter + 1) steps := by
  have bound := counter.toNat_lt
  have positive : counter.toNat ≠ 0 := fun zero => positive (UInt16.toNat_inj.mp zero)
  apply UInt16.toNat_inj.mp
  rw [toNat_place, toNat_place, UInt16.toNat_add]
  simp
  omega

/-- A counter at zero stands before 1. -/
theorem place_zero (steps : Nat) : place 0 steps = place 1 steps := by
  apply UInt16.toNat_inj.mp
  rw [toNat_place, toNat_place]
  rfl

/-- The place of a counter that has just passed a number is the one that follows it. -/
theorem place_following {id : UserId} (positive : id ≠ 0) : place (id + 1) 0 = following id := by
  rw [← place_succ positive, place, place, if_neg positive]

/-- Fewer places than there are numbers hold different numbers. -/
theorem place_inj {counter : UserId} {one other : Nat} (oneInside : one < 65535)
    (otherInside : other < 65535) (same : place counter one = place counter other) :
    one = other := by
  have numbers := congrArg UInt16.toNat same
  rw [toNat_place, toNat_place] at numbers
  omega

/-! ## The search -/

variable {used : List UserId} {counter : UserId}

theorem firstFree_step (used : List UserId) (tries : Nat) (taken : counter = 0 ∨ counter ∈ used) :
    firstFree used (tries + 1) counter = firstFree used tries (counter + 1) := by
  rw [firstFree, if_neg]
  rintro ⟨positive, free⟩
  exact taken.elim positive free

/-- From a counter that is not zero the search tries each place in turn.  It passes zero
only if the places reach beyond the last number. -/
theorem firstFree_positive {steps : Nat} (positive : counter ≠ 0) (inside : steps < 65535)
    (passed : ∀ earlier < steps, place counter earlier ∈ used)
    (free : place counter steps ∉ used) {tries : Nat}
    (enough : steps + 2 ≤ tries ∨ counter.toNat + steps ≤ 65535 ∧ steps + 1 ≤ tries) :
    firstFree used tries counter = some (place counter steps, place counter steps + 1) := by
  have bound := counter.toNat_lt
  induction steps generalizing counter tries with
  | zero =>
      obtain ⟨tries, rfl⟩ : ∃ rest, tries = rest + 1 := ⟨tries - 1, by omega⟩
      rw [place, if_neg positive] at free ⊢
      rw [firstFree, if_pos ⟨positive, free⟩]
  | succ steps inductionHypothesis =>
      obtain ⟨tries, rfl⟩ : ∃ rest, tries = rest + 1 := ⟨tries - 1, by omega⟩
      have taken : counter ∈ used := by
        have first := passed 0 (Nat.succ_pos steps)
        rwa [place, if_neg positive] at first
      have others : ∀ earlier < steps, place (counter + 1) earlier ∈ used := by
        intro earlier before
        rw [← place_succ positive]
        exact passed (earlier + 1) (Nat.succ_lt_succ before)
      rw [firstFree_step used tries (.inr taken), place_succ positive]
      rw [place_succ positive] at free
      have number : (counter + 1).toNat = (counter.toNat + 1) % 65536 :=
        UInt16.toNat_add counter 1
      by_cases last : counter + 1 = 0
      · -- The counter comes to zero, which is passed over.
        rw [last] at number others free ⊢
        obtain ⟨tries, rfl⟩ : ∃ rest, tries = rest + 1 := ⟨tries - 1, by omega⟩
        simp only [place_zero] at others free ⊢
        rw [firstFree_step used tries (.inl rfl)]
        refine inductionHypothesis (by decide) (by omega) others free (.inr ?_) (by decide)
        rw [UInt16.toNat_zero] at number
        rw [UInt16.toNat_one]
        omega
      · refine inductionHypothesis last (by omega) others free ?_ (counter + 1).toNat_lt
        omega

/-- The search tries each place in turn, and zero at most once. -/
theorem firstFree_place {steps : Nat} (inside : steps < 65535)
    (passed : ∀ earlier < steps, place counter earlier ∈ used)
    (free : place counter steps ∉ used) {tries : Nat} (enough : steps + 2 ≤ tries) :
    firstFree used tries counter = some (place counter steps, place counter steps + 1) := by
  by_cases zero : counter = 0
  · obtain ⟨tries, rfl⟩ : ∃ rest, tries = rest + 1 := ⟨tries - 1, by omega⟩
    subst zero
    simp only [place_zero] at passed free ⊢
    rw [firstFree_step used tries (.inl rfl)]
    refine firstFree_positive (by decide) inside passed free (.inr ?_)
    simp
    omega
  · exact firstFree_positive zero inside passed free (.inl enough)

/-- Where fewer numbers are in use than there are, one of as many places and one more is
free. -/
theorem exists_free_place (used : List UserId) (few : used.length < 65535)
    (counter : UserId) :
    ∃ steps ≤ used.length, place counter steps ∉ used ∧
      ∀ earlier < steps, place counter earlier ∈ used := by
  have free : ∃ steps, steps ≤ used.length ∧ place counter steps ∉ used := by
    by_contra none
    push Not at none
    -- So many different numbers do not fit among those in use.
    have different : ((List.range (used.length + 1)).map (place counter)).Nodup := by
      refine List.Nodup.map_on (fun one first other second same => ?_) List.nodup_range
      rw [List.mem_range] at first second
      exact place_inj (by omega) (by omega) same
    have inUse : (List.range (used.length + 1)).map (place counter) ⊆ used := by
      intro id member
      obtain ⟨steps, before, rfl⟩ := List.mem_map.mp member
      exact none steps (Nat.lt_succ_iff.mp (List.mem_range.mp before))
    have length := (List.subperm_of_subset different inUse).length_le
    rw [List.length_map, List.length_range] at length
    omega
  refine ⟨Nat.find free, (Nat.find_spec free).1, (Nat.find_spec free).2, fun earlier before => ?_⟩
  have first := Nat.find_min free before
  have bound := (Nat.find_spec free).1
  by_contra unused
  exact first ⟨by omega, unused⟩

end UserId

/-! ## Connections -/

namespace Roster

variable {people : Roster} {id : UserId}

/-- Nobody has a number that is not among those of the registered users. -/
theorem registered?_eq_none : people.registered? id = none ↔ id ∉ people.present.map (·.id) := by
  simp [registered?]

theorem isSome_registered? :
    (people.registered? id).isSome = true ↔ id ∈ people.present.map (·.id) := by
  rw [← not_iff_not, ← registered?_eq_none, Bool.not_eq_true, Option.isSome_eq_false_iff,
    Option.isNone_iff_eq_none]

/-- A new user is found under its number, unless somebody else is; all others stay. -/
theorem registered?_register (people : Roster) (user : User) (id : UserId) :
    (people.register user).registered? id = (people.registered? id).or
      (if user.id = id then some { user with serial := people.departed.length } else none) := by
  simp only [registered?, register, List.find?_append, List.find?_singleton,
    decide_eq_true_eq]

end Roster

namespace Lobby

/-- A user has been registered for a new connection. -/
structure Enrols (lobby : Lobby) (address : Address) (protocol : String) (id : UserId)
    (after : Lobby) : Prop where
  /-- Its number is the first one from the counter on that nobody has, at most as many
  places away as there are users. -/
  first : ∃ steps ≤ lobby.people.present.length, id = UserId.place lobby.nextUser steps ∧
    lobby.people.registered? id = none ∧
    ∀ earlier < steps,
      (lobby.people.registered? (UserId.place lobby.nextUser earlier)).isSome = true
  /-- The counter stands just after it: the next search begins at the number that follows. -/
  counter : after.nextUser = id + 1 ∧ UserId.place after.nextUser 0 = UserId.following id
  /-- The user is found under it. -/
  newcomer : after.people.registered? id =
    some { User.connecting id address protocol with serial := lobby.people.departed.length }
  /-- Under every other number there is who was there before. -/
  others : ∀ other, other ≠ id →
    after.people.registered? other = lobby.people.registered? other
  /-- Nothing else changes. -/
  rest : after = { lobby with
    nextUser := id + 1
    people := lobby.people.register (User.connecting id address protocol) }

/-- Whatever the counter and the numbers in use: while there is room, and fewer users than
numbers, a connection is given the first free number, and any search of two tries more than
there are users finds it. -/
theorem connect_first (lobby : Lobby) (address : Address) (protocol : String)
    (space : lobby.people.present.length < lobby.server.maxUsers)
    (few : lobby.people.present.length < 65535) :
    ∃ id after, lobby.connect address protocol = .done after [] id ∧
      lobby.Enrols address protocol id after ∧
      ∀ tries, lobby.people.present.length + 2 ≤ tries →
        UserId.firstFree (lobby.people.present.map (·.id)) tries lobby.nextUser =
          some (id, after.nextUser) := by
  obtain ⟨steps, near, free, passed⟩ := UserId.exists_free_place
    (lobby.people.present.map (·.id)) (by rwa [List.length_map]) lobby.nextUser
  rw [List.length_map] at near
  have found (tries : Nat) (enough : lobby.people.present.length + 2 ≤ tries) :
      UserId.firstFree (lobby.people.present.map (·.id)) tries lobby.nextUser =
        some (UserId.place lobby.nextUser steps, UserId.place lobby.nextUser steps + 1) :=
    UserId.firstFree_place (by omega) passed free (by omega)
  refine ⟨UserId.place lobby.nextUser steps, _, ?_,
    ⟨⟨steps, near, rfl, ?_, ?_⟩, ⟨rfl, ?_⟩, ?_, ?_, rfl⟩, found⟩
  · rw [connect, if_neg (Nat.not_le_of_lt space), found 65537 (by omega)]
  · exact Roster.registered?_eq_none.mpr free
  · exact fun earlier before => Roster.isSome_registered?.mpr (passed earlier before)
  · exact UserId.place_following (UserId.place_ne_zero _ _)
  · rw [Roster.registered?_register, Roster.registered?_eq_none.mpr free]
    simp [User.connecting]
  · intro other differs
    have apart :
        (User.connecting (UserId.place lobby.nextUser steps) address protocol).id ≠ other :=
      differs.symm
    rw [Roster.registered?_register, if_neg apart, Option.or_none]

/-- Where somebody who comes now is at home. -/
def somewhere : Address := ⟨"10.0.0.3", 6000⟩

/-- The counter has come to the last number, and both that one and the first are taken. -/
def turnOfNumbers : Lobby :=
  { empty { server := { maxUsers := 3 } } with
    nextUser := 65535
    people := (Roster.empty.register (.connecting 65535 ⟨"10.0.0.1", 6000⟩ "0.83")).register
      (.connecting 1 ⟨"10.0.0.2", 6000⟩ "0.83") }

/-- The next one to come is number 2. -/
theorem connect_first_turnOfNumbers :
    turnOfNumbers.people.present.length < turnOfNumbers.server.maxUsers ∧
      turnOfNumbers.people.present.length < 65535 ∧
      ∃ after, turnOfNumbers.connect somewhere "0.83" = .done after [] 2 ∧
        turnOfNumbers.Enrols somewhere "0.83" 2 after ∧ after.nextUser = 3 := by
  have space : turnOfNumbers.people.present.length < turnOfNumbers.server.maxUsers := by decide
  have few : turnOfNumbers.people.present.length < 65535 := by decide
  obtain ⟨id, after, connected, enrols, search⟩ :=
    connect_first turnOfNumbers somewhere "0.83" space few
  have found : UserId.firstFree (turnOfNumbers.people.present.map (·.id)) 4
      turnOfNumbers.nextUser = some (2, 3) := by decide
  obtain ⟨rfl, next⟩ := Prod.mk.inj (Option.some.inj ((search 4 (by decide)).symm.trans found))
  exact ⟨space, few, after, connected, enrols, next⟩

end Lobby

end Netplay
