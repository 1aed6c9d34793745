/-
Module: Netplay.Proofs.KeyedLists
Purpose: Lists whose entries are told apart by a key: looking one up, taking one out and
  changing one.
Main exports:
  exists_first, perm_cons_filter, find?_key, find?_key_eq_some_iff, find?_modify_first
-/
import Mathlib.Data.List.Induction
import Mathlib.Data.List.Nodup

namespace Netplay

/-- Where not a whole list has a property, there is a first entry with which it fails. -/
theorem exists_first {α : Type} (holds : List α → Prop) (nothing : holds []) {list : List α}
    (fails : ¬ holds list) :
    ∃ earlier entry later, list = earlier ++ entry :: later ∧ holds earlier ∧
      ¬ holds (earlier ++ [entry]) := by
  induction list using List.reverseRecOn with
  | nil => exact absurd nothing fails
  | append_singleton rest last inductionHypothesis =>
      by_cases before : holds rest
      · exact ⟨rest, last, [], rfl, before, fails⟩
      · obtain ⟨earlier, entry, later, rfl, first⟩ := inductionHypothesis before
        exact ⟨earlier, entry, later ++ [last], by simp, first⟩

/-- Taking an entry of a list out and putting it in front. -/
theorem perm_cons_filter {α β : Type} [DecidableEq β] {key : α → β} {list : List α}
    (nodup : (list.map key).Nodup) {entry : α} (member : entry ∈ list) :
    (entry :: list.filter (key · ≠ key entry)).Perm list := by
  induction list with
  | nil => cases member
  | cons first rest inductionHypothesis =>
      obtain ⟨absent, restNodup⟩ := List.nodup_cons.mp nodup
      rcases List.mem_cons.mp member with rfl | inRest
      · have others : rest.filter (key · ≠ key entry) = rest := by
          apply List.filter_eq_self.mpr
          intro other otherMember
          simp only [ne_eq, decide_not, Bool.not_eq_eq_eq_not, Bool.not_true,
            decide_eq_false_iff_not]
          intro same
          exact absent (List.mem_map.mpr ⟨other, otherMember, same⟩)
        rw [List.filter_cons_of_neg (by simp), others]
      · have differs : key first ≠ key entry := fun same =>
          absent (List.mem_map.mpr ⟨entry, inRest, same.symm⟩)
        rw [List.filter_cons_of_pos (by simpa using differs)]
        exact (List.Perm.swap ..).trans ((inductionHypothesis restNodup inRest).cons _)

/-- Looking up by a key that no two entries share. -/
theorem find?_key {α β : Type} [DecidableEq β] {key : α → β} {list : List α}
    (nodup : (list.map key).Nodup) {entry : α} (member : entry ∈ list) :
    list.find? (key · = key entry) = some entry := by
  cases found : list.find? (key · = key entry) with
  | none =>
      have absent := List.find?_eq_none.mp found entry member
      simp at absent
  | some other =>
      have same : key other = key entry := by simpa using List.find?_some found
      rw [List.inj_on_of_nodup_map nodup (List.mem_of_find?_eq_some found) member same]

theorem find?_key_eq_some_iff {α β : Type} [DecidableEq β] {key : α → β} {list : List α}
    (nodup : (list.map key).Nodup) {wanted : β} {entry : α} :
    list.find? (key · = wanted) = some entry ↔ entry ∈ list ∧ key entry = wanted := by
  constructor
  · intro found
    exact ⟨List.mem_of_find?_eq_some found, by simpa using List.find?_some found⟩
  · rintro ⟨member, rfl⟩
    exact find?_key nodup member

/-- Looking up in a list of which the first entry that passes a test is
changed. -/
theorem find?_modify_first {α : Type} [DecidableEq α] {test search : α → Bool}
    {change : α → α} (keeps : ∀ entry, search (change entry) = search entry)
    (list : List α) :
    (list.modify (list.findIdx test) change).find? search =
      (list.find? search).map fun entry =>
        if list.find? test = some entry then change entry else entry := by
  induction list with
  | nil => rfl
  | cons first rest inductionHypothesis =>
      cases passes : test first with
      | true =>
          rw [List.findIdx_cons, passes, cond_true, List.modify_zero_cons,
            List.find?_cons_of_pos passes]
          cases wanted : search first with
          | true =>
              rw [List.find?_cons_of_pos ((keeps first).trans wanted),
                List.find?_cons_of_pos wanted, Option.map_some, if_pos rfl]
          | false =>
              rw [List.find?_cons_of_neg (by simp [keeps, wanted]),
                List.find?_cons_of_neg (by simp [wanted])]
              cases found : rest.find? search with
              | none => rfl
              | some other =>
                  -- The entry found passes a search that the first one does not.
                  have apart : some first ≠ some other := by
                    rintro same
                    rw [Option.some.inj same, List.find?_some found] at wanted
                    cases wanted
                  rw [Option.map_some, if_neg apart]
      | false =>
          have tested : (first :: rest).find? test = rest.find? test :=
            List.find?_cons_of_neg (by simp [passes])
          rw [List.findIdx_cons, passes, cond_false, List.modify_succ_cons, tested]
          cases wanted : search first with
          | true =>
              have apart : rest.find? test ≠ some first := fun found => by
                rw [List.find?_some found] at passes
                cases passes
              rw [List.find?_cons_of_pos wanted, List.find?_cons_of_pos wanted,
                Option.map_some, if_neg apart]
          | false =>
              have passed (tail : List α) :
                  (first :: tail).find? search = tail.find? search :=
                List.find?_cons_of_neg (by simp [wanted])
              rw [passed, passed, inductionHypothesis]

end Netplay
