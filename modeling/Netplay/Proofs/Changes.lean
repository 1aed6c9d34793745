/-
Module: Netplay.Proofs.Changes
Purpose: Changes to the entries of a few users: those of different users can be made in
  either order, and concern nobody else.
Main exports:
  Roster.Change, Roster.amend, Roster.amend_comm, Roster.Spares.amend, Roster.amend_frame,
  Roster.Alike, Roster.Alike.amend, Roster.Alike.of_amend
-/
import Netplay.Proofs.Attendance

namespace Netplay

/-- Changes to the first entry that passes one test and to the first that passes another
do not get in each other's way where no entry passes both. -/
theorem modify_findIdx_comm {α : Type} {test search : α → Bool} {change other : α → α}
    (apart : ∀ entry, test entry = true → search entry = false)
    (keeps : ∀ entry, search (change entry) = search entry)
    (keepsOther : ∀ entry, test (other entry) = test entry) (list : List α) :
    (list.modify (list.findIdx test) change).modify
        ((list.modify (list.findIdx test) change).findIdx search) other =
      (list.modify (list.findIdx search) other).modify
        ((list.modify (list.findIdx search) other).findIdx test) change := by
  induction list with
  | nil => rfl
  | cons first rest inductionHypothesis =>
      cases passes : test first with
      | true =>
          have fails := apart first passes
          simp only [List.findIdx_cons, passes, fails, keeps, cond_true, cond_false,
            List.modify_zero_cons, List.modify_succ_cons]
      | false =>
          cases wanted : search first with
          | true =>
              simp only [List.findIdx_cons, passes, wanted, keepsOther, cond_true, cond_false,
                List.modify_zero_cons, List.modify_succ_cons]
          | false =>
              simp only [List.findIdx_cons, passes, wanted, cond_false, List.modify_succ_cons,
                inductionHypothesis]

/-! ## Changes to a roster -/

/-- A change to the entry of one user, which keeps its number. -/
structure Roster.Change where
  user : UserId
  make : User → User
  keeps : ∀ entry, (make entry).id = entry.id

namespace Roster

variable {people later : Roster} {ids : List UserId} {id other : UserId}
  {change another : User → User} {changes one two : List Change}

/-- The roster after some changes, one after the other. -/
def amend (people : Roster) (changes : List Change) : Roster :=
  changes.foldl (fun people change => people.update change.user change.make) people

theorem amend_append (people : Roster) (one two : List Change) :
    people.amend (one ++ two) = (people.amend one).amend two :=
  List.foldl_append ..

/-- A change registers nobody and lets nobody go. -/
theorem any_update (keeps : ∀ entry, (change entry).id = entry.id) :
    (people.update id change).present.any (·.id = other) =
      people.present.any (·.id = other) := by
  unfold update
  split
  · rw [List.any_map]
    refine congrArg (people.present.any ·) (funext fun user => ?_)
    simp only [Function.comp_apply]
    split
    · rw [keeps]
    · rfl
  · rfl

/-- Changes to two users can be made in either order. -/
theorem update_comm (keeps : ∀ entry, (change entry).id = entry.id)
    (keepsOther : ∀ entry, (another entry).id = entry.id) (apart : id ≠ other) :
    (people.update id change).update other another =
      (people.update other another).update id change := by
  have registered := @any_update people id other change keeps
  have registeredOther := @any_update people other id another keepsOther
  rw [update.eq_def (people.update id change), update.eq_def (people.update other another),
    registered, registeredOther]
  unfold update
  by_cases here : people.present.any (·.id = id) = true
  · by_cases there : people.present.any (·.id = other) = true
    · simp only [here, there, if_true, List.map_map]
      congr 1
      refine List.map_congr_left fun user _ => ?_
      simp only [Function.comp_apply]
      by_cases first : user.id = id
      · have second : user.id ≠ other := first ▸ apart
        rw [if_pos first, if_neg second, if_neg (by rw [keeps]; exact second), if_pos first]
      · by_cases second : user.id = other
        · rw [if_neg first, if_pos second, if_neg (by rw [keepsOther]; exact first)]
        · rw [if_neg first, if_neg second, if_neg first]
    · simp only [here, there, if_true, Bool.false_eq_true, if_false]
  · by_cases there : people.present.any (·.id = other) = true
    · simp only [here, there, if_true, Bool.false_eq_true, if_false]
    · simp only [here, there, Bool.false_eq_true, if_false]
      congr 1
      refine modify_findIdx_comm (fun entry first => ?_) (fun entry => ?_) (fun entry => ?_) _
      · exact decide_eq_false fun second => apart ((of_decide_eq_true first).symm.trans second)
      · rw [keeps]
      · rw [keepsOther]

/-- Changes to some users and to others can be made in either order. -/
theorem amend_comm (apart : ∀ first ∈ one, ∀ second ∈ two, first.user ≠ second.user)
    (people : Roster) : (people.amend one).amend two = (people.amend two).amend one := by
  have single (first : Change) (rest : List Change)
      (apart : ∀ second ∈ rest, first.user ≠ second.user) (people : Roster) :
      (people.update first.user first.make).amend rest =
        (people.amend rest).update first.user first.make := by
    induction rest generalizing people with
    | nil => rfl
    | cons second rest inductionHypothesis =>
        have here := apart second List.mem_cons_self
        have swapped : (people.update first.user first.make).update second.user second.make =
            (people.update second.user second.make).update first.user first.make :=
          update_comm first.keeps second.keeps here
        rw [amend, List.foldl_cons, swapped]
        exact inductionHypothesis
          (fun other member => apart other (List.mem_cons_of_mem _ member)) _
  induction one generalizing people with
  | nil => rfl
  | cons first rest inductionHypothesis =>
      have others := inductionHypothesis fun other member =>
        apart other (List.mem_cons_of_mem _ member)
      calc ((people.update first.user first.make).amend rest).amend two
        _ = ((people.update first.user first.make).amend two).amend rest := others _
        _ = ((people.amend two).update first.user first.make).amend rest := by
            rw [single first two (apart first List.mem_cons_self)]

/-- Changes concern nobody else. -/
theorem Spares.amend (among : ∀ change ∈ changes, change.user ∈ ids) (people : Roster) :
    people.Spares (people.amend changes) ids :=
  .foldl_update Change.user Change.make Change.keeps among people

/-- A change to a registered user leaves those who have left alone, and the entries of all
others in their places. -/
theorem update_frame (keeps : ∀ entry, (change entry).id = entry.id)
    (registered : people.present.any (·.id = id) = true) (among : id ∈ ids) :
    (people.update id change).departed = people.departed ∧
      (people.update id change).present.filter (·.id ∉ ids) =
        people.present.filter (·.id ∉ ids) := by
  rw [update, if_pos registered]
  refine ⟨rfl, ?_⟩
  simp only
  induction people.present with
  | nil => rfl
  | cons entry rest inductionHypothesis =>
      rw [List.map_cons, List.filter_cons, List.filter_cons, inductionHypothesis]
      by_cases own : entry.id = id
      · simp [own, keeps, among]
      · rw [if_neg own]

/-- So do changes to several. -/
theorem amend_frame
    (registered : ∀ change ∈ changes, people.present.any (·.id = change.user) = true)
    (among : ∀ change ∈ changes, change.user ∈ ids) :
    (people.amend changes).departed = people.departed ∧
      (people.amend changes).present.filter (·.id ∉ ids) =
        people.present.filter (·.id ∉ ids) := by
  induction changes generalizing people with
  | nil => exact ⟨rfl, rfl⟩
  | cons first rest inductionHypothesis =>
      have here := update_frame first.keeps (registered first List.mem_cons_self)
        (among first List.mem_cons_self)
      have others := @inductionHypothesis (people.update first.user first.make)
        (fun change isRest => (any_update first.keeps).trans
          (registered change (List.mem_cons_of_mem _ isRest)))
        fun change isRest => among change (List.mem_cons_of_mem _ isRest)
      exact ⟨others.1.trans here.1, others.2.trans here.2⟩

/-! ## Rosters that agree -/

/-- Some users have the same entries. -/
def Alike (people later : Roster) (ids : List UserId) : Prop :=
  ∀ id ∈ ids, later.find? id = people.find? id

namespace Alike

theorem refl (people : Roster) (ids : List UserId) : people.Alike people ids := fun _ _ => rfl

theorem mono (alike : people.Alike later ids) {fewer : List UserId} (within : fewer ⊆ ids) :
    people.Alike later fewer :=
  fun id member => alike id (within member)

theorem person (alike : people.Alike later ids) (member : id ∈ ids) :
    later.person id = people.person id := by
  rw [Roster.person, alike id member, Roster.person]

/-- The same change leaves them the same. -/
theorem update (alike : people.Alike later ids) (keeps : ∀ entry, (change entry).id = entry.id) :
    (people.update id change).Alike (later.update id change) ids := by
  intro other member
  rw [find?_update keeps, find?_update keeps, alike other member]

theorem amend (alike : people.Alike later ids) (changes : List Change) :
    (people.amend changes).Alike (later.amend changes) ids := by
  induction changes generalizing people later with
  | nil => exact alike
  | cons first rest inductionHypothesis => exact inductionHypothesis (alike.update first.keeps)

/-- Changes to others do, too. -/
theorem of_amend (among : ∀ change ∈ changes, change.user ∉ ids) (people : Roster) :
    people.Alike (people.amend changes) ids := by
  intro id member
  have spares := @Spares.amend (changes.map Change.user) changes
    (fun change isOne => List.mem_map.mpr ⟨change, isOne, rfl⟩) people
  refine spares id fun concerned => ?_
  obtain ⟨change, isOne, rfl⟩ := List.mem_map.mp concerned
  exact among change isOne member

end Alike

end Roster

end Netplay
