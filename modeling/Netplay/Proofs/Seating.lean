/-
Module: Netplay.Proofs.Seating
Purpose: Who plays where: the members of a game, their player numbers and the
  queues that belong to them.
Main exports:
  Roster.person_update_other, Roster.person_update_self, Room.person_numberPlayers, Seat,
  ActionQueue.seat, Game.seats, Game.Seated
-/
import Netplay.Game.Play
import Netplay.Proofs.KeyedLists

namespace Netplay

/-! ## The roster -/

namespace Roster

variable {people : Roster} {id other : UserId} {change : User → User}

/-- The user found under a number has that number. -/
theorem id_of_find? {user : User} (found : people.find? id = some user) :
    user.id = id := by
  unfold find? at found
  split at found
  · rename_i present registered
    cases found
    simpa using List.find?_some registered
  · simpa using List.find?_some found

/-- Looking up among users that a change has gone over. -/
theorem find?_map_change (keeps : ∀ user, (change user).id = user.id)
    (users : List User) :
    (users.map fun user => if user.id = id then change user else user).find?
        (·.id = other) =
      (users.find? (·.id = other)).map fun user =>
        if user.id = id then change user else user := by
  rw [List.find?_map]
  congr 2
  funext user
  simp only [Function.comp_apply]
  split
  · rw [keeps]
  · rfl

/-- A change to one user is all that a look-up sees. -/
theorem find?_update (keeps : ∀ user, (change user).id = user.id) :
    (people.update id change).find? other =
      (people.find? other).map fun user =>
        if user.id = id then change user else user := by
  unfold update
  split
  · rename_i registered
    simp only [find?, registered?, find?_map_change keeps]
    cases place : people.present.find? (·.id = other) with
    | some user => rfl
    | none =>
        -- The user changed is registered, so it is not the one looked up here.
        have differs : other ≠ id := by
          rintro rfl
          rw [List.find?_eq_none] at place
          obtain ⟨user, member, same⟩ := List.any_eq_true.mp registered
          exact place user member same
        simp only [Option.map_none]
        cases gone : people.departed.find? (·.id = other) with
        | none => rfl
        | some user =>
            have number : user.id = other := by simpa using List.find?_some gone
            rw [Option.map_some, if_neg (number ▸ differs)]
  · rename_i unregistered
    simp only [find?, registered?]
    cases place : people.present.find? (·.id = other) with
    | none =>
        simp only
        rw [find?_modify_first fun user => by rw [keeps]]
        cases gone : people.departed.find? (·.id = other) with
        | none => rfl
        | some user =>
            have number : user.id = other := by simpa using List.find?_some gone
            rw [Option.map_some, Option.map_some]
            by_cases same : user.id = id
            · rw [if_pos same, ← same, number, if_pos gone]
            · rw [if_neg same, if_neg fun found => same (by simpa using List.find?_some found)]
    | some user =>
        have apart : user.id ≠ id := fun same =>
          unregistered (List.any_eq_true.mpr
            ⟨user, List.mem_of_find?_eq_some place, by simpa using same⟩)
        rw [Option.map_some, if_neg apart]

theorem isSome_find?_update (keeps : ∀ user, (change user).id = user.id) :
    ((people.update id change).find? other).isSome = (people.find? other).isSome := by
  rw [find?_update keeps, Option.isSome_map]

theorem person_update_other (keeps : ∀ user, (change user).id = user.id)
    (differs : other ≠ id) :
    (people.update id change).person other = people.person other := by
  unfold person
  rw [find?_update keeps]
  cases found : people.find? other with
  | none => rfl
  | some user =>
      rw [Option.map_some, if_neg (id_of_find? found ▸ differs)]

theorem person_update_self (keeps : ∀ user, (change user).id = user.id)
    (known : (people.find? id).isSome) :
    (people.update id change).person id = change (people.person id) := by
  unfold person
  rw [find?_update keeps]
  cases found : people.find? id with
  | none => rw [found] at known; cases known
  | some user =>
      rw [Option.map_some, if_pos (id_of_find? found)]
      rfl

/-- What a change keeps of every user it keeps of everybody. -/
theorem field_update {α : Type} (field : User → α)
    (keeps : ∀ user, (change user).id = user.id)
    (same : ∀ user, field (change user) = field user) :
    field ((people.update id change).person other) = field (people.person other) := by
  unfold person
  rw [find?_update keeps]
  cases people.find? other with
  | none => rfl
  | some user =>
      simp only [Option.map_some, Option.getD_some]
      split
      · exact same user
      · rfl

/-- The same for a change of several users, one after the other. -/
theorem field_foldl_update {α : Type} (field : User → α)
    (keeps : ∀ user, (change user).id = user.id)
    (same : ∀ user, field (change user) = field user) (ids : List UserId)
    (people : Roster) :
    field ((ids.foldl (fun people id => people.update id change) people).person other) =
      field (people.person other) := by
  induction ids generalizing people with
  | nil => rfl
  | cons first rest inductionHypothesis =>
      rw [List.foldl_cons, inductionHypothesis, field_update field keeps same]

end Roster

namespace Room

open Roster

variable {change : UInt8 → User → User}

/-- Numbering the players makes nobody unknown. -/
theorem isSome_numberPlayers (keeps : ∀ player user, (change player user).id = user.id)
    (people : Roster) (members : List UserId) (other : UserId) :
    ((numberPlayers people members change).find? other).isSome =
      (people.find? other).isSome := by
  unfold numberPlayers
  generalize members.zipIdx = numbered
  induction numbered generalizing people with
  | nil => rfl
  | cons first rest inductionHypothesis =>
      obtain ⟨id, index⟩ := first
      rw [List.foldl_cons, inductionHypothesis, isSome_find?_update (keeps _)]

/-- What numbering keeps of every user it keeps of everybody. -/
theorem field_numberPlayers {α : Type} (field : User → α)
    (keeps : ∀ player user, (change player user).id = user.id)
    (same : ∀ player user, field (change player user) = field user) (people : Roster)
    (members : List UserId) (other : UserId) :
    field ((numberPlayers people members change).person other) =
      field (people.person other) := by
  unfold numberPlayers
  generalize members.zipIdx = numbered
  induction numbered generalizing people with
  | nil => rfl
  | cons first rest inductionHypothesis =>
      obtain ⟨id, index⟩ := first
      rw [List.foldl_cons, inductionHypothesis, field_update field (keeps _) (same _)]

section Entries

variable (keeps : ∀ player user, (change player user).id = user.id)
include keeps

/-- Numbering others leaves a person alone. -/
theorem person_foldl_update_other {entries : List (UserId × Nat)} {id : UserId}
    (absent : id ∉ entries.map Prod.fst) (people : Roster) :
    (entries.foldl (fun people entry =>
      people.update entry.1 (change (UInt8.ofNat (entry.2 + 1)))) people).person id =
      people.person id := by
  induction entries generalizing people with
  | nil => rfl
  | cons head tail inductionHypothesis =>
      rw [List.map_cons, List.mem_cons, not_or] at absent
      rw [List.foldl_cons, inductionHypothesis absent.2]
      exact person_update_other (keeps _) absent.1

/-- In a row of numberings each person is changed under its own number. -/
theorem person_foldl_update {entries : List (UserId × Nat)} {id : UserId} {index : Nat}
    {people : Roster} (nodup : (entries.map Prod.fst).Nodup)
    (known : ∀ entry ∈ entries, (people.find? entry.1).isSome)
    (member : (id, index) ∈ entries) :
    (entries.foldl (fun people entry =>
      people.update entry.1 (change (UInt8.ofNat (entry.2 + 1)))) people).person id =
      change (UInt8.ofNat (index + 1)) (people.person id) := by
  induction entries generalizing people with
  | nil => cases member
  | cons head tail inductionHypothesis =>
      obtain ⟨absent, tailNodup⟩ := List.nodup_cons.mp nodup
      rw [List.foldl_cons]
      rcases List.mem_cons.mp member with rfl | inTail
      · rw [person_foldl_update_other keeps absent]
        exact person_update_self (keeps _) (known _ List.mem_cons_self)
      · have differs : id ≠ head.1 := fun same =>
          absent (same ▸ List.mem_map.mpr ⟨_, inTail, rfl⟩)
        rw [inductionHypothesis tailNodup ?_ inTail,
          person_update_other (keeps _) differs]
        intro entry entryMember
        rw [isSome_find?_update (keeps _)]
        exact known entry (List.mem_cons_of_mem head entryMember)

/-- Each player is changed under its own number. -/
theorem person_numberPlayers {people : Roster} {members : List UserId}
    (nodup : members.Nodup) (known : ∀ member ∈ members, (people.find? member).isSome)
    {index : Nat} {id : UserId} (place : members[index]? = some id) :
    (numberPlayers people members change).person id =
      change (UInt8.ofNat (index + 1)) (people.person id) := by
  apply person_foldl_update keeps
  · rwa [List.zipIdx_map_fst]
  · intro entry member
    apply known
    rw [← List.zipIdx_map_fst 0 members]
    exact List.mem_map.mpr ⟨entry, member, rfl⟩
  · exact List.mem_zipIdx_iff_getElem?.mpr place

end Entries

end Room

/-! ## The seats of a round -/

/-- What a queue keeps for the whole round. -/
structure Seat where
  user : UserId
  readers : Nat
  capacity : Nat

/-- The seat of the player that a queue belongs to. -/
def ActionQueue.seat (queue : ActionQueue) : Seat :=
  ⟨queue.user, queue.heads.length, queue.capacity⟩

/-- Where no two queues have one user, the queue of a user has one place. -/
theorem place_unique {queues : List ActionQueue} (own : (queues.map (·.user)).Nodup)
    {slot other : Nat} {queue another : ActionQueue}
    (place : queues[slot]? = some queue) (otherPlace : queues[other]? = some another)
    (same : queue.user = another.user) : slot = other := by
  have users : ∀ {slot : Nat} {queue : ActionQueue}, queues[slot]? = some queue →
      (queues.map (·.user))[slot]? = some queue.user := by
    intro slot queue place
    rw [List.getElem?_map, place]
    rfl
  have first := users place
  have second := users otherPlace
  rw [← same] at second
  obtain ⟨inside, -⟩ := List.getElem?_eq_some_iff.mp first
  exact (List.getElem?_inj inside own).mp (first.trans second.symm)

section Fields

variable {α : Type} {field : ActionQueue → α}

/-- Queues that agree on something place by place agree on it altogether. -/
theorem fields_eq {before after : List ActionQueue} (length : after.length = before.length)
    (each : ∀ (slot : Nat) (later : ActionQueue), after[slot]? = some later →
      ∃ queue, before[slot]? = some queue ∧ field later = field queue) :
    after.map field = before.map field := by
  apply List.ext_getElem?
  intro slot
  rw [List.getElem?_map, List.getElem?_map]
  cases place : after[slot]? with
  | none =>
      rw [List.getElem?_eq_none_iff, length, ← List.getElem?_eq_none_iff] at place
      rw [place]
  | some later =>
      obtain ⟨queue, before, same⟩ := each slot later place
      rw [before, Option.map_some, Option.map_some, same]

/-- A change that keeps something of a queue keeps it of all of them. -/
theorem fields_modify {change : ActionQueue → ActionQueue}
    (keeps : ∀ queue, field (change queue) = field queue) (queues : List ActionQueue)
    (slot : Nat) : (queues.modify slot change).map field = queues.map field := by
  apply fields_eq (List.length_modify ..)
  intro other later place
  rw [List.getElem?_modify] at place
  obtain ⟨queue, before, rfl⟩ := Option.map_eq_some_iff.mp place
  refine ⟨queue, before, ?_⟩
  split
  · exact keeps queue
  · rfl

theorem fields_set {queues : List ActionQueue} {slot : Nat} {queue later : ActionQueue}
    (place : queues[slot]? = some queue) (keeps : field later = field queue) :
    (queues.set slot later).map field = queues.map field := by
  apply fields_eq (List.length_set ..)
  intro other target targetPlace
  rw [List.getElem?_set] at targetPlace
  split at targetPlace
  · rename_i same
    subst same
    split at targetPlace
    · cases targetPlace
      exact ⟨queue, place, keeps⟩
    · cases targetPlace
  · exact ⟨target, targetPlace, rfl⟩

end Fields

namespace Game

/-- The seats of the current round, in order of player numbers. -/
def seats (game : Game) : List Seat := game.queues.map (·.seat)

theorem length_seats (game : Game) : game.seats.length = game.queues.length :=
  List.length_map ..

/-- The members are known and few enough to be numbered, and while a round is
on each of them has a seat under its player number. -/
structure Seated (game : Game) (people : Roster) : Prop where
  nodup : game.members.Nodup
  few : game.members.length ≤ game.settings.maxPlayers.toNat
  known : ∀ member ∈ game.members, (people.find? member).isSome
  waits : game.status = .waiting → game.seats = []
  empty : game.status ≠ .waiting → game.seats = [] → game.members = []
  own : (game.seats.map (·.user)).Nodup
  desk : ∀ seat ∈ game.seats, seat.readers = game.seats.length ∧
    seat.capacity = max game.settings.bufferSize 1 * game.seats.length
  sits : game.seats ≠ [] → ∀ member ∈ game.members, ∃ slot seat,
    game.seats[slot]? = some seat ∧ seat.user = member ∧
      (people.person member).player.toNat = slot + 1

namespace Seated

variable {game after : Game} {people later : Roster}

/-- A member finds its own queue under its number. -/
theorem slotFor? (seated : game.Seated people) {member : UserId}
    (isMember : member ∈ game.members) (on : game.queues ≠ []) :
    ∃ slot queue, game.slotFor? (people.person member) = some slot ∧
      game.queues[slot]? = some queue ∧ queue.user = member ∧
      (people.person member).player.toNat = slot + 1 := by
  have some : game.seats ≠ [] := fun none => on (List.map_eq_nil_iff.mp none)
  obtain ⟨slot, seat, place, user, number⟩ := seated.sits some member isMember
  rw [seats, List.getElem?_map] at place
  obtain ⟨queue, queuePlace, rfl⟩ := Option.map_eq_some_iff.mp place
  have inside := (List.getElem?_eq_some_iff.mp queuePlace).1
  refine ⟨slot, queue, ?_, queuePlace, user, number⟩
  have positive : (people.person member).player ≠ 0 := by
    intro zero
    rw [zero] at number
    cases number
  rw [Game.slotFor?, if_neg (by rw [not_or]; exact ⟨positive, by omega⟩), number]
  rfl

/-- Play goes on in the same seats. -/
theorem of_seats (seated : game.Seated people) (seats : after.seats = game.seats)
    (members : after.members = game.members) (settings : after.settings = game.settings)
    (status : after.status = .waiting ↔ game.status = .waiting) :
    after.Seated people where
  nodup := members ▸ seated.nodup
  few := by rw [members, settings]; exact seated.few
  known := members ▸ seated.known
  waits := fun waiting => seats.trans (seated.waits (status.mp waiting))
  empty := fun on none => members.trans
    (seated.empty (fun waiting => on (status.mpr waiting)) (seats.symm.trans none))
  own := seats ▸ seated.own
  desk := by rw [seats, settings]; exact seated.desk
  sits := by rw [seats, members]; exact seated.sits

/-- Some members stay, under their numbers. -/
theorem stay (seated : game.Seated people) {members : List UserId}
    (sublist : members.Sublist game.members)
    (known : ∀ member ∈ members, (later.find? member).isSome)
    (numbers : ∀ member ∈ members,
      (later.person member).player = (people.person member).player) :
    Seated { game with members := members } later where
  nodup := sublist.nodup seated.nodup
  few := Nat.le_trans sublist.length_le seated.few
  known := known
  waits := seated.waits
  empty := fun on none => by
    have nobody := seated.empty on none
    rw [nobody] at sublist
    exact List.sublist_nil.mp sublist
  own := seated.own
  desk := seated.desk
  sits := fun on member isMember => by
    obtain ⟨slot, seat, place, user, number⟩ :=
      seated.sits on member (sublist.subset isMember)
    exact ⟨slot, seat, place, user, numbers member isMember ▸ number⟩

end Seated

end Game

end Netplay
