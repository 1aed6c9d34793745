/-
Module: Netplay.Proofs.Census
Purpose: Who is where: the entries of users and games that tell the members of
  each game, and the operations on them that keep the two in agreement.
Main exports:
  Guest, Party, Census, Census.Coherent, Census.Traced, Census.Within,
  Census.enter, Census.exit, Census.disband, Census.Coherent.enter,
  Census.Coherent.exit, Census.Coherent.disband
-/
import Mathlib.Data.List.Nodup
import Netplay.User

namespace Netplay

/-!
Where a user is stands in two places: the user's entry names its game, and the
game's entry lists its members.  Every operation of the lobby that moves users
has to change both.  Here the two are taken out of users and games, so that
each such operation is one short operation on entries.
-/

/-- The entry of a registered user. -/
structure Guest where
  id : UserId
  loggedIn : Bool
  game : Option GameId

/-- The entry of a live game. -/
structure Party where
  id : GameId
  owner : UserId
  /-- The members in the order they joined. -/
  members : List UserId
  kicked : List UserId
  /-- The most members there may be. -/
  places : Nat

/-- The entries of all registered users and live games. -/
structure Census where
  guests : List Guest
  parties : List Party

/-- A game's own entry is in order: its members came once each, the owner
first, and they are not too many and none of those sent away.  A game without
room for anybody has no members. -/
structure Party.InOrder (party : Party) : Prop where
  once : party.members.Nodup
  led : 0 < party.places → party.members.head? = some party.owner
  room : party.members.length ≤ party.places
  fair : ∀ member ∈ party.members, member ∉ party.kicked

/-- Numbers that are given once each; zero is not given. -/
structure Distinct {α : Type} [OfNat α 0] (numbers : List α) : Prop where
  nodup : numbers.Nodup
  positive : (0 : α) ∉ numbers

namespace Distinct

variable {α : Type} [OfNat α 0] {numbers fewer : List α}

theorem sublist (distinct : Distinct numbers) (sublist : fewer.Sublist numbers) :
    Distinct fewer :=
  ⟨sublist.nodup distinct.nodup, fun zero => distinct.positive (sublist.subset zero)⟩

/-- One more number is given. -/
theorem concat (distinct : Distinct numbers) {number : α} (fresh : number ∉ numbers)
    (positive : number ≠ 0) : Distinct (numbers ++ [number]) where
  nodup := by
    refine List.nodup_append.mpr ⟨distinct.nodup, List.nodup_singleton _, ?_⟩
    intro old member new isNumber same
    rw [List.mem_singleton] at isNumber
    exact fresh (isNumber ▸ same ▸ member)
  positive := by
    rw [List.mem_append, List.mem_singleton]
    rintro (zero | zero)
    · exact distinct.positive zero
    · exact positive zero.symm

end Distinct

namespace Census

/-- The members of every game are users that are logged in and whose entries
name it. -/
structure Coherent (census : Census) : Prop where
  ids : Distinct (census.guests.map (·.id))
  numbers : Distinct (census.parties.map (·.id))
  seats : ∀ party ∈ census.parties, ∀ member ∈ party.members,
    ∃ guest ∈ census.guests, guest.id = member ∧ guest.loggedIn = true ∧
      guest.game = some party.id
  parties : ∀ party ∈ census.parties, party.InOrder

/-- Every entry that names a game leads to a game that lists the user. -/
def Traced (census : Census) : Prop :=
  ∀ guest ∈ census.guests, ∀ number, guest.game = some number →
    ∃ party ∈ census.parties, party.id = number ∧ guest.id ∈ party.members

/-- There are not too many users and games, and each game has room for as many
members as the house allows. -/
structure Within (users games places : Nat) (census : Census) : Prop where
  users : census.guests.length ≤ users
  games : 0 < games → census.parties.length ≤ games
  places : ∀ party ∈ census.parties, party.places = places

variable {census after : Census} {guest : Guest} {party other : Party} {id : UserId}

/-- Nobody comes and no game is created. -/
theorem Within.of_le {users games places : Nat} (within : census.Within users games places)
    (guests : after.guests.length ≤ census.guests.length)
    (parties : after.parties.length ≤ census.parties.length)
    (same : ∀ party ∈ after.parties, ∃ before ∈ census.parties,
      party.places = before.places) : after.Within users games places where
  users := Nat.le_trans guests within.users
  games := fun limited => Nat.le_trans parties (within.games limited)
  places := fun party member => by
    obtain ⟨before, old, equal⟩ := same party member
    exact equal.trans (within.places before old)

namespace Coherent

/-- One number, one user. -/
theorem guest_unique (coherent : census.Coherent) {other : Guest}
    (member : guest ∈ census.guests) (otherMember : other ∈ census.guests)
    (same : guest.id = other.id) : guest = other :=
  List.inj_on_of_nodup_map coherent.ids.nodup member otherMember same

/-- One number, one game. -/
theorem party_unique (coherent : census.Coherent) (member : party ∈ census.parties)
    (otherMember : other ∈ census.parties) (same : party.id = other.id) :
    party = other :=
  List.inj_on_of_nodup_map coherent.numbers.nodup member otherMember same

/-- The entry of a member names its game. -/
theorem place (coherent : census.Coherent) (known : guest ∈ census.guests)
    (member : party ∈ census.parties) (here : guest.id ∈ party.members) :
    guest.game = some party.id := by
  obtain ⟨other, otherKnown, same, -, place⟩ :=
    coherent.seats party member guest.id here
  exact coherent.guest_unique otherKnown known same ▸ place

/-- Nobody is a member of two games. -/
theorem lone (coherent : census.Coherent) (member : party ∈ census.parties)
    (otherMember : other ∈ census.parties) (here : id ∈ party.members)
    (there : id ∈ other.members) : party = other := by
  obtain ⟨guest, known, rfl, -, place⟩ := coherent.seats party member id here
  have placeOther := coherent.place known otherMember there
  exact coherent.party_unique member otherMember
    (Option.some.inj (place.symm.trans placeOther))

/-- A user whose entry names no game is a member of none. -/
theorem nowhere (coherent : census.Coherent) (known : guest ∈ census.guests)
    (free : guest.game = none) : ∀ party ∈ census.parties, guest.id ∉ party.members := by
  intro party member here
  have place := coherent.place known member here
  rw [free] at place
  cases place

end Coherent

/-! ## Operations on entries -/

/-- Change the entry of one user. -/
def mark (census : Census) (id : UserId) (change : Guest → Guest) : Census :=
  { census with
    guests := census.guests.map fun guest => if guest.id = id then change guest else guest }

/-- Put another entry in the place of a game's. -/
def amend (census : Census) (party : Party) : Census :=
  { census with
    parties := census.parties.map fun other => if other.id = party.id then party else other }

/-- A user is registered. -/
def arrive (census : Census) (id : UserId) : Census :=
  { census with guests := census.guests ++ [⟨id, false, none⟩] }

/-- A user is registered no more. -/
def depart (census : Census) (id : UserId) : Census :=
  { census with guests := census.guests.filter (·.id ≠ id) }

/-- A user's login is complete. -/
def logIn (census : Census) (id : UserId) : Census :=
  census.mark id ({ · with loggedIn := true })

/-- A user's entry names another game, or none. -/
def move (census : Census) (id : UserId) (number : Option GameId) : Census :=
  census.mark id ({ · with game := number })

/-- A game is created, without members.  It takes the place of an earlier one
under its number. -/
def add (census : Census) (party : Party) : Census :=
  { census with parties := census.parties.filter (·.id ≠ party.id) ++ [party] }

/-- A user creates a game and is its first member. -/
def found (census : Census) (id : UserId) (party : Party) : Census :=
  { census.add party with guests := (census.move id (some party.id)).guests }

/-- A user becomes a member of a game. -/
def enter (census : Census) (id : UserId) (party : Party) : Census :=
  (census.move id (some party.id)).amend { party with members := party.members ++ [id] }

/-- A user leaves a game, which may keep it out from now on. -/
def exit (census : Census) (id : UserId) (party : Party) (kicked : List UserId) : Census :=
  (census.move id none).amend
    { party with members := party.members.filter (· ≠ id), kicked := kicked }

/-- A game is closed, and its members are in none. -/
def disband (census : Census) (party : Party) : Census where
  guests := census.guests.map fun guest =>
    if guest.id ∈ party.members then { guest with game := none } else guest
  parties := census.parties.filter (·.id ≠ party.id)

/-! ## Their entries -/

theorem mem_mark {change : Guest → Guest} :
    guest ∈ (census.mark id change).guests ↔
      ∃ before ∈ census.guests,
        (if before.id = id then change before else before) = guest :=
  List.mem_map

theorem ids_mark {change : Guest → Guest}
    (keeps : ∀ guest, (change guest).id = guest.id) :
    (census.mark id change).guests.map (·.id) = census.guests.map (·.id) := by
  rw [mark, List.map_map]
  apply List.map_congr_left
  intro guest _
  simp only [Function.comp_apply]
  split
  · exact keeps guest
  · rfl

theorem numbers_amend (census : Census) (party : Party) :
    (census.amend party).parties.map (·.id) = census.parties.map (·.id) := by
  rw [amend, List.map_map]
  apply List.map_congr_left
  intro other _
  simp only [Function.comp_apply]
  split
  · rename_i same
    exact same.symm
  · rfl

theorem ids_logIn (census : Census) (id : UserId) :
    (census.logIn id).guests.map (·.id) = census.guests.map (·.id) :=
  ids_mark fun _ => rfl

theorem ids_move (census : Census) (id : UserId) (number : Option GameId) :
    (census.move id number).guests.map (·.id) = census.guests.map (·.id) :=
  ids_mark fun _ => rfl

/-- The games after one entry is replaced. -/
theorem mem_amend (member : party ∈ census.parties) {entry : Party}
    (same : entry.id = party.id) :
    other ∈ (census.amend entry).parties ↔
      other = entry ∨ other ∈ census.parties ∧ other.id ≠ party.id := by
  rw [amend, List.mem_map]
  constructor
  · rintro ⟨before, beforeMember, rfl⟩
    split
    · exact .inl rfl
    · rename_i differs
      exact .inr ⟨beforeMember, same ▸ differs⟩
  · rintro (rfl | ⟨otherMember, differs⟩)
    · exact ⟨party, member, if_pos same.symm⟩
    · exact ⟨other, otherMember, if_neg (same ▸ differs)⟩

theorem mem_enter (member : party ∈ census.parties) :
    other ∈ (census.enter id party).parties ↔
      other = { party with members := party.members ++ [id] } ∨
        other ∈ census.parties ∧ other.id ≠ party.id :=
  @mem_amend (census.move id (some party.id)) party other member _ rfl

theorem mem_exit {kicked : List UserId} (member : party ∈ census.parties) :
    other ∈ (census.exit id party kicked).parties ↔
      other = { party with members := party.members.filter (· ≠ id), kicked := kicked } ∨
        other ∈ census.parties ∧ other.id ≠ party.id :=
  @mem_amend (census.move id none) party other member _ rfl

/-- Replacing the entry of a game by itself changes nothing. -/
theorem amend_self (same : ∀ other ∈ census.parties, other.id = party.id → other = party) :
    census.amend party = census := by
  have parties : census.parties.map (fun other =>
      if other.id = party.id then party else other) = census.parties := by
    refine (List.map_congr_left fun other member => ?_).trans (List.map_id _)
    split
    · rename_i number
      exact (same other member number).symm
    · rfl
  rw [amend, parties]

/-- A user that moves is found where it moves to. -/
theorem seat_mover {number : GameId} (known : guest ∈ census.guests)
    (flag : guest.loggedIn = true) :
    ∃ after ∈ (census.move guest.id (some number)).guests,
      after.id = guest.id ∧ after.loggedIn = true ∧ after.game = some number :=
  ⟨_, mem_mark.mpr ⟨guest, known, if_pos rfl⟩, rfl, flag, rfl⟩

/-- The owner stays in front when another member leaves. -/
theorem head?_filter_ne {members : List UserId} {owner : UserId}
    (led : members.head? = some owner) (differs : id ≠ owner) :
    (members.filter (· ≠ id)).head? = some owner := by
  cases members with
  | nil => cases led
  | cons first rest =>
      obtain rfl : first = owner := Option.some.inj led
      have stays : decide (first ≠ id) = true := decide_eq_true differs.symm
      rw [List.filter_cons, if_pos stays]
      rfl

/-! ## One operation after the other -/

/-- Closing a game that a member has just left is closing it. -/
theorem disband_exit (member : id ∈ party.members) (kicked : List UserId) :
    (census.exit id party kicked).disband
        { party with members := party.members.filter (· ≠ id), kicked := kicked } =
      census.disband party := by
  have guests : (census.exit id party kicked).guests.map (fun guest =>
        if guest.id ∈ party.members.filter (· ≠ id) then { guest with game := none }
        else guest) =
      census.guests.map fun guest =>
        if guest.id ∈ party.members then { guest with game := none } else guest := by
    unfold exit amend move mark
    rw [List.map_map]
    refine List.map_congr_left fun guest _ => ?_
    simp only [Function.comp_apply]
    by_cases itself : guest.id = id
    · subst itself
      simp [member]
    · simp [itself]
  have parties : (census.exit id party kicked).parties.filter (·.id ≠ party.id) =
      census.parties.filter (·.id ≠ party.id) := by
    unfold exit amend move mark
    have search : (fun other : Party => decide (other.id ≠ party.id)) ∘ (fun other =>
        if other.id = party.id then
          { party with members := party.members.filter (· ≠ id), kicked := kicked }
        else other) = fun other => decide (other.id ≠ party.id) := by
      funext other
      simp only [Function.comp_apply]
      split
      · rename_i same
        rw [same]
      · rfl
    rw [List.filter_map, search]
    refine (List.map_congr_left fun other member => ?_).trans (List.map_id _)
    exact if_neg (of_decide_eq_true (List.mem_filter.mp member).2)
  unfold disband
  rw [guests, parties]

/-- Joining a game that has just been created is founding it. -/
theorem enter_add (census : Census) (party : Party) (id : UserId) :
    (census.add party).enter id party =
      census.found id { party with members := party.members ++ [id] } := by
  have others : (census.parties.filter (·.id ≠ party.id)).map (fun other =>
      if other.id = party.id then { party with members := party.members ++ [id] }
      else other) = census.parties.filter (·.id ≠ party.id) := by
    refine (List.map_congr_left fun other member => ?_).trans (List.map_id _)
    exact if_neg (of_decide_eq_true (List.mem_filter.mp member).2)
  unfold enter amend found add move mark
  simp only [List.map_append, List.map_cons, List.map_nil, if_true, others]

/-- Whoever leaves the relay may do so before or after another entry changes. -/
theorem mark_depart {change : Guest → Guest} (keeps : ∀ guest, (change guest).id = guest.id)
    (census : Census) (user id : UserId) :
    (census.depart user).mark id change = (census.mark id change).depart user := by
  have search : (fun guest : Guest => decide (guest.id ≠ user)) ∘ (fun guest =>
      if guest.id = id then change guest else guest) =
        fun guest => decide (guest.id ≠ user) := by
    funext guest
    simp only [Function.comp_apply]
    split
    · rw [keeps]
    · rfl
  unfold depart mark
  simp only
  rw [List.filter_map, search]

theorem exit_depart (census : Census) (user id : UserId) (party : Party)
    (kicked : List UserId) :
    (census.depart user).exit id party kicked = (census.exit id party kicked).depart user := by
  have moves := @mark_depart ({ · with game := none }) (fun _ => rfl) census user id
  unfold exit move
  rw [moves]
  rfl

theorem disband_depart (census : Census) (user : UserId) (party : Party) :
    (census.depart user).disband party = (census.disband party).depart user := by
  have search : (fun guest : Guest => decide (guest.id ≠ user)) ∘ (fun guest =>
      if guest.id ∈ party.members then { guest with game := none } else guest) =
        fun guest => decide (guest.id ≠ user) := by
    funext guest
    simp only [Function.comp_apply]
    split
    · rfl
    · rfl
  unfold depart disband
  simp only
  rw [List.filter_map, search]

/-- Barring a member that then leaves is making it leave and keeping it out. -/
theorem exit_amend (census : Census) (id : UserId) (party : Party) (kicked : List UserId) :
    (census.amend { party with kicked := kicked }).exit id { party with kicked := kicked }
        kicked =
      census.exit id party kicked := by
  unfold exit amend move mark
  simp only [List.map_map]
  congr 1
  refine List.map_congr_left fun other _ => ?_
  simp only [Function.comp_apply]
  by_cases same : other.id = party.id
  · simp [same]
  · simp [same]

/-! ## What they keep -/

/-- The games after one is created. -/
theorem mem_add : other ∈ (census.add party).parties ↔
    other ∈ census.parties ∧ other.id ≠ party.id ∨ other = party := by
  rw [add, List.mem_append, List.mem_filter, List.mem_singleton, decide_eq_true_iff]

namespace Coherent

variable (coherent : census.Coherent)
include coherent

/-- A new user is in no game. -/
theorem arrive (fresh : id ∉ census.guests.map (·.id)) (positive : id ≠ 0) :
    (census.arrive id).Coherent where
  ids := by
    rw [Census.arrive, List.map_append]
    exact coherent.ids.concat fresh positive
  numbers := coherent.numbers
  seats := fun party member user here => by
    obtain ⟨guest, known, found⟩ := coherent.seats party member user here
    exact ⟨guest, List.mem_append_left _ known, found⟩
  parties := coherent.parties

/-- A user that is in no game may go. -/
theorem depart (free : ∀ party ∈ census.parties, id ∉ party.members) :
    (census.depart id).Coherent where
  ids := coherent.ids.sublist (List.filter_sublist.map _)
  numbers := coherent.numbers
  seats := fun party member user here => by
    obtain ⟨guest, known, rfl, found⟩ := coherent.seats party member user here
    refine ⟨guest, List.mem_filter.mpr ⟨known, ?_⟩, rfl, found⟩
    exact decide_eq_true fun same => free party member (same ▸ here)
  parties := coherent.parties

/-- A login moves nobody. -/
theorem logIn (id : UserId) : (census.logIn id).Coherent where
  ids := (ids_logIn census id).symm ▸ coherent.ids
  numbers := coherent.numbers
  seats := fun party member user here => by
    obtain ⟨guest, known, rfl, flag, place⟩ := coherent.seats party member user here
    by_cases itself : guest.id = id
    · exact ⟨_, mem_mark.mpr ⟨guest, known, if_pos itself⟩, rfl, rfl, place⟩
    · exact ⟨_, mem_mark.mpr ⟨guest, known, if_neg itself⟩, rfl, flag, place⟩
  parties := coherent.parties

/-- Whoever does not move stays where it is. -/
theorem seats_move {number : Option GameId} (member : party ∈ census.parties)
    (here : id ∈ party.members) {user : UserId} (another : id ≠ user) :
    ∃ guest ∈ (census.move user number).guests,
      guest.id = id ∧ guest.loggedIn = true ∧ guest.game = some party.id := by
  obtain ⟨guest, known, rfl, found⟩ := coherent.seats party member id here
  exact ⟨_, mem_mark.mpr ⟨guest, known, if_neg another⟩, rfl, found⟩

/-- No two games have one number after one is created. -/
theorem numbers_add (positive : party.id ≠ 0) :
    Distinct ((census.add party).parties.map (·.id)) := by
  have others := coherent.numbers.sublist
    ((List.filter_sublist : (census.parties.filter (·.id ≠ party.id)).Sublist _).map (·.id))
  rw [Census.add, List.map_append]
  refine others.concat ?_ positive
  intro taken
  obtain ⟨other, member, same⟩ := List.mem_map.mp taken
  exact of_decide_eq_true (List.mem_filter.mp member).2 same

/-- A game without members is created. -/
theorem add (positive : party.id ≠ 0) (nobody : party.members = [])
    (inOrder : party.InOrder) : (census.add party).Coherent where
  ids := coherent.ids
  numbers := coherent.numbers_add positive
  seats := fun other member user here => by
    rcases mem_add.mp member with ⟨old, -⟩ | rfl
    · exact coherent.seats other old user here
    · rw [nobody] at here
      cases here
  parties := fun other member => by
    rcases mem_add.mp member with ⟨old, -⟩ | rfl
    · exact coherent.parties other old
    · exact inOrder

/-- A user that is in no game creates one. -/
theorem found (known : guest ∈ census.guests) (flag : guest.loggedIn = true)
    (free : guest.game = none) (positive : party.id ≠ 0)
    (members : party.members = [guest.id]) (inOrder : party.InOrder) :
    (census.found guest.id party).Coherent where
  ids := (ids_move census _ _).symm ▸ coherent.ids
  numbers := coherent.numbers_add positive
  seats := fun other member user here => by
    rcases mem_add.mp member with ⟨old, -⟩ | rfl
    · refine coherent.seats_move old here ?_
      rintro rfl
      exact coherent.nowhere known free other old here
    · rw [members] at here
      rw [List.mem_singleton.mp here]
      exact seat_mover known flag
  parties := fun other member => by
    rcases mem_add.mp member with ⟨old, -⟩ | rfl
    · exact coherent.parties other old
    · exact inOrder

/-- A user that is in no game joins one that has room and has not sent it
away. -/
theorem enter (known : guest ∈ census.guests) (flag : guest.loggedIn = true)
    (free : guest.game = none) (member : party ∈ census.parties)
    (room : party.members.length < party.places) (welcome : guest.id ∉ party.kicked) :
    (census.enter guest.id party).Coherent where
  ids := (ids_move census _ _).symm ▸ coherent.ids
  numbers := (numbers_amend (census.move _ _) _).symm ▸ coherent.numbers
  seats := fun other otherMember user here => by
    have nowhere := coherent.nowhere known free
    rcases (mem_enter member).mp otherMember with rfl | ⟨old, -⟩
    · rcases List.mem_append.mp here with before | new
      · have stays := @seats_move census party user coherent (some party.id) member before
          guest.id fun same => nowhere party member (same ▸ before)
        exact stays
      · rw [List.mem_singleton.mp new]
        exact seat_mover known flag
    · exact coherent.seats_move old here fun same => nowhere other old (same ▸ here)
  parties := fun other otherMember => by
    rcases (mem_enter member).mp otherMember with rfl | ⟨old, -⟩
    · have inOrder := coherent.parties party member
      have new := coherent.nowhere known free party member
      refine ⟨?_, ?_, ?_, ?_⟩
      · refine List.nodup_append.mpr ⟨inOrder.once, List.nodup_singleton _, ?_⟩
        intro old oldMember user isNew same
        exact new (List.mem_singleton.mp isNew ▸ same ▸ oldMember)
      · intro open_
        rw [List.head?_append, inOrder.led open_]
        rfl
      · rw [List.length_append]
        exact room
      · intro user here
        rcases List.mem_append.mp here with old | isNew
        · exact inOrder.fair user old
        · exact List.mem_singleton.mp isNew ▸ welcome
    · exact coherent.parties other old

/-- A member that is not the owner leaves and may be kept out from now on. -/
theorem exit (member : party ∈ census.parties) (here : id ∈ party.members)
    (guestOnly : id ≠ party.owner) {kicked : List UserId}
    (fair : ∀ user ∈ kicked, user ∈ party.kicked ∨ user = id) :
    (census.exit id party kicked).Coherent where
  ids := (ids_move census _ _).symm ▸ coherent.ids
  numbers := (numbers_amend (census.move _ _) _).symm ▸ coherent.numbers
  seats := fun other otherMember user stays => by
    rcases (mem_exit member).mp otherMember with rfl | ⟨old, differs⟩
    · obtain ⟨before, apart⟩ := List.mem_filter.mp stays
      have rests := @seats_move census party user coherent none member before id
        (of_decide_eq_true apart)
      exact rests
    · refine coherent.seats_move old stays ?_
      rintro rfl
      exact differs (congrArg Party.id (coherent.lone old member stays here))
  parties := fun other otherMember => by
    rcases (mem_exit member).mp otherMember with rfl | ⟨old, -⟩
    · have inOrder := coherent.parties party member
      refine ⟨inOrder.once.filter _, ?_, ?_, ?_⟩
      · exact fun open_ => head?_filter_ne (inOrder.led open_) guestOnly
      · exact Nat.le_trans (List.length_filter_le ..) inOrder.room
      · intro user stays barred
        obtain ⟨before, apart⟩ := List.mem_filter.mp stays
        rcases fair user barred with already | same
        · exact inOrder.fair user before already
        · exact absurd same (of_decide_eq_true apart)
    · exact coherent.parties other old

/-- A game is closed. -/
theorem disband (member : party ∈ census.parties) : (census.disband party).Coherent where
  ids := by
    have same : (census.disband party).guests.map (·.id) = census.guests.map (·.id) := by
      rw [Census.disband, List.map_map]
      refine List.map_congr_left fun guest _ => ?_
      simp only [Function.comp_apply]
      split
      · rfl
      · rfl
    exact same ▸ coherent.ids
  numbers := coherent.numbers.sublist (List.filter_sublist.map _)
  seats := fun other otherMember user there => by
    obtain ⟨old, differs⟩ := List.mem_filter.mp otherMember
    obtain ⟨guest, known, rfl, found⟩ := coherent.seats other old user there
    have elsewhere : guest.id ∉ party.members := fun here =>
      of_decide_eq_true differs (congrArg Party.id (coherent.lone old member there here))
    exact ⟨guest, List.mem_map.mpr ⟨guest, known, if_neg elsewhere⟩, rfl, found⟩
  parties := fun other otherMember =>
    coherent.parties other (List.mem_of_mem_filter otherMember)

end Coherent

namespace Traced

variable (traced : census.Traced)
include traced

theorem arrive (id : UserId) : (census.arrive id).Traced := fun guest member number place => by
  rcases List.mem_append.mp member with old | new
  · exact traced guest old number place
  · rw [List.mem_singleton.mp new] at place
    cases place

theorem depart (id : UserId) : (census.depart id).Traced := fun guest member =>
  traced guest (List.mem_of_mem_filter member)

theorem logIn (id : UserId) : (census.logIn id).Traced := fun guest member number place => by
  obtain ⟨before, known, rfl⟩ := mem_mark.mp member
  split at place
  · rename_i itself
    rw [if_pos itself]
    exact traced before known number place
  · rename_i another
    rw [if_neg another]
    exact traced before known number place

/-- A game is created under a number of its own. -/
theorem add (fresh : party.id ∉ census.parties.map (·.id)) : (census.add party).Traced :=
  fun guest known number place => by
    obtain ⟨other, member, same, here⟩ := traced guest known number place
    refine ⟨other, mem_add.mpr (.inl ⟨member, fun itself => ?_⟩), same, here⟩
    exact fresh (List.mem_map.mpr ⟨other, member, itself⟩)

/-- So it is when its first member creates it. -/
theorem found (fresh : party.id ∉ census.parties.map (·.id))
    (members : party.members = [id]) : (census.found id party).Traced :=
  fun moved member number place => by
    obtain ⟨before, known, rfl⟩ := mem_mark.mp member
    by_cases itself : before.id = id
    · rw [if_pos itself] at place ⊢
      cases place
      refine ⟨party, mem_add.mpr (.inr rfl), rfl, ?_⟩
      rw [members]
      exact List.mem_singleton.mpr itself
    · rw [if_neg itself] at place ⊢
      exact traced.add fresh before known number place

variable (coherent : census.Coherent)
include coherent

/-- A user that joins a game finds it. -/
theorem enter (member : party ∈ census.parties) (id : UserId) :
    (census.enter id party).Traced := fun moved movedMember number place => by
  obtain ⟨before, known, rfl⟩ := mem_mark.mp movedMember
  by_cases itself : before.id = id
  · rw [if_pos itself] at place ⊢
    cases place
    exact ⟨_, (mem_enter member).mpr (.inl rfl), rfl,
      List.mem_append_right _ (List.mem_singleton.mpr itself)⟩
  · rw [if_neg itself] at place ⊢
    obtain ⟨other, otherMember, same, here⟩ := traced before known number place
    by_cases this : other.id = party.id
    · obtain rfl := coherent.party_unique otherMember member this
      exact ⟨_, (mem_enter member).mpr (.inl rfl), same, List.mem_append_left _ here⟩
    · exact ⟨other, (mem_enter member).mpr (.inr ⟨otherMember, this⟩), same, here⟩

/-- Whoever does not leave a game still finds it. -/
theorem exit (member : party ∈ census.parties) (id : UserId) (kicked : List UserId) :
    (census.exit id party kicked).Traced := fun moved movedMember number place => by
  obtain ⟨before, known, rfl⟩ := mem_mark.mp movedMember
  by_cases itself : before.id = id
  · rw [if_pos itself] at place
    cases place
  · rw [if_neg itself] at place ⊢
    obtain ⟨other, otherMember, same, stays⟩ := traced before known number place
    by_cases this : other.id = party.id
    · obtain rfl := coherent.party_unique otherMember member this
      exact ⟨_, (mem_exit member).mpr (.inl rfl), same,
        List.mem_filter.mpr ⟨stays, decide_eq_true itself⟩⟩
    · exact ⟨other, (mem_exit member).mpr (.inr ⟨otherMember, this⟩), same, stays⟩

/-- Nobody looks for a game that is closed. -/
theorem disband (member : party ∈ census.parties) : (census.disband party).Traced :=
  fun moved movedMember number place => by
    obtain ⟨before, known, rfl⟩ := List.mem_map.mp movedMember
    by_cases here : before.id ∈ party.members
    · rw [if_pos here] at place
      cases place
    · rw [if_neg here] at place ⊢
      obtain ⟨other, otherMember, same, there⟩ := traced before known number place
      refine ⟨other, List.mem_filter.mpr ⟨otherMember, decide_eq_true fun this => ?_⟩,
        same, there⟩
      exact here (coherent.party_unique otherMember member this ▸ there)

end Traced

/-- A member that has left is in no game. -/
theorem Coherent.nowhere_exit {kicked : List UserId}
    (coherent : (census.exit guest.id party kicked).Coherent)
    (known : guest ∈ census.guests) :
    ∀ other ∈ (census.exit guest.id party kicked).parties, guest.id ∉ other.members := by
  have moved : { guest with game := none } ∈ (census.exit guest.id party kicked).guests :=
    mem_mark.mpr ⟨guest, known, if_pos rfl⟩
  have nowhere := coherent.nowhere moved rfl
  exact nowhere

/-- Nor is a member of a game that was closed. -/
theorem Coherent.nowhere_disband
    (coherent : (census.disband party).Coherent) (known : guest ∈ census.guests)
    (member : guest.id ∈ party.members) :
    ∀ other ∈ (census.disband party).parties, guest.id ∉ other.members := by
  have moved : { guest with game := none } ∈ (census.disband party).guests :=
    List.mem_map.mpr ⟨guest, known, if_pos member⟩
  have nowhere := coherent.nowhere moved rfl
  exact nowhere

namespace Within

variable {users games places : Nat} (within : census.Within users games places)
include within

theorem arrive (space : census.guests.length < users) (id : UserId) :
    (census.arrive id).Within users games places where
  users := by
    rw [Census.arrive, List.length_append]
    exact space
  games := within.games
  places := within.places

theorem depart (id : UserId) : (census.depart id).Within users games places :=
  within.of_le (List.length_filter_le ..) (Nat.le_refl _) fun party member =>
    ⟨party, member, rfl⟩

theorem logIn (id : UserId) : (census.logIn id).Within users games places :=
  within.of_le (Nat.le_of_eq (List.length_map ..)) (Nat.le_refl _) fun party member =>
    ⟨party, member, rfl⟩

theorem add (space : 0 < games → census.parties.length < games)
    (room : party.places = places) : (census.add party).Within users games places where
  users := within.users
  games := fun limited => by
    rw [Census.add, List.length_append]
    exact Nat.lt_of_le_of_lt (List.length_filter_le ..) (space limited)
  places := fun other member => by
    rcases mem_add.mp member with ⟨old, -⟩ | rfl
    · exact within.places other old
    · exact room

theorem found (space : 0 < games → census.parties.length < games) (id : UserId)
    (room : party.places = places) : (census.found id party).Within users games places :=
  (within.add space room).of_le (Nat.le_of_eq (List.length_map ..)) (Nat.le_refl _)
    fun other member => ⟨other, member, rfl⟩

theorem enter (member : party ∈ census.parties) (id : UserId) :
    (census.enter id party).Within users games places := by
  refine within.of_le ?_ ?_ fun other otherMember => ?_
  · exact Nat.le_of_eq (List.length_map ..)
  · exact Nat.le_of_eq (List.length_map ..)
  · rcases (mem_enter member).mp otherMember with rfl | ⟨old, -⟩
    · exact ⟨party, member, rfl⟩
    · exact ⟨other, old, rfl⟩

theorem exit (member : party ∈ census.parties) (id : UserId) (kicked : List UserId) :
    (census.exit id party kicked).Within users games places := by
  refine within.of_le ?_ ?_ fun other otherMember => ?_
  · exact Nat.le_of_eq (List.length_map ..)
  · exact Nat.le_of_eq (List.length_map ..)
  · rcases (mem_exit member).mp otherMember with rfl | ⟨old, -⟩
    · exact ⟨party, member, rfl⟩
    · exact ⟨other, old, rfl⟩

theorem disband (party : Party) : (census.disband party).Within users games places :=
  within.of_le (Nat.le_of_eq (List.length_map ..)) (List.length_filter_le ..)
    fun other member => ⟨other, List.mem_of_mem_filter member, rfl⟩

end Within

end Census

end Netplay
