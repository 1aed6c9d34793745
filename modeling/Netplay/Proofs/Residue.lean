/-
Module: Netplay.Proofs.Residue
Purpose: What a round of messages leaves behind in the queues: the bytes of each
  message that do not make up a share for every action.
Main exports:
  stored, drawn, Arena.tally, Arena.Passes, Arena.passes_run, Arena.Whole,
  Arena.Squared, Arena.Reached.squared, Arena.residue
-/
import Netplay.Proofs.Played

namespace Netplay

/-! ## Messages by weight -/

/-- The bytes of a message that its queue takes in: all of them, unless the message is
too short for its actions. -/
def stored (actions : Nat) (data : Bytes) : Nat :=
  if data.length / actions = 0 then 0 else data.length

/-- The bytes that the merge of a message takes from each queue. -/
def drawn (actions : Nat) (data : Bytes) : Nat := actions * (data.length / actions)

/-- What is taken for a message is what it brings, but for a rest. -/
theorem drawn_add_mod {actions : Nat} {data : Bytes} (long : data.length / actions ≠ 0) :
    drawn actions data + data.length % actions = stored actions data := by
  rw [stored, if_neg long, drawn, Nat.div_add_mod]

/-- A message that is refused neither brings nor takes anything. -/
theorem drawn_of_short {actions : Nat} {data : Bytes} (short : data.length / actions = 0) :
    drawn actions data = 0 ∧ stored actions data = 0 := by
  rw [drawn, stored, if_pos short, short]
  exact ⟨Nat.mul_zero _, rfl⟩

namespace Arena

variable {arena after later : Arena} {slot place : Nat} {seat other : Seat}

/-- The messages of a user in the current round, by weight. -/
def tally (weigh : Nat → Bytes → Nat) (arena : Arena) (user : UserId) : Nat :=
  ((arena.messages arena.game.round user).map (weigh arena.game.actionsPerMessage)).sum

section Tally

variable {weigh : Nat → Bytes → Nat} {user sender : UserId} {data : Bytes}

/-- Without a call the weights stay. -/
theorem tally_same (round : after.game.round = arena.game.round)
    (actions : after.game.actionsPerMessage = arena.game.actionsPerMessage)
    (calls : after.calls = arena.calls) : after.tally weigh user = arena.tally weigh user := by
  rw [tally, messages, calls, round, actions]
  rfl

/-- A call adds its message to those of its sender. -/
theorem tally_call (round : after.game.round = arena.game.round)
    (actions : after.game.actionsPerMessage = arena.game.actionsPerMessage)
    (calls : after.calls = arena.calls ++ [arena.callOf sender data]) :
    after.tally weigh user = arena.tally weigh user +
      if sender = user then weigh arena.game.actionsPerMessage data else 0 := by
  have messages : after.messages arena.game.round user = arena.messages arena.game.round user ++
      if arena.game.round = arena.game.round ∧ sender = user then [data] else [] := by
    rw [Arena.messages, calls]
    exact arena.messages_append (arena.callOf sender data) _ _
  rw [tally, round, actions, messages]
  simp only [true_and]
  split
  · rw [List.map_append, List.sum_append]
    rfl
  · rw [List.append_nil]
    rfl

end Tally

/-- The bytes that a user has brought to its queue in the current round. -/
abbrev put (arena : Arena) (user : UserId) : Nat := arena.tally stored user

/-- The bytes that a user has taken, or is still to take, from each queue of the current
round. -/
abbrev got (arena : Arena) (user : UserId) : Nat := arena.tally drawn user

/-! ## A message is taken in -/

section Posted

variable {user : UserId} {data : Bytes} {queue : ActionQueue} {reader : UInt8}

theorem seats_posted (arena : Arena) (user : UserId) (data : Bytes) (slot : Nat) :
    (arena.posted user data slot).game.seats = arena.game.seats :=
  fields_modify (·.seat_add data) _ slot

theorem queues_posted (arena : Arena) (user : UserId) (data : Bytes) (slot place : Nat) :
    (arena.posted user data slot).game.queues[place]? = (arena.game.queues[place]?).map
      fun queue => if slot = place then queue.add data else queue :=
  List.getElem?_modify ..

theorem lit_posted (lit : (arena.posted user data slot).game.Lit) : arena.game.Lit where
  merges := lit.merges
  on := fun none => lit.on
    (List.eq_nil_of_length_eq_zero ((List.length_modify ..).trans (congrArg List.length none)))
  all := fun queue member => by
    obtain ⟨place, here⟩ := List.getElem?_of_mem member
    have there := arena.queues_posted user data slot place
    rw [here, Option.map_some] at there
    have on := lit.all _ (List.mem_of_getElem? there)
    split at on
    · exact queue.add_synched data ▸ on
    · exact on

theorem trim_posted (trim : arena.Trim) : (arena.posted user data slot).Trim := by
  intro later member
  obtain ⟨place, there⟩ := List.getElem?_of_mem member
  rw [queues_posted] at there
  obtain ⟨queue, here, rfl⟩ := Option.map_eq_some_iff.mp there
  have before := trim queue (List.mem_of_getElem? here)
  split
  · exact before.add data
  · exact before

/-- The message is there for everybody, if it fits in. -/
theorem unread_posted (lit : arena.game.Lit) (trim : arena.Trim)
    (here : arena.game.queues[place]? = some queue) (serves : queue.Serves reader)
    (room : slot = place → arena.unread place reader + data.length ≤ queue.capacity) :
    (arena.posted user data slot).unread place reader =
      arena.unread place reader + if slot = place then data.length else 0 := by
  have member := List.mem_of_getElem? here
  have there := arena.queues_posted user data slot place
  rw [here, Option.map_some] at there
  rw [unread_of_place there, unread_of_place here]
  by_cases same : slot = place
  · rw [if_pos same, if_pos same]
    refine ActionQueue.available_add (trim queue member) (lit.all queue member) serves ?_
    rw [← unread_of_place here]
    exact room same
  · rw [if_neg same, if_neg same, Nat.add_zero]

/-- No more than the message is there besides. -/
theorem unread_posted_le (here : arena.game.queues[place]? = some queue) (reader : UInt8) :
    (arena.posted user data slot).unread place reader ≤
      arena.unread place reader + if slot = place then data.length else 0 := by
  have there := arena.queues_posted user data slot place
  rw [here, Option.map_some] at there
  rw [unread_of_place there, unread_of_place here]
  by_cases same : slot = place
  · rw [if_pos same, if_pos same]
    exact queue.available_add_le reader data
  · rw [if_neg same, if_neg same]
    exact Nat.le_refl _

/-- What its merge takes from each queue is owed to its sender. -/
theorem owed_posted (arena : Arena) (user : UserId) (data : Bytes) (slot place : Nat)
    (reader : UInt8) :
    (arena.posted user data slot).owed (some (arena.begun user data)) place reader =
      arena.owed none place reader +
        if (arena.begun user data).reader = reader then
          drawn arena.game.actionsPerMessage data
        else 0 := by
  have claims : (arena.posted user data slot).claims place reader (arena.begun user data) =
      if (arena.begun user data).reader = reader then drawn arena.game.actionsPerMessage data
      else 0 := by
    rw [Arena.claims, Merge.due_begun rfl]
    exact if_congr (and_iff_right rfl) rfl rfl
  rw [owed_hand, claims, Nat.add_comm]
  rfl

end Posted

/-! ## Seats -/

section Seats

variable {reader : UInt8} {queue : ActionQueue}

/-- The player in each place reads from every queue under the number of the place. -/
theorem serves_of_seat (seated : arena.game.Seated arena.room.people)
    (here : arena.game.queues[slot]? = some queue) (there : arena.game.seats[place]? = some other)
    (number : reader.toNat = place + 1) : queue.Serves reader := by
  have desk : queue.heads.length = arena.game.seats.length :=
    (seated.desk queue.seat (List.mem_map.mpr ⟨queue, List.mem_of_getElem? here, rfl⟩)).1
  have few := (List.getElem?_eq_some_iff.mp there).1
  refine ⟨?_, by omega⟩
  rintro rfl
  cases number

theorem queue_of_seat (here : arena.game.seats[slot]? = some seat) :
    ∃ queue, arena.game.queues[slot]? = some queue ∧ queue.seat = seat := by
  rw [Game.seats, List.getElem?_map] at here
  exact Option.map_eq_some_iff.mp here

/-- No more is there for a reader than a queue holds. -/
theorem unread_le_capacity (seated : arena.game.Seated arena.room.people)
    (here : arena.game.seats[slot]? = some seat) (there : arena.game.seats[place]? = some other)
    (number : reader.toNat = place + 1) : arena.unread slot reader ≤ seat.capacity := by
  obtain ⟨queue, found, rfl⟩ := queue_of_seat here
  have kept := (serves_of_seat seated found there number).kept
  rw [unread_of_place found, ActionQueue.available]
  change queue.written - queue.position reader ≤ queue.capacity
  omega

/-- Players have one place each. -/
theorem place_of_user (seated : arena.game.Seated arena.room.people)
    (here : arena.game.seats[slot]? = some seat) (there : arena.game.seats[place]? = some other)
    (same : seat.user = other.user) : slot = place := by
  obtain ⟨queue, found, rfl⟩ := queue_of_seat here
  obtain ⟨another, foundOther, rfl⟩ := queue_of_seat there
  have own := seated.own
  rw [Game.seats, List.map_map] at own
  exact place_unique own found foundOther same

end Seats

/-! ## What a stretch of play makes of the accounts -/

/-- A stretch of play in one round.  As long as no queue goes out of synchrony, what is
there for a reader grows by what the queue's user brings, less what the reader's own
messages take: the latter is read or still owed. -/
structure Passes (arena later : Arena) : Prop where
  round : later.game.round = arena.game.round
  actions : later.game.actionsPerMessage = arena.game.actionsPerMessage
  status : later.game.status = arena.game.status
  seats : later.game.seats = arena.game.seats
  calls : arena.calls <+: later.calls
  lit : later.game.Lit → arena.game.Lit
  trim : arena.Trim → later.Trim
  put : ∀ user, arena.put user ≤ later.put user
  bound : later.game.Lit → arena.Trim → ∀ {slot seat}, arena.game.seats[slot]? = some seat →
    ∀ reader ≠ 0, later.unread slot reader + arena.put seat.user ≤
      arena.unread slot reader + later.put seat.user
  balance : later.game.Lit → arena.Trim → ∀ {slot place seat other},
    arena.game.seats[slot]? = some seat → arena.game.seats[place]? = some other →
    ∀ reader : UInt8, reader.toNat = place + 1 →
    arena.unread slot reader + later.put seat.user ≤ seat.capacity + arena.put seat.user →
    later.unread slot reader + later.got other.user + arena.owed none slot reader +
        arena.put seat.user =
      arena.unread slot reader + arena.got other.user + later.owed none slot reader +
        later.put seat.user

namespace Passes

theorem refl (arena : Arena) : arena.Passes arena :=
  ⟨rfl, rfl, rfl, rfl, List.prefix_rfl, id, id, fun _ => Nat.le_refl _,
    fun _ _ _ _ _ _ _ => Nat.le_refl _, fun _ _ _ _ _ _ _ _ _ _ _ => rfl⟩

theorem trans (one : arena.Passes after) (two : after.Passes later) : arena.Passes later where
  round := two.round.trans one.round
  actions := two.actions.trans one.actions
  status := two.status.trans one.status
  seats := two.seats.trans one.seats
  calls := one.calls.trans two.calls
  lit := fun lit => one.lit (two.lit lit)
  trim := fun trim => two.trim (one.trim trim)
  put := fun user => Nat.le_trans (one.put user) (two.put user)
  bound := fun lit trim slot seat here reader positive => by
    have first := one.bound (two.lit lit) trim here reader positive
    have second := two.bound lit (one.trim trim) (one.seats ▸ here) reader positive
    omega
  balance := fun lit trim slot place seat other here there reader number room => by
    have positive : reader ≠ 0 := by
      rintro rfl
      cases number
    have grows := two.put seat.user
    have limit := one.bound (two.lit lit) trim here reader positive
    have first := one.balance (two.lit lit) trim here there reader number (by omega)
    have second := two.balance lit (one.trim trim) (one.seats ▸ here) (one.seats ▸ there)
      reader number (by omega)
    omega

/-- Work on merges, and messages without weight. -/
theorem of_balances (balances : arena.Balances none after none)
    (calls : arena.calls <+: after.calls) (put : ∀ user, arena.put user ≤ after.put user)
    (even : after.game.Lit → ∀ user, after.put user = arena.put user ∧
      after.got user = arena.got user) : arena.Passes after := by
  have inside : ∀ {slot seat}, arena.game.seats[slot]? = some seat →
      slot < arena.game.queues.length := fun here =>
    arena.game.length_seats ▸ (List.getElem?_eq_some_iff.mp here).1
  refine ⟨balances.round, balances.actions, balances.status, balances.seats, calls, balances.lit,
    balances.trim, put, fun lit trim slot seat here reader positive => ?_,
    fun lit trim slot place seat other here there reader number _ => ?_⟩
  · have less := (balances.balance lit trim slot (inside here) reader positive).2
    have same := (even lit seat.user).1
    omega
  · have positive : reader ≠ 0 := by
      rintro rfl
      cases number
    have balance := (balances.balance lit trim slot (inside here) reader positive).1
    have same := (even lit seat.user).1
    have taken := (even lit other.user).2
    omega

/-- A message is taken in. -/
theorem of_sent {user : UserId} {data : Bytes} {queue : ActionQueue}
    (seated : arena.game.Seated arena.room.people)
    (home : arena.game.queues[slot]? = some queue) (owner : queue.user = user)
    (number : (arena.room.people.person user).player.toNat = slot + 1)
    (long : data.length / arena.game.actionsPerMessage ≠ 0)
    (balances : (arena.posted user data slot).Balances (some (arena.begun user data)) after none)
    (calls : after.calls = arena.calls ++ [arena.callOf user data]) : arena.Passes after := by
  have seats : after.game.seats = arena.game.seats := balances.seats.trans (seats_posted ..)
  have round : after.game.round = arena.game.round := balances.round
  have actions : after.game.actionsPerMessage = arena.game.actionsPerMessage := balances.actions
  have weight : stored arena.game.actionsPerMessage data = data.length := by
    rw [stored, if_neg long]
  -- Seats are those of the sender where they are the sender's place, and nowhere else.
  have own : arena.game.seats[slot]? = some queue.seat :=
    (List.getElem?_map ..).trans (congrArg (Option.map (·.seat)) home)
  have place_iff : ∀ {place : Nat} {seat : Seat}, arena.game.seats[place]? = some seat →
      (slot = place ↔ user = seat.user) := by
    intro place seat here
    constructor
    · rintro rfl
      rw [own] at here
      cases here
      exact owner.symm
    · exact fun same => place_of_user seated own here (owner.trans same)
  have put : ∀ other, after.put other =
      arena.put other + if user = other then data.length else 0 := fun other =>
    weight ▸ tally_call round actions calls
  have got : ∀ other, after.got other = arena.got other +
      if user = other then drawn arena.game.actionsPerMessage data else 0 := fun other =>
    tally_call round actions calls
  have inside : ∀ {place : Nat} {queue : ActionQueue}, arena.game.queues[place]? = some queue →
      place < (arena.posted user data slot).game.queues.length := by
    intro place queue there
    rw [← Game.length_seats, seats_posted, Game.length_seats]
    exact (List.getElem?_eq_some_iff.mp there).1
  refine ⟨round, actions, balances.status, seats, calls ▸ List.prefix_append .., ?_, ?_, ?_, ?_, ?_⟩
  · exact fun lit => lit_posted (balances.lit lit)
  · exact fun trim => balances.trim (trim_posted trim)
  · exact fun other => put other ▸ Nat.le_add_right _ _
  · intro lit trim place seat here reader positive
    obtain ⟨queue, there, rfl⟩ := queue_of_seat here
    have less := (balances.balance lit (trim_posted trim) place (inside there) reader positive).2
    have posted : (arena.posted user data slot).unread place reader ≤ arena.unread place reader +
        if slot = place then data.length else 0 := unread_posted_le there reader
    rw [if_congr (place_iff here) rfl rfl] at posted
    rw [put]
    omega
  · intro lit trim place next seat other here there reader numbered room
    have positive : reader ≠ 0 := by
      rintro rfl
      cases numbered
    obtain ⟨queue, found, rfl⟩ := queue_of_seat here
    have before := lit_posted (balances.lit lit)
    have serves := serves_of_seat seated found there numbered
    have turn : (arena.begun user data).reader = reader ↔ user = other.user := by
      rw [← place_iff there]
      constructor
      · intro same
        have equal : (arena.begun user data).reader.toNat = slot + 1 := number
        rw [same] at equal
        omega
      · rintro rfl
        exact UInt8.toNat_inj.mp (number.trans numbered.symm)
    have balance :=
      (balances.balance lit (trim_posted trim) place (inside found) reader positive).1
    have fits : slot = place → arena.unread place reader + data.length ≤ queue.capacity := by
      intro same
      rw [put, if_pos ((place_iff here).mp same)] at room
      have capacity : queue.seat.capacity = queue.capacity := rfl
      omega
    rw [owed_posted, unread_posted before trim found serves fits, if_congr turn rfl rfl,
      if_congr (place_iff here) rfl rfl] at balance
    rw [put, got]
    omega

end Passes

/-- What a move makes of the accounts, unless it ends the round. -/
theorem Goes.passes (sound : arena.Sound none) (goes : arena.Goes after) :
    arena.Passes after ∨ after.game.queues = [] := by
  cases goes with
  | ends none => exact .inr none
  | sent place owner number idle long balances calls =>
      exact .inl (.of_sent sound.orderly.seated place owner number long balances calls)
  | works balances calls =>
      have same : ∀ {weigh user}, after.tally weigh user = arena.tally weigh user :=
        tally_same balances.round balances.actions calls
      exact .inl (.of_balances balances (calls ▸ List.prefix_rfl)
        (fun _ => Nat.le_of_eq same.symm) fun _ _ => ⟨same, same⟩)
  | @refused user data balances calls cause =>
      have call : ∀ {weigh other}, after.tally weigh other = arena.tally weigh other +
          if user = other then weigh arena.game.actionsPerMessage data else 0 :=
        tally_call balances.round balances.actions calls
      refine .inl (.of_balances balances (calls ▸ List.prefix_append ..)
        (fun _ => Nat.le_trans (Nat.le_add_right _ _) (Nat.le_of_eq call.symm)) fun lit _ => ?_)
      rcases cause with off | short
      · exact absurd off (by rw [(balances.lit lit).merges]; exact Bool.noConfusion)
      · obtain ⟨taken, brought⟩ := drawn_of_short short
        exact ⟨call.trans (by rw [brought, ite_self, Nat.add_zero]),
          call.trans (by rw [taken, ite_self, Nat.add_zero])⟩

/-- A row of moves at the end of which the same round is played and merged. -/
theorem passes_run (sound : arena.Sound none) (playing : arena.game.status = .playing)
    {moves : List Move} (round : (arena.run moves).game.round = arena.game.round)
    (lit : (arena.run moves).game.Lit) : arena.Passes (arena.run moves) := by
  induction moves generalizing arena with
  | nil => exact .refl _
  | cons move rest inductionHypothesis =>
      rcases (goes_step sound playing move).passes sound with passes | none
      · exact passes.trans (inductionHypothesis (sound.step move) (passes.status.trans playing)
          (round.trans passes.round.symm) lit)
      · -- A round that is over does not come back.
        obtain ⟨-, ended⟩ := round_run (arena.step move) rest
        obtain ⟨upwards, -⟩ := round_run arena [move]
        rcases ended none with still | next
        · exact absurd still lit.on
        · exact absurd round (Nat.ne_of_gt (Nat.lt_of_le_of_lt upwards next))

/-! ## Rounds of whole messages -/

/-- Every message of the round so far has the same number of bytes for each action, and
fits into every queue twice. -/
def Whole (arena : Arena) : Prop :=
  ∀ call ∈ arena.calls, call.round = arena.game.round →
    arena.game.actionsPerMessage ∣ call.data.length ∧
      ∀ seat ∈ arena.game.seats, 2 * call.data.length ≤ seat.capacity

/-- The merges of the round read for the players that have begun them, and what they take
from a queue fits into every one twice. -/
def Manned (arena : Arena) (hand : Option Merge) : Prop :=
  ∀ merge ∈ arena.carried hand, merge.round = arena.game.round →
    (∃ (place : Nat) (seat : Seat), arena.game.seats[place]? = some seat ∧
      seat.user = merge.user ∧ merge.reader.toNat = place + 1) ∧
      ∀ seat ∈ arena.game.seats, 2 * (merge.actions * merge.share) ≤ seat.capacity

/-- What is there for a reader is what the queue's user has brought, less what the reader
has taken. -/
structure Squared (arena : Arena) : Prop where
  manned : arena.Manned none
  even : ∀ {slot place : Nat} {seat other : Seat}, arena.game.seats[slot]? = some seat →
    arena.game.seats[place]? = some other → ∀ reader : UInt8, reader.toNat = place + 1 →
    arena.unread slot reader + arena.got other.user =
      arena.owed none slot reader + arena.put seat.user

/-- No merge of the round is in flight. -/
def Quiet (arena : Arena) : Prop := ∀ merge ∈ arena.carried none, merge.round ≠ arena.game.round

theorem Whole.of_passes (whole : later.Whole) (passes : arena.Passes later) : arena.Whole := by
  intro call member round
  have kept := whole call (passes.calls.subset member) (round.trans passes.round.symm)
  rwa [passes.actions, passes.seats] at kept

/-- Messages without a rest bring as much as is taken for them. -/
theorem Whole.got_eq_put (whole : arena.Whole) (user : UserId) :
    arena.got user = arena.put user := by
  refine congrArg List.sum (List.map_congr_left fun data member => ?_)
  obtain ⟨call, here, rfl⟩ := List.mem_map.mp member
  obtain ⟨onRecord, keeps⟩ := List.mem_filter.mp here
  have shape : call.round = arena.game.round ∧ call.user = user := by simpa using keeps
  obtain ⟨whole, -⟩ := whole call onRecord shape.1
  by_cases short : call.data.length / arena.game.actionsPerMessage = 0
  · obtain ⟨taken, brought⟩ := drawn_of_short short
    rw [taken, brought]
  · rw [← drawn_add_mod short, Nat.mod_eq_zero_of_dvd whole, Nat.add_zero]

theorem Manned.of_balances {hand last : Option Merge} (manned : arena.Manned hand)
    (balances : arena.Balances hand after last) : after.Manned last := by
  intro merge member round
  obtain ⟨earlier, before, same⟩ := balances.errands merge member
  rw [balances.seats]
  have fields : earlier.round = merge.round ∧ earlier.user = merge.user ∧
      earlier.reader = merge.reader ∧ earlier.actions = merge.actions ∧
      earlier.share = merge.share := by
    simp only [Merge.errand, Merge.mk.injEq] at same
    exact ⟨same.2.2.1, same.2.1, same.2.2.2.1, same.2.2.2.2.1, same.2.2.2.2.2.1⟩
  obtain ⟨sameRound, user, reader, actions, share⟩ := fields
  have kept := manned earlier before (sameRound.trans (round.trans balances.round))
  rwa [user, reader, actions, share] at kept

/-- Where at most one entry of a list counts, all of them are bounded like that one. -/
theorem sum_le_of_lone {α β : Type} [DecidableEq β] {key : α → β} {value : α → Nat} {limit : Nat}
    (own : β) {list : List α} (nodup : (list.map key).Nodup)
    (others : ∀ entry ∈ list, key entry ≠ own → value entry = 0)
    (bound : ∀ entry ∈ list, value entry ≤ limit) : (list.map value).sum ≤ limit := by
  induction list with
  | nil => exact Nat.zero_le _
  | cons first rest inductionHypothesis =>
      obtain ⟨absent, restNodup⟩ := List.nodup_cons.mp nodup
      have tail := inductionHypothesis restNodup
        (fun entry member => others entry (List.mem_cons_of_mem _ member))
        fun entry member => bound entry (List.mem_cons_of_mem _ member)
      rw [List.map_cons, List.sum_cons]
      by_cases here : key first = own
      · have silent : (rest.map value).sum = 0 := by
          refine List.sum_eq_zero_iff_forall_eq_nat.mpr fun count member => ?_
          obtain ⟨entry, inRest, rfl⟩ := List.mem_map.mp member
          refine others entry (List.mem_cons_of_mem _ inRest) fun same => absent ?_
          exact List.mem_map.mpr ⟨entry, inRest, same.trans here.symm⟩
        rw [silent]
        exact bound first List.mem_cons_self
      · rw [others first List.mem_cons_self here, Nat.zero_add]
        exact tail

/-- What a reader is owed fits into every queue twice. -/
theorem Manned.owed_le (manned : arena.Manned none) (sound : arena.Sound none)
    (here : arena.game.seats[slot]? = some seat) (there : arena.game.seats[place]? = some other)
    {reader : UInt8} (number : reader.toNat = place + 1) :
    2 * arena.owed none slot reader ≤ seat.capacity := by
  have half : arena.owed none slot reader ≤ seat.capacity / 2 := by
    refine sum_le_of_lone other.user sound.ledger.lone (fun merge member apart => ?_)
      fun merge member => ?_
    · refine if_neg fun claims => apart ?_
      obtain ⟨⟨home, own, place, user, reads⟩, -⟩ := manned merge member claims.1
      rw [claims.2, number] at reads
      obtain rfl := Nat.succ.inj reads
      rw [there] at place
      cases place
      exact user.symm
    · rw [claims]
      split
      · rename_i own
        have fits := (manned merge member own.1).2 seat (List.mem_of_getElem? here)
        have due := merge.due_le slot
        omega
      · exact Nat.zero_le _
  omega

/-- When a player has nothing in flight, the others have nothing to take from its queue but
what they are owed. -/
theorem Squared.unread_le (squared : arena.Squared) (whole : arena.Whole)
    (here : arena.game.seats[slot]? = some seat)
    (idle : ∀ merge ∈ arena.carried none, merge.user ≠ seat.user) {own : UInt8}
    (ownNumber : own.toNat = slot + 1) (there : arena.game.seats[place]? = some other)
    {reader : UInt8} (number : reader.toNat = place + 1) :
    arena.unread slot reader ≤ arena.owed none slot reader := by
  have settled : arena.owed none place own = 0 := by
    refine List.sum_eq_zero_iff_forall_eq_nat.mpr fun count member => ?_
    obtain ⟨merge, carried, rfl⟩ := List.mem_map.mp member
    refine if_neg fun claims => idle merge carried ?_
    obtain ⟨⟨home, owner, place, user, reads⟩, -⟩ := squared.manned merge carried claims.1
    rw [claims.2, ownNumber] at reads
    obtain rfl := Nat.succ.inj reads
    rw [here] at place
    cases place
    exact user.symm
  have mine := squared.even there here own ownNumber
  have theirs := squared.even here there reader number
  have whole := whole.got_eq_put
  have first := whole seat.user
  have second := whole other.user
  omega

/-- In a round of whole messages no queue overflows: what a message brings has room. -/
theorem Goes.room (sound : arena.Sound none) (squared : arena.Squared) (whole : arena.Whole)
    (goes : arena.Goes after) (lit : after.game.Lit) (wholeAfter : after.Whole)
    (passes : arena.Passes after) (here : arena.game.seats[slot]? = some seat)
    (there : arena.game.seats[place]? = some other) {reader : UInt8}
    (number : reader.toNat = place + 1) :
    arena.unread slot reader + after.put seat.user ≤ seat.capacity + arena.put seat.user := by
  have bounded := unread_le_capacity sound.orderly.seated here there number
  cases goes with
  | ends none => exact absurd none lit.on
  | works balances calls =>
      have same : after.put seat.user = arena.put seat.user :=
        tally_same balances.round balances.actions calls
      omega
  | @refused user data balances calls cause =>
      have call : after.put seat.user = arena.put seat.user +
          if user = seat.user then stored arena.game.actionsPerMessage data else 0 :=
        tally_call balances.round balances.actions calls
      rcases cause with off | short
      · exact absurd off (by rw [(balances.lit lit).merges]; exact Bool.noConfusion)
      · rw [(drawn_of_short short).2, ite_self] at call
        omega
  | @sent user data home queue homePlace owner homeNumber idle long balances calls =>
      have call : after.put seat.user = arena.put seat.user +
          if user = seat.user then stored arena.game.actionsPerMessage data else 0 :=
        tally_call passes.round passes.actions calls
      split at call
      · rename_i own
        rw [stored, if_neg long] at call
        have homeSeat : arena.game.seats[home]? = some queue.seat :=
          (List.getElem?_map ..).trans (congrArg (Option.map (·.seat)) homePlace)
        obtain rfl := place_of_user sound.orderly.seated here homeSeat (own.symm.trans owner.symm)
        have taken := squared.unread_le whole here (own ▸ idle) homeNumber there number
        have owed := squared.manned.owed_le sound here there number
        have member : arena.callOf user data ∈ after.calls :=
          calls ▸ List.mem_append_right _ (List.mem_singleton_self _)
        have size := (wholeAfter _ member passes.round.symm).2 seat
          (passes.seats ▸ List.mem_of_getElem? here)
        have size : 2 * data.length ≤ seat.capacity := size
        omega
      · omega

/-- Moves keep the accounts of a round of whole messages. -/
theorem Goes.squared (sound : arena.Sound none) (squared : arena.Squared) (whole : arena.Whole)
    (trim : arena.Trim) (goes : arena.Goes after) (lit : after.game.Lit)
    (wholeAfter : after.Whole) (passes : arena.Passes after) : after.Squared where
  manned := by
    cases goes with
    | ends none => exact absurd none lit.on
    | works balances calls => exact squared.manned.of_balances balances
    | refused balances calls cause => exact squared.manned.of_balances balances
    | @sent user data home queue homePlace owner homeNumber idle long balances calls =>
        refine Manned.of_balances (fun merge member round => ?_) balances
        have seats := arena.seats_posted user data home
        rw [seats]
        rcases List.mem_cons.mp member with rfl | old
        · refine ⟨⟨home, queue.seat, ?_, owner, homeNumber⟩, fun seat here => ?_⟩
          · exact (List.getElem?_map ..).trans (congrArg (Option.map (·.seat)) homePlace)
          · have member : arena.callOf user data ∈ after.calls :=
              calls ▸ List.mem_append_right _ (List.mem_singleton_self _)
            have size : 2 * data.length ≤ seat.capacity :=
              (wholeAfter _ member passes.round.symm).2 seat (passes.seats ▸ here)
            have taken : arena.game.actionsPerMessage *
                (data.length / arena.game.actionsPerMessage) ≤ data.length := Nat.mul_div_le ..
            change 2 * (arena.game.actionsPerMessage *
              (data.length / arena.game.actionsPerMessage)) ≤ seat.capacity
            omega
        · exact squared.manned merge old round
  even := fun {slot place seat other} here there reader number => by
    rw [passes.seats] at here there
    have room := goes.room sound squared whole lit wholeAfter passes here there number
    have balance := passes.balance lit trim here there reader number room
    have before := squared.even here there reader number
    omega

/-- When play begins the accounts are empty. -/
theorem Opens.squared (opens : arena.Opens) : arena.Squared where
  manned := fun merge member round =>
    absurd round (opens.untouched.tags merge.tag (mem_tags member))
  even := fun {slot place seat other} here _ reader _ => by
    have weightless : ∀ {weigh user}, arena.tally weigh user = 0 := by
      intro weigh user
      have silent : arena.messages arena.game.round user = [] := by
        refine List.map_eq_nil_iff.mpr (List.filter_eq_nil_iff.mpr fun call member => ?_)
        simp [opens.untouched.calls call member]
      rw [tally, silent]
      rfl
    have owed : arena.owed none slot reader = 0 := by
      refine List.sum_eq_zero_iff_forall_eq_nat.mpr fun count member => ?_
      obtain ⟨merge, carried, rfl⟩ := List.mem_map.mp member
      exact if_neg fun claims => opens.untouched.tags merge.tag (mem_tags carried) claims.1
    obtain ⟨queue, found, -⟩ := queue_of_seat here
    have empty := opens.empty queue (List.mem_of_getElem? found)
    have unread : arena.unread slot reader = 0 := by
      rw [unread_of_place found, ActionQueue.available, empty.written, Nat.zero_sub]
    rw [unread, owed, Arena.got, Arena.put, weightless, weightless]

/-- The accounts of every round that is played: no reader is ahead of its queues, and in a
round of whole messages all that was brought and not yet read is owed. -/
theorem Reached.squared (reached : arena.Reached) (playing : arena.game.status = .playing) :
    arena.Trim ∧ (arena.game.Lit → arena.Whole → arena.Squared) := by
  let holds (arena : Arena) : Prop :=
    arena.Trim ∧ (arena.game.Lit → arena.Whole → arena.Squared)
  have opens : ∀ arena : Arena, arena.Sound none → arena.Opens → holds arena :=
    fun arena _ opens =>
      ⟨fun queue member => (opens.empty queue member).trim, fun _ _ => opens.squared⟩
  refine reached.while_playing opens (fun arena after sound _ before goes => ?_) playing
  obtain ⟨trim, squared⟩ := before
  rcases goes.passes sound with passes | ended
  · refine ⟨passes.trim trim, fun lit whole => ?_⟩
    have wholeBefore := whole.of_passes passes
    exact goes.squared sound (squared (passes.lit lit) wholeBefore) wholeBefore trim lit whole
      passes
  · refine ⟨fun queue member => ?_, fun lit => absurd ended lit.on⟩
    rw [ended] at member
    cases member

/-! ## What is left over -/

/-- Where nothing is in flight nothing is owed. -/
theorem Quiet.owed (quiet : arena.Quiet) (slot : Nat) (reader : UInt8) :
    arena.owed none slot reader = 0 := by
  refine List.sum_eq_zero_iff_forall_eq_nat.mpr fun count member => ?_
  obtain ⟨merge, carried, rfl⟩ := List.mem_map.mp member
  exact if_neg fun claims => quiet merge carried claims.1

/-- Nothing is left over of whole messages once nothing is in flight. -/
theorem Squared.settled (squared : arena.Squared) (whole : arena.Whole) (quiet : arena.Quiet)
    (here : arena.game.seats[slot]? = some seat) (there : arena.game.seats[place]? = some other)
    {reader : UInt8} (number : reader.toNat = place + 1) (few : slot < 255) :
    arena.unread slot reader = 0 := by
  have own : (UInt8.ofNat (slot + 1)).toNat = slot + 1 :=
    UInt8.toNat_ofNat_of_lt (Nat.succ_lt_succ few)
  have theirs := squared.even here there reader number
  have mine := squared.even there here _ own
  have first := whole.got_eq_put seat.user
  have second := whole.got_eq_put other.user
  rw [quiet.owed] at theirs mine
  omega

instance (arena : Arena) : Decidable arena.Whole :=
  inferInstanceAs (Decidable (∀ call ∈ arena.calls, _ → _ ∧ _))

instance (arena : Arena) : Decidable arena.Quiet :=
  inferInstanceAs (Decidable (∀ merge ∈ arena.carried none, _ ≠ _))

/-- Everybody who plays has sent one more message, of a given length. -/
def SentOnce (arena later : Arena) (size : Nat) : Prop :=
  ∀ queue ∈ arena.game.queues, ∃ data ∈ later.messages arena.game.round queue.user,
    data.length = size ∧ later.messages arena.game.round queue.user =
      arena.messages arena.game.round queue.user ++ [data]

instance (arena later : Arena) (size : Nat) : Decidable (arena.SentOnce later size) :=
  inferInstanceAs (Decidable (∀ queue ∈ arena.game.queues, ∃ data ∈ _, _ ∧ _))

theorem SentOnce.tally {size : Nat} (sent : arena.SentOnce later size)
    (passes : arena.Passes later) {weigh : Nat → Bytes → Nat} {weight : Nat}
    (weighs : ∀ data : Bytes, data.length = size → weigh arena.game.actionsPerMessage data = weight)
    (here : arena.game.seats[slot]? = some seat) :
    later.tally weigh seat.user = arena.tally weigh seat.user + weight := by
  obtain ⟨queue, found, rfl⟩ := queue_of_seat here
  obtain ⟨data, -, length, messages⟩ := sent queue (List.mem_of_getElem? found)
  have messages : later.messages later.game.round queue.seat.user =
      arena.messages arena.game.round queue.seat.user ++ [data] := by
    rw [passes.round]
    exact messages
  rw [Arena.tally, messages, passes.actions, List.map_append, List.sum_append, List.map_singleton,
    List.sum_singleton, weighs data length]
  rfl

/-- A round of messages.  A round is played and merged throughout, everybody who plays sends one
more message of one length, and no merge is in flight before the first of them and after the last.
Wherever the message still fits in, there is then more for a reader than before, by as many bytes
as its division into actions leaves over.  In a round of whole messages, that fit in twice,
everything has been read before, so that this is all there is; and of a whole message, nothing is
left. -/
theorem residue (reached : arena.Reached) (playing : arena.game.status = .playing)
    {moves : List Move} {size : Nat}
    (round : (arena.run moves).game.round = arena.game.round) (lit : (arena.run moves).game.Lit)
    (before : arena.Quiet) (afterwards : (arena.run moves).Quiet)
    (sent : arena.SentOnce (arena.run moves) size) (positive : 0 < arena.game.actionsPerMessage)
    (long : arena.game.actionsPerMessage ≤ size)
    (half : ∀ queue ∈ arena.game.queues, 2 * size ≤ queue.capacity)
    (slot : Nat) (queue final : ActionQueue) (place : arena.game.queues[slot]? = some queue)
    (finalPlace : (arena.run moves).game.queues[slot]? = some final) (reader : UInt8)
    (serves : queue.Serves reader) :
    (queue.available reader + size ≤ queue.capacity →
      final.available reader =
        queue.available reader + size % arena.game.actionsPerMessage) ∧
    (arena.Whole → queue.available reader = 0 ∧
      final.available reader = size % arena.game.actionsPerMessage) := by
  have sound := reached.sound
  have seated := sound.orderly.seated
  have passes := passes_run sound playing round lit
  obtain ⟨trim, squared⟩ := reached.squared playing
  have here : arena.game.seats[slot]? = some queue.seat :=
    (List.getElem?_map ..).trans (congrArg (Option.map (·.seat)) place)
  -- The reader is the number of a player.
  obtain ⟨home, number⟩ : ∃ home, reader.toNat = home + 1 :=
    Nat.exists_eq_succ_of_ne_zero fun zero => serves.1 (UInt8.toNat_inj.mp zero)
  have inside : home < arena.game.seats.length := by
    have desk : queue.heads.length = arena.game.seats.length :=
      (seated.desk _ (List.mem_of_getElem? here)).1
    have few := serves.2
    omega
  have there := List.getElem?_eq_getElem inside
  have fits : size / arena.game.actionsPerMessage ≠ 0 :=
    Nat.ne_of_gt (Nat.div_pos long positive)
  have rest : queue.available reader + size ≤ queue.capacity → final.available reader =
      queue.available reader + size % arena.game.actionsPerMessage := by
    intro room
    have brought : (arena.run moves).put queue.seat.user = arena.put queue.seat.user + size :=
      sent.tally passes (fun data length => by rw [stored, length, if_neg fits]) here
    have taken : (arena.run moves).got _ = arena.got _ +
        arena.game.actionsPerMessage * (size / arena.game.actionsPerMessage) :=
      sent.tally passes (fun data length => by rw [drawn, length]) there
    have division := Nat.div_add_mod size arena.game.actionsPerMessage
    have capacity : queue.seat.capacity = queue.capacity := rfl
    rw [← unread_of_place place] at room ⊢
    have balance := passes.balance lit trim here there reader number (by omega)
    rw [before.owed, afterwards.owed, unread_of_place finalPlace] at balance
    omega
  refine ⟨rest, fun whole => ?_⟩
  have settled : queue.available reader = 0 := by
    rw [← unread_of_place place]
    refine (squared (passes.lit lit) whole).settled whole before here there number ?_
    have few := reached.few
    have inside := (List.getElem?_eq_some_iff.mp place).1
    omega
  refine ⟨settled, ?_⟩
  have room := half queue (List.mem_of_getElem? place)
  rw [rest (by omega), settled, Nat.zero_add]

/-- Two users who play with two actions in each message send one message each. -/
def exchange (first second : Bytes) : List Move := [.input 1 first, .input 2 second, .retry 0]

theorem residue_pair : ∃ final : ActionQueue,
    (pair.run (exchange [1, 2, 3, 4] [10, 11, 12, 13])).game.queues[0]? = some final ∧
      final.available 2 = 0 := by
  have reached : pair.Reached := ⟨_, _, _, _, _, _, rfl⟩
  have lit : (pair.run (exchange [1, 2, 3, 4] [10, 11, 12, 13])).game.Lit :=
    ⟨by decide, by decide, by decide⟩
  have left := residue reached (by decide) (by decide) lit (by decide) (by decide)
    (show pair.SentOnce _ 4 by decide) (by decide) (by decide) (by decide) 0 _ _ rfl rfl 2
    ⟨by decide, by decide⟩
  exact ⟨_, rfl, (left.2 (by decide)).2⟩

/-- A message may leave bytes behind in its queue. -/
theorem residue_left : ¬ ∀ (arena : Arena) (moves : List Move) (size : Nat), arena.Reached →
    arena.game.status = .playing → (arena.run moves).game.round = arena.game.round →
    (arena.run moves).game.Lit → arena.Quiet → (arena.run moves).Quiet →
    arena.SentOnce (arena.run moves) size →
    (∀ queue ∈ arena.game.queues, ∃ turn, turn.result = some (.ok ()) ∧
      (arena.run moves).returns arena.game.round queue.user =
        arena.returns arena.game.round queue.user ++ [turn]) →
    0 < arena.game.actionsPerMessage → arena.game.actionsPerMessage ≤ size →
    (∀ queue ∈ arena.game.queues, 2 * size ≤ queue.capacity) →
    ∀ (slot : Nat) (queue final : ActionQueue), arena.game.queues[slot]? = some queue →
      (arena.run moves).game.queues[slot]? = some final →
      ∀ reader, queue.Serves reader → final.available reader = queue.available reader := by
  intro claim
  have reached : pair.Reached := ⟨_, _, _, _, _, _, rfl⟩
  have lit : (pair.run (exchange [1, 2, 3] [10, 11, 12])).game.Lit :=
    ⟨by decide, by decide, by decide⟩
  have succeeds : ∀ queue ∈ pair.game.queues, ∃ turn, turn.result = some (.ok ()) ∧
      (pair.run (exchange [1, 2, 3] [10, 11, 12])).returns pair.game.round queue.user =
        pair.returns pair.game.round queue.user ++ [turn] :=
    List.forall_mem_cons.mpr ⟨⟨_, rfl, rfl⟩,
      List.forall_mem_cons.mpr ⟨⟨_, rfl, rfl⟩, fun _ member => by cases member⟩⟩
  have same := claim pair (exchange [1, 2, 3] [10, 11, 12]) 3 reached (by decide) (by decide) lit
    (by decide) (by decide) (by decide) succeeds (by decide) (by decide) (by decide) 0 _ _ rfl rfl 1
    ⟨by decide, by decide⟩
  revert same
  decide

end Arena

end Netplay
