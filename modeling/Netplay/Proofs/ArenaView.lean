/-
Module: Netplay.Proofs.ArenaView
Purpose: What the players of a round see of an arena, also while a merge is
  being worked on.
Main exports:
  Arena.carried, Arena.flight, Arena.view, Arena.Uniform, Arena.InStep,
  Arena.InStep.follows
-/
import Mathlib.Data.List.Nodup
import Netplay.Proofs.Lockstep
import Netplay.Proofs.Rounds

namespace Netplay

open RoundView

/-- Queues may fade while nothing happens that belongs to users. -/
theorem RoundView.Event.still {game : GameId} {actions size : Nat}
    {view after : RoundView} (queues : QueuesFade view.queues after.queues)
    (flight : ∀ user, after.flight user = view.flight user)
    (messages : ∀ user, after.messages user = view.messages user)
    (returns : ∀ user, after.returns user = view.returns user) :
    RoundView.Event game actions size view after :=
  .fade 0 queues
    { messages := by rw [messages, List.append_nil]
      returns := by rw [returns, List.append_nil]
      flight := flight 0
      others := fun other _ => ⟨messages other, returns other, flight other⟩ }

namespace Arena

/-- The merges in flight.  The one being worked on is on no list of the game
and comes first. -/
def carried (arena : Arena) (hand : Option Merge) : List Merge :=
  hand.toList ++ arena.game.inFlight.map (·.merge)

/-- The merge that a user has in flight in a round. -/
def flight (arena : Arena) (hand : Option Merge) (round : Nat) (user : UserId) :
    Option Merge :=
  (arena.carried hand).find? fun merge => merge.round = round ∧ merge.user = user

/-- A round of the arena as its players see it. -/
def view (arena : Arena) (hand : Option Merge) (round : Nat) : RoundView where
  queues := arena.game.roundQueues round
  flight := arena.flight hand round
  messages := arena.messages round
  returns := arena.returns round

/-- All messages of a round have `actions` actions of `size` bytes. -/
def Uniform (arena : Arena) (round actions size : Nat) : Prop :=
  ∀ call ∈ arena.calls, call.round = round →
    call.actions = actions ∧ call.data.length = actions * size

/-- The players of every round whose queues are kept are in step, if its
messages have one length and its queues room for two of them. -/
def InStep (arena : Arena) (hand : Option Merge) : Prop :=
  ∀ round actions size, arena.Uniform round actions size →
    arena.game.roundQueues round ≠ [] →
    (∀ queue ∈ arena.game.roundQueues round,
      2 * (actions * size) ≤ queue.capacity) →
    Lockstep arena.game.id actions size (arena.view hand round)

/-! ## Merges in flight -/

section Flight

variable {arena after : Arena} {hand later : Option Merge}

/-- With one merge for each user, the merge of a user is the one found. -/
theorem flight_eq_some_iff (users : ((arena.carried hand).map (·.user)).Nodup)
    {round : Nat} {user : UserId} {merge : Merge} :
    arena.flight hand round user = some merge ↔
      merge ∈ arena.carried hand ∧ merge.round = round ∧ merge.user = user := by
  constructor
  · intro found
    exact ⟨List.mem_of_find?_eq_some found, by simpa using List.find?_some found⟩
  · rintro ⟨member, sameRound, sameUser⟩
    cases found : arena.flight hand round user with
    | none =>
        have absent := List.find?_eq_none.mp found merge member
        simp [sameRound, sameUser] at absent
    | some other =>
        have same : other.round = round ∧ other.user = user := by
          simpa using List.find?_some found
        have otherMember := List.mem_of_find?_eq_some found
        rw [List.inj_on_of_nodup_map users otherMember member
          (same.2.trans sameUser.symm)]

theorem flight_eq_none_iff {round : Nat} {user : UserId} :
    arena.flight hand round user = none ↔
      ∀ merge ∈ arena.carried hand, merge.round = round → merge.user ≠ user := by
  simp [flight]

/-- The order of the merges does not matter. -/
theorem flight_perm (users : ((arena.carried hand).map (·.user)).Nodup)
    (perm : (after.carried later).Perm (arena.carried hand)) (round : Nat)
    (user : UserId) : after.flight later round user = arena.flight hand round user := by
  have usersAfter : ((after.carried later).map (·.user)).Nodup :=
    ((perm.map _).nodup_iff).mpr users
  apply Option.ext
  intro merge
  rw [flight_eq_some_iff users, flight_eq_some_iff usersAfter, perm.mem_iff]

variable {merge : Merge}

@[simp] theorem carried_hand (arena : Arena) (merge : Merge) :
    arena.carried (some merge) = merge :: arena.carried none := rfl

@[simp] theorem flight_hand (arena : Arena) (merge : Merge) :
    arena.flight (some merge) merge.round merge.user = some merge := by
  simp [flight]

/-- The merge being worked on is no other user's. -/
theorem flight_hand_other {round : Nat} {user : UserId}
    (differs : round = merge.round → user ≠ merge.user) :
    arena.flight (some merge) round user = arena.flight none round user := by
  have apart : ¬ (merge.round = round ∧ merge.user = user) := fun same =>
    differs same.1.symm same.2.symm
  simp [flight, apart]

/-- The user of the merge being worked on has no other. -/
theorem flight_none_hand (users : ((arena.carried (some merge)).map (·.user)).Nodup)
    (round : Nat) : arena.flight none round merge.user = none := by
  rw [flight_eq_none_iff]
  intro other member _ same
  rw [carried_hand, List.map_cons, List.nodup_cons] at users
  exact users.1 (List.mem_map.mpr ⟨other, member, same⟩)

end Flight

/-! ## Rounds that go on -/

/-- In a round that begins the seats are right, the queues are empty, and
nobody has sent anything. -/
structure Begins (arena : Arena) (hand : Option Merge) (round : Nat) : Prop where
  readers : ∀ queue ∈ arena.game.roundQueues round,
    queue.heads.length = (arena.game.roundQueues round).length
  own : ((arena.game.roundQueues round).map (·.user)).Nodup
  empty : ∀ queue ∈ arena.game.roundQueues round, queue.IsEmpty
  calls : ∀ call ∈ arena.calls, call.round ≠ round
  turns : ∀ turn ∈ arena.turns, turn.round ≠ round
  merges : ∀ merge ∈ arena.carried hand, merge.round ≠ round

/-- What becomes of each round whose queues are kept: it begins, or one thing
happens in it. -/
def Follows (arena : Arena) (hand : Option Merge) (after : Arena)
    (later : Option Merge) : Prop :=
  ∀ round, after.game.roundQueues round ≠ [] → after.Begins later round ∨
    ∀ actions size, after.Uniform round actions size →
      RoundView.Event arena.game.id actions size (arena.view hand round)
        (after.view later round)

variable {arena after : Arena} {hand later : Option Merge}

/-- The players of a round that begins are in step. -/
theorem Begins.lockstep {round actions size : Nat} (begins : arena.Begins hand round)
    (room : ∀ queue ∈ arena.game.roundQueues round,
      2 * (actions * size) ≤ queue.capacity) :
    Lockstep arena.game.id actions size (arena.view hand round) := by
  apply Lockstep.start
  · intro slot queue place
    have member := List.mem_of_getElem? place
    exact ⟨begins.readers queue member, room queue member⟩
  · intro slot other queue another place otherPlace same
    exact place_unique begins.own place otherPlace same
  · exact begins.empty
  · intro user
    exact flight_eq_none_iff.mpr fun merge member same =>
      absurd same (begins.merges merge member)
  · intro user
    simp only [view, messages, List.map_eq_nil_iff, List.filter_eq_nil_iff]
    intro call member
    simp [begins.calls call member]
  · intro user
    simp only [view, returns, List.filter_eq_nil_iff]
    intro turn member
    simp [begins.turns turn member]

/-- Whatever becomes of the rounds, their players stay in step. -/
theorem InStep.follows (inStep : arena.InStep hand) (id : after.game.id = arena.game.id)
    (calls : ∀ call ∈ arena.calls, call ∈ after.calls)
    (follows : arena.Follows hand after later) : after.InStep later := by
  intro round actions size uniform kept room
  rcases follows round kept with begins | event
  · exact begins.lockstep room
  · have event := event actions size uniform
    rw [id]
    refine (inStep round actions size (fun call member => uniform call (calls call member))
      ?_ fun queue member => ?_).step event
    · have players : (after.game.roundQueues round).length =
          (arena.game.roundQueues round).length := event.seats.players
      rw [← List.length_pos_iff_ne_nil] at kept ⊢
      exact players ▸ kept
    · obtain ⟨slot, place⟩ := List.getElem?_of_mem member
      obtain ⟨target, targetPlace, -, capacity⟩ := event.seats.forth place
      exact capacity ▸ room target (List.mem_of_getElem? targetPlace)

/-! ## One user acts in one round -/

/-- Whatever belongs to other users or other rounds is as before. -/
structure Acts (arena : Arena) (hand : Option Merge) (after : Arena)
    (later : Option Merge) (round : Nat) (user : UserId) : Prop where
  queues : ∀ other, other ≠ round →
    after.game.roundQueues other = arena.game.roundQueues other
  others : ∀ other person, (other = round → person ≠ user) →
    after.messages other person = arena.messages other person ∧
      after.returns other person = arena.returns other person ∧
      after.flight later other person = arena.flight hand other person

namespace Acts

variable {round : Nat} {user : UserId}

/-- In the round itself one user's part changes. -/
theorem change (acts : arena.Acts hand after later round user) {sent : List Bytes}
    {ended : List Turn} {merge : Option Merge}
    (messages : after.messages round user = arena.messages round user ++ sent)
    (returns : after.returns round user = arena.returns round user ++ ended)
    (flight : after.flight later round user = merge) :
    Change (arena.view hand round) (after.view later round) user sent ended merge :=
  ⟨messages, returns, flight, fun other differs =>
    acts.others round other fun _ => differs⟩

/-- In all other rounds nothing happens. -/
theorem follows (acts : arena.Acts hand after later round user)
    (event : ∀ actions size, after.Uniform round actions size →
      RoundView.Event arena.game.id actions size (arena.view hand round)
        (after.view later round)) : arena.Follows hand after later := by
  intro other kept
  apply Or.inr
  intro actions size uniform
  by_cases same : other = round
  · exact same ▸ event actions size (same ▸ uniform)
  · have others := fun person =>
      acts.others other person fun here => absurd here same
    refine .still ?_ (fun person => (others person).2.2) (fun person => (others person).1)
      fun person => (others person).2.1
    have queues : (after.view later other).queues = (arena.view hand other).queues :=
      acts.queues other same
    exact queues ▸ .refl _

end Acts

/-- A call adds a message to those of its user in its round. -/
theorem messages_append (arena : Arena) (call : Call) (round : Nat) (user : UserId) :
    messages { arena with calls := arena.calls ++ [call] } round user =
      arena.messages round user ++
        if call.round = round ∧ call.user = user then [call.data] else [] := by
  simp only [messages, List.filter_append, List.map_append]
  congr 1
  by_cases same : call.round = round ∧ call.user = user
  · simp [same]
  · simp [same]

theorem messages_append_of_not {arena : Arena} {call : Call} {round : Nat} {user : UserId}
    (other : ¬ (call.round = round ∧ call.user = user)) :
    messages { arena with calls := arena.calls ++ [call] } round user =
      arena.messages round user := by
  rw [messages_append, if_neg other, List.append_nil]

/-- The last turn of a call adds to those of its user in its round. -/
theorem returns_append (arena : Arena) (turn : Turn) (round : Nat) (user : UserId) :
    returns { arena with turns := arena.turns ++ [turn] } round user =
      arena.returns round user ++
        if turn.round = round ∧ turn.user = user ∧ turn.result.isSome then [turn]
        else [] := by
  simp only [returns, List.filter_append]
  congr 1
  by_cases same : turn.round = round ∧ turn.user = user ∧ turn.result.isSome
  · simp [same]
  · simp [same]

theorem returns_append_of_not {arena : Arena} {turn : Turn} {round : Nat} {user : UserId}
    (other : ¬ (turn.round = round ∧ turn.user = user ∧ turn.result.isSome)) :
    returns { arena with turns := arena.turns ++ [turn] } round user =
      arena.returns round user := by
  rw [returns_append, if_neg other, List.append_nil]

end Arena

end Netplay
