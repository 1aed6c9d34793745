/-
Module: Netplay.Proofs.Round
Purpose: One round of a game as its players see it, and everything that can
  happen in it.
Main exports:
  RoundView, RoundView.Clean, RoundView.position, RoundView.Gathered,
  RoundView.Live, RoundView.Paced, RoundView.Fits, RoundView.Change,
  RoundView.Event, RoundView.Event.seats, RoundView.Event.change
-/
import Netplay.Proofs.ActionStream
import Netplay.Proofs.Arena
import Netplay.Proofs.Shares

namespace Netplay

/-- A round as its players see it.  Calls count from the moment when everybody
is ready. -/
structure RoundView where
  queues : List ActionQueue
  /-- The merge that a user has in flight. -/
  flight : UserId → Option Merge
  /-- The messages that a user has sent, in order. -/
  messages : UserId → List Bytes
  /-- The last turns of those calls of a user that are over, in order. -/
  returns : UserId → List Turn

namespace RoundView

/-- The number of players. -/
def players (view : RoundView) : Nat := view.queues.length

/-- No call of the user has failed. -/
def Clean (view : RoundView) (user : UserId) : Prop :=
  ∀ turn ∈ view.returns user, turn.result = some (.ok ())

/-- The shares that a user has collected for the frame it waits for. -/
def collected (view : RoundView) (user : UserId) : Nat :=
  ((view.flight user).map (·.parts.length)).getD 0

/-- How far a user has read the queue in place `slot`: whole messages for the
frames it has got, and one share for each visit since. -/
def position (view : RoundView) (actions size : Nat) (user : UserId) (slot : Nat) :
    Nat :=
  (view.returns user).length * (actions * size) +
    size * visits view.players (view.collected user) slot

/-- Shares collected for frame number `index`: each is the share of that
message of its player, or zeros in the place of a player out of synchrony. -/
def Gathered (view : RoundView) (size index : Nat) (parts : List Bytes) : Prop :=
  ∀ place part, parts[place]? = some part →
    part.length = size ∧
    ∀ queue, view.queues[place % view.players]? = some queue →
      (∃ message, (view.messages queue.user)[index]? = some message ∧
        part = share message (place / view.players) size) ∨
      (queue.synched = false ∧ part = List.replicate size 0)

/-- A player whose queue is in synchrony and none of whose calls has failed. -/
structure Live (view : RoundView) (slot : Nat) (queue : ActionQueue) : Prop where
  place : view.queues[slot]? = some queue
  synched : queue.synched = true
  clean : view.Clean queue.user

/-- A player keeps in step with a queue: it has read exactly the messages of
its frames, no more than was written, and two messages less at most. -/
structure Paced (view : RoundView) (actions size reader : Nat) (user : UserId)
    (slot : Nat) (queue : ActionQueue) : Prop where
  head : queue.heads[reader]? = some (view.position actions size user slot)
  bound : view.position actions size user slot ≤
    (view.messages queue.user).length * (actions * size)
  drift : (view.messages queue.user).length * (actions * size) ≤
    ((view.returns user).length + 2) * (actions * size)

/-- A player that stands where it stood keeps in step with a queue that is as
it was. -/
theorem Paced.still {view after : RoundView} {actions size reader : Nat}
    {user : UserId} {slot : Nat} {queue later : ActionQueue}
    (paced : view.Paced actions size reader user slot queue)
    (heads : later.heads = queue.heads)
    (messages : after.messages later.user = view.messages queue.user)
    (position : after.position actions size user slot =
      view.position actions size user slot)
    (returns : (view.returns user).length ≤ (after.returns user).length) :
    after.Paced actions size reader user slot later := by
  constructor
  · rw [heads, position]
    exact paced.head
  · rw [messages, position]
    exact paced.bound
  · rw [messages]
    exact Nat.le_trans paced.drift
      (Nat.mul_le_mul_right _ (Nat.add_le_add_right returns 2))

/-- A merge reads under the number of its user, for messages of the common
length, which is not zero. -/
structure Fits (view : RoundView) (actions size : Nat) (user : UserId)
    (merge : Merge) : Prop where
  sender : merge.user = user
  seat : ∃ slot queue, view.queues[slot]? = some queue ∧ queue.user = user ∧
    merge.reader.toNat = slot + 1
  breadth : merge.players = view.players
  height : merge.actions = actions
  width : merge.share = size
  positive : 0 < actions * size
  within : merge.parts.length ≤ actions * view.players

/-- The queues at a later time, when nothing was written or read. -/
def QueuesFade (before after : List ActionQueue) : Prop :=
  after.length = before.length ∧
    ∀ (slot : Nat) (later : ActionQueue), after[slot]? = some later →
      ∃ queue, before[slot]? = some queue ∧ queue.Fades later

/-- Of all that belongs to users, one user's part changes: it has sent these
messages more, these calls of it are over as well, and this is its merge. -/
structure Change (view after : RoundView) (user : UserId) (sent : List Bytes)
    (ended : List Turn) (merge : Option Merge) : Prop where
  messages : after.messages user = view.messages user ++ sent
  returns : after.returns user = view.returns user ++ ended
  flight : after.flight user = merge
  others : ∀ other, other ≠ user →
    after.messages other = view.messages other ∧
      after.returns other = view.returns other ∧
      after.flight other = view.flight other

/-- Every queue is one of the earlier view, in the same place, with the same
user, readers and capacity, and has not come into synchrony since. -/
structure SeatsStay (view after : RoundView) : Prop where
  players : after.players = view.players
  back : ∀ (slot : Nat) (later : ActionQueue), after.queues[slot]? = some later →
    ∃ queue, view.queues[slot]? = some queue ∧ later.user = queue.user ∧
      later.heads.length = queue.heads.length ∧
      later.capacity = queue.capacity ∧
      (later.synched = true → queue.synched = true)

/-- What can happen in a round whose messages all have `actions` actions of
`size` bytes. -/
inductive Event (game : GameId) (actions size : Nat) (view after : RoundView) :
    Prop where
  /-- Queues go out of synchrony, or time-outs are noted. -/
  | fade (user : UserId) (queues : QueuesFade view.queues after.queues)
      (change : Change view after user [] [] (view.flight user))
  /-- A player sends a message and begins a merge. -/
  | send (user : UserId) (data : Bytes) (merge : Merge) (slot : Nat)
      (queue : ActionQueue)
      (place : view.queues[slot]? = some queue) (owner : queue.user = user)
      (idle : view.flight user = none)
      (whole : data.length = actions * size)
      (clean : ∀ other, view.Clean other)
      (fits : view.Fits actions size user merge) (empty : merge.parts = [])
      (queues : after.queues = view.queues.modify slot (·.add data))
      (change : Change view after user [data] [] (some merge))
  /-- A message is refused. -/
  | refuse (user : UserId) (data : Bytes) (turn : Turn) (error : Refusal)
      (idle : view.flight user = none)
      (whole : data.length = actions * size)
      (mute : ∀ queue ∈ view.queues, queue.user = user → queue.synched = true →
        data = [])
      (result : turn.result = some (.error error))
      (queues : after.queues = view.queues)
      (change : Change view after user [data] [turn] none)
  /-- A merge collects the next share. -/
  | take (user : UserId) (merge : Merge) (queue later : ActionQueue) (part : Bytes)
      (busy : view.flight user = some merge)
      (more : merge.parts.length < merge.actions * merge.players)
      (place : view.queues[merge.slot]? = some queue)
      (read : queue.read merge.reader merge.share false = .actions part later)
      (queues : after.queues = view.queues.set merge.slot later)
      (change : Change view after user [] [] (some (merge.take part)))
  /-- A time-out is counted. -/
  | lapse (user : UserId) (merge : Merge) (timeouts : Nat)
      (busy : view.flight user = some merge)
      (queues : after.queues = view.queues)
      (change : Change view after user [] []
        (some { merge with timeouts := timeouts }))
  /-- A merge is complete, and its user gets the frame. -/
  | finish (user : UserId) (merge : Merge) (turn : Turn)
      (busy : view.flight user = some merge)
      (complete : merge.actions * merge.players ≤ merge.parts.length)
      (result : turn.result = some (.ok ()))
      (frame : turn.frames = [⟨user, .game game (.data merge.frame)⟩])
      (queues : after.queues = view.queues)
      (change : Change view after user [] [turn] none)
  /-- A merge fails. -/
  | fail (user : UserId) (merge : Merge) (turn : Turn) (error : Refusal)
      (busy : view.flight user = some merge)
      (result : turn.result = some (.error error))
      (queues : after.queues = view.queues)
      (change : Change view after user [] [turn] none)

variable {game : GameId} {actions size : Nat} {view after : RoundView}

/-- A user without a merge has collected nothing. -/
theorem collected_idle {user : UserId} (idle : view.flight user = none) :
    view.collected user = 0 := by
  simp [collected, idle]

theorem collected_busy {user : UserId} {merge : Merge}
    (busy : view.flight user = some merge) :
    view.collected user = merge.parts.length := by
  simp [collected, busy]

/-- A user stays where it is as long as it gets and collects nothing. -/
theorem position_eq {user : UserId} (players : after.players = view.players)
    (returns : after.returns user = view.returns user)
    (collected : after.collected user = view.collected user) (slot : Nat) :
    after.position actions size user slot = view.position actions size user slot := by
  rw [position, players, returns, collected, position]

namespace SeatsStay

theorem of_eq (queues : after.queues = view.queues) : SeatsStay view after where
  players := congrArg List.length queues
  back := fun _ later place => ⟨later, queues ▸ place, rfl, rfl, rfl, id⟩

/-- No queue is lost. -/
theorem forth (seats : SeatsStay view after) {slot : Nat} {queue : ActionQueue}
    (place : view.queues[slot]? = some queue) :
    ∃ later, after.queues[slot]? = some later ∧ later.user = queue.user ∧
      later.capacity = queue.capacity := by
  obtain ⟨within, -⟩ := List.getElem?_eq_some_iff.mp place
  have inside : slot < after.queues.length := by
    have same := seats.players
    simp only [RoundView.players] at same
    omega
  obtain ⟨same, samePlace, user, -, capacity, -⟩ :=
    seats.back slot _ (List.getElem?_eq_getElem inside)
  rw [place] at samePlace
  cases samePlace
  exact ⟨_, List.getElem?_eq_getElem inside, user, capacity⟩

/-- A merge that fits goes on fitting. -/
theorem fits (seats : SeatsStay view after) {user : UserId} {merge : Merge}
    (fits : view.Fits actions size user merge) :
    after.Fits actions size user merge := by
  obtain ⟨slot, queue, place, owner, reader⟩ := fits.seat
  obtain ⟨later, laterPlace, sameUser, -⟩ := seats.forth place
  exact ⟨fits.sender, ⟨slot, later, laterPlace, sameUser.trans owner, reader⟩,
    fits.breadth.trans seats.players.symm, fits.height, fits.width,
    fits.positive, seats.players ▸ fits.within⟩

/-- Shares already collected stay right when messages are only added. -/
theorem gathered (seats : SeatsStay view after)
    (grows : ∀ user, view.messages user <+: after.messages user) {index : Nat}
    {parts : List Bytes} (gathered : view.Gathered size index parts) :
    after.Gathered size index parts := by
  intro place part partPlace
  obtain ⟨width, source⟩ := gathered place part partPlace
  refine ⟨width, fun later laterPlace => ?_⟩
  rw [seats.players] at laterPlace ⊢
  obtain ⟨queue, queuePlace, user, -, -, fades⟩ := seats.back _ later laterPlace
  rcases source queue queuePlace with ⟨message, sent, partEq⟩ | ⟨silent, zeros⟩
  · refine Or.inl ⟨message, ?_, partEq⟩
    rw [user]
    obtain ⟨more, grown⟩ := grows queue.user
    rw [← grown, List.getElem?_append_left (List.getElem?_eq_some_iff.mp sent).1]
    exact sent
  · refine Or.inr ⟨?_, zeros⟩
    cases flag : later.synched with
    | false => rfl
    | true => rw [fades flag] at silent; cases silent

end SeatsStay

namespace Change

variable {user : UserId} {sent : List Bytes} {ended : List Turn}
  {merge : Option Merge}

theorem messages_prefix (change : Change view after user sent ended merge)
    (other : UserId) : view.messages other <+: after.messages other := by
  by_cases same : other = user
  · rw [same, change.messages]
    exact List.prefix_append ..
  · have still := (change.others other same).1
    exact still ▸ List.prefix_rfl

theorem returns_prefix (change : Change view after user sent ended merge)
    (other : UserId) : view.returns other <+: after.returns other := by
  by_cases same : other = user
  · rw [same, change.returns]
    exact List.prefix_append ..
  · have still := (change.others other same).2.1
    exact still ▸ List.prefix_rfl

/-- A user none of whose calls has failed by now had none failed before. -/
theorem clean (change : Change view after user sent ended merge) {other : UserId}
    (clean : after.Clean other) : view.Clean other :=
  fun turn member => clean turn ((change.returns_prefix other).subset member)

/-- The other users stay where they are. -/
theorem position_other (change : Change view after user sent ended merge)
    (players : after.players = view.players) {other : UserId}
    (differs : other ≠ user) (slot : Nat) :
    after.position actions size other slot =
      view.position actions size other slot := by
  obtain ⟨-, returns, flight⟩ := change.others other differs
  exact position_eq players returns (by rw [collected, flight, collected]) slot

/-- A user one of whose calls has just failed has not come through unharmed. -/
theorem not_clean {turn : Turn} {error : Refusal}
    (change : Change view after user sent [turn] merge)
    (result : turn.result = some (.error error)) : ¬ after.Clean user := by
  intro clean
  have success := clean turn (by rw [change.returns]; simp)
  rw [result] at success
  cases success

/-- When nothing is sent, all messages are as before. -/
theorem messages_eq (change : Change view after user [] ended merge)
    (other : UserId) : after.messages other = view.messages other := by
  by_cases same : other = user
  · rw [same, change.messages, List.append_nil]
  · exact (change.others other same).1

/-- When no call ends, all ended calls are as before. -/
theorem returns_eq (change : Change view after user sent [] merge)
    (other : UserId) : after.returns other = view.returns other := by
  by_cases same : other = user
  · rw [same, change.returns, List.append_nil]
  · exact (change.others other same).2.1

end Change

namespace Event

/-- Seats stay whatever happens. -/
theorem seats (event : Event game actions size view after) :
    SeatsStay view after := by
  cases event with
  | fade user queues change =>
      refine ⟨queues.1, fun slot later place => ?_⟩
      obtain ⟨queue, before, fades⟩ := queues.2 slot later place
      exact ⟨queue, before, fades.user, fades.readers, fades.capacity, fades.synched⟩
  | send user data merge slot queue place owner idle whole clean fits empty
      queues change =>
      refine ⟨?_, fun other later laterPlace => ?_⟩
      · rw [players, queues, List.length_modify]
        rfl
      · rw [queues, List.getElem?_modify] at laterPlace
        obtain ⟨earlier, earlierPlace, rfl⟩ := Option.map_eq_some_iff.mp laterPlace
        refine ⟨earlier, earlierPlace, ?_⟩
        split <;> simp
  | refuse user data turn error idle whole mute result queues change =>
      exact .of_eq queues
  | take user merge queue later part busy more place read queues change =>
      obtain ⟨heads, rfl, length⟩ := ActionQueue.read_keeps read
      refine ⟨?_, fun other another anotherPlace => ?_⟩
      · rw [players, queues, List.length_set]
        rfl
      · rw [queues, List.getElem?_set] at anotherPlace
        split at anotherPlace
        · rename_i same
          subst same
          split at anotherPlace
          · cases anotherPlace
            exact ⟨queue, place, rfl, length, rfl, id⟩
          · cases anotherPlace
        · exact ⟨another, anotherPlace, rfl, rfl, rfl, id⟩
  | lapse user merge timeouts busy queues change => exact .of_eq queues
  | finish user merge turn busy complete result frame queues change =>
      exact .of_eq queues
  | fail user merge turn error busy result queues change => exact .of_eq queues

/-- Whatever happens changes one user's part.  It sends one whole message at
most, and for each message either a call ends or a merge is in flight. -/
theorem change (event : Event game actions size view after) :
    ∃ user sent ended merge, Change view after user sent ended merge ∧
      (∀ message ∈ sent, message.length = actions * size) ∧
      sent.length + (if (view.flight user).isSome then 1 else 0) =
        ended.length + if merge.isSome then 1 else 0 := by
  cases event with
  | fade user queues change => exact ⟨user, _, _, _, change, by simp, rfl⟩
  | send user data merge slot queue place owner idle whole clean fits empty
      queues change =>
      exact ⟨user, _, _, _, change, by simpa using whole, by simp [idle]⟩
  | refuse user data turn error idle whole mute result queues change =>
      exact ⟨user, _, _, _, change, by simpa using whole, by simp [idle]⟩
  | take user merge queue later part busy more place read queues change =>
      exact ⟨user, _, _, _, change, by simp, by simp [busy]⟩
  | lapse user merge timeouts busy queues change =>
      exact ⟨user, _, _, _, change, by simp, by simp [busy]⟩
  | finish user merge turn busy complete result frame queues change =>
      exact ⟨user, _, _, _, change, by simp, by simp [busy]⟩
  | fail user merge turn error busy result queues change =>
      exact ⟨user, _, _, _, change, by simp, by simp [busy]⟩

/-- Who is live was live before. -/
theorem live (event : Event game actions size view after) {slot : Nat}
    {later : ActionQueue} (live : after.Live slot later) :
    ∃ own, view.Live slot own ∧ later.user = own.user := by
  obtain ⟨own, place, user, -, -, synched⟩ := event.seats.back slot later live.place
  obtain ⟨actor, sent, ended, merge, change, -⟩ := event.change
  exact ⟨own, ⟨place, synched live.synched, user ▸ change.clean live.clean⟩, user⟩

/-- Messages are only added, at the end. -/
theorem messages_prefix (event : Event game actions size view after)
    (other : UserId) : view.messages other <+: after.messages other := by
  obtain ⟨user, sent, ended, merge, change, -⟩ := event.change
  exact change.messages_prefix other

end Event

end RoundView

end Netplay
