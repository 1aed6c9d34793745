/-
Module: Netplay.ActionQueue
Purpose: The input of one player, buffered for every player of the game, and
  the reads that wait for more of it.
Main exports:
  ReadTimeout, ActionQueue, ActionQueue.setSynched, ActionQueue.add,
  ActionQueue.read, WaitingRead, ReadDesk, DeskMove, ReadDesk.step,
  ReadDesk.settle
-/
import Netplay.Bytes
import Netplay.User

namespace Netplay

/-!
A player appends the actions it sends; every player of the game, the sender
included, reads them back at its own pace, so a slow reader never takes input
from a fast one.  The buffer is a ring: what is written overwrites the oldest
actions, and a reader that falls a whole ring behind loses them.  While a queue
is out of synchrony it takes nothing in, and a new read gets zeros at once.

A read that cannot be answered waits.  It is woken when actions come or the
queue loses synchrony, and judges the queue as it is when it next looks.
-/

/-- A read that was not answered in time.  The number counts the time-outs of
one merge and is zero where there is none. -/
structure ReadTimeout where
  player : UInt8
  user : UserId
  number : Nat
deriving Repr, Inhabited, DecidableEq

/-- The text of a time-out. -/
def ReadTimeout.message (timeout : ReadTimeout) : String :=
  s!"player {timeout.player.toNat} (user {timeout.user.toNat}) " ++
    s!"timed out (#{timeout.number})"

/-- The input queue of one player. -/
structure ActionQueue where
  player : UInt8
  user : UserId
  /-- The longest a read may wait, in milliseconds. -/
  timeout : Nat
  /-- The size of the ring, in bytes. -/
  capacity : Nat
  /-- The cells of the ring. -/
  ring : Bytes
  /-- The bytes written since the queue was last emptied. -/
  written : Nat
  /-- For each reader, in order of player numbers, the bytes it has read or
  lost. -/
  heads : List Nat
  synched : Bool
  lastTimeout : Option ReadTimeout
deriving Repr, Inhabited, DecidableEq

/-- The answer to a read. -/
inductive Reading where
  /-- The actions, and the queue after they are read. -/
  | actions (read : Bytes) (after : ActionQueue)
  /-- The read has failed. -/
  | failed
  /-- More actions have to come first. -/
  | blocked
deriving Repr, Inhabited, DecidableEq

namespace ActionQueue

/-- The queue of player `player` in a game of `players`; its ring has `bufferSize`
bytes for each of them. -/
def create (player : UInt8) (user : UserId) (players bufferSize timeout : Nat) :
    ActionQueue :=
  { player := player
    user := user
    timeout := timeout
    capacity := max bufferSize 1 * max players 1
    ring := List.replicate (max bufferSize 1 * max players 1) 0
    written := 0
    heads := List.replicate (max players 1) 0
    synched := false
    lastTimeout := none }

/-- Bring the queue into or out of synchrony.  Losing synchrony empties it. -/
def setSynched (queue : ActionQueue) (synched : Bool) : ActionQueue :=
  if queue.synched = synched then queue
  else if synched then { queue with synched := true }
  else
    { queue with
      synched := false
      ring := List.replicate queue.capacity 0
      written := 0
      heads := queue.heads.map fun _ => 0 }

/-- Write one byte over the oldest one. -/
def push (queue : ActionQueue) (byte : UInt8) : ActionQueue :=
  { queue with
    ring := queue.ring.set (queue.written % queue.capacity) byte
    written := queue.written + 1 }

/-- Append actions.  A queue out of synchrony ignores them. -/
def add (queue : ActionQueue) (actions : Bytes) : ActionQueue :=
  if queue.synched then
    { actions.foldl push queue with lastTimeout := none }
  else queue

/-- Remember the latest time-out blamed on this queue. -/
def noteTimeout (queue : ActionQueue) (timeout : ReadTimeout) : ActionQueue :=
  { queue with lastTimeout := some timeout }

/-- The bytes that the reader in place `index` has read or lost. -/
def head? (queue : ActionQueue) (index : Nat) : Option Nat :=
  (queue.heads[index]?).map fun head =>
    max head (queue.written - queue.capacity)

/-- So many bytes of the ring, beginning with the one written at position
`head`. -/
def cells (queue : ActionQueue) : (head count : Nat) → Bytes
  | _, 0 => []
  | head, count + 1 =>
      queue.ring.getD (head % queue.capacity) 0 :: queue.cells (head + 1) count

/-- Read `count` bytes for the player `reader`.  `waited` tells a read that
has been waiting from a new one: when the queue is out of synchrony the
former fails and the latter gets zeros. -/
def read (queue : ActionQueue) (reader : UInt8) (count : Nat) (waited : Bool) :
    Reading :=
  if reader = 0 then .failed
  else
    let index := reader.toNat - 1
    match queue.head? index with
    | none => .failed
    | some head =>
        if !queue.synched then
          if waited then .failed
          else .actions (List.replicate count 0) queue
        else if queue.written - head < count then .blocked
        else
          .actions (queue.cells head count)
            { queue with heads := queue.heads.set index (head + count) }

/-- The time-out of a read that is no part of a merge. -/
def timedOut (queue : ActionQueue) : ReadTimeout :=
  ⟨queue.player, queue.user, 0⟩

end ActionQueue

/-! ## Waiting reads -/

/-- A read that waits; `ticket` tells it from others. -/
structure WaitingRead where
  ticket : Nat
  reader : UInt8
  count : Nat
  deadline : Nat
  /-- The read was woken and has not looked at the queue since. -/
  woken : Bool
deriving Repr, Inhabited, DecidableEq

/-- A finished read: its ticket and what came of it. -/
structure FinishedRead where
  ticket : Nat
  result : Except ReadTimeout Bytes
deriving Repr, Inhabited

/-- A queue on a clock, with the reads that wait for it, longest wait first. -/
structure ReadDesk where
  now : Nat
  queue : ActionQueue
  waiting : List WaitingRead
deriving Repr, Inhabited, DecidableEq

/-- One thing that happens at the desk of a queue. -/
inductive DeskMove where
  /-- The queue is brought into or out of synchrony. -/
  | synch (on : Bool)
  | add (actions : Bytes)
  /-- A time-out is noted at the queue. -/
  | note (number : Nat)
  /-- A reader asks for actions. -/
  | get (ticket : Nat) (reader : UInt8) (count : Nat)
  /-- Time passes. -/
  | pass (milliseconds : Nat)
  /-- A waiting read gets to look whether it can go on. -/
  | look (ticket : Nat)
deriving Repr, DecidableEq

namespace ReadDesk

/-- A desk for a new queue at time zero. -/
def create (queue : ActionQueue) : ReadDesk := ⟨0, queue, []⟩

/-- Wake every waiting read if there is a reason to. -/
def wake (desk : ReadDesk) (reason : Bool) : ReadDesk :=
  { desk with
    waiting := desk.waiting.map fun read =>
      { read with woken := read.woken || reason } }

/-- A read waits no more. -/
def dismiss (desk : ReadDesk) (read : WaitingRead) : ReadDesk :=
  { desk with waiting := desk.waiting.erase read }

/-- A read goes back to wait for the next waking. -/
def hold (desk : ReadDesk) (read : WaitingRead) : ReadDesk :=
  { desk with
    waiting := desk.waiting.map fun other =>
      if other = read then { read with woken := false } else other }

/-- Start a read.  It is answered or fails at once, or begins to wait with its
time running from now on. -/
def ask (desk : ReadDesk) (ticket : Nat) (reader : UInt8) (count : Nat) :
    ReadDesk × List FinishedRead :=
  match desk.queue.read reader count false with
  | .actions bytes after =>
      ({ desk with queue := after }, [⟨ticket, .ok bytes⟩])
  | .failed => (desk, [⟨ticket, .error desk.queue.timedOut⟩])
  | .blocked =>
      let deadline := desk.now + desk.queue.timeout
      ({ desk with
          waiting := desk.waiting ++ [⟨ticket, reader, count, deadline, false⟩] },
        [])

/-- A waiting read looks.  Unless it was woken or its time has run out, it goes
on waiting.  One whose time has run out ends, answered if there is enough. -/
def look (desk : ReadDesk) (ticket : Nat) : ReadDesk × List FinishedRead :=
  match desk.waiting.find? (·.ticket = ticket) with
  | none => (desk, [])
  | some read =>
      if !read.woken ∧ desk.now < read.deadline then (desk, [])
      else
        match desk.queue.read read.reader read.count true with
        | .actions bytes after =>
            ({ desk.dismiss read with queue := after },
              [⟨ticket, .ok bytes⟩])
        | .failed =>
            (desk.dismiss read, [⟨ticket, .error desk.queue.timedOut⟩])
        | .blocked =>
            if read.deadline ≤ desk.now then
              (desk.dismiss read, [⟨ticket, .error desk.queue.timedOut⟩])
            else (desk.hold read, [])

/-- What one move makes of the desk, and the reads that it ends.  Waiting reads
are woken by actions that are taken in and by the loss of synchrony. -/
def step (desk : ReadDesk) : DeskMove → ReadDesk × List FinishedRead
  | .synch on =>
      let next := { desk with queue := desk.queue.setSynched on }
      (next.wake (desk.queue.synched && !on), [])
  | .add actions =>
      let next := { desk with queue := desk.queue.add actions }
      (next.wake desk.queue.synched, [])
  | .note number =>
      let timeout := { desk.queue.timedOut with number := number }
      ({ desk with queue := desk.queue.noteTimeout timeout }, [])
  | .get ticket reader count => desk.ask ticket reader count
  | .pass milliseconds => ({ desk with now := desk.now + milliseconds }, [])
  | .look ticket => desk.look ticket

/-- Let waiting reads look one after the other. -/
def lookAll (desk : ReadDesk) : List Nat → ReadDesk × List FinishedRead
  | [] => (desk, [])
  | ticket :: rest =>
      let (next, ended) := desk.look ticket
      let (final, more) := next.lookAll rest
      (final, ended ++ more)

/-- Let every waiting read look, longest wait first. -/
def settle (desk : ReadDesk) : ReadDesk × List FinishedRead :=
  desk.lookAll (desk.waiting.map (·.ticket))

/-! ### Moves after which every waiting read looks at once -/

/-- A move, and then every waiting read looks. -/
def act (desk : ReadDesk) (move : DeskMove) : ReadDesk × List FinishedRead :=
  let (next, ended) := desk.step move
  let (final, more) := next.settle
  (final, ended ++ more)

/-- Bring the queue into or out of synchrony. -/
def setSynched (desk : ReadDesk) (synched : Bool) :
    ReadDesk × List FinishedRead :=
  desk.act (.synch synched)

/-- Append actions. -/
def add (desk : ReadDesk) (actions : Bytes) : ReadDesk × List FinishedRead :=
  desk.act (.add actions)

/-- Remember a time-out. -/
def noteTimeout (desk : ReadDesk) (number : Nat) :
    ReadDesk × List FinishedRead :=
  desk.act (.note number)

/-- Start a read. -/
def get (desk : ReadDesk) (ticket : Nat) (reader : UInt8) (count : Nat) :
    ReadDesk × List FinishedRead :=
  desk.act (.get ticket reader count)

/-- Let time pass. -/
def advance (desk : ReadDesk) (milliseconds : Nat) :
    ReadDesk × List FinishedRead :=
  desk.act (.pass milliseconds)

end ReadDesk

end Netplay
