/-
Module: Netplay.Game.Merge
Purpose: Messages of input become frames: the merge, its waits and the lag
  policy.
Main exports:
  Progress, Finished, Room.noteTimeout, Room.collect, Room.addData,
  Room.resume, Room.turn, Room.settle, Room.advance
-/
import Netplay.Game.Basic

namespace Netplay

/-- How far a merge has come. -/
inductive Progress where
  /-- It waits for a queue. -/
  | parked
  /-- It is over. -/
  | finished (result : Except Refusal Unit)
deriving Inhabited

/-- A merge that is over: its ticket and what came of it. -/
structure Finished where
  ticket : Nat
  result : Except Refusal Unit
deriving Inhabited

namespace Room

/-- Blame a time-out on the player whose queue was read.  The player is told
to be lagging, and from the number of time-outs in the settings on it is put
out of synchrony.  Nothing happens when the game merges no more, when the
queue is out of synchrony, or when this time-out is the last one noted. -/
def noteTimeout (room : Room) (timeout : ReadTimeout) : Room × List Letter :=
  let game := room.game
  let slot := timeout.player.toNat - 1
  if !game.synched ∨ timeout.player = 0 then (room, [])
  else
    match game.queues[slot]? with
    | none => (room, [])
    | some queue =>
        if !queue.synched ∨ queue.lastTimeout = some timeout then (room, [])
        else
          let player := room.people.person (game.queueUsers.getD slot 0)
          let noted :=
            { game with
              queues := game.queues.set slot (queue.noteTimeout timeout) }
          if timeout.number < game.settings.desynchTimeouts then
            ({ room with game := noted },
              noted.tellAll (.timeout player timeout.number))
          else
            let silent := noted.silence slot
            let told :=
              silent.tellAll
                (.playerDesynch player (player.name ++ " desynched: lagged"))
            let (settled, more) := silent.desynchIfAlone
            ({ room with game := settled }, told ++ more)

/-- Park a merge behind those that already wait. -/
def park (room : Room) (merge : Merge) (deadline : Nat) : Room :=
  { room with
    game :=
      { room.game with
        waiting := room.game.waiting ++ [⟨merge, deadline⟩] } }

/-- Collect up to `remaining` more shares without waiting.  A complete merge
gives the frame to its sender; one that meets a queue with too little is
parked; and when the game merges no more it fails. -/
def collect (room : Room) (now : Nat) (merge : Merge) :
    Nat → Room × List Letter × Progress
  | 0 =>
      if !room.game.synched then
        (room, [], .finished (.error (.desynched room.game.id)))
      else
        (room, [⟨merge.user, .game room.game.id (.data merge.frame)⟩],
          .finished (.ok ()))
  | remaining + 1 =>
      if !room.game.synched then
        (room, [], .finished (.error (.desynched room.game.id)))
      else
        match room.game.queueAt? merge.round merge.slot with
        | none => (room.park merge now, [], .parked)
        | some queue =>
            match queue.read merge.reader merge.share false with
            | .actions part after =>
                let game :=
                  room.game.setQueueAt merge.round merge.slot after
                collect { room with game := game } now (merge.take part)
                  remaining
            | .failed => (room.park merge now, [], .parked)
            | .blocked =>
                (room.park merge (now + queue.timeout), [], .parked)

/-- Take in a message of input: queue it and begin to merge. -/
def addData (room : Room) (now ticket : Nat) (id : UserId) (data : Bytes) :
    Room × List Letter × Progress :=
  let game := room.game
  let user := room.people.person id
  let refuse := fun refusal : Refusal =>
    (room, ([] : List Letter), Progress.finished (.error refusal))
  if !game.synched then refuse (.desynched game.id)
  else
    match game.slotFor? user with
    | none => refuse (.invalidPlayerNumber user.player)
    | some slot =>
        let actions := game.actionsPerMessage
        if actions = 0 then refuse (.dataRejected .noActions)
        else if data.length / actions = 0 then
          refuse (.dataRejected (.tooShort data.length actions))
        else
          let heard :=
            if game.queues[slot]?.any (·.synched) then
              { game with
                queues := game.queues.modify slot (·.add data) }.wake
                game.round slot
            else game
          let merge : Merge :=
            { ticket := ticket
              user := id
              round := game.round
              reader := user.player
              actions := actions
              share := data.length / actions
              players := game.queues.length
              parts := []
              timeouts := 0 }
          collect { room with game := heard } now merge merge.remaining

/-- Retry a parked merge that has been taken off the lists.  When its queue
still has too little it goes on waiting, unless its time has run out or the
read has failed: then the time-out is counted and the read begins anew. -/
def resume (room : Room) (now : Nat) (parked : ParkedMerge) :
    Room × List Letter × Progress :=
  let merge := parked.merge
  match room.game.queueAt? merge.round merge.slot with
  | none => (room, [], .finished (.error (.desynched room.game.id)))
  | some queue =>
      let lapsed :=
        let counted := { merge with timeouts := merge.timeouts + 1 }
        let (noted, told) :=
          room.noteTimeout ⟨queue.player, queue.user, counted.timeouts⟩
        let (next, more, progress) := noted.collect now counted counted.remaining
        (next, told ++ more, progress)
      match queue.read merge.reader merge.share true with
      | .actions part after =>
          let game := room.game.setQueueAt merge.round merge.slot after
          let taken := merge.take part
          collect { room with game := game } now taken taken.remaining
      | .failed => lapsed
      | .blocked =>
          if parked.deadline ≤ now then lapsed
          else (room.park merge parked.deadline, [], .parked)

/-- The merge to be retried next: the first woken one, else the first whose
time has run out. -/
def next? (room : Room) (now : Nat) : Option ParkedMerge :=
  match room.game.woken with
  | parked :: _ => some parked
  | [] => room.game.waiting.find? (·.deadline ≤ now)

/-- Take a merge off the lists. -/
def unpark (room : Room) (ticket : Nat) : Room :=
  { room with
    game :=
      { room.game with
        waiting := room.game.waiting.filter (·.merge.ticket ≠ ticket)
        woken := room.game.woken.filter (·.merge.ticket ≠ ticket) } }

/-- Retry one merge if there is one to be retried. -/
def turn (room : Room) (now : Nat) :
    Option (Room × List Letter × Option Finished) :=
  (room.next? now).map fun parked =>
    let ticket := parked.merge.ticket
    let (after, letters, progress) := (room.unpark ticket).resume now parked
    match progress with
    | .parked => (after, letters, none)
    | .finished result => (after, letters, some ⟨ticket, result⟩)

/-- Retry merges, at most `turns` times, until none can proceed. -/
def run (room : Room) (now : Nat) : Nat → Room × List Letter × List Finished
  | 0 => (room, [], [])
  | turns + 1 =>
      match room.turn now with
      | none => (room, [], [])
      | some (after, letters, finished) =>
          let (final, more, others) := after.run now turns
          (final, letters ++ more, finished.toList ++ others)

/-- More turns than merges can take at one instant: each ends a merge, counts
one of its time-outs, or answers the change of a queue. -/
def patience (room : Room) : Nat :=
  let queues := room.game.allQueues.length
  room.game.inFlight.length *
      (room.game.settings.desynchTimeouts + 2 * queues + 4) + 1

/-- Let every merge proceed as far as it can at this instant. -/
def settle (room : Room) (now : Nat) : Room × List Letter × List Finished :=
  room.run now room.patience

/-- The earliest time at which a parked merge runs out of time. -/
def nextDeadline? (room : Room) : Option Nat :=
  (room.game.waiting.map (·.deadline)).min?

/-- Let time pass until `target`, stopping at most `stops` times on the way
where the time of a merge runs out. -/
def passTime (room : Room) (target : Nat) :
    Nat → Room × List Letter × List Finished
  | 0 => (room, [], [])
  | stops + 1 =>
      match room.nextDeadline? with
      | none => (room, [], [])
      | some deadline =>
          if target < deadline then (room, [], [])
          else
            let (after, letters, finished) := room.settle deadline
            let (final, more, others) := after.passTime target stops
            (final, letters ++ more, finished ++ others)

/-- Let time pass from `now` by `milliseconds`. -/
def advance (room : Room) (now milliseconds : Nat) :
    Room × List Letter × List Finished :=
  room.passTime (now + milliseconds)
    (room.game.inFlight.length * (milliseconds + 1) + 1)

end Room

end Netplay
