/-
Module: Netplay.Proofs.Arena
Purpose: Everything that can happen to one game, in any order, with a record of
  the input its members send and of what comes of it.
Main exports:
  Move, Call, Turn, Turn.frames, Arena, Arena.fresh, Room.next?_eq_some, Arena.step,
  Arena.run, Arena.messages, Arena.returns
-/
import Netplay.Game.Merge
import Netplay.Game.Play

namespace Netplay

/-- One thing that happens to a game. -/
inductive Move where
  | join (user : UserId)
  | start (user : UserId)
  | ready (user : UserId)
  | drop (user : UserId)
  | quit (user : UserId)
  | kick (user target : UserId)
  | close (user : UserId)
  /-- A gap in the messages of a user. -/
  | gap (user : UserId)
  /-- A member hands in a message of input. -/
  | input (user : UserId) (data : Bytes)
  /-- A parked merge is retried. -/
  | retry (ticket : Nat)
  /-- Time passes. -/
  | pass (milliseconds : Nat)
deriving Repr, DecidableEq

/-- A message of input handed in while a round is played. -/
structure Call where
  round : Nat
  user : UserId
  /-- The actions in one message of the round. -/
  actions : Nat
  data : Bytes
deriving Repr, DecidableEq

/-- One stretch of work on a call: it is begun, or its merge is retried. -/
structure Turn where
  round : Nat
  user : UserId
  letters : List Letter
  /-- What came of the call; none if its merge is parked. -/
  result : Option (Except Refusal Unit)

/-- Whether a letter carries a frame. -/
def Letter.isFrame (letter : Letter) : Bool :=
  match letter.event with
  | .game _ event => event.kind = .data
  | _ => false

/-- The frames sent in a turn. -/
def Turn.frames (turn : Turn) : List Letter := turn.letters.filter (·.isFrame)

/-- What a turn has come to, if it is the last one of its call. -/
def Progress.result? : Progress → Option (Except Refusal Unit)
  | .parked => none
  | .finished result => some result

/-- A game on a clock, and the record of its calls. -/
structure Arena where
  room : Room
  now : Nat
  /-- The ticket of the next merge. -/
  nextTicket : Nat
  /-- The calls made while a round was played, in order. -/
  calls : List Call
  /-- The turns of those calls, in order. -/
  turns : List Turn

namespace Arena

/-- A new game without members, at time zero. -/
def fresh (id : GameId) (name : String) (owner : User) (settings : GameSettings)
    (people : Roster) : Arena :=
  ⟨⟨Game.create id name owner settings, people⟩, 0, 0, [], []⟩

/-- The game of the arena. -/
abbrev game (arena : Arena) : Game := arena.room.game

/-- The same arena with another room. -/
def become (arena : Arena) (room : Room) : Arena := { arena with room := room }

/-- Put a turn of a call on record. -/
def record (arena : Arena) (round : Nat) (user : UserId)
    (outcome : Room × List Letter × Progress) : Arena :=
  { arena with
    room := outcome.1
    turns := arena.turns ++
      [⟨round, user, outcome.2.1, outcome.2.2.result?⟩] }

/-- Whether a call of a user is not over yet. -/
def isBusy (arena : Arena) (user : UserId) : Bool :=
  arena.game.inFlight.any (·.merge.user = user)

/-- A member hands in a message of input, once its last call is over.  The
call is put on record while a round is played; at other times it is refused
and leaves no trace. -/
def input (arena : Arena) (user : UserId) (data : Bytes) : Arena :=
  if user ∉ arena.game.members ∨ arena.isBusy user then arena
  else
    let outcome := arena.room.addData arena.now arena.nextTicket user data
    let handed := { arena with nextTicket := arena.nextTicket + 1 }
    if arena.game.status = .playing then
      let call : Call :=
        ⟨arena.game.round, user, arena.game.actionsPerMessage, data⟩
      { handed with calls := arena.calls ++ [call] }.record arena.game.round user
        outcome
    else handed.become outcome.1

/-- Retry a parked merge, if its queue has changed or its time has run out. -/
def retry (arena : Arena) (ticket : Nat) : Arena :=
  match arena.game.inFlight.find? (·.merge.ticket = ticket) with
  | none => arena
  | some parked =>
      if parked ∈ arena.game.woken ∨ parked.deadline ≤ arena.now then
        arena.record parked.merge.round parked.merge.user
          ((arena.room.unpark ticket).resume arena.now parked)
      else arena

end Arena

/-- The merge that a game retries next is in flight, and its queue has changed or its
time has run out. -/
theorem Room.next?_eq_some {room : Room} {now : Nat} {parked : ParkedMerge}
    (next : room.next? now = some parked) : parked ∈ room.game.inFlight ∧
      (parked ∈ room.game.woken ∨ parked.deadline ≤ now) := by
  unfold next? at next
  cases woken : room.game.woken with
  | cons head tail =>
      rw [woken] at next
      cases next
      have member : parked ∈ room.game.woken := woken ▸ List.mem_cons_self
      exact ⟨List.mem_append_right _ member, .inl List.mem_cons_self⟩
  | nil =>
      rw [woken] at next
      have due : parked.deadline ≤ now := by simpa using List.find?_some next
      exact ⟨List.mem_append_left _ (List.mem_of_find?_eq_some next), .inr due⟩

namespace Arena

/-- What one move makes of the arena.  Only users that somebody knows join. -/
def step (arena : Arena) : Move → Arena
  | .join user =>
      if (arena.room.people.find? user).isSome then
        arena.become (arena.room.join user).state
      else arena
  | .start user => arena.become (arena.room.start user).state
  | .ready user => arena.become (arena.room.ready user).state
  | .drop user => arena.become (arena.room.drop user).state
  | .quit user => arena.become (arena.room.quit user).state
  | .kick user target => arena.become (arena.room.kick user target).state
  | .close user => arena.become (arena.room.close user).state
  | .gap user => arena.become (arena.room.droppedPacket user).1
  | .input user data => arena.input user data
  | .retry ticket => arena.retry ticket
  | .pass milliseconds => { arena with now := arena.now + milliseconds }

/-- What a row of moves makes of the arena. -/
def run (arena : Arena) : List Move → Arena
  | [] => arena
  | move :: rest => (arena.step move).run rest

/-- The messages of a user in a round, in order. -/
def messages (arena : Arena) (round : Nat) (user : UserId) : List Bytes :=
  (arena.calls.filter fun call => call.round = round ∧ call.user = user).map (·.data)

/-- The last turns of those calls of a user in a round that are over, in
order. -/
def returns (arena : Arena) (round : Nat) (user : UserId) : List Turn :=
  arena.turns.filter fun turn =>
    turn.round = round ∧ turn.user = user ∧ turn.result.isSome

end Arena

end Netplay
