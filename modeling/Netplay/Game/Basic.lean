/-
Module: Netplay.Game.Basic
Purpose: A game: its members, the input queues of the match it plays and the
  merges in flight.
Main exports:
  Merge, ParkedMerge, EndedRound, Game, Room, Game.create, Game.summary,
  Game.tellAll, Game.allQueues, Game.silence, Game.desynchAll, Game.endRound
-/
import Netplay.ActionQueue
import Netplay.Refusal
import Netplay.Settings

namespace Netplay

/-!
A game gathers members, and its owner starts matches, here called rounds.
Each player of a round has a queue for its input.  A message of input starts a
merge: it collects, action by action, one share of input from every queue of
the round and gives the whole frame to the sender.  Where a queue has too
little, the merge is parked until the queue changes or its time runs out.

Merges outlive changes of the game.  They keep the number of their round, and
an ended round keeps its queues as long as a merge reads them.
-/

/-- A message of input on its way to becoming a frame. -/
structure Merge where
  /-- Tells the merge from others. -/
  ticket : Nat
  /-- The sender, who alone gets the frame. -/
  user : UserId
  /-- The round it belongs to. -/
  round : Nat
  /-- The player number under which it reads. -/
  reader : UInt8
  /-- The actions of the message. -/
  actions : Nat
  /-- The bytes of one action. -/
  share : Nat
  /-- The players of the round. -/
  players : Nat
  /-- The shares collected so far, the last one first. -/
  parts : List Bytes
  /-- The time-outs met so far. -/
  timeouts : Nat
deriving Repr, Inhabited, DecidableEq

namespace Merge

/-- The place of the queue that the merge reads next. -/
def slot (merge : Merge) : Nat := merge.parts.length % merge.players

/-- The shares still to be collected. -/
def remaining (merge : Merge) : Nat :=
  merge.actions * merge.players - merge.parts.length

/-- The collected shares in order. -/
def frame (merge : Merge) : Bytes := merge.parts.reverse.flatten

/-- The merge with one more share. -/
def take (merge : Merge) (part : Bytes) : Merge :=
  { merge with parts := part :: merge.parts }

end Merge

/-- A merge that waits for a queue until the given time. -/
structure ParkedMerge where
  merge : Merge
  deadline : Nat
deriving Repr, Inhabited, DecidableEq

/-- The queues of a round that is over. -/
structure EndedRound where
  number : Nat
  queues : List ActionQueue
deriving Repr, Inhabited, DecidableEq

/-- A game. -/
structure Game where
  id : GameId
  name : String
  emulator : String
  owner : UserId
  /-- The serial of the owner, whose number may be another user's once the owner
  has left. -/
  ownerSerial : Nat
  settings : GameSettings
  status : GameStatus
  /-- The members in the order they joined. -/
  members : List UserId
  /-- Users who may not come back. -/
  kicked : List UserId
  /-- Whether input is merged. -/
  synched : Bool
  /-- The number of rounds started. -/
  round : Nat
  /-- The queues of the current round, in order of player numbers; none when
  no round is on. -/
  queues : List ActionQueue
  /-- The users those queues belong to, in the same order. -/
  queueUsers : List UserId
  /-- The actions in one message of input. -/
  actionsPerMessage : Nat
  /-- Earlier rounds that a merge still reads. -/
  ended : List EndedRound
  /-- The parked merges, longest wait first. -/
  waiting : List ParkedMerge
  /-- Parked merges whose queue has changed, in the order they are to be
  retried. -/
  woken : List ParkedMerge
deriving Repr, Inhabited, DecidableEq

/-- A game and everyone who may take part in it. -/
structure Room where
  game : Game
  people : Roster
deriving Repr, Inhabited, DecidableEq

/-- The user with a given number, a stranger without a name if nobody has
it. -/
def Roster.person (people : Roster) (id : UserId) : User :=
  (people.find? id).getD (User.connecting id ⟨"", 0⟩ "")

namespace Game

/-- A new game without members. -/
def create (id : GameId) (name : String) (owner : User)
    (settings : GameSettings) : Game :=
  { id := id
    name := name
    emulator := owner.emulator
    owner := owner.id
    ownerSerial := owner.serial
    settings := settings
    status := .waiting
    members := []
    kicked := []
    synched := false
    round := 0
    queues := []
    queueUsers := []
    actionsPerMessage := 0
    ended := []
    waiting := []
    woken := [] }

/-- The name of the owner, also after it has left the relay. -/
def ownerName (game : Game) (people : Roster) : String :=
  match people.same? game.owner game.ownerSerial with
  | some owner => owner.name
  | none => ""

/-- The game as it is shown to everyone. -/
def summary (game : Game) (people : Roster) : GameSummary :=
  { id := game.id
    name := game.name
    emulator := game.emulator
    owner := game.owner
    ownerName := game.ownerName people
    status := game.status
    players := UInt8.ofNat game.members.length
    maxPlayers := game.settings.maxPlayers }

/-- Letters that tell an event to every member. -/
def tellAll (game : Game) (event : GameEvent) : List Letter :=
  Letter.toAll game.members (.game game.id event)

/-- The number of queues in synchrony. -/
def synchedCount (game : Game) : Nat :=
  game.queues.countP (·.synched)

/-- The place of a user's queue, by its player number. -/
def slotFor? (game : Game) (user : User) : Option Nat :=
  if user.player = 0 ∨ game.queues.length < user.player.toNat then none
  else some (user.player.toNat - 1)

/-- The merges in flight. -/
def inFlight (game : Game) : List ParkedMerge := game.waiting ++ game.woken

/-- The queues of the current round and those kept from ended ones. -/
def allQueues (game : Game) : List ActionQueue :=
  game.queues ++ game.ended.flatMap (·.queues)

/-- The queue in place `slot` of a round. -/
def queueAt? (game : Game) (round slot : Nat) : Option ActionQueue :=
  if round = game.round ∧ game.queues ≠ [] then game.queues[slot]?
  else (game.ended.find? (·.number = round)).bind (·.queues[slot]?)

/-- Replace the queue in place `slot` of a round. -/
def setQueueAt (game : Game) (round slot : Nat) (queue : ActionQueue) : Game :=
  if round = game.round ∧ game.queues ≠ [] then
    { game with queues := game.queues.set slot queue }
  else
    { game with
      ended := game.ended.map fun ended =>
        if ended.number = round then
          { ended with queues := ended.queues.set slot queue }
        else ended }

/-- Whether a parked merge waits for the queue in place `slot` of a round. -/
def awaits (round slot : Nat) (parked : ParkedMerge) : Bool :=
  parked.merge.round = round && parked.merge.slot = slot

/-- Wake the merges that wait for a queue, longest wait first. -/
def wake (game : Game) (round slot : Nat) : Game :=
  { game with
    waiting := game.waiting.filter fun parked => !awaits round slot parked
    woken := game.woken ++ game.waiting.filter (awaits round slot) }

/-- Put the queue in place `slot` of the current round out of synchrony and
wake the merges that wait for it. -/
def silence (game : Game) (slot : Nat) : Game :=
  match game.queues[slot]? with
  | none => game
  | some queue =>
      if queue.synched then
        { game with queues := game.queues.set slot (queue.setSynched false) }.wake
          game.round slot
      else game

/-- Stop merging and put every queue out of synchrony. -/
def desynchAll (game : Game) : Game :=
  (List.range game.queues.length).foldl silence { game with synched := false }

/-- The notice that a game has too few players in synchrony. -/
def aloneNotice : String := "Game desynched: less than 2 players synched"

/-- Stop merging when fewer than two queues are left in synchrony, and say
so. -/
def desynchIfAlone (game : Game) : Game × List Letter :=
  if game.synched ∧ game.synchedCount < 2 then
    (game.desynchAll, game.tellAll (.desynch aloneNotice))
  else (game, [])

/-- End the current round, if one is on.  Its queues are kept as long as a
merge in flight belongs to it. -/
def endRound (game : Game) : Game :=
  if game.queues = [] then game
  else
    { game with
      queues := []
      queueUsers := []
      ended := (⟨game.round, game.queues⟩ :: game.ended).filter fun ended =>
        game.inFlight.any (·.merge.round = ended.number) }

end Game

end Netplay
