/-
Module: Netplay.Proofs.Hall
Purpose: Everything that can happen to one game, in any order and by anybody,
  with a tally of the time-outs that each message of input has met.
Main exports:
  TimeoutTally, Merge.tally, Room.lapses, Room.act, Room.Acts, Room.Does,
  Room.does_act, Room.acts_act, Room.Does.spares, Hall, Hall.fresh, Hall.step, Hall.run,
  Hall.does_step, Hall.settings_run, Hall.Attentive
-/
import Netplay.Proofs.Arena
import Netplay.Proofs.Conduct

namespace Netplay

/-- What is on record of a message of input: the queues it is merged from, and
the time-outs it has met. -/
structure TimeoutTally where
  ticket : Nat
  queues : Nat
  timeouts : Nat
deriving Repr, DecidableEq

/-- What a merge itself has counted. -/
def Merge.tally (merge : Merge) : TimeoutTally :=
  ⟨merge.ticket, merge.players, merge.timeouts⟩

/-- The tally with one more time-out. -/
def TimeoutTally.lapse (tally : TimeoutTally) : TimeoutTally :=
  { tally with timeouts := tally.timeouts + 1 }

namespace Room

/-- Whether retrying a parked merge counts a time-out: the read has failed, or
its time has run out. -/
def lapses (room : Room) (now : Nat) (parked : ParkedMerge) : Bool :=
  match room.game.queueAt? parked.merge.round parked.merge.slot with
  | none => false
  | some queue =>
      match queue.read parked.merge.reader parked.merge.share true with
      | .actions _ _ => false
      | .failed => true
      | .blocked => decide (parked.deadline ≤ now)

section Lapses

variable {room : Room} {now : Nat} {parked : ParkedMerge} {queue : ActionQueue}

/-- A share that is there is no time-out. -/
theorem lapses_of_answered {part : Bytes} {later : ActionQueue}
    (place : room.game.queueAt? parked.merge.round parked.merge.slot = some queue)
    (answered : queue.read parked.merge.reader parked.merge.share true = .actions part later) :
    room.lapses now parked = false := by
  rw [lapses, place]
  simp only [answered]

theorem lapses_of_failed
    (place : room.game.queueAt? parked.merge.round parked.merge.slot = some queue)
    (failed : queue.read parked.merge.reader parked.merge.share true = .failed) :
    room.lapses now parked = true := by
  rw [lapses, place]
  simp only [failed]

/-- Where the share is not there, the clock tells. -/
theorem lapses_of_blocked
    (place : room.game.queueAt? parked.merge.round parked.merge.slot = some queue)
    (blocked : queue.read parked.merge.reader parked.merge.share true = .blocked) :
    room.lapses now parked = decide (parked.deadline ≤ now) := by
  rw [lapses, place]
  simp only [blocked]

end Lapses

/-- What one move of a user makes of the game.  Only users that somebody knows
join. -/
def act (room : Room) : Move → Room
  | .join user => if (room.people.find? user).isSome then (room.join user).state else room
  | .start user => (room.start user).state
  | .ready user => (room.ready user).state
  | .drop user => (room.drop user).state
  | .quit user => (room.quit user).state
  | .kick user target => (room.kick user target).state
  | .close user => (room.close user).state
  | .gap user => (room.droppedPacket user).1
  | .input _ _ | .retry _ | .pass _ => room

/-- The move is a signal of a dropped member that it is ready. -/
def RejoinsBy (room : Room) : Move → Prop
  | .ready user => room.Rejoins user
  | _ => False

instance (room : Room) (move : Move) : Decidable (room.RejoinsBy move) := by
  cases move with
  | ready user => exact inferInstanceAs (Decidable (room.Rejoins user))
  | _ => exact inferInstanceAs (Decidable False)

/-- What a move of a user can make of the game when no dropped member signals
that it is ready. -/
inductive Acts (room : Room) : Room → Prop where
  | rest : Acts room room
  | joined {id : UserId} (new : id ∉ room.game.members) (waiting : room.game.status = .waiting)
      (space : room.game.members.length < room.game.settings.maxPlayers.toNat)
      (known : (room.people.find? id).isSome) : Acts room (room.joined id)
  | start {actions : Nat} (waiting : room.game.status = .waiting) :
      Acts room (room.commence actions)
  | ready {id : UserId} {slot : Nat} {status : GameStatus} {synched : Bool}
      (member : id ∈ room.game.members) (gathering : room.game.status = .synchronizing)
      (seat : room.game.slotFor? (room.people.person id) = some slot)
      (next : status = .synchronizing ∧ synched = room.game.synched ∨
        status = .playing ∧ synched = true)
      (plays : (room.people.person id).status = .playing) :
      Acts room
        { room with
          game := { room.game with
            queues := room.game.queues.modify slot (·.setSynched true)
            status := status
            synched := synched } }
  | drop {id : UserId} {slot : Nat} (member : id ∈ room.game.members)
      (seat : room.game.slotFor? (room.people.person id) = some slot) :
      Acts room (room.bench id slot)
  | left {id : UserId} (member : id ∈ room.game.members) : Acts room (room.left id)
  | kick (kicked : List UserId) :
      Acts room { room with game := { room.game with kicked := kicked } }
  | close {silent : Game} (dims : room.game.Dims silent)
      (mute : room.game.synched = true → ∀ queue ∈ silent.queues, queue.synched = false)
      (off : silent.synched = false) :
      Acts room
        ⟨{ silent with members := [] }.endRound, dismissed room.people room.game.members⟩
  | gap (slot : Nat) : Acts room { room with game := room.game.hush slot }

/-- What each move of a user makes of the game, whoever signals that it is ready. -/
inductive Does (room : Room) : Move → Room → Prop where
  | rest {move : Move} : Does room move room
  | join {id : UserId} (new : id ∉ room.game.members) (waiting : room.game.status = .waiting)
      (space : room.game.members.length < room.game.settings.maxPlayers.toNat)
      (known : (room.people.find? id).isSome) : Does room (.join id) (room.joined id)
  | start {id : UserId} {actions : Nat} (waiting : room.game.status = .waiting)
      (someone : room.game.members ≠ []) : Does room (.start id) (room.commence actions)
  | allReady {id : UserId} {slot : Nat} (member : id ∈ room.game.members)
      (gathering : room.game.status = .synchronizing)
      (seat : room.game.slotFor? (room.people.person id) = some slot)
      (all : ∀ queue ∈ room.marked slot, queue.synched = true) :
      Does room (.ready id)
        { room with
          game := { room.game with
            queues := room.marked slot, status := .playing, synched := true } }
  | ready {id : UserId} {slot : Nat} (member : id ∈ room.game.members)
      (gathering : room.game.status = .synchronizing)
      (seat : room.game.slotFor? (room.people.person id) = some slot)
      (missing : ∃ queue ∈ room.marked slot, queue.synched = false) :
      Does room (.ready id) { room with game := { room.game with queues := room.marked slot } }
  | drop {id : UserId} {slot : Nat} (member : id ∈ room.game.members)
      (seat : room.game.slotFor? (room.people.person id) = some slot) :
      Does room (.drop id) (room.bench id slot)
  | quit {id : UserId} (member : id ∈ room.game.members) : Does room (.quit id) (room.left id)
  | kick {id target : UserId} (kicked : List UserId) :
      Does room (.kick id target) { room with game := { room.game with kicked := kicked } }
  | close {silent : Game} (dims : room.game.Dims silent)
      (mute : room.game.synched = true → ∀ queue ∈ silent.queues, queue.synched = false)
      (off : silent.synched = false) :
      Does room (.close room.game.owner)
        ⟨{ silent with members := [] }.endRound, dismissed room.people room.game.members⟩
  | gap {id : UserId} (slot : Nat) :
      Does room (.gap id) { room with game := room.game.hush slot }

/-- A step that is refused does nothing. -/
theorem Does.of_refused {α : Type} {step : Step Room α} {room : Room} {move : Move}
    (refused : step.Refused room) : room.Does move step.state := by
  rw [refused.state]
  exact .rest

theorem Does.of_makes {α : Type} {step : Step Room α} {room after : Room} {move : Move}
    (makes : step.Makes after) (does : room.Does move after) : room.Does move step.state := by
  rw [makes.state]
  exact does

theorem does_act (room : Room) (move : Move) : room.Does move (room.act move) := by
  cases move with
  | join user =>
      rw [act]
      split
      · rename_i known
        rcases room.join_cases user with ⟨refused, -⟩ | ⟨new, -, waiting, space, makes⟩
        · exact .of_refused refused
        · exact .of_makes makes (.join new waiting space known)
      · exact .rest
  | start user =>
      rcases room.start_cases user with refused | ⟨-, waiting, someone, makes⟩
      · exact .of_refused refused
      · exact .of_makes makes (.start waiting someone)
  | ready user =>
      rcases room.ready_outcomes user with
        refused | ⟨slot, member, gathering, seat, ⟨all, makes⟩ | ⟨missing, makes⟩⟩
      · exact .of_refused refused
      · exact .of_makes makes (.allReady member gathering seat all)
      · exact .of_makes makes (.ready member gathering seat missing)
  | drop user =>
      rcases room.drop_cases user with ⟨refused, -⟩ | ⟨slot, member, -, seat, makes⟩
      · exact .of_refused refused
      · exact .of_makes makes (.drop member seat)
  | quit user =>
      rcases room.quit_cases user with ⟨refused, -⟩ | ⟨member, makes⟩
      · exact .of_refused refused
      · exact .of_makes makes (.quit member)
  | kick user target =>
      rcases room.kick_cases user target with refused | ⟨kicked, -, -, -, -, makes⟩
      · exact .of_refused refused
      · exact .of_makes makes (.kick kicked)
  | close user =>
      rcases room.close_cases user with ⟨refused, -⟩ | ⟨silent, rfl, dims, mute, off, makes⟩
      · exact .of_refused refused
      · exact .of_makes makes (.close dims mute off)
  | gap user =>
      rcases room.droppedPacket_cases user with same | ⟨slot, hushed⟩
      · rw [act, same]
        exact .rest
      · rw [act, hushed]
        exact .gap slot
  | input user data => exact .rest
  | retry ticket => exact .rest
  | pass milliseconds => exact .rest

/-- If no dropped member signals that it is ready, a move of a user makes nothing else of
the game. -/
theorem acts_act (room : Room) {move : Move} (attentive : ¬ room.RejoinsBy move) :
    room.Acts (room.act move) := by
  have does := room.does_act move
  generalize room.act move = after at does
  cases does with
  | rest => exact .rest
  | join new waiting space known => exact .joined new waiting space known
  | start waiting someone => exact .start waiting
  | allReady member gathering seat all =>
      apply Acts.ready member gathering seat (.inr ⟨rfl, rfl⟩)
      exact Decidable.not_not.mp fun rests => attentive ⟨member, gathering, rests⟩
  | ready member gathering seat missing =>
      apply Acts.ready member gathering seat (.inl ⟨gathering, rfl⟩)
      exact Decidable.not_not.mp fun rests => attentive ⟨member, gathering, rests⟩
  | drop member seat => exact .drop member seat
  | quit member => exact .left member
  | kick kicked => exact .kick kicked
  | close dims mute off => exact .close dims mute off
  | gap slot => exact .gap slot

end Room

/-- What no move of a user changes: who owns the game, its settings, and the merges in
flight. -/
structure Game.Spares (game after : Game) : Prop where
  owner : after.owner = game.owner
  settings : after.settings = game.settings
  flight : after.inFlight.Perm game.inFlight

namespace Game.Spares

variable {game after last : Game}

theorem trans (one : game.Spares after) (two : after.Spares last) : game.Spares last :=
  ⟨two.owner.trans one.owner, two.settings.trans one.settings, two.flight.trans one.flight⟩

theorem of_dims (dims : game.Dims after) : game.Spares after := by
  have flight := dims.inFlight
  obtain ⟨_, _, _, _, rfl⟩ := dims.frame
  exact ⟨rfl, rfl, flight⟩

/-- A round ends, whatever status the game has then. -/
theorem endRound (game : Game) (status : GameStatus) :
    game.Spares { game.endRound with status := status } := by
  obtain ⟨_, _, frame⟩ := game.endRound_frame
  rw [frame]
  exact ⟨rfl, rfl, .refl _⟩

theorem bench (room : Room) (id : UserId) (slot : Nat) :
    room.game.Spares (room.bench id slot).game := by
  have hushed : room.game.Spares (room.game.hush slot) := .of_dims (room.game.dims_hush slot)
  unfold Room.bench
  split
  · exact hushed
  · exact hushed.trans (.endRound _ .waiting)

end Game.Spares

theorem Room.Does.spares {room after : Room} {move : Move} (does : room.Does move after) :
    room.game.Spares after.game := by
  cases does with
  | rest => exact ⟨rfl, rfl, .refl _⟩
  | join new waiting space known => exact ⟨rfl, rfl, .refl _⟩
  | start waiting someone =>
      have ended := Game.Spares.endRound room.game .synchronizing
      exact ended.trans ⟨rfl, rfl, .refl _⟩
  | allReady member gathering seat all => exact ⟨rfl, rfl, .refl _⟩
  | ready member gathering seat missing => exact ⟨rfl, rfl, .refl _⟩
  | drop member seat => exact .bench ..
  | @quit id member =>
      rcases room.left_cases id with stays | ⟨slot, -, leaves⟩
      · rw [stays]
        exact ⟨rfl, rfl, .refl _⟩
      · rw [leaves]
        have benched := Game.Spares.bench room id slot
        exact benched.trans ⟨rfl, rfl, .refl _⟩
  | kick kicked => exact ⟨rfl, rfl, .refl _⟩
  | @close silent dims mute off =>
      have emptied : room.game.Spares { silent with members := [] } :=
        (Game.Spares.of_dims dims).trans ⟨rfl, rfl, .refl _⟩
      exact emptied.trans (.endRound _ _)
  | gap slot => exact .of_dims (room.game.dims_hush slot)

/-- A game on a clock, and the record of the messages of input. -/
structure Hall where
  room : Room
  now : Nat
  /-- The ticket of the next message. -/
  nextTicket : Nat
  calls : List TimeoutTally

namespace Hall

/-- A new game without members, at time zero. -/
def fresh (id : GameId) (name : String) (owner : User) (settings : GameSettings)
    (people : Roster) : Hall :=
  ⟨⟨Game.create id name owner settings, people⟩, 0, 0, []⟩

/-- Anybody hands in a message of input, at any time. -/
def input (hall : Hall) (user : UserId) (data : Bytes) : Hall :=
  { hall with
    room := (hall.room.addData hall.now hall.nextTicket user data).1
    nextTicket := hall.nextTicket + 1
    calls := hall.calls ++ [⟨hall.nextTicket, hall.room.game.queues.length, 0⟩] }

/-- Retry a parked merge, if its queue has changed or its time has run out. -/
def retry (hall : Hall) (ticket : Nat) : Hall :=
  match hall.room.game.inFlight.find? (·.merge.ticket = ticket) with
  | none => hall
  | some parked =>
      if parked ∈ hall.room.game.woken ∨ parked.deadline ≤ hall.now then
        { hall with
          room := ((hall.room.unpark ticket).resume hall.now parked).1
          calls := hall.calls.map fun call =>
            if call.ticket = ticket ∧ hall.room.lapses hall.now parked then call.lapse
            else call }
      else hall

/-- What one move makes of the hall. -/
def step (hall : Hall) : Move → Hall
  | .input user data => hall.input user data
  | .retry ticket => hall.retry ticket
  | .pass milliseconds => { hall with now := hall.now + milliseconds }
  | move => { hall with room := hall.room.act move }

/-- What a row of moves makes of the hall. -/
def run (hall : Hall) : List Move → Hall
  | [] => hall
  | move :: rest => (hall.step move).run rest

/-- Every move is one of a user, or work on merges. -/
theorem does_step (hall : Hall) (move : Move) :
    hall.room.Does move (hall.step move).room ∨ hall.room.Works (hall.step move).room := by
  cases move with
  | input user data => exact .inr (hall.room.works_addData hall.now hall.nextTicket user data)
  | retry ticket =>
      right
      change hall.room.Works (hall.retry ticket).room
      unfold retry
      split
      · exact .refl _
      · split
        · exact Room.works_retry ..
        · exact .refl _
  | pass milliseconds => exact .inr (.refl _)
  | join user => exact .inl (hall.room.does_act _)
  | start user => exact .inl (hall.room.does_act _)
  | ready user => exact .inl (hall.room.does_act _)
  | drop user => exact .inl (hall.room.does_act _)
  | quit user => exact .inl (hall.room.does_act _)
  | kick user target => exact .inl (hall.room.does_act _)
  | close user => exact .inl (hall.room.does_act _)
  | gap user => exact .inl (hall.room.does_act _)

/-- The settings of a game stay. -/
theorem settings_run (hall : Hall) (moves : List Move) :
    (hall.run moves).room.game.settings = hall.room.game.settings := by
  induction moves generalizing hall with
  | nil => rfl
  | cons move rest inductionHypothesis =>
      refine (inductionHypothesis _).trans ?_
      rcases hall.does_step move with does | works
      · exact does.spares.settings
      · exact (Game.Keeps.of_works works.game).settings

/-- No member that was dropped signals that it is ready. -/
def Attentive (hall : Hall) : List Move → Prop
  | [] => True
  | move :: rest => ¬ hall.room.RejoinsBy move ∧ (hall.step move).Attentive rest

instance decidableAttentive : (hall : Hall) → (moves : List Move) →
    Decidable (hall.Attentive moves)
  | _, [] => inferInstanceAs (Decidable True)
  | hall, move :: rest =>
      have := decidableAttentive (hall.step move) rest
      inferInstanceAs (Decidable (_ ∧ _))

end Hall

end Netplay
