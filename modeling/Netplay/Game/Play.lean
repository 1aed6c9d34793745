/-
Module: Netplay.Game.Play
Purpose: What members do in a game: join, start, get ready, drop, quit, kick,
  close and chat.
Main exports:
  Room.join, Room.start, Room.ready, Room.drop, Room.quit, Room.kick,
  Room.close, Room.chat, Room.announce, Room.droppedPacket
-/
import Netplay.Game.Basic

namespace Netplay.Room

/-- Add a user to the game; the result is its player number. -/
def join (room : Room) (id : UserId) : Step Room UInt8 :=
  let game := room.game
  if id ∈ game.members then .refuse room (.alreadyInGame id)
  else if id ∈ game.kicked then
    .refuse room (.denied (.kickedFrom game.name))
  else if game.status ≠ .waiting then
    .refuse room (.wrongStatus game.id game.status)
  else if game.settings.maxPlayers.toNat ≤ game.members.length then
    .refuse room (.gameFull game.id)
  else
    let members := game.members ++ [id]
    let player := UInt8.ofNat members.length
    let people := room.people.update id (·.enterGame game.id player)
    let joined := { game with members := members }
    .done ⟨joined, people⟩
      (joined.tellAll (.userJoined (people.person id) (members.map people.person)))
      player

/-- Make every member a player, in the order they joined. -/
def numberPlayers (people : Roster) (members : List UserId)
    (change : UInt8 → User → User) : Roster :=
  members.zipIdx.foldl
    (fun people (id, index) =>
      people.update id (change (UInt8.ofNat (index + 1))))
    people

/-- Start a round.  Only the owner may, and all members must have the
connection type of the owner. -/
def start (room : Room) (id : UserId) : Step Room Unit :=
  let game := room.game
  if id ≠ game.owner then .refuse room (.notOwner game.id)
  else if game.status ≠ .waiting then
    .refuse room (.wrongStatus game.id game.status)
  else if game.members = [] then .refuse room (.denied .noPlayers)
  else
    let wanted := (room.people.person game.owner).connectionType
    if game.members.any fun member =>
        (room.people.person member).connectionType ≠ wanted then
      ⟨room,
        game.tellAll
          (.info
            s!"All players must use connection type {wanted.toNat} to start"),
        .error (.denied .connectionTypesDiffer)⟩
    else
      let players := game.members.length
      let people :=
        numberPlayers room.people game.members fun player user =>
          { user with player := player, status := .playing }
      let ended := game.endRound
      let started :=
        { ended with
          round := game.round + 1
          queues := game.members.zipIdx.map fun (member, index) =>
            ActionQueue.create (UInt8.ofNat (index + 1)) member players
              game.settings.bufferSize game.settings.timeoutMillis
          queueUsers := game.members
          actionsPerMessage := wanted.toNat
          synched := false
          status := .synchronizing }
      .done ⟨started, people⟩
        (started.tellAll (.started (UInt8.ofNat players))) ()

/-- Mark a member ready; the result tells whether all are and play begins. -/
def ready (room : Room) (id : UserId) : Step Room Bool :=
  let game := room.game
  let user := room.people.person id
  if id ∉ game.members then .refuse room (.notInGame id)
  else if game.status ≠ .synchronizing then
    .refuse room (.wrongStatus game.id game.status)
  else
    match game.slotFor? user with
    | none => .refuse room (.invalidPlayerNumber user.player)
    | some slot =>
        let marked :=
          { game with queues := game.queues.modify slot (·.setSynched true) }
        if marked.synchedCount = marked.queues.length then
          let playing := { marked with status := .playing, synched := true }
          .done { room with game := playing } (playing.tellAll .allReady) true
        else .done { room with game := marked } [] false

/-- Take a member out of the round without leaving the game; the result tells
whether the game waits again. -/
def drop (room : Room) (id : UserId) : Step Room Bool :=
  let game := room.game
  let user := room.people.person id
  if id ∉ game.members then .refuse room (.notInGame id)
  else if game.queues = [] then
    .refuse room (.wrongStatus game.id game.status)
  else
    match game.slotFor? user with
    | none => .refuse room (.invalidPlayerNumber user.player)
    | some slot =>
        let people :=
          room.people.update id fun user => { user with status := .idle }
        let silent := game.silence slot
        let settled :=
          if silent.synched ∧ silent.synchedCount < 2 then silent.desynchAll
          else silent
        let ended :=
          !settled.members.any fun member =>
            (people.person member).status = .playing
        let left :=
          if ended then { settled.endRound with status := .waiting }
          else settled
        .done ⟨left, people⟩
          (left.tellAll (.userDropped (people.person id) user.player)) ended

/-- Take a member out of the game.  One that still plays is dropped first, before
anyone looks whether it is a member. -/
def quit (room : Room) (id : UserId) : Step Room Unit :=
  let dropped : Room × List Letter :=
    if (room.people.person id).status = .playing ∧
        room.game.status ≠ .waiting then
      let step := room.drop id
      (step.state, step.letters)
    else (room, [])
  let game := dropped.1.game
  if id ∉ game.members then ⟨dropped.1, dropped.2, .error (.notInGame id)⟩
  else
    let left := { game with members := game.members.filter (· ≠ id) }
    let people := dropped.1.people.update id (·.leaveGame)
    let numbered :=
      if left.status = .waiting then
        numberPlayers people left.members fun player user =>
          { user with player := player }
      else people
    let event := GameEvent.userQuit (people.person id)
    .done ⟨left, numbered⟩
      (dropped.2 ++ ⟨id, .game left.id event⟩ :: left.tellAll event) ()

/-- Bar a member from the game.  Only the owner may, and not itself; the
caller then makes the member quit. -/
def kick (room : Room) (id target : UserId) : Step Room UserId :=
  let game := room.game
  if id ≠ game.owner then .refuse room (.notOwner game.id)
  else if target = id then .refuse room (.denied .kickSelf)
  else if target ∉ game.members then .refuse room (.userNotFound target)
  else
    let kicked :=
      if target ∈ game.kicked then game.kicked else game.kicked ++ [target]
    .done { room with game := { game with kicked := kicked } } [] target

/-- Send every member away.  Only the owner may. -/
def close (room : Room) (id : UserId) : Step Room Unit :=
  let game := room.game
  if id ≠ game.owner then .refuse room (.notOwner game.id)
  else
    let silent := if game.synched then game.desynchAll else game
    let people :=
      game.members.foldl (fun people member => people.update member (·.leaveGame))
        room.people
    .done ⟨{ silent with members := [] }.endRound, people⟩ [] ()

/-- Say something to every member. -/
def chat (room : Room) (id : UserId) (message : String) : Step Room Unit :=
  if id ∉ room.game.members then .refuse room (.notInGame id)
  else
    .done room (room.game.tellAll (.chat (room.people.person id) message)) ()

/-- A notice to every member. -/
def announce (room : Room) (message : String) : List Letter :=
  room.game.tellAll (.info message)

/-- A gap in the messages of a user: its input can no longer be trusted, so
its queue goes out of synchrony. -/
def droppedPacket (room : Room) (id : UserId) : Room × List Letter :=
  let game := room.game
  let user := room.people.person id
  if !game.synched then (room, [])
  else
    match game.slotFor? user with
    | none => (room, [])
    | some slot =>
        if game.queues[slot]?.any (·.synched) then
          let silent := game.silence slot
          let told :=
            silent.tellAll
              (.playerDesynch user (user.name ++ " desynched: dropped a packet"))
          let (settled, more) := silent.desynchIfAlone
          ({ room with game := settled }, told ++ more)
        else (room, [])

end Netplay.Room
