/-
Module: Netplay.Session.Perform
Purpose: What the relay does when a client asks for something.
Main exports:
  ActionError, Outcome, Performed, Performed.tellingRefusal_induction, Session.perform
-/
import Netplay.Lobby.Login
import Netplay.Session.Basic
import Netplay.Session.Request
import Netplay.Wire.Body

namespace Netplay

/-- Why a request comes to nothing. -/
inductive ActionError where
  /-- Its body, or a slot in it, makes no sense. -/
  | format (error : FormatError)
  /-- It is refused. -/
  | refused (refusal : Refusal)
  /-- It was to complete a login, and the login is refused. -/
  | loginRejected (refusal : Refusal)
deriving Repr, Inhabited, DecidableEq

namespace ActionError

/-- The text of an action error. -/
def message : ActionError → String
  | format error => error.message
  | refused refusal => refusal.message
  | loginRejected refusal => "fatal: login rejected: " ++ refusal.message

/-- Whether the error ends the session. -/
def isFatal : ActionError → Bool
  | loginRejected _ => true
  | _ => false

end ActionError

/-- What came of a request. -/
inductive Outcome where
  /-- It waits for the input of other players. -/
  | waiting
  /-- It is over. -/
  | finished (result : Except ActionError Unit)
deriving Inhabited

/-- What a request leaves behind: users and games, the session, the letters to
users and the datagrams to the client in order, and the outcome. -/
structure Performed where
  lobby : Lobby
  session : Session
  letters : List Letter
  packets : List Packet
  outcome : Outcome

namespace Performed

/-- Nothing happens. -/
def nothing (lobby : Lobby) (session : Session) : Performed :=
  ⟨lobby, session, [], [], .finished (.ok ())⟩

/-- Nothing happens, for this reason. -/
def failed (lobby : Lobby) (session : Session) (error : ActionError) : Performed :=
  ⟨lobby, session, [], [], .finished (.error error)⟩

/-- An operation of the lobby, and its refusal is the error. -/
def ofStep {α : Type} (session : Session) (step : Step Lobby α) : Performed :=
  let result := match step.result with
    | .ok _ => .ok ()
    | .error refusal => .error (.refused refusal)
  ⟨step.state, session, step.letters, [], .finished result⟩

/-- Send one more message to the client. -/
def send (done : Performed) (command : Command) (body : Bytes) : Performed :=
  let (session, packets) := done.session.send command body
  { done with session := session, packets := done.packets ++ packets }

/-- An operation of the lobby whose refusal the client is told by these
messages, and which then counts as done. -/
def tellingRefusal {α : Type} (session : Session) (step : Step Lobby α)
    (tell : Refusal → Performed → Performed) : Performed :=
  let done : Performed :=
    ⟨step.state, session, step.letters, [], .finished (.ok ())⟩
  match step.result with
  | .ok _ => done
  | .error refusal => tell refusal done

/-- What is true when the operation is done, and when its refusal is told, is true of an
operation whose refusal is told. -/
theorem tellingRefusal_induction {α : Type} {motive : Performed → Prop} {session : Session}
    {step : Step Lobby α} {tell : Refusal → Performed → Performed}
    (accepted : motive ⟨step.state, session, step.letters, [], .finished (.ok ())⟩)
    (refused : ∀ refusal,
      motive (tell refusal ⟨step.state, session, step.letters, [], .finished (.ok ())⟩)) :
    motive (tellingRefusal session step tell) := by
  unfold tellingRefusal
  simp only
  split
  · exact accepted
  · exact refused _

end Performed

/-- The answers after which the shortest interval becomes the ping of the
user. -/
def speedTestAnswers : Nat := 3

/-- The byte that some clients leak into the chat of a game when it starts. -/
def strayByte : UInt8 := 0x11

namespace Session

/-- Take down who the client is and start the speed test. -/
def introduce (session : Session) (lobby : Lobby) (now : Nat)
    (name emulator : String) (connectionType : UInt8) : Performed :=
  if (lobby.people.person session.user).loggedIn then
    .failed lobby session (.refused (.alreadyLoggedIn session.user))
  else
    let people :=
      lobby.people.update session.user (·.introduce name emulator connectionType)
    (Performed.nothing { lobby with people := people }
      { session with speed := SpeedTest.start now }).send .serverAck Body.serverAck

/-- Complete the login with the ping measured; a refused one is told to the
client and ends the session. -/
def finishLogin (session : Session) (lobby : Lobby) : Performed :=
  let id := session.user
  let ping := UInt32.ofNat (min session.speed.bestMillis 0xFFFFFFFF)
  let people := lobby.people.update id fun user => { user with ping := ping }
  let step := { lobby with people := people }.login id
  match step.result with
  | .ok _ => .ofStep session step
  | .error refusal =>
      let told :=
        (Performed.mk step.state session step.letters []
          (.finished (.error (.loginRejected refusal)))).send
            .connectionRejected
            (Body.connectionRejected (step.state.people.person id).name id
              refusal.message)
      told

/-- Count an answer in the speed test.  The first ones are answered in turn,
the next one completes the login. -/
def acknowledge (session : Session) (lobby : Lobby) (now : Nat) : Performed :=
  if (lobby.people.person session.user).loggedIn then .nothing lobby session
  else
    let measured := { session with speed := session.speed.measure now }
    if measured.speed.count ≤ speedTestAnswers then
      (Performed.nothing lobby measured).send .serverAck Body.serverAck
    else measured.finishLogin lobby

/-- Tell the client, which already shows itself in a game, that it is not in
one. -/
def turnAway (user : UserId) (what : String) (refusal : Refusal)
    (done : Performed) : Performed :=
  let name := (done.lobby.people.person user).name
  (done.send .serverInformation
    (Body.informationMessage "server" (what ++ refusal.message))).send
      .quitGame (Body.quitGame name user)

/-- Hand input to the game of the user. -/
def addInput (session : Session) (lobby : Lobby) (now ticket : Nat)
    (data : Bytes) : Performed :=
  let (after, letters, progress) :=
    lobby.addGameData now ticket session.user data
  let outcome := match progress with
    | .parked => Outcome.waiting
    | .finished (.ok _) => .finished (.ok ())
    | .finished (.error refusal) => .finished (.error (.refused refusal))
  ⟨after, session, letters, [], outcome⟩

/-- Do what the client asks for.  A request that waits is known by its
ticket. -/
def perform (session : Session) (lobby : Lobby) (now ticket : Nat) :
    Request → Performed
  | .login name emulator connectionType =>
      session.introduce lobby now name emulator connectionType
  | .acknowledge => session.acknowledge lobby now
  | .chat message => .ofStep session (lobby.chat session.user message)
  | .gameChat message =>
      if (Utf8.encode message).contains strayByte then .nothing lobby session
      else .ofStep session (lobby.gameChat session.user message)
  | .keepAlive => .nothing lobby session
  | .createGame name =>
      .tellingRefusal session (lobby.createGame session.user name)
        (turnAway session.user "Create game denied: ")
  | .joinGame game =>
      .tellingRefusal session (lobby.joinGame session.user game)
        (turnAway session.user "Join game denied: ")
  | .quitGame => .ofStep session (lobby.quitGame session.user)
  | .quit message => .ofStep session (lobby.quit session.user message)
  | .startGame =>
      .tellingRefusal session (lobby.startGame session.user) fun refusal done =>
        done.send .gameChat (Body.chat "Error" refusal.message)
  | .ready => .ofStep session (lobby.ready session.user)
  | .kick target => .ofStep session (lobby.kick session.user target)
  | .input data =>
      let cached := { session with clientCache := (session.clientCache.add data).2 }
      cached.addInput lobby now ticket data
  | .cachedInput slot =>
      match session.clientCache.get slot with
      | some data => session.addInput lobby now ticket data
      | none =>
          .failed lobby session
            (.format (.invalidField "cache_position" slot.toNat))
  | .dropGame => .ofStep session (lobby.dropGame session.user)

end Session

end Netplay
