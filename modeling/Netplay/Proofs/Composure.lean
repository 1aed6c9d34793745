/-
Module: Netplay.Proofs.Composure
Purpose: A message whose body makes no sense leaves everything as it is, and no
  message but an answer in the speed test ends a session, unless its user quits.
Main exports:
  Session.fault?, Session.respond, Session.Copes, Session.copes_respond,
  Relay.sessionOn?_post, Session.Outlasts, Relay.outlasts_dispatch,
  Relay.dispatch_faulty, Relay.Composed, Relay.composed
-/
import Netplay.Proofs.Rejections
import Netplay.Proofs.Responses

namespace Netplay

/-! ## One message -/

namespace Session

variable {session : Session} {lobby : Lobby} {now ticket : Nat} {code : UInt8} {body : Bytes}
  {done : Performed}

/-- What is wrong with a message, if anything is: its body cannot be read, or the slot
it names is empty. -/
def fault? (session : Session) (code : UInt8) (body : Bytes) : Option FormatError :=
  match Request.decode? code body with
  | some (.error fault) => some fault
  | some (.ok (.cachedInput slot)) =>
      if session.clientCache.get slot = none then
        some (.invalidField "cache_position" slot.toNat)
      else none
  | _ => none

/-- What is done about a message, if any action answers its type. -/
def respond (session : Session) (lobby : Lobby) (now ticket : Nat) (code : UInt8)
    (body : Bytes) : Option Performed :=
  (Request.decode? code body).map fun
    | .error fault => .failed lobby session (.format fault)
    | .ok request => session.perform lobby now ticket request

/-- How a session copes with a message of a type, whatever its body. -/
structure Copes (session : Session) (lobby : Lobby) (now : Nat) (code : UInt8) (body : Bytes)
    (done : Performed) : Prop where
  /-- If it makes no sense, then nothing changes and nothing is sent or told. -/
  malformed : ∀ fault, done.outcome = .finished (.error (.format fault)) →
    session.fault? code body = some fault ∧ done = .failed lobby session (.format fault)
  /-- It ends the session at once only as an answer too many in the speed test. -/
  fatal : ∀ error, done.outcome = .finished (.error error) → error.isFatal = true →
    code = Command.clientAck.code ∧
      ∃ refusal, error = .loginRejected refusal ∧ session.Rebuffed lobby now refusal

theorem copes_respond (responds : session.respond lobby now ticket code body = some done) :
    session.Copes lobby now code body done := by
  obtain ⟨read, decoded, rfl⟩ := Option.map_eq_some_iff.mp responds
  cases read with
  | error fault =>
      refine ⟨fun other failed => ?_, fun error failed fatal => ?_⟩
      · cases failed
        exact ⟨by rw [fault?, decoded], rfl⟩
      · cases failed
        cases fatal
  | ok request =>
      refine ⟨fun fault failed => ?_, fun error failed fatal => ?_⟩
      · obtain ⟨refusal, refused⟩ | ⟨slot, rfl, empty, same, nothing⟩ | ⟨refusal, rejected, -⟩ :=
          error_cases failed
        · cases refused
        · cases same
          exact ⟨by rw [fault?, decoded]; exact if_pos empty, nothing⟩
        · cases rejected
      · obtain ⟨refusal, rfl⟩ | ⟨slot, -, -, rfl, -⟩ | ⟨refusal, rejected, rfl, rebuffed⟩ :=
          error_cases failed
        · cases fatal
        · cases fatal
        · exact ⟨(Request.code_of_decode? decoded).symm, refusal, rejected, rebuffed⟩

/-! ## Letters -/

/-- Events are told to a session by letters to its user. -/
def told (session : Session) (letters : List Letter) : Session :=
  { session with
    events := session.events ++
      (letters.filter (·.recipient = session.user)).map (·.event) }

/-- A session goes on.  The departure of its user is not told to it unless the user
quits. -/
structure Outlasts (quits : Prop) (session later : Session) : Prop where
  user : later.user = session.user
  stopped : later.stopped = session.stopped
  events : ∃ told, later.events = session.events ++ told ∧
    (told.any (·.isDeparture session.user) = true → quits)

namespace Outlasts

variable {later last : Session} {quits : Prop} {letters : List Letter}

/-- Nothing is told. -/
theorem of_events (user : later.user = session.user) (stopped : later.stopped = session.stopped)
    (events : later.events = session.events) : session.Outlasts quits later :=
  ⟨user, stopped, [], by rw [events, List.append_nil], fun departs => by cases departs⟩

theorem refl (quits : Prop) (session : Session) : session.Outlasts quits session :=
  .of_events rfl rfl rfl

theorem trans (one : session.Outlasts quits later) (two : later.Outlasts quits last) :
    session.Outlasts quits last := by
  obtain ⟨first, firstEvents, firstQuits⟩ := one.events
  obtain ⟨second, secondEvents, secondQuits⟩ := two.events
  rw [one.user] at secondQuits
  refine ⟨two.user.trans one.user, two.stopped.trans one.stopped, first ++ second, ?_,
    fun departs => ?_⟩
  · rw [secondEvents, firstEvents, List.append_assoc]
  · rw [List.any_append, Bool.or_eq_true] at departs
    exact departs.elim firstQuits secondQuits

theorem told (quiet : ¬ quits → Homely letters) :
    session.Outlasts quits (session.told letters) := by
  refine ⟨rfl, rfl, _, rfl, fun departs => by_contra fun stays => ?_⟩
  obtain ⟨event, told, departure⟩ := List.any_eq_true.mp departs
  obtain ⟨letter, addressed, rfl⟩ := List.mem_map.mp told
  rw [(quiet stays).isDeparture session.user (List.mem_of_mem_filter addressed)] at departure
  cases departure

end Outlasts

end Session

/-! ## A datagram -/

namespace Relay

variable {relay : Relay} {port : Port} {session : Session} {messages : List Accepted}

theorem sessionOn?_post (relay : Relay) (letters : List Letter) (port : Port) :
    (relay.post letters).sessionOn? port = (relay.sessionOn? port).map (·.told letters) := by
  unfold sessionOn? post
  rw [List.find?_map]
  rfl

/-- What a session is once it has carried out a request. -/
theorem sessionOn?_carryOut (there : relay.sessionOn? port = some session) (request : Request) :
    (relay.carryOut port request).1.sessionOn? port =
      some ((session.perform relay.lobby relay.now relay.nextTicket request).session.told
        (session.perform relay.lobby relay.now relay.nextTicket request).letters) := by
  have number := (sessionOn?_eq_some there).2
  have same := (session.keeps_perform relay.lobby relay.now relay.nextTicket request).frame
  rw [carryOut, there]
  simp only
  generalize session.perform relay.lobby relay.now relay.nextTicket request = done at same
  have keeps : done.session.port = port := by rw [same, number]
  have put : (Relay.modify { relay with
      lobby := done.lobby
      nextTicket := relay.nextTicket + 1 } port fun _ => done.session).sessionOn? port =
        some done.session :=
    sessionOn?_changed (fun _ _ => keeps) there
  rw [sessionOn?_post]
  exact congrArg (Option.map (·.told done.letters)) put

/-- What comes of the request of a session. -/
theorem carryOut_outcome (there : relay.sessionOn? port = some session) (request : Request) :
    (relay.carryOut port request).2 =
      (session.perform relay.lobby relay.now relay.nextTicket request).outcome := by
  rw [carryOut, there]

/-- Only an answer in the speed test ends the session it comes to. -/
theorem acknowledge_of_fatal {request : Request} {error : ActionError}
    (failed : (relay.carryOut port request).2 = .finished (.error error))
    (fatal : error.isFatal = true) : request = .acknowledge := by
  cases there : relay.sessionOn? port with
  | none =>
      rw [carryOut, there] at failed
      cases failed
  | some session =>
      rw [carryOut_outcome there] at failed
      obtain ⟨refusal, rfl⟩ | ⟨slot, -, -, rfl, -⟩ | ⟨refusal, -, same, -⟩ :=
        Session.error_cases failed
      · cases fatal
      · cases fatal
      · exact same

/-- The session on a port goes on. -/
def Outlasts (port : Port) (quits : Prop) (relay after : Relay) : Prop :=
  ∀ session, relay.sessionOn? port = some session →
    ∃ later, after.sessionOn? port = some later ∧ session.Outlasts quits later

theorem outlasts_post {letters : List Letter} {quits : Prop} (quiet : ¬ quits → Homely letters)
    (relay : Relay) (port : Port) : Outlasts port quits relay (relay.post letters) := by
  intro session there
  refine ⟨session.told letters, ?_, .told quiet⟩
  rw [sessionOn?_post, there]
  rfl

theorem outlasts_noteGap (relay : Relay) (port : Port) (quits : Prop) :
    Outlasts port quits relay (relay.noteGap port) := by
  unfold noteGap
  cases relay.sessionOn? port with
  | none => exact fun session there => ⟨session, there, .refl quits session⟩
  | some session =>
      exact outlasts_post (fun _ => relay.lobby.homely_droppedPacket session.user)
        { relay with lobby := (relay.lobby.droppedPacket session.user).1 } port

theorem outlasts_carryOut {quits : Prop} {request : Request}
    (stays : request.command ≠ .clientAck) (may : request.command = .userQuit → quits)
    (relay : Relay) (port : Port) :
    Outlasts port quits relay (relay.carryOut port request).1 := by
  intro session there
  refine ⟨_, sessionOn?_carryOut there request, ?_⟩
  have same := (session.keeps_perform relay.lobby relay.now relay.nextTicket request).frame
  have homely : ¬ quits → Homely
      (session.perform relay.lobby relay.now relay.nextTicket request).letters :=
    fun remains => session.homely_perform relay.lobby relay.now relay.nextTicket stays
      fun quit => remains (may quit)
  generalize session.perform relay.lobby relay.now relay.nextTicket request = done at same homely
  refine .trans (.of_events ?_ ?_ ?_) (.told homely)
  · rw [same]
  · rw [same]
  · rw [same]

/-- Whatever messages come to a session, in any state, none of them being an answer in
the speed test: it goes on, and its user is not gone, unless one of them says so. -/
theorem outlasts_dispatch
    (stay : ∀ accepted ∈ messages, accepted.message.code ≠ Command.clientAck.code)
    (relay : Relay) (port : Port) :
    Outlasts port (∃ accepted ∈ messages, accepted.message.code = Command.userQuit.code) relay
      (dispatch port messages relay) := by
  refine Handling.dispatch ⟨fun _ session there => ⟨session, there, .refl _ session⟩, ?trans,
    fun relay => relay.outlasts_noteGap port _, ?carry, ?turn, ?fatal⟩ relay
  case trans =>
    intro relay after last one two session there
    obtain ⟨later, here, first⟩ := one session there
    obtain ⟨final, still, second⟩ := two later here
    exact ⟨final, still, first.trans second⟩
  case carry =>
    intro accepted member request asks relay
    have code := Request.code_of_decode? asks
    refine outlasts_carryOut (fun same => ?_) (fun same => ?_) relay port
    · rw [same] at code
      exact stay accepted member code.symm
    · rw [same] at code
      exact ⟨accepted, member, code.symm⟩
  case turn =>
    intro relay phase _ session there
    have turned : (relay.modify port fun session =>
        { session with phase := phase }).sessionOn? port = some { session with phase := phase } :=
      sessionOn?_changed (fun _ same => same) there
    exact ⟨_, turned, .of_events rfl rfl rfl⟩
  case fatal =>
    intro accepted member request asks relay error failed fatal
    have code := Request.code_of_decode? asks
    rw [acknowledge_of_fatal failed fatal] at code
    exact absurd code.symm (stay accepted member)

/-- Nothing changes when a session takes its own place. -/
theorem modify_same (apart : relay.Apart) (there : relay.sessionOn? port = some session) :
    (relay.modify port fun _ => session) = relay := by
  obtain ⟨member, number⟩ := sessionOn?_eq_some there
  have same : (relay.sessions.map fun other => if other.port = port then session else other) =
      relay.sessions.map id := by
    refine List.map_congr_left fun other otherMember => ?_
    split
    · rename_i here
      exact (List.inj_on_of_nodup_map apart otherMember member (here.trans number.symm)).symm
    · rfl
  rw [modify, same, List.map_id]

/-- A gap is told, and counts; the session that is told of it is otherwise the same. -/
theorem sessionOn?_noteGap (there : relay.sessionOn? port = some session) :
    ∃ letters, (relay.noteGap port).sessionOn? port = some (session.told letters) := by
  refine ⟨(relay.lobby.droppedPacket session.user).2, ?_⟩
  rw [noteGap, there]
  simp only
  rw [sessionOn?_post]
  exact congrArg (Option.map _) there

/-- A request that names an empty slot takes a ticket, and changes nothing else. -/
theorem carryOut_empty (apart : relay.Apart) (there : relay.sessionOn? port = some session)
    {slot : UInt8} (empty : session.clientCache.get slot = none) :
    relay.carryOut port (.cachedInput slot) =
      ({ relay with nextTicket := relay.nextTicket + 1 },
        .finished (.error (.format (.invalidField "cache_position" slot.toNat)))) := by
  have same : (Relay.modify { relay with nextTicket := relay.nextTicket + 1 } port
      fun _ => session) = { relay with nextTicket := relay.nextTicket + 1 } :=
    modify_same apart there
  rw [carryOut, there]
  simp only [Session.perform, empty, Performed.failed]
  rw [same]
  simp [emit, post]

/-- What follows a message that makes no sense is acted on as if that message had
not come, except that a gap before it counts, and that it may have taken a ticket. -/
theorem dispatch_faulty (apart : relay.Apart) (there : relay.sessionOn? port = some session)
    {accepted : Accepted} {fault : FormatError}
    (faulty : session.fault? accepted.message.code accepted.message.body = some fault)
    (rest : List Accepted) :
    ∃ ticket, dispatch port (accepted :: rest) relay = dispatch port rest
      { (if accepted.gap then relay.noteGap port else relay) with nextTicket := ticket } := by
  obtain ⟨later, here, cache, still⟩ : ∃ later : Session,
      (if accepted.gap then relay.noteGap port else relay).sessionOn? port = some later ∧
        later.clientCache = session.clientCache ∧
        (if accepted.gap then relay.noteGap port else relay).Apart := by
    split
    · obtain ⟨letters, here⟩ := sessionOn?_noteGap there
      refine ⟨_, here, rfl, ?_⟩
      rw [Apart, ← ports_leases, (relay.steady_noteGap port apart).leases, ports_leases]
      exact apart
    · exact ⟨session, there, rfl, apart⟩
  rw [dispatch]
  generalize (if accepted.gap then relay.noteGap port else relay) = noted at here still
  unfold Session.fault? at faulty
  split at faulty
  · rename_i decoded
    refine ⟨noted.nextTicket, ?_⟩
    rw [decoded]
  · rename_i slot decoded
    split at faulty
    · rename_i empty
      refine ⟨noted.nextTicket + 1, ?_⟩
      rw [decoded]
      simp only
      rw [carryOut_empty still here (cache ▸ empty)]
      rfl
    · cases faulty
  · cases faulty

/-- How the session on a port takes whatever messages come to it. -/
structure Composed (relay : Relay) (port : Port) (session : Session) : Prop where
  /-- It copes with every message, however users and games stand. -/
  copes : ∀ lobby now ticket code body done,
    session.respond lobby now ticket code body = some done →
      session.Copes lobby now code body done
  /-- A message that makes no sense is passed over, but for the gap before it and for
  a ticket. -/
  skips : ∀ accepted rest fault,
    session.fault? accepted.message.code accepted.message.body = some fault →
      ∃ ticket, dispatch port (accepted :: rest) relay = dispatch port rest
        { (if accepted.gap then relay.noteGap port else relay) with nextTicket := ticket }
  /-- It goes on after messages none of which is an answer in the speed test, and is
  told the departure of its user only if one of them says that the user quits. -/
  outlasts : ∀ messages : List Accepted,
    (∀ accepted ∈ messages, accepted.message.code ≠ Command.clientAck.code) →
      ∃ later, (dispatch port messages relay).sessionOn? port = some later ∧
        session.Outlasts
          (∃ accepted ∈ messages, accepted.message.code = Command.userQuit.code) later
  /-- Of the events it shows, only the departure of its user ends it. -/
  departs : ∀ lobby now,
    (session.renderAll lobby now).1.stopped = (session.stopped || session.isDeparting)

/-- Whatever state a session, its relay and the users and games are in, a message that
makes no sense changes nothing; the only error that ends the session is that of an
answer too many in the speed test, where the login is refused; and no other messages
end it, unless its user quits. -/
theorem composed (apart : relay.Apart) (there : relay.sessionOn? port = some session) :
    relay.Composed port session where
  copes _ _ _ _ _ _ responds := Session.copes_respond responds
  skips _ rest _ faulty := dispatch_faulty apart there faulty rest
  outlasts _ stay := outlasts_dispatch stay relay port session there
  departs lobby now := (session.shows_renderEvents lobby now session.events).stopped

/-- The only client of a relay names a slot that it has never filled. -/
theorem composed_noise :
    ((opened {}).course noise).Apart ∧
      ((opened {}).course noise).sessionOn? 27889 = some quietSession ∧
      quietSession.fault? Command.gameCache.code [0, 7] =
        some (.invalidField "cache_position" 7) ∧
      ((opened {}).course noise).Composed 27889 quietSession := by
  have apart : ((opened {}).course noise).Apart := by
    unfold Apart
    decide +kernel
  have there : ((opened {}).course noise).sessionOn? 27889 = some quietSession := by
    decide +kernel
  exact ⟨apart, there, by decide +kernel, composed apart there⟩

end Relay

end Netplay
