/-
Module: Netplay.Proofs.Leases
Purpose: A session keeps its user and its port as long as it lives, whatever it is
  asked for and shows, and only greetings begin sessions and only tearing down ends
  them.
Main exports:
  Event.isDeparture, Session.lease, Session.Shows, Session.shows_renderEvents,
  Session.keeps_perform, Relay.Holds, Relay.Steady, Relay.Handling,
  Relay.steady_receive, Relay.Goes, Relay.goes_turn, Relay.Goes.settle,
  Relay.goes_advance, Relay.goes_deliver
-/
import Netplay.Proofs.Turnout
import Netplay.Relay.Run

namespace Netplay

/-! ## Sessions -/

/-- Whether an event is the departure of a user. -/
def Event.isDeparture (event : Event) (id : UserId) : Bool :=
  match event with
  | .server (.userQuit parting _) => parting.id = id
  | _ => false

namespace Session

variable {session : Session} {lobby : Lobby}

/-- Who has a session, and where. -/
def lease (session : Session) : UserId × Port := (session.user, session.port)

theorem source_transmit (session : Session) (data : Bytes) :
    ∀ packet ∈ session.transmit data, packet.source = session.port := by
  intro packet sent
  obtain ⟨target, -, rfl⟩ := List.mem_map.mp sent
  rfl

/-- Showing something changes nothing of a session but the numbers of its messages,
what they may refer to and which events have still to be shown; it stops the session
where that is to end, and whatever is sent is sent from its port. -/
structure Shows (ends : Bool) (session : Session) (shown : Session × List Packet) : Prop where
  frame : shown.1 = { session with
    outbox := shown.1.outbox
    lastResend := shown.1.lastResend
    clientCache := shown.1.clientCache
    serverCache := shown.1.serverCache
    events := shown.1.events
    stopped := session.stopped || ends }
  sources : ∀ packet ∈ shown.2, packet.source = session.port

namespace Shows

variable {ends more : Bool} {shown last : Session × List Packet}

theorem lease (shows : session.Shows ends shown) : shown.1.lease = session.lease := by
  rw [shows.frame]
  rfl

theorem stopped (shows : session.Shows ends shown) :
    shown.1.stopped = (session.stopped || ends) := by
  rw [shows.frame]

/-- Nothing is sent. -/
theorem nothing (session : Session) : session.Shows false (session, []) :=
  ⟨by rw [Bool.or_false], fun _ sent => by cases sent⟩

/-- One message is sent. -/
theorem send (session : Session) (command : Command) (body : Bytes) :
    session.Shows false (session.send command body) :=
  ⟨by rw [Bool.or_false]; rfl, session.source_transmit _⟩

/-- One thing is shown after the other. -/
theorem trans (one : session.Shows ends shown) (two : shown.1.Shows more last) :
    session.Shows (ends || more) (last.1, shown.2 ++ last.2) := by
  have port : shown.1.port = session.port := congrArg Prod.snd one.lease
  refine ⟨?_, fun packet sent => ?_⟩
  · have frame := two.frame
    rw [one.frame] at frame
    rw [← Bool.or_assoc]
    exact frame
  · rcases List.mem_append.mp sent with first | second
    · exact one.sources packet first
    · exact (two.sources packet second).trans port

end Shows

theorem shows_resend (session : Session) (distance now retry : Nat) :
    session.Shows false (session.resend distance now retry) := by
  unfold resend
  split
  · exact .nothing session
  · split
    · exact .nothing session
    · exact ⟨by rw [Bool.or_false], session.source_transmit _⟩

theorem shows_renderServer (session : Session) (event : ServerEvent) :
    session.Shows (Event.isDeparture (.server event) session.user)
      (session.renderServer event) := by
  cases event with
  | userQuit user message =>
      have sent := Shows.send session .userQuit (Body.userQuit user.name user.id message)
      unfold renderServer Event.isDeparture
      simp only
      split
      · rename_i own
        rw [decide_eq_true own]
        exact ⟨by rw [Bool.or_true]; rfl, sent.sources⟩
      · rename_i other
        rw [decide_eq_false other]
        exact sent
  | _ => exact .send session _ _

theorem shows_renderGame (session : Session) (lobby : Lobby) (now : Nat) (game : GameId)
    (event : GameEvent) : session.Shows false (session.renderGame lobby now game event) := by
  cases event with
  | userJoined user players =>
      unfold renderGame renderJoin
      simp only
      split
      · exact (Shows.send session _ _).trans (.send _ _ _)
      · exact .send session _ _
  | allReady => exact ⟨by rw [Bool.or_false]; rfl, session.source_transmit _⟩
  | data frame =>
      unfold renderGame renderFrame
      simp only
      split
      · exact .send session _ _
      · exact ⟨by rw [Bool.or_false]; rfl, session.source_transmit _⟩
  | timeout user number =>
      unfold renderGame
      simp only
      split
      · exact session.shows_resend ..
      · exact .nothing session
  | _ => exact .send session _ _

/-- Showing the departure of its own user ends a session, and showing anything else
does not. -/
theorem shows_render (session : Session) (lobby : Lobby) (now : Nat) (event : Event) :
    session.Shows (event.isDeparture session.user) (session.render lobby now event) := by
  cases event with
  | server event => exact session.shows_renderServer event
  | game game event => exact session.shows_renderGame lobby now game event
  | user event =>
      cases event with
      | connected => exact .send session _ _
      | infoMessage source message => exact .send session _ _

theorem shows_renderEvents (session : Session) (lobby : Lobby) (now : Nat)
    (events : List Event) :
    session.Shows (events.any (·.isDeparture session.user))
      (session.renderEvents lobby now events) := by
  induction events generalizing session with
  | nil => exact ⟨by simp [renderEvents], fun _ sent => by cases sent⟩
  | cons event rest inductionHypothesis =>
      unfold renderEvents
      split
      · rename_i stopped
        exact ⟨by simp [stopped], fun _ sent => by cases sent⟩
      · have shown := session.shows_render lobby now event
        have user : (session.render lobby now event).1.user = session.user :=
          congrArg Prod.fst shown.lease
        have others := inductionHypothesis (session.render lobby now event).1
        rw [user] at others
        exact shown.trans others

end Session

/-! ## Requests -/

/-- Nobody is registered for what has been done; it changes nothing of the session but
the numbers of its messages, the input that slots refer to and the speed test, and
whatever is sent is sent from its port. -/
structure Performed.Keeps (session : Session) (lobby : Lobby) (done : Performed) : Prop where
  lobby : lobby.Shrinks done.lobby
  frame : done.session = { session with
    outbox := done.session.outbox
    clientCache := done.session.clientCache
    speed := done.session.speed }
  sources : ∀ packet ∈ done.packets, packet.source = session.port

namespace Performed.Keeps

variable {session : Session} {lobby : Lobby} {done : Performed} {α : Type}

theorem lease (keeps : Performed.Keeps session lobby done) :
    done.session.lease = session.lease := by
  rw [keeps.frame]
  rfl

/-- Nothing is sent. -/
theorem quiet {after : Lobby} (shrinks : lobby.Shrinks after) (session : Session)
    (letters : List Letter) (outcome : Outcome) :
    Performed.Keeps session lobby ⟨after, session, letters, [], outcome⟩ :=
  ⟨shrinks, rfl, fun _ sent => by cases sent⟩

theorem nothing (session : Session) (lobby : Lobby) :
    Performed.Keeps session lobby (.nothing lobby session) := .quiet (.refl lobby) session _ _

/-- One more message is sent. -/
theorem send (keeps : Performed.Keeps session lobby done) (command : Command) (body : Bytes) :
    Performed.Keeps session lobby (done.send command body) := by
  refine ⟨keeps.lobby, ?_, fun packet sent => ?_⟩
  · have frame := keeps.frame
    unfold Performed.send Session.send
    simp only
    rw [frame]
  · rcases List.mem_append.mp sent with before | now
    · exact keeps.sources packet before
    · exact (done.session.source_transmit _ packet now).trans (congrArg Prod.snd keeps.lease)

theorem ofStep {step : Step Lobby α} (shrinks : lobby.Shrinks step.state) :
    Performed.Keeps session lobby (.ofStep session step) := .quiet shrinks session _ _

theorem tellingRefusal {step : Step Lobby α} {tell : Refusal → Performed → Performed}
    (shrinks : lobby.Shrinks step.state)
    (told : ∀ refusal done, Performed.Keeps session lobby done →
      Performed.Keeps session lobby (tell refusal done)) :
    Performed.Keeps session lobby (.tellingRefusal session step tell) :=
  tellingRefusal_induction (.quiet shrinks session _ _) fun _ =>
    told _ _ (.quiet shrinks session _ _)

/-- The speed test has gone on before. -/
theorem timed {session : Session} (speed : SpeedTest)
    (keeps : Performed.Keeps { session with speed := speed } lobby done) :
    Performed.Keeps session lobby done := ⟨keeps.lobby, keeps.frame, keeps.sources⟩

end Performed.Keeps

namespace Session

variable {session : Session} {lobby : Lobby}

theorem keeps_introduce (session : Session) (lobby : Lobby) (now : Nat) (name emulator : String)
    (connectionType : UInt8) : Performed.Keeps session lobby
      (session.introduce lobby now name emulator connectionType) := by
  unfold introduce
  split
  · exact .quiet (.refl lobby) session _ _
  · have shrinks : lobby.Shrinks { lobby with
        people := lobby.people.update session.user (·.introduce name emulator connectionType) } :=
      .people (.update (fun user =>
        show (user.introduce name emulator connectionType).id = user.id from rfl) _ _)
    exact .send (.timed (SpeedTest.start now) (.quiet shrinks _ _ _)) _ _

theorem keeps_finishLogin (session : Session) (lobby : Lobby) :
    Performed.Keeps session lobby (session.finishLogin lobby) := by
  have measured (ping : UInt32) : lobby.Shrinks { lobby with
      people := lobby.people.update session.user fun user => { user with ping := ping } } :=
    .people (.update (fun user => show User.id { user with ping := ping } = user.id from rfl) _ _)
  have done := (measured (UInt32.ofNat (min session.speed.bestMillis 0xFFFFFFFF))).trans
    (Lobby.shrinks_login _ session.user)
  unfold finishLogin
  simp only
  split
  · exact .ofStep done
  · exact .send (.quiet done session _ _) _ _

theorem keeps_acknowledge (session : Session) (lobby : Lobby) (now : Nat) :
    Performed.Keeps session lobby (session.acknowledge lobby now) := by
  unfold acknowledge
  split
  · exact .nothing session lobby
  · simp only
    refine .timed (session.speed.measure now) ?_
    split
    · exact .send (.nothing _ lobby) _ _
    · exact keeps_finishLogin _ lobby

theorem keeps_turnAway {done : Performed} (user : UserId) (what : String) (refusal : Refusal)
    (keeps : Performed.Keeps session lobby done) :
    Performed.Keeps session lobby (turnAway user what refusal done) :=
  (keeps.send _ _).send _ _

theorem keeps_addInput (session : Session) (lobby : Lobby) (now ticket : Nat) (data : Bytes) :
    Performed.Keeps session lobby (session.addInput lobby now ticket data) :=
  .quiet (lobby.thins_addGameData now ticket session.user data).shrinks session _ _

/-- Whatever a client asks for, nobody is registered for it, and no more of its session
changes. -/
theorem keeps_perform (session : Session) (lobby : Lobby) (now ticket : Nat)
    (request : Request) :
    Performed.Keeps session lobby (session.perform lobby now ticket request) := by
  cases request with
  | login name emulator connectionType => exact session.keeps_introduce lobby now _ _ _
  | acknowledge => exact session.keeps_acknowledge lobby now
  | chat message => exact .ofStep (lobby.thins_chat session.user message).shrinks
  | gameChat message =>
      rw [perform]
      split
      · exact .nothing session lobby
      · exact .ofStep (lobby.thins_gameChat session.user message).shrinks
  | keepAlive => exact .nothing session lobby
  | createGame name =>
      exact .tellingRefusal (lobby.thins_createGame session.user name).shrinks
        fun refusal done => keeps_turnAway _ _ refusal
  | joinGame game =>
      exact .tellingRefusal (lobby.thins_joinGame session.user game).shrinks
        fun refusal done => keeps_turnAway _ _ refusal
  | quitGame => exact .ofStep (lobby.thins_quitGame session.user).shrinks
  | quit message => exact .ofStep (lobby.thins_quit session.user message).shrinks
  | startGame =>
      exact .tellingRefusal (lobby.thins_startGame session.user).shrinks
        fun refusal done keeps => keeps.send _ _
  | ready => exact .ofStep (lobby.thins_ready session.user).shrinks
  | kick target => exact .ofStep (lobby.thins_kick session.user target).shrinks
  | input data =>
      obtain ⟨shrinks, frame, sources⟩ := keeps_addInput
        { session with clientCache := (session.clientCache.add data).2 } lobby now ticket data
      exact ⟨shrinks, frame, sources⟩
  | cachedInput slot =>
      rw [perform]
      split
      · exact session.keeps_addInput lobby now ticket _
      · exact .quiet (.refl lobby) session _ _
  | dropGame => exact .ofStep (lobby.thins_dropGame session.user).shrinks

end Session

/-! ## Relays -/

/-- How many clients have been given a session, and how many have not been because of the
port chosen for it. -/
def Tally.tries (tally : Tally) : Nat × Nat := (tally.connects, tally.deniedOther)

/-- A message is read as a request. -/
def Accepted.Asks (accepted : Accepted) (request : Request) : Prop :=
  Request.decode? accepted.message.code accepted.message.body = some (.ok request)

/-- The messages of its datagram that a session has still to act on. -/
def Phase.backlog : Phase → List Accepted
  | .listening => []
  | .waiting _ rest => rest

namespace Relay

variable {relay after last : Relay} {port : Port} {session : Session}

/-- The users of live sessions and their ports. -/
def leases (relay : Relay) : List (UserId × Port) := relay.sessions.map (·.lease)

/-- No two live sessions share a port. -/
def Apart (relay : Relay) : Prop := (relay.sessions.map (·.port)).Nodup

theorem ports_leases (relay : Relay) :
    relay.leases.map (·.2) = relay.sessions.map (·.port) := by
  rw [leases, List.map_map]
  rfl

theorem users_leases (relay : Relay) :
    relay.leases.map (·.1) = relay.sessions.map (·.user) := by
  rw [leases, List.map_map]
  rfl

theorem leases_post (relay : Relay) (letters : List Letter) :
    (relay.post letters).leases = relay.leases := by
  rw [leases, leases, post, List.map_map]
  rfl

theorem sessionOn?_eq_some (there : relay.sessionOn? port = some session) :
    session ∈ relay.sessions ∧ session.port = port :=
  ⟨List.mem_of_find?_eq_some there, by simpa using List.find?_some there⟩

/-- No session begins or ends, no port is taken or given back, nobody is
registered and no connection is counted. -/
structure Holds (relay after : Relay) : Prop where
  settings : after.settings = relay.settings
  leases : after.leases = relay.leases
  pool : after.ports = relay.ports
  tries : after.tally.tries = relay.tally.tries
  lobby : relay.lobby.Shrinks after.lobby

/-- That is so, provided that no two sessions share a port. -/
def Steady (relay after : Relay) : Prop := relay.Apart → relay.Holds after

namespace Steady

theorem refl (relay : Relay) : relay.Steady relay := fun _ => ⟨rfl, rfl, rfl, rfl, .refl _⟩

theorem trans (one : relay.Steady after) (two : after.Steady last) : relay.Steady last := by
  intro apart
  have first := one apart
  have still : after.Apart := by
    rw [Apart, ← ports_leases, first.leases, ports_leases]
    exact apart
  have second := two still
  exact ⟨second.settings.trans first.settings, second.leases.trans first.leases,
    second.pool.trans first.pool, second.tries.trans first.tries,
    first.lobby.trans second.lobby⟩

/-- Sessions change one by one. -/
theorem sessions {change : Session → Session}
    (keeps : ∀ session ∈ relay.sessions, (change session).lease = session.lease) :
    relay.Steady { relay with sessions := relay.sessions.map change } := by
  refine fun _ => ⟨rfl, ?_, rfl, rfl, .refl _⟩
  rw [leases, leases, List.map_map]
  exact List.map_congr_left keeps

/-- The sessions on a port change. -/
theorem modify {change : Session → Session}
    (keeps : ∀ session : Session, (change session).lease = session.lease) (relay : Relay)
    (port : Port) : relay.Steady (relay.modify port change) := by
  refine sessions fun session _ => ?_
  split
  · exact keeps session
  · rfl

/-- The session on a port is replaced by what has become of it. -/
theorem put {next : Session} (there : relay.sessionOn? port = some session)
    (same : next.lease = session.lease) : relay.Steady (relay.modify port fun _ => next) := by
  intro apart
  obtain ⟨member, number⟩ := sessionOn?_eq_some there
  refine sessions (fun other otherMember => ?_) apart
  split
  · rename_i otherNumber
    rw [List.inj_on_of_nodup_map apart otherMember member (otherNumber.trans number.symm), same]
  · rfl

theorem post (relay : Relay) (letters : List Letter) : relay.Steady (relay.post letters) :=
  sessions fun _ _ => rfl

theorem emit (relay : Relay) (packets : List Packet) : relay.Steady (relay.emit packets) :=
  fun _ => ⟨rfl, rfl, rfl, rfl, .refl _⟩

/-- Only users and games change. -/
theorem lobby {lobby : Lobby} (shrinks : relay.lobby.Shrinks lobby) :
    relay.Steady { relay with lobby := lobby } :=
  fun _ => ⟨rfl, rfl, rfl, rfl, shrinks⟩

end Steady

theorem steady_quit (relay : Relay) (user : UserId) (message : String) :
    relay.Steady (relay.quit user message) :=
  (Steady.lobby (relay.lobby.thins_quit user message).shrinks).trans (.post _ _)

/-! ## What a session does in its turn -/

theorem steady_carryOut (relay : Relay) (port : Port) (request : Request) :
    relay.Steady (relay.carryOut port request).1 := by
  unfold carryOut
  split
  · exact .refl relay
  · rename_i session there
    have keeps := session.keeps_perform relay.lobby relay.now relay.nextTicket request
    have done : relay.Steady { relay with
        lobby := (session.perform relay.lobby relay.now relay.nextTicket request).lobby
        nextTicket := relay.nextTicket + 1 } :=
      fun _ => ⟨rfl, rfl, rfl, rfl, keeps.lobby⟩
    exact ((done.trans (.put there keeps.lease)).trans (.emit _ _)).trans (.post _ _)

theorem steady_noteGap (relay : Relay) (port : Port) : relay.Steady (relay.noteGap port) := by
  unfold noteGap
  split
  · exact .refl relay
  · exact (Steady.lobby (relay.lobby.thins_droppedPacket _).shrinks).trans (.post _ _)

/-- A relation between relays that holds across each part of acting on messages. -/
structure Handling (port : Port) (messages : List Accepted) (keeps : Relay → Relay → Prop) :
    Prop where
  refl : ∀ relay, keeps relay relay
  trans : ∀ {relay after last}, keeps relay after → keeps after last → keeps relay last
  /-- A gap counts. -/
  gap : ∀ relay, keeps relay (relay.noteGap port)
  /-- A request is carried out. -/
  carry : ∀ accepted ∈ messages, ∀ request, accepted.Asks request →
    ∀ relay, keeps relay (relay.carryOut port request).1
  /-- The session listens, or waits before it acts on the last messages. -/
  turn : ∀ relay phase, phase.backlog <:+ messages →
    keeps relay (relay.modify port fun session => { session with phase := phase })
  /-- A login is rejected, and the session ends. -/
  fatal : ∀ accepted ∈ messages, ∀ request, accepted.Asks request →
    ∀ (relay : Relay) error, (relay.carryOut port request).2 = .finished (.error error) →
      error.isFatal = true →
        keeps (relay.carryOut port request).1 ((relay.carryOut port request).1.modify port
          fun session => { session with phase := .listening, stopped := true })

/-- Such a relation holds across acting on messages. -/
theorem Handling.dispatch {messages : List Accepted} {keeps : Relay → Relay → Prop}
    (handling : Handling port messages keeps) (relay : Relay) :
    keeps relay (dispatch port messages relay) := by
  induction messages generalizing relay with
  | nil => exact handling.turn relay .listening (List.nil_suffix)
  | cons accepted rest inductionHypothesis =>
      obtain ⟨refl, trans, gap, carry, turn, fatal⟩ := handling
      have later : rest <:+ accepted :: rest := List.suffix_cons accepted rest
      have goesOn := inductionHypothesis ⟨refl, trans, gap,
        fun other member => carry other (List.mem_cons_of_mem _ member),
        fun relay phase last => turn relay phase (last.trans later),
        fun other member => fatal other (List.mem_cons_of_mem _ member)⟩
      have noted : keeps relay (if accepted.gap then relay.noteGap port else relay) := by
        split
        · exact gap relay
        · exact refl relay
      unfold Relay.dispatch
      simp only
      refine trans noted ?_
      generalize (if accepted.gap then relay.noteGap port else relay) = noted
      split
      · rename_i request decoded
        have carried := carry accepted List.mem_cons_self request decoded noted
        have rejects := fatal accepted List.mem_cons_self request decoded noted
        split
        · rename_i after waits
          rw [waits] at carried
          exact trans carried (turn after (.waiting noted.nextTicket rest) later)
        · rename_i after done
          rw [done] at carried
          exact trans carried (goesOn after)
        · rename_i after error failed
          rw [failed] at carried rejects
          split
          · rename_i rejected
            exact trans carried (rejects error rfl rejected)
          · exact trans carried (goesOn after)
      · exact goesOn noted

theorem steady_dispatch (port : Port) (messages : List Accepted) (relay : Relay) :
    relay.Steady (dispatch port messages relay) := by
  refine Handling.dispatch ⟨.refl, .trans, (steady_noteGap · port),
    fun _ _ request _ relay => relay.steady_carryOut port request, fun relay phase _ => ?_,
    fun _ _ _ _ _ _ _ _ => ?_⟩ relay
  · refine .modify ?_ relay port
    exact fun _ => rfl
  · refine .modify ?_ _ port
    exact fun _ => rfl

theorem steady_takeIn (relay : Relay) (port : Port) (source : Address) (datagram : Bytes) :
    relay.Steady (relay.takeIn port source datagram) := by
  unfold takeIn
  split
  · exact .refl relay
  · rename_i session there
    split
    · exact .refl relay
    · simp only
      split
      · exact .put there rfl
      · refine Steady.trans (.put there ?_) (.emit _ _)
        exact (Session.shows_resend ..).lease
      · refine Steady.trans (.put there ?_) (steady_dispatch port _ _)
        rfl

theorem steady_receive (port : Port) (count : Nat) (relay : Relay) :
    relay.Steady (receive port count relay) := by
  induction count generalizing relay with
  | zero => exact .refl relay
  | succ count inductionHypothesis =>
      unfold receive
      split
      · exact .refl relay
      · split
        · exact .refl relay
        · split
          · refine Steady.trans (.trans (.modify ?_ relay port) (steady_takeIn _ port _ _))
              (inductionHypothesis _)
            exact fun _ => rfl
          · exact .refl relay

theorem steady_expire (relay : Relay) (port : Port) : relay.Steady (relay.expire port) := by
  unfold expire
  split
  · exact .refl relay
  · split
    · refine (steady_quit relay _ "timeout").trans (.modify ?_ _ port)
      exact fun _ => rfl
    · exact .refl relay

theorem steady_showEvents (relay : Relay) (port : Port) :
    relay.Steady (relay.showEvents port) := by
  unfold showEvents
  split
  · exact .refl relay
  · rename_i session there
    exact (Steady.put there (session.shows_renderEvents ..).lease).trans (.emit _ _)

/-! ## What a relay does -/

/-- What can become of a relay: its sessions go on, one of them is torn down, or
a client asks for a session. -/
inductive Goes : Relay → Relay → Prop where
  | steady {relay after : Relay} (steady : relay.Steady after) : Goes relay after
  | tearDown (relay : Relay) (port : Port) : Goes relay (relay.tearDown port)
  | hello (relay : Relay) (client : Address) (protocol : String) :
      Goes relay (relay.hello client protocol)
  | trans {relay after last : Relay} (one : Goes relay after) (two : Goes after last) :
      Goes relay last

namespace Goes

theorem refl (relay : Relay) : relay.Goes relay := .steady (.refl relay)

end Goes

theorem goes_turn (relay : Relay) (port : Port) : relay.Goes (relay.turn port) :=
  .trans (.steady (((steady_receive port _ relay).trans (steady_expire _ port)).trans
    (steady_showEvents _ port))) (.tearDown _ port)

/-- Reports and requests that wait are no part of it. -/
theorem steady_file (relay : Relay) (directs : List Direct) (reports : List Report) :
    relay.Steady { relay with directs := directs, reports := reports } :=
  fun _ => ⟨rfl, rfl, rfl, rfl, .refl _⟩

theorem goes_conclude (relay : Relay) (finished : Finished) :
    relay.Goes (relay.conclude finished) := by
  unfold conclude
  split
  · exact .steady (relay.steady_file _ _)
  · simp only
    split
    · exact .refl relay
    · exact .trans (.steady (steady_dispatch _ _ relay)) (goes_turn _ _)

theorem goes_step (steps : relay.step? = some after) : relay.Goes after := by
  unfold step? at steps
  split at steps
  · rename_i lobby letters finished turns
    have merged : relay.Goes ({ relay with lobby := lobby }.post letters) :=
      .steady ((Steady.lobby (Lobby.thins_turn turns).shrinks).trans (.post _ _))
    simp only at steps
    split at steps
    · rw [← Option.some.inj steps]
      exact merged
    · rw [← Option.some.inj steps]
      exact merged.trans (goes_conclude _ _)
  · obtain ⟨session, -, rfl⟩ := Option.map_eq_some_iff.mp steps
    exact goes_turn relay session.port

theorem goes_run (steps : Nat) (relay : Relay) : relay.Goes (run steps relay) := by
  induction steps generalizing relay with
  | zero => exact .refl relay
  | succ steps inductionHypothesis =>
      unfold run
      split
      · exact .refl relay
      · rename_i after proceeds
        exact (goes_step proceeds).trans (inductionHypothesis after)

theorem Goes.settle (goes : relay.Goes after) : relay.Goes after.settle :=
  goes.trans (goes_run after.patience after)

/-- Time passes, and nothing else happens. -/
theorem steady_wait (relay : Relay) (now : Nat) : relay.Steady { relay with now := now } :=
  fun _ => ⟨rfl, rfl, rfl, rfl, .refl _⟩

theorem goes_passTime (target stops : Nat) (relay : Relay) :
    relay.Goes (passTime target stops relay) := by
  induction stops generalizing relay with
  | zero => exact .steady (relay.steady_wait target)
  | succ stops inductionHypothesis =>
      unfold passTime
      split
      · exact .steady (relay.steady_wait target)
      · split
        · exact .steady (relay.steady_wait target)
        · exact (Goes.settle (.steady (relay.steady_wait _))).trans (inductionHypothesis _)

theorem goes_advance (relay : Relay) (milliseconds : Nat) :
    relay.Goes (relay.advance milliseconds) := goes_passTime ..

theorem goes_greet (relay : Relay) (client : Address) (datagram : Bytes) :
    relay.Goes (relay.greet client datagram) := by
  unfold greet
  split
  · exact .steady fun _ => ⟨rfl, rfl, rfl, rfl, .refl _⟩
  · exact .hello relay client _
  · exact .steady fun _ => ⟨rfl, rfl, rfl, rfl, .refl _⟩

theorem goes_deliver (relay : Relay) (source : Address) (port : Port) (datagram : Bytes) :
    relay.Goes (relay.deliver source port datagram) := by
  unfold deliver
  split
  · exact (relay.goes_greet source datagram).settle
  · split
    · exact .refl relay
    · refine Goes.settle (.trans (.steady (.modify ?_ relay port)) (goes_turn _ port))
      exact fun _ => rfl

theorem goes_handIn (relay : Relay) (label : Nat) (user : UserId) (code : UInt8)
    (body : Bytes) : relay.Goes (relay.handIn label user code body).1 := by
  unfold handIn
  split
  · exact .refl relay
  · split
    · exact .refl relay
    · rename_i session there
      split
      · exact Goes.settle (.steady (relay.steady_file _ _))
      · rename_i request decoded
        have carried := relay.steady_carryOut session.port request
        split
        · rename_i after result done
          rw [done] at carried
          exact Goes.settle (.steady (carried.trans (after.steady_file _ _)))
        · rename_i after waits
          rw [waits] at carried
          exact Goes.settle (.steady (carried.trans (after.steady_file _ _)))

/-- All sessions are told to end. -/
theorem steady_halt (relay : Relay) : relay.Steady { relay with
    sessions := relay.sessions.map fun session => { session with stopped := true } } :=
  .sessions fun _ _ => rfl

theorem goes_stop (relay : Relay) : relay.Goes relay.stop :=
  Goes.settle (.steady relay.steady_halt)

theorem steady_occupy (relay : Relay) (port : Port) : relay.Steady (relay.occupy port) := by
  unfold occupy
  split
  · exact .refl relay
  · exact fun _ => ⟨rfl, rfl, rfl, rfl, .refl _⟩

end Relay

end Netplay
