/-
Module: Netplay.Proofs.Diaries
Purpose: What a session does, kept as a diary: which datagrams it takes in, which
  requests it carries out, which events it shows and when, and what it sends by each.
  All it sends unasked are new messages, each with the two before it.
Main exports:
  Session.heard, Session.hear, Session.Act, Session.does, Session.Entry, Session.diary,
  Session.after, Session.numbered, Session.firstCopies, Outbox.sendAll, Event.timeout?,
  Session.Speaks, Session.speaks_perform, Session.speaks_render
-/
import Netplay.Proofs.Leases
import Netplay.Proofs.OutboundRing

namespace Netplay

/-! ## Diaries -/

namespace Session

/-- A session that has heard from its client, with its inbox as it is then. -/
def heard (session : Session) (now : Nat) (source : Address) (inbox : Inbox) : Session :=
  { session with
    lastReceived := now
    remote := session.remote.or (some source)
    inbox := inbox }

/-- Take in a datagram from one's host. -/
def hear (session : Session) (distance now : Nat) (source : Address) (datagram : Bytes) :
    Session × List Packet :=
  match session.inbox.receive datagram with
  | (inbox, .retransmitRequest retry) =>
      (session.heard now source inbox).resend distance now retry.toNat
  | (inbox, .rejected _) | (inbox, .messages _) => (session.heard now source inbox, [])

/-- One thing that a session does, with users and games as they are then. -/
inductive Act where
  /-- It takes in a datagram from its host. -/
  | hear (source : Address) (datagram : Bytes)
  /-- It carries out a request of its client. -/
  | serve (lobby : Lobby) (ticket : Nat) (request : Request)
  /-- It shows an event. -/
  | render (lobby : Lobby) (event : Event)
  /-- Nothing but what waits for it, what it is doing and whether it is to end. -/
  | rest (arrivals : List (Address × Bytes)) (events : List Event) (phase : Phase)
      (stopped : Bool)
deriving Repr, DecidableEq

/-- What an act makes of a session, and what is sent by it. -/
def does (server : ServerSettings) (session : Session) (now : Nat) :
    Act → Session × List Packet
  | .hear source datagram => session.hear server.maxPing.toNat now source datagram
  | .serve lobby ticket request =>
      let done := session.perform { lobby with server := server } now ticket request
      (done.session, done.packets)
  | .render lobby event => session.render { lobby with server := server } now event
  | .rest arrivals events phase stopped =>
      ({ session with
          arrivals := arrivals
          events := events
          phase := phase
          stopped := stopped }, [])

/-- What is kept of an act. -/
structure Entry where
  now : Nat
  act : Act
  before : Session
  after : Session
  packets : List Packet
deriving Repr, DecidableEq

/-- The entry for an act. -/
def enter (server : ServerSettings) (session : Session) (now : Nat) (act : Act) : Entry :=
  ⟨now, act, session, (session.does server now act).1, (session.does server now act).2⟩

/-- The entries for a row of acts, oldest first.  Each act comes with its time, and
times may be in any order. -/
def diary (server : ServerSettings) : Session → List (Nat × Act) → List Entry
  | _, [] => []
  | session, (now, act) :: rest =>
      session.enter server now act ::
        diary server (session.enter server now act).after rest

/-- What a row of acts makes of a session. -/
def after (server : ServerSettings) : Session → List (Nat × Act) → Session
  | session, [] => session
  | session, (now, act) :: rest => after server (session.does server now act).1 rest

variable {server : ServerSettings} {session later : Session}

theorem after_append (session : Session) (acts more : List (Nat × Act)) :
    session.after server (acts ++ more) = (session.after server acts).after server more := by
  induction acts generalizing session with
  | nil => rfl
  | cons act rest inductionHypothesis => exact inductionHypothesis _

theorem diary_append (session : Session) (acts more : List (Nat × Act)) :
    session.diary server (acts ++ more) =
      session.diary server acts ++ (session.after server acts).diary server more := by
  induction acts generalizing session with
  | nil => rfl
  | cons act rest inductionHypothesis =>
      exact congrArg (session.enter server act.1 act.2 :: ·) (inductionHypothesis _)

/-- The messages that a session numbered between two moments, oldest first, as far as it
keeps them. -/
def said (before after : Session) : List Message :=
  (after.outbox.recent.take
    (after.outbox.nextSeq - before.outbox.nextSeq).toNat).reverse

theorem said_nothing {before after : Session} (same : after.outbox = before.outbox) :
    said before after = [] := by
  rw [said, same, UInt16.sub_self]
  rfl

/-- The messages numbered in the acts of a diary, oldest first. -/
def numbered (diary : List Entry) : List Message :=
  diary.flatMap fun entry => said entry.before entry.after

theorem numbered_append (diary : List Entry) (entry : Entry) :
    numbered (diary ++ [entry]) = numbered diary ++ said entry.before entry.after := by
  rw [numbered, List.flatMap_append, List.flatMap_singleton]
  rfl

/-- The datagrams in which new messages are first sent: each holds the new one and the
two before it. -/
def firstCopies (sent : List Message) : List Message → List Bytes
  | [] => []
  | message :: rest =>
      Bundle.encode ⟨(sent ++ [message]).reverse.take Outbox.sendCount⟩ ::
        firstCopies (sent ++ [message]) rest

end Session

/-! ## Numbering -/

namespace Outbox

variable {outbox after : Outbox} {sent : List Message}

/-- Number, keep and send messages one after the other. -/
def sendAll (outbox : Outbox) : List (Command × Bytes) → List Bytes × Outbox
  | [] => ([], outbox)
  | (command, body) :: rest =>
      let (data, next) := outbox.send command.code body
      let (more, last) := next.sendAll rest
      (data :: more, last)

theorem sendAll_append (outbox : Outbox) (messages more : List (Command × Bytes)) :
    outbox.sendAll (messages ++ more) =
      ((outbox.sendAll messages).1 ++ ((outbox.sendAll messages).2.sendAll more).1,
        ((outbox.sendAll messages).2.sendAll more).2) := by
  induction messages generalizing outbox with
  | nil => rfl
  | cons message rest inductionHypothesis =>
      rw [List.cons_append, sendAll]
      simp only [inductionHypothesis]
      rfl

namespace Keeps

/-- Messages that are sent get the next numbers, and each goes out with the two before
it. -/
theorem sendAll (keeps : outbox.Keeps sent) (messages : List (Command × Bytes)) :
    ∃ more, more.length = messages.length ∧
      (outbox.sendAll messages).2.Keeps (sent ++ more) ∧
      (outbox.sendAll messages).1 = Session.firstCopies sent more := by
  induction messages generalizing outbox sent with
  | nil => exact ⟨[], rfl, (List.append_nil sent).symm ▸ keeps, rfl⟩
  | cons message rest inductionHypothesis =>
      have pushed := keeps.push message.1.code message.2
      obtain ⟨more, length, last, copies⟩ := inductionHypothesis pushed
      refine ⟨⟨outbox.nextSeq, message.1.code, message.2⟩ :: more, congrArg (· + 1) length, ?_, ?_⟩
      · rw [List.append_cons]
        exact last
      · have data : (outbox.send message.1.code message.2).1 = Bundle.encode
            ⟨(sent ++ [Message.mk outbox.nextSeq message.1.code message.2]).reverse.take
              sendCount⟩ := by
          rw [send, newest, pushed.recent, List.take_take]
          rfl
        exact congrArg₂ List.cons data copies

/-- Of a few messages that are sent, all are found in the outbox. -/
theorem said {before after : Session} {more : List Message} (keeps : before.outbox.Keeps sent)
    (later : after.outbox.Keeps (sent ++ more)) (few : more.length ≤ capacity) :
    Session.said before after = more := by
  -- Numbers go round, but not as fast as this.
  have count : (after.outbox.nextSeq - before.outbox.nextSeq).toNat = more.length := by
    rw [later.next, keeps.next, List.length_append, UInt16.ofNat_add, UInt16.add_comm,
      UInt16.add_sub_cancel, UInt16.toNat_ofNat']
    unfold capacity at few
    omega
  rw [Session.said, count, later.recent, List.take_take, Nat.min_eq_left few,
    List.reverse_append, List.take_append_of_le_length (Nat.le_of_eq List.length_reverse.symm),
    List.take_of_length_le (Nat.le_of_eq List.length_reverse), List.reverse_reverse]

end Keeps

end Outbox

/-! ## What is sent unasked -/

/-- Which time-out on the input of a user an event tells of, by its number. -/
def Event.timeout? (event : Event) (id : UserId) : Option Nat :=
  match event with
  | .game _ (.timeout late number) => if late.id = id then some number else none
  | _ => none

namespace Session

variable {session : Session} {lobby : Lobby} {messages more : List (Command × Bytes)}
  {shown last : Session × List Packet}

/-- A session has not heard or sent anything, though its caches and its speed test may have
changed and it may be to end. -/
abbrev Beside (session later : Session) : Prop :=
  later = { session with
    clientCache := later.clientCache
    serverCache := later.serverCache
    speed := later.speed
    stopped := later.stopped }

/-- These messages are sent, and no other part of what a session hears and sends
changes. -/
structure Utters (session : Session) (messages : List (Command × Bytes))
    (shown : Session × List Packet) : Prop where
  outbox : shown.1.outbox = (session.outbox.sendAll messages).2
  packets : shown.2 = (session.outbox.sendAll messages).1.flatMap session.transmit
  frame : shown.1 = { session with
    outbox := shown.1.outbox
    clientCache := shown.1.clientCache
    serverCache := shown.1.serverCache
    speed := shown.1.speed
    stopped := shown.1.stopped }

namespace Utters

/-- Nothing is sent. -/
theorem nothing {later : Session} (beside : session.Beside later) :
    session.Utters [] (later, []) where
  outbox := by rw [beside]; rfl
  packets := rfl
  frame := by
    simp only
    rw [beside]

/-- One message is sent, when caches and the speed test have changed before. -/
theorem one {begun : Session} (beside : session.Beside begun) (command : Command)
    (body : Bytes) :
    session.Utters [(command, body)] (begun.send command body) where
  outbox := by rw [beside]; rfl
  packets := by
    rw [beside]
    exact (List.append_nil _).symm
  frame := by
    rw [beside]
    rfl

theorem trans (first : session.Utters messages shown) (second : shown.1.Utters more last) :
    session.Utters (messages ++ more) (last.1, shown.2 ++ last.2) where
  outbox := by
    rw [Outbox.sendAll_append, second.outbox, first.outbox]
  packets := by
    have transmits : shown.1.transmit = session.transmit := by
      rw [first.frame]
      rfl
    rw [Outbox.sendAll_append, List.flatMap_append, first.packets, second.packets,
      first.outbox, transmits]
  frame := by
    have frame := second.frame
    rw [first.frame] at frame
    exact frame

end Utters

/-- A few messages are sent. -/
def Speaks (session : Session) (shown : Session × List Packet) : Prop :=
  ∃ messages, messages.length ≤ Outbox.capacity ∧ session.Utters messages shown

namespace Speaks

theorem nothing {later : Session} (beside : session.Beside later) : session.Speaks (later, []) :=
  ⟨[], Nat.zero_le _, .nothing beside⟩

theorem one {begun : Session} (beside : session.Beside begun) (command : Command)
    (body : Bytes) :
    session.Speaks (begun.send command body) :=
  ⟨[(command, body)], Nat.le_add_left 1 4, .one beside command body⟩

theorem send (session : Session) (command : Command) (body : Bytes) :
    session.Speaks (session.send command body) := .one rfl command body

theorem two (session : Session) (command next : Command) (body nextBody : Bytes) :
    session.Speaks (((session.send command body).1.send next nextBody).1,
      (session.send command body).2 ++ ((session.send command body).1.send next nextBody).2) :=
  ⟨[(command, body), (next, nextBody)], Nat.le_add_left 2 3,
    (Utters.one rfl command body).trans (.one rfl next nextBody)⟩

end Speaks

/-! ### Requests -/

theorem speaks_introduce (session : Session) (lobby : Lobby) (now : Nat)
    (name emulator : String) (connectionType : UInt8) :
    session.Speaks ((session.introduce lobby now name emulator connectionType).session,
      (session.introduce lobby now name emulator connectionType).packets) := by
  unfold introduce
  split
  · exact .nothing rfl
  · exact .one rfl .serverAck Body.serverAck

theorem speaks_finishLogin (session : Session) (lobby : Lobby) :
    session.Speaks ((session.finishLogin lobby).session,
      (session.finishLogin lobby).packets) := by
  unfold finishLogin
  simp only
  split
  · exact .nothing rfl
  · exact .send session _ _

theorem speaks_acknowledge (session : Session) (lobby : Lobby) (now : Nat) :
    session.Speaks ((session.acknowledge lobby now).session,
      (session.acknowledge lobby now).packets) := by
  unfold acknowledge
  split
  · exact .nothing rfl
  · simp only
    split
    · exact .one rfl .serverAck Body.serverAck
    · obtain ⟨messages, few, utters⟩ :=
        Session.speaks_finishLogin { session with speed := session.speed.measure now } lobby
      exact ⟨messages, few, utters.outbox, utters.packets, utters.frame⟩

/-- A refusal is told in a few messages. -/
theorem speaks_tellingRefusal {α : Type} {step : Step Lobby α}
    {tell : Refusal → Performed → Performed}
    (told : ∀ refusal done, done.packets = [] →
      Speaks done.session ((tell refusal done).session, (tell refusal done).packets)) :
    session.Speaks ((Performed.tellingRefusal session step tell).session,
      (Performed.tellingRefusal session step tell).packets) :=
  Performed.tellingRefusal_induction
    (motive := fun done => session.Speaks (done.session, done.packets)) (.nothing rfl)
    fun refusal => told refusal ⟨step.state, session, step.letters, [], .finished (.ok ())⟩ rfl

theorem speaks_turnAway (user : UserId) (what : String) (refusal : Refusal) {done : Performed}
    (silent : done.packets = []) :
    Speaks done.session ((turnAway user what refusal done).session,
      (turnAway user what refusal done).packets) := by
  unfold turnAway Performed.send
  simp only [silent, List.nil_append]
  exact .two done.session _ _ _ _

/-- Whatever a client asks for, it is answered in a few messages. -/
theorem speaks_perform (session : Session) (lobby : Lobby) (now ticket : Nat)
    (request : Request) :
    session.Speaks ((session.perform lobby now ticket request).session,
      (session.perform lobby now ticket request).packets) := by
  cases request with
  | login name emulator connectionType =>
      exact session.speaks_introduce lobby now name emulator connectionType
  | acknowledge => exact session.speaks_acknowledge lobby now
  | gameChat message =>
      rw [perform]
      split
      · exact .nothing rfl
      · exact .nothing rfl
  | createGame name =>
      exact speaks_tellingRefusal fun refusal done => speaks_turnAway session.user _ refusal
  | joinGame game =>
      exact speaks_tellingRefusal fun refusal done => speaks_turnAway session.user _ refusal
  | startGame =>
      refine speaks_tellingRefusal fun refusal done silent => ?_
      unfold Performed.send
      simp only [silent, List.nil_append]
      exact .send done.session _ _
  | cachedInput slot =>
      rw [perform]
      split
      · exact .nothing rfl
      · exact .nothing rfl
  | _ => exact .nothing rfl

/-! ### Events -/

theorem speaks_renderServer (session : Session) (event : ServerEvent) :
    session.Speaks (session.renderServer event) := by
  cases event with
  | userQuit user message =>
      obtain ⟨messages, few, utters⟩ :=
        Speaks.send session .userQuit (Body.userQuit user.name user.id message)
      unfold renderServer
      simp only
      split
      · exact ⟨messages, few, utters.outbox, utters.packets, rfl⟩
      · exact ⟨messages, few, utters⟩
  | _ => exact .send session _ _

theorem speaks_renderGame (session : Session) (lobby : Lobby) (now : Nat) (game : GameId)
    {event : GameEvent} (other : Event.timeout? (.game game event) session.user = none) :
    session.Speaks (session.renderGame lobby now game event) := by
  cases event with
  | userJoined user players =>
      unfold renderGame renderJoin
      simp only
      split
      · exact .two session _ _ _ _
      · exact .send session _ _
  | allReady => exact .one rfl _ _
  | data frame =>
      unfold renderGame renderFrame
      simp only
      split
      · exact .send session _ _
      · exact .one rfl _ _
  | timeout user number =>
      unfold Event.timeout? at other
      unfold renderGame
      simp only at other ⊢
      split
      · rename_i own
        rw [if_pos own] at other
        cases other
      · exact .nothing rfl
  | _ => exact .send session _ _

/-- Any event but a time-out on one's own input is shown in a few messages. -/
theorem speaks_render (session : Session) (lobby : Lobby) (now : Nat) {event : Event}
    (other : event.timeout? session.user = none) :
    session.Speaks (session.render lobby now event) := by
  cases event with
  | server event => exact session.speaks_renderServer event
  | game game event => exact session.speaks_renderGame lobby now game other
  | user event =>
      cases event with
      | connected => exact .send session _ _
      | infoMessage source message => exact .send session _ _

end Session

end Netplay
