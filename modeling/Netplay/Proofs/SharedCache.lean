/-
Module: Netplay.Proofs.SharedCache
Purpose: Input that travels as cache slots, datagram by datagram: a client that keeps
  caches of its own recovers every frame it is shown, and the relay every input it is
  sent.
Main exports:
  PayloadCache.get_of_indexOf, Outbox.Heard, Outbox.Heard.receive_send, Peer, Channel,
  Channel.Reached, Channel.lossless
-/
import Netplay.Proofs.CacheSlots
import Netplay.Proofs.Diaries
import Netplay.Proofs.Fields
import Netplay.Proofs.Responses
import Netplay.Proofs.Tracking

namespace Netplay

/-! ## One cache -/

namespace PayloadCache

/-- A cache holds some row of payloads, each in its slot. -/
def Kept (cache : PayloadCache) : Prop := ∃ payloads, cache.Keeps payloads

theorem kept_empty : Kept empty := ⟨[], keeps_empty⟩

theorem Kept.add {cache : PayloadCache} (kept : cache.Kept) (payload : Bytes) :
    (cache.add payload).2.Kept := by
  obtain ⟨payloads, keeps⟩ := kept
  exact ⟨_, keeps.add payload⟩

/-- A slot that was found holds the payload that was looked for. -/
theorem get_of_indexOf {cache : PayloadCache} (kept : cache.Kept) {payload : Bytes}
    {slot : UInt8} (found : cache.indexOf payload = some slot) :
    cache.get slot = some payload := by
  obtain ⟨payloads, keeps⟩ := kept
  exact keeps.sound found

end PayloadCache

/-! ## The two bodies -/

namespace Request

/-- Input that fits the length field reads back. -/
theorem readInput_gameData {data : Bytes} (fits : data.length ≤ 65535) :
    readInput (Body.gameData data) = .ok (.input data) := by
  have length : (UInt16.ofNat data.length).toNat = data.length := by
    rw [UInt16.toNat_ofNat']
    omega
  rw [readInput, Body.gameData, List.append_assoc, Field.text_blank]
  simp only [bind, Except.bind, Field.u16_ofUInt16, length, Field.bytes_length]
  rfl

/-- A slot reads back. -/
theorem readCachedInput_cachedGameData (slot : UInt8) :
    readCachedInput (Body.cachedGameData slot) = .ok (.cachedInput slot) := by
  rfl

theorem decode?_gameData {data : Bytes} (fits : data.length ≤ 65535) :
    decode? Command.gameData.code (Body.gameData data) = some (.ok (.input data)) := by
  rw [decode?, Command.ofCode?_code]
  exact congrArg some (readInput_gameData fits)

theorem decode?_cachedGameData (slot : UInt8) :
    decode? Command.gameCache.code (Body.cachedGameData slot) =
      some (.ok (.cachedInput slot)) := by
  rw [decode?, Command.ofCode?_code]
  exact congrArg some (readCachedInput_cachedGameData slot)

end Request

theorem Body.length_gameData (data : Bytes) :
    (Body.gameData data).length = data.length + 3 := by
  simp only [Body.gameData, Body.blank, List.length_append, List.length_singleton,
    Bytes.length_ofUInt16]
  omega

/-! ## A link on which nothing is lost -/

/-- The length of a message of 65536 bytes, type byte included, wraps to zero, which no
message may have. -/
theorem Bundle.parse_overlong {seq : Sequence} {code : UInt8} {body : Bytes}
    (long : body.length = 65535) :
    Bundle.parse (Bundle.encode ⟨[⟨seq, code, body⟩]⟩) none =
      .error (.badLength 0 0 65536) := by
  have wraps : UInt16.ofNat (Message.length ⟨seq, code, body⟩) = 0 := by
    rw [Message.length, long]
    rfl
  simp only [encode, maxMessages, List.take_succ_cons, List.take_nil, List.length_singleton,
    List.flatMap_cons, List.flatMap_nil, List.append_nil, parse, Message.encode, wraps,
    Bytes.ofUInt16, List.cons_append, List.nil_append]
  change Except.error (BundleError.badLength 0 0 (body.length + 1)) = _
  rw [long]

/-- Messages that bring a command can be carried if they are short enough. -/
theorem Message.valid_code (seq : Sequence) (command : Command) {body : Bytes}
    (short : body.length ≤ 65534) : (Message.mk seq command.code body).Valid where
  known := (Command.isKnown_iff _).mpr (by rw [Command.ofCode?_code]; rfl)
  fits := short

/-- Every message that is kept can be carried. -/
def Outbox.Fits (outbox : Outbox) : Prop := ∀ message ∈ outbox.recent, message.Valid

/-- One more message can be carried. -/
theorem Outbox.Fits.push {outbox : Outbox} (fits : outbox.Fits) {code : UInt8} {body : Bytes}
    (valid : (Message.mk outbox.nextSeq code body).Valid) : (outbox.push code body).Fits := by
  intro message member
  rcases List.mem_cons.mp (List.mem_of_mem_take member) with rfl | old
  · exact valid
  · exact fits message old

/-- The inbox at the other end has taken in all that was sent, and whatever may be sent
again can be carried. -/
structure Outbox.Heard (outbox : Outbox) (inbox : Inbox) : Prop where
  last : inbox.last = outbox.recent.head?.map (·.seq)
  next : ∀ message, outbox.recent.head? = some message → outbox.nextSeq = message.seq + 1
  fits : outbox.Fits

namespace Outbox.Heard

variable {outbox : Outbox} {inbox other : Inbox} {code : UInt8} {body : Bytes}

theorem empty : Outbox.empty.Heard Inbox.empty :=
  ⟨rfl, fun _ none => (by cases none), fun _ member => (by cases member)⟩

/-- Only the newest number taken in matters. -/
theorem of_last (heard : outbox.Heard inbox) (same : other.last = inbox.last) :
    outbox.Heard other := ⟨same.trans heard.last, heard.next, heard.fits⟩

/-- The next message is new. -/
theorem isFresh_next (heard : outbox.Heard inbox) :
    Bundle.isFresh inbox.last ⟨outbox.nextSeq, code, body⟩ = true := by
  rw [heard.last]
  cases newest : outbox.recent.head? with
  | none => rfl
  | some message =>
      have ahead : outbox.nextSeq - message.seq = 1 := by
        rw [heard.next message newest, UInt16.add_comm, UInt16.add_sub_cancel]
      rw [Option.map_some, Bundle.isFresh_some, Sequence.isNewer, ahead]
      rfl

/-- None of the messages kept is. -/
theorem takeWhile_recent (heard : outbox.Heard inbox) (count : Nat) :
    (outbox.recent.take count).takeWhile (Bundle.isFresh inbox.last) = [] := by
  rw [heard.last]
  cases outbox.recent with
  | nil => rw [List.take_nil, List.takeWhile_nil]
  | cons message older =>
      cases count with
      | zero => rfl
      | succ count =>
          have stale : ¬ Bundle.isFresh (some message.seq) message = true := by
            rw [Bundle.isFresh_some, Sequence.isNewer, UInt16.sub_self]
            decide
          exact List.takeWhile_cons_of_neg stale

/-- What is read of a datagram with the newest messages. -/
theorem parse_newest (fits : outbox.Fits) (several : outbox.recent ≠ []) {count : Nat}
    (some : count ≠ 0) (few : count ≤ capacity) (last : Option Sequence) :
    Bundle.parse (outbox.newest count).encode last =
      .ok ⟨(outbox.recent.take count).takeWhile (Bundle.isFresh last)⟩ := by
  apply Bundle.parse_encode
  · exact fun none => (List.take_eq_nil_iff.mp none).elim some several
  · exact Nat.le_trans (List.length_take_le ..) (Nat.le_trans few (by decide))
  · exact fun message member => fits message (List.mem_of_mem_take member)

/-- A message that is sent is taken in, it alone and without a gap. -/
theorem receive_send (heard : outbox.Heard inbox) (fits : (outbox.push code body).Fits) :
    ∃ next, inbox.receive (outbox.send code body).1 =
        (next, .messages [⟨⟨outbox.nextSeq, code, body⟩, false⟩]) ∧
      (outbox.push code body).Heard next := by
  have fresh : Bundle.isFresh inbox.last ⟨outbox.nextSeq, code, body⟩ = true :=
    heard.isFresh_next
  have read := parse_newest fits (List.cons_ne_nil _ _) (by decide : sendCount ≠ 0) (by decide)
    inbox.last
  have newest : (outbox.push code body).recent.take sendCount =
      ⟨outbox.nextSeq, code, body⟩ :: outbox.recent.take 2 := by
    rw [push, List.take_take]
    rfl
  rw [newest, List.takeWhile_cons_of_pos fresh, heard.takeWhile_recent] at read
  have gapless : (inbox.last.any fun last => last + 1 ≠ outbox.nextSeq) = false := by
    rw [heard.last]
    cases newest : outbox.recent.head? with
    | none => rfl
    | some message => simp [heard.next message newest]
  have taken : Inbox.taken inbox.last ⟨outbox.nextSeq, code, body⟩ =
      ⟨⟨outbox.nextSeq, code, body⟩, false⟩ := congrArg (Accepted.mk _) gapless
  refine ⟨Inbox.moved { inbox with retries := 0 } ⟨outbox.nextSeq, code, body⟩, ?_, ?_⟩
  · have still : Bundle.isFresh (Inbox.last { inbox with retries := 0 })
        ⟨outbox.nextSeq, code, body⟩ = true := fresh
    have accepted := Inbox.acceptAll_fresh still []
    change Bundle.parse (outbox.send code body).1 inbox.last = _ at read
    rw [Inbox.receive, read]
    simp only [List.cons_ne_nil, if_false, Bundle.oldestFirst, List.reverse_singleton, accepted]
    rw [← taken]
    rfl
  · refine ⟨rfl, fun message newest => ?_, fits⟩
    obtain rfl : _ = message := Option.some.inj newest
    rfl

/-- What is sent again is not taken in again. -/
theorem receive_resend (heard : outbox.Heard inbox) {retry : Nat} {data : Bytes}
    (again : outbox.resend retry = some data) :
    ∃ next count, inbox.receive data = (next, .retransmitRequest count) ∧
      outbox.Heard next := by
  obtain ⟨sends, rfl⟩ := resend_eq_some_iff.mp again
  have several : outbox.recent ≠ [] := fun none => sends (.inr none)
  have some : resendCount retry ≠ 0 := fun none => sends (.inl (resendCount_eq_zero_iff.mp none))
  have read := parse_newest heard.fits several some (resendCount_le retry) inbox.last
  rw [heard.takeWhile_recent] at read
  refine ⟨{ inbox with retries := inbox.retries + 1 }, inbox.retries + 1, ?_, heard.of_last rfl⟩
  rw [Inbox.receive, read]
  rfl

end Outbox.Heard

/-! ## The client -/

/-- A client with caches of its own: one for the frames it is shown and one for
the input it sends. -/
structure Peer where
  inbox : Inbox
  outbox : Outbox
  hearing : PayloadCache
  saying : PayloadCache
  /-- All frames recovered, in order. -/
  heard : List Bytes

namespace Peer

/-- A client that has heard and said nothing. -/
def empty : Peer := ⟨.empty, .empty, .empty, .empty, []⟩

/-- What a message from the relay tells.  New frames are kept, slots are looked up, and
both caches are cleared when every player is ready. -/
def learn (peer : Peer) (code : UInt8) (body : Bytes) : Peer :=
  match Command.ofCode? code with
  | some .gameData =>
      match Request.readInput body with
      | .ok (.input frame) =>
          { peer with
            hearing := (peer.hearing.add frame).2
            heard := peer.heard ++ [frame] }
      | _ => peer
  | some .gameCache =>
      match Request.readCachedInput body with
      | .ok (.cachedInput slot) =>
          { peer with heard := peer.heard ++ (peer.hearing.get slot).toList }
      | _ => peer
  | some .readyToPlay => { peer with hearing := .empty, saying := .empty }
  | _ => peer

/-- A datagram from the relay: the new messages in it are acted on, oldest first. -/
def hear (peer : Peer) (datagram : Bytes) : Peer :=
  let (inbox, arrival) := peer.inbox.receive datagram
  arrival.accepted.foldl (fun peer accepted =>
    peer.learn accepted.message.code accepted.message.body) { peer with inbox := inbox }

/-- One datagram after the other. -/
def hearAll (peer : Peer) (packets : List Packet) : Peer :=
  packets.foldl (fun peer packet => peer.hear packet.data) peer

/-- The message for some input: its slot, if the relay holds it already. -/
def say (peer : Peer) (data : Bytes) : Command × Bytes :=
  match peer.saying.indexOf data with
  | some slot => (.gameCache, Body.cachedGameData slot)
  | none => (.gameData, Body.gameData data)

/-- New input is kept. -/
def keep (peer : Peer) (data : Bytes) : Peer :=
  match peer.saying.indexOf data with
  | some _ => peer
  | none => { peer with saying := (peer.saying.add data).2 }

/-- Number and send a message; the datagram is given first. -/
def send (peer : Peer) (command : Command) (body : Bytes) : Bytes × Peer :=
  let (datagram, outbox) := peer.outbox.send command.code body
  (datagram, { peer with outbox := outbox })

/-- Send some input, and keep it if it is new. -/
def type (peer : Peer) (data : Bytes) : Bytes × Peer :=
  (peer.keep data).send (peer.say data).1 (peer.say data).2

/-- The message types that tell a client nothing about input. -/
def ignores : Command → Bool
  | .gameData | .gameCache | .readyToPlay => false
  | _ => true

variable {peer : Peer}

theorem learn_ignored {command : Command} (ignored : ignores command = true)
    (peer : Peer) (body : Bytes) : peer.learn command.code body = peer := by
  rw [learn, Command.ofCode?_code]
  cases command <;> first | rfl | cases ignored

theorem learn_gameData (peer : Peer) {frame : Bytes} (fits : frame.length ≤ 65535) :
    peer.learn Command.gameData.code (Body.gameData frame) =
      { peer with
        hearing := (peer.hearing.add frame).2
        heard := peer.heard ++ [frame] } := by
  rw [learn, Command.ofCode?_code, Request.readInput_gameData fits]

theorem learn_gameCache {slot : UInt8} {frame : Bytes}
    (held : peer.hearing.get slot = some frame) :
    peer.learn Command.gameCache.code (Body.cachedGameData slot) =
      { peer with heard := peer.heard ++ [frame] } := by
  rw [learn, Command.ofCode?_code, Request.readCachedInput_cachedGameData]
  simp only [held]
  rfl

theorem learn_allReady (peer : Peer) (body : Bytes) :
    peer.learn Command.readyToPlay.code body =
      { peer with hearing := .empty, saying := .empty } := by
  rw [learn, Command.ofCode?_code]

/-- Of a datagram that is sent a client that has heard all before learns the new
message. -/
theorem hear_send {outbox : Outbox} (abreast : outbox.Heard peer.inbox) {code : UInt8}
    {body : Bytes} (fits : (outbox.push code body).Fits) :
    ∃ inbox, peer.hear (outbox.send code body).1 =
        Peer.learn { peer with inbox := inbox } code body ∧
      (outbox.push code body).Heard inbox := by
  obtain ⟨next, received, after⟩ := abreast.receive_send fits
  refine ⟨next, ?_, after⟩
  rw [hear, received]
  rfl

/-- What is sent again tells it nothing. -/
theorem hear_resend {outbox : Outbox} (abreast : outbox.Heard peer.inbox) {retry : Nat}
    {data : Bytes} (again : outbox.resend retry = some data) :
    ∃ inbox, peer.hear data = { peer with inbox := inbox } ∧ outbox.Heard inbox := by
  obtain ⟨next, count, received, after⟩ := abreast.receive_resend again
  refine ⟨next, ?_, after⟩
  rw [hear, received]
  rfl

/-- Sending leaves what was kept and heard as it is. -/
theorem keep_cases (peer : Peer) (data : Bytes) :
    (∃ slot, peer.saying.indexOf data = some slot ∧ peer.keep data = peer ∧
      peer.say data = (.gameCache, Body.cachedGameData slot)) ∨
    peer.saying.indexOf data = none ∧
      peer.keep data = { peer with saying := (peer.saying.add data).2 } ∧
      peer.say data = (.gameData, Body.gameData data) := by
  unfold keep say
  cases found : peer.saying.indexOf data with
  | some slot => exact .inl ⟨slot, rfl, rfl, rfl⟩
  | none => exact .inr ⟨rfl, rfl, rfl⟩

end Peer

/-! ## Both ends -/

/-- What a session makes of something, and the datagrams that it sends by it, leave its
caches alone and tell its client nothing about input. -/
structure Session.Unaffected (before : Session) (made : Session × List Packet) : Prop where
  client : made.1.clientCache = before.clientCache
  server : made.1.serverCache = before.serverCache
  inbox : made.1.inbox = before.inbox
  remote : made.1.remote = before.remote
  quiet : before.remote.isSome = true → made.1.outbox.Fits →
    ∀ peer : Peer, before.outbox.Heard peer.inbox → ∃ inbox,
      peer.hearAll made.2 = { peer with inbox := inbox } ∧ made.1.outbox.Heard inbox

/-- Users and games, time, ticket, sender and the size of the receive buffer when a
datagram is taken in. -/
structure Moment where
  lobby : Lobby
  now : Nat
  ticket : Nat
  source : Address
  buffer : Nat

/-- A session and its client, between which no datagram is lost or overtaken. -/
structure Channel where
  session : Session
  peer : Peer
  /-- All frames shown, in order. -/
  shown : List Bytes
  /-- All input that the client has sent, in order. -/
  typed : List Bytes
  /-- All input that the session has handed to the game, in order. -/
  handed : List Bytes

/-- The frame that an event shows. -/
def Event.frame? : Event → Option Bytes
  | .game _ (.data frame) => some frame
  | _ => none

/-- Whether an event begins a match. -/
def Event.beginsMatch : Event → Bool
  | .game _ .allReady => true
  | _ => false

/-- The input that a request hands to the game. -/
def Session.handed? (session : Session) : Request → Option Bytes
  | .input data => some data
  | .cachedInput slot => session.clientCache.get slot
  | _ => none

namespace Channel

/-- The session goes on, and the client hears the datagrams it sends. -/
def goOn (channel : Channel) (made : Session × List Packet) : Channel :=
  { channel with session := made.1, peer := channel.peer.hearAll made.2 }

/-- An event is shown. -/
def event (channel : Channel) (lobby : Lobby) (now : Nat) (event : Event) : Channel :=
  { channel.goOn (channel.session.render lobby now event) with
    shown := channel.shown ++ event.frame?.toList }

/-- A request is carried out. -/
def carryOut (channel : Channel) (request : Request) (done : Performed) : Channel :=
  { channel.goOn (done.session, done.packets) with
    handed := channel.handed ++ (channel.session.handed? request).toList }

/-- The session acts on messages in order. -/
def dispatch (moment : Moment) : List Accepted → Lobby → Channel → Channel
  | [], _, channel => channel
  | accepted :: rest, lobby, channel =>
      match Request.decode? accepted.message.code accepted.message.body with
      | some (.ok request) =>
          let done := channel.session.perform lobby moment.now moment.ticket request
          dispatch moment rest done.lobby (channel.carryOut request done)
      | _ => dispatch moment rest lobby channel

/-- The session takes in a datagram, as far as its receive buffer goes, and acts on the
new messages in it. -/
def deliver (channel : Channel) (moment : Moment) (datagram : Bytes) : Channel :=
  let received := datagram.take moment.buffer
  let heard := channel.session.hear moment.lobby.server.maxPing.toNat moment.now
    moment.source received
  dispatch moment (channel.session.inbox.receive received).2.accepted moment.lobby
    (channel.goOn heard)

/-- The client sends a message. -/
def send (channel : Channel) (moment : Moment) (command : Command) (body : Bytes) :
    Channel :=
  let (datagram, peer) := channel.peer.send command body
  deliver { channel with peer := peer } moment datagram

/-- The client sends some input. -/
def input (channel : Channel) (moment : Moment) (data : Bytes) : Channel :=
  let (datagram, peer) := channel.peer.type data
  deliver { channel with peer := peer, typed := channel.typed ++ [data] } moment datagram

/-- The channels that some run leads to.  Both ends begin with empty caches, each having
heard what the other one has sent; lobby and time are whatever they are at each step. -/
inductive Reached : Channel → Prop where
  | start (session : Session) (peer : Peer) (known : session.remote.isSome = true)
      (client : session.clientCache = .empty) (server : session.serverCache = .empty)
      (hearing : peer.hearing = .empty) (saying : peer.saying = .empty)
      (heard : peer.heard = []) (down : session.outbox.Heard peer.inbox)
      (up : peer.outbox.Heard session.inbox) : Reached ⟨session, peer, [], [], []⟩
  /-- A frame is shown.  With type byte, empty text and length it fits the length field
  of a message. -/
  | frame {channel : Channel} (reached : Reached channel) (lobby : Lobby) (now : Nat)
      (game : GameId) {frame : Bytes} (fits : frame.length ≤ 65531) :
      Reached (channel.event lobby now (.game game (.data frame)))
  /-- A match begins. -/
  | allReady {channel : Channel} (reached : Reached channel) (lobby : Lobby) (now : Nat)
      (game : GameId) : Reached (channel.event lobby now (.game game .allReady))
  /-- The client sends input in a datagram that is received whole. -/
  | input {channel : Channel} (reached : Reached channel) (moment : Moment) {data : Bytes}
      (fits : data.length ≤ 65531)
      (whole : (channel.peer.type data).1.length ≤ moment.buffer) :
      Reached (channel.input moment data)
  /-- Another event is shown, in messages that can be carried. -/
  | event {channel : Channel} (reached : Reached channel) (lobby : Lobby) (now : Nat)
      {event : Event} (noFrame : event.frame? = none) (noMatch : event.beginsMatch = false)
      (fits : (channel.session.render lobby now event).1.outbox.Fits) :
      Reached (channel.event lobby now event)
  /-- The client sends another message, and it and the answers can be carried. -/
  | send {channel : Channel} (reached : Reached channel) (moment : Moment)
      {command : Command} {body : Bytes} (notData : command ≠ .gameData)
      (notCache : command ≠ .gameCache) (short : body.length ≤ 65534)
      (whole : (channel.peer.send command body).1.length ≤ moment.buffer)
      (fits : (channel.send moment command body).session.outbox.Fits) :
      Reached (channel.send moment command body)
  /-- Nothing changes but what waits, what the session is doing and its speed test. -/
  | rest {channel : Channel} (reached : Reached channel) {after : Session}
      (client : after.clientCache = channel.session.clientCache)
      (server : after.serverCache = channel.session.serverCache)
      (inbox : after.inbox = channel.session.inbox)
      (outbox : after.outbox = channel.session.outbox)
      (remote : after.remote = channel.session.remote) :
      Reached (channel.goOn (after, []))

/-- The caches of both ends hold the same, each end has heard the other one, and what was
shown and sent has been recovered. -/
structure InStep (channel : Channel) : Prop where
  hearing : channel.peer.hearing = channel.session.serverCache
  saying : channel.peer.saying = channel.session.clientCache
  server : channel.session.serverCache.Kept
  client : channel.session.clientCache.Kept
  known : channel.session.remote.isSome = true
  down : channel.session.outbox.Heard channel.peer.inbox
  up : channel.peer.outbox.Heard channel.session.inbox
  heard : channel.peer.heard = channel.shown
  handed : channel.handed = channel.typed

end Channel

/-! ## What leaves the caches alone -/

namespace Session

variable {before after : Session} {made : Session × List Packet}

/-- A datagram for the client leaves once it is known where that is. -/
theorem transmit_known {session : Session} (known : session.remote.isSome = true)
    (data : Bytes) : ∃ packet : Packet, session.transmit data = [packet] ∧ packet.data = data := by
  obtain ⟨target, there⟩ := Option.isSome_iff_exists.mp known
  exact ⟨⟨session.port, target, data⟩, by rw [transmit, there]; rfl, rfl⟩

theorem Unaffected.of_same (client : after.clientCache = before.clientCache)
    (server : after.serverCache = before.serverCache) (inbox : after.inbox = before.inbox)
    (remote : after.remote = before.remote) (outbox : after.outbox = before.outbox) :
    Unaffected before (after, []) where
  client := client
  server := server
  inbox := inbox
  remote := remote
  quiet _ _ peer abreast := ⟨peer.inbox, rfl, outbox.symm ▸ abreast⟩

/-- One message about something else. -/
theorem Unaffected.of_one {command : Command} {body : Bytes}
    (ignored : Peer.ignores command = true)
    (client : made.1.clientCache = before.clientCache)
    (server : made.1.serverCache = before.serverCache) (inbox : made.1.inbox = before.inbox)
    (remote : made.1.remote = before.remote)
    (pushed : made.1.outbox = before.outbox.push command.code body)
    (sent : made.2 = before.transmit (before.outbox.send command.code body).1) :
    Unaffected before made := by
  refine ⟨client, server, inbox, remote, fun known fits peer abreast => ?_⟩
  obtain ⟨packet, leaves, data⟩ := transmit_known known (before.outbox.send command.code body).1
  rw [pushed] at fits ⊢
  obtain ⟨next, learned, after⟩ := Peer.hear_send abreast fits
  refine ⟨next, ?_, after⟩
  rw [sent, leaves]
  change peer.hear packet.data = _
  rw [data, learned, Peer.learn_ignored ignored]

/-- Two messages about something else. -/
theorem Unaffected.of_two {command next : Command} {body nextBody : Bytes}
    (ignored : Peer.ignores command = true) (nextIgnored : Peer.ignores next = true)
    (client : made.1.clientCache = before.clientCache)
    (server : made.1.serverCache = before.serverCache) (inbox : made.1.inbox = before.inbox)
    (remote : made.1.remote = before.remote)
    (pushed : made.1.outbox =
      (before.outbox.push command.code body).push next.code nextBody)
    (sent : made.2 = before.transmit (before.outbox.send command.code body).1 ++
      before.transmit ((before.outbox.push command.code body).send next.code nextBody).1) :
    Unaffected before made := by
  refine ⟨client, server, inbox, remote, fun known fits peer abreast => ?_⟩
  obtain ⟨packet, leaves, data⟩ := transmit_known known (before.outbox.send command.code body).1
  obtain ⟨follower, follows, nextData⟩ := transmit_known known
    ((before.outbox.push command.code body).send next.code nextBody).1
  rw [pushed] at fits ⊢
  -- Of the two messages kept the first one lies behind the second.
  have first : (before.outbox.push command.code body).Fits :=
    abreast.fits.push (fits _ (List.mem_cons_of_mem _ List.mem_cons_self))
  obtain ⟨middle, learned, between⟩ := Peer.hear_send abreast first
  rw [Peer.learn_ignored ignored] at learned
  change Outbox.Heard _ (Peer.inbox { peer with inbox := middle }) at between
  obtain ⟨last, learnedNext, after⟩ := Peer.hear_send between fits
  refine ⟨last, ?_, after⟩
  rw [sent, leaves, follows]
  change (peer.hear packet.data).hear follower.data = _
  rw [data, nextData, learned, learnedNext, Peer.learn_ignored nextIgnored]

theorem Unaffected.send (session : Session) {command : Command}
    (ignored : Peer.ignores command = true) (body : Bytes) :
    Unaffected session (session.send command body) :=
  .of_one ignored rfl rfl rfl rfl rfl rfl

theorem Unaffected.resend (session : Session) (distance now retry : Nat) :
    Unaffected session (session.resend distance now retry) := by
  unfold Session.resend
  split
  · exact .of_same rfl rfl rfl rfl rfl
  · split
    · exact .of_same rfl rfl rfl rfl rfl
    · rename_i data again
      refine ⟨rfl, rfl, rfl, rfl, fun known _ peer abreast => ?_⟩
      obtain ⟨packet, leaves, same⟩ := transmit_known known data
      obtain ⟨next, learned, after⟩ := Peer.hear_resend abreast again
      refine ⟨next, ?_, after⟩
      rw [leaves]
      change peer.hear packet.data = _
      rw [same, learned]

theorem renderServer_unaffected (session : Session) (event : ServerEvent) :
    Unaffected session (session.renderServer event) := by
  cases event with
  | chat user message => exact .send session rfl _
  | userJoined user => exact .send session rfl _
  | userQuit user message =>
      simp only [renderServer]
      split
      · exact .of_one rfl rfl rfl rfl rfl rfl rfl
      · exact .send session rfl _
  | gameCreated game => exact .send session rfl _
  | gameClosed game => exact .send session rfl _
  | gameStatusChanged game => exact .send session rfl _

theorem renderJoin_unaffected (session : Session) (game : GameId) (user : User)
    (players : List User) : Unaffected session (session.renderJoin game user players) := by
  unfold renderJoin
  split
  · exact .of_two rfl rfl rfl rfl rfl rfl rfl rfl
  · exact .send session rfl _

theorem renderUser_unaffected (session : Session) (lobby : Lobby) (event : UserEvent) :
    Unaffected session (session.renderUser lobby event) := by
  cases event with
  | connected => exact .send session rfl _
  | infoMessage source message => exact .send session rfl _

/-- An event of a game that neither shows a frame nor begins a match. -/
theorem renderGame_unaffected (session : Session) (lobby : Lobby) (now : Nat)
    (game : GameId) {event : GameEvent} (noFrame : ∀ frame, event ≠ .data frame)
    (noStart : event ≠ .allReady) :
    Unaffected session (session.renderGame lobby now game event) := by
  cases event with
  | userJoined user players => exact session.renderJoin_unaffected game user players
  | userQuit user => exact .send session rfl _
  | started players => exact .send session rfl _
  | allReady => exact absurd rfl noStart
  | userDropped user player => exact .send session rfl _
  | chat user message => exact .send session rfl _
  | data frame => exact absurd rfl (noFrame frame)
  | info message => exact .send session rfl _
  | timeout user number =>
      simp only [renderGame]
      split
      · exact .resend session _ now number
      · exact .of_same rfl rfl rfl rfl rfl
  | playerDesynch user message => exact .send session rfl _
  | desynch message => exact .send session rfl _

/-- An event that neither shows a frame nor begins a match. -/
theorem render_unaffected (session : Session) (lobby : Lobby) (now : Nat) {event : Event}
    (noFrame : event.frame? = none) (noMatch : event.beginsMatch = false) :
    Unaffected session (session.render lobby now event) := by
  cases event with
  | server event => exact session.renderServer_unaffected event
  | user event => exact session.renderUser_unaffected lobby event
  | game game event =>
      apply session.renderGame_unaffected
      · rintro frame rfl
        cases noFrame
      · rintro rfl
        cases noMatch

theorem introduce_unaffected (session : Session) (lobby : Lobby) (now : Nat)
    (name emulator : String) (connectionType : UInt8) :
    Unaffected session ((session.introduce lobby now name emulator connectionType).session,
      (session.introduce lobby now name emulator connectionType).packets) := by
  unfold introduce
  split
  · exact .of_same rfl rfl rfl rfl rfl
  · exact .of_one rfl rfl rfl rfl rfl rfl rfl

theorem acknowledge_unaffected (session : Session) (lobby : Lobby) (now : Nat) :
    Unaffected session ((session.acknowledge lobby now).session,
      (session.acknowledge lobby now).packets) := by
  unfold acknowledge
  split
  · exact .of_same rfl rfl rfl rfl rfl
  · simp only
    split
    · exact .of_one rfl rfl rfl rfl rfl rfl rfl
    · unfold finishLogin
      simp only
      split
      · exact .of_same rfl rfl rfl rfl rfl
      · exact .of_one rfl rfl rfl rfl rfl rfl rfl

/-- A refusal is told in messages that concern no input. -/
theorem tellingRefusal_unaffected {α : Type} {session : Session} {step : Step Lobby α}
    {tell : Refusal → Performed → Performed}
    (told : ∀ refusal done, done.packets = [] →
      Unaffected done.session ((tell refusal done).session, (tell refusal done).packets)) :
    Unaffected session ((Performed.tellingRefusal session step tell).session,
      (Performed.tellingRefusal session step tell).packets) :=
  Performed.tellingRefusal_induction
    (motive := fun done => Unaffected session (done.session, done.packets))
    (.of_same rfl rfl rfl rfl rfl) fun refusal =>
      told refusal ⟨step.state, session, step.letters, [], .finished (.ok ())⟩ rfl

theorem turnAway_unaffected (user : UserId) (what : String) (refusal : Refusal)
    (done : Performed) (silent : done.packets = []) :
    Unaffected done.session ((turnAway user what refusal done).session,
      (turnAway user what refusal done).packets) := by
  refine .of_two rfl rfl rfl rfl rfl rfl rfl ?_
  simp only [turnAway, Performed.send, silent]
  rfl

/-- Only new input changes a cache. -/
theorem perform_unaffected (session : Session) (lobby : Lobby) (now ticket : Nat)
    {request : Request} (other : ∀ data, request ≠ .input data) :
    Unaffected session ((session.perform lobby now ticket request).session,
      (session.perform lobby now ticket request).packets) := by
  cases request with
  | login name emulator connectionType =>
      exact session.introduce_unaffected lobby now name emulator connectionType
  | acknowledge => exact session.acknowledge_unaffected lobby now
  | chat message => exact .of_same rfl rfl rfl rfl rfl
  | gameChat message =>
      simp only [perform]
      split
      · exact .of_same rfl rfl rfl rfl rfl
      · exact .of_same rfl rfl rfl rfl rfl
  | keepAlive => exact .of_same rfl rfl rfl rfl rfl
  | createGame name =>
      exact tellingRefusal_unaffected (turnAway_unaffected session.user _)
  | joinGame game =>
      exact tellingRefusal_unaffected (turnAway_unaffected session.user _)
  | quitGame => exact .of_same rfl rfl rfl rfl rfl
  | quit message => exact .of_same rfl rfl rfl rfl rfl
  | startGame =>
      apply tellingRefusal_unaffected
      intro refusal done silent
      refine .of_one rfl rfl rfl rfl rfl rfl ?_
      simp only [Performed.send, silent]
      rfl
  | ready => exact .of_same rfl rfl rfl rfl rfl
  | kick target => exact .of_same rfl rfl rfl rfl rfl
  | input data => exact absurd rfl (other data)
  | cachedInput slot =>
      simp only [perform]
      split
      · exact .of_same rfl rfl rfl rfl rfl
      · exact .of_same rfl rfl rfl rfl rfl
  | dropGame => exact .of_same rfl rfl rfl rfl rfl

end Session

/-! ## Input that arrives -/

/-- A message of another type holds no input. -/
theorem Request.command_of_decode? {command : Command} {body : Bytes} {request : Request}
    (read : decode? command.code body = some (.ok request)) : request.command = command := by
  have same := congrArg Command.ofCode? (code_of_decode? read)
  rw [Command.ofCode?_code, Command.ofCode?_code] at same
  exact Option.some.inj same

/-- So it hands nothing to the game. -/
theorem Session.handed?_eq_none {session : Session} {request : Request}
    (notData : request.command ≠ .gameData) (notCache : request.command ≠ .gameCache) :
    session.handed? request = none := by
  cases request with
  | input data => exact absurd rfl notData
  | cachedInput slot => exact absurd rfl notCache
  | _ => rfl

namespace Channel

variable {channel : Channel} {command : Command} {body : Bytes}

/-- A message of the client that is received whole is the only one that the session takes
in, and there is no gap before it. -/
theorem InStep.receive (inStep : channel.InStep) (moment : Moment)
    (short : body.length ≤ 65534)
    (whole : (channel.peer.outbox.send command.code body).1.length ≤ moment.buffer) :
    ∃ inbox,
      channel.session.inbox.receive
          ((channel.peer.outbox.send command.code body).1.take moment.buffer) =
        (inbox, .messages [⟨⟨channel.peer.outbox.nextSeq, command.code, body⟩, false⟩]) ∧
      (channel.peer.outbox.push command.code body).Heard inbox := by
  rw [List.take_of_length_le whole]
  exact inStep.up.receive_send (inStep.up.fits.push (Message.valid_code _ command short))

/-- The session hears it, and goes on to act on it. -/
theorem deliver_eq {moment : Moment} {datagram : Bytes} {inbox : Inbox}
    {accepted : List Accepted}
    (received : channel.session.inbox.receive (datagram.take moment.buffer) =
      (inbox, .messages accepted)) :
    channel.deliver moment datagram = dispatch moment accepted moment.lobby
      { channel with
        session := channel.session.heard moment.now moment.source inbox } := by
  simp only [deliver, Session.hear, received]
  rfl

end Channel

/-! ## Steps -/

namespace Channel

variable {channel : Channel}

theorem InStep.goOn (inStep : channel.InStep) {made : Session × List Packet}
    (unaffected : channel.session.Unaffected made) (fits : made.1.outbox.Fits) :
    (channel.goOn made).InStep := by
  obtain ⟨client, server, inbox, remote, quiet⟩ := unaffected
  obtain ⟨next, learned, down⟩ := quiet inStep.known fits channel.peer inStep.down
  have peer : (channel.goOn made).peer = { channel.peer with inbox := next } := learned
  constructor
  · rw [peer]
    exact inStep.hearing.trans server.symm
  · rw [peer]
    exact inStep.saying.trans client.symm
  · exact (congrArg PayloadCache.Kept server).mpr inStep.server
  · exact (congrArg PayloadCache.Kept client).mpr inStep.client
  · exact (congrArg Option.isSome remote).trans inStep.known
  · rw [peer]
    exact down
  · rw [peer]
    exact inStep.up.of_last (congrArg Inbox.last inbox)
  · rw [peer]
    exact inStep.heard
  · exact inStep.handed

/-- An event that shows no frame and begins no match. -/
theorem InStep.event (inStep : channel.InStep) {lobby : Lobby} {now : Nat} {event : Event}
    (noFrame : event.frame? = none) (noMatch : event.beginsMatch = false)
    (fits : (channel.session.render lobby now event).1.outbox.Fits) :
    (channel.event lobby now event).InStep := by
  have goesOn := inStep.goOn
    (channel.session.render_unaffected lobby now noFrame noMatch) fits
  refine { goesOn with heard := ?_ }
  rw [Channel.event, noFrame]
  exact goesOn.heard.trans (List.append_nil _).symm

/-- A message about input is sent, and the client has learned it. -/
theorem InStep.hears (inStep : channel.InStep) (session : Session)
    (outbox : session.outbox = channel.session.outbox)
    (remote : session.remote = channel.session.remote) (command : Command) {body : Bytes}
    (short : body.length ≤ 65534) :
    ∃ inbox, channel.peer.hearAll (session.send command body).2 =
        Peer.learn { channel.peer with inbox := inbox } command.code body ∧
      (session.send command body).1.outbox.Heard inbox := by
  have known : session.remote.isSome = true := (congrArg _ remote).trans inStep.known
  obtain ⟨packet, leaves, data⟩ :=
    Session.transmit_known known (session.outbox.send command.code body).1
  have abreast : session.outbox.Heard channel.peer.inbox := outbox.symm ▸ inStep.down
  obtain ⟨inbox, learned, after⟩ :=
    Peer.hear_send abreast (abreast.fits.push (Message.valid_code _ command short))
  refine ⟨inbox, ?_, after⟩
  rw [Session.send]
  simp only [leaves]
  change channel.peer.hear packet.data = _
  rw [data, learned]

/-- A match begins: all four caches are empty. -/
theorem InStep.allReady (inStep : channel.InStep) (lobby : Lobby) (now : Nat)
    (game : GameId) : (channel.event lobby now (.game game .allReady)).InStep := by
  have short : Body.allReady.length ≤ 65534 := by decide
  obtain ⟨inbox, learned, down⟩ :=
    inStep.hears channel.session.clearCaches rfl rfl .readyToPlay short
  rw [Peer.learn_allReady] at learned
  have peer : (channel.event lobby now (.game game .allReady)).peer =
      { channel.peer with inbox := inbox, hearing := .empty, saying := .empty } := learned
  constructor
  · rw [peer]
    rfl
  · rw [peer]
    rfl
  · exact PayloadCache.kept_empty
  · exact PayloadCache.kept_empty
  · exact inStep.known
  · rw [peer]
    exact down
  · rw [peer]
    exact inStep.up
  · rw [peer]
    exact inStep.heard.trans (List.append_nil _).symm
  · exact inStep.handed

/-- A frame is shown: it is new to both ends, or both hold it in the same slot. -/
theorem InStep.renderFrame (inStep : channel.InStep) {frame : Bytes}
    (fits : frame.length ≤ 65531) :
    ∃ inbox, channel.peer.hearAll (channel.session.renderFrame frame).2 =
        { channel.peer with
          inbox := inbox
          hearing := (channel.session.renderFrame frame).1.serverCache
          heard := channel.peer.heard ++ [frame] } ∧
      (channel.session.renderFrame frame).1.outbox.Heard inbox ∧
      (channel.session.renderFrame frame).1.serverCache.Kept := by
  unfold Session.renderFrame
  cases found : channel.session.serverCache.indexOf frame with
  | some slot =>
      have short : (Body.cachedGameData slot).length ≤ 65534 := Nat.le_add_left 2 65532
      obtain ⟨inbox, learned, down⟩ := inStep.hears channel.session rfl rfl .gameCache short
      have held : (Peer.hearing { channel.peer with inbox := inbox }).get slot = some frame := by
        change channel.peer.hearing.get slot = some frame
        rw [inStep.hearing]
        exact PayloadCache.get_of_indexOf inStep.server found
      rw [Peer.learn_gameCache held] at learned
      refine ⟨inbox, learned.trans ?_, down, inStep.server⟩
      change _ = { channel.peer with
        inbox := inbox
        hearing := channel.session.serverCache
        heard := channel.peer.heard ++ [frame] }
      rw [← inStep.hearing]
  | none =>
      have short : (Body.gameData frame).length ≤ 65534 := by
        rw [Body.length_gameData]
        omega
      obtain ⟨inbox, learned, down⟩ := inStep.hears
        { channel.session with serverCache := (channel.session.serverCache.add frame).2 }
        rfl rfl .gameData short
      rw [Peer.learn_gameData _ (Nat.le_trans fits (by decide))] at learned
      refine ⟨inbox, learned.trans ?_, down, inStep.server.add frame⟩
      simp only [inStep.hearing]
      rfl

theorem InStep.frame (inStep : channel.InStep) (lobby : Lobby) (now : Nat)
    (game : GameId) {frame : Bytes} (fits : frame.length ≤ 65531) :
    (channel.event lobby now (.game game (.data frame))).InStep := by
  obtain ⟨inbox, learned, down, server⟩ := inStep.renderFrame fits
  have peer : (channel.event lobby now (.game game (.data frame))).peer = _ := learned
  have same : (channel.session.renderFrame frame).1.clientCache =
        channel.session.clientCache ∧
      (channel.session.renderFrame frame).1.inbox = channel.session.inbox ∧
      (channel.session.renderFrame frame).1.remote = channel.session.remote := by
    unfold Session.renderFrame
    split
    · exact ⟨rfl, rfl, rfl⟩
    · exact ⟨rfl, rfl, rfl⟩
  constructor
  · rw [peer]
    rfl
  · rw [peer]
    exact inStep.saying.trans same.1.symm
  · exact server
  · exact (congrArg PayloadCache.Kept same.1).mpr inStep.client
  · exact (congrArg Option.isSome same.2.2).trans inStep.known
  · rw [peer]
    exact down
  · rw [peer]
    exact inStep.up.of_last (congrArg Inbox.last same.2.1)
  · rw [peer]
    exact congrArg (· ++ [frame]) inStep.heard
  · exact inStep.handed

/-- The session has taken in a message of the client that it is about to act on. -/
theorem InStep.takeIn (inStep : channel.InStep) (moment : Moment) {inbox : Inbox}
    {outbox : Outbox} (up : outbox.Heard inbox) :
    InStep { channel with
      peer := { channel.peer with outbox := outbox }
      session := channel.session.heard moment.now moment.source inbox } where
  hearing := inStep.hearing
  saying := inStep.saying
  server := inStep.server
  client := inStep.client
  known := by
    obtain ⟨target, there⟩ := Option.isSome_iff_exists.mp inStep.known
    simp [Session.heard, there]
  down := inStep.down
  up := up
  heard := inStep.heard
  handed := inStep.handed

/-- A request about something else is carried out. -/
theorem InStep.carryOut (inStep : channel.InStep) {lobby : Lobby} {now ticket : Nat}
    {request : Request} (notData : request.command ≠ .gameData)
    (notCache : request.command ≠ .gameCache)
    (fits : (channel.session.perform lobby now ticket request).session.outbox.Fits) :
    (channel.carryOut request (channel.session.perform lobby now ticket request)).InStep := by
  have other : ∀ data, request ≠ .input data := by
    rintro data rfl
    exact notData rfl
  have goesOn := inStep.goOn
    (channel.session.perform_unaffected lobby now ticket other) fits
  refine { goesOn with handed := ?_ }
  rw [Channel.carryOut, Session.handed?_eq_none notData notCache]
  exact (List.append_nil _).trans goesOn.handed

/-- A message of the client that is not about input. -/
theorem InStep.send (inStep : channel.InStep) (moment : Moment) {command : Command}
    {body : Bytes} (notData : command ≠ .gameData) (notCache : command ≠ .gameCache)
    (short : body.length ≤ 65534)
    (whole : (channel.peer.send command body).1.length ≤ moment.buffer)
    (fits : (channel.send moment command body).session.outbox.Fits) :
    (channel.send moment command body).InStep := by
  obtain ⟨inbox, received, up⟩ := inStep.receive moment short whole
  have heard := inStep.takeIn moment up
  have made : channel.send moment command body = dispatch moment
      [⟨⟨channel.peer.outbox.nextSeq, command.code, body⟩, false⟩] moment.lobby _ :=
    deliver_eq received
  rw [made] at fits ⊢
  simp only [dispatch] at fits ⊢
  split
  · rename_i request decoded
    obtain rfl := Request.command_of_decode? decoded
    simp only [decoded] at fits
    exact heard.carryOut notData notCache fits
  · exact heard

/-- The input of the client arrives in one message, which hands exactly that input to the
game and has it kept where the client keeps it. -/
theorem InStep.arrives (inStep : channel.InStep) (moment : Moment) {data : Bytes}
    (fits : data.length ≤ 65531)
    (whole : (channel.peer.type data).1.length ≤ moment.buffer) :
    ∃ inbox message request,
      channel.session.inbox.receive ((channel.peer.type data).1.take moment.buffer) =
        (inbox, .messages [⟨message, false⟩]) ∧
      (channel.peer.type data).2.outbox.Heard inbox ∧
      Request.decode? message.code message.body = some (.ok request) ∧
      (channel.session.heard moment.now moment.source inbox).handed? request = some data ∧
      (channel.session.heard moment.now moment.source inbox).perform moment.lobby moment.now
          moment.ticket request =
        Session.addInput
          { channel.session.heard moment.now moment.source inbox with
            clientCache := (channel.peer.keep data).saying }
          moment.lobby moment.now moment.ticket data := by
  rcases channel.peer.keep_cases data with ⟨slot, found, keeps, spoken⟩ | ⟨-, keeps, spoken⟩
  · have short : (Body.cachedGameData slot).length ≤ 65534 := Nat.le_add_left 2 65532
    have held : channel.session.clientCache.get slot = some data := by
      rw [inStep.saying] at found
      exact PayloadCache.get_of_indexOf inStep.client found
    rw [Peer.type, keeps, spoken] at whole ⊢
    obtain ⟨inbox, received, up⟩ := inStep.receive moment short whole
    refine ⟨inbox, _, _, received, up, Request.decode?_cachedGameData slot, held, ?_⟩
    have cached : Session.clientCache (channel.session.heard moment.now moment.source inbox) =
        channel.session.clientCache := rfl
    simp only [Session.perform, cached, held, inStep.saying]
    rfl
  · have short : (Body.gameData data).length ≤ 65534 := by
      rw [Body.length_gameData]
      omega
    rw [Peer.type, keeps, spoken] at whole ⊢
    obtain ⟨inbox, received, up⟩ := inStep.receive moment short whole
    have decoded := Request.decode?_gameData (Nat.le_trans fits (by decide))
    refine ⟨inbox, _, _, received, up, decoded, rfl, ?_⟩
    simp only [Session.perform, inStep.saying]
    rfl

theorem InStep.input (inStep : channel.InStep) (moment : Moment) {data : Bytes}
    (fits : data.length ≤ 65531)
    (whole : (channel.peer.type data).1.length ≤ moment.buffer) :
    (channel.input moment data).InStep := by
  obtain ⟨inbox, message, request, received, up, decoded, handed, performed⟩ :=
    inStep.arrives moment fits whole
  have made : channel.input moment data =
      dispatch moment [⟨message, false⟩] moment.lobby _ := deliver_eq received
  rw [made]
  simp only [dispatch, decoded, Channel.carryOut, handed, performed]
  have caches : (channel.peer.type data).2.hearing = channel.peer.hearing ∧
      (channel.peer.type data).2.saying = (channel.peer.keep data).saying ∧
      (channel.peer.type data).2.inbox = channel.peer.inbox ∧
      (channel.peer.type data).2.heard = channel.peer.heard := by
    rcases channel.peer.keep_cases data with ⟨_, -, keeps, -⟩ | ⟨-, keeps, -⟩
    · rw [Peer.type, keeps]
      exact ⟨rfl, rfl, rfl, rfl⟩
    · rw [Peer.type, keeps]
      exact ⟨rfl, rfl, rfl, rfl⟩
  obtain ⟨hearing, saying, same, heard⟩ := caches
  have kept : (channel.peer.keep data).saying.Kept := by
    rcases channel.peer.keep_cases data with ⟨_, -, keeps, -⟩ | ⟨-, keeps, -⟩
    · rw [keeps, inStep.saying]
      exact inStep.client
    · rw [keeps]
      exact PayloadCache.Kept.add (inStep.saying.symm ▸ inStep.client) data
  have goesOn := inStep.takeIn moment up
  exact {
    hearing := hearing.trans inStep.hearing
    saying := saying
    server := inStep.server
    client := kept
    known := goesOn.known
    down := same.symm ▸ inStep.down
    up := up
    heard := heard.trans inStep.heard
    handed := congrArg (· ++ [data]) inStep.handed }

/-- Every run keeps both ends in step. -/
theorem Reached.inStep (reached : Reached channel) : channel.InStep := by
  induction reached with
  | start session peer known client server hearing saying heard down up =>
      refine ⟨hearing.trans server.symm, saying.trans client.symm, ?_, ?_, known, down, up,
        heard, rfl⟩
      · exact server.symm ▸ PayloadCache.kept_empty
      · exact client.symm ▸ PayloadCache.kept_empty
  | frame _ lobby now game fits inductionHypothesis =>
      exact inductionHypothesis.frame lobby now game fits
  | allReady _ lobby now game inductionHypothesis =>
      exact inductionHypothesis.allReady lobby now game
  | input _ moment fits whole inductionHypothesis =>
      exact inductionHypothesis.input moment fits whole
  | event _ lobby now noFrame noMatch fits inductionHypothesis =>
      exact inductionHypothesis.event noFrame noMatch fits
  | send _ moment notData notCache short whole fits inductionHypothesis =>
      exact inductionHypothesis.send moment notData notCache short whole fits
  | rest _ client server inbox outbox remote inductionHypothesis =>
      apply inductionHypothesis.goOn (.of_same client server inbox remote outbox)
      exact outbox.symm ▸ inductionHypothesis.down.fits

/-- A session that knows where its client is, before anything is sent. -/
def begun : Channel :=
  ⟨{ Session.begin 1 27900 "10.0.0.1" 0 with remote := some ⟨"10.0.0.1", 6000⟩ }, .empty,
    [], [], []⟩

theorem begun_reached : Reached begun :=
  .start _ _ rfl rfl rfl rfl rfl rfl .empty .empty

/-- A first frame whose message is one byte too long for the length field of messages
is not heard. -/
theorem hear_overlong {frame : Bytes} (long : frame.length = 65532) :
    (begun.event (.empty {}) 0 (.game 1 (.data frame))).peer.heard = [] := by
  have body : (Body.gameData frame).length = 65535 := by
    rw [Body.length_gameData, long]
  have received : Inbox.empty.receive
        (Outbox.empty.send Command.gameData.code (Body.gameData frame)).1 =
      (Inbox.empty, .rejected (.badLength 0 0 65536)) := by
    have unread : Bundle.parse (Outbox.empty.send Command.gameData.code (Body.gameData frame)).1
        Inbox.empty.last = .error (.badLength 0 0 65536) := Bundle.parse_overlong body
    rw [Inbox.receive, unread]
  have said : (begun.event (.empty {}) 0 (.game 1 (.data frame))).peer =
      Peer.empty.hear (Outbox.empty.send Command.gameData.code (Body.gameData frame)).1 := rfl
  rw [said, Peer.hear, show Peer.empty.inbox = Inbox.empty from rfl, received]
  rfl

/-- Nothing is lost when input travels as slots: the client has recovered exactly the
frames it was shown, and the session has handed to the game exactly the input that the
client sent, both in order.  Whatever input the client sends next arrives in one message,
and to act on it is to hand exactly that input to the game, whatever comes of it there. -/
theorem lossless (reached : Reached channel) :
    channel.peer.heard = channel.shown ∧ channel.handed = channel.typed ∧
      ∀ (moment : Moment) (data : Bytes), data.length ≤ 65531 →
        (channel.peer.type data).1.length ≤ moment.buffer →
        ∃ inbox message request,
          channel.session.inbox.receive ((channel.peer.type data).1.take moment.buffer) =
            (inbox, .messages [⟨message, false⟩]) ∧
          Request.decode? message.code message.body = some (.ok request) ∧
          (channel.session.heard moment.now moment.source inbox).perform moment.lobby
              moment.now moment.ticket request =
            Session.addInput
              { channel.session.heard moment.now moment.source inbox with
                clientCache := (channel.peer.keep data).saying }
              moment.lobby moment.now moment.ticket data := by
  have inStep := reached.inStep
  refine ⟨inStep.heard, inStep.handed, fun moment data fits whole => ?_⟩
  obtain ⟨inbox, message, request, received, -, decoded, -, performed⟩ :=
    inStep.arrives moment fits whole
  exact ⟨inbox, message, request, received, decoded, performed⟩

/-- An empty relay, two milliseconds after it began. -/
def early : Moment := ⟨.empty {}, 2, 0, ⟨"10.0.0.1", 6000⟩, 4096⟩

/-- One frame is shown twice and one input is sent. -/
def repeated : Channel :=
  ((begun.event (.empty {}) 0 (.game 1 (.data [7]))).event (.empty {}) 1
    (.game 1 (.data [7]))).input early [5]

/-- The repeated frame is recovered, and input that is sent again travels as the
slot of the first copy. -/
theorem lossless_repeated :
    repeated.peer.heard = [[7], [7]] ∧ repeated.handed = [[5]] ∧
      (repeated.peer.say [5]).1 = .gameCache ∧
      ∃ inbox message request,
        repeated.session.inbox.receive ((repeated.peer.type [5]).1.take early.buffer) =
          (inbox, .messages [⟨message, false⟩]) ∧
        Request.decode? message.code message.body = some (.ok request) ∧
        (repeated.session.heard early.now early.source inbox).perform early.lobby early.now
            early.ticket request =
          Session.addInput
            { repeated.session.heard early.now early.source inbox with
              clientCache := (repeated.peer.keep [5]).saying }
            early.lobby early.now early.ticket [5] := by
  have reached : Reached repeated := by
    apply Reached.input _ early
    · decide
    · decide
    · apply Reached.frame
      · exact .frame begun_reached (.empty {}) 0 1 (by decide)
      · decide
  obtain ⟨heard, handed, next⟩ := lossless reached
  refine ⟨heard.trans ?_, handed.trans ?_, ?_, next early [5] ?_ ?_⟩
  · rfl
  · rfl
  · decide
  · decide
  · decide

/-- A frame of 65532 bytes is within what the length of the input itself can say, but its
message is too long for the length field of messages: the client cannot read it. -/
theorem overlong_lost :
    Reached begun ∧ (List.replicate 65532 (0x41 : UInt8)).length ≤ 65535 ∧
      (begun.event (.empty {}) 0 (.game 1 (.data (List.replicate 65532 0x41)))).shown =
        [List.replicate 65532 0x41] ∧
      (begun.event (.empty {}) 0 (.game 1 (.data (List.replicate 65532 0x41)))).peer.heard =
        [] := by
  refine ⟨begun_reached, ?_, rfl, hear_overlong List.length_replicate⟩
  rw [List.length_replicate]
  decide

end Channel

end Netplay
