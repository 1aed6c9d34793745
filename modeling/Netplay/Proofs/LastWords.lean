/-
Module: Netplay.Proofs.LastWords
Purpose: A session that has shown the departure of its own user says nothing more,
  unless a merge has held it up: then it goes on with the messages behind the one
  that waited, and some of these are answered at once.
Main exports:
  Accepted.IsAnswered, Session.Lingers, Relay.Lingers, Relay.lingers_dispatch,
  Relay.lingers_merge, Relay.said, Relay.stopped_beat, Relay.stopped_play,
  Relay.BidsFarewell, Relay.farewell
-/
import Netplay.Proofs.Beats
import Netplay.Proofs.Composure

namespace Netplay

/-- A message is read as a request that may be answered at once. -/
def Accepted.IsAnswered (accepted : Accepted) : Prop :=
  ∃ request, accepted.Asks request ∧ request.isAnswered = true

/-! ## Sessions -/

namespace Session

variable {session later last : Session} {held : List Accepted}

/-- A session goes on with the same user.  Once it has stopped it stays so, and it is
held up where it has been, or else before the last of these messages. -/
structure Lingers (held : List Accepted) (session later : Session) : Prop where
  user : later.user = session.user
  stopped : session.stopped = true → later.stopped = true
  phase : later.phase = session.phase ∨ later.phase.backlog <:+ held

namespace Lingers

theorem refl (held : List Accepted) (session : Session) : session.Lingers held session :=
  ⟨rfl, id, .inl rfl⟩

theorem trans (one : session.Lingers held later) (two : later.Lingers held last) :
    session.Lingers held last :=
  ⟨two.user.trans one.user, fun stopped => two.stopped (one.stopped stopped),
    two.phase.elim (fun same => same ▸ one.phase) .inr⟩

/-- With what a session has still to act on as the bound, it has never more. -/
theorem backlog (lingers : session.Lingers session.phase.backlog later) :
    later.phase.backlog <:+ session.phase.backlog :=
  lingers.phase.elim (fun same => same ▸ List.suffix_rfl) id

theorem keeps {lobby : Lobby} {done : Performed} (keeps : Performed.Keeps session lobby done) :
    session.Lingers held done.session := by
  rw [keeps.frame]
  exact ⟨rfl, id, .inl rfl⟩

theorem shows {ends : Bool} {shown : Session × List Packet} (shows : session.Shows ends shown) :
    session.Lingers held shown.1 := by
  rw [shows.frame]
  exact ⟨rfl, fun stopped => by simp [stopped], .inl rfl⟩

end Lingers

end Session

/-! ## Relays -/

namespace Relay

variable {relay after last : Relay} {port other : Port} {session : Session}
  {held : List Accepted} {may : Prop}

/-- The session on a port goes on, and nothing is sent from there unless it may be. -/
structure Lingers (port : Port) (held : List Accepted) (may : Prop) (relay after : Relay) :
    Prop where
  stays : ∀ session, relay.sessionOn? port = some session →
    ∃ later, after.sessionOn? port = some later ∧ session.Lingers held later
  sends : ∃ packets, after.outgoing = relay.outgoing ++ packets ∧
    ∀ packet ∈ packets, packet.source = port → may

namespace Lingers

/-- The session on the port is the same, and nothing is sent. -/
theorem aside (same : ∀ session, relay.sessionOn? port = some session →
      after.sessionOn? port = some session)
    (outgoing : after.outgoing = relay.outgoing) : Lingers port held may relay after where
  stays session there := ⟨session, same session there, .refl held session⟩
  sends := ⟨[], by rw [outgoing, List.append_nil], fun _ sent => by cases sent⟩

theorem refl (relay : Relay) : Lingers port held may relay relay := .aside (fun _ => id) rfl

/-- Only users and games change. -/
theorem lobby (relay : Relay) (lobby : Lobby) :
    Lingers port held may relay { relay with lobby := lobby } := .aside (fun _ => id) rfl

theorem trans (one : Lingers port held may relay after)
    (two : Lingers port held may after last) : Lingers port held may relay last where
  stays session there := by
    obtain ⟨later, here, first⟩ := one.stays session there
    obtain ⟨final, still, second⟩ := two.stays later here
    exact ⟨final, still, first.trans second⟩
  sends := by
    obtain ⟨first, firstOut, firstMay⟩ := one.sends
    obtain ⟨second, secondOut, secondMay⟩ := two.sends
    refine ⟨first ++ second, ?_, fun packet sent => ?_⟩
    · rw [secondOut, firstOut, List.append_assoc]
    · exact (List.mem_append.mp sent).elim (firstMay packet) (secondMay packet)

/-- Sessions on a port change. -/
theorem modify {change : Session → Session}
    (keeps : ∀ session : Session, session.port = other → (change session).port = other)
    (lingers : ∀ session, relay.sessionOn? port = some session → port = other →
      session.Lingers held (change session)) :
    Lingers port held may relay (relay.modify other change) where
  stays session there := by
    rw [sessionOn?_modify (fun session _ => keeps session)]
    split
    · rename_i same
      subst same
      exact ⟨change session, by rw [there]; rfl, lingers session there rfl⟩
    · exact ⟨session, there, .refl held session⟩
  sends := ⟨[], (List.append_nil _).symm, fun _ sent => by cases sent⟩

/-- The session on a port is replaced by what has become of it. -/
theorem put {old next : Session} (there : relay.sessionOn? other = some old)
    (same : next.port = old.port) (lingers : port = other → old.Lingers held next) :
    Lingers port held may relay (relay.modify other fun _ => next) := by
  have number := (sessionOn?_eq_some there).2
  refine .modify (fun _ _ => same.trans number) fun session here equal => ?_
  rw [← equal, here] at there
  cases there
  exact lingers equal

theorem post (relay : Relay) (letters : List Letter) :
    Lingers port held may relay (relay.post letters) where
  stays session there := by
    rw [sessionOn?_post, there]
    exact ⟨session.told letters, rfl, rfl, id, .inl rfl⟩
  sends := ⟨[], (List.append_nil _).symm, fun _ sent => by cases sent⟩

/-- Datagrams leave the relay. -/
theorem emit {packets : List Packet}
    (quiet : ∀ packet ∈ packets, packet.source = port → may) (relay : Relay) :
    Lingers port held may relay (relay.emit packets) where
  stays session there := ⟨session, there, .refl held session⟩
  sends := ⟨packets, rfl, quiet⟩

end Lingers

theorem lingers_quit (relay : Relay) (user : UserId) (message : String) :
    Lingers port held may relay (relay.quit user message) :=
  (Lingers.lobby relay _).trans (.post _ _)

/-! ## What a session does in its turn -/

theorem lingers_carryOut {request : Request}
    (quiet : port = other → request.isAnswered = true → may) (relay : Relay) :
    Lingers port held may relay (relay.carryOut other request).1 := by
  unfold carryOut
  split
  · exact .refl relay
  · rename_i session there
    have keeps := session.keeps_perform relay.lobby relay.now relay.nextTicket request
    have silent : ∀ packet ∈ (session.perform relay.lobby relay.now relay.nextTicket
        request).packets, packet.source = port → may := by
      intro packet sent here
      refine quiet (here.symm.trans ((keeps.sources packet sent).trans
        (sessionOn?_eq_some there).2)) (by_contra fun unanswered => ?_)
      rw [session.quiet_perform _ _ _ (Bool.eq_false_iff.mpr unanswered)] at sent
      cases sent
    have done : Lingers port held may relay { relay with
        lobby := (session.perform relay.lobby relay.now relay.nextTicket request).lobby
        nextTicket := relay.nextTicket + 1 } := .aside (fun _ => id) rfl
    exact ((done.trans (.put there (congrArg Prod.snd keeps.lease) fun _ => .keeps keeps)).trans
      (.emit silent _)).trans (.post _ _)

theorem lingers_noteGap (relay : Relay) (other : Port) :
    Lingers port held may relay (relay.noteGap other) := by
  unfold noteGap
  split
  · exact .refl relay
  · exact (Lingers.lobby relay _).trans (.post _ _)

/-- A session acts on messages.  If it is the one on the port, then it is held up
before the last of them, and is silent where none of them is answered at once. -/
theorem lingers_dispatch {messages : List Accepted} (within : port = other → messages <:+ held)
    (quiet : port = other → ∀ accepted ∈ messages, accepted.IsAnswered → may) (relay : Relay) :
    Lingers port held may relay (dispatch other messages relay) := by
  refine Handling.dispatch ⟨.refl, .trans, (lingers_noteGap · other), ?carry, ?turn, ?fatal⟩ relay
  case carry =>
    intro accepted member request asks relay
    exact lingers_carryOut (fun same answered =>
      quiet same accepted member ⟨request, asks, answered⟩) relay
  case turn =>
    intro relay phase last
    exact .modify (fun _ same => same) fun _ _ same => ⟨rfl, id, .inr (last.trans (within same))⟩
  case fatal =>
    intro accepted member request asks relay error failed fatal
    exact .modify (fun _ same => same) fun _ _ _ => ⟨rfl, fun _ => rfl, .inr List.nil_suffix⟩

theorem lingers_takeIn (apart : port ≠ other) (relay : Relay) (source : Address)
    (datagram : Bytes) : Lingers port held may relay (relay.takeIn other source datagram) := by
  unfold takeIn
  split
  · exact .refl relay
  · rename_i session there
    have number := (sessionOn?_eq_some there).2
    split
    · exact .refl relay
    · simp only
      split
      · exact .put there rfl fun same => absurd same apart
      · rename_i retry received
        have resends := Session.shows_resend { session with
          lastReceived := relay.now
          remote := session.remote.or (some source)
          inbox := (session.inbox.receive
            (datagram.take relay.settings.session.bufferSize)).1 }
          relay.settings.server.maxPing.toNat relay.now retry.toNat
        refine .trans (.put there (congrArg Prod.snd resends.lease) fun same => absurd same apart)
          (.emit (fun packet sent here => ?_) _)
        exact absurd (here.symm.trans ((resends.sources packet sent).trans number)) apart
      · refine .trans (.put there ?_ fun same => absurd same apart) (lingers_dispatch
          (fun same => absurd same apart) (fun same => absurd same apart) _)
        rfl

theorem lingers_expire (relay : Relay) (other : Port) :
    Lingers port held may relay (relay.expire other) := by
  unfold expire
  split
  · exact .refl relay
  · split
    · refine (relay.lingers_quit _ "timeout").trans (.modify (fun _ same => same) ?_)
      exact fun _ _ _ => ⟨rfl, fun _ => rfl, .inl rfl⟩
    · exact .refl relay

/-- A session that has stopped shows nothing. -/
theorem lingers_showEvents (there : relay.sessionOn? port = some session)
    (stopped : session.stopped = true) (other : Port) :
    Lingers port held may relay (relay.showEvents other) := by
  unfold showEvents
  split
  · exact .refl relay
  · rename_i shown here
    have shows := shown.shows_renderEvents relay.lobby relay.now shown.events
    refine .trans (.put here (congrArg Prod.snd shows.lease) fun _ => .shows shows)
      (.emit (fun packet sent source => ?_) _)
    have same : other = port := (sessionOn?_eq_some here).2.symm.trans
      ((shows.sources packet sent).symm.trans source)
    rw [same, there] at here
    cases here
    have silent : (session.renderAll relay.lobby relay.now).2 = [] :=
      congrArg Prod.snd (Session.renderEvents_stopped stopped session.events)
    exact absurd (silent ▸ sent) List.not_mem_nil

/-- Forgetting the sessions on one port shows on that port only. -/
theorem sessionOn?_filter (apart : port ≠ other) (relay : Relay) :
    ({ relay with sessions := relay.sessions.filter (·.port ≠ other) } : Relay).sessionOn? port =
      relay.sessionOn? port := by
  rw [sessionOn?, sessionOn?, List.find?_filter]
  refine congrArg (List.find? · _) (funext fun candidate => ?_)
  by_cases here : candidate.port = port
  · simp [here, apart]
  · simp [here]

theorem lingers_tearDown (apart : port ≠ other) (relay : Relay) :
    Lingers port held may relay (relay.tearDown other) := by
  unfold tearDown
  split
  · exact .refl relay
  · rename_i ending there
    split
    · have ended : Lingers port held may relay
          { relay with sessions := relay.sessions.filter (·.port ≠ other) } :=
        .aside (fun session there => (sessionOn?_filter apart relay).trans there) rfl
      exact .trans (ended.trans (lingers_quit _ ending.user "connection closed"))
        (.aside (fun _ => id) rfl)
    · exact .refl relay

/-! ## Greetings and merges -/

/-- Greetings are answered from the well-known port. -/
theorem lingers_answer (apart : port ≠ relay.settings.connect.port) (client : Address)
    (change : Tally → Tally) (greeting : Greeting) :
    Lingers port held may relay ((relay.count change).reply client greeting) := by
  have counted : Lingers port held may relay (relay.count change) := .aside (fun _ => id) rfl
  refine counted.trans (.emit (fun packet sent source => ?_) _)
  rw [List.mem_singleton.mp sent] at source
  exact absurd source.symm apart

theorem lingers_hello (apart : port ≠ relay.settings.connect.port) (client : Address)
    (protocol : String) : Lingers port held may relay (relay.hello client protocol) := by
  obtain ⟨begun, change, begins, settings, answers⟩ := relay.hello_eq client protocol
  have started : Lingers port held may relay begun := by
    rcases begins with ⟨ports, rfl⟩ | ⟨user, ports, rfl⟩ | ⟨user, home, ports, rfl⟩
    · exact .aside (fun _ => id) rfl
    · exact .aside (fun _ => id) rfl
    · refine .aside (fun session there => ?_) rfl
      rw [sessionOn?, welcome, List.find?_append]
      exact congrArg (Option.or · _) there
  rcases answers with silent | ⟨greeting, told⟩
  · rw [silent]
    exact started.trans (.aside (fun _ there => there) rfl)
  · rw [told]
    exact started.trans (lingers_answer (settings ▸ apart) client _ _)

theorem lingers_greet (apart : port ≠ relay.settings.connect.port) (client : Address)
    (datagram : Bytes) : Lingers port held may relay (relay.greet client datagram) := by
  unfold greet
  split
  · exact lingers_answer apart client _ _
  · exact lingers_hello apart client _
  · exact .aside (fun _ => id) rfl

theorem heldBy?_eq_some {ticket : Nat} {rest : List Accepted}
    (holds : relay.heldBy? ticket = some (port, rest)) :
    ∃ session ∈ relay.sessions, session.port = port ∧ session.phase = .waiting ticket rest := by
  obtain ⟨session, member, found⟩ := List.exists_of_findSome?_eq_some holds
  split at found
  · rename_i awaited others waits
    split at found
    · rename_i same
      cases found
      exact ⟨session, member, rfl, same ▸ waits⟩
    · cases found
  · cases found

/-- A request that waited is over.  If it has held up the session on the port, then
that goes on with what it has still to act on. -/
theorem lingers_release (apart : relay.Apart) (there : relay.sessionOn? port = some session)
    (quiet : ∀ accepted ∈ session.phase.backlog, accepted.IsAnswered → may)
    (finished : Finished) :
    Lingers port session.phase.backlog may relay (relay.release finished) := by
  unfold release
  split
  · exact .aside (fun _ => id) rfl
  · split
    · exact .refl relay
    · rename_i other rest holds
      have itself (same : port = other) : rest = session.phase.backlog := by
        obtain ⟨holder, member, number, waits⟩ := heldBy?_eq_some holds
        obtain ⟨live, here⟩ := sessionOn?_eq_some there
        have equal := List.inj_on_of_nodup_map apart member live
          (number.trans (same.symm.trans here.symm))
        rw [← equal, waits]
        rfl
      exact lingers_dispatch (fun same => itself same ▸ List.suffix_rfl)
        (fun same => itself same ▸ quiet) relay

theorem lingers_merge (apart : relay.Apart) (there : relay.sessionOn? port = some session)
    (quiet : ∀ accepted ∈ session.phase.backlog, accepted.IsAnswered → may) :
    Lingers port session.phase.backlog may relay relay.merge := by
  unfold merge
  split
  · exact .refl relay
  · rename_i lobby letters finished turns
    have merged : Lingers port session.phase.backlog may relay
        ({ relay with lobby := lobby }.post letters) := (Lingers.lobby relay _).trans (.post _ _)
    simp only
    split
    · exact merged
    · rename_i finished
      have still : ({ relay with lobby := lobby }.post letters).Apart := by
        rw [Apart, ← ports_leases, leases_post]
        exact relay.ports_leases ▸ apart
      have here : ({ relay with lobby := lobby }.post letters).sessionOn? port =
          some (session.told letters) := by
        rw [sessionOn?_post]
        exact congrArg _ there
      exact merged.trans (lingers_release still here quiet finished)

/-! ## Beats -/

/-- What is sent in one beat. -/
def said (relay : Relay) (beat : Beat) : List Packet :=
  (relay.beat beat).outgoing.drop relay.outgoing.length

/-- A session that has stopped takes no datagram in. -/
theorem lingers_hear (there : relay.sessionOn? port = some session)
    (stopped : session.stopped = true) (other : Port) :
    Lingers port held may relay (receive other 1 relay) := by
  rcases relay.receive_cases other with
    idle | ⟨hearing, source, datagram, rest, here, -, listens, hears⟩
  · rw [idle]
    exact .refl relay
  · have apart : port ≠ other := by
      rintro rfl
      rw [there] at here
      cases here
      simp [Session.isListening, stopped] at listens
    have begun : Lingers port held may relay
        (relay.modify other fun session => { session with arrivals := rest }) :=
      .modify (fun _ same => same) fun _ _ same => absurd same apart
    rw [hears 0]
    exact begun.trans (lingers_takeIn apart _ source datagram)

/-- All sessions are told to end. -/
theorem lingers_halt (relay : Relay) : Lingers port held may relay (relay.beat .halt) where
  stays session there := by
    refine ⟨{ session with stopped := true }, ?_, rfl, fun _ => rfl, .inl rfl⟩
    rw [sessionOn?, beat, List.find?_map]
    exact congrArg (Option.map _) there
  sends := ⟨[], (List.append_nil _).symm, fun _ sent => by cases sent⟩

/-- What may be sent from the port of a session that has stopped: answers to the
messages that it has still to act on, when a merge lets it go on. -/
def MayAnswer (session : Session) (beat : Beat) : Prop :=
  beat = .merge ∧ ∃ accepted ∈ session.phase.backlog, accepted.IsAnswered

/-- A stopped session goes on through every beat but that of its end and that in which
datagrams are taken away. -/
theorem lingers_beat (apart : relay.Apart) (reserved : port ≠ relay.settings.connect.port)
    (there : relay.sessionOn? port = some session) (stopped : session.stopped = true)
    {beat : Beat} (goesOn : beat ≠ .tearDown port) (keeps : beat ≠ .collect) :
    Lingers port session.phase.backlog (MayAnswer session beat) relay (relay.beat beat) := by
  cases beat with
  | greet client datagram => exact lingers_greet reserved client datagram
  | arrive source other datagram =>
      refine .modify (fun _ same => same) ?_
      exact fun _ _ _ => ⟨rfl, id, .inl rfl⟩
  | hear other => exact lingers_hear there stopped other
  | expire other => exact relay.lingers_expire other
  | display other => exact lingers_showEvents there stopped other
  | tearDown other =>
      exact lingers_tearDown (fun same => goesOn (congrArg Beat.tearDown same.symm)) relay
  | merge => exact lingers_merge apart there fun accepted member answered =>
      ⟨rfl, accepted, member, answered⟩
  | halt => exact relay.lingers_halt
  | clock now => exact .aside (fun _ => id) rfl
  | occupy other =>
      rw [Relay.beat, occupy]
      split
      · exact .refl relay
      · exact .aside (fun _ => id) rfl
  | vacate other => exact .aside (fun _ => id) rfl
  | impair other => exact .aside (fun _ => id) rfl
  | repair other => exact .aside (fun _ => id) rfl
  | collect => exact absurd rfl keeps

/-- A session that is torn down is gone, and says nothing in going. -/
theorem tearDown_cases (relay : Relay) (port : Port) :
    relay.tearDown port = relay ∨
      (relay.tearDown port).sessionOn? port = none ∧
        (relay.tearDown port).outgoing = relay.outgoing := by
  unfold tearDown
  split
  · exact .inl rfl
  · rename_i session there
    split
    · refine .inr ⟨?_, rfl⟩
      have gone : ({ relay with
          sessions := relay.sessions.filter (·.port ≠ port) } : Relay).sessionOn? port = none := by
        rw [sessionOn?, List.find?_eq_none]
        intro other member
        simpa using (List.mem_filter.mp member).2
      refine (sessionOn?_post _ _ port).trans ?_
      exact congrArg (Option.map _) gone
    · exact .inl rfl

theorem said_eq_nil {beat : Beat}
    (fewer : (relay.beat beat).outgoing.length ≤ relay.outgoing.length) :
    relay.said beat = [] := List.drop_of_length_le fewer

/-- In one beat a session that has stopped does not start again and gets no more to act
on, as long as it is there; and it only says what it may answer. -/
theorem stopped_beat (apart : relay.Apart) (reserved : port ≠ relay.settings.connect.port)
    (there : relay.sessionOn? port = some session) (stopped : session.stopped = true)
    (beat : Beat) :
    (∀ later, (relay.beat beat).sessionOn? port = some later →
        session.Lingers session.phase.backlog later) ∧
      ∀ packet ∈ relay.said beat, packet.source = port → MayAnswer session beat := by
  have unsaid (fewer : (relay.beat beat).outgoing.length ≤ relay.outgoing.length) :
      ∀ packet ∈ relay.said beat, packet.source = port → MayAnswer session beat := by
    rw [said_eq_nil fewer]
    exact fun _ sent => by cases sent
  have same {later : Session} (here : relay.sessionOn? port = some later) :
      session.Lingers session.phase.backlog later := by
    rw [there] at here
    cases here
    exact .refl _ session
  by_cases ends : beat = .tearDown port
  · subst ends
    rcases relay.tearDown_cases port with kept | ⟨gone, outgoing⟩
    · exact ⟨fun later here => same (kept ▸ here), unsaid (Nat.le_of_eq (by rw [beat, kept]))⟩
    · refine ⟨fun later here => ?_, unsaid (Nat.le_of_eq (by rw [beat, outgoing]))⟩
      rw [beat, gone] at here
      cases here
  by_cases taken : beat = .collect
  · subst taken
    exact ⟨fun later here => same here, unsaid (Nat.zero_le _)⟩
  obtain ⟨stays, packets, outgoing, quiet⟩ :=
    lingers_beat apart reserved there stopped ends taken
  refine ⟨fun later here => ?_, fun packet sent => ?_⟩
  · obtain ⟨found, still, lingers⟩ := stays session there
    rw [here] at still
    cases still
    exact lingers
  · rw [said, outgoing, List.drop_left] at sent
    exact quiet packet sent

/-- So it is through a row of beats. -/
theorem stopped_play {settings : Settings} (housed : relay.Housed settings)
    (there : relay.sessionOn? port = some session) (stopped : session.stopped = true)
    (beats : List Beat)
    (remains : ∀ earlier, earlier <+: beats →
      ((relay.play earlier).sessionOn? port).isSome = true) :
    ∃ held, (relay.play beats).sessionOn? port = some held ∧ held.user = session.user ∧
      held.stopped = true ∧ held.phase.backlog <:+ session.phase.backlog := by
  induction beats generalizing relay session with
  | nil => exact ⟨session, there, rfl, stopped, List.suffix_rfl⟩
  | cons beat rest inductionHypothesis =>
      obtain ⟨later, here⟩ :=
        Option.isSome_iff_exists.mp (remains [beat] (List.prefix_append [beat] rest))
      have lingers := (stopped_beat housed.apart (housed.unreserved there) there stopped beat).1
        later here
      obtain ⟨held, still, user, stays, backlog⟩ := inductionHypothesis
        (housed.goes (relay.goes_beat beat)) here (lingers.stopped stopped)
        fun earlier first => remains (beat :: earlier) (List.cons_prefix_cons.mpr ⟨rfl, first⟩)
      exact ⟨held, still, user.trans lingers.user, stays, backlog.trans lingers.backlog⟩

/-- How a session ends that is told the departure of its own user. -/
structure BidsFarewell (relay : Relay) (port : Port) (session : Session) : Prop where
  /-- Showing its events stops it, and holds up nothing that has not been held up. -/
  stops : ∃ later, (relay.beat (.display port)).sessionOn? port = some later ∧
    later.user = session.user ∧ later.stopped = true ∧ later.phase = session.phase
  /-- No event behind the departure is shown. -/
  last : ∀ first behind, session.events = first ++ behind →
    first.any (·.isDeparture session.user) = true →
      relay.said (.display port) = (session.renderEvents relay.lobby relay.now first).2
  /-- From then on, as long as the session is there, it is stopped and all it has still to
  act on is what a request of its has held up; whatever is sent from its port is sent
  as a merge lets it go on, and then one of these messages may be answered at once. -/
  silent : ∀ beats beat,
    (∀ earlier, earlier <+: beats →
      (((relay.beat (.display port)).play earlier).sessionOn? port).isSome = true) →
    ∃ held, ((relay.beat (.display port)).play beats).sessionOn? port = some held ∧
      held.user = session.user ∧ held.stopped = true ∧
      held.phase.backlog <:+ session.phase.backlog ∧
      ∀ packet ∈ ((relay.beat (.display port)).play beats).said beat, packet.source = port →
        beat = .merge ∧ ∃ accepted ∈ held.phase.backlog, accepted.IsAnswered

theorem sessionOn?_display (there : relay.sessionOn? port = some session) :
    (relay.beat (.display port)).sessionOn? port =
      some (session.renderAll relay.lobby relay.now).1 := by
  have number := (sessionOn?_eq_some there).2
  have shows := session.shows_renderEvents relay.lobby relay.now session.events
  rw [beat, showEvents, there]
  exact sessionOn?_changed (fun _ _ => (congrArg Prod.snd shows.lease).trans number) there

theorem said_display (there : relay.sessionOn? port = some session) :
    relay.said (.display port) = (session.renderAll relay.lobby relay.now).2 := by
  rw [said, beat, showEvents, there]
  exact List.drop_left

/-- Whatever has happened at a relay, a session that shows the departure of its own
user shows nothing more, and from then on sends nothing but answers to messages that
a merge had held up before.  A stop comes before a datagram that is ready at the same
moment, where a scheduler may take either of them first. -/
theorem farewell (settings : Settings) (beats : List Beat)
    (there : ((opened settings).play beats).sessionOn? port = some session)
    (departing : session.isDeparting = true) :
    ((opened settings).play beats).BidsFarewell port session := by
  have housed := housed_play (.opened settings) beats
  generalize (opened settings).play beats = relay at there housed
  have shows := session.shows_renderEvents relay.lobby relay.now session.events
  have displayed := sessionOn?_display there
  have stopped : (session.renderAll relay.lobby relay.now).1.stopped = true :=
    shows.stopped.trans (Bool.or_eq_true_iff.mpr (.inr departing))
  have user : (session.renderAll relay.lobby relay.now).1.user = session.user :=
    congrArg Prod.fst shows.lease
  have phase : (session.renderAll relay.lobby relay.now).1.phase = session.phase := by
    rw [Session.renderAll, shows.frame]
  refine ⟨⟨_, displayed, user, stopped, phase⟩, fun first behind events departs => ?_,
    fun beats beat remains => ?_⟩
  · rw [said_display there, Session.renderAll, events]
    refine Session.packets_renderEvents ?_ behind
    rw [(session.shows_renderEvents relay.lobby relay.now first).stopped, departs, Bool.or_true]
  · have shown := housed.goes (relay.goes_beat (.display port))
    obtain ⟨held, here, same, stays, backlog⟩ := stopped_play shown displayed stopped beats remains
    rw [phase] at backlog
    have later := housed_play shown beats
    exact ⟨held, here, same.trans user, stays, backlog,
      (stopped_beat later.apart (later.unreserved here) here stays beat).2⟩

/-! ## A word too many -/

/-- A datagram with these messages, the oldest first, numbered from `first` on. -/
def parcel (first : Nat) (messages : List (Command × Bytes)) : Bytes :=
  Bundle.encode ⟨(messages.mapIdx fun offset (command, body) =>
    ⟨UInt16.ofNat (first + offset), command.code, body⟩).reverse⟩

/-- A client sends messages to its session, which acts on them and shows its events. -/
def writes (client : Address) (port : Port) (first : Nat) (messages : List (Command × Bytes)) :
    List Beat :=
  [.arrive client port (parcel first messages), .hear port, .display port]

/-- A client is granted a session and logs in under a name. -/
def enters (client : Address) (port : Port) (name : UInt8) : List Beat :=
  .greet client knock :: writes client port 0
    ((.userLogin, [name, 0, 0x45, 0, 1]) :: List.replicate 4 (.clientAck, []))

/-- Create a game. -/
def founding : Command × Bytes := (.createGame, [0, 0x47, 0, 0, 0, 0, 0, 0])

/-- Join the first game. -/
def joining : Command × Bytes := (.joinGame, [0, 1, 0, 0, 0])

/-- Input of one byte. -/
def pressing (key : UInt8) : Command × Bytes := (.gameData, [0, 1, 0, key])

/-- The client at home, and two more, play a game.  The client at home sends input and,
in the same datagram, asks for another game; the merge waits for the input of the
others.  Then it logs in anew under its name, from another port. -/
def returning : List Beat :=
  enters home 27889 0x41 ++ enters ⟨"10.0.0.2", 6000⟩ 27890 0x42 ++
    enters ⟨"10.0.0.3", 6000⟩ 27891 0x43 ++
    writes ⟨"10.0.0.2", 6000⟩ 27890 5 [founding] ++ writes home 27889 5 [joining] ++
    writes ⟨"10.0.0.3", 6000⟩ 27891 5 [joining] ++
    writes ⟨"10.0.0.2", 6000⟩ 27890 6 [(.startGame, [0]), (.readyToPlay, [])] ++
    writes home 27889 6 [(.readyToPlay, [])] ++
    writes ⟨"10.0.0.3", 6000⟩ 27891 6 [(.readyToPlay, [])] ++
    writes home 27889 7 [pressing 1, founding] ++ enters ⟨"10.0.0.1", 6001⟩ 27892 0x41

/-- The others send their input as well. -/
def pressedOn : List Beat :=
  writes ⟨"10.0.0.2", 6000⟩ 27890 8 [pressing 2] ++
    writes ⟨"10.0.0.3", 6000⟩ 27891 7 [pressing 3]

/-- The earlier session of the client at home, which is to end and is held up. -/
def supersededSession : Session := (((opened {}).play returning).sessionOn? 27889).getD default

/-- It has been told its departure, and one message waits behind its input. -/
theorem farewell_returning :
    ((opened {}).play returning).sessionOn? 27889 = some supersededSession ∧
      supersededSession.isDeparting = true ∧
      supersededSession.phase.backlog.map (·.message.code) = [Command.createGame.code] ∧
      ((opened {}).play returning).BidsFarewell 27889 supersededSession := by
  have there : ((opened {}).play returning).sessionOn? 27889 = some supersededSession := by
    decide +kernel
  have departing : supersededSession.isDeparting = true := by decide +kernel
  exact ⟨there, departing, by decide +kernel, farewell {} returning there departing⟩

/-- Once it has shown its departure, which is the last of its messages, the input of the
others lets it go on, and it answers the message that was held up: its user, which is
gone, is not given another game, and is not in one. -/
theorem word_after_farewell :
    (((opened {}).play returning).sessionOn? 27889).map (·.isDeparting) = some true ∧
      (((opened {}).play returning).said (.display 27889)).map
          (fun packet => (packet.source, packet.data[5]?)) =
        [(27889, some Command.dropGame.code), (27889, some Command.quitGame.code),
          (27889, some Command.userQuit.code)] ∧
      (((((opened {}).play returning).beat (.display 27889)).play pressedOn).said .merge).map
          (fun packet => (packet.source, packet.data[5]?)) =
        [(27889, some Command.serverInformation.code), (27889, some Command.quitGame.code)] := by
  decide +kernel

end Relay

end Netplay
