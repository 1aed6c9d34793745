/-
Module: Netplay.Proofs.Lives
Purpose: Whatever happens at a relay, each of its sessions does one thing after the
  other, and what leaves its port is what it sends by these acts.  So no session sends
  messages again too often.
Main exports:
  Session.Leads, Session.dated, Session.Lived, Relay.Lives, Relay.lives_dispatch,
  Relay.lives_beat, Relay.leads_beat, Relay.voice, Relay.moderation
-/
import Netplay.Proofs.LastWords
import Netplay.Proofs.Repeats

namespace Netplay

/-! ## Sessions -/

namespace Session

variable {server : ServerSettings} {session later last : Session} {now : Nat}
  {packets more : List Packet}

/-- At one instant a session becomes another one, act by act, and these datagrams are
sent. -/
def Leads (server : ServerSettings) (now : Nat) (session later : Session)
    (packets : List Packet) : Prop :=
  ∃ acts : List Act, later = session.after server (acts.map (now, ·)) ∧
    packets = (session.diary server (acts.map (now, ·))).flatMap (·.packets)

namespace Leads

theorem refl (server : ServerSettings) (now : Nat) (session : Session) :
    Leads server now session session [] := ⟨[], rfl, rfl⟩

theorem act (server : ServerSettings) (now : Nat) (session : Session) (act : Act) :
    Leads server now session (session.does server now act).1 (session.does server now act).2 :=
  ⟨[act], rfl, (List.append_nil _).symm⟩

/-- Only what waits, what the session is doing and whether it is to end changes. -/
theorem rest (same : later = { session with
    arrivals := later.arrivals
    events := later.events
    phase := later.phase
    stopped := later.stopped }) : Leads server now session later [] :=
  ⟨[.rest later.arrivals later.events later.phase later.stopped], same, rfl⟩

theorem trans (one : Leads server now session later packets)
    (two : Leads server now later last more) :
    Leads server now session last (packets ++ more) := by
  obtain ⟨acts, rfl, rfl⟩ := one
  obtain ⟨others, rfl, rfl⟩ := two
  refine ⟨acts ++ others, ?_, ?_⟩
  · rw [List.map_append, after_append]
  · rw [List.map_append, diary_append, List.flatMap_append]

end Leads

theorem leads_perform (session : Session) (lobby : Lobby) (now ticket : Nat)
    (request : Request) :
    Leads lobby.server now session (session.perform lobby now ticket request).session
      (session.perform lobby now ticket request).packets :=
  .act lobby.server now session (.serve lobby ticket request)

/-- Events are shown one after the other. -/
theorem leads_renderEvents (session : Session) (lobby : Lobby) (now : Nat)
    (events : List Event) :
    Leads lobby.server now session (session.renderEvents lobby now events).1
      (session.renderEvents lobby now events).2 := by
  induction events generalizing session with
  | nil => exact .rest rfl
  | cons event rest inductionHypothesis =>
      unfold renderEvents
      split
      · exact .rest rfl
      · exact (Leads.act lobby.server now session (.render lobby event)).trans
          (inductionHypothesis _)

/-- What is sent in the acts of a diary, and when. -/
def dated (diary : List Entry) : List (Nat × Packet) :=
  diary.flatMap fun entry => entry.packets.map (entry.now, ·)

/-- A session on a port has come about act by act since it began, and this is what it has
sent. -/
def Lived (server : ServerSettings) (port : Port) (session : Session)
    (sent : List (Nat × Packet)) : Prop :=
  ∃ user host began acts, (begin user port host began).after server acts = session ∧
    dated ((begin user port host began).diary server acts) = sent

theorem dated_instant (session : Session) (now : Nat) (acts : List Act) :
    dated (session.diary server (acts.map (now, ·))) =
      ((session.diary server (acts.map (now, ·))).flatMap (·.packets)).map (now, ·) := by
  induction acts generalizing session with
  | nil => rfl
  | cons act rest inductionHypothesis =>
      rw [List.map_cons, diary, dated, List.flatMap_cons, List.flatMap_cons, List.map_append]
      exact congrArg (_ ++ ·) (inductionHypothesis _)

namespace Lived

variable {port : Port} {sent : List (Nat × Packet)}

theorem begin (server : ServerSettings) (port : Port) (user : UserId) (host : String)
    (began : Nat) : Lived server port (.begin user port host began) [] :=
  ⟨user, host, began, [], rfl, rfl⟩

theorem leads (lived : session.Lived server port sent)
    (leads : Leads server now session later packets) :
    later.Lived server port (sent ++ packets.map (now, ·)) := by
  obtain ⟨user, host, began, acts, rfl, rfl⟩ := lived
  obtain ⟨more, rfl, rfl⟩ := leads
  refine ⟨user, host, began, acts ++ more.map (now, ·), after_append .., ?_⟩
  rw [diary_append, dated, List.flatMap_append]
  exact congrArg (_ ++ ·) (dated_instant ..)

end Lived

end Session

/-! ## Relays -/

namespace Relay

variable {relay after last : Relay} {port other : Port} {session : Session}

/-- At one instant the session on a port goes on, act by act, and what is sent from there
is sent by these acts. -/
structure Lives (port : Port) (relay after : Relay) : Prop where
  now : after.now = relay.now
  server : after.lobby.server = relay.lobby.server
  absent : relay.sessionOn? port = none → after.sessionOn? port = none
  leads : ∀ session, relay.sessionOn? port = some session →
    ∃ later packets, after.sessionOn? port = some later ∧
      after.outgoing = relay.outgoing ++ packets ∧
      session.Leads relay.lobby.server relay.now later (packets.filter (·.source = port))

namespace Lives

/-- The session on the port is the same, and nothing is sent. -/
theorem aside (now : after.now = relay.now) (server : after.lobby.server = relay.lobby.server)
    (same : after.sessionOn? port = relay.sessionOn? port)
    (outgoing : after.outgoing = relay.outgoing) : Lives port relay after where
  now := now
  server := server
  absent none := same.trans none
  leads session there :=
    ⟨session, [], same.trans there, by rw [outgoing, List.append_nil], .refl _ _ session⟩

theorem refl (relay : Relay) : Lives port relay relay := .aside rfl rfl rfl rfl

theorem trans (one : Lives port relay after) (two : Lives port after last) :
    Lives port relay last where
  now := two.now.trans one.now
  server := two.server.trans one.server
  absent none := two.absent (one.absent none)
  leads session there := by
    obtain ⟨later, first, here, firstOut, leads⟩ := one.leads session there
    obtain ⟨final, second, still, secondOut, goesOn⟩ := two.leads later here
    rw [one.server, one.now] at goesOn
    refine ⟨final, first ++ second, still, ?_, ?_⟩
    · rw [secondOut, firstOut, List.append_assoc]
    · rw [List.filter_append]
      exact leads.trans goesOn

/-- Sessions on a port change, and datagrams leave from there. -/
theorem act {change : Session → Session} {packets : List Packet}
    (keeps : ∀ session : Session, session.port = other → (change session).port = other)
    (sources : ∀ packet ∈ packets, packet.source = other)
    (leads : ∀ session, relay.sessionOn? other = some session →
      session.Leads relay.lobby.server relay.now (change session) packets) :
    Lives port relay ((relay.modify other change).emit packets) := by
  have sessions : (relay.modify other change).sessionOn? port =
      if port = other then (relay.sessionOn? other).map change else relay.sessionOn? port :=
    sessionOn?_modify (fun session _ => keeps session) port
  refine ⟨rfl, rfl, fun none => ?_, fun session there => ?_⟩
  · refine sessions.trans ?_
    split
    · rename_i same
      rw [← same, none]
      rfl
    · exact none
  · by_cases same : port = other
    · subst same
      rw [if_pos rfl, there] at sessions
      refine ⟨change session, packets, sessions, rfl, ?_⟩
      rw [List.filter_eq_self.mpr fun packet sent => decide_eq_true (sources packet sent)]
      exact leads session there
    · rw [if_neg same, there] at sessions
      refine ⟨session, packets, sessions, rfl, ?_⟩
      rw [List.filter_eq_nil_iff.mpr fun packet sent here => same ?_]
      · exact .refl _ _ session
      · exact (of_decide_eq_true here).symm.trans (sources packet sent)

/-- Sessions on a port change, and nothing is sent. -/
theorem modify {change : Session → Session}
    (keeps : ∀ session : Session, session.port = other → (change session).port = other)
    (leads : ∀ session, relay.sessionOn? other = some session →
      session.Leads relay.lobby.server relay.now (change session) []) :
    Lives port relay (relay.modify other change) := by
  have silent : Lives port relay ((relay.modify other change).emit []) :=
    .act keeps (fun _ sent => absurd sent List.not_mem_nil) leads
  have same : (relay.modify other change).emit [] = relay.modify other change := by
    rw [emit, List.append_nil]
  rwa [same] at silent

/-- The session on a port is replaced by what has become of it. -/
theorem become {old next : Session} (there : relay.sessionOn? other = some old)
    (same : next.port = old.port) (leads : old.Leads relay.lobby.server relay.now next []) :
    Lives port relay (relay.modify other fun _ => next) := by
  refine .modify (fun _ _ => same.trans (sessionOn?_eq_some there).2) fun session here => ?_
  rw [there] at here
  cases here
  exact leads

/-- The session on a port is replaced by what has become of it, and what it sends leaves
the relay. -/
theorem put {old next : Session} {packets : List Packet}
    (there : relay.sessionOn? other = some old)
    (sources : ∀ packet ∈ packets, packet.source = old.port)
    (same : next.port = old.port)
    (leads : old.Leads relay.lobby.server relay.now next packets) :
    Lives port relay ((relay.modify other fun _ => next).emit packets) := by
  have number := (sessionOn?_eq_some there).2
  refine .act (fun _ _ => same.trans number)
    (fun packet sent => (sources packet sent).trans number) fun session here => ?_
  rw [there] at here
  cases here
  exact leads

/-- All sessions change in what waits for them, in what they are doing or in whether
they are to end. -/
theorem sessions {change : Session → Session}
    (keeps : ∀ session : Session, (change session).port = session.port)
    (rests : ∀ session,
      Session.Leads relay.lobby.server relay.now session (change session) []) :
    Lives port relay { relay with sessions := relay.sessions.map change } := by
  have mapped : ({ relay with sessions := relay.sessions.map change } : Relay).sessionOn? port =
      (relay.sessionOn? port).map change := by
    rw [sessionOn?, List.find?_map]
    have test : ((fun session => decide (session.port = port)) ∘ change) =
        fun session : Session => decide (session.port = port) :=
      funext fun session => congrArg (fun number => decide (number = port)) (keeps session)
    rw [test]
    rfl
  refine ⟨rfl, rfl, fun none => ?_, fun session there => ?_⟩
  · rw [mapped, none]
    rfl
  · rw [there] at mapped
    exact ⟨change session, [], mapped, (List.append_nil _).symm, rests session⟩

theorem post (relay : Relay) (letters : List Letter) : Lives port relay (relay.post letters) :=
  sessions (fun _ => rfl) fun _ => .rest rfl

/-- Only users and games change. -/
theorem lobby {lobby : Lobby} (server : lobby.server = relay.lobby.server) :
    Lives port relay { relay with lobby := lobby } := .aside rfl server rfl rfl

end Lives

theorem lives_quit (relay : Relay) (user : UserId) (message : String) :
    Lives port relay (relay.quit user message) :=
  (Lives.lobby (relay.lobby.thins_quit user message).server).trans (.post _ _)

/-! ## What a session does in its turn -/

theorem lives_carryOut (relay : Relay) (other : Port) (request : Request) :
    Lives port relay (relay.carryOut other request).1 := by
  unfold carryOut
  split
  · exact .refl relay
  · rename_i session there
    have keeps := session.keeps_perform relay.lobby relay.now relay.nextTicket request
    have leads := session.leads_perform relay.lobby relay.now relay.nextTicket request
    rw [← keeps.lobby.server] at leads
    have done : Lives port relay { relay with
        lobby := (session.perform relay.lobby relay.now relay.nextTicket request).lobby
        nextTicket := relay.nextTicket + 1 } := .aside rfl keeps.lobby.server rfl rfl
    exact (done.trans (.put there keeps.sources (congrArg Prod.snd keeps.lease) leads)).trans
      (.post _ _)

theorem lives_noteGap (relay : Relay) (other : Port) : Lives port relay (relay.noteGap other) := by
  unfold noteGap
  split
  · exact .refl relay
  · exact (Lives.lobby (relay.lobby.thins_droppedPacket _).server).trans (.post _ _)

theorem lives_dispatch (other : Port) (messages : List Accepted) (relay : Relay) :
    Lives port relay (dispatch other messages relay) := by
  refine Handling.dispatch ⟨.refl, .trans, (lives_noteGap · other),
    fun _ _ request _ relay => relay.lives_carryOut other request, ?turn, ?fatal⟩ relay
  case turn => exact fun relay phase _ => .modify (fun _ same => same) fun _ _ => .rest rfl
  case fatal =>
    exact fun _ _ _ _ relay _ _ _ => .modify (fun _ same => same) fun _ _ => .rest rfl

/-- A datagram is taken in under the settings that users and games are under. -/
theorem lives_takeIn (agrees : relay.settings.server = relay.lobby.server) (other : Port)
    (source : Address) (datagram : Bytes) :
    Lives port relay (relay.takeIn other source datagram) := by
  unfold takeIn
  split
  · exact .refl relay
  · rename_i session there
    split
    · exact .refl relay
    · have hears := Session.Leads.act relay.lobby.server relay.now session
        (.hear source (datagram.take relay.settings.session.bufferSize))
      rw [Session.does, Session.hear] at hears
      cases received : session.inbox.receive
          (datagram.take relay.settings.session.bufferSize) with
      | mk inbox arrival =>
          rw [received] at hears
          cases arrival with
          | rejected error => exact .become there rfl hears
          | retransmitRequest retry =>
              have resends := (session.heard relay.now source inbox).shows_resend
                relay.lobby.server.maxPing.toNat relay.now retry.toNat
              simp only
              rw [agrees]
              exact .put there resends.sources (congrArg Prod.snd resends.lease) hears
          | messages accepted =>
              have begun : Lives port relay
                  (relay.modify other fun _ => session.heard relay.now source inbox) :=
                .become there rfl hears
              exact begun.trans (lives_dispatch other accepted _)

/-- A session takes in a datagram that waits. -/
theorem lives_hear (agrees : relay.settings.server = relay.lobby.server) (other : Port) :
    Lives port relay (receive other 1 relay) := by
  rcases relay.receive_cases other with
    idle | ⟨session, source, datagram, rest, there, arrivals, listens, hears⟩
  · rw [idle]
    exact .refl relay
  · have begun : Lives port relay
        (relay.modify other fun session => { session with arrivals := rest }) :=
      .modify (fun _ same => same) fun _ _ => .rest rfl
    rw [hears 0]
    refine begun.trans (lives_takeIn ?_ other source datagram)
    exact agrees

theorem lives_expire (relay : Relay) (other : Port) : Lives port relay (relay.expire other) := by
  unfold expire
  split
  · exact .refl relay
  · split
    · exact (relay.lives_quit _ "timeout").trans
        (.modify (fun _ same => same) fun _ _ => .rest rfl)
    · exact .refl relay

theorem lives_showEvents (relay : Relay) (other : Port) :
    Lives port relay (relay.showEvents other) := by
  unfold showEvents
  split
  · exact .refl relay
  · rename_i session there
    have shows := session.shows_renderEvents relay.lobby relay.now session.events
    exact .put there shows.sources (congrArg Prod.snd shows.lease)
      (session.leads_renderEvents relay.lobby relay.now session.events)

theorem lives_tearDown (apart : port ≠ other) (relay : Relay) :
    Lives port relay (relay.tearDown other) := by
  unfold tearDown
  split
  · exact .refl relay
  · rename_i ending there
    split
    · have ended : Lives port relay
          { relay with sessions := relay.sessions.filter (·.port ≠ other) } :=
        .aside rfl rfl (sessionOn?_filter apart relay) rfl
      exact (ended.trans (lives_quit _ ending.user "connection closed")).trans
        (.aside rfl rfl rfl rfl)
    · exact .refl relay

/-! ## Merges and greetings -/

theorem lives_release (relay : Relay) (finished : Finished) :
    Lives port relay (relay.release finished) := by
  unfold release
  split
  · exact .aside rfl rfl rfl rfl
  · split
    · exact .refl relay
    · exact lives_dispatch _ _ relay

theorem lives_merge (relay : Relay) : Lives port relay relay.merge := by
  unfold merge
  split
  · exact .refl relay
  · rename_i lobby letters finished turns
    have merged : Lives port relay ({ relay with lobby := lobby }.post letters) :=
      (Lives.lobby (Lobby.thins_turn turns).server).trans (.post _ _)
    simp only
    split
    · exact merged
    · exact merged.trans (lives_release _ _)

/-- Greetings are answered from the well-known port. -/
theorem lives_answer (apart : port ≠ relay.settings.connect.port) (client : Address)
    (change : Tally → Tally) (greeting : Greeting) :
    Lives port relay ((relay.count change).reply client greeting) where
  now := rfl
  server := rfl
  absent := id
  leads session there := by
    refine ⟨session, _, there, rfl, ?_⟩
    rw [List.filter_cons_of_neg, List.filter_nil]
    · exact .refl _ _ session
    · exact fun here => apart (of_decide_eq_true here).symm

/-- A session that is there goes on when others ask for one. -/
theorem lives_hello (apart : port ≠ relay.settings.connect.port)
    (there : relay.sessionOn? port = some session) (client : Address) (protocol : String) :
    Lives port relay (relay.hello client protocol) := by
  obtain ⟨begun, change, begins, settings, answers⟩ := relay.hello_eq client protocol
  have started : Lives port relay begun := by
    rcases begins with ⟨ports, rfl⟩ | ⟨id, ports, rfl⟩ | ⟨id, home, ports, rfl⟩
    · exact .aside rfl rfl rfl rfl
    · exact .aside rfl ((Lobby.thins_quit ..).server.trans (relay.lobby.server_connect ..)) rfl rfl
    · refine .aside rfl (relay.lobby.server_connect ..) ?_ rfl
      rw [sessionOn?, welcome, List.find?_append]
      exact (congrArg (Option.or · _) there).trans there.symm
  rcases answers with silent | ⟨greeting, told⟩
  · rw [silent]
    exact started.trans (.aside rfl rfl rfl rfl)
  · rw [told]
    exact started.trans (lives_answer (settings ▸ apart) client _ _)

theorem lives_greet (apart : port ≠ relay.settings.connect.port)
    (there : relay.sessionOn? port = some session) (client : Address) (datagram : Bytes) :
    Lives port relay (relay.greet client datagram) := by
  unfold greet
  split
  · exact lives_answer apart client _ _
  · exact lives_hello apart there client _
  · exact .aside rfl rfl rfl rfl

/-- At most one session begins with a greeting. -/
theorem sessions_greet (relay : Relay) (client : Address) (datagram : Bytes) :
    (relay.greet client datagram).sessions = relay.sessions ∨
      ∃ user home, (relay.greet client datagram).sessions =
        relay.sessions ++ [.begin user home client.host relay.now] := by
  unfold greet
  split
  · exact .inl rfl
  · rename_i protocol greets
    obtain ⟨begun, change, begins, -, answers⟩ := relay.hello_eq client protocol
    have same : (relay.hello client protocol).sessions = begun.sessions := by
      rcases answers with silent | ⟨greeting, told⟩
      · rw [silent]
        rfl
      · rw [told]
        rfl
    rw [same]
    rcases begins with ⟨ports, rfl⟩ | ⟨id, ports, rfl⟩ | ⟨id, home, ports, rfl⟩
    · exact .inl rfl
    · exact .inl rfl
    · exact .inr ⟨id, home, rfl⟩
  · exact .inl rfl

/-- Where there was no session, one begins with a greeting. -/
theorem begins_greet (none : relay.sessionOn? port = none) {client : Address} {datagram : Bytes}
    (there : (relay.greet client datagram).sessionOn? port = some session) :
    Session.Leads relay.lobby.server relay.now
      (.begin session.user port session.host relay.now) session [] := by
  rcases relay.sessions_greet client datagram with same | ⟨user, home, begins⟩
  · rw [sessionOn?, same, ← sessionOn?, none] at there
    cases there
  · have missing : relay.sessions.find? (·.port = port) = Option.none := none
    rw [sessionOn?, begins, List.find?_append, missing, Option.none_or] at there
    have member := List.mem_singleton.mp (List.mem_of_find?_eq_some there)
    have number : session.port = port := by simpa using List.find?_some there
    subst member
    subst number
    exact .refl _ _ _

/-! ## Beats -/

/-- Of most things that happen at a relay, each session takes its share act by act. -/
theorem lives_beat (agrees : relay.settings.server = relay.lobby.server) {beat : Beat}
    (goesOn : beat ≠ .tearDown port) (keeps : beat ≠ .collect)
    (quiet : ∀ client datagram, beat ≠ .greet client datagram)
    (still : ∀ now, beat ≠ .clock now) : Lives port relay (relay.beat beat) := by
  cases beat with
  | greet client datagram => exact absurd rfl (quiet client datagram)
  | arrive source other datagram => exact .modify (fun _ same => same) fun _ _ => .rest rfl
  | hear other => exact lives_hear agrees other
  | expire other => exact relay.lives_expire other
  | display other => exact relay.lives_showEvents other
  | tearDown other =>
      exact lives_tearDown (fun same => goesOn (congrArg Beat.tearDown same.symm)) relay
  | merge => exact relay.lives_merge
  | halt => exact .sessions (fun _ => rfl) fun _ => .rest rfl
  | clock now => exact absurd rfl (still now)
  | occupy other =>
      rw [Relay.beat, occupy]
      split
      · exact .refl relay
      · exact .aside rfl rfl rfl rfl
  | vacate other => exact .aside rfl rfl rfl rfl
  | impair other => exact .aside rfl rfl rfl rfl
  | repair other => exact .aside rfl rfl rfl rfl
  | collect => exact absurd rfl keeps

theorem Housed.agrees {settings : Settings} (housed : relay.Housed settings) :
    relay.settings.server = relay.lobby.server := by
  rw [housed.obeys, housed.server]

/-- A session that is there before a beat and after it has done its share of it, and that
is all that has been sent from its port. -/
theorem leads_beat {settings : Settings} (housed : relay.Housed settings)
    (there : relay.sessionOn? port = some session) {beat : Beat} {later : Session}
    (here : (relay.beat beat).sessionOn? port = some later) :
    session.Leads settings.server relay.now later
      ((relay.said beat).filter (·.source = port)) := by
  have unmoved (same : (relay.beat beat).sessionOn? port = relay.sessionOn? port)
      (fewer : (relay.beat beat).outgoing.length ≤ relay.outgoing.length) :
      session.Leads settings.server relay.now later
        ((relay.said beat).filter (·.source = port)) := by
    rw [same, there] at here
    cases here
    rw [said_eq_nil fewer]
    exact .refl _ _ session
  have moved (lives : Lives port relay (relay.beat beat)) :
      session.Leads settings.server relay.now later
        ((relay.said beat).filter (·.source = port)) := by
    obtain ⟨final, packets, still, outgoing, leads⟩ := lives.leads session there
    rw [here] at still
    cases still
    rw [said, outgoing, List.drop_left, ← housed.server]
    exact leads
  by_cases ends : beat = .tearDown port
  · subst ends
    rcases relay.tearDown_cases port with kept | ⟨gone, outgoing⟩
    · exact unmoved (by rw [beat, kept]) (Nat.le_of_eq (by rw [beat, kept]))
    · rw [Relay.beat, gone] at here
      cases here
  cases beat with
  | greet client datagram =>
      exact moved (lives_greet (housed.unreserved there) there client datagram)
  | clock now => exact unmoved rfl (Nat.le_refl _)
  | collect => exact unmoved rfl (Nat.zero_le _)
  | _ =>
      exact moved (lives_beat housed.agrees ends (fun same => by cases same)
        (fun _ _ same => by cases same) fun _ same => by cases same)

/-- A session that was not there before a beat has begun in it. -/
theorem begins_beat {settings : Settings} (housed : relay.Housed settings)
    (none : relay.sessionOn? port = none) {beat : Beat}
    (there : (relay.beat beat).sessionOn? port = some session) :
    Session.Leads settings.server relay.now
      (.begin session.user port session.host relay.now) session [] := by
  have absent (still : (relay.beat beat).sessionOn? port = Option.none) :
      Session.Leads settings.server relay.now
        (.begin session.user port session.host relay.now) session [] := by
    rw [still] at there
    cases there
  by_cases ends : beat = .tearDown port
  · subst ends
    rcases relay.tearDown_cases port with kept | ⟨gone, -⟩
    · exact absent (by rw [Relay.beat, kept, none])
    · exact absent gone
  cases beat with
  | greet client datagram =>
      rw [← housed.server]
      exact begins_greet none there
  | clock now => exact absent none
  | collect => exact absent none
  | _ =>
      exact absent ((lives_beat housed.agrees ends (fun same => by cases same)
        (fun _ _ same => by cases same) fun _ same => by cases same).absent none)

/-- What has left a port since the session that is there began, and when. -/
def voice (port : Port) : Relay → List (Nat × Packet) → List Beat → List (Nat × Packet)
  | _, heard, [] => heard
  | relay, heard, beat :: rest =>
      let news := ((relay.said beat).filter (·.source = port)).map (relay.now, ·)
      voice port (relay.beat beat)
        (if (relay.sessionOn? port).isSome then heard ++ news else []) rest

/-- So it is through a row of beats. -/
theorem lives_play {settings : Settings} (housed : relay.Housed settings)
    {heard : List (Nat × Packet)}
    (lived : ∀ session, relay.sessionOn? port = some session →
      session.Lived settings.server port heard) (beats : List Beat)
    (there : (relay.play beats).sessionOn? port = some session) :
    session.Lived settings.server port (voice port relay heard beats) := by
  induction beats generalizing relay heard with
  | nil => exact lived session there
  | cons beat rest inductionHypothesis =>
      -- A session that was not there before has just begun and has sent nothing yet.
      refine inductionHypothesis (housed.goes (relay.goes_beat beat)) (fun later here => ?_) there
      cases before : relay.sessionOn? port with
      | none =>
          rw [if_neg (by decide)]
          exact .leads (.begin _ _ _ _ _) (begins_beat housed before here)
      | some session =>
          rw [if_pos Option.isSome_some]
          exact (lived session before).leads (leads_beat housed before here)

/-- Whatever a session hears, is asked for and is shown, and whenever, it sends messages
again in moderation; and whatever happens at a relay, its sessions come about in this way,
and what has left their ports is what they have sent so.  Requests in a row are counted in
thirty-two bits: the count is exact below 2³², and the 2³²-th request counts as none. -/
theorem moderation (settings : Settings) :
    (∀ user port host began acts, Session.Moderate settings.server.maxPing.toNat
      ((Session.begin user port host began).diary settings.server acts)) ∧
    ∀ beats port session, ((opened settings).play beats).sessionOn? port = some session →
      session.Lived settings.server port (voice port (opened settings) [] beats) := by
  refine ⟨fun user port host began acts => ?_, fun beats port session there => ?_⟩
  · exact (Session.moderate_diary user port host began acts).1
  · exact lives_play (.opened settings) (fun _ there => by cases there) beats there

/-- A session tells its client six things, and hears from it.  The client asks for messages
again at once, then too early; something cannot be read; its input is late; and it asks
twice more. -/
def insistent : List (Nat × Session.Act) :=
  let greeting : Session.Act := .hear home (parcel 0 [(.clientAck, [])])
  let telling : Session.Act := .render (.empty {}) (.user (.infoMessage "server" "hello"))
  let late : Session.Act :=
    .render (.empty {}) (.game 1 (.timeout { (default : User) with id := 1 } 1))
  List.replicate 6 (0, telling) ++
    [(5, greeting), (10, greeting), (100, greeting), (200, .hear home [1]), (261, late),
      (300, greeting), (512, greeting)]

/-- The first request and the time-out are met with three messages, and the fourth request
with five; and so it goes at a relay where a client asks for messages again once it has
logged in. -/
theorem moderation_insistent :
    Session.Moderate 250 ((Session.begin 1 27889 home.host 0).diary {} insistent) ∧
      (((Session.begin 1 27889 home.host 0).diary {} insistent).filter fun entry =>
          decide entry.Resent).map (fun entry => (entry.now, entry.packets.map (·.data.head?))) =
        [(10, [some 3]), (261, [some 3]), (512, [some 5])] ∧
      ∃ session, ((opened {}).play (enters home 27889 0x41 ++
          writes home 27889 0 [(.clientAck, [])])).sessionOn? 27889 = some session ∧
        session.Lived {} 27889 (voice 27889 (opened {}) [] (enters home 27889 0x41 ++
          writes home 27889 0 [(.clientAck, [])])) := by
  obtain ⟨sessions, relays⟩ := moderation {}
  obtain ⟨session, there⟩ : ∃ session, ((opened {}).play (enters home 27889 0x41 ++
      writes home 27889 0 [(.clientAck, [])])).sessionOn? 27889 = some session :=
    Option.isSome_iff_exists.mp (by decide +kernel)
  exact ⟨sessions 1 27889 home.host 0 insistent, by decide +kernel, session, there,
    relays _ 27889 session there⟩

end Relay

end Netplay
