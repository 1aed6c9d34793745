/-
Module: Netplay.Proofs.Doorstep
Purpose: What the well-known port makes of a datagram: it is counted once, answered if
  it is a ping or a request that is granted or finds no room, and leaves no trace
  unless a session begins.
Main exports:
  Tally.Balanced, Verdict, Verdict.enter, Verdict.reply?, Relay.Judges,
  Relay.Untouched, Relay.Undone, Relay.Begins, Relay.Answers, Relay.Housed.greet,
  Relay.balanced_course, Relay.answers_course
-/
import Netplay.Proofs.Beats
import Netplay.Proofs.UserNumbers

namespace Netplay

/-! ## Verdicts -/

/-- What the well-known port makes of a datagram. -/
inductive Verdict where
  | pinged
  /-- It cannot be read, or is nothing that a client may say here. -/
  | senseless
  /-- Sessions do not speak the protocol asked for. -/
  | unsupported
  /-- There is no room for another user, or no port is free. -/
  | full
  /-- The port chosen for the session is in use. -/
  | portTaken
  /-- The session of a new user cannot be started. -/
  | unstarted (user : UserId)
  /-- A session begins for a new user. -/
  | granted (user : UserId) (port : Port)

/-- Every greeting has been counted once more, as what it was. -/
def Tally.Balanced (tally : Tally) : Prop :=
  tally.requests = tally.pings + tally.formatErrors + tally.protocolErrors +
    tally.deniedFull + tally.deniedOther + tally.connects

namespace Verdict

/-- Count a greeting by what has been made of it. -/
def enter (verdict : Verdict) (tally : Tally) : Tally :=
  let counted := { tally with requests := tally.requests + 1 }
  match verdict with
  | pinged => { counted with pings := tally.pings + 1 }
  | senseless => { counted with formatErrors := tally.formatErrors + 1 }
  | unsupported => { counted with protocolErrors := tally.protocolErrors + 1 }
  | full => { counted with deniedFull := tally.deniedFull + 1 }
  | portTaken | unstarted _ => { counted with deniedOther := tally.deniedOther + 1 }
  | granted _ _ => { counted with connects := tally.connects + 1 }

/-- What a client is told, if anything. -/
def reply? : Verdict → Option Greeting
  | pinged => some .pong
  | full => some .tooMany
  | granted _ port => some (.granted port)
  | senseless | unsupported | portTaken | unstarted _ => none

/-- The user that is registered, if any. -/
def user? : Verdict → Option UserId
  | granted user _ | unstarted user => some user
  | _ => none

theorem balanced_enter (verdict : Verdict) {tally : Tally} (balanced : tally.Balanced) :
    (verdict.enter tally).Balanced := by
  unfold Tally.Balanced at balanced ⊢
  cases verdict with
  | _ =>
      simp only [enter]
      omega

end Verdict

namespace Relay

variable {settings : Settings} {relay : Relay} {datagram : Bytes} {client : Address}
  {protocol : String} {port : Port} {rest : List Port}

/-- The relay reads a datagram as a greeting, of which it takes in only so much. -/
def Reads (relay : Relay) (datagram : Bytes) (greeting : Greeting) : Prop :=
  Greeting.parse (datagram.take relay.settings.connect.bufferSize) = .ok greeting

/-- Which verdict a datagram meets. -/
inductive Judges (relay : Relay) (datagram : Bytes) : Verdict → Prop where
  | ping (reads : relay.Reads datagram .ping) : Judges relay datagram .pinged
  /-- The text is malformed. -/
  | malformed (unread : ∀ greeting, ¬ relay.Reads datagram greeting) :
      Judges relay datagram .senseless
  /-- Only relays say such a thing. -/
  | unexpected {greeting : Greeting} (reads : relay.Reads datagram greeting)
      (noPing : greeting ≠ .ping) (noHello : ∀ protocol, greeting ≠ .hello protocol) :
      Judges relay datagram .senseless
  | unsupported {protocol : String} (reads : relay.Reads datagram (.hello protocol))
      (unknown : relay.supports protocol = false) : Judges relay datagram .unsupported
  | crowded {protocol : String} (reads : relay.Reads datagram (.hello protocol))
      (speaks : relay.supports protocol = true)
      (full : relay.settings.server.maxUsers ≤ relay.lobby.people.present.length) :
      Judges relay datagram .full
  | exhausted {protocol : String} (reads : relay.Reads datagram (.hello protocol))
      (speaks : relay.supports protocol = true)
      (space : relay.lobby.people.present.length < relay.settings.server.maxUsers)
      (empty : relay.ports.free = []) : Judges relay datagram .full
  | taken {protocol : String} {port : Port} {rest : List Port}
      (reads : relay.Reads datagram (.hello protocol))
      (speaks : relay.supports protocol = true)
      (space : relay.lobby.people.present.length < relay.settings.server.maxUsers)
      (next : relay.ports.free = port :: rest) (bound : relay.isBound port = true) :
      Judges relay datagram .portTaken
  | unstarted {protocol : String} {user counter : UserId} {port : Port} {rest : List Port}
      (reads : relay.Reads datagram (.hello protocol))
      (speaks : relay.supports protocol = true)
      (space : relay.lobby.people.present.length < relay.settings.server.maxUsers)
      (next : relay.ports.free = port :: rest) (vacant : relay.isBound port = false)
      (number : UserId.firstFree (relay.lobby.people.present.map (·.id)) 65537
        relay.lobby.nextUser = some (user, counter))
      (faulty : relay.faulty.contains port = true) :
      Judges relay datagram (.unstarted user)
  | granted {protocol : String} {user counter : UserId} {port : Port} {rest : List Port}
      (reads : relay.Reads datagram (.hello protocol))
      (speaks : relay.supports protocol = true)
      (space : relay.lobby.people.present.length < relay.settings.server.maxUsers)
      (next : relay.ports.free = port :: rest) (vacant : relay.isBound port = false)
      (number : UserId.firstFree (relay.lobby.people.present.map (·.id)) 65537
        relay.lobby.nextUser = some (user, counter))
      (sound : relay.faulty.contains port = false) :
      Judges relay datagram (.granted user port)

/-- Users, games, the next number and the sessions are the same, and so are the free
ports but for their order. -/
structure Untouched (relay after : Relay) : Prop where
  lobby : after.lobby = relay.lobby
  sessions : after.sessions = relay.sessions
  free : after.ports.free.Perm relay.ports.free

/-- The user whose session could not be started is gone again.  Users, games and sessions
are the same, and so are the free ports but for their order; its number is passed over. -/
structure Undone (relay : Relay) (user : UserId) (after : Relay) : Prop where
  users : after.lobby.people.present = relay.lobby.people.present
  games : after.lobby.games = relay.lobby.games
  sessions : after.sessions = relay.sessions
  free : after.ports.free.Perm relay.ports.free
  number : UserId.firstFree (relay.lobby.people.present.map (·.id)) 65537
    relay.lobby.nextUser = some (user, after.lobby.nextUser)

/-- A session has just begun on a port where there was none, for a user whose number
nobody had. -/
structure Begins (relay : Relay) (client : Address) (user : UserId) (port : Port)
    (after : Relay) : Prop where
  vacant : relay.sessionOn? port = none
  session : after.sessions = relay.sessions ++ [.begin user port client.host relay.now]
  port : relay.ports.free = port :: after.ports.free
  fresh : user ∉ relay.lobby.people.present.map (·.id)
  user : after.lobby.people.present.map (·.id) =
    relay.lobby.people.present.map (·.id) ++ [user]

/-- A verdict is carried out. -/
structure Answers (relay : Relay) (client : Address) (verdict : Verdict) (after : Relay) :
    Prop where
  counted : after.tally = verdict.enter relay.tally
  /-- The reply, if there is one, is all that is sent. -/
  replied : after.outgoing = relay.outgoing ++
    (verdict.reply?.map fun greeting =>
      (⟨relay.settings.connect.port, client, greeting.encode⟩ : Packet)).toList
  refused : verdict.user? = none → relay.Untouched after
  undone : ∀ user, verdict = .unstarted user → relay.Undone user after
  granted : ∀ user port, verdict = .granted user port → relay.Begins client user port after

/-! ## Denials -/

/-- Nobody is registered under a verdict that is about no user. -/
theorem Answers.denied {verdict : Verdict} {after : Relay} (denied : verdict.user? = none)
    (counted : after.tally = verdict.enter relay.tally)
    (replied : after.outgoing = relay.outgoing ++
      (verdict.reply?.map fun greeting =>
        (⟨relay.settings.connect.port, client, greeting.encode⟩ : Packet)).toList)
    (untouched : relay.Untouched after) : relay.Answers client verdict after := by
  refine ⟨counted, replied, fun _ => untouched, fun user same => ?_, fun user port same => ?_⟩
  · rw [same] at denied
    cases denied
  · rw [same] at denied
    cases denied

/-- Nothing is left of a session that could not be started. -/
theorem Answers.abandoned {user : UserId} {after : Relay}
    (counted : after.tally = (Verdict.unstarted user).enter relay.tally)
    (silent : after.outgoing = relay.outgoing) (undone : relay.Undone user after) :
    relay.Answers client (.unstarted user) after := by
  refine ⟨counted, silent.trans (List.append_nil _).symm, fun denied => (by cases denied),
    fun other same => ?_, fun other port same => (by cases same)⟩
  rw [← Verdict.unstarted.inj same]
  exact undone

/-- A session begins under a grant. -/
theorem Answers.admitted {user : UserId} {after : Relay}
    (counted : after.tally = (Verdict.granted user port).enter relay.tally)
    (replied : after.outgoing = relay.outgoing ++
      [⟨relay.settings.connect.port, client, (Greeting.granted port).encode⟩])
    (begins : relay.Begins client user port after) :
    relay.Answers client (.granted user port) after := by
  refine ⟨counted, replied, fun denied => (by cases denied), fun other same => (by cases same),
    fun other place same => ?_⟩
  obtain ⟨rfl, rfl⟩ := Verdict.granted.inj same
  exact begins

/-- There is no session on a port that is not in use. -/
theorem sessionOn?_of_vacant (vacant : relay.isBound port = false) :
    relay.sessionOn? port = none := by
  simp only [isBound, Bool.or_eq_false_iff] at vacant
  obtain ⟨⟨⟨-, sessions⟩, -⟩, -⟩ := vacant
  refine List.find?_eq_none.mpr fun session live => ?_
  simpa using List.any_eq_false.mp sessions session live

theorem allocate_cons (next : relay.ports.free = port :: rest) :
    relay.ports.allocate = some (port, { relay.ports with free := rest }) :=
  PortPool.allocate_eq_some_iff.mpr ⟨rest, next, rfl⟩

/-- With room and a number, a user is registered. -/
theorem connect_eq {user counter : UserId} (client : Address) (protocol : String)
    (space : relay.lobby.people.present.length < relay.settings.server.maxUsers)
    (serves : relay.lobby.server = relay.settings.server)
    (number : UserId.firstFree (relay.lobby.people.present.map (·.id)) 65537
      relay.lobby.nextUser = some (user, counter)) :
    relay.lobby.connect client protocol = .done { relay.lobby with
      nextUser := counter
      people := relay.lobby.people.register (.connecting user client protocol) } [] user := by
  rw [Lobby.connect, if_neg (serves ▸ Nat.not_le_of_lt space), number]

theorem grant_unsupported (unknown : relay.supports protocol = false) :
    relay.grant client protocol = (relay, .error .unsupportedProtocol) := by
  rw [grant, unknown]
  rfl

section Supported

variable (speaks : relay.supports protocol = true)
include speaks

theorem grant_crowded
    (full : relay.settings.server.maxUsers ≤ relay.lobby.people.present.length) :
    relay.grant client protocol = (relay, .error .full) := by
  rw [grant, speaks, if_neg (by decide), if_pos full]

variable (space : relay.lobby.people.present.length < relay.settings.server.maxUsers)
include space

theorem grant_exhausted (empty : relay.ports.free = []) :
    relay.grant client protocol = (relay, .error .full) := by
  have none := PortPool.allocate_eq_none_iff.mpr empty
  rw [grant, speaks, if_neg (by decide), if_neg (Nat.not_le_of_lt space), none]

theorem grant_taken (next : relay.ports.free = port :: rest) (bound : relay.isBound port = true) :
    relay.grant client protocol =
      ({ relay with ports := PortPool.release { relay.ports with free := rest } port },
        .error .portTaken) := by
  rw [grant, speaks, if_neg (by decide), if_neg (Nat.not_le_of_lt space), allocate_cons next]
  simp only
  rw [if_pos bound]

section Vacant

variable {user counter : UserId} (next : relay.ports.free = port :: rest)
  (vacant : relay.isBound port = false) (serves : relay.lobby.server = relay.settings.server)
  (number : UserId.firstFree (relay.lobby.people.present.map (·.id)) 65537
    relay.lobby.nextUser = some (user, counter))
include next vacant serves number

variable (client) in
theorem grant_faulty (faulty : relay.faulty.contains port = true) :
    ∃ newcomer, relay.grant client protocol =
      ({ relay with
          lobby := { relay.lobby with
            nextUser := counter
            people := ⟨relay.lobby.people.present, newcomer :: relay.lobby.people.departed⟩ }
          ports := PortPool.release { relay.ports with free := rest } port },
        .error .unstarted) := by
  obtain ⟨newcomer, event, quits⟩ := Lobby.quit_connecting
    (UserId.firstFree_eq_some number).2 counter client protocol "session failed to start"
  refine ⟨newcomer, ?_⟩
  rw [grant, speaks, if_neg (by decide), if_neg (Nat.not_le_of_lt space), allocate_cons next]
  simp only
  rw [vacant, if_neg (by decide), connect_eq client protocol space serves number]
  simp only [Step.done] at quits ⊢
  rw [if_pos faulty, quits]

theorem grant_vacant (sound : relay.faulty.contains port = false) :
    relay.grant client protocol =
      ({ relay with
          lobby := { relay.lobby with
            nextUser := counter
            people := relay.lobby.people.register (.connecting user client protocol) }
          ports := { relay.ports with free := rest }
          sessions := relay.sessions ++ [.begin user port client.host relay.now] },
        .ok port) := by
  rw [grant, speaks, if_neg (by decide), if_neg (Nat.not_le_of_lt space), allocate_cons next]
  simp only
  rw [vacant, if_neg (by decide), connect_eq client protocol space serves number]
  simp only [Step.done]
  rw [sound, if_neg (by decide), post_nil]

end Vacant

end Supported

/-! ## Housing -/

namespace Housed

variable (housed : relay.Housed settings)
include housed

/-- As long as a port is free that sessions can have, fewer users are registered than
there are numbers. -/
theorem few (free : port ∈ relay.ports.free) (other : port ≠ settings.connect.port) :
    relay.lobby.people.present.length < 65535 := by
  -- The two ports and those of the sessions are different numbers below 65536.
  have apart : (settings.connect.port :: port :: relay.leases.map (·.2)).Nodup := by
    obtain ⟨-, leased, disjoint⟩ := List.nodup_append.mp housed.nodup
    refine List.nodup_cons.mpr ⟨?_, List.nodup_cons.mpr ⟨?_, leased⟩⟩
    · intro member
      rcases List.mem_cons.mp member with same | taken
      · exact other same.symm
      · exact housed.reserved taken
    · exact fun taken => disjoint port free port taken rfl
  have ports : ((settings.connect.port :: port :: relay.leases.map (·.2)).map
      UInt16.toNat).length ≤ (List.range 65536).length := by
    refine (List.subperm_of_subset
      (apart.map fun _ _ same => UInt16.toNat_inj.mp same) fun number member => ?_).length_le
    obtain ⟨one, -, rfl⟩ := List.mem_map.mp member
    exact List.mem_range.mpr one.toNat_lt
  have users := (List.subperm_of_subset housed.users housed.homes).length_le
  simp only [List.length_map, List.length_cons, List.length_range] at ports users
  omega

/-- So there is a number for the next user. -/
theorem number (next : relay.ports.free = port :: rest) (vacant : relay.isBound port = false) :
    ∃ user counter, UserId.firstFree (relay.lobby.people.present.map (·.id)) 65537
      relay.lobby.nextUser = some (user, counter) := by
  have other : port ≠ settings.connect.port := by
    intro same
    simp [isBound, same, housed.obeys] at vacant
  have few := housed.few (next ▸ List.mem_cons_self) other
  obtain ⟨steps, near, free, passed⟩ := UserId.exists_free_place
    (relay.lobby.people.present.map (·.id)) (by rwa [List.length_map]) relay.lobby.nextUser
  rw [List.length_map] at near
  exact ⟨_, _, UserId.firstFree_place (by omega) passed free (by omega)⟩

/-- A taken port is given back. -/
theorem returned (next : relay.ports.free = port :: rest) :
    (PortPool.release { relay.ports with free := rest } port).free.Perm relay.ports.free :=
  (housed.release (allocate_cons next)).2.2

/-- A client that asks for a session. -/
theorem hello (client : Address) (reads : relay.Reads datagram (.hello protocol)) :
    ∃ verdict, relay.Judges datagram verdict ∧
      relay.Answers client verdict (relay.hello client protocol) := by
  have serves : relay.lobby.server = relay.settings.server := by
    rw [housed.server, housed.obeys]
  cases speaks : relay.supports protocol with
  | false =>
      rw [Relay.hello, grant_unsupported speaks]
      exact ⟨.unsupported, .unsupported reads speaks,
        .denied rfl rfl (List.append_nil _).symm ⟨rfl, rfl, .refl _⟩⟩
  | true =>
      by_cases full : relay.settings.server.maxUsers ≤ relay.lobby.people.present.length
      · rw [Relay.hello, grant_crowded speaks full]
        exact ⟨.full, .crowded reads speaks full, .denied rfl rfl rfl ⟨rfl, rfl, .refl _⟩⟩
      · have space := Nat.lt_of_not_le full
        cases next : relay.ports.free with
        | nil =>
            rw [Relay.hello, grant_exhausted speaks space next]
            exact ⟨.full, .exhausted reads speaks space next,
              .denied rfl rfl rfl ⟨rfl, rfl, .refl _⟩⟩
        | cons port rest =>
            cases bound : relay.isBound port with
            | true =>
                rw [Relay.hello, grant_taken speaks space next bound]
                exact ⟨.portTaken, .taken reads speaks space next bound,
                  .denied rfl rfl (List.append_nil _).symm ⟨rfl, rfl, housed.returned next⟩⟩
            | false =>
                obtain ⟨user, counter, number⟩ := housed.number next bound
                cases faulty : relay.faulty.contains port with
                | true =>
                    obtain ⟨newcomer, fails⟩ :=
                      grant_faulty client speaks space next bound serves number faulty
                    rw [Relay.hello, fails]
                    exact ⟨.unstarted user, .unstarted reads speaks space next bound number faulty,
                      .abandoned rfl rfl ⟨rfl, rfl, rfl, housed.returned next, number⟩⟩
                | false =>
                    rw [Relay.hello, grant_vacant speaks space next bound serves number faulty]
                    exact ⟨.granted user port,
                      .granted reads speaks space next bound number faulty,
                      .admitted rfl rfl ⟨sessionOn?_of_vacant bound, rfl, next,
                        (UserId.firstFree_eq_some number).2,
                        by simp [count, reply, emit, Roster.register, User.connecting]⟩⟩

/-- Any datagram at the well-known port meets a verdict, and that is carried out. -/
theorem greet (client : Address) (datagram : Bytes) :
    ∃ verdict, relay.Judges datagram verdict ∧
      relay.Answers client verdict (relay.greet client datagram) := by
  cases read : Greeting.parse (datagram.take relay.settings.connect.bufferSize) with
  | error fault =>
      have unread : ∀ greeting, ¬ relay.Reads datagram greeting := by
        intro greeting reads
        rw [Reads, read] at reads
        cases reads
      rw [Relay.greet, read]
      exact ⟨.senseless, .malformed unread,
        .denied rfl rfl (List.append_nil _).symm ⟨rfl, rfl, .refl _⟩⟩
  | ok greeting =>
      rw [Relay.greet, read]
      cases greeting with
      | ping => exact ⟨.pinged, .ping read, .denied rfl rfl rfl ⟨rfl, rfl, .refl _⟩⟩
      | hello protocol => exact housed.hello client read
      | _ =>
          refine ⟨.senseless, .unexpected read ?_ ?_,
            .denied rfl rfl (List.append_nil _).symm ⟨rfl, rfl, .refl _⟩⟩
          · exact fun same => (by cases same)
          · exact fun protocol same => (by cases same)

end Housed

/-! ## Counts -/

theorem tally_carryOut (relay : Relay) (port : Port) (request : Request) :
    (relay.carryOut port request).1.tally = relay.tally := by
  unfold carryOut
  split
  · rfl
  · rfl

theorem tally_noteGap (relay : Relay) (port : Port) :
    (relay.noteGap port).tally = relay.tally := by
  unfold noteGap
  split
  · rfl
  · rfl

theorem tally_dispatch (port : Port) (messages : List Accepted) (relay : Relay) :
    (dispatch port messages relay).tally = relay.tally := by
  have handling : Handling port messages fun relay after => after.tally = relay.tally :=
    ⟨fun _ => rfl, fun one two => two.trans one, (tally_noteGap · port),
      fun _ _ request _ relay => relay.tally_carryOut port request, fun _ _ _ => rfl,
      fun _ _ _ _ _ _ _ _ => rfl⟩
  exact handling.dispatch relay

theorem tally_takeIn (relay : Relay) (port : Port) (source : Address) (datagram : Bytes) :
    (relay.takeIn port source datagram).tally = relay.tally := by
  unfold takeIn
  split
  · rfl
  · split
    · rfl
    · simp only
      split
      · rfl
      · rfl
      · exact tally_dispatch port _ (relay.modify port fun _ => _)

theorem tally_release (relay : Relay) (finished : Finished) :
    (relay.release finished).tally = relay.tally := by
  unfold release
  split
  · rfl
  · split
    · rfl
    · exact tally_dispatch _ _ relay

theorem tally_merge (relay : Relay) : relay.merge.tally = relay.tally := by
  unfold merge
  split
  · rfl
  · rename_i lobby letters finished turns
    simp only
    split
    · rfl
    · rename_i finished
      exact tally_release ({ relay with lobby := lobby }.post letters) finished

/-- Nothing but greetings is counted. -/
theorem tally_beat {beat : Beat} (other : ∀ client datagram, beat ≠ .greet client datagram) :
    (relay.beat beat).tally = relay.tally := by
  cases beat with
  | greet client datagram => exact absurd rfl (other client datagram)
  | hear port =>
      rw [Relay.beat]
      rcases relay.receive_cases port with idle | ⟨session, source, datagram, rest, -, -, -, hears⟩
      · rw [idle]
      · rw [hears 0]
        exact tally_takeIn (relay.modify port fun session => { session with arrivals := rest })
          port source datagram
  | expire port =>
      rw [Relay.beat, expire]
      split
      · rfl
      · split
        · rfl
        · rfl
  | display port =>
      rw [Relay.beat, showEvents]
      split
      · rfl
      · rfl
  | tearDown port =>
      rw [Relay.beat, tearDown]
      split
      · rfl
      · split
        · rfl
        · rfl
  | merge => exact relay.tally_merge
  | occupy port =>
      rw [Relay.beat, occupy]
      split
      · rfl
      · rfl
  | _ => rfl

/-- Each beat keeps the counts in balance. -/
theorem Housed.balanced_beat (housed : relay.Housed settings) (balanced : relay.tally.Balanced)
    (beat : Beat) : (relay.beat beat).tally.Balanced := by
  by_cases greets : ∃ client datagram, beat = .greet client datagram
  · obtain ⟨client, datagram, rfl⟩ := greets
    obtain ⟨verdict, -, answers⟩ := housed.greet client datagram
    rw [Relay.beat, answers.counted]
    exact verdict.balanced_enter balanced
  · rw [tally_beat fun client datagram same => greets ⟨client, datagram, same⟩]
    exact balanced

/-- Whatever happens at a relay, the counts stay in balance. -/
theorem balanced_course (settings : Settings) (moves : List Move) :
    ((opened settings).course moves).tally.Balanced := by
  have lasting : Lasting fun relay after => relay.Housed settings ∧ relay.tally.Balanced →
      after.Housed settings ∧ after.tally.Balanced := by
    refine ⟨fun _ => id, fun one two => two ∘ one, fun relay beat => ?_,
      fun relay port request => ?_, fun relay directs reports => ?_⟩
    · rintro ⟨housed, balanced⟩
      exact ⟨housed.goes (relay.goes_beat beat), housed.balanced_beat balanced beat⟩
    · rintro ⟨housed, balanced⟩
      refine ⟨housed.goes (.steady (relay.steady_carryOut port request)), ?_⟩
      rw [tally_carryOut]
      exact balanced
    · rintro ⟨housed, balanced⟩
      exact ⟨housed.goes (.steady (relay.steady_file directs reports)), balanced⟩
  exact (lasting.course (.opened settings) moves ⟨.opened settings, rfl⟩).2

/-- A port that turns out to be in use goes back to the pool, behind the others. -/
example :
    (((opened smallHouse).course [.occupy 27889]).greet ⟨"10.0.0.1", 6000⟩ knock).ports.free =
      [27890, 27891, 27889] := by
  decide +kernel

end Relay

end Netplay
