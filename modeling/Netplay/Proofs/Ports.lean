/-
Module: Netplay.Proofs.Ports
Purpose: Every port of the pool is free or belongs to one live session, and every
  registered user has a session of its own, whatever happens at the relay.
Main exports:
  Lobby.quit_connecting, Relay.Denies, Relay.Fails, Relay.Admits, Relay.dismiss,
  Relay.welcome, Relay.hello_cases, Relay.hello_eq, Relay.Housed,
  Relay.Housed.goes, Relay.Move, Relay.course, Settings.PortsFit, Relay.Conserved,
  Relay.conserved_course
-/
import Netplay.Proofs.Leases
import Netplay.Proofs.PortTurns

namespace Netplay

/-! ## Connections -/

/-- A number that is neither zero nor in use is given at once. -/
theorem UserId.firstFree_free {used : List UserId} {counter : UserId} (positive : counter ≠ 0)
    (free : counter ∉ used) (tries : Nat) :
    firstFree used (tries + 1) counter = some (counter, counter + 1) := if_pos ⟨positive, free⟩

/-- A user that leaves as soon as it is registered is told so itself, and nobody else; it
leaves behind only that its number has been passed over. -/
theorem Lobby.quit_connecting {lobby : Lobby} {id : UserId}
    (fresh : id ∉ lobby.people.present.map (·.id)) (counter : UserId) (address : Address)
    (protocol message : String) :
    ∃ newcomer event, Lobby.quit { lobby with
        nextUser := counter
        people := lobby.people.register (.connecting id address protocol) } id message =
      .done { lobby with
        nextUser := counter
        people := ⟨lobby.people.present, newcomer :: lobby.people.departed⟩ }
        [⟨id, event⟩] () := by
  obtain ⟨newcomer, own, apart, silent, registers⟩ : ∃ newcomer : User, newcomer.id = id ∧
      newcomer.game = none ∧ newcomer.loggedIn = false ∧
      lobby.people.register (.connecting id address protocol) =
        ⟨lobby.people.present ++ [newcomer], lobby.people.departed⟩ := ⟨_, rfl, rfl, rfl, rfl⟩
  have others : ∀ user ∈ lobby.people.present, user.id ≠ id := fun user member same =>
    fresh (same ▸ List.mem_map_of_mem member)
  have missing : lobby.people.present.find? (·.id = id) = none :=
    List.find?_eq_none.mpr fun user member => by simpa using others user member
  have here : Roster.registered? ⟨lobby.people.present ++ [newcomer], lobby.people.departed⟩ id =
      some newcomer := by
    rw [Roster.registered?, List.find?_append, missing, Option.none_or]
    exact List.find?_cons_of_pos (decide_eq_true own)
  have stay : (lobby.people.present ++ [newcomer]).filter (·.id ≠ newcomer.id) =
      lobby.people.present := by
    rw [own, List.filter_append, List.filter_eq_self.mpr fun user member =>
      decide_eq_true (others user member), List.filter_cons_of_neg (by simp [own]),
      List.filter_nil, List.append_nil]
  rw [registers, quit, here]
  simp only [apart, silent, Roster.depart, stay]
  exact ⟨newcomer, _, rfl⟩

namespace Settings

variable {settings : Settings}

/-- The ports for sessions can be counted from the first one on in sixty-four bits. -/
def PortsFit (settings : Settings) : Prop :=
  PortPool.Fits settings.session.firstPort
    (settings.server.maxUsers + settings.session.extraPorts)

instance : Decidable settings.PortsFit := inferInstanceAs (Decidable (PortPool.Fits _ _))

theorem portPoolSize_of_lt
    (bounded : settings.server.maxUsers + settings.session.extraPorts < 2 ^ 64) :
    settings.portPoolSize = settings.server.maxUsers + settings.session.extraPorts := by
  rw [portPoolSize, ← UInt64.ofNat_add, UInt64.toNat_ofNat', Nat.mod_eq_of_lt bounded]

theorem PortsFit.portPoolSize (fits : settings.PortsFit) :
    settings.portPoolSize = settings.server.maxUsers + settings.session.extraPorts :=
  portPoolSize_of_lt (Nat.lt_of_le_of_lt (Nat.le_add_left ..) fits)

end Settings

namespace Relay

variable {settings : Settings} {relay after : Relay} {id : UserId} {port : Port}

/-- A client is turned away; a port that was taken for it is given back. -/
structure Denies (relay after : Relay) : Prop where
  settings : after.settings = relay.settings
  leases : after.leases = relay.leases
  connects : after.tally.connects = relay.tally.connects
  denied : relay.tally.deniedOther ≤ after.tally.deniedOther
  lobby : after.lobby = relay.lobby
  pool : after.ports = relay.ports ∨ ∃ port rest,
    relay.ports.allocate = some (port, rest) ∧ after.ports = rest.release port

/-- A session cannot be started: the user registered for it is gone again, and the port is
given back. -/
structure Fails (relay : Relay) (id : UserId) (after : Relay) : Prop where
  settings : after.settings = relay.settings
  leases : after.leases = relay.leases
  connects : after.tally.connects = relay.tally.connects
  denied : after.tally.deniedOther = relay.tally.deniedOther + 1
  server : after.lobby.server = relay.lobby.server
  users : after.lobby.people.present = relay.lobby.people.present
  arrivals : after.lobby.people.arrivals = relay.lobby.people.arrivals + 1
  number : UserId.firstFree (relay.lobby.people.present.map (·.id)) 65537
    relay.lobby.nextUser = some (id, after.lobby.nextUser)
  pool : ∃ port rest, relay.ports.allocate = some (port, rest) ∧ after.ports = rest.release port

/-- A user is registered, and a session begins on the next free port. -/
structure Admits (relay : Relay) (id : UserId) (port : Port) (after : Relay) : Prop where
  settings : after.settings = relay.settings
  leases : after.leases = relay.leases ++ [(id, port)]
  connects : after.tally.connects = relay.tally.connects + 1
  denied : after.tally.deniedOther = relay.tally.deniedOther
  server : after.lobby.server = relay.lobby.server
  users : after.lobby.people.present.map (·.id) =
    relay.lobby.people.present.map (·.id) ++ [id]
  arrivals : after.lobby.people.arrivals = relay.lobby.people.arrivals + 1
  space : relay.lobby.people.present.length < relay.lobby.server.maxUsers
  number : UserId.firstFree (relay.lobby.people.present.map (·.id)) 65537
    relay.lobby.nextUser = some (id, after.lobby.nextUser)
  pool : relay.ports.allocate = some (port, after.ports)
  vacant : relay.isBound port = false

theorem post_nil (relay : Relay) : relay.post [] = relay := by
  simp [post]

/-- A new user is registered and leaves at once, since its session does not start. -/
def dismiss (relay : Relay) (client : Address) (protocol : String) (id : UserId)
    (ports : PortPool) : Relay :=
  { relay with
    lobby := ((relay.lobby.connect client protocol).state.quit id "session failed to start").state
    ports := ports }

/-- A new user is registered, and a session begins on a port taken from the pool. -/
def welcome (relay : Relay) (client : Address) (protocol : String) (id : UserId) (port : Port)
    (ports : PortPool) : Relay :=
  { relay with
    lobby := (relay.lobby.connect client protocol).state
    ports := ports
    sessions := relay.sessions ++ [.begin id port client.host relay.now] }

/-- A session is granted or not; counting it is left to the answer. -/
theorem grant_cases (relay : Relay) (client : Address) (protocol : String) :
    (∃ ports denial, relay.grant client protocol = ({ relay with ports := ports }, .error denial) ∧
        denial ≠ .unstarted ∧ relay.Denies { relay with ports := ports }) ∨
      (∃ id ports,
        relay.grant client protocol = (relay.dismiss client protocol id ports, .error .unstarted) ∧
          relay.Fails id ((relay.dismiss client protocol id ports).count
            fun tally => { tally with deniedOther := tally.deniedOther + 1 })) ∨
      ∃ id port ports,
        relay.grant client protocol = (relay.welcome client protocol id port ports, .ok port) ∧
          relay.Admits id port ((relay.welcome client protocol id port ports).count
            fun tally => { tally with connects := tally.connects + 1 }) := by
  unfold grant
  split
  · exact .inl ⟨relay.ports, _, rfl, by decide, rfl, rfl, rfl, Nat.le_refl _, rfl, .inl rfl⟩
  · split
    · exact .inl ⟨relay.ports, _, rfl, by decide, rfl, rfl, rfl, Nat.le_refl _, rfl, .inl rfl⟩
    · split
      · exact .inl ⟨relay.ports, _, rfl, by decide, rfl, rfl, rfl, Nat.le_refl _, rfl, .inl rfl⟩
      · rename_i port rest allocated
        have returned : relay.Denies { relay with ports := rest.release port } :=
          ⟨rfl, rfl, rfl, Nat.le_refl _, rfl, .inr ⟨port, rest, allocated, rfl⟩⟩
        split
        · exact .inl ⟨_, _, rfl, by decide, returned⟩
        · rename_i vacant
          rcases relay.lobby.connect_cases client protocol with
            ⟨refusal, refused⟩ | ⟨id, counter, space, found, connected⟩
          · rw [refused]
            exact .inl ⟨_, _, rfl, by decide, returned⟩
          · unfold welcome dismiss
            rw [connected]
            simp only [Step.done]
            split
            · obtain ⟨newcomer, event, quits⟩ := Lobby.quit_connecting
                (UserId.firstFree_eq_some found).2 counter client protocol "session failed to start"
              refine .inr (.inl ⟨id, rest.release port, rfl, ?_⟩)
              rw [quits]
              exact ⟨rfl, rfl, rfl, rfl, rfl, rfl, rfl, found, port, rest, allocated, rfl⟩
            · refine .inr (.inr ⟨id, port, rest, ?_, rfl, ?_, rfl, rfl, rfl, ?_,
                Roster.arrivals_register .., space, found, allocated, Bool.eq_false_iff.mpr vacant⟩)
              · simp only [post_nil]
              · simp [leases, count, Session.lease, Session.begin]
              · simp [count, Roster.register, User.connecting]

/-- A client that asks for a session is turned away, as its session does not start or before
that, or is admitted. -/
theorem hello_cases (relay : Relay) (client : Address) (protocol : String) :
    relay.Denies (relay.hello client protocol) ∨
      (∃ id, relay.Fails id (relay.hello client protocol)) ∨
      ∃ id port, relay.Admits id port (relay.hello client protocol) := by
  unfold hello
  rcases relay.grant_cases client protocol with
    ⟨ports, denial, denied, early, denies⟩ | ⟨id, ports, failed, fails⟩ |
      ⟨id, port, ports, granted, admits⟩
  · rw [denied]
    obtain ⟨settings, leases, connects, tries, lobby, pool⟩ := denies
    cases denial with
    | unsupportedProtocol => exact .inl ⟨settings, leases, connects, tries, lobby, pool⟩
    | full => exact .inl ⟨settings, leases, connects, tries, lobby, pool⟩
    | portTaken => exact .inl ⟨settings, leases, connects, Nat.le_succ_of_le tries, lobby, pool⟩
    | unstarted => exact absurd rfl early
  · rw [failed]
    exact .inr (.inl ⟨id, fails⟩)
  · rw [granted]
    obtain ⟨settings, leases, connects, denied, server, users, arrivals, space, number, pool,
      vacant⟩ := admits
    exact .inr (.inr ⟨id, port, settings, leases, connects, denied, server, users, arrivals, space,
      number, pool, vacant⟩)

/-- First the ports change, or a user comes and goes, or a session begins; then the request
is counted, and a reply may be sent. -/
theorem hello_eq (relay : Relay) (client : Address) (protocol : String) :
    ∃ begun change,
      ((∃ ports, begun = { relay with ports := ports }) ∨
        (∃ id ports, begun = relay.dismiss client protocol id ports) ∨
        ∃ id port ports, begun = relay.welcome client protocol id port ports) ∧
      begun.settings = relay.settings ∧
      (relay.hello client protocol = begun.count change ∨
        ∃ greeting, relay.hello client protocol = (begun.count change).reply client greeting) := by
  unfold hello
  rcases relay.grant_cases client protocol with
    ⟨ports, denial, denied, -, -⟩ | ⟨id, ports, failed, -⟩ | ⟨id, port, ports, granted, -⟩
  · rw [denied]
    cases denial with
    | unsupportedProtocol => exact ⟨_, _, .inl ⟨ports, rfl⟩, rfl, .inl rfl⟩
    | full => exact ⟨_, _, .inl ⟨ports, rfl⟩, rfl, .inr ⟨_, rfl⟩⟩
    | portTaken => exact ⟨_, _, .inl ⟨ports, rfl⟩, rfl, .inl rfl⟩
    | unstarted => exact ⟨_, _, .inl ⟨ports, rfl⟩, rfl, .inl rfl⟩
  · rw [failed]
    exact ⟨_, _, .inr (.inl ⟨id, ports, rfl⟩), rfl, .inl rfl⟩
  · rw [granted]
    exact ⟨_, _, .inr (.inr ⟨id, port, ports, rfl⟩), rfl, .inr ⟨_, rfl⟩⟩

/-! ## Housing -/

/-- The pool as it was at first. -/
def seeded (settings : Settings) : PortPool :=
  .range settings.session.firstPort settings.portPoolSize

/-- Numbers are given once each, as long as those who come can be numbered: every
session has a user of its own, none of whom came later than the last one. -/
structure Numbered (relay : Relay) : Prop where
  once : (relay.leases.map (·.1)).Nodup
  bound : ∀ user ∈ relay.leases.map (·.1), user.toNat ≤ relay.lobby.people.arrivals
  next : relay.lobby.nextUser.toNat = relay.lobby.people.arrivals + 1

/-- Every port of the pool is free or has one session, and every registered user
has a session; there is room for all of them.  No session has the well-known port. -/
structure Housed (settings : Settings) (relay : Relay) : Prop where
  obeys : relay.settings = settings
  server : relay.lobby.server = settings.server
  start : relay.ports.start = settings.session.firstPort
  capacity : relay.ports.capacity = (seeded settings).capacity
  pool : (relay.ports.free ++ relay.leases.map (·.2)).Perm (seeded settings).free
  users : (relay.lobby.people.present.map (·.id)).Nodup
  limit : relay.lobby.people.present.length ≤ settings.server.maxUsers
  homes : relay.lobby.people.present.map (·.id) ⊆ relay.leases.map (·.1)
  numbered : relay.lobby.people.arrivals < 65535 → relay.Numbered
  /-- Those who have come have been given a session, or their session did not start. -/
  welcomed : relay.tally.connects ≤ relay.lobby.people.arrivals ∧
    relay.lobby.people.arrivals ≤ relay.tally.connects + relay.tally.deniedOther
  reserved : settings.connect.port ∉ relay.leases.map (·.2)

namespace Housed

theorem opened (settings : Settings) : (Relay.opened settings).Housed settings where
  obeys := rfl
  server := rfl
  start := rfl
  capacity := rfl
  pool := .of_eq (List.append_nil (seeded settings).free)
  users := List.nodup_nil
  limit := Nat.zero_le _
  homes := List.nil_subset _
  numbered := fun _ => ⟨List.nodup_nil, fun _ member => (by cases member), rfl⟩
  welcomed := ⟨Nat.zero_le _, Nat.zero_le _⟩
  reserved := List.not_mem_nil

variable (housed : relay.Housed settings)
include housed

/-- The pool owns every port there is to hand out. -/
theorem owns (member : port ∈ relay.ports.free ++ relay.leases.map (·.2)) :
    relay.ports.owns port = true :=
  PortPool.owns_range housed.start housed.capacity (housed.pool.subset member)

theorem nodup : (relay.ports.free ++ relay.leases.map (·.2)).Nodup :=
  housed.pool.nodup_iff.mpr (PortPool.nodup_range ..)

theorem apart : relay.Apart := by
  rw [Apart, ← ports_leases]
  exact (List.nodup_append.mp housed.nodup).2.1

/-- A session has another port than the well-known one. -/
theorem unreserved {session : Session} (there : relay.sessionOn? port = some session) :
    port ≠ relay.settings.connect.port := by
  obtain ⟨live, rfl⟩ := sessionOn?_eq_some there
  intro same
  refine housed.reserved ?_
  rw [← housed.obeys, ← same, ports_leases]
  exact List.mem_map_of_mem live

/-- No session begins or ends and nobody is registered. -/
theorem carry (obeys : after.settings = relay.settings) (leases : after.leases = relay.leases)
    (connects : after.tally.connects = relay.tally.connects)
    (denied : relay.tally.deniedOther ≤ after.tally.deniedOther)
    (lobby : relay.lobby.Shrinks after.lobby) (start : after.ports.start = relay.ports.start)
    (capacity : after.ports.capacity = relay.ports.capacity)
    (free : after.ports.free.Perm relay.ports.free) : after.Housed settings where
  obeys := obeys.trans housed.obeys
  server := lobby.server.trans housed.server
  start := start.trans housed.start
  capacity := capacity.trans housed.capacity
  pool := leases ▸ (free.append_right _).trans housed.pool
  users := lobby.ids.nodup housed.users
  limit := by
    have fewer := lobby.ids.length_le
    rw [List.length_map, List.length_map] at fewer
    exact Nat.le_trans fewer housed.limit
  homes := leases ▸ fun id member => housed.homes (lobby.ids.subset member)
  numbered := by
    intro few
    have same := lobby.arrivals housed.users
    rw [same] at few
    obtain ⟨once, bound, next⟩ := housed.numbered few
    refine ⟨leases ▸ once, ?_, ?_⟩
    · rw [leases, same]
      exact bound
    · rw [lobby.counter, same]
      exact next
  welcomed := by
    obtain ⟨least, most⟩ := housed.welcomed
    rw [lobby.arrivals housed.users, connects]
    exact ⟨least, Nat.le_trans most (Nat.add_le_add_left denied _)⟩
  reserved := leases ▸ housed.reserved

/-- Sessions go on. -/
theorem holds (holds : relay.Holds after) : after.Housed settings :=
  housed.carry holds.settings holds.leases (congrArg Prod.fst holds.tries)
    (Nat.le_of_eq (congrArg Prod.snd holds.tries).symm) holds.lobby (holds.pool ▸ rfl)
    (holds.pool ▸ rfl) (holds.pool ▸ .refl _)

/-- A port is taken and given back: it is free again, after all the others. -/
theorem release {rest : PortPool} (allocated : relay.ports.allocate = some (port, rest)) :
    (rest.release port).start = relay.ports.start ∧
      (rest.release port).capacity = relay.ports.capacity ∧
      (rest.release port).free.Perm relay.ports.free := by
  obtain ⟨free, nonempty, rfl⟩ := PortPool.allocate_eq_some_iff.mp allocated
  have owned : PortPool.owns { relay.ports with free := free } port = true :=
    housed.owns (List.mem_append_left _ (nonempty ▸ List.mem_cons_self))
  rw [PortPool.release, if_pos owned]
  refine ⟨rfl, rfl, ?_⟩
  rw [nonempty]
  exact List.perm_append_singleton ..

/-- A client is turned away. -/
theorem denies (denies : relay.Denies after) : after.Housed settings := by
  obtain ⟨start, capacity, free⟩ : after.ports.start = relay.ports.start ∧
      after.ports.capacity = relay.ports.capacity ∧
      after.ports.free.Perm relay.ports.free := by
    rcases denies.pool with same | ⟨port, rest, allocated, released⟩
    · rw [same]
      exact ⟨rfl, rfl, .refl _⟩
    · rw [released]
      exact housed.release allocated
  exact housed.carry denies.settings denies.leases denies.connects denies.denied
    (denies.lobby ▸ .refl _) start capacity free

/-- As long as those who come can be numbered, the next one gets the next number. -/
theorem next_free (few : relay.lobby.people.arrivals < 65535) :
    UserId.firstFree (relay.lobby.people.present.map (·.id)) 65537 relay.lobby.nextUser =
      some (relay.lobby.nextUser, relay.lobby.nextUser + 1) := by
  obtain ⟨-, bound, next⟩ := housed.numbered few
  refine UserId.firstFree_free (fun zero => ?_) (fun used => ?_) _
  · rw [zero] at next
    cases next
  · have old := bound _ (housed.homes used)
    rw [next] at old
    exact absurd old (Nat.not_succ_le_self _)

/-- The number that is given next is greater than that of any session there is, and so is
the one after it. -/
theorem passes {counter : UserId} (few : relay.lobby.people.arrivals + 1 < 65535)
    (number : UserId.firstFree (relay.lobby.people.present.map (·.id)) 65537
      relay.lobby.nextUser = some (id, counter)) :
    id.toNat = relay.lobby.people.arrivals + 1 ∧
      counter.toNat = relay.lobby.people.arrivals + 1 + 1 := by
  have before := Nat.lt_of_succ_lt few
  have next := (housed.numbered before).next
  obtain ⟨rfl, rfl⟩ := Prod.mk.inj
    (Option.some.inj (number.symm.trans (housed.next_free before)))
  refine ⟨next, ?_⟩
  rw [UInt16.toNat_add, next, UInt16.toNat_one]
  exact Nat.mod_eq_of_lt (by omega)

theorem numbered_admits (admits : relay.Admits id port after)
    (few : after.lobby.people.arrivals < 65535) : after.Numbered := by
  rw [admits.arrivals] at few
  obtain ⟨given, counter⟩ := housed.passes few admits.number
  obtain ⟨once, bound, next⟩ := housed.numbered (Nat.lt_of_succ_lt few)
  refine ⟨?_, ?_, ?_⟩
  · rw [admits.leases, List.map_append, List.map_singleton,
      (List.perm_append_singleton ..).nodup_iff]
    refine List.nodup_cons.mpr ⟨fun taken => ?_, once⟩
    have old := bound _ taken
    rw [given] at old
    exact absurd old (Nat.not_succ_le_self _)
  · intro user member
    rw [admits.arrivals]
    rw [admits.leases, List.map_append] at member
    rcases List.mem_append.mp member with old | new
    · exact Nat.le_succ_of_le (bound user old)
    · rw [List.mem_singleton.mp new]
      exact Nat.le_of_eq given
  · rw [counter, admits.arrivals]

theorem numbered_fails (fails : relay.Fails id after)
    (few : after.lobby.people.arrivals < 65535) : after.Numbered := by
  rw [fails.arrivals] at few
  obtain ⟨-, counter⟩ := housed.passes few fails.number
  obtain ⟨once, bound, next⟩ := housed.numbered (Nat.lt_of_succ_lt few)
  refine ⟨fails.leases ▸ once, fun user member => ?_, ?_⟩
  · rw [fails.leases] at member
    rw [fails.arrivals]
    exact Nat.le_succ_of_le (bound user member)
  · rw [counter, fails.arrivals]

/-- A session cannot be started. -/
theorem fails (fails : relay.Fails id after) : after.Housed settings := by
  obtain ⟨port, rest, allocated, released⟩ := fails.pool
  obtain ⟨start, capacity, free⟩ := housed.release allocated
  obtain ⟨least, most⟩ := housed.welcomed
  rw [← released] at start capacity free
  exact {
    obeys := fails.settings.trans housed.obeys
    server := fails.server.trans housed.server
    start := start.trans housed.start
    capacity := capacity.trans housed.capacity
    pool := fails.leases ▸ (free.append_right _).trans housed.pool
    users := fails.users ▸ housed.users
    limit := fails.users ▸ housed.limit
    homes := fails.leases ▸ fails.users ▸ housed.homes
    numbered := housed.numbered_fails fails
    welcomed := by
      rw [fails.arrivals, fails.connects, fails.denied]
      omega
    reserved := fails.leases ▸ housed.reserved }

/-- A client is admitted. -/
theorem admits (admits : relay.Admits id port after) : after.Housed settings := by
  obtain ⟨free, start, capacity⟩ : relay.ports.free = port :: after.ports.free ∧
      after.ports.start = relay.ports.start ∧ after.ports.capacity = relay.ports.capacity := by
    obtain ⟨free, nonempty, pool⟩ := PortPool.allocate_eq_some_iff.mp admits.pool
    rw [pool]
    exact ⟨nonempty, rfl, rfl⟩
  have fresh := (UserId.firstFree_eq_some admits.number).2
  have limit := admits.space
  rw [housed.server] at limit
  refine ⟨admits.settings.trans housed.obeys, admits.server.trans housed.server,
    start.trans housed.start, capacity.trans housed.capacity, ?_, ?_, ?_, ?_,
    housed.numbered_admits admits, ?_, ?_⟩
  · have pool := housed.pool
    rw [free] at pool
    rw [admits.leases, List.map_append, ← List.append_assoc]
    exact (List.perm_append_singleton ..).trans pool
  · rw [admits.users, (List.perm_append_singleton ..).nodup_iff]
    exact List.nodup_cons.mpr ⟨fresh, housed.users⟩
  · have length := congrArg List.length admits.users
    rw [List.length_map, List.length_append, List.length_map] at length
    rw [length]
    exact limit
  · rw [admits.users, admits.leases, List.map_append]
    exact List.append_subset.mpr ⟨fun _ member => List.mem_append_left _ (housed.homes member),
      List.subset_append_right ..⟩
  · obtain ⟨least, most⟩ := housed.welcomed
    rw [admits.arrivals, admits.connects, admits.denied]
    omega
  · rw [admits.leases, List.map_append]
    intro taken
    rcases List.mem_append.mp taken with old | new
    · exact housed.reserved old
    · have vacant := admits.vacant
      have same : settings.connect.port = port := List.mem_singleton.mp new
      simp [isBound, ← same, housed.obeys] at vacant

/-- The session on a port ends: its user leaves, and the port is the last one to
be handed out again. -/
theorem ends {session : Session} (there : relay.sessionOn? port = some session)
    (obeys : after.settings = relay.settings)
    (leases : after.leases = relay.leases.filter (·.2 ≠ port))
    (tries : after.tally.tries = relay.tally.tries)
    (lobby : after.lobby = (relay.lobby.quit session.user "connection closed").state)
    (pool : after.ports = relay.ports.release port) : after.Housed settings := by
  obtain ⟨live, rfl⟩ := sessionOn?_eq_some there
  have leased : session.lease ∈ relay.leases := List.mem_map_of_mem live
  have ports : (relay.leases.map (·.2)).Nodup := (List.nodup_append.mp housed.nodup).2.1
  have owned : relay.ports.owns session.port = true :=
    housed.owns (List.mem_append_right _ (List.mem_map_of_mem leased))
  rw [PortPool.release, if_pos owned] at pool
  have shrinks := (relay.lobby.thins_quit session.user "connection closed").shrinks
  rw [← lobby] at shrinks
  have fewer : after.leases.Sublist relay.leases := leases ▸ List.filter_sublist
  refine ⟨obeys.trans housed.obeys, shrinks.server.trans housed.server, pool ▸ housed.start,
    pool ▸ housed.capacity, ?_, shrinks.ids.nodup housed.users, ?_, ?_, fun few => ?_, ?_,
    fun taken => housed.reserved ((fewer.map _).subset taken)⟩
  · have order := (perm_cons_filter ports leased).map (·.2)
    rw [pool, leases, List.append_assoc]
    exact (order.append_left relay.ports.free).trans housed.pool
  · have length := shrinks.ids.length_le
    rw [List.length_map, List.length_map] at length
    exact Nat.le_trans length housed.limit
  · intro id member
    rw [lobby, Lobby.ids_quit] at member
    obtain ⟨member, differs⟩ := List.mem_filter.mp member
    obtain ⟨lease, leaseMember, rfl⟩ := List.mem_map.mp (housed.homes member)
    -- Its session is not the one that ends, for that belongs to somebody else.
    have elsewhere : lease.2 ≠ session.port := by
      intro same
      have itself : lease = session.lease :=
        List.inj_on_of_nodup_map ports leaseMember leased same
      exact of_decide_eq_true differs (congrArg Prod.fst itself)
    rw [leases]
    exact List.mem_map_of_mem (List.mem_filter.mpr ⟨leaseMember, decide_eq_true elsewhere⟩)
  · have same := shrinks.arrivals housed.users
    rw [same] at few
    obtain ⟨once, bound, next⟩ := housed.numbered few
    refine ⟨(fewer.map _).nodup once, fun user member => ?_, ?_⟩
    · rw [same]
      exact bound user ((fewer.map _).subset member)
    · rw [shrinks.counter, same]
      exact next
  · rw [shrinks.arrivals housed.users, show after.tally.connects = relay.tally.connects from
      congrArg Prod.fst tries, show after.tally.deniedOther = relay.tally.deniedOther from
      congrArg Prod.snd tries]
    exact housed.welcomed

theorem tearDown (port : Port) : (relay.tearDown port).Housed settings := by
  unfold Relay.tearDown
  split
  · exact housed
  · rename_i session there
    split
    · refine housed.ends there rfl ?_ rfl rfl rfl
      have told : ({ relay with sessions := relay.sessions.filter (·.port ≠ port) }.quit
          session.user "connection closed").leases =
            (relay.sessions.filter (·.port ≠ port)).map (·.lease) := leases_post ..
      refine told.trans ?_
      rw [leases, List.filter_map]
      rfl
    · exact housed

/-- Whatever becomes of a relay. -/
theorem goes (goes : relay.Goes after) : after.Housed settings := by
  induction goes with
  | steady steady => exact housed.holds (steady housed.apart)
  | tearDown relay port => exact housed.tearDown port
  | hello relay client protocol =>
      rcases relay.hello_cases client protocol with denies | ⟨id, fails⟩ | ⟨id, port, admits⟩
      · exact housed.denies denies
      · exact housed.fails fails
      · exact housed.admits admits
  | trans one two first second => exact second (first housed)

end Housed

/-! ## Runs -/

/-- One thing that happens at a relay: what comes from outside, after which all
proceeds as far as it can, and each single thing that can happen on the way. -/
inductive Move where
  /-- A datagram reaches a port. -/
  | deliver (source : Address) (port : Port) (datagram : Bytes)
  /-- Time passes, and all that falls due happens. -/
  | advance (milliseconds : Nat)
  /-- A message is handed in beside the datagrams of a session. -/
  | handIn (label : Nat) (user : UserId) (code : UInt8) (body : Bytes)
  /-- All sessions are to end. -/
  | stop
  /-- Another program takes a port. -/
  | occupy (port : Port)
  /-- Another program gives a port back. -/
  | vacate (port : Port)
  /-- No session can be started on a port any more. -/
  | impair (port : Port)
  /-- Sessions can be started on a port again. -/
  | repair (port : Port)
  /-- Datagrams and reports are taken away. -/
  | collect
  /-- A datagram reaches the well-known port, and is answered. -/
  | greet (client : Address) (datagram : Bytes)
  /-- A datagram reaches the port of a session, and waits. -/
  | arrive (source : Address) (port : Port) (datagram : Bytes)
  /-- A session takes in up to so many of the datagrams that wait. -/
  | receive (port : Port) (count : Nat)
  /-- A session that has heard nothing for too long ends. -/
  | expire (port : Port)
  /-- A session shows its events. -/
  | showEvents (port : Port)
  /-- A session that is over is forgotten. -/
  | tearDown (port : Port)
  /-- The next thing that can proceed does. -/
  | proceed
  /-- All sessions are told to end. -/
  | halt
  /-- Time passes, and nothing else happens. -/
  | wait (milliseconds : Nat)

/-- What one move makes of a relay. -/
def move (relay : Relay) : Move → Relay
  | .deliver source port datagram => relay.deliver source port datagram
  | .advance milliseconds => relay.advance milliseconds
  | .handIn label user code body => (relay.handIn label user code body).1
  | .stop => relay.stop
  | .occupy port => relay.occupy port
  | .vacate port => (relay.vacate port).1
  | .impair port => relay.impair port
  | .repair port => relay.repair port
  | .collect => relay.takeOutgoing.1.takeReports.1
  | .greet client datagram => relay.greet client datagram
  | .arrive source port datagram =>
      relay.modify port fun session =>
        { session with arrivals := session.arrivals ++ [(source, datagram)] }
  | .receive port count => receive port count relay
  | .expire port => relay.expire port
  | .showEvents port => relay.showEvents port
  | .tearDown port => relay.tearDown port
  | .proceed => relay.step?.getD relay
  | .halt =>
      { relay with
        sessions := relay.sessions.map fun session => { session with stopped := true } }
  | .wait milliseconds => { relay with now := relay.now + milliseconds }

/-- What a row of moves makes of a relay. -/
def course (relay : Relay) (moves : List Move) : Relay := moves.foldl move relay

theorem goes_move (relay : Relay) (move : Move) : relay.Goes (relay.move move) := by
  cases move with
  | deliver source port datagram => exact relay.goes_deliver source port datagram
  | advance milliseconds => exact relay.goes_advance milliseconds
  | handIn label user code body => exact relay.goes_handIn label user code body
  | stop => exact relay.goes_stop
  | occupy port => exact .steady (relay.steady_occupy port)
  | vacate port => exact .steady fun _ => ⟨rfl, rfl, rfl, rfl, .refl _⟩
  | impair port => exact .steady fun _ => ⟨rfl, rfl, rfl, rfl, .refl _⟩
  | repair port => exact .steady fun _ => ⟨rfl, rfl, rfl, rfl, .refl _⟩
  | collect => exact .steady fun _ => ⟨rfl, rfl, rfl, rfl, .refl _⟩
  | greet client datagram => exact relay.goes_greet client datagram
  | arrive source port datagram =>
      refine .steady (.modify ?_ relay port)
      exact fun _ => rfl
  | receive port count => exact .steady (steady_receive port count relay)
  | expire port => exact .steady (relay.steady_expire port)
  | showEvents port => exact .steady (relay.steady_showEvents port)
  | tearDown port => exact .tearDown relay port
  | proceed =>
      cases steps : relay.step? with
      | none =>
          rw [move, steps]
          exact .refl relay
      | some after =>
          rw [move, steps]
          exact goes_step steps
  | halt => exact .steady relay.steady_halt
  | wait milliseconds => exact .steady (relay.steady_wait _)

theorem housed_course (housed : relay.Housed settings) (moves : List Move) :
    (relay.course moves).Housed settings := by
  induction moves generalizing relay with
  | nil => exact housed
  | cons move rest inductionHypothesis =>
      exact inductionHypothesis (housed.goes (relay.goes_move move))

/-- Ports and sessions add up. -/
structure Conserved (settings : Settings) (relay : Relay) : Prop where
  /-- The free ports and those of live sessions are the ports of the pool. -/
  pool : (relay.ports.free ++ relay.sessions.map (·.port)).Perm (seeded settings).free
  /-- Each of them is there once. -/
  once : (relay.ports.free ++ relay.sessions.map (·.port)).Nodup
  /-- They are as many as the settings ask for, from the first one on. -/
  extent : settings.PortsFit → ∀ port, port ∈ relay.ports.free ++ relay.sessions.map (·.port) ↔
    PortPool.Covers settings.session.firstPort
      (settings.server.maxUsers + settings.session.extraPorts) port
  /-- As many ports are missing from the pool as there are live sessions. -/
  available : settings.PortsFit →
    relay.ports.available + relay.sessions.length = relay.ports.capacity
  /-- Where counting the ports runs over, there is none and no session ever begins. -/
  overrun : settings.server.maxUsers + settings.session.extraPorts < 2 ^ 64 →
    ¬ settings.PortsFit → relay.ports.free = [] ∧ relay.sessions = []
  /-- Every registered user has a live session under its number, and no other. -/
  homes : ∀ user ∈ relay.lobby.people.present, ∃ session ∈ relay.sessions,
    relay.sessionOf? user.id = some session ∧ session.user = user.id ∧
      ∀ other ∈ relay.sessions, other.user = user.id → other = session
  /-- There are never more users than there may be. -/
  limit : relay.lobby.people.present.length ≤ settings.server.maxUsers
  /-- Whoever has come was given a session, or is counted among those denied one. -/
  welcomed : relay.tally.connects ≤ relay.lobby.people.arrivals ∧
    relay.lobby.people.arrivals ≤ relay.tally.connects + relay.tally.deniedOther

/-- A house for two, with one port to spare. -/
def smallHouse : Settings := { server := { maxUsers := 2 }, session := { extraPorts := 1 } }

/-- A greeting that asks for a session. -/
def knock : Bytes := [0x48, 0x45, 0x4c, 0x4c, 0x4f, 0x30, 0x2e, 0x38, 0x33, 0]

/-- Another program takes the second port.  Of four clients that ask for a session
one finds this port taken and one finds no room; then one of the others quits, and
the last one falls silent.  For a fifth one no session can be started. -/
def crowdedMorning : List Move :=
  [.occupy 27890, .deliver ⟨"10.0.0.1", 6000⟩ 27888 knock,
    .deliver ⟨"10.0.0.2", 6000⟩ 27888 knock, .deliver ⟨"10.0.0.3", 6000⟩ 27888 knock,
    .deliver ⟨"10.0.0.4", 6000⟩ 27888 knock,
    .deliver ⟨"10.0.0.1", 6000⟩ 27889 [1, 0, 0, 6, 0, 1, 0, 0xff, 0xff, 0x62, 0],
    .vacate 27890, .impair 27890, .deliver ⟨"10.0.0.5", 6000⟩ 27888 knock,
    .wait 200000, .expire 27891, .showEvents 27891]

/-- A house for so many that counting its ports runs over. -/
def boundlessHouse : Settings :=
  { server := { maxUsers := 2 ^ 63 - 1 }, session := { extraPorts := 2 ^ 63 - 1 } }

end Relay

end Netplay
