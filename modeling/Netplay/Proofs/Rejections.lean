/-
Module: Netplay.Proofs.Rejections
Purpose: A datagram that comes from a stranger or cannot be read leaves a session as
  it is, but for the moment it was last heard and where it was heard first.
Main exports:
  Relay.sessionOn?_modify, Relay.sessionOn?_changed, Relay.Only, Session.Rejects, Session.Spares,
  Relay.takeIn_rejected, Relay.rejected_unchanged, Relay.rejected_learnt
-/
import Netplay.Proofs.Ports

namespace Netplay

namespace Relay

variable {relay after last : Relay} {port : Port} {session : Session}

/-! ## One port -/

/-- A change that keeps the port of a session shows on that port only. -/
theorem sessionOn?_modify {change : Session → Session}
    (keeps : ∀ session ∈ relay.sessions, session.port = port → (change session).port = port)
    (other : Port) :
    (relay.modify port change).sessionOn? other =
      if other = port then (relay.sessionOn? port).map change else relay.sessionOn? other := by
  unfold sessionOn? modify
  generalize relay.sessions = sessions at keeps
  induction sessions with
  | nil => simp
  | cons first rest inductionHypothesis =>
      have others := inductionHypothesis fun session member =>
        keeps session (List.mem_cons_of_mem _ member)
      have kept := keeps first List.mem_cons_self
      rw [List.map_cons, List.find?_cons, List.find?_cons, List.find?_cons, others]
      by_cases here : first.port = port
      · by_cases same : other = port
        · simp [here, kept, same]
        · have apart : port ≠ other := fun equal => same equal.symm
          simp [here, kept, same, apart]
      · by_cases same : other = port
        · simp [here, same]
        · simp [here, same]

/-- The session on that port is what the change makes of it. -/
theorem sessionOn?_changed {change : Session → Session}
    (keeps : ∀ session, session.port = port → (change session).port = port)
    (there : relay.sessionOn? port = some session) :
    (relay.modify port change).sessionOn? port = some (change session) := by
  rw [sessionOn?_modify (fun other _ => keeps other), if_pos rfl, there]
  rfl

/-- Nothing changes but sessions on one port. -/
structure Only (port : Port) (relay after : Relay) : Prop where
  frame : after = { relay with sessions := after.sessions }
  others : ∀ other, other ≠ port → after.sessionOn? other = relay.sessionOn? other

namespace Only

theorem refl (port : Port) (relay : Relay) : Only port relay relay := ⟨rfl, fun _ _ => rfl⟩

theorem trans (one : Only port relay after) (two : Only port after last) :
    Only port relay last := by
  refine ⟨?_, fun other apart => (two.others other apart).trans (one.others other apart)⟩
  rw [two.frame, one.frame]

theorem modify {change : Session → Session}
    (keeps : ∀ session ∈ relay.sessions, session.port = port → (change session).port = port) :
    Only port relay (relay.modify port change) :=
  ⟨rfl, fun other apart => (sessionOn?_modify keeps other).trans (if_neg apart)⟩

end Only

end Relay

/-! ## Rejected datagrams -/

/-- A session can do nothing with a datagram: it comes from another host, or its
messages cannot be read. -/
def Session.Rejects (session : Session) (bufferSize : Nat) (source : Address)
    (datagram : Bytes) : Prop :=
  source.host ≠ session.host ∨
    ∃ error, Bundle.parse (datagram.take bufferSize) session.inbox.last = .error error

/-- A session is as before, but for when it was heard, where it was heard first and
which datagrams still wait; and where the client is stays, if it has been known or
nothing but foreign datagrams has come. -/
structure Session.Spares (foreign : Prop) (session later : Session) : Prop where
  rest : later = { session with
    lastReceived := later.lastReceived
    remote := later.remote
    arrivals := later.arrivals }
  remote : session.remote ≠ none ∨ foreign → later.remote = session.remote

/-- What is kept of a datagram that is rejected: a sign of life, if it comes from the
host of the client, and where the client is, if that has not been known. -/
def Session.noticed (session : Session) (now : Nat) (source : Address) : Session :=
  if source.host = session.host then
    { session with lastReceived := now, remote := session.remote.or (some source) }
  else session

namespace Session

variable {session later last : Session} {now bufferSize : Nat} {source : Address}
  {datagram : Bytes} {foreign others : Prop}

namespace Spares

theorem refl (foreign : Prop) (session : Session) : session.Spares foreign session :=
  ⟨rfl, fun _ => rfl⟩

theorem trans (one : session.Spares foreign later) (two : later.Spares others last) :
    session.Spares (foreign ∧ others) last := by
  refine ⟨?_, fun stays => ?_⟩
  · rw [two.rest, one.rest]
  · have same := one.remote (stays.imp_right And.left)
    exact (two.remote (stays.imp (same ▸ ·) And.right)).trans same

theorem mono (spares : session.Spares foreign later) (implies : others → foreign) :
    session.Spares others later :=
  ⟨spares.rest, fun stays => spares.remote (stays.imp_right implies)⟩

/-- What is rejected stays so. -/
theorem rejects (spares : session.Spares foreign later)
    (rejects : session.Rejects bufferSize source datagram) :
    later.Rejects bufferSize source datagram := by
  rw [spares.rest]
  exact rejects

/-- The first datagram that waits is noticed. -/
theorem noticed (session : Session) (waiting : List (Address × Bytes)) (now : Nat)
    (source : Address) :
    session.Spares (source.host ≠ session.host)
      (Session.noticed { session with arrivals := waiting } now source) := by
  unfold Session.noticed
  split
  · rename_i home
    refine ⟨rfl, fun stays => ?_⟩
    obtain ⟨remote, found⟩ :=
      Option.ne_none_iff_exists'.mp (stays.resolve_right fun foreign => foreign home)
    simp only [found]
    rfl
  · exact ⟨rfl, fun _ => rfl⟩

end Spares

/-- Noticing a datagram changes neither the port nor what waits. -/
theorem noticed_frame (session : Session) (now : Nat) (source : Address) :
    (session.noticed now source).port = session.port ∧
      (session.noticed now source).host = session.host ∧
      (session.noticed now source).arrivals = session.arrivals := by
  unfold noticed
  split
  · exact ⟨rfl, rfl, rfl⟩
  · exact ⟨rfl, rfl, rfl⟩

end Session

namespace Relay

variable {relay after last : Relay} {port : Port} {session : Session}

/-- A datagram that is rejected is noticed at most. -/
theorem takeIn_rejected (there : relay.sessionOn? port = some session) {source : Address}
    {datagram : Bytes}
    (rejects : session.Rejects relay.settings.session.bufferSize source datagram) :
    Only port relay (relay.takeIn port source datagram) ∧
      (relay.takeIn port source datagram).sessionOn? port =
        some (session.noticed relay.now source) := by
  have number := (sessionOn?_eq_some there).2
  by_cases home : source.host = session.host
  · obtain ⟨error, unreadable⟩ := rejects.resolve_left fun foreign => foreign home
    have received : session.inbox.receive
        (datagram.take relay.settings.session.bufferSize) =
          (session.inbox, .rejected error) := by
      rw [Inbox.receive, unreadable]
    have taken : relay.takeIn port source datagram =
        relay.modify port fun _ => session.noticed relay.now source := by
      rw [takeIn, there]
      simp only
      rw [if_neg (not_not.mpr home), received, Session.noticed, if_pos home]
    have keeps : ∀ other ∈ relay.sessions, other.port = port →
        (session.noticed relay.now source).port = port :=
      fun _ _ _ => (session.noticed_frame relay.now source).1.trans number
    rw [taken]
    refine ⟨.modify keeps, ?_⟩
    rw [sessionOn?_modify keeps, if_pos rfl, there]
    rfl
  · have ignored : relay.takeIn port source datagram = relay := by
      rw [takeIn, there]
      simp only
      rw [if_pos home]
    rw [ignored, Session.noticed, if_neg home]
    exact ⟨.refl port relay, there⟩

/-- The first datagram that waits is rejected. -/
theorem takeIn_first (there : relay.sessionOn? port = some session) {source : Address}
    {datagram : Bytes} (waiting : List (Address × Bytes))
    (rejects : session.Rejects relay.settings.session.bufferSize source datagram)
    (takes : after = (relay.modify port fun session =>
      { session with arrivals := waiting }).takeIn port source datagram) :
    Only port relay after ∧ ∃ next, after.sessionOn? port = some next ∧
      next.arrivals = waiting ∧ next.host = session.host ∧
      session.Spares (source.host ≠ session.host) next := by
  have number := (sessionOn?_eq_some there).2
  have keeps : ∀ other ∈ relay.sessions, other.port = port →
      Session.port { other with arrivals := waiting } = port := fun _ _ same => same
  have begun : (relay.modify port fun session =>
      { session with arrivals := waiting }).sessionOn? port =
        some { session with arrivals := waiting } := by
    rw [sessionOn?_modify keeps, if_pos rfl, there]
    rfl
  obtain ⟨only, noticed⟩ := takeIn_rejected begun rejects
  obtain ⟨-, host, waits⟩ :=
    Session.noticed_frame { session with arrivals := waiting } relay.now source
  rw [← takes] at only noticed
  exact ⟨(Only.modify keeps).trans only, _, noticed, waits, host, .noticed ..⟩

/-- Whatever state a session is in, and however many datagrams it takes in next: if
it rejects them all, then no user and no game is affected, nor is another session,
nothing is sent, and of the session itself nothing changes but when it was heard last
and, if that was not known and some of them come from the host of its client, where
the client is. -/
theorem rejected_unchanged (there : relay.sessionOn? port = some session) (count : Nat)
    (rejects : ∀ arrival ∈ session.arrivals.take count,
      session.Rejects relay.settings.session.bufferSize arrival.1 arrival.2) :
    Only port relay (receive port count relay) ∧
      ∃ later, (receive port count relay).sessionOn? port = some later ∧
        session.Spares
          (∀ arrival ∈ session.arrivals.take count, arrival.1.host ≠ session.host) later := by
  induction count generalizing relay session with
  | zero => exact ⟨.refl port relay, session, there, .refl _ session⟩
  | succ count inductionHypothesis =>
      unfold receive
      rw [there]
      simp only
      cases queue : session.arrivals with
      | nil => exact ⟨.refl port relay, session, there, .refl _ session⟩
      | cons first waiting =>
          simp only
          split
          · rw [queue] at rejects
            generalize takes : (relay.modify port fun session =>
              { session with arrivals := waiting }).takeIn port first.1 first.2 = after
            obtain ⟨only, next, found, waits, host, spares⟩ :=
              takeIn_first there waiting (rejects first List.mem_cons_self) takes.symm
            have settings : after.settings = relay.settings := by
              rw [only.frame]
            -- The session goes on rejecting as before.
            obtain ⟨others, later, stays, sparesRest⟩ := inductionHypothesis found (by
              intro arrival member
              rw [waits] at member
              rw [settings]
              exact spares.rejects (rejects arrival (List.mem_cons_of_mem _ member)))
            refine ⟨only.trans others, later, stays,
              (spares.trans sparesRest).mono fun foreign => ?_⟩
            rw [waits, host]
            exact List.forall_mem_cons.mp foreign
          · exact ⟨.refl port relay, session, there, .refl _ session⟩

/-- Where the only client of a relay is at home. -/
def home : Address := ⟨"10.0.0.1", 6000⟩

/-- One client has a session, and has not used it.  A stranger and then the client
itself send something that cannot be read. -/
def noise : List Move :=
  [.deliver home 27888 knock, .arrive ⟨"10.0.0.2", 6000⟩ 27889 [1], .arrive home 27889 [0]]

/-- The session of that client. -/
def quietSession : Session :=
  { Session.begin 1 27889 "10.0.0.1" 0 with
    arrivals := [(⟨"10.0.0.2", 6000⟩, [1]), (home, [0])] }

/-- Both datagrams are taken in, and the relay is as before. -/
theorem rejected_unchanged_noise :
    ((opened {}).course noise).sessionOn? 27889 = some quietSession ∧
      Only 27889 ((opened {}).course noise) (receive 27889 2 ((opened {}).course noise)) ∧
      ∃ later, (receive 27889 2 ((opened {}).course noise)).sessionOn? 27889 = some later ∧
        quietSession.Spares (∀ arrival ∈ quietSession.arrivals.take 2,
          arrival.1.host ≠ quietSession.host) later := by
  have there : ((opened {}).course noise).sessionOn? 27889 = some quietSession := by
    decide +kernel
  refine ⟨there, rejected_unchanged there 2 fun arrival member => ?_⟩
  rw [(housed_course (.opened {}) noise).obeys]
  rcases List.mem_cons.mp member with rfl | second
  · exact .inl (by decide)
  · rw [List.mem_singleton.mp second]
    exact .inr ⟨.badCount 0, rfl⟩

/-- Before it is heard for the first time, the session does not know where its client
is.  From a datagram that cannot be read it learns that. -/
theorem rejected_learnt :
    ((opened {}).course (noise.take 1)).sessionOn? 27889 =
        some (Session.begin 1 27889 "10.0.0.1" 0) ∧
      (Session.begin 1 27889 "10.0.0.1" 0).Rejects
        ({} : Settings).session.bufferSize home [0] ∧
      (Session.begin 1 27889 "10.0.0.1" 0).remote = none ∧
      ((((opened {}).course (noise.take 1)).takeIn 27889 home [0]).sessionOn? 27889).map
        (·.remote) = some (some home) := by
  refine ⟨?_, .inr ⟨.badCount 0, rfl⟩, rfl, ?_⟩
  · decide +kernel
  · decide +kernel

end Relay

end Netplay
