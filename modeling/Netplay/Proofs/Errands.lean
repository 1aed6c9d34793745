/-
Module: Netplay.Proofs.Errands
Purpose: Whatever happens at a relay is done to its users and games by moves of a
  venue, and clients say who they are only before they are logged in.
Main exports:
  Lobby.Errand, Lobby.Errands, Session.errands_perform,
  Relay.errands_dispatch, Relay.errands_beat, Relay.errands_course
-/
import Mathlib.Logic.Relation
import Netplay.Proofs.Beats
import Netplay.Proofs.Origins

namespace Netplay

/-! ## Errands -/

namespace Lobby

variable {lobby after last : Lobby}

/-- One thing done to a lobby, at any time and under any ticket: a tidy move, or
a merge in flight is retried. -/
inductive Errand (lobby : Lobby) : Lobby → Prop where
  | move (now ticket : Nat) (move : Venue.Move) (tidy : lobby.Tidy move) :
      Errand lobby (Venue.step ⟨lobby, now, ticket, 0⟩ move).lobby
  | retry {game : Game} {parked : ParkedMerge} (member : game ∈ lobby.allGames)
      (waits : parked ∈ game.inFlight) (now : Nat) :
      Errand lobby (lobby.withRoom
        (((lobby.room game).unpark parked.merge.ticket).resume now parked).1)

/-- Any number of things, one after the other. -/
def Errands : Lobby → Lobby → Prop := Relation.ReflTransGen Errand

namespace Errands

theorem refl (lobby : Lobby) : lobby.Errands lobby := Relation.ReflTransGen.refl

theorem trans (one : lobby.Errands after) (two : after.Errands last) : lobby.Errands last :=
  Relation.ReflTransGen.trans one two

/-- A move of a venue that has the time and the ticket. -/
theorem move (lobby : Lobby) (now ticket : Nat) (move : Venue.Move) (tidy : lobby.Tidy move) :
    lobby.Errands (Venue.step ⟨lobby, now, ticket, 0⟩ move).lobby :=
  .single (.move now ticket move tidy)

/-- What every errand keeps, errands keep. -/
theorem keeps {holds : Lobby → Prop} (errands : lobby.Errands after)
    (each : ∀ {lobby after : Lobby}, lobby.Errand after → holds lobby → holds after)
    (first : holds lobby) : holds after := by
  induction errands with
  | refl => exact first
  | tail _ errand inductionHypothesis => exact each errand inductionHypothesis

end Errands

/-- How many games have been created matters to nobody. -/
theorem step_created (lobby : Lobby) (now ticket created : Nat) (move : Venue.Move) :
    (Venue.step ⟨lobby, now, ticket, created⟩ move).lobby =
      (Venue.step ⟨lobby, now, ticket, 0⟩ move).lobby := by
  rw [Venue.step_lobby, Venue.step_lobby]
  cases move with
  | _ => rfl

/-- The books stay in order. -/
theorem Errand.kept {settings : Settings} (errand : lobby.Errand after)
    (kept : ∃ created, lobby.Kept settings created) : ∃ created, after.Kept settings created := by
  obtain ⟨created, kept⟩ := kept
  cases errand with
  | move now ticket move tidy =>
      rw [← step_created lobby now ticket created move]
      exact ⟨_, @Venue.kept_step settings ⟨lobby, now, ticket, created⟩ kept move⟩
  | @retry game parked member waits now =>
      exact ⟨created, (invariant_kept settings created True).effect kept
        (.work member (Room.works_retry now parked.merge.ticket parked))⟩

end Lobby

/-! ## Requests -/

namespace Session

variable {session : Session} {lobby : Lobby}

/-- Telling a refusal is left to the session. -/
theorem errands_tellingRefusal {α : Type} {step : Step Lobby α}
    {tell : Refusal → Performed → Performed} (errands : lobby.Errands step.state)
    (told : ∀ refusal done, (tell refusal done).lobby = done.lobby) :
    lobby.Errands (Performed.tellingRefusal session step tell).lobby := by
  refine Performed.tellingRefusal_induction (motive := fun done => lobby.Errands done.lobby)
    errands fun refusal => ?_
  rw [told]
  exact errands

theorem errands_introduce (session : Session) (lobby : Lobby) (now : Nat)
    (name emulator : String) (connectionType : UInt8) :
    lobby.Errands (session.introduce lobby now name emulator connectionType).lobby := by
  unfold introduce
  split
  · exact .refl lobby
  · rename_i out
    exact .move lobby now 0 (.introduce session.user name emulator connectionType)
      (Roster.outside_of_person (Bool.eq_false_iff.mpr out))

/-- The ping is measured, and the login is tried. -/
theorem errands_finishLogin (session : Session) (lobby : Lobby)
    (out : (lobby.people.person session.user).loggedIn = false) :
    lobby.Errands (session.finishLogin lobby).lobby := by
  have measured (ping : UInt32) : lobby.Errands
      { lobby with people := lobby.people.update session.user ({ · with ping := ping }) } :=
    .move lobby 0 0 (.measure session.user ping) (Roster.outside_of_person out)
  have tried (ping : UInt32) := (measured ping).trans (.move _ 0 0 (.login session.user) trivial)
  unfold finishLogin
  simp only
  split
  · exact tried _
  · exact tried _

theorem errands_acknowledge (session : Session) (lobby : Lobby) (now : Nat) :
    lobby.Errands (session.acknowledge lobby now).lobby := by
  unfold acknowledge
  split
  · exact .refl lobby
  · rename_i out
    simp only
    split
    · exact .refl lobby
    · exact errands_finishLogin { session with speed := session.speed.measure now } lobby
        (Bool.eq_false_iff.mpr out)

/-- Whatever a client asks for is done by moves of a venue. -/
theorem errands_perform (session : Session) (lobby : Lobby) (now ticket : Nat)
    (request : Request) :
    lobby.Errands (session.perform lobby now ticket request).lobby := by
  cases request with
  | login name emulator connectionType => exact session.errands_introduce lobby now _ _ _
  | acknowledge => exact session.errands_acknowledge lobby now
  | chat message => exact .move lobby now ticket (.chat session.user message) trivial
  | gameChat message =>
      rw [perform]
      split
      · exact .refl lobby
      · exact .move lobby now ticket (.gameChat session.user message) trivial
  | keepAlive => exact .refl lobby
  | createGame name =>
      exact errands_tellingRefusal (.move lobby now ticket (.create session.user name) trivial)
        fun _ _ => rfl
  | joinGame game =>
      exact errands_tellingRefusal (.move lobby now ticket (.join session.user game) trivial)
        fun _ _ => rfl
  | quitGame => exact .move lobby now ticket (.leave session.user) trivial
  | quit message => exact .move lobby now ticket (.quit session.user message) trivial
  | startGame =>
      exact errands_tellingRefusal (.move lobby now ticket (.start session.user) trivial)
        fun _ _ => rfl
  | ready => exact .move lobby now ticket (.ready session.user) trivial
  | kick target => exact .move lobby now ticket (.kick session.user target) trivial
  | input data => exact .move lobby now ticket (.input session.user data) trivial
  | cachedInput slot =>
      rw [perform]
      split
      · rename_i data cached
        exact .move lobby now ticket (.input session.user data) trivial
      · exact .refl lobby
  | dropGame => exact .move lobby now ticket (.drop session.user) trivial

end Session

/-! ## Relays -/

namespace Relay

variable {relay after : Relay}

theorem errands_quit (relay : Relay) (user : UserId) (message : String) :
    relay.lobby.Errands (relay.quit user message).lobby :=
  .move relay.lobby 0 0 (.quit user message) trivial

theorem errands_carryOut (relay : Relay) (port : Port) (request : Request) :
    relay.lobby.Errands (relay.carryOut port request).1.lobby := by
  unfold carryOut
  split
  · exact .refl _
  · rename_i session there
    exact session.errands_perform relay.lobby relay.now relay.nextTicket request

theorem errands_noteGap (relay : Relay) (port : Port) :
    relay.lobby.Errands (relay.noteGap port).lobby := by
  unfold noteGap
  split
  · exact .refl _
  · rename_i session there
    exact .move relay.lobby 0 0 (.gap session.user) trivial

theorem errands_dispatch (port : Port) (messages : List Accepted) (relay : Relay) :
    relay.lobby.Errands (dispatch port messages relay).lobby := by
  have handling : Handling port messages fun relay after =>
      relay.lobby.Errands after.lobby :=
    ⟨fun _ => .refl _, .trans, (errands_noteGap · port),
      fun _ _ request _ relay => relay.errands_carryOut port request, fun _ _ _ => .refl _,
      fun _ _ _ _ _ _ _ _ => .refl _⟩
  exact handling.dispatch relay

theorem errands_takeIn (relay : Relay) (port : Port) (source : Address) (datagram : Bytes) :
    relay.lobby.Errands (relay.takeIn port source datagram).lobby := by
  unfold takeIn
  split
  · exact .refl _
  · split
    · exact .refl _
    · simp only
      split
      · exact .refl _
      · exact .refl _
      · exact errands_dispatch port _ (relay.modify port fun _ => _)

theorem errands_release (relay : Relay) (finished : Finished) :
    relay.lobby.Errands (relay.release finished).lobby := by
  unfold release
  split
  · exact .refl _
  · split
    · exact .refl _
    · exact errands_dispatch _ _ relay

theorem errands_merge (relay : Relay) : relay.lobby.Errands relay.merge.lobby := by
  unfold merge
  split
  · exact .refl _
  · rename_i lobby letters finished turns
    obtain ⟨game, member, parked, waits, retried⟩ := Lobby.turn_eq_some turns
    have merged : relay.lobby.Errands lobby := retried ▸ .single (.retry member waits relay.now)
    simp only
    split
    · exact merged
    · rename_i finished
      exact merged.trans (errands_release ({ relay with lobby := lobby }.post letters) finished)

/-- Only a client for which a user is registered changes anything. -/
theorem errands_hello (relay : Relay) (client : Address) (protocol : String) :
    relay.lobby.Errands (relay.hello client protocol).lobby := by
  obtain ⟨begun, change, begins, -, answers⟩ := relay.hello_eq client protocol
  have started : relay.lobby.Errands begun.lobby := by
    have comes : relay.lobby.Errands (relay.lobby.connect client protocol).state :=
      .move relay.lobby 0 0 (.connect client protocol) trivial
    rcases begins with ⟨ports, rfl⟩ | ⟨id, ports, rfl⟩ | ⟨id, port, ports, rfl⟩
    · exact .refl _
    · exact comes.trans (.move _ 0 0 (.quit id "session failed to start") trivial)
    · exact comes
  rcases answers with silent | ⟨greeting, told⟩
  · rw [silent]
    exact started
  · rw [told]
    exact started

/-- Whatever happens in one beat is done by moves of a venue. -/
theorem errands_beat (relay : Relay) (beat : Beat) :
    relay.lobby.Errands (relay.beat beat).lobby := by
  cases beat with
  | greet client datagram =>
      rw [Relay.beat, greet]
      split
      · exact .refl _
      · exact relay.errands_hello client _
      · exact .refl _
  | hear port =>
      rw [Relay.beat]
      rcases relay.receive_cases port with idle | ⟨session, source, datagram, rest, -, -, -, hears⟩
      · rw [idle]
        exact .refl _
      · rw [hears 0]
        exact errands_takeIn (relay.modify port fun session => { session with arrivals := rest })
          port source datagram
  | expire port =>
      rw [Relay.beat, expire]
      split
      · exact .refl _
      · split
        · exact relay.errands_quit _ "timeout"
        · exact .refl _
  | display port =>
      rw [Relay.beat, showEvents]
      split
      · exact .refl _
      · exact .refl _
  | tearDown port =>
      rw [Relay.beat, tearDown]
      split
      · exact .refl _
      · rename_i session there
        split
        · exact errands_quit { relay with sessions := relay.sessions.filter (·.port ≠ port) }
            session.user "connection closed"
        · exact .refl _
  | merge => exact relay.errands_merge
  | occupy port =>
      rw [Relay.beat, occupy]
      split
      · exact .refl _
      · exact .refl _
  | _ => exact .refl _

/-- Whatever happens at a relay is done by moves of a venue. -/
theorem errands_course (relay : Relay) (moves : List Move) :
    relay.lobby.Errands (relay.course moves).lobby := by
  have lasting : Lasting fun relay after => relay.lobby.Errands after.lobby :=
    ⟨fun _ => .refl _, .trans, errands_beat, errands_carryOut, fun _ _ _ => .refl _⟩
  exact lasting.course relay moves

end Relay

end Netplay
