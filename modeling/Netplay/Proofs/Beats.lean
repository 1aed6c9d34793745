/-
Module: Netplay.Proofs.Beats
Purpose: What happens at a relay one beat at a time.  Every move is a row of beats,
  and each beat is the doing of one session, of one merge or of the outside.
Main exports:
  Relay.release, Relay.conclude_cases, Relay.merge, Relay.Beat, Relay.beat,
  Relay.play, Relay.Unfolds, Relay.receive_cases, Relay.unfolds_move,
  Relay.Lasting, Relay.Lasting.course, Relay.goes_beat, Relay.housed_play
-/
import Netplay.Proofs.Ports

namespace Netplay.Relay

variable {relay after last : Relay}

/-! ## Beats -/

/-- The session that a request holds up, by its port, and the messages it has still
to act on. -/
def heldBy? (relay : Relay) (ticket : Nat) : Option (Port × List Accepted) :=
  relay.sessions.findSome? fun session =>
    match session.phase with
    | .waiting awaited rest => if awaited = ticket then some (session.port, rest) else none
    | .listening => none

/-- A request that waited is over.  One that was handed in is reported, and any
other one lets its session go on with the rest of the datagram. -/
def release (relay : Relay) (finished : Finished) : Relay :=
  match relay.directs.find? (·.ticket = finished.ticket) with
  | some direct =>
      { relay with
        directs := relay.directs.filter (·.ticket ≠ finished.ticket)
        reports :=
          relay.reports ++
            [⟨direct.label, finished.result.mapError ActionError.refused⟩] }
  | none =>
      match relay.heldBy? finished.ticket with
      | none => relay
      | some (port, rest) => dispatch port rest relay

/-- One merge proceeds, if there is one that can. -/
def merge (relay : Relay) : Relay :=
  match relay.lobby.turn relay.now with
  | none => relay
  | some (lobby, letters, finished) =>
      let after := { relay with lobby := lobby }.post letters
      match finished with
      | none => after
      | some finished => after.release finished

/-- One thing that happens at a relay, in no order but that of the clock. -/
inductive Beat where
  /-- A datagram reaches the well-known port, and is answered. -/
  | greet (client : Address) (datagram : Bytes)
  /-- A datagram reaches the port of a session, and waits. -/
  | arrive (source : Address) (port : Port) (datagram : Bytes)
  /-- A session takes in a datagram that waits. -/
  | hear (port : Port)
  /-- A session that has heard nothing for too long ends. -/
  | expire (port : Port)
  /-- A session shows its events. -/
  | display (port : Port)
  /-- A session that is over is forgotten. -/
  | tearDown (port : Port)
  /-- A merge proceeds, and the session it held up goes on. -/
  | merge
  /-- All sessions are told to end. -/
  | halt
  /-- It gets later. -/
  | clock (now : Nat)
  /-- Another program takes a port. -/
  | occupy (port : Port)
  /-- Another program gives a port back. -/
  | vacate (port : Port)
  /-- No session can be started on a port any more. -/
  | impair (port : Port)
  /-- Sessions can be started on a port again. -/
  | repair (port : Port)
  /-- Datagrams and reports are taken away. -/
  | collect

/-- What one beat makes of a relay. -/
def beat (relay : Relay) : Beat → Relay
  | .greet client datagram => relay.greet client datagram
  | .arrive source port datagram =>
      relay.modify port fun session =>
        { session with arrivals := session.arrivals ++ [(source, datagram)] }
  | .hear port => receive port 1 relay
  | .expire port => relay.expire port
  | .display port => relay.showEvents port
  | .tearDown port => relay.tearDown port
  | .merge => relay.merge
  | .halt =>
      { relay with
        sessions := relay.sessions.map fun session => { session with stopped := true } }
  | .clock now => { relay with now := now }
  | .occupy port => relay.occupy port
  | .vacate port => (relay.vacate port).1
  | .impair port => relay.impair port
  | .repair port => relay.repair port
  | .collect => relay.takeOutgoing.1.takeReports.1

/-- What a row of beats makes of a relay. -/
def play (relay : Relay) (beats : List Beat) : Relay := beats.foldl beat relay

/-! ## Rows of beats -/

/-- What becomes of a relay comes about beat by beat. -/
def Unfolds (relay after : Relay) : Prop := ∃ beats, after = relay.play beats

namespace Unfolds

theorem refl (relay : Relay) : relay.Unfolds relay := ⟨[], rfl⟩

theorem one (relay : Relay) (beat : Beat) : relay.Unfolds (relay.beat beat) := ⟨[beat], rfl⟩

theorem trans (first : relay.Unfolds after) (second : after.Unfolds last) :
    relay.Unfolds last := by
  obtain ⟨beats, rfl⟩ := first
  obtain ⟨more, rfl⟩ := second
  exact ⟨beats ++ more, List.foldl_append.symm⟩

/-- One more beat. -/
theorem next (first : relay.Unfolds after) (beat : Beat) : relay.Unfolds (after.beat beat) :=
  first.trans (.one after beat)

end Unfolds

/-- A session that listens takes in the first datagram that waits, and any other one
none at all. -/
theorem receive_cases (relay : Relay) (port : Port) :
    (∀ count, receive port count relay = relay) ∨
      ∃ session source datagram rest, relay.sessionOn? port = some session ∧
        session.arrivals = (source, datagram) :: rest ∧ session.isListening = true ∧
        ∀ count, receive port (count + 1) relay = receive port count
          ((relay.modify port fun session => { session with arrivals := rest }).takeIn port source
            datagram) := by
  have idle (stays : ∀ count, receive port (count + 1) relay = relay) (count : Nat) :
      receive port count relay = relay := by
    cases count with
    | zero => rfl
    | succ count => exact stays count
  cases there : relay.sessionOn? port with
  | none =>
      refine .inl (idle fun count => ?_)
      rw [receive, there]
  | some session =>
      cases arrivals : session.arrivals with
      | nil =>
          refine .inl (idle fun count => ?_)
          rw [receive, there]
          simp only [arrivals]
      | cons first rest =>
          by_cases listens : session.isListening = true
          · refine .inr ⟨session, first.1, first.2, rest, rfl, arrivals, listens, fun count => ?_⟩
            rw [receive, there]
            simp only [arrivals]
            rw [if_pos listens]
          · refine .inl (idle fun count => ?_)
            rw [receive, there]
            simp only [arrivals]
            rw [if_neg listens]

/-- To take in several datagrams is to take in one after the other. -/
theorem receive_succ (port : Port) (count : Nat) (relay : Relay) :
    receive port (count + 1) relay = receive port count (receive port 1 relay) := by
  rcases relay.receive_cases port with idle | ⟨session, source, datagram, rest, -, -, -, hears⟩
  · rw [idle, idle, idle]
  · rw [hears count, hears 0]
    rfl

theorem unfolds_receive (port : Port) (count : Nat) (relay : Relay) :
    relay.Unfolds (receive port count relay) := by
  induction count generalizing relay with
  | zero => exact .refl relay
  | succ count inductionHypothesis =>
      rw [receive_succ]
      exact (Unfolds.one relay (.hear port)).trans (inductionHypothesis _)

theorem unfolds_turn (relay : Relay) (port : Port) : relay.Unfolds (relay.turn port) :=
  (((unfolds_receive port _ relay).next (.expire port)).next (.display port)).next (.tearDown port)

/-- A request that waited is over, and then it is the turn of the session it held
up, if any. -/
theorem conclude_cases (relay : Relay) (finished : Finished) :
    relay.conclude finished = relay.release finished ∨
      ∃ port, relay.conclude finished = (relay.release finished).turn port := by
  cases handed : relay.directs.find? (·.ticket = finished.ticket) with
  | some direct =>
      rw [conclude, release, handed]
      exact .inl rfl
  | none =>
      have concludes : relay.conclude finished =
          match relay.heldBy? finished.ticket with
          | none => relay
          | some (port, rest) => (dispatch port rest relay).turn port := by
        rw [conclude, handed]
        rfl
      rw [concludes, release, handed]
      simp only
      cases relay.heldBy? finished.ticket with
      | none => exact .inl rfl
      | some held => exact .inr ⟨held.1, rfl⟩

theorem unfolds_step (steps : relay.step? = some after) : relay.Unfolds after := by
  unfold step? at steps
  split at steps
  · rename_i lobby letters finished turns
    have merged : relay.Unfolds relay.merge := .one relay .merge
    unfold merge at merged
    rw [turns] at merged
    simp only at merged steps
    cases finished with
    | none =>
        rw [← Option.some.inj steps]
        exact merged
    | some finished =>
        rw [← Option.some.inj steps]
        rcases conclude_cases ({ relay with lobby := lobby }.post letters) finished with
          released | ⟨port, released⟩
        · rw [released]
          exact merged
        · rw [released]
          exact merged.trans (unfolds_turn _ port)
  · obtain ⟨session, -, rfl⟩ := Option.map_eq_some_iff.mp steps
    exact unfolds_turn relay session.port

theorem unfolds_run (steps : Nat) (relay : Relay) : relay.Unfolds (run steps relay) := by
  induction steps generalizing relay with
  | zero => exact .refl relay
  | succ steps inductionHypothesis =>
      unfold run
      split
      · exact .refl relay
      · rename_i after proceeds
        exact (unfolds_step proceeds).trans (inductionHypothesis after)

theorem Unfolds.settle (unfolds : relay.Unfolds after) : relay.Unfolds after.settle :=
  unfolds.trans (unfolds_run after.patience after)

theorem unfolds_passTime (target stops : Nat) (relay : Relay) :
    relay.Unfolds (passTime target stops relay) := by
  induction stops generalizing relay with
  | zero => exact .one relay (.clock target)
  | succ stops inductionHypothesis =>
      unfold passTime
      split
      · exact .one relay (.clock target)
      · split
        · exact .one relay (.clock target)
        · exact (Unfolds.settle (.one relay (.clock _))).trans (inductionHypothesis _)

theorem unfolds_deliver (relay : Relay) (source : Address) (port : Port) (datagram : Bytes) :
    relay.Unfolds (relay.deliver source port datagram) := by
  unfold deliver
  split
  · exact (Unfolds.one relay (.greet source datagram)).settle
  · split
    · exact .refl relay
    · exact ((Unfolds.one relay (.arrive source port datagram)).trans
        (unfolds_turn _ port)).settle

/-- The move hands in a message beside the datagrams of a session. -/
def Move.HandsIn : Move → Prop
  | .handIn _ _ _ _ => True
  | _ => False

/-- All that comes from clients and with time comes about beat by beat. -/
theorem unfolds_move {move : Move} (outside : ¬ move.HandsIn) :
    relay.Unfolds (relay.move move) := by
  cases move with
  | deliver source port datagram => exact relay.unfolds_deliver source port datagram
  | advance milliseconds => exact unfolds_passTime _ _ relay
  | handIn label user code body => exact absurd trivial outside
  | stop => exact (Unfolds.one relay .halt).settle
  | occupy port => exact .one relay (.occupy port)
  | vacate port => exact .one relay (.vacate port)
  | impair port => exact .one relay (.impair port)
  | repair port => exact .one relay (.repair port)
  | collect => exact .one relay .collect
  | greet client datagram => exact .one relay (.greet client datagram)
  | arrive source port datagram => exact .one relay (.arrive source port datagram)
  | receive port count => exact unfolds_receive port count relay
  | expire port => exact .one relay (.expire port)
  | showEvents port => exact .one relay (.display port)
  | tearDown port => exact .one relay (.tearDown port)
  | proceed =>
      rw [move]
      cases steps : relay.step? with
      | none => exact .refl relay
      | some after => exact unfolds_step steps
  | halt => exact .one relay .halt
  | wait milliseconds => exact .one relay (.clock _)

/-- A message that is handed in may be acted on, something is put on file, and then all
proceeds as far as it can. -/
theorem handIn_cases (relay : Relay) (label : Nat) (user : UserId) (code : UInt8)
    (body : Bytes) :
    (relay.handIn label user code body).1 = relay ∨
      ∃ (begun : Relay) (directs : List Direct) (reports : List Report),
        (begun = relay ∨ ∃ port request, begun = (relay.carryOut port request).1) ∧
          (relay.handIn label user code body).1 =
            ({ begun with directs := directs, reports := reports } : Relay).settle := by
  unfold handIn
  split
  · exact .inl rfl
  · split
    · exact .inl rfl
    · rename_i session there
      split
      · exact .inr ⟨relay, _, _, .inl rfl, rfl⟩
      · rename_i request decoded
        -- What has come of the request tells what is put on file.
        split
        · rename_i after result done
          have acted := (congrArg Prod.fst done).symm
          exact .inr ⟨after, _, _, .inr ⟨session.port, request, acted⟩, rfl⟩
        · rename_i after waits
          have acted := (congrArg Prod.fst waits).symm
          exact .inr ⟨after, _, _, .inr ⟨session.port, request, acted⟩, rfl⟩

/-- A relation between relays that holds across every beat, across acting on a request
that is handed in, and whatever is put on file. -/
structure Lasting (keeps : Relay → Relay → Prop) : Prop where
  refl : ∀ relay, keeps relay relay
  trans : ∀ {relay after last}, keeps relay after → keeps after last → keeps relay last
  beat : ∀ relay beat, keeps relay (relay.beat beat)
  carry : ∀ relay port request, keeps relay (relay.carryOut port request).1
  file : ∀ (relay : Relay) directs reports,
    keeps relay { relay with directs := directs, reports := reports }

namespace Lasting

variable {keeps : Relay → Relay → Prop} (lasting : Lasting keeps)
include lasting

theorem unfolds (unfolds : relay.Unfolds after) : keeps relay after := by
  obtain ⟨beats, rfl⟩ := unfolds
  induction beats generalizing relay with
  | nil => exact lasting.refl relay
  | cons beat rest inductionHypothesis =>
      exact lasting.trans (lasting.beat relay beat) inductionHypothesis

theorem handIn (relay : Relay) (label : Nat) (user : UserId) (code : UInt8) (body : Bytes) :
    keeps relay (relay.handIn label user code body).1 := by
  rcases relay.handIn_cases label user code body with
    same | ⟨begun, directs, reports, begins, settles⟩
  · rw [same]
    exact lasting.refl relay
  · have acted : keeps relay begun := by
      rcases begins with rfl | ⟨port, request, rfl⟩
      · exact lasting.refl begun
      · exact lasting.carry relay port request
    rw [settles]
    exact lasting.trans (lasting.trans acted (lasting.file begun directs reports))
      (lasting.unfolds (Unfolds.refl _).settle)

/-- Such a relation holds across every row of moves. -/
theorem course (relay : Relay) (moves : List Move) : keeps relay (relay.course moves) := by
  induction moves generalizing relay with
  | nil => exact lasting.refl relay
  | cons move rest inductionHypothesis =>
      refine lasting.trans ?_ (inductionHypothesis (relay.move move))
      by_cases outside : move.HandsIn
      · cases move with
        | handIn label user code body => exact lasting.handIn relay label user code body
        | _ => exact absurd outside id
      · exact lasting.unfolds (unfolds_move outside)

end Lasting

/-! ## Housing -/

theorem steady_release (relay : Relay) (finished : Finished) :
    relay.Steady (relay.release finished) := by
  unfold release
  split
  · exact relay.steady_file _ _
  · split
    · exact .refl relay
    · exact steady_dispatch _ _ relay

theorem steady_merge (relay : Relay) : relay.Steady relay.merge := by
  unfold merge
  split
  · exact .refl relay
  · rename_i lobby letters finished turns
    have merged : relay.Steady ({ relay with lobby := lobby }.post letters) :=
      (Steady.lobby (Lobby.thins_turn turns).shrinks).trans (.post _ _)
    simp only
    split
    · exact merged
    · exact merged.trans (steady_release _ _)

theorem goes_beat (relay : Relay) (beat : Beat) : relay.Goes (relay.beat beat) := by
  cases beat with
  | greet client datagram => exact relay.goes_greet client datagram
  | arrive source port datagram =>
      refine .steady (.modify ?_ relay port)
      exact fun _ => rfl
  | hear port => exact .steady (steady_receive port 1 relay)
  | expire port => exact .steady (relay.steady_expire port)
  | display port => exact .steady (relay.steady_showEvents port)
  | tearDown port => exact .tearDown relay port
  | merge => exact .steady relay.steady_merge
  | halt => exact .steady relay.steady_halt
  | clock now => exact .steady (relay.steady_wait now)
  | occupy port => exact .steady (relay.steady_occupy port)
  | vacate port => exact .steady fun _ => ⟨rfl, rfl, rfl, rfl, .refl _⟩
  | impair port => exact .steady fun _ => ⟨rfl, rfl, rfl, rfl, .refl _⟩
  | repair port => exact .steady fun _ => ⟨rfl, rfl, rfl, rfl, .refl _⟩
  | collect => exact .steady fun _ => ⟨rfl, rfl, rfl, rfl, .refl _⟩

/-- Whatever happens beat by beat, every port of the pool is free or has one
session. -/
theorem housed_play {settings : Settings} (housed : relay.Housed settings) (beats : List Beat) :
    (relay.play beats).Housed settings := by
  induction beats generalizing relay with
  | nil => exact housed
  | cons beat rest inductionHypothesis =>
      exact inductionHypothesis (housed.goes (relay.goes_beat beat))

end Netplay.Relay
