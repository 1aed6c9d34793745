/-
Module: Netplay.Proofs.Responses
Purpose: What comes of a message: of which type its request is, whether the client is
  answered at once, which errors there are, and whether anybody is told that somebody
  leaves.
Main exports:
  Request.command, Request.isAnswered, Request.code_of_decode?,
  Session.quiet_perform, Session.Rebuffed, Session.error_cases,
  Session.homely_perform, Session.isDeparting, Session.packets_renderEvents
-/
import Netplay.Proofs.Leases
import Netplay.Proofs.Observers

namespace Netplay

/-! ## Message types -/

namespace Request

/-- The message type of a request. -/
def command : Request → Command
  | .login _ _ _ => .userLogin
  | .acknowledge => .clientAck
  | .chat _ => .globalChat
  | .gameChat _ => .gameChat
  | .keepAlive => .keepAlive
  | .createGame _ => .createGame
  | .joinGame _ => .joinGame
  | .quitGame => .quitGame
  | .quit _ => .userQuit
  | .startGame => .startGame
  | .ready => .readyToPlay
  | .kick _ => .kickUser
  | .input _ => .gameData
  | .cachedInput _ => .gameCache
  | .dropGame => .dropGame

/-- Whether the client may be sent something at once, and not through an event. -/
def isAnswered : Request → Bool
  | .login _ _ _ => true
  | .acknowledge => true
  | .createGame _ => true
  | .joinGame _ => true
  | .startGame => true
  | _ => false

/-- Whatever is read is a request of this message type. -/
def Yields (kind : Command) (read : Except FormatError Request) : Prop :=
  ∀ request, read = .ok request → request.command = kind

namespace Yields

variable {kind : Command} {α : Type}

theorem ok {request : Request} (same : request.command = kind) : Yields kind (.ok request) := by
  rintro _ ⟨⟩
  exact same

/-- A field is read before the rest. -/
theorem bind {field : Except FormatError (α × Bytes)}
    {read : α × Bytes → Except FormatError Request}
    (yields : ∀ value rest, Yields kind (read (value, rest))) : Yields kind (field >>= read) := by
  cases field with
  | error error => exact fun _ failed => by cases failed
  | ok found => exact yields found.1 found.2

/-- All fields are read, and a request is made of them. -/
theorem map {field : Except FormatError α} {make : α → Request}
    (same : ∀ value, (make value).command = kind) : Yields kind (field.map make) := by
  cases field with
  | error error => exact fun _ failed => by cases failed
  | ok value => exact .ok (same value)

end Yields

theorem yields_ofCommand? {kind : Command} {body : Bytes} {read : Except FormatError Request}
    (reads : ofCommand? kind body = some read) : Yields kind read := by
  cases kind with
  | clientAck | keepAlive | readyToPlay | dropGame =>
      cases reads
      exact .ok rfl
  | globalChat | gameChat =>
      cases reads
      exact .map fun _ => rfl
  | quitGame | startGame =>
      cases reads
      exact .bind fun _ _ => .ok rfl
  | joinGame | kickUser | gameCache =>
      cases reads
      exact .bind fun _ _ => .bind fun _ _ => .ok rfl
  | userLogin | userQuit | gameData =>
      cases reads
      exact .bind fun _ _ => .bind fun _ _ => .bind fun _ _ => .ok rfl
  | createGame =>
      cases reads
      exact .bind fun _ _ => .bind fun _ _ => .bind fun _ _ => .bind fun _ _ => .ok rfl
  | _ => cases reads

/-- A message is read as a request of its own type. -/
theorem code_of_decode? {code : UInt8} {body : Bytes} {request : Request}
    (decoded : decode? code body = some (.ok request)) : request.command.code = code := by
  obtain ⟨kind, known, reads⟩ := Option.bind_eq_some_iff.mp decoded
  rw [yields_ofCommand? reads request rfl]
  simpa using List.find?_some known

end Request

namespace Session

variable {session : Session} {lobby : Lobby} {now ticket : Nat} {request : Request}

/-- Most requests are never answered at once. -/
theorem quiet_perform (session : Session) (lobby : Lobby) (now ticket : Nat)
    (silent : request.isAnswered = false) :
    (session.perform lobby now ticket request).packets = [] := by
  cases request with
  | login | acknowledge | createGame | joinGame | startGame => cases silent
  | gameChat message =>
      rw [perform]
      split
      · rfl
      · rfl
  | cachedInput slot =>
      rw [perform]
      split
      · rfl
      · rfl
  | _ => rfl

/-! ## Errors -/

/-- One answer too many in the speed test: the user is not logged in, there have been
more answers than the speed test takes, and the login with the ping measured is
refused. -/
structure Rebuffed (session : Session) (lobby : Lobby) (now : Nat) (refusal : Refusal) :
    Prop where
  out : (lobby.people.person session.user).loggedIn = false
  answers : speedTestAnswers < (session.speed.measure now).count
  refused :
    (Lobby.login
      { lobby with
        people := lobby.people.update session.user fun user =>
          { user with
            ping := UInt32.ofNat (min (session.speed.measure now).bestMillis 0xFFFFFFFF) } }
      session.user).result = .error refusal

/-- The errors of a request: it is refused, it names an empty slot and changes nothing,
or it was to complete a login. -/
def Errs (session : Session) (lobby : Lobby) (now : Nat) (request : Request)
    (done : Performed) (error : ActionError) : Prop :=
  (∃ refusal, error = .refused refusal) ∨
    (∃ slot, request = .cachedInput slot ∧ session.clientCache.get slot = none ∧
        error = .format (.invalidField "cache_position" slot.toNat) ∧
        done = .failed lobby session error) ∨
      ∃ refusal, error = .loginRejected refusal ∧ request = .acknowledge ∧
        session.Rebuffed lobby now refusal

theorem refused_ofStep {α : Type} {step : Step Lobby α} {error : ActionError}
    (failed : (Performed.ofStep session step).outcome = .finished (.error error)) :
    ∃ refusal, error = .refused refusal := by
  unfold Performed.ofStep at failed
  simp only at failed
  split at failed
  · cases failed
  · cases failed
    exact ⟨_, rfl⟩

/-- A refusal that is told counts as done. -/
theorem outcome_tellingRefusal {α : Type} {step : Step Lobby α}
    {tell : Refusal → Performed → Performed}
    (tells : ∀ refusal done, (tell refusal done).outcome = done.outcome) :
    (Performed.tellingRefusal session step tell).outcome = .finished (.ok ()) :=
  Performed.tellingRefusal_induction (motive := fun done => done.outcome = .finished (.ok ()))
    rfl fun _ => tells _ _

theorem refused_addInput {data : Bytes} {error : ActionError}
    (failed : (session.addInput lobby now ticket data).outcome = .finished (.error error)) :
    ∃ refusal, error = .refused refusal := by
  unfold addInput at failed
  simp only at failed
  split at failed
  · cases failed
  · cases failed
  · cases failed
    exact ⟨_, rfl⟩

theorem rebuffed_acknowledge {error : ActionError}
    (failed : (session.acknowledge lobby now).outcome = .finished (.error error)) :
    ∃ refusal, error = .loginRejected refusal ∧ session.Rebuffed lobby now refusal := by
  unfold acknowledge at failed
  split at failed
  · cases failed
  · rename_i out
    simp only at failed
    split at failed
    · cases failed
    · rename_i more
      unfold finishLogin at failed
      simp only at failed
      split at failed
      · rename_i done
        unfold Performed.ofStep at failed
        rw [done] at failed
        cases failed
      · rename_i refusal refused
        cases failed
        exact ⟨refusal, rfl, Bool.eq_false_iff.mpr out, Nat.lt_of_not_le more, refused⟩

theorem error_cases {error : ActionError}
    (failed : (session.perform lobby now ticket request).outcome = .finished (.error error)) :
    session.Errs lobby now request (session.perform lobby now ticket request) error := by
  cases request with
  | login name emulator connectionType =>
      rw [perform, introduce] at failed
      split at failed
      · cases failed
        exact .inl ⟨_, rfl⟩
      · cases failed
  | acknowledge =>
      obtain ⟨refusal, rejected, rebuffed⟩ := rebuffed_acknowledge failed
      exact .inr (.inr ⟨refusal, rejected, rfl, rebuffed⟩)
  | gameChat message =>
      rw [perform] at failed
      split at failed
      · cases failed
      · exact .inl (refused_ofStep failed)
  | keepAlive => cases failed
  | createGame | joinGame | startGame =>
      rw [perform, outcome_tellingRefusal] at failed
      · cases failed
      · exact fun _ _ => rfl
  | input data => exact .inl (refused_addInput failed)
  | cachedInput slot =>
      cases held : session.clientCache.get slot with
      | some data =>
          simp only [perform, held] at failed
          exact .inl (refused_addInput failed)
      | none =>
          simp only [perform, held] at failed ⊢
          cases failed
          exact .inr (.inl ⟨slot, rfl, held, rfl, rfl⟩)
  | _ => exact .inl (refused_ofStep failed)

end Session

/-! ## Departures -/

namespace Lobby

variable {lobby : Lobby}

theorem homely_refuse {α : Type} (lobby : Lobby) (refusal : Refusal) :
    Homely (Step.refuse (α := α) lobby refusal).letters := .nil

theorem homely_chat (lobby : Lobby) (id : UserId) (message : String) :
    Homely (lobby.chat id message).letters := by
  unfold chat
  split
  · exact lobby.homely_refuse _
  · split
    · exact lobby.homely_refuse _
    · exact .toAll (by simp [ServerEvent.kind])

theorem homely_createGame (lobby : Lobby) (id : UserId) (name : String) :
    Homely (lobby.createGame id name).letters := by
  unfold createGame
  split
  · exact lobby.homely_refuse _
  · split
    · exact lobby.homely_refuse _
    · split
      · exact lobby.homely_refuse _
      · exact .append (.toAll (by simp [ServerEvent.kind]))
          (homely_playAndTell (Room.tells_join _ id) _ _)

theorem homely_joinGame (lobby : Lobby) (id : UserId) (target : GameId) :
    Homely (lobby.joinGame id target).letters := by
  unfold joinGame
  split
  · exact lobby.homely_refuse _
  · split
    · exact lobby.homely_refuse _
    · split
      · exact lobby.homely_refuse _
      · exact homely_playAndTell (Room.tells_join _ id) lobby _

theorem homely_quitGame (lobby : Lobby) (id : UserId) : Homely (lobby.quitGame id).letters := by
  unfold quitGame
  split
  · exact lobby.homely_refuse _
  · exact lobby.homely_leave _

theorem homely_startGame (lobby : Lobby) (id : UserId) :
    Homely (lobby.startGame id).letters := by
  unfold startGame
  split
  · exact lobby.homely_refuse _
  · exact homely_playAndTell (Room.tells_start _ id) lobby _

theorem homely_ready (lobby : Lobby) (id : UserId) : Homely (lobby.ready id).letters := by
  unfold ready
  split
  · exact lobby.homely_refuse _
  · exact homely_playAndTell (Room.tells_ready _ id) lobby _

theorem homely_dropGame (lobby : Lobby) (id : UserId) : Homely (lobby.dropGame id).letters := by
  unfold dropGame
  split
  · exact lobby.homely_refuse _
  · exact homely_playAndTell (Room.tells_drop _ id) lobby _

theorem homely_kick (lobby : Lobby) (id target : UserId) :
    Homely (lobby.kick id target).letters := by
  unfold kick
  split
  · exact lobby.homely_refuse _
  · simp only
    split
    · exact .of_tells (Room.tells_kick _ id target)
    · refine .append (fun letter member event announced => ?_) (homely_leave _ _)
      rw [List.mem_singleton.mp member] at announced
      cases announced

theorem homely_gameChat (lobby : Lobby) (id : UserId) (message : String) :
    Homely (lobby.gameChat id message).letters := by
  unfold gameChat
  split
  · exact lobby.homely_refuse _
  · exact .of_tells (Room.tells_chat _ id message)

theorem homely_addGameData (lobby : Lobby) (now ticket : Nat) (id : UserId) (data : Bytes) :
    Homely (lobby.addGameData now ticket id data).2.1 := by
  unfold addGameData
  split
  · exact .nil
  · exact .of_tells (Room.tells_addData _ id now ticket data)

theorem homely_droppedPacket (lobby : Lobby) (id : UserId) :
    Homely (lobby.droppedPacket id).2 := by
  unfold droppedPacket
  split
  · exact .nil
  · split
    · exact .nil
    · exact .of_tells (Room.tells_droppedPacket _ id)

end Lobby

namespace Session

variable {session : Session} {lobby : Lobby} {now ticket : Nat} {request : Request}

/-- What is sent at once is not told. -/
theorem letters_tellingRefusal {α : Type} {step : Step Lobby α}
    {tell : Refusal → Performed → Performed}
    (tells : ∀ refusal done, (tell refusal done).letters = done.letters) :
    (Performed.tellingRefusal session step tell).letters = step.letters :=
  Performed.tellingRefusal_induction (motive := fun done => done.letters = step.letters) rfl
    fun _ => tells _ _

/-- Only logging in and quitting make somebody leave. -/
theorem homely_perform (session : Session) (lobby : Lobby) (now ticket : Nat)
    (stays : request.command ≠ .clientAck) (remains : request.command ≠ .userQuit) :
    Homely (session.perform lobby now ticket request).letters := by
  cases request with
  | login name emulator connectionType =>
      rw [perform, introduce]
      split
      · exact .nil
      · exact .nil
  | acknowledge => exact absurd rfl stays
  | chat message => exact lobby.homely_chat session.user message
  | gameChat message =>
      rw [perform]
      split
      · exact .nil
      · exact lobby.homely_gameChat session.user message
  | keepAlive => exact .nil
  | createGame name =>
      rw [perform, letters_tellingRefusal]
      · exact lobby.homely_createGame session.user name
      · exact fun _ _ => rfl
  | joinGame game =>
      rw [perform, letters_tellingRefusal]
      · exact lobby.homely_joinGame session.user game
      · exact fun _ _ => rfl
  | quitGame => exact lobby.homely_quitGame session.user
  | quit message => exact absurd rfl remains
  | startGame =>
      rw [perform, letters_tellingRefusal]
      · exact lobby.homely_startGame session.user
      · exact fun _ _ => rfl
  | ready => exact lobby.homely_ready session.user
  | kick target => exact lobby.homely_kick session.user target
  | input data => exact lobby.homely_addGameData now ticket session.user data
  | cachedInput slot =>
      rw [perform]
      split
      · exact lobby.homely_addGameData now ticket session.user _
      · exact .nil
  | dropGame => exact lobby.homely_dropGame session.user

end Session

/-! ## Events -/

/-- No letter of these tells that somebody leaves. -/
theorem Homely.isDeparture {letters : List Letter} (homely : Homely letters) (id : UserId)
    {letter : Letter} (member : letter ∈ letters) : letter.event.isDeparture id = false := by
  cases told : letter.event with
  | server event =>
      cases event with
      | userQuit user message => exact absurd rfl (homely letter member _ told).2
      | _ => rfl
  | _ => rfl

namespace Session

variable {session : Session} {lobby : Lobby} {now : Nat}

/-- The departure of its own user is among the events that a session has not shown. -/
def isDeparting (session : Session) : Bool := session.events.any (·.isDeparture session.user)

/-- A stopped session shows nothing. -/
theorem renderEvents_stopped (stopped : session.stopped = true) (events : List Event) :
    session.renderEvents lobby now events = ({ session with events := events }, []) := by
  cases events with
  | nil => rfl
  | cons event rest => rw [renderEvents, if_pos stopped]

/-- Whatever stands behind an event that stops the session is not shown. -/
theorem packets_renderEvents {first : List Event}
    (stops : (session.renderEvents lobby now first).1.stopped = true) (later : List Event) :
    (session.renderEvents lobby now (first ++ later)).2 =
      (session.renderEvents lobby now first).2 := by
  induction first generalizing session with
  | nil =>
      have stopped : session.stopped = true := stops
      rw [List.nil_append, renderEvents_stopped stopped]
      rfl
  | cons event rest inductionHypothesis =>
      rw [List.cons_append, renderEvents]
      rw [renderEvents] at stops ⊢
      split
      · rfl
      · rename_i running
        rw [if_neg running] at stops
        simp only
        rw [inductionHypothesis stops]

end Session

end Netplay
