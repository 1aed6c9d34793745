/-
Module: Netplay.Proofs.Played
Purpose: What moves make of a round that is played, how rounds follow each other,
  and what therefore holds whenever one is played.
Main exports:
  Arena.Goes, Arena.goes_step, Arena.Proceeds, Arena.proceeds_step, Arena.round_run,
  Arena.Reached.few, Arena.Opens, Arena.Reached.while_playing
-/
import Netplay.Proofs.Accounts
import Netplay.Proofs.FrameAgreement
import Netplay.Proofs.Hall

namespace Netplay

namespace Arena

variable {arena after later : Arena}

/-- Retrying a merge is no call. -/
theorem calls_retry (arena : Arena) (ticket : Nat) : (arena.retry ticket).calls = arena.calls := by
  unfold retry
  split
  · rfl
  · split
    · rfl
    · rfl

/-! ## Moves while a round is played -/

/-- What a move makes of an arena whose round is played. -/
inductive Goes (arena after : Arena) : Prop where
  /-- No message is taken in. -/
  | works (balances : arena.Balances none after none) (calls : after.calls = arena.calls)
  /-- A message is refused, for it is too short or nothing is merged any more. -/
  | refused {user : UserId} {data : Bytes} (balances : arena.Balances none after none)
      (calls : after.calls = arena.calls ++ [arena.callOf user data])
      (cause : arena.game.synched = false ∨ data.length / arena.game.actionsPerMessage = 0)
  /-- A message is written to the queue of its sender, and its merge goes as far as it can. -/
  | sent {user : UserId} {data : Bytes} {slot : Nat} {queue : ActionQueue}
      (place : arena.game.queues[slot]? = some queue) (owner : queue.user = user)
      (number : (arena.room.people.person user).player.toNat = slot + 1)
      (idle : ∀ merge ∈ arena.carried none, merge.user ≠ user)
      (long : data.length / arena.game.actionsPerMessage ≠ 0)
      (balances : (arena.posted user data slot).Balances (some (arena.begun user data)) after none)
      (calls : after.calls = arena.calls ++ [arena.callOf user data])
  /-- The round is over. -/
  | ends (none : after.game.queues = [])

section Goes

variable {user : UserId} {data : Bytes} {slot : Nat}

theorem goes_input (sound : arena.Sound none) (playing : arena.game.status = .playing) :
    arena.Goes (arena.input user data) := by
  unfold Arena.input
  split
  · exact .works (.refl ..) rfl
  · rename_i free
    obtain ⟨isMember, notBusy⟩ := not_or.mp free
    have member : user ∈ arena.game.members := Decidable.not_not.mp isMember
    have idle := idle_of_not_busy notBusy
    have on := sound.queues_ne_nil playing member
    obtain ⟨slot, queue, seat, place, owner, number⟩ := sound.orderly.seated.slotFor? member on
    have refused : ∀ error, (arena.game.synched = false ∨
        data.length / arena.game.actionsPerMessage = 0) →
        arena.Goes ((arena.called user data).record arena.game.round user
          (arena.room, [], .finished (.error error))) := fun error cause =>
      .refused (.of_same rfl rfl rfl rfl id (.refl _)) rfl cause
    unfold Room.addData
    simp only
    split
    · rename_i off
      exact refused _ (.inl (by simpa using off))
    · rename_i merges
      rw [seat]
      simp only
      split
      · rename_i none
        exact refused _ (.inr (by rw [Arena.game, none]; exact Nat.div_zero _))
      · split
        · rename_i short
          exact refused _ (.inr short)
        · rename_i long
          have merges : arena.game.synched = true := by simpa using merges
          have sent := sound.send playing merges idle place owner number long
          refine .sent place owner number idle long ?_ rfl
          have any : arena.game.queues[slot]?.any (·.synched) = queue.synched := by
            rw [place]
            rfl
          rw [any]
          have noted : ∀ room, (arena.posted user data slot).Balances
              (some (arena.begun user data)) ((arena.called user data).become room.1) none →
              (arena.posted user data slot).Balances (some (arena.begun user data))
                ((arena.called user data).record arena.game.round user room) none :=
            fun _ balances => balances.trans (.of_same rfl rfl rfl rfl id (.refl _))
          apply noted
          cases flag : queue.synched with
          | true =>
              have woken :
                  (arena.posted user data slot).Balances (some (arena.begun user data)) _ _ :=
                .of_dims (Game.dims_wake (arena.game.write slot data) arena.game.round slot) _
              exact woken.trans (balances_collect (sent.dims (Game.dims_wake ..)) rfl)
          | false =>
              rw [posted, write_silent place flag] at sent ⊢
              exact balances_collect sent rfl

/-- Members come and go, and users change, without a trace in the round. -/
theorem Goes.table {room : Room} (goes : arena.Goes (arena.become room))
    (members kicked : List UserId) (people : Roster) :
    arena.Goes
      (arena.become ⟨{ room.game with members := members, kicked := kicked }, people⟩) := by
  have seated : (arena.become room).Balances none
      (arena.become ⟨{ room.game with members := members, kicked := kicked }, people⟩) none :=
    .of_same rfl rfl rfl rfl id (.refl _)
  cases goes with
  | works balances calls => exact .works (balances.trans seated) calls
  | refused balances calls cause => exact .refused (balances.trans seated) calls cause
  | sent place owner number idle long balances calls =>
      exact .sent place owner number idle long (balances.trans seated) calls
  | ends none => exact .ends none

theorem goes_dims {game : Game} (dims : arena.game.Dims game) :
    arena.Goes (arena.become { arena.room with game := game }) :=
  .works (.of_dims dims none) rfl

/-- A player that goes out of the round goes out of synchrony, or ends the round. -/
theorem goes_bench (arena : Arena) (id : UserId) (slot : Nat) :
    arena.Goes (arena.become (arena.room.bench id slot)) := by
  unfold Room.bench
  split
  · exact (goes_dims (arena.game.dims_hush slot)).table _ _ _
  · exact .ends (Game.queues_endRound _)

/-- What moves of users other than messages make of a round that is played. -/
theorem goes_does (playing : arena.game.status = .playing) {move : Move} {room : Room}
    (does : arena.room.Does move room) : arena.Goes (arena.become room) := by
  have apart : ∀ {status : GameStatus}, arena.room.game.status = status → status = .playing :=
    fun same => same.symm.trans playing
  cases does with
  | rest => exact .works (.refl ..) rfl
  | join new waiting space known => cases apart waiting
  | start waiting someone => cases apart waiting
  | allReady member gathering seat all => cases apart gathering
  | ready member gathering seat missing => cases apart gathering
  | drop member seat => exact goes_bench ..
  | @quit id member =>
      rcases arena.room.left_cases id with stays | ⟨slot, -, leaves⟩
      · rw [stays]
        exact (goes_dims (.refl _)).table _ _ _
      · rw [leaves]
        exact (goes_bench arena id slot).table _ _ _
  | kick kicked => exact (goes_dims (.refl _)).table _ _ _
  | close dims mute off => exact .ends (Game.queues_endRound _)
  | gap slot => exact goes_dims (arena.game.dims_hush slot)

end Goes

/-- Other than messages, retries and the clock, moves are those of users. -/
theorem does_step (arena : Arena) (move : Move) :
    (∃ user data, move = .input user data) ∨ (∃ ticket, move = .retry ticket) ∨
      (∃ milliseconds, move = .pass milliseconds) ∨
      arena.step move = arena.become (arena.room.act move) := by
  cases move with
  | input user data => exact .inl ⟨user, data, rfl⟩
  | retry ticket => exact .inr (.inl ⟨ticket, rfl⟩)
  | pass milliseconds => exact .inr (.inr (.inl ⟨milliseconds, rfl⟩))
  | join user =>
      refine .inr (.inr (.inr ?_))
      rw [step, Room.act]
      split
      · rfl
      · rfl
  | _ => exact .inr (.inr (.inr rfl))

/-- What every move makes of a round that is played. -/
theorem goes_step (sound : arena.Sound none) (playing : arena.game.status = .playing)
    (move : Move) : arena.Goes (arena.step move) := by
  rcases arena.does_step move with
    ⟨user, data, rfl⟩ | ⟨ticket, rfl⟩ | ⟨milliseconds, rfl⟩ | acts
  · exact goes_input sound playing
  · exact .works (balances_retry sound ticket) (calls_retry arena ticket)
  · exact .works (.of_same rfl rfl rfl rfl id (.refl _)) rfl
  · rw [acts]
    exact goes_does playing (arena.room.does_act move)

/-! ## Rounds begin and end -/

/-- The round after a move: the same one, the same one when it is over, or the next one. -/
inductive Proceeds (arena after : Arena) : Prop where
  | same (round : after.game.round = arena.game.round)
      (length : after.game.queues.length = arena.game.queues.length)
  | ends (round : after.game.round = arena.game.round) (none : after.game.queues = [])
  | next (round : after.game.round = arena.game.round + 1)
      (length : after.game.queues.length = arena.game.members.length)

namespace Proceeds

theorem of_works (works : arena.room.Works after.room) : arena.Proceeds after := by
  have length := works.game.queues.length
  obtain ⟨_, _, _, _, _, frame⟩ := works.game.frame
  exact .same (congrArg (·.round) frame) length

theorem of_dims {game : Game} (dims : arena.game.Dims game) (people : Roster) :
    arena.Proceeds (arena.become ⟨game, people⟩) :=
  .same dims.round dims.queues.1

theorem of_bench (arena : Arena) (id : UserId) (slot : Nat) :
    arena.Proceeds (arena.become (arena.room.bench id slot)) := by
  have dims := arena.game.dims_hush slot
  unfold Room.bench
  split
  · exact .of_dims dims _
  · exact .ends ((Game.round_endRound _).trans dims.round) (Game.queues_endRound _)

theorem of_does {move : Move} {room : Room} (does : arena.room.Does move room) :
    arena.Proceeds (arena.become room) := by
  cases does with
  | rest | join | kick => exact .same rfl rfl
  | start waiting someone =>
      refine .next (congrArg (· + 1) (Game.round_endRound _)) ?_
      exact (Game.length_startQueues _).trans (congrArg List.length (Game.Keeps.endRound _).members)
  | allReady | ready => exact .same rfl (List.length_modify ..)
  | drop member seat => exact .of_bench ..
  | @quit id member =>
      rcases arena.room.left_cases id with stays | ⟨slot, -, leaves⟩
      · rw [stays]
        exact .same rfl rfl
      · rw [leaves]
        cases of_bench arena id slot with
        | same round length => exact .same round length
        | ends round none => exact .ends round none
        | next round length => exact .next round length
  | close dims mute off =>
      exact .ends ((Game.round_endRound _).trans dims.round) (Game.queues_endRound _)
  | gap slot => exact .of_dims (arena.game.dims_hush slot) _

end Proceeds

theorem works_input (arena : Arena) (user : UserId) (data : Bytes) :
    arena.room.Works (arena.input user data).room := by
  unfold input
  split
  · exact .refl _
  · split
    · exact Room.works_addData ..
    · exact Room.works_addData ..

theorem works_retry (arena : Arena) (ticket : Nat) :
    arena.room.Works (arena.retry ticket).room := by
  unfold retry
  split
  · exact .refl _
  · split
    · exact Room.works_retry ..
    · exact .refl _

theorem proceeds_step (arena : Arena) (move : Move) : arena.Proceeds (arena.step move) := by
  rcases arena.does_step move with
    ⟨user, data, rfl⟩ | ⟨ticket, rfl⟩ | ⟨milliseconds, rfl⟩ | acts
  · exact .of_works (works_input ..)
  · exact .of_works (works_retry ..)
  · exact .same rfl rfl
  · rw [acts]
    exact .of_does (arena.room.does_act move)

/-- Rounds are counted upwards, and one that is over does not come back. -/
theorem round_run (arena : Arena) (moves : List Move) :
    arena.game.round ≤ (arena.run moves).game.round ∧
      (arena.game.queues = [] → (arena.run moves).game.queues = [] ∨
        arena.game.round < (arena.run moves).game.round) := by
  induction moves generalizing arena with
  | nil => exact ⟨Nat.le_refl _, .inl⟩
  | cons move rest inductionHypothesis =>
      obtain ⟨upwards, ended⟩ := inductionHypothesis (arena.step move)
      change arena.game.round ≤ ((arena.step move).run rest).game.round ∧
        (_ → ((arena.step move).run rest).game.queues = [] ∨
          arena.game.round < ((arena.step move).run rest).game.round)
      cases arena.proceeds_step move with
      | same round length =>
          rw [round] at upwards ended
          refine ⟨upwards, fun none => ended (List.eq_nil_of_length_eq_zero ?_)⟩
          exact length.trans (congrArg List.length none)
      | ends round none =>
          rw [round] at upwards ended
          exact ⟨upwards, fun _ => ended none⟩
      | next round length =>
          rw [round] at upwards
          exact ⟨Nat.le_of_succ_le upwards, fun _ => .inr upwards⟩

/-- What holds of new games, and what every move keeps, holds of every arena reached. -/
theorem Reached.always {holds : Arena → Prop}
    (new : ∀ id name owner settings people, holds (fresh id name owner settings people))
    (step : ∀ arena move, arena.Sound none → holds arena → holds (arena.step move))
    (reached : arena.Reached) : holds arena := by
  obtain ⟨id, name, owner, settings, people, moves, rfl⟩ := reached
  have run : ∀ (moves : List Move) (arena : Arena), arena.Sound none → holds arena →
      holds (arena.run moves) := by
    intro moves
    induction moves with
    | nil => exact fun _ _ before => before
    | cons move rest inductionHypothesis =>
        exact fun arena sound before =>
          inductionHypothesis _ (sound.step move) (step arena move sound before)
  exact run moves _ (sound_fresh ..) (new ..)

/-- A round has no more queues than there are numbers for players. -/
theorem Reached.few (reached : arena.Reached) : arena.game.queues.length ≤ 255 := by
  let holds (arena : Arena) : Prop := arena.game.queues.length ≤ 255
  have new : ∀ id name owner settings people, holds (fresh id name owner settings people) :=
    fun _ _ _ _ _ => Nat.zero_le _
  refine reached.always new fun arena move sound few => ?_
  change (arena.step move).game.queues.length ≤ 255
  cases arena.proceeds_step move with
  | same round length => exact length ▸ few
  | ends round none => exact none ▸ Nat.zero_le _
  | next round length =>
      rw [length]
      exact Nat.le_trans sound.orderly.seated.few (Nat.le_of_lt_succ (UInt8.toNat_lt _))

/-- Nothing has happened yet in the round, and its queues are empty. -/
structure Opens (arena : Arena) : Prop where
  empty : ∀ queue ∈ arena.game.queues, queue.IsEmpty
  untouched : arena.Untouched none

/-- Play begins when nothing has happened yet in the round. -/
theorem opens_step (sound : arena.Sound none) (idle : arena.game.status ≠ .playing) {move : Move}
    (playing : (arena.step move).game.status = .playing) : (arena.step move).Opens := by
  have works : arena.room.Works (arena.step move).room → (arena.step move).Opens := by
    intro works
    obtain ⟨_, _, _, _, _, frame⟩ := works.game.frame
    rw [Arena.game, frame] at playing
    exact absurd playing idle
  rcases arena.does_step move with
    ⟨user, data, rfl⟩ | ⟨ticket, rfl⟩ | ⟨milliseconds, rfl⟩ | acts
  · exact works (works_input ..)
  · exact works (works_retry ..)
  · exact absurd playing idle
  · have bench : ∀ id slot, (arena.room.bench id slot).game.status ≠ .playing := by
      intro id slot
      unfold Room.bench
      split
      · exact fun playing => idle ((arena.game.dims_hush slot).status.symm.trans playing)
      · exact fun playing => by cases playing
    have does := arena.room.does_act move
    rw [acts] at playing ⊢
    generalize arena.room.act move = room at does playing
    cases does with
    | rest | join | kick | ready => exact absurd playing idle
    | start waiting someone => cases playing
    | @allReady id slot member gathering seat all =>
        exact ⟨isEmpty_modify (sound.orderly.gathering gathering).2 slot,
          (sound.ledger.untouched gathering).calls, (sound.ledger.untouched gathering).turns,
          (sound.ledger.untouched gathering).tags⟩
    | drop member seat => exact absurd playing (bench _ _)
    | @quit id member =>
        rcases arena.room.left_cases id with stays | ⟨slot, -, leaves⟩
        · rw [stays] at playing
          exact absurd playing idle
        · rw [leaves] at playing
          exact absurd playing (bench id slot)
    | @close silent dims mute off =>
        have status := Game.status_endRound { silent with members := [] }
        exact absurd (dims.status.symm.trans (status.symm.trans playing)) idle
    | gap slot => exact absurd ((arena.game.dims_hush slot).status.symm.trans playing) idle

/-- What holds when play begins, and what moves keep while a round is played, holds
whenever one is played. -/
theorem Reached.while_playing {holds : Arena → Prop}
    (opens : ∀ arena : Arena, arena.Sound none → arena.Opens → holds arena)
    (goes : ∀ arena after : Arena, arena.Sound none → arena.game.status = .playing →
      holds arena → arena.Goes after → holds after)
    (reached : arena.Reached) (playing : arena.game.status = .playing) : holds arena := by
  let whilePlaying (arena : Arena) : Prop := arena.game.status = .playing → holds arena
  have new : ∀ id name owner settings people,
      whilePlaying (fresh id name owner settings people) :=
    fun _ _ _ _ _ playing => by cases playing
  refine reached.always new (fun arena move sound before playing => ?_) playing
  by_cases was : arena.game.status = .playing
  · exact goes arena _ sound was (before was) (goes_step sound was move)
  · exact opens _ (sound.step move) (opens_step sound was playing)

end Arena

end Netplay
