/-
Module: Netplay.Proofs.Senders
Purpose: Whom frames go to: the sender of the merge that the move works on, who has
  handed in input as a user of the game before.
Main exports:
  Room.Deed.sender?, Room.frames_perform, Game.Owes, Room.Turn.owes, Venue.Speaks,
  Venue.Spoke, Venue.owes_step, Venue.owes_run, Venue.speakers, Venue.frames_outcome
-/
import Netplay.Proofs.Earshot

namespace Netplay

/-! ## The frames of operations -/

namespace Room

variable {room after : Room} {deed : Deed}

/-- Whose merge the operation works on. -/
def Deed.sender? : Deed → Option UserId
  | .input _ _ user _ => some user
  | .retry _ parked => some parked.merge.user
  | _ => none

/-- Only operations that work on a merge have a sender. -/
theorem Deed.sender_of_not_isWork (idle : ¬ deed.IsWork) : deed.sender? = none := by
  cases deed with
  | input now ticket user data => exact absurd trivial idle
  | retry now parked => exact absurd trivial idle
  | _ => rfl

/-- What is told while shares are collected goes to the sender of the merge, and only
where input is merged. -/
theorem frames_collect (room : Room) (now : Nat) (merge : Merge) (remaining : Nat) :
    ∀ letter ∈ (room.collect now merge remaining).2.1,
      letter.recipient = merge.user ∧ room.game.synched = true := by
  induction remaining generalizing room merge with
  | zero =>
      unfold collect
      split
      · exact fun _ member => by cases member
      · rename_i merging
        intro letter member
        rw [List.mem_singleton.mp member]
        exact ⟨rfl, by simpa using merging⟩
  | succ remaining inductionHypothesis =>
      unfold collect
      split
      · exact fun _ member => by cases member
      · rename_i merging
        split
        · exact fun _ member => by cases member
        · split
          · exact fun letter member =>
              ⟨(inductionHypothesis _ _ letter member).1, by simpa using merging⟩
          · exact fun _ member => by cases member
          · exact fun _ member => by cases member

/-- So it is while a merge is retried, but for the notices of a time-out. -/
theorem frames_resume (room : Room) (now : Nat) (parked : ParkedMerge) :
    ∀ letter ∈ (room.resume now parked).2.1, letter.isFrame = true →
      letter.recipient = parked.merge.user ∧ room.game.synched = true := by
  have lapsed (timeout : ReadTimeout) :
      ∀ letter ∈ (room.noteTimeout timeout).2 ++
        ((room.noteTimeout timeout).1.collect now parked.merge.lapse
          parked.merge.lapse.remaining).2.1, letter.isFrame = true →
        letter.recipient = parked.merge.user ∧ room.game.synched = true := by
    intro letter member frame
    rcases List.mem_append.mp member with notice | collected
    · rw [(room.tells_noteTimeout timeout).frameless (by decide) letter notice] at frame
      cases frame
    · obtain ⟨recipient, merging⟩ := frames_collect _ _ _ _ letter collected
      exact ⟨recipient, (room.noteTimeout_dims timeout).1.synched merging⟩
  unfold resume
  simp only
  split
  · exact fun _ member => by cases member
  · rename_i queue place
    split
    · rename_i part later answered
      intro letter member _
      obtain ⟨recipient, merging⟩ := frames_collect _ _ _ _ letter member
      exact ⟨recipient, (Game.Works.setQueueAt place (.read answered)).synched merging⟩
    · exact lapsed _
    · split
      · exact lapsed _
      · exact fun _ member => by cases member

/-- Input that is complete at once comes back to its sender. -/
theorem frames_addData (room : Room) (now ticket : Nat) (id : UserId) (data : Bytes) :
    ∀ letter ∈ (room.addData now ticket id data).2.1,
      letter.recipient = id ∧ room.game.synched = true := by
  unfold addData
  simp only
  split
  · exact fun _ member => by cases member
  · rename_i merging
    split
    · exact fun _ member => by cases member
    · split
      · exact fun _ member => by cases member
      · split
        · exact fun _ member => by cases member
        · exact fun letter member =>
            ⟨(frames_collect _ _ _ _ letter member).1, by simpa using merging⟩

/-- Frames go to the sender of the merge that the operation works on, and only where
input is merged. -/
theorem frames_perform (room : Room) (deed : Deed) :
    ∀ letter ∈ (room.perform deed).2, letter.isFrame = true →
      deed.sender? = some letter.recipient ∧ room.game.synched = true := by
  intro letter member frame
  have frameless {kinds : List GameEvent.Kind} (tells : Tells kinds (room.perform deed).2)
      (none : .data ∉ kinds) :
      deed.sender? = some letter.recipient ∧ room.game.synched = true := by
    rw [tells.frameless none letter member] at frame
    cases frame
  cases deed with
  | join user => exact frameless (room.tells_join user) (by decide)
  | start user => exact frameless (room.tells_start user) (by decide)
  | ready user => exact frameless (room.tells_ready user) (by decide)
  | drop user => exact frameless (room.tells_drop user) (by decide)
  | quit user => exact frameless (room.tells_quit user) (by decide)
  | bar user target => exact frameless (room.tells_kick user target) (by decide)
  | close user => exact frameless (room.tells_close user) (by decide)
  | chat user message => exact frameless (room.tells_chat user message) (by decide)
  | gap user => exact frameless (room.tells_droppedPacket user) (by decide)
  | input now ticket user data =>
      obtain ⟨recipient, merging⟩ := frames_addData room now ticket user data letter member
      exact ⟨congrArg some recipient.symm, merging⟩
  | retry now parked =>
      obtain ⟨recipient, merging⟩ :=
        frames_resume (room.unpark parked.merge.ticket) now parked letter member frame
      exact ⟨congrArg some recipient.symm, merging⟩

end Room

/-! ## Merges in flight -/

namespace Game

/-- A merge of the user's input is in flight. -/
def Owes (game : Game) (user : UserId) : Prop :=
  ∃ parked ∈ game.inFlight, parked.merge.user = user

variable {game after : Game} {user : UserId}

/-- What is in flight later was so before. -/
theorem Owes.of_flight (owes : after.Owes user)
    (flight : ∀ parked ∈ after.inFlight, parked ∈ game.inFlight) : game.Owes user := by
  obtain ⟨parked, member, sender⟩ := owes
  exact ⟨parked, flight parked member, sender⟩

/-- Queues that go out of synchrony move merges about only. -/
theorem Owes.of_dims (dims : game.Dims after) (owes : after.Owes user) : game.Owes user :=
  owes.of_flight fun _ => dims.inFlight.mem_iff.mp

theorem inFlight_hear {slot : Nat} {data : Bytes} {parked : ParkedMerge}
    (member : parked ∈ (game.hear slot data).inFlight) : parked ∈ game.inFlight := by
  unfold hear at member
  split at member
  · exact ((game.write slot data).dims_wake game.round slot).inFlight.mem_iff.mp member
  · exact member

end Game

namespace Room

variable {room after : Room} {deed : Deed} {user : UserId}

/-- A chore leaves no merges in flight or in hand but such as were there before, or
whose input has been sent. -/
theorem Chore.owed {sent : UserId → Bytes → Prop} {people : Roster} {game later : Game}
    {hand last : Option Merge} {letters : List Letter}
    (chore : Chore sent people game hand letters later last) {owed : UserId → Prop}
    (said : ∀ user data, sent user data → owed user)
    (held : (∀ parked ∈ game.inFlight, owed parked.merge.user) ∧
      ∀ merge ∈ hand, owed merge.user) :
    (∀ parked ∈ later.inFlight, owed parked.merge.user) ∧ ∀ merge ∈ last, owed merge.user := by
  obtain ⟨flight, inHand⟩ := held
  have none : ∀ merge ∈ (none : Option Merge), owed merge.user := fun _ member => by cases member
  cases chore with
  | hear ticket isSent on seat =>
      refine ⟨fun parked member => flight parked (Game.inFlight_hear member), ?_⟩
      rintro _ ⟨⟩
      exact said _ _ isSent
  | take isFlying =>
      refine ⟨fun parked member => ?_, ?_⟩
      · unfold Game.unpark Game.inFlight at member
        rw [← List.filter_append] at member
        exact flight parked (List.mem_filter.mp member).1
      · rintro _ ⟨⟩
        exact flight _ isFlying
  | @read merge queue later part waited place answered =>
      refine ⟨fun parked member => ?_, ?_⟩
      · obtain ⟨queues, ended, frame, -⟩ := game.setQueueAt_frame merge.round merge.slot later
        rw [frame] at member
        exact flight parked member
      · rintro _ ⟨⟩
        exact inHand merge rfl
  | @lapse merge queue place =>
      refine ⟨fun parked member => flight parked ?_, ?_⟩
      · exact (noteTimeout_dims ⟨game, people⟩ _).1.inFlight.mem_iff.mp member
      · rintro _ ⟨⟩
        exact inHand merge rfl
  | @park merge deadline =>
      refine ⟨fun parked member => ?_, none⟩
      unfold Game.park Game.inFlight at member
      rcases List.mem_append.mp member with waits | woken
      · rcases List.mem_append.mp waits with old | new
        · exact flight parked (List.mem_append_left _ old)
        · rw [List.mem_singleton.mp new]
          exact inHand merge rfl
      · exact flight parked (List.mem_append_right _ woken)
  | finish on => exact ⟨flight, none⟩
  | fail => exact ⟨flight, none⟩

/-- No operation lets a merge come to be in flight but one of the input that it takes
in. -/
theorem Turn.owes (turn : room.Turn deed after) (owes : after.game.Owes user) :
    room.game.Owes user ∨ ∃ data, deed.Sends user data := by
  have same (flight : ∀ parked ∈ after.game.inFlight, parked ∈ room.game.inFlight) :
      room.game.Owes user ∨ ∃ data, deed.Sends user data := .inl (owes.of_flight flight)
  have bench (id : UserId) (slot : Nat) :
      ∀ parked ∈ (room.bench id slot).game.inFlight, parked ∈ room.game.inFlight := by
    intro parked member
    refine (room.game.dims_hush slot).inFlight.mem_iff.mp ?_
    unfold Room.bench at member
    split at member
    · exact member
    · rw [← Game.inFlight_endRound]
      exact member
  cases turn with
  | rest => exact same fun _ member => member
  | join new waiting space => exact same fun _ member => member
  | start waiting someone actions =>
      refine same fun parked member => ?_
      rw [← Game.inFlight_endRound]
      exact member
  | mark gathering => exact same fun _ member => member
  | play gathering all => exact same fun _ member => member
  | @drop id slot member seat => exact same (bench id slot)
  | @quit id member =>
      rcases room.left_cases id with goes | ⟨slot, -, goes⟩
      · refine same fun parked flight => ?_
        rw [goes] at flight
        exact flight
      · refine same fun parked flight => bench id slot parked ?_
        rw [goes] at flight
        exact flight
  | bar kicked => exact same fun _ member => member
  | @close id silent dims off =>
      refine same fun parked member => dims.inFlight.mem_iff.mp ?_
      rw [Game.inFlight_endRound] at member
      exact member
  | gap slot => exact .inl (owes.of_dims (room.game.dims_hush slot))
  | work isWork chores =>
      let owed (user : UserId) : Prop := room.game.Owes user ∨ ∃ data, deed.Sends user data
      obtain ⟨flight, -⟩ := chores.keeps
        (fun game hand => (∀ parked ∈ game.inFlight, owed parked.merge.user) ∧
          ∀ merge ∈ hand, owed merge.user)
        (fun chore => chore.owed fun user data isSent => .inr ⟨data, isSent⟩)
        ⟨fun parked member => .inl ⟨parked, member, rfl⟩, fun _ member => by cases member⟩
      obtain ⟨parked, member, rfl⟩ := owes
      exact flight parked member

end Room

/-! ## Strokes without frames -/

namespace Lobby

open Room (Deed)

variable {may : Deed → Prop} {founds : Prop} {lobby after : Lobby} {letters : List Letter}

theorem Aside.isFrame {letter : Letter} (aside : Aside letter) : letter.isFrame = false := by
  unfold Letter.isFrame
  split
  · rename_i game event about
    exact absurd about (aside game event)
  · rfl

/-- No frames go out where no work on merges is asked for. -/
theorem Stroke.frameless (stroke : Stroke may founds lobby letters after)
    (idle : ∀ deed, may deed → ¬ deed.IsWork) :
    ∀ letter ∈ letters, letter.isFrame = false := by
  cases stroke with
  | aside games closed told => exact fun letter member => (told letter member).isFrame
  | @perform game deed member asked fits =>
      intro letter among
      refine Bool.eq_false_iff.mpr fun frame => ?_
      obtain ⟨sender, -⟩ := Room.frames_perform _ deed letter among frame
      rw [Deed.sender_of_not_isWork (idle deed asked)] at sender
      cases sender
  | close live asked games closed => exact fun _ member => by cases member
  | found user name aim => exact fun _ member => by cases member

theorem Strokes.frameless (row : Strokes may founds lobby letters after)
    (idle : ∀ deed, may deed → ¬ deed.IsWork) :
    ∀ letter ∈ letters, letter.isFrame = false := by
  induction row with
  | done lobby => exact fun _ member => by cases member
  | more first _ inductionHypothesis =>
      exact fun letter member =>
        (List.mem_append.mp member).elim (first.frameless idle letter) (inductionHypothesis letter)

end Lobby

/-! ## Whose merges are in flight -/

namespace Venue

variable {settings : Settings} {venue : Venue} {number : GameId} {user : UserId}

/-- The move is that a registered user hands in input for the game that its entry
names. -/
def Speaks (venue : Venue) (move : Move) (number : GameId) (user : UserId) : Prop :=
  (∃ data, move = .input user data) ∧
    ∃ sender ∈ venue.lobby.people.present, sender.id = user ∧ sender.game = some number

/-- At some time during the moves the user has handed in input for the game. -/
def Spoke (venue : Venue) (number : GameId) (user : UserId) : List Move → Prop
  | [] => False
  | move :: rest => venue.Speaks move number user ∨ (venue.step move).Spoke number user rest

/-- No merge comes to be in flight but one of a user that hands in input. -/
theorem owes_step (venue : Venue) {move : Move} {later : Game}
    (after : later ∈ (venue.step move).lobby.allGames) (owes : later.Owes user) :
    (∃ game ∈ venue.lobby.allGames, game.id = later.id ∧ game.Owes user) ∨
      venue.Speaks move later.id user := by
  by_cases hands : ∃ speaker data, move = .input speaker data
  · obtain ⟨speaker, data, rfl⟩ := hands
    rw [step_lobby] at after
    rcases venue.input_cases speaker data with
      ⟨-, same⟩ | ⟨sender, registered, itself, game, member, names, entry, -, made⟩
    · rw [same] at after
      exact .inl ⟨later, after, rfl, owes⟩
    · rw [made] at after
      rcases Lobby.mem_allGames_withRoom after with rfl | still
      · have fits : Room.Deed.Fits (venue.lobby.room game)
            (.input venue.now venue.nextTicket speaker data) := entry
        have turn := Room.turn_perform fits
        rcases turn.owes owes with before | ⟨message, rfl, -⟩
        · exact .inl ⟨game, member, turn.number.symm, before⟩
        · exact .inr ⟨⟨data, rfl⟩, sender, registered, itself,
            names.trans (congrArg some turn.number.symm)⟩
      · exact .inl ⟨later, still, rfl, owes⟩
  · -- All other moves ask for operations that take in no input.
    obtain ⟨source, origin, number, led⟩ := venue.follows_step
      (fun game later => later.id = game.id ∧ ∀ user, later.Owes user → game.Owes user)
      (fun _ => ⟨rfl, fun _ owes => owes⟩)
      (fun one two => ⟨two.1.trans one.1, fun user owes => one.2 user (two.2 user owes)⟩)
      (fun room deed asked fits => by
        have turn := Room.turn_perform fits
        refine ⟨turn.number, fun user owes => ?_⟩
        rcases turn.owes owes with before | ⟨message, sends⟩
        · exact before
        · exact absurd ⟨user, message, sends_of_asks asked sends⟩ hands) later after
    rcases origin with old | ⟨-, new⟩
    · exact .inl ⟨source, old, number.symm, led user owes⟩
    · obtain ⟨id, name, owner, rules, rfl⟩ := new
      obtain ⟨parked, member, -⟩ := led user owes
      cases member

/-- So merges are in flight only of users that have handed in input for the game. -/
theorem owes_run (venue : Venue) (moves : List Move) {later : Game}
    (after : later ∈ (venue.run moves).lobby.allGames) (owes : later.Owes user) :
    (∃ game ∈ venue.lobby.allGames, game.id = later.id ∧ game.Owes user) ∨
      venue.Spoke later.id user moves := by
  induction moves generalizing venue with
  | nil => exact .inl ⟨later, after, rfl, owes⟩
  | cons move rest inductionHypothesis =>
      rcases inductionHypothesis (venue.step move) after with ⟨game, member, number, before⟩ | spoke
      · rcases venue.owes_step member before with ⟨first, old, same, owed⟩ | speaks
        · exact .inl ⟨first, old, same.trans number, owed⟩
        · exact .inr (.inl (number ▸ speaks))
      · exact .inr (.inr spoke)

/-- The users whose input the move works on in a game. -/
def speakers (venue : Venue) (game : Game) : Move → List UserId
  | .input user _ =>
      (venue.lobby.people.present.filter fun sender =>
        sender.id = user ∧ sender.game = some game.id).map (·.id)
  | .retry number ticket =>
      if number = game.id then
        (game.inFlight.filter (·.merge.ticket = ticket)).map (·.merge.user)
      else []
  | _ => []

/-- They hand in input, or have a merge in flight. -/
theorem speaks_or_owes {move : Move} {game : Game} (speaker : user ∈ venue.speakers game move) :
    venue.Speaks move game.id user ∨ game.Owes user := by
  cases move with
  | input sender data =>
      obtain ⟨entry, found, rfl⟩ := List.mem_map.mp speaker
      obtain ⟨registered, holds⟩ := List.mem_filter.mp found
      obtain ⟨rfl, names⟩ := of_decide_eq_true holds
      exact .inl ⟨⟨data, rfl⟩, entry, registered, rfl, names⟩
  | retry number ticket =>
      rw [speakers] at speaker
      split at speaker
      · obtain ⟨parked, flight, rfl⟩ := List.mem_map.mp speaker
        exact .inr ⟨parked, (List.mem_filter.mp flight).1, rfl⟩
      · cases speaker
  | _ => cases speaker

/-- Moves that work on merges. -/
def Move.Works : Move → Prop
  | .input _ _ => True
  | .retry _ _ => True
  | _ => False

/-- Only they ask for work on merges. -/
theorem works_of_asks {move : Move} {deed : Room.Deed} (asked : venue.Asks move deed)
    (isWork : deed.IsWork) : move.Works := by
  cases move with
  | input _ _ | retry _ _ => trivial
  | login _ | quit _ _ | leave _ =>
      obtain ⟨_, rfl | rfl⟩ := asked
      · exact isWork
      · exact isWork
  | kick _ _ =>
      obtain rfl | ⟨_, rfl | rfl⟩ := asked
      · exact isWork
      · exact isWork
      · exact isWork
  | connect _ _ | introduce _ _ _ _ | measure _ _ | chat _ _ | pass _ => cases asked
  | _ =>
      subst asked
      exact isWork

/-- They are single strokes. -/
theorem stroke_of_works {move : Move} (works : move.Works) :
    Lobby.Stroke (venue.Asks move) move.Creates venue.lobby (venue.outcome move).letters
      (venue.outcome move).state := by
  have silent {after : Step Lobby Unit} (nothing : after.letters = [] ∧ after.state = venue.lobby) :
      Lobby.Stroke (venue.Asks move) move.Creates venue.lobby after.letters after.state := by
    rw [nothing.1, nothing.2]
    exact .aside rfl rfl fun _ member => by cases member
  cases move with
  | input user data =>
      rcases venue.input_cases user data with
        nothing | ⟨_, -, -, game, member, -, entry, letters, state⟩
      · exact silent nothing
      · rw [letters, state]
        exact .perform member rfl entry
  | retry number ticket =>
      rcases venue.retry_cases number ticket with
        nothing | ⟨game, member, -, parked, flight, tagged, letters, state⟩
      · exact silent nothing
      · rw [letters, state]
        exact .perform member ⟨parked, tagged, rfl⟩ flight
  | _ => exact absurd works id

/-- A frame that goes out in a move is of a game that merges input, and goes to a user
whose input the move works on there. -/
theorem frames_outcome (venue : Venue) (move : Move) :
    ∀ letter ∈ (venue.outcome move).letters, letter.isFrame = true →
      ∃ game ∈ venue.lobby.allGames, letter.event.about? = some game.id ∧
        game.synched = true ∧ letter.recipient ∈ venue.speakers game move := by
  intro letter told frame
  have idle (none : ¬ move.Works) :
      ∃ game ∈ venue.lobby.allGames, letter.event.about? = some game.id ∧
        game.synched = true ∧ letter.recipient ∈ venue.speakers game move := by
    have silent := (venue.strokes_outcome move).frameless
      (fun deed asked isWork => none (works_of_asks asked isWork)) letter told
    rw [silent] at frame
    cases frame
  have performed (game : Game) (deed : Room.Deed) (fits : deed.Fits (venue.lobby.room game))
      (here : letter ∈ ((venue.lobby.room game).perform deed).2) :
      letter.event.about? = some game.id ∧ deed.sender? = some letter.recipient ∧
        game.synched = true :=
    ⟨Room.about_perform fits letter here, Room.frames_perform _ deed letter here frame⟩
  cases move with
  | input user data =>
      rcases venue.input_cases user data with
        ⟨silent, -⟩ | ⟨sender, registered, itself, game, member, names, entry, letters, -⟩
      · rw [silent] at told
        cases told
      · rw [letters] at told
        obtain ⟨about, recipient, merging⟩ :=
          performed game (.input venue.now venue.nextTicket user data) entry told
        refine ⟨game, member, about, merging, List.mem_map.mpr ⟨sender, ?_, ?_⟩⟩
        · exact List.mem_filter.mpr ⟨registered, decide_eq_true ⟨itself, names⟩⟩
        · exact itself.trans (Option.some.inj recipient)
  | retry number ticket =>
      rcases venue.retry_cases number ticket with
        ⟨silent, -⟩ | ⟨game, member, same, parked, flight, tagged, letters, -⟩
      · rw [silent] at told
        cases told
      · rw [letters] at told
        obtain ⟨about, recipient, merging⟩ := performed game (.retry venue.now parked) flight told
        refine ⟨game, member, about, merging, ?_⟩
        rw [speakers, if_pos same.symm]
        exact List.mem_map.mpr ⟨parked, List.mem_filter.mpr ⟨flight, decide_eq_true tagged⟩,
          Option.some.inj recipient⟩
  | _ => exact idle id

end Venue

end Netplay
