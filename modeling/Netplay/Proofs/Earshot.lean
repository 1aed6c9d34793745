/-
Module: Netplay.Proofs.Earshot
Purpose: What users are told of a game while they are in it, and that every operation
  tells nobody else, but for the frames of merges.
Main exports:
  Letter.Concerns, Letter.Welcomes, Letter.Dismisses, Earshot, Earshot.quiet,
  Game.Confides, Room.confides_perform, Room.earshot_perform, Room.about_perform
-/
import Netplay.Proofs.Deeds
import Netplay.Proofs.Notices

namespace Netplay

/-! ## Letters about a game -/

/-- The game that an event is about. -/
def Event.about? : Event → Option GameId
  | .game number _ => some number
  | _ => none

/-- The game and the user of which the event tells that it has joined. -/
def Event.joins? : Event → Option (GameId × UserId)
  | .game number (.userJoined newcomer _) => some (number, newcomer.id)
  | _ => none

/-- The game and the user of which the event tells that it has left. -/
def Event.quits? : Event → Option (GameId × UserId)
  | .game number (.userQuit member) => some (number, member.id)
  | _ => none

namespace Letter

variable {letter : Letter} {number : GameId} {user : UserId}

/-- The letter tells a user of something in a game. -/
def Concerns (letter : Letter) (number : GameId) (user : UserId) : Prop :=
  letter.recipient = user ∧ letter.event.about? = some number

/-- The letter tells a user that it has joined a game itself. -/
def Welcomes (letter : Letter) (number : GameId) (user : UserId) : Prop :=
  letter.recipient = user ∧ letter.event.joins? = some (number, user)

/-- The letter tells a user that it has left a game itself. -/
def Dismisses (letter : Letter) (number : GameId) (user : UserId) : Prop :=
  letter.recipient = user ∧ letter.event.quits? = some (number, user)

instance : Decidable (letter.Concerns number user) := inferInstanceAs (Decidable (_ ∧ _))

instance : Decidable (letter.Welcomes number user) := inferInstanceAs (Decidable (_ ∧ _))

instance : Decidable (letter.Dismisses number user) := inferInstanceAs (Decidable (_ ∧ _))

/-- It is then news of a parting in that game. -/
theorem Dismisses.event (dismisses : letter.Dismisses number user) :
    ∃ member, letter.event = .game number (.userQuit member) := by
  obtain ⟨-, quits⟩ := dismisses
  unfold Event.quits? at quits
  split at quits
  · rename_i about
    cases quits
    exact ⟨_, about⟩
  · cases quits

theorem Dismisses.concerns (dismisses : letter.Dismisses number user) :
    letter.Concerns number user := by
  obtain ⟨member, about⟩ := dismisses.event
  refine ⟨dismisses.1, ?_⟩
  rw [about]
  rfl

theorem Dismisses.isFrame (dismisses : letter.Dismisses number user) :
    letter.isFrame = false := by
  obtain ⟨member, about⟩ := dismisses.event
  unfold Letter.isFrame
  rw [about]
  rfl

theorem Dismisses.not_welcomes (dismisses : letter.Dismisses number user) :
    ¬ letter.Welcomes number user := by
  obtain ⟨member, about⟩ := dismisses.event
  rintro ⟨-, joins⟩
  rw [about] at joins
  cases joins

end Letter

/-! ## Earshot -/

/-- What a user is told, from a time at which it is in a game or not: of the game only
as long as it is in it.  It is so from the letter on that tells it that it has joined,
until the one that tells it that it has left, or until the game is closed.  Some
letters are left out of account. -/
inductive Earshot (spares : Letter → Prop) (number : GameId) (user : UserId) :
    Bool → List Letter → Bool → Prop where
  | done (inside : Bool) : Earshot spares number user inside [] inside
  /-- The letter tells the user nothing of the game. -/
  | aside {inside last : Bool} {letter : Letter} {rest : List Letter}
      (other : ¬ letter.Concerns number user ∨ spares letter)
      (others : Earshot spares number user inside rest last) :
      Earshot spares number user inside (letter :: rest) last
  | member {last : Bool} {letter : Letter} {rest : List Letter}
      (stays : ¬ letter.Dismisses number user)
      (others : Earshot spares number user true rest last) :
      Earshot spares number user true (letter :: rest) last
  | join {last : Bool} {letter : Letter} {rest : List Letter}
      (welcome : letter.Welcomes number user)
      (others : Earshot spares number user true rest last) :
      Earshot spares number user false (letter :: rest) last
  | quit {last : Bool} {letter : Letter} {rest : List Letter}
      (dismissal : letter.Dismisses number user)
      (others : Earshot spares number user false rest last) :
      Earshot spares number user true (letter :: rest) last
  /-- The game is closed. -/
  | closed {last : Bool} {letters : List Letter}
      (others : Earshot spares number user false letters last) :
      Earshot spares number user true letters last

namespace Earshot

variable {spares : Letter → Prop} {number : GameId} {user : UserId} {inside middle last : Bool}
  {letters first second : List Letter}

theorem append (one : Earshot spares number user inside first middle)
    (two : Earshot spares number user middle second last) :
    Earshot spares number user inside (first ++ second) last := by
  induction one with
  | done => exact two
  | aside other _ inductionHypothesis => exact .aside other (inductionHypothesis two)
  | member stays _ inductionHypothesis => exact .member stays (inductionHypothesis two)
  | join welcome _ inductionHypothesis => exact .join welcome (inductionHypothesis two)
  | quit dismissal _ inductionHypothesis => exact .quit dismissal (inductionHypothesis two)
  | closed _ inductionHypothesis => exact .closed (inductionHypothesis two)

/-- The other way round, what is told is told up to some time and from then on. -/
theorem split (earshot : Earshot spares number user inside (first ++ second) last) :
    ∃ middle, Earshot spares number user inside first middle ∧
      Earshot spares number user middle second last := by
  generalize all : first ++ second = letters at earshot
  induction earshot generalizing first with
  | done inside =>
      obtain ⟨rfl, rfl⟩ := List.append_eq_nil_iff.mp all
      exact ⟨inside, .done inside, .done inside⟩
  | @aside inside last letter rest other others inductionHypothesis =>
      rcases List.append_eq_cons_iff.mp all with ⟨rfl, rfl⟩ | ⟨before, rfl, rfl⟩
      · exact ⟨inside, .done inside, .aside other others⟩
      · obtain ⟨middle, one, two⟩ := inductionHypothesis rfl
        exact ⟨middle, .aside other one, two⟩
  | @member last letter rest stays others inductionHypothesis =>
      rcases List.append_eq_cons_iff.mp all with ⟨rfl, rfl⟩ | ⟨before, rfl, rfl⟩
      · exact ⟨true, .done true, .member stays others⟩
      · obtain ⟨middle, one, two⟩ := inductionHypothesis rfl
        exact ⟨middle, .member stays one, two⟩
  | @join last letter rest welcome others inductionHypothesis =>
      rcases List.append_eq_cons_iff.mp all with ⟨rfl, rfl⟩ | ⟨before, rfl, rfl⟩
      · exact ⟨false, .done false, .join welcome others⟩
      · obtain ⟨middle, one, two⟩ := inductionHypothesis rfl
        exact ⟨middle, .join welcome one, two⟩
  | @quit last letter rest dismissal others inductionHypothesis =>
      rcases List.append_eq_cons_iff.mp all with ⟨rfl, rfl⟩ | ⟨before, rfl, rfl⟩
      · exact ⟨true, .done true, .quit dismissal others⟩
      · obtain ⟨middle, one, two⟩ := inductionHypothesis rfl
        exact ⟨middle, .quit dismissal one, two⟩
  | closed others inductionHypothesis =>
      obtain ⟨middle, one, two⟩ := inductionHypothesis all
      exact ⟨middle, .closed one, two⟩

/-- A user that stays in a game or out of it is told nothing of the game, or is in it
and not told that it has left. -/
theorem steady (each : ∀ letter ∈ letters, letter.Concerns number user →
      spares letter ∨ inside = true ∧ ¬ letter.Dismisses number user) :
    Earshot spares number user inside letters inside := by
  induction letters with
  | nil => exact .done inside
  | cons letter rest inductionHypothesis =>
      have others := inductionHypothesis fun other member =>
        each other (List.mem_cons_of_mem _ member)
      by_cases concerns : letter.Concerns number user
      · rcases each letter List.mem_cons_self concerns with spared | ⟨rfl, stays⟩
        · exact .aside (.inr spared) others
        · exact .member stays others
      · exact .aside (.inl concerns) others

/-- A user may be out of the game in the end because it is closed. -/
theorem lose (earshot : Earshot spares number user inside letters middle)
    (loses : last = true → middle = true) : Earshot spares number user inside letters last := by
  cases last with
  | true => rwa [loses rfl] at earshot
  | false =>
      cases middle with
      | false => exact earshot
      | true =>
          have shut := earshot.append (.closed (.done false))
          rwa [List.append_nil] at shut

/-- A user outside hears no more of the game before it has joined. -/
theorem joins_before {letter : Letter} {rest : List Letter}
    (earshot : Earshot spares number user false (first ++ letter :: rest) last)
    (concerns : letter.Concerns number user) (counts : ¬ spares letter) :
    ∃ welcome ∈ first ++ [letter], welcome.Welcomes number user := by
  induction first with
  | nil =>
      cases earshot with
      | aside other => exact absurd (other.resolve_left (not_not_intro concerns)) counts
      | join welcome => exact ⟨letter, List.mem_singleton.mpr rfl, welcome⟩
  | cons before others inductionHypothesis =>
      cases earshot with
      | aside _ remains =>
          obtain ⟨welcome, member, welcomes⟩ := inductionHypothesis remains
          exact ⟨welcome, List.mem_cons_of_mem _ member, welcomes⟩
      | join welcome => exact ⟨before, List.mem_cons_self, welcome⟩

/-- The letter that tells a user that it has left leaves it outside. -/
theorem after_dismissal {letter : Letter} {rest : List Letter}
    (earshot : Earshot spares number user inside (letter :: rest) last)
    (dismisses : letter.Dismisses number user) (counts : ¬ spares letter) :
    Earshot spares number user false rest last := by
  have outside (earshot : Earshot spares number user false (letter :: rest) last) :
      Earshot spares number user false rest last := by
    cases earshot with
    | aside other => exact absurd (other.resolve_left (not_not_intro dismisses.concerns)) counts
    | join welcome => exact absurd welcome dismisses.not_welcomes
  cases earshot with
  | aside other => exact absurd (other.resolve_left (not_not_intro dismisses.concerns)) counts
  | member stays => exact absurd dismisses stays
  | join welcome => exact absurd welcome dismisses.not_welcomes
  | quit _ others => exact others
  | closed others => exact outside others

/-- So whoever has left hears no more of the game until it joins again. -/
theorem quiet {quit letter : Letter} {between rest : List Letter}
    (earshot : Earshot spares number user inside
      (first ++ quit :: (between ++ letter :: rest)) last)
    (dismisses : quit.Dismisses number user) (concerns : letter.Concerns number user)
    (parting : ¬ spares quit) (counts : ¬ spares letter) :
    ∃ welcome ∈ between ++ [letter], welcome.Welcomes number user := by
  obtain ⟨_, -, since⟩ := earshot.split
  exact (since.after_dismissal dismisses parting).joins_before concerns counts

end Earshot

/-! ## What operations tell -/

namespace Game

/-- Every letter tells something in the game other than that somebody has left, and
goes to a member of it unless it carries a frame. -/
def Confides (game : Game) (letters : List Letter) : Prop :=
  ∀ letter ∈ letters, letter.event.about? = some game.id ∧ letter.event.quits? = none ∧
    (letter.isFrame = true ∨ letter.recipient ∈ game.members)

namespace Confides

variable {game other : Game} {first second letters : List Letter} {spares : Letter → Prop}

theorem nil (game : Game) : game.Confides [] := fun _ member => by cases member

theorem append (one : game.Confides first) (two : game.Confides second) :
    game.Confides (first ++ second) :=
  fun letter member => (List.mem_append.mp member).elim (one letter) (two letter)

theorem tellAll (game : Game) {event : GameEvent} (stays : event.kind ≠ .userQuit) :
    game.Confides (game.tellAll event) := by
  intro letter member
  obtain ⟨recipient, here, rfl⟩ := List.mem_map.mp member
  refine ⟨rfl, ?_, .inr here⟩
  cases event with
  | userQuit _ => exact absurd rfl stays
  | _ => rfl

/-- What is told in the game as it is later is told in the game. -/
theorem of_keeps (confides : other.Confides letters) (keeps : game.Keeps other) :
    game.Confides letters := by
  intro letter member
  obtain ⟨about, stays, reaches⟩ := confides letter member
  rw [keeps.members] at reaches
  exact ⟨about.trans (congrArg some keeps.id), stays, reaches⟩

/-- Members stay members at that, and others hear at most frames. -/
theorem earshot (confides : game.Confides letters) {user : UserId}
    (frames : ∀ letter ∈ letters, letter.isFrame = true →
      spares letter ∨ letter.recipient ∈ game.members) :
    Earshot spares game.id user (decide (user ∈ game.members)) letters
      (decide (user ∈ game.members)) := by
  refine .steady fun letter member concerns => ?_
  obtain ⟨-, stays, reaches⟩ := confides letter member
  have silent : ¬ letter.Dismisses game.id user := by
    rintro ⟨-, quits⟩
    rw [stays] at quits
    cases quits
  have here (reaches : letter.recipient ∈ game.members) :
      decide (user ∈ game.members) = true := decide_eq_true (concerns.1 ▸ reaches)
  rcases reaches with frame | reaches
  · exact (frames letter member frame).imp_right fun reaches => ⟨here reaches, silent⟩
  · exact .inr ⟨here reaches, silent⟩

end Confides

theorem confides_desynchIfAlone (game : Game) : game.Confides game.desynchIfAlone.2 := by
  unfold desynchIfAlone
  split
  · exact .tellAll game (by decide)
  · exact .nil game

/-- Somebody goes out of synchrony, which is told, and whether that leaves too few. -/
theorem confides_silence (game : Game) (slot : Nat) {event : GameEvent}
    (stays : event.kind ≠ .userQuit) :
    game.Confides ((game.silence slot).tellAll event ++ (game.silence slot).desynchIfAlone.2) := by
  have keeps : game.Keeps (game.silence slot) := .of_works (.of_dims (game.dims_silence slot))
  exact ((Confides.tellAll _ stays).append (confides_desynchIfAlone _)).of_keeps keeps

/-- Nothing is told, or one thing to all members, which is not that somebody has left. -/
def Proclaims (game : Game) (letters : List Letter) : Prop :=
  letters = [] ∨ ∃ event, event.kind ≠ .userQuit ∧ letters = game.tellAll event

theorem Proclaims.confides {game : Game} {letters : List Letter}
    (proclaims : game.Proclaims letters) : game.Confides letters := by
  rcases proclaims with rfl | ⟨event, stays, rfl⟩
  · exact .nil game
  · exact .tellAll game stays

end Game

namespace Room

variable (room : Room) (id : UserId)

theorem proclaims_start : (room.start id).state.game.Proclaims (room.start id).letters := by
  unfold start
  simp only
  split
  · exact .inl rfl
  · split
    · exact .inl rfl
    · split
      · exact .inl rfl
      · split
        · exact .inr ⟨_, by nofun, rfl⟩
        · exact .inr ⟨_, by nofun, rfl⟩

theorem proclaims_ready : (room.ready id).state.game.Proclaims (room.ready id).letters := by
  unfold ready
  simp only
  split
  · exact .inl rfl
  · split
    · exact .inl rfl
    · split
      · exact .inl rfl
      · split
        · exact .inr ⟨_, by nofun, rfl⟩
        · exact .inl rfl

theorem proclaims_drop : (room.drop id).state.game.Proclaims (room.drop id).letters := by
  unfold drop
  simp only
  split
  · exact .inl rfl
  · split
    · exact .inl rfl
    · split
      · exact .inl rfl
      · exact .inr ⟨_, by nofun, rfl⟩

theorem proclaims_chat (message : String) :
    (room.chat id message).state.game.Proclaims (room.chat id message).letters := by
  unfold chat
  split
  · exact .inl rfl
  · exact .inr ⟨_, by nofun, rfl⟩

theorem confides_droppedPacket : room.game.Confides (room.droppedPacket id).2 := by
  unfold droppedPacket
  simp only
  split
  · exact .nil _
  · split
    · exact .nil _
    · split
      · exact Game.confides_silence _ _ nofun
      · exact .nil _

theorem confides_noteTimeout (timeout : ReadTimeout) :
    room.game.Confides (room.noteTimeout timeout).2 := by
  unfold noteTimeout
  simp only
  split
  · exact .nil _
  · split
    · exact .nil _
    · split
      · exact .nil _
      · split
        · exact .of_keeps (.tellAll _ nofun) ⟨rfl, rfl, rfl, rfl, rfl, rfl, rfl, rfl⟩
        · exact .of_keeps (Game.confides_silence _ _ nofun)
            ⟨rfl, rfl, rfl, rfl, rfl, rfl, rfl, rfl⟩

section Work

variable {sent : UserId → Bytes → Prop} {people : Roster} {game later : Game}
  {hand last : Option Merge} {letters : List Letter}

theorem Chore.confides (chore : Chore sent people game hand letters later last) :
    game.Confides letters := by
  cases chore with
  | lapse place => exact confides_noteTimeout ⟨game, people⟩ _
  | finish on =>
      intro letter member
      rw [List.mem_singleton.mp member]
      exact ⟨rfl, rfl, .inl rfl⟩
  | _ => exact .nil game

theorem Chores.confides (chores : Chores sent people game hand letters later last) :
    game.Confides letters := by
  induction chores with
  | done game hand => exact .nil game
  | more first _ inductionHypothesis =>
      exact first.confides.append (inductionHypothesis.of_keeps (.of_works first.works))

end Work

/-- A newcomer is announced to all members and itself. -/
theorem letters_join : (room.join id).state = room ∧ (room.join id).letters = [] ∨
    id ∉ room.game.members ∧ (room.join id).state = room.joined id ∧
      ∃ newcomer players, newcomer.id = id ∧
        (room.join id).letters = (room.joined id).game.tellAll (.userJoined newcomer players) := by
  rcases room.join_cases id with ⟨refused, -⟩ | ⟨new, welcome, waiting, space, makes⟩
  · obtain ⟨refusal, failed⟩ := refused.result
    exact .inl (room.inert_join id refusal failed)
  · refine .inr ⟨new, makes.state, (room.joined id).people.person id,
      (room.game.members ++ [id]).map (room.joined id).people.person, Lobby.id_person _ id, ?_⟩
    rw [join, if_neg new, if_neg welcome, if_neg (not_not_intro waiting),
      if_neg (Nat.not_le.mpr space)]
    rfl

theorem confides_shed : room.game.Confides (room.shedLetters id) := by
  have plays : room.Plays True (room.shed id) := plays_shed id
  refine .of_keeps ?_ plays.keeps
  unfold shed shedLetters
  split
  · exact (room.proclaims_drop id).confides
  · exact .nil _

theorem frameless_shed : ∀ letter ∈ room.shedLetters id, letter.isFrame = false := by
  unfold shedLetters
  split
  · exact (room.tells_drop id).frameless (by decide)
  · exact fun _ member => by cases member

/-- That a member has left is told to itself and to those who stay. -/
theorem letters_quit : (room.quit id).state = room ∧ (room.quit id).letters = [] ∨
    id ∈ room.game.members ∧ (room.quit id).state = room.left id ∧
      ∃ former, former.id = id ∧
        (room.quit id).letters = room.shedLetters id ++
          ⟨id, .game (room.left id).game.id (.userQuit former)⟩ ::
            (room.left id).game.tellAll (.userQuit former) := by
  rcases room.quit_cases id with ⟨refused, -⟩ | ⟨member, makes⟩
  · obtain ⟨refusal, failed⟩ := refused.result
    exact .inl (room.inert_quit id refusal failed)
  · refine .inr ⟨member, makes.state,
      ((room.shed id).people.update id (·.leaveGame)).person id, Lobby.id_person _ id, ?_⟩
    rw [room.quit_eq id member]
    rfl

/-- Closing the game is not told to its members. -/
theorem letters_close : (room.close id).letters = [] := by
  unfold close
  simp only
  split
  · rfl
  · rfl

/-- Closing the game makes nobody a member. -/
theorem members_close {user : UserId} (here : user ∈ (room.close id).state.game.members) :
    user ∈ room.game.members := by
  rcases room.close_cases id with ⟨refused, -⟩ | ⟨quiet, -, -, -, -, makes⟩
  · rwa [refused.state] at here
  · have ends := Game.Keeps.endRound { quiet with members := [] }
    rw [makes.state, ends.members] at here
    cases here

end Room

/-! ## Operations within earshot -/

namespace Room

variable {room : Room} {deed : Deed} {spares : Letter → Prop} {user : UserId}

/-- The operation lets no user into the game and none out of it. -/
def Deed.Still : Deed → Prop
  | .join _ => False
  | .quit _ => False
  | .close _ => False
  | _ => True

/-- Such operations tell members of the game only, but for frames. -/
theorem confides_perform (fits : deed.Fits room) (still : deed.Still) :
    room.game.Confides (room.perform deed).2 ∧
      (room.perform deed).1.game.members = room.game.members := by
  have play {after : Room} {letters : List Letter} (plays : room.Plays True after)
      (confides : after.game.Proclaims letters) :
      room.game.Confides letters ∧ after.game.members = room.game.members :=
    ⟨confides.confides.of_keeps plays.keeps, plays.keeps.members⟩
  have work {after : Room} {letters : List Letter} (plays : room.Plays True after)
      (confides : room.game.Confides letters) :
      room.game.Confides letters ∧ after.game.members = room.game.members :=
    ⟨confides, plays.keeps.members⟩
  cases deed with
  | join _ => exact absurd still id
  | quit _ => exact absurd still id
  | close _ => exact absurd still id
  | start user => exact play (plays_start user) (room.proclaims_start user)
  | ready user => exact play (plays_ready fun _ => trivial) (room.proclaims_ready user)
  | drop user => exact play (plays_drop user) (room.proclaims_drop user)
  | chat user message => exact play (plays_chat user message) (room.proclaims_chat user message)
  | gap user => exact work (plays_droppedPacket user) (room.confides_droppedPacket user)
  | input now ticket user data =>
      exact work (plays_addData now ticket user data)
        (room.chores_addData (fun _ _ => True) now ticket trivial).confides
  | retry now parked =>
      exact work (.work (works_retry now parked.merge.ticket parked))
        (room.chores_retry (fun _ _ => True) fits now).confides
  | bar user target =>
      refine ⟨?_, ?_⟩
      · rw [perform, letters_kick]
        exact .nil _
      · rw [perform]
        rcases room.kick_cases user target with refused | ⟨kicked, -, -, -, -, makes⟩
        · rw [refused.state]
        · rw [makes.state]

/-- Nobody but the newcomer comes to be within earshot. -/
theorem earshot_join (room : Room) (newcomer user : UserId) :
    Earshot spares room.game.id user (decide (user ∈ room.game.members))
      (room.join newcomer).letters (decide (user ∈ (room.join newcomer).state.game.members)) := by
  rcases room.letters_join newcomer with
    ⟨state, silent⟩ | ⟨new, state, person, players, itself, told⟩
  · rw [state, silent]
    exact .done _
  · have members : (room.joined newcomer).game.members = room.game.members ++ [newcomer] := rfl
    have letters : (room.joined newcomer).game.tellAll (.userJoined person players) =
        room.game.tellAll (.userJoined person players) ++
          [⟨newcomer, .game room.game.id (.userJoined person players)⟩] := List.map_append
    have before : room.game.Confides (room.game.tellAll (.userJoined person players)) :=
      .tellAll _ nofun
    rw [state, told, letters, members]
    refine (before.earshot fun letter member frame => ?_).append ?_
    · obtain ⟨_, _, rfl⟩ := List.mem_map.mp member
      cases frame
    · by_cases same : user = newcomer
      · subst same
        rw [decide_eq_false new, decide_eq_true (List.mem_append_right _ List.mem_cons_self)]
        exact .join ⟨rfl, congrArg (fun other => some (room.game.id, other)) itself⟩ (.done true)
      · rw [show decide (user ∈ room.game.members ++ [newcomer]) =
          decide (user ∈ room.game.members) by simp [same]]
        exact .aside (.inl fun concerns => same concerns.1.symm) (.done _)

/-- A member that leaves hears of it, and nothing after it. -/
theorem earshot_quit (room : Room) (former user : UserId) :
    Earshot spares room.game.id user (decide (user ∈ room.game.members))
      (room.quit former).letters (decide (user ∈ (room.quit former).state.game.members)) := by
  rcases room.letters_quit former with
    ⟨state, silent⟩ | ⟨member, state, person, itself, told⟩
  · rw [state, silent]
    exact .done _
  · obtain ⟨game, keeps, leaves⟩ := room.left_game former
    have number : (room.left former).game.id = room.game.id := by
      rw [leaves]
      exact keeps.id
    have members : (room.left former).game.members =
        room.game.members.filter (· ≠ former) := by
      rw [leaves]
    rw [state, told]
    refine ((room.confides_shed former).earshot fun letter member frame => ?_).append ?_
    · rw [room.frameless_shed former letter member] at frame
      cases frame
    by_cases same : user = former
    · subst same
      have gone : user ∉ (room.left user).game.members := by
        rw [members]
        exact fun still => of_decide_eq_true (List.mem_filter.mp still).2 rfl
      rw [decide_eq_true member, decide_eq_false gone]
      refine .quit ⟨rfl, ?_⟩ (.steady fun letter told concerns => ?_)
      · rw [number]
        exact congrArg (fun other => some (room.game.id, other)) itself
      · obtain ⟨recipient, here, rfl⟩ := List.mem_map.mp told
        exact absurd (concerns.1 ▸ here) gone
    · have stays : user ∈ (room.left former).game.members ↔ user ∈ room.game.members := by
        rw [members, List.mem_filter]
        exact and_iff_left (decide_eq_true same)
      rw [decide_eq_decide.mpr stays]
      refine .aside (.inl fun concerns => same concerns.1.symm)
        (.steady fun letter told concerns => .inr ?_)
      obtain ⟨recipient, here, rfl⟩ := List.mem_map.mp told
      refine ⟨decide_eq_true (stays.mp (concerns.1 ▸ here)), fun dismisses => same ?_⟩
      have told := congrArg Prod.snd (Option.some.inj dismisses.2)
      exact told.symm.trans itself

/-- Members that are sent away hear nothing. -/
theorem earshot_close (room : Room) (owner user : UserId) :
    Earshot spares room.game.id user (decide (user ∈ room.game.members))
      (room.close owner).letters (decide (user ∈ (room.close owner).state.game.members)) := by
  rw [room.letters_close owner]
  exact (Earshot.done _).lose fun still =>
    decide_eq_true (room.members_close owner (of_decide_eq_true still))

/-- Whatever is done in a game, users hear of it as long as they are members. -/
theorem earshot_perform (fits : deed.Fits room) (user : UserId)
    (frames : ∀ letter ∈ (room.perform deed).2, letter.isFrame = true →
      spares letter ∨ letter.recipient ∈ room.game.members) :
    Earshot spares room.game.id user (decide (user ∈ room.game.members))
      (room.perform deed).2 (decide (user ∈ (room.perform deed).1.game.members)) := by
  by_cases still : deed.Still
  · obtain ⟨confides, members⟩ := confides_perform fits still
    rw [members]
    exact confides.earshot frames
  · cases deed with
    | join newcomer => exact room.earshot_join newcomer user
    | quit former => exact room.earshot_quit former user
    | close owner => exact room.earshot_close owner user
    | _ => exact absurd trivial still

/-- All of it is about that game. -/
theorem about_perform (fits : deed.Fits room) :
    ∀ letter ∈ (room.perform deed).2, letter.event.about? = some room.game.id := by
  by_cases still : deed.Still
  · exact fun letter member => ((confides_perform fits still).1 letter member).1
  · intro letter member
    cases deed with
    | join newcomer =>
        rw [perform] at member
        rcases room.letters_join newcomer with ⟨-, silent⟩ | ⟨-, -, person, players, -, told⟩
        · rw [silent] at member
          cases member
        · rw [told] at member
          obtain ⟨_, _, rfl⟩ := List.mem_map.mp member
          rfl
    | quit former =>
        obtain ⟨game, keeps, leaves⟩ := room.left_game former
        have number : (room.left former).game.id = room.game.id := by
          rw [leaves]
          exact keeps.id
        rw [perform] at member
        rcases room.letters_quit former with ⟨-, silent⟩ | ⟨-, -, person, -, told⟩
        · rw [silent] at member
          cases member
        · rw [told, number] at member
          rcases List.mem_append.mp member with shed | member
          · exact (room.confides_shed former letter shed).1
          · rcases List.mem_cons.mp member with rfl | member
            · rfl
            · obtain ⟨_, _, rfl⟩ := List.mem_map.mp member
              exact congrArg some number
    | close owner =>
        rw [perform, letters_close] at member
        cases member
    | _ => exact absurd trivial still

end Room

end Netplay
