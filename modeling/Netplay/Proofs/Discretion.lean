/-
Module: Netplay.Proofs.Discretion
Purpose: What happens in a game is told to its members only: every move keeps to it,
  but for frames of users that have left while a merge of theirs was in flight.
Main exports:
  Lobby.Inside, Lobby.Stroke.earshot, Lobby.Strokes.earshot, Venue.Confined,
  Venue.Loyal, Venue.Faithful, Venue.confined_step, Venue.earshot_run, Venue.discretion
-/
import Netplay.Proofs.CurrentView
import Netplay.Proofs.Lifecycle
import Netplay.Proofs.Senders

namespace Netplay

namespace Lobby

open Room (Deed)

/-- The user is a member of the game with the number. -/
def Inside (lobby : Lobby) (number : GameId) (user : UserId) : Prop :=
  ∃ game ∈ lobby.allGames, game.id = number ∧ user ∈ game.members

instance (lobby : Lobby) (number : GameId) (user : UserId) :
    Decidable (lobby.Inside number user) :=
  inferInstanceAs (Decidable (∃ game ∈ lobby.allGames, _ ∧ _))

variable {may : Deed → Prop} {founds : Prop} {lobby after : Lobby} {letters : List Letter}
  {spares : Letter → Prop} {game : Game} {room : Room} {number : GameId} {user : UserId}

/-- No two games have the number. -/
theorem inside_iff (nodup : (lobby.allGames.map (·.id)).Nodup) (member : game ∈ lobby.allGames) :
    lobby.Inside game.id user ↔ user ∈ game.members := by
  constructor
  · rintro ⟨other, place, number, here⟩
    rwa [List.inj_on_of_nodup_map nodup place member number] at here
  · exact fun here => ⟨game, member, rfl, here⟩

/-- The game in which something has happened is the only one with its number. -/
theorem eq_of_mem_withRoom (member : game ∈ (lobby.withRoom room).allGames)
    (number : game.id = room.game.id) : game = room.game := by
  have place {games : List Game} (among : game ∈ games.map fun other =>
      if other.id = room.game.id then room.game else other) : game = room.game := by
    obtain ⟨before, old, rfl⟩ := List.mem_map.mp among
    split at number
    · rename_i same
      exact if_pos same
    · rename_i other
      exact absurd number other
  rcases List.mem_append.mp member with live | closed
  · exact place live
  · exact place (List.mem_filter.mp closed).1

/-- What happens in a game makes nobody a member of another. -/
theorem Inside.of_withRoom (inside : (lobby.withRoom room).Inside number user) :
    room.game.id = number ∧ user ∈ room.game.members ∨
      room.game.id ≠ number ∧ lobby.Inside number user := by
  obtain ⟨game, member, same, here⟩ := inside
  by_cases own : room.game.id = number
  · rw [eq_of_mem_withRoom member (same.trans own.symm)] at here
    exact .inl ⟨own, here⟩
  · rcases mem_allGames_withRoom member with rfl | old
    · exact absurd same own
    · exact .inr ⟨own, game, old, same, here⟩

/-! ## Strokes within earshot -/

/-- An operation on a game is told to users as long as they are members of it, and
tells them nothing of other games. -/
theorem earshot_perform (nodup : (lobby.allGames.map (·.id)).Nodup)
    (member : game ∈ lobby.allGames) {deed : Deed} (fits : deed.Fits (lobby.room game))
    (frames : ∀ letter ∈ ((lobby.room game).perform deed).2, letter.isFrame = true →
      letter.event.about? = some number → spares letter ∨ lobby.Inside number letter.recipient)
    (follows : after.Inside number user →
      game.id = number ∧ user ∈ ((lobby.room game).perform deed).1.game.members ∨
        game.id ≠ number ∧ lobby.Inside number user) :
    Earshot spares number user (decide (lobby.Inside number user))
      ((lobby.room game).perform deed).2 (decide (after.Inside number user)) := by
  have about := Room.about_perform fits
  by_cases own : game.id = number
  · subst own
    have heard : Earshot spares game.id user (decide (user ∈ game.members)) _ _ :=
      Room.earshot_perform fits user fun letter told frame =>
        (frames letter told frame (about letter told)).imp_right (inside_iff nodup member).mp
    rw [decide_eq_decide.mpr (inside_iff nodup member)]
    refine heard.lose fun inside => decide_eq_true ?_
    exact (follows (of_decide_eq_true inside)).elim And.right fun other => absurd rfl other.1
  · have unheard : Earshot spares number user (decide (lobby.Inside number user))
        ((lobby.room game).perform deed).2 (decide (lobby.Inside number user)) := by
      refine .steady fun letter told concerns => absurd ?_ own
      exact Option.some.inj ((about letter told).symm.trans concerns.2)
    refine unheard.lose fun inside => decide_eq_true ?_
    exact (follows (of_decide_eq_true inside)).elim (fun same => absurd same.1 own) And.right

/-- So is every stroke, but for frames. -/
theorem Stroke.earshot (nodup : (lobby.allGames.map (·.id)).Nodup)
    (stroke : Stroke may founds lobby letters after)
    (frames : ∀ letter ∈ letters, letter.isFrame = true → letter.event.about? = some number →
      spares letter ∨ lobby.Inside number letter.recipient) :
    Earshot spares number user (decide (lobby.Inside number user)) letters
      (decide (after.Inside number user)) := by
  have silent (follows : after.Inside number user → lobby.Inside number user) :
      Earshot spares number user (decide (lobby.Inside number user)) []
        (decide (after.Inside number user)) :=
    (Earshot.done _).lose fun inside => decide_eq_true (follows (of_decide_eq_true inside))
  cases stroke with
  | aside games closed told =>
      have same : after.Inside number user ↔ lobby.Inside number user := by
        rw [Inside, Inside, allGames, allGames, games, closed]
      rw [decide_eq_decide.mpr same]
      refine .steady fun letter member concerns => ?_
      have about := concerns.2
      unfold Event.about? at about
      split at about
      · rename_i game event isGame
        exact absurd isGame (told letter member game event)
      · cases about
  | @perform game deed member asked fits =>
      have turn := Room.turn_perform fits
      refine earshot_perform nodup member fits frames fun inside => ?_
      rcases inside.of_withRoom with ⟨own, here⟩ | ⟨other, before⟩
      · exact .inl ⟨turn.number.symm.trans own, here⟩
      · exact .inr ⟨fun own => other (turn.number.trans own), before⟩
  | @close game owner _ live asked games closed =>
      refine silent ?_
      rintro ⟨later, member, same, here⟩
      rw [allGames, games] at member
      rcases List.mem_append.mp member with other | shut
      · exact ⟨later, List.mem_append_left _ (List.mem_filter.mp other).1, same, here⟩
      · rcases closed with before | ⟨-, kept⟩
        · exact ⟨later, List.mem_append_right _ (before ▸ shut), same, here⟩
        · rw [kept] at shut
          rcases List.mem_append.mp shut with earlier | last
          · exact ⟨later, List.mem_append_right _ earlier, same, here⟩
          · obtain rfl := List.mem_singleton.mp last
            have fits : Deed.Fits (lobby.room game) (.close owner) := trivial
            exact ⟨game, mem_allGames_of_live live, (Room.turn_perform fits).number.symm.trans same,
              (lobby.room game).members_close owner here⟩
  | found person name aim =>
      refine silent ?_
      rintro ⟨later, member, same, here⟩
      rcases List.mem_append.mp member with live | closed
      · rcases List.mem_append.mp live with other | new
        · exact ⟨later, List.mem_append_left _ (List.mem_filter.mp other).1, same, here⟩
        · rw [List.mem_singleton.mp new] at here
          cases here
      · exact ⟨later, List.mem_append_right _ (List.mem_filter.mp closed).1, same, here⟩

/-- So is a row of strokes that tells no frames. -/
theorem Strokes.earshot (nodup : (lobby.allGames.map (·.id)).Nodup)
    (row : Strokes may founds lobby letters after)
    (frames : ∀ letter ∈ letters, letter.isFrame = false) :
    Earshot spares number user (decide (lobby.Inside number user)) letters
      (decide (after.Inside number user)) := by
  induction row with
  | done lobby => exact .done _
  | more first _ inductionHypothesis =>
      refine (first.earshot nodup fun letter member frame _ => ?_).append
        (inductionHypothesis (first.nodup nodup) fun letter member =>
          frames letter (List.mem_append_right _ member))
      rw [frames letter (List.mem_append_left _ member)] at frame
      cases frame

end Lobby

namespace Venue

variable {settings : Settings} {venue : Venue} {moves : List Move} {spares : Letter → Prop}
  {number : GameId} {user : UserId}

/-! ## Moves within earshot -/

/-- In the move the user is told of the game only while it is a member of it.  Some
letters are left out of account. -/
def Confined (venue : Venue) (move : Move) (spares : Letter → Prop) (number : GameId)
    (user : UserId) : Prop :=
  Earshot spares number user (decide (venue.lobby.Inside number user))
    (venue.outcome move).letters (decide ((venue.step move).lobby.Inside number user))

/-- Those whose input the move works on are members of the game, where it merges any. -/
def Loyal (venue : Venue) (move : Move) : Prop :=
  ∀ game ∈ venue.lobby.allGames, game.synched = true →
    ∀ user ∈ venue.speakers game move, user ∈ game.members

instance (venue : Venue) (move : Move) : Decidable (venue.Loyal move) :=
  -- Only the users in question are looked at, not all numbers that users may have.
  have (game : Game) : Decidable (∀ user ∈ venue.speakers game move, user ∈ game.members) :=
    List.decidableBAll _ _
  inferInstanceAs (Decidable (∀ game ∈ venue.lobby.allGames, _ → ∀ user ∈ _, _))

/-- As long as game numbers have not run out, whoever hands in input is a member, so
this is about those only who have left while a merge of theirs was in flight. -/
theorem loyal_input (kept : venue.lobby.Kept settings venue.created)
    (few : venue.created < 2 ^ 32 - 1) (user : UserId) (data : Bytes) :
    venue.Loyal (.input user data) := by
  intro game member _ speaker speaks
  obtain ⟨entry, found, rfl⟩ := List.mem_map.mp speaks
  obtain ⟨registered, holds⟩ := List.mem_filter.mp found
  obtain ⟨-, names⟩ := of_decide_eq_true holds
  obtain ⟨place, live, number, here⟩ := game_of_entry kept few registered names
  obtain rfl := game_unique kept member (Lobby.mem_allGames_of_live live) number
  exact here

/-- Every move is told to users as long as they are members, but for frames; and frames
are, too, where the move is loyal. -/
theorem confined_step (kept : venue.lobby.Kept settings venue.created) (move : Move)
    (frames : (∀ letter : Letter, letter.isFrame = true → spares letter) ∨ venue.Loyal move) :
    venue.Confined move spares number user := by
  have heard : ∀ letter ∈ (venue.outcome move).letters, letter.isFrame = true →
      letter.event.about? = some number →
      spares letter ∨ venue.lobby.Inside number letter.recipient := by
    intro letter told frame about
    refine frames.imp (fun spared => spared letter frame) fun loyal => ?_
    obtain ⟨game, member, isAbout, merging, speaks⟩ := venue.frames_outcome move letter told frame
    exact ⟨game, member, Option.some.inj (isAbout.symm.trans about),
      loyal game member merging _ speaks⟩
  rw [Confined, step_lobby]
  by_cases works : move.Works
  · exact (stroke_of_works works).earshot kept.nodup heard
  · have row := venue.strokes_outcome move
    exact row.earshot kept.nodup
      (row.frameless fun deed asked isWork => works (works_of_asks asked isWork))

/-- All moves of a row are loyal. -/
def Faithful (venue : Venue) : List Move → Prop
  | [] => True
  | move :: rest => venue.Loyal move ∧ (venue.step move).Faithful rest

instance decidableFaithful : (venue : Venue) → (moves : List Move) →
    Decidable (venue.Faithful moves)
  | _, [] => inferInstanceAs (Decidable True)
  | venue, move :: rest =>
      have := decidableFaithful (venue.step move) rest
      inferInstanceAs (Decidable (_ ∧ _))

/-- So it goes on all the time. -/
theorem earshot_run (kept : venue.lobby.Kept settings venue.created) (moves : List Move)
    (frames : (∀ letter : Letter, letter.isFrame = true → spares letter) ∨
      venue.Faithful moves) :
    Earshot spares number user (decide (venue.lobby.Inside number user)) (venue.letters moves)
      (decide ((venue.run moves).lobby.Inside number user)) := by
  induction moves generalizing venue with
  | nil => exact .done _
  | cons move rest inductionHypothesis =>
      exact (confined_step kept move (frames.imp_right And.left)).append
        (inductionHypothesis (kept_step kept move) (frames.imp_right And.right))

/-- What happens in a game is told to its members only.  Take any run of a relay, and
whatever is done then: of a game a user is told only while it is a member, from the
letter on that says it has joined until the one that says it has left.  Frames are no
exception where those whose input is merged are members still; and all frames go to
users that have handed in input for the game before.  As long as game numbers have not
run out, only merges that have been in flight can be of others.

So whoever has been told that it has left is told nothing more of the game before it
is told that it has joined again, be it frames where all those whose input is merged
are members still. -/
theorem discretion (settings : Settings) (moves : List Move) (number : GameId)
    (user : UserId) :
    (∀ move,
      ((opened settings).run moves).Confined move (·.isFrame = true) number user ∧
        (((opened settings).run moves).Loyal move →
          ((opened settings).run moves).Confined move (fun _ => False) number user) ∧
        (∀ letter ∈ (((opened settings).run moves).outcome move).letters,
          letter.isFrame = true → letter.event.about? = some number →
            (opened settings).Spoke number letter.recipient moves ∨
              ((opened settings).run moves).Speaks move number letter.recipient) ∧
        (((opened settings).run moves).created < 2 ^ 32 - 1 →
          (∀ target ticket, move ≠ .retry target ticket) →
            ((opened settings).run moves).Loyal move)) ∧
      ∀ (first between rest : List Letter) (parting letter : Letter),
        (opened settings).letters moves = first ++ parting :: (between ++ letter :: rest) →
        parting.Dismisses number user → letter.Concerns number user →
        letter.isFrame = false ∨ (opened settings).Faithful moves →
        ∃ welcome ∈ between ++ [letter], welcome.Welcomes number user := by
  have kept := kept_opened settings moves
  refine ⟨fun move => ⟨confined_step kept move (.inl fun _ frame => frame),
    fun loyal => confined_step kept move (.inr loyal), ?_, ?_⟩, ?_⟩
  · intro letter told frame about
    obtain ⟨game, member, isAbout, -, speaks⟩ := frames_outcome _ move letter told frame
    obtain rfl := Option.some.inj (isAbout.symm.trans about)
    rcases speaks_or_owes speaks with now | owes
    · exact .inr now
    · rcases owes_run _ moves member owes with ⟨_, none, -⟩ | spoke
      · cases none
      · exact .inl spoke
  · intro few waited
    cases move with
    | input speaker data => exact loyal_input kept few speaker data
    | retry target ticket => exact absurd rfl (waited target ticket)
    | _ => exact fun _ _ _ _ speaks => by cases speaks
  · intro first between rest parting letter all dismisses concerns counts
    have opens : (opened settings).lobby.Kept settings (opened settings).created :=
      kept_opened settings []
    rcases counts with noFrame | faithful
    · have heard : Earshot (·.isFrame = true) number user _ _ _ :=
        earshot_run opens moves (.inl fun _ frame => frame)
      have parts : ¬ parting.isFrame = true := Bool.eq_false_iff.mp dismisses.isFrame
      rw [all] at heard
      exact heard.quiet dismisses concerns parts (Bool.eq_false_iff.mp noFrame)
    · have heard : Earshot (fun _ => False) number user _ _ _ :=
        earshot_run opens moves (.inr faithful)
      rw [all] at heard
      exact heard.quiet dismisses concerns id id

/-- Bo joins a game of Ada's, leaves, and comes back to play. -/
def reunion : List Move :=
  arrival 1 "Ada" ++ arrival 2 "Bo" ++
    [.create 1 "duel", .join 2 1, .leave 2, .join 2 1, .start 1, .ready 1, .ready 2,
      .input 1 [1], .input 2 [2], .retry 1 0]

/-- All that is told of it. -/
def reunionLetters : List Letter := (opened {}).letters reunion

/-- Both get their frames.  Before it gets one Bo, which has been told that it had left,
has been told that it joined again; and when it leaves for good it hears of nothing
else. -/
theorem discretion_reunion :
    (opened {}).Faithful reunion ∧ reunionLetters.countP (·.isFrame) = 2 ∧
      (∃ welcome ∈ (reunionLetters.drop 17).take 16, welcome.Welcomes 1 2) ∧
      Earshot (fun _ => False) 1 2 true (((opened {}).run reunion).outcome (.leave 2)).letters
        false := by
  have faithful : (opened {}).Faithful reunion := by decide +kernel
  have loyal : ((opened {}).run reunion).Loyal (.leave 2) := by decide +kernel
  have here : decide (((opened {}).run reunion).lobby.Inside 1 2) = true := by decide +kernel
  have gone : decide ((((opened {}).run reunion).step (.leave 2)).lobby.Inside 1 2) = false := by
    decide +kernel
  obtain ⟨each, since⟩ := discretion {} reunion 1 2
  have parts := (each (.leave 2)).2.1 loyal
  rw [Confined, here, gone] at parts
  -- The parting letter is the sixteenth after the first one, and the frame the last but one.
  obtain ⟨parting, frame, all, between, dismisses, concerns⟩ : ∃ parting frame,
      reunionLetters = reunionLetters.take 16 ++ parting ::
        ((reunionLetters.drop 17).take 15 ++ frame :: reunionLetters.drop 33) ∧
      (reunionLetters.drop 17).take 16 = (reunionLetters.drop 17).take 15 ++ [frame] ∧
      parting.Dismisses 1 2 ∧ frame.Concerns 1 2 :=
    ⟨reunionLetters.get ⟨16, by decide +kernel⟩, reunionLetters.get ⟨32, by decide +kernel⟩,
      by decide +kernel, by decide +kernel, by decide +kernel, by decide +kernel⟩
  have welcomed := since _ _ _ parting frame all dismisses concerns (.inr faithful)
  rw [← between] at welcomed
  exact ⟨faithful, by decide +kernel, welcomed, parts⟩

/-- Cy hands in input, and is kicked before the others do. -/
def lateFrame : List Move :=
  trio ++ [.input 3 [3], .kick 1 3, .input 1 [1], .input 2 [2]]

/-- Its merge goes on, and the frame comes to it although it is a member no more, has
been told so, and has not been told that it joined again. -/
theorem indiscreet_frame :
    ¬ ((opened {}).run lateFrame).lobby.Inside 1 3 ∧
      (∃ letter ∈ (((opened {}).run lateFrame).outcome (.retry 1 0)).letters,
        letter.Concerns 1 3 ∧ letter.isFrame = true) ∧
      ((opened {}).letters (lateFrame ++ [.retry 1 0]))[46]?.any
        (fun parting => parting.Dismisses 1 3) = true ∧
      (∃ letter ∈ ((opened {}).letters (lateFrame ++ [.retry 1 0])).drop 47,
        letter.Concerns 1 3) ∧
      ∀ letter ∈ ((opened {}).letters (lateFrame ++ [.retry 1 0])).drop 47,
        ¬ letter.Welcomes 1 3 := by
  refine ⟨?_, ?_, ?_, ?_, ?_⟩
  · decide +kernel
  · decide +kernel
  · decide +kernel
  · decide +kernel
  · decide +kernel

end Venue

end Netplay
