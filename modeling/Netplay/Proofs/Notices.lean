/-
Module: Netplay.Proofs.Notices
Purpose: What the members of a game are told by each operation on it: the kinds of
  event in its letters.
Main exports:
  Tells, Tells.mono, Room.tells_join, Room.tells_quit, Room.tells_noteTimeout,
  Room.tells_collect, Room.tells_resume, Room.tells_addData,
  Room.tells_droppedPacket
-/
import Netplay.Proofs.Conduct

namespace Netplay

/-- Every letter is about a game, and what it tells is of one of these kinds. -/
def Tells (kinds : List GameEvent.Kind) (letters : List Letter) : Prop :=
  ∀ letter ∈ letters, ∃ game event, letter.event = .game game event ∧ event.kind ∈ kinds

namespace Tells

variable {kinds more : List GameEvent.Kind} {first second : List Letter}

theorem nil (kinds : List GameEvent.Kind) : Tells kinds [] := fun _ member => by cases member

theorem append (one : Tells kinds first) (two : Tells kinds second) :
    Tells kinds (first ++ second) :=
  fun letter member => (List.mem_append.mp member).elim (one letter) (two letter)

theorem mono (tells : Tells kinds first) (within : kinds ⊆ more) : Tells more first := by
  intro letter member
  obtain ⟨game, event, said, kind⟩ := tells letter member
  exact ⟨game, event, said, within kind⟩

theorem single {letter : Letter} {game : GameId} {event : GameEvent}
    (said : letter.event = .game game event) (kind : event.kind ∈ kinds) :
    Tells kinds [letter] := by
  intro other member
  rw [List.mem_singleton.mp member]
  exact ⟨game, event, said, kind⟩

/-- What is refused is told to nobody. -/
theorem refuse {σ α : Type} (kinds : List GameEvent.Kind) (state : σ) (refusal : Refusal) :
    Tells kinds (Step.refuse (α := α) state refusal).letters := nil kinds

theorem tellAll (game : Game) {event : GameEvent} (kind : event.kind ∈ kinds) :
    Tells kinds (game.tellAll event) := by
  intro letter member
  obtain ⟨recipient, -, rfl⟩ := List.mem_map.mp member
  exact ⟨game.id, event, rfl, kind⟩

/-- Where no frames are told, no letter carries one. -/
theorem frameless {letters : List Letter} (tells : Tells kinds letters) (none : .data ∉ kinds) :
    ∀ letter ∈ letters, letter.isFrame = false := by
  intro letter member
  obtain ⟨game, event, about, kind⟩ := tells letter member
  unfold Letter.isFrame
  rw [about]
  exact decide_eq_false fun frame => none (frame ▸ kind)

end Tells

/-- The notice that a game goes out of synchrony. -/
theorem Game.tells_desynchIfAlone (game : Game) : Tells [.desynch] game.desynchIfAlone.2 := by
  unfold desynchIfAlone
  split
  · exact .tellAll game (by decide)
  · exact .nil _

namespace Room

variable (room : Room) (id : UserId)

/-! ## What members do -/

theorem tells_join : Tells [.userJoined] (room.join id).letters := by
  unfold join
  simp only
  split
  · exact .refuse _ room _
  · split
    · exact .refuse _ room _
    · split
      · exact .refuse _ room _
      · split
        · exact .refuse _ room _
        · exact .tellAll _ (List.mem_singleton.mpr rfl)

theorem tells_start : Tells [.started, .info] (room.start id).letters := by
  unfold start
  simp only
  split
  · exact .refuse _ room _
  · split
    · exact .refuse _ room _
    · split
      · exact .refuse _ room _
      · split
        · exact .tellAll _ (List.mem_cons_of_mem _ (List.mem_singleton.mpr rfl))
        · exact .tellAll _ List.mem_cons_self

theorem tells_ready : Tells [.allReady] (room.ready id).letters := by
  unfold ready
  simp only
  split
  · exact .refuse _ room _
  · split
    · exact .refuse _ room _
    · split
      · exact .refuse _ room _
      · split
        · exact .tellAll _ (List.mem_singleton.mpr rfl)
        · exact .nil _

theorem tells_drop : Tells [.userDropped] (room.drop id).letters := by
  unfold drop
  simp only
  split
  · exact .refuse _ room _
  · split
    · exact .refuse _ room _
    · split
      · exact .refuse _ room _
      · exact .tellAll _ (List.mem_singleton.mpr rfl)

theorem tells_quit : Tells [.userDropped, .userQuit] (room.quit id).letters := by
  have quit : ∀ user, GameEvent.kind (.userQuit user) ∈
      [GameEvent.Kind.userDropped, .userQuit] :=
    fun _ => List.mem_cons_of_mem _ (List.mem_singleton.mpr rfl)
  by_cases member : id ∈ room.game.members
  · rw [room.quit_eq id member]
    refine Tells.append ?_ (Tells.append (.single rfl (quit _)) (.tellAll _ (quit _)))
    unfold shedLetters
    split
    · exact (room.tells_drop id).mono (List.cons_subset_cons _ (List.nil_subset _))
    · exact .nil _
  · rw [room.quit_stranger id member]
    exact .refuse _ room _

theorem tells_kick (target : UserId) : Tells [] (room.kick id target).letters := by
  unfold kick
  simp only
  split
  · exact .refuse _ room _
  · split
    · exact .refuse _ room _
    · split
      · exact .refuse _ room _
      · exact .nil _

theorem tells_close : Tells [] (room.close id).letters := by
  unfold close
  simp only
  split
  · exact .refuse _ room _
  · exact .nil _

theorem tells_chat (message : String) : Tells [.chat] (room.chat id message).letters := by
  unfold chat
  split
  · exact .refuse _ room _
  · exact .tellAll _ (List.mem_singleton.mpr rfl)

theorem tells_droppedPacket :
    Tells [.playerDesynch, .desynch] (room.droppedPacket id).2 := by
  unfold droppedPacket
  simp only
  split
  · exact .nil _
  · split
    · exact .nil _
    · split
      · exact Tells.append (.tellAll _ List.mem_cons_self)
          ((Game.tells_desynchIfAlone _).mono (List.subset_cons_self _ _))
      · exact .nil _

/-! ## Work on merges -/

theorem tells_noteTimeout (timeout : ReadTimeout) :
    Tells [.timeout, .playerDesynch, .desynch] (room.noteTimeout timeout).2 := by
  unfold noteTimeout
  simp only
  split
  · exact .nil _
  · split
    · exact .nil _
    · split
      · exact .nil _
      · split
        · exact .tellAll _ List.mem_cons_self
        · exact Tells.append (.tellAll _ (List.mem_cons_of_mem _ List.mem_cons_self))
            ((Game.tells_desynchIfAlone _).mono
              (List.subset_cons_of_subset _ (List.subset_cons_self _ _)))

/-- Collecting shares tells frames only. -/
theorem tells_collect (now : Nat) (merge : Merge) (remaining : Nat) :
    Tells [.data] (room.collect now merge remaining).2.1 := by
  induction remaining generalizing room merge with
  | zero =>
      unfold collect
      split
      · exact .nil _
      · exact .single rfl (List.mem_singleton.mpr rfl)
  | succ remaining inductionHypothesis =>
      unfold collect
      split
      · exact .nil _
      · split
        · exact .nil _
        · split
          · exact inductionHypothesis _ _
          · exact .nil _
          · exact .nil _

theorem tells_addData (now ticket : Nat) (data : Bytes) :
    Tells [.data] (room.addData now ticket id data).2.1 := by
  unfold addData
  simp only
  split
  · exact .nil _
  · split
    · exact .nil _
    · split
      · exact .nil _
      · split
        · exact .nil _
        · exact tells_collect _ _ _ _

theorem tells_resume (now : Nat) (parked : ParkedMerge) :
    Tells [.timeout, .playerDesynch, .desynch, .data] (room.resume now parked).2.1 := by
  have collects : ∀ (room : Room) (merge : Merge) (remaining : Nat),
      Tells [.timeout, .playerDesynch, .desynch, .data]
        (room.collect now merge remaining).2.1 :=
    fun room merge remaining => (room.tells_collect now merge remaining).mono (by simp)
  have lapsed : ∀ timeout merge remaining,
      Tells [.timeout, .playerDesynch, .desynch, .data]
        ((room.noteTimeout timeout).2 ++
          ((room.noteTimeout timeout).1.collect now merge remaining).2.1) :=
    fun timeout merge remaining =>
      ((room.tells_noteTimeout timeout).mono (by simp)).append (collects _ _ _)
  unfold resume
  simp only
  split
  · exact .nil _
  · split
    · exact collects _ _ _
    · exact lapsed _ _ _
    · split
      · exact lapsed _ _ _
      · exact .nil _

end Room

end Netplay
