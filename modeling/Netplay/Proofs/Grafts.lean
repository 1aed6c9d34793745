/-
Module: Netplay.Proofs.Grafts
Purpose: What becomes of a lobby when something happens in one of its games, which may be
  closed: what happens in two games happens in either order.
Main exports:
  Game.among, Game.amongBusy, Lobby.withRoom_withRoom, Lobby.graft,
  Lobby.Same, Lobby.graft_comm
-/
import Netplay.Proofs.Closing

namespace Netplay

/-! ## Games of a list -/

/-- The game has taken the place of the one with its number. -/
def Game.among (game : Game) (games : List Game) : List Game :=
  games.map fun other => if other.id = game.id then game else other

/-- A merge of the game is in flight. -/
def Game.busy (game : Game) : Bool := game.inFlight ≠ []

/-- It has taken its place among busy games, unless it is not busy any more. -/
def Game.amongBusy (game : Game) (games : List Game) : List Game :=
  (game.among games).filter (·.busy)

namespace Game

variable {game other : Game} {games : List Game}

/-- Where no other game has its number, a game takes its own place. -/
theorem among_eq_self (alone : ∀ entry ∈ games, entry.id = game.id → entry = game) :
    game.among games = games := by
  refine (List.map_congr_left fun entry member => ?_).trans (List.map_id _)
  split
  · rename_i itself
    exact (alone entry member itself).symm
  · rfl

/-- What has become of a game in the end is what counts. -/
theorem among_among (same : other.id = game.id) (games : List Game) :
    other.among (game.among games) = other.among games := by
  rw [among, among, among, List.map_map]
  refine List.map_congr_left fun entry _ => ?_
  simp only [Function.comp_apply]
  by_cases itself : entry.id = game.id
  · rw [if_pos itself, if_pos same.symm, if_pos (itself.trans same.symm)]
  · rw [if_neg itself]

/-- Two games take their places in either order. -/
theorem among_comm (differs : game.id ≠ other.id) (games : List Game) :
    other.among (game.among games) = game.among (other.among games) := by
  rw [among, among, among, among, List.map_map, List.map_map]
  refine List.map_congr_left fun entry _ => ?_
  simp only [Function.comp_apply]
  by_cases first : entry.id = game.id
  · have second : entry.id ≠ other.id := first ▸ differs
    rw [if_pos first, if_neg second, if_neg differs, if_pos first]
  · by_cases second : entry.id = other.id
    · rw [if_neg first, if_pos second, if_neg differs.symm]
    · rw [if_neg first, if_neg second, if_neg first]

/-- All others keep their places. -/
theorem filter_among (games : List Game) :
    (game.among games).filter (·.id ≠ game.id) = games.filter (·.id ≠ game.id) := by
  rw [among]
  induction games with
  | nil => rfl
  | cons first rest inductionHypothesis =>
      rw [List.map_cons, List.filter_cons, List.filter_cons, inductionHypothesis]
      by_cases itself : first.id = game.id
      · simp [itself]
      · rw [if_neg itself]

/-- It does not matter whether another game is there. -/
theorem filter_among_other (game other : Game) (games : List Game) :
    (game.among games).filter (·.id ≠ other.id) = game.among (games.filter (·.id ≠ other.id)) := by
  rw [among, among, List.filter_map]
  refine congrArg _ (List.filter_congr fun entry _ => ?_)
  simp only [Function.comp_apply]
  by_cases itself : entry.id = game.id
  · rw [if_pos itself, itself]
  · rw [if_neg itself]

section Busy

variable (busy : ∀ entry ∈ games, entry.busy = true)
include busy

theorem amongBusy_eq_self (alone : ∀ entry ∈ games, entry.id = game.id → entry = game) :
    game.amongBusy games = games := by
  rw [amongBusy, among_eq_self alone]
  exact List.filter_eq_self.mpr busy

/-- It does not matter whether a game is forgotten before another one takes its place, or
after that. -/
theorem amongBusy_amongBusy (differs : game.id ≠ other.id) :
    other.amongBusy (game.amongBusy games) =
      (other.among (game.among games)).filter (·.busy) := by
  rw [amongBusy, amongBusy, among.eq_def other, List.filter_map, List.filter_filter,
    among.eq_def other, List.filter_map]
  refine congrArg _ (List.filter_congr fun entry member => ?_)
  simp only [Function.comp_apply]
  cases still : entry.busy with
  | true => rw [Bool.and_true]
  | false =>
      -- Only the first game may have become idle, and it is not the second one.
      obtain ⟨before, here, rfl⟩ := List.mem_map.mp member
      have itself : before.id = game.id := by
        by_contra another
        rw [if_neg another, busy before here] at still
        cases still
      rw [if_pos itself] at still ⊢
      rw [if_neg differs, still]
      rfl

theorem amongBusy_comm (differs : game.id ≠ other.id) :
    other.amongBusy (game.amongBusy games) = game.amongBusy (other.amongBusy games) := by
  rw [amongBusy_amongBusy busy differs, amongBusy_amongBusy busy differs.symm,
    among_comm differs]

/-- All others keep their places if they are busy. -/
theorem filter_amongBusy :
    (game.amongBusy games).filter (·.id ≠ game.id) = games.filter (·.id ≠ game.id) := by
  rw [amongBusy, List.filter_filter, ← filter_among]
  refine List.filter_congr fun entry member => ?_
  obtain ⟨before, here, rfl⟩ := List.mem_map.mp member
  by_cases itself : before.id = game.id
  · simp [if_pos itself]
  · rw [if_neg itself, busy before here, Bool.and_true]

end Busy

/-- One more game makes no difference to another that takes its place. -/
theorem amongBusy_append (differs : other.id ≠ game.id) :
    game.amongBusy (games ++ [other].filter (·.busy)) =
      game.amongBusy games ++ [other].filter (·.busy) := by
  have kept : game.amongBusy ([other].filter (·.busy)) = [other].filter (·.busy) := by
    refine amongBusy_eq_self (fun entry member => (List.mem_filter.mp member).2)
      fun entry member itself => ?_
    rw [List.mem_singleton.mp (List.mem_filter.mp member).1] at itself
    exact absurd itself differs
  rw [amongBusy, among] at kept
  rw [amongBusy, amongBusy, among, List.map_append, List.filter_append, kept, among]

end Game

/-! ## Games of a lobby -/

namespace Lobby

variable {lobby : Lobby} {game other : Game} {room : Room} {people : Roster}

/-- Closed games are busy. -/
theorem Shuttered.busy (shuttered : lobby.Shuttered) :
    ∀ game ∈ lobby.closed, game.busy = true :=
  fun game closed => decide_eq_true (shuttered game closed).busy

section Live

variable (nodup : (lobby.allGames.map (·.id)).Nodup) (shuttered : lobby.Shuttered)
include nodup shuttered

/-- Something that happens in a live game leaves the closed ones alone. -/
theorem closed_withRoom (live : game ∈ lobby.games) (number : room.game.id = game.id) :
    (lobby.withRoom room).closed = lobby.closed :=
  Game.amongBusy_eq_self shuttered.busy fun _ closed itself =>
    absurd (itself.trans number) (closed_apart nodup live closed)

/-- What happens last in a live game is what counts. -/
theorem withRoom_withRoom (live : game ∈ lobby.games) (number : room.game.id = game.id)
    {later : Room} (laterNumber : later.game.id = game.id) :
    (lobby.withRoom room).withRoom later = lobby.withRoom later := by
  have there : room.game ∈ (lobby.withRoom room).games :=
    List.mem_map.mpr ⟨game, live, if_pos number.symm⟩
  have closed : ((lobby.withRoom room).withRoom later).closed = (lobby.withRoom later).closed := by
    rw [closed_withRoom ((Retains.withRoom lobby room).nodup nodup)
      (shuttered.live nodup live number) there (laterNumber.trans number.symm),
      closed_withRoom nodup shuttered live number,
      closed_withRoom nodup shuttered live laterNumber]
  have games : ((lobby.withRoom room).withRoom later).games = (lobby.withRoom later).games :=
    Game.among_among (laterNumber.trans number.symm) _
  exact congrArg₂ (fun games closed =>
    ({ lobby with people := later.people, games := games, closed := closed } : Lobby)) games closed

end Live

/-! ## A game and its users -/

/-- The lobby after its users have changed, and one of its games with them, which may be
closed. -/
def graft (lobby : Lobby) (game : Game) (closes : Bool) (people : Roster) : Lobby :=
  if closes then
    { lobby with
      people := people
      games := lobby.games.filter (·.id ≠ game.id)
      closed := if game.inFlight = [] then lobby.closed else lobby.closed ++ [game] }
  else lobby.withRoom ⟨game, people⟩

section Graft

variable (closes : Bool)

@[simp] theorem server_graft : (lobby.graft game closes people).server = lobby.server := by
  cases closes with
  | _ => rfl

@[simp] theorem rules_graft : (lobby.graft game closes people).gameRules = lobby.gameRules := by
  cases closes with
  | _ => rfl

@[simp] theorem people_graft : (lobby.graft game closes people).people = people := by
  cases closes with
  | _ => rfl

@[simp] theorem nextUser_graft :
    (lobby.graft game closes people).nextUser = lobby.nextUser := by
  cases closes with
  | _ => rfl

@[simp] theorem nextGame_graft :
    (lobby.graft game closes people).nextGame = lobby.nextGame := by
  cases closes with
  | _ => rfl

theorem games_graft :
    (lobby.graft game closes people).games =
      if closes then lobby.games.filter (·.id ≠ game.id) else game.among lobby.games := by
  cases closes with
  | _ => rfl

theorem closed_graft :
    (lobby.graft game closes people).closed =
      if closes then lobby.closed ++ [game].filter (·.busy) else game.amongBusy lobby.closed := by
  cases closes with
  | true =>
      rw [graft, if_pos rfl, if_pos rfl]
      by_cases idle : game.inFlight = []
      · simp [Game.busy, idle]
      · simp [Game.busy, idle]
  | false => rfl

end Graft

/-- Two lobbies are the same, but for the order in which closed games are kept. -/
structure Same (lobby other : Lobby) : Prop where
  server : other.server = lobby.server
  rules : other.gameRules = lobby.gameRules
  people : other.people = lobby.people
  games : other.games = lobby.games
  closed : other.closed.Perm lobby.closed
  nextUser : other.nextUser = lobby.nextUser
  nextGame : other.nextGame = lobby.nextGame

/-- What becomes of two games becomes of the lobby in either order. -/
theorem graft_comm (shuttered : lobby.Shuttered) (differs : game.id ≠ other.id)
    (closes shuts : Bool) (people later final : Roster) :
    ((lobby.graft game closes people).graft other shuts final).Same
      ((lobby.graft other shuts later).graft game closes final) := by
  refine ⟨by simp, by simp, by simp, ?_, ?_, by simp, by simp⟩
  · rw [games_graft, games_graft, games_graft, games_graft]
    cases closes with
    | false =>
        cases shuts with
        | false => exact Game.among_comm differs.symm _
        | true => exact (Game.filter_among_other game other _).symm
    | true =>
        cases shuts with
        | false => exact Game.filter_among_other other game _
        | true =>
            rw [if_pos rfl, if_pos rfl, if_pos rfl, if_pos rfl, List.filter_filter,
              List.filter_filter]
            exact List.filter_congr fun entry _ => Bool.and_comm ..
  · rw [closed_graft, closed_graft, closed_graft, closed_graft]
    cases closes with
    | false =>
        cases shuts with
        | false => exact .of_eq (Game.amongBusy_comm shuttered.busy differs.symm)
        | true => exact .of_eq (Game.amongBusy_append differs.symm)
    | true =>
        cases shuts with
        | false => exact .of_eq (Game.amongBusy_append differs).symm
        | true =>
            simp only [if_true, List.append_assoc]
            exact List.perm_append_comm.append_left _

end Lobby

end Netplay
