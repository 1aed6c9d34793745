/-
Module: Netplay.Lobby.Clock
Purpose: Merges of all games proceed, and time passes.
Main exports:
  Lobby.allGames, Lobby.turn, Lobby.settle, Lobby.nextDeadline?, Lobby.advance
-/
import Netplay.Lobby.Basic

namespace Netplay.Lobby

/-- The live games and the closed ones that still have merges in flight. -/
def allGames (lobby : Lobby) : List Game := lobby.games ++ lobby.closed

/-- Retry one merge of the given games, the first that can be retried. -/
def turnAmong (lobby : Lobby) (now : Nat) :
    List Game → Option (Lobby × List Letter × Option Finished)
  | [] => none
  | game :: rest =>
      match (lobby.room game).turn now with
      | some (room, letters, finished) =>
          some (lobby.withRoom room, letters, finished)
      | none => lobby.turnAmong now rest

/-- Retry one merge if there is one to be retried. -/
def turn (lobby : Lobby) (now : Nat) :
    Option (Lobby × List Letter × Option Finished) :=
  lobby.turnAmong now lobby.allGames

/-- Let the merges of the given games proceed as far as they can. -/
def settleGames (lobby : Lobby) (now : Nat) :
    List Game → Lobby × List Letter × List Finished
  | [] => (lobby, [], [])
  | game :: rest =>
      let (room, letters, finished) := (lobby.room game).settle now
      let (final, more, others) := (lobby.withRoom room).settleGames now rest
      (final, letters ++ more, finished ++ others)

/-- Let every merge proceed as far as it can at this instant. -/
def settle (lobby : Lobby) (now : Nat) :
    Lobby × List Letter × List Finished :=
  lobby.settleGames now lobby.allGames

/-- The earliest time at which a parked merge runs out of time. -/
def nextDeadline? (lobby : Lobby) : Option Nat :=
  (lobby.allGames.filterMap fun game =>
    (lobby.room game).nextDeadline?).min?

/-- The number of merges in flight. -/
def inFlight (lobby : Lobby) : Nat :=
  (lobby.allGames.flatMap (·.inFlight)).length

/-- Let time pass until `target`, stopping at most `stops` times on the way
where the time of a merge runs out. -/
def passTime (lobby : Lobby) (target : Nat) :
    Nat → Lobby × List Letter × List Finished
  | 0 => (lobby, [], [])
  | stops + 1 =>
      match lobby.nextDeadline? with
      | none => (lobby, [], [])
      | some deadline =>
          if target < deadline then (lobby, [], [])
          else
            let (after, letters, finished) := lobby.settle deadline
            let (final, more, others) := after.passTime target stops
            (final, letters ++ more, finished ++ others)

/-- Let time pass from `now` by `milliseconds`. -/
def advance (lobby : Lobby) (now milliseconds : Nat) :
    Lobby × List Letter × List Finished :=
  lobby.passTime (now + milliseconds)
    (lobby.inFlight * (milliseconds + 1) + 1)

end Netplay.Lobby
