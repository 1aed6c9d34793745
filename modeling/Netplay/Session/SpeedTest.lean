/-
Module: Netplay.Session.SpeedTest
Purpose: Measuring how long a client takes to answer.
Main exports:
  SpeedTest, SpeedTest.start, SpeedTest.measure, SpeedTest.bestMillis,
  SpeedTest.averageMicros
-/

namespace Netplay

/-- A run of measurements: when it began, when the last answer came, how many
answers there were and the shortest interval between them.  Times are in
milliseconds. -/
structure SpeedTest where
  started : Nat
  last : Nat
  count : Nat
  best : Option Nat
deriving Repr, Inhabited, DecidableEq

namespace SpeedTest

/-- A run that begins now. -/
def start (now : Nat) : SpeedTest := ⟨now, now, 0, none⟩

/-- An answer comes now. -/
def measure (test : SpeedTest) (now : Nat) : SpeedTest :=
  let interval := now - test.last
  { test with
    last := now
    count := test.count + 1
    best := some ((test.best.map (min · interval)).getD interval) }

/-- The shortest interval, zero before the first answer. -/
def bestMillis (test : SpeedTest) : Nat := test.best.getD 0

/-- The average interval in whole microseconds, zero before the first
answer. -/
def averageMicros (test : SpeedTest) : Nat :=
  (test.last - test.started) * 1000 / test.count

end SpeedTest

end Netplay
