/-!
# Deadlines

The time that a call may take, and its text on the wire: a whole number of at most eight digits
and the letter of a unit. `Duration.finest?` takes the finest unit whose number fits.
-/

namespace Courier

/-- A length of time in whole nanoseconds. -/
structure Duration where
  nanos : Nat
  deriving DecidableEq

namespace Duration

def ofMillis (n : Nat) : Duration := ⟨1000000 * n⟩

def ofParts (secs nanos : Nat) : Duration := ⟨1000000000 * secs + nanos⟩

/-- The whole seconds. -/
def secs (d : Duration) : Nat := d.nanos / 1000000000

/-- The nanoseconds beyond the whole seconds. -/
def subsecNanos (d : Duration) : Nat := d.nanos % 1000000000

end Duration

/-- The units of a deadline, finest first. -/
inductive TimeUnit where
  | nanosecond | microsecond | millisecond | second | minute | hour
  deriving DecidableEq

namespace TimeUnit

def all : List TimeUnit := [.nanosecond, .microsecond, .millisecond, .second, .minute, .hour]

/-- The nanoseconds in a unit. -/
def nanos : TimeUnit → Nat
  | .nanosecond => 1
  | .microsecond => 1000
  | .millisecond => 1000000
  | .second => 1000000000
  | .minute => 60000000000
  | .hour => 3600000000000

def letter : TimeUnit → Char
  | .nanosecond => 'n'
  | .microsecond => 'u'
  | .millisecond => 'm'
  | .second => 'S'
  | .minute => 'M'
  | .hour => 'H'

theorem nanos_pos (u : TimeUnit) : 0 < u.nanos := by cases u <;> decide

end TimeUnit

namespace Duration

/-- The largest number of units that a deadline may say. -/
def maxCount : Nat := 99999999

/-- The whole units in a duration, if their number fits. -/
def count? (d : Duration) (u : TimeUnit) : Option (Nat × TimeUnit) :=
  if d.nanos / u.nanos ≤ maxCount then some (d.nanos / u.nanos, u) else none

/-- The duration in the finest unit whose number fits. -/
def finest? (d : Duration) : Option (Nat × TimeUnit) := TimeUnit.all.findSome? d.count?

/-- The text of a deadline, if there is a unit for it. -/
def deadline? (d : Duration) : Option String :=
  d.finest?.map fun (n, u) => toString n ++ String.singleton u.letter

theorem count?_eq_none_iff {d : Duration} {u : TimeUnit} :
    d.count? u = none ↔ maxCount < d.nanos / u.nanos := by
  simp [count?]

/-- A duration has a text exactly when its whole hours fit. -/
theorem finest?_eq_none_iff {d : Duration} :
    d.finest? = none ↔ maxCount < d.nanos / TimeUnit.hour.nanos := by
  simp only [finest?, TimeUnit.all, List.findSome?_eq_none_iff, count?_eq_none_iff,
    List.forall_mem_cons, TimeUnit.nanos, maxCount]
  constructor
  · exact fun h => h.2.2.2.2.2.1
  · intro h
    refine ⟨?_, ?_, ?_, ?_, ?_, ?_, by simp⟩ <;> omega

end Duration

end Courier
