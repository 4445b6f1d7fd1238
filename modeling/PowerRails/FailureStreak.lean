import PowerRails.Finding

/-! # Failure streaks

Monitoring is repeated all the time, and a flaky bus would drown everything else if each failure were reported
alike. The failures of a device that follow on one another are counted: those below a limit are reported as
warnings, the one that reaches it as an error, and later ones not at all until the streak is over. -/

namespace PowerRails

/-- The failures of one device since it was last monitored without one. The count stops at the greatest value
of 64 bits. -/
structure FailureStreak where
  count : Nat := 0
  /-- Whether the error has been reported. -/
  reported : Bool := false
deriving DecidableEq, Repr

/-- How one more failure is reported. -/
inductive Escalation where
  | warn
  | log
  | suppress
deriving DecidableEq, Repr

namespace Escalation

def name : Escalation → String
  | .warn => "warn"
  | .log => "log"
  | .suppress => "suppress"

/-- The severity of the finding to make, if any is to be made. -/
def severity? : Escalation → Option Severity
  | .warn => some .warning
  | .log => some .error
  | .suppress => none

end Escalation

namespace FailureStreak

/-- The count at which counting stops. -/
def maxCount : Nat := 0xFFFFFFFFFFFFFFFF

/-- One more failure, under the limit in force. -/
def recordFailure (streak : FailureStreak) (limit : Nat) : Escalation × FailureStreak :=
  let count := min (streak.count + 1) maxCount
  if streak.reported then (.suppress, { streak with count })
  else if limit ≤ count then (.log, { count, reported := true })
  else (.warn, { streak with count })

theorem reported_recordFailure (streak : FailureStreak) (limit : Nat) :
    (streak.recordFailure limit).2.reported = true ↔
      streak.reported = true ∨ (streak.recordFailure limit).1 = .log := by
  unfold recordFailure
  by_cases hr : streak.reported = true
  · simp [hr]
  · by_cases hl : limit ≤ min (streak.count + 1) maxCount <;> simp [hr, hl]

end FailureStreak
end PowerRails
