import FleetHealth.Time.Calendar
import FleetHealth.Time.Duration
/-!
Points in time: seconds since 1970-01-01T00:00:00 in universal time, and the nanoseconds beyond
them. A leap second is the last second of a minute made longer, so its nanoseconds run on to two
seconds.
-/

namespace FleetHealth

/-- The first second of the year -262143. -/
def Instant.minSeconds : Int := -8334601228800

/-- The last second of the year 262142. -/
def Instant.maxSeconds : Int := 8210266876799

def secondsPerDay : Nat := 86400

example : Instant.minSeconds = (Date.mk (-262143) 1 1).toDays * secondsPerDay := by decide
example : Instant.maxSeconds = ((Date.mk 262143 1 1).toDays) * secondsPerDay - 1 := by decide

def Instant.InRange (seconds : Int) (nanos : Nat) : Prop :=
  minSeconds ≤ seconds ∧ seconds ≤ maxSeconds ∧ nanos < 2 * nanosPerSecond ∧
    (nanosPerSecond ≤ nanos → seconds % 60 = 59)

instance (seconds : Int) (nanos : Nat) : Decidable (Instant.InRange seconds nanos) := by
  unfold Instant.InRange; infer_instance

@[ext] structure Instant where
  seconds : Int
  nanos : Nat
  inRange : Instant.InRange seconds nanos
  deriving DecidableEq

namespace Instant

def ofParts? (seconds : Int) (nanos : Nat) : Option Instant :=
  if h : InRange seconds nanos then some ⟨seconds, nanos, h⟩ else none

def epoch : Instant := ⟨0, 0, by decide⟩

instance : Inhabited Instant := ⟨epoch⟩

def isLeap (t : Instant) : Bool := nanosPerSecond ≤ t.nanos

def secondOfDay (t : Instant) : Int := t.seconds % secondsPerDay

/-- The second that a leap second adds to a difference: it counts when the clock went past it. -/
def leapAdjustment (later earlier : Instant) : Int :=
  if earlier.secondOfDay < later.secondOfDay ∧ earlier.isLeap then 1
  else if later.secondOfDay < earlier.secondOfDay ∧ later.isLeap then -1
  else 0

def nanosSince (later earlier : Instant) : Int :=
  (later.seconds - earlier.seconds + leapAdjustment later earlier) * nanosPerSecond
    + (later.nanos - earlier.nanos)

/-- The time passed since an instant; none if it is still to come. -/
def elapsedSince (now since : Instant) : Duration :=
  Duration.ofNanosClamped (now.nanosSince since).toNat

theorem nanosSince_of_not_leap {later earlier : Instant} (h : later.isLeap = false)
    (h' : earlier.isLeap = false) :
    later.nanosSince earlier = (later.seconds * nanosPerSecond + later.nanos)
      - (earlier.seconds * nanosPerSecond + earlier.nanos) := by
  simp only [nanosSince, leapAdjustment, h, h']
  simp only [Bool.false_eq_true, and_false, if_false, Int.add_zero, Int.sub_mul]
  omega

theorem nanos_elapsedSince (now since : Instant) :
    (now.elapsedSince since).nanos = (now.nanosSince since).toNat := by
  obtain ⟨s, n, h⟩ := now
  obtain ⟨s', n', h'⟩ := since
  have adj : leapAdjustment ⟨s, n, h⟩ ⟨s', n', h'⟩ ≤ 1 := by
    unfold leapAdjustment
    split
    · omega
    · split <;> omega
  simp only [elapsedSince, Duration.ofNanosClamped]
  refine Nat.min_eq_left ?_
  simp only [InRange, minSeconds, maxSeconds] at h h'
  simp only [nanosSince, nanosPerSecond, Duration.limit] at h h' ⊢
  omega

end Instant

end FleetHealth
