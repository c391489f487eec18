namespace FleetHealth

def nanosPerSecond : Nat := 1000000000

def Duration.limit : Nat := 0x10000000000000000 * nanosPerSecond

@[ext] structure Duration where
  nanos : Nat
  nanos_lt : nanos < Duration.limit
  deriving DecidableEq

namespace Duration

def ofNanos? (n : Nat) : Option Duration :=
  if h : n < limit then some ⟨n, h⟩ else none

/-- The span of so many nanoseconds, or the longest one if that is shorter. -/
def ofNanosClamped (n : Nat) : Duration :=
  ⟨min n (limit - 1), Nat.lt_of_le_of_lt (Nat.min_le_right ..) (by decide)⟩

def ofSeconds (n : Nat) : Duration := ofNanosClamped (n * nanosPerSecond)

def zero : Duration := ⟨0, by decide⟩

def max : Duration := ⟨limit - 1, by decide⟩

instance : Inhabited Duration := ⟨zero⟩

instance : LE Duration := ⟨fun a b => a.nanos ≤ b.nanos⟩
instance : LT Duration := ⟨fun a b => a.nanos < b.nanos⟩
instance (a b : Duration) : Decidable (a ≤ b) := inferInstanceAs (Decidable (a.nanos ≤ b.nanos))
instance (a b : Duration) : Decidable (a < b) := inferInstanceAs (Decidable (a.nanos < b.nanos))

theorem le_def {a b : Duration} : a ≤ b ↔ a.nanos ≤ b.nanos := Iff.rfl
theorem lt_def {a b : Duration} : a < b ↔ a.nanos < b.nanos := Iff.rfl

/-- What is left of a span after another one; nothing if the other is not shorter. -/
def minus (a b : Duration) : Duration :=
  ⟨a.nanos - b.nanos, Nat.lt_of_le_of_lt (Nat.sub_le ..) a.nanos_lt⟩

def shorter (a b : Duration) : Duration := if b < a then b else a

@[simp] theorem nanos_zero : zero.nanos = 0 := rfl
@[simp] theorem nanos_minus (a b : Duration) : (a.minus b).nanos = a.nanos - b.nanos := rfl

@[simp] theorem nanos_shorter (a b : Duration) : (a.shorter b).nanos = min a.nanos b.nanos := by
  rw [shorter]
  by_cases less : b < a
  · rw [if_pos less, Nat.min_eq_right (Nat.le_of_lt less)]
  · rw [if_neg less, Nat.min_eq_left (Nat.le_of_not_lt less)]

theorem ofNanos?_eq_some_iff {n : Nat} {d : Duration} : ofNanos? n = some d ↔ d.nanos = n := by
  unfold ofNanos?
  split
  · simp [Duration.ext_iff, eq_comm]
  · have := d.nanos_lt
    simp only [reduceCtorEq, false_iff]
    omega

def seconds (d : Duration) : Nat := d.nanos / nanosPerSecond

def subsecond (d : Duration) : Nat := d.nanos % nanosPerSecond

/-- The units in which spans are shown, longest first: nanoseconds in one, and digits after the
point. -/
def displayUnits : List (Nat × Nat × String) :=
  [(1000000000, 9, "s"), (1000000, 6, "ms"), (1000, 3, "µs"), (1, 0, "ns")]

def inUnit (n scale places : Nat) : String :=
  let digits := (toString (n % scale)).toList
  let fraction := List.replicate (places - digits.length) '0' ++ digits
  let kept := (fraction.reverse.dropWhile (· == '0')).reverse
  toString (n / scale) ++ (if n % scale = 0 then "" else "." ++ String.ofList kept)

/-- The span in the longest unit that fits into it at least once. -/
def render (d : Duration) : String :=
  match displayUnits.find? (fun u => u.1 ≤ d.nanos) with
  | some (scale, places, unit) => inUnit d.nanos scale places ++ unit
  | none => "0ns"

end Duration

end FleetHealth
