import FiberBridge.Number.Double

namespace FiberBridge

structure Duration where
  nanos : Nat
deriving DecidableEq, Repr, Inhabited

inductive DurationFault where
  | negative
  | tooLarge
deriving DecidableEq, Repr

def DurationFault.message : DurationFault → String
  | negative => "cannot convert float seconds to Duration: value is negative"
  | tooLarge => "cannot convert float seconds to Duration: value is either too big or NaN"

namespace Duration

def nanosPerSecond : Nat := 1000000000

def secondsLimit : Nat := Nat.pow 2 64

def ofSeconds (x : Double) : Except DurationFault Duration :=
  let (num, den) := x.magnitude
  if x.isBelowZero then .error .negative
  else if secondsLimit * den ≤ num then .error .tooLarge
  else .ok ⟨roundDiv (num * nanosPerSecond) den⟩

theorem ofSeconds_eq_negative_iff {x : Double} :
    ofSeconds x = .error .negative ↔ x.isBelowZero = true := by
  unfold ofSeconds
  dsimp only
  split
  · simp_all
  · split <;> simp_all

theorem ofSeconds_eq_tooLarge_iff {x : Double} : ofSeconds x = .error .tooLarge ↔
    x.isBelowZero = false ∧ secondsLimit * x.magnitude.2 ≤ x.magnitude.1 := by
  unfold ofSeconds
  dsimp only
  split
  · simp_all
  · split <;> simp_all

-- What is accepted is off by half a nanosecond at most, and then even.
theorem ofSeconds_nearest {x : Double} {d : Duration} (fits : ofSeconds x = .ok d) :
    let (num, den) := x.magnitude
    2 * (d.nanos * den) ≤ 2 * (num * nanosPerSecond) + den ∧
      2 * (num * nanosPerSecond) ≤ 2 * (d.nanos * den) + den ∧
      (2 * (d.nanos * den) = 2 * (num * nanosPerSecond) + den ∨
        2 * (num * nanosPerSecond) = 2 * (d.nanos * den) + den → d.nanos % 2 = 0) := by
  have nanos : d.nanos = roundDiv (x.magnitude.1 * nanosPerSecond) x.magnitude.2 := by
    unfold ofSeconds at fits
    dsimp only at fits
    split at fits
    · cases fits
    · split at fits
      · cases fits
      · rw [← Except.ok.inj fits]
  dsimp only
  rw [nanos]
  obtain ⟨above, below⟩ := @roundDiv_nearest (x.magnitude.1 * nanosPerSecond) _ x.magnitude_positive
  exact ⟨above, below, roundDiv_even_of_tie x.magnitude_positive⟩

def padded (width n : Nat) : String :=
  let s := toString n
  String.ofList (List.replicate (width - s.length) '0') ++ s

def text (d : Duration) : String :=
  toString (d.nanos / nanosPerSecond) ++ "." ++ padded 9 (d.nanos % nanosPerSecond)

def millisCeil (d : Duration) : Nat := (d.nanos + 999999) / 1000000

def clockLimit : Nat := Nat.pow 2 63

def thirtyYears : Duration := ⟨30 * 365 * 86400 * nanosPerSecond⟩

-- How long a clock waits. A wait that would take it past its end is cut to thirty years.
def clocked (d : Duration) : Duration :=
  if clockLimit * nanosPerSecond ≤ d.nanos then thirtyYears else d

end Duration

end FiberBridge
