namespace FiberBridge

def roundDiv (num den : Nat) : Nat :=
  let q := num / den
  let rest := 2 * (num % den)
  if den < rest ∨ (rest = den ∧ q % 2 = 1) then q + 1 else q

theorem roundDiv_nearest {num den : Nat} (positive : 0 < den) :
    2 * (roundDiv num den * den) ≤ 2 * num + den ∧ 2 * num ≤ 2 * (roundDiv num den * den) + den := by
  have parts := Nat.div_add_mod' num den
  have rest := Nat.mod_lt num positive
  unfold roundDiv
  by_cases up : den < 2 * (num % den) ∨ (2 * (num % den) = den ∧ num / den % 2 = 1)
  · rw [if_pos up, Nat.add_mul]
    omega
  · rw [if_neg up]
    omega

theorem roundDiv_even_of_tie {num den : Nat} (positive : 0 < den)
    (tie : 2 * (roundDiv num den * den) = 2 * num + den ∨ 2 * num = 2 * (roundDiv num den * den) + den) :
    roundDiv num den % 2 = 0 := by
  have parts := Nat.div_add_mod' num den
  have rest := Nat.mod_lt num positive
  unfold roundDiv at tie ⊢
  by_cases up : den < 2 * (num % den) ∨ (2 * (num % den) = den ∧ num / den % 2 = 1)
  · rw [if_pos up, Nat.add_mul] at tie
    rw [if_pos up]
    omega
  · rw [if_neg up] at tie ⊢
    omega

-- A finite binary64 number as an exact value. Infinities and NaN are none: what would round to one
-- is refused. Zero keeps its sign.
structure Double where
  negative : Bool
  mantissa : Nat
  exponent : Int
deriving DecidableEq, Repr

namespace Double

def zero (negative : Bool) : Double := ⟨negative, 0, -1074⟩

instance : Inhabited Double := ⟨zero false⟩

def minExponent : Int := -1074

def maxExponent : Int := 971

def scale (num den : Nat) (e : Int) : Nat × Nat :=
  if 0 ≤ e then (num * Nat.pow 2 e.toNat, den)
  else (num, den * Nat.pow 2 (-e).toNat)

def ofRatio? (negative : Bool) (num den : Nat) : Option Double :=
  if num = 0 ∨ den = 0 then some (zero negative)
  else
    let guess : Int := (num.log2 : Int) - den.log2 - 52
    let (a, b) := scale num den (-guess)
    let e := max (if a < b * Nat.pow 2 52 then guess - 1 else guess) minExponent
    let (a, b) := scale num den (-e)
    let m := roundDiv a b
    let (m, e) := if m = Nat.pow 2 53 then (Nat.pow 2 52, e + 1) else (m, e)
    if maxExponent < e then none else some ⟨negative, m, e⟩

def ofInt (n : Int) : Double :=
  (ofRatio? (n < 0) n.natAbs 1).getD (zero false)

-- The double nearest to `± digits · 10 ^ exponent`. The exponents that decide without arithmetic
-- are decided first, so that a long exponent costs nothing.
def ofDecimal? (negative : Bool) (digits : Nat) (exponent : Int) : Option Double :=
  if digits = 0 then some (zero negative)
  else
    let top : Int := (toString digits).length + exponent
    if 310 < top then none
    else if top < -330 then some (zero negative)
    else if 0 ≤ exponent then ofRatio? negative (digits * Nat.pow 10 exponent.toNat) 1
    else ofRatio? negative digits (Nat.pow 10 (-exponent).toNat)

def toBits (x : Double) : UInt64 :=
  let sign : Nat := if x.negative then Nat.pow 2 63 else 0
  let body : Nat :=
    if x.mantissa < Nat.pow 2 52 then x.mantissa
    else ((x.exponent - minExponent + 1).toNat) * Nat.pow 2 52 + (x.mantissa - Nat.pow 2 52)
  UInt64.ofNat (sign + body)

def isBelowZero (x : Double) : Bool := x.negative && x.mantissa ≠ 0

def magnitude (x : Double) : Nat × Nat := scale x.mantissa 1 x.exponent

theorem magnitude_positive (x : Double) : 0 < x.magnitude.2 := by
  unfold magnitude scale
  split
  · exact Nat.one_pos
  · exact Nat.mul_pos Nat.one_pos (Nat.pow_pos Nat.two_pos)

end Double

end FiberBridge
