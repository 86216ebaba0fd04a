import FiberBridge.Number.Double

namespace FiberBridge

inductive Tie where
  | even
  | up
deriving DecidableEq, Repr

def Tie.round (tie : Tie) (num den : Nat) : Nat :=
  match tie with
  | even => roundDiv num den
  | up => (2 * num + den) / (2 * den)

structure Decimal where
  digits : Nat
  exponent : Int
deriving DecidableEq, Repr

def Decimal.trim : Nat → Decimal → Decimal
  | 0, d => d
  | fuel + 1, d =>
    if d.digits ≠ 0 ∧ d.digits % 10 = 0 then trim fuel ⟨d.digits / 10, d.exponent + 1⟩ else d

namespace Double

-- All comparisons below are in quarters of the last binary place, so that the half-way points to
-- both neighbours are whole; below a power of two the lower one is only a quarter away.

def bounds (x : Double) : Nat × Nat :=
  let narrow := x.mantissa = Nat.pow 2 52 ∧ minExponent < x.exponent
  (4 * x.mantissa - (if narrow then 1 else 2), 4 * x.mantissa + 2)

def onGrid (x : Double) (g : Nat) (k : Int) : Nat × Nat :=
  let (unit, unitDen) := scale 1 1 (x.exponent - 2)
  let (ten, tenDen) : Nat × Nat :=
    if 0 ≤ k then (Nat.pow 10 k.toNat, 1) else (1, Nat.pow 10 (-k).toNat)
  (g * ten * unitDen, unit * tenDen)

def readsBack (x : Double) (g : Nat) (k : Int) : Bool :=
  let (spot, unit) := x.onGrid g k
  let (lo, hi) := x.bounds
  if x.mantissa % 2 = 0 then lo * unit ≤ spot && spot ≤ hi * unit
  else lo * unit < spot && spot < hi * unit

def leading (x : Double) : Int :=
  let (num, den) := x.magnitude
  if den ≤ num then ((toString (num / den)).length : Int) - 1
  else
    let t := (toString (den / num)).length
    if den ≤ num * Nat.pow 10 (t - 1) then -((t : Int) - 1) else -(t : Int)

def onGrid? (x : Double) (tie : Tie) (k : Int) : Option Decimal :=
  let (num, den) := x.magnitude
  let (num, den) :=
    if 0 ≤ k then (num, den * Nat.pow 10 k.toNat) else (num * Nat.pow 10 (-k).toNat, den)
  let below := num / den
  let near := tie.round num den
  let far := if near = below then below + 1 else below
  if x.readsBack near k then some ⟨near, k⟩
  else if x.readsBack far k then some ⟨far, k⟩
  else none

-- Tries grids from coarse to fine; the finest wanted has 17 digits and always hits.
def shortestFrom (x : Double) (tie : Tie) : Nat → Int → Decimal
  | 0, k =>
    ⟨roundDiv (x.magnitude.1 * Nat.pow 10 (-k).toNat) (x.magnitude.2 * Nat.pow 10 k.toNat), k⟩
  | fuel + 1, k => (x.onGrid? tie k).getD (shortestFrom x tie fuel (k - 1))

def shortest (x : Double) (tie : Tie) : Decimal :=
  if x.mantissa = 0 then ⟨0, 0⟩ else (x.shortestFrom tie 17 x.leading).trim 400

end Double

structure Layout where
  positional : Option (Int × Int)
  pointAlways : Bool
  tie : Tie

def Layout.document : Layout := ⟨some (-5, 15), true, .even⟩

def Layout.plain : Layout := ⟨none, false, .up⟩

namespace Layout

def zeros (n : Nat) : String := String.ofList (List.replicate n '0')

def writePositional (l : Layout) (digits : String) (exponent : Int) : String :=
  let places : Int := digits.length + exponent
  if 0 ≤ exponent then digits ++ zeros exponent.toNat ++ (if l.pointAlways then ".0" else "")
  else if 0 < places then
    let cs := digits.toList
    String.ofList (cs.take places.toNat) ++ "." ++ String.ofList (cs.drop places.toNat)
  else "0." ++ zeros (-places).toNat ++ digits

def writeExponent (digits : String) (exponent : Int) : String :=
  let lead : Int := digits.length + exponent - 1
  let cs := digits.toList
  let rest := cs.drop 1
  let mantissa :=
    String.ofList (cs.take 1) ++ (if rest.isEmpty then "" else "." ++ String.ofList rest)
  mantissa ++ "e" ++ (if lead < 0 then "-" else "+") ++ toString lead.natAbs

def write (l : Layout) (x : Double) : String :=
  let d := x.shortest l.tie
  let digits := toString d.digits
  let lead : Int := digits.length + d.exponent - 1
  let inside := match l.positional with
    | none => true
    | some (low, high) => low ≤ lead && lead ≤ high
  (if x.negative then "-" else "") ++
    (if inside then l.writePositional digits d.exponent else writeExponent digits d.exponent)

end Layout

end FiberBridge
