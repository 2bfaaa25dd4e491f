/-! Binary floating-point numbers of 64 bits, computed with exact natural numbers. -/
namespace CodeTree.Number

/-- Number of magnitudes between a power of two and the next one, `2 ^ 52`. -/
def binade : Nat := 4503599627370496

/-- Exclusive bound of the codes of finite magnitudes. -/
def magnitudeBound : Nat := 2047 * binade

/-- A 64-bit binary number. Finite magnitudes are coded in increasing order, so that every number
has one code; there is one NaN. -/
inductive Binary64
  | nan
  | infinite (negative : Bool)
  | finite (negative : Bool) (magnitude : Fin magnitudeBound)
deriving DecidableEq

/-- The integer significand of a magnitude, with the implicit leading bit. -/
def significand (magnitude : Nat) : Nat :=
  if magnitude < binade then magnitude else binade + magnitude % binade

/-- The exponent of two that goes with `significand`. -/
def binaryExponent (magnitude : Nat) : Int :=
  if magnitude < binade then -1074 else (magnitude / binade : Nat) - 1075

/-- The exact value of a magnitude as numerator and denominator. -/
def ratioOf (magnitude : Nat) : Nat × Nat :=
  let e := binaryExponent magnitude
  (significand magnitude * Nat.pow 2 e.toNat, Nat.pow 2 (-e).toNat)

/-- Quotient rounded to the nearest natural number; a half goes to the even neighbour. -/
def roundDivEven (a b : Nat) : Nat :=
  let q := a / b
  let r := a % b
  if 2 * r < b then q else if b < 2 * r then q + 1 else q + q % 2

/-- The greatest `k` with `2 ^ k ≤ num / den`. -/
def ratioLog2 (num den : Nat) : Int :=
  let k : Int := (num.log2 : Int) - den.log2
  if den * Nat.pow 2 k.toNat ≤ num * Nat.pow 2 (-k).toNat then k else k - 1

/-- The code nearest to a positive ratio, ties to even, before the check for overflow. -/
def nearestMagnitude (num den : Nat) : Nat :=
  let e := max (-1074) (ratioLog2 num den - 52)
  (e + 1074).toNat * binade +
    roundDivEven (num * Nat.pow 2 (-e).toNat) (den * Nat.pow 2 e.toNat)

namespace Binary64

def zero (negative : Bool) : Binary64 := .finite negative ⟨0, by decide⟩

/-- The number nearest to a ratio; what rounds past the greatest finite number is infinite. -/
def ofRatio (negative : Bool) (num den : Nat) : Binary64 :=
  if num = 0 then zero negative
  else if h : nearestMagnitude num den < magnitudeBound then .finite negative ⟨_, h⟩
  else .infinite negative

def equalsInt : Binary64 → Int → Bool
  | .finite negative m, n =>
    let (num, den) := ratioOf m
    (if negative then -(num : Int) else num) == n * den
  | _, _ => false

/-- Numerical equality: the two zeros are equal, and NaN equals nothing. -/
def equals : Binary64 → Binary64 → Bool
  | .nan, _ => false
  | .finite s m, .finite t n => m == n && (s == t || m.val == 0)
  | x, y => x == y

def isZero : Binary64 → Bool
  | .finite _ m => m.val == 0
  | _ => false

end Binary64
end CodeTree.Number
