import CodeTree.Number.Binary64

/-! Decimal numbers and the shortest one that denotes a given binary number. -/
namespace CodeTree.Number

/-- The number `coefficient * 10 ^ exponent`. -/
structure Decimal where
  coefficient : Nat
  exponent : Int
deriving DecidableEq

namespace Decimal

/-- The binary number nearest to a decimal. Exponents far outside the range are decided without
computing the power. -/
def toBinary64 (negative : Bool) (d : Decimal) : Binary64 :=
  if d.coefficient = 0 then .zero negative
  else if 400 < d.exponent then .infinite negative
  else if d.exponent < -(400 + d.coefficient.log2 : Int) then .zero negative
  else
    .ofRatio negative (d.coefficient * Nat.pow 10 d.exponent.toNat)
      (Nat.pow 10 (-d.exponent).toNat)

end Decimal

/-- Number of decimal digits; zero has none. -/
def digitCount (n : Nat) : Nat :=
  if n = 0 then 0 else (Nat.toDigits 10 n).length

/-- The `k` with `10 ^ (k - 1) ≤ num / den < 10 ^ k`. -/
def decimalPoint (num den : Nat) : Int :=
  if den ≤ num then digitCount (num / den)
  else 1 - (digitCount ((den + num - 1) / num - 1) : Int)

/-- The decimal of `digits` digits that denotes a magnitude, the nearer one if both neighbours of
the magnitude do; ties go to the even coefficient. -/
def decimalAt? (magnitude : Fin magnitudeBound) (digits : Nat) : Option Decimal :=
  let (num, den) := ratioOf magnitude
  let e := decimalPoint num den - digits
  let a := num * Nat.pow 10 (-e).toNat
  let b := den * Nat.pow 10 e.toNat
  let below : Decimal := ⟨a / b, e⟩
  let above : Decimal := ⟨a / b + 1, e⟩
  let candidates := if roundDivEven a b = a / b then [below, above] else [above, below]
  candidates.find? fun d => d.toBinary64 false == .finite false magnitude

def exactDecimal (magnitude : Nat) : Decimal :=
  let e := binaryExponent magnitude
  ⟨significand magnitude * Nat.pow 2 e.toNat * Nat.pow 5 (-e).toNat, min e 0⟩

/-- The decimal with the fewest digits that denotes a magnitude, the nearest of those. -/
def shortestDecimal (magnitude : Fin magnitudeBound) : Decimal :=
  ((List.range 17).findSome? fun n => decimalAt? magnitude (n + 1)).getD (exactDecimal magnitude)

end CodeTree.Number
