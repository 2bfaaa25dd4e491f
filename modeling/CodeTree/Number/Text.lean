import CodeTree.Number.Decimal

/-! How numbers are written. -/
namespace CodeTree.Number

/-- Longest integer, in digits, that is converted between text and number. -/
def integerDigitLimit : Nat := 4300

/-- An integer in decimal digits, unless it is too long to be converted. -/
def integerText? (n : Int) : Option (List Char) :=
  let digits := Nat.toDigits 10 n.natAbs
  if digits.length ≤ integerDigitLimit then some (if n < 0 then '-' :: digits else digits) else none

def stripTrailingZeros (digits : List Char) : List Char :=
  (digits.reverse.dropWhile (· == '0')).reverse

/-- Positional text of the digits of a number below one or not, by the place of the point. -/
def positionalText (digits : List Char) (point : Int) : List Char :=
  if point ≤ 0 then '0' :: '.' :: List.replicate (-point).toNat '0' ++ digits
  else if point < digits.length then digits.take point.toNat ++ '.' :: digits.drop point.toNat
  else digits ++ List.replicate (point.toNat - digits.length) '0' ++ ['.', '0']

/-- Text with one digit before the point and an exponent of at least two digits. -/
def scientificText (digits : List Char) (point : Int) : List Char :=
  let power := point - 1
  let places := Nat.toDigits 10 power.natAbs
  let mantissa := match digits with
    | d :: rest@(_ :: _) => d :: '.' :: rest
    | ds => ds
  mantissa ++ 'e' :: (if power < 0 then '-' else '+') ::
    (if places.length < 2 then '0' :: places else places)

/-- Numbers from `10 ^ (-4)` up to `10 ^ 16` are written positionally. -/
def magnitudeText (magnitude : Fin magnitudeBound) : List Char :=
  if magnitude.val = 0 then ['0', '.', '0']
  else
    let d := shortestDecimal magnitude
    let all := Nat.toDigits 10 d.coefficient
    let point := all.length + d.exponent
    let digits := stripTrailingZeros all
    if -4 < point ∧ point ≤ 16 then positionalText digits point else scientificText digits point

namespace Binary64

/-- The shortest text that reads back as the same number. -/
def text : Binary64 → List Char
  | .nan => ['n', 'a', 'n']
  | .infinite negative => if negative then ['-', 'i', 'n', 'f'] else ['i', 'n', 'f']
  | .finite negative m => if negative then '-' :: magnitudeText m else magnitudeText m

end Binary64
end CodeTree.Number
