import CodeTree.Number.Text
import CodeTree.Text.Blank
import CodeTree.Text.Digit

/-! Numerals: the spellings of integers and of decimal fractions, with digits of any script. -/
namespace CodeTree.Number
open CodeTree.Text

/-- A spelling by its digit values. -/
inductive Numeral
  | integer (negative : Bool) (digits : List Nat)
  | fraction (negative : Bool) (whole part : List Nat) (exponent : Int)
deriving DecidableEq

/-- The digits at the front of a text, by value, and what follows them. -/
def digitRun : List Char → List Nat × List Char
  | [] => ([], [])
  | c :: rest =>
    match digitValue? c with
    | some d => let (ds, after) := digitRun rest; (d :: ds, after)
    | none => ([], c :: rest)

/-- An optional sign, true for minus, and what follows it. -/
def signRun : List Char → Bool × List Char
  | '-' :: rest => (true, rest)
  | '+' :: rest => (false, rest)
  | cs => (false, cs)

/-- An exponent part that takes the whole text: nothing, or `e` and a signed integer. -/
def exponentPart? : List Char → Option (Option Int)
  | [] => some none
  | c :: rest =>
    if c = 'e' ∨ c = 'E' then
      let (negative, rest) := signRun rest
      match digitRun rest with
      | ([], _) => none
      | (ds, []) => some (some (if negative then -(digitsValue ds : Int) else digitsValue ds))
      | _ => none
    else none

namespace Numeral

/-- Reads a text that is a numeral from end to end. -/
def ofChars? (cs : List Char) : Option Numeral :=
  let (negative, cs) := signRun cs
  let (whole, cs) := digitRun cs
  match cs with
  | '.' :: cs =>
    let (part, cs) := digitRun cs
    if whole.isEmpty && part.isEmpty then none
    else (exponentPart? cs).map fun e => .fraction negative whole part (e.getD 0)
  | cs =>
    if whole.isEmpty then none
    else (exponentPart? cs).map fun
      | some e => .fraction negative whole [] e
      | none => .integer negative whole

def isOverlong : Numeral → Bool
  | .integer _ digits => integerDigitLimit < digits.length
  | .fraction .. => false

def toBinary64 : Numeral → Binary64
  | .integer negative digits => Decimal.toBinary64 negative ⟨digitsValue digits, 0⟩
  | .fraction negative whole part e =>
    Decimal.toBinary64 negative ⟨digitsValue (whole ++ part), e - part.length⟩

end Numeral

def signed (negative : Bool) (n : Nat) : Int :=
  if negative then -(n : Int) else n

/-- White space that may surround a numeral: the common controls, and blanks outside ASCII. -/
def isPadding (c : Char) : Bool :=
  c == ' ' || (0x09 ≤ c.toNat && c.toNat ≤ 0x0D) || (0x80 ≤ c.toNat && isBlank c)

def trimPadding (cs : List Char) : List Char :=
  ((cs.dropWhile isPadding).reverse.dropWhile isPadding).reverse

/-- Removes the underscores that stand between two digits; any other one is refused. -/
def dropSeparators? : List Char → Option (List Char)
  | [] => some []
  | '_' :: _ => none
  | c :: '_' :: d :: rest =>
    if isDigit c && isDigit d then (dropSeparators? (d :: rest)).map (c :: ·) else none
  | c :: rest => (dropSeparators? rest).map (c :: ·)

/-- An integer as people type it: padded, signed, with separators, and not too long. -/
def typedInteger? (cs : List Char) : Option Int := do
  match ← Numeral.ofChars? (← dropSeparators? (trimPadding cs)) with
  | .integer negative digits =>
    if integerDigitLimit < digits.length then none else some (signed negative (digitsValue digits))
  | .fraction .. => none

/-- The names of the numbers that are not finite, in any mixture of capitals. -/
def namedNumber? (cs : List Char) : Option Binary64 :=
  let (negative, name) := signRun cs
  let name := String.ofList (name.map Char.toLower)
  if name = "inf" ∨ name = "infinity" then some (.infinite negative)
  else if name = "nan" then some .nan
  else none

/-- A floating-point number as people type it. -/
def typedFloat? (cs : List Char) : Option Binary64 := do
  let cs ← dropSeparators? (trimPadding cs)
  namedNumber? cs <|> (Numeral.ofChars? cs).map Numeral.toBinary64

end CodeTree.Number
