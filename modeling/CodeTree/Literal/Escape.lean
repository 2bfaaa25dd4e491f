import CodeTree.Text.Base
import CodeTree.Text.CharacterName

/-! Backslash escapes inside string literals. They may give any code point, also halves of pairs,
which are no characters. -/
namespace CodeTree.Literal
open Text

/-- A code point, unless it is past the last one. -/
def codePoint? (n : Nat) : Option Nat :=
  if n < 0x110000 then some n else none

/-- The code point that one letter after a backslash stands for. -/
def letterEscape? (c : Char) : Option Nat :=
  match c with
  | '\\' | '"' => some c.toNat
  | 'a' => some 0x07
  | 'b' => some 0x08
  | 't' => some 0x09
  | 'n' => some 0x0A
  | 'v' => some 0x0B
  | 'f' => some 0x0C
  | 'r' => some 0x0D
  | c => if c.toNat = 0x27 then some 0x27 else none

def isOctal (c : Char) : Bool :=
  (baseDigit? 8 c).isSome

/-- The code point that is written by exactly `width` digits. -/
def hexEscape? (width : Nat) (cs : List Char) : Option (List Nat × Nat) := do
  let digits := cs.take width
  if digits.length < width then none
  else return ([← codePoint? (← baseNumber? 16 digits)], width + 1)

/-- The character whose name stands between braces. -/
def nameEscape? : List Char → Option (List Nat × Nat)
  | '{' :: cs => do
    let name := cs.takeWhile (· != '}')
    if name.length < cs.length then return ([(← characterNamed? name).toNat], name.length + 3)
    else none
  | _ => none

/-- What the characters after a backslash stand for, and how many of them are used up. Codes of more
than two digits and names are known only in `wide` literals. Any other letter keeps its
backslash. -/
def escape? (wide : Bool) : List Char → Option (List Nat × Nat)
  | [] => some (['\\'.toNat], 0)
  | c :: rest =>
    if c = '\n' then some ([], 1)
    else if c = 'x' then hexEscape? 2 rest
    else if wide ∧ c = 'u' then hexEscape? 4 rest
    else if wide ∧ c = 'U' then hexEscape? 8 rest
    else if wide ∧ c = 'N' then nameEscape? rest
    else if isOctal c then do
      let digits := ((c :: rest).takeWhile isOctal).take 3
      return ([← baseNumber? 8 digits], digits.length)
    else match letterEscape? c with
      | some e => some ([e], 1)
      | none => some (['\\'.toNat, c.toNat], 1)

/-- The code points of a literal with its escapes replaced; none if one of them is malformed. -/
def decodeEscapes (wide : Bool) : List Char → Option (List Nat)
  | [] => some []
  | c :: rest =>
    if c = '\\' then do
      let (codes, used) ← escape? wide rest
      return codes ++ (← decodeEscapes wide (rest.drop used))
    else (decodeEscapes wide rest).map (c.toNat :: ·)
termination_by cs => cs.length
decreasing_by
  all_goals simp only [List.length_drop, List.length_cons]; omega

end CodeTree.Literal
