import CodeTree.Literal.Escape
import CodeTree.Literal.Token

/-! Strings with fields: text in which braces hold expressions, each with an optional conversion and
an optional format. Their value is never constant, so only their form is checked. -/
namespace CodeTree.Literal

def isBrace (c : Char) : Bool :=
  c == '{' || c == '}'

/-- The text before the next field, and what follows it, which is nothing or starts with a brace.
Braces that stand twice are text, if `doubled` allows it. An escaped brace is a brace, but the
braces of a named character belong to the text. -/
def fieldText (raw doubled : Bool) (cs : List Char) : List Char × List Char :=
  match cs with
  | [] => ([], [])
  | c :: rest =>
    let goOn := fun n =>
      let (text, after) := fieldText raw doubled (rest.drop n)
      (c :: rest.take n ++ text, after)
    if c = '\\' ∧ !raw then
      match rest with
      | 'N' :: '{' :: name => goOn ((name.takeWhile (· != '}')).length + 3)
      | d :: _ => goOn (if isBrace d then 0 else 1)
      | [] => goOn 0
    else if isBrace c then
      if doubled ∧ rest.head? = some c then goOn 1 else ([], cs)
    else goOn 0
termination_by cs.length
decreasing_by
  simp only [List.length_drop, List.length_cons]; omega

/-- The bracket that a closing bracket belongs to. -/
def opening? (c : Char) : Option Char :=
  match c with
  | ')' => some '('
  | ']' => some '['
  | '}' => some '{'
  | _ => none

/-- The expression of a field, and what follows it. It ends outside quotes and brackets, before an
exclamation mark, a colon, a brace or an equals sign that is not part of a comparison. The quotes
and brackets to be closed are given. -/
def fieldExpression? (close opened cs : List Char) : Option (List Char × List Char) :=
  match cs with
  | [] => none
  | c :: rest =>
    let goOn := fun n close opened =>
      (fieldExpression? close opened (rest.drop n)).map fun (e, after) =>
        (c :: rest.take n ++ e, after)
    let compares := rest.head? = some '='
    if !close.isEmpty then
      if close.isPrefixOf cs then goOn (close.length - 1) [] opened else goOn 0 close opened
    else if isQuote c then
      if [c, c].isPrefixOf rest then goOn 2 [c, c, c] opened else goOn 0 [c] opened
    else if c = '(' ∨ c = '[' ∨ c = '{' then
      if opened.length < 200 then goOn 0 [] (c :: opened) else none
    else if c = '#' then none
    else if opened.isEmpty ∧ compares ∧ (c = '!' ∨ c = '=' ∨ c = '<' ∨ c = '>') then goOn 1 [] []
    else if opened.isEmpty ∧ (c = '!' ∨ c = ':' ∨ c = '}' ∨ c = '=') then some ([], cs)
    else
      match opening? c with
      | some bracket => if opened.head? = some bracket then goOn 0 [] opened.tail else none
      | none => goOn 0 [] opened
termination_by cs.length
decreasing_by
  simp only [List.length_drop, List.length_cons]; omega

/-- White space after the equals sign of a field. -/
def isFieldBlank (c : Char) : Bool :=
  c == ' ' || (0x09 ≤ c.toNat && c.toNat ≤ 0x0D)

/-- Passes over the equals sign and the conversion of a field. -/
def afterConversion? (cs : List Char) : Option (List Char) :=
  let rest := match cs with
    | '=' :: rest => rest.dropWhile isFieldBlank
    | rest => rest
  match rest with
  | '!' :: c :: rest => if c = 's' ∨ c = 'r' ∨ c = 'a' then some rest else none
  | '!' :: [] => none
  | rest => some rest

/-- Checks text and fields, with a bound on their number, and gives what follows them. Formats may
have fields again, but those have none in their formats. -/
def fields? (isExpression : List Char → Bool) (raw : Bool) :
    (count nested : Nat) → List Char → Option (List Char)
  | 0, _, _ => none
  | count + 1, nested, cs => do
    let (text, rest) := fieldText raw (nested = 0) cs
    guard (raw || (decodeEscapes true text).isSome)
    match rest with
    | '{' :: rest =>
      guard (nested < 2)
      let (e, rest) ← fieldExpression? [] [] rest
      guard (!e.contains '\\' && isExpression e)
      let rest ← match ← afterConversion? rest with
        | ':' :: format => fields? isExpression raw count (nested + 1) format
        | rest => some rest
      match rest with
      | '}' :: rest => fields? isExpression raw count nested rest
      | _ => none
    | rest => some rest

/-- Whether a string is text and fields from end to end. -/
def isFormatString (isExpression : List Char → Bool) (raw : Bool) (body : List Char) : Bool :=
  fields? isExpression raw (body.length + 1) 0 body == some []

end CodeTree.Literal
