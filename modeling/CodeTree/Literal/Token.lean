import CodeTree.Literal.Value
import CodeTree.Number.Numeral
import CodeTree.Text.Base
import CodeTree.Text.Identifier

/-! Tokens of the source text of a literal. -/
namespace CodeTree.Literal
open Number

/-- What the letters before a string say about it. -/
structure StringStyle where
  raw : Bool
  bytes : Bool
  formatted : Bool

structure StringToken where
  style : StringStyle
  body : List Char

/-- A token. After an indentation or a fault no more tokens are looked for. -/
inductive Token
  | word (text : String)
  | number (value : Value)
  | string (value : StringToken)
  | mark (text : String)
  | lineEnd
  | indentation
  | finish
  | fault

def isQuote (c : Char) : Bool :=
  c == '"' || c == Text.apostrophe

def isLayout (c : Char) : Bool :=
  c == ' ' || c == '\t' || c.toNat == 0x0C

/-- Characters that go on a word; those outside ASCII are checked when the word is complete. -/
def isWordChar (c : Char) : Bool :=
  c.isAlphanum || c == '_' || 0x80 ≤ c.toNat

/-- The style announced by the letters before a quote. -/
def style? (letters : List Char) : Option StringStyle :=
  match String.ofList (letters.map Char.toLower) with
  | "" => some ⟨false, false, false⟩
  | "u" => some ⟨false, false, false⟩
  | "r" => some ⟨true, false, false⟩
  | "b" => some ⟨false, true, false⟩
  | "br" => some ⟨true, true, false⟩
  | "rb" => some ⟨true, true, false⟩
  | "f" => some ⟨false, false, true⟩
  | "fr" => some ⟨true, false, true⟩
  | "rf" => some ⟨true, false, true⟩
  | _ => none

/-- The inside of a string up to its closing quotes, and what follows them. A backslash takes the
next character with it, and only a triple quote lets a string go past the end of its line. -/
def stringBody? (quote : Char) (triple : Bool) : List Char → Option (List Char × List Char)
  | [] => none
  | '\\' :: c :: rest => do
    let (body, after) ← stringBody? quote triple rest
    return ('\\' :: c :: body, after)
  | c :: rest =>
    if c = quote then
      if triple then
        match rest with
        | a :: b :: after =>
          if a = quote ∧ b = quote then some ([], after)
          else
            (stringBody? quote triple (a :: b :: after)).map fun (body, after) => (c :: body, after)
        | _ => none
      else some ([], rest)
    else if c = '\n' ∧ !triple then none
    else (stringBody? quote triple rest).map fun (body, after) => (c :: body, after)

/-- The string literal that starts with a quote, and what follows it. -/
def stringToken? (style : StringStyle) (cs : List Char) : Option (Token × List Char) :=
  let token := fun (body, after) => (Token.string ⟨style, body⟩, after)
  match cs with
  | a :: b :: c :: rest =>
    if a = b ∧ a = c then (stringBody? a true rest).map token
    else (stringBody? a false (b :: c :: rest)).map token
  | a :: rest => (stringBody? a false rest).map token
  | [] => none

def wordToken? (cs : List Char) : Option (Token × List Char) :=
  let run := cs.takeWhile isWordChar
  let rest := cs.drop run.length
  match style? run, rest.head?.any isQuote with
  | some style, true => stringToken? style rest
  | _, _ => if Text.isName run then some (.word (String.ofList run), rest) else none

/-- Digits of a base, with single underscores before any of them, and what follows. -/
def digitTail? (base : Nat) : List Char → Option (List Char × List Char)
  | [] => some ([], [])
  | '_' :: d :: rest =>
    if (Text.baseDigit? base d).isSome then
      (digitTail? base rest).map fun (ds, after) => (d :: ds, after)
    else none
  | c :: rest =>
    if (Text.baseDigit? base c).isSome then
      (digitTail? base rest).map fun (ds, after) => (c :: ds, after)
    else if c = '_' then none
    else some ([], c :: rest)

/-- Words that may follow a number without a blank. -/
def followingWords : List (List Char) :=
  ["and".toList, "else".toList, "for".toList, "if".toList, "in".toList, "is".toList, "or".toList,
   "not".toList]

def endsNumber (cs : List Char) : Bool :=
  !(cs.head?.any isWordChar) || followingWords.any fun word => word.isPrefixOf cs

def numberToken? (value : Value) (rest : List Char) : Option (Token × List Char) :=
  if endsNumber rest then some (.number value, rest) else none

/-- An integer in base two, eight or sixteen, after its mark. -/
def basedInteger? (base : Nat) (cs : List Char) : Option (Token × List Char) := do
  let (digits, rest) ← digitTail? base cs
  let n ← if digits.isEmpty then none else Text.baseNumber? base digits
  if rest.head?.any Char.isDigit then none else numberToken? (.integer n) rest

def digitValues (digits : List Char) : List Nat :=
  digits.filterMap (Text.baseDigit? 10)

/-- A decimal integer. One that starts with zero is zero, and a long one is refused. -/
def decimalInteger? (digits : List Char) (rest : List Char) : Option (Token × List Char) :=
  let n := Text.digitsValue (digitValues digits)
  if digits.head? = some '0' then
    if n = 0 then numberToken? (.integer 0) rest else none
  else if integerDigitLimit < digits.length then none
  else numberToken? (.integer n) rest

/-- The mark of an imaginary number may follow a number. -/
def realOrImaginary? (whole part : List Char) (exponent : Int) (rest : List Char) :
    Option (Token × List Char) :=
  let x := (Numeral.fraction false (digitValues whole) (digitValues part) exponent).toBinary64
  match rest with
  | c :: after =>
    if c = 'j' ∨ c = 'J' then numberToken? (.complex (.zero false) x) after
    else numberToken? (.float x) rest
  | [] => numberToken? (.float x) rest

/-- An exponent, if there is one: none of any kind, or its value, and what follows. -/
def exponent? (cs : List Char) : Option (Option Int × List Char) :=
  match cs with
  | e :: rest =>
    if e = 'e' ∨ e = 'E' then
      match rest with
      | c :: after =>
        if c = '+' ∨ c = '-' then
          if after.head?.any Char.isDigit then do
            let (digits, rest) ← digitTail? 10 after
            let n : Int := Text.digitsValue (digitValues digits)
            return (some (if c = '-' then -n else n), rest)
          else none
        else if c.isDigit then do
          let (digits, rest) ← digitTail? 10 rest
          return (some (Text.digitsValue (digitValues digits)), rest)
        else some (none, cs)
      | [] => some (none, cs)
    else some (none, cs)
  | [] => some (none, [])

/-- A number that starts with a digit, or with a point and a digit. -/
def decimalToken? (cs : List Char) : Option (Token × List Char) := do
  let (whole, rest) ← digitTail? 10 cs
  match rest with
  | '.' :: rest =>
    let (part, rest) ← if rest.head?.any Char.isDigit then digitTail? 10 rest else some ([], rest)
    let (exponent, rest) ← exponent? rest
    realOrImaginary? whole part (exponent.getD 0) rest
  | rest =>
    match ← exponent? rest with
    | (some exponent, rest) => realOrImaginary? whole [] exponent rest
    | (none, rest) =>
      if rest.head? = some 'j' ∨ rest.head? = some 'J' then realOrImaginary? whole [] 0 rest
      else decimalInteger? whole rest

def numeralToken? (cs : List Char) : Option (Token × List Char) :=
  match cs with
  | '0' :: c :: rest =>
    match c.toLower with
    | 'x' => basedInteger? 16 rest
    | 'o' => basedInteger? 8 rest
    | 'b' => basedInteger? 2 rest
    | _ => decimalToken? cs
  | _ => decimalToken? cs

/-- Marks of more than one character, the longest first. -/
def longMarks : List String :=
  ["**=", "//=", ">>=", "<<=", "...", "!=", "%=", "&=", "**", "*=", "+=", "-=", "->", "//", "/=",
   ":=", "<<", "<=", "<>", "==", ">=", ">>", "@=", "^=", "|="]

def markToken (c : Char) (rest : List Char) : Token × List Char :=
  match longMarks.find? fun m => m.toList.isPrefixOf (c :: rest) with
  | some m => (.mark m, (c :: rest).drop m.length)
  | none => (.mark (String.ofList [c]), rest)

/-- The token at the front of a text without white space before it. -/
def token? (c : Char) (rest : List Char) : Option (Token × List Char) :=
  if c.isDigit || (c == '.' && rest.head?.any Char.isDigit) then numeralToken? (c :: rest)
  else if isQuote c then stringToken? ⟨false, false, false⟩ (c :: rest)
  else if isWordChar c then wordToken? (c :: rest)
  else some (markToken c rest)

inductive LineStart
  | content (indented blank : Bool) (rest : List Char)
  | broken

/-- Passes over the indentation of a line. When a backslash continues the indentation on another
line, the column of the first backslash counts. -/
def lineStart (column kept : Nat) : List Char → LineStart
  | [] => .content (column != 0 || kept != 0) false []
  | '\\' :: '\n' :: c :: rest => lineStart column (if kept = 0 then column else kept) (c :: rest)
  | c :: rest =>
    if c = ' ' ∨ c = '\t' then lineStart (column + 1) kept rest
    else if c.toNat = 0x0C then lineStart 0 kept rest
    else if c = '\\' then .broken
    else .content (column != 0 || kept != 0) (c == '#' || c == '\n') (c :: rest)

/-- Passes over white space and a comment inside a line. -/
def skipLayout (cs : List Char) : List Char :=
  match cs.dropWhile isLayout with
  | '#' :: rest => rest.dropWhile (· != '\n')
  | rest => rest

/-- The brackets that stay open after a mark; none if it closes a bracket that is not open, or if
too many are open. -/
def bracketsAfter? (opened : List String) (text : String) : Option (List String) :=
  let close := fun bracket => match opened with
    | top :: outer => if top = bracket then some outer else none
    | [] => none
  match text with
  | "(" | "[" | "\x7b" => if opened.length < 200 then some (text :: opened) else none
  | ")" => close "("
  | "]" => close "["
  | "\x7d" => close "\x7b"
  | _ => some opened

/-- The tokens of a text. Line ends count only outside brackets and after something else than white
space. The first argument bounds the number of steps; `fresh` tells whether a line starts here. -/
def scan : Nat → (fresh blank : Bool) → (opened : List String) → List Char → List Token
  | 0, _, _, _, _ => [.fault]
  | n + 1, true, _, opened, cs =>
    match lineStart 0 0 cs with
    | .broken => [.fault]
    | .content indented blank rest =>
      if indented && !blank && opened.isEmpty then [.indentation]
      else scan n false blank opened rest
  | n + 1, false, blank, opened, cs =>
    match skipLayout cs with
    | [] => [if opened.isEmpty then .finish else .fault]
    | '\n' :: rest =>
      if blank || !opened.isEmpty then scan n true false opened rest
      else .lineEnd :: scan n true false opened rest
    | '\\' :: '\n' :: c :: rest => scan n false blank opened (c :: rest)
    | '\\' :: _ => [.fault]
    | c :: rest =>
      match token? c rest with
      | none => [.fault]
      | some (.mark text, rest) =>
        match bracketsAfter? opened text with
        | some opened => .mark text :: scan n false false opened rest
        | none => [.fault]
      | some (token, rest) => token :: scan n false false opened rest

def tokens (cs : List Char) : List Token :=
  scan (2 * cs.length + 2) true false [] cs

end CodeTree.Literal
