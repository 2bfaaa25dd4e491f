import CodeTree.Literal.FormatString
import CodeTree.Literal.Grammar
import CodeTree.Text.LineEnd

/-! The values of literals from their source text. -/
namespace CodeTree.Literal
open Number

inductive Error
  | malformed
  | misindented
  | nullCharacter
  | notConstant
  | unhashable
  | overflow
deriving DecidableEq

def StringToken.decode? (s : StringToken) (wide : Bool) : Option (List Nat) :=
  if s.style.raw then some (s.body.map Char.toNat) else decodeEscapes wide s.body

/-- The codes of a string of bytes, which is written in ASCII. Octal escapes are cut to a byte. -/
def StringToken.bytes? (s : StringToken) : Option (List Nat) := do
  guard (s.body.all (·.toNat < 0x80))
  return (← s.decode? false).map (· % 256)

/-- The text of a string. One with fields is checked, but its text is not known. -/
def StringToken.text? (isExpression : List Char → Bool) (s : StringToken) : Option (List Nat) :=
  if s.style.formatted then
    if isFormatString isExpression s.style.raw s.body then some [] else none
  else s.decode? true

/-- Strings side by side are one string. Bytes and text do not mix. -/
def joinStrings? (isExpression : List Char → Bool) (parts : List StringToken) :
    Option Expression := do
  if parts.all (·.style.bytes) then
    return .constant (.bytes (← parts.mapM StringToken.bytes?).flatten)
  else
    guard !(parts.any (·.style.bytes))
    let texts ← parts.mapM (StringToken.text? isExpression)
    if parts.any (·.style.formatted) then return .other
    else return .constant (.text texts.flatten)

/-- Whether a field holds an expression. The bound is on the nesting of strings with fields. -/
def isExpression : Nat → List Char → Bool
  | 0, _ => false
  | depth + 1, cs =>
    let tokens := tokens ('(' :: cs ++ [')'])
    match parsePhrase? (joinStrings? (isExpression depth)) .starExpressions tokens with
    | some (_, [.finish]) => !cs.all fun c => isLayout c || c == '\n'
    | _ => false

def expression (cs : List Char) : Except Error Expression :=
  let tokens := tokens cs
  match tokens with
  | .indentation :: _ => .error .misindented
  | tokens =>
    match parsePhrase? (joinStrings? (isExpression cs.length)) .expressions tokens with
    | none => .error .malformed
    | some (e, rest) =>
      match rest.dropWhile fun | .lineEnd => true | _ => false with
      | .finish :: _ => .ok e
      | .indentation :: _ => .error .misindented
      | _ => .error .malformed

/-- Letters that stand for `s`, `e` and `t` in names: the plain ones, those written above or below
the line, wide ones, and those of the mathematical alphabets. -/
def letterCodes : List (List Nat) :=
  [[0x73, 0x17F, 0x2E2, 0x209B, 0xFF53, 0x1D42C, 0x1D460, 0x1D494, 0x1D4C8, 0x1D4FC, 0x1D530,
    0x1D564, 0x1D598, 0x1D5CC, 0x1D600, 0x1D634, 0x1D668, 0x1D69C],
   [0x65, 0x1D49, 0x2091, 0x212F, 0x2147, 0xFF45, 0x1D41E, 0x1D452, 0x1D486, 0x1D4EE, 0x1D522,
    0x1D556, 0x1D58A, 0x1D5BE, 0x1D5F2, 0x1D626, 0x1D65A, 0x1D68E],
   [0x74, 0x1D57, 0x209C, 0xFF54, 0x1D42D, 0x1D461, 0x1D495, 0x1D4C9, 0x1D4FD, 0x1D531, 0x1D565,
    0x1D599, 0x1D5CD, 0x1D601, 0x1D635, 0x1D669, 0x1D69D]]

/-- Whether a name is that of the empty set's maker, in letters of any style. -/
def isSetName (name : String) : Bool :=
  let codes := name.toList.map Char.toNat
  codes.length == letterCodes.length &&
    (codes.zip letterCodes).all fun (code, styles) => styles.contains code

/-- The number nearest to an integer, unless it is past all of them. -/
def nearest? (n : Int) : Option Binary64 :=
  match Binary64.ofRatio (n < 0) n.natAbs 1 with
  | .infinite _ => none
  | x => some x

def negate : Binary64 → Binary64
  | .finite negative m => .finite (!negative) m
  | .infinite negative => .infinite (!negative)
  | .nan => .nan

/-- A number without the sign of zero. -/
def plainZero (x : Binary64) : Binary64 :=
  if x.isZero then .zero false else x

/-- A number, but not a truth value. -/
def number (e : Expression) : Except Error Value :=
  match e with
  | .constant (.integer n) => .ok (.integer n)
  | .constant (.float x) => .ok (.float x)
  | .constant (.complex re im) => .ok (.complex re im)
  | _ => .error .notConstant

def signedNumber (e : Expression) : Except Error Value :=
  match e with
  | .signed false inner => number inner
  | .signed true inner => do
    match ← number inner with
    | .integer n => return .integer (-n)
    | .float x => return .float (negate x)
    | .complex re im => return .complex (negate re) (negate im)
    | v => return v
  | e => number e

/-- The sum or difference of a real part and an imaginary one. A sum has no negative zero as its
real part, and a difference none as its imaginary part. -/
def complexSum (negative : Bool) (left right : Expression) : Except Error Value := do
  let real ← signedNumber left
  match ← number right with
  | .complex _ im =>
    let re ← match real with
      | .integer n =>
        match nearest? n with
        | some x => pure x
        | none => .error .overflow
      | .float x => pure x
      | _ => .error .notConstant
    if negative then return .complex re (plainZero (negate im))
    else return .complex (plainZero re) im
  | _ => .error .notConstant

mutual

/-- The value of an expression that is a literal. Keys and members are checked as they are met. -/
def evaluate : Expression → Except Error Value
  | .constant v => .ok v
  | .tuple items => return .tuple (← evaluateAll items)
  | .list items => return .list (← evaluateAll items)
  | .set items => return .set (Value.listed (← evaluateMembers [] items))
  | .dictionary entries => evaluateEntries [] [] entries
  | .emptyCall (.name text) => if isSetName text then .ok (.set []) else .error .notConstant
  | .signed negative inner => signedNumber (.signed negative inner)
  | .sum negative left right => complexSum negative left right
  | _ => .error .notConstant

def evaluateAll : List Expression → Except Error (List Value)
  | [] => .ok []
  | e :: es => do return (← evaluate e) :: (← evaluateAll es)

def evaluateMembers (found : List Value) : List Expression → Except Error (List Value)
  | [] => .ok found
  | e :: es => do
    let v ← evaluate e
    if v.isKey then evaluateMembers (Value.join found v) es else .error .unhashable

def evaluateEntries (keys values : List Value) :
    List (Expression × Expression) → Except Error Value
  | (k, e) :: es => do
    let key ← evaluate k
    let value ← evaluate e
    if key.isKey then
      let (keys, values) := Value.assign key value keys values
      evaluateEntries keys values es
    else .error .unhashable
  | [] => .ok (.dictionary keys values)

end

/-- The value of a literal. Blanks before it do not matter, and line ends of all kinds are alike. -/
def read (text : List Char) : Except Error Value := do
  if text.any (·.toNat == 0) then .error .nullCharacter
  else evaluate (← expression (Text.unifyLines (text.dropWhile fun c => c == ' ' || c == '\t')))

end CodeTree.Literal
