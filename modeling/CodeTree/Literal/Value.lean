import CodeTree.Literal.Slots
import CodeTree.Tree.Leaf

/-! What literals denote: numbers, texts, and collections of them. -/
namespace CodeTree.Literal
open Number

/-- The value of a literal. Texts are lists of code points, and the keys of a dictionary and their
values stand in two lists. -/
inductive Value
  | nothing
  | ellipsis
  | boolean (value : Bool)
  | integer (value : Int)
  | float (value : Binary64)
  | complex (real imaginary : Binary64)
  | text (codes : List Nat)
  | bytes (values : List Nat)
  | tuple (items : List Value)
  | list (items : List Value)
  | set (items : List Value)
  | dictionary (keys values : List Value)
deriving Inhabited

namespace Value

/-- The real and the imaginary part of a number; booleans count as numbers. -/
def number? : Value → Option (Leaf × Binary64)
  | .boolean b => some (.boolean b, .zero false)
  | .integer n => some (.integer n, .zero false)
  | .float x => some (.float x, .zero false)
  | .complex re im => some (.float re, im)
  | _ => none

mutual

def isKey : Value → Bool
  | .tuple items => areKeys items
  | .list _ | .set _ | .dictionary .. => false
  | _ => true

def areKeys : List Value → Bool
  | [] => true
  | v :: vs => isKey v && areKeys vs

end

mutual

/-- Equality of two keys: numbers are compared exactly across their kinds. -/
def sameKey : Value → Value → Bool
  | .text s, .text t => s == t
  | .bytes s, .bytes t => s == t
  | .nothing, .nothing => true
  | .ellipsis, .ellipsis => true
  | .tuple as, .tuple bs => sameKeys as bs
  | a, b =>
    match a.number?, b.number? with
    | some (re, im), some (re', im') => re.equals re' && im.equals im'
    | _, _ => false

def sameKeys : List Value → List Value → Bool
  | [], [] => true
  | a :: as, b :: bs => sameKey a b && sameKeys as bs
  | _, _ => false

end

mutual

/-- The number by which a key finds its place in a set. Texts and the like have none that stays the
same, unless they are empty. -/
def address? : Value → Option Nat
  | .boolean b => some (if b then 1 else 0)
  | .integer n => some (wordOf (integerAddress n))
  | .float x => some (wordOf (floatAddress x))
  | .complex re im => some (wordOf (properAddress (floatAddress re + 1000003 * floatAddress im)))
  | .text [] | .bytes [] => some 0
  | .tuple items => (addresses? items).map tupleAddress
  | _ => none

def addresses? : List Value → Option (List Nat)
  | [] => some []
  | v :: vs => do return (← v.address?) :: (← addresses? vs)

end

/-- The members of a set in the order in which they are listed: by their places if all have one,
else as written. -/
def listed (items : List Value) : List Value :=
  match addresses? items with
  | some addresses => Slots.arrange (addresses.zip items)
  | none => items

/-- A member joins a set unless it is there already. -/
def join (items : List Value) (v : Value) : List Value :=
  if items.any (sameKey v) then items else items ++ [v]

/-- A dictionary with the value of a key set; the key keeps its first place and spelling. -/
def assign (key value : Value) : List Value → List Value → List Value × List Value
  | k :: ks, v :: vs =>
    if sameKey k key then (k :: ks, value :: vs)
    else
      let (ks, vs) := assign key value ks vs
      (k :: ks, v :: vs)
  | _, _ => ([key], [value])

/-- The shortest text of a number, without a fraction that is zero. -/
def partText (x : Binary64) : List Char :=
  match x.text.reverse with
  | '0' :: '.' :: rest => rest.reverse
  | _ => x.text

def isNegative : Binary64 → Bool
  | .finite negative _ => negative
  | .infinite negative => negative
  | .nan => false

/-- The imaginary part alone if the real part is zero, else both in parentheses. -/
def displayComplex (re im : Binary64) : String :=
  if re == .zero false then String.ofList (partText im ++ ['j'])
  else
    let sign := if isNegative im then [] else ['+']
    String.ofList ('(' :: partText re ++ sign ++ partText im ++ ['j', ')'])

/-- The character with a code point; the replacement character for half of a pair. -/
def character (code : Nat) : Char :=
  if code.isValidChar then Char.ofNat code else Char.ofNat 0xFFFD

/-- Codes in quotes: apostrophes, unless there is an apostrophe among them and no double quote. -/
def displayQuoted (shown : Char → Nat → List Char) (codes : List Nat) : List Char :=
  let single := codes.contains Text.apostrophe.toNat && !codes.contains '"'.toNat
  let quote := if single then '"' else Text.apostrophe
  quote :: codes.flatMap (shown quote) ++ [quote]

/-- The display of a text. Halves of pairs are shown by their codes. -/
def displayText (codes : List Nat) : String :=
  String.ofList <| displayQuoted (fun quote code =>
    if code.isValidChar then Text.displayChar quote (Char.ofNat code)
    else '\\' :: 'u' :: Text.hexDigits 4 code) codes

def displayBytes (values : List Nat) : String :=
  String.ofList <| 'b' :: displayQuoted (fun quote code =>
    if code < 0x7F then Text.displayChar quote (Char.ofNat code)
    else '\\' :: 'x' :: Text.hexDigits 2 code) values

def commas (parts : List String) : String :=
  ", ".intercalate parts

mutual

/-- The display of a value, unless it holds an integer too long to be converted. The members of a
set must have been put in order before. -/
def display? : Value → Option String
  | .nothing => some "None"
  | .ellipsis => some "Ellipsis"
  | .boolean b => some (if b then "True" else "False")
  | .integer n => (integerText? n).map String.ofList
  | .float x => some (String.ofList x.text)
  | .complex re im => some (displayComplex re im)
  | .text codes => some (displayText codes)
  | .bytes values => some (displayBytes values)
  | .tuple items => do
    match ← displays? items with
    | [part] => return "(" ++ part ++ ",)"
    | parts => return "(" ++ commas parts ++ ")"
  | .list items => do return "[" ++ commas (← displays? items) ++ "]"
  | .set items => do
    if items.isEmpty then return "set()"
    else return "\x7b" ++ commas (← displays? items) ++ "\x7d"
  | .dictionary keys values => do
    let entries := List.zipWith (fun k v => k ++ ": " ++ v) (← displays? keys) (← displays? values)
    return "\x7b" ++ commas entries ++ "\x7d"

def displays? : List Value → Option (List String)
  | [] => some []
  | v :: vs => do return (← v.display?) :: (← displays? vs)

end

/-- The leaf of a value; collections and the like are known by their text alone. -/
def leaf : Value → Leaf
  | .nothing => .nothing
  | .boolean b => .boolean b
  | .integer n => .integer n
  | .float x => .float x
  | .text codes => .text (String.ofList (codes.map character))
  | v => .foreign v.display?

end Value
end CodeTree.Literal
