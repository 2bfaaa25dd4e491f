import CodeTree.Text.Printable

/-! The one-line display of a text: quoted, with escapes for what cannot be printed. -/
namespace CodeTree.Text

/-- The last `width` hexadecimal digits of a number, in small letters. -/
def hexDigits (width n : Nat) : List Char :=
  (List.range width).reverse.map fun place => Nat.digitChar (n / Nat.pow 16 place % 16)

def displayChar (delimiter c : Char) : List Char :=
  if c = '\\' ∨ c = delimiter then ['\\', c]
  else if c = '\t' then ['\\', 't']
  else if c = '\n' then ['\\', 'n']
  else if c = '\r' then ['\\', 'r']
  else if isPrintable c then [c]
  else if c.toNat < 0x100 then '\\' :: 'x' :: hexDigits 2 c.toNat
  else if c.toNat < 0x10000 then '\\' :: 'u' :: hexDigits 4 c.toNat
  else '\\' :: 'U' :: hexDigits 8 c.toNat

def apostrophe : Char := Char.ofNat 0x27

/-- Apostrophes delimit the text, unless it holds an apostrophe and no double quote. -/
def display (s : String) : String :=
  let cs := s.toList
  let delimiter := if cs.contains apostrophe && !cs.contains '"' then '"' else apostrophe
  String.ofList (delimiter :: cs.flatMap (displayChar delimiter) ++ [delimiter])

end CodeTree.Text
