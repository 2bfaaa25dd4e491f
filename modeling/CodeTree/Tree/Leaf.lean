import CodeTree.Number.Text
import CodeTree.Text.Display

/-! Leaves of code trees and their equality. -/
namespace CodeTree
open Number

/-- A live routine of the host program. Its identity says which one it is: two routines of one name
may differ. -/
structure Routine where
  identity : Nat
  name : String
  builtin : Bool
deriving DecidableEq

inductive Leaf
  | nothing
  | boolean (value : Bool)
  | integer (value : Int)
  | float (value : Binary64)
  | text (value : String)
  | symbol (name : String)
  | routine (value : Routine)
  /-- A host value that is no routine; it is known by its text alone, if it has one. -/
  | foreign (shown? : Option String)
deriving DecidableEq, Inhabited

def Routine.shown (r : Routine) : String :=
  (if r.builtin then "<built-in function " else "<function ") ++ r.name ++ ">"

namespace Leaf

/-- Booleans count as zero and one. -/
def toInt? : Leaf → Option Int
  | .boolean b => some (if b then 1 else 0)
  | .integer n => some n
  | _ => none

/-- Equality by value: numbers are compared exactly across their kinds, and NaN equals nothing. -/
def equals : Leaf → Leaf → Bool
  | .float x, .float y => x.equals y
  | .float x, b => b.toInt?.any x.equalsInt
  | a, .float y => a.toInt?.any y.equalsInt
  | a, b =>
    match a.toInt?, b.toInt? with
    | some m, some n => m == n
    | none, none => a == b
    | _, _ => false

/-- Equality inside a tree, where NaN is the same leaf as itself. -/
def same (a b : Leaf) : Bool :=
  a == b || a.equals b

def isTruthy : Leaf → Bool
  | .nothing => false
  | .boolean b => b
  | .integer n => n != 0
  | .float x => !x.isZero
  | .text s => !s.isEmpty
  | _ => true

/-- The display of a leaf, unless it is an integer too long to be converted. -/
def display? : Leaf → Option String
  | .nothing => some "None"
  | .boolean b => some (if b then "True" else "False")
  | .integer n => (integerText? n).map String.ofList
  | .float x => some (String.ofList x.text)
  | .text s => some (Text.display s)
  | .symbol name => some ("Symbol(" ++ Text.display name ++ ")")
  | .routine r => some r.shown
  | .foreign shown? => shown?

def plain? : Leaf → Option String
  | .text s => some s
  | .symbol name => some name
  | x => x.display?

end Leaf
end CodeTree
