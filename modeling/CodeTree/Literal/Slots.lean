import CodeTree.Number.Binary64

/-! The order in which a set lists its members. Members sit in the slots of a table, each
near the slot that its address points to, and are listed slot by slot. -/
namespace CodeTree.Literal
open Number

/-- Addresses are remainders by this prime, `2 ^ 61 - 1`. -/
def addressModulus : Nat := 2305843009213693951

def properAddress (n : Int) : Int :=
  if n = -1 then -2 else n

def integerAddress (n : Int) : Int :=
  let r : Int := (n.natAbs % addressModulus : Nat)
  properAddress (if n < 0 then -r else r)

/-- The address of a fraction is the remainder of its numerator times the inverse of its
denominator, a power of two, so that equal numbers of all kinds have equal addresses. -/
def floatAddress : Binary64 → Int
  | .nan => 0
  | .infinite negative => if negative then -314159 else 314159
  | .finite negative m =>
    let (num, den) := ratioOf m
    let inverse := Nat.pow 2 (61 - den.log2 % 61)
    let r : Int := (num % addressModulus * inverse % addressModulus : Nat)
    properAddress (if negative then -r else r)

/-- Words of 64 bits are remainders by this power of two. -/
def wordModulus : Nat := 18446744073709551616

def wordOf (address : Int) : Nat :=
  (address % wordModulus).toNat

/-- Mixes the address of a member into that of the tuple that holds it: a product, a turn by 31
bits, and another product. -/
def mixAddress (mixed member : Nat) : Nat :=
  let sum := (mixed + member * 14029467366897019727) % wordModulus
  let turned := sum % 8589934592 * 2147483648 + sum / 8589934592
  turned * 11400714785074694791 % wordModulus

/-- The address of a tuple, by those of its members. -/
def tupleAddress (members : List Nat) : Nat :=
  let seed := 2870177450012600261
  let mixed := members.foldl mixAddress seed + (members.length ^^^ (seed ^^^ 3527539))
  let word := mixed % wordModulus
  if word = wordModulus - 1 then 1546275796 else word

namespace Slots
variable {α : Type}

/-- The first free slot at a place or, in larger tables, among the nine after it. -/
def free? (table : Array (Option (Nat × α))) (place : Nat) : Option Nat :=
  let run := if place + 9 < table.size then 10 else 1
  (List.range run).findSome? fun k =>
    match table[place + k]? with
    | some none => some (place + k)
    | _ => none

/-- Puts a member into the first free slot of its run of places, with a bound on their number. -/
def insert (table : Array (Option (Nat × α))) (member : Nat × α) :
    Nat → Nat → Nat → Array (Option (Nat × α))
  | 0, _, _ => table
  | tries + 1, place, rest =>
    match free? table place with
    | some slot => table.set! slot (some member)
    | none =>
      let rest := rest / 32
      insert table member tries ((place * 5 + 1 + rest) % table.size) rest

def put (table : Array (Option (Nat × α))) (member : Nat × α) : Array (Option (Nat × α)) :=
  insert table member (table.size + 16) (member.1 % table.size) member.1

/-- The size of the table for a number of slots: a power of two above it, at least eight. -/
def sizeFor (n : Nat) : Nat :=
  max 8 (Nat.pow 2 (n.log2 + 1))

/-- Adds a member. A table that gets too full is replaced by a larger one. -/
def add (table : Array (Option (Nat × α))) (member : Nat × α) : Array (Option (Nat × α)) :=
  let table := put table member
  let members := table.toList.filterMap id
  if members.length * 5 < (table.size - 1) * 3 then table
  else members.foldl put (Array.replicate (sizeFor (members.length * 4)) none)

def arrange (members : List (Nat × α)) : List α :=
  ((members.foldl add (Array.replicate 8 none)).toList.filterMap id).map Prod.snd

end Slots
end CodeTree.Literal
