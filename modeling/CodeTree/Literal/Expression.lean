import CodeTree.Literal.Value

/-! Expressions, as far as the reading of literals tells them apart. -/
namespace CodeTree.Literal

/-- An expression. A place is an attribute or an element of something; entries that unpack another
dictionary have no constant key; whatever can never be a literal is `other`. -/
inductive Expression
  | constant (value : Value)
  | name (text : String)
  | place
  | starred (inner : Expression)
  | tuple (items : List Expression)
  | list (items : List Expression)
  | set (items : List Expression)
  | dictionary (entries : List (Expression × Expression))
  | signed (negative : Bool) (inner : Expression)
  | sum (negative : Bool) (left right : Expression)
  | emptyCall (callee : Expression)
  | other
deriving Inhabited

namespace Expression

def isStarred : Expression → Bool
  | .starred _ => true
  | _ => false

mutual

/-- Whether something can be assigned to: names, places, and sequences of them, whose members may be
starred once. -/
def isTarget : Expression → Bool
  | .name _ | .place => true
  | .tuple items | .list items => areTargets items
  | _ => false

def areTargets : List Expression → Bool
  | [] => true
  | .starred e :: es => e.isTarget && areTargets es
  | e :: es => e.isTarget && areTargets es

end
end Expression
end CodeTree.Literal
