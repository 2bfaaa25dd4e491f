import CodeTree.Definition.Form

/-! Definitions and parameters taken apart. -/
namespace CodeTree.Definition

/-- What the long form of a definition says: the callee (the empty leaf for a function without a
name), the arguments, the declared type of the result, and the body. -/
structure Signature where
  name : Tree
  args : List Tree
  result? : Option Tree
  body : Tree

def Bound.signature : Bound → Signature
  | .named callee args body => ⟨callee, args, none, body⟩
  | .typed callee args result body => ⟨callee, args, some result, body⟩
  | .anonymous args body => ⟨.nothing, args, none, body⟩
  | .single arg body => ⟨.nothing, [arg], none, body⟩

/-- The long forms that are taken apart. -/
def longForms : List (Rule Bound Signature) :=
  [⟨"long-named", fun t => Bound.named? (longForm? t), Bound.signature⟩,
   ⟨"long-typed", fun t => Bound.typed? (longForm? t), Bound.signature⟩,
   ⟨"long-anonymous", fun t => Bound.anonymous? (longForm? t), Bound.signature⟩]

/-- The signature and body of a definition in either form. -/
def signature? (t : Tree) : Option Signature :=
  Rule.result? longForms (lengthen t)

def isDefinition (t : Tree) : Bool :=
  (signature? t).isSome

structure Parts where
  name : Tree
  args : List Tree
  keywordArgs : List Tree
  result? : Option Tree
  body : Tree

/-- Separates positional from keyword arguments, which a leading `parameters` node holds. -/
def splitArgs : List Tree → List Tree × List Tree
  | .node h cs :: rest =>
    if h = Tag.parameters.head then (rest, cs) else (.node h cs :: rest, [])
  | args => (args, [])

def parts (t : Tree) : Except Error Parts :=
  match signature? t with
  | some s =>
    let (args, keywordArgs) := splitArgs s.args
    .ok ⟨s.name, args, keywordArgs, s.result?, s.body⟩
  | none => .error (.notADefinition t)

inductive Declared
  | typeOnly (type : Tree)
  | nameAndType (name type : Tree)
  | bareName (name : Tree)

def anyType : Tree := .symbol "Any"

def Declared.nameType : Declared → Option Tree × Tree
  | .typeOnly type => (none, type)
  | .nameAndType name type => (some name, type)
  | .bareName name => (some name, anyType)

def typeOnly? (t : Tree) : Option Declared :=
  match t.childrenOf? Tag.typed.head with
  | some [type] => some (.typeOnly type)
  | _ => none

def nameAndType? (t : Tree) : Option Declared :=
  (t.pairOf? .typed).map fun (name, type) => .nameAndType name type

/-- The ways to declare a parameter; without a type it is of any type. -/
def declarations : List (Rule Declared (Option Tree × Tree)) :=
  [⟨"type-only", typeOnly?, Declared.nameType⟩,
   ⟨"name-and-type", nameAndType?, Declared.nameType⟩,
   ⟨"bare-name", fun t => some (.bareName t), Declared.nameType⟩]

structure Parameter where
  name? : Option Tree
  type : Tree
  default? : Option Tree

/-- Name and type of a parameter without a default. -/
def declared (t : Tree) : Option Tree × Tree :=
  (Rule.result? declarations t).getD (some t, anyType)

/-- Takes a parameter apart. A default that is the empty leaf could not be told from none at all and
is refused. -/
def parameter (t : Tree) : Except Error Parameter :=
  match t.pairOf? .kw <|> t.pairOf? .assign with
  | some (arg, value) =>
    if value = .nothing then .error (.ambiguousDefault t)
    else
      let (name?, type) := declared arg
      .ok ⟨name?, type, some value⟩
  | none =>
    let (name?, type) := declared t
    .ok ⟨name?, type, none⟩

end CodeTree.Definition
