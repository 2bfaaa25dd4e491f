import CodeTree.Block
import CodeTree.Rule

/-! The two forms of a function definition. The long form is a `function` node with a block for its
body; the short form is an assignment to a call, or an arrow when the function has no name. -/
namespace CodeTree.Definition

inductive Bound
  | named (callee : Tree) (args : List Tree) (body : Tree)
  | typed (callee : Tree) (args : List Tree) (result body : Tree)
  | anonymous (args : List Tree) (body : Tree)
  | single (arg body : Tree)

namespace Bound

/-- Binds an assignment to a call. -/
def named? (form : Option (Tree × Tree)) : Option Bound := do
  let (signature, body) ← form
  let (callee, args) ← signature.call?
  return .named callee args body

/-- Binds a definition whose signature declares the type of the result. -/
def typed? (form : Option (Tree × Tree)) : Option Bound := do
  let (signature, body) ← form
  let (call, result) ← signature.pairOf? .typed
  let (callee, args) ← call.call?
  return .typed callee args result body

/-- Binds a definition whose signature is a tuple of arguments. -/
def anonymous? (form : Option (Tree × Tree)) : Option Bound := do
  let (signature, body) ← form
  let args ← signature.childrenOf? Tag.tuple.head
  return .anonymous args body

/-- Binds an arrow from anything. -/
def single? (form : Option (Tree × Tree)) : Option Bound := do
  let (arg, body) ← form
  return .single arg body

def call (callee : Tree) (args : List Tree) : Tree :=
  Tag.call.node (callee :: args)

def long : Bound → Tree
  | .named callee args body => Tag.function.node [call callee args, body.toBlock]
  | .typed callee args result body =>
    Tag.function.node [Tag.typed.node [call callee args, result], body.toBlock]
  | .anonymous args body => Tag.function.node [Tag.tuple.node args, body.toBlock]
  | .single arg body => Tag.function.node [Tag.tuple.node [arg], body.toBlock]

def short : Bound → Tree
  | .named callee args body => Tag.assign.node [call callee args, body]
  | .typed callee args result body =>
    Tag.assign.node [Tag.typed.node [call callee args, result], body]
  | .anonymous args body => Tag.arrow.node [Tag.tuple.node args, body]
  | .single arg body => Tag.arrow.node [Tag.tuple.node [arg], body]

end Bound

/-- Signature and body of the long form, whose body is always a block. -/
def longForm? (t : Tree) : Option (Tree × Tree) :=
  (t.pairOf? .function).filter fun (_, body) => body.isBlock

def shortForm? (t : Tree) : Option (Tree × Tree) :=
  t.pairOf? .assign

def arrowForm? (t : Tree) : Option (Tree × Tree) :=
  t.pairOf? .arrow

/-- From the short forms to the long form. -/
def lengthening : List (Rule Bound Tree) :=
  [⟨"short-named", fun t => Bound.named? (shortForm? t), Bound.long⟩,
   ⟨"short-typed", fun t => Bound.typed? (shortForm? t), Bound.long⟩,
   ⟨"arrow-tuple", fun t => Bound.anonymous? (arrowForm? t), Bound.long⟩,
   ⟨"arrow-single", fun t => Bound.single? (arrowForm? t), Bound.long⟩]

/-- From the long forms to the short form; the argument of an arrow becomes a tuple. -/
def shortening : List (Rule Bound Tree) :=
  [⟨"long-named", fun t => Bound.named? (longForm? t), Bound.short⟩,
   ⟨"long-typed", fun t => Bound.typed? (longForm? t), Bound.short⟩,
   ⟨"long-anonymous", fun t => Bound.anonymous? (longForm? t), Bound.short⟩,
   ⟨"arrow-tuple", fun t => Bound.anonymous? (arrowForm? t), Bound.short⟩,
   ⟨"arrow-single", fun t => Bound.single? (arrowForm? t), Bound.short⟩]

/-- The long form of one definition; any other tree stays. -/
def lengthen (t : Tree) : Tree :=
  Rule.transform lengthening t

/-- The short form of one definition; any other tree stays. -/
def shorten (t : Tree) : Tree :=
  Rule.transform shortening t

def lengthenAll (t : Tree) : Tree :=
  Rule.transformAll lengthening t

def shortenAll (t : Tree) : Tree :=
  Rule.transformAll shortening t

end CodeTree.Definition
