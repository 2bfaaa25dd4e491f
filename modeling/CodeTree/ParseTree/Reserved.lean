import CodeTree.Tree.Leaf

/-! Names that the conversion of parse trees keeps for itself. Rules and tokens of such a name do
not become nodes and identifiers. -/
namespace CodeTree.ParseTree

/-- Why a rule or token with a reserved name is refused: the name stands for something that takes no
parts, for something that takes another kind of part, or for the conversion itself, which would have
no end. -/
inductive Refusal
  | unsuited
  | incomplete
  | endless
deriving DecidableEq

/-- What becomes of a reserved name: it is refused, or it is always the same leaf. A bare part loses
its line. A restart gives nothing, but all that is converted after it is converted with other
options. -/
inductive Reserved
  | refused (cause : Refusal)
  | leaf (value : Leaf)
  | bare
  | restart
deriving DecidableEq

/-- Names of things that take no parts. -/
def unsuitedNames : List String :=
  ["_file", "_statement_rules", "_line_markers", "__visit_tokens__", "__doc__", "__module__",
   "__dict__", "__weakref__", "__default__", "__abstractmethods__", "_abc_impl", "__orig_bases__",
   "__parameters__", "_is_protocol", "__slots__", "__hash__", "__str__", "__repr__", "__sizeof__",
   "__reduce__", "__reduce_ex__", "__dir__", "__format__", "__setattr__", "__new__",
   "__init_subclass__", "__getstate__"]

/-- Names of comparisons, which give no answer for parts. -/
def comparisonNames : List String :=
  ["__eq__", "__ne__", "__lt__", "__le__", "__gt__", "__ge__", "__subclasshook__"]

/-- Names of things that make an object of the host program, which has no text of its own. -/
def makerNames : List String :=
  ["__class__", "__mul__", "_transform_children"]

/-- Names of things that give back the class of the conversion. -/
def classNames : List String :=
  ["__class_getitem__", "_apply_v_args"]

/-- Names reserved for rules and tokens alike. -/
def reserved? (name : String) : Option Reserved :=
  if unsuitedNames.contains name then some (.refused .unsuited)
  else if comparisonNames.contains name then some (.leaf (.foreign (some "NotImplemented")))
  else if makerNames.contains name then some (.leaf (.foreign none))
  else if classNames.contains name then
    some (.leaf (.foreign (some "<class 'syntree.frontend.lark_adapter.LarkTreeConverter'>")))
  else if name = "__init__" then some .restart
  else if name = "_call_userfunc" ∨ name = "_transform_tree" then some (.refused .incomplete)
  else none

def reservedRule? (name : String) : Option Reserved :=
  match name with
  | "transform" => some .bare
  | "__getattribute__" | "__delattr__" => some (.refused .unsuited)
  | "convert_token" | "__default_token__" | "_call_userfunc_token" => some (.refused .incomplete)
  | name => reserved? name

def reservedKind? (kind : String) : Option Reserved :=
  match kind with
  | "convert_token" => some .bare
  | "__getattribute__" | "__delattr__" => some (.refused .incomplete)
  | "transform" | "_call_userfunc_token" => some (.refused .endless)
  | kind => reserved? kind

end CodeTree.ParseTree
