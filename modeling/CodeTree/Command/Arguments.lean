import CodeTree.Number.Numeral

/-! The arguments of the command. -/
namespace CodeTree.Command

inductive Flag
  | help | keepLines | longdef | shortdef | seed | deterministic | compact | verbose
deriving DecidableEq

def Flag.all : List Flag :=
  [.help, .keepLines, .longdef, .shortdef, .seed, .deterministic, .compact, .verbose]

def Flag.name : Flag → String
  | .help => "--help"
  | .keepLines => "--keep-lines"
  | .longdef => "--longdef"
  | .shortdef => "--shortdef"
  | .seed => "--seed"
  | .deterministic => "--deterministic"
  | .compact => "--compact"
  | .verbose => "--verbose"

def Flag.ofLetter? (c : Char) : Option Flag :=
  if c = 'h' then some .help else if c = 'v' then some .verbose else none

inductive Form
  | asWritten | long | short
deriving DecidableEq

structure Options where
  file? : Option String := none
  keepLines : Bool := false
  form : Form := .asWritten
  seed? : Option Int := none
  deterministic : Bool := false
  compact : Bool := false
  verbose : Bool := false
deriving DecidableEq

inductive Stop
  | help
  | misuse
deriving DecidableEq

inductive Argument
  /-- A switch by its long name, with the value attached to it. -/
  | flag (flag : Flag) (value? : Option String)
  /-- Switches by their letters. -/
  | letters (first : Flag) (more : List Char)
  | unknown
  | plain (value : String)
  /-- Two dashes, after which every argument is plain. -/
  | separator
deriving DecidableEq

def isNegativeNumber : List Char → Bool
  | '-' :: cs =>
    match Number.digitRun cs with
    | (_ :: _, []) => true
    | (_, '.' :: cs) => match Number.digitRun cs with
      | (_ :: _, []) => true
      | _ => false
    | _ => false
  | _ => false

def splitValue (cs : List Char) : List Char × Option (List Char) :=
  match cs.dropWhile (· != '=') with
  | _ :: value => (cs.takeWhile (· != '='), some value)
  | [] => (cs, none)

/-- A long switch, which may be shortened as long as it is told from the others. -/
def longFlag (cs : List Char) : Except Stop Argument :=
  let (name, value?) := splitValue cs
  let value? := value?.map String.ofList
  match Flag.all.find? fun f => f.name.toList = name with
  | some f => .ok (.flag f value?)
  | none =>
    match Flag.all.filter fun f => name.isPrefixOf f.name.toList with
    | [f] => .ok (.flag f value?)
    | [] => .ok (if cs.contains ' ' then .plain (String.ofList cs) else .unknown)
    | _ => .error .misuse

def letterFlag (cs : List Char) : Argument :=
  match cs with
  | _ :: c :: more =>
    match Flag.ofLetter? c, more with
    | some f, '=' :: value => .flag f (some (String.ofList value))
    | some f, more => .letters f more
    | none, _ =>
      if isNegativeNumber cs || cs.contains ' ' then .plain (String.ofList cs) else .unknown
  | _ => .plain (String.ofList cs)

def classify (s : String) : Except Stop Argument :=
  match s.toList with
  | '-' :: '-' :: rest => longFlag ('-' :: '-' :: rest)
  | '-' :: rest => .ok (letterFlag ('-' :: rest))
  | _ => .ok (.plain s)

/-- The kinds of all arguments; an unclear one is found before any of them takes effect. -/
def classifyAll : List String → Except Stop (List Argument)
  | [] => .ok []
  | s :: rest =>
    if s = "--" then .ok (.separator :: rest.map .plain)
    else do return (← classify s) :: (← classifyAll rest)

structure Request where
  options : Options := {}
  /-- Whether the one plain argument has been seen. -/
  filed : Bool := false
  /-- Whether an argument was left over. -/
  extra : Bool := false

namespace Request

def takeFlag (r : Request) : Flag → Except Stop Request
  | .help => .error .help
  | .keepLines => .ok { r with options.keepLines := true }
  | .longdef =>
    if r.options.form = .short then .error .misuse else .ok { r with options.form := .long }
  | .shortdef =>
    if r.options.form = .long then .error .misuse else .ok { r with options.form := .short }
  | .seed => .error .misuse
  | .deterministic => .ok { r with options.deterministic := true }
  | .compact => .ok { r with options.compact := true }
  | .verbose => .ok { r with options.verbose := true }

def takeSeed (r : Request) (value : String) : Except Stop Request :=
  match Number.typedInteger? value.toList with
  | some n => .ok { r with options.seed? := some n }
  | none => .error .misuse

/-- The switches of a group of letters and whether a letter is left over. A dash or a value among
the letters is misuse. -/
def letterFlags (first : Flag) : List Char → Except Stop (List Flag × Bool)
  | [] => .ok ([first], false)
  | '-' :: _ => .error .misuse
  | '=' :: _ => .error .misuse
  | c :: more =>
    match Flag.ofLetter? c with
    | none => .ok ([first], true)
    | some f => do
      let (flags, extra) ← letterFlags f more
      return (first :: flags, extra)

def takeFile (r : Request) (file? : Option String) : Request :=
  { r with options.file? := file?, filed := true }

def take (r : Request) : List Argument → Except Stop Request
  | [] => .ok r
  | .plain file :: .separator :: rest =>
    if r.filed then take { r with extra := true } rest
    else take (r.takeFile (some file)) rest
  | .plain file :: rest =>
    if r.filed then take { r with extra := true } rest else take (r.takeFile (some file)) rest
  | .separator :: .plain file :: rest =>
    if r.filed then take { r with extra := true } rest else take (r.takeFile (some file)) rest
  | .separator :: rest => if r.filed then take { r with extra := true } rest else take r rest
  | .unknown :: rest => take { r with extra := true } rest
  | .flag .seed (some value) :: rest => do take (← r.takeSeed value) rest
  | .flag .seed none :: .plain value :: rest => do take (← r.takeSeed value) rest
  | .flag _ (some _) :: _ => .error .misuse
  | .flag f none :: rest => do take (← r.takeFlag f) rest
  | .letters first more :: rest => do
    let (flags, extra) ← letterFlags first more
    take (← flags.foldlM takeFlag { r with extra := r.extra || extra }) rest

end Request

/-- What the arguments of the command ask for. Arguments left over are misuse, but only after all
the others have been taken. -/
def parse (args : List String) : Except Stop Options := do
  let r ← Request.take {} (← classifyAll args)
  if r.extra then .error .misuse else return r.options

end CodeTree.Command
