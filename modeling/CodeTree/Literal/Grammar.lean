import CodeTree.Literal.Expression
import CodeTree.Literal.Token

/-! The grammar of expressions. Each phrase is read from left to right without going back, by a step
that hands its inner phrases to `self`; `parse` ties the steps together. -/
namespace CodeTree.Literal

/-- A reading takes tokens from the front of a list, or fails. -/
abbrev Reading := StateT (List Token) Option

def keywords : List String :=
  ["False", "None", "True", "and", "as", "assert", "async", "await", "break", "class", "continue",
   "def", "del", "elif", "else", "except", "finally", "for", "from", "global", "if", "import", "in",
   "is", "lambda", "nonlocal", "not", "or", "pass", "raise", "return", "try", "while", "with",
   "yield"]

namespace Token

def isMark (text : String) : Token → Bool
  | .mark t => t == text
  | _ => false

def isWord (text : String) : Token → Bool
  | .word t => t == text
  | _ => false

def isName : Token → Bool
  | .word t => !keywords.contains t
  | _ => false

/-- Whether a comma before this token was the last of its sequence. -/
def closesSequence (t : Token) : Bool :=
  match t with
  | .lineEnd | .finish => true
  | t => t.isMark ")" || t.isMark "]" || t.isMark "\x7d" || t.isWord "in"

end Token

/-- How far the arguments of a call have come: after a named argument no plain one may follow, and
after an unpacked dictionary no starred one. -/
inductive ArgumentStage
  | first
  | plain
  | named
  | unpacked
deriving DecidableEq

/-- How far the parameters of a function have come. A plain parameter needs a default after one that
has it, a slash may follow plain parameters once, and a lone star must be followed by a
parameter. -/
inductive ParameterStage
  | first
  | plain (slashed defaults : Bool)
  | star
  | starred
  | closed
deriving DecidableEq

/-- What can be read. Phrases with arguments go on from what has been read before them. -/
inductive Phrase
  | expressions
  | starExpressions
  | starExpression
  | expression
  | named
  | item
  | sequence (member : Phrase) (items : List Expression)
  | disjunction
  | conjunction
  | inversion
  | comparison
  | operation (level : Nat)
  | operands (level : Nat) (left : Expression)
  | factor
  | power
  | primary
  | trailers (inner : Expression)
  | arguments (stage : ArgumentStage)
  | slice
  | atom
  | entries (before : List (Expression × Expression))
  | targets
  | target
  | clauses
  | conditions
  | parameters (stage : ParameterStage)

namespace Reading

/-- Whether the next token passes a test. -/
def next (test : Token → Bool) : Reading Bool :=
  return (← get).head?.any test

/-- Takes the next token if it passes a test, and tells whether it did. -/
def take (test : Token → Bool) : Reading Bool := do
  if ← next test then
    modify List.tail
    return true
  else return false

def mark (text : String) : Reading Bool := take (Token.isMark text)
def word (text : String) : Reading Bool := take (Token.isWord text)

/-- Takes the next token, which must pass a test. -/
def need (test : Token → Bool) : Reading Unit := do
  guard (← take test)

def needMark (text : String) : Reading Unit := need (Token.isMark text)
def needWord (text : String) : Reading Unit := need (Token.isWord text)

/-- Takes a name and a mark after it if both come next. -/
def nameBefore (text : String) : Reading Bool := do
  match ← get with
  | name :: m :: rest =>
    if name.isName && m.isMark text then
      set rest
      return true
    else return false
  | _ => return false

def strings : Reading (List StringToken) := do
  let found := (← get).map fun
    | .string s => some s
    | _ => none
  let run := found.takeWhile Option.isSome
  modify (List.drop run.length)
  return run.filterMap id

/-- Whether a comprehension starts here. -/
def nextClause : Reading Bool := do
  return (← next (Token.isWord "for")) || (← next (Token.isWord "async"))

end Reading

open Reading
variable (self : Phrase → Reading Expression)

/-- One member, or several with commas between them. -/
def readOneOrMore (member : Phrase) : Reading Expression := do
  let first ← self member
  if ← mark "," then self (.sequence member [first]) else return first

/-- The members after a comma. The last may have a comma, too. -/
def readSequence (member : Phrase) (items : List Expression) : Reading Expression := do
  if ← next Token.closesSequence then return .tuple items.reverse
  else
    let items := (← self member) :: items
    if ← mark "," then self (.sequence member items) else return .tuple items.reverse

def readStarred (plain : Phrase) : Reading Expression := do
  if ← mark "*" then return .starred (← self (.operation 0)) else self plain

def readNamed : Reading Expression := do
  if ← nameBefore ":=" then
    let _ ← self .expression
    return .other
  else self .expression

/-- A function without a name, a choice, or a disjunction. -/
def readExpression : Reading Expression := do
  if ← word "lambda" then
    let _ ← self (.parameters .first)
    let _ ← self .expression
    return .other
  else
    let e ← self .disjunction
    if ← word "if" then
      let _ ← self .disjunction
      needWord "else"
      let _ ← self .expression
      return .other
    else return e

/-- Operands with a word between them. -/
def readJoined (operator : String) (operand rest : Phrase) : Reading Expression := do
  let e ← self operand
  if ← word operator then
    let _ ← self rest
    return .other
  else return e

def readInversion : Reading Expression := do
  if ← word "not" then
    let _ ← self .inversion
    return .other
  else self .comparison

/-- Takes a comparison operator if one comes next. -/
def comparisonOperator : Reading Bool := do
  if ← take fun t => ["==", "!=", "<", "<=", ">", ">="].any t.isMark then return true
  else if ← word "in" then return true
  else if ← word "is" then
    let _ ← word "not"
    return true
  else if ← word "not" then
    needWord "in"
    return true
  else return false

def readComparison : Reading Expression := do
  let e ← self (.operation 0)
  if ← comparisonOperator then
    let _ ← self .comparison
    return .other
  else return e

/-- Binary operators from the loosest to the tightest. -/
def operatorLevels : List (List String) :=
  [["|"], ["^"], ["&"], ["<<", ">>"], ["+", "-"], ["*", "/", "//", "%", "@"]]

def readOperation (level : Nat) : Reading Expression := do
  if level < operatorLevels.length then
    let left ← self (.operation (level + 1))
    self (.operands level left)
  else self .factor

/-- Further operands of a level, which group to the left. -/
def readOperands (level : Nat) (left : Expression) : Reading Expression := do
  let negative ← next (Token.isMark "-")
  let operators := (operatorLevels[level]?).getD []
  if ← take fun t => operators.any t.isMark then
    let right ← self (.operation (level + 1))
    let whole := if operators.contains "-" then .sum negative left right else .other
    self (.operands level whole)
  else return left

def readFactor : Reading Expression := do
  if ← mark "+" then return .signed false (← self .factor)
  else if ← mark "-" then return .signed true (← self .factor)
  else if ← mark "~" then
    let _ ← self .factor
    return .other
  else self .power

def readPower : Reading Expression := do
  let awaited ← word "await"
  let e ← self .primary
  if ← mark "**" then
    let _ ← self .factor
    return .other
  else if awaited then return .other
  else return e

def readPrimary : Reading Expression := do
  let e ← self .atom
  self (.trailers e)

/-- Attributes, calls and elements of an expression. -/
def readTrailers (e : Expression) : Reading Expression := do
  if ← mark "." then
    need Token.isName
    self (.trailers .place)
  else if ← mark "(" then
    if ← mark ")" then self (.trailers (.emptyCall e))
    else
      let _ ← self (.arguments .first)
      self (.trailers .other)
  else if ← mark "[" then
    let _ ← readOneOrMore self .slice
    needMark "]"
    self (.trailers .place)
  else return e

/-- What follows an argument: the end of the call, or more arguments. -/
def argumentsAfter (stage : ArgumentStage) : Reading Expression := do
  if ← mark ")" then return .other
  else
    needMark ","
    if ← mark ")" then return .other else self (.arguments stage)

/-- The arguments of a call up to its end. A comprehension may stand there alone. -/
def readArguments (stage : ArgumentStage) : Reading Expression := do
  if ← mark "**" then
    let _ ← self .expression
    argumentsAfter self .unpacked
  else if ← mark "*" then
    guard (stage ≠ .unpacked)
    let _ ← self .expression
    argumentsAfter self (if stage = .named then .named else .plain)
  else if ← nameBefore "=" then
    let _ ← self .expression
    argumentsAfter self (if stage = .unpacked then .unpacked else .named)
  else
    guard (stage = .first ∨ stage = .plain)
    let _ ← self .named
    if stage = .first ∧ (← nextClause) then
      let _ ← self .clauses
      needMark ")"
      return .other
    else argumentsAfter self .plain

/-- A bound of a slice, which may be left out. -/
def readBound (ends : List String) : Reading Unit := do
  if ← next fun t => ends.any t.isMark then return ()
  else
    let _ ← self .expression
    return ()

def readSlice : Reading Expression := do
  if ← mark "*" then return .starred (← self .expression)
  else
    let named ← nameBefore ":="
    readBound self (if named then [] else [":"])
    if !named && (← mark ":") then
      readBound self [":", ",", "]"]
      if ← mark ":" then readBound self [",", "]"]
    return .other

/-- What parentheses hold, after the first of them. -/
def readParenthesized : Reading Expression := do
  if ← mark ")" then return .tuple []
  else if ← word "yield" then
    if ← word "from" then
      let _ ← self .expression
    else if !(← next (Token.isMark ")")) then
      let _ ← self .starExpressions
    needMark ")"
    return .other
  else
    let first ← self .item
    if ← mark "," then
      let items ← self (.sequence .item [first])
      needMark ")"
      return items
    else
      guard !first.isStarred
      let generated ← nextClause
      if generated then
        let _ ← self .clauses
      needMark ")"
      return if generated then .other else first

/-- The items of a display, or of a comprehension, up to a closing bracket. -/
def readDisplay (close : String) (ofItems : List Expression → Expression) (first : Expression) :
    Reading Expression := do
  if !first.isStarred && (← nextClause) then
    let _ ← self .clauses
    needMark close
    return .other
  else
    let items ← if ← mark "," then self (.sequence .item [first]) else pure (.tuple [first])
    needMark close
    match items with
    | .tuple items => return ofItems items
    | _ => failure

/-- The entry that unpacks another dictionary, after its mark. It has no constant key. -/
def readUnpacked (before : List (Expression × Expression)) : Reading Expression := do
  let e ← self (.operation 0)
  self (.entries ((.other, e) :: before))

def readEntries (before : List (Expression × Expression)) : Reading Expression := do
  let more ← mark ","
  if ← mark "\x7d" then return .dictionary before.reverse
  else
    guard more
    if ← mark "**" then readUnpacked self before
    else
      let key ← self .expression
      needMark ":"
      let value ← self .expression
      self (.entries ((key, value) :: before))

/-- What braces hold, after the first of them: a dictionary, a set, or a comprehension of one. -/
def readBraces : Reading Expression := do
  if ← mark "\x7d" then return .dictionary []
  else if ← mark "**" then readUnpacked self []
  else if ← nameBefore ":=" then
    let _ ← self .expression
    readDisplay self "\x7d" .set .other
  else
    let first ← self .item
    if !first.isStarred && (← mark ":") then
      let value ← self .expression
      if ← nextClause then
        let _ ← self .clauses
        needMark "\x7d"
        return .other
      else self (.entries [(first, value)])
    else readDisplay self "\x7d" .set first

def readAtom (strings : List StringToken → Option Expression) : Reading Expression := do
  match ← get with
  | .string _ :: _ => strings (← Reading.strings)
  | .number value :: rest => set rest; return .constant value
  | .word text :: rest =>
    set rest
    match text with
    | "None" => return .constant .nothing
    | "True" => return .constant (.boolean true)
    | "False" => return .constant (.boolean false)
    | text =>
      guard !(keywords.contains text)
      return .name text
  | .mark text :: rest =>
    set rest
    match text with
    | "..." => return .constant .ellipsis
    | "(" => readParenthesized self
    | "[" =>
      if ← mark "]" then return .list []
      else
        let first ← self .item
        readDisplay self "]" .list first
    | "\x7b" => readBraces self
    | _ => failure
  | _ => failure

/-- Something to assign to, which may be starred once. -/
def readTarget : Reading Expression := do
  let starred ← mark "*"
  let e ← self .primary
  guard e.isTarget
  return if starred then .starred e else e

def readClauses : Reading Expression := do
  let _ ← word "async"
  needWord "for"
  let _ ← self .targets
  needWord "in"
  let _ ← self .disjunction
  let _ ← self .conditions
  if ← nextClause then self .clauses else return .other

def readConditions : Reading Expression := do
  if ← word "if" then
    let _ ← self .disjunction
    self .conditions
  else return .other

/-- What follows a parameter: the end of the parameters, or more of them. -/
def parametersAfter (stage : ParameterStage) : Reading Expression := do
  if ← mark "," then self (.parameters stage)
  else
    guard (← next (Token.isMark ":"))
    self (.parameters stage)

/-- The parameters of a function up to the colon after them. -/
def readParameters (stage : ParameterStage) : Reading Expression := do
  if ← mark ":" then
    guard (stage ≠ .star)
    return .other
  else if ← mark "/" then
    match stage with
    | .plain false defaults => parametersAfter self (.plain true defaults)
    | _ => failure
  else if ← mark "**" then
    guard (stage ≠ .star ∧ stage ≠ .closed)
    need Token.isName
    parametersAfter self .closed
  else if ← mark "*" then
    match stage with
    | .first | .plain .. =>
      if ← next (Token.isMark ",") then parametersAfter self .star
      else
        need Token.isName
        parametersAfter self .starred
    | _ => failure
  else
    need Token.isName
    let defaulted ← mark "="
    if defaulted then
      let _ ← self .expression
    match stage with
    | .first => parametersAfter self (.plain false defaulted)
    | .plain slashed defaults =>
      guard (defaulted || !defaults)
      parametersAfter self (.plain slashed defaulted)
    | .closed => failure
    | _ => parametersAfter self .starred

def readPhrase (strings : List StringToken → Option Expression) : Phrase → Reading Expression
  | .expressions => readOneOrMore self .expression
  | .starExpressions => readOneOrMore self .starExpression
  | .starExpression => readStarred self .expression
  | .expression => readExpression self
  | .named => readNamed self
  | .item => readStarred self .named
  | .sequence member items => readSequence self member items
  | .disjunction => readJoined self "or" .conjunction .disjunction
  | .conjunction => readJoined self "and" .inversion .conjunction
  | .inversion => readInversion self
  | .comparison => readComparison self
  | .operation level => readOperation self level
  | .operands level left => readOperands self level left
  | .factor => readFactor self
  | .power => readPower self
  | .primary => readPrimary self
  | .trailers e => readTrailers self e
  | .arguments stage => readArguments self stage
  | .slice => readSlice self
  | .atom => readAtom self strings
  | .entries before => readEntries self before
  | .targets => readOneOrMore self .target
  | .target => readTarget self
  | .clauses => readClauses self
  | .conditions => readConditions self
  | .parameters stage => readParameters self stage

/-- Reads a phrase, with a bound on the nesting of steps. -/
def parse (strings : List StringToken → Option Expression) : Nat → Phrase → Reading Expression
  | 0, _ => failure
  | depth + 1, phrase => readPhrase (parse strings depth) strings phrase

/-- At most so many steps nest before a token is taken. -/
def stepsPerToken : Nat := 32

/-- Reads a phrase at the front of a list of tokens, and gives what follows it. -/
def parsePhrase? (strings : List StringToken → Option Expression) (phrase : Phrase)
    (tokens : List Token) : Option (Expression × List Token) :=
  (parse strings (stepsPerToken * (tokens.length + 1)) phrase).run tokens

end CodeTree.Literal
