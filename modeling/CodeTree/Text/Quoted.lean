/-! Text between delimiters, with a backslash before each backslash and each delimiter inside. -/
namespace CodeTree.Text

/-- Puts a backslash before every backslash and every delimiter. -/
def escape (delimiter : Char) : List Char → List Char
  | [] => []
  | c :: rest =>
    if c = '\\' ∨ c = delimiter then '\\' :: c :: escape delimiter rest
    else c :: escape delimiter rest

def quote (delimiter : Char) (cs : List Char) : List Char :=
  delimiter :: escape delimiter cs ++ [delimiter]

/-- Keeps of every backslash pair the second character; a backslash at the very end stays. -/
def unescape : List Char → List Char
  | [] => []
  | '\\' :: c :: rest => c :: unescape rest
  | c :: rest => c :: unescape rest

/-- Splits a text after its opening delimiter into the raw inside and what follows the closing
delimiter. A backslash takes the next character with it, which may not be a line feed. -/
def quotedBody? (delimiter : Char) : List Char → Option (List Char × List Char)
  | [] => none
  | '\\' :: [] => none
  | '\\' :: c :: rest =>
    if c = '\n' then none
    else (quotedBody? delimiter rest).map fun (body, after) => ('\\' :: c :: body, after)
  | c :: rest =>
    if c = delimiter then some ([], rest)
    else (quotedBody? delimiter rest).map fun (body, after) => (c :: body, after)

end CodeTree.Text
