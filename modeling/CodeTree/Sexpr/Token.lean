import CodeTree.Sexpr.Atom
import CodeTree.Text.Quoted

/-! Tokens of the parenthesized text form, cut from the left by maximal munch. -/
namespace CodeTree.Sexpr

/-- A token; quoted ones carry the raw characters between their delimiters. -/
inductive Token
  | opening
  | closing
  | text (raw : List Char)
  | quoted (raw : List Char)
  | atom (chars : List Char)
deriving DecidableEq

/-- The longest piece at the front of a text: something to skip, a token, or nothing that fits. The
number counts its characters. -/
inductive Piece
  | skipped (length : Nat) (rest : List Char)
  | token (value : Token) (length : Nat) (rest : List Char)
  | stuck
deriving DecidableEq

/-- White space between tokens. -/
def isSpace (c : Char) : Bool :=
  c == ' ' || c == '\t' || c == '\n' || c == '\r' || c.toNat == 0x0C

/-- The piece that starts with character `c` and goes on in `rest`. -/
def piece (c : Char) (rest : List Char) : Piece :=
  if isSpace c then .skipped 1 rest
  else if c = ';' then
    .skipped (1 + (rest.takeWhile (· != '\n')).length) (rest.dropWhile (· != '\n'))
  else if c = '(' then .token .opening 1 rest
  else if c = ')' then .token .closing 1 rest
  else if c = '"' then
    match Text.quotedBody? '"' rest with
    | some (raw, after) => .token (.text raw) (raw.length + 2) after
    | none => .stuck
  else if c = '|' then
    match Text.quotedBody? '|' rest with
    | some (raw, after) => .token (.quoted raw) (raw.length + 2) after
    | none => .stuck
  else if isAtomStart c then
    let run := rest.takeWhile isAtomChar
    .token (.atom (c :: run)) (1 + run.length) (rest.dropWhile isAtomChar)
  else .stuck

theorem length_quotedBody? {delimiter : Char} {cs raw after : List Char}
    (h : Text.quotedBody? delimiter cs = some (raw, after)) : after.length < cs.length := by
  fun_induction Text.quotedBody? delimiter cs generalizing raw after with
  | case1 => cases h
  | case2 => cases h
  | case3 rest => cases h
  | case4 c rest hc ih =>
    obtain ⟨⟨b, a⟩, hb, he⟩ := Option.map_eq_some_iff.1 h
    cases he
    have := ih hb
    simp only [List.length_cons]; omega
  | case5 => cases h; simp
  | case6 c rest _ _ hc ih =>
    obtain ⟨⟨b, a⟩, hb, he⟩ := Option.map_eq_some_iff.1 h
    cases he
    have := ih hb
    simp only [List.length_cons]; omega

theorem length_dropWhile_le (p : Char → Bool) (cs : List Char) :
    (cs.dropWhile p).length ≤ cs.length :=
  (List.dropWhile_sublist p).length_le

theorem length_skipped {c : Char} {cs rest : List Char} {n : Nat}
    (h : piece c cs = .skipped n rest) : rest.length ≤ cs.length := by
  unfold piece at h
  split at h
  · cases h; exact Nat.le_refl _
  · split at h
    · cases h; exact length_dropWhile_le _ _
    · repeat' split at h
      all_goals cases h

theorem length_token {c : Char} {cs rest : List Char} {n : Nat} {t : Token}
    (h : piece c cs = .token t n rest) : rest.length ≤ cs.length := by
  unfold piece at h
  split at h
  · cases h
  split at h
  · cases h
  split at h
  · cases h; exact Nat.le_refl _
  split at h
  · cases h; exact Nat.le_refl _
  split at h
  · split at h
    · rename_i hb
      cases h; exact Nat.le_of_lt (length_quotedBody? hb)
    · cases h
  split at h
  · split at h
    · rename_i hb
      cases h; exact Nat.le_of_lt (length_quotedBody? hb)
    · cases h
  split at h
  · cases h; exact length_dropWhile_le _ _
  · cases h

/-- A token with the number of characters before it. -/
structure Lexeme where
  token : Token
  offset : Nat
deriving DecidableEq

/-- The tokens of a text, up to the first character that starts no piece, if there is one. -/
structure Scan where
  lexemes : List Lexeme
  stuck : Option Nat
deriving DecidableEq

/-- Cuts a text that starts after `offset` characters. -/
def scanFrom (offset : Nat) : List Char → Scan
  | [] => ⟨[], none⟩
  | c :: rest =>
    match h : piece c rest with
    | .skipped n after =>
      have := length_skipped h
      scanFrom (offset + n) after
    | .token t n after =>
      have := length_token h
      let scan := scanFrom (offset + n) after
      { scan with lexemes := ⟨t, offset⟩ :: scan.lexemes }
    | .stuck => ⟨[], some offset⟩
termination_by cs => cs.length
decreasing_by
  all_goals simp only [List.length_cons]; omega

def scan (cs : List Char) : Scan :=
  scanFrom 0 cs

end CodeTree.Sexpr
