import CodeTree.Proofs.Sexpr.Reading

/-! The lexical grammar of parenthesized text: which runs of characters are tokens, which stand
between tokens, and how a text splits into them by maximal munch from the left. A text is cut as
this grammar splits it. -/
namespace CodeTree
namespace Text

/-- Raw text between delimiters: a backslash takes the next character with it, which may not be a
line feed, and no delimiter stands outside such a pair. -/
inductive Inside (delimiter : Char) : List Char → Prop
  | nil : Inside delimiter []
  | escaped {c : Char} {raw : List Char} (hc : c ≠ '\n') (h : Inside delimiter raw) :
      Inside delimiter ('\\' :: c :: raw)
  | plain {c : Char} {raw : List Char} (hb : c ≠ '\\') (hd : c ≠ delimiter)
      (h : Inside delimiter raw) : Inside delimiter (c :: raw)

theorem quotedBody?_of_inside {delimiter : Char} {raw : List Char} (hd : delimiter ≠ '\\')
    (h : Inside delimiter raw) (after : List Char) :
    quotedBody? delimiter (raw ++ delimiter :: after) = some (raw, after) := by
  induction h with
  | nil => simp [quotedBody?, hd]
  | escaped hc _ ih => simp [quotedBody?, hc, ih]
  | plain hb hd _ ih => simp [quotedBody?, hb, hd, ih]

theorem inside_of_quotedBody? {delimiter : Char} {cs raw after : List Char}
    (h : quotedBody? delimiter cs = some (raw, after)) :
    cs = raw ++ delimiter :: after ∧ Inside delimiter raw := by
  fun_induction quotedBody? delimiter cs generalizing raw after with
  | case1 => cases h
  | case2 => cases h
  | case3 => cases h
  | case4 c rest hc ih =>
    obtain ⟨⟨raw, after⟩, hbody, heq⟩ := Option.map_eq_some_iff.mp h
    cases heq
    obtain ⟨rfl, hraw⟩ := ih hbody
    exact ⟨rfl, .escaped hc hraw⟩
  | case5 =>
    cases h
    exact ⟨rfl, .nil⟩
  | case6 c rest hlone hpair hc ih =>
    have hb : c ≠ '\\' := by
      intro hb
      cases rest with
      | nil => exact hlone hb rfl
      | cons d rest => exact hpair d rest hb rfl
    obtain ⟨⟨raw, after⟩, hbody, heq⟩ := Option.map_eq_some_iff.mp h
    cases heq
    obtain ⟨rfl, hraw⟩ := ih hbody
    exact ⟨rfl, .plain hb hc hraw⟩

theorem inside_escape {delimiter : Char} (hn : delimiter ≠ '\n') (cs : List Char) :
    Inside delimiter (escape delimiter cs) := by
  induction cs with
  | nil => exact .nil
  | cons c rest ih =>
    by_cases h : c = '\\' ∨ c = delimiter
    · have hc : c ≠ '\n' := by
        rcases h with rfl | rfl
        · decide
        · exact hn
      rw [escape, if_pos h]
      exact .escaped hc ih
    · obtain ⟨hb, hd⟩ := not_or.mp h
      rw [escape, if_neg h]
      exact .plain hb hd ih

end Text

namespace Sexpr

/-- No atom goes on at the front of the text. -/
def Stops (cs : List Char) : Prop :=
  ∀ c ∈ cs.head?, isAtomChar c = false

theorem stops_nil : Stops [] := by
  simp [Stops]

theorem stops_cons {c : Char} (cs : List Char) (h : isAtomChar c = false) : Stops (c :: cs) := by
  simpa [Stops] using h

theorem isBlank_of_isSpace {c : Char} (h : isSpace c) : Text.isBlank c := by
  simp only [isSpace, Bool.or_eq_true, beq_iff_eq] at h
  rcases h with (((rfl | rfl) | rfl) | rfl) | h
  · decide
  · decide
  · decide
  · decide
  · simp [Text.isBlank, Text.inRanges, Text.blankRanges, h]

theorem not_isAtomChar_of_isSpace {c : Char} (h : isSpace c) : isAtomChar c = false := by
  simp [isAtomChar, isBlank_of_isSpace h]

theorem takeWhile_run {p : Char → Bool} {run rest : List Char} (hr : ∀ c ∈ run, p c)
    (hs : ∀ c ∈ rest.head?, p c = false) : (run ++ rest).takeWhile p = run := by
  rw [List.takeWhile_append_of_pos hr]
  cases rest with
  | nil => simp
  | cons c rest => simp [hs c (by simp)]

theorem dropWhile_run {p : Char → Bool} {run rest : List Char} (hr : ∀ c ∈ run, p c)
    (hs : ∀ c ∈ rest.head?, p c = false) : (run ++ rest).dropWhile p = rest := by
  rw [List.dropWhile_append_of_pos hr]
  cases rest with
  | nil => simp
  | cons c rest => simp [hs c (by simp)]

theorem piece_atomStart {c : Char} (rest : List Char) (h : isAtomStart c) :
    piece c rest = .token (.atom (c :: rest.takeWhile isAtomChar))
      (1 + (rest.takeWhile isAtomChar).length) (rest.dropWhile isAtomChar) := by
  have hspace : ¬ isSpace c := by
    intro hs
    simp [isAtomStart, not_isAtomChar_of_isSpace hs] at h
  have hc := h
  simp only [isAtomStart, isAtomChar, Bool.and_eq_true, Bool.not_eq_true', Bool.or_eq_false_iff,
    beq_eq_false_iff_ne, bne_iff_ne] at hc
  obtain ⟨⟨⟨⟨⟨-, h1⟩, h2⟩, h3⟩, h4⟩, h5⟩ := hc
  unfold piece
  rw [if_neg hspace, if_neg h4, if_neg h1, if_neg h2, if_neg h3, if_neg h5, if_pos h]

theorem isAtom_concat {run : List Char} {c : Char} (h : isAtom run) (hc : isAtomChar c) :
    isAtom (run ++ [c]) := by
  cases run with
  | nil => cases h
  | cons d run => simp_all [isAtom]

theorem piece_atom {c : Char} {run rest : List Char} (ha : isAtom (c :: run)) (hs : Stops rest) :
    piece c (run ++ rest) = .token (.atom (c :: run)) (1 + run.length) rest := by
  simp only [isAtom, Bool.and_eq_true, List.all_eq_true] at ha
  rw [piece_atomStart _ ha.1, takeWhile_run ha.2 hs, dropWhile_run ha.2 hs]

theorem cuts_atom {atom rest : List Char} {ts : List Token} (ha : isAtom atom) (hs : Stops rest)
    (ht : Cuts rest ts) : Cuts (atom ++ rest) (.atom atom :: ts) := by
  cases atom with
  | nil => cases ha
  | cons c run => exact .token (piece_atom ha hs) ht

theorem piece_text {raw : List Char} (h : Text.Inside '"' raw) (rest : List Char) :
    piece '"' (raw ++ '"' :: rest) = .token (.text raw) (raw.length + 2) rest := by
  have hsp : isSpace '"' = false := by decide
  simp [piece, hsp, Text.quotedBody?_of_inside (by decide) h rest]

theorem piece_quoted {raw : List Char} (h : Text.Inside '|' raw) (rest : List Char) :
    piece '|' (raw ++ '|' :: rest) = .token (.quoted raw) (raw.length + 2) rest := by
  have hsp : isSpace '|' = false := by decide
  simp [piece, hsp, Text.quotedBody?_of_inside (by decide) h rest]

theorem piece_comment (rest : List Char) :
    piece ';' rest =
      .skipped (1 + (rest.takeWhile (· != '\n')).length) (rest.dropWhile (· != '\n')) := rfl

theorem piece_space {c : Char} (rest : List Char) (h : isSpace c) :
    piece c rest = .skipped 1 rest := by
  simp [piece, h]

theorem cuts_text {raw rest : List Char} {ts : List Token} (h : Text.Inside '"' raw)
    (ht : Cuts rest ts) : Cuts ('"' :: (raw ++ '"' :: rest)) (.text raw :: ts) :=
  .token (piece_text h rest) ht

theorem cuts_quoted {raw rest : List Char} {ts : List Token} (h : Text.Inside '|' raw)
    (ht : Cuts rest ts) : Cuts ('|' :: (raw ++ '|' :: rest)) (.quoted raw :: ts) :=
  .token (piece_quoted h rest) ht

theorem cuts_opening {rest : List Char} {ts : List Token} (ht : Cuts rest ts) :
    Cuts ('(' :: rest) (.opening :: ts) :=
  .token (n := 1) rfl ht

theorem cuts_closing {rest : List Char} {ts : List Token} (ht : Cuts rest ts) :
    Cuts (')' :: rest) (.closing :: ts) :=
  .token (n := 1) rfl ht

theorem cuts_spaces {gap rest : List Char} {ts : List Token} (hg : ∀ c ∈ gap, isSpace c)
    (ht : Cuts rest ts) : Cuts (gap ++ rest) ts := by
  induction gap with
  | nil => exact ht
  | cons c gap ih =>
    exact .skipped (piece_space _ (hg c (by simp))) (ih fun x hx => hg x (by simp [hx]))

theorem bne_lineFeed {line : List Char} (h : '\n' ∉ line) : ∀ c ∈ line, (c != '\n') = true := by
  intro c hc
  exact bne_iff_ne.mpr fun hn => h (hn ▸ hc)

theorem piece_comment_line {line rest : List Char} (hl : '\n' ∉ line)
    (hr : ∀ c ∈ rest.head?, c = '\n') :
    piece ';' (line ++ rest) = .skipped (1 + line.length) rest := by
  have hline := bne_lineFeed hl
  have hrest : ∀ c ∈ rest.head?, (c != '\n') = false := by
    intro c hc
    simp [hr c hc]
  rw [piece_comment, takeWhile_run hline hrest, dropWhile_run hline hrest]

/-- What a run of characters is from end to end: a token, or something ignored between tokens, which
is white space or a comment up to the end of its line. -/
inductive Lexical : List Char → Option Token → Prop
  | space {run : List Char} (hne : run ≠ []) (h : ∀ c ∈ run, isSpace c) : Lexical run none
  | comment {line : List Char} (h : '\n' ∉ line) : Lexical (';' :: line) none
  | opening : Lexical ['('] (some .opening)
  | closing : Lexical [')'] (some .closing)
  | text {raw : List Char} (h : Text.Inside '"' raw) :
      Lexical ('"' :: (raw ++ ['"'])) (some (.text raw))
  | quoted {raw : List Char} (h : Text.Inside '|' raw) :
      Lexical ('|' :: (raw ++ ['|'])) (some (.quoted raw))
  | atom {run : List Char} (h : isAtom run) : Lexical run (some (.atom run))

/-- The longest lexeme at the front of a text, what it is, and the text after it. -/
structure Munches (cs lexeme : List Char) (kind : Option Token) (rest : List Char) : Prop where
  split : cs = lexeme ++ rest
  lexical : Lexical lexeme kind
  longest : ∀ other kind', Lexical other kind' → other <+: cs → other.length ≤ lexeme.length

/-- The tokens into which a text splits by maximal munch from the left. -/
inductive Splits : List Char → List Token → Prop
  | nil : Splits [] []
  | ignored {cs lexeme rest : List Char} {ts : List Token} (h : Munches cs lexeme none rest)
      (hs : Splits rest ts) : Splits cs ts
  | token {cs lexeme rest : List Char} {t : Token} {ts : List Token}
      (h : Munches cs lexeme (some t) rest) (hs : Splits rest ts) : Splits cs (t :: ts)

/-- A longest lexeme does not go on. -/
theorem Munches.not_lexical_append {lexeme rest : List Char} {c : Char} {kind kind' : Option Token}
    (h : Munches (lexeme ++ c :: rest) lexeme kind (c :: rest)) :
    ¬ Lexical (lexeme ++ [c]) kind' := by
  intro hl
  have hlen := h.longest _ _ hl ⟨rest, by simp⟩
  rw [List.length_append, List.length_singleton] at hlen
  omega

/-- A lexeme is white space, or it starts with some other character. -/
theorem Lexical.isSpace_or {lexeme : List Char} {kind : Option Token} (h : Lexical lexeme kind) :
    (kind = none ∧ ∀ c ∈ lexeme, isSpace c) ∨
      ∃ c body, lexeme = c :: body ∧ isSpace c = false := by
  cases h with
  | space _ hs => exact .inl ⟨rfl, hs⟩
  | comment => exact .inr ⟨_, _, rfl, by decide⟩
  | opening => exact .inr ⟨_, _, rfl, by decide⟩
  | closing => exact .inr ⟨_, _, rfl, by decide⟩
  | text => exact .inr ⟨_, _, rfl, by decide⟩
  | quoted => exact .inr ⟨_, _, rfl, by decide⟩
  | atom ha =>
    cases lexeme with
    | nil => cases ha
    | cons c body =>
      by_cases hc : isSpace c
      · simp [isAtom, isAtomStart, not_isAtomChar_of_isSpace hc] at ha
      · exact .inr ⟨c, body, rfl, by simpa using hc⟩

/-- Outside white space the longest lexeme is the piece that is cut off. -/
theorem Munches.piece_eq {c : Char} {body rest : List Char} {kind : Option Token}
    (h : Munches (c :: (body ++ rest)) (c :: body) kind rest) (hc : isSpace c = false) :
    piece c (body ++ rest) =
      kind.elim (.skipped (body.length + 1) rest) (.token · (body.length + 1) rest) := by
  have hlonger : ∀ d after kind', rest = d :: after → ¬ Lexical (c :: (body ++ [d])) kind' := by
    rintro d after kind' rfl
    have hfront : ¬ Lexical ((c :: body) ++ [d]) kind' := h.not_lexical_append
    exact hfront
  cases h.lexical with
  | space _ hs => simp [hs c List.mem_cons_self] at hc
  | comment hl =>
    rw [piece_comment_line hl, Nat.add_comm]
    · rfl
    · intro d hd
      obtain ⟨after, hrest⟩ := List.head?_eq_some_iff.mp hd
      by_cases hne : d = '\n'
      · exact hne
      · exact absurd (.comment (by simp [hl, Ne.symm hne])) (hlonger d after none hrest)
  | opening => rfl
  | closing => rfl
  | text hraw =>
    rw [List.append_assoc, List.singleton_append, piece_text hraw]
    simp
  | quoted hraw =>
    rw [List.append_assoc, List.singleton_append, piece_quoted hraw]
    simp
  | atom ha =>
    rw [piece_atom ha, Nat.add_comm]
    · rfl
    · intro d hd
      obtain ⟨after, hrest⟩ := List.head?_eq_some_iff.mp hd
      by_cases hatom : isAtomChar d
      · exact absurd (.atom (isAtom_concat ha hatom)) (hlonger d after _ hrest)
      · simpa using hatom

/-- The longest lexeme is cut off. Runs of white space need not be longest: they are cut off blank
by blank. -/
theorem Munches.cuts {cs lexeme rest : List Char} {kind : Option Token} {ts : List Token}
    (h : Munches cs lexeme kind rest) (ht : Cuts rest ts) : Cuts cs (kind.toList ++ ts) := by
  obtain rfl := h.split
  rcases h.lexical.isSpace_or with ⟨rfl, hs⟩ | ⟨c, body, rfl, hc⟩
  · exact cuts_spaces hs ht
  · have hp := Munches.piece_eq h hc
    cases kind with
    | none => exact .skipped hp ht
    | some t => exact .token hp ht

theorem Splits.cuts {cs : List Char} {ts : List Token} (h : Splits cs ts) : Cuts cs ts := by
  induction h with
  | nil => exact .nil
  | ignored h _ ih => exact h.cuts ih
  | token h _ ih => exact h.cuts ih

section Pieces

/-- The length of the lexeme that a piece covers. -/
def Piece.length : Piece → Nat
  | .skipped n _ => n
  | .token _ n _ => n
  | .stuck => 0

theorem length_le_takeWhile {p : Char → Bool} {run : List Char} (hr : ∀ c ∈ run, p c)
    (rest : List Char) : run.length ≤ ((run ++ rest).takeWhile p).length := by
  rw [List.takeWhile_append_of_pos hr, List.length_append]
  exact Nat.le_add_right _ _

theorem not_isAtomStart_of_isSpace {c : Char} (h : isSpace c) : isAtomStart c = false := by
  simp [isAtomStart, not_isAtomChar_of_isSpace h]

/-- A lexeme that starts with white space is white space. -/
theorem Lexical.isSpace_all {c : Char} {body : List Char} {kind : Option Token}
    (h : Lexical (c :: body) kind) (hc : isSpace c) : ∀ d ∈ body, isSpace d := by
  cases h with
  | space _ hs => exact fun d hd => hs d (List.mem_cons_of_mem _ hd)
  | comment => cases hc
  | opening => cases hc
  | closing => cases hc
  | text => cases hc
  | quoted => cases hc
  | atom ha => simp [isAtom, not_isAtomStart_of_isSpace hc] at ha

/-- Outside white space no lexeme is longer than the piece that is cut. -/
theorem Lexical.length_le_piece {c : Char} {body : List Char} {kind : Option Token}
    (h : Lexical (c :: body) kind) (hc : isSpace c = false) (rest : List Char) :
    (c :: body).length ≤ (piece c (body ++ rest)).length := by
  cases h with
  | space _ hs => simp [hs c List.mem_cons_self] at hc
  | comment hl =>
    have hlen := length_le_takeWhile (bne_lineFeed hl) rest
    rw [piece_comment, Piece.length, List.length_cons]
    omega
  | opening => exact Nat.le_refl 1
  | closing => exact Nat.le_refl 1
  | text hraw =>
    rw [List.append_assoc, List.singleton_append, piece_text hraw]
    simp [Piece.length]
  | quoted hraw =>
    rw [List.append_assoc, List.singleton_append, piece_quoted hraw]
    simp [Piece.length]
  | atom ha =>
    simp only [isAtom, Bool.and_eq_true, List.all_eq_true] at ha
    have hlen := length_le_takeWhile ha.2 rest
    rw [piece_atomStart _ ha.1, Piece.length, List.length_cons]
    omega

theorem not_isSpace_of_token {c : Char} {rest after : List Char} {t : Token} {n : Nat}
    (h : piece c rest = .token t n after) : isSpace c = false := by
  by_cases hc : isSpace c
  · cases (piece_space rest hc).symm.trans h
  · simpa using hc

/-- The piece that is cut off is a lexeme. -/
theorem lexical_of_token {c : Char} {rest after : List Char} {t : Token} {n : Nat}
    (h : piece c rest = .token t n after) :
    ∃ body, rest = body ++ after ∧ Lexical (c :: body) (some t) ∧ n = body.length + 1 := by
  unfold piece at h
  split at h
  · cases h
  split at h
  · cases h
  split at h
  · rename_i hc
    cases h
    obtain rfl := hc
    exact ⟨[], rfl, .opening, rfl⟩
  split at h
  · rename_i hc
    cases h
    obtain rfl := hc
    exact ⟨[], rfl, .closing, rfl⟩
  split at h
  · rename_i hc
    obtain rfl := hc
    split at h
    · rename_i raw _ hb
      cases h
      obtain ⟨rfl, hraw⟩ := Text.inside_of_quotedBody? hb
      exact ⟨raw ++ ['"'], by simp, .text hraw, by simp⟩
    · cases h
  split at h
  · rename_i hc
    obtain rfl := hc
    split at h
    · rename_i raw _ hb
      cases h
      obtain ⟨rfl, hraw⟩ := Text.inside_of_quotedBody? hb
      exact ⟨raw ++ ['|'], by simp, .quoted hraw, by simp⟩
    · cases h
  split at h
  · rename_i hc
    cases h
    refine ⟨rest.takeWhile isAtomChar, List.takeWhile_append_dropWhile.symm, .atom ?_, ?_⟩
    · simp [isAtom, hc]
    · omega
  · cases h

theorem lexical_of_skipped {c : Char} {rest after : List Char} {n : Nat}
    (hc : isSpace c = false) (h : piece c rest = .skipped n after) :
    ∃ body, rest = body ++ after ∧ Lexical (c :: body) none ∧ n = body.length + 1 := by
  unfold piece at h
  split at h
  · rename_i hspace
    rw [hc] at hspace
    cases hspace
  split at h
  · rename_i hsemi
    cases h
    obtain rfl := hsemi
    refine ⟨rest.takeWhile (· != '\n'), List.takeWhile_append_dropWhile.symm, .comment ?_, ?_⟩
    · intro hmem
      simpa using List.all_eq_true.mp List.all_takeWhile _ hmem
    · omega
  · repeat' split at h
    all_goals cases h

/-- A run of white space is one lexeme, though it is cut off one character at a time. -/
theorem munches_space {c : Char} (rest : List Char) (hc : isSpace c) :
    Munches (c :: rest) (c :: rest.takeWhile isSpace) none (rest.dropWhile isSpace) where
  split := by rw [List.cons_append, List.takeWhile_append_dropWhile]
  lexical := by
    refine .space (by simp) fun d hd => ?_
    rcases List.mem_cons.mp hd with rfl | hd
    · exact hc
    · exact List.all_eq_true.mp List.all_takeWhile d hd
  longest := by
    rintro other kind h ⟨after, heq⟩
    cases other with
    | nil => simp
    | cons d body =>
      obtain ⟨rfl, rfl⟩ := List.cons.inj heq
      simpa using length_le_takeWhile (h.isSpace_all hc) after

theorem munches_of_lexical {c : Char} {body after : List Char} {kind : Option Token}
    (hc : isSpace c = false) (h : Lexical (c :: body) kind)
    (hlen : (piece c (body ++ after)).length = body.length + 1) :
    Munches (c :: (body ++ after)) (c :: body) kind after where
  split := rfl
  lexical := h
  longest := by
    rintro other kind hother ⟨rest, heq⟩
    cases other with
    | nil => simp
    | cons d other =>
      obtain ⟨rfl, htail⟩ := List.cons.inj heq
      have hle := hother.length_le_piece hc rest
      change other ++ rest = _ at htail
      rwa [htail, hlen] at hle

theorem Cuts.dropWhile_isSpace {cs : List Char} {ts : List Token} (h : Cuts cs ts) :
    Cuts (cs.dropWhile isSpace) ts := by
  induction h with
  | nil => exact .nil
  | @skipped c rest after n ts h ht ih =>
    by_cases hc : isSpace c
    · cases (piece_space rest hc).symm.trans h
      rwa [List.dropWhile_cons_of_pos hc]
    · rw [List.dropWhile_cons_of_neg hc]
      exact .skipped h ht
  | @token c rest after t n ts h ht _ =>
    rw [List.dropWhile_cons_of_neg (by simp [not_isSpace_of_token h])]
    exact .token h ht

end Pieces

-- By induction on the length of the text: a cut takes one blank, and a lexeme the whole run.
theorem Cuts.splits {cs : List Char} {ts : List Token} (h : Cuts cs ts) : Splits cs ts := by
  induction hn : cs.length using Nat.strongRecOn generalizing cs ts with
  | ind n ih =>
  cases h with
  | nil => exact .nil
  | @skipped c rest after k _ hp ht =>
    by_cases hc : isSpace c
    · have hcuts := (Cuts.skipped hp ht).dropWhile_isSpace
      rw [List.dropWhile_cons_of_pos hc] at hcuts
      refine .ignored (munches_space rest hc) (ih _ ?_ hcuts rfl)
      have := length_dropWhile_le isSpace rest
      rw [List.length_cons] at hn
      omega
    · rw [Bool.not_eq_true] at hc
      obtain ⟨body, rfl, hl, rfl⟩ := lexical_of_skipped hc hp
      refine .ignored (munches_of_lexical hc hl (by rw [hp, Piece.length])) (ih _ ?_ ht rfl)
      rw [List.length_cons, List.length_append] at hn
      omega
  | @token c rest after t k ts hp ht =>
    have hc := not_isSpace_of_token hp
    obtain ⟨body, rfl, hl, rfl⟩ := lexical_of_token hp
    refine .token (munches_of_lexical hc hl (by rw [hp, Piece.length])) (ih _ ?_ ht rfl)
    rw [List.length_cons, List.length_append] at hn
    omega

theorem splits_iff_cuts {cs : List Char} {ts : List Token} : Splits cs ts ↔ Cuts cs ts :=
  ⟨Splits.cuts, Cuts.splits⟩

-- A bar inside an atom belongs to it, and a quotation mark ends the atom without white space.
example : Splits ['a', '|', 'b', '"', 'c', '"'] [.atom ['a', '|', 'b'], .text ['c']] :=
  Cuts.splits (.token rfl (.token rfl .nil))

end Sexpr
end CodeTree
