import CodeTree.Proofs.Number.Numeral
import CodeTree.Proofs.Sexpr.Grammar
import CodeTree.Proofs.Tree.Subtree
import CodeTree.Sexpr.Printer

/-! The text of a tree is read back as that tree, at every width. -/
namespace CodeTree

/-- Whether a leaf has a text that denotes it; values of the host program have none. -/
def Leaf.isLiteral : Leaf → Bool
  | .routine _ => false
  | .foreign _ => false
  | _ => true

/-- A tree all of whose leaves can be written. -/
def Tree.IsLiteral (t : Tree) : Prop :=
  t.AllLeaves fun x => x.isLiteral

namespace Text

theorem unescape_escape (delimiter : Char) (cs : List Char) :
    unescape (escape delimiter cs) = cs := by
  induction cs with
  | nil => rfl
  | cons c rest ih =>
    by_cases h : c = '\\' ∨ c = delimiter
    · rw [escape, if_pos h, unescape, ih]
    · rw [escape, if_neg h, unescape, ih]
      intro d rest' hc
      exact absurd (Or.inl hc) h

end Text

namespace Sexpr
open Number

/-- Digits of every script can start an atom: there is no blank and no mark among them. -/
theorem isAtomStart_of_digitValue? {c : Char} {d : ℕ} (h : Text.digitValue? c = some d) :
    isAtomStart c := by
  have hblank := isBlank_of_digitValue? h
  have hne : ∀ mark : Char, Text.digitValue? mark = none → c ≠ mark :=
    fun mark => ne_of_digitValue? h
  simp [isAtomStart, isAtomChar, hblank, hne '(' (by decide), hne ')' (by decide),
    hne '"' (by decide), hne ';' (by decide), hne '|' (by decide)]

theorem isAtomStart_of_isNumberChar {c : Char} (h : isNumberChar c) : isAtomStart c := by
  simp only [isNumberChar, Bool.or_eq_true, beq_iff_eq] at h
  rcases h with (((h | rfl) | rfl) | rfl) | rfl
  · exact isAtomStart_of_digitValue? (digitValue?_of_isDigit h)
  all_goals decide

theorem isAtom_of_isAtomStart {cs : List Char} (hne : cs ≠ []) (h : ∀ c ∈ cs, isAtomStart c) :
    isAtom cs := by
  obtain ⟨c, rest, rfl⟩ := List.exists_cons_of_ne_nil hne
  simp only [isAtom, Bool.and_eq_true, List.all_eq_true]
  refine ⟨h c (by simp), fun x hx => ?_⟩
  have hx' := h x (by simp [hx])
  simp only [isAtomStart, Bool.and_eq_true] at hx'
  exact hx'.1

theorem isAtom_of_isNumberChar {cs : List Char} (hne : cs ≠ []) (h : ∀ c ∈ cs, isNumberChar c) :
    isAtom cs :=
  isAtom_of_isAtomStart hne fun c hc => isAtomStart_of_isNumberChar (h c hc)

/-- A text that can stand as an atom and denotes the leaf. -/
structure AtomOf (x : Leaf) (cs : List Char) : Prop where
  isAtom : isAtom cs
  denotes : atomLeaf? cs = some x

theorem atomOf_integer {n : ℤ} {cs : List Char} (h : integerText? n = some cs) :
    AtomOf (.integer n) cs := by
  obtain ⟨digits, hread, hlen, hval⟩ := ofChars?_integerText h
  have hnum : cs ≠ [] ∧ ∀ c ∈ cs, isNumberChar c := by
    have hdig := isNumberText_toDigits n.natAbs
    unfold integerText? at h
    dsimp only at h
    split_ifs at h
    · obtain rfl := Option.some.inj h
      refine ⟨by simp, fun c hc => ?_⟩
      rcases List.mem_cons.mp hc with rfl | hc
      · rfl
      · exact hdig.2 c hc
    · obtain rfl := Option.some.inj h
      exact ⟨Nat.toDigits_ne_nil, hdig.2⟩
  refine ⟨isAtom_of_isNumberChar hnum.1 hnum.2, ?_⟩
  rw [atomLeaf?_eq_some_iff, ← hval]
  exact .integer (Numeral.ofChars?_eq_some_iff.mp hread) hlen

theorem atomOf_finite (negative : Bool) (m : Fin magnitudeBound) :
    AtomOf (.float (.finite negative m)) (Binary64.finite negative m).text := by
  obtain ⟨whole, part, e, hread, hval⟩ := ofChars?_finite_text negative m
  have hnum := isNumberText_magnitudeText m
  have hne : (Binary64.finite negative m).text ≠ [] := by
    obtain ⟨⟨c, hc, -⟩, -⟩ := hnum
    obtain ⟨rest, hrest⟩ := List.head?_eq_some_iff.mp hc
    cases negative <;> simp [Binary64.text, hrest]
  have hall : ∀ c ∈ (Binary64.finite negative m).text, isNumberChar c := by
    intro c hc
    cases negative with
    | true =>
      rcases List.mem_cons.mp hc with rfl | hc
      · rfl
      · exact hnum.2 c hc
    | false => exact hnum.2 c hc
  refine ⟨isAtom_of_isNumberChar hne hall, ?_⟩
  have hdenotes := AtomDenotes.fraction (Numeral.ofChars?_eq_some_iff.mp hread)
  rwa [hval, ← atomLeaf?_eq_some_iff] at hdenotes

theorem atomOf_float (x : Binary64) : AtomOf (.float x) (floatText x) := by
  cases x with
  | nan => exact ⟨by decide, by decide⟩
  | infinite negative => cases negative <;> exact ⟨by decide, by decide⟩
  | finite negative m => exact atomOf_finite negative m

/-- Whatever follows it, the text is cut into the tokens of a datum that denotes the tree. -/
def Spells (t : Tree) (cs : List Char) : Prop :=
  ∃ d : Datum, (∀ stack, d.tree stack = .ok t) ∧
    ∀ rest ts, Stops rest → Cuts rest ts → Cuts (cs ++ rest) (d.tokens ++ ts)

theorem spells_atom {x : Leaf} {cs : List Char} (h : AtomOf x cs) : Spells (.leaf x) cs := by
  refine ⟨.atom cs, fun stack => ?_, fun rest ts hs ht => cuts_atom h.isAtom hs ht⟩
  simp only [Datum.tree, h.denotes]

theorem spells_quote_text (s : String) : Spells (.leaf (.text s)) (Text.quote '"' s.toList) := by
  refine ⟨.text (Text.escape '"' s.toList), fun stack => ?_, fun rest ts _ ht => ?_⟩
  · simp only [Datum.tree, Text.unescape_escape, String.ofList_toList]
  · rw [Text.quote, List.cons_append, List.cons_append, List.append_assoc]
    exact cuts_text (Text.inside_escape (by decide) s.toList) ht

theorem spells_quote_symbol (s : String) : Spells (.symbol s) (Text.quote '|' s.toList) := by
  refine ⟨.quoted (Text.escape '|' s.toList), fun stack => ?_, fun rest ts _ ht => ?_⟩
  · simp only [Datum.tree, Text.unescape_escape, String.ofList_toList]
  · rw [Text.quote, List.cons_append, List.cons_append, List.append_assoc]
    exact cuts_quoted (Text.inside_escape (by decide) s.toList) ht

theorem spells_nothing : Spells .nothing ['(', ')'] :=
  ⟨.list [], fun _ => rfl, fun _ _ _ ht => cuts_opening (cuts_closing ht)⟩

/-- An atom that denotes an identifier denotes the one of its own spelling. -/
theorem eq_of_atomLeaf?_symbol {cs : List Char} {s : String} (h : atomLeaf? cs = some (.symbol s)) :
    s = String.ofList cs := by
  cases atomLeaf?_eq_some_iff.mp h with
  | reserved hr =>
    unfold reserved? at hr
    split_ifs at hr <;> cases hr
  | symbol => rfl

/-- The text of an identifier is the bare name if that is an atom which denotes the identifier, and
the name between bars otherwise. -/
theorem symbolText?_cases {name : String} {cs : List Char} (h : symbolText? name.toList = some cs) :
    (AtomOf (.symbol name) name.toList ∧ cs = name.toList) ∨
      (¬ AtomOf (.symbol name) name.toList ∧ cs = Text.quote '|' name.toList) := by
  unfold symbolText? at h
  split_ifs at h with ha
  · split at h
    · rename_i s hs
      obtain rfl := Option.some.inj h
      obtain rfl := eq_of_atomLeaf?_symbol hs
      rw [String.ofList_toList] at hs
      exact .inl ⟨⟨ha, hs⟩, rfl⟩
    · rename_i x hne hx
      obtain rfl := Option.some.inj h
      refine .inr ⟨fun hatom => ?_, rfl⟩
      rw [hatom.denotes] at hx
      exact hne name (Option.some.inj hx).symm
    · cases h
  · obtain rfl := Option.some.inj h
    exact .inr ⟨fun hatom => ha hatom.isAtom, rfl⟩

theorem spells_symbolText {name : String} {cs : List Char} (h : symbolText? name.toList = some cs) :
    Spells (.symbol name) cs := by
  rcases symbolText?_cases h with ⟨hatom, rfl⟩ | ⟨-, rfl⟩
  · exact spells_atom hatom
  · exact spells_quote_symbol name

theorem spells_leafText {x : Leaf} {cs : List Char} (hx : x.isLiteral)
    (h : leafText? x = some cs) : Spells (.leaf x) cs := by
  cases x with
  | nothing =>
    obtain rfl := Option.some.inj h
    exact spells_nothing
  | boolean b =>
    obtain rfl := Option.some.inj h
    refine spells_atom ?_
    cases b <;> exact ⟨by decide, by decide⟩
  | integer n => exact spells_atom (atomOf_integer h)
  | float x =>
    obtain rfl := Option.some.inj h
    exact spells_atom (atomOf_float x)
  | text s =>
    obtain rfl := Option.some.inj h
    exact spells_quote_text s
  | symbol name => exact spells_symbolText h
  | routine r => cases hx
  | foreign shown => cases hx

theorem joinLines_cons (line : List Char) (lines : Lines) :
    joinLines (line :: lines) = line ++ lines.flatMap fun l => '\n' :: l := by
  induction lines generalizing line with
  | nil => simp [joinLines]
  | cons l lines ih =>
    rw [joinLines, ih, List.flatMap_cons, List.cons_append]
    simp

theorem exists_splitLines (cs : List Char) : ∃ line lines, splitLines cs = line :: lines := by
  cases cs with
  | nil => exact ⟨[], [], rfl⟩
  | cons c cs =>
    unfold splitLines
    split_ifs
    · exact ⟨_, _, rfl⟩
    · split <;> exact ⟨_, _, rfl⟩

theorem joinLines_splitLines (cs : List Char) : joinLines (splitLines cs) = cs := by
  induction cs with
  | nil => rfl
  | cons c cs ih =>
    obtain ⟨line, lines, hl⟩ := exists_splitLines cs
    rw [hl, joinLines_cons] at ih
    unfold splitLines
    split_ifs with h
    · rw [hl, joinLines_cons, List.flatMap_cons, List.cons_append, ih, h, List.nil_append]
    · rw [hl, joinLines_cons, List.cons_append, ih]

theorem joinLines_of_length_one {p : Lines} (h : p.length = 1) : joinLines p = p.headD [] := by
  obtain ⟨line, rfl⟩ := List.length_eq_one_iff.mp h
  rfl

theorem flatParts_eq {parts : List Lines} (h : ∀ p ∈ parts, p.length = 1) :
    flatParts parts = (parts.flatMap fun p => [' '] ++ joinLines p) ++ [')'] := by
  induction parts with
  | nil => rfl
  | cons p parts ih =>
    rw [flatParts, ih fun q hq => h q (by simp [hq]), List.flatMap_cons,
      joinLines_of_length_one (h p (by simp)), List.append_assoc, List.append_assoc]
    rfl

/-- A list over several lines: each part and the closing parenthesis on a line of its own. -/
theorem joinLines_broken (level : ℕ) (head : List Char) (parts : List Lines) :
    joinLines (('(' :: head) ::
        parts.flatMap (fun p => (indentation (level + 1) ++ p.headD []) :: p.tail) ++
        [indentation level ++ [')']]) =
      '(' :: (head ++ ((parts.flatMap fun p => '\n' :: indentation (level + 1) ++ joinLines p) ++
        ('\n' :: indentation level ++ [')']))) := by
  have hpart : ∀ p : Lines,
      ((indentation (level + 1) ++ p.headD []) :: p.tail).flatMap (fun l => '\n' :: l) =
        '\n' :: indentation (level + 1) ++ joinLines p := by
    intro p
    cases p with
    | nil => simp [joinLines]
    | cons line lines => simp [joinLines_cons]
  rw [List.cons_append, joinLines_cons, List.flatMap_append, List.flatMap_assoc]
  simp only [hpart]
  simp

/-- A list is its head and its parts, each after a gap, between parentheses. -/
theorem joinLines_layout (width : Width) (level : ℕ) (head : List Char) (parts : List Lines) :
    ∃ gap last : List Char, gap ≠ [] ∧ (∀ c ∈ gap, isSpace c) ∧ (∀ c ∈ last, isSpace c) ∧
      joinLines (layout width level head parts) =
        '(' :: (head ++ ((parts.flatMap fun p => gap ++ joinLines p) ++ (last ++ [')']))) := by
  have hindent : ∀ n, ∀ c ∈ '\n' :: indentation n, isSpace c := by
    intro n c hc
    rcases List.mem_cons.mp hc with rfl | hc
    · rfl
    · rw [List.eq_of_mem_replicate hc]
      rfl
  unfold layout
  split_ifs with h
  · simp only [Bool.and_eq_true, List.all_eq_true, beq_iff_eq] at h
    refine ⟨[' '], [], by simp, by simp [isSpace], by simp, ?_⟩
    rw [joinLines, flatLine, flatParts_eq h.1, List.nil_append]
  · exact ⟨'\n' :: indentation (level + 1), '\n' :: indentation level, by simp, hindent _,
      hindent _, joinLines_broken level head parts⟩

theorem stops_spaces {gap rest : List Char} (hg : ∀ c ∈ gap, isSpace c) (hr : Stops rest) :
    Stops (gap ++ rest) := by
  cases gap with
  | nil => exact hr
  | cons c gap => exact stops_cons _ (not_isAtomChar_of_isSpace (hg c (by simp)))

theorem stops_parts {gap rest : List Char} (parts : List Lines) (hne : gap ≠ [])
    (hg : ∀ c ∈ gap, isSpace c) (hr : Stops rest) :
    Stops ((parts.flatMap fun p => gap ++ joinLines p) ++ rest) := by
  cases parts with
  | nil => exact hr
  | cons p parts =>
    obtain ⟨c, gap, rfl⟩ := List.exists_cons_of_ne_nil hne
    exact stops_cons _ (not_isAtomChar_of_isSpace (hg c (by simp)))

theorem spells_parts {gap : List Char} (hne : gap ≠ []) (hg : ∀ c ∈ gap, isSpace c)
    {ts : List Tree} {parts : List Lines}
    (h : List.Forall₂ (fun t p => Spells t (joinLines p)) ts parts) :
    ∃ ds, (∀ stack, trees stack ds = .ok ts) ∧ ∀ rest tokens, Stops rest → Cuts rest tokens →
      Cuts ((parts.flatMap fun p => gap ++ joinLines p) ++ rest) (tokensAll ds ++ tokens) := by
  induction h with
  | nil => exact ⟨[], fun _ => rfl, fun _ _ _ hc => hc⟩
  | @cons t p ts parts hp _ ih =>
    obtain ⟨d, hd, hcut⟩ := hp
    obtain ⟨ds, hds, hcuts⟩ := ih
    refine ⟨d :: ds, fun stack => by rw [trees, hd, hds]; rfl, fun rest tokens hs hc => ?_⟩
    rw [List.flatMap_cons, List.append_assoc, List.append_assoc, tokensAll, List.append_assoc]
    exact cuts_spaces hg (hcut _ _ (stops_parts parts hne hg hs) (hcuts rest tokens hs hc))

theorem spells_layout {h : String} {ts : List Tree} {head : List Char} {parts : List Lines}
    (width : Width) (level : ℕ) (hh : Spells (.symbol h) head)
    (hp : List.Forall₂ (fun t p => Spells t (joinLines p)) ts parts) :
    Spells (.node h ts) (joinLines (layout width level head parts)) := by
  obtain ⟨gap, last, hne, hg, hl, htext⟩ := joinLines_layout width level head parts
  obtain ⟨d, hd, hcut⟩ := hh
  obtain ⟨ds, hds, hcuts⟩ := spells_parts hne hg hp
  refine ⟨.list (d :: ds), fun stack => ?_, fun rest tokens _ hc => ?_⟩
  · rw [Datum.tree, trees, hd, hds]
    rfl
  · have hend : Stops (last ++ ')' :: rest) := stops_spaces hl (stops_cons rest (by decide))
    have hclose : Cuts (last ++ ')' :: rest) (.closing :: tokens) :=
      cuts_spaces hl (cuts_closing hc)
    have hbody := hcut _ _ (stops_parts parts hne hg hend) (hcuts _ _ hend hclose)
    rw [htext, Datum.tokens, tokensAll]
    simp only [List.cons_append, List.append_assoc, List.nil_append] at hbody ⊢
    exact cuts_opening hbody

theorem partLines?_forall₂ {width : Width} {level : ℕ} {ts : List Tree} {parts : List Lines}
    (h : partLines? width level ts = some parts) :
    List.Forall₂ (fun t p => lines? width level t = some p) ts parts := by
  induction ts generalizing parts with
  | nil =>
    obtain rfl := Option.some.inj h
    exact .nil
  | cons t ts ih =>
    simp only [partLines?, Option.bind_eq_bind, Option.bind_eq_some_iff] at h
    obtain ⟨p, hp, ps, hps, heq⟩ := h
    obtain rfl := Option.some.inj heq
    exact .cons hp (ih hps)

/-- The lines of a tree spell it at every width and level. -/
theorem spells_lines {width : Width} {t : Tree} (ht : t.IsLiteral) {level : ℕ} {lines : Lines}
    (h : lines? width level t = some lines) : Spells t (joinLines lines) := by
  induction t generalizing level lines with
  | leaf x =>
    obtain ⟨cs, hcs, rfl⟩ := Option.map_eq_some_iff.mp h
    rw [joinLines_splitLines]
    exact spells_leafText (Tree.allLeaves_leaf.mp ht) hcs
  | node head ts ih =>
    simp only [lines?, Option.bind_eq_bind, Option.bind_eq_some_iff] at h
    obtain ⟨parts, hparts, text, htext, heq⟩ := h
    obtain rfl := Option.some.inj heq
    refine spells_layout width level (spells_symbolText htext) ?_
    have hchild : ∀ t ∈ ts, ∀ p, lines? width (level + 1) t = some p → Spells t (joinLines p) :=
      fun t hm p => ih t hm (Tree.allLeaves_node.mp ht t hm)
    have hall := (List.forall₂_and_left ts parts).mpr ⟨hchild, partLines?_forall₂ hparts⟩
    exact hall.imp fun t p hp => hp.1 p hp.2

theorem cuts_of_spells {t : Tree} {cs : List Char} (h : Spells t cs) :
    ∃ d : Datum, (∀ stack, d.tree stack = .ok t) ∧ Cuts cs d.tokens := by
  obtain ⟨d, hd, hcut⟩ := h
  have hc := hcut [] [] stops_nil .nil
  rw [List.append_nil, List.append_nil] at hc
  exact ⟨d, hd, hc⟩

end Sexpr

/-- Whatever the width, the text of a tree is read back as exactly that tree. -/
theorem read_text (stack : Stack) {t : Tree} (ht : t.IsLiteral) {width : Sexpr.Width} {s : String}
    (h : t.text? width = some s) : read stack s = .ok t := by
  obtain ⟨lines, hlines, rfl⟩ := Option.map_eq_some_iff.mp h
  obtain ⟨d, hd, hc⟩ := Sexpr.cuts_of_spells (Sexpr.spells_lines ht hlines)
  have hdata : Sexpr.data true (String.ofList (Sexpr.joinLines lines)).toList = .ok [d] := by
    rw [String.toList_ofList]
    exact Sexpr.data_single hc
  rw [read, hdata]
  exact hd stack

/-- A tree with every kind of leaf that can be written, and a head that needs bars. -/
def mixedTree : Tree :=
  .node "a |b" [.leaf (.float (.finite true ⟨4611686018427387904, by decide⟩)), .leaf (.float .nan),
    .leaf (.boolean true), .leaf (.integer (-12)), .symbol "true", .leaf (.text "say \"hi\"\n;"),
    .node "f" [.symbol "٣", .nothing]]

def mixedText : String :=
  "(|a \\|b|\n  -2.0\n  +nan\n  true\n  -12\n  |true|\n  \"say \\\"hi\\\"\n;\"\n" ++
    "  (f\n    |٣|\n    ()\n  )\n)"

theorem read_text_mixedTree :
    mixedTree.IsLiteral ∧ mixedTree.text? (some (-1)) = some mixedText ∧
      read (.ofRoom 1000) mixedText = .ok mixedTree := by
  have hl : mixedTree.IsLiteral := by
    simp [Tree.IsLiteral, mixedTree, Leaf.isLiteral]
  have ht : mixedTree.text? (some (-1)) = some mixedText := by
    decide +kernel
  exact ⟨hl, ht, read_text (.ofRoom 1000) hl ht⟩

end CodeTree
