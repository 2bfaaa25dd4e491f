import CodeTree.Proofs.Sexpr.RoundTrip

/-! Identifiers are written between bars exactly if they need them: the bare name would not be read
as the identifier, and with the bars it is one token in every context. -/
namespace CodeTree

namespace Text

theorem length_unescape_le (cs : List Char) : (unescape cs).length ≤ cs.length := by
  fun_induction unescape cs with
  | case1 => exact Nat.le_refl 0
  | case2 c rest ih =>
    simp only [List.length_cons]
    omega
  | case3 c rest _ ih =>
    simp only [List.length_cons]
    omega

end Text

namespace Sexpr

/-- Every token of a text stands in it as a lexeme. -/
theorem Splits.exists_lexeme {cs : List Char} {ts : List Token} {t : Token} (h : Splits cs ts)
    (ht : t ∈ ts) : ∃ lexeme, Lexical lexeme (some t) ∧ lexeme.length ≤ cs.length := by
  induction h with
  | nil => cases ht
  | @ignored cs lexeme rest ts h _ ih =>
    obtain ⟨other, hl, hlen⟩ := ih ht
    refine ⟨other, hl, ?_⟩
    rw [h.split, List.length_append]
    omega
  | @token cs lexeme rest u ts h _ ih =>
    have hsplit : cs.length = lexeme.length + rest.length := by
      rw [h.split, List.length_append]
    rcases List.mem_cons.mp ht with rfl | ht
    · exact ⟨lexeme, h.lexical, by omega⟩
    · obtain ⟨other, hl, hlen⟩ := ih ht
      exact ⟨other, hl, by omega⟩

/-- Between bars a name is the longest lexeme, whatever follows. -/
theorem munches_quote (cs rest : List Char) :
    Munches (Text.quote '|' cs ++ rest) (Text.quote '|' cs)
      (some (.quoted (Text.escape '|' cs))) rest := by
  have hinside : Text.Inside '|' (Text.escape '|' cs) := Text.inside_escape (by decide) cs
  rw [Text.quote, List.cons_append, List.cons_append]
  refine munches_of_lexical (by decide) (.quoted hinside) ?_
  rw [List.append_assoc, List.singleton_append, piece_quoted hinside, Piece.length,
    List.length_append, List.length_singleton]

theorem quote_ne_self (cs : List Char) : Text.quote '|' cs ≠ cs := by
  intro h
  have hle := Text.length_unescape_le (Text.escape '|' cs)
  have hlen := congrArg List.length h
  rw [Text.unescape_escape] at hle
  rw [Text.quote, List.length_append, List.length_cons, List.length_singleton] at hlen
  omega

end Sexpr
open Sexpr

theorem read_of_spells {stack : Stack} {s : String} {t : Tree} (h : Spells t s.toList) :
    read stack s = .ok t := by
  obtain ⟨d, hd, hcuts⟩ := cuts_of_spells h
  exact read_eq_ok_iff.mpr ⟨d.tokens, hcuts.splits, derives_of_tree d (hd stack)⟩

/-- A text is read as the identifier of its own spelling exactly if it is an atom that denotes
one. -/
theorem read_self_iff {stack : Stack} {name : String} :
    read stack name = .ok (.symbol name) ↔ AtomOf (.symbol name) name.toList := by
  constructor
  · intro h
    obtain ⟨ts, hsplits, hderives⟩ := read_eq_ok_iff.mp h
    generalize hx : Tree.symbol name = t at hderives
    cases hderives with
    | @atom cs x hd =>
      obtain rfl := Tree.leaf.inj hx
      obtain ⟨lexeme, hl, -⟩ := hsplits.exists_lexeme (List.mem_singleton_self _)
      have hleaf := atomLeaf?_eq_some_iff.mpr hd
      obtain rfl := eq_of_atomLeaf?_symbol hleaf
      cases hl with
      | atom ha =>
        rw [String.toList_ofList]
        exact ⟨ha, hleaf⟩
    | text raw => cases hx
    | quoted raw =>
      -- Bars and escapes make a quoted text longer than the name that it denotes.
      obtain rfl := Leaf.symbol.inj (Tree.leaf.inj hx)
      obtain ⟨lexeme, hl, hlen⟩ := hsplits.exists_lexeme (List.mem_singleton_self _)
      have hle := Text.length_unescape_le raw
      cases hl with
      | quoted =>
        rw [String.toList_ofList, List.length_cons, List.length_append] at hlen
        omega
    | empty => cases hx
    | list => cases hx
  · intro h
    exact read_of_spells (spells_atom h)

/-- An identifier is written as its bare name exactly if the name is read as that identifier. Any
other text of it is one quoted token whatever follows, and the token denotes the name. -/
theorem symbolText_bare_iff (stack : Stack) {name : String} {text : List Char}
    (h : symbolText? name.toList = some text) :
    (text = name.toList ↔ read stack name = .ok (.symbol name)) ∧
      (text ≠ name.toList → ∃ raw, Text.unescape raw = name.toList ∧
        ∀ rest, Munches (text ++ rest) text (some (.quoted raw)) rest) := by
  rw [read_self_iff]
  rcases symbolText?_cases h with ⟨hatom, rfl⟩ | ⟨hatom, rfl⟩
  · exact ⟨iff_of_true rfl hatom, fun hne => absurd rfl hne⟩
  · refine ⟨iff_of_false (quote_ne_self _) hatom, fun _ => ?_⟩
    exact ⟨_, Text.unescape_escape '|' _, munches_quote _⟩

/-- A digit of any script spells a number, so a name of one digit needs bars. -/
theorem symbolText_bare_iff_digitName :
    symbolText? "٣".toList = some ['|', '٣', '|'] ∧
      read (.ofRoom 1000) "٣" ≠ .ok (.symbol "٣") ∧
      ∃ raw, Text.unescape raw = ['٣'] ∧
        ∀ rest, Munches (['|', '٣', '|'] ++ rest) ['|', '٣', '|'] (some (.quoted raw)) rest := by
  have htext : symbolText? "٣".toList = some ['|', '٣', '|'] := by decide +kernel
  have hne : ['|', '٣', '|'] ≠ "٣".toList := by decide +kernel
  obtain ⟨hbare, hquoted⟩ := symbolText_bare_iff (.ofRoom 1000) htext
  exact ⟨htext, fun hread => hne (hbare.mpr hread), hquoted hne⟩

end CodeTree
