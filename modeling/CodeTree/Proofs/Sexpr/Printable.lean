import CodeTree.Proofs.Sexpr.Failure
import CodeTree.Proofs.Sexpr.Layout
import CodeTree.Proofs.Sexpr.ManyTrees
import CodeTree.Proofs.Sexpr.Quoting

/-! Which trees can be printed. An identifier or head that spells an integer is put between bars,
but to find out that it does the printer converts it, and an integer that is too long cannot be
converted. Nothing else that can be read fails to be printed. -/
namespace CodeTree

namespace Tree

/-- The name at the root of a tree: an identifier, or the head of a node. -/
def name? : Tree → Option String
  | .leaf (.symbol name) => some name
  | .leaf _ => none
  | .node h _ => some h

/-- The identifiers and heads of a tree. -/
def names (t : Tree) : List String :=
  t.subtrees.filterMap name?

end Tree

namespace Text

theorem escape_eq_self {delimiter : Char} {cs : List Char}
    (h : ∀ c ∈ cs, c ≠ '\\' ∧ c ≠ delimiter) : escape delimiter cs = cs := by
  induction cs with
  | nil => rfl
  | cons c cs ih =>
    obtain ⟨hc, hcs⟩ := List.forall_mem_cons.mp h
    rw [escape, if_neg (not_or.mpr hc), ih hcs]

end Text

namespace Sexpr
open Number

/-- A name that spells an integer too long to be converted. -/
def IsOverlong (name : List Char) : Prop :=
  ∃ n, Numeral.Spelling name n ∧ n.isOverlong

instance (name : List Char) : Decidable (IsOverlong name) :=
  decidable_of_iff ((Numeral.ofChars? name).any Numeral.isOverlong) (by
    simp only [Option.any_eq_true, Numeral.ofChars?_eq_some_iff, IsOverlong])

theorem atomLeaf?_eq_none_iff_isOverlong {name : List Char} :
    atomLeaf? name = none ↔ IsOverlong name := by
  rw [atomLeaf?_eq_none_iff]
  constructor
  · rintro ⟨negative, digits, hspelling, hl⟩
    exact ⟨_, hspelling, decide_eq_true hl⟩
  · rintro ⟨n, hspelling, hl⟩
    cases n with
    | integer negative digits => exact ⟨negative, digits, hspelling, of_decide_eq_true hl⟩
    | fraction => cases hl

theorem isAtomStart_of_digits {cs : List Char} {ds : List ℕ} (h : Digits cs ds) :
    ∀ c ∈ cs, isAtomStart c := by
  induction h with
  | nil => nofun
  | cons hc _ ih => exact List.forall_mem_cons.mpr ⟨isAtomStart_of_digitValue? hc, ih⟩

/-- Signs and digits can stand bare, so every such name is tried as an atom. -/
theorem isAtom_of_isOverlong {name : List Char} (h : IsOverlong name) : isAtom name := by
  obtain ⟨n, hspelling, hl⟩ := h
  cases hspelling with
  | @integer negative whole cs ds hs hd hne =>
    have hdigits := isAtomStart_of_digits hd
    cases hs with
    | bare =>
      refine isAtom_of_isAtomStart ?_ hdigits
      rintro rfl
      cases hd
      exact hne rfl
    | plus =>
      have hsign : isAtomStart '+' := by decide
      exact isAtom_of_isAtomStart (by simp) (List.forall_mem_cons.mpr ⟨hsign, hdigits⟩)
    | minus =>
      have hsign : isAtomStart '-' := by decide
      exact isAtom_of_isAtomStart (by simp) (List.forall_mem_cons.mpr ⟨hsign, hdigits⟩)
  | pointed => cases hl
  | scaled => cases hl

theorem symbolText?_eq_none_iff {name : List Char} :
    symbolText? name = none ↔ IsOverlong name := by
  constructor
  · intro h
    unfold symbolText? at h
    split at h
    · split at h
      · cases h
      · cases h
      · rename_i hnone
        exact atomLeaf?_eq_none_iff_isOverlong.mp hnone
    · cases h
  · intro h
    rw [symbolText?, if_pos (isAtom_of_isOverlong h), atomLeaf?_eq_none_iff_isOverlong.mpr h]

section Root

/-- The text that the printer needs for the root of a tree: that of a leaf, or that of a head. -/
def rootText? : Tree → Option (List Char)
  | .leaf x => leafText? x
  | .node h _ => symbolText? h.toList

theorem isSome_partLines?_iff {width : Width} {level : ℕ} {ts : List Tree} :
    (partLines? width level ts).isSome ↔ ∀ t ∈ ts, (lines? width level t).isSome := by
  induction ts with
  | nil => simp [partLines?]
  | cons t ts ih =>
    rw [partLines?, isSome_bind_pair, Bool.and_eq_true, ih, List.forall_mem_cons]

/-- A tree is printed exactly if every root in it has a text. -/
theorem isSome_lines?_iff {width : Width} {level : ℕ} {t : Tree} :
    (lines? width level t).isSome ↔ t.Everywhere fun s => (rootText? s).isSome := by
  induction t generalizing level with
  | leaf x => rw [lines?, Option.isSome_map, Tree.everywhere_leaf, rootText?]
  | node h cs ih =>
    have hchildren : (∀ c ∈ cs, (lines? width (level + 1) c).isSome) ↔
        ∀ c ∈ cs, c.Everywhere fun s => (rootText? s).isSome :=
      forall₂_congr fun c hc => ih c hc
    rw [lines?, isSome_bind_pair, Bool.and_eq_true, isSome_partLines?_iff, hchildren,
      Tree.everywhere_node, rootText?, and_comm]

/-- Every leaf that can be read has a text, unless it is an identifier. -/
theorem ReadLeaf.isSome_leafText? {x : Leaf} (h : ReadLeaf x) (hx : ∀ name, x ≠ .symbol name) :
    (leafText? x).isSome := by
  cases h with
  | nothing => rfl
  | @atom cs x ha =>
    cases atomLeaf?_eq_some_iff.mp ha with
    | reserved hr =>
      unfold reserved? at hr
      split_ifs at hr
      all_goals
        obtain rfl := Option.some.inj hr
        rfl
    | integer hspelling hl => exact isSome_integerText? hspelling hl
    | fraction => rfl
    | symbol => exact absurd rfl (hx _)
  | text s => rfl
  | symbol name => exact absurd rfl (hx name)

theorem isSome_symbolText?_iff {name : List Char} :
    (symbolText? name).isSome ↔ ¬ IsOverlong name := by
  rw [← symbolText?_eq_none_iff, Option.isSome_iff_ne_none]

/-- What can be read lacks a text only for a name that is too long. -/
theorem isSome_rootText?_iff {t : Tree} (ht : ∀ x, t = .leaf x → ReadLeaf x) :
    (rootText? t).isSome ↔ ∀ name ∈ t.name?, ¬ IsOverlong name.toList := by
  cases t with
  | node h cs => simpa [rootText?, Tree.name?] using isSome_symbolText?_iff
  | leaf x =>
    by_cases hx : ∃ name, x = .symbol name
    · obtain ⟨name, rfl⟩ := hx
      simpa [rootText?, leafText?, Tree.name?] using isSome_symbolText?_iff
    · have hname : (Tree.leaf x).name? = none := by
        cases x with
        | symbol name => exact absurd ⟨name, rfl⟩ hx
        | _ => rfl
      rw [hname]
      exact iff_of_true ((ht x rfl).isSome_leafText? (not_exists.mp hx)) (by simp)

end Root
end Sexpr
open Sexpr

theorem Tree.everywhere_name?_iff {p : String → Prop} {t : Tree} :
    (t.Everywhere fun s => ∀ name ∈ s.name?, p name) ↔ ∀ name ∈ t.names, p name := by
  simp only [Tree.names, List.mem_filterMap]
  constructor
  · rintro h name ⟨s, hs, hname⟩
    exact h s hs name hname
  · intro h s hs name hname
    exact h name ⟨s, hs, hname⟩

/-- At every width, a tree of leaves that can be read is printed unless a name in it is too
long. -/
theorem isSome_text?_iff {t : Tree} (ht : t.AllLeaves ReadLeaf) (width : Width) :
    (t.text? width).isSome ↔ ∀ name ∈ t.names, ¬ IsOverlong name.toList := by
  rw [Tree.text?, Option.isSome_map, isSome_lines?_iff, ← Tree.everywhere_name?_iff]
  refine forall₂_congr fun s hs => isSome_rootText?_iff ?_
  rintro x rfl
  exact ht x hs

theorem allLeaves_read {stack : Stack} {s : String} {t : Tree} (h : read stack s = .ok t) :
    t.AllLeaves ReadLeaf := by
  obtain ⟨tokens, -, hderives⟩ := read_eq_ok_iff.mp h
  obtain ⟨d, -, hd⟩ := exists_datum_of_derives stack hderives
  exact allLeaves_tree d hd

/-- A tree that has been read is printed, and read again as the same tree, exactly if none of its
heads and identifiers spells an integer that is too long to be converted. -/
theorem text_of_read_iff {stack : Stack} {s : String} {t : Tree} (h : read stack s = .ok t)
    (width : Width) :
    (∃ text, t.text? width = some text ∧ read stack text = .ok t) ↔
      ∀ name ∈ t.names, ¬ IsOverlong name.toList := by
  have hleaves := allLeaves_read h
  have hliteral : t.IsLiteral := hleaves.mono fun x hx => hx.isLiteral
  rw [← isSome_text?_iff hleaves width, Option.isSome_iff_exists]
  refine exists_congr fun text => and_iff_left_of_imp fun htext => ?_
  obtain ⟨lines, hlines, rfl⟩ := Option.map_eq_some_iff.mp htext
  apply read_of_spells
  rw [String.toList_ofList]
  exact spells_lines hliteral hlines

/-- A text with a head and an identifier that spell numbers. -/
def numberedText : String := "(|12| |-3| 1e999 +0٣)"

def numberedTree : Tree :=
  .node "12" [.symbol "-3", .leaf (.float (.infinite false)), .leaf (.integer 3)]

theorem text_of_read_iff_numberedText :
    read (.ofRoom 1000) numberedText = .ok numberedTree ∧
      (∀ name ∈ numberedTree.names, ¬ IsOverlong name.toList) ∧
      ∃ text, numberedTree.text? (some 0) = some text ∧
        read (.ofRoom 1000) text = .ok numberedTree := by
  have hread : read (.ofRoom 1000) numberedText = .ok numberedTree := by decide +kernel
  have hnames : ∀ name ∈ numberedTree.names, ¬ IsOverlong name.toList := by decide +kernel
  exact ⟨hread, hnames, (text_of_read_iff hread (some 0)).mpr hnames⟩

/-- The name that consists of so many ones. -/
def onesName (n : ℕ) : String :=
  String.ofList (List.replicate n '1')

theorem isOverlong_onesName {n : ℕ} (h : Number.integerDigitLimit < n) :
    IsOverlong (onesName n).toList := by
  rw [onesName, String.toList_ofList]
  refine ⟨_, Number.Numeral.spelling_ones (Nat.ne_zero_of_lt h), ?_⟩
  simpa [Number.Numeral.isOverlong] using h

theorem read_quoted_onesName (stack : Stack) (n : ℕ) :
    read stack ("|" ++ onesName n ++ "|") = .ok (.symbol (onesName n)) := by
  have hplain : Text.escape '|' (onesName n).toList = (onesName n).toList := by
    refine Text.escape_eq_self fun c hc => ?_
    rw [onesName, String.toList_ofList] at hc
    rw [List.eq_of_mem_replicate hc]
    decide
  have hquote := spells_quote_symbol (onesName n)
  rw [Text.quote, hplain] at hquote
  apply read_of_spells
  simpa using hquote

/-- A name with one digit over the limit is read between bars, but at no width can the tree be
printed. -/
theorem read_onesName_unprintable :
    (∀ stack, read stack ("|" ++ onesName 4301 ++ "|") = .ok (.symbol (onesName 4301))) ∧
      ∀ width, (Tree.symbol (onesName 4301)).text? width = none := by
  refine ⟨fun stack => read_quoted_onesName stack 4301, fun width => ?_⟩
  have hlong : IsOverlong (onesName 4301).toList := isOverlong_onesName (by decide)
  rw [Tree.text?, lines?, leafText?, symbolText?_eq_none_iff.mpr hlong]
  rfl

end CodeTree
