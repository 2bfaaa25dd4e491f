import CodeTree.Proofs.Sexpr.RoundTrip

/-! The layout of a text by one rule from the root down: a list stands on one line if it holds no
line feed in a leaf and is short enough, and is broken otherwise. The printer works from the leaves
up and looks at the lines it has made of the children, but both give the same text. -/
namespace CodeTree

/-- A tree without a line feed in the text of a leaf. -/
def Tree.IsFeedless (t : Tree) : Prop :=
  t.AllLeaves fun x => ∀ text ∈ Sexpr.leafText? x, '\n' ∉ text

instance (t : Tree) : Decidable t.IsFeedless :=
  inferInstanceAs (Decidable (t.AllLeaves fun x => ∀ text ∈ Sexpr.leafText? x, '\n' ∉ text))

namespace Sexpr

/-- A list on one line: a blank before the text of each child. -/
def flatList (head : List Char) (texts : List (List Char)) : List Char :=
  '(' :: head ++ (texts.flatMap fun text => ' ' :: text) ++ [')']

/-- A list over several lines: the children one level further in, and the closing parenthesis on a
line of its own. -/
def brokenList (level : Nat) (head : List Char) (texts : List (List Char)) : List Char :=
  '(' :: head ++ (texts.flatMap fun text => '\n' :: (indentation (level + 1) ++ text)) ++
    '\n' :: (indentation level ++ [')'])

mutual

/-- The text of a tree with every list on one line. -/
def compact? : Tree → Option (List Char)
  | .leaf x => leafText? x
  | .node h cs => do
    let head ← symbolText? h.toList
    let texts ← compacts? cs
    return flatList head texts

def compacts? : List Tree → Option (List (List Char))
  | [] => some []
  | t :: ts => do return (← compact? t) :: (← compacts? ts)

end

mutual

/-- The text of a tree that stands at an indentation level: a list is on one line if no leaf in it
holds a line feed and it fits. -/
def placed? (width : Width) (level : Nat) : Tree → Option (List Char)
  | .leaf x => leafText? x
  | .node h cs => do
    let flat ← compact? (.node h cs)
    if (Tree.node h cs).IsFeedless ∧ fits width flat.length then return flat
    else
      let head ← symbolText? h.toList
      let texts ← placeds? width (level + 1) cs
      return brokenList level head texts

def placeds? (width : Width) (level : Nat) : List Tree → Option (List (List Char))
  | [] => some []
  | t :: ts => do return (← placed? width level t) :: (← placeds? width level ts)

end

theorem length_splitLines (cs : List Char) : (splitLines cs).length = cs.count '\n' + 1 := by
  induction cs with
  | nil => rfl
  | cons c cs ih =>
    obtain ⟨line, lines, hl⟩ := exists_splitLines cs
    rw [hl, List.length_cons] at ih
    unfold splitLines
    split_ifs with hc
    · rw [hc, List.count_cons_self, hl, List.length_cons, List.length_cons, ih]
    · rw [List.count_cons_of_ne hc, hl, List.length_cons, ih]

/-- A text is a single line exactly if it holds no line feed, and then it is that line. -/
theorem length_splitLines_eq_one_iff {cs : List Char} :
    (splitLines cs).length = 1 ↔ '\n' ∉ cs := by
  rw [length_splitLines, Nat.add_eq_right, List.count_eq_zero]

theorem splitLines_of_length_one {cs : List Char} (h : (splitLines cs).length = 1) :
    splitLines cs = [cs] := by
  obtain ⟨line, hl⟩ := List.length_eq_one_iff.mp h
  have hjoin := joinLines_splitLines cs
  rw [hl, joinLines] at hjoin
  rw [hl, hjoin]

theorem length_flatLine (head : List Char) (parts : List Lines) :
    (flatLine head parts).length = flatWidth head parts := by
  have hparts (n : ℕ) : parts.foldl (fun n p => n + 1 + (p.headD []).length) n + 1 =
      n + (flatParts parts).length := by
    induction parts generalizing n with
    | nil => rfl
    | cons p parts ih =>
      rw [List.foldl_cons, ih, flatParts, List.length_cons, List.length_append]
      omega
  have h := hparts (head.length + 2)
  rw [flatLine, flatWidth, List.length_cons, List.length_append]
  omega

theorem fits_of_le {width : Width} {m n : ℕ} (hmn : m ≤ n) (h : fits width n) : fits width m := by
  cases width with
  | none => rfl
  | some w =>
    simp only [fits, decide_eq_true_eq] at h ⊢
    omega

/-- The lines of a tree agree with the rule from the root down, and with the text on one line where
they are a single one. -/
structure Lays (width : Width) (level : ℕ) (t : Tree) (lines : Lines) (flat : List Char) :
    Prop where
  compact : compact? t = some flat
  placed : placed? width level t = some (joinLines lines)
  single : lines.length = 1 → lines = [flat] ∧ t.IsFeedless
  fitting : t.IsFeedless → fits width flat.length → lines = [flat]

structure LaysAll (width : Width) (level : ℕ) (ts : List Tree) (parts : List Lines)
    (flats : List (List Char)) : Prop where
  compact : compacts? ts = some flats
  placed : placeds? width level ts = some (parts.map joinLines)
  single : (∀ p ∈ parts, p.length = 1) →
    parts = flats.map (fun flat => [flat]) ∧ ∀ t ∈ ts, t.IsFeedless
  fitting : (∀ t ∈ ts, t.IsFeedless) → (∀ flat ∈ flats, fits width flat.length) →
    parts = flats.map fun flat => [flat]

theorem laysAll_of_forall₂ {width : Width} {level : ℕ} {ts : List Tree} {parts : List Lines}
    (h : List.Forall₂ (fun t p => ∃ flat, Lays width level t p flat) ts parts) :
    ∃ flats, LaysAll width level ts parts flats := by
  induction h with
  | nil => exact ⟨[], rfl, rfl, fun _ => ⟨rfl, nofun⟩, fun _ _ => rfl⟩
  | @cons t p ts parts ht _ ih =>
    obtain ⟨flat, ht⟩ := ht
    obtain ⟨flats, hts⟩ := ih
    refine ⟨flat :: flats, ?_, ?_, ?_, ?_⟩
    · rw [compacts?, ht.compact, hts.compact]
      rfl
    · rw [placeds?, ht.placed, hts.placed]
      rfl
    · rw [List.forall_mem_cons, List.forall_mem_cons]
      rintro ⟨hp, hps⟩
      obtain ⟨rfl, hfeed⟩ := ht.single hp
      obtain ⟨rfl, hfeeds⟩ := hts.single hps
      exact ⟨rfl, hfeed, hfeeds⟩
    · rw [List.forall_mem_cons, List.forall_mem_cons]
      rintro ⟨hfeed, hfeeds⟩ ⟨hfit, hfits⟩
      rw [ht.fitting hfeed hfit, hts.fitting hfeeds hfits]
      rfl

theorem flatLine_singletons (head : List Char) (flats : List (List Char)) :
    flatLine head (flats.map fun flat => [flat]) = flatList head flats := by
  have hone : ∀ p ∈ flats.map fun flat => [flat], p.length = 1 := by simp
  rw [flatLine, flatParts_eq hone, List.flatMap_map, flatList, List.append_assoc, List.cons_append]
  rfl

theorem length_le_flatList (head : List Char) {flat : List Char} {flats : List (List Char)}
    (h : flat ∈ flats) : flat.length ≤ (flatList head flats).length := by
  have hsub : (' ' :: flat).Sublist (flats.flatMap fun flat => ' ' :: flat) := by
    rw [List.flatMap_def]
    exact List.sublist_flatten_of_mem (List.mem_map_of_mem h)
  have hlen := hsub.length_le
  rw [flatList, List.length_append, List.length_append]
  rw [List.length_cons] at hlen
  omega

section Node
variable {width : Width} {level : ℕ} {h : String} {ts : List Tree} {head : List Char}
  {parts : List Lines} {flats : List (List Char)}

/-- Every part is one line and the whole fits exactly if no leaf below holds a line feed and the
text on one line fits: the children of a list that fits are shorter and fit, too. -/
theorem LaysAll.one_line_iff (hts : LaysAll width (level + 1) ts parts flats) :
    (parts.all (fun p => p.length == 1) && fits width (flatWidth head parts)) ↔
      (Tree.node h ts).IsFeedless ∧ fits width (flatList head flats).length := by
  rw [Bool.and_eq_true, List.all_eq_true, ← length_flatLine]
  simp only [beq_iff_eq]
  constructor
  · rintro ⟨hone, hfit⟩
    obtain ⟨rfl, hfeed⟩ := hts.single hone
    rw [flatLine_singletons] at hfit
    exact ⟨Tree.allLeaves_node.mpr hfeed, hfit⟩
  · rintro ⟨hfeed, hfit⟩
    obtain rfl := hts.fitting (Tree.allLeaves_node.mp hfeed)
      fun flat hflat => fits_of_le (length_le_flatList head hflat) hfit
    rw [flatLine_singletons]
    exact ⟨by simp, hfit⟩

theorem lays_node (hhead : symbolText? h.toList = some head)
    (hts : LaysAll width (level + 1) ts parts flats) :
    Lays width level (.node h ts) (layout width level head parts) (flatList head flats) := by
  have hcompact : compact? (.node h ts) = some (flatList head flats) := by
    rw [compact?, hhead, hts.compact]
    rfl
  have hiff : _ ↔ (Tree.node h ts).IsFeedless ∧ fits width (flatList head flats).length :=
    hts.one_line_iff
  by_cases hone : parts.all (fun p => p.length == 1) && fits width (flatWidth head parts)
  · have hlayout : layout width level head parts = [flatList head flats] := by
      have hall : ∀ p ∈ parts, p.length = 1 := by
        rw [Bool.and_eq_true, List.all_eq_true] at hone
        simpa using hone.1
      obtain ⟨rfl, -⟩ := hts.single hall
      rw [layout, if_pos hone, flatLine_singletons]
    rw [hlayout]
    refine ⟨hcompact, ?_, fun _ => ⟨rfl, (hiff.mp hone).1⟩, fun _ _ => rfl⟩
    rw [placed?, hcompact]
    exact if_pos (hiff.mp hone)
  · have hnot := mt hiff.mpr hone
    refine ⟨hcompact, ?_, ?_, fun hfeed hfit => absurd ⟨hfeed, hfit⟩ hnot⟩
    · rw [placed?, hcompact, layout, if_neg hone, joinLines_broken]
      simp only [Option.bind_eq_bind, Option.bind_some, if_neg hnot, hhead, hts.placed]
      simp [brokenList, List.flatMap_map]
    · -- A broken list has at least the lines of its two parentheses.
      intro hlen
      rw [layout, if_neg hone] at hlen
      simp at hlen

end Node

theorem lays_leaf {width : Width} {level : ℕ} {x : Leaf} {text : List Char}
    (h : leafText? x = some text) : Lays width level (.leaf x) (splitLines text) text := by
  have hfeed : (Tree.leaf x).IsFeedless ↔ '\n' ∉ text := by
    rw [Tree.IsFeedless, Tree.allLeaves_leaf, h]
    simp
  refine ⟨h, ?_, fun hone => ?_, fun hx _ => ?_⟩
  · rw [joinLines_splitLines]
    exact h
  · exact ⟨splitLines_of_length_one hone, hfeed.mpr (length_splitLines_eq_one_iff.mp hone)⟩
  · exact splitLines_of_length_one (length_splitLines_eq_one_iff.mpr (hfeed.mp hx))

/-- The lines that the printer makes agree with the rule from the root down at every level. -/
theorem exists_lays {width : Width} {t : Tree} {level : ℕ} {lines : Lines}
    (h : lines? width level t = some lines) : ∃ flat, Lays width level t lines flat := by
  induction t generalizing level lines with
  | leaf x =>
    obtain ⟨text, htext, rfl⟩ := Option.map_eq_some_iff.mp h
    exact ⟨text, lays_leaf htext⟩
  | node head ts ih =>
    simp only [lines?, Option.bind_eq_bind, Option.bind_eq_some_iff] at h
    obtain ⟨parts, hparts, text, htext, heq⟩ := h
    obtain rfl := Option.some.inj heq
    -- The children stand one level further in, so the induction is over all levels.
    have hchild : ∀ t ∈ ts, ∀ p, lines? width (level + 1) t = some p →
        ∃ flat, Lays width (level + 1) t p flat := fun t ht p => ih t ht
    have hall := (List.forall₂_and_left ts parts).mpr ⟨hchild, partLines?_forall₂ hparts⟩
    obtain ⟨flats, hflats⟩ := laysAll_of_forall₂ (hall.imp fun t p hp => hp.1 p hp.2)
    exact ⟨_, lays_node htext hflats⟩

theorem isSome_bind_pair {α β γ : Type} (x : Option α) (y : Option β) (f : α → β → γ) :
    (do let a ← x; let b ← y; return f a b).isSome = (x.isSome && y.isSome) := by
  cases x with
  | none => rfl
  | some a => cases y <;> rfl

mutual

/-- A tree is printed exactly if it has a text on one line: both need the same texts of heads and
leaves. -/
theorem isSome_lines? (width : Width) (level : ℕ) (t : Tree) :
    (lines? width level t).isSome = (compact? t).isSome := by
  cases t with
  | leaf x => rw [lines?, compact?, Option.isSome_map]
  | node h cs =>
    rw [lines?, compact?, isSome_bind_pair, isSome_bind_pair,
      isSome_partLines? width (level + 1) cs, Bool.and_comm]

theorem isSome_partLines? (width : Width) (level : ℕ) (ts : List Tree) :
    (partLines? width level ts).isSome = (compacts? ts).isSome := by
  cases ts with
  | nil => rfl
  | cons t ts =>
    rw [partLines?, compacts?, isSome_bind_pair, isSome_bind_pair, isSome_lines? width level t,
      isSome_partLines? width level ts]

end

theorem placed?_eq_none {t : Tree} (h : compact? t = none) (width : Width) (level : ℕ) :
    placed? width level t = none := by
  cases t with
  | leaf x => exact h
  | node head ts =>
    rw [placed?, h]
    rfl

end Sexpr

/-- The printer follows the rule from the root down, at every width. -/
theorem text_eq_placed (t : Tree) (width : Sexpr.Width) :
    t.text? width = (Sexpr.placed? width 0 t).map String.ofList := by
  unfold Tree.text?
  cases hlines : Sexpr.lines? width 0 t with
  | none =>
    have hsome := Sexpr.isSome_lines? width 0 t
    rw [hlines, Option.isSome_none, eq_comm, Option.isSome_eq_false_iff,
      Option.isNone_iff_eq_none] at hsome
    rw [Sexpr.placed?_eq_none hsome]
    rfl
  | some lines =>
    obtain ⟨flat, hlays⟩ := Sexpr.exists_lays hlines
    rw [hlays.placed]
    rfl

end CodeTree
