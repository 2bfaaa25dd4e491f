import CodeTree.Proofs.ParseTree.Markers

/-! Where the parts of a parse tree stand in its code tree. Line markers move a part to the right,
and a rule with a reserved name hides all that it holds; otherwise each part is converted in its
place. Which rules are marked can change on the way, but it is known from the names alone. -/
namespace CodeTree

/-- The subtree at a place, given by the index of a child at each step from the root on. -/
def Tree.at? : Tree → List Nat → Option Tree
  | t, [] => some t
  | .leaf _, _ :: _ => none
  | .node _ cs, i :: place => cs[i]?.bind (·.at? place)

namespace ParseTree

/-- The rule, token or value at the end of a path from the root. -/
def at? : ParseTree → List Nat → Option ParseTree
  | p, [] => some p
  | .rule _ _ parts, i :: path => parts[i]?.bind (·.at? path)
  | _, _ :: _ => none

/-- The names of the rules that a path goes through. -/
def enclosing : ParseTree → List Nat → List String
  | .rule name _ parts, i :: path => name :: (parts[i]?.map (·.enclosing path)).getD []
  | _, _ => []

/-- No rule that a path goes through has a reserved name. -/
def IsClear (p : ParseTree) (path : List Nat) : Prop :=
  ∀ name ∈ p.enclosing path, reservedRule? name = none

instance (p : ParseTree) (path : List Nat) : Decidable (p.IsClear path) :=
  inferInstanceAs (Decidable (∀ name ∈ p.enclosing path, reservedRule? name = none))

/-- Whether the conversion of a part knows its line. What has a reserved name loses it. -/
def isLocated (p : ParseTree) : Bool :=
  p.isGeneral && p.line?.isSome

/-- Whether a rule or token puts other options in force. -/
def restarts : ParseTree → Bool
  | .rule name _ _ => reservedRule? name == some .restart
  | .token kind _ _ => reservedKind? kind == some .restart
  | .value _ => false

/-- Which rules have their parts marked after some parse trees have been converted. After a restart
these are the rules of the usual options. -/
def marksAfter (marks : String → Option Int → Bool) (ps : List ParseTree) :
    String → Option Int → Bool :=
  if (subtreesAll ps).any restarts then ({} : Options).marks else marks

/-- The place of a part in the code tree: its path, moved by the line markers at each step. A rule
is converted after all of its parts, and each of these after the ones before it. -/
def place (marks : String → Option Int → Bool) : ParseTree → List Nat → List Nat
  | .rule name line? parts, i :: path =>
    (i + (parts.take (i + 1)).countP fun p =>
      marksAfter marks parts name line? && p.isLocated) ::
        (parts[i]?.map (place (marksAfter marks (parts.take i)) · path)).getD []
  | _, _ => []

section Steps
variable {name : String} {line? : Option Int} {parts : List ParseTree} {i : Nat} {p : ParseTree}

theorem isClear_nil (p : ParseTree) : p.IsClear [] := by
  simp [IsClear, enclosing]

theorem isClear_cons (hi : parts[i]? = some p) {path : List Nat} :
    IsClear (.rule name line? parts) (i :: path) ↔
      reservedRule? name = none ∧ p.IsClear path := by
  rw [IsClear, enclosing, hi, Option.map_some, Option.getD_some, List.forall_mem_cons, IsClear]

variable (marks : String → Option Int → Bool)

theorem place_cons (hi : parts[i]? = some p) (path : List Nat) :
    place marks (.rule name line? parts) (i :: path) =
      (i + (parts.take (i + 1)).countP fun p =>
        marksAfter marks parts name line? && p.isLocated) ::
          place (marksAfter marks (parts.take i)) p path := by
  rw [place, hi, Option.map_some, Option.getD_some]

theorem marksAfter_cons (p : ParseTree) (ps : List ParseTree) :
    marksAfter marks (p :: ps) = marksAfter (marksAfter marks [p]) ps := by
  simp only [marksAfter, subtreesAll, List.any_append, List.append_nil]
  cases p.subtrees.any restarts <;> simp

theorem marksAfter_rule (name : String) (line? : Option Int) (parts : List ParseTree) :
    marksAfter marks [.rule name line? parts] =
      if reservedRule? name = some .restart then ({} : Options).marks
      else marksAfter marks parts := by
  simp only [marksAfter, subtreesAll, subtrees, List.append_nil, List.any_cons, restarts]
  by_cases hname : reservedRule? name = some .restart <;> simp [hname]

end Steps

section Conversion
variable {o o' : Options} {p : ParseTree} {q : Part} {ps parts : List ParseTree} {qs : List Part}
  {name : String} {line? : Option Int}

/-- A conversion in two steps succeeds exactly if both do, each with the options that the one before
it leaves. -/
theorem run_bind_eq_ok {α β : Type} {x : Conversion α} {f : α → Conversion β} {b : β} :
    (x >>= f).run o = .ok (b, o') ↔
      ∃ a o₁, x.run o = .ok (a, o₁) ∧ (f a).run o₁ = .ok (b, o') := by
  rw [StateT.run_bind]
  cases x.run o with
  | error e => simp [bind, Except.bind]
  | ok r =>
    refine ⟨fun h => ⟨r.1, r.2, rfl, h⟩, ?_⟩
    rintro ⟨a, o₁, hr, h⟩
    rwa [Except.ok.inj hr]

theorem run_toParts_cons_eq_ok :
    (toParts (p :: ps)).run o = .ok (qs, o') ↔
      ∃ r o₁ rs, (toPart p).run o = .ok (r, o₁) ∧ (toParts ps).run o₁ = .ok (rs, o') ∧
        r :: rs = qs := by
  simp only [toParts, run_bind_eq_ok]
  constructor
  · rintro ⟨r, o₁, hr, rs, o₂, hrs, heq⟩
    cases heq
    exact ⟨r, o₁, rs, hr, hrs, rfl⟩
  · rintro ⟨r, o₁, rs, hr, hrs, rfl⟩
    exact ⟨r, o₁, hr, rs, o', hrs, rfl⟩

theorem run_toPart_rule_eq_ok (hname : reservedRule? name = none) :
    (toPart (.rule name line? parts)).run o = .ok (q, o') ↔
      ∃ rs, (toParts parts).run o = .ok (rs, o') ∧
        ⟨.node name (rs.flatMap (o'.marked (o'.marks name line?))), true, line?⟩ = q := by
  rw [toPart, run_bind_eq_ok]
  constructor
  · rintro ⟨rs, o₁, hrs, hq⟩
    rw [rulePart, hname] at hq
    cases hq
    exact ⟨rs, hrs, rfl⟩
  · rintro ⟨rs, hrs, rfl⟩
    refine ⟨rs, o', hrs, ?_⟩
    rw [rulePart, hname]
    rfl

theorem run_toPart_token_eq_ok {kind text : String} (hkind : reservedKind? kind = none) :
    (toPart (.token kind text line?)).run o = .ok (q, o') ↔
      ∃ x, tokenLeaf kind text = .ok x ∧ ⟨.leaf x, true, line?⟩ = q ∧ o = o' := by
  rw [toPart, tokenPart, hkind]
  cases tokenLeaf kind text with
  | error e =>
    change Except.error e = Except.ok (q, o') ↔ _
    simp
  | ok x =>
    change Except.ok (⟨.leaf x, true, line?⟩, o) = Except.ok (q, o') ↔ _
    simp

/-- What has a reserved name becomes a leaf without a line, if it becomes anything. It changes which
rules are marked only if it restarts. -/
theorem exists_leaf_of_reservedPart {reserved : Reserved} {given : Leaf}
    {bare : Except Error Leaf} (h : (reservedPart reserved given bare).run o = .ok (q, o')) :
    (∃ x, q = { tree := .leaf x }) ∧
      o'.marks = if reserved = .restart then ({} : Options).marks else o.marks := by
  cases reserved with
  | refused cause => cases h
  | leaf x =>
    cases h
    exact ⟨⟨x, rfl⟩, rfl⟩
  | bare =>
    cases bare with
    | error e => cases h
    | ok x =>
      cases h
      exact ⟨⟨x, rfl⟩, rfl⟩
  | restart =>
    cases h
    exact ⟨⟨.nothing, rfl⟩, rfl⟩

theorem exists_leaf_of_reservedRule {reserved : Reserved}
    (hname : reservedRule? name = some reserved)
    (h : (toPart (.rule name line? parts)).run o = .ok (q, o')) :
    (∃ x, q = { tree := .leaf x }) ∧ ∃ rs o₁, (toParts parts).run o = .ok (rs, o₁) ∧
      o'.marks = if reserved = .restart then ({} : Options).marks else o₁.marks := by
  rw [toPart, run_bind_eq_ok] at h
  obtain ⟨rs, o₁, hrs, hq⟩ := h
  rw [rulePart, hname] at hq
  obtain ⟨hleaf, hmarks⟩ := exists_leaf_of_reservedPart hq
  exact ⟨hleaf, rs, o₁, hrs, hmarks⟩

theorem exists_leaf_of_reservedKind {kind text : String} {reserved : Reserved}
    (hkind : reservedKind? kind = some reserved)
    (h : (toPart (.token kind text line?)).run o = .ok (q, o')) :
    (∃ x, q = { tree := .leaf x }) ∧
      o'.marks = if reserved = .restart then ({} : Options).marks else o.marks := by
  rw [toPart, tokenPart, hkind] at h
  exact exists_leaf_of_reservedPart h

theorem isSome_line?_of_toPart (h : (toPart p).run o = .ok (q, o')) :
    q.line?.isSome = p.isLocated := by
  cases p with
  | rule name line? parts =>
    cases hname : reservedRule? name with
    | none =>
      obtain ⟨rs, -, rfl⟩ := (run_toPart_rule_eq_ok hname).mp h
      simp [isLocated, isGeneral, hname, ParseTree.line?]
    | some reserved =>
      obtain ⟨⟨x, rfl⟩, -⟩ := exists_leaf_of_reservedRule hname h
      simp [isLocated, isGeneral, hname]
  | token kind text line? =>
    cases hkind : reservedKind? kind with
    | none =>
      obtain ⟨x, -, rfl, -⟩ := (run_toPart_token_eq_ok hkind).mp h
      simp [isLocated, isGeneral, hkind, ParseTree.line?]
    | some reserved =>
      obtain ⟨⟨x, rfl⟩, -⟩ := exists_leaf_of_reservedKind hkind h
      simp [isLocated, isGeneral, hkind]
  | value leaf =>
    cases h
    rfl

theorem marks_of_toParts
    (hps : ∀ p ∈ ps, ∀ {o o' q}, (toPart p).run o = .ok (q, o') → o'.marks = marksAfter o.marks [p])
    (h : (toParts ps).run o = .ok (qs, o')) : o'.marks = marksAfter o.marks ps := by
  induction ps generalizing o qs with
  | nil =>
    cases h
    rfl
  | cons p ps ih =>
    rw [List.forall_mem_cons] at hps
    obtain ⟨r, o₁, rs, hr, hrs, -⟩ := run_toParts_cons_eq_ok.mp h
    rw [marksAfter_cons, ← hps.1 hr, ih hps.2 hrs]

/-- Which rules are marked after a parse tree is known before it is converted. -/
theorem marks_of_toPart (h : (toPart p).run o = .ok (q, o')) :
    o'.marks = marksAfter o.marks [p] := by
  induction p generalizing o o' q with
  | rule name line? parts ih =>
    rw [marksAfter_rule]
    cases hname : reservedRule? name with
    | none =>
      obtain ⟨rs, hrs, -⟩ := (run_toPart_rule_eq_ok hname).mp h
      simpa using marks_of_toParts ih hrs
    | some reserved =>
      obtain ⟨-, rs, o₁, hrs, hmarks⟩ := exists_leaf_of_reservedRule hname h
      simp only [Option.some.injEq, hmarks, marks_of_toParts ih hrs]
  | token kind text line? =>
    cases hkind : reservedKind? kind with
    | none =>
      obtain ⟨x, -, -, rfl⟩ := (run_toPart_token_eq_ok hkind).mp h
      simp [marksAfter, subtreesAll, subtrees, restarts, hkind]
    | some reserved =>
      obtain ⟨-, hmarks⟩ := exists_leaf_of_reservedKind hkind h
      simp [marksAfter, subtreesAll, subtrees, restarts, hkind, hmarks]
  | value leaf =>
    cases h
    rfl

/-- A token that restarts the conversion has the block around it marked, with its text for the
file. -/
example : toTree { lineMarkers := false }
      (.rule "block" (some 1) [.token "__init__" "a" none, .token "NAME" "x" (some 2)]) =
    .ok (Tag.block.node [.nothing, Tag.line.node [.leaf (.integer 2), .leaf (.text "a")],
      .symbol "x"]) := by
  rfl

theorem exists_part_of_getElem? (h : (toParts ps).run o = .ok (qs, o')) {i : Nat}
    (hi : ps[i]? = some p) :
    ∃ r o₁ o₂, (toPart p).run o₁ = .ok (r, o₂) ∧ o₁.marks = marksAfter o.marks (ps.take i) ∧
      qs[i]? = some r := by
  induction ps generalizing o qs i with
  | nil => cases hi
  | cons p₀ ps ih =>
    obtain ⟨r, o₁, rs, hr, hrs, rfl⟩ := run_toParts_cons_eq_ok.mp h
    cases i with
    | zero =>
      obtain rfl : p₀ = p := by simpa using hi
      exact ⟨r, o, o₁, hr, rfl, rfl⟩
    | succ i =>
      obtain ⟨s, o₂, o₃, hs, hmarks, hsi⟩ := ih hrs hi
      refine ⟨s, o₂, o₃, hs, ?_, hsi⟩
      rw [hmarks, marks_of_toPart hr, ← marksAfter_cons, List.take_succ_cons]

theorem marked_eq (o : Options) (here : Bool) (q : Part) :
    ∃ markers : List Tree, o.marked here q = markers ++ [q.tree] ∧
      markers.length = if here && q.line?.isSome then 1 else 0 := by
  cases here with
  | false => exact ⟨[], rfl, rfl⟩
  | true =>
    cases hq : q.line? with
    | none => exact ⟨[], by simp [Options.marked, hq], rfl⟩
    | some n => exact ⟨[Tree.lineMarker (.leaf (.integer n)) o.file?],
        by simp [Options.marked, hq], rfl⟩

/-- The tree of a part comes after the markers of the parts before it and after its own. -/
theorem getElem?_flatMap_marked (used : Options) (here : Bool)
    (h : (toParts ps).run o = .ok (qs, o')) {i : Nat} (hi : qs[i]? = some q) :
    (qs.flatMap (used.marked here))[
      i + (ps.take (i + 1)).countP fun p => here && p.isLocated]? = some q.tree := by
  induction ps generalizing o qs i with
  | nil =>
    cases h
    cases hi
  | cons p ps ih =>
    obtain ⟨r, o₁, rs, hr, hrs, rfl⟩ := run_toParts_cons_eq_ok.mp h
    obtain ⟨markers, hmarked, hlen⟩ := marked_eq used here r
    rw [isSome_line?_of_toPart hr] at hlen
    rw [List.flatMap_cons, hmarked, List.take_succ_cons, List.countP_cons, ← hlen]
    cases i with
    | zero =>
      obtain rfl : r = q := by simpa using hi
      simp
    | succ i =>
      -- The head takes its markers and one place; what is left is the place among the others.
      have hhead : (markers ++ [r.tree]).length = markers.length + 1 := List.length_append
      rw [← ih hrs (by simpa using hi), List.getElem?_append_right (by omega), hhead]
      congr 1
      omega

/-- A step into a node: what is at a place below it is found in the part that the path goes to. -/
theorem at?_place_cons (hname : reservedRule? name = none) {i : Nat} (hi : parts[i]? = some p)
    (h : (toPart (.rule name line? parts)).run o = .ok (q, o')) (path : List Nat) :
    ∃ r o₁ o₂, (toPart p).run o₁ = .ok (r, o₂) ∧
      q.tree.at? (place o.marks (.rule name line? parts) (i :: path)) =
        r.tree.at? (place o₁.marks p path) := by
  obtain ⟨rs, hrs, rfl⟩ := (run_toPart_rule_eq_ok hname).mp h
  obtain ⟨r, o₁, o₂, hr, hmarks, hri⟩ := exists_part_of_getElem? hrs hi
  have hafter : o'.marks = marksAfter o.marks parts :=
    marks_of_toParts (fun _ _ _ _ _ => marks_of_toPart) hrs
  refine ⟨r, o₁, o₂, hr, ?_⟩
  rw [place_cons _ hi, Tree.at?, hmarks, ← hafter, getElem?_flatMap_marked o' _ hrs hri,
    Option.bind_some]

/-- If no rule around a part has a reserved name, the part is converted in its own place. -/
theorem at?_place {path : List Nat} {sub : ParseTree} (h : (toPart p).run o = .ok (q, o'))
    (hsub : p.at? path = some sub) (hclear : p.IsClear path) :
    ∃ r o₁ o₂, (toPart sub).run o₁ = .ok (r, o₂) ∧
      q.tree.at? (place o.marks p path) = some r.tree := by
  induction path generalizing p q o o' with
  | nil =>
    obtain rfl : p = sub := by simpa [at?] using hsub
    exact ⟨q, o, o', h, by simp [place, Tree.at?]⟩
  | cons i path ih =>
    cases p with
    | rule name line? parts =>
      obtain ⟨p, hi, hp⟩ := Option.bind_eq_some_iff.mp hsub
      obtain ⟨hname, hrest⟩ := (isClear_cons hi).mp hclear
      obtain ⟨r, o₁, o₂, hr, hplace⟩ := at?_place_cons hname hi h path
      rw [hplace]
      exact ih hr hp hrest
    | token kind text line? => cases hsub
    | value leaf => cases hsub

/-- If a rule around a part has a reserved name, there is nothing in the part's place. -/
theorem at?_place_eq_none {path : List Nat} {sub : ParseTree} (h : (toPart p).run o = .ok (q, o'))
    (hsub : p.at? path = some sub) (hclear : ¬ p.IsClear path) :
    q.tree.at? (place o.marks p path) = none := by
  induction path generalizing p q o o' with
  | nil => exact absurd (isClear_nil p) hclear
  | cons i path ih =>
    cases p with
    | rule name line? parts =>
      obtain ⟨p, hi, hp⟩ := Option.bind_eq_some_iff.mp hsub
      cases hname : reservedRule? name with
      | some reserved =>
        obtain ⟨⟨x, rfl⟩, -⟩ := exists_leaf_of_reservedRule hname h
        rw [place_cons _ hi]
        rfl
      | none =>
        obtain ⟨r, o₁, o₂, hr, hplace⟩ := at?_place_cons hname hi h path
        rw [hplace]
        exact ih hr hp fun hrest => hclear ((isClear_cons hi).mpr ⟨hname, hrest⟩)
    | token kind text line? => cases hsub
    | value leaf => cases hsub

end Conversion
end ParseTree
end CodeTree
