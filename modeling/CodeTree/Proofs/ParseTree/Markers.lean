import CodeTree.ParseTree.Basic
import CodeTree.Proofs.Block

/-! Line markers in converted parse trees. With and without them a parse tree has the same code tree
underneath, and stripping them gives it back. -/
namespace CodeTree.ParseTree

/-- A property holds of every parse tree if it holds of tokens and values, and of a rule whenever it
holds of the parts. -/
@[elab_as_elim, induction_eliminator]
theorem induct {motive : ParseTree → Prop}
    (rule : ∀ name line? parts, (∀ p ∈ parts, motive p) → motive (.rule name line? parts))
    (token : ∀ kind text line?, motive (.token kind text line?))
    (value : ∀ leaf, motive (.value leaf)) (p : ParseTree) : motive p :=
  match p with
  | .rule name line? parts =>
    rule name line? parts fun q _ => induct rule token value q
  | .token kind text line? => token kind text line?
  | .value leaf => value leaf

mutual

/-- Every rule, token and value of a parse tree, a rule before its parts. -/
def subtrees : ParseTree → List ParseTree
  | .rule name line? parts => .rule name line? parts :: subtreesAll parts
  | .token kind text line? => [.token kind text line?]
  | .value leaf => [.value leaf]

def subtreesAll : List ParseTree → List ParseTree
  | [] => []
  | p :: ps => p.subtrees ++ subtreesAll ps

end

theorem mem_subtreesAll {q : ParseTree} {ps : List ParseTree} :
    q ∈ subtreesAll ps ↔ ∃ p ∈ ps, q ∈ p.subtrees := by
  induction ps with
  | nil => simp [subtreesAll]
  | cons p ps ih => simp [subtreesAll, ih]

theorem mem_subtrees_rule {q : ParseTree} {name : String} {line? : Option Int}
    {parts : List ParseTree} :
    q ∈ (rule name line? parts).subtrees ↔
      q = .rule name line? parts ∨ ∃ p ∈ parts, q ∈ p.subtrees := by
  rw [subtrees, List.mem_cons, mem_subtreesAll]

theorem mem_subtrees_self (p : ParseTree) : p ∈ p.subtrees := by
  cases p <;> simp [subtrees]

/-- A condition on every part of a rule, taken from the same condition on the rule. -/
theorem forall_mem_subtrees_rule {holds : ParseTree → Prop} {name : String} {line? : Option Int}
    {parts : List ParseTree} :
    (∀ q ∈ (rule name line? parts).subtrees, holds q) ↔
      holds (.rule name line? parts) ∧ ∀ p ∈ parts, ∀ q ∈ p.subtrees, holds q := by
  simp only [mem_subtrees_rule, forall_eq_or_imp]
  grind

/-- The line that a rule or token knows. -/
def line? : ParseTree → Option Int
  | .rule _ line? _ | .token _ _ line? => line?
  | .value _ => none

/-- The name of a rule. -/
def name? : ParseTree → Option String
  | .rule name _ _ => some name
  | _ => none

/-- Whether a token can be read. Rules and values always can. -/
def isReadable : ParseTree → Bool
  | .token kind text _ => (tokenLeaf kind text).isOk
  | _ => true

/-- Whether the name of a rule or token is not reserved. -/
def isGeneral : ParseTree → Bool
  | .rule name _ _ => (reservedRule? name).isNone
  | .token kind _ _ => (reservedKind? kind).isNone
  | .value _ => true

mutual

/-- The code tree of a parse tree, lines left out: a rule is a node of its name with a child for
each part, in order, and a token is a leaf. -/
def unmarkedTree : ParseTree → Except Error Tree
  | .rule name _ parts => do return .node name (← unmarkedTrees parts)
  | .token kind text _ => do return .leaf (← tokenLeaf kind text)
  | .value leaf => .ok (.leaf leaf)

def unmarkedTrees : List ParseTree → Except Error (List Tree)
  | [] => .ok []
  | p :: ps => do return (← unmarkedTree p) :: (← unmarkedTrees ps)

end

mutual

/-- A code tree with line markers put in as its parse tree says: where a rule has its parts marked,
one before each child whose part knows its line. -/
def insertMarkers (marks : String → Option Int → Bool) (file? : Option Tree) :
    ParseTree → Tree → Tree
  | .rule name line? parts, .node head cs =>
    .node head (insertAll marks file? (marks name line?) parts cs)
  | _, t => t

def insertAll (marks : String → Option Int → Bool) (file? : Option Tree) (here : Bool) :
    List ParseTree → List Tree → List Tree
  | p :: ps, t :: ts =>
    let marker? := if here then p.line? else none
    (marker?.map fun n => Tree.lineMarker (.leaf (.integer n)) file?).toList ++
      insertMarkers marks file? p t :: insertAll marks file? here ps ts
  | _, ts => ts

end

section Unmarked

theorem unmarkedTree_rule_eq_ok {name : String} {line? : Option Int} {parts : List ParseTree}
    {t : Tree} :
    unmarkedTree (.rule name line? parts) = .ok t ↔
      ∃ cs, unmarkedTrees parts = .ok cs ∧ t = .node name cs := by
  rw [unmarkedTree]
  cases unmarkedTrees parts <;> simp [bind, Except.bind, pure, Except.pure, eq_comm]

theorem unmarkedTree_token_eq_ok {kind text : String} {line? : Option Int} {t : Tree} :
    unmarkedTree (.token kind text line?) = .ok t ↔
      ∃ x, tokenLeaf kind text = .ok x ∧ t = .leaf x := by
  rw [unmarkedTree]
  cases tokenLeaf kind text <;> simp [bind, Except.bind, pure, Except.pure, eq_comm]

theorem unmarkedTrees_cons_eq_ok {p : ParseTree} {ps : List ParseTree} {ts : List Tree} :
    unmarkedTrees (p :: ps) = .ok ts ↔
      ∃ u us, unmarkedTree p = .ok u ∧ unmarkedTrees ps = .ok us ∧ ts = u :: us := by
  rw [unmarkedTrees]
  cases unmarkedTree p <;> cases unmarkedTrees ps <;>
    simp [bind, Except.bind, pure, Except.pure, eq_comm]

theorem exists_unmarkedTrees_iff {ps : List ParseTree} :
    (∃ ts, unmarkedTrees ps = .ok ts) ↔ ∀ p ∈ ps, ∃ t, unmarkedTree p = .ok t := by
  induction ps with
  | nil => simp [unmarkedTrees]
  | cons p ps ih =>
    rw [List.forall_mem_cons, ← ih]
    simp only [unmarkedTrees_cons_eq_ok]
    constructor
    · rintro ⟨_, u, us, hu, hus, -⟩
      exact ⟨⟨u, hu⟩, us, hus⟩
    · rintro ⟨⟨u, hu⟩, us, hus⟩
      exact ⟨_, u, us, hu, hus, rfl⟩

theorem length_of_unmarkedTrees {ps : List ParseTree} {ts : List Tree}
    (h : unmarkedTrees ps = .ok ts) : ts.length = ps.length := by
  induction ps generalizing ts with
  | nil =>
    cases h
    rfl
  | cons p ps ih =>
    obtain ⟨u, us, -, hus, rfl⟩ := unmarkedTrees_cons_eq_ok.mp h
    rw [List.length_cons, List.length_cons, ih hus]

/-- Each child of a rule's node is the tree of a part. -/
theorem exists_part_of_mem {ps : List ParseTree} {ts : List Tree} (h : unmarkedTrees ps = .ok ts)
    {t : Tree} (ht : t ∈ ts) : ∃ p ∈ ps, unmarkedTree p = .ok t := by
  induction ps generalizing ts with
  | nil =>
    cases h
    cases ht
  | cons p ps ih =>
    obtain ⟨u, us, hu, hus, rfl⟩ := unmarkedTrees_cons_eq_ok.mp h
    rcases List.mem_cons.mp ht with rfl | ht
    · exact ⟨p, List.mem_cons_self, hu⟩
    · obtain ⟨q, hq, hqt⟩ := ih hus ht
      exact ⟨q, List.mem_cons_of_mem p hq, hqt⟩

/-- A parse tree has a code tree if and only if each of its tokens can be read. -/
theorem exists_unmarkedTree_iff {p : ParseTree} :
    (∃ t, unmarkedTree p = .ok t) ↔ ∀ q ∈ p.subtrees, q.isReadable := by
  induction p with
  | rule name line? parts ih =>
    rw [forall_mem_subtrees_rule, ← forall₂_congr ih, ← exists_unmarkedTrees_iff]
    simp only [unmarkedTree_rule_eq_ok, isReadable, true_and]
    rw [exists_comm]
    simp only [exists_and_left, exists_eq, and_true]
  | token kind text line? =>
    simp only [subtrees, List.forall_mem_singleton, isReadable, unmarkedTree_token_eq_ok]
    cases tokenLeaf kind text <;> simp [Except.isOk, Except.toBool]
  | value leaf => simp [unmarkedTree, subtrees, isReadable]

theorem isLineMarker_of_unmarkedTree {p : ParseTree} {t : Tree} (h : unmarkedTree p = .ok t) :
    t.isLineMarker ↔ p.name? = some Tag.line.head := by
  cases p with
  | rule name line? parts =>
    obtain ⟨cs, -, rfl⟩ := unmarkedTree_rule_eq_ok.mp h
    simp [Tree.isLineMarker, Tree.isTagged, name?]
  | token kind text line? =>
    obtain ⟨x, -, rfl⟩ := unmarkedTree_token_eq_ok.mp h
    simp [Tree.isLineMarker, Tree.isTagged, name?]
  | value leaf =>
    cases h
    simp [Tree.isLineMarker, Tree.isTagged, name?]

/-- No line marker stands in the code tree if no rule is named as one. -/
theorem everywhere_isUnmarked_of_unmarkedTree {p : ParseTree} {t : Tree}
    (h : unmarkedTree p = .ok t) (hline : ∀ q ∈ p.subtrees, q.name? ≠ some Tag.line.head) :
    t.Everywhere Tree.IsUnmarked := by
  induction p generalizing t with
  | rule name line? parts ih =>
    obtain ⟨cs, hcs, rfl⟩ := unmarkedTree_rule_eq_ok.mp h
    obtain ⟨-, hparts⟩ := forall_mem_subtrees_rule.mp hline
    refine Tree.everywhere_node.mpr ⟨fun c hc => ?_, fun c hc => ?_⟩
    all_goals obtain ⟨p, hp, hpc⟩ := exists_part_of_mem hcs hc
    · rw [isLineMarker_of_unmarkedTree hpc]
      exact hparts p hp p (mem_subtrees_self p)
    · exact ih p hp hpc (hparts p hp)
  | token kind text line? =>
    obtain ⟨x, -, rfl⟩ := unmarkedTree_token_eq_ok.mp h
    exact Tree.everywhere_leaf.mpr trivial
  | value leaf =>
    cases h
    exact Tree.everywhere_leaf.mpr trivial

end Unmarked

section Insertion

variable {marks : String → Option Int → Bool} {file? : Option Tree}

theorem isTagged_insertMarkers (p : ParseTree) (t : Tree) (tag : Tag) :
    (insertMarkers marks file? p t).isTagged tag = t.isTagged tag := by
  cases p <;> cases t <;> rfl

theorem insertAll_false (ps : List ParseTree) (ts : List Tree)
    (h : ∀ p ∈ ps, ∀ t, insertMarkers marks file? p t = t) :
    insertAll marks file? false ps ts = ts := by
  induction ps generalizing ts with
  | nil => rw [insertAll]; simp
  | cons p ps ih =>
    cases ts with
    | nil => rw [insertAll]; simp
    | cons t ts =>
      rw [List.forall_mem_cons] at h
      rw [insertAll, h.1, ih ts h.2]
      rfl

/-- Nothing is inserted where no rule has its parts marked. -/
theorem insertMarkers_eq_self (hnone : ∀ name line?, marks name line? = false) (p : ParseTree)
    (t : Tree) : insertMarkers marks file? p t = t := by
  induction p generalizing t with
  | rule name line? parts ih =>
    cases t with
    | leaf x => rfl
    | node head cs => rw [insertMarkers, hnone, insertAll_false parts cs ih]
  | token kind text line? => cases t <;> rfl
  | value leaf => cases t <;> rfl

/-- Stripping takes away what was inserted among the children of a node. -/
theorem map_stripMarkers_insertAll (here : Bool) (ps : List ParseTree) (ts : List Tree)
    (h : ∀ p ∈ ps, ∀ t, (insertMarkers marks file? p t).stripMarkers = t.stripMarkers) :
    ((insertAll marks file? here ps ts).filter fun c => !c.isLineMarker).map Tree.stripMarkers =
      (ts.filter fun c => !c.isLineMarker).map Tree.stripMarkers := by
  induction ps generalizing ts with
  | nil => rw [insertAll]; simp
  | cons p ps ih =>
    cases ts with
    | nil => rw [insertAll]; simp
    | cons t ts =>
      rw [List.forall_mem_cons] at h
      have hmarkers : ∀ n? : Option Int,
          (n?.map fun n => Tree.lineMarker (.leaf (.integer n)) file?).toList.filter
            (fun c => !c.isLineMarker) = [] := by
        rintro (_ | n) <;> rfl
      -- A child keeps its head, so what was no marker before is none now.
      rw [insertAll, List.filter_append, hmarkers, List.nil_append, List.filter_cons,
        List.filter_cons, Tree.isLineMarker, isTagged_insertMarkers, ← Tree.isLineMarker]
      cases t.isLineMarker with
      | true => exact ih ts h.2
      | false =>
        rw [Bool.not_false, if_pos rfl, if_pos rfl, List.map_cons, List.map_cons, h.1, ih ts h.2]

theorem stripMarkers_insertMarkers (p : ParseTree) (t : Tree) :
    (insertMarkers marks file? p t).stripMarkers = t.stripMarkers := by
  induction p generalizing t with
  | rule name line? parts ih =>
    cases t with
    | leaf x => rfl
    | node head cs =>
      rw [insertMarkers, Tree.stripMarkers_node, Tree.stripMarkers_node,
        map_stripMarkers_insertAll _ parts cs ih]
  | token kind text line? => cases t <;> rfl
  | value leaf => cases t <;> rfl

end Insertion

section Conversion

/-- What a parse tree becomes with its line when its code tree is known. -/
def part (p : ParseTree) (t : Tree) : Part :=
  match p with
  | .rule _ line? _ | .token _ _ line? => ⟨t, true, line?⟩
  | .value _ => { tree := t }

theorem part_tree (p : ParseTree) (t : Tree) : (p.part t).tree = t := by
  cases p <;> rfl

theorem marked_part (o : Options) (here : Bool) (p : ParseTree) (t : Tree) :
    o.marked here (p.part t) =
      ((if here then p.line? else none).map
        fun n => Tree.lineMarker (.leaf (.integer n)) o.file?).toList ++ [t] := by
  cases p with
  | rule name line? parts => cases here <;> cases line? <;> rfl
  | token kind text line? => cases here <;> cases line? <;> rfl
  | value leaf => cases here <;> rfl

/-- What a parse tree becomes when lines are marked. -/
def markedPart (o : Options) (p : ParseTree) (t : Tree) : Part :=
  p.part (insertMarkers o.marks o.file? p t)

theorem run_toParts_eq {o : Options} {ps : List ParseTree}
    (h : ∀ p ∈ ps, (toPart p).run o = (unmarkedTree p).map fun t => (markedPart o p t, o)) :
    (toParts ps).run o =
      (unmarkedTrees ps).map fun ts => (List.zipWith (markedPart o) ps ts, o) := by
  induction ps with
  | nil => rfl
  | cons p ps ih =>
    rw [List.forall_mem_cons] at h
    rw [toParts, unmarkedTrees, StateT.run_bind, h.1]
    cases unmarkedTree p with
    | error e => rfl
    | ok t =>
      change ((toParts ps).run o).bind (fun q => .ok (markedPart o p t :: q.1, q.2)) = _
      rw [ih h.2]
      cases unmarkedTrees ps <;> rfl

theorem flatMap_marked (o : Options) (here : Bool) {ps : List ParseTree} {ts : List Tree}
    (h : ts.length = ps.length) :
    (List.zipWith (markedPart o) ps ts).flatMap (o.marked here) =
      insertAll o.marks o.file? here ps ts := by
  induction ps generalizing ts with
  | nil =>
    rw [List.length_nil, List.length_eq_zero_iff] at h
    rw [h, insertAll]
    · rfl
    · simp
  | cons p ps ih =>
    cases ts with
    | nil => cases h
    | cons t ts =>
      rw [List.zipWith_cons_cons, List.flatMap_cons, insertAll, ih (by simpa using h), markedPart,
        marked_part, List.append_assoc, List.singleton_append]

/-- A parse tree without reserved names becomes its code tree with markers inserted, and the options
stay as they are. -/
theorem run_toPart_eq (o : Options) {p : ParseTree} (hp : ∀ q ∈ p.subtrees, q.isGeneral) :
    (toPart p).run o = (unmarkedTree p).map fun t => (markedPart o p t, o) := by
  induction p with
  | rule name line? parts ih =>
    obtain ⟨hname, hparts⟩ := forall_mem_subtrees_rule.mp hp
    have hrule : reservedRule? name = none := by simpa [isGeneral] using hname
    rw [toPart, unmarkedTree, StateT.run_bind,
      run_toParts_eq fun p hm => ih p hm (hparts p hm)]
    cases hcs : unmarkedTrees parts with
    | error e => rfl
    | ok cs =>
      change (rulePart name line? (List.zipWith (markedPart o) parts cs)).run o = .ok _
      rw [rulePart, hrule]
      change Except.ok (Part.mk (.node name _) true line?, o) = .ok _
      rw [flatMap_marked o _ (length_of_unmarkedTrees hcs)]
      rfl
  | token kind text line? =>
    have hkind : reservedKind? kind = none := by
      simpa [isGeneral] using hp _ (mem_subtrees_self _)
    rw [toPart, tokenPart, unmarkedTree, hkind]
    cases tokenLeaf kind text <;> rfl
  | value leaf => rfl

theorem toTree_eq (o : Options) {p : ParseTree} (hroot : p.isRule)
    (hp : ∀ q ∈ p.subtrees, q.isGeneral) :
    toTree o p = (unmarkedTree p).map (insertMarkers o.marks o.file? p) := by
  rw [toTree, run_toPart_eq o hp, hroot]
  cases unmarkedTree p with
  | error e => rfl
  | ok t => exact congrArg Except.ok (part_tree p _)

end Conversion

/-- Line markers are inserted and nothing else is changed. If no name is reserved, a parse tree
without markers becomes a node for each rule, with a child for each part, exactly if every token can
be read. With markers it becomes this tree with one marker before each child whose part knows its
line, in the nodes of those statement rules that know their own line. If no rule is named as a
marker, stripping gives back the tree without markers. -/
theorem toTree_inserts_markers (o : Options) (p : ParseTree) (hroot : p.isRule)
    (hp : ∀ q ∈ p.subtrees, q.isGeneral) :
    toTree { o with lineMarkers := false } p = unmarkedTree p ∧
      ((∃ t, unmarkedTree p = .ok t) ↔ ∀ q ∈ p.subtrees, q.isReadable) ∧
      toTree { o with lineMarkers := true } p =
        (unmarkedTree p).map (insertMarkers
          (fun name line? => line?.isSome && o.statementRules.contains name) o.file? p) ∧
      ((∀ q ∈ p.subtrees, q.name? ≠ some Tag.line.head) →
        (toTree { o with lineMarkers := true } p).map Tree.stripMarkers =
          toTree { o with lineMarkers := false } p) := by
  have hoff : toTree { o with lineMarkers := false } p = unmarkedTree p := by
    rw [toTree_eq _ hroot hp]
    cases unmarkedTree p with
    | error e => rfl
    | ok t => exact congrArg Except.ok (insertMarkers_eq_self (fun _ _ => rfl) p t)
  refine ⟨hoff, exists_unmarkedTree_iff, toTree_eq _ hroot hp, fun hline => ?_⟩
  rw [hoff, toTree_eq _ hroot hp]
  cases ht : unmarkedTree p with
  | error e => rfl
  | ok t =>
    refine congrArg Except.ok ?_
    rw [stripMarkers_insertMarkers]
    exact Tree.stripMarkers_eq_self (everywhere_isUnmarked_of_unmarkedTree ht hline)

/-- Three statements and a missing one. The inner block does not know its line. -/
def statements : ParseTree :=
  .rule "block" (some 1)
    [.rule "call" (some 1) [.token "NAME" "f" (some 1), .token "NUMBER" "2" (some 1)],
      .value .nothing, .rule "block" none [.token "NAME" "g" (some 3)], .token "NAME" "h" (some 4)]

theorem toTree_inserts_markers_statements :
    let file : Tree := .leaf (.text "demo")
    let call := Tag.call.node [.symbol "f", .leaf (.integer 2)]
    let marked := toTree { file? := some file } statements
    marked = .ok (Tag.block.node
        [Tag.line.node [.leaf (.integer 1), file], call, .nothing, Tag.block.node [.symbol "g"],
          Tag.line.node [.leaf (.integer 4), file], .symbol "h"]) ∧
      marked.map Tree.stripMarkers =
        .ok (Tag.block.node [call, .nothing, Tag.block.node [.symbol "g"], .symbol "h"]) := by
  obtain ⟨hoff, -, hon, hstrip⟩ :=
    toTree_inserts_markers { file? := some (.leaf (.text "demo")) } statements rfl
      (by decide +kernel)
  exact ⟨hon.trans rfl, (hstrip (by decide +kernel)).trans (hoff.trans rfl)⟩

end CodeTree.ParseTree
