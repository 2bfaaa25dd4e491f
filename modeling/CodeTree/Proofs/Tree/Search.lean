import CodeTree.Proofs.Tree.Equivalence
import CodeTree.Proofs.Walk
import CodeTree.Tree.Search

/-! Search and replacement see the same nodes: one walks from the leaves up and notes a hit, the
other works from the root down and enters no hit, and both give what plain recursion gives. A
replacement can be undone, since no node around what has been put in is as small as that. -/
namespace CodeTree.Tree

section Search
variable (target : Tree)

/-- One step of the search: the first hit is noted, and the tree stays. -/
def noteHit (t : Tree) : StateM Bool Tree := do
  if !(← get) && t.equals target then set true
  return t

theorem noteHit_run (t : Tree) (found : Bool) :
    (noteHit target t).run found = (t, found || t.equals target) := by
  cases found with
  | true => rfl
  | false => cases h : t.equals target <;> simp [noteHit, h] <;> rfl

theorem mapM_run_any {f : Tree → StateM Bool Tree} {p : Tree → Bool} {ts : List Tree}
    (hf : ∀ t ∈ ts, ∀ found, (f t).run found = (t, found || p t)) (found : Bool) :
    (ts.mapM f).run found = (ts, found || ts.any p) := by
  induction ts generalizing found with
  | nil =>
    rw [List.mapM_nil, List.any_nil, Bool.or_false]
    rfl
  | cons t ts ih =>
    rw [List.forall_mem_cons] at hf
    simp only [List.mapM_cons, StateT.run_bind, hf.1, ih hf.2, List.any_cons]
    rw [← Bool.or_assoc]
    rfl

theorem any_subtreesAll (p : Tree → Bool) (ts : List Tree) :
    (subtreesAll ts).any p = ts.any fun t => t.subtrees.any p := by
  induction ts with
  | nil => rfl
  | cons t ts ih => rw [subtreesAll, List.any_append, ih, List.any_cons]

/-- The walk leaves the tree as it is and has noted in the end whether some subtree is a hit. -/
theorem postwalkM_noteHit_run (t : Tree) (found : Bool) :
    (postwalkM (noteHit target) t).run found = (t, found || t.subtrees.any (·.equals target)) := by
  induction t generalizing found with
  | leaf x =>
    rw [postwalkM, noteHit_run, subtrees, List.any_cons, List.any_nil, Bool.or_false]
  | node h cs ih =>
    rw [postwalkM_node, StateT.run_bind, mapM_run_any ih, subtrees, List.any_cons,
      any_subtreesAll, Bool.or_comm ((node h cs).equals target), ← Bool.or_assoc]
    exact noteHit_run target (.node h cs) _

theorem occursIn_iff {tree : Tree} :
    occursIn target tree ↔ ∃ s ∈ tree.subtrees, s.equals target := by
  have hwalk : occursIn target tree = ((postwalkM (noteHit target) tree).run false).2 := rfl
  rw [hwalk, postwalkM_noteHit_run, Bool.false_or, List.any_eq_true]

end Search

section Replacement
variable {old new : Tree}

mutual

/-- The tree with `new` in place of every outermost node or leaf that equals `old`. -/
def substitute (old new : Tree) : Tree → Tree
  | .leaf x => if (leaf x).equals old then new else .leaf x
  | .node h cs => if (node h cs).equals old then new else .node h (substituteAll old new cs)

def substituteAll (old new : Tree) : List Tree → List Tree
  | [] => []
  | t :: ts => substitute old new t :: substituteAll old new ts

end

theorem substituteAll_eq_map (ts : List Tree) :
    substituteAll old new ts = ts.map (substitute old new) := by
  induction ts with
  | nil => rfl
  | cons t ts ih => rw [substituteAll, ih, List.map_cons]

theorem substitute_of_equals {t : Tree} (h : t.equals old) : substitute old new t = new := by
  cases t <;> rw [substitute, if_pos h]

theorem substitute_leaf {x : Leaf} (h : ¬ (leaf x).equals old) :
    substitute old new (.leaf x) = .leaf x := by
  rw [substitute, if_neg h]

theorem substitute_node {h : String} {cs : List Tree} (hn : ¬ (node h cs).equals old) :
    substitute old new (.node h cs) = .node h (cs.map (substitute old new)) := by
  rw [substitute, if_neg hn, substituteAll_eq_map]

/-- What open frames make of a finished tree when each pending tree is changed by itself. -/
def closeMapped (g : Tree → Tree) : Tree → List Frame → Tree
  | result, [] => result
  | result, ⟨head, done, pending⟩ :: outer =>
    closeMapped g (.node head (done.reverse ++ result :: pending.map g)) outer

/-- The loop finishes its frames as the recursion does: the trees already done stay, and each
pending one is changed by itself. -/
theorem replaceFrom_eq_closeMapped (frame : Frame) (outer : List Frame) :
    replaceFrom old new frame outer =
      closeMapped (substitute old new)
        (.node frame.head (frame.done.reverse ++ frame.pending.map (substitute old new))) outer := by
  fun_induction replaceFrom old new frame outer with
  | case1 head done x pending outer child ih =>
    have hchild : substitute old new (.leaf x) = child := by
      rw [substitute]
      rfl
    rw [ih, List.map_cons, hchild, List.reverse_cons, List.append_assoc]
    rfl
  | case2 head done h cs pending outer heq ih =>
    rw [ih, List.map_cons, substitute_of_equals heq, List.reverse_cons, List.append_assoc]
    rfl
  | case3 head done h cs pending outer hne ih =>
    rw [ih, List.map_cons, substitute_node hne]
    rfl
  | case4 head done =>
    rw [List.map_nil, List.append_nil]
    rfl
  | case5 head done parent outer ih =>
    rw [ih, List.map_nil, List.append_nil, closeMapped]
    simp [Frame.push, Frame.close]

theorem replace_eq_substitute (tree : Tree) : replace old new tree = substitute old new tree := by
  unfold replace
  split_ifs with h
  · exact (substitute_of_equals h).symm
  · cases tree with
    | leaf x => exact (substitute_leaf h).symm
    | node head cs =>
      rw [substitute_node h]
      exact replaceFrom_eq_closeMapped ⟨head, [], cs⟩ []

/-- Without a hit nothing changes. -/
theorem substitute_eq_self {t : Tree} (h : t.Everywhere fun s => ¬ s.equals old) :
    substitute old new t = t := by
  induction t with
  | leaf x => exact substitute_leaf h.self
  | node head cs ih =>
    have hcs : cs.map (substitute old new) = cs.map id :=
      List.map_congr_left fun c hc => ih c hc ((everywhere_node.mp h).2 c hc)
    rw [substitute_node h.self, hcs, List.map_id]

/-- After a hit, what has been put in is a subtree. -/
theorem mem_subtrees_substitute {s t : Tree} (hs : s ∈ t.subtrees) (h : s.equals old) :
    new ∈ (substitute old new t).subtrees := by
  induction t with
  | leaf x =>
    obtain rfl := mem_subtrees_leaf.mp hs
    rw [substitute_of_equals h]
    exact mem_subtrees_self new
  | node head cs ih =>
    by_cases hn : (node head cs).equals old
    · rw [substitute_of_equals hn]
      exact mem_subtrees_self new
    · rw [substitute_node hn, mem_subtrees_node]
      rcases mem_subtrees_node.mp hs with rfl | ⟨c, hc, hs⟩
      · exact absurd h hn
      · exact .inr ⟨_, List.mem_map_of_mem hc, ih c hc hs⟩

/-- Search finds the target exactly where some node or leaf equals it. If none does, replacement
leaves the tree as it is; if one does, what has been put in is found afterwards. Replacement puts
the new tree in place of the outermost hits and does not look into what it has put in. -/
theorem search_agrees_with_replacement (tree target new : Tree) :
    (occursIn target tree ↔ ∃ s ∈ tree.subtrees, s.equals target) ∧
      (¬ occursIn target tree → replace target new tree = tree) ∧
      (occursIn target tree → new ≠ .leaf (.float .nan) →
        occursIn new (replace target new tree)) ∧
      replace target new tree = substitute target new tree := by
  refine ⟨occursIn_iff target, ?_, ?_, replace_eq_substitute tree⟩
  · intro hnot
    rw [replace_eq_substitute]
    exact substitute_eq_self fun s hs heq => hnot ((occursIn_iff target).mpr ⟨s, hs, heq⟩)
  · intro hin hnan
    obtain ⟨s, hs, heq⟩ := (occursIn_iff target).mp hin
    rw [replace_eq_substitute, occursIn_iff]
    exact ⟨new, mem_subtrees_substitute hs heq, equals_self hnan⟩

/-- Nested calls of one function, with a boolean at the bottom. -/
def nestedCall : Tree :=
  .node "call" [.symbol "g", .node "call" [.symbol "g", .leaf (.boolean true)]]

theorem search_agrees_with_replacement_nestedCall :
    let target := Tree.node "call" [.symbol "g", .leaf (.integer 1)]
    let new := Tree.node "call" [.symbol "h", target]
    (occursIn target nestedCall ∧ occursIn new (replace target new nestedCall)) ∧
      ¬ occursIn new nestedCall ∧ replace new target nestedCall = nestedCall := by
  intro target new
  have hin : occursIn target nestedCall := by decide +kernel
  have hout : ¬ occursIn new nestedCall := by decide +kernel
  obtain ⟨-, -, hfound, -⟩ := search_agrees_with_replacement nestedCall target new
  obtain ⟨-, hstays, -, -⟩ := search_agrees_with_replacement nestedCall new target
  exact ⟨⟨hin, hfound hin (by decide)⟩, hout, hstays hout⟩

/-- A node around a hit is larger than what has been put in, and a node without one has not
changed. -/
theorem not_equals_substitute {h : String} {cs : List Tree} (hn : ¬ (node h cs).equals old)
    (hnew : ¬ (node h cs).equals new) : ¬ (substitute old new (.node h cs)).equals new := by
  by_cases hhit : ∃ s ∈ (node h cs).subtrees, s.equals old
  · obtain ⟨s, hs, heq⟩ := hhit
    rcases mem_subtrees_node.mp hs with rfl | ⟨c, hc, hs⟩
    · exact absurd heq hn
    · intro hequals
      have hsize := size_eq_of_same (same_of_equals hequals)
      -- The hit is below a child, so the rebuilt child is already as large as `new`.
      have hmem : new ∈ (substitute old new c).subtrees := mem_subtrees_substitute hs heq
      have hinner := size_le_of_mem_subtrees hmem
      have hchild := size_le_sizes (List.mem_map_of_mem (f := substitute old new) hc)
      rw [substitute_node hn, size] at hsize
      omega
  · rw [substitute_eq_self fun s hs heq => hhit ⟨s, hs, heq⟩]
    exact hnew

/-- No node that stays or is rebuilt is taken for `new`, so the way back replaces exactly what has
been put in. Which of the equal old trees stood there is lost. -/
theorem substitute_substitute_same {t : Tree} (hnan : new ≠ .leaf (.float .nan))
    (h : t.Everywhere fun s => ¬ s.equals new) :
    (substitute new old (substitute old new t)).same t := by
  induction t with
  | leaf x =>
    by_cases hold : (leaf x).equals old
    · rw [substitute_of_equals hold, substitute_of_equals (equals_self hnan)]
      exact same_symm (same_of_equals hold)
    · rw [substitute_leaf hold, substitute_leaf h.self]
      exact same_self _
  | node head cs ih =>
    by_cases hold : (node head cs).equals old
    · rw [substitute_of_equals hold, substitute_of_equals (equals_self hnan)]
      exact same_symm (same_of_equals hold)
    · have hnew := not_equals_substitute hold h.self
      rw [substitute_node hold] at hnew ⊢
      rw [substitute_node hnew, List.map_map, same_node_map, List.all_eq_true]
      exact fun c hc => ih c hc ((everywhere_node.mp h).2 c hc)

/-- A replacement by a tree that did not occur is undone by the replacement the other way round,
also where one of the two trees contains the other. -/
theorem replace_replace_same {tree old new : Tree} (hin : ¬ occursIn new tree)
    (hnan : new ≠ .leaf (.float .nan)) :
    (replace new old (replace old new tree)).same tree := by
  rw [replace_eq_substitute, replace_eq_substitute]
  exact substitute_substitute_same hnan
    fun s hs heq => hin ((occursIn_iff new).mpr ⟨s, hs, heq⟩)

/-- A sum in which the boolean stands for a one. -/
def incremented : Tree :=
  .node "call" [.symbol "+", .leaf (.boolean true), .symbol "x"]

theorem replace_replace_same_incremented :
    let old := Tree.leaf (.integer 1)
    let new := Tree.node "call" [.symbol "f", old]
    ¬ occursIn new incremented ∧ new ≠ .leaf (.float .nan) ∧
      (replace new old (replace old new incremented)).same incremented ∧
      replace new old (replace old new incremented) ≠ incremented := by
  intro old new
  have hin : ¬ occursIn new incremented := by decide +kernel
  have hnan : new ≠ .leaf (.float .nan) := by decide
  exact ⟨hin, hnan, replace_replace_same hin hnan, by decide +kernel⟩

end Replacement
end CodeTree.Tree
