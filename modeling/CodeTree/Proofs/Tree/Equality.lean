import CodeTree.Proofs.Tree.Subtree
import CodeTree.Tree.Equality

/-! The comparison with a list of pending pairs gives what comparison by recursion gives. -/
namespace CodeTree

theorem Leaf.same_self (x : Leaf) : x.same x := by
  simp [Leaf.same]

namespace Tree

theorem sameAll_append (xs ys : List (Tree × Tree)) :
    sameAll (xs ++ ys) = (sameAll xs && sameAll ys) := by
  fun_induction sameAll xs with
  | case1 => simp
  | case2 x y pending ih => simp [sameAll, ih, Bool.and_assoc]
  | case3 h cs k ds pending ih => simp [sameAll, ← ih, Bool.and_assoc]
  | case4 pair pending hleaf hnode =>
    rw [List.cons_append, sameAll.eq_4]
    · rfl
    · exact hleaf
    · exact hnode

theorem sameAll_eq_all (pairs : List (Tree × Tree)) :
    sameAll pairs = pairs.all fun pair => pair.1.same pair.2 := by
  induction pairs with
  | nil => simp [sameAll]
  | cons pair pairs ih =>
    rw [← List.singleton_append, sameAll_append, ih, List.singleton_append, List.all_cons]
    rfl

theorem same_leaf (x y : Leaf) : (leaf x).same (.leaf y) = x.same y := by
  simp [same, sameAll]

theorem same_node (h k : String) (cs ds : List Tree) :
    (node h cs).same (.node k ds) =
      (h == k && cs.length == ds.length && (cs.zip ds).all fun pair => pair.1.same pair.2) := by
  rw [same, sameAll, List.append_nil, sameAll_eq_all]

theorem same_node_map (f : Tree → Tree) (h : String) (cs : List Tree) :
    (node h (cs.map f)).same (.node h cs) = cs.all fun c => (f c).same c := by
  have hzip : (cs.map f).zip cs = cs.map fun c => (f c, c) := by
    simpa using List.zip_map' (f := f) (g := id) (l := cs)
  simp only [same_node, hzip, List.all_map, List.length_map, beq_self_eq_true, Bool.true_and]
  rfl

theorem same_self (t : Tree) : t.same t := by
  induction t with
  | leaf x =>
    rw [same_leaf]
    exact x.same_self
  | node h cs ih =>
    have hmap := same_node_map id h cs
    rw [List.map_id] at hmap
    rw [hmap, List.all_eq_true]
    exact ih

end Tree
end CodeTree
