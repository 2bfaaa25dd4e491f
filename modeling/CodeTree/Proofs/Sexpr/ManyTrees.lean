import CodeTree.Proofs.Sexpr.RoundTrip

/-! Texts of several trees: what is read from a text can be written, and trees written on lines of
their own are read back in order. -/
namespace CodeTree
namespace Sexpr

/-- A leaf that can be read from a text. -/
inductive ReadLeaf : Leaf → Prop
  | nothing : ReadLeaf .nothing
  | atom {cs : List Char} {x : Leaf} (h : atomLeaf? cs = some x) : ReadLeaf x
  | text (s : String) : ReadLeaf (.text s)
  | symbol (name : String) : ReadLeaf (.symbol name)

theorem isLiteral_reserved? {cs : List Char} {x : Leaf} (h : reserved? cs = some x) :
    x.isLiteral := by
  unfold reserved? at h
  split_ifs at h
  all_goals
    obtain rfl := Option.some.inj h
    rfl

theorem ReadLeaf.isLiteral {x : Leaf} (h : ReadLeaf x) : x.isLiteral := by
  cases h with
  | nothing => rfl
  | atom hx =>
    cases atomLeaf?_eq_some_iff.mp hx with
    | reserved hr => exact isLiteral_reserved? hr
    | integer => rfl
    | fraction => rfl
    | symbol => rfl
  | text => rfl
  | symbol => rfl

section Leaves
variable {stack : Stack}

theorem allLeaves_listTree {p : Leaf → Prop} {ts : List Tree} {t : Tree} (hp : p .nothing)
    (hts : ∀ s ∈ ts, s.AllLeaves p) (h : listTree stack ts = .ok t) : t.AllLeaves p := by
  unfold listTree at h
  split at h
  · cases h
    exact Tree.allLeaves_leaf.mpr hp
  · cases h
    exact Tree.allLeaves_node.mpr fun s hs => hts s (List.mem_cons_of_mem _ hs)
  · cases h

mutual

/-- The tree of a datum holds no leaves but those that can be read. -/
theorem allLeaves_tree (d : Datum) {t : Tree} (h : d.tree stack = .ok t) :
    t.AllLeaves ReadLeaf := by
  cases d with
  | atom chars =>
    rw [Datum.tree] at h
    split at h
    · rename_i leaf hl
      cases h
      exact Tree.allLeaves_leaf.mpr (.atom hl)
    · cases h
  | text raw =>
    cases h
    exact Tree.allLeaves_leaf.mpr (.text _)
  | quoted raw =>
    cases h
    exact Tree.allLeaves_leaf.mpr (.symbol _)
  | list items =>
    obtain ⟨ts, hts, hlist⟩ := tree_list_eq_ok_iff.mp h
    exact allLeaves_listTree .nothing (allLeaves_trees items hts) hlist

theorem allLeaves_trees (ds : List Datum) {ts : List Tree} (h : trees stack ds = .ok ts) :
    ∀ t ∈ ts, t.AllLeaves ReadLeaf := by
  cases ds with
  | nil =>
    cases h
    nofun
  | cons d ds =>
    obtain ⟨t, rest, hd, hds, rfl⟩ := trees_cons_eq_ok_iff.mp h
    rw [List.forall_mem_cons]
    exact ⟨allLeaves_tree d hd, allLeaves_trees ds hds⟩

end
end Leaves

/-- Texts on lines of their own are cut into the tokens of one datum each. -/
theorem cuts_lines {ts : List Tree} {texts : List (List Char)} (h : List.Forall₂ Spells ts texts) :
    ∃ ds, (∀ stack, trees stack ds = .ok ts) ∧
      Cuts (texts.flatMap (· ++ ['\n'])) (tokensAll ds) := by
  induction h with
  | nil => exact ⟨[], fun _ => rfl, .nil⟩
  | @cons t cs ts texts hs _ ih =>
    obtain ⟨d, hd, hcut⟩ := hs
    obtain ⟨ds, hds, hcuts⟩ := ih
    refine ⟨d :: ds, fun stack => by rw [trees, hd, hds]; rfl, ?_⟩
    have hline : Cuts ('\n' :: texts.flatMap (· ++ ['\n'])) (tokensAll ds) :=
      .skipped (n := 1) rfl hcuts
    rw [List.flatMap_cons, List.append_assoc, List.singleton_append, tokensAll]
    exact hcut _ _ (stops_cons _ (by decide)) hline

end Sexpr

theorem isLiteral_readAll {stack : Stack} {s : String} {ts : List Tree}
    (h : readAll stack s = .ok ts) :
    ∀ t ∈ ts, t.IsLiteral := by
  unfold readAll at h
  cases hd : Sexpr.data false s.toList with
  | error e =>
    rw [hd] at h
    cases h
  | ok ds =>
    rw [hd] at h
    exact fun t ht => (Sexpr.allLeaves_trees ds h t ht).mono fun x hx => hx.isLiteral

/-- The text of a tree with the end of its line. -/
def Tree.PrintsAs (width : Sexpr.Width) (t : Tree) (s : String) : Prop :=
  ∃ body, t.text? width = some body ∧ s = body ++ "\n"

/-- Trees written one after another on lines of their own are read back in order. -/
theorem readAll_join (stack : Stack) {width : Sexpr.Width} {ts : List Tree} {texts : List String}
    (hl : ∀ t ∈ ts, t.IsLiteral) (h : List.Forall₂ (Tree.PrintsAs width) ts texts) :
    readAll stack (String.join texts) = .ok ts := by
  have hspells : ∃ bodies, List.Forall₂ Sexpr.Spells ts bodies ∧
      texts.flatMap String.toList = bodies.flatMap (· ++ ['\n']) := by
    induction h with
    | nil => exact ⟨[], .nil, rfl⟩
    | @cons t s ts texts hs _ ih =>
      obtain ⟨bodies, hb, heq⟩ := ih fun t ht => hl t (List.mem_cons_of_mem _ ht)
      obtain ⟨body, hbody, rfl⟩ := hs
      obtain ⟨lines, hlines, rfl⟩ := Option.map_eq_some_iff.mp hbody
      refine ⟨Sexpr.joinLines lines :: bodies, .cons ?_ hb, ?_⟩
      · exact Sexpr.spells_lines (hl t List.mem_cons_self) hlines
      · rw [List.flatMap_cons, List.flatMap_cons, heq]
        simp
  obtain ⟨bodies, hb, heq⟩ := hspells
  obtain ⟨ds, hds, hcuts⟩ := Sexpr.cuts_lines hb
  have hdata : Sexpr.data false (String.join texts).toList = .ok ds := by
    rw [String.toList_join, heq]
    exact Sexpr.data_many hcuts
  rw [readAll, hdata]
  exact hds stack

end CodeTree
