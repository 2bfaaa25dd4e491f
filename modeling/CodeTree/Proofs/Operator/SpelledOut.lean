import CodeTree.Proofs.Operator
import CodeTree.Proofs.Tree.Equivalence

/-! Operators can be spelled out again as the primitive calls behind them. An increment has dropped
one of two accesses to a field that are the same by value, so the tree that comes back is the same
by value too. -/
namespace CodeTree.Operator

/-- The call to a primitive. -/
def primitiveCall (name : String) (args : List Tree) : Tree :=
  Tag.call.node (.symbol name :: args)

/-- Object and quoted name of an access to a field. -/
def field? (t : Tree) : Option (Tree × Tree) :=
  (t.pairOf? .dot).filter fun (_, name) => isQuotedSymbol name

/-- An operator over its operands as a call to the primitive; any other node stays. -/
def spell (head : String) (operands : List Tree) : Tree :=
  match Tag.ofHead? head, operands with
  | some .ref, _ :: _ => primitiveCall "getindex" operands
  | some .tuple, _ => primitiveCall "tuple" operands
  | some .ctranspose, [_] => primitiveCall "ctranspose" operands
  | some .transpose, [_] => primitiveCall "transpose" operands
  | some .assign, [access, value] =>
    match field? access with
    | some (object, name) => primitiveCall "setfield!" [object, name, value]
    | none => .node head operands
  | some .addAssign, [access, step] =>
    match field? access with
    | some (object, name) =>
      primitiveCall "setfield!" [object, name, primitiveCall "+" [access, step]]
    | none => .node head operands
  | _, _ => .node head operands

mutual

/-- Every operator of a tree as a call to the primitive. -/
def spellOut : Tree → Tree
  | .leaf x => .leaf x
  | .node h cs => spell h (spellOutAll cs)

def spellOutAll : List Tree → List Tree
  | [] => []
  | t :: ts => spellOut t :: spellOutAll ts

end

/-- A node that is no operator and no call to the primitive that shares its operator with
another one. -/
def IsSpelledOut (t : Tree) : Prop :=
  (∀ tag ∈ made, ¬ t.isTagged tag) ∧ t.callTo? "getitem" = none

instance : DecidablePred IsSpelledOut := fun t =>
  inferInstanceAs (Decidable ((∀ tag ∈ made, ¬ t.isTagged tag) ∧ t.callTo? "getitem" = none))

section Spelling
variable {object name : Tree}

theorem spellOutAll_eq_map (ts : List Tree) : spellOutAll ts = ts.map spellOut := by
  induction ts with
  | nil => rfl
  | cons t ts ih => rw [spellOutAll, ih, List.map_cons]

theorem spellOut_node (h : String) (cs : List Tree) :
    spellOut (.node h cs) = spell h (cs.map spellOut) := by
  rw [spellOut, spellOutAll_eq_map]

theorem ofHead?_head (tag : Tag) : Tag.ofHead? tag.head = some tag := by
  cases tag <;> decide

theorem eq_head_of_ofHead? {head : String} {tag : Tag} (h : Tag.ofHead? head = some tag) :
    head = tag.head := by
  have hfound := List.find?_some h
  exact (beq_iff_eq.mp hfound).symm

/-- What is no operator is spelled as it stands. -/
theorem spell_of_not_made {head : String} (h : ∀ tag ∈ made, head ≠ tag.head)
    (operands : List Tree) : spell head operands = .node head operands := by
  have hne (tag : Tag) (hm : tag ∈ made) : Tag.ofHead? head ≠ some tag :=
    fun hh => h tag hm (eq_head_of_ofHead? hh)
  unfold spell
  split
  case h_7 => rfl
  all_goals
    rename_i hh
    exact absurd hh (hne _ (by decide))

theorem field?_fieldAccess (hn : isQuotedSymbol name) :
    field? (fieldAccess object name) = some (object, name) := by
  rw [field?, fieldAccess, Tree.pairOf?_eq_some.mpr rfl]
  exact Option.filter_eq_some_iff.mpr ⟨rfl, hn⟩

theorem spell_assign (hn : isQuotedSymbol name) (value : Tree) :
    spell Tag.assign.head [fieldAccess object name, value] =
      primitiveCall "setfield!" [object, name, value] := by
  simp only [spell, ofHead?_head, field?_fieldAccess hn]

theorem spell_addAssign (hn : isQuotedSymbol name) (step : Tree) :
    spell Tag.addAssign.head [fieldAccess object name, step] =
      primitiveCall "setfield!" [object, name,
        primitiveCall "+" [fieldAccess object name, step]] := by
  simp only [spell, ofHead?_head, field?_fieldAccess hn]

end Spelling

section Restored
variable {object name : Tree}

theorem restore_of_isQuotedSymbol (hn : isQuotedSymbol name) : restore name = name := by
  obtain ⟨symbol, rfl⟩ := isQuotedSymbol_iff.mp hn
  rw [reshaping_restore.node_of_kept (by decide), List.map_singleton, reshaping_restore.leaf]
  rfl

theorem spellOut_of_isQuotedSymbol (hn : isQuotedSymbol name) : spellOut name = name := by
  obtain ⟨symbol, rfl⟩ := isQuotedSymbol_iff.mp hn
  rw [Tag.node, spellOut_node, spell_of_not_made (by decide)]
  rfl

/-- An access to a field stays one, and its name stays as it is. -/
theorem spellOut_restore_fieldAccess (hn : isQuotedSymbol name) :
    spellOut (restore (fieldAccess object name)) =
      fieldAccess (spellOut (restore object)) name := by
  have hrestore : restore (fieldAccess object name) = fieldAccess (restore object) name := by
    have hdot : restore (Tag.dot.node [object, name]) =
        Tag.dot.node ([object, name].map restore) := reshaping_restore.node_of_kept (by decide) _
    rw [List.map_cons, List.map_singleton, restore_of_isQuotedSymbol hn] at hdot
    exact hdot
  rw [hrestore, fieldAccess, Tag.node, spellOut_node, spell_of_not_made (by decide), List.map_cons,
    List.map_singleton, spellOut_of_isQuotedSymbol hn]
  rfl

theorem equals_node (t : Tree) (h : String) (cs : List Tree) :
    t.equals (.node h cs) = t.same (.node h cs) := by
  cases t <;> rfl

theorem forall₂_same_map {f : Tree → Tree} {cs : List Tree} (h : ∀ c ∈ cs, (f c).same c) :
    List.Forall₂ (fun a b => Tree.same a b) (cs.map f) cs :=
  List.forall₂_map_left_iff.mpr (List.forall₂_same.mpr h)

theorem same_primitiveCall (callee : String) {xs ys : List Tree}
    (h : List.Forall₂ (fun a b => Tree.same a b) xs ys) :
    (primitiveCall callee xs).same (primitiveCall callee ys) :=
  Tree.same_node_iff.mpr ⟨_, rfl, .cons (Tree.same_self _) h⟩

theorem same_of_fieldAccess {object' name' : Tree}
    (h : (fieldAccess object name).same (fieldAccess object' name')) : object.same object' := by
  obtain ⟨ds, heq, hds⟩ := Tree.same_node_iff.mp h
  obtain ⟨-, rfl⟩ := Tree.node.inj heq
  cases hds with
  | cons ho _ => exact ho

/-- What a step has restored is spelled out as the same call, if its operands are spelled out as
the same trees. -/
theorem Restores.spell_same {t : Tree} {h : String} {cs : List Tree}
    (hr : Restores t (.node h cs)) (ht : IsSpelledOut t)
    (ih : ∀ c ∈ cs, (spellOut (restore c)).same c) :
    (spell h (cs.map fun c => spellOut (restore c))).same t := by
  have hall := forall₂_same_map ih
  generalize hnode : Tree.node h cs = r at hr
  cases hr with
  | @increment object name current step hn hc =>
    obtain ⟨rfl, rfl⟩ := Tree.node.inj hnode
    rw [List.map_cons, List.map_singleton, spellOut_restore_fieldAccess hn] at hall ⊢
    rw [spell_addAssign hn]
    cases hall with
    | cons haccess hrest =>
      have hcurrent : (fieldAccess object name).same current := by
        rw [fieldAccess, Tag.node, equals_node] at hc
        exact Tree.same_symm hc
      refine same_primitiveCall _ (.cons (same_of_fieldAccess haccess) (.cons name.same_self ?_))
      have hsum := same_primitiveCall "+" (.cons (Tree.same_trans haccess hcurrent) hrest)
      exact .cons hsum .nil
  | @assignment object name value hn =>
    obtain ⟨rfl, rfl⟩ := Tree.node.inj hnode
    rw [List.map_cons, List.map_singleton, spellOut_restore_fieldAccess hn] at hall ⊢
    rw [spell_assign hn]
    cases hall with
    | cons haccess hrest =>
      exact same_primitiveCall _ (.cons (same_of_fieldAccess haccess) (.cons name.same_self hrest))
  | @index callee hc args ha =>
    obtain ⟨rfl, rfl⟩ := Tree.node.inj hnode
    have hcallee : callee = "getindex" := by
      simp only [List.mem_cons, List.not_mem_nil, or_false] at hc
      refine hc.resolve_right ?_
      rintro rfl
      have hnone := ht.2
      rw [Tree.callTo?_eq_some.mpr rfl] at hnone
      cases hnone
    cases cs with
    | nil => exact absurd ha (by simp)
    | cons first rest =>
      simp only [List.map_cons, spell, ofHead?_head, hcallee] at hall ⊢
      exact same_primitiveCall "getindex" hall
  | tuple args =>
    obtain ⟨rfl, rfl⟩ := Tree.node.inj hnode
    simp only [spell, ofHead?_head]
    exact same_primitiveCall "tuple" hall
  | ctranspose arg =>
    obtain ⟨rfl, rfl⟩ := Tree.node.inj hnode
    simp only [List.map_singleton, spell, ofHead?_head] at hall ⊢
    exact same_primitiveCall "ctranspose" hall
  | transpose arg =>
    obtain ⟨rfl, rfl⟩ := Tree.node.inj hnode
    simp only [List.map_singleton, spell, ofHead?_head] at hall ⊢
    exact same_primitiveCall "transpose" hall

theorem isSpelledOut_fieldAccess (object name : Tree) : IsSpelledOut (fieldAccess object name) := by
  constructor
  · intro tag htag h
    obtain ⟨cs, heq⟩ := Tree.isTagged_iff.mp h
    rw [← (Tag.node_inj.mp heq).1] at htag
    exact absurd htag (by decide)
  · rw [Option.eq_none_iff_forall_ne_some]
    intro args h
    exact absurd (Tag.node_inj.mp (Tree.callTo?_eq_some.mp h)).1 (by decide)

/-- Restoring operators can be undone: in a tree without operators and without calls to the
primitive that is written like another one, spelling out what has been restored gives back the tree,
by value. -/
theorem spellOut_restore_same {t : Tree} (ht : t.Everywhere IsSpelledOut) :
    (spellOut (restore t)).same t := by
  refine prewalk_induct
    (motive := fun t r => t.Everywhere IsSpelledOut → (spellOut r).same t) tame_step ?_ ?_ t ht
  · intro t x hx _
    rcases refuses_or_restores t with ⟨-, heq⟩ | hr
    · obtain rfl : t = .leaf x := heq.symm.trans hx
      exact Tree.same_self _
    · rw [hx] at hr
      cases hr
  · intro t h cs hs ih ht
    have hcs : ∀ c ∈ cs, (spellOut (restore c)).same c := by
      intro c hc
      have hbelow := everywhere_of_step
        (fun _ _ _ object _ name _ => isSpelledOut_fieldAccess object name) hs ht
      exact ih c hc (hbelow c hc)
    rw [spellOut_node, List.map_map]
    rcases refuses_or_restores t with ⟨-, heq⟩ | hr
    · obtain rfl : t = .node h cs := heq.symm.trans hs
      have hhead : ∀ tag ∈ made, h ≠ tag.head := by
        rintro tag hm rfl
        exact ht.self.1 tag hm (Tree.isTagged_iff.mpr ⟨cs, rfl⟩)
      rw [spell_of_not_made hhead]
      exact Tree.same_node_iff.mpr ⟨cs, rfl, forall₂_same_map hcs⟩
    · rw [hs] at hr
      exact hr.spell_same ht.self hcs

/-- An increment of a field whose object is written with different leaves of the same value. -/
def incrementCall : Tree :=
  .node "call" [.symbol "setfield!",
    .node "call" [.symbol "getindex", .symbol "a", .leaf (.integer 1)],
    .node "quote" [.symbol "f"],
    .node "call" [.symbol "+",
      .node "." [.node "call" [.symbol "getindex", .symbol "a", .leaf (.boolean true)],
        .node "quote" [.symbol "f"]],
      .node "call" [.symbol "tuple", .symbol "b"]]]

theorem spellOut_restore_same_incrementCall :
    incrementCall.Everywhere IsSpelledOut ∧
      (spellOut (restore incrementCall)).same incrementCall ∧
      spellOut (restore incrementCall) ≠ incrementCall := by
  have ht : incrementCall.Everywhere IsSpelledOut := by decide +kernel
  exact ⟨ht, spellOut_restore_same ht, by decide +kernel⟩

end Restored
end CodeTree.Operator
