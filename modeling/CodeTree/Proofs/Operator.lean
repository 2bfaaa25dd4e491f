import CodeTree.Operator
import CodeTree.Proofs.Block
import CodeTree.Proofs.Rule
import Mathlib.Tactic.SplitIfs

/-! Operator syntax restored in one walk: what a step can write, and the trees in which no primitive
call is left. -/
namespace CodeTree

section
variable (naming : Naming)

/-- What naming routines does to a leaf. -/
def Naming.leaf : Leaf → Leaf
  | .routine r => .symbol (naming r)
  | x => x

theorem tame_nameRoutine : Tame (Tree.nameRoutine naming) := by
  intro t h cs ht
  cases t with
  | leaf x => cases x <;> cases ht
  | node k ds =>
    cases ht
    exact Tree.weight_node_ge h cs

theorem nameRoutines_eq_mapLeaves (t : Tree) : t.nameRoutines naming = t.mapLeaves naming.leaf := by
  induction t with
  | leaf x =>
    have hx : Tree.nameRoutine naming (.leaf x) = .leaf (naming.leaf x) := by
      cases x <;> rfl
    rw [Tree.mapLeaves_leaf]
    exact prewalk_of_leaf (tame_nameRoutine naming) hx
  | node h cs ih =>
    have hwalk := prewalk_of_node (tame_nameRoutine naming) (t := .node h cs) rfl
    rw [Tree.mapLeaves_node, ← List.map_congr_left ih]
    exact hwalk

end

namespace Operator

/-- The primitives that have an operator. -/
def primitives : List String :=
  ["setfield!", "getindex", "getitem", "tuple", "ctranspose", "transpose"]

/-- Whether a call to a primitive has operator syntax. -/
inductive Accepts : String → List Tree → Prop
  | field {object name value : Tree} (h : isQuotedSymbol name) :
      Accepts "setfield!" [object, name, value]
  | index {callee : String} {args : List Tree} (hc : callee ∈ ["getindex", "getitem"])
      (h : 1 ≤ args.length) : Accepts callee args
  | tuple {args : List Tree} : Accepts "tuple" args
  | transposition {callee : String} {arg : Tree} (hc : callee ∈ ["ctranspose", "transpose"]) :
      Accepts callee [arg]

theorem Accepts.mem_primitives {callee : String} {args : List Tree} (h : Accepts callee args) :
    callee ∈ primitives := by
  cases h with
  | field h => decide
  | index hc h =>
    simp only [List.mem_cons, List.not_mem_nil, or_false] at hc
    rcases hc with rfl | rfl <;> decide
  | tuple => decide
  | transposition hc =>
    simp only [List.mem_cons, List.not_mem_nil, or_false] at hc
    rcases hc with rfl | rfl <;> decide

theorem fieldAssignment?_eq_some {t object name value : Tree} :
    fieldAssignment? t = some (object, name, value) ↔
      t = Tag.call.node [.symbol "setfield!", object, name, value] ∧ isQuotedSymbol name := by
  rw [← Tree.callTo?_eq_some]
  unfold fieldAssignment?
  split
  · rename_i o n v h
    rw [h]
    split_ifs with hn
    · simp only [Option.some.injEq, Prod.mk.injEq, List.cons.injEq, and_true]
      constructor
      · rintro ⟨rfl, rfl, rfl⟩
        exact ⟨⟨rfl, rfl, rfl⟩, hn⟩
      · rintro ⟨h, -⟩
        exact h
    · simp only [Option.some.injEq, List.cons.injEq, and_true, false_iff]
      rintro ⟨⟨-, rfl, -⟩, h⟩
      exact hn h
  · rename_i h
    simp only [reduceCtorEq, false_iff]
    rintro ⟨hc, -⟩
    exact h _ _ _ hc

theorem primitive?_eq_some {names : List String} {arity : Nat → Bool} {t : Tree} {bound : Bound}
    (h : primitive? names arity t = some bound) :
    ∃ callee ∈ names, ∃ args, t = Tag.call.node (.symbol callee :: args) ∧ arity args.length ∧
      bound = .call args := by
  unfold primitive? at h
  split at h
  · rename_i args hargs
    obtain ⟨callee, hc, hcall⟩ := List.exists_of_findSome?_eq_some hargs
    split_ifs at h with ha
    exact ⟨callee, hc, args, Tree.callTo?_eq_some.mp hcall, ha, (Option.some.inj h).symm⟩
  · cases h

theorem primitive?_ne_none {names : List String} {arity : Nat → Bool} {callee : String}
    {args : List Tree} (hc : callee ∈ names) (ha : arity args.length) :
    primitive? names arity (Tag.call.node (.symbol callee :: args)) ≠ none := by
  unfold primitive?
  split
  · rename_i found hfound
    obtain ⟨name, -, hcall⟩ := List.exists_of_findSome?_eq_some hfound
    obtain ⟨-, hargs⟩ := Tag.node_inj.mp (Tree.callTo?_eq_some.mp hcall)
    obtain ⟨-, rfl⟩ := List.cons_eq_cons.mp hargs
    rw [if_pos ha]
    exact Option.some_ne_none _
  · rename_i hnone
    have hcall := List.findSome?_eq_none_iff.mp hnone callee hc
    rw [Tree.callTo?_eq_some.mpr rfl] at hcall
    cases hcall

theorem increment?_eq_some {t : Tree} {bound : Bound} (h : increment? t = some bound) :
    ∃ object name current step, isQuotedSymbol name ∧ current.equals (fieldAccess object name) ∧
      t = Tag.call.node [.symbol "setfield!", object, name,
        Tag.call.node [.symbol "+", current, step]] ∧ bound = .field object name step := by
  unfold increment? at h
  simp only [Option.bind_eq_bind, Option.bind_eq_some_iff] at h
  obtain ⟨⟨object, name, value⟩, hf, h⟩ := h
  obtain ⟨rfl, hn⟩ := fieldAssignment?_eq_some.mp hf
  dsimp only at h
  split at h
  · rename_i current step hcall
    rw [Tree.callTo?_eq_some.mp hcall]
    split_ifs at h with hc
    exact ⟨object, name, current, step, hn, hc, rfl, (Option.some.inj h).symm⟩
  · cases h

theorem assignment?_eq_some {t : Tree} {bound : Bound} (h : assignment? t = some bound) :
    ∃ object name value, isQuotedSymbol name ∧
      t = Tag.call.node [.symbol "setfield!", object, name, value] ∧
        bound = .field object name value := by
  obtain ⟨⟨object, name, value⟩, hf, rfl⟩ := Option.map_eq_some_iff.mp h
  obtain ⟨rfl, hn⟩ := fieldAssignment?_eq_some.mp hf
  exact ⟨object, name, value, hn, rfl, rfl⟩

/-- The operator that each rule writes for a primitive call. -/
inductive Restores : Tree → Tree → Prop
  | increment {object name current step : Tree} (hn : isQuotedSymbol name)
      (hc : current.equals (fieldAccess object name)) :
      Restores (Tag.call.node [.symbol "setfield!", object, name,
          Tag.call.node [.symbol "+", current, step]])
        (Tag.addAssign.node [fieldAccess object name, step])
  | assignment {object name value : Tree} (hn : isQuotedSymbol name) :
      Restores (Tag.call.node [.symbol "setfield!", object, name, value])
        (Tag.assign.node [fieldAccess object name, value])
  | index {callee : String} (hc : callee ∈ ["getindex", "getitem"]) {args : List Tree}
      (ha : 1 ≤ args.length) :
      Restores (Tag.call.node (.symbol callee :: args)) (Tag.ref.node args)
  | tuple (args : List Tree) :
      Restores (Tag.call.node (.symbol "tuple" :: args)) (Tag.tuple.node args)
  | ctranspose (arg : Tree) :
      Restores (Tag.call.node [.symbol "ctranspose", arg]) (Tag.ctranspose.node [arg])
  | transpose (arg : Tree) :
      Restores (Tag.call.node [.symbol "transpose", arg]) (Tag.transpose.node [arg])

/-- What one step makes of a primitive call, whichever rule it is by. -/
inductive Written : Tree → Tree → Prop
  | increment (object name current step : Tree) :
      Written (Tag.call.node [.symbol "setfield!", object, name,
          Tag.call.node [.symbol "+", current, step]])
        (Tag.addAssign.node [fieldAccess object name, step])
  | assignment (object name value : Tree) :
      Written (Tag.call.node [.symbol "setfield!", object, name, value])
        (Tag.assign.node [fieldAccess object name, value])
  | operator {tag : Tag} (h : tag ∈ [.ref, .tuple, .ctranspose, .transpose]) (callee : String)
      (args : List Tree) : Written (Tag.call.node (.symbol callee :: args)) (tag.node args)

theorem restores_of_bind? {rule : Rule Bound Tree} (hr : rule ∈ table) {t : Tree} {bound : Bound}
    (h : rule.bind? t = some bound) : Restores t (rule.build bound) := by
  simp only [table, List.mem_cons, List.not_mem_nil, or_false] at hr
  rcases hr with rfl | rfl | rfl | rfl | rfl | rfl
  all_goals dsimp only at h
  · obtain ⟨object, name, current, step, hn, hc, rfl, rfl⟩ := increment?_eq_some h
    exact .increment hn hc
  · obtain ⟨object, name, value, hn, rfl, rfl⟩ := assignment?_eq_some h
    exact .assignment hn
  · obtain ⟨callee, hc, args, rfl, ha, rfl⟩ := primitive?_eq_some h
    exact .index hc (by simpa using ha)
  · obtain ⟨callee, hc, args, rfl, -, rfl⟩ := primitive?_eq_some h
    obtain rfl := List.mem_singleton.mp hc
    exact .tuple args
  · obtain ⟨callee, hc, args, rfl, ha, rfl⟩ := primitive?_eq_some h
    obtain rfl := List.mem_singleton.mp hc
    obtain ⟨arg, rfl⟩ := List.length_eq_one_iff.mp (by simpa using ha)
    exact .ctranspose arg
  · obtain ⟨callee, hc, args, rfl, ha, rfl⟩ := primitive?_eq_some h
    obtain rfl := List.mem_singleton.mp hc
    obtain ⟨arg, rfl⟩ := List.length_eq_one_iff.mp (by simpa using ha)
    exact .transpose arg

theorem Restores.exists_accepts {t r : Tree} (h : Restores t r) :
    ∃ callee args, t = Tag.call.node (.symbol callee :: args) ∧ Accepts callee args := by
  cases h with
  | increment hn hc => exact ⟨_, _, rfl, .field hn⟩
  | assignment hn => exact ⟨_, _, rfl, .field hn⟩
  | index hc ha => exact ⟨_, _, rfl, .index hc ha⟩
  | tuple args => exact ⟨_, _, rfl, .tuple⟩
  | ctranspose arg => exact ⟨_, _, rfl, .transposition (by decide)⟩
  | transpose arg => exact ⟨_, _, rfl, .transposition (by decide)⟩

theorem Restores.written {t r : Tree} (h : Restores t r) : Written t r := by
  cases h with
  | increment hn hc => exact .increment _ _ _ _
  | assignment hn => exact .assignment _ _ _
  | index hc ha => exact .operator (by decide) _ _
  | tuple args => exact .operator (by decide) _ args
  | ctranspose arg => exact .operator (by decide) _ [arg]
  | transpose arg => exact .operator (by decide) _ [arg]

/-- A rule of the table accepts calls to primitives and writes them as operators. -/
theorem written_of_bind? {rule : Rule Bound Tree} (hr : rule ∈ table) {t : Tree} {bound : Bound}
    (h : rule.bind? t = some bound) :
    (∃ callee args, t = Tag.call.node (.symbol callee :: args) ∧ Accepts callee args) ∧
      Written t (rule.build bound) := by
  have hrestores := restores_of_bind? hr h
  exact ⟨hrestores.exists_accepts, hrestores.written⟩

/-- The table refuses exactly the trees that are no acceptable call to a primitive. -/
theorem refuses_table_iff {t : Tree} :
    Rule.Refuses table t ↔
      ∀ callee args, t = Tag.call.node (.symbol callee :: args) → ¬ Accepts callee args := by
  constructor
  · rintro h callee args rfl hacc
    simp only [Rule.Refuses, table, List.forall_mem_cons] at h
    obtain ⟨-, hset, hindex, htuple, hctranspose, htranspose, -⟩ := h
    cases hacc with
    | field hn =>
      rw [assignment?, fieldAssignment?_eq_some.mpr ⟨rfl, hn⟩] at hset
      cases hset
    | index hc ha => exact primitive?_ne_none hc (by simpa using ha) hindex
    | tuple => exact primitive?_ne_none (List.mem_singleton_self _) rfl htuple
    | transposition hc =>
      simp only [List.mem_cons, List.not_mem_nil, or_false] at hc
      rcases hc with rfl | rfl
      · exact primitive?_ne_none (List.mem_singleton_self _) rfl hctranspose
      · exact primitive?_ne_none (List.mem_singleton_self _) rfl htranspose
  · intro h rule hr
    cases hb : rule.bind? t with
    | none => rfl
    | some bound =>
      obtain ⟨⟨callee, args, ht, hacc⟩, -⟩ := written_of_bind? hr hb
      exact absurd hacc (h callee args ht)

/-- The heads of operators. -/
def made : List Tag :=
  [.addAssign, .assign, .ref, .tuple, .ctranspose, .transpose]

theorem Written.exists_call {t r : Tree} (h : Written t r) :
    ∃ callee args, t = Tag.call.node (callee :: args) := by
  cases h <;> exact ⟨_, _, rfl⟩

theorem Written.exists_made {t r : Tree} (h : Written t r) :
    ∃ tag ∈ made, ∃ cs, r = tag.node cs := by
  cases h with
  | increment => exact ⟨.addAssign, by decide, _, rfl⟩
  | assignment => exact ⟨.assign, by decide, _, rfl⟩
  | @operator tag h callee args =>
    refine ⟨tag, ?_, args, rfl⟩
    simp only [made, List.mem_cons] at h ⊢
    exact .inr (.inr h)

/-- Each part of an operator stood in the call, or gives access to a field by parts that did. -/
theorem Written.mem {t c : Tree} {h : String} {cs : List Tree} (hw : Written t (.node h cs))
    (hc : c ∈ cs) :
    (∃ k ds, .node k ds ∈ t.subtrees ∧ c ∈ ds) ∨
      ∃ object name k ds, .node k ds ∈ t.subtrees ∧ object ∈ ds ∧ name ∈ ds ∧
        c = fieldAccess object name := by
  generalize hr : Tree.node h cs = r at hw
  cases hw with
  | increment object name current step =>
    injection hr with _ hcs
    subst hcs
    simp only [List.mem_cons, List.not_mem_nil, or_false] at hc
    rcases hc with rfl | rfl
    · exact .inr ⟨object, name, _, _, Tree.mem_subtrees_self _, by simp, by simp, rfl⟩
    · refine .inl ⟨Tag.call.head, [.symbol "+", current, c], ?_, by simp⟩
      simp [Tag.node]
  | assignment object name value =>
    injection hr with _ hcs
    subst hcs
    simp only [List.mem_cons, List.not_mem_nil, or_false] at hc
    rcases hc with rfl | rfl
    · exact .inr ⟨object, name, _, _, Tree.mem_subtrees_self _, by simp, by simp, rfl⟩
    · exact .inl ⟨_, _, Tree.mem_subtrees_self _, by simp⟩
  | operator h callee args =>
    injection hr with _ hcs
    subst hcs
    exact .inl ⟨_, _, Tree.mem_subtrees_self _, List.mem_cons_of_mem _ hc⟩

theorem Written.weights_lt {t : Tree} {h : String} {cs : List Tree}
    (hw : Written t (.node h cs)) : 1 + Tree.weights cs ≤ t.weight := by
  generalize hr : Tree.node h cs = r at hw
  cases hw with
  | increment object name current step =>
    injection hr with _ hcs
    subst hcs
    have hcall := Tree.weight_node_ge Tag.call.head [.symbol "setfield!", object, name,
      Tag.call.node [.symbol "+", current, step]]
    have hplus := Tree.weight_node_ge Tag.call.head [.symbol "+", current, step]
    have hdot : (fieldAccess object name).weight = 1 + (object.weight + name.weight) := by
      simp [fieldAccess, Tag.node, Tree.weight, Tree.weights, Tag.head]
    simp only [Tree.weights, Tag.node] at hcall hplus hdot ⊢
    omega
  | assignment object name value =>
    injection hr with _ hcs
    subst hcs
    have hcall := Tree.weight_node_ge Tag.call.head [.symbol "setfield!", object, name, value]
    have hsym : (Tree.symbol "setfield!").weight = 1 := rfl
    have hdot : (fieldAccess object name).weight = 1 + (object.weight + name.weight) := by
      simp [fieldAccess, Tag.node, Tree.weight, Tree.weights, Tag.head]
    simp only [Tree.weights, Tag.node] at hcall hdot ⊢
    omega
  | operator h callee args =>
    injection hr with _ hcs
    subst hcs
    have hcall := Tree.weight_node_ge Tag.call.head (.symbol callee :: cs)
    simp only [Tree.weights, Tag.node] at hcall ⊢
    omega

theorem refuses_or_restores (t : Tree) :
    (Rule.Refuses table t ∧ Rule.transform table t = t) ∨
      Restores t (Rule.transform table t) := by
  rcases Rule.transform_cases table t with h | ⟨rule, hr, bound, hb, heq⟩
  · exact .inl h
  · exact .inr (heq ▸ restores_of_bind? hr hb)

/-- One step leaves a tree alone or writes a call as an operator. -/
theorem step_cases (t : Tree) :
    (Rule.Refuses table t ∧ Rule.transform table t = t) ∨
      (¬ Rule.Refuses table t ∧ Written t (Rule.transform table t)) := by
  rcases Rule.transform_cases table t with h | ⟨rule, hr, bound, hb, heq⟩
  · exact .inl h
  · refine .inr ⟨fun hn => ?_, heq ▸ (written_of_bind? hr hb).2⟩
    rw [hn rule hr] at hb
    cases hb

theorem tame_step : Tame (Rule.transform table) := by
  intro t h cs ht
  rcases step_cases t with ⟨-, heq⟩ | ⟨-, hw⟩
  · rw [← heq, ht]
    exact Tree.weight_node_ge h cs
  · rw [ht] at hw
    exact hw.weights_lt

theorem restore_of_refuses {h : String} {cs : List Tree} (hr : Rule.Refuses table (.node h cs)) :
    restore (.node h cs) = .node h (cs.map restore) :=
  prewalk_of_node tame_step (Rule.transform_of_refuses hr)

theorem restore_of_step {t : Tree} {tag : Tag} {cs : List Tree}
    (hs : Rule.transform table t = tag.node cs) : restore t = tag.node (cs.map restore) :=
  prewalk_of_node tame_step hs

theorem reshaping_restore : Reshaping id [.call] made restore where
  leaf x := by
    refine prewalk_of_leaf tame_step (Rule.transform_of_refuses ?_)
    rw [refuses_table_iff]
    intro callee args h
    cases h
  node h cs := by
    rcases step_cases (.node h cs) with ⟨hr, -⟩ | ⟨-, hw⟩
    · exact .inl (restore_of_refuses hr)
    · obtain ⟨callee, args, hd⟩ := hw.exists_call
      obtain ⟨tag, htag, es, he⟩ := hw.exists_made
      injection hd with hh _
      exact .inr ⟨.call, by simp, tag, htag, es.map restore, hh, restore_of_step he⟩

/-- A change of leaves that makes no symbol of another leaf and no primitive of another symbol. -/
structure KeepsPrimitives (leafwise : Leaf → Leaf) : Prop where
  symbol : ∀ x name, leafwise x = .symbol name → ∃ name', x = .symbol name'
  primitive : ∀ x, ∀ name ∈ primitives, leafwise x = .symbol name → x = .symbol name

theorem keepsPrimitives_id : KeepsPrimitives id where
  symbol _ name h := ⟨name, h⟩
  primitive _ _ _ h := h

section
variable {leafwise : Leaf → Leaf} {lost tags : List Tag} {g : Tree → Tree}

theorem isQuotedSymbol_iff {t : Tree} :
    isQuotedSymbol t ↔ ∃ name, t = Tag.quotation.node [.symbol name] := by
  unfold isQuotedSymbol
  split
  · rename_i name h
    exact ⟨fun _ => ⟨name, Tree.childrenOf?_eq_some.mp h⟩, fun _ => rfl⟩
  · rename_i h
    simp only [Bool.false_eq_true, false_iff]
    rintro ⟨name, rfl⟩
    exact h name (Tree.childrenOf?_eq_some.mpr rfl)

theorem isQuotedSymbol_of_reshaping (hg : Reshaping leafwise lost tags g)
    (hl : KeepsPrimitives leafwise) (hq : .quotation ∉ tags) {t : Tree}
    (h : isQuotedSymbol (g t)) : isQuotedSymbol t := by
  obtain ⟨name, ht⟩ := isQuotedSymbol_iff.mp h
  obtain ⟨cs, rfl, hcs⟩ := hg.of_node hq ht
  obtain ⟨c, rfl, hc⟩ := List.map_eq_singleton_iff.mp hcs.symm
  obtain ⟨y, rfl, hy⟩ := hg.of_leaf hc
  obtain ⟨name', rfl⟩ := hl.symbol y name hy
  exact isQuotedSymbol_iff.mpr ⟨name', rfl⟩

theorem accepts_of_reshaping (hg : Reshaping leafwise lost tags g)
    (hl : KeepsPrimitives leafwise) (hq : .quotation ∉ tags) {callee : String} {args : List Tree}
    (h : Accepts callee (args.map g)) : Accepts callee args := by
  generalize hr : args.map g = results at h
  cases h with
  | field hn =>
    obtain ⟨object, rest, rfl, -, hrest⟩ := List.map_eq_cons_iff.mp hr
    obtain ⟨name, last, rfl, rfl, hlast⟩ := List.map_eq_cons_iff.mp hrest
    obtain ⟨value, rfl, -⟩ := List.map_eq_singleton_iff.mp hlast
    exact .field (isQuotedSymbol_of_reshaping hg hl hq hn)
  | index hc ha => exact .index hc (by rwa [← hr, List.length_map] at ha)
  | tuple => exact .tuple
  | transposition hc =>
    obtain ⟨arg, rfl, -⟩ := List.map_eq_singleton_iff.mp hr
    exact .transposition hc

/-- A tree that the table refuses is refused after every change that makes no calls, no quotations
and no primitives. -/
theorem refuses_reshaping (hg : Reshaping leafwise lost tags g) (hl : KeepsPrimitives leafwise)
    (hc : .call ∉ tags) (hq : .quotation ∉ tags) {t : Tree} (ht : Rule.Refuses table t) :
    Rule.Refuses table (g t) := by
  rw [refuses_table_iff] at ht ⊢
  intro callee args hcall hacc
  obtain ⟨cs, rfl, hcs⟩ := hg.of_node hc hcall
  obtain ⟨first, rest, rfl, hfirst, rfl⟩ := List.map_eq_cons_iff.mp hcs.symm
  obtain ⟨y, rfl, hy⟩ := hg.of_leaf hfirst
  obtain rfl := hl.primitive y callee hacc.mem_primitives hy
  exact ht callee rest rfl (accepts_of_reshaping hg hl hq hacc)

end

theorem refuses_of_not_call {t : Tree} (h : ∀ cs, t ≠ Tag.call.node cs) :
    Rule.Refuses table t := by
  rw [refuses_table_iff]
  intro callee args ht
  exact absurd ht (h _)

theorem refuses_restore (t : Tree) : Rule.Refuses table (restore t) := by
  rcases step_cases t with ⟨hr, -⟩ | ⟨-, hw⟩
  · exact refuses_reshaping reshaping_restore keepsPrimitives_id (by decide) (by decide) hr
  · obtain ⟨tag, htag, es, he⟩ := hw.exists_made
    rw [restore_of_step he]
    refine refuses_of_not_call fun cs hcall => ?_
    rw [(Tag.node_inj.mp hcall).1] at htag
    exact absurd htag (by decide)

/-- A call that has an operator is restored to a node with the head of one. -/
theorem exists_made_of_accepts {callee : String} {args : List Tree} (h : Accepts callee args) :
    ∃ tag ∈ made, ∃ cs, restore (Tag.call.node (.symbol callee :: args)) = tag.node cs := by
  rcases step_cases (Tag.call.node (.symbol callee :: args)) with ⟨hr, -⟩ | ⟨-, hw⟩
  · exact absurd h (refuses_table_iff.mp hr callee args rfl)
  · obtain ⟨tag, htag, cs, hc⟩ := hw.exists_made
    exact ⟨tag, htag, cs.map restore, restore_of_step hc⟩

/-- What is restored to a tuple is a tuple, or a call to the primitive of that name. -/
theorem tuple_or_call_of_restore {t : Tree} {args : List Tree}
    (h : restore t = Tag.tuple.node args) :
    (∃ cs, t = Tag.tuple.node cs) ∨ ∃ cs, t = Tag.call.node (.symbol "tuple" :: cs) := by
  rcases refuses_or_restores t with ⟨hr, -⟩ | hr
  · cases t with
    | leaf x =>
      rw [reshaping_restore.leaf] at h
      cases h
    | node k cs =>
      rw [restore_of_refuses hr] at h
      injection h with hk _
      exact .inl ⟨cs, by rw [hk]; rfl⟩
  · generalize hs : Rule.transform table t = r at hr
    cases hr with
    | tuple cs => exact .inr ⟨cs, rfl⟩
    | _ =>
      rw [restore_of_step hs] at h
      exact absurd (Tag.node_inj.mp h).1 (by decide)

/-- No rule accepts a node of a tree whose operators are restored. -/
theorem everywhere_refuses_restore (t : Tree) : (restore t).Everywhere (Rule.Refuses table) :=
  everywhere_prewalk (p := fun _ => True) tame_step (fun t _ => refuses_restore t)
    (fun _ _ _ _ _ _ _ _ _ => trivial) fun _ _ => trivial

theorem restore_eq_self {t : Tree} (ht : t.Everywhere (Rule.Refuses table)) : restore t = t :=
  prewalk_eq_self tame_step (ht.mono fun _ hs => Rule.transform_of_refuses hs)

/-- Restoring operators has nothing to do exactly where no rule accepts a node. -/
theorem restore_eq_self_iff {t : Tree} : restore t = t ↔ t.Everywhere (Rule.Refuses table) := by
  refine ⟨fun h => ?_, restore_eq_self⟩
  rw [← h]
  exact everywhere_refuses_restore t

/-- What holds everywhere in a tree holds everywhere in the parts that a step goes on in, if it
passes on to access to fields. -/
theorem everywhere_of_step {p : Tree → Prop}
    (hp : ∀ k ds, p (.node k ds) → ∀ object ∈ ds, ∀ name ∈ ds, p (fieldAccess object name))
    {t : Tree} {h : String} {cs : List Tree} (hs : Rule.transform table t = .node h cs)
    (ht : t.Everywhere p) : ∀ c ∈ cs, c.Everywhere p := by
  intro c hc
  rcases step_cases t with ⟨-, heq⟩ | ⟨-, hw⟩
  · rw [← heq, hs] at ht
    exact (Tree.everywhere_node.mp ht).2 c hc
  · rw [hs] at hw
    have hin {s : Tree} {k : String} {ds : List Tree} (hk : .node k ds ∈ t.subtrees) :=
      (Tree.everywhere_node.mp (ht.of_mem hk)).2 s
    rcases hw.mem hc with ⟨k, ds, hk, hd⟩ | ⟨object, name, k, ds, hk, ho, hn, rfl⟩
    · exact hin hk hd
    · refine Tree.everywhere_node.mpr ⟨hp k ds (ht _ hk) object ho name hn, ?_⟩
      simp only [List.forall_mem_cons, List.not_mem_nil, false_implies, implies_true, and_true]
      exact ⟨hin hk ho, hin hk hn⟩

theorem everywhere_isSpliced_restore {t : Tree} (ht : t.Everywhere Tree.IsSpliced) :
    (restore t).Everywhere Tree.IsSpliced := by
  refine everywhere_prewalk tame_step ?_ ?_ ht
  · intro t ht
    exact Tree.isSpliced_reshaping reshaping_restore (by decide) (by decide) ht.self
  · intro t h cs hs ht
    exact everywhere_of_step (fun _ _ _ _ _ _ _ hh => absurd hh (by decide)) hs ht

theorem everywhere_isUnmarked_restore {t : Tree} (ht : t.Everywhere Tree.IsUnmarked) :
    (restore t).Everywhere Tree.IsUnmarked := by
  refine everywhere_prewalk tame_step ?_ ?_ ht
  · intro t ht
    cases hs : Rule.transform table t with
    | leaf x =>
      rw [prewalk_of_leaf tame_step hs]
      trivial
    | node h cs =>
      rw [prewalk_of_node tame_step hs]
      intro r hr
      obtain ⟨c, hc, rfl⟩ := List.mem_map.mp hr
      change ¬ (restore c).isTagged .line
      rw [reshaping_restore.isTagged_iff (by decide) (by decide)]
      rcases step_cases t with ⟨-, heq⟩ | ⟨-, hw⟩
      · rw [← heq, hs] at ht
        exact ht.self c hc
      · rw [hs] at hw
        rcases hw.mem hc with ⟨k, ds, hk, hd⟩ | ⟨object, name, k, ds, -, -, -, rfl⟩
        · exact ht _ hk c hd
        · simp [fieldAccess, Tag.node, Tree.isTagged]
  · intro t h cs hs ht
    refine everywhere_of_step ?_ hs ht
    intro k ds hk object ho name hn c hc
    simp only [List.mem_cons, List.not_mem_nil, or_false] at hc
    rcases hc with rfl | rfl
    · exact hk _ ho
    · exact hk _ hn

theorem Written.allLeaves {p : Leaf → Prop} {t r : Tree} (hw : Written t r)
    (ht : t.AllLeaves p) : r.AllLeaves p := by
  cases hw with
  | increment object name current step =>
    simp only [Tag.node, fieldAccess, Tree.allLeaves_node, List.forall_mem_cons] at ht ⊢
    obtain ⟨-, ho, hn, ⟨-, -, hs, -⟩, -⟩ := ht
    exact ⟨⟨ho, hn, List.forall_mem_nil _⟩, hs, List.forall_mem_nil _⟩
  | assignment object name value =>
    simp only [Tag.node, fieldAccess, Tree.allLeaves_node, List.forall_mem_cons] at ht ⊢
    obtain ⟨-, ho, hn, hv, -⟩ := ht
    exact ⟨⟨ho, hn, List.forall_mem_nil _⟩, hv, List.forall_mem_nil _⟩
  | operator h callee args =>
    simp only [Tag.node, Tree.allLeaves_node, List.forall_mem_cons] at ht ⊢
    exact ht.2

theorem allLeaves_restore {p : Leaf → Prop} {t : Tree} (ht : t.AllLeaves p) :
    (restore t).AllLeaves p := by
  refine allLeaves_prewalk tame_step (fun t ht => ?_) ht
  rcases step_cases t with ⟨-, heq⟩ | ⟨-, hw⟩
  · rwa [heq]
  · exact hw.allLeaves ht

end Operator
end CodeTree
