import CodeTree.Proofs.Definition.PartsOfForms
import CodeTree.Proofs.Operator

/-! Definitions in a tree whose operators are restored. The call in a signature is restored like any
other call, so a definition keeps its parts exactly where that call has no operator and, before an
arrow, where no call becomes the tuple of arguments. -/
namespace CodeTree.Definition
open Operator

/-- A definition that keeps its parts when operators are restored: the call in its signature has no
operator, and what stands before its arrow is no call that is written as a tuple. -/
structure KeepsParts (d : Tree) : Prop where
  signature : ∀ name args result? body,
    Defines d (some (.symbol name)) args result? body → ¬ Accepts name args
  arrow : ∀ arg body, d = Tag.arrow.node [arg, body] → arg.callTo? "tuple" = none

theorem restore_pair {tag : Tag} (htag : tag ≠ .call) (a b : Tree) :
    restore (tag.node [a, b]) = tag.node [restore a, restore b] :=
  reshaping_restore.node_of_kept (by simpa using htag) [a, b]

theorem restore_tuple (args : List Tree) :
    restore (Tag.tuple.node args) = Tag.tuple.node (args.map restore) :=
  reshaping_restore.node_of_kept (by decide) args

theorem restore_toBlock (t : Tree) : restore t.toBlock = (restore t).toBlock :=
  reshaping_restore.wrapped (by decide) (by decide) t

theorem isBlock_restore {t : Tree} : (restore t).isBlock ↔ t.isBlock :=
  reshaping_restore.isTagged_iff (by decide) (by decide)

section Kept
variable {d signature callee arg body : Tree} {callee? result? : Option Tree} {args : List Tree}

theorem KeepsParts.refuses_call (hd : KeepsParts d)
    (h : Defines d (some callee) args result? body) :
    Rule.Refuses table (Tag.call.node (callee :: args)) := by
  rw [refuses_table_iff]
  intro name args' heq
  obtain ⟨-, heq⟩ := Tag.node_inj.mp heq
  obtain ⟨rfl, rfl⟩ := List.cons_eq_cons.mp heq
  exact hd.signature name args result? body h

theorem signs_restore (h : Signs signature callee args result?)
    (hr : Rule.Refuses table (Tag.call.node (callee :: args))) :
    Signs (restore signature) (restore callee) (args.map restore) (result?.map restore) := by
  have hcall : restore (Tag.call.node (callee :: args)) =
      Tag.call.node (restore callee :: args.map restore) := restore_of_refuses hr
  cases h with
  | call callee args =>
    rw [hcall]
    exact .call _ _
  | typed callee args result =>
    rw [restore_pair (by decide), hcall]
    exact .typed _ _ _

theorem arrowArgs_of_ne (h : ∀ args, arg ≠ Tag.tuple.node args) : arrowArgs arg = [arg] := by
  have hwrapped := tuple_arrowArgs arg
  rw [Tree.wrapped_of_ne h] at hwrapped
  exact (Tag.node_inj.mp hwrapped).2

theorem arrowArgs_restore (h : arg.callTo? "tuple" = none) :
    arrowArgs (restore arg) = (arrowArgs arg).map restore := by
  by_cases htuple : ∃ args, arg = Tag.tuple.node args
  · obtain ⟨args, rfl⟩ := htuple
    rw [restore_tuple, arrowArgs_tuple, arrowArgs_tuple]
  · have hne : ∀ args, restore arg ≠ Tag.tuple.node args := by
      intro args hargs
      rcases tuple_or_call_of_restore hargs with ht | ⟨cs, rfl⟩
      · exact htuple ht
      · rw [Tree.callTo?_eq_some.mpr rfl] at h
        cases h
    rw [arrowArgs_of_ne hne, arrowArgs_of_ne (not_exists.mp htuple)]
    rfl

/-- The definition over restored parts is the restored definition, if it keeps its parts. -/
theorem defines_restore (hd : KeepsParts d) (h : Defines d callee? args result? body) :
    Defines (restore d) (callee?.map restore) (args.map restore) (result?.map restore)
      (restore body) := by
  cases h with
  | @assign signature callee args result? hs body =>
    have hsigns := signs_restore hs (hd.refuses_call (.assign hs body))
    rw [restore_pair (by decide), restore_toBlock]
    exact .assign hsigns _
  | @function signature callee args result? hs body hb =>
    have hsigns := signs_restore hs (hd.refuses_call (.function hs hb))
    rw [restore_pair (by decide)]
    exact .function hsigns (isBlock_restore.mpr hb)
  | anonymous args hb =>
    rw [restore_pair (by decide), restore_tuple]
    exact .anonymous _ (isBlock_restore.mpr hb)
  | arrow arg body =>
    rw [restore_pair (by decide), restore_toBlock, ← arrowArgs_restore (hd.arrow arg body rfl)]
    exact .arrow _ _

end Kept

section Lost
variable {d signature body : Tree} {result? : Option Tree} {name : String} {args : List Tree}

/-- A signature whose call has an operator is none any more when it is restored. -/
theorem not_isSignature_restore (h : Signs signature (.symbol name) args result?)
    (hacc : Accepts name args) : ¬ IsSignature (restore signature) := by
  obtain ⟨tag, htag, cs, hcall⟩ := exists_made_of_accepts hacc
  have hne : ∀ other ∉ made, ∀ ds, tag.node cs ≠ other.node ds := by
    intro other ho ds heq
    exact ho ((Tag.node_inj.mp heq).1 ▸ htag)
  -- What the call becomes is tagged by its operator, and neither a call nor a typed call.
  intro hs
  generalize hr : restore signature = r at hs
  cases h with
  | call _ args =>
    rw [hcall] at hr
    cases hs with
    | call callee args => exact hne _ (by decide) _ hr
    | typed callee args result => exact hne _ (by decide) _ hr
  | typed _ args result =>
    rw [restore_pair (by decide), hcall] at hr
    cases hs with
    | call callee args => exact absurd (Tag.node_inj.mp hr).1 (by decide)
    | typed callee args result =>
      obtain ⟨-, hr⟩ := Tag.node_inj.mp hr
      exact hne _ (by decide) _ (List.cons_eq_cons.mp hr).1

/-- A definition with a name is a pair of a signature and a body. -/
theorem Defines.exists_signs {callee : Tree} (h : Defines d (some callee) args result? body) :
    ∃ tag ∈ [Tag.assign, .function], ∃ signature b,
      d = tag.node [signature, b] ∧ Signs signature callee args result? := by
  cases h with
  | assign hs body => exact ⟨.assign, by decide, _, body, rfl, hs⟩
  | function hs hb => exact ⟨.function, by decide, _, body, rfl, hs⟩

/-- A definition whose call has an operator has lost its name, if it is a definition still. -/
theorem callee_of_defines_restore (h : Defines d (some (.symbol name)) args result? body)
    (hacc : Accepts name args) {callee? type? : Option Tree} {args' : List Tree} {body' : Tree}
    (hr : Defines (restore d) callee? args' type? body') : callee? = none := by
  obtain ⟨tag, htag, signature, b, rfl, hs⟩ := h.exists_signs
  have hcall : tag ≠ .call := by
    rintro rfl
    exact absurd htag (by decide)
  rw [restore_pair hcall] at hr
  cases callee? with
  | none => rfl
  | some callee =>
    obtain ⟨tag', -, signature', b', heq, hs'⟩ := hr.exists_signs
    obtain ⟨-, heq⟩ := Tag.node_inj.mp heq
    have hsignature : restore signature = signature' := (List.cons_eq_cons.mp heq).1
    exact absurd (hsignature ▸ hs'.isSignature) (not_isSignature_restore hs hacc)

theorem mem_of_mem_splitArgs {t : Tree} {args : List Tree} (h : t ∈ (splitArgs args).1) :
    t ∈ args := by
  by_cases hp : ∃ kwargs rest, args = Tag.parameters.node kwargs :: rest
  · obtain ⟨kwargs, rest, rfl⟩ := hp
    rw [Parts.splitArgs_parameters] at h
    exact List.mem_cons_of_mem _ h
  · rw [Parts.splitArgs_of_ne fun kwargs rest heq => hp ⟨kwargs, rest, heq⟩] at h
    exact h

/-- No argument of a tuple is that tuple. -/
theorem splitArgs_ne_tuple (args : List Tree) : (splitArgs args).1 ≠ [Tag.tuple.node args] := by
  intro heq
  have hmem : Tag.tuple.node args ∈ args :=
    mem_of_mem_splitArgs (heq ▸ List.mem_singleton_self _)
  have hsize := Tree.size_le_sizes hmem
  rw [Tag.node, Tree.size] at hsize
  omega

/-- The parts of a definition are the restored parts only if it keeps them. -/
theorem keepsParts_of_parts_restore {p : Parts} (hp : parts d = .ok p)
    (h : parts (restore d) = .ok (p.map restore)) : KeepsParts d := by
  constructor
  · intro name args result? body hd hacc
    obtain ⟨callee?, args', type?, body', hr⟩ := exists_parts_iff.mp ⟨_, h⟩
    rw [hr.parts_eq, callee_of_defines_restore hd hacc hr] at h
    rw [hd.parts_eq] at hp
    obtain rfl := Except.ok.inj hp
    -- Only a definition without a name may be left, but the name of the first one stays a symbol.
    have hname : Tree.nothing = restore (.symbol name) :=
      congrArg Parts.name (Except.ok.inj h)
    rw [reshaping_restore.leaf] at hname
    cases hname
  · rintro arg body rfl
    rw [Option.eq_none_iff_forall_ne_some]
    intro args hcall
    obtain rfl := Tree.callTo?_eq_some.mp hcall
    have hrestore : restore (Tag.call.node (.symbol "tuple" :: args)) =
        Tag.tuple.node (args.map restore) := restore_of_step rfl
    rw [(Defines.arrow _ body).parts_eq] at hp
    obtain rfl := Except.ok.inj hp
    rw [restore_pair (by decide), (Defines.arrow _ _).parts_eq, hrestore, arrowArgs_tuple,
      arrowArgs_of_ne (by simp)] at h
    have hargs : (splitArgs (args.map restore)).1 =
        [restore (Tag.call.node (.symbol "tuple" :: args))] :=
      congrArg Parts.args (Except.ok.inj h)
    rw [hrestore] at hargs
    exact splitArgs_ne_tuple _ hargs

/-- Restoring operators keeps a definition with its parts, each of them restored, if and only if the
call in its signature has no operator and no call before its arrow is written as a tuple. -/
theorem parts_restore_iff (hd : isDefinition d) :
    ∃ p, parts d = .ok p ∧
      (isDefinition (restore d) ∧ parts (restore d) = .ok (p.map restore) ↔ KeepsParts d) := by
  obtain ⟨callee?, args, result?, body, h⟩ := isDefinition_iff.mp hd
  refine ⟨_, h.parts_eq, fun hr => keepsParts_of_parts_restore h.parts_eq hr.2, fun hk => ?_⟩
  have hr := defines_restore hk h
  refine ⟨isDefinition_iff.mpr ⟨_, _, _, _, hr⟩, ?_⟩
  rw [hr.parts_eq, Parts.ofForm_map reshaping_restore (by decide) (by decide)]

/-- A definition with primitive calls in every part but the signature itself. -/
def primitiveParts : Tree :=
  .node "=" [.node "::" [.node "call" [.symbol "f",
      .node "parameters" [.node "kw" [.symbol "k", .node "call" [.symbol "tuple"]]],
      .node "call" [.symbol "getindex", .symbol "x", .leaf (.integer 1)]],
    .node "call" [.symbol "transpose", .symbol "T"]],
    .node "call" [.symbol "getitem", .symbol "x", .symbol "k"]]

theorem keepsParts_primitiveParts : KeepsParts primitiveParts := by
  have hform : Defines primitiveParts (some (.symbol "f")) _ _ _ := .assign (.typed _ _ _) _
  constructor
  · intro name args result? body h hacc
    have hparts := Except.ok.inj (h.parts_eq.symm.trans hform.parts_eq)
    have hname : Tree.symbol name = .symbol "f" := congrArg Parts.name hparts
    cases hname
    exact absurd hacc.mem_primitives (by decide)
  · intro arg body h
    exact absurd (Tree.node.inj h).1 (by decide)

theorem parts_restore_iff_primitiveParts :
    isDefinition primitiveParts ∧ KeepsParts primitiveParts ∧
      ∃ p, parts primitiveParts = .ok p ∧ isDefinition (restore primitiveParts) ∧
        parts (restore primitiveParts) = .ok (p.map restore) := by
  have hd : isDefinition primitiveParts := by decide
  obtain ⟨p, hp, hiff⟩ := parts_restore_iff hd
  exact ⟨hd, keepsParts_primitiveParts, p, hp, hiff.mpr keepsParts_primitiveParts⟩

/-- A definition of the function behind an operator. -/
def indexDefinition : Tree :=
  .node "function" [.node "call" [.symbol "getindex", .symbol "a", .symbol "i"],
    .node "block" [.symbol "x"]]

theorem restore_loses_definition :
    isDefinition indexDefinition ∧ ¬ isDefinition (restore indexDefinition) := by
  decide +kernel

end Lost
end CodeTree.Definition
