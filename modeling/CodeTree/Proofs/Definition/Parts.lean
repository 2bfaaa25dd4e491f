import CodeTree.Definition.Parts
import CodeTree.Proofs.Definition.Agreement

/-! Definitions are taken apart exactly where they have one of the forms of a definition, and the
parts say all that the long form says. -/
namespace CodeTree.Definition

/-- A call with a callee, alone or with a declared type of its result. -/
inductive Signs : Tree → Tree → List Tree → Option Tree → Prop
  | call (callee : Tree) (args : List Tree) :
      Signs (Tag.call.node (callee :: args)) callee args none
  | typed (callee : Tree) (args : List Tree) (result : Tree) :
      Signs (Tag.typed.node [Tag.call.node (callee :: args), result]) callee args (some result)

/-- The arguments to the left of an arrow: those of a tuple, or the tree itself. -/
def arrowArgs (arg : Tree) : List Tree :=
  (arg.childrenOf? Tag.tuple.head).getD [arg]

/-- The forms of a definition, with what each of them says: the callee unless the function has no
name, the arguments, the declared type of the result, and the body as a block. -/
inductive Defines : Tree → Option Tree → List Tree → Option Tree → Tree → Prop
  | assign {signature callee : Tree} {args : List Tree} {result? : Option Tree}
      (h : Signs signature callee args result?) (body : Tree) :
      Defines (Tag.assign.node [signature, body]) (some callee) args result? body.toBlock
  | function {signature callee : Tree} {args : List Tree} {result? : Option Tree}
      (h : Signs signature callee args result?) {body : Tree} (hb : body.isBlock) :
      Defines (Tag.function.node [signature, body]) (some callee) args result? body
  | anonymous (args : List Tree) {body : Tree} (hb : body.isBlock) :
      Defines (Tag.function.node [Tag.tuple.node args, body]) none args none body
  | arrow (arg body : Tree) :
      Defines (Tag.arrow.node [arg, body]) none (arrowArgs arg) none body.toBlock

/-- A tree that has one of the forms of a definition. -/
def IsDefining (d : Tree) : Prop :=
  ∃ callee? args result? body, Defines d callee? args result? body

/-- The parts of what a definition says. -/
def Parts.ofForm (callee? : Option Tree) (args : List Tree) (result? : Option Tree)
    (body : Tree) : Parts :=
  ⟨callee?.getD .nothing, (splitArgs args).1, (splitArgs args).2, result?, body⟩

/-- The signature of a long form: a call, or a tuple if there is no callee. -/
def signatureTree : Option Tree → List Tree → Option Tree → Tree
  | some callee, args, none => Tag.call.node (callee :: args)
  | some callee, args, some result => Tag.typed.node [Tag.call.node (callee :: args), result]
  | none, args, _ => Tag.tuple.node args

section Shapes
variable {d signature callee body : Tree} {callee? result? : Option Tree} {args : List Tree}

theorem Signs.eq_signatureTree (h : Signs signature callee args result?) :
    signature = signatureTree (some callee) args result? := by
  cases h <;> rfl

theorem Signs.isSignature (h : Signs signature callee args result?) : IsSignature signature := by
  cases h with
  | call => exact .call callee args
  | typed _ _ result => exact .typed callee args result

theorem exists_signs (h : IsSignature signature) :
    ∃ callee args result?, Signs signature callee args result? := by
  cases h with
  | call callee args => exact ⟨callee, args, none, .call callee args⟩
  | typed callee args result => exact ⟨callee, args, some result, .typed callee args result⟩

theorem arrowArgs_tuple (args : List Tree) : arrowArgs (Tag.tuple.node args) = args := by
  rw [arrowArgs, Tree.childrenOf?_eq_some.mpr rfl]
  rfl

theorem tuple_arrowArgs (arg : Tree) : Tag.tuple.node (arrowArgs arg) = arg.wrapped .tuple := by
  by_cases h : ∃ args, arg = Tag.tuple.node args
  · obtain ⟨args, rfl⟩ := h
    rw [arrowArgs_tuple, Tree.wrapped_node]
  · have hne : ∀ args, arg ≠ Tag.tuple.node args := not_exists.mp h
    have hnone : arg.childrenOf? Tag.tuple.head = none :=
      Option.eq_none_iff_forall_ne_some.mpr fun args ha => hne args (Tree.childrenOf?_eq_some.mp ha)
    rw [Tree.wrapped_of_ne hne, arrowArgs, hnone]
    rfl

theorem isBlock_toBlock (t : Tree) : t.toBlock.isBlock := by
  unfold Tree.toBlock Tree.wrapped
  split
  · assumption
  · exact Tree.isBlock_iff.mpr ⟨_, rfl⟩

theorem Defines.isBlock (h : Defines d callee? args result? body) : body.isBlock := by
  cases h with
  | assign _ body => exact isBlock_toBlock body
  | function _ hb => exact hb
  | anonymous _ hb => exact hb
  | arrow _ body => exact isBlock_toBlock body

/-- A function without a name has no declared type of its result. -/
theorem Defines.named_of_typed (h : Defines d callee? args result? body) :
    result?.isSome → callee?.isSome := by
  cases h <;> simp

/-- What a definition says is what its long form says. -/
theorem Defines.lengthen_eq (h : Defines d callee? args result? body) :
    lengthen d = Tag.function.node [signatureTree callee? args result?, body] := by
  cases h with
  | assign h body => rw [lengthen_assign h.isSignature, h.eq_signatureTree]
  | function h hb =>
    rw [← h.eq_signatureTree]
    exact Rule.transform_of_refuses (refuses_lengthening_of_ne (by simp) (by simp))
  | anonymous args hb =>
    exact Rule.transform_of_refuses (refuses_lengthening_of_ne (by simp) (by simp))
  | arrow arg body =>
    rw [lengthen_arrow, ← tuple_arrowArgs]
    rfl

theorem Defines.signature?_eq (h : Defines d callee? args result? body) :
    signature? d = some ⟨callee?.getD .nothing, args, result?, body⟩ := by
  have hlong : longForm? (Tag.function.node [signatureTree callee? args result?, body]) =
      some (signatureTree callee? args result?, body) := longForm?_eq_some.mpr ⟨rfl, h.isBlock⟩
  rw [signature?, h.lengthen_eq]
  simp only [Rule.result?, Rule.first?, longForms, hlong, List.findSome?_cons]
  cases callee? with
  | some callee => cases result? <;> rfl
  | none =>
    cases result? with
    | none => rfl
    | some result => exact absurd (h.named_of_typed rfl) (by simp)

theorem Defines.parts_eq (h : Defines d callee? args result? body) :
    parts d = .ok (.ofForm callee? args result? body) := by
  unfold parts
  rw [h.signature?_eq]
  rfl

theorem isDefining_of_lengthened {r : Tree} (h : Lengthened d r) : IsDefining d := by
  cases h with
  | named hs body =>
    obtain ⟨callee, args, result?, hs⟩ := exists_signs hs
    exact ⟨_, _, _, _, .assign hs body⟩
  | tuple args body => exact ⟨_, _, _, _, .arrow _ body⟩
  | single h body => exact ⟨_, _, _, _, .arrow _ body⟩

theorem isDefining_of_shortened {r : Tree} (h : Shortened d r) : IsDefining d := by
  cases h with
  | named hs hb =>
    obtain ⟨callee, args, result?, hs⟩ := exists_signs hs
    exact ⟨_, _, _, _, .function hs hb⟩
  | anonymous args hb => exact ⟨_, _, _, _, .anonymous args hb⟩
  | tuple args body => exact ⟨_, _, _, _, .arrow _ body⟩
  | single h body => exact ⟨_, _, _, _, .arrow _ body⟩

theorem isDefining_of_signature? {s : Signature} (h : signature? d = some s) : IsDefining d := by
  rcases lengthen_cases d with ⟨-, heq⟩ | hl
  · obtain ⟨⟨rule, bound⟩, hfirst, -⟩ := Option.map_eq_some_iff.mp h
    obtain ⟨hr, hb⟩ := Rule.exists_of_first? hfirst
    rw [heq] at hb
    simp only [longForms, List.mem_cons, List.not_mem_nil, or_false] at hr
    rcases hr with rfl | rfl | rfl
    all_goals dsimp only at hb
    · obtain ⟨callee, args, body, hf, -⟩ := named?_eq_some hb
      obtain ⟨rfl, hblock⟩ := longForm?_eq_some.mp hf
      exact ⟨_, _, _, _, .function (.call callee args) hblock⟩
    · obtain ⟨callee, args, result, body, hf, -⟩ := typed?_eq_some hb
      obtain ⟨rfl, hblock⟩ := longForm?_eq_some.mp hf
      exact ⟨_, _, _, _, .function (.typed callee args result) hblock⟩
    · obtain ⟨args, body, hf, -⟩ := anonymous?_eq_some hb
      obtain ⟨rfl, hblock⟩ := longForm?_eq_some.mp hf
      exact ⟨_, _, _, _, .anonymous args hblock⟩
  · exact isDefining_of_lengthened hl

theorem isDefinition_iff : isDefinition d ↔ IsDefining d := by
  rw [isDefinition, Option.isSome_iff_exists]
  constructor
  · rintro ⟨s, h⟩
    exact isDefining_of_signature? h
  · rintro ⟨callee?, args, result?, body, h⟩
    exact ⟨_, h.signature?_eq⟩

theorem parts_of_not_isDefining (h : ¬ IsDefining d) : parts d = .error (.notADefinition d) := by
  have hnone : signature? d = none :=
    Option.eq_none_iff_forall_ne_some.mpr fun s hs => h (isDefining_of_signature? hs)
  unfold parts
  rw [hnone]

theorem exists_parts_iff : (∃ p, parts d = .ok p) ↔ IsDefining d := by
  constructor
  · rintro ⟨p, hp⟩
    cases hs : signature? d with
    | none =>
      unfold parts at hp
      rw [hs] at hp
      cases hp
    | some s => exact isDefining_of_signature? hs
  · rintro ⟨callee?, args, result?, body, h⟩
    exact ⟨_, h.parts_eq⟩

end Shapes

section OneStep

theorem lengthen_of_lengthened {t r : Tree} (h : Lengthened t r) : lengthen r = r := by
  obtain ⟨-, cs, rfl⟩ := h.exists_tags
  exact Rule.transform_of_refuses (refuses_lengthening_of_ne (by simp) (by simp))

theorem lengthen_lengthen (d : Tree) : lengthen (lengthen d) = lengthen d := by
  rcases lengthen_cases d with ⟨-, heq⟩ | hl
  · rw [heq, heq]
  · exact lengthen_of_lengthened hl

theorem lengthen_shorten (d : Tree) : lengthen (shorten d) = lengthen d := by
  rcases shorten_cases d with ⟨-, heq⟩ | hs
  · rw [heq]
  · generalize shorten d = r at hs
    cases hs with
    | @named signature body h hb =>
      obtain ⟨callee, args, result?, h⟩ := exists_signs h
      rw [(Defines.assign h body).lengthen_eq, Tree.toBlock_of_isBlock hb,
        (Defines.function h hb).lengthen_eq]
    | @anonymous args body hb =>
      rw [lengthen_arrow_tuple, Tree.toBlock_of_isBlock hb, (Defines.anonymous args hb).lengthen_eq]
      rfl
    | tuple args body => rfl
    | @single arg h body => rw [lengthen_arrow_tuple, lengthen_arrow, Tree.wrapped_of_ne h]

/-- Definitions with the same long form have the same parts. -/
theorem parts_eq_of_lengthen_eq {d e : Tree} (h : lengthen e = lengthen d) (hd : IsDefining d) :
    parts e = parts d := by
  obtain ⟨callee?, args, result?, body, hd⟩ := hd
  have he : signature? e = signature? d := by rw [signature?, h, ← signature?]
  unfold parts
  rw [he, hd.signature?_eq]

theorem parts_lengthen (d : Tree) : parts (lengthen d) = parts d := by
  rcases lengthen_cases d with ⟨-, heq⟩ | hl
  · rw [heq]
  · exact parts_eq_of_lengthen_eq (lengthen_lengthen d) (isDefining_of_lengthened hl)

theorem parts_shorten (d : Tree) : parts (shorten d) = parts d := by
  rcases shorten_cases d with ⟨-, heq⟩ | hs
  · rw [heq]
  · exact parts_eq_of_lengthen_eq (lengthen_shorten d) (isDefining_of_shortened hs)

end OneStep

namespace Parts

/-- The arguments with a node for the keyword arguments, if there are any, in front. -/
def allArgs (p : Parts) : List Tree :=
  if p.keywordArgs = [] then p.args else Tag.parameters.node p.keywordArgs :: p.args

/-- The call of the name, or a tuple if the name is the empty leaf. -/
def call (p : Parts) : Tree :=
  if p.name = .nothing then Tag.tuple.node p.allArgs else Tag.call.node (p.name :: p.allArgs)

/-- The long form of a definition, put together from its parts. -/
def long (p : Parts) : Tree :=
  match p.result? with
  | none => Tag.function.node [p.call, p.body]
  | some result => Tag.function.node [Tag.typed.node [p.call, result], p.body]

theorem splitArgs_parameters (kwargs rest : List Tree) :
    splitArgs (Tag.parameters.node kwargs :: rest) = (rest, kwargs) := by
  rw [Tag.node, splitArgs, if_pos rfl]

theorem splitArgs_of_ne {args : List Tree}
    (h : ∀ kwargs rest, args ≠ Tag.parameters.node kwargs :: rest) : splitArgs args = (args, []) := by
  unfold splitArgs
  split
  · rename_i head cs rest
    refine if_neg fun hh => h cs rest ?_
    rw [hh]
    rfl
  · rfl

/-- Keyword arguments are put back where they were, unless their node was there without any. -/
theorem allArgs_ofForm {callee? result? : Option Tree} {args : List Tree} {body : Tree}
    (h : ∀ rest, args ≠ Tag.parameters.node [] :: rest) :
    (ofForm callee? args result? body).allArgs = args := by
  unfold allArgs ofForm
  by_cases hp : ∃ kwargs rest, args = Tag.parameters.node kwargs :: rest
  · obtain ⟨kwargs, rest, rfl⟩ := hp
    have hne : kwargs ≠ [] := by
      rintro rfl
      exact h rest rfl
    rw [splitArgs_parameters]
    exact if_neg hne
  · rw [splitArgs_of_ne fun kwargs rest heq => hp ⟨kwargs, rest, heq⟩]
    exact if_pos rfl

theorem call_ofForm {callee? result? : Option Tree} {args : List Tree} {body : Tree}
    (hc : callee? ≠ some .nothing) (ha : ∀ rest, args ≠ Tag.parameters.node [] :: rest) :
    (ofForm callee? args result? body).call = signatureTree callee? args none := by
  rw [call, allArgs_ofForm ha]
  cases callee? with
  | none => exact if_pos rfl
  | some callee => exact if_neg fun heq => hc (congrArg some heq)

theorem long_ofForm {d body : Tree} {callee? result? : Option Tree} {args : List Tree}
    (h : Defines d callee? args result? body) (hc : callee? ≠ some .nothing)
    (ha : ∀ rest, args ≠ Tag.parameters.node [] :: rest) :
    (ofForm callee? args result? body).long = lengthen d := by
  rw [h.lengthen_eq, long, call_ofForm hc ha]
  cases callee? with
  | some callee => cases result? <;> rfl
  | none =>
    cases result? with
    | none => rfl
    | some result => exact absurd (h.named_of_typed rfl) (by simp)

end Parts

/-- A tree is taken apart if and only if it has one of the forms of a definition, and is refused as
it stands otherwise. One step to either form does not change the parts. The long form can be put
together from them, unless the callee is the empty leaf or the keyword arguments are a node without
any. -/
theorem parts_exact (d : Tree) :
    ((∃ p, parts d = .ok p) ↔ IsDefining d) ∧
      (¬ IsDefining d → parts d = .error (.notADefinition d)) ∧
      parts (lengthen d) = parts d ∧ parts (shorten d) = parts d ∧
      ∀ callee? args result? body, Defines d callee? args result? body →
        ∃ p, parts d = .ok p ∧ p.name = callee?.getD .nothing ∧
          (p.args, p.keywordArgs) = splitArgs args ∧ p.result? = result? ∧ p.body = body ∧
          (callee? ≠ some .nothing → (∀ rest, args ≠ Tag.parameters.node [] :: rest) →
            p.long = lengthen d) := by
  refine ⟨exists_parts_iff, parts_of_not_isDefining, parts_lengthen d, parts_shorten d, ?_⟩
  intro callee? args result? body h
  exact ⟨_, h.parts_eq, rfl, rfl, rfl, rfl, Parts.long_ofForm h⟩

/-- A definition in short form with a keyword argument and a declared type of its result. -/
def typedDefinition : Tree :=
  .node "=" [.node "::" [.node "call" [.symbol "f", .node "parameters" [.symbol "k"],
    .symbol "x"], .symbol "T"], .symbol "x"]

theorem parts_exact_typedDefinition :
    ∃ p, parts typedDefinition = .ok p ∧ p.name = .symbol "f" ∧
      p.args = [.symbol "x"] ∧ p.keywordArgs = [.symbol "k"] ∧
      p.long = lengthen typedDefinition := by
  have hform : Defines typedDefinition (some (.symbol "f"))
      [.node "parameters" [.symbol "k"], .symbol "x"] (some (.symbol "T"))
      (.node "block" [.symbol "x"]) := .assign (.typed _ _ _) _
  obtain ⟨p, hp, hname, hargs, -, -, hlong⟩ := (parts_exact typedDefinition).2.2.2.2 _ _ _ _ hform
  rw [Prod.mk.injEq] at hargs
  refine ⟨p, hp, hname, hargs.1, hargs.2, hlong (by decide) ?_⟩
  intro rest heq
  exact absurd (List.cons_eq_cons.mp heq).1 (by decide)

end CodeTree.Definition
