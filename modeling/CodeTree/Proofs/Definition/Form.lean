import CodeTree.Definition.Form
import CodeTree.Proofs.Block
import CodeTree.Proofs.Rule

/-! The two forms of definitions in whole trees: what one step does, and the trees in which every
definition has the form that is asked for. -/
namespace CodeTree.Definition

/-- A call, alone or with a declared type of its result. -/
inductive IsSignature : Tree → Prop
  | call (callee : Tree) (args : List Tree) : IsSignature (Tag.call.node (callee :: args))
  | typed (callee : Tree) (args : List Tree) (result : Tree) :
      IsSignature (Tag.typed.node [Tag.call.node (callee :: args), result])

section Bounds
variable {form : Option (Tree × Tree)} {bound : Bound}

theorem named?_eq_some (h : Bound.named? form = some bound) :
    ∃ callee args body, form = some (Tag.call.node (callee :: args), body) ∧
      bound = .named callee args body := by
  simp only [Bound.named?, Option.bind_eq_bind, Option.bind_eq_some_iff] at h
  obtain ⟨⟨signature, body⟩, rfl, ⟨callee, args⟩, hc, heq⟩ := h
  obtain rfl : signature = _ := Tree.call?_eq_some.mp hc
  exact ⟨callee, args, body, rfl, (Option.some.inj heq).symm⟩

theorem typed?_eq_some (h : Bound.typed? form = some bound) :
    ∃ callee args result body,
      form = some (Tag.typed.node [Tag.call.node (callee :: args), result], body) ∧
        bound = .typed callee args result body := by
  simp only [Bound.typed?, Option.bind_eq_bind, Option.bind_eq_some_iff] at h
  obtain ⟨⟨signature, body⟩, rfl, ⟨call, result⟩, hp, ⟨callee, args⟩, hc, heq⟩ := h
  obtain rfl : signature = _ := Tree.pairOf?_eq_some.mp hp
  obtain rfl : call = _ := Tree.call?_eq_some.mp hc
  exact ⟨callee, args, result, body, rfl, (Option.some.inj heq).symm⟩

theorem anonymous?_eq_some (h : Bound.anonymous? form = some bound) :
    ∃ args body, form = some (Tag.tuple.node args, body) ∧ bound = .anonymous args body := by
  simp only [Bound.anonymous?, Option.bind_eq_bind, Option.bind_eq_some_iff] at h
  obtain ⟨⟨signature, body⟩, rfl, args, hp, heq⟩ := h
  obtain rfl : signature = _ := Tree.childrenOf?_eq_some.mp hp
  exact ⟨args, body, rfl, (Option.some.inj heq).symm⟩

theorem single?_eq_some (h : Bound.single? form = some bound) :
    ∃ arg body, form = some (arg, body) ∧ bound = .single arg body := by
  simp only [Bound.single?, Option.bind_eq_bind, Option.bind_eq_some_iff] at h
  obtain ⟨⟨arg, body⟩, rfl, heq⟩ := h
  exact ⟨arg, body, rfl, (Option.some.inj heq).symm⟩

/-- A signature is bound with its body by one of two rules. -/
theorem isSome_of_isSignature {signature : Tree} (h : IsSignature signature) (body : Tree) :
    (Bound.named? (some (signature, body))).isSome ∨
      (Bound.typed? (some (signature, body))).isSome := by
  cases h with
  | call callee args =>
    refine .inl ?_
    simp [Bound.named?, Tree.call?_eq_some.mpr rfl]
  | typed callee args result =>
    refine .inr ?_
    simp [Bound.typed?, Tree.pairOf?_eq_some.mpr rfl, Tree.call?_eq_some.mpr rfl]

end Bounds

theorem shortForm?_eq_some {t signature body : Tree} :
    shortForm? t = some (signature, body) ↔ t = Tag.assign.node [signature, body] :=
  Tree.pairOf?_eq_some

theorem arrowForm?_eq_some {t arg body : Tree} :
    arrowForm? t = some (arg, body) ↔ t = Tag.arrow.node [arg, body] :=
  Tree.pairOf?_eq_some

theorem longForm?_eq_some {t signature body : Tree} :
    longForm? t = some (signature, body) ↔
      t = Tag.function.node [signature, body] ∧ body.isBlock := by
  rw [longForm?, Option.filter_eq_some_iff, Tree.pairOf?_eq_some]

/-- What one step makes of a short form. -/
inductive Lengthened : Tree → Tree → Prop
  | named {signature : Tree} (h : IsSignature signature) (body : Tree) :
      Lengthened (Tag.assign.node [signature, body])
        (Tag.function.node [signature, body.toBlock])
  | tuple (args : List Tree) (body : Tree) :
      Lengthened (Tag.arrow.node [Tag.tuple.node args, body])
        (Tag.function.node [Tag.tuple.node args, body.toBlock])
  | single {arg : Tree} (h : ∀ args, arg ≠ Tag.tuple.node args) (body : Tree) :
      Lengthened (Tag.arrow.node [arg, body])
        (Tag.function.node [Tag.tuple.node [arg], body.toBlock])

/-- What one step makes of a long form or an arrow. -/
inductive Shortened : Tree → Tree → Prop
  | named {signature body : Tree} (h : IsSignature signature) (hb : body.isBlock) :
      Shortened (Tag.function.node [signature, body]) (Tag.assign.node [signature, body])
  | anonymous (args : List Tree) {body : Tree} (hb : body.isBlock) :
      Shortened (Tag.function.node [Tag.tuple.node args, body])
        (Tag.arrow.node [Tag.tuple.node args, body])
  | tuple (args : List Tree) (body : Tree) :
      Shortened (Tag.arrow.node [Tag.tuple.node args, body])
        (Tag.arrow.node [Tag.tuple.node args, body])
  | single {arg : Tree} (h : ∀ args, arg ≠ Tag.tuple.node args) (body : Tree) :
      Shortened (Tag.arrow.node [arg, body]) (Tag.arrow.node [Tag.tuple.node [arg], body])

theorem lengthen_arrow_tuple (args : List Tree) (body : Tree) :
    lengthen (Tag.arrow.node [Tag.tuple.node args, body]) =
      Tag.function.node [Tag.tuple.node args, body.toBlock] := rfl

theorem shorten_arrow_tuple (args : List Tree) (body : Tree) :
    shorten (Tag.arrow.node [Tag.tuple.node args, body]) =
      Tag.arrow.node [Tag.tuple.node args, body] := rfl

section Steps
variable {rule : Rule Bound Tree} {t : Tree} {bound : Bound}

theorem lengthened_of_bind? (ht : ∀ args body, t ≠ Tag.arrow.node [Tag.tuple.node args, body])
    (hr : rule ∈ lengthening) (h : rule.bind? t = some bound) :
    Lengthened t (rule.build bound) := by
  simp only [lengthening, List.mem_cons, List.not_mem_nil, or_false] at hr
  rcases hr with rfl | rfl | rfl | rfl
  all_goals dsimp only at h
  · obtain ⟨callee, args, body, hf, rfl⟩ := named?_eq_some h
    rw [shortForm?_eq_some.mp hf]
    exact .named (.call callee args) body
  · obtain ⟨callee, args, result, body, hf, rfl⟩ := typed?_eq_some h
    rw [shortForm?_eq_some.mp hf]
    exact .named (.typed callee args result) body
  · obtain ⟨args, body, hf, rfl⟩ := anonymous?_eq_some h
    exact absurd (arrowForm?_eq_some.mp hf) (ht args body)
  · obtain ⟨arg, body, hf, rfl⟩ := single?_eq_some h
    obtain rfl := arrowForm?_eq_some.mp hf
    refine .single ?_ body
    rintro args rfl
    exact ht args body rfl

theorem shortened_of_bind? (ht : ∀ args body, t ≠ Tag.arrow.node [Tag.tuple.node args, body])
    (hr : rule ∈ shortening) (h : rule.bind? t = some bound) :
    Shortened t (rule.build bound) := by
  simp only [shortening, List.mem_cons, List.not_mem_nil, or_false] at hr
  rcases hr with rfl | rfl | rfl | rfl | rfl
  all_goals dsimp only at h
  · obtain ⟨callee, args, body, hf, rfl⟩ := named?_eq_some h
    obtain ⟨rfl, hb⟩ := longForm?_eq_some.mp hf
    exact .named (.call callee args) hb
  · obtain ⟨callee, args, result, body, hf, rfl⟩ := typed?_eq_some h
    obtain ⟨rfl, hb⟩ := longForm?_eq_some.mp hf
    exact .named (.typed callee args result) hb
  · obtain ⟨args, body, hf, rfl⟩ := anonymous?_eq_some h
    obtain ⟨rfl, hb⟩ := longForm?_eq_some.mp hf
    exact .anonymous args hb
  · obtain ⟨args, body, hf, rfl⟩ := anonymous?_eq_some h
    exact absurd (arrowForm?_eq_some.mp hf) (ht args body)
  · obtain ⟨arg, body, hf, rfl⟩ := single?_eq_some h
    obtain rfl := arrowForm?_eq_some.mp hf
    refine .single ?_ body
    rintro args rfl
    exact ht args body rfl

end Steps

theorem lengthen_cases (t : Tree) :
    (Rule.Refuses lengthening t ∧ lengthen t = t) ∨ Lengthened t (lengthen t) := by
  by_cases ht : ∃ args body, t = Tag.arrow.node [Tag.tuple.node args, body]
  · obtain ⟨args, body, rfl⟩ := ht
    rw [lengthen_arrow_tuple]
    exact .inr (.tuple args body)
  · simp only [not_exists] at ht
    rcases Rule.transform_cases lengthening t with h | ⟨rule, hr, bound, hb, heq⟩
    · exact .inl h
    · refine .inr ?_
      rw [lengthen, heq]
      exact lengthened_of_bind? ht hr hb

theorem shorten_cases (t : Tree) :
    (Rule.Refuses shortening t ∧ shorten t = t) ∨ Shortened t (shorten t) := by
  by_cases ht : ∃ args body, t = Tag.arrow.node [Tag.tuple.node args, body]
  · obtain ⟨args, body, rfl⟩ := ht
    rw [shorten_arrow_tuple]
    exact .inr (.tuple args body)
  · simp only [not_exists] at ht
    rcases Rule.transform_cases shortening t with h | ⟨rule, hr, bound, hb, heq⟩
    · exact .inl h
    · refine .inr ?_
      rw [shorten, heq]
      exact shortened_of_bind? ht hr hb

/-- The trees that no rule lengthens: no arrows, and no assignments to signatures. -/
theorem refuses_lengthening_iff {t : Tree} :
    Rule.Refuses lengthening t ↔
      (∀ signature body, t = Tag.assign.node [signature, body] → ¬ IsSignature signature) ∧
        ∀ arg body, t ≠ Tag.arrow.node [arg, body] := by
  constructor
  · intro h
    simp only [Rule.Refuses, lengthening, List.forall_mem_cons] at h
    obtain ⟨hnamed, htyped, -, hsingle, -⟩ := h
    constructor
    · rintro signature body rfl hs
      rw [shortForm?_eq_some.mpr rfl] at hnamed htyped
      rcases isSome_of_isSignature hs body with h | h
      · rw [hnamed] at h
        cases h
      · rw [htyped] at h
        cases h
    · rintro arg body rfl
      rw [arrowForm?_eq_some.mpr rfl] at hsingle
      cases hsingle
  · rintro ⟨hassign, harrow⟩ rule hr
    cases hb : rule.bind? t with
    | none => rfl
    | some bound =>
      have hl := lengthened_of_bind? (fun args body => harrow _ body) hr hb
      generalize rule.build bound = r at hl
      cases hl with
      | named hs body => exact absurd hs (hassign _ _ rfl)
      | tuple args body => exact absurd rfl (harrow _ _)
      | single h body => exact absurd rfl (harrow _ _)

/-- A tree that shortening leaves alone: no long form, and no arrow but from a tuple. -/
structure Settled (t : Tree) : Prop where
  long : ∀ signature body, t = Tag.function.node [signature, body] → body.isBlock →
    ¬ IsSignature signature ∧ ∀ args, signature ≠ Tag.tuple.node args
  arrow : ∀ arg body, t = Tag.arrow.node [arg, body] → ∃ args, arg = Tag.tuple.node args

theorem settled_of_refuses {t : Tree} (h : Rule.Refuses shortening t) : Settled t := by
  simp only [Rule.Refuses, shortening, List.forall_mem_cons] at h
  obtain ⟨hnamed, htyped, hanonymous, -, hsingle, -⟩ := h
  constructor
  · rintro signature body rfl hb
    rw [longForm?_eq_some.mpr ⟨rfl, hb⟩] at hnamed htyped hanonymous
    constructor
    · intro hs
      rcases isSome_of_isSignature hs body with h | h
      · rw [hnamed] at h
        cases h
      · rw [htyped] at h
        cases h
    · rintro args rfl
      simp [Bound.anonymous?, Tree.childrenOf?_eq_some.mpr rfl] at hanonymous
  · rintro arg body rfl
    rw [arrowForm?_eq_some.mpr rfl] at hsingle
    cases hsingle

theorem settled_of_ne {t : Tree} (hf : ∀ cs, t ≠ Tag.function.node cs)
    (ha : ∀ cs, t ≠ Tag.arrow.node cs) : Settled t :=
  ⟨fun _ _ h => absurd h (hf _), fun _ _ h => absurd h (ha _)⟩

theorem settled_arrow_tuple (args : List Tree) (body : Tree) :
    Settled (Tag.arrow.node [Tag.tuple.node args, body]) := by
  constructor
  · intro signature b h
    exact absurd (Tag.node_inj.mp h).1 (by decide)
  · intro arg b h
    obtain ⟨-, h⟩ := Tag.node_inj.mp h
    injection h with h
    exact ⟨args, h.symm⟩

/-- Shortening leaves exactly the settled trees alone. -/
theorem shorten_eq_self_iff {t : Tree} : shorten t = t ↔ Settled t := by
  rcases shorten_cases t with ⟨hr, heq⟩ | hs
  · exact ⟨fun _ => settled_of_refuses hr, fun _ => heq⟩
  · generalize shorten t = r at hs
    cases hs with
    | @named signature body h hb =>
      constructor
      · intro heq
        exact absurd (Tag.node_inj.mp heq).1 (by decide)
      · intro hset
        exact absurd h (hset.long _ _ rfl hb).1
    | @anonymous args body hb =>
      constructor
      · intro heq
        exact absurd (Tag.node_inj.mp heq).1 (by decide)
      · intro hset
        exact absurd rfl ((hset.long _ _ rfl hb).2 args)
    | tuple args body =>
      refine ⟨fun _ => settled_arrow_tuple args body, fun _ => rfl⟩
    | @single arg h body =>
      constructor
      · intro heq
        obtain ⟨-, heq⟩ := Tag.node_inj.mp heq
        injection heq with heq
        exact absurd heq.symm (h [arg])
      · intro hset
        obtain ⟨args, ha⟩ := hset.arrow _ _ rfl
        exact absurd ha (h args)

section Weights
open CodeTree.Tree

theorem weight_assign (a b : Tree) :
    (Tag.assign.node [a, b]).weight = 3 + (a.weight + b.weight) := by
  simp [Tag.node, weight, weights]

theorem weight_arrow (a b : Tree) :
    (Tag.arrow.node [a, b]).weight = 3 + (a.weight + b.weight) := by
  simp [Tag.node, weight, weights]

theorem weight_tuple_singleton (a : Tree) : (Tag.tuple.node [a]).weight = 1 + a.weight := by
  simp [Tag.node, weight, weights, Tag.head]

theorem weight_toBlock_le (body : Tree) : body.toBlock.weight ≤ 1 + body.weight := by
  unfold toBlock wrapped
  split
  · omega
  · simp [Tag.node, weight, weights, Tag.head]

theorem tame_lengthen : Tame lengthen := by
  intro t h cs ht
  rcases lengthen_cases t with ⟨-, heq⟩ | hl
  · rw [← heq, ht]
    exact weight_node_ge h cs
  · generalize hr : lengthen t = r at hl
    cases hl
    all_goals
      rw [hr] at ht
      obtain ⟨-, rfl⟩ := Tree.node.inj ht
      simp only [weights]
    case named signature hs body =>
      have hb := weight_toBlock_le body
      rw [weight_assign]
      omega
    case tuple args body =>
      have hb := weight_toBlock_le body
      rw [weight_arrow]
      omega
    case single arg hn body =>
      have hb := weight_toBlock_le body
      have ha := weight_tuple_singleton arg
      rw [weight_arrow]
      omega

theorem tame_shorten : Tame shorten := by
  intro t h cs ht
  rcases shorten_cases t with ⟨-, heq⟩ | hs
  · rw [← heq, ht]
    exact weight_node_ge h cs
  · generalize hr : shorten t = r at hs
    cases hs with
    | @single arg hn body =>
      rw [hr] at ht
      injection ht with _ hcs
      subst hcs
      have ha := weight_tuple_singleton arg
      rw [weight_arrow]
      simp only [weights]
      omega
    | _ =>
      rw [hr] at ht
      injection ht with _ hcs
      subst hcs
      exact weight_node_ge _ _

end Weights

theorem Lengthened.exists_tags {t r : Tree} (h : Lengthened t r) :
    (∃ old ∈ [Tag.assign, .arrow], ∃ cs, t = old.node cs) ∧ ∃ cs, r = Tag.function.node cs := by
  cases h <;> exact ⟨⟨_, by decide, _, rfl⟩, _, rfl⟩

theorem Shortened.exists_tags {t r : Tree} (h : Shortened t r) :
    (∃ old ∈ [Tag.function, .arrow], ∃ cs, t = old.node cs) ∧
      ∃ new ∈ [Tag.assign, .arrow], ∃ cs, r = new.node cs := by
  cases h <;> exact ⟨⟨_, by decide, _, rfl⟩, _, by decide, _, rfl⟩

/-- What is shortened becomes an assignment or an arrow from a tuple. -/
theorem Shortened.assign_or_arrow {t r : Tree} (h : Shortened t r) :
    (∃ cs, r = Tag.assign.node cs) ∨
      ∃ args body, r = Tag.arrow.node [Tag.tuple.node args, body] := by
  cases h with
  | named h hb => exact .inl ⟨_, rfl⟩
  | anonymous args hb => exact .inr ⟨args, _, rfl⟩
  | tuple args body => exact .inr ⟨args, body, rfl⟩
  | @single arg h body => exact .inr ⟨[arg], body, rfl⟩

theorem lengthenAll_of_node {t : Tree} {h : String} {cs : List Tree}
    (ht : lengthen t = .node h cs) : lengthenAll t = .node h (cs.map lengthenAll) :=
  prewalk_of_node tame_lengthen ht

theorem shortenAll_of_node {t : Tree} {h : String} {cs : List Tree}
    (ht : shorten t = .node h cs) : shortenAll t = .node h (cs.map shortenAll) :=
  prewalk_of_node tame_shorten ht

theorem lengthen_leaf (x : Leaf) : lengthen (.leaf x) = .leaf x := rfl

theorem shorten_leaf (x : Leaf) : shorten (.leaf x) = .leaf x := rfl

theorem reshaping_lengthenAll : Reshaping id [.assign, .arrow] [.function] lengthenAll where
  leaf x := prewalk_of_leaf tame_lengthen (lengthen_leaf x)
  node h cs := by
    rcases lengthen_cases (.node h cs) with ⟨-, heq⟩ | hl
    · exact .inl (lengthenAll_of_node heq)
    · obtain ⟨⟨old, hold, ds, hd⟩, es, he⟩ := hl.exists_tags
      injection hd with hh _
      exact .inr ⟨old, hold, .function, by simp, _, hh, lengthenAll_of_node he⟩

theorem reshaping_shortenAll : Reshaping id [.function, .arrow] [.assign, .arrow] shortenAll where
  leaf x := prewalk_of_leaf tame_shorten (shorten_leaf x)
  node h cs := by
    rcases shorten_cases (.node h cs) with ⟨-, heq⟩ | hs
    · exact .inl (shortenAll_of_node heq)
    · obtain ⟨⟨old, hold, ds, hd⟩, new, hnew, es, he⟩ := hs.exists_tags
      injection hd with hh _
      exact .inr ⟨old, hold, new, hnew, _, hh, shortenAll_of_node he⟩

section Transfer
variable {leafwise : Leaf → Leaf} {lost made : List Tag} {g : Tree → Tree}

theorem isSignature_of_reshaping (hg : Reshaping leafwise lost made g) (hc : .call ∉ made)
    (ht : .typed ∉ made) {t : Tree} (h : IsSignature (g t)) : IsSignature t := by
  generalize hr : g t = r at h
  cases h with
  | call callee args =>
    obtain ⟨cs, rfl, hcs⟩ := hg.of_node hc hr
    obtain ⟨c, ds, rfl, -, -⟩ := List.map_eq_cons_iff.mp hcs.symm
    exact .call c ds
  | typed callee args result =>
    obtain ⟨cs, rfl, hcs⟩ := hg.of_node ht hr
    obtain ⟨call, rest, rfl, hcall, hrest⟩ := List.map_eq_cons_iff.mp hcs.symm
    obtain ⟨result, rfl, -⟩ := List.map_eq_singleton_iff.mp hrest
    obtain ⟨ds, rfl, hds⟩ := hg.of_node hc hcall
    obtain ⟨c, es, rfl, -, -⟩ := List.map_eq_cons_iff.mp hds.symm
    exact .typed c es result

/-- A pair over changed children was a pair before. -/
theorem pair_of_map {h : String} {cs : List Tree} {tag : Tag} {a b : Tree}
    (heq : Tree.node h (cs.map g) = tag.node [a, b]) :
    ∃ a₀ b₀, Tree.node h cs = tag.node [a₀, b₀] ∧ a = g a₀ ∧ b = g b₀ := by
  injection heq with hh hcs
  obtain ⟨a₀, rest, rfl, rfl, hrest⟩ := List.map_eq_cons_iff.mp hcs
  obtain ⟨b₀, rfl, rfl⟩ := List.map_eq_singleton_iff.mp hrest
  exact ⟨a₀, b₀, by rw [hh]; rfl, rfl, rfl⟩

/-- A node that no rule lengthens stays so over children that are changed without new calls. -/
theorem refuses_lengthening_map (hg : Reshaping leafwise lost made g) (hc : .call ∉ made)
    (ht : .typed ∉ made) {h : String} {cs : List Tree}
    (hr : Rule.Refuses lengthening (.node h cs)) :
    Rule.Refuses lengthening (.node h (cs.map g)) := by
  rw [refuses_lengthening_iff] at hr ⊢
  constructor
  · intro signature body heq hs
    obtain ⟨a, b, ha, rfl, -⟩ := pair_of_map heq
    exact hr.1 a b ha (isSignature_of_reshaping hg hc ht hs)
  · intro arg body heq
    obtain ⟨a, b, ha, -, -⟩ := pair_of_map heq
    exact hr.2 a b ha

/-- A settled node stays so over children that are changed without new calls and blocks and without
other new tuples than those that replace signatures. -/
theorem settled_map (hg : Reshaping leafwise lost made g) (hc : .call ∉ made) (ht : .typed ∉ made)
    (hl : .tuple ∉ lost) (hb : ∀ t, (g t).isBlock → t.isBlock)
    (htuple : ∀ t args, g t = Tag.tuple.node args →
      (∃ args, t = Tag.tuple.node args) ∨ IsSignature t)
    {h : String} {cs : List Tree} (hs : Settled (.node h cs)) :
    Settled (.node h (cs.map g)) := by
  constructor
  · intro signature body heq hbody
    obtain ⟨a, b, ha, rfl, rfl⟩ := pair_of_map heq
    obtain ⟨hsig, hargs⟩ := hs.long a b ha (hb b hbody)
    refine ⟨fun h => hsig (isSignature_of_reshaping hg hc ht h), fun args h => ?_⟩
    rcases htuple a args h with ⟨args, h⟩ | h
    · exact hargs args h
    · exact hsig h
  · intro arg body heq
    obtain ⟨a, b, ha, rfl, -⟩ := pair_of_map heq
    obtain ⟨args, rfl⟩ := hs.arrow a b ha
    exact ⟨args.map g, hg.node_of_kept hl args⟩

end Transfer

theorem refuses_lengthening_of_ne {t : Tree} (ha : ∀ cs, t ≠ Tag.assign.node cs)
    (hr : ∀ cs, t ≠ Tag.arrow.node cs) : Rule.Refuses lengthening t :=
  refuses_lengthening_iff.mpr ⟨fun _ _ h => absurd h (ha _), fun _ _ => hr _⟩

end CodeTree.Definition
