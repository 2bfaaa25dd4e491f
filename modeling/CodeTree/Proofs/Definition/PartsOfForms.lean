import CodeTree.Proofs.Definition.Parts

/-! Taking a definition apart and bringing a whole tree to one form commute: both forms say of a
definition what they say of each of its parts. -/
namespace CodeTree.Definition

/-- The parts with a function applied to each of them. -/
def Parts.map (g : Tree → Tree) (p : Parts) : Parts :=
  ⟨g p.name, p.args.map g, p.keywordArgs.map g, p.result?.map g, g p.body⟩

section Arguments
variable {lost made : List Tag} {g : Tree → Tree} (hg : Reshaping id lost made g)
  (hl : .parameters ∉ lost) (hm : .parameters ∉ made)
include hg hl hm

theorem splitArgs_map (args : List Tree) :
    splitArgs (args.map g) = ((splitArgs args).1.map g, (splitArgs args).2.map g) := by
  by_cases hp : ∃ kwargs rest, args = Tag.parameters.node kwargs :: rest
  · obtain ⟨kwargs, rest, rfl⟩ := hp
    rw [List.map_cons, hg.node_of_kept hl, Parts.splitArgs_parameters, Parts.splitArgs_parameters]
  · have hne : ∀ kwargs rest, args ≠ Tag.parameters.node kwargs :: rest :=
      fun kwargs rest heq => hp ⟨kwargs, rest, heq⟩
    rw [Parts.splitArgs_of_ne hne, Parts.splitArgs_of_ne]
    · rfl
    · intro kwargs rest heq
      obtain ⟨first, others, rfl, hfirst, -⟩ := List.map_eq_cons_iff.mp heq
      obtain ⟨cs, rfl, -⟩ := hg.of_node hm hfirst
      exact hne cs others rfl

/-- A function that keeps the node for keyword arguments goes through to the parts. -/
theorem Parts.ofForm_map (callee? : Option Tree) (args : List Tree) (result? : Option Tree)
    (body : Tree) :
    ofForm (callee?.map g) (args.map g) (result?.map g) (g body) =
      (ofForm callee? args result? body).map g := by
  have hname : (callee?.map g).getD .nothing = g (callee?.getD .nothing) := by
    cases callee? with
    | none => exact (hg.leaf .nothing).symm
    | some callee => rfl
  rw [ofForm, splitArgs_map hg hl hm, hname]
  rfl

end Arguments

/-- The tags by which a definition is told apart, its own tag aside. -/
def innerTags : List Tag :=
  [.call, .typed, .tuple, .parameters, .block]

section Inside
variable {lost made : List Tag} {g : Tree → Tree} (hg : Reshaping id lost made g)
  (hl : ∀ tag ∈ innerTags, tag ∉ lost) (hm : ∀ tag ∈ innerTags, tag ∉ made)
include hg hl

theorem signatureTree_map (callee? : Option Tree) (args : List Tree) (result? : Option Tree) :
    g (signatureTree callee? args result?) =
      signatureTree (callee?.map g) (args.map g) (result?.map g) := by
  have hcall (callee : Tree) (args : List Tree) :
      g (Tag.call.node (callee :: args)) = Tag.call.node (g callee :: args.map g) :=
    hg.node_of_kept (hl .call (by decide)) _
  match callee?, result? with
  | some callee, none => exact hcall callee args
  | some callee, some result =>
    have htyped := hg.node_of_kept (hl .typed (by decide)) [Tag.call.node (callee :: args), result]
    rw [signatureTree, htyped, List.map_cons, hcall]
    rfl
  | none, _ => exact hg.node_of_kept (hl .tuple (by decide)) args

theorem Signs.map {signature callee : Tree} {args : List Tree} {result? : Option Tree}
    (h : Signs signature callee args result?) :
    Signs (g signature) (g callee) (args.map g) (result?.map g) := by
  rw [h.eq_signatureTree, signatureTree_map hg hl]
  cases h with
  | call callee args => exact .call _ _
  | typed callee args result => exact .typed _ _ _

include hm

theorem toBlock_map (t : Tree) : g t.toBlock = (g t).toBlock :=
  hg.wrapped (hm .block (by decide)) (hl .block (by decide)) t

theorem isBlock_map (t : Tree) : (g t).isBlock ↔ t.isBlock :=
  hg.isTagged_iff (hm .block (by decide)) (hl .block (by decide))

theorem arrowArgs_map (arg : Tree) : arrowArgs (g arg) = (arrowArgs arg).map g := by
  have hwrapped : g (arg.wrapped .tuple) = (g arg).wrapped .tuple :=
    hg.wrapped (hm .tuple (by decide)) (hl .tuple (by decide)) arg
  rw [← tuple_arrowArgs, ← tuple_arrowArgs, hg.node_of_kept (hl .tuple (by decide))] at hwrapped
  exact (Tag.node_inj.mp hwrapped).2.symm

theorem Parts.map_ofForm (callee? : Option Tree) (args : List Tree) (result? : Option Tree)
    (body : Tree) :
    ofForm (callee?.map g) (args.map g) (result?.map g) (g body) =
      (ofForm callee? args result? body).map g :=
  ofForm_map hg (hl .parameters (by decide)) (hm .parameters (by decide)) callee? args result? body

/-- A node that is no definition is none over changed children. -/
theorem isDefining_of_map {h : String} {cs : List Tree} (hd : IsDefining (.node h (cs.map g))) :
    IsDefining (.node h cs) := by
  have hsign {t callee : Tree} {args : List Tree} {result? : Option Tree}
      (hs : Signs (g t) callee args result?) : ∃ callee args result?, Signs t callee args result? :=
    exists_signs (isSignature_of_reshaping hg (hm .call (by decide)) (hm .typed (by decide))
      hs.isSignature)
  obtain ⟨callee?, args, result?, body, hd⟩ := hd
  generalize ht : Tree.node h (cs.map g) = t at hd
  cases hd with
  | assign hs body =>
    obtain ⟨a, b, heq, rfl, rfl⟩ := pair_of_map ht
    obtain ⟨callee, args, result?, hs⟩ := hsign hs
    exact heq ▸ ⟨_, _, _, _, .assign hs b⟩
  | function hs hb =>
    obtain ⟨a, b, heq, rfl, rfl⟩ := pair_of_map ht
    obtain ⟨callee, args, result?, hs⟩ := hsign hs
    exact heq ▸ ⟨_, _, _, _, .function hs ((isBlock_map hg hl hm b).mp hb)⟩
  | anonymous args hb =>
    obtain ⟨a, b, heq, ha, rfl⟩ := pair_of_map ht
    obtain ⟨ds, rfl, -⟩ := hg.of_node (hm .tuple (by decide)) ha.symm
    exact heq ▸ ⟨_, _, _, _, .anonymous ds ((isBlock_map hg hl hm b).mp hb)⟩
  | arrow arg body =>
    obtain ⟨a, b, heq, -, -⟩ := pair_of_map ht
    exact heq ▸ ⟨_, _, _, _, .arrow a b⟩

/-- A function that changes nothing but definitions and what is below the children of other nodes
makes no new definitions. -/
theorem isDefining_of_changed
    (hd : ∀ h cs, IsDefining (.node h cs) ∨ g (.node h cs) = .node h (cs.map g)) {d : Tree}
    (h : IsDefining (g d)) : IsDefining d := by
  cases d with
  | leaf x =>
    rw [hg.leaf] at h
    exact h
  | node head cs =>
    rcases hd head cs with hdef | heq
    · exact hdef
    · rw [heq] at h
      exact isDefining_of_map hg hl hm h

end Inside

section Forms
variable {d body : Tree} {callee? result? : Option Tree} {args : List Tree}

theorem defines_long (hn : result?.isSome → callee?.isSome) (hb : body.isBlock) :
    Defines (Tag.function.node [signatureTree callee? args result?, body]) callee? args result?
      body := by
  match callee?, result?, hn with
  | some callee, none, _ => exact .function (.call callee args) hb
  | some callee, some result, _ => exact .function (.typed callee args result) hb
  | none, none, _ => exact .anonymous args hb
  | none, some result, hn => exact absurd (hn rfl) (by simp)

theorem innerTags_lengthening :
    (∀ tag ∈ innerTags, tag ∉ [Tag.assign, .arrow]) ∧ ∀ tag ∈ innerTags, tag ∉ [Tag.function] := by
  decide

theorem innerTags_shortening :
    (∀ tag ∈ innerTags, tag ∉ [Tag.function, .arrow]) ∧
      ∀ tag ∈ innerTags, tag ∉ [Tag.assign, .arrow] := by
  decide

/-- The long form of a tree says of a definition what it says of each part. -/
theorem defines_lengthenAll (h : Defines d callee? args result? body) :
    Defines (lengthenAll d) (callee?.map lengthenAll) (args.map lengthenAll)
      (result?.map lengthenAll) (lengthenAll body) := by
  obtain ⟨hl, hm⟩ := innerTags_lengthening
  rw [lengthenAll_of_node h.lengthen_eq, List.map_cons,
    signatureTree_map reshaping_lengthenAll hl]
  refine defines_long ?_ ((isBlock_map reshaping_lengthenAll hl hm body).mpr h.isBlock)
  simpa using h.named_of_typed

theorem shorten_function {signature : Tree} (hs : IsSignature signature) (hb : body.isBlock) :
    shorten (Tag.function.node [signature, body]) = Tag.assign.node [signature, body] := by
  have hlong : longForm? (Tag.function.node [signature, body]) = some (signature, body) :=
    longForm?_eq_some.mpr ⟨rfl, hb⟩
  simp only [shorten, Rule.transform, Rule.result?, Rule.first?, shortening, hlong,
    List.findSome?_cons]
  cases hs <;> rfl

theorem shorten_function_tuple (args : List Tree) (hb : body.isBlock) :
    shorten (Tag.function.node [Tag.tuple.node args, body]) =
      Tag.arrow.node [Tag.tuple.node args, body] := by
  have hlong : longForm? (Tag.function.node [Tag.tuple.node args, body]) =
      some (Tag.tuple.node args, body) := longForm?_eq_some.mpr ⟨rfl, hb⟩
  simp only [shorten, Rule.transform, Rule.result?, Rule.first?, shortening, hlong,
    List.findSome?_cons]
  rfl

theorem shorten_arrow (arg body : Tree) :
    shorten (Tag.arrow.node [arg, body]) = Tag.arrow.node [arg.wrapped .tuple, body] := by
  by_cases h : ∃ args, arg = Tag.tuple.node args
  · obtain ⟨args, rfl⟩ := h
    rw [shorten_arrow_tuple, Tree.wrapped_node]
  · rw [Tree.wrapped_of_ne (not_exists.mp h)]
    rcases shorten_cases (Tag.arrow.node [arg, body]) with ⟨hr, -⟩ | hs
    · exact absurd ((settled_of_refuses hr).arrow arg body rfl) h
    · generalize ht : Tag.arrow.node [arg, body] = t at hs
      generalize shorten t = r at hs
      cases hs with
      | named hs hb => exact absurd (Tag.node_inj.mp ht).1 (by decide)
      | anonymous args hb => exact absurd (Tag.node_inj.mp ht).1 (by decide)
      | tuple args b =>
        obtain ⟨-, ht⟩ := Tag.node_inj.mp ht
        cases ht
        exact absurd ⟨args, rfl⟩ h
      | single hn b =>
        obtain ⟨-, ht⟩ := Tag.node_inj.mp ht
        cases ht
        rfl

/-- The short form of a tree says of a definition what it says of each part. -/
theorem defines_shortenAll (h : Defines d callee? args result? body) :
    Defines (shortenAll d) (callee?.map shortenAll) (args.map shortenAll)
      (result?.map shortenAll) (shortenAll body) := by
  obtain ⟨hl, hm⟩ := innerTags_shortening
  have hblock := toBlock_map reshaping_shortenAll hl hm
  have harrow := arrowArgs_map reshaping_shortenAll hl hm
  cases h with
  | @assign signature _ _ _ h body =>
    have hnode : shortenAll (Tag.assign.node [signature, body]) =
        Tag.assign.node [shortenAll signature, shortenAll body] :=
      reshaping_shortenAll.node_of_kept (by decide) _
    rw [hnode, hblock]
    exact .assign (h.map reshaping_shortenAll hl) _
  | function h hb =>
    have hbody := Defines.assign (h.map reshaping_shortenAll hl) (shortenAll body)
    rw [← hblock, Tree.toBlock_of_isBlock hb] at hbody
    rw [shortenAll_of_node (shorten_function h.isSignature hb)]
    exact hbody
  | anonymous args hb =>
    have hbody := Defines.arrow (shortenAll (Tag.tuple.node args)) (shortenAll body)
    rw [harrow, arrowArgs_tuple, ← hblock, Tree.toBlock_of_isBlock hb] at hbody
    rw [shortenAll_of_node (shorten_function_tuple args hb)]
    exact hbody
  | arrow arg body =>
    have hbody := Defines.arrow (shortenAll (arg.wrapped .tuple))
      (shortenAll body)
    rw [harrow, ← hblock, ← tuple_arrowArgs, arrowArgs_tuple] at hbody
    rw [shortenAll_of_node (shorten_arrow arg body), ← tuple_arrowArgs]
    exact hbody

theorem isDefining_lengthenAll_iff : IsDefining (lengthenAll d) ↔ IsDefining d := by
  obtain ⟨hl, hm⟩ := innerTags_lengthening
  constructor
  · refine isDefining_of_changed reshaping_lengthenAll hl hm fun h cs => ?_
    rcases lengthen_cases (.node h cs) with ⟨-, heq⟩ | hd
    · exact .inr (lengthenAll_of_node heq)
    · exact .inl (isDefining_of_lengthened hd)
  · rintro ⟨callee?, args, result?, body, h⟩
    exact ⟨_, _, _, _, defines_lengthenAll h⟩

theorem isDefining_shortenAll_iff : IsDefining (shortenAll d) ↔ IsDefining d := by
  obtain ⟨hl, hm⟩ := innerTags_shortening
  constructor
  · refine isDefining_of_changed reshaping_shortenAll hl hm fun h cs => ?_
    rcases shorten_cases (.node h cs) with ⟨-, heq⟩ | hd
    · exact .inr (shortenAll_of_node heq)
    · exact .inl (isDefining_of_shortened hd)
  · rintro ⟨callee?, args, result?, body, h⟩
    exact ⟨_, _, _, _, defines_shortenAll h⟩

/-- Bringing a whole tree to one form neither makes nor unmakes a definition, and the parts of the
outcome are the parts of the definition, each brought to that form. -/
theorem parts_of_forms (d : Tree) :
    isDefinition (lengthenAll d) = isDefinition d ∧ isDefinition (shortenAll d) = isDefinition d ∧
      (isDefinition d → ∃ p, parts d = .ok p ∧
        parts (lengthenAll d) = .ok (p.map lengthenAll) ∧
        parts (shortenAll d) = .ok (p.map shortenAll)) := by
  refine ⟨?_, ?_, fun hd => ?_⟩
  · rw [Bool.eq_iff_iff, isDefinition_iff, isDefinition_iff, isDefining_lengthenAll_iff]
  · rw [Bool.eq_iff_iff, isDefinition_iff, isDefinition_iff, isDefining_shortenAll_iff]
  · obtain ⟨hl, hm⟩ := innerTags_lengthening
    obtain ⟨hl', hm'⟩ := innerTags_shortening
    obtain ⟨callee?, args, result?, body, h⟩ := isDefinition_iff.mp hd
    refine ⟨_, h.parts_eq, ?_, ?_⟩
    · rw [(defines_lengthenAll h).parts_eq, Parts.map_ofForm reshaping_lengthenAll hl hm]
    · rw [(defines_shortenAll h).parts_eq, Parts.map_ofForm reshaping_shortenAll hl' hm']

/-- A definition with arrows in a keyword argument, in the declared type and in the body. -/
def nestedDefinition : Tree :=
  .node "=" [.node "::" [.node "call" [.symbol "f",
      .node "parameters" [.node "kw" [.symbol "k", .node "->" [.symbol "x", .symbol "x"]]],
      .symbol "y"],
    .node "->" [.symbol "A", .symbol "B"]], .node "->" [.symbol "z", .symbol "y"]]

theorem parts_of_forms_nestedDefinition :
    isDefinition nestedDefinition ∧ ∃ p, parts nestedDefinition = .ok p ∧
      parts (lengthenAll nestedDefinition) = .ok (p.map lengthenAll) ∧
      parts (shortenAll nestedDefinition) = .ok (p.map shortenAll) := by
  have hd : isDefinition nestedDefinition := by decide
  exact ⟨hd, (parts_of_forms nestedDefinition).2.2 hd⟩

end Forms
end CodeTree.Definition
