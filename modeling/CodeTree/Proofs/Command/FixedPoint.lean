import CodeTree.Command.Run
import CodeTree.Proofs.Definition.Stable
import CodeTree.Proofs.Pass.NormalForm
import CodeTree.Proofs.Sexpr.ManyTrees

/-! What the command prints with line markers kept is what it prints for its own output. -/
namespace CodeTree.Command

/-- A tree with its definitions in the form that is asked for. -/
def reshaped : Form → Tree → Tree
  | .asWritten, t => t
  | .long, t => Definition.lengthenAll t
  | .short, t => Definition.shortenAll t

theorem reshape_run {α : Type} (form : Form) (t : Tree) (s : Session α) :
    ∃ log, (reshape form t).run s = .ok (reshaped form t) { s with log := log } := by
  cases form with
  | asWritten => exact ⟨s.log, rfl⟩
  | long =>
    obtain ⟨log, h⟩ :=
      PassM.noteRules_run (Rule.transformAllNoted Definition.lengthening t) s
    rw [Rule.transformAllNoted_fst] at h
    exact ⟨log, h⟩
  | short =>
    obtain ⟨log, h⟩ :=
      PassM.noteRules_run (Rule.transformAllNoted Definition.shortening t) s
    rw [Rule.transformAllNoted_fst] at h
    exact ⟨log, h⟩

/-- No definition of the tree is in another form than the one that is asked for. -/
def HasForm : Form → Tree → Prop
  | .asWritten, _ => True
  | .long, t => t.Everywhere (Rule.Refuses Definition.lengthening)
  | .short, t => t.Everywhere Definition.Settled

theorem hasForm_reshaped (form : Form) (t : Tree) : HasForm form (reshaped form t) := by
  cases form with
  | asWritten => trivial
  | long => exact Definition.everywhere_refuses_lengthenAll t
  | short => exact Definition.everywhere_settled_shortenAll t

theorem reshaped_of_hasForm {form : Form} {t : Tree} (h : HasForm form t) :
    reshaped form t = t := by
  cases form with
  | asWritten => rfl
  | long => exact Definition.lengthenAll_eq_self h
  | short => exact Definition.shortenAll_eq_self h

theorem hasForm_flatten {form : Form} {t : Tree} (h : HasForm form t) : HasForm form t.flatten := by
  cases form with
  | asWritten => trivial
  | long => exact Definition.everywhere_refuses_flatten h
  | short => exact Definition.everywhere_settled_flatten h

theorem hasForm_mapLeaves {form : Form} (f : Leaf → Leaf) {t : Tree} (h : HasForm form t) :
    HasForm form (t.mapLeaves f) := by
  cases form with
  | asWritten => trivial
  | long => exact Definition.everywhere_refuses_mapLeaves f h
  | short => exact Definition.everywhere_settled_mapLeaves f h

theorem hasForm_restore {form : Form} {t : Tree} (h : HasForm form t) :
    HasForm form (Operator.restore t) := by
  cases form with
  | asWritten => trivial
  | long => exact Definition.everywhere_refuses_restore h
  | short => exact Definition.everywhere_settled_restore h

theorem hasForm_restored {form : Form} (naming : Naming) {t : Tree} (h : HasForm form t) :
    HasForm form (t.restored naming) := by
  rw [Tree.restored, nameRoutines_eq_mapLeaves]
  exact hasForm_restore (hasForm_mapLeaves _ (hasForm_flatten h))

section Literal

theorem isLiteral_reshaped (form : Form) {t : Tree} (h : t.IsLiteral) :
    (reshaped form t).IsLiteral := by
  cases form with
  | asWritten => exact h
  | long => exact Definition.allLeaves_lengthenAll h
  | short => exact Definition.allLeaves_shortenAll h

theorem isLiteral_restored (naming : Naming) {t : Tree} (h : t.IsLiteral) :
    (t.restored naming).IsLiteral := by
  refine Operator.allLeaves_restore ?_
  rw [nameRoutines_eq_mapLeaves, Tree.allLeaves_mapLeaves]
  refine (Tree.allLeaves_flatten h).mono fun x hx => ?_
  cases x with
  | routine r => cases hx
  | _ => exact hx

theorem isLiteral_rename (table : Alias.Table) {t : Tree} (h : t.IsLiteral) :
    (t.mapLeaves table.rename).IsLiteral := by
  refine Tree.allLeaves_mapLeaves.mpr (h.mono fun x hx => ?_)
  cases x with
  | symbol name => rfl
  | _ => exact hx

end Literal

theorem printed_run (o : Options) (t : Tree) (s : Session Unit) :
    ∃ log, (printed o t).run s =
      match (prettify o.verbose (reshaped o.form t)).run { s with log := log } with
      | .ok r after =>
        match r.text? (width o) with
        | some body => .ok (body ++ "\n") after
        | none => .error (.fault .overlongInteger) after
      | .error e after => .error e after := by
  obtain ⟨log, h⟩ := reshape_run o.form t s
  refine ⟨log, ?_⟩
  rw [printed, EStateM.run_bind, h]
  dsimp only
  rw [EStateM.run_bind]
  cases (prettify o.verbose (reshaped o.form t)).run { s with log := log } with
  | error e after => rfl
  | ok r after =>
    dsimp only
    change EStateM.run (match r.text? (width o) with
      | some s => _
      | none => _) after = _
    cases r.text? (width o) <;> rfl

/-- Printing a tree with a table gives a text. -/
def Prints (o : Options) (table : Alias.Table) (t : Tree) (text : String) : Prop :=
  ∃ after, (printed o t).run (session o table) = .ok text after

section
variable {o : Options} {table : Alias.Table} {t : Tree} {text : String}

/-- Printing a tree prints the outcome of one run of the passes. -/
theorem Prints.exists_outcome (h : Prints o table t text) :
    ∃ r log after, (prettify o.verbose (reshaped o.form t)).run
        { session o table with log := log } = .ok r after ∧ r.PrintsAs (width o) text := by
  obtain ⟨after, h⟩ := h
  obtain ⟨log, hrun⟩ := printed_run o t (session o table)
  rw [hrun] at h
  cases hp : (prettify o.verbose (reshaped o.form t)).run { session o table with log := log } with
  | error e s =>
    rw [hp] at h
    cases h
  | ok r s =>
    rw [hp] at h
    dsimp only at h
    cases hb : r.text? (width o) with
    | none =>
      rw [hb] at h
      cases h
    | some body =>
      rw [hb] at h
      cases h
      exact ⟨r, log, after, hp, body, hb, rfl⟩

theorem prints_of_outcome {r : Tree}
    (h : ∀ log, ∃ after, (prettify o.verbose (reshaped o.form t)).run
      { session o table with log := log } = .ok r after)
    (hr : r.PrintsAs (width o) text) : Prints o table t text := by
  obtain ⟨body, hb, rfl⟩ := hr
  obtain ⟨log, hrun⟩ := printed_run o t (session o table)
  obtain ⟨after, hp⟩ := h log
  rw [hp] at hrun
  dsimp only at hrun
  rw [hb] at hrun
  exact ⟨after, hrun⟩

/-- A tree that the command prints as it stands. -/
structure IsFinal (o : Options) (t : Tree) : Prop where
  literal : t.IsLiteral
  normal : t.IsNormal
  formed : HasForm o.form t
  dumps : Pass.Dumps o.verbose t

theorem IsFinal.prints (ht : IsFinal o t) (hk : o.keepLines = true)
    (h : t.PrintsAs (width o) text) : Prints o table t text := by
  refine prints_of_outcome (fun log => ?_) h
  obtain ⟨_, hp⟩ := prettify_of_isNormal (s := { session o table with log := log })
    ht.normal hk ht.dumps
  rw [reshaped_of_hasForm ht.formed]
  exact ⟨_, hp⟩

/-- What is printed for a tree is the text of a tree that is printed as it stands. -/
theorem Prints.exists_isFinal (hk : o.keepLines = true) (ht : table.Reachable)
    (hw : ∀ name ∈ Operator.primitives, name ∉ table.words) (hl : t.IsLiteral)
    (h : Prints o table t text) : ∃ r, IsFinal o r ∧ r.PrintsAs (width o) text := by
  obtain ⟨r, log, after, hp, hr⟩ := h.exists_outcome
  obtain ⟨u, last, ha, rfl, hd, -⟩ := prettify_ok hp
  have hrenames := Alias.aliasAll_ok ha
  have hu : u.stripped o.keepLines = u := by rw [hk]; rfl
  change Tree.PrintsAs _ (u.stripped o.keepLines) _ at hr
  change Pass.Dumps _ (u.stripped o.keepLines) at hd
  rw [hu] at hr hd
  refine ⟨u, ⟨?_, isNormal_of_renames ht.consistent hw hrenames, ?_, hd⟩, hr⟩
  · rw [hrenames.renamed]
    exact isLiteral_rename _ (isLiteral_restored _ (isLiteral_reshaped o.form hl))
  · rw [hrenames.renamed]
    exact hasForm_mapLeaves _ (hasForm_restored _ (hasForm_reshaped o.form t))

end

theorem printAll_cons (o : Options) (table : Alias.Table) (t : Tree) (ts : List Tree) :
    printAll o table (t :: ts) =
      match (printed o t).run (session o table) with
      | .ok s after =>
        (s :: (printAll o table ts).1, after.log.reverse ++ (printAll o table ts).2.1,
          (printAll o table ts).2.2)
      | .error e after => ([], after.log.reverse, some e) := rfl

/-- Printing trees does not fail if and only if each of them is printed. -/
theorem printAll_eq_iff {o : Options} {table : Alias.Table} {ts : List Tree}
    {texts : List String} :
    (∃ events, printAll o table ts = (texts, events, none)) ↔
      List.Forall₂ (Prints o table) ts texts := by
  induction ts generalizing texts with
  | nil =>
    constructor
    · rintro ⟨events, h⟩
      cases h
      exact .nil
    · rintro ⟨⟩
      exact ⟨[], rfl⟩
  | cons t ts ih =>
    rw [printAll_cons]
    cases hp : (printed o t).run (session o table) with
    | error e after =>
      constructor
      · rintro ⟨events, h⟩
        cases h
      · rintro (_ | ⟨⟨_, hs⟩, -⟩)
        rw [hp] at hs
        cases hs
    | ok s after =>
      constructor
      · rintro ⟨events, h⟩
        simp only [Prod.mk.injEq] at h
        obtain ⟨rfl, -, hnone⟩ := h
        exact .cons ⟨after, hp⟩ (ih.mp ⟨_, Prod.ext rfl (Prod.ext rfl hnone)⟩)
      · rintro (_ | ⟨⟨_, hs⟩, hts⟩)
        rw [hp] at hs
        cases hs
        obtain ⟨events, h⟩ := ih.mpr hts
        rw [h]
        exact ⟨_, rfl⟩

theorem failed_code {s : Surroundings} {output errors : String} {e : Error} {outcome : Outcome}
    (h : failed s output errors e = .ok outcome) : outcome.code = 1 := by
  unfold failed at h
  split at h
  · split at h
    · cases h
      rfl
    · cases h
  · cases h

theorem runText_of_readAll {o : Options} {s : Surroundings} {content : String} {ts : List Tree}
    (h : readAll s.stack content = .ok ts) :
    runText o s content =
      match (printAll o (table o s) ts).2.2 with
      | none => .ok ⟨0, String.join (printAll o (table o s) ts).1,
          logged o (printAll o (table o s) ts).2.1⟩
      | some e => failed s (String.join (printAll o (table o s) ts).1)
          (logged o (printAll o (table o s) ts).2.1) e := by
  cases hf : (printAll o (table o s) ts).2.2 with
  | none => simp only [runText, h, hf]
  | some e => simp only [runText, h, hf]

/-- A run ends well if and only if it has read trees and printed each of them. -/
theorem run_eq_ok_iff {o : Options} {s : Surroundings} {content out : String} :
    (∃ errors, run o s (.text content) = .ok ⟨0, out, errors⟩) ↔
      ∃ ts texts, readAll s.stack content = .ok ts ∧ List.Forall₂ (Prints o (table o s)) ts texts ∧
        out = String.join texts := by
  constructor
  · rintro ⟨errors, h⟩
    change runText o s content = _ at h
    cases hread : readAll s.stack content with
    | error e =>
      rw [runText, hread] at h
      cases failed_code h
    | ok ts =>
      rw [runText_of_readAll hread] at h
      cases hfail : (printAll o (table o s) ts).2.2 with
      | some e =>
        rw [hfail] at h
        cases failed_code h
      | none =>
        rw [hfail] at h
        cases h
        exact ⟨ts, _, rfl, printAll_eq_iff.mp ⟨_, Prod.ext rfl (Prod.ext rfl hfail)⟩, rfl⟩
  · rintro ⟨ts, texts, hread, hprints, rfl⟩
    obtain ⟨events, h⟩ := printAll_eq_iff.mpr hprints
    refine ⟨logged o events, ?_⟩
    change runText o s content = _
    rw [runText_of_readAll hread, h]

theorem primitives_not_mem_packagedWords {name : String} (h : name ∈ Operator.primitives) :
    name ∉ Alias.packagedWords := by
  revert name
  decide +kernel

/-- What is printed for trees is the text of trees that are printed as they stand. -/
theorem exists_isFinal_of_prints {o : Options} {table : Alias.Table} {ts : List Tree}
    {texts : List String} (hk : o.keepLines = true) (ht : table.Reachable)
    (hw : ∀ name ∈ Operator.primitives, name ∉ table.words) (hl : ∀ t ∈ ts, t.IsLiteral)
    (h : List.Forall₂ (Prints o table) ts texts) :
    ∃ rs, (∀ r ∈ rs, IsFinal o r) ∧ List.Forall₂ (Tree.PrintsAs (width o)) rs texts := by
  induction h with
  | nil => exact ⟨[], nofun, .nil⟩
  | cons hp _ ih =>
    obtain ⟨hl, hls⟩ := List.forall_mem_cons.mp hl
    obtain ⟨r, hr, htext⟩ := hp.exists_isFinal hk ht hw hl
    obtain ⟨rs, hrs, htexts⟩ := ih hls
    exact ⟨r :: rs, List.forall_mem_cons.mpr ⟨hr, hrs⟩, .cons htext htexts⟩

theorem prints_of_isFinal {o : Options} {table : Alias.Table} {rs : List Tree}
    {texts : List String} (hk : o.keepLines = true) (hrs : ∀ r ∈ rs, IsFinal o r)
    (h : List.Forall₂ (Tree.PrintsAs (width o)) rs texts) :
    List.Forall₂ (Prints o table) rs texts := by
  induction h with
  | nil => exact .nil
  | cons hp _ ih =>
    obtain ⟨hr, hrs⟩ := List.forall_mem_cons.mp hrs
    exact .cons (hr.prints hk hp) (ih hrs)

/-- With line markers kept, what the command prints is printed again when it is read. -/
theorem run_output_fixed {o : Options} {s : Surroundings} {content out errors : String}
    (hk : o.keepLines = true) (hw : s.words = Alias.packagedWords)
    (h : run o s (.text content) = .ok ⟨0, out, errors⟩) :
    ∃ errors', run o s (.text out) = .ok ⟨0, out, errors'⟩ := by
  obtain ⟨ts, texts, hread, hprints, rfl⟩ := run_eq_ok_iff.mp ⟨errors, h⟩
  have hprim : ∀ name ∈ Operator.primitives, name ∉ (table o s).words := by
    intro name hname hmem
    rw [table, hw] at hmem
    exact primitives_not_mem_packagedWords hname (Alias.Table.mem_packagedWords hmem)
  obtain ⟨rs, hfinal, hrs⟩ := exists_isFinal_of_prints hk
    (Alias.Table.reachable_ofWords _ _) hprim (isLiteral_readAll hread) hprints
  have hagain : readAll s.stack (String.join texts) = .ok rs :=
    readAll_join s.stack (fun r hr => (hfinal r hr).literal) hrs
  exact run_eq_ok_iff.mpr ⟨rs, texts, hagain, prints_of_isFinal hk hfinal hrs, rfl⟩

/-- A definition in short form whose body is a primitive call in a block in a block. -/
def shortDefinition : Tree :=
  .node "=" [.node "call" [.symbol "f", .symbol "x"],
    .node "block" [.node "line" [.leaf (.integer 1)],
      .node "block" [.node "call" [.symbol "getindex", .symbol "a", .symbol "x"]]]]

def longDefinition : Tree :=
  .node "function" [.node "call" [.symbol "f", .symbol "x"],
    .node "block" [.node "line" [.leaf (.integer 1)],
      .node "ref" [.symbol "a", .symbol "x"]]]

def lengtheningOptions : Options :=
  { keepLines := true, form := .long, deterministic := true }

def packagedSurroundings : Surroundings :=
  { color := false, words := Alias.packagedWords, random := .firstUnused, stack := .ofRoom 1000 }

def shortText : String :=
  "(= (call f x) (block (line 1) (block (call getindex a x))))"

def longText : String :=
  "(function (call f x) (block (line 1) (ref a x)))\n"

theorem prints_shortDefinition :
    Prints lengtheningOptions (table lengtheningOptions packagedSurroundings) shortDefinition
      longText := by
  have hlong : reshaped .long shortDefinition =
      .node "function" [.node "call" [.symbol "f", .symbol "x"],
        .node "block" [.node "line" [.leaf (.integer 1)],
          .node "block" [.node "call" [.symbol "getindex", .symbol "a", .symbol "x"]]]] := by
    decide +kernel
  have hflat : (reshaped .long shortDefinition).flatten =
      .node "function" [.node "call" [.symbol "f", .symbol "x"],
        .node "block" [.node "line" [.leaf (.integer 1)],
          .node "call" [.symbol "getindex", .symbol "a", .symbol "x"]]] := by
    rw [hlong]
    simp [Tree.flatten_node, Tree.spliceBlocks, Tree.spliced, Tag.head]
  have hrest : (reshaped .long shortDefinition).restored Routine.name = longDefinition := by
    rw [Tree.restored, hflat]
    decide +kernel
  have halias : Alias.aliasAll longDefinition = pure longDefinition := by
    refine Alias.aliasAll_eq_pure ?_
    simp [longDefinition, Alias.isGensym, Alias.isMarked, Alias.mark]
  have hprint : longDefinition.PrintsAs (width lengtheningOptions) longText :=
    ⟨"(function (call f x) (block (line 1) (ref a x)))", by decide +kernel, by decide +kernel⟩
  refine prints_of_outcome (fun log => ?_) hprint
  have hrun : (Alias.aliasAll ((reshaped .long shortDefinition).restored Routine.name)).run
      (table lengtheningOptions packagedSurroundings) =
        .ok longDefinition (table lengtheningOptions packagedSurroundings) := by
    rw [hrest, halias]
    rfl
  obtain ⟨_, h⟩ := prettify_of_ok (s := { session lengtheningOptions _ with log := log }) hrun
    fun v _ => Pass.dumps_false v
  exact ⟨_, h⟩

theorem run_shortText :
    ∃ errors, run lengtheningOptions packagedSurroundings (.text shortText) =
      .ok ⟨0, longText, errors⟩ := by
  have hread : readAll (.ofRoom 1000) shortText = .ok [shortDefinition] := by
    decide +kernel
  refine run_eq_ok_iff.mpr ⟨_, [longText], hread, .cons prints_shortDefinition .nil, ?_⟩
  decide +kernel

theorem run_output_fixed_shortText :
    (∃ errors, run lengtheningOptions packagedSurroundings (.text shortText) =
        .ok ⟨0, longText, errors⟩) ∧
      ∃ errors, run lengtheningOptions packagedSurroundings (.text longText) =
        .ok ⟨0, longText, errors⟩ := by
  obtain ⟨errors, h⟩ := run_shortText
  exact ⟨⟨errors, h⟩, run_output_fixed rfl rfl h⟩

end CodeTree.Command
