import CodeTree.Pass.Prettify
import CodeTree.Proofs.Alias.Renaming

/-! One run of the passes that make code readable: their order, and what a run returns. -/
namespace CodeTree
variable {α : Type}

/-- The alias table that a run uses. -/
def Session.aliases (s : Session α) : Alias.Table :=
  s.table?.getD s.fresh

/-- A tree with flattened blocks, named routines and restored operators. -/
def Tree.restored (naming : Naming) (t : Tree) : Tree :=
  Operator.restore (t.flatten.nameRoutines naming)

/-- A tree without its line markers, unless they are kept. -/
def Tree.stripped (keepLines : Bool) (t : Tree) : Tree :=
  if keepLines then t else t.stripMarkers

namespace PassM

theorem forM_note {β : Type} (event : β → Event) (xs : List β) (s : Session α) :
    ∃ log, (xs.forM fun x => (note (event x) : PassM α PUnit)).run s =
      .ok () { s with log := log } := by
  induction xs generalizing s with
  | nil => exact ⟨s.log, rfl⟩
  | cons x xs ih => exact ih { s with log := event x :: s.log }

theorem noteRules_run (noted : Tree × List String) (s : Session α) :
    ∃ log, (noteRules noted).run s = .ok noted.1 { s with log := log } := by
  obtain ⟨t, rules⟩ := noted
  obtain ⟨log, h⟩ := forM_note Event.matched rules s
  refine ⟨log, ?_⟩
  rw [noteRules, EStateM.run_bind, h]
  rfl

theorem keepTable_run (earlier table : Alias.Table) (s : Session α) :
    ∃ log, (keepTable earlier table).run s =
      .ok () { s with log := log, table? := some table } := by
  obtain ⟨log, h⟩ := forM_note (fun entry : String × String => Event.aliased entry.1 entry.2)
    (table.aliases.drop earlier.aliases.length) s
  refine ⟨log, ?_⟩
  rw [keepTable, EStateM.run_bind, h]
  rfl

theorem aliasAll_run (t : Tree) (s : Session α) :
    (aliasAll t).run s =
      match (Alias.aliasAll t).run s.aliases with
      | .ok r after => (keepTable s.aliases after >>= fun _ => pure r : PassM α Tree).run s
      | .error e after =>
        (keepTable s.aliases after >>= fun _ => throw e : PassM α Tree).run s := by
  unfold aliasAll
  simp only [EStateM.run_bind, EStateM.run_get]
  change EStateM.run (match (Alias.aliasAll t).run s.aliases with
    | .ok r after => _
    | .error e after => _) s = _
  cases (Alias.aliasAll t).run s.aliases <;> rfl

theorem aliasAll_run_of_ok {t r : Tree} {s : Session α} {after : Alias.Table}
    (h : (Alias.aliasAll t).run s.aliases = .ok r after) :
    ∃ log, (aliasAll t).run s = .ok r { s with log := log, table? := some after } := by
  obtain ⟨log, hk⟩ := keepTable_run s.aliases after s
  refine ⟨log, ?_⟩
  rw [aliasAll_run, h]
  dsimp only
  rw [EStateM.run_bind, hk]
  rfl

theorem aliasAll_ok {t r : Tree} {s s' : Session α} (h : (aliasAll t).run s = .ok r s') :
    ∃ after, (Alias.aliasAll t).run s.aliases = .ok r after ∧
      ∃ log, s' = { s with log := log, table? := some after } := by
  cases ha : (Alias.aliasAll t).run s.aliases with
  | ok r' after =>
    obtain ⟨log, hr⟩ := aliasAll_run_of_ok ha
    rw [hr] at h
    cases h
    exact ⟨after, rfl, log, rfl⟩
  | error e after =>
    obtain ⟨log, hk⟩ := keepTable_run s.aliases after s
    rw [aliasAll_run, ha] at h
    dsimp only at h
    rw [EStateM.run_bind, hk] at h
    cases h

end PassM

namespace Schedule

/-- Jobs that wait for the one before them. -/
def chain (name : α → String) : α → List α → List (Waiting α)
  | _, [] => []
  | before, job :: jobs => ⟨job, [name before]⟩ :: chain name job jobs

section Chain
variable {name : α → String} {before job : α} {jobs : List α}

theorem map_without_chain {done : String} (h : done ∉ (before :: jobs).map name) :
    (chain name before jobs).map (Waiting.without done) = chain name before jobs := by
  induction jobs generalizing before with
  | nil => rfl
  | cons job jobs ih =>
    rw [List.map_cons, List.mem_cons, not_or] at h
    have hne : (name before != done) = true := by simpa using Ne.symm h.1
    simp [chain, Waiting.without, ih h.2, hne]

/-- All jobs of a chain wait. -/
theorem freed_chain (name : α → String) (before : α) (jobs : List α) :
    freed (chain name before jobs) = [] ∧
      held (chain name before jobs) = chain name before jobs := by
  induction jobs generalizing before with
  | nil => exact ⟨rfl, rfl⟩
  | cons job jobs ih =>
    obtain ⟨hfreed, hheld⟩ := ih job
    rw [freed] at hfreed
    rw [held] at hheld
    simp [chain, freed, held, hfreed, hheld]

/-- Jobs that wait for the one before them are served in order. -/
theorem serve_chain (h : ((job :: jobs).map name).Nodup) :
    serve name [job] (chain name job jobs) = job :: jobs := by
  induction jobs generalizing job with
  | nil => simp [serve, chain, release, freed]
  | cons next jobs ih =>
    rw [List.map_cons, List.nodup_cons] at h
    have hfree : release (name job) (chain name job (next :: jobs)) =
        ([next], chain name next jobs) := by
      obtain ⟨hfreed, hheld⟩ := freed_chain name next jobs
      rw [freed] at hfreed
      rw [held] at hheld
      simp [release, chain, Waiting.without, map_without_chain h.1, freed, held, hfreed, hheld]
    rw [serve, hfree]
    exact congrArg (job :: ·) (ih h.2)

end Chain
end Schedule

namespace Pass

theorem waitingList_prettifying :
    Schedule.waitingList Pass.name Pass.requires (prettifying : List (Pass α)) =
      ⟨flatten, []⟩ ::
        Schedule.chain Pass.name flatten [unresolve, resyntax, aliasGensyms, stripLines] := by
  simp [Schedule.waitingList, Schedule.firsts, Schedule.chain, prettifying, flatten, unresolve, resyntax,
    aliasGensyms, stripLines]

theorem order_prettifying : order (prettifying : List (Pass α)) = .ok prettifying := by
  have hserve : Schedule.serve Pass.name [flatten]
      (Schedule.chain Pass.name flatten [unresolve, resyntax, aliasGensyms, stripLines]) =
        (prettifying : List (Pass α)) :=
    Schedule.serve_chain (by simp [flatten, unresolve, resyntax, aliasGensyms, stripLines])
  have horder : Schedule.order? Pass.name Pass.requires (prettifying : List (Pass α)) =
      some prettifying := by
    rw [Schedule.order?, Schedule.served, waitingList_prettifying]
    simp only [Schedule.chain, Schedule.freed, Schedule.held] at hserve ⊢
    simp [hserve]
  rw [order, horder]

/-- A tree can be dumped if that is asked for. -/
def Dumps (dump : Bool) (t : Tree) : Prop :=
  dump → t.prettyText?.isSome

theorem dumps_false (t : Tree) : Dumps false t := nofun

theorem runNoted_run (dump : Bool) (t : Tree) (pass : Pass α) (s : Session α) :
    (runNoted dump t pass).run s =
      match (pass.run t).run { s with log := .started pass.name :: s.log } with
      | .ok r s₁ =>
        if dump then
          match r.prettyText? with
          | some text => .ok r { s₁ with log := .finished pass.name text :: s₁.log }
          | none => .error (.fault .overlongInteger) s₁
        else .ok r s₁
      | .error e s₁ => .error e s₁ := by
  have hstart : (PassM.note (.started pass.name) : PassM α Unit).run s =
      .ok () { s with log := .started pass.name :: s.log } := rfl
  simp only [runNoted, EStateM.run_bind, hstart]
  cases (pass.run t).run { s with log := .started pass.name :: s.log } with
  | error e s₁ => rfl
  | ok r s₁ =>
    cases dump with
    | false => rfl
    | true =>
      dsimp only [if_true]
      cases r.prettyText? <;> rfl

theorem runNoted_of_ok {dump : Bool} {t r : Tree} {pass : Pass α} {s s₁ : Session α}
    (h : (pass.run t).run { s with log := .started pass.name :: s.log } = .ok r s₁)
    (hd : Dumps dump r) : ∃ log, (runNoted dump t pass).run s = .ok r { s₁ with log := log } := by
  rw [runNoted_run, h]
  cases dump with
  | false => exact ⟨s₁.log, rfl⟩
  | true =>
    obtain ⟨text, ht⟩ := Option.isSome_iff_exists.mp (hd rfl)
    exact ⟨_, by simp only [ht, if_true]; rfl⟩

theorem runNoted_ok {dump : Bool} {t r : Tree} {pass : Pass α} {s s' : Session α}
    (h : (runNoted dump t pass).run s = .ok r s') :
    ∃ s₁, (pass.run t).run { s with log := .started pass.name :: s.log } = .ok r s₁ ∧
      Dumps dump r ∧ ∃ log, s' = { s₁ with log := log } := by
  rw [runNoted_run] at h
  cases hp : (pass.run t).run { s with log := .started pass.name :: s.log } with
  | error e s₁ =>
    rw [hp] at h
    cases h
  | ok r' s₁ =>
    rw [hp] at h
    cases dump with
    | false =>
      cases h
      exact ⟨s', rfl, nofun, s'.log, rfl⟩
    | true =>
      cases ht : r'.prettyText? with
      | none =>
        simp only [ht, if_true] at h
        cases h
      | some text =>
        simp only [ht, if_true] at h
        cases h
        exact ⟨s₁, rfl, fun _ => by rw [ht]; rfl, _, rfl⟩

theorem flatten_run (t : Tree) (s : Session α) : (flatten.run t).run s = .ok t.flatten s := rfl

theorem unresolve_run (t : Tree) (s : Session α) :
    (unresolve.run t).run s = .ok (t.nameRoutines s.naming) s := rfl

theorem aliasGensyms_run {t r : Tree} {s : Session α} {after : Alias.Table}
    (h : (Alias.aliasAll t).run s.aliases = .ok r after) :
    ∃ log, (aliasGensyms.run t).run s = .ok r { s with log := log, table? := some after } :=
  PassM.aliasAll_run_of_ok h

theorem stripLines_run (t : Tree) (s : Session α) :
    (stripLines.run t).run s = .ok (t.stripped s.keepLines) s := rfl

theorem resyntax_run (t : Tree) (s : Session α) :
    ∃ log, (Pass.run resyntax t).run s = .ok (Operator.restore t) { s with log := log } := by
  obtain ⟨log, h⟩ := PassM.noteRules_run (Rule.transformAllNoted Operator.table t) s
  rw [Rule.transformAllNoted_fst] at h
  exact ⟨log, h⟩

end Pass

theorem prettify_eq (dump : Bool) (t : Tree) :
    (prettify dump t : PassM α Tree) = (do
      let t ← Pass.runNoted dump t Pass.flatten
      let t ← Pass.runNoted dump t Pass.unresolve
      let t ← Pass.runNoted dump t Pass.resyntax
      let t ← Pass.runNoted dump t Pass.aliasGensyms
      Pass.runNoted dump t Pass.stripLines) := by
  rw [prettify, Pass.runAll, Pass.order_prettifying]
  simp only [Pass.prettifying, List.foldlM_cons, List.foldlM_nil, bind_pure]

/-- A run that returns has aliased the restored tree. -/
theorem prettify_ok {dump : Bool} {t r : Tree} {s s' : Session α}
    (h : (prettify dump t).run s = .ok r s') :
    ∃ u after, (Alias.aliasAll (t.restored s.naming)).run s.aliases = .ok u after ∧
      r = u.stripped s.keepLines ∧ Pass.Dumps dump r ∧
        ∃ log, s' = { s with log := log, table? := some after } := by
  rw [prettify_eq] at h
  obtain ⟨t₁, s₁, h₁, h⟩ := run_bind_eq_ok.mp h
  obtain ⟨t₂, s₂, h₂, h⟩ := run_bind_eq_ok.mp h
  obtain ⟨t₃, s₃, h₃, h⟩ := run_bind_eq_ok.mp h
  obtain ⟨t₄, s₄, h₄, h₅⟩ := run_bind_eq_ok.mp h
  obtain ⟨_, hflat, -, log₁, rfl⟩ := Pass.runNoted_ok h₁
  cases hflat
  obtain ⟨_, hname, -, log₂, rfl⟩ := Pass.runNoted_ok h₂
  cases hname
  obtain ⟨_, hrest, -, log₃, rfl⟩ := Pass.runNoted_ok h₃
  obtain ⟨log₃', hr⟩ := Pass.resyntax_run _ _
  rw [hr] at hrest
  cases hrest
  obtain ⟨_, halias, -, log₄, rfl⟩ := Pass.runNoted_ok h₄
  obtain ⟨after, ha, _, rfl⟩ := PassM.aliasAll_ok halias
  obtain ⟨_, hstrip, hd, log₅, rfl⟩ := Pass.runNoted_ok h₅
  cases hstrip
  exact ⟨t₄, after, ha, rfl, hd, log₅, rfl⟩

/-- A run returns if aliasing the restored tree does and every stage can be dumped if that is asked
for. -/
theorem prettify_of_ok {dump : Bool} {t u : Tree} {s : Session α} {after : Alias.Table}
    (h : (Alias.aliasAll (t.restored s.naming)).run s.aliases = .ok u after)
    (hd : ∀ v ∈ [t.flatten, t.flatten.nameRoutines s.naming, t.restored s.naming, u,
      u.stripped s.keepLines], Pass.Dumps dump v) :
    ∃ log, (prettify dump t).run s =
      .ok (u.stripped s.keepLines) { s with log := log, table? := some after } := by
  simp only [List.forall_mem_cons] at hd
  obtain ⟨hd₁, hd₂, hd₃, hd₄, hd₅, -⟩ := hd
  obtain ⟨log₁, h₁⟩ := Pass.runNoted_of_ok (s := s) (Pass.flatten_run t _) hd₁
  obtain ⟨log₂, h₂⟩ := Pass.runNoted_of_ok (s := { s with log := log₁ })
    (Pass.unresolve_run t.flatten _) hd₂
  obtain ⟨_, hrest⟩ := Pass.resyntax_run (t.flatten.nameRoutines s.naming)
    { s with log := .started Pass.resyntax.name :: log₂ }
  obtain ⟨log₃, h₃⟩ := Pass.runNoted_of_ok (s := { s with log := log₂ }) hrest hd₃
  obtain ⟨_, halias⟩ := Pass.aliasGensyms_run
    (s := { s with log := .started Pass.aliasGensyms.name :: log₃ }) h
  obtain ⟨log₄, h₄⟩ := Pass.runNoted_of_ok (s := { s with log := log₃ }) halias hd₄
  obtain ⟨log₅, h₅⟩ := Pass.runNoted_of_ok (s := { s with log := log₄, table? := some after })
    (Pass.stripLines_run u _) hd₅
  refine ⟨log₅, ?_⟩
  rw [prettify_eq]
  refine run_bind_eq_ok.mpr ⟨_, _, h₁, run_bind_eq_ok.mpr ⟨_, _, h₂, ?_⟩⟩
  exact run_bind_eq_ok.mpr ⟨_, _, h₃, run_bind_eq_ok.mpr ⟨_, _, h₄, h₅⟩⟩

end CodeTree
