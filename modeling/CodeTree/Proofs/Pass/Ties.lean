import CodeTree.Proofs.Pass.Schedule

/-! Which of several ready jobs comes next. The queue is served first come, first served, so the
time at which a job becomes ready counts before its registration. -/
namespace CodeTree
namespace Schedule
variable {α : Type} {name : α → String} {requires : α → List String}

/-- At some point of an order, one job had all that it requires and the other had not. -/
def ReadySooner (name : α → String) (requires : α → List String) (jobs order : List α)
    (job other : α) : Prop :=
  ∃ done, done <+: order ∧ Met name requires jobs done job ∧ ¬ Met name requires jobs done other

/-- At every point of an order, both jobs had all that they require, or neither had. -/
def ReadyTogether (name : α → String) (requires : α → List String) (jobs order : List α)
    (job other : α) : Prop :=
  ∀ done, done <+: order → (Met name requires jobs done job ↔ Met name requires jobs done other)

/-- One job comes before another in the queue: it became ready sooner, or together with the other
one and was registered before it. -/
def Precedes (name : α → String) (requires : α → List String) (jobs order : List α)
    (job other : α) : Prop :=
  ReadySooner name requires jobs order job other ∨
    ReadyTogether name requires jobs order job other ∧ [job, other].Sublist jobs

section Readiness
variable {jobs done order : List α} {job other : α}

theorem Met.later (h : Met name requires jobs done job) (hd : done <+: order) :
    Met name requires jobs order job := by
  obtain ⟨more, rfl⟩ := hd
  exact h.append more

theorem InOrder.met_of_mem (h : InOrder name requires jobs order) (hjob : job ∈ order) :
    Met name requires jobs order job := by
  obtain ⟨before, after, rfl⟩ := List.append_of_mem hjob
  exact (h before job after rfl).append _

theorem Waiting.Tracks.not_met {w : Waiting α} (h : w.Tracks name requires jobs done)
    (hw : w.missing ≠ []) : ¬ Met name requires jobs done w.job := by
  intro hmet
  obtain ⟨r, hr⟩ := List.exists_mem_of_ne_nil _ hw
  obtain ⟨hreq, hreg, hdone⟩ := (h r).mp hr
  exact hdone (hmet r hreq hreg)

theorem ReadySooner.asymm (h : ReadySooner name requires jobs order job other) :
    ¬ ReadySooner name requires jobs order other job := by
  rintro ⟨d, hd, hother, hjob⟩
  obtain ⟨e, he, hjob', hother'⟩ := h
  rcases List.prefix_or_prefix_of_prefix hd he with hle | hle
  · exact hother' (hother.later hle)
  · exact hjob (hjob'.later hle)

theorem ReadyTogether.not_sooner (h : ReadyTogether name requires jobs order job other) :
    ¬ ReadySooner name requires jobs order other job := by
  rintro ⟨d, hd, hother, hjob⟩
  exact hjob ((h d hd).mpr hother)

theorem readyTogether_of_not_sooner (h : ¬ ReadySooner name requires jobs order job other)
    (h' : ¬ ReadySooner name requires jobs order other job) :
    ReadyTogether name requires jobs order job other := by
  intro d hd
  constructor
  · intro hjob
    by_contra hother
    exact h ⟨d, hd, hjob, hother⟩
  · intro hother
    by_contra hjob
    exact h' ⟨d, hd, hother, hjob⟩

theorem Precedes.not_sooner (h : Precedes name requires jobs order job other) :
    ¬ ReadySooner name requires jobs order other job := by
  rcases h with h | ⟨h, -⟩
  · exact h.asymm
  · exact h.not_sooner

/-- Once both jobs are ready, what is served later does not change their order. -/
theorem precedes_later_iff (hd : done <+: order) (hjob : Met name requires jobs done job)
    (hother : Met name requires jobs done other) :
    Precedes name requires jobs done job other ↔ Precedes name requires jobs order job other := by
  constructor
  · rintro (⟨d, hle, h⟩ | ⟨h, hreg⟩)
    · exact .inl ⟨d, hle.trans hd, h⟩
    · refine .inr ⟨fun d hle => ?_, hreg⟩
      rcases List.prefix_or_prefix_of_prefix hle hd with hle | hle
      · exact h d hle
      · exact iff_of_true (hjob.later hle) (hother.later hle)
  · rintro (⟨d, hle, hmet, hnot⟩ | ⟨h, hreg⟩)
    · rcases List.prefix_or_prefix_of_prefix hle hd with hle | hle
      · exact .inl ⟨d, hle, hmet, hnot⟩
      · exact absurd (hother.later hle) hnot
    · exact .inr ⟨fun d hle => h d (hle.trans hd), hreg⟩

theorem not_sublist_swap (hn : jobs.Nodup) (h : [job, other].Sublist jobs) :
    ¬ [other, job].Sublist jobs := by
  induction jobs with
  | nil => cases h
  | cons first rest ih =>
    obtain ⟨hfirst, hrest⟩ := List.nodup_cons.mp hn
    intro hswap
    cases h with
    | cons _ h =>
      cases hswap with
      | cons _ hswap => exact ih hrest h hswap
      | cons_cons _ hswap => exact hfirst (h.subset (by simp))
    | cons_cons _ h =>
      cases hswap with
      | cons _ hswap => exact hfirst (hswap.subset (by simp))
      | cons_cons _ hswap => exact hfirst (h.subset (by simp))

theorem Precedes.asymm (hn : jobs.Nodup) (h : Precedes name requires jobs order job other) :
    ¬ Precedes name requires jobs order other job := by
  rintro (h' | ⟨h', hreg'⟩)
  · exact h.not_sooner h'
  · rcases h with h | ⟨-, hreg⟩
    · exact h'.not_sooner h
    · exact not_sublist_swap hn hreg hreg'

end Readiness

section Queue
variable {jobs done ready : List α} {waiting : List (Waiting α)} {job : α}

/-- The job that was served last has made a job ready. -/
structure JustReady (name : α → String) (requires : α → List String) (jobs done : List α)
    (job : α) : Prop where
  met : Met name requires jobs done job
  not_before : ∀ d, d <+: done → d ≠ done → ¬ Met name requires jobs d job

theorem JustReady.together {other : α} (h : JustReady name requires jobs done job)
    (h' : JustReady name requires jobs done other) :
    ReadyTogether name requires jobs done job other := by
  intro d hd
  by_cases heq : d = done
  · subst heq
    exact iff_of_true h.met h'.met
  · exact iff_of_false (h.not_before d hd heq) (h'.not_before d hd heq)

theorem freed_sublist (waiting : List (Waiting α)) :
    (freed waiting).Sublist (waiting.map Waiting.job) :=
  List.filter_sublist.map _

theorem held_sublist (waiting : List (Waiting α)) :
    ((held waiting).map Waiting.job).Sublist (waiting.map Waiting.job) :=
  List.filter_sublist.map _

/-- Jobs that are freed together stand in the order of their registration. -/
theorem pairwise_freed (hreg : (waiting.map Waiting.job).Sublist jobs)
    (hready : ∀ job ∈ freed waiting, JustReady name requires jobs done job) :
    (freed waiting).Pairwise (Precedes name requires jobs done) := by
  rw [List.pairwise_iff_forall_sublist]
  intro job other hsub
  have hjob := hready job (hsub.subset (by simp))
  have hother := hready other (hsub.subset (by simp))
  exact .inr ⟨hjob.together hother, hsub.trans ((freed_sublist waiting).trans hreg)⟩

/-- The queue between two jobs, with the jobs that were served still in front. -/
structure Queueing (name : α → String) (requires : α → List String) (jobs done ready : List α)
    (waiting : List (Waiting α)) : Prop extends Serving name requires jobs done ready waiting where
  registered : (waiting.map Waiting.job).Sublist jobs
  sorted : (done ++ ready).Pairwise (Precedes name requires jobs done)

theorem queueing_start (hall : waiting.map Waiting.job = jobs)
    (ht : ∀ w ∈ waiting, w.Tracks name requires jobs []) :
    Queueing name requires jobs [] (freed waiting) (held waiting) where
  toServing := serving_start hall ht
  registered := hall ▸ held_sublist waiting
  sorted := by
    refine pairwise_freed (hall ▸ List.Sublist.refl _) fun job hjob => ⟨?_, ?_⟩
    · exact (serving_start hall ht).ready_met job hjob
    · intro d hd hne
      exact absurd (List.prefix_nil.mp hd) hne

theorem Queueing.met (h : Queueing name requires jobs done ready waiting)
    (hjob : job ∈ done ++ ready) : Met name requires jobs done job := by
  rcases List.mem_append.mp hjob with hdone | hready
  · exact h.ordered.met_of_mem hdone
  · exact h.ready_met job hready

/-- What a served job frees was not ready before. -/
theorem Queueing.justReady_of_freed {served : α}
    (h : Queueing name requires jobs done (served :: ready) waiting)
    (hjob : job ∈ freed (waiting.map (Waiting.without (name served)))) :
    ¬ Met name requires jobs done job ∧
      JustReady name requires jobs (done ++ [served]) job := by
  obtain ⟨w, hw, hnone, rfl⟩ := mem_freed.mp hjob
  obtain ⟨v, hv, rfl⟩ := List.mem_map.mp hw
  have hnot : ¬ Met name requires jobs done v.job := (h.tracks v hv).not_met (h.missing v hv)
  refine ⟨hnot, ((h.tracks v hv).without served).met hnone, fun d hd hne hmet => ?_⟩
  rcases List.prefix_concat_iff.mp hd with heq | hle
  · exact hne heq
  · exact hnot (hmet.later hle)

/-- One job is served: the jobs it frees come after all that were ready before. -/
theorem Queueing.step (h : Queueing name requires jobs done (job :: ready) waiting) :
    Queueing name requires jobs (done ++ [job]) (ready ++ (release (name job) waiting).1)
      (release (name job) waiting).2 := by
  have hserving := h.toServing.step
  have hreg : ((waiting.map (Waiting.without (name job))).map Waiting.job).Sublist jobs := by
    rw [map_job_without]
    exact h.registered
  have hgrow : done <+: done ++ [job] := List.prefix_append _ _
  unfold release at hserving ⊢
  refine ⟨hserving, (held_sublist _).trans hreg, ?_⟩
  have hqueue : done ++ [job] ++ (ready ++ freed (waiting.map (Waiting.without (name job)))) =
      (done ++ job :: ready) ++ freed (waiting.map (Waiting.without (name job))) := by
    simp
  rw [hqueue, List.pairwise_append]
  refine ⟨?_, ?_, ?_⟩
  · refine h.sorted.imp_of_mem fun {a b} ha hb hab => ?_
    exact (precedes_later_iff hgrow (h.met ha) (h.met hb)).mp hab
  · exact pairwise_freed hreg fun other hother => (h.justReady_of_freed hother).2
  · intro a ha b hb
    exact .inl ⟨done, hgrow, h.met ha, (h.justReady_of_freed hb).1⟩

theorem Queueing.run (h : Queueing name requires jobs done ready waiting) :
    ∃ left, Queueing name requires jobs (done ++ serve name ready waiting) [] left := by
  fun_induction serve name ready waiting generalizing done with
  | case1 waiting =>
    rw [List.append_nil]
    exact ⟨waiting, h⟩
  | case2 job ready waiting ih =>
    obtain ⟨left, hleft⟩ := ih h.step
    rw [List.append_assoc, List.singleton_append] at hleft
    exact ⟨left, hleft⟩

theorem exists_queueing (requires : α → List String) (hn : (jobs.map name).Nodup) :
    ∃ left, Queueing name requires jobs (served name requires jobs) [] left := by
  have hstart := queueing_start (map_job_waitingList name requires jobs)
    (tracks_waitingList name requires jobs)
  rw [firsts_eq_self_iff.mpr hn] at hstart
  exact hstart.run

end Queue

section Order
variable {jobs order : List α}

/-- An order of the jobs that respects what they require and in which every job comes before those
it precedes in the queue. -/
structure Queued (name : α → String) (requires : α → List String) (jobs order : List α) : Prop where
  all : order.Perm jobs
  ordered : InOrder name requires jobs order
  sorted : order.Pairwise (Precedes name requires jobs order)

theorem queued_of_order? (h : order? name requires jobs = some order) :
    Queued name requires jobs order := by
  obtain ⟨hn, hp, ho⟩ := order?_eq_some h
  refine ⟨hp, ho, ?_⟩
  rw [order?] at h
  split at h
  · obtain rfl := Option.some.inj h
    obtain ⟨left, hq⟩ := exists_queueing requires hn
    simpa using hq.sorted
  · cases h

theorem Queued.precedes {before after : List α} {job other : α}
    (h : Queued name requires jobs (before ++ job :: after)) (hother : other ∈ after) :
    Precedes name requires jobs (before ++ job :: after) job other :=
  (List.pairwise_cons.mp (List.pairwise_append.mp h.sorted).2.1).1 other hother

/-- Of two ready jobs, the one that is served next precedes the other. -/
theorem Queued.precedes_next {before after : List α} {job other : α}
    (h : Queued name requires jobs (before ++ job :: after)) (hother : other ∈ after)
    (hready : Met name requires jobs before other) :
    Precedes name requires jobs before job other := by
  have hjob := h.ordered before job after rfl
  exact (precedes_later_iff (List.prefix_append _ _) hjob hready).mpr (h.precedes hother)

/-- After the same jobs comes the same job: otherwise each of the two would precede the other. -/
theorem Queued.next_eq (hn : jobs.Nodup) {done rest rest' : List α} {job other : α}
    (h : Queued name requires jobs (done ++ job :: rest))
    (h' : Queued name requires jobs (done ++ other :: rest')) : job = other := by
  by_contra hne
  have hmem : ∀ j, j ∈ done ++ job :: rest ↔ j ∈ done ++ other :: rest' :=
    fun j => (h.all.trans h'.all.symm).mem_iff
  have hnodup : (done ++ job :: rest).Nodup := h.all.nodup_iff.mpr hn
  have hnodup' : (done ++ other :: rest').Nodup := h'.all.nodup_iff.mpr hn
  have hother : other ∈ rest := by
    have hin := (hmem other).mpr (by simp)
    grind
  have hjob : job ∈ rest' := by
    have hin := (hmem job).mp (by simp)
    grind
  have hprec := h.precedes_next hother (h'.ordered done other rest' rfl)
  exact hprec.asymm hn (h'.precedes_next hjob (h.ordered done job rest rfl))

/-- The requirements and the rule of the queue leave no choice. -/
theorem Queued.unique {order' : List α} (hn : jobs.Nodup) (h : Queued name requires jobs order)
    (h' : Queued name requires jobs order') : order = order' := by
  -- Induction on what is left after a common beginning.
  have hrest (rest : List α) : ∀ done rest', order = done ++ rest → order' = done ++ rest' →
      rest = rest' := by
    have hlen := (h.all.trans h'.all.symm).length_eq
    induction rest with
    | nil =>
      intro done rest' heq heq'
      rw [heq, heq', List.append_nil, List.length_append] at hlen
      exact (List.length_eq_zero_iff.mp (by omega)).symm
    | cons job rest ih =>
      intro done rest' heq heq'
      cases rest' with
      | nil =>
        rw [heq, heq', List.append_nil, List.length_append, List.length_cons] at hlen
        omega
      | cons other rest' =>
        obtain rfl := Queued.next_eq hn (heq ▸ h) (heq' ▸ h')
        rw [ih (done ++ [job]) rest' (by simpa using heq) (by simpa using heq')]
  exact hrest order [] order' rfl rfl

/-- An order of registration that respects the requirements is kept exactly if no job in it is ready
sooner than one registered before. -/
theorem eq_self_iff_of_order? (h : order? name requires jobs = some order)
    (hin : InOrder name requires jobs jobs) :
    order = jobs ↔ jobs.Pairwise fun job other =>
      ¬ ReadySooner name requires jobs jobs other job := by
  obtain ⟨hn, -, -⟩ := order?_eq_some h
  have hq := queued_of_order? h
  constructor
  · intro heq
    rw [heq] at hq
    exact hq.sorted.imp Precedes.not_sooner
  · intro hpair
    refine hq.unique hn.of_map ⟨List.Perm.refl jobs, hin, ?_⟩
    rw [List.pairwise_iff_forall_sublist] at hpair ⊢
    intro job other hsub
    by_cases hsooner : ReadySooner name requires jobs jobs job other
    · exact .inl hsooner
    · exact .inr ⟨readyTogether_of_not_sooner hsooner (hpair hsub), hsub⟩

theorem sublist_or_swap {job other : α} (hjob : job ∈ jobs) (hother : other ∈ jobs)
    (hne : job ≠ other) : [job, other].Sublist jobs ∨ [other, job].Sublist jobs := by
  obtain ⟨before, after, rfl⟩ := List.append_of_mem hjob
  rcases List.mem_append.mp hother with hmem | hmem
  · exact .inr ((List.singleton_sublist.mpr hmem).append (List.singleton_sublist.mpr (by simp)))
  · have hafter : other ∈ after := (List.mem_cons.mp hmem).resolve_left hne.symm
    exact .inl (((List.singleton_sublist.mpr hafter).cons_cons job).trans
      (List.sublist_append_right _ _))

end Order
end Schedule

namespace Pass
variable {α : Type}

/-- All that a pass requires among the registered passes has run. -/
def Ready (passes done : List (Pass α)) : Pass α → Prop :=
  Schedule.Met Pass.name Pass.requires passes done

/-- While the passes of an order run, one pass is ready at some point at which the other is not. -/
def ReadySooner (passes order : List (Pass α)) : Pass α → Pass α → Prop :=
  Schedule.ReadySooner Pass.name Pass.requires passes order

/-- While the passes of an order run, the two passes become ready at the same point. -/
def ReadyTogether (passes order : List (Pass α)) : Pass α → Pass α → Prop :=
  Schedule.ReadyTogether Pass.name Pass.requires passes order

/-- Registration alone breaks ties: at every position stands the earliest registered of the passes
that have not run and are ready. -/
def EarliestFirst (passes order : List (Pass α)) : Prop :=
  ∀ before p after, order = before ++ p :: after →
    Ready passes before p ∧ ∀ q ∈ after, Ready passes before q → [p, q].Sublist passes

/-- Some pass runs before one that was registered earlier, is ready too, and became ready later. -/
def Overtaken (passes order : List (Pass α)) : Prop :=
  ∃ before p after, order = before ++ p :: after ∧
    ∃ q ∈ after, Ready passes before q ∧ ReadySooner passes before p q ∧ [q, p].Sublist passes

theorem earliestFirst_iff {passes order : List (Pass α)}
    (h : Schedule.order? Pass.name Pass.requires passes = some order) :
    EarliestFirst passes order ↔ ¬ Overtaken passes order := by
  obtain ⟨hn, hp, -⟩ := Schedule.order?_eq_some h
  have hq := Schedule.queued_of_order? h
  constructor
  · rintro hfirst ⟨before, p, after, heq, q, hmem, hready, -, hreg⟩
    exact Schedule.not_sublist_swap hn.of_map hreg ((hfirst before p after heq).2 q hmem hready)
  · intro hnone before p after heq
    refine ⟨hq.ordered before p after heq, fun q hmem hready => ?_⟩
    subst heq
    rcases hq.precedes_next hmem hready with hsooner | ⟨-, hreg⟩
    · have hnodup := hp.nodup_iff.mpr hn.of_map
      have hne : p ≠ q := by
        rintro rfl
        exact (List.nodup_cons.mp (List.nodup_append.mp hnodup).2.1).1 hmem
      have hpm : p ∈ passes := hp.mem_iff.mp (by simp)
      have hqm : q ∈ passes := hp.mem_iff.mp (by simp [hmem])
      refine (Schedule.sublist_or_swap hpm hqm hne).resolve_right fun hreg => ?_
      exact hnone ⟨before, p, after, rfl, q, hmem, hready, hsooner, hreg⟩
    · exact hreg

/-- Passes run first ready, first served, and those that become ready together run in the order of
their registration. So the earliest registered of the ready passes comes next at every position
exactly if no pass is overtaken, and an order of registration that respects all requirements is kept
exactly if in it no pass becomes ready before one registered earlier. -/
theorem order_first_ready {passes : List (Pass α)} (hn : (passes.map Pass.name).Nodup)
    (hc : ∀ p, ¬ Relation.TransGen (Needs passes) p p) :
    ∃ order, Pass.order passes = .ok order ∧
      (∀ before p after, order = before ++ p :: after →
        Ready passes before p ∧ ∀ q ∈ after, Ready passes before q →
          ReadySooner passes before p q ∨
            ReadyTogether passes before p q ∧ [p, q].Sublist passes) ∧
      (EarliestFirst passes order ↔ ¬ Overtaken passes order) ∧
      ((∀ before p after, passes = before ++ p :: after → Ready passes before p) →
        (order = passes ↔ passes.Pairwise fun p q => ¬ ReadySooner passes passes q p)) := by
  obtain ⟨order, h⟩ := Schedule.exists_order hn hc
  have hq := Schedule.queued_of_order? h
  refine ⟨order, order_eq_ok_iff.mpr h, ?_, earliestFirst_iff h,
    fun hin => Schedule.eq_self_iff_of_order? h hin⟩
  intro before p after heq
  refine ⟨hq.ordered before p after heq, fun q hmem hready => ?_⟩
  subst heq
  exact hq.precedes_next hmem hready

section Overtaking

/-- A pass that leaves the tree as it is. -/
def idle (name : String) (requires : List String) : Pass Unit :=
  ⟨name, requires, pure⟩

def reading : Pass Unit := idle "reading" []
def checking : Pass Unit := idle "checking" ["reading"]
def counting : Pass Unit := idle "counting" []

/-- The second pass becomes ready when the first has run, the third is ready from the start. -/
def overtakingPasses : List (Pass Unit) := [reading, checking, counting]

theorem order_overtakingPasses :
    Pass.order overtakingPasses = .ok [reading, counting, checking] := by
  simp [Pass.order, Schedule.order?, Schedule.served, Schedule.waitingList, Schedule.firsts,
    Schedule.freed, Schedule.held, Schedule.serve, Schedule.release, Schedule.Waiting.without,
    overtakingPasses, reading, checking, counting, idle]

theorem ready_overtakingPasses :
    ∀ before p after, overtakingPasses = before ++ p :: after →
      Ready overtakingPasses before p := by
  have hfirst : Schedule.InOrder Pass.name Pass.requires overtakingPasses [] := by
    intro before p after heq
    cases before <;> cases heq
  have hreading : Ready overtakingPasses [] reading := nofun
  have hchecking : Ready overtakingPasses [reading] checking := by
    intro r hr _
    simpa [checking, reading, idle] using hr
  have hcounting : Ready overtakingPasses [reading, checking] counting := nofun
  exact ((hfirst.concat hreading).concat hchecking).concat hcounting

theorem not_earliestFirst_overtakingPasses :
    ¬ EarliestFirst overtakingPasses [reading, counting, checking] := by
  intro h
  have hready : Ready overtakingPasses [reading] checking :=
    ready_overtakingPasses [reading] checking [counting] rfl
  have hreg := (h [reading] counting [checking] rfl).2 checking (by simp) hready
  exact absurd (hreg.map Pass.name) (by decide)

/-- Registration alone does not break ties: an order of registration that respects every requirement
is not kept, since a pass that was ready before is served before the pass that has become ready. -/
theorem order_not_earliestFirst :
    (overtakingPasses.map Pass.name).Nodup ∧
      (∀ p, ¬ Relation.TransGen (Needs overtakingPasses) p p) ∧
      (∀ before p after, overtakingPasses = before ++ p :: after →
        Ready overtakingPasses before p) ∧
      Pass.order overtakingPasses = .ok [reading, counting, checking] ∧
      [reading, counting, checking] ≠ overtakingPasses ∧
      ¬ EarliestFirst overtakingPasses [reading, counting, checking] := by
  obtain ⟨hn, hc⟩ := exists_order_iff.mp ⟨_, order_overtakingPasses⟩
  refine ⟨hn, hc, ready_overtakingPasses, order_overtakingPasses, fun heq => ?_,
    not_earliestFirst_overtakingPasses⟩
  exact absurd (congrArg (List.map Pass.name) heq) (by decide)

theorem order_first_ready_overtakingPasses :
    (overtakingPasses.map Pass.name).Nodup ∧
      (∀ p, ¬ Relation.TransGen (Needs overtakingPasses) p p) ∧
      Overtaken overtakingPasses [reading, counting, checking] := by
  obtain ⟨hn, hc⟩ := exists_order_iff.mp ⟨_, order_overtakingPasses⟩
  refine ⟨hn, hc, ?_⟩
  obtain ⟨order, horder, -, hfirst, -⟩ := order_first_ready hn hc
  obtain rfl : [reading, counting, checking] = order :=
    Except.ok.inj (order_overtakingPasses.symm.trans horder)
  exact not_not.mp fun hnone => not_earliestFirst_overtakingPasses (hfirst.mpr hnone)

end Overtaking
end Pass
end CodeTree
