import CodeTree.Pass.Basic
import Mathlib.Data.Fintype.Card
import Mathlib.Data.List.Nodup
import Mathlib.Data.Set.Finite.List
import Mathlib.Logic.Relation

/-! The order of passes is a topological sort. Serving keeps every job in one of three places, and a
job waits only for jobs that have not been served; so jobs that are never served wait for each other
in a circle. -/
namespace CodeTree
namespace Schedule
variable {α : Type} {name : α → String} {requires : α → List String}

/-- One job requires another; both are registered. -/
def Needs (name : α → String) (requires : α → List String) (jobs : List α) (job other : α) : Prop :=
  job ∈ jobs ∧ other ∈ jobs ∧ name other ∈ requires job

/-- What a job requires among the registered jobs has been done. -/
def Met (name : α → String) (requires : α → List String) (jobs done : List α) (job : α) : Prop :=
  ∀ r ∈ requires job, r ∈ jobs.map name → r ∈ done.map name

/-- Every job stands after what it requires. -/
def InOrder (name : α → String) (requires : α → List String) (jobs order : List α) : Prop :=
  ∀ before job after, order = before ++ job :: after → Met name requires jobs before job

theorem Met.append {jobs done : List α} {job : α} (h : Met name requires jobs done job)
    (more : List α) : Met name requires jobs (done ++ more) job := by
  intro r hr hreg
  rw [List.map_append]
  exact List.mem_append_left _ (h r hr hreg)

theorem InOrder.concat {jobs order : List α} {job : α} (h : InOrder name requires jobs order)
    (hjob : Met name requires jobs order job) : InOrder name requires jobs (order ++ [job]) := by
  intro before other after heq
  rcases List.eq_nil_or_concat after with rfl | ⟨rest, last, rfl⟩
  · obtain ⟨rfl, hlast⟩ := List.append_inj' heq rfl
    obtain rfl := List.singleton_inj.mp hlast
    exact hjob
  · have hsplit : order ++ [job] = (before ++ other :: rest) ++ [last] := by simpa using heq
    exact h before other rest (List.append_inj' hsplit rfl).1

section Serving

theorem freed_append_held (waiting : List (Waiting α)) :
    (freed waiting ++ (held waiting).map Waiting.job).Perm (waiting.map Waiting.job) := by
  rw [freed, held, ← List.map_append]
  exact (List.filter_append_perm _ waiting).map _

theorem map_job_without (done : String) (waiting : List (Waiting α)) :
    (waiting.map (Waiting.without done)).map Waiting.job = waiting.map Waiting.job := by
  rw [List.map_map]
  rfl

theorem mem_freed {waiting : List (Waiting α)} {job : α} :
    job ∈ freed waiting ↔ ∃ w ∈ waiting, w.missing = [] ∧ w.job = job := by
  simp [freed, and_assoc]

theorem mem_held {waiting : List (Waiting α)} {w : Waiting α} :
    w ∈ held waiting ↔ w ∈ waiting ∧ w.missing ≠ [] := by
  simp [held]

/-- What a job waits for: those of its requirements that are registered and not done. -/
def Waiting.Tracks (name : α → String) (requires : α → List String) (jobs done : List α)
    (w : Waiting α) : Prop :=
  ∀ r, r ∈ w.missing ↔ r ∈ requires w.job ∧ r ∈ jobs.map name ∧ r ∉ done.map name

theorem Waiting.Tracks.met {jobs done : List α} {w : Waiting α}
    (h : w.Tracks name requires jobs done) (hw : w.missing = []) :
    Met name requires jobs done w.job := by
  intro r hr hreg
  by_contra hdone
  have hmissing := (h r).mpr ⟨hr, hreg, hdone⟩
  rw [hw] at hmissing
  cases hmissing

theorem Waiting.Tracks.without {jobs done : List α} {w : Waiting α}
    (h : w.Tracks name requires jobs done) (job : α) :
    (w.without (name job)).Tracks name requires jobs (done ++ [job]) := by
  intro r
  simp only [Waiting.without, List.mem_filter, h r, bne_iff_ne, List.map_append, List.mem_append,
    List.map_cons, List.map_nil, List.mem_singleton]
  tauto

/-- The state of the queue between two jobs. -/
structure Serving (name : α → String) (requires : α → List String) (jobs done ready : List α)
    (waiting : List (Waiting α)) : Prop where
  all : (done ++ (ready ++ waiting.map Waiting.job)).Perm jobs
  ordered : InOrder name requires jobs done
  ready_met : ∀ job ∈ ready, Met name requires jobs done job
  tracks : ∀ w ∈ waiting, w.Tracks name requires jobs done
  missing : ∀ w ∈ waiting, w.missing ≠ []

/-- Serving starts well if the waiting jobs track what they require. -/
theorem serving_start {jobs : List α} {waiting : List (Waiting α)}
    (hall : waiting.map Waiting.job = jobs) (ht : ∀ w ∈ waiting, w.Tracks name requires jobs []) :
    Serving name requires jobs [] (freed waiting) (held waiting) where
  all := by
    rw [List.nil_append, ← hall]
    exact freed_append_held waiting
  ordered := by
    intro before job after heq
    cases before <;> cases heq
  ready_met := by
    intro job hjob
    obtain ⟨w, hw, hnone, rfl⟩ := mem_freed.mp hjob
    exact (ht w hw).met hnone
  tracks := fun w hw => ht w (mem_held.mp hw).1
  missing := fun w hw => (mem_held.mp hw).2

/-- One job is served: it joins those that are done, and the jobs it frees join the queue. -/
theorem Serving.step {jobs done ready : List α} {waiting : List (Waiting α)} {job : α}
    (h : Serving name requires jobs done (job :: ready) waiting) :
    Serving name requires jobs (done ++ [job]) (ready ++ (release (name job) waiting).1)
      (release (name job) waiting).2 := by
  have hjob : Met name requires jobs done job := h.ready_met job List.mem_cons_self
  have htracks : ∀ w ∈ waiting.map (Waiting.without (name job)),
      w.Tracks name requires jobs (done ++ [job]) := by
    intro w hw
    obtain ⟨v, hv, rfl⟩ := List.mem_map.mp hw
    exact (h.tracks v hv).without job
  unfold release
  constructor
  · have hrest := freed_append_held (waiting.map (Waiting.without (name job)))
    rw [map_job_without] at hrest
    refine List.Perm.trans ?_ h.all
    rw [List.append_assoc, List.append_assoc, List.singleton_append, List.cons_append]
    exact ((hrest.append_left ready).cons job).append_left done
  · exact h.ordered.concat hjob
  · intro other hother
    rcases List.mem_append.mp hother with hready | hfreed
    · exact (h.ready_met other (List.mem_cons_of_mem _ hready)).append [job]
    · obtain ⟨w, hw, hnone, rfl⟩ := mem_freed.mp hfreed
      exact (htracks w hw).met hnone
  · exact fun w hw => htracks w (mem_held.mp hw).1
  · exact fun w hw => (mem_held.mp hw).2

/-- When the queue is empty, the jobs that are left wait for jobs that will not be served. -/
theorem Serving.run {jobs done ready : List α} {waiting : List (Waiting α)}
    (h : Serving name requires jobs done ready waiting) :
    ∃ left, Serving name requires jobs (done ++ serve name ready waiting) [] left := by
  fun_induction serve name ready waiting generalizing done with
  | case1 waiting =>
    rw [List.append_nil]
    exact ⟨waiting, h⟩
  | case2 job ready waiting ih =>
    obtain ⟨left, hleft⟩ := ih h.step
    rw [List.append_assoc, List.singleton_append] at hleft
    exact ⟨left, hleft⟩

end Serving

section Registered

theorem firsts_cons_of_mem {kept jobs : List α} {job : α} (h : name job ∈ kept.map name) :
    firsts name kept (job :: jobs) = firsts name kept jobs := by
  have hany : (kept.any fun k => name k == name job) = true := by simpa using h
  simp only [firsts, List.foldl_cons, hany, if_true]

theorem firsts_cons_of_not_mem {kept jobs : List α} {job : α} (h : name job ∉ kept.map name) :
    firsts name kept (job :: jobs) = firsts name (kept ++ [job]) jobs := by
  have hany : ¬ (kept.any fun k => name k == name job) = true := by simpa using h
  simp only [firsts, List.foldl_cons, if_neg hany]

theorem firsts_sublist (name : α → String) (kept jobs : List α) :
    (firsts name kept jobs).Sublist (kept ++ jobs) := by
  induction jobs generalizing kept with
  | nil => exact (List.append_nil kept).symm ▸ List.Sublist.refl kept
  | cons job jobs ih =>
    by_cases h : name job ∈ kept.map name
    · rw [firsts_cons_of_mem h]
      exact (ih kept).trans ((List.sublist_cons_self job jobs).append_left kept)
    · rw [firsts_cons_of_not_mem h]
      simpa using ih (kept ++ [job])

theorem nodup_firsts {kept : List α} (h : (kept.map name).Nodup) (jobs : List α) :
    ((firsts name kept jobs).map name).Nodup := by
  induction jobs generalizing kept with
  | nil => exact h
  | cons job jobs ih =>
    by_cases hmem : name job ∈ kept.map name
    · rw [firsts_cons_of_mem hmem]
      exact ih h
    · rw [firsts_cons_of_not_mem hmem]
      apply ih
      rw [List.map_append, List.map_cons, List.map_nil]
      exact List.nodup_append.mpr ⟨h, List.nodup_singleton _, by grind⟩

theorem mem_map_firsts (kept jobs : List α) (r : String) :
    r ∈ (firsts name kept jobs).map name ↔ r ∈ kept.map name ∨ r ∈ jobs.map name := by
  induction jobs generalizing kept with
  | nil => simp [firsts]
  | cons job jobs ih =>
    by_cases h : name job ∈ kept.map name
    · rw [firsts_cons_of_mem h, ih, List.map_cons, List.mem_cons]
      grind
    · rw [firsts_cons_of_not_mem h, ih]
      grind

theorem firsts_eq_append {kept jobs : List α} (h : ((kept ++ jobs).map name).Nodup) :
    firsts name kept jobs = kept ++ jobs := by
  induction jobs generalizing kept with
  | nil => simp [firsts]
  | cons job jobs ih =>
    have hnot : name job ∉ kept.map name := by
      rw [List.map_append, List.nodup_append] at h
      intro hmem
      exact h.2.2 _ hmem _ (by simp) rfl
    rw [firsts_cons_of_not_mem hnot, ih (by simpa using h), List.append_assoc,
      List.singleton_append]

/-- Nothing is dropped if and only if no name is registered twice. -/
theorem firsts_eq_self_iff {jobs : List α} :
    firsts name [] jobs = jobs ↔ (jobs.map name).Nodup := by
  constructor
  · intro h
    rw [← h]
    exact nodup_firsts (by simp) jobs
  · exact fun h => firsts_eq_append h

theorem map_job_waitingList (name : α → String) (requires : α → List String) (jobs : List α) :
    (waitingList name requires jobs).map Waiting.job = firsts name [] jobs := by
  rw [waitingList, List.map_map]
  exact List.map_id _

theorem tracks_waitingList (name : α → String) (requires : α → List String) (jobs : List α) :
    ∀ w ∈ waitingList name requires jobs, w.Tracks name requires (firsts name [] jobs) [] := by
  intro w hw r
  rw [waitingList] at hw
  obtain ⟨job, -, rfl⟩ := List.mem_map.mp hw
  simp [mem_map_firsts]

theorem exists_serving (name : α → String) (requires : α → List String) (jobs : List α) :
    ∃ left, Serving name requires (firsts name [] jobs) (served name requires jobs) [] left :=
  (serving_start (map_job_waitingList name requires jobs)
    (tracks_waitingList name requires jobs)).run

end Registered

section Circles

/-- Whatever a job requires, directly or through others, stands before it. -/
theorem InOrder.mem_before {jobs order : List α} (h : InOrder name requires jobs order)
    (hn : (jobs.map name).Nodup) (hp : order.Perm jobs) {job other : α}
    (hneeds : Relation.TransGen (Needs name requires jobs) job other) {before after : List α}
    (heq : order = before ++ job :: after) : other ∈ before := by
  -- One requirement: the name is among those before, and it has only one job.
  have hstep {job other : α} {before after : List α} (heq : order = before ++ job :: after)
      (hneeds : Needs name requires jobs job other) : other ∈ before := by
    obtain ⟨-, hother, hreq⟩ := hneeds
    have hbefore := h before job after heq _ hreq (List.mem_map_of_mem hother)
    obtain ⟨same, hsame, hname⟩ := List.mem_map.mp hbefore
    have hsame' : same ∈ jobs := by
      apply hp.mem_iff.mp
      rw [heq]
      exact List.mem_append_left _ hsame
    rwa [← List.inj_on_of_nodup_map hn hsame' hother hname]
  induction hneeds with
  | single hneeds => exact hstep heq hneeds
  | tail _ hlast ih =>
    obtain ⟨first, second, rfl⟩ := List.append_of_mem ih
    rw [List.append_assoc, List.cons_append] at heq
    exact List.mem_append_left _ (hstep heq hlast)

theorem InOrder.no_circle {jobs order : List α} (h : InOrder name requires jobs order)
    (hn : (jobs.map name).Nodup) (hp : order.Perm jobs) (job : α) :
    ¬ Relation.TransGen (Needs name requires jobs) job job := by
  intro hcircle
  have hreg : job ∈ jobs := by
    obtain ⟨other, hfirst, -⟩ := Relation.TransGen.head'_iff.mp hcircle
    exact hfirst.1
  obtain ⟨before, after, heq⟩ := List.append_of_mem (hp.mem_iff.mpr hreg)
  have hbefore := h.mem_before hn hp hcircle heq
  have hnodup : order.Nodup := hp.nodup_iff.mpr hn.of_map
  rw [heq, List.nodup_append] at hnodup
  exact hnodup.2.2 job hbefore job List.mem_cons_self rfl

/-- Among finitely many jobs that each require another one of them there is a circle. -/
theorem exists_circle {r : α → α → Prop} {left : List α} (hne : left ≠ [])
    (h : ∀ j ∈ left, ∃ k ∈ left, r j k) : ∃ j, Relation.TransGen r j j := by
  by_contra hnone
  have hirrefl : ∀ j, ¬ Relation.TransGen r j j := not_exists.mp hnone
  let later (a b : {j // j ∈ left}) : Prop := Relation.TransGen r b.1 a.1
  have : Finite {j // j ∈ left} := (List.finite_toSet left).to_subtype
  have : IsTrans _ later := ⟨fun _ _ _ hab hbc => hbc.trans hab⟩
  have : Std.Irrefl later := ⟨fun a => hirrefl a.1⟩
  have hwf : WellFounded later := Finite.wellFounded_of_trans_of_irrefl later
  obtain ⟨first, hfirst⟩ := List.exists_mem_of_ne_nil left hne
  have hfalse : ∀ j : {j // j ∈ left}, False := by
    intro j
    induction j using hwf.induction with
    | _ j ih =>
      obtain ⟨k, hk, hr⟩ := h j.1 j.2
      exact ih ⟨k, hk⟩ (.single hr)
  exact hfalse ⟨first, hfirst⟩

/-- Each of the jobs that are left requires another one of them. -/
theorem Serving.needs_left {jobs done : List α} {left : List (Waiting α)}
    (h : Serving name requires jobs done [] left) :
    ∀ job ∈ left.map Waiting.job, ∃ other ∈ left.map Waiting.job,
      Needs name requires jobs job other := by
  intro job hjob
  obtain ⟨w, hw, rfl⟩ := List.mem_map.mp hjob
  obtain ⟨r, hr⟩ := List.exists_mem_of_ne_nil _ (h.missing w hw)
  obtain ⟨hreq, hreg, hdone⟩ := (h.tracks w hw r).mp hr
  obtain ⟨other, hother, rfl⟩ := List.mem_map.mp hreg
  have hplace : other ∈ done ∨ other ∈ left.map Waiting.job := by
    simpa using h.all.mem_iff.mpr hother
  have hleft : other ∈ left.map Waiting.job :=
    hplace.resolve_left fun hd => hdone (List.mem_map_of_mem hd)
  have hjob' : w.job ∈ jobs := h.all.mem_iff.mp (by simp [hjob])
  exact ⟨other, hleft, hjob', hother, hreq⟩

end Circles

/-- An order that is found holds every job once, and each after what it requires. -/
theorem order?_eq_some {jobs order : List α} (h : order? name requires jobs = some order) :
    (jobs.map name).Nodup ∧ order.Perm jobs ∧ InOrder name requires jobs order := by
  rw [order?] at h
  split at h
  · rename_i hlen
    obtain rfl := Option.some.inj h
    obtain ⟨left, hs⟩ := exists_serving name requires jobs
    have hall := hs.all.length_eq
    have hsub := firsts_sublist name [] jobs
    have hle := hsub.length_le
    simp only [List.length_append, List.length_nil, List.length_map] at hall hle
    have hleft : left = [] := List.length_eq_zero_iff.mp (by omega)
    have hfirsts : firsts name [] jobs = jobs := hsub.eq_of_length (by simp; omega)
    have hordered := hs.ordered
    have hperm := hs.all
    rw [hfirsts] at hordered hperm
    refine ⟨firsts_eq_self_iff.mp hfirsts, ?_, hordered⟩
    simpa [hleft] using hperm
  · cases h

/-- Jobs of different names that do not wait for each other in a circle have an order. -/
theorem exists_order {jobs : List α} (hn : (jobs.map name).Nodup)
    (hc : ∀ job, ¬ Relation.TransGen (Needs name requires jobs) job job) :
    ∃ order, order? name requires jobs = some order := by
  obtain ⟨left, hs⟩ := exists_serving name requires jobs
  rw [firsts_eq_self_iff.mpr hn] at hs
  have hleft : left.map Waiting.job = [] := by
    by_contra hne
    obtain ⟨job, hcircle⟩ := exists_circle hne hs.needs_left
    exact hc job hcircle
  have hall := hs.all
  rw [hleft, List.append_nil, List.append_nil] at hall
  exact ⟨served name requires jobs, by rw [order?, if_pos hall.length_eq]⟩

end Schedule

namespace Pass
variable {α : Type}

/-- One pass requires another; both are registered. -/
def Needs (passes : List (Pass α)) : Pass α → Pass α → Prop :=
  Schedule.Needs Pass.name Pass.requires passes

theorem order_eq_ok_iff {passes order : List (Pass α)} :
    Pass.order passes = .ok order ↔
      Schedule.order? Pass.name Pass.requires passes = some order := by
  unfold Pass.order
  cases Schedule.order? Pass.name Pass.requires passes with
  | none => simp
  | some found => simp

theorem exists_order_iff {passes : List (Pass α)} :
    (∃ order, Pass.order passes = .ok order) ↔
      (passes.map Pass.name).Nodup ∧ ∀ p, ¬ Relation.TransGen (Needs passes) p p := by
  simp only [order_eq_ok_iff]
  constructor
  · rintro ⟨order, h⟩
    obtain ⟨hn, hp, ho⟩ := Schedule.order?_eq_some h
    exact ⟨hn, ho.no_circle hn hp⟩
  · rintro ⟨hn, hc⟩
    exact Schedule.exists_order hn hc

theorem eq_circularPasses {passes : List (Pass α)} {e : Error} (h : Pass.order passes = .error e) :
    e = .circularPasses := by
  unfold Pass.order at h
  split at h
  · cases h
  · cases h
    rfl

/-- Without an order nothing runs, and the session stays as it is. -/
theorem runAll_of_error {passes : List (Pass α)} {e : Error} (h : Pass.order passes = .error e)
    (dump : Bool) (t : Tree) (s : Session α) :
    (runAll passes dump t).run s = .error e s := by
  rw [runAll, h]
  rfl

/-- Scheduling is a topological sort. There is an order if and only if no name is registered twice
and no pass requires itself, directly or through other registered passes. The order has every
registered pass once, each after all that it requires, directly or not. Otherwise no pass runs. -/
theorem order_topological (passes : List (Pass α)) :
    ((∃ order, Pass.order passes = .ok order) ↔
      (passes.map Pass.name).Nodup ∧ ∀ p, ¬ Relation.TransGen (Needs passes) p p) ∧
    (∀ order, Pass.order passes = .ok order →
      order.Perm passes ∧ ∀ before p after, order = before ++ p :: after →
        ∀ q, Relation.TransGen (Needs passes) p q → q ∈ before) ∧
    (∀ e, Pass.order passes = .error e → e = .circularPasses ∧
      ∀ dump t s, (runAll passes dump t).run s = .error .circularPasses s) := by
  refine ⟨exists_order_iff, ?_, ?_⟩
  · intro order h
    obtain ⟨hn, hp, ho⟩ := Schedule.order?_eq_some (order_eq_ok_iff.mp h)
    exact ⟨hp, fun before p after heq q hneeds => ho.mem_before hn hp hneeds heq⟩
  · intro e h
    obtain rfl := eq_circularPasses h
    exact ⟨rfl, runAll_of_error h⟩

end Pass
end CodeTree
