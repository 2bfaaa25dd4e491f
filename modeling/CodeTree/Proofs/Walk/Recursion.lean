import CodeTree.Proofs.Walk

/-! The walks refine plain recursion, effects included: for a function with a state they give the
tree, the final state and the calls, in order, that the recursion gives. -/
namespace CodeTree
variable {σ : Type} {f : Tree → StateM σ Tree}

section Relations

mutual

/-- The recursion from the leaves up: the children are changed from left to right, the node is
rebuilt with its head, and then it is changed itself. The list holds the trees that the function is
called on, in order. -/
inductive Ascends (f : Tree → StateM σ Tree) : Tree → σ → List Tree → Tree → σ → Prop
  | leaf {x : Leaf} {s s' : σ} {r : Tree} (h : (f (.leaf x)).run s = (r, s')) :
      Ascends f (.leaf x) s [.leaf x] r s'
  | node {head : String} {cs rs calls : List Tree} {s s₁ s' : σ} {r : Tree}
      (hs : AscendsAll f cs s calls rs s₁) (h : (f (.node head rs)).run s₁ = (r, s')) :
      Ascends f (.node head cs) s (calls ++ [.node head rs]) r s'

inductive AscendsAll (f : Tree → StateM σ Tree) :
    List Tree → σ → List Tree → List Tree → σ → Prop
  | nil {s : σ} : AscendsAll f [] s [] [] s
  | cons {t r : Tree} {ts rs calls calls' : List Tree} {s s₁ s' : σ}
      (h : Ascends f t s calls r s₁) (hs : AscendsAll f ts s₁ calls' rs s') :
      AscendsAll f (t :: ts) s (calls ++ calls') (r :: rs) s'

end

mutual

/-- The recursion from the root down: the tree is changed, and if the answer is a node, the children
of the answer are changed from left to right and the answer is rebuilt with them. Where there is no
such relation, the recursion has no end. -/
inductive Descends (f : Tree → StateM σ Tree) : Tree → σ → List Tree → Tree → σ → Prop
  | leaf {t : Tree} {x : Leaf} {s s' : σ} (h : (f t).run s = (.leaf x, s')) :
      Descends f t s [t] (.leaf x) s'
  | node {t : Tree} {head : String} {cs rs calls : List Tree} {s s₁ s' : σ}
      (h : (f t).run s = (.node head cs, s₁)) (hs : DescendsAll f cs s₁ calls rs s') :
      Descends f t s (t :: calls) (.node head rs) s'

inductive DescendsAll (f : Tree → StateM σ Tree) :
    List Tree → σ → List Tree → List Tree → σ → Prop
  | nil {s : σ} : DescendsAll f [] s [] [] s
  | cons {t r : Tree} {ts rs calls calls' : List Tree} {s s₁ s' : σ}
      (h : Descends f t s calls r s₁) (hs : DescendsAll f ts s₁ calls' rs s') :
      DescendsAll f (t :: ts) s (calls ++ calls') (r :: rs) s'

end

end Relations

section Noting

/-- The function with a record of the trees that it is called on. -/
def noting (f : Tree → StateM σ Tree) (t : Tree) : StateM (σ × List Tree) Tree :=
  fun (s, calls) => (((f t).run s).1, ((f t).run s).2, calls ++ [t])

theorem noting_run {t r : Tree} {s s' : σ} (h : (f t).run s = (r, s')) (calls : List Tree) :
    (noting f t).run (s, calls) = (r, s', calls ++ [t]) := by
  have hr : ((f t).run s).1 = r := congrArg Prod.fst h
  have hs : ((f t).run s).2 = s' := congrArg Prod.snd h
  change (((f t).run s).1, ((f t).run s).2, calls ++ [t]) = _
  rw [hr, hs]

theorem of_noting_run {t r : Tree} {p p' : σ × List Tree} (h : (noting f t).run p = (r, p')) :
    (f t).run p.1 = (r, p'.1) ∧ p'.2 = p.2 ++ [t] := by
  obtain ⟨rfl, rfl⟩ := Prod.mk.inj h
  exact ⟨rfl, rfl⟩

mutual

/-- A record does not change the recursion, and holds its calls. -/
theorem Ascends.noting {t r : Tree} {s s' : σ} {calls : List Tree} (log : List Tree)
    (h : Ascends f t s calls r s') :
    Ascends (CodeTree.noting f) t (s, log) calls r (s', log ++ calls) := by
  match h with
  | .leaf h => exact .leaf (noting_run h log)
  | .node hs h =>
    rw [← List.append_assoc]
    exact .node (hs.noting log) (noting_run h _)

theorem AscendsAll.noting {ts rs : List Tree} {s s' : σ} {calls : List Tree} (log : List Tree)
    (h : AscendsAll f ts s calls rs s') :
    AscendsAll (CodeTree.noting f) ts (s, log) calls rs (s', log ++ calls) := by
  match h with
  | .nil =>
    rw [List.append_nil]
    exact .nil
  | .cons h hs =>
    rw [← List.append_assoc]
    exact .cons (h.noting log) (hs.noting _)

end

mutual

theorem Descends.noting {t r : Tree} {s s' : σ} {calls : List Tree} (log : List Tree)
    (h : Descends f t s calls r s') :
    Descends (CodeTree.noting f) t (s, log) calls r (s', log ++ calls) := by
  match h with
  | .leaf h => exact .leaf (noting_run h log)
  | .node h hs =>
    rw [List.append_cons]
    exact .node (noting_run h log) (hs.noting _)

theorem DescendsAll.noting {ts rs : List Tree} {s s' : σ} {calls : List Tree} (log : List Tree)
    (h : DescendsAll f ts s calls rs s') :
    DescendsAll (CodeTree.noting f) ts (s, log) calls rs (s', log ++ calls) := by
  match h with
  | .nil =>
    rw [List.append_nil]
    exact .nil
  | .cons h hs =>
    rw [← List.append_assoc]
    exact .cons (h.noting log) (hs.noting _)

end

mutual

theorem Descends.of_noting {t r : Tree} {p p' : σ × List Tree} {calls : List Tree}
    (h : Descends (CodeTree.noting f) t p calls r p') :
    Descends f t p.1 calls r p'.1 ∧ p'.2 = p.2 ++ calls := by
  match h with
  | .leaf h =>
    obtain ⟨hrun, hlog⟩ := of_noting_run h
    exact ⟨.leaf hrun, hlog⟩
  | .node h hs =>
    obtain ⟨hrun, hlog⟩ := of_noting_run h
    obtain ⟨hrest, hlog'⟩ := hs.of_noting
    rw [hlog, List.append_assoc, List.singleton_append] at hlog'
    exact ⟨.node hrun hrest, hlog'⟩

theorem DescendsAll.of_noting {ts rs : List Tree} {p p' : σ × List Tree} {calls : List Tree}
    (h : DescendsAll (CodeTree.noting f) ts p calls rs p') :
    DescendsAll f ts p.1 calls rs p'.1 ∧ p'.2 = p.2 ++ calls := by
  match h with
  | .nil => exact ⟨.nil, (List.append_nil _).symm⟩
  | .cons h hs =>
    obtain ⟨hfirst, hlog⟩ := h.of_noting
    obtain ⟨hrest, hlog'⟩ := hs.of_noting
    rw [hlog, List.append_assoc] at hlog'
    exact ⟨.cons hfirst hrest, hlog'⟩

end

end Noting

section Upward

theorem mapM_ascends {cs : List Tree}
    (ih : ∀ c ∈ cs, ∀ s, ∃ calls, Ascends f c s calls ((postwalkM f c).run s).1
      ((postwalkM f c).run s).2) (s : σ) :
    ∃ calls, AscendsAll f cs s calls ((cs.mapM (postwalkM f)).run s).1
      ((cs.mapM (postwalkM f)).run s).2 := by
  induction cs generalizing s with
  | nil => exact ⟨[], .nil⟩
  | cons c cs ihs =>
    obtain ⟨calls, hfirst⟩ := ih c List.mem_cons_self s
    obtain ⟨calls', hrest⟩ := ihs (fun d hd => ih d (List.mem_cons_of_mem _ hd))
      ((postwalkM f c).run s).2
    rw [List.mapM_cons]
    exact ⟨calls ++ calls', .cons hfirst hrest⟩

/-- The walk from the leaves up does what the recursion does. -/
theorem postwalkM_ascends (f : Tree → StateM σ Tree) (t : Tree) (s : σ) :
    ∃ calls, Ascends f t s calls ((postwalkM f t).run s).1 ((postwalkM f t).run s).2 := by
  induction t generalizing s with
  | leaf x => exact ⟨[.leaf x], .leaf rfl⟩
  | node head cs ih =>
    obtain ⟨calls, hall⟩ := mapM_ascends ih s
    rw [postwalkM_node]
    exact ⟨calls ++ [_], .node hall rfl⟩

mutual

/-- From one tree and one state the recursion leads to one result. -/
theorem Ascends.unique {t r q : Tree} {s s' s'' : σ} {calls calls' : List Tree}
    (h : Ascends f t s calls r s') (h' : Ascends f t s calls' q s'') :
    calls = calls' ∧ r = q ∧ s' = s'' := by
  match h with
  | .leaf h =>
    cases h' with
    | leaf h' =>
      obtain ⟨rfl, rfl⟩ := Prod.mk.inj (h.symm.trans h')
      exact ⟨rfl, rfl, rfl⟩
  | .node hs h =>
    cases h' with
    | node hs' h' =>
      obtain ⟨rfl, rfl, rfl⟩ := hs.unique hs'
      obtain ⟨rfl, rfl⟩ := Prod.mk.inj (h.symm.trans h')
      exact ⟨rfl, rfl, rfl⟩

theorem AscendsAll.unique {ts rs qs : List Tree} {s s' s'' : σ} {calls calls' : List Tree}
    (h : AscendsAll f ts s calls rs s') (h' : AscendsAll f ts s calls' qs s'') :
    calls = calls' ∧ rs = qs ∧ s' = s'' := by
  match h with
  | .nil =>
    cases h'
    exact ⟨rfl, rfl, rfl⟩
  | .cons h hs =>
    cases h' with
    | cons h' hs' =>
      obtain ⟨rfl, rfl, rfl⟩ := h.unique h'
      obtain ⟨rfl, rfl, rfl⟩ := hs.unique hs'
      exact ⟨rfl, rfl, rfl⟩

end

theorem postwalkM_run_eq_iff {t r : Tree} {s s' : σ} :
    (postwalkM f t).run s = (r, s') ↔ ∃ calls, Ascends f t s calls r s' := by
  obtain ⟨calls, hwalk⟩ := postwalkM_ascends f t s
  constructor
  · intro h
    rw [h] at hwalk
    exact ⟨calls, hwalk⟩
  · rintro ⟨calls', h⟩
    obtain ⟨-, hr, hs⟩ := hwalk.unique h
    exact Prod.ext hr hs

theorem postwalkM_noting_run_eq_iff {t r : Tree} {s s' : σ} {calls : List Tree} :
    (postwalkM (noting f) t).run (s, []) = (r, s', calls) ↔ Ascends f t s calls r s' := by
  obtain ⟨calls', hwalk⟩ := postwalkM_ascends f t s
  have hnoted := postwalkM_run_eq_iff.mpr ⟨calls', hwalk.noting []⟩
  constructor
  · intro h
    rw [hnoted] at h
    obtain ⟨rfl, rest⟩ := Prod.mk.inj h
    obtain ⟨rfl, rfl⟩ := Prod.mk.inj rest
    exact hwalk
  · intro h
    exact postwalkM_run_eq_iff.mpr ⟨calls, h.noting []⟩

end Upward

section Downward

mutual

-- The open frames around the tree do not matter, so both statements hold for any of them.
/-- Where the recursion ends, the loop takes some steps to finish the next child. -/
theorem Descends.steps {t r : Tree} {s s' : σ} {calls : List Tree}
    (h : Descends f t s calls r s') :
    ∃ n, ∀ limit head done pending outer,
      (prewalkFrom? f (n + limit) ⟨head, done, t :: pending⟩ outer).run s =
        (prewalkFrom? f limit ⟨head, r :: done, pending⟩ outer).run s' := by
  match h with
  | .leaf h =>
    refine ⟨1, fun limit head done pending outer => ?_⟩
    rw [Nat.add_comm, prewalkFrom?, StateT.run_bind, h]
    rfl
  | .node h hs =>
    obtain ⟨n, hn⟩ := hs.steps
    refine ⟨1 + n + 1, fun limit head done pending outer => ?_⟩
    have hlimit : 1 + n + 1 + limit = (n + (limit + 1)) + 1 := by omega
    rw [hlimit, prewalkFrom?, StateT.run_bind, h]
    change (prewalkFrom? f (n + (limit + 1)) _ _).run _ = _
    rw [hn, prewalkFrom?]
    simp [Frame.push, Frame.close]

theorem DescendsAll.steps {ts rs : List Tree} {s s' : σ} {calls : List Tree}
    (h : DescendsAll f ts s calls rs s') :
    ∃ n, ∀ limit head done outer,
      (prewalkFrom? f (n + limit) ⟨head, done, ts⟩ outer).run s =
        (prewalkFrom? f limit ⟨head, rs.reverse ++ done, []⟩ outer).run s' := by
  match h with
  | .nil => exact ⟨0, fun limit head done outer => by rw [Nat.zero_add]; rfl⟩
  | .cons h hs =>
    obtain ⟨n, hn⟩ := h.steps
    obtain ⟨k, hk⟩ := hs.steps
    refine ⟨n + k, fun limit head done outer => ?_⟩
    rw [Nat.add_assoc, hn, hk, List.reverse_cons, List.append_assoc, List.singleton_append]

end

/-- Where the loop ends, the recursion ends for the children that are pending, and the loop goes on
from its result. -/
theorem descendsAll_of_prewalkFrom? {limit : Nat} {head : String} {done pending : List Tree}
    {outer : List Frame} {s s' : σ} {r : Tree}
    (h : (prewalkFrom? f limit ⟨head, done, pending⟩ outer).run s = (some r, s')) :
    ∃ rest ≤ limit, ∃ calls rs s₁, DescendsAll f pending s calls rs s₁ ∧
      (prewalkFrom? f rest ⟨head, rs.reverse ++ done, []⟩ outer).run s₁ = (some r, s') := by
  induction limit using Nat.strongRecOn generalizing head done pending outer s with
  | ind limit ih =>
  cases pending with
  | nil => exact ⟨limit, Nat.le_refl _, [], [], s, .nil, h⟩
  | cons child pending =>
    cases limit with
    | zero => cases h
    | succ limit =>
      rw [prewalkFrom?, StateT.run_bind] at h
      cases hc : (f child).run s with
      | mk answer s₁ =>
      rw [hc] at h
      cases answer with
      | leaf x =>
        change (prewalkFrom? f limit ⟨head, .leaf x :: done, pending⟩ outer).run s₁ = _ at h
        obtain ⟨rest, hle, calls, rs, s₂, hall, hend⟩ := ih limit (Nat.lt_succ_self _) h
        refine ⟨rest, by omega, [child] ++ calls, .leaf x :: rs, s₂, .cons (.leaf hc) hall, ?_⟩
        rwa [List.reverse_cons, List.append_assoc, List.singleton_append]
      | node label cs =>
        change (prewalkFrom? f limit ⟨label, [], cs⟩ (⟨head, done, pending⟩ :: outer)).run s₁ = _
          at h
        obtain ⟨rest, hle, calls, rs, s₂, hchild, hclose⟩ := ih limit (Nat.lt_succ_self _) h
        -- The frame of the answer is closed in one more step, and its parent goes on.
        cases rest with
        | zero => cases hclose
        | succ rest =>
          rw [prewalkFrom?, List.append_nil] at hclose
          change (prewalkFrom? f rest ⟨head, Frame.close ⟨label, rs.reverse, []⟩ :: done, pending⟩
            outer).run s₂ = _ at hclose
          obtain ⟨last, hlast, calls', rs', s₃, hall, hend⟩ := ih rest (by omega) hclose
          have hr : Frame.close ⟨label, rs.reverse, []⟩ = .node label rs := by
            simp [Frame.close]
          rw [hr] at hend
          refine ⟨last, by omega, (child :: calls) ++ calls', .node label rs :: rs', s₃,
            .cons (.node hc hchild) hall, ?_⟩
          rwa [List.reverse_cons, List.append_assoc, List.singleton_append]

/-- The walk from the root down ends as the recursion does: with every limit from some number of
steps on. -/
theorem prewalkM?_run_eq_iff {t r : Tree} {s s' : σ} :
    (∃ limit, ∀ steps, limit ≤ steps → (prewalkM? f steps t).run s = (some r, s')) ↔
      ∃ calls, Descends f t s calls r s' := by
  constructor
  · rintro ⟨limit, h⟩
    have hrun := h limit (Nat.le_refl _)
    rw [prewalkM?, StateT.run_bind] at hrun
    cases hc : (f t).run s with
    | mk answer s₁ =>
    rw [hc] at hrun
    cases answer with
    | leaf x =>
      cases hrun
      exact ⟨[t], .leaf hc⟩
    | node head cs =>
      change (prewalkFrom? f limit ⟨head, [], cs⟩ []).run s₁ = _ at hrun
      obtain ⟨rest, -, calls, rs, s₂, hall, hend⟩ := descendsAll_of_prewalkFrom? hrun
      cases rest with
      | zero => cases hend
      | succ rest =>
        rw [prewalkFrom?, List.append_nil] at hend
        cases hend
        rw [Frame.close, List.reverse_reverse]
        exact ⟨t :: calls, .node hc hall⟩
  · rintro ⟨calls, h⟩
    cases h with
    | leaf h =>
      refine ⟨0, fun steps _ => ?_⟩
      rw [prewalkM?, StateT.run_bind, h]
      rfl
    | @node _ head cs rs calls _ s₁ _ h hs =>
      obtain ⟨n, hn⟩ := hs.steps
      refine ⟨n + 1, fun steps hsteps => ?_⟩
      obtain ⟨limit, rfl⟩ : ∃ limit, steps = n + (limit + 1) := ⟨steps - n - 1, by omega⟩
      rw [prewalkM?, StateT.run_bind, h]
      change (prewalkFrom? f (n + (limit + 1)) ⟨head, [], cs⟩ []).run s₁ = _
      rw [hn, prewalkFrom?, List.append_nil, Frame.close, List.reverse_reverse]
      rfl

theorem prewalkM?_noting_run_eq_iff {t r : Tree} {s s' : σ} {calls : List Tree} :
    (∃ limit, ∀ steps, limit ≤ steps →
      (prewalkM? (noting f) steps t).run (s, []) = (some r, s', calls)) ↔
      Descends f t s calls r s' := by
  rw [prewalkM?_run_eq_iff]
  constructor
  · rintro ⟨calls', h⟩
    obtain ⟨hf, hlog⟩ := h.of_noting
    obtain rfl : calls = calls' := hlog
    exact hf
  · intro h
    exact ⟨calls, h.noting []⟩

end Downward

/-- The walks refine plain recursion for every function with a state: the walk from the leaves up
always, and the walk from the root down exactly where the recursion ends. Result, final state and
the sequence of calls are those of the recursion. -/
theorem walks_refine_recursion (f : Tree → StateM σ Tree) (t : Tree) (s : σ) :
    (∀ r s', (postwalkM f t).run s = (r, s') ↔ ∃ calls, Ascends f t s calls r s') ∧
    (∀ r s' calls, (postwalkM (noting f) t).run (s, []) = (r, s', calls) ↔
      Ascends f t s calls r s') ∧
    (∀ r s', (∃ limit, ∀ steps, limit ≤ steps → (prewalkM? f steps t).run s = (some r, s')) ↔
      ∃ calls, Descends f t s calls r s') ∧
    (∀ r s' calls, (∃ limit, ∀ steps, limit ≤ steps →
      (prewalkM? (noting f) steps t).run (s, []) = (some r, s', calls)) ↔
      Descends f t s calls r s') := by
  refine ⟨?_, ?_, ?_, ?_⟩
  · exact fun r s' => postwalkM_run_eq_iff
  · exact fun r s' calls => postwalkM_noting_run_eq_iff
  · exact fun r s' => prewalkM?_run_eq_iff
  · exact fun r s' calls => prewalkM?_noting_run_eq_iff

end CodeTree
