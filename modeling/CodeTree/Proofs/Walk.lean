import CodeTree.Proofs.Tree.Subtree
import CodeTree.Tree.Tag
import CodeTree.Walk

/-! The walks with open frames give what plain recursion on the tree gives. A walk from the root
down goes on in the answers of its function, so it needs a measure that these answers lower. -/
namespace CodeTree

section Upward
variable {m : Type → Type} [Monad m] [LawfulMonad m]

/-- Gives a finished tree to the innermost open frame. -/
def resumeUp (f : Tree → m Tree) (result : Tree) : List Frame → m Tree
  | [] => pure result
  | parent :: outer => postwalkFrom f (parent.push result) outer

theorem postwalkFrom_eq_of_works_le (f : Tree → m Tree) (n : Nat) (head : String)
    (done pending : List Tree) (outer : List Frame)
    (hn : Frame.works (⟨head, done, pending⟩ :: outer) ≤ n) :
    postwalkFrom f ⟨head, done, pending⟩ outer = (do
      let results ← pending.mapM (postwalkM f)
      let result ← f (.node head (done.reverse ++ results))
      resumeUp f result outer) := by
  induction n generalizing head done pending outer with
  | zero => simp only [Frame.works, Frame.work] at hn; omega
  | succ n ih =>
    cases pending with
    | nil =>
      cases outer with
      | nil => simp [postwalkFrom, resumeUp, Frame.close]
      | cons parent outer => simp [postwalkFrom, resumeUp, Frame.close]
    | cons child pending =>
      simp only [Frame.works, Frame.work, Tree.sizes] at hn
      cases child with
      | leaf x =>
        have hrest (y : Tree) := ih head (y :: done) pending outer (by
          simp only [Frame.works, Frame.work]
          have := Tree.size_pos (.leaf x)
          omega)
        simp only [postwalkFrom, hrest, List.mapM_cons, postwalkM, bind_assoc, pure_bind,
          List.reverse_cons, List.append_assoc, List.singleton_append]
      | node h cs =>
        simp only [Tree.size] at hn
        have hrest (y : Tree) := ih head (y :: done) pending outer (by
          simp only [Frame.works, Frame.work]
          omega)
        have hinner (frames : List Frame) := ih h [] cs frames
        have hchild : postwalkM f (.node h cs) = (do
            let results ← cs.mapM (postwalkM f)
            f (.node h results)) := by
          rw [postwalkM, hinner [] (by simp only [Frame.works, Frame.work]; omega)]
          simp [resumeUp]
        rw [postwalkFrom, hinner (⟨head, done, pending⟩ :: outer) (by
          simp only [Frame.works, Frame.work]
          omega), List.mapM_cons, hchild]
        simp only [resumeUp, Frame.push, hrest, bind_assoc, pure_bind, List.reverse_nil,
          List.nil_append, List.reverse_cons, List.append_assoc, List.singleton_append]

/-- From the leaves up, a node is rebuilt from its finished children before it is changed. -/
theorem postwalkM_node (f : Tree → m Tree) (h : String) (cs : List Tree) :
    postwalkM f (.node h cs) = (do f (.node h (← cs.mapM (postwalkM f)))) := by
  rw [postwalkM, postwalkFrom_eq_of_works_le f _ h [] cs [] (Nat.le_refl _)]
  simp [resumeUp]

end Upward

section
variable {f : Tree → Tree}

@[simp] theorem postwalk_node (f : Tree → Tree) (h : String) (cs : List Tree) :
    postwalk f (.node h cs) = f (.node h (cs.map (postwalk f))) := by
  unfold postwalk
  rw [postwalkM_node]
  have hmap : cs.mapM (postwalkM (m := Id) fun t => pure (f t)) =
      pure (cs.map fun t => (postwalkM (m := Id) (fun t => pure (f t)) t).run) :=
    List.mapM_pure
  rw [hmap]
  rfl

end

namespace Tree

mutual

/-- The size of a tree in which a node counts for the nodes that may be put in its place. -/
def weight : Tree → Nat
  | .leaf _ => 1
  | .node h cs => (if h = Tag.assign.head ∨ h = Tag.arrow.head then 3 else 1) + weights cs

def weights : List Tree → Nat
  | [] => 0
  | t :: ts => t.weight + weights ts

end

theorem weight_pos (t : Tree) : 0 < t.weight := by
  cases t with
  | leaf x => simp [weight]
  | node h cs =>
    rw [weight]
    split <;> omega

theorem weight_node_ge (h : String) (cs : List Tree) : 1 + weights cs ≤ (node h cs).weight := by
  rw [weight]
  split <;> omega

theorem weight_le_weights {t : Tree} {ts : List Tree} (h : t ∈ ts) : t.weight ≤ weights ts := by
  induction ts with
  | nil => cases h
  | cons a as ih =>
    rw [weights]
    rcases List.mem_cons.mp h with rfl | h
    · omega
    · have := ih h
      omega

theorem weights_le_sizes {ts : List Tree} (h : ∀ t ∈ ts, t.weight ≤ 3 * t.size) :
    weights ts ≤ 3 * sizes ts := by
  induction ts with
  | nil => simp [weights]
  | cons t ts ih =>
    have ht := h t (by simp)
    have hts := ih fun s hs => h s (by simp [hs])
    rw [weights, sizes]
    omega

theorem weight_le_size (t : Tree) : t.weight ≤ 3 * t.size := by
  induction t with
  | leaf x => simp [weight, size]
  | node h cs ih =>
    have hc := weights_le_sizes ih
    rw [weight, size]
    split <;> omega

end Tree

/-- The children of an answer weigh less than the tree it is the answer for. -/
def Tame (f : Tree → Tree) : Prop :=
  ∀ t h cs, f t = .node h cs → 1 + Tree.weights cs ≤ t.weight

section Downward
variable {f : Tree → Tree}

theorem Tame.weight_lt (hf : Tame f) {t c : Tree} {h : String} {cs : List Tree}
    (ht : f t = .node h cs) (hc : c ∈ cs) : c.weight < t.weight := by
  have hle := hf t h cs ht
  have hmem := Tree.weight_le_weights hc
  omega

/-- The walk from the root down by recursion. -/
def descend (f : Tree → Tree) (hf : Tame f) (t : Tree) : Tree :=
  match _ht : f t with
  | .leaf x => .leaf x
  | .node h cs => .node h (cs.attach.map fun c => descend f hf c.1)
termination_by t.weight
decreasing_by exact hf.weight_lt _ht c.2

theorem descend_of_leaf (hf : Tame f) {t : Tree} {x : Leaf} (ht : f t = .leaf x) :
    descend f hf t = .leaf x := by
  rw [descend]
  split <;> simp_all

theorem descend_of_node (hf : Tame f) {t : Tree} {h : String} {cs : List Tree}
    (ht : f t = .node h cs) : descend f hf t = .node h (cs.map (descend f hf)) := by
  rw [descend]
  split
  · simp_all
  · rename_i heq
    rw [ht] at heq
    cases heq
    rw [List.attach_map_val (f := descend f hf)]

/-- What open frames make of a finished tree. -/
def closeDown (f : Tree → Tree) (hf : Tame f) : Tree → List Frame → Tree
  | result, [] => result
  | result, ⟨head, done, pending⟩ :: outer =>
    closeDown f hf (.node head (done.reverse ++ result :: pending.map (descend f hf))) outer

/-- Bound for the steps that open frames still need on the way down. -/
def loads : List Frame → Nat
  | [] => 0
  | frame :: outer => 1 + 2 * Tree.weights frame.pending + loads outer

theorem prewalkFrom?_eq (hf : Tame f) (limit : Nat) (head : String) (done pending : List Tree)
    (outer : List Frame) (hl : loads (⟨head, done, pending⟩ :: outer) ≤ limit) :
    prewalkFrom? (m := Id) (fun t => pure (f t)) limit ⟨head, done, pending⟩ outer =
      some (closeDown f hf (.node head (done.reverse ++ pending.map (descend f hf))) outer) := by
  induction limit generalizing head done pending outer with
  | zero => simp only [loads] at hl; omega
  | succ limit ih =>
    cases pending with
    | nil =>
      cases outer with
      | nil =>
        rw [prewalkFrom?, List.map_nil, List.append_nil]
        rfl
      | cons parent outer =>
        have hparent := ih parent.head (Frame.close ⟨head, done, []⟩ :: parent.done)
          parent.pending outer (by simp only [loads] at hl ⊢; omega)
        rw [prewalkFrom?, Frame.push, hparent]
        simp [closeDown, Frame.close]
    | cons child pending =>
      simp only [loads, Tree.weights] at hl
      have hpos := child.weight_pos
      rw [prewalkFrom?]
      simp only [pure_bind]
      cases hc : f child with
      | leaf x =>
        have hrest := ih head (.leaf x :: done) pending outer (by simp only [loads]; omega)
        simp only [hrest, List.map_cons, descend_of_leaf hf hc, List.reverse_cons,
          List.append_assoc, List.singleton_append]
      | node h cs =>
        have hload := hf child h cs hc
        have hinner := ih h [] cs (⟨head, done, pending⟩ :: outer) (by simp only [loads]; omega)
        simp only [hinner, List.map_cons, descend_of_node hf hc, List.reverse_nil,
          List.nil_append, closeDown]

/-- The steps of a walk suffice for a tame function. -/
theorem prewalkM?_eq_some (hf : Tame f) {limit : Nat} {t : Tree} (hl : 2 * t.weight ≤ limit) :
    prewalkM? (m := Id) (fun t => pure (f t)) limit t = some (descend f hf t) := by
  rw [prewalkM?]
  simp only [pure_bind]
  cases ht : f t with
  | leaf x => rw [descend_of_leaf hf ht]; rfl
  | node h cs =>
    have hload := hf t h cs ht
    have hinner := prewalkFrom?_eq hf limit h [] cs [] (by simp only [loads]; omega)
    simp only [hinner, descend_of_node hf ht, closeDown, List.reverse_nil, List.nil_append]

theorem prewalk_eq_descend (hf : Tame f) (t : Tree) : prewalk f t = descend f hf t := by
  have hw := t.weight_le_size
  have hsome : prewalkM? (m := Id) (fun t => pure (f t)) (prewalkSteps t) t =
      some (descend f hf t) := by
    apply prewalkM?_eq_some hf
    rw [prewalkSteps]
    omega
  unfold prewalk prewalkM
  rw [hsome]
  rfl

theorem prewalk_of_leaf (hf : Tame f) {t : Tree} {x : Leaf} (ht : f t = .leaf x) :
    prewalk f t = .leaf x := by
  rw [prewalk_eq_descend hf, descend_of_leaf hf ht]

theorem prewalk_of_node (hf : Tame f) {t : Tree} {h : String} {cs : List Tree}
    (ht : f t = .node h cs) : prewalk f t = .node h (cs.map (prewalk f)) := by
  have hmap : prewalk f = descend f hf := funext (prewalk_eq_descend hf)
  rw [hmap, descend_of_node hf ht]

/-- What holds of a tree and its walk follows from what one step does to the tree. -/
theorem prewalk_induct {motive : Tree → Tree → Prop} (hf : Tame f)
    (leaf : ∀ t x, f t = .leaf x → motive t (.leaf x))
    (node : ∀ t h cs, f t = .node h cs → (∀ c ∈ cs, motive c (prewalk f c)) →
      motive t (.node h (cs.map (prewalk f))))
    (t : Tree) : motive t (prewalk f t) := by
  induction hw : t.weight using Nat.strongRecOn generalizing t with
  | ind n ih =>
    cases ht : f t with
    | leaf x =>
      rw [prewalk_of_leaf hf ht]
      exact leaf t x ht
    | node h cs =>
      rw [prewalk_of_node hf ht]
      exact node t h cs ht fun c hc => ih c.weight (hw ▸ hf.weight_lt ht hc) c rfl

/-- A walk changes nothing where its function changes nothing. -/
theorem prewalk_eq_self (hf : Tame f) {t : Tree} (ht : t.Everywhere fun s => f s = s) :
    prewalk f t = t := by
  induction t with
  | leaf x => exact prewalk_of_leaf hf ht.self
  | node h cs ih =>
    have hc : cs.map (prewalk f) = cs.map id :=
      List.map_congr_left fun c hc => ih c hc ((Tree.everywhere_node.mp ht).2 c hc)
    rw [prewalk_of_node hf ht.self, hc, List.map_id]

/-- A property of answers holds everywhere after the walk if what it rests on holds everywhere
before and is passed on to the children of each answer. -/
theorem everywhere_prewalk {p q : Tree → Prop} (hf : Tame f)
    (here : ∀ t, t.Everywhere p → q (prewalk f t))
    (step : ∀ t h cs, f t = .node h cs → t.Everywhere p → ∀ c ∈ cs, c.Everywhere p)
    {t : Tree} (ht : t.Everywhere p) : (prewalk f t).Everywhere q := by
  refine prewalk_induct (motive := fun t r => t.Everywhere p → r.Everywhere q) hf ?_ ?_ t ht
  · intro t x hx ht
    have hq := here t ht
    rw [prewalk_of_leaf hf hx] at hq
    exact Tree.everywhere_leaf.mpr hq
  · intro t h cs hn ih ht
    have hq := here t ht
    rw [prewalk_of_node hf hn] at hq
    refine Tree.everywhere_node.mpr ⟨hq, ?_⟩
    intro r hr
    obtain ⟨c, hc, rfl⟩ := List.mem_map.mp hr
    exact ih c hc (step t h cs hn ht c hc)

/-- A walk whose steps bring no new leaves brings no new leaves. -/
theorem allLeaves_prewalk {p : Leaf → Prop} (hf : Tame f)
    (step : ∀ t, t.AllLeaves p → (f t).AllLeaves p) {t : Tree} (ht : t.AllLeaves p) :
    (prewalk f t).AllLeaves p := by
  refine prewalk_induct (motive := fun t r => t.AllLeaves p → r.AllLeaves p) hf ?_ ?_ t ht
  · intro t x hx ht
    exact hx ▸ step t ht
  · intro t h cs hn ih ht
    have hs := step t ht
    rw [hn, Tree.allLeaves_node] at hs
    rw [Tree.allLeaves_node, List.forall_mem_map]
    exact fun c hc => ih c hc (hs c hc)

end Downward

section Noted
variable {σ : Type} {f : Tree → StateM σ Tree} {g : Tree → Tree}

theorem exists_run_eq (hfg : ∀ t s, ((f t).run s).1 = g t) (t : Tree) (s : σ) :
    ∃ s', (f t).run s = (g t, s') :=
  ⟨((f t).run s).2, Prod.ext (hfg t s) rfl⟩

theorem prewalkFrom?_run_fst (hfg : ∀ t s, ((f t).run s).1 = g t) (limit : Nat) (frame : Frame)
    (outer : List Frame) (s : σ) :
    ((prewalkFrom? f limit frame outer).run s).1 =
      prewalkFrom? (m := Id) (fun t => pure (g t)) limit frame outer := by
  induction limit generalizing frame outer s with
  | zero => rfl
  | succ limit ih =>
    obtain ⟨head, done, pending⟩ := frame
    cases pending with
    | nil =>
      cases outer with
      | nil => rfl
      | cons parent outer => exact ih _ outer s
    | cons child pending =>
      obtain ⟨s', hr⟩ := exists_run_eq hfg child s
      simp only [prewalkFrom?, StateT.run_bind, pure_bind, hr]
      cases g child with
      | leaf x => exact ih _ outer s'
      | node h cs => exact ih _ _ s'

/-- Notes taken on the way do not change where a walk leads. -/
theorem prewalkM_run_fst (hfg : ∀ t s, ((f t).run s).1 = g t) (t : Tree) (s : σ) :
    ((prewalkM f t).run s).1 = prewalk g t := by
  have hsteps : ((prewalkM? f (prewalkSteps t) t).run s).1 =
      prewalkM? (m := Id) (fun t => pure (g t)) (prewalkSteps t) t := by
    obtain ⟨s', hr⟩ := exists_run_eq hfg t s
    simp only [prewalkM?, StateT.run_bind, pure_bind, hr]
    cases g t with
    | leaf x => rfl
    | node h cs => exact prewalkFrom?_run_fst hfg _ _ _ s'
  unfold prewalk prewalkM
  rw [← hsteps]
  rfl

end Noted

section Leafwise
variable {m : Type → Type} [Monad m]

mutual

/-- The tree with every leaf replaced, from left to right. -/
def Tree.mapLeavesM (g : Leaf → m Leaf) : Tree → m Tree
  | .leaf x => return .leaf (← g x)
  | .node h cs => return .node h (← mapLeavesAllM g cs)

def mapLeavesAllM (g : Leaf → m Leaf) : List Tree → m (List Tree)
  | [] => return []
  | t :: ts => return (← t.mapLeavesM g) :: (← mapLeavesAllM g ts)

end

/-- What open frames make of a finished tree when only leaves change. -/
def closeLeaves (g : Leaf → m Leaf) : Tree → List Frame → m (Option Tree)
  | result, [] => return some result
  | result, ⟨head, done, pending⟩ :: outer => do
    let results ← mapLeavesAllM g pending
    closeLeaves g (.node head (done.reverse ++ result :: results)) outer

variable [LawfulMonad m] {f : Tree → m Tree} {g : Leaf → m Leaf}

theorem prewalkFrom?_leafwise (hleaf : ∀ x, f (.leaf x) = (return .leaf (← g x)))
    (hnode : ∀ h cs, f (.node h cs) = return .node h cs) (limit : Nat) (head : String)
    (done pending : List Tree) (outer : List Frame)
    (hl : Frame.works (⟨head, done, pending⟩ :: outer) ≤ limit) :
    prewalkFrom? f limit ⟨head, done, pending⟩ outer = (do
      let results ← mapLeavesAllM g pending
      closeLeaves g (.node head (done.reverse ++ results)) outer) := by
  induction limit generalizing head done pending outer with
  | zero => simp only [Frame.works, Frame.work] at hl; omega
  | succ limit ih =>
    cases pending with
    | nil =>
      cases outer with
      | nil => simp [prewalkFrom?, mapLeavesAllM, closeLeaves, Frame.close]
      | cons parent outer =>
        have hparent := ih parent.head (Frame.close ⟨head, done, []⟩ :: parent.done)
          parent.pending outer (by simp only [Frame.works, Frame.work] at hl ⊢; omega)
        rw [prewalkFrom?, Frame.push, hparent]
        simp [mapLeavesAllM, closeLeaves, Frame.close]
    | cons child pending =>
      simp only [Frame.works, Frame.work, Tree.sizes] at hl
      cases child with
      | leaf x =>
        have hpos := Tree.size_pos (.leaf x)
        have hrest (y : Leaf) := ih head (.leaf y :: done) pending outer (by
          simp only [Frame.works, Frame.work]
          omega)
        simp only [prewalkFrom?, hleaf, mapLeavesAllM, Tree.mapLeavesM, bind_assoc, pure_bind,
          hrest, List.reverse_cons, List.append_assoc, List.singleton_append]
      | node h cs =>
        simp only [Tree.size] at hl
        have hinner := ih h [] cs (⟨head, done, pending⟩ :: outer) (by
          simp only [Frame.works, Frame.work]
          omega)
        simp only [prewalkFrom?, hnode, mapLeavesAllM, Tree.mapLeavesM, bind_assoc, pure_bind,
          hinner, closeLeaves, List.reverse_nil, List.nil_append]

/-- A walk that changes leaves alone ends, and replaces them from left to right. -/
theorem prewalkM?_leafwise (hleaf : ∀ x, f (.leaf x) = (return .leaf (← g x)))
    (hnode : ∀ h cs, f (.node h cs) = return .node h cs) {limit : Nat} {t : Tree}
    (hl : 2 * t.size ≤ limit) :
    prewalkM? f limit t = (return some (← t.mapLeavesM g)) := by
  unfold prewalkM?
  cases t with
  | leaf x => simp [hleaf, Tree.mapLeavesM]
  | node h cs =>
    have hinner := prewalkFrom?_leafwise hleaf hnode limit h [] cs [] (by
      simp only [Frame.works, Frame.work, Tree.size] at hl ⊢
      omega)
    simp [hnode, Tree.mapLeavesM, hinner, closeLeaves]

theorem prewalkM_leafwise (hleaf : ∀ x, f (.leaf x) = (return .leaf (← g x)))
    (hnode : ∀ h cs, f (.node h cs) = return .node h cs) (t : Tree) :
    prewalkM f t = t.mapLeavesM g := by
  have hsteps : 2 * t.size ≤ prewalkSteps t := by
    rw [prewalkSteps]
    omega
  simp [prewalkM, prewalkM?_leafwise hleaf hnode hsteps]

theorem mapLeavesAllM_eq_pure {ts : List Tree} (h : ∀ t ∈ ts, t.mapLeavesM g = pure t) :
    mapLeavesAllM g ts = pure ts := by
  induction ts with
  | nil => rfl
  | cons t ts ih =>
    simp [mapLeavesAllM, h t List.mem_cons_self, ih fun s hs => h s (List.mem_cons_of_mem _ hs)]

/-- Where every leaf stays, the tree stays. -/
theorem mapLeavesM_eq_pure {t : Tree} (h : t.AllLeaves fun x => g x = pure x) :
    t.mapLeavesM g = pure t := by
  induction t with
  | leaf x => simp [Tree.mapLeavesM, Tree.allLeaves_leaf.mp h]
  | node head cs ih =>
    simp [Tree.mapLeavesM,
      mapLeavesAllM_eq_pure fun c hc => ih c hc (Tree.allLeaves_node.mp h c hc)]

end Leafwise
end CodeTree
