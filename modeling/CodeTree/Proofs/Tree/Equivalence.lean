import CodeTree.Proofs.Number.Rounding
import CodeTree.Proofs.Tree.Equality
import Mathlib.Data.List.Forall2

/-! Equality by value is an equivalence: numbers are the same if their exact values are, and all
other leaves if they are identical. -/
namespace CodeTree

namespace Number

/-- The exact value of a magnitude. -/
def magnitudeValue (m : ℕ) : ℚ :=
  (ratioOf m).1 / (ratioOf m).2

theorem ratioOf_snd_pos (m : ℕ) : 0 < (ratioOf m).2 :=
  Nat.pow_pos (by norm_num)

theorem magnitudeValue_zero : magnitudeValue 0 = 0 := by
  have hs : significand 0 = 0 := rfl
  rw [magnitudeValue, ratioOf_div, hs, Nat.cast_zero, zero_mul]

theorem magnitudeValue_pos {m : ℕ} (hm : 0 < m) : 0 < magnitudeValue m := by
  obtain ⟨hn, hd⟩ := ratioOf_pos hm
  have hn' : (0 : ℚ) < (ratioOf m).1 := by exact_mod_cast hn
  have hd' : (0 : ℚ) < (ratioOf m).2 := by exact_mod_cast hd
  exact div_pos hn' hd'

theorem magnitudeValue_nonneg (m : ℕ) : 0 ≤ magnitudeValue m := by
  unfold magnitudeValue
  positivity

/-- Different magnitudes have different values: each is the one nearest to its value. -/
theorem magnitudeValue_injective {m n : ℕ} (h : magnitudeValue m = magnitudeValue n) : m = n := by
  rcases Nat.eq_zero_or_pos m with rfl | hm
  · rcases Nat.eq_zero_or_pos n with rfl | hn
    · rfl
    · have hpos := magnitudeValue_pos hn
      rw [← h, magnitudeValue_zero] at hpos
      exact absurd hpos (lt_irrefl 0)
  · rcases Nat.eq_zero_or_pos n with rfl | hn
    · have hpos := magnitudeValue_pos hm
      rw [h, magnitudeValue_zero] at hpos
      exact absurd hpos (lt_irrefl 0)
    · obtain ⟨hn1, hd1⟩ := ratioOf_pos hm
      obtain ⟨hn2, hd2⟩ := ratioOf_pos hn
      have hnear := nearestMagnitude_congr hn1 hd1 hn2 hd2 h
      rwa [nearestMagnitude_ratioOf hm, nearestMagnitude_ratioOf hn] at hnear

namespace Binary64

/-- The exact value of a finite number. -/
def value? : Binary64 → Option ℚ
  | .finite negative m => some (if negative then -magnitudeValue m else magnitudeValue m)
  | _ => none

theorem equalsInt_iff {x : Binary64} {n : ℤ} : x.equalsInt n ↔ x.value? = some (n : ℚ) := by
  cases x with
  | nan => simp [equalsInt, value?]
  | infinite negative => simp [equalsInt, value?]
  | finite negative m =>
    have hd : ((ratioOf m).2 : ℚ) ≠ 0 := by
      have := ratioOf_snd_pos m
      positivity
    have hcast : (if negative then -((ratioOf m).1 : ℤ) else (ratioOf m).1) = n * (ratioOf m).2 ↔
        (if negative then -magnitudeValue m else magnitudeValue m) = (n : ℚ) := by
      rw [← @Int.cast_inj ℚ]
      cases negative with
      | false =>
        simp only [Bool.false_eq_true, if_false, magnitudeValue, div_eq_iff hd]
        push_cast
        rfl
      | true =>
        simp only [if_true, magnitudeValue, ← neg_div, div_eq_iff hd]
        push_cast
        rfl
    simp only [equalsInt, value?, beq_iff_eq, Option.some.injEq]
    exact hcast

/-- Finite numbers are equal if their values are; the two zeros have the same value. -/
theorem finite_equals_iff {s t : Bool} {m n : Fin magnitudeBound} :
    (finite s m).equals (.finite t n) ↔ (finite s m).value? = (finite t n).value? := by
  have hinj : m = n ↔ magnitudeValue m = magnitudeValue n :=
    ⟨fun h => by rw [h], fun h => Fin.ext (magnitudeValue_injective h)⟩
  -- Values of opposite signs agree only where both are zero.
  have hzero : -magnitudeValue m = magnitudeValue n ↔ m = n ∧ m.val = 0 := by
    constructor
    · intro h
      have hm := magnitudeValue_nonneg m
      have hn := magnitudeValue_nonneg n
      have hmn : magnitudeValue m = magnitudeValue n := by linarith
      have hm0 : magnitudeValue m = magnitudeValue 0 := by
        rw [magnitudeValue_zero]
        linarith
      exact ⟨hinj.mpr hmn, magnitudeValue_injective hm0⟩
    · rintro ⟨rfl, h⟩
      rw [h, magnitudeValue_zero, neg_zero]
  simp only [equals, value?, Bool.and_eq_true, Bool.or_eq_true, beq_iff_eq, Option.some.injEq]
  cases s with
  | false =>
    cases t with
    | false => simpa using hinj
    | true => simpa [eq_comm, neg_eq_iff_eq_neg] using hzero.symm
  | true =>
    cases t with
    | false => simpa using hzero.symm
    | true => simpa using hinj

end Binary64
end Number

namespace Leaf

/-- The exact value of a number; booleans count as zero and one. -/
def number? : Leaf → Option ℚ
  | .float x => x.value?
  | x => x.toInt?.map (↑)

/-- Floats are compared by value where they have one. -/
theorem same_float_iff {x y : Number.Binary64} :
    same (.float x) (.float y) ↔ x = y ∨ ∃ q, x.value? = some q ∧ y.value? = some q := by
  simp only [same, equals, Bool.or_eq_true, beq_iff_eq, Leaf.float.injEq]
  cases x with
  | nan => simp [Number.Binary64.equals, Number.Binary64.value?]
  | infinite s => cases y <;> simp [Number.Binary64.equals, Number.Binary64.value?]
  | finite s m =>
    cases y with
    | finite t n =>
      rw [Number.Binary64.finite_equals_iff]
      simp [Number.Binary64.value?, eq_comm]
    | _ => simp [Number.Binary64.equals, Number.Binary64.value?]

section
variable {a b : Leaf}

theorem number?_eq_some_iff (ha : ∀ x, a ≠ .float x) {q : ℚ} :
    a.number? = some q ↔ ∃ n : ℤ, a.toInt? = some n ∧ (n : ℚ) = q := by
  have hmap : a.number? = a.toInt?.map (↑) := by
    cases a with
    | float x => exact absurd rfl (ha x)
    | _ => rfl
  rw [hmap, Option.map_eq_some_iff]

theorem equals_float_left (x : Number.Binary64) (hb : ∀ y, b ≠ .float y) :
    equals (.float x) b ↔ ∃ q, x.value? = some q ∧ b.number? = some q := by
  have hany : equals (.float x) b = b.toInt?.any x.equalsInt := by
    cases b with
    | float y => exact absurd rfl (hb y)
    | _ => rfl
  rw [hany, Option.any_eq_true]
  simp only [Number.Binary64.equalsInt_iff, number?_eq_some_iff hb]
  constructor
  · rintro ⟨n, hn, hx⟩
    exact ⟨n, hx, n, hn, rfl⟩
  · rintro ⟨_, hx, n, hn, rfl⟩
    exact ⟨n, hn, hx⟩

theorem equals_float_right (ha : ∀ x, a ≠ .float x) (y : Number.Binary64) :
    equals a (.float y) = equals (.float y) a := by
  cases a with
  | float x => exact absurd rfl (ha x)
  | _ => rfl

theorem equals_of_not_float (ha : ∀ x, a ≠ .float x) (hb : ∀ y, b ≠ .float y) :
    a.equals b = match a.toInt?, b.toInt? with
      | some m, some n => m == n
      | none, none => a == b
      | _, _ => false := by
  cases a with
  | float x => exact absurd rfl (ha x)
  | _ =>
    cases b with
    | float y => exact absurd rfl (hb y)
    | _ => rfl

theorem same_of_not_float (ha : ∀ x, a ≠ .float x) (hb : ∀ y, b ≠ .float y) :
    a.same b ↔ a = b ∨ ∃ q, a.number? = some q ∧ b.number? = some q := by
  rw [same, Bool.or_eq_true, beq_iff_eq, equals_of_not_float ha hb]
  simp only [number?_eq_some_iff ha, number?_eq_some_iff hb]
  cases a.toInt? with
  | none => cases b.toInt? <;> simp
  | some m =>
    cases b.toInt? with
    | none => simp
    | some n => simp [eq_comm (a := m) (b := n)]

/-- Leaves are the same if they are identical or numbers of the same exact value. -/
theorem same_iff : a.same b ↔ a = b ∨ ∃ q, a.number? = some q ∧ b.number? = some q := by
  by_cases ha : ∃ x, a = .float x
  · obtain ⟨x, rfl⟩ := ha
    by_cases hb : ∃ y, b = .float y
    · obtain ⟨y, rfl⟩ := hb
      rw [same_float_iff, Leaf.float.injEq]
      rfl
    · rw [same, Bool.or_eq_true, beq_iff_eq, equals_float_left x (not_exists.mp hb)]
      rfl
  · by_cases hb : ∃ y, b = .float y
    · obtain ⟨y, rfl⟩ := hb
      have ha' := not_exists.mp ha
      rw [same, Bool.or_eq_true, beq_iff_eq, equals_float_right ha', equals_float_left y ha']
      simp only [and_comm]
      rfl
    · exact same_of_not_float (not_exists.mp ha) (not_exists.mp hb)

theorem same_symm (h : a.same b) : b.same a := by
  rw [same_iff] at h ⊢
  rcases h with rfl | ⟨q, ha, hb⟩
  · exact .inl rfl
  · exact .inr ⟨q, hb, ha⟩

/-- Numbers are compared exactly, so the same as the same number is the same. -/
theorem same_trans {c : Leaf} (h : a.same b) (h' : b.same c) : a.same c := by
  rw [same_iff] at h h' ⊢
  rcases h with rfl | ⟨q, ha, hb⟩
  · exact h'
  · rcases h' with rfl | ⟨r, hb', hc⟩
    · exact .inr ⟨q, ha, hb⟩
    · obtain rfl : q = r := Option.some.inj (hb.symm.trans hb')
      exact .inr ⟨q, ha, hc⟩

end

theorem equals_self {x : Leaf} (h : x ≠ .float .nan) : x.equals x := by
  cases x with
  | float y =>
    cases y with
    | nan => exact absurd rfl h
    | infinite negative => simp [equals, Number.Binary64.equals]
    | finite negative m => simp [equals, Number.Binary64.equals]
  | _ => simp [equals, toInt?]

end Leaf

namespace Tree

theorem same_leaf_iff {x : Leaf} {t : Tree} :
    (leaf x).same t ↔ ∃ y, t = .leaf y ∧ x.same y := by
  cases t with
  | leaf y => simp [same_leaf]
  | node k ds => simp [same, sameAll]

theorem same_node_iff {h : String} {cs : List Tree} {t : Tree} :
    (node h cs).same t ↔ ∃ ds, t = .node h ds ∧ List.Forall₂ (fun c d => c.same d) cs ds := by
  cases t with
  | leaf y => simp [same, sameAll]
  | node k ds =>
    have hall : ((cs.zip ds).all fun pair => pair.1.same pair.2) ↔
        ∀ {c d}, (c, d) ∈ cs.zip ds → c.same d := by simp [List.all_eq_true]
    rw [same_node, Bool.and_eq_true, Bool.and_eq_true, beq_iff_eq, beq_iff_eq, hall, and_assoc,
      ← List.forall₂_iff_zip]
    constructor
    · rintro ⟨rfl, hcs⟩
      exact ⟨ds, rfl, hcs⟩
    · rintro ⟨es, heq, hcs⟩
      obtain ⟨rfl, rfl⟩ := Tree.node.inj heq
      exact ⟨rfl, hcs⟩

/-- The relation turns around on lists if it does on each member of the first. -/
theorem forall₂_flip {r : Tree → Tree → Prop} {cs ds : List Tree} (h : List.Forall₂ r cs ds)
    (hr : ∀ c ∈ cs, ∀ d, r c d → r d c) : List.Forall₂ r ds cs := by
  induction h with
  | nil => exact .nil
  | cons hcd _ ih =>
    rw [List.forall_mem_cons] at hr
    exact .cons (hr.1 _ hcd) (ih hr.2)

theorem forall₂_trans {r : Tree → Tree → Prop} {cs ds es : List Tree} (h : List.Forall₂ r cs ds)
    (h' : List.Forall₂ r ds es) (hr : ∀ c ∈ cs, ∀ d e, r c d → r d e → r c e) :
    List.Forall₂ r cs es := by
  induction h generalizing es with
  | nil => exact h'
  | cons hcd _ ih =>
    cases h' with
    | cons hde h' =>
      rw [List.forall_mem_cons] at hr
      exact .cons (hr.1 _ _ hcd hde) (ih h' hr.2)

theorem same_symm {a b : Tree} (h : a.same b) : b.same a := by
  induction a generalizing b with
  | leaf x =>
    obtain ⟨y, rfl, hxy⟩ := same_leaf_iff.mp h
    exact same_leaf_iff.mpr ⟨x, rfl, Leaf.same_symm hxy⟩
  | node head cs ih =>
    obtain ⟨ds, rfl, hcs⟩ := same_node_iff.mp h
    exact same_node_iff.mpr ⟨cs, rfl, forall₂_flip hcs fun c hc d hcd => ih c hc hcd⟩

theorem same_trans {a b c : Tree} (h : a.same b) (h' : b.same c) : a.same c := by
  induction a generalizing b c with
  | leaf x =>
    obtain ⟨y, rfl, hxy⟩ := same_leaf_iff.mp h
    obtain ⟨z, rfl, hyz⟩ := same_leaf_iff.mp h'
    exact same_leaf_iff.mpr ⟨z, rfl, Leaf.same_trans hxy hyz⟩
  | node head cs ih =>
    obtain ⟨ds, rfl, hcs⟩ := same_node_iff.mp h
    obtain ⟨es, rfl, hds⟩ := same_node_iff.mp h'
    refine same_node_iff.mpr ⟨es, rfl, forall₂_trans hcs hds ?_⟩
    exact fun c hc d e hcd hde => ih c hc hcd hde

theorem same_of_equals {a b : Tree} (h : a.equals b) : a.same b := by
  cases a with
  | leaf x =>
    cases b with
    | leaf y =>
      rw [same_leaf, Leaf.same, Bool.or_eq_true]
      exact .inr h
    | node k ds => exact h
  | node head cs => exact h

/-- Every tree but a bare NaN equals itself. -/
theorem equals_self {t : Tree} (h : t ≠ .leaf (.float .nan)) : t.equals t := by
  cases t with
  | leaf x => exact Leaf.equals_self fun hx => h (congrArg leaf hx)
  | node head cs => exact same_self _

theorem sizes_eq_of_forall₂ {cs ds : List Tree} (h : List.Forall₂ (fun c d => c.same d) cs ds)
    (hc : ∀ c ∈ cs, ∀ d, c.same d → c.size = d.size) : sizes cs = sizes ds := by
  induction h with
  | nil => rfl
  | cons hcd _ ih =>
    rw [List.forall_mem_cons] at hc
    rw [sizes, sizes, hc.1 _ hcd, ih hc.2]

theorem size_eq_of_same {a b : Tree} (h : a.same b) : a.size = b.size := by
  induction a generalizing b with
  | leaf x =>
    obtain ⟨y, rfl, -⟩ := same_leaf_iff.mp h
    rfl
  | node head cs ih =>
    obtain ⟨ds, rfl, hcs⟩ := same_node_iff.mp h
    rw [size, size, sizes_eq_of_forall₂ hcs fun c hc d hcd => ih c hc hcd]

end Tree
end CodeTree
