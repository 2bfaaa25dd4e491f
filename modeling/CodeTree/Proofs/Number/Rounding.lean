import CodeTree.Number.Decimal
import Mathlib

/-! Rounding a ratio to a binary number depends on the value of the ratio alone, and a magnitude is
rounded to itself. -/
namespace CodeTree.Number

theorem zpow_eq_div (b : ℚ) (e : ℤ) : b ^ e = b ^ e.toNat / b ^ (-e).toNat := by
  rcases le_total 0 e with h | h
  · have hn : (-e).toNat = 0 := by omega
    rw [hn, pow_zero, div_one, ← zpow_natCast, Int.toNat_of_nonneg h]
  · have hn : e.toNat = 0 := by omega
    rw [hn, pow_zero, one_div, ← zpow_natCast, ← zpow_neg, Int.toNat_of_nonneg (by omega), neg_neg]

/-- The comparison by which `ratioLog2` decides is the comparison with a power of two. -/
theorem two_zpow_le_div_iff {num den : ℕ} (hd : 0 < den) (k : ℤ) :
    (2 : ℚ) ^ k ≤ (num : ℚ) / den ↔
      den * Nat.pow 2 k.toNat ≤ num * Nat.pow 2 (-k).toNat := by
  have hden : (0 : ℚ) < den := by exact_mod_cast hd
  rw [zpow_eq_div, div_le_div_iff₀ (by positivity) hden, Nat.pow_eq, Nat.pow_eq]
  constructor
  · intro h
    have h' : (((2 ^ k.toNat * den : ℕ)) : ℚ) ≤ ((num * 2 ^ (-k).toNat : ℕ) : ℚ) := by
      push_cast; exact h
    rw [mul_comm den]
    exact_mod_cast h'
  · intro h
    rw [mul_comm den] at h
    exact_mod_cast h

theorem log_div_bounds {num den : ℕ} (hn : 0 < num) (hd : 0 < den) :
    (2 : ℚ) ^ ((num.log2 : ℤ) - den.log2 - 1) ≤ (num : ℚ) / den ∧
      (num : ℚ) / den < (2 : ℚ) ^ ((num.log2 : ℤ) - den.log2 + 1) := by
  have hden : (0 : ℚ) < den := by exact_mod_cast hd
  have hnl : (2 : ℚ) ^ num.log2 ≤ num := by exact_mod_cast Nat.log2_self_le hn.ne'
  have hnu : (num : ℚ) < (2 : ℚ) ^ (num.log2 + 1) := by exact_mod_cast Nat.lt_log2_self
  have hdl : (2 : ℚ) ^ den.log2 ≤ den := by exact_mod_cast Nat.log2_self_le hd.ne'
  have hdu : (den : ℚ) < (2 : ℚ) ^ (den.log2 + 1) := by exact_mod_cast Nat.lt_log2_self
  constructor
  · rw [le_div_iff₀ hden]
    calc (2 : ℚ) ^ ((num.log2 : ℤ) - den.log2 - 1) * den
        ≤ (2 : ℚ) ^ ((num.log2 : ℤ) - den.log2 - 1) * (2 : ℚ) ^ (den.log2 + 1) := by gcongr
      _ = (2 : ℚ) ^ num.log2 := by
        rw [← zpow_natCast, ← zpow_natCast, ← zpow_add₀ (by norm_num)]
        congr 1
        push_cast
        ring
      _ ≤ num := hnl
  · rw [div_lt_iff₀ hden]
    calc (num : ℚ) < (2 : ℚ) ^ (num.log2 + 1) := hnu
      _ = (2 : ℚ) ^ ((num.log2 : ℤ) - den.log2 + 1) * (2 : ℚ) ^ den.log2 := by
        rw [← zpow_natCast, ← zpow_natCast, ← zpow_add₀ (by norm_num)]
        congr 1
        push_cast
        ring
      _ ≤ (2 : ℚ) ^ ((num.log2 : ℤ) - den.log2 + 1) * den := by gcongr

theorem log_eq_of_bounds {q : ℚ} {k : ℤ} (hl : (2 : ℚ) ^ k ≤ q) (hu : q < (2 : ℚ) ^ (k + 1)) :
    Int.log 2 q = k := by
  have hq : 0 < q := lt_of_lt_of_le (by positivity) hl
  have ha := (Int.zpow_le_iff_le_log (by norm_num : 1 < (2 : ℕ)) hq).mp (by exact_mod_cast hl)
  have hb := (Int.lt_zpow_iff_log_lt (by norm_num : 1 < (2 : ℕ)) hq).mp (by exact_mod_cast hu)
  omega

theorem ratioLog2_eq_log {num den : ℕ} (hn : 0 < num) (hd : 0 < den) :
    ratioLog2 num den = Int.log 2 ((num : ℚ) / den) := by
  obtain ⟨hl, hu⟩ := log_div_bounds hn hd
  unfold ratioLog2
  dsimp only
  split_ifs with h
  · exact (log_eq_of_bounds ((two_zpow_le_div_iff hd _).mpr h) hu).symm
  · refine (log_eq_of_bounds hl ?_).symm
    rw [sub_add_cancel]
    exact not_le.mp fun hle => h ((two_zpow_le_div_iff hd _).mp hle)

theorem roundDivEven_mul_left {k a b : ℕ} (hk : 0 < k) :
    roundDivEven (k * a) (k * b) = roundDivEven a b := by
  unfold roundDivEven
  dsimp only
  rw [Nat.mul_div_mul_left a b hk, Nat.mul_mod_mul_left]
  have hl : 2 * (k * (a % b)) < k * b ↔ 2 * (a % b) < b := by
    rw [Nat.mul_left_comm]; exact Nat.mul_lt_mul_left hk
  have hg : k * b < 2 * (k * (a % b)) ↔ b < 2 * (a % b) := by
    rw [Nat.mul_left_comm]; exact Nat.mul_lt_mul_left hk
  simp only [hl, hg]

theorem roundDivEven_congr {a b c d : ℕ} (hb : 0 < b) (hd : 0 < d) (h : a * d = c * b) :
    roundDivEven a b = roundDivEven c d := by
  rw [← roundDivEven_mul_left (k := d) hd, ← roundDivEven_mul_left (k := b) (a := c) hb,
    Nat.mul_comm d a, h, Nat.mul_comm c b, Nat.mul_comm d b]

theorem roundDivEven_one (a : ℕ) : roundDivEven a 1 = a := by
  simp [roundDivEven, Nat.mod_one]

theorem roundDivEven_eq_zero {a b : ℕ} (h : 2 * a < b) : roundDivEven a b = 0 := by
  have hlt : a < b := by omega
  simp [roundDivEven, Nat.div_eq_of_lt hlt, Nat.mod_eq_of_lt hlt, h]

/-- Equal ratios have the same nearest code. -/
theorem nearestMagnitude_congr {num den num' den' : ℕ} (hn : 0 < num) (hd : 0 < den)
    (hn' : 0 < num') (hd' : 0 < den') (h : (num : ℚ) / den = (num' : ℚ) / den') :
    nearestMagnitude num den = nearestMagnitude num' den' := by
  have hc : num * den' = num' * den := by
    rw [div_eq_div_iff (by positivity) (by positivity)] at h
    exact_mod_cast h
  have hlog : ratioLog2 num den = ratioLog2 num' den' := by
    rw [ratioLog2_eq_log hn hd, ratioLog2_eq_log hn' hd', h]
  unfold nearestMagnitude
  dsimp only
  rw [hlog]
  congr 1
  have hpow : ∀ n, 0 < Nat.pow 2 n := fun n => Nat.pow_pos (by norm_num)
  refine roundDivEven_congr (Nat.mul_pos hd (hpow _)) (Nat.mul_pos hd' (hpow _)) ?_
  rw [Nat.mul_mul_mul_comm, hc, Nat.mul_mul_mul_comm num']

/-- A ratio far above the greatest finite number has a code past the bound. -/
theorem le_nearestMagnitude {num den k : ℕ} (hn : 0 < num) (hd : 0 < den) (hk : 1025 ≤ k)
    (h : den * Nat.pow 2 k ≤ num) : magnitudeBound ≤ nearestMagnitude num den := by
  have hq : (2 : ℚ) ^ (k : ℤ) ≤ (num : ℚ) / den := by
    rw [two_zpow_le_div_iff hd, Int.toNat_natCast]
    exact h.trans (Nat.le_mul_of_pos_right num (Nat.pow_pos (by norm_num)))
  have hlog : (k : ℤ) ≤ ratioLog2 num den := by
    rw [ratioLog2_eq_log hn hd]
    exact (Int.zpow_le_iff_le_log (by norm_num : 1 < (2 : ℕ)) (by positivity)).mp
      (by exact_mod_cast hq)
  have he : 2047 ≤ (max (-1074) (ratioLog2 num den - 52) + 1074).toNat := by omega
  calc magnitudeBound = 2047 * binade := rfl
    _ ≤ (max (-1074) (ratioLog2 num den - 52) + 1074).toNat * binade := Nat.mul_le_mul_right _ he
    _ ≤ nearestMagnitude num den := Nat.le_add_right _ _

/-- A ratio below half of the least positive number has the code of zero. -/
theorem nearestMagnitude_eq_zero {num den k : ℕ} (hn : 0 < num) (hd : 0 < den) (hk : 1075 ≤ k)
    (h : num * Nat.pow 2 k < den) : nearestMagnitude num den = 0 := by
  have hq : (num : ℚ) / den < (2 : ℚ) ^ (-k : ℤ) := by
    refine not_le.mp fun hle => ?_
    have hle' := (two_zpow_le_div_iff hd _).mp hle
    rw [neg_neg, Int.toNat_natCast] at hle'
    have hpos : den ≤ den * Nat.pow 2 (-(k : ℤ)).toNat :=
      Nat.le_mul_of_pos_right den (Nat.pow_pos (by norm_num))
    omega
  have hlog : ratioLog2 num den < -k := by
    rw [ratioLog2_eq_log hn hd]
    exact (Int.lt_zpow_iff_log_lt (by norm_num : 1 < (2 : ℕ)) (by positivity)).mp
      (by exact_mod_cast hq)
  have he : max (-1074) (ratioLog2 num den - 52) = -1074 := by omega
  have hpow : 2 * (num * Nat.pow 2 (- -1074 : ℤ).toNat) ≤ num * Nat.pow 2 k := by
    calc 2 * (num * Nat.pow 2 (- -1074 : ℤ).toNat) = num * 2 ^ ((- -1074 : ℤ).toNat + 1) := by
          rw [Nat.pow_eq, pow_succ]; ring
      _ ≤ num * Nat.pow 2 k := by
          rw [Nat.pow_eq]
          exact Nat.mul_le_mul_left num (Nat.pow_le_pow_right (by norm_num) (by omega))
  have hone : Nat.pow 2 (-1074 : ℤ).toNat = 1 := rfl
  unfold nearestMagnitude
  dsimp only
  rw [he, roundDivEven_eq_zero (by rw [hone, mul_one]; omega), add_zero]
  exact Nat.zero_mul binade

theorem binade_eq : binade = 2 ^ 52 := by norm_num [binade]

theorem significand_lt (m : ℕ) : significand m < 2 ^ 53 := by
  have hlt := Nat.mod_lt m (by norm_num [binade] : 0 < binade)
  unfold significand
  split_ifs <;> simp only [binade_eq] at * <;> omega

theorem ratioOf_div (m : ℕ) :
    ((ratioOf m).1 : ℚ) / (ratioOf m).2 = significand m * (2 : ℚ) ^ binaryExponent m := by
  rw [zpow_eq_div]
  simp only [ratioOf, Nat.pow_eq]
  push_cast
  ring

theorem ratioOf_pos {m : ℕ} (hm : 0 < m) : 0 < (ratioOf m).1 ∧ 0 < (ratioOf m).2 := by
  have hs : 0 < significand m := by
    unfold significand
    split_ifs <;> simp only [binade_eq] at * <;> omega
  have hpow : ∀ n, 0 < Nat.pow 2 n := fun n => Nat.pow_pos (by norm_num)
  exact ⟨Nat.mul_pos hs (hpow _), hpow _⟩

/-- The grid on which a magnitude is rounded is its own. -/
theorem exponent_ratioOf {m : ℕ} (hm : 0 < m) :
    max (-1074) (ratioLog2 (ratioOf m).1 (ratioOf m).2 - 52) = binaryExponent m := by
  obtain ⟨hn, hd⟩ := ratioOf_pos hm
  have hs := significand_lt m
  have hp : (0 : ℚ) < (2 : ℚ) ^ binaryExponent m := by positivity
  rw [ratioLog2_eq_log hn hd, ratioOf_div]
  by_cases h : m < binade
  · have he : binaryExponent m = -1074 := if_pos h
    have hsig : significand m = m := if_pos h
    have hu : (significand m : ℚ) * (2 : ℚ) ^ binaryExponent m < (2 : ℚ) ^ (-1022 : ℤ) := by
      have hm' : (m : ℚ) < (2 : ℚ) ^ (52 : ℤ) := by rw [binade_eq] at h; exact_mod_cast h
      have hz : (2 : ℚ) ^ (-1022 : ℤ) = (2 : ℚ) ^ (52 : ℤ) * (2 : ℚ) ^ binaryExponent m := by
        rw [he, ← zpow_add₀ (by norm_num)]; norm_num
      rw [hz, hsig]
      exact mul_lt_mul_of_pos_right hm' hp
    have hl : Int.log 2 ((significand m : ℚ) * (2 : ℚ) ^ binaryExponent m) < -1022 := by
      refine (Int.lt_zpow_iff_log_lt (by norm_num : 1 < (2 : ℕ)) ?_).mp (by exact_mod_cast hu)
      rw [hsig]; positivity
    omega
  · have he : binaryExponent m = (m / binade : ℕ) - 1075 := if_neg h
    have hsig : 2 ^ 52 ≤ significand m := by
      rw [significand, if_neg h, binade_eq]; exact Nat.le_add_right _ _
    have hlog : Int.log 2 ((significand m : ℚ) * (2 : ℚ) ^ binaryExponent m) =
        52 + binaryExponent m := by
      refine log_eq_of_bounds ?_ ?_
      · rw [zpow_add₀ (by norm_num)]
        exact mul_le_mul_of_nonneg_right (by exact_mod_cast hsig) hp.le
      · rw [show 52 + binaryExponent m + 1 = 53 + binaryExponent m by ring,
          zpow_add₀ (by norm_num)]
        exact mul_lt_mul_of_pos_right (by exact_mod_cast hs) hp
    have hdiv : 1 ≤ m / binade :=
      (Nat.one_le_div_iff (by norm_num [binade])).mpr (not_lt.mp h)
    rw [hlog, he]
    omega

/-- A magnitude is the code nearest to its own value. -/
theorem nearestMagnitude_ratioOf {m : ℕ} (hm : 0 < m) :
    nearestMagnitude (ratioOf m).1 (ratioOf m).2 = m := by
  have hpow : ∀ n, 0 < Nat.pow 2 n := fun n => Nat.pow_pos (by norm_num)
  have hround : roundDivEven ((ratioOf m).1 * Nat.pow 2 (-binaryExponent m).toNat)
      ((ratioOf m).2 * Nat.pow 2 (binaryExponent m).toNat) = significand m := by
    rw [← roundDivEven_one (significand m)]
    refine roundDivEven_congr (Nat.mul_pos (hpow _) (hpow _)) (by norm_num) ?_
    simp only [ratioOf]
    ring
  unfold nearestMagnitude
  dsimp only
  rw [exponent_ratioOf hm, hround]
  by_cases h : m < binade
  · rw [binaryExponent, if_pos h, significand, if_pos h]
    exact Nat.zero_add m
  · have hdiv : 1 ≤ m / binade :=
      (Nat.one_le_div_iff (by norm_num [binade])).mpr (not_lt.mp h)
    have hq : ((m / binade : ℕ) - 1075 + 1074 : ℤ).toNat = m / binade - 1 := by omega
    have hmod := Nat.div_add_mod m binade
    rw [binaryExponent, if_neg h, significand, if_neg h, hq, Nat.sub_one_mul]
    have hle : binade ≤ m / binade * binade := Nat.le_mul_of_pos_left _ hdiv
    rw [mul_comm] at hmod
    omega

end CodeTree.Number
