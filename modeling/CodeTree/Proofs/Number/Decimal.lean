import CodeTree.Proofs.Number.Rounding

/-! A decimal denotes a binary number by its value alone, and the shortest decimal of a magnitude
denotes that magnitude. -/
namespace CodeTree.Number

namespace Decimal

/-- The exact value of a decimal. -/
def value (d : Decimal) : ℚ :=
  d.coefficient * (10 : ℚ) ^ d.exponent

def numerator (d : Decimal) : ℕ :=
  d.coefficient * Nat.pow 10 d.exponent.toNat

def denominator (d : Decimal) : ℕ :=
  Nat.pow 10 (-d.exponent).toNat

theorem denominator_pos (d : Decimal) : 0 < d.denominator :=
  Nat.pow_pos (by norm_num)

theorem numerator_pos {d : Decimal} (h : d.coefficient ≠ 0) : 0 < d.numerator :=
  Nat.mul_pos (Nat.pos_of_ne_zero h) (Nat.pow_pos (by norm_num))

theorem numerator_div_denominator (d : Decimal) :
    (d.numerator : ℚ) / d.denominator = d.value := by
  unfold numerator denominator value
  rw [zpow_eq_div, Nat.pow_eq, Nat.pow_eq]
  push_cast
  ring

end Decimal

theorem ofRatio_infinite {num den : ℕ} (hn : 0 < num) (negative : Bool)
    (h : magnitudeBound ≤ nearestMagnitude num den) :
    Binary64.ofRatio negative num den = .infinite negative := by
  unfold Binary64.ofRatio
  rw [if_neg hn.ne', dif_neg (not_lt.mpr h)]

theorem ofRatio_finite {num den m : ℕ} (hn : 0 < num) (negative : Bool) (hm : m < magnitudeBound)
    (h : nearestMagnitude num den = m) :
    Binary64.ofRatio negative num den = .finite negative ⟨m, hm⟩ := by
  subst h
  unfold Binary64.ofRatio
  rw [if_neg hn.ne', dif_pos hm]

theorem two_pow_three_mul_le (n : ℕ) : 2 ^ (3 * n) ≤ Nat.pow 10 n := by
  rw [pow_mul, Nat.pow_eq]
  exact Nat.pow_le_pow_left (by norm_num) n

namespace Decimal

/-- The decisions made without computing a power agree with rounding the ratio. -/
theorem toBinary64_eq_ofRatio (negative : Bool) (d : Decimal) :
    d.toBinary64 negative = .ofRatio negative d.numerator d.denominator := by
  unfold toBinary64
  split_ifs with hz hbig hsmall
  · have hn : d.numerator = 0 := by rw [numerator, hz, zero_mul]
    rw [hn]
    rfl
  · have hn := numerator_pos hz
    refine (ofRatio_infinite hn negative ?_).symm
    have hden : d.denominator = 1 := by
      rw [denominator, show (-d.exponent).toNat = 0 by omega]
    refine le_nearestMagnitude (k := 3 * d.exponent.toNat) hn d.denominator_pos (by omega) ?_
    rw [hden, one_mul, Nat.pow_eq]
    calc 2 ^ (3 * d.exponent.toNat) ≤ Nat.pow 10 d.exponent.toNat := two_pow_three_mul_le _
      _ ≤ d.numerator := Nat.le_mul_of_pos_left _ (Nat.pos_of_ne_zero hz)
  · have hn := numerator_pos hz
    have hexp : d.exponent.toNat = 0 := by omega
    have hnum : d.numerator = d.coefficient := by
      rw [numerator, hexp]; exact Nat.mul_one _
    let n := (-d.exponent).toNat
    have hn3 : d.coefficient.log2 + 1 ≤ 3 * n := by omega
    refine (ofRatio_finite hn negative _ (nearestMagnitude_eq_zero
      (k := 3 * n - (d.coefficient.log2 + 1)) hn d.denominator_pos (by omega) ?_)).symm
    calc d.numerator * Nat.pow 2 (3 * n - (d.coefficient.log2 + 1))
        < 2 ^ (d.coefficient.log2 + 1) * 2 ^ (3 * n - (d.coefficient.log2 + 1)) := by
          rw [hnum]
          exact Nat.mul_lt_mul_of_pos_right Nat.lt_log2_self (Nat.pow_pos (by norm_num))
      _ = 2 ^ (3 * n) := by rw [← pow_add]; congr 1; omega
      _ ≤ d.denominator := two_pow_three_mul_le n
  · rfl

/-- Decimals of equal value denote the same binary number. -/
theorem toBinary64_congr {d d' : Decimal} (negative : Bool) (h : d.value = d'.value) :
    d.toBinary64 negative = d'.toBinary64 negative := by
  have hten : ∀ e : ℤ, (10 : ℚ) ^ e ≠ 0 := fun e => zpow_ne_zero e (by norm_num)
  by_cases hz : d.coefficient = 0
  · have hz' : d'.coefficient = 0 := by
      have hv : d'.value = 0 := by rw [← h, value, hz, Nat.cast_zero, zero_mul]
      simpa [value, hten] using hv
    unfold toBinary64
    rw [if_pos hz, if_pos hz']
  · have hz' : d'.coefficient ≠ 0 := by
      intro hz'
      have hv : d.value = 0 := by rw [h, value, hz', Nat.cast_zero, zero_mul]
      exact hz (by simpa [value, hten] using hv)
    rw [← numerator_div_denominator, ← numerator_div_denominator] at h
    have hm := nearestMagnitude_congr (numerator_pos hz) d.denominator_pos (numerator_pos hz')
      d'.denominator_pos h
    rw [toBinary64_eq_ofRatio, toBinary64_eq_ofRatio]
    unfold Binary64.ofRatio
    rw [if_neg (numerator_pos hz).ne', if_neg (numerator_pos hz').ne']
    simp only [hm]

/-- A decimal that denotes a magnitude denotes it under either sign. -/
theorem toBinary64_finite {d : Decimal} {m : Fin magnitudeBound} (negative : Bool)
    (h : d.toBinary64 false = .finite false m) : d.toBinary64 negative = .finite negative m := by
  unfold toBinary64 at h ⊢
  split_ifs at h ⊢ with hz hbig hsmall
  · injection h with _ hm
    subst hm
    rfl
  · injection h with _ hm
    subst hm
    rfl
  · unfold Binary64.ofRatio at h ⊢
    split_ifs at h ⊢
    all_goals
      injection h with _ hm
      subst hm
      rfl

end Decimal

theorem exactDecimal_value (m : ℕ) :
    (exactDecimal m).value = significand m * (2 : ℚ) ^ binaryExponent m := by
  unfold exactDecimal Decimal.value
  simp only [Nat.pow_eq]
  push_cast
  rcases le_total 0 (binaryExponent m) with h | h
  · rw [min_eq_right h, show (-binaryExponent m).toNat = 0 by omega, zpow_zero, pow_zero,
      zpow_eq_div 2, show (-binaryExponent m).toNat = 0 by omega, pow_zero]
    ring
  · rw [min_eq_left h, show (binaryExponent m).toNat = 0 by omega, pow_zero, zpow_eq_div 10,
      zpow_eq_div 2, show (binaryExponent m).toNat = 0 by omega, pow_zero, pow_zero,
      show (10 : ℚ) = 2 * 5 by norm_num, mul_pow]
    field_simp

theorem exactDecimal_toBinary64 {m : Fin magnitudeBound} (hm : 0 < m.val) :
    (exactDecimal m).toBinary64 false = .finite false m := by
  obtain ⟨hn, hd⟩ := ratioOf_pos hm
  have hv : ((exactDecimal m).numerator : ℚ) / (exactDecimal m).denominator =
      ((ratioOf m).1 : ℚ) / (ratioOf m).2 := by
    rw [Decimal.numerator_div_denominator, exactDecimal_value, ratioOf_div]
  have hc : (exactDecimal m).coefficient ≠ 0 := by
    intro hz
    rw [Decimal.numerator_div_denominator, Decimal.value, hz, Nat.cast_zero, zero_mul] at hv
    have hpos : (0 : ℚ) < ((ratioOf m).1 : ℚ) / (ratioOf m).2 := by positivity
    exact hpos.ne hv
  have hnum := Decimal.numerator_pos hc
  rw [Decimal.toBinary64_eq_ofRatio]
  exact ofRatio_finite hnum false m.isLt
    ((nearestMagnitude_congr hnum (Decimal.denominator_pos _) hn hd hv).trans
      (nearestMagnitude_ratioOf hm))

theorem decimalAt?_toBinary64 {m : Fin magnitudeBound} {digits : ℕ} {d : Decimal}
    (h : decimalAt? m digits = some d) : d.toBinary64 false = .finite false m := by
  unfold decimalAt? at h
  dsimp only at h
  have hd := List.find?_some h
  exact eq_of_beq hd

/-- The shortest decimal of a magnitude denotes it. -/
theorem shortestDecimal_toBinary64 {m : Fin magnitudeBound} (hm : 0 < m.val) :
    (shortestDecimal m).toBinary64 false = .finite false m := by
  unfold shortestDecimal
  cases h : (List.range 17).findSome? fun n => decimalAt? m (n + 1) with
  | none => exact exactDecimal_toBinary64 hm
  | some d =>
    obtain ⟨n, -, hn⟩ := List.exists_of_findSome?_eq_some h
    exact decimalAt?_toBinary64 hn

end CodeTree.Number
