import CodeTree.Proofs.Number.Decimal
import CodeTree.Proofs.Number.Spelling

/-! Numerals read back from the text of integers and of finite binary numbers. -/
namespace CodeTree.Number
open CodeTree.Text

/-- The value of a digit of the first script. -/
def plainDigit (c : Char) : ℕ :=
  c.toNat - 48

theorem digitValue?_of_isDigit {c : Char} (h : c.isDigit) :
    digitValue? c = some (plainDigit c) := by
  obtain ⟨hl, hu⟩ : 48 ≤ c.toNat ∧ c.toNat ≤ 57 := by
    simpa [Char.isDigit, UInt32.le_iff_toNat_le] using h
  unfold digitValue? digitZeros plainDigit
  rw [List.findSome?_cons, if_pos]
  simp only [Bool.and_eq_true, decide_eq_true_eq]
  omega

theorem digits_plain {ds : List Char} (hd : ∀ c ∈ ds, c.isDigit) :
    Digits ds (ds.map plainDigit) := by
  induction ds with
  | nil => exact .nil
  | cons c ds ih =>
    exact .cons (digitValue?_of_isDigit (hd c (by simp))) (ih fun x hx => hd x (by simp [hx]))

theorem digitsValue_map (ds : List Char) :
    digitsValue (ds.map plainDigit) = Nat.ofDigitChars 10 ds 0 := by
  rw [digitsValue, List.foldl_map, Nat.ofDigitChars_eq_foldl]
  rfl

theorem signRun_of_isDigit {c : Char} (cs : List Char) (h : c.isDigit) :
    signRun (c :: cs) = (false, c :: cs) := by
  unfold signRun
  split
  · simp_all
  · simp_all
  · rfl

namespace Numeral

theorem ofChars?_integer {cs ds : List Char} {negative : Bool} (hs : signRun cs = (negative, ds))
    (hd : ∀ c ∈ ds, c.isDigit) (hne : ds ≠ []) :
    ofChars? cs = some (.integer negative (ds.map plainDigit)) :=
  ofChars?_of_spelling (.integer (signed_signRun hs) (digits_plain hd) (by simpa using hne))

theorem spelling_ones {n : ℕ} (h : n ≠ 0) :
    Spelling (List.replicate n '1') (.integer false (List.replicate n 1)) := by
  have hdigit : ∀ c ∈ List.replicate n '1', c.isDigit := by
    intro c hc
    rw [List.eq_of_mem_replicate hc]
    rfl
  have hdigits := digits_plain hdigit
  rw [List.map_replicate] at hdigits
  exact .integer (.bare _) hdigits (by simpa using h)

theorem ofChars?_point {cs whole part tail : List Char} {negative : Bool} {e : Option ℤ}
    (hs : signRun cs = (negative, whole ++ '.' :: (part ++ tail))) (hne : whole ≠ [])
    (hw : ∀ c ∈ whole, c.isDigit) (hp : ∀ c ∈ part, c.isDigit)
    (he : exponentPart? tail = some e) :
    ofChars? cs =
      some (.fraction negative (whole.map plainDigit) (part.map plainDigit) (e.getD 0)) :=
  ofChars?_of_spelling (.pointed (signed_signRun hs) (digits_plain hw) (digits_plain hp)
    (.inl (by simpa using hne)) (exponentPart?_eq_some_iff.mp he))

theorem ofChars?_exponent {cs whole tail : List Char} {negative : Bool} {e : ℤ}
    (hs : signRun cs = (negative, whole ++ tail)) (hne : whole ≠ [])
    (hw : ∀ c ∈ whole, c.isDigit) (he : exponentPart? tail = some (some e)) :
    ofChars? cs = some (.fraction negative (whole.map plainDigit) [] e) :=
  ofChars?_of_spelling (.scaled (signed_signRun hs) (digits_plain hw) (by simpa using hne)
    (exponentPart?_eq_some_iff.mp he))

/-- The value that the parts of a fraction write. -/
theorem toBinary64_fraction {d : Decimal} {whole part : List Char} {e : ℤ} (negative : Bool)
    (h : (Nat.ofDigitChars 10 (whole ++ part) 0 : ℚ) * (10 : ℚ) ^ (e - part.length) = d.value) :
    toBinary64 (.fraction negative (whole.map plainDigit) (part.map plainDigit) e) =
      d.toBinary64 negative := by
  simp only [toBinary64, ← List.map_append, digitsValue_map, List.length_map]
  exact Decimal.toBinary64_congr negative h

end Numeral

theorem exponentPart?_places {places : List Char} (negative : Bool) (hne : places ≠ [])
    (hd : ∀ c ∈ places, c.isDigit) :
    exponentPart? ('e' :: (if negative then '-' else '+') :: places) =
      some (some (signed negative (Nat.ofDigitChars 10 places 0))) := by
  have hsign : Signed negative places ((if negative then '-' else '+') :: places) := by
    cases negative with
    | true => exact .minus places
    | false => exact .plus places
  rw [exponentPart?_eq_some_iff, ← digitsValue_map]
  exact .present (.inl rfl) hsign (digits_plain hd) (by simpa using hne)

/-- The value of digits with the point after the given number of them. -/
def pointedValue (digits : List Char) (point : ℤ) : ℚ :=
  (Nat.ofDigitChars 10 digits 0 : ℚ) * (10 : ℚ) ^ (point - digits.length)

theorem ofDigitChars_append_zeros (ds : List Char) (n : ℕ) :
    Nat.ofDigitChars 10 (ds ++ List.replicate n '0') 0 = Nat.ofDigitChars 10 ds 0 * 10 ^ n := by
  rw [Nat.ofDigitChars_append, Nat.ofDigitChars_replicate_zero, Nat.mul_comm]

theorem ofDigitChars_zeros_append (ds : List Char) (n : ℕ) :
    Nat.ofDigitChars 10 (List.replicate n '0' ++ ds) 0 = Nat.ofDigitChars 10 ds 0 := by
  rw [Nat.ofDigitChars_append, Nat.ofDigitChars_replicate_zero, Nat.mul_zero]

theorem stripTrailingZeros_append (digits : List Char) :
    ∃ n, digits = stripTrailingZeros digits ++ List.replicate n '0' := by
  have hsplit := List.takeWhile_append_dropWhile (p := (· == '0')) (l := digits.reverse)
  have hzeros : digits.reverse.takeWhile (· == '0') =
      List.replicate (digits.reverse.takeWhile (· == '0')).length '0' := by
    rw [List.eq_replicate_iff]
    refine ⟨rfl, fun c hc => ?_⟩
    have hz := List.mem_takeWhile_imp hc
    exact eq_of_beq hz
  refine ⟨(digits.reverse.takeWhile (· == '0')).length, ?_⟩
  rw [stripTrailingZeros, ← List.reverse_replicate, ← hzeros, ← List.reverse_append, hsplit,
    List.reverse_reverse]

/-- Trailing zeros carry no value once the place of the point is known. -/
theorem pointedValue_stripTrailingZeros (d : Decimal) :
    pointedValue (stripTrailingZeros (Nat.toDigits 10 d.coefficient))
      ((Nat.toDigits 10 d.coefficient).length + d.exponent) = d.value := by
  obtain ⟨n, hn⟩ := stripTrailingZeros_append (Nat.toDigits 10 d.coefficient)
  have hc : d.coefficient =
      Nat.ofDigitChars 10 (stripTrailingZeros (Nat.toDigits 10 d.coefficient)) 0 * 10 ^ n := by
    rw [← ofDigitChars_append_zeros, ← hn, Nat.ofDigitChars_ten_toDigits]
  have hlen := congrArg List.length hn
  rw [List.length_append, List.length_replicate] at hlen
  have he : ((Nat.toDigits 10 d.coefficient).length + d.exponent -
      (stripTrailingZeros (Nat.toDigits 10 d.coefficient)).length : ℤ) = n + d.exponent := by
    omega
  rw [pointedValue, he, Decimal.value]
  conv_rhs => rw [hc]
  rw [zpow_add₀ (by norm_num), zpow_natCast]
  push_cast
  ring

/-- A text that is read as a fraction of the given sign and value. -/
def WritesFraction (cs : List Char) (negative : Bool) (v : ℚ) : Prop :=
  ∃ (whole part : List Char) (e : ℤ),
    Numeral.ofChars? cs =
        some (.fraction negative (whole.map plainDigit) (part.map plainDigit) e) ∧
      (Nat.ofDigitChars 10 (whole ++ part) 0 : ℚ) * (10 : ℚ) ^ (e - part.length) = v

theorem writesFraction_point {cs whole part : List Char} {negative : Bool}
    (hs : signRun cs = (negative, whole ++ '.' :: part)) (hne : whole ≠ [])
    (hw : ∀ c ∈ whole, c.isDigit) (hp : ∀ c ∈ part, c.isDigit) :
    WritesFraction cs negative (pointedValue (whole ++ part) whole.length) := by
  refine ⟨whole, part, 0, ?_, ?_⟩
  · rw [← List.append_nil part] at hs
    exact Numeral.ofChars?_point (e := none) hs hne hw hp rfl
  · rw [pointedValue, List.length_append]
    congr 2
    push_cast
    ring

theorem isDigit_zeros {n : ℕ} {c : Char} (h : c ∈ List.replicate n '0') : c.isDigit := by
  rw [List.eq_of_mem_replicate h]
  rfl

theorem writesFraction_positionalText {cs digits : List Char} {negative : Bool} {point : ℤ}
    (hd : ∀ c ∈ digits, c.isDigit) (hne : digits ≠ [])
    (hs : signRun cs = (negative, positionalText digits point)) :
    WritesFraction cs negative (pointedValue digits point) := by
  unfold positionalText at hs
  split_ifs at hs with hlow hmid
  · have hall : ∀ c ∈ List.replicate (-point).toNat '0' ++ digits, c.isDigit := by
      intro c hc
      exact (List.mem_append.mp hc).elim isDigit_zeros (hd c)
    have hv : pointedValue (['0'] ++ (List.replicate (-point).toNat '0' ++ digits)) 1 =
        pointedValue digits point := by
      have hz : ['0'] ++ (List.replicate (-point).toNat '0' ++ digits) =
          List.replicate ((-point).toNat + 1) '0' ++ digits := by
        rw [List.replicate_succ]; rfl
      rw [pointedValue, pointedValue, hz, ofDigitChars_zeros_append]
      congr 2
      rw [List.length_append, List.length_replicate]
      omega
    rw [← hv]
    change signRun cs = (negative, ['0'] ++ '.' :: _) at hs
    exact writesFraction_point hs (by simp) (by simp) hall
  · have hlen : (digits.take point.toNat).length = point.toNat := by
      rw [List.length_take]; omega
    have hw : digits.take point.toNat ≠ [] := by
      intro hnil
      rw [hnil, List.length_nil] at hlen
      omega
    have hv := writesFraction_point hs hw (fun c hc => hd c (List.mem_of_mem_take hc))
      (fun c hc => hd c (List.mem_of_mem_drop hc))
    rwa [List.take_append_drop, hlen, Int.toNat_of_nonneg (by omega)] at hv
  · let zeros := List.replicate (point.toNat - digits.length) '0'
    have hall : ∀ c ∈ digits ++ zeros, c.isDigit := by
      intro c hc
      exact (List.mem_append.mp hc).elim (hd c) isDigit_zeros
    have hv := writesFraction_point hs (by simp [hne]) hall (by simp)
    have hlen : (digits ++ zeros).length = point.toNat := by
      rw [List.length_append, List.length_replicate]; omega
    have hz : digits ++ zeros ++ ['0'] =
        digits ++ List.replicate (point.toNat - digits.length + 1) '0' := by
      rw [List.append_assoc, List.replicate_succ']
    have he : pointedValue (digits ++ zeros ++ ['0']) (digits ++ zeros).length =
        pointedValue digits point := by
      have hlen' : (digits ++ zeros ++ ['0']).length = point.toNat + 1 := by
        rw [List.length_append, hlen]; rfl
      rw [pointedValue, pointedValue, hlen, hlen', hz, ofDigitChars_append_zeros]
      push_cast
      rw [← zpow_natCast (10 : ℚ), mul_assoc, ← zpow_add₀ (by norm_num)]
      congr 2
      push_cast
      omega
    rwa [he] at hv

theorem signed_ofDigitChars (n : ℤ) :
    signed (n < 0) (Nat.ofDigitChars 10 (Nat.toDigits 10 n.natAbs) 0) = n := by
  rw [Nat.ofDigitChars_ten_toDigits, signed]
  split_ifs with h
  · have : n < 0 := by simpa using h
    omega
  · have : ¬ n < 0 := by simpa using h
    omega

theorem isDigit_toDigits {n : ℕ} {c : Char} (h : c ∈ Nat.toDigits 10 n) : c.isDigit :=
  Nat.isDigit_of_mem_toDigits (by norm_num) (by norm_num) h

theorem exponentPart?_power (power : ℤ) :
    exponentPart? ('e' :: (if power < 0 then '-' else '+') ::
        (if (Nat.toDigits 10 power.natAbs).length < 2 then '0' :: Nat.toDigits 10 power.natAbs
          else Nat.toDigits 10 power.natAbs)) =
      some (some power) := by
  have hall : ∀ places : List Char, Nat.ofDigitChars 10 places 0 = power.natAbs → places ≠ [] →
      (∀ c ∈ places, c.isDigit) →
      exponentPart? ('e' :: (if power < 0 then '-' else '+') :: places) = some (some power) := by
    intro places hval hne hd
    have h := exponentPart?_places (power < 0) hne hd
    rw [hval, ← Nat.ofDigitChars_ten_toDigits (n := power.natAbs), signed_ofDigitChars] at h
    simpa using h
  by_cases hlen : (Nat.toDigits 10 power.natAbs).length < 2
  · rw [if_pos hlen]
    refine hall ('0' :: Nat.toDigits 10 power.natAbs) ?_ (by simp) ?_
    · have hz := ofDigitChars_zeros_append (Nat.toDigits 10 power.natAbs) 1
      rwa [Nat.ofDigitChars_ten_toDigits] at hz
    · intro c hc
      rcases List.mem_cons.mp hc with rfl | hc
      · rfl
      · exact isDigit_toDigits hc
  · rw [if_neg hlen]
    exact hall _ Nat.ofDigitChars_ten_toDigits Nat.toDigits_ne_nil fun c hc => isDigit_toDigits hc

theorem writesFraction_scientificText {cs digits : List Char} {negative : Bool} {point : ℤ}
    (hd : ∀ c ∈ digits, c.isDigit) (hne : digits ≠ [])
    (hs : signRun cs = (negative, scientificText digits point)) :
    WritesFraction cs negative (pointedValue digits point) := by
  have hpow := exponentPart?_power (point - 1)
  match digits, hne with
  | [d], _ =>
    refine ⟨[d], [], point - 1, ?_, ?_⟩
    · exact Numeral.ofChars?_exponent hs (by simp) hd hpow
    · simp [pointedValue]
  | d :: d' :: rest, _ =>
    refine ⟨[d], d' :: rest, point - 1, ?_, ?_⟩
    · change signRun cs = (negative, [d] ++ '.' :: (d' :: rest ++ _)) at hs
      refine Numeral.ofChars?_point hs (by simp) ?_ ?_ hpow
      · intro c hc
        exact hd c (by simp_all)
      · intro c hc
        exact hd c (List.mem_cons_of_mem d hc)
    · rw [pointedValue, List.singleton_append]
      congr 2
      simp only [List.length_cons]
      push_cast
      ring

theorem isDigit_stripTrailingZeros {n : ℕ} {c : Char}
    (h : c ∈ stripTrailingZeros (Nat.toDigits 10 n)) : c.isDigit := by
  obtain ⟨k, hk⟩ := stripTrailingZeros_append (Nat.toDigits 10 n)
  refine isDigit_toDigits (n := n) ?_
  rw [hk]
  exact List.mem_append_left _ h

theorem stripTrailingZeros_ne_nil {n : ℕ} (hn : n ≠ 0) :
    stripTrailingZeros (Nat.toDigits 10 n) ≠ [] := by
  intro hnil
  obtain ⟨k, hk⟩ := stripTrailingZeros_append (Nat.toDigits 10 n)
  have hv := Nat.ofDigitChars_ten_toDigits (n := n)
  rw [hk, hnil, List.nil_append, Nat.ofDigitChars_replicate_zero, Nat.mul_zero] at hv
  exact hn hv.symm

theorem shortestDecimal_coefficient_ne_zero {m : Fin magnitudeBound} (hm : m.val ≠ 0) :
    (shortestDecimal m).coefficient ≠ 0 := by
  intro hz
  have h := shortestDecimal_toBinary64 (Nat.pos_of_ne_zero hm)
  rw [Decimal.toBinary64, if_pos hz] at h
  injection h with _ h
  exact hm (congrArg Fin.val h).symm

theorem writesFraction_magnitudeText {cs : List Char} {negative : Bool} {m : Fin magnitudeBound}
    (hm : m.val ≠ 0) (hs : signRun cs = (negative, magnitudeText m)) :
    WritesFraction cs negative (shortestDecimal m).value := by
  have hne := stripTrailingZeros_ne_nil (shortestDecimal_coefficient_ne_zero hm)
  rw [magnitudeText, if_neg hm] at hs
  dsimp only at hs
  rw [← pointedValue_stripTrailingZeros]
  split_ifs at hs
  · exact writesFraction_positionalText (fun c => isDigit_stripTrailingZeros) hne hs
  · exact writesFraction_scientificText (fun c => isDigit_stripTrailingZeros) hne hs

/-- The text of a magnitude is read as a fraction that denotes it. -/
theorem ofChars?_magnitudeText {cs : List Char} {negative : Bool} {m : Fin magnitudeBound}
    (hs : signRun cs = (negative, magnitudeText m)) :
    ∃ whole part e, Numeral.ofChars? cs = some (.fraction negative whole part e) ∧
      (Numeral.fraction negative whole part e).toBinary64 = .finite negative m := by
  by_cases hz : m.val = 0
  · rw [magnitudeText, if_pos hz] at hs
    change signRun cs = (negative, ['0'] ++ '.' :: (['0'] ++ [])) at hs
    refine ⟨_, _, _, Numeral.ofChars?_point hs (by simp) (by simp) (by simp) rfl, ?_⟩
    obtain rfl : m = ⟨0, by decide⟩ := Fin.ext hz
    rfl
  · obtain ⟨whole, part, e, hread, hval⟩ := writesFraction_magnitudeText hz hs
    refine ⟨_, _, _, hread, ?_⟩
    rw [Numeral.toBinary64_fraction negative hval]
    exact Decimal.toBinary64_finite negative (shortestDecimal_toBinary64 (Nat.pos_of_ne_zero hz))

/-- The characters that the text of a number is made of. -/
def isNumberChar (c : Char) : Bool :=
  c.isDigit || c == '.' || c == 'e' || c == '+' || c == '-'

theorem isNumberChar_of_isDigit {c : Char} (h : c.isDigit) : isNumberChar c := by
  simp [isNumberChar, h]

/-- A text of number characters that starts with a digit. -/
def IsNumberText (cs : List Char) : Prop :=
  (∃ c ∈ cs.head?, c.isDigit) ∧ ∀ c ∈ cs, isNumberChar c

theorem isNumberText_append (ds rest : List Char) (hne : ds ≠ []) (hd : ∀ c ∈ ds, c.isDigit)
    (hr : ∀ c ∈ rest, isNumberChar c) : IsNumberText (ds ++ rest) := by
  obtain ⟨c, cs, rfl⟩ := List.exists_cons_of_ne_nil hne
  refine ⟨⟨c, by simp, hd c (by simp)⟩, fun x hx => ?_⟩
  exact (List.mem_append.mp hx).elim (fun h => isNumberChar_of_isDigit (hd x h)) (hr x)

theorem isNumberText_positionalText {digits : List Char} {point : ℤ}
    (hd : ∀ c ∈ digits, c.isDigit) (hne : digits ≠ []) :
    IsNumberText (positionalText digits point) := by
  have hnum := fun c hc => isNumberChar_of_isDigit (hd c hc)
  have hzeros := fun (n : ℕ) (c : Char) (hc : c ∈ List.replicate n '0') =>
    isNumberChar_of_isDigit (isDigit_zeros hc)
  unfold positionalText
  split_ifs with hlow hmid
  · refine isNumberText_append ['0'] _ (by simp) (by simp) fun c hc => ?_
    rcases List.mem_cons.mp hc with rfl | hc
    · rfl
    · exact (List.mem_append.mp hc).elim (hzeros _ c) (hnum c)
  · refine isNumberText_append _ _ ?_ (fun c hc => hd c (List.mem_of_mem_take hc)) fun c hc => ?_
    · intro hnil
      have hlen := congrArg List.length hnil
      rw [List.length_take, List.length_nil] at hlen
      omega
    · rcases List.mem_cons.mp hc with rfl | hc
      · rfl
      · exact hnum c (List.mem_of_mem_drop hc)
  · rw [List.append_assoc]
    refine isNumberText_append _ _ hne hd fun c hc => ?_
    rcases List.mem_append.mp hc with hc | hc
    · exact hzeros _ c hc
    · rcases List.mem_pair.mp hc with rfl | rfl <;> rfl

theorem isNumberText_scientificText {digits : List Char} {point : ℤ}
    (hd : ∀ c ∈ digits, c.isDigit) (hne : digits ≠ []) :
    IsNumberText (scientificText digits point) := by
  have hplaces : ∀ c ∈ 'e' :: (if point - 1 < 0 then '-' else '+') ::
      (if (Nat.toDigits 10 (point - 1).natAbs).length < 2 then
        '0' :: Nat.toDigits 10 (point - 1).natAbs else Nat.toDigits 10 (point - 1).natAbs),
      isNumberChar c := by
    intro c hc
    rcases List.mem_cons.mp hc with rfl | hc
    · rfl
    rcases List.mem_cons.mp hc with rfl | hc
    · split_ifs <;> rfl
    split_ifs at hc
    · rcases List.mem_cons.mp hc with rfl | hc
      · rfl
      · exact isNumberChar_of_isDigit (isDigit_toDigits hc)
    · exact isNumberChar_of_isDigit (isDigit_toDigits hc)
  match digits, hne with
  | [d], hne => exact isNumberText_append _ _ hne hd hplaces
  | d :: d' :: rest, _ =>
    refine isNumberText_append [d] _ (by simp) (fun c hc => hd c (by simp_all)) fun c hc => ?_
    rcases List.mem_cons.mp hc with rfl | hc
    · rfl
    · rcases List.mem_append.mp hc with hc | hc
      · exact isNumberChar_of_isDigit (hd c (List.mem_cons_of_mem d hc))
      · exact hplaces c hc

theorem isNumberText_magnitudeText (m : Fin magnitudeBound) : IsNumberText (magnitudeText m) := by
  by_cases hz : m.val = 0
  · rw [magnitudeText, if_pos hz]
    exact isNumberText_append ['0'] _ (by simp) (by simp) (by simp [isNumberChar])
  · have hne := stripTrailingZeros_ne_nil (shortestDecimal_coefficient_ne_zero hz)
    rw [magnitudeText, if_neg hz]
    dsimp only
    split_ifs
    · exact isNumberText_positionalText (fun c => isDigit_stripTrailingZeros) hne
    · exact isNumberText_scientificText (fun c => isDigit_stripTrailingZeros) hne

theorem signRun_numberText {cs : List Char} (h : IsNumberText cs) : signRun cs = (false, cs) := by
  obtain ⟨⟨c, hc, hd⟩, -⟩ := h
  obtain ⟨rest, rfl⟩ := List.head?_eq_some_iff.mp hc
  exact signRun_of_isDigit rest hd

/-- The text of a finite number is read as a fraction that denotes it. -/
theorem ofChars?_finite_text (negative : Bool) (m : Fin magnitudeBound) :
    ∃ whole part e,
      Numeral.ofChars? (Binary64.finite negative m).text =
          some (.fraction negative whole part e) ∧
        (Numeral.fraction negative whole part e).toBinary64 = .finite negative m := by
  cases negative with
  | true =>
    have hs : signRun ('-' :: magnitudeText m) = (true, magnitudeText m) := rfl
    exact ofChars?_magnitudeText hs
  | false => exact ofChars?_magnitudeText (signRun_numberText (isNumberText_magnitudeText m))

theorem isNumberText_toDigits (n : ℕ) : IsNumberText (Nat.toDigits 10 n) := by
  rw [← List.append_nil (Nat.toDigits 10 n)]
  exact isNumberText_append _ _ Nat.toDigits_ne_nil (fun c hc => isDigit_toDigits hc) (by simp)

/-- The text of an integer is read as the digits that write it. -/
theorem ofChars?_integerText {n : ℤ} {cs : List Char} (h : integerText? n = some cs) :
    ∃ digits, Numeral.ofChars? cs = some (.integer (n < 0) digits) ∧
      digits.length ≤ integerDigitLimit ∧ signed (n < 0) (digitsValue digits) = n := by
  unfold integerText? at h
  dsimp only at h
  split_ifs at h with hlen hneg
  all_goals
    obtain rfl := Option.some.inj h
    refine ⟨(Nat.toDigits 10 n.natAbs).map plainDigit, ?_, (List.length_map _).trans_le hlen, ?_⟩
  · refine Numeral.ofChars?_integer ?_ (fun c hc => isDigit_toDigits hc) Nat.toDigits_ne_nil
    simp [signRun, hneg]
  · rw [digitsValue_map, signed_ofDigitChars]
  · refine Numeral.ofChars?_integer ?_ (fun c hc => isDigit_toDigits hc) Nat.toDigits_ne_nil
    simp [signRun_numberText (isNumberText_toDigits n.natAbs), hneg]
  · rw [digitsValue_map, signed_ofDigitChars]

/-- Digits write a number below the power of ten with as many zeros. -/
theorem digitsValue_lt {ds : List ℕ} (hd : ∀ d ∈ ds, d < 10) :
    digitsValue ds < 10 ^ ds.length := by
  have hfold (n : ℕ) : ds.foldl (fun n d => 10 * n + d) n < (n + 1) * 10 ^ ds.length := by
    induction ds generalizing n with
    | nil => simp
    | cons d ds ih =>
      obtain ⟨hd, hds⟩ := List.forall_mem_cons.mp hd
      have hstep : 10 * n + d + 1 ≤ (n + 1) * 10 := by omega
      calc (d :: ds).foldl (fun n d => 10 * n + d) n
        _ = ds.foldl (fun n d => 10 * n + d) (10 * n + d) := List.foldl_cons ..
        _ < (10 * n + d + 1) * 10 ^ ds.length := ih hds _
        _ ≤ (n + 1) * 10 * 10 ^ ds.length := Nat.mul_le_mul_right _ hstep
        _ = (n + 1) * 10 ^ (d :: ds).length := by rw [List.length_cons, pow_succ', mul_assoc]
  simpa [digitsValue] using hfold 0

/-- An integer that some digits within the limit write has a text: the text has no more digits. -/
theorem isSome_integerText? {cs : List Char} {negative : Bool} {digits : List ℕ}
    (h : Numeral.Spelling cs (.integer negative digits)) (hl : digits.length ≤ integerDigitLimit) :
    (integerText? (signed negative (digitsValue digits))).isSome := by
  cases h with
  | integer _ hd hne =>
    have hpos : 0 < digits.length := List.length_pos_iff.mpr hne
    have hlen := (Nat.length_toDigits_le_iff (by decide) hpos).mpr (digitsValue_lt hd.lt_ten)
    have habs : (signed negative (digitsValue digits)).natAbs = digitsValue digits := by
      cases negative <;> simp [signed]
    rw [integerText?, habs, if_pos (hlen.trans hl)]
    rfl

end CodeTree.Number
