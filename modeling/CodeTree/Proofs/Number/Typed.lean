import CodeTree.Proofs.Number.Numeral

/-! Integers as people type them. Digits after an optional sign write an integer up to the limit of
digits; beyond it they still write a floating-point number, the nearest one. -/
namespace CodeTree.Number
open CodeTree.Text

section Plain

theorem isBlank_of_isPadding {c : Char} (h : isPadding c) : isBlank c := by
  simp only [isPadding, Bool.or_eq_true, Bool.and_eq_true, decide_eq_true_eq, beq_iff_eq] at h
  rcases h with (rfl | ⟨hl, hu⟩) | ⟨-, hblank⟩
  · decide
  · rw [isBlank, inRanges, List.any_eq_true]
    exact ⟨(0x9, 0xD), by decide, by simp [hl, hu]⟩
  · exact hblank

theorem trimPadding_eq_self {cs : List Char} (h : ∀ c ∈ cs, isPadding c = false) :
    trimPadding cs = cs := by
  have hkeep : ∀ ds : List Char, (∀ c ∈ ds, isPadding c = false) →
      ds.dropWhile isPadding = ds := by
    intro ds hds
    rw [List.dropWhile_eq_self_iff]
    intro hpos
    simp [hds _ (List.getElem_mem hpos)]
  rw [trimPadding, hkeep cs h, hkeep cs.reverse (by simpa using h), List.reverse_reverse]

theorem dropSeparators?_eq_self {cs : List Char} (h : '_' ∉ cs) : dropSeparators? cs = some cs := by
  fun_induction dropSeparators? cs with
  | case1 => rfl
  | case2 rest => simp at h
  | case3 c d rest hdigits ih => simp at h
  | case4 c d rest hdigits => simp at h
  | case5 c rest hc hrest ih => rw [ih (List.not_mem_of_not_mem_cons h)]; rfl

/-- A character that stands for itself in a typed number: neither padding nor a separator. -/
def IsPlain (c : Char) : Prop :=
  isPadding c = false ∧ c ≠ '_'

theorem isPlain_of_digitValue? {c : Char} {d : ℕ} (h : digitValue? c = some d) : IsPlain c := by
  refine ⟨Bool.eq_false_iff.mpr fun hp => ?_, ne_of_digitValue? h (by decide)⟩
  have hblank := isBlank_of_isPadding hp
  rw [isBlank_of_digitValue? h] at hblank
  cases hblank

theorem Digits.isPlain {cs : List Char} {ds : List ℕ} (h : Digits cs ds) :
    ∀ c ∈ cs, IsPlain c := by
  induction h with
  | nil => nofun
  | cons hd _ ih => exact List.forall_mem_cons.mpr ⟨isPlain_of_digitValue? hd, ih⟩

theorem Signed.isPlain {negative : Bool} {body cs : List Char} (h : Signed negative body cs)
    (hb : ∀ c ∈ body, IsPlain c) : ∀ c ∈ cs, IsPlain c := by
  cases h with
  | bare => exact hb
  | plus => exact List.forall_mem_cons.mpr ⟨⟨by decide, by decide⟩, hb⟩
  | minus => exact List.forall_mem_cons.mpr ⟨⟨by decide, by decide⟩, hb⟩

/-- A text of plain characters is read as it stands. -/
theorem dropSeparators?_trimPadding {cs : List Char} (h : ∀ c ∈ cs, IsPlain c) :
    dropSeparators? (trimPadding cs) = some cs := by
  rw [trimPadding_eq_self fun c hc => (h c hc).1]
  exact dropSeparators?_eq_self fun hm => (h _ hm).2 rfl

end Plain

section Named

/-- Digits have no case. -/
theorem toLower_of_digitValue? {c : Char} {d : ℕ} (h : digitValue? c = some d) :
    c.toLower = c := by
  obtain ⟨first, hfirst, hl, hu, -⟩ := exists_digitZero h
  have hapart : ∀ first ∈ digitZeros, first + 10 ≤ 'A'.toNat ∨ 'Z'.toNat < first := by decide
  have hcase := hapart first hfirst
  refine dif_neg fun hupper => ?_
  obtain ⟨hA, hZ⟩ := hupper
  have hA' : 'A'.toNat ≤ c.toNat := hA
  have hZ' : c.toNat ≤ 'Z'.toNat := hZ
  omega

/-- No name of a number starts with a digit. -/
theorem namedNumber?_eq_none {cs whole : List Char} {negative : Bool} {ds : List ℕ}
    (hs : signRun cs = (negative, whole)) (hd : Digits whole ds) (hne : ds ≠ []) :
    namedNumber? cs = none := by
  cases hd with
  | nil => exact absurd rfl hne
  | @cons c d rest _ hc _ =>
    have hname : ∀ (first : Char) (tail : List Char), digitValue? first = none →
        String.ofList ((c :: rest).map Char.toLower) ≠ String.ofList (first :: tail) := by
      intro first tail hf heq
      rw [String.ofList_inj, List.map_cons, toLower_of_digitValue? hc, List.cons.injEq] at heq
      exact ne_of_digitValue? hc hf heq.1
    have hinf := hname 'i' ['n', 'f'] (by decide)
    have hinfinity := hname 'i' ['n', 'f', 'i', 'n', 'i', 't', 'y'] (by decide)
    have hnan := hname 'n' ['a', 'n'] (by decide)
    simp only [namedNumber?, hs]
    rw [if_neg (not_or.mpr ⟨hinf, hinfinity⟩), if_neg hnan]

end Named

section Typed
variable {cs : List Char} {negative : Bool} {digits : List ℕ}

theorem dropSeparators?_of_spelling (h : Numeral.Spelling cs (.integer negative digits)) :
    dropSeparators? (trimPadding cs) = some cs := by
  cases h with
  | integer hs hd _ => exact dropSeparators?_trimPadding (hs.isPlain hd.isPlain)

/-- Digits are read as an integer exactly while they are within the limit. -/
theorem typedInteger?_of_spelling (h : Numeral.Spelling cs (.integer negative digits)) :
    typedInteger? cs =
      if digits.length ≤ integerDigitLimit then some (signed negative (digitsValue digits))
      else none := by
  simp only [typedInteger?, dropSeparators?_of_spelling h, Numeral.ofChars?_of_spelling h,
    Option.bind_eq_bind, Option.bind_some]
  by_cases hl : digits.length ≤ integerDigitLimit
  · rw [if_pos hl, if_neg (Nat.not_lt.mpr hl)]
  · rw [if_neg hl, if_pos (Nat.lt_of_not_le hl)]

/-- However many digits there are, they can be read as a floating-point number. -/
theorem typedFloat?_of_spelling (h : Numeral.Spelling cs (.integer negative digits)) :
    typedFloat? cs = some (Numeral.integer negative digits).toBinary64 := by
  have hnamed : namedNumber? cs = none := by
    cases h with
    | @integer _ whole _ _ hs hd hne =>
      have hunsigned := unsigned_of_digits hd hne []
      rw [List.append_nil] at hunsigned
      exact namedNumber?_eq_none (signRun_of_signed hs hunsigned) hd hne
  simp only [typedFloat?, dropSeparators?_of_spelling h, Numeral.ofChars?_of_spelling h, hnamed,
    Option.bind_eq_bind, Option.bind_some, Option.map_some]
  rfl

end Typed

section Magnitude

theorem foldl_digits_ge (n : ℕ) (ds : List ℕ) :
    n * 10 ^ ds.length ≤ ds.foldl (fun n d => 10 * n + d) n := by
  induction ds generalizing n with
  | nil => simp
  | cons d ds ih =>
    calc n * 10 ^ (d :: ds).length
      _ = 10 * n * 10 ^ ds.length := by rw [List.length_cons, pow_succ']; ring
      _ ≤ (10 * n + d) * 10 ^ ds.length := Nat.mul_le_mul_right _ (Nat.le_add_right _ _)
      _ ≤ ds.foldl (fun n d => 10 * n + d) (10 * n + d) := ih _

/-- Digits that do not start with zero write at least the power of ten that their number tells. -/
theorem le_digitsValue {ds : List ℕ} {k : ℕ} (hk : k < ds.length) (hz : ds.head? ≠ some 0) :
    10 ^ k ≤ digitsValue ds := by
  cases ds with
  | nil => cases hk
  | cons d ds =>
    have hd : 1 ≤ d := Nat.one_le_iff_ne_zero.mpr (by simpa using hz)
    calc 10 ^ k
      _ ≤ 10 ^ ds.length := Nat.pow_le_pow_right (by norm_num) (Nat.le_of_lt_succ hk)
      _ ≤ d * 10 ^ ds.length := Nat.le_mul_of_pos_left _ hd
      _ ≤ digitsValue (d :: ds) := by
        simpa [digitsValue] using foldl_digits_ge d ds

/-- An integer past all finite numbers is infinite as a floating-point number. -/
theorem toBinary64_infinite (negative : Bool) {digits : List ℕ} {k : ℕ} (hk : 1025 ≤ k)
    (h : 2 ^ k ≤ digitsValue digits) :
    (Numeral.integer negative digits).toBinary64 = .infinite negative := by
  have hpos : 0 < digitsValue digits := (Nat.pow_pos (by norm_num)).trans_le h
  have hnum : (Decimal.mk (digitsValue digits) 0).numerator = digitsValue digits := Nat.mul_one _
  have hden : (Decimal.mk (digitsValue digits) 0).denominator = 1 := rfl
  rw [Numeral.toBinary64, Decimal.toBinary64_eq_ofRatio, hnum, hden]
  refine ofRatio_infinite hpos negative (le_nearestMagnitude hpos Nat.one_pos hk ?_)
  rwa [Nat.one_mul, Nat.pow_eq]

/-- Hundreds of digits write an infinite number, unless they start with zeros. -/
theorem toBinary64_infinite_of_length (negative : Bool) {digits : List ℕ} {k : ℕ}
    (hk : 1025 ≤ 3 * k) (hl : k < digits.length) (hz : digits.head? ≠ some 0) :
    (Numeral.integer negative digits).toBinary64 = .infinite negative :=
  toBinary64_infinite negative hk ((two_pow_three_mul_le k).trans (le_digitsValue hl hz))

end Magnitude
end CodeTree.Number
