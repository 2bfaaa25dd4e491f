import CodeTree.Number.Numeral

/-! The spellings of numerals: an optional sign, digits with an optional point among or around them,
and an optional exponent. Reading a numeral accepts exactly these. -/
namespace CodeTree.Number
open CodeTree.Text

/-- Digits of any script, with their values. -/
inductive Digits : List Char → List Nat → Prop
  | nil : Digits [] []
  | cons {c : Char} {d : Nat} {cs : List Char} {ds : List Nat} (h : digitValue? c = some d)
      (hs : Digits cs ds) : Digits (c :: cs) (d :: ds)

/-- A body after an optional sign. -/
inductive Signed : Bool → List Char → List Char → Prop
  | bare (body : List Char) : Signed false body body
  | plus (body : List Char) : Signed false body ('+' :: body)
  | minus (body : List Char) : Signed true body ('-' :: body)

/-- An optional exponent: the letter `e` in either case and a signed integer. -/
inductive Exponent : List Char → Option Int → Prop
  | absent : Exponent [] none
  | present {mark : Char} {negative : Bool} {places cs : List Char} {ds : List Nat}
      (hm : mark = 'e' ∨ mark = 'E') (hs : Signed negative places cs) (hd : Digits places ds)
      (hne : ds ≠ []) : Exponent (mark :: cs) (some (signed negative (digitsValue ds)))

namespace Numeral

/-- A text that spells a numeral. Digits alone are an integer; with a point, which needs a digit
before or after it, or with an exponent they are a fraction. -/
inductive Spelling : List Char → Numeral → Prop
  | integer {negative : Bool} {whole cs : List Char} {ds : List Nat}
      (hs : Signed negative whole cs) (hd : Digits whole ds) (hne : ds ≠ []) :
      Spelling cs (.integer negative ds)
  | pointed {negative : Bool} {whole part tail cs : List Char} {ws ps : List Nat}
      {exponent : Option Int} (hs : Signed negative (whole ++ '.' :: (part ++ tail)) cs)
      (hw : Digits whole ws) (hp : Digits part ps) (hne : ws ≠ [] ∨ ps ≠ [])
      (he : Exponent tail exponent) :
      Spelling cs (.fraction negative ws ps (exponent.getD 0))
  | scaled {negative : Bool} {whole tail cs : List Char} {ws : List Nat} {exponent : Int}
      (hs : Signed negative (whole ++ tail) cs) (hw : Digits whole ws) (hne : ws ≠ [])
      (he : Exponent tail (some exponent)) :
      Spelling cs (.fraction negative ws [] exponent)

end Numeral

section Digits

/-- A digit is one of the ten characters from the zero of its script on. -/
theorem exists_digitZero {c : Char} {d : Nat} (h : digitValue? c = some d) :
    ∃ first ∈ digitZeros, first ≤ c.toNat ∧ c.toNat < first + 10 ∧ d = c.toNat - first := by
  obtain ⟨first, hfirst, hd⟩ := List.exists_of_findSome?_eq_some h
  split at hd
  · rename_i hrange
    rw [Bool.and_eq_true, decide_eq_true_eq, decide_eq_true_eq] at hrange
    exact ⟨first, hfirst, hrange.1, hrange.2, (Option.some.inj hd).symm⟩
  · cases hd

/-- No digit of any script is a blank. -/
theorem isBlank_of_digitValue? {c : Char} {d : Nat} (h : digitValue? c = some d) :
    isBlank c = false := by
  obtain ⟨first, hfirst, hl, hu, -⟩ := exists_digitZero h
  have hapart : ∀ first ∈ digitZeros, ∀ r ∈ blankRanges,
      first + 10 ≤ r.1 ∨ r.2 < first := by decide
  rw [isBlank, inRanges, List.any_eq_false]
  intro r hr
  have hr := hapart first hfirst r hr
  simp only [Bool.and_eq_true, decide_eq_true_eq]
  omega

theorem ne_of_digitValue? {c mark : Char} {d : Nat} (h : digitValue? c = some d)
    (hm : digitValue? mark = none) : c ≠ mark := by
  rintro rfl
  rw [hm] at h
  cases h

theorem Digits.lt_ten {cs : List Char} {ds : List Nat} (h : Digits cs ds) : ∀ d ∈ ds, d < 10 := by
  induction h with
  | nil => nofun
  | cons hd _ ih =>
    obtain ⟨first, -, hl, hu, rfl⟩ := exists_digitZero hd
    refine List.forall_mem_cons.mpr ⟨?_, ih⟩
    omega

/-- What follows a run of digits does not go on with one. -/
def EndsDigits (cs : List Char) : Prop :=
  ∀ c ∈ cs.head?, digitValue? c = none

theorem endsDigits_nil : EndsDigits [] := by
  simp [EndsDigits]

theorem endsDigits_cons {c : Char} (cs : List Char) (h : digitValue? c = none) :
    EndsDigits (c :: cs) := by
  simpa [EndsDigits] using h

theorem digitRun_of_digits {cs rest : List Char} {ds : List Nat} (h : Digits cs ds)
    (hr : EndsDigits rest) : digitRun (cs ++ rest) = (ds, rest) := by
  induction h with
  | nil =>
    cases rest with
    | nil => rfl
    | cons c rest => simp [digitRun, hr c (by simp)]
  | cons h _ ih => simp [digitRun, h, ih]

theorem digits_digitRun {cs rest : List Char} {ds : List Nat} (h : digitRun cs = (ds, rest)) :
    ∃ front, cs = front ++ rest ∧ Digits front ds := by
  induction cs generalizing ds with
  | nil =>
    cases h
    exact ⟨[], rfl, .nil⟩
  | cons c cs ih =>
    rw [digitRun] at h
    split at h
    · rename_i d hd
      cases h
      obtain ⟨front, hfront, hds⟩ := ih rfl
      exact ⟨c :: front, congrArg (c :: ·) hfront, .cons hd hds⟩
    · cases h
      exact ⟨[], rfl, .nil⟩

end Digits

section Sign

theorem signed_signRun {cs body : List Char} {negative : Bool}
    (h : signRun cs = (negative, body)) : Signed negative body cs := by
  unfold signRun at h
  split at h <;> cases h
  · exact .minus _
  · exact .plus _
  · exact .bare _

/-- No sign stands at the front of the text. -/
def Unsigned (cs : List Char) : Prop :=
  ∀ c ∈ cs.head?, c ≠ '-' ∧ c ≠ '+'

theorem signRun_of_signed {cs body : List Char} {negative : Bool} (h : Signed negative body cs)
    (hb : Unsigned body) : signRun cs = (negative, body) := by
  cases h with
  | bare =>
    unfold signRun
    split
    · exact absurd rfl (hb '-' rfl).1
    · exact absurd rfl (hb '+' rfl).2
    · rfl
  | plus => rfl
  | minus => rfl

theorem unsigned_of_digits {whole : List Char} {ws : List Nat} (hw : Digits whole ws)
    (hne : ws ≠ []) (rest : List Char) : Unsigned (whole ++ rest) := by
  cases hw with
  | nil => exact absurd rfl hne
  | @cons d v _ _ hd _ =>
    intro c hc
    obtain rfl : d = c := by simpa using hc
    exact ⟨ne_of_digitValue? hd (by decide), ne_of_digitValue? hd (by decide)⟩

end Sign

theorem Exponent.endsDigits {cs : List Char} {e : Option Int} (h : Exponent cs e) :
    EndsDigits cs := by
  cases h with
  | absent => exact endsDigits_nil
  | present hm =>
    refine endsDigits_cons _ ?_
    rcases hm with rfl | rfl <;> decide

theorem exponentPart?_eq_some_iff {cs : List Char} {e : Option Int} :
    exponentPart? cs = some e ↔ Exponent cs e := by
  constructor
  · intro h
    cases cs with
    | nil =>
      cases h
      exact .absent
    | cons c rest =>
      rw [exponentPart?] at h
      split at h
      · rename_i hm
        cases hs : signRun rest with
        | mk negative body =>
          simp only [hs] at h
          cases hd : digitRun body with
          | mk ds tail =>
            obtain ⟨places, rfl, hplaces⟩ := digits_digitRun hd
            rw [hd] at h
            split at h
            · cases h
            · rename_i ds' hne heq
              cases heq
              cases h
              rw [List.append_nil] at hs
              exact .present hm (signed_signRun hs) hplaces (fun hnil => hne hnil)
            · cases h
      · cases h
  · intro h
    cases h with
    | absent => rfl
    | @present mark negative places cs ds hm hs hd hne =>
      have hrun := digitRun_of_digits hd endsDigits_nil
      have hunsigned := unsigned_of_digits hd hne []
      rw [List.append_nil] at hrun hunsigned
      have hsign := signRun_of_signed hs hunsigned
      obtain ⟨d, ds, rfl⟩ := List.exists_cons_of_ne_nil hne
      rw [exponentPart?, if_pos hm]
      simp only [hsign, hrun]
      rfl

namespace Numeral

theorem spelling_of_ofChars? {cs : List Char} {n : Numeral} (h : ofChars? cs = some n) :
    Spelling cs n := by
  unfold ofChars? at h
  cases hs : signRun cs with
  | mk negative body =>
    cases hd : digitRun body with
    | mk ws rest =>
      obtain ⟨whole, rfl, hw⟩ := digits_digitRun hd
      have hsigned := signed_signRun hs
      simp only [hs, hd] at h
      split at h
      · rename_i after
        cases hp : digitRun after with
        | mk ps tail =>
          obtain ⟨part, rfl, hpart⟩ := digits_digitRun hp
          simp only [hp] at h
          split at h
          · cases h
          · rename_i hne
            obtain ⟨e, he, rfl⟩ := Option.map_eq_some_iff.mp h
            refine .pointed hsigned hw hpart ?_ (exponentPart?_eq_some_iff.mp he)
            simpa [Classical.or_iff_not_imp_left] using hne
      · split at h
        · cases h
        · rename_i hne
          have hws : ws ≠ [] := by simpa using hne
          obtain ⟨e, he, rfl⟩ := Option.map_eq_some_iff.mp h
          have hexp := exponentPart?_eq_some_iff.mp he
          cases e with
          | some e => exact .scaled hsigned hw hws hexp
          | none =>
            cases hexp
            rw [List.append_nil] at hsigned
            exact .integer hsigned hw hws

theorem ofChars?_of_spelling {cs : List Char} {n : Numeral} (h : Spelling cs n) :
    ofChars? cs = some n := by
  cases h with
  | @integer negative whole cs ds hs hd hne =>
    have hrun := digitRun_of_digits hd endsDigits_nil
    have hunsigned := unsigned_of_digits hd hne []
    rw [List.append_nil] at hrun hunsigned
    have hsign := signRun_of_signed hs hunsigned
    simp [ofChars?, hsign, hrun, hne, exponentPart?]
  | @pointed negative whole part tail cs ws ps e hs hw hp hne he =>
    have hpoint : digitValue? '.' = none := by decide
    have hrun := digitRun_of_digits hw (endsDigits_cons (part ++ tail) hpoint)
    have hpart := digitRun_of_digits hp he.endsDigits
    have hsign : signRun cs = (negative, whole ++ '.' :: (part ++ tail)) := by
      refine signRun_of_signed hs ?_
      cases hw with
      | nil => simp [Unsigned]
      | cons hd hw => exact unsigned_of_digits (.cons hd hw) (by simp) _
    have hempty : (ws.isEmpty && ps.isEmpty) = false := by
      rcases hne with hne | hne <;> simp [hne]
    simp [ofChars?, hsign, hrun, hpart, hempty, exponentPart?_eq_some_iff.mpr he]
  | @scaled negative whole tail cs ws e hs hw hne he =>
    have hrun := digitRun_of_digits hw he.endsDigits
    have hsign := signRun_of_signed hs (unsigned_of_digits hw hne tail)
    have hexp := exponentPart?_eq_some_iff.mpr he
    -- an exponent starts with its letter, so the text is not read as a pointed one
    have hpoint : ∀ after, tail ≠ '.' :: after := by
      rintro after rfl
      simp [exponentPart?] at hexp
    simp [ofChars?, hsign, hrun, hne, hexp]

theorem ofChars?_eq_some_iff {cs : List Char} {n : Numeral} :
    ofChars? cs = some n ↔ Spelling cs n :=
  ⟨spelling_of_ofChars?, ofChars?_of_spelling⟩

end Numeral
end CodeTree.Number
