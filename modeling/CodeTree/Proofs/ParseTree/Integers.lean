import CodeTree.Proofs.Number.Typed
import CodeTree.Proofs.ParseTree.Places

/-! Integers among the tokens of a parse tree. One with no more digits than the limit is kept as it
is written. One with more is not refused: it is taken for a floating-point number, most often an
infinite one. -/
namespace CodeTree.ParseTree
open Number Text

/-- The leaf of digits after a sign: an integer within the limit of digits, and a floating-point
number beyond it. -/
def digitsLeaf (negative : Bool) (digits : List ℕ) : Leaf :=
  if digits.length ≤ integerDigitLimit then .integer (signed negative (digitsValue digits))
  else .float (Numeral.integer negative digits).toBinary64

section Token
variable {kind text : String} {negative : Bool} {digits : List ℕ}

theorem reservedKind?_of_mem (h : kind ∈ numberKinds) : reservedKind? kind = none := by
  have hall : ∀ kind ∈ numberKinds, reservedKind? kind = none := by decide
  exact hall kind h

theorem tokenLeaf_of_mem (h : kind ∈ numberKinds) : tokenLeaf kind text = number text := by
  have hapart : ∀ kind ∈ numberKinds, stringKinds.contains kind = false := by decide
  rw [tokenLeaf, hapart kind h, if_neg Bool.false_ne_true,
    if_pos (List.contains_iff_mem.mpr h)]

/-- Digits after an optional sign are always converted. -/
theorem number_of_spelling (hs : Numeral.Spelling text.toList (.integer negative digits)) :
    number text = .ok (digitsLeaf negative digits) := by
  rw [number, typedInteger?_of_spelling hs, digitsLeaf]
  by_cases hl : digits.length ≤ integerDigitLimit
  · rw [if_pos hl, if_pos hl]
  · rw [if_neg hl, if_neg hl, typedFloat?_of_spelling hs]

theorem run_toPart_integer (o : Options) (line? : Option ℤ) (hk : kind ∈ numberKinds)
    (hs : Numeral.Spelling text.toList (.integer negative digits)) :
    (toPart (.token kind text line?)).run o =
      .ok (⟨.leaf (digitsLeaf negative digits), true, line?⟩, o) := by
  rw [run_toPart_token_eq_ok (reservedKind?_of_mem hk), tokenLeaf_of_mem hk, number_of_spelling hs]
  exact ⟨_, rfl, rfl, rfl⟩

end Token

theorem toTree_eq_ok {o : Options} {p : ParseTree} {t : Tree} (h : toTree o p = .ok t) :
    ∃ q o', (toPart p).run o = .ok (q, o') ∧ q.tree = t := by
  rw [toTree] at h
  cases hq : (toPart p).run o with
  | error e =>
    rw [hq] at h
    cases h
  | ok r =>
    rw [hq] at h
    change (if p.isRule then .ok r.1.tree else .error Error.notARule) = Except.ok t at h
    split_ifs at h
    exact ⟨r.1, r.2, rfl, Except.ok.inj h⟩

/-- What stands in the place of an integer: a leaf for it, unless a rule around it hides it. -/
theorem at?_place_integer {o : Options} {p : ParseTree} {t : Tree} {path : List ℕ}
    {kind text : String} {line? : Option ℤ} {negative : Bool} {digits : List ℕ}
    (hp : p.at? path = some (.token kind text line?)) (hk : kind ∈ numberKinds)
    (hs : Numeral.Spelling text.toList (.integer negative digits)) (ht : toTree o p = .ok t) :
    t.at? (place o.marks p path) =
      if p.IsClear path then some (.leaf (digitsLeaf negative digits)) else none := by
  obtain ⟨q, o', hq, rfl⟩ := toTree_eq_ok ht
  split_ifs with hclear
  · obtain ⟨r, o₁, o₂, hr, hplace⟩ := at?_place hq hp hclear
    rw [run_toPart_integer o₁ line? hk hs] at hr
    cases hr
    exact hplace
  · exact at?_place_eq_none hq hp hclear

/-- A number token of digits after an optional sign never makes a conversion fail. If the parse tree
is converted, the integer that the digits write stands in the place of the token exactly if they are
within the limit and no rule around the token has a reserved name. A floating-point number stands
there exactly if there are too many digits, and it is infinite unless they start with a zero. -/
theorem integer_kept_iff (o : Options) {p : ParseTree} {path : List ℕ} {kind text : String}
    {line? : Option ℤ} {negative : Bool} {digits : List ℕ}
    (hp : p.at? path = some (.token kind text line?)) (hk : kind ∈ numberKinds)
    (hs : Numeral.Spelling text.toList (.integer negative digits)) :
    (∃ q, (toPart (.token kind text line?)).run o = .ok (q, o)) ∧
      ∀ t, toTree o p = .ok t →
        (t.at? (place o.marks p path) =
            some (.leaf (.integer (signed negative (digitsValue digits)))) ↔
          digits.length ≤ integerDigitLimit ∧ p.IsClear path) ∧
        ((∃ x, t.at? (place o.marks p path) = some (.leaf (.float x))) ↔
          integerDigitLimit < digits.length ∧ p.IsClear path) ∧
        ∀ x, t.at? (place o.marks p path) = some (.leaf (.float x)) →
          x = (Numeral.integer negative digits).toBinary64 ∧
            (digits.head? ≠ some 0 → x = .infinite negative) := by
  refine ⟨⟨_, run_toPart_integer o line? hk hs⟩, fun t ht => ?_⟩
  rw [at?_place_integer hp hk hs ht]
  by_cases hclear : p.IsClear path
  · by_cases hl : digits.length ≤ integerDigitLimit
    · simp [hclear, digitsLeaf, hl]
    · have hlong : integerDigitLimit < digits.length := Nat.lt_of_not_le hl
      have hinfinite := toBinary64_infinite_of_length negative (by decide) hlong
      simpa [hclear, digitsLeaf, hl, hlong] using hinfinite
  · simp [hclear]

/-- A block with a marker before each statement. The second one holds a negative number in digits of
another script. -/
def negativeStatement : ParseTree :=
  .rule "block" (some 1)
    [.token "NAME" "x" (some 1),
      .rule "sum" (some 2) [.token "NAME" "y" (some 2), .token "SIGNED_INT" "-٠٧" none]]

theorem integer_kept_iff_negativeStatement :
    ∃ t, toTree {} negativeStatement = .ok t ∧ negativeStatement.IsClear [1, 1] ∧
      t.at? [3, 1] = some (.leaf (.integer (-7))) := by
  have hs : Numeral.Spelling "-٠٧".toList (.integer true [0, 7]) :=
    Numeral.ofChars?_eq_some_iff.mp (by decide +kernel)
  have hclear : negativeStatement.IsClear [1, 1] := by decide
  have hp : negativeStatement.at? [1, 1] = some (.token "SIGNED_INT" "-٠٧" none) := rfl
  obtain ⟨-, hkept⟩ := integer_kept_iff {} hp (by decide) hs
  exact ⟨_, rfl, hclear, (hkept _ rfl).1.mpr ⟨by decide, hclear⟩⟩

/-- A rule that holds an integer of so many ones. -/
def onesRule (n : ℕ) : ParseTree :=
  .rule "start" none [.token "INT" (String.ofList (List.replicate n '1')) none]

theorem toTree_onesRule {n : ℕ} (h : integerDigitLimit < n) :
    toTree {} (onesRule n) = .ok (.node "start" [.leaf (.float (.infinite false))]) := by
  have hspelling : Numeral.Spelling (String.ofList (List.replicate n '1')).toList
      (.integer false (List.replicate n 1)) := by
    rw [String.toList_ofList]
    exact Numeral.spelling_ones (Nat.ne_zero_of_lt h)
  have hinfinite : (Numeral.integer false (List.replicate n 1)).toBinary64 = .infinite false := by
    refine toBinary64_infinite_of_length false (k := integerDigitLimit) (by decide) ?_ ?_
    · rwa [List.length_replicate]
    · simp [List.head?_replicate]
  have htoken := run_toPart_integer {} none (by decide : "INT" ∈ numberKinds) hspelling
  rw [digitsLeaf, List.length_replicate, if_neg (Nat.not_le_of_lt h), hinfinite] at htoken
  have hnil : (toParts []).run {} = .ok ([], {}) := rfl
  have hparts := run_toParts_cons_eq_ok.mpr ⟨_, _, [], htoken, hnil, rfl⟩
  have hrule : (toPart (onesRule n)).run {} =
      .ok (⟨.node "start" [.leaf (.float (.infinite false))], true, none⟩, {}) :=
    (run_toPart_rule_eq_ok (by decide)).mpr ⟨_, hparts, rfl⟩
  rw [toTree, hrule]
  rfl

/-- An integer with one digit over the limit is converted without failure to an infinite number. -/
theorem toTree_onesRule_infinite :
    toTree {} (onesRule 4301) = .ok (.node "start" [.leaf (.float (.infinite false))]) :=
  toTree_onesRule (by decide)

end CodeTree.ParseTree
