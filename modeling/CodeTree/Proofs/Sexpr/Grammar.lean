import CodeTree.Proofs.Number.Spelling
import CodeTree.Proofs.Sexpr.Lexical

/-! The grammar of parenthesized text, with the value of every derivation. Reading gives a tree if
and only if the text splits into tokens from which that tree is derived. -/
namespace CodeTree
namespace Sexpr
open Number

/-- The leaf that a bare atom denotes: a reserved word, a number, or else an identifier. An integer
too long to be converted denotes none. -/
inductive AtomDenotes : List Char → Leaf → Prop
  | reserved {cs : List Char} {x : Leaf} (h : reserved? cs = some x) : AtomDenotes cs x
  | integer {cs : List Char} {negative : Bool} {digits : List Nat}
      (h : Numeral.Spelling cs (.integer negative digits))
      (hl : digits.length ≤ integerDigitLimit) :
      AtomDenotes cs (.integer (signed negative (Text.digitsValue digits)))
  | fraction {cs : List Char} {negative : Bool} {whole part : List Nat} {e : Int}
      (h : Numeral.Spelling cs (.fraction negative whole part e)) :
      AtomDenotes cs (.float (Numeral.fraction negative whole part e).toBinary64)
  | symbol {cs : List Char} (hr : reserved? cs = none) (hn : ∀ n, ¬ Numeral.Spelling cs n) :
      AtomDenotes cs (.symbol (String.ofList cs))

mutual

/-- A datum by its tokens and its value. A list is empty, or its first item denotes an identifier,
which is the head. -/
inductive Derives : List Token → Tree → Prop
  | atom {cs : List Char} {x : Leaf} (h : AtomDenotes cs x) : Derives [.atom cs] (.leaf x)
  | text (raw : List Char) :
      Derives [.text raw] (.leaf (.text (String.ofList (Text.unescape raw))))
  | quoted (raw : List Char) : Derives [.quoted raw] (.symbol (String.ofList (Text.unescape raw)))
  | empty : Derives [.opening, .closing] .nothing
  | list {ts : List Token} {head : String} {children : List Tree}
      (h : DerivesAll ts (.symbol head :: children)) :
      Derives (.opening :: (ts ++ [.closing])) (.node head children)

/-- Data one after another, by their tokens and their values. -/
inductive DerivesAll : List Token → List Tree → Prop
  | nil : DerivesAll [] []
  | cons {ts us : List Token} {t : Tree} {trees : List Tree} (h : Derives ts t)
      (hs : DerivesAll us trees) : DerivesAll (ts ++ us) (t :: trees)

end

theorem reserved?_eq_none_of_spelling {cs : List Char} {n : Numeral} (h : Numeral.Spelling cs n) :
    reserved? cs = none := by
  have hread := Numeral.ofChars?_eq_some_iff.mpr h
  have hne : ∀ word, Numeral.ofChars? word = none → cs ≠ word := by
    rintro word hnone rfl
    rw [hread] at hnone
    cases hnone
  unfold reserved?
  rw [if_neg (hne _ (by decide)), if_neg (hne _ (by decide)), if_neg (hne _ (by decide)),
    if_neg (hne _ (by decide)), if_neg (hne _ (by decide))]

theorem atomLeaf?_eq_some_iff {cs : List Char} {x : Leaf} :
    atomLeaf? cs = some x ↔ AtomDenotes cs x := by
  constructor
  · intro h
    unfold atomLeaf? at h
    split at h
    · rename_i leaf hr
      cases h
      exact .reserved hr
    · rename_i hr
      split at h
      · rename_i n hn
        have hspelling := Numeral.ofChars?_eq_some_iff.mp hn
        cases n with
        | integer negative digits =>
          by_cases hl : integerDigitLimit < digits.length
          · simp [numeralLeaf?, Numeral.isOverlong, hl] at h
          · simp only [numeralLeaf?, Numeral.isOverlong, hl] at h
            cases h
            exact .integer hspelling (Nat.not_lt.mp hl)
        | fraction negative whole part e =>
          cases h
          exact .fraction hspelling
      · rename_i hn
        cases h
        refine .symbol hr fun n hspelling => ?_
        rw [Numeral.ofChars?_eq_some_iff.mpr hspelling] at hn
        cases hn
  · intro h
    unfold atomLeaf?
    cases h with
    | reserved hr => rw [hr]
    | integer hspelling hl =>
      simp [reserved?_eq_none_of_spelling hspelling, Numeral.ofChars?_eq_some_iff.mpr hspelling,
        numeralLeaf?, Numeral.isOverlong, hl]
    | fraction hspelling =>
      simp [reserved?_eq_none_of_spelling hspelling, Numeral.ofChars?_eq_some_iff.mpr hspelling,
        numeralLeaf?]
    | symbol hr hn =>
      have hnone : Numeral.ofChars? cs = none := by
        rw [Option.eq_none_iff_forall_ne_some]
        exact fun n h => hn n (Numeral.ofChars?_eq_some_iff.mp h)
      simp [hr, hnone]

section Trees
variable {stack : Stack}

theorem derives_of_listTree {ts : List Token} {items : List Tree} {t : Tree}
    (hs : DerivesAll ts items) (h : listTree stack items = .ok t) :
    Derives (.opening :: (ts ++ [.closing])) t := by
  unfold listTree at h
  split at h
  · cases h
    cases hs
    exact .empty
  · cases h
    exact .list hs
  · cases h

mutual

/-- The tokens of a datum derive its tree. -/
theorem derives_of_tree (d : Datum) {t : Tree} (h : d.tree stack = .ok t) :
    Derives d.tokens t := by
  cases d with
  | atom chars =>
    rw [Datum.tree] at h
    split at h
    · rename_i leaf hl
      cases h
      exact .atom (atomLeaf?_eq_some_iff.mp hl)
    · cases h
  | text raw =>
    cases h
    exact .text raw
  | quoted raw =>
    cases h
    exact .quoted raw
  | list items =>
    obtain ⟨ts, hts, hlist⟩ := tree_list_eq_ok_iff.mp h
    exact derives_of_listTree (derivesAll_of_trees items hts) hlist

theorem derivesAll_of_trees (ds : List Datum) {ts : List Tree} (h : trees stack ds = .ok ts) :
    DerivesAll (tokensAll ds) ts := by
  cases ds with
  | nil =>
    cases h
    exact .nil
  | cons d ds =>
    obtain ⟨t, rest, hd, hds, rfl⟩ := trees_cons_eq_ok_iff.mp h
    exact .cons (derives_of_tree d hd) (derivesAll_of_trees ds hds)

end
end Trees

mutual

/-- Every derivation is that of a datum. -/
theorem exists_datum_of_derives (stack : Stack) {ts : List Token} {t : Tree} (h : Derives ts t) :
    ∃ d : Datum, d.tokens = ts ∧ d.tree stack = .ok t := by
  match h with
  | .atom h => exact ⟨.atom _, rfl, by simp only [Datum.tree, atomLeaf?_eq_some_iff.mpr h]⟩
  | .text raw => exact ⟨.text raw, rfl, rfl⟩
  | .quoted raw => exact ⟨.quoted raw, rfl, rfl⟩
  | .empty => exact ⟨.list [], rfl, rfl⟩
  | .list h =>
    obtain ⟨items, htokens, htrees⟩ := exists_data_of_derivesAll stack h
    exact ⟨.list items, by rw [Datum.tokens, htokens],
      tree_list_eq_ok_iff.mpr ⟨_, htrees, rfl⟩⟩

theorem exists_data_of_derivesAll (stack : Stack) {tokens : List Token} {ts : List Tree}
    (h : DerivesAll tokens ts) :
    ∃ ds : List Datum, tokensAll ds = tokens ∧ trees stack ds = .ok ts := by
  match h with
  | .nil => exact ⟨[], rfl, rfl⟩
  | .cons h hs =>
    obtain ⟨d, htokens, hd⟩ := exists_datum_of_derives stack h
    obtain ⟨ds, htokensAll, hds⟩ := exists_data_of_derivesAll stack hs
    exact ⟨d :: ds, by rw [tokensAll, htokens, htokensAll],
      trees_cons_eq_ok_iff.mpr ⟨_, _, hd, hds, rfl⟩⟩

end

theorem derives_iff_exists_datum (stack : Stack) {ts : List Token} {t : Tree} :
    Derives ts t ↔ ∃ d : Datum, d.tokens = ts ∧ d.tree stack = .ok t :=
  ⟨exists_datum_of_derives stack, fun ⟨d, htokens, h⟩ => htokens ▸ derives_of_tree d h⟩

theorem derivesAll_singleton {ts : List Token} {t : Tree} : DerivesAll ts [t] ↔ Derives ts t := by
  constructor
  · intro h
    cases h with
    | cons h hs =>
      cases hs
      rwa [List.append_nil]
  · intro h
    rw [← List.append_nil ts]
    exact .cons h .nil

/-- Tokens are those of one sequence of data at most. -/
theorem tokensAll_injective {ds es : List Datum} (h : tokensAll ds = tokensAll es) : ds = es := by
  have hd := Progress.run?_data ds []
  rw [h, Progress.run?_data es []] at hd
  injection hd with hd
  injection hd with hd
  simpa using hd.symm

theorem DerivesAll.unique {tokens : List Token} {ts us : List Tree} (ht : DerivesAll tokens ts)
    (hu : DerivesAll tokens us) : ts = us := by
  obtain ⟨ds, rfl, hds⟩ := exists_data_of_derivesAll (.ofRoom 0) ht
  obtain ⟨es, htokens, hes⟩ := exists_data_of_derivesAll (.ofRoom 0) hu
  obtain rfl := tokensAll_injective htokens
  exact Except.ok.inj (hds.symm.trans hes)

theorem Derives.unique {ts : List Token} {t u : Tree} (ht : Derives ts t) (hu : Derives ts u) :
    t = u :=
  List.head_eq_of_cons_eq ((derivesAll_singleton.mpr ht).unique (derivesAll_singleton.mpr hu))

theorem Cuts.unique {cs : List Char} {ts us : List Token} (ht : Cuts cs ts) (hu : Cuts cs us) :
    ts = us :=
  (ht.scanFrom 0).2.symm.trans (hu.scanFrom 0).2

end Sexpr
open Sexpr

theorem read_eq_ok_iff {stack : Stack} {s : String} {t : Tree} :
    read stack s = .ok t ↔ ∃ ts, Splits s.toList ts ∧ Derives ts t := by
  simp only [splits_iff_cuts, derives_iff_exists_datum stack]
  unfold read
  constructor
  · intro h
    cases hdata : data true s.toList with
    | error e =>
      rw [hdata] at h
      cases h
    | ok ds =>
      obtain ⟨d, rfl, hcuts⟩ := data_true_eq_ok_iff.mp hdata
      rw [hdata] at h
      exact ⟨d.tokens, hcuts, d, rfl, h⟩
  · rintro ⟨_, hcuts, d, rfl, h⟩
    rw [data_single hcuts]
    exact h

end CodeTree
