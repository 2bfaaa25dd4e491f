import CodeTree.Alias.Table
import CodeTree.Proofs.Walk

/-! What one request does to an alias table. It stays consistent whatever the strategy answers: the
words never look generated, the aliases are words, no two symbols share one, and an alias once chosen
stays. -/
namespace CodeTree

theorem run_bind_eq_ok {ε σ α β : Type} {x : EStateM ε σ α} {f : α → EStateM ε σ β} {s s' : σ}
    {b : β} :
    (x >>= f).run s = .ok b s' ↔ ∃ a s₁, x.run s = .ok a s₁ ∧ (f a).run s₁ = .ok b s' := by
  rw [EStateM.run_bind]
  cases x.run s with
  | ok a s₁ =>
    constructor
    · intro h
      exact ⟨a, s₁, rfl, h⟩
    · rintro ⟨_, _, heq, h⟩
      cases heq
      exact h
  | error e s₁ =>
    constructor
    · intro h
      cases h
    · rintro ⟨_, _, heq, -⟩
      cases heq

namespace Text

/-- Small letters lie above the marks and digits. -/
theorem first_add_shift_gt : ∀ r ∈ caseRuns, 0x24 ≤ (r.first : Int) + r.shift := by
  decide +kernel

theorem ofNat_ne {n : Nat} {c : Char} (hc : 0 < c.toNat) (h : n ≠ c.toNat) : Char.ofNat n ≠ c := by
  rintro rfl
  by_cases hv : n.isValidChar
  · rw [Char.ofNat, dif_pos hv] at h
    exact h rfl
  · rw [Char.ofNat, dif_neg hv] at hc
    exact absurd hc (by decide)

theorem mem_lowerChar {c : Char} (h : Alias.mark ∈ lowerChar c) : c = Alias.mark := by
  unfold lowerChar at h
  split at h
  · exact absurd h (by decide)
  · split at h
    · rename_i r hr
      have hmem := List.mem_of_find?_eq_some hr
      have hin := List.find?_some hr
      have hlow := first_add_shift_gt r hmem
      simp only [CaseRun.contains, Bool.and_eq_true, decide_eq_true_eq] at hin
      have hmark : Alias.mark.toNat = 0x23 := rfl
      refine absurd (List.mem_singleton.mp h).symm (ofNat_ne (by decide) ?_)
      omega
    · exact (List.mem_singleton.mp h).symm

theorem mem_lowerAfter {passed cs : List Char} (h : Alias.mark ∈ lowerAfter passed cs) :
    Alias.mark ∈ cs := by
  induction cs generalizing passed with
  | nil => cases h
  | cons c rest ih =>
    rw [lowerAfter] at h
    rcases List.mem_append.mp h with h | h
    · split at h
      · split at h
        · exact absurd h (by decide)
        · exact absurd h (by decide)
      · rw [mem_lowerChar h]
        exact List.mem_cons_self
    · exact List.mem_cons_of_mem _ (ih h)

/-- Small letters and their neighbours, which no run of capitals reaches. -/
def isSmall (c : Char) : Bool :=
  0x5B ≤ c.toNat && c.toNat < 0xC0

theorem isSmall_iff {c : Char} : isSmall c ↔ 0x5B ≤ c.toNat ∧ c.toNat < 0xC0 := by
  simp [isSmall]

theorem caseRuns_apart : ∀ r ∈ caseRuns, r.last < 0x5B ∨ 0xC0 ≤ r.first := by
  decide +kernel

theorem lowerChar_of_isSmall {c : Char} (h : isSmall c) : lowerChar c = [c] := by
  obtain ⟨hlow, hhigh⟩ := isSmall_iff.mp h
  have hfind : caseRuns.find? (·.contains c.toNat) = none := by
    refine List.find?_eq_none.mpr fun r hr hin => ?_
    have hapart := caseRuns_apart r hr
    simp only [CaseRun.contains, Bool.and_eq_true, decide_eq_true_eq] at hin
    omega
  rw [lowerChar, if_neg (by omega), hfind]

theorem lowerAfter_of_isSmall {passed cs : List Char} (h : ∀ c ∈ cs, isSmall c) :
    lowerAfter passed cs = cs := by
  induction cs generalizing passed with
  | nil => rfl
  | cons c rest ih =>
    obtain ⟨hc, hrest⟩ := List.forall_mem_cons.mp h
    have hsigma : ¬ c.toNat = 0x3A3 := by
      have := (isSmall_iff.mp hc).2
      omega
    rw [lowerAfter, if_neg hsigma, lowerChar_of_isSmall hc, ih hrest]
    rfl

end Text

namespace Alias

theorem isMarked_lower {w : String} (h : isMarked w = false) : isMarked (Text.lower w) = false := by
  cases hl : isMarked (Text.lower w) with
  | false => rfl
  | true =>
    simp only [isMarked, Text.lower, String.toList_ofList, List.contains_iff_mem] at hl
    rw [isMarked, List.contains_iff_mem.mpr (Text.mem_lowerAfter hl)] at h
    cases h

theorem all_isSmall_packagedWords :
    packagedWords.all (fun w => w.toList.all Text.isSmall) = true := by
  decide +kernel

theorem lower_packagedWords {w : String} (h : w ∈ packagedWords) : Text.lower w = w := by
  have hw : ∀ c ∈ w.toList, Text.isSmall c :=
    List.all_eq_true.mp (List.all_eq_true.mp all_isSmall_packagedWords w h)
  rw [Text.lower, Text.lowerAfter_of_isSmall hw, String.ofList_toList]

theorem nodup_eraseDups (words : List String) : words.eraseDups.Nodup := by
  induction hn : words.length using Nat.strongRecOn generalizing words with
  | ind n ih =>
    cases words with
    | nil => simp
    | cons w ws =>
      have hlen : (ws.filter fun v => !v == w).length < n := by
        have := List.length_filter_le (fun v => !v == w) ws
        rw [← hn, List.length_cons]
        omega
      rw [List.eraseDups_cons, List.nodup_cons, List.mem_eraseDups]
      exact ⟨by simp, ih _ hlen _ rfl⟩

namespace Table

/-- A later table with the same words and all the aliases of the earlier one. -/
structure Grown (table after : Table) : Prop where
  words : after.words = table.words
  keeps : ∀ symbol word, table.get? symbol = some word → after.get? symbol = some word

theorem Grown.refl (table : Table) : Grown table table :=
  ⟨rfl, fun _ _ h => h⟩

theorem Grown.trans {a b c : Table} (hab : Grown a b) (hbc : Grown b c) : Grown a c :=
  ⟨hbc.words.trans hab.words, fun s w h => hbc.keeps s w (hab.keeps s w h)⟩

theorem mem_ofWords {words : List String} {strategy : Strategy} {word : String}
    (h : word ∈ (ofWords words strategy).words) :
    ∃ v ∈ words, isMarked v = false ∧ Text.lower v = word := by
  obtain ⟨v, hv, rfl⟩ := List.mem_map.mp (List.mem_eraseDups.mp h)
  obtain ⟨hmem, hmark⟩ := List.mem_filter.mp hv
  exact ⟨v, hmem, by simpa using hmark, rfl⟩

theorem mem_packagedWords {strategy : Strategy} {word : String}
    (h : word ∈ (ofWords packagedWords strategy).words) : word ∈ packagedWords := by
  obtain ⟨v, hv, -, rfl⟩ := mem_ofWords h
  rwa [lower_packagedWords hv]

/-- A word of the table that is no alias yet. -/
def IsFree (table : Table) (word : String) : Prop :=
  word ∈ table.words ∧ word ∉ table.used

theorem mem_unused {table : Table} {word : String} : word ∈ table.unused ↔ table.IsFree word := by
  simp [unused, IsFree]

section Choice
variable {table after : Table} {symbol word : String}

theorem get?_record (h : table.get? symbol = none) (s : String) :
    (table.record symbol word).get? s = if s = symbol then some word else table.get? s := by
  rw [get?, record, List.lookup_append]
  split
  · rename_i hs
    subst hs
    rw [get?] at h
    simp [h]
  · rename_i hs
    have hne : (s == symbol) = false := by simpa using hs
    simp [hne, get?]

theorem wordFor_of_recorded (h : table.get? symbol = some word) :
    table.wordFor symbol = .ok (word, table) := by
  rw [wordFor, h]

theorem wordFor_of_exhausted (hnew : table.get? symbol = none)
    (hused : ∀ word, ¬ table.IsFree word) :
    table.wordFor symbol = .error (.aliasesExhausted symbol table.words.length) := by
  have hnone : table.unused = [] :=
    List.eq_nil_iff_forall_not_mem.mpr fun word hw => hused word (mem_unused.mp hw)
  rw [wordFor, hnew]
  simp [hnone]

theorem unused_isEmpty (hfree : table.IsFree word) : table.unused.isEmpty = false := by
  rw [List.isEmpty_eq_false_iff_exists_mem]
  exact ⟨word, mem_unused.mpr hfree⟩

theorem wordFor_of_chosen (hnew : table.get? symbol = none)
    (hpick : table.strategy table.unused = .text word) (hfree : table.IsFree word) :
    table.wordFor symbol = .ok (word, table.record symbol word) := by
  obtain ⟨hw, hu⟩ := hfree
  rw [wordFor, hnew]
  simp [unused_isEmpty ⟨hw, hu⟩, hpick, hw, hu]

theorem wordFor_of_refused (hnew : table.get? symbol = none) (hfree : table.IsFree word)
    (hpick : ∀ w, table.strategy table.unused = .text w → ¬ table.IsFree w) :
    table.wordFor symbol = .error ((table.strategy table.unused).refusal symbol) := by
  rw [wordFor, hnew]
  simp only [unused_isEmpty hfree]
  cases hs : table.strategy table.unused with
  | text w =>
    have hw := hpick w hs
    by_cases hu : w ∈ table.used
    · simp [hu]
    · have hm : w ∉ table.words := fun hm => hw ⟨hm, hu⟩
      simp [hm]
  | _ => rfl

/-- What comes of a request, by the state that it meets. -/
theorem wordFor_cases (table : Table) (symbol : String) :
    (∃ word, table.get? symbol = some word ∧ table.wordFor symbol = .ok (word, table)) ∨
      (∃ word, table.get? symbol = none ∧ table.IsFree word ∧
        table.wordFor symbol = .ok (word, table.record symbol word)) ∨
      (table.get? symbol = none ∧ (∀ word, ¬ table.IsFree word) ∧
        table.wordFor symbol = .error (.aliasesExhausted symbol table.words.length)) ∨
      (table.get? symbol = none ∧ (∃ word, table.IsFree word) ∧
        (∀ word, table.strategy table.unused = .text word → ¬ table.IsFree word) ∧
        table.wordFor symbol = .error ((table.strategy table.unused).refusal symbol)) := by
  cases hget : table.get? symbol with
  | some word => exact .inl ⟨word, rfl, wordFor_of_recorded hget⟩
  | none =>
    by_cases hfree : ∃ word, table.IsFree word
    · obtain ⟨word, hfree⟩ := hfree
      by_cases hpick : ∃ w, table.strategy table.unused = .text w ∧ table.IsFree w
      · obtain ⟨w, hpick, hw⟩ := hpick
        exact .inr (.inl ⟨w, rfl, hw, wordFor_of_chosen hget hpick hw⟩)
      · simp only [not_exists, not_and] at hpick
        exact .inr (.inr (.inr ⟨rfl, ⟨word, hfree⟩, hpick, wordFor_of_refused hget hfree hpick⟩))
    · rw [not_exists] at hfree
      exact .inr (.inr (.inl ⟨rfl, hfree, wordFor_of_exhausted hget hfree⟩))

/-- An alias is found, or chosen from the free words and recorded for a new symbol. -/
theorem wordFor_ok (h : table.wordFor symbol = .ok (word, after)) :
    (table.get? symbol = some word ∧ after = table) ∨
      (table.get? symbol = none ∧ table.IsFree word ∧ after = table.record symbol word) := by
  rcases wordFor_cases table symbol with ⟨w, hget, hw⟩ | ⟨w, hnew, hfree, hw⟩ | ⟨-, -, hw⟩ |
    ⟨-, -, -, hw⟩
  all_goals
    rw [hw] at h
    cases h
  · exact .inl ⟨hget, rfl⟩
  · exact .inr ⟨hnew, hfree, rfl⟩

theorem grown_wordFor (h : table.wordFor symbol = .ok (word, after)) :
    Grown table after ∧ after.get? symbol = some word := by
  rcases wordFor_ok h with ⟨hfound, rfl⟩ | ⟨hnone, -, rfl⟩
  · exact ⟨Grown.refl _, hfound⟩
  · refine ⟨⟨rfl, fun s w hs => ?_⟩, ?_⟩
    · rw [get?_record hnone, if_neg, hs]
      rintro rfl
      rw [hnone] at hs
      cases hs
    · rw [get?_record hnone, if_pos rfl]

theorem not_mem_symbols (h : table.get? symbol = none) :
    symbol ∉ table.aliases.map Prod.fst := by
  rw [List.mem_map]
  rintro ⟨entry, he, rfl⟩
  have hne := List.lookup_eq_none_iff.mp h entry he
  simp at hne

end Choice

/-- No symbol has two entries and no word is the alias of two symbols; the aliases are the used
words, and these are among the words of the table, which are distinct and never look generated. -/
structure Consistent (table : Table) : Prop where
  words_nodup : table.words.Nodup
  unmarked : ∀ word ∈ table.words, isMarked word = false
  symbols_nodup : (table.aliases.map Prod.fst).Nodup
  injective : ∀ a b word, table.get? a = some word → table.get? b = some word → a = b
  listed : ∀ symbol word, table.get? symbol = some word → word ∈ table.words
  used_iff : ∀ word, word ∈ table.used ↔ ∃ symbol, table.get? symbol = some word

theorem consistent_ofWords (words : List String) (strategy : Strategy) :
    (ofWords words strategy).Consistent where
  words_nodup := nodup_eraseDups _
  unmarked w hw := by
    obtain ⟨v, -, hmark, rfl⟩ := mem_ofWords hw
    exact isMarked_lower hmark
  symbols_nodup := .nil
  injective _ _ _ h := by cases h
  listed _ _ h := by cases h
  used_iff word := by
    constructor
    · intro h
      cases h
    · rintro ⟨symbol, h⟩
      cases h

/-- A free word recorded for a new symbol keeps a table consistent. -/
theorem Consistent.record {table : Table} (ht : table.Consistent) {symbol word : String}
    (hnew : table.get? symbol = none) (hfree : table.IsFree word) :
    (table.record symbol word).Consistent where
  words_nodup := ht.words_nodup
  unmarked := ht.unmarked
  symbols_nodup := by
    have hmap : (table.record symbol word).aliases.map Prod.fst =
        table.aliases.map Prod.fst ++ [symbol] := by
      simp [Table.record]
    rw [hmap, List.nodup_append]
    refine ⟨ht.symbols_nodup, by simp, ?_⟩
    rintro a ha b hb rfl
    rw [List.mem_singleton.mp hb] at ha
    exact not_mem_symbols hnew ha
  injective a b v ha hb := by
    rw [get?_record hnew] at ha hb
    -- a free word is no alias of an earlier symbol
    have hfresh : ∀ s, table.get? s ≠ some word :=
      fun s hs => hfree.2 ((ht.used_iff word).mpr ⟨s, hs⟩)
    split at ha <;> split at hb
    · rename_i ha' hb'
      rw [ha', hb']
    · cases ha
      exact absurd hb (hfresh b)
    · cases hb
      exact absurd ha (hfresh a)
    · exact ht.injective a b v ha hb
  listed s v h := by
    rw [get?_record hnew] at h
    split at h
    · cases h
      exact hfree.1
    · exact ht.listed s v h
  used_iff v := by
    change v ∈ word :: table.used ↔ _
    rw [List.mem_cons, ht.used_iff]
    constructor
    · rintro (rfl | ⟨s, hs⟩)
      · exact ⟨symbol, by rw [get?_record hnew, if_pos rfl]⟩
      · refine ⟨s, ?_⟩
        rw [get?_record hnew, if_neg, hs]
        rintro rfl
        rw [hnew] at hs
        cases hs
    · rintro ⟨s, hs⟩
      rw [get?_record hnew] at hs
      split at hs
      · exact .inl (Option.some.inj hs).symm
      · exact .inr ⟨s, hs⟩

/-- A granted request keeps a table consistent. -/
theorem Consistent.wordFor {table after : Table} (ht : table.Consistent) {symbol word : String}
    (h : table.wordFor symbol = .ok (word, after)) : after.Consistent := by
  rcases wordFor_ok h with ⟨-, rfl⟩ | ⟨hnew, hfree, rfl⟩
  · exact ht
  · exact ht.record hnew hfree

end Table
end Alias
end CodeTree
