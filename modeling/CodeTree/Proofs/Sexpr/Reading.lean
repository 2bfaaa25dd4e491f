import CodeTree.Sexpr.Reader

/-! What reading makes of a text depends on its tokens alone: the tokens are cut from the left, the
tokens of a datum are understood as that datum, and no other tokens are. -/
namespace CodeTree.Sexpr

/-- The text is cut into the tokens, with what is skipped between them. -/
inductive Cuts : List Char → List Token → Prop
  | nil : Cuts [] []
  | skipped {c : Char} {rest after : List Char} {n : Nat} {ts : List Token}
      (h : piece c rest = .skipped n after) (ht : Cuts after ts) : Cuts (c :: rest) ts
  | token {c : Char} {rest after : List Char} {t : Token} {n : Nat} {ts : List Token}
      (h : piece c rest = .token t n after) (ht : Cuts after ts) : Cuts (c :: rest) (t :: ts)

theorem Cuts.scanFrom {cs : List Char} {ts : List Token} (h : Cuts cs ts) (offset : Nat) :
    (scanFrom offset cs).stuck = none ∧ (scanFrom offset cs).lexemes.map Lexeme.token = ts := by
  induction h generalizing offset with
  | nil => simp [Sexpr.scanFrom]
  | skipped h _ ih =>
    rw [Sexpr.scanFrom]
    split
    all_goals simp_all
  | token h _ ih =>
    rw [Sexpr.scanFrom]
    split
    all_goals simp_all

theorem cuts_of_scanFrom {cs : List Char} {offset : Nat} (h : (scanFrom offset cs).stuck = none) :
    Cuts cs ((scanFrom offset cs).lexemes.map Lexeme.token) := by
  fun_induction Sexpr.scanFrom offset cs with
  | case1 => exact .nil
  | case2 offset c rest n after hp _ ih => exact .skipped hp (ih h)
  | case3 offset c rest t n after hp _ scan ih => exact .token hp (ih h)
  | case4 => cases h

mutual

/-- The tokens by which a datum is written. -/
def Datum.tokens : Datum → List Token
  | .atom chars => [.atom chars]
  | .text raw => [.text raw]
  | .quoted raw => [.quoted raw]
  | .list items => .opening :: (tokensAll items ++ [.closing])

def tokensAll : List Datum → List Token
  | [] => []
  | d :: ds => d.tokens ++ tokensAll ds

end

theorem tokensAll_append (ds es : List Datum) :
    tokensAll (ds ++ es) = tokensAll ds ++ tokensAll es := by
  induction ds with
  | nil => rfl
  | cons d ds ih => rw [List.cons_append, tokensAll, tokensAll, ih, List.append_assoc]

theorem tokensAll_concat (ds : List Datum) (d : Datum) :
    tokensAll (ds ++ [d]) = tokensAll ds ++ d.tokens := by
  rw [tokensAll_append, tokensAll, tokensAll, List.append_nil]

theorem exists_tokens (d : Datum) : ∃ t ts, d.tokens = t :: ts := by
  cases d with
  | atom chars => exact ⟨.atom chars, [], rfl⟩
  | text raw => exact ⟨.text raw, [], rfl⟩
  | quoted raw => exact ⟨.quoted raw, [], rfl⟩
  | list items => exact ⟨.opening, _, rfl⟩

theorem tree_list_eq_ok_iff {stack : Stack} {items : List Datum} {t : Tree} :
    (Datum.list items).tree stack = .ok t ↔
      ∃ ts, trees stack items = .ok ts ∧ listTree stack ts = .ok t := by
  rw [Datum.tree]
  cases trees stack items with
  | error e => exact ⟨nofun, nofun⟩
  | ok ts => exact ⟨fun h => ⟨ts, rfl, h⟩, fun ⟨_, hts, h⟩ => by cases hts; exact h⟩

theorem trees_cons_eq_ok_iff {stack : Stack} {d : Datum} {ds : List Datum} {ts : List Tree} :
    trees stack (d :: ds) = .ok ts ↔
      ∃ t rest, d.tree stack = .ok t ∧ trees stack ds = .ok rest ∧ ts = t :: rest := by
  rw [trees]
  cases d.tree stack with
  | error e => exact ⟨nofun, nofun⟩
  | ok t =>
    cases trees stack ds with
    | error e => exact ⟨nofun, nofun⟩
    | ok rest =>
      constructor
      · intro h
        cases h
        exact ⟨t, rest, rfl, rfl, rfl⟩
      · rintro ⟨_, _, ht, hrest, rfl⟩
        cases ht
        cases hrest
        rfl

namespace Progress

/-- Whether another datum may come. -/
def Expects (single : Bool) (p : Progress) : Prop :=
  (single && p.opened.isEmpty && !p.finished.isEmpty) = false

theorem expects_many (p : Progress) : p.Expects false := rfl

theorem expects_start (single : Bool) : start.Expects single := by
  simp [Expects, start]

theorem expects_opened (single : Bool) {p : Progress} {items : List Datum}
    {outer : List (List Datum)} (h : p.opened = items :: outer) : p.Expects single := by
  simp [Expects, h]

/-- Follows tokens one after another. -/
def run? (single : Bool) (p : Progress) (ts : List Token) : Option Progress :=
  ts.foldlM (next? single) p

theorem run?_cons {single : Bool} {p q : Progress} {t : Token} {ts : List Token}
    (h : p.next? single t = some q) : run? single p (t :: ts) = run? single q ts := by
  simp [run?, h]

theorem next?_opening {single : Bool} {p : Progress} (h : p.Expects single) :
    p.next? single .opening = some { p with opened := [] :: p.opened } := by
  unfold next?
  rw [h, if_neg Bool.false_ne_true]

theorem next?_closing (single : Bool) (finished items : List Datum) (outer : List (List Datum)) :
    next? single ⟨finished, items :: outer⟩ .closing =
      some (add ⟨finished, outer⟩ (.list items.reverse)) := by
  simp [next?]

mutual

/-- The tokens of a datum are understood as that datum. -/
theorem run?_tokens {single : Bool} (d : Datum) {p : Progress} (ts : List Token)
    (h : p.Expects single) : run? single p (d.tokens ++ ts) = run? single (p.add d) ts := by
  cases d with
  | atom chars => exact run?_cons (by unfold next?; rw [h, if_neg Bool.false_ne_true])
  | text raw => exact run?_cons (by unfold next?; rw [h, if_neg Bool.false_ne_true])
  | quoted raw => exact run?_cons (by unfold next?; rw [h, if_neg Bool.false_ne_true])
  | list items =>
    rw [Datum.tokens, List.cons_append, List.append_assoc, run?_cons (next?_opening h),
      run?_tokensAll items [] p.opened, List.singleton_append,
      run?_cons (next?_closing single _ _ _)]
    simp

theorem run?_tokensAll {single : Bool} {finished : List Datum} {ts : List Token}
    (ds items : List Datum) (outer : List (List Datum)) :
    run? single ⟨finished, items :: outer⟩ (tokensAll ds ++ ts) =
      run? single ⟨finished, (ds.reverse ++ items) :: outer⟩ ts := by
  cases ds with
  | nil => rfl
  | cons d ds =>
    rw [tokensAll, List.append_assoc, run?_tokens d _ (expects_opened single rfl)]
    change run? single ⟨finished, (d :: items) :: outer⟩ (tokensAll ds ++ ts) = _
    rw [run?_tokensAll ds (d :: items) outer, List.reverse_cons, List.append_assoc]
    rfl

end

/-- Outside all lists the data of a text are collected one after another. -/
theorem run?_data (ds finished : List Datum) :
    run? false ⟨finished, []⟩ (tokensAll ds) = some ⟨ds.reverse ++ finished, []⟩ := by
  induction ds generalizing finished with
  | nil => rfl
  | cons d ds ih =>
    rw [tokensAll, run?_tokens d _ (expects_many _)]
    change run? false ⟨d :: finished, []⟩ (tokensAll ds) = _
    rw [ih, List.reverse_cons, List.append_assoc]
    rfl

/-- The tokens of lists that are still open. -/
def openTokens : List (List Datum) → List Token
  | [] => []
  | items :: outer => openTokens outer ++ .opening :: tokensAll items.reverse

/-- The tokens that have been understood. -/
def tokens (p : Progress) : List Token :=
  tokensAll p.finished.reverse ++ openTokens p.opened

theorem tokens_add (p : Progress) (d : Datum) : (p.add d).tokens = p.tokens ++ d.tokens := by
  obtain ⟨finished, opened⟩ := p
  cases opened with
  | nil => simp [add, tokens, openTokens, tokensAll_concat]
  | cons items outer => simp [add, tokens, openTokens, tokensAll_concat]

/-- A step understands its token and no other. -/
theorem tokens_next? {single : Bool} {p q : Progress} {t : Token}
    (h : p.next? single t = some q) : q.tokens = p.tokens ++ [t] := by
  obtain ⟨finished, opened⟩ := p
  unfold next? at h
  split at h
  · cases h
  cases t with
  | opening =>
    cases h
    simp [tokens, openTokens, tokensAll]
  | closing =>
    cases opened with
    | nil => cases h
    | cons items outer =>
      cases h
      rw [tokens_add]
      simp [tokens, openTokens, Datum.tokens]
  | text raw =>
    cases h
    exact tokens_add _ _
  | quoted raw =>
    cases h
    exact tokens_add _ _
  | atom chars =>
    cases h
    exact tokens_add _ _

theorem tokens_run? {single : Bool} {p q : Progress} {ts : List Token}
    (h : p.run? single ts = some q) : q.tokens = p.tokens ++ ts := by
  induction ts generalizing p with
  | nil =>
    cases h
    exact (List.append_nil _).symm
  | cons t ts ih =>
    cases hn : p.next? single t with
    | none => simp [run?, hn] at h
    | some r =>
      rw [run?_cons hn] at h
      rw [ih h, tokens_next? hn, List.append_assoc, List.singleton_append]

/-- Where one datum is expected, no second one is understood. -/
theorem length_le_one_of_run? {ds : List Datum} {q : Progress}
    (h : start.run? true (tokensAll ds) = some q) : ds.length ≤ 1 := by
  match ds with
  | [] => exact Nat.zero_le 1
  | [d] => exact Nat.le_refl 1
  | d :: e :: ds =>
    obtain ⟨t, ts, he⟩ := exists_tokens e
    rw [tokensAll, run?_tokens d _ (expects_start true), tokensAll, he] at h
    simp [run?, next?, add, start] at h

end Progress

theorem follow_eq_ok {single : Bool} {lexemes : List Lexeme} {p q : Progress}
    (h : p.run? single (lexemes.map Lexeme.token) = some q) : follow single p lexemes = .ok q := by
  induction lexemes generalizing p with
  | nil => exact congrArg Except.ok (Option.some.inj h)
  | cons lexeme rest ih =>
    cases hn : p.next? single lexeme.token with
    | none => simp [Progress.run?, hn] at h
    | some r =>
      rw [List.map_cons, Progress.run?_cons hn] at h
      rw [follow, hn]
      exact ih h

theorem run?_of_follow {single : Bool} {lexemes : List Lexeme} {p q : Progress}
    (h : follow single p lexemes = .ok q) :
    p.run? single (lexemes.map Lexeme.token) = some q := by
  induction lexemes generalizing p with
  | nil =>
    cases h
    rfl
  | cons lexeme rest ih =>
    rw [follow] at h
    split at h
    · rename_i r hn
      rw [List.map_cons, Progress.run?_cons hn]
      exact ih h
    · cases h

theorem data_of_cuts {single : Bool} {cs : List Char} {ts : List Token} {q : Progress}
    (hc : Cuts cs ts) (hr : Progress.start.run? single ts = some q)
    (hq : q.isComplete single = true) : data single cs = .ok q.finished.reverse := by
  obtain ⟨hs, hl⟩ := hc.scanFrom 0
  have hf : follow single .start (scan cs).lexemes = .ok q := follow_eq_ok (by rw [scan, hl, hr])
  have hn : (scan cs).stuck = none := hs
  unfold data
  simp only [hf, hn, hq, if_true]

/-- A text with the tokens of one datum is read as that datum. -/
theorem data_single {cs : List Char} {d : Datum} (h : Cuts cs d.tokens) :
    data true cs = .ok [d] := by
  have hr : Progress.start.run? true d.tokens = some ⟨[d], []⟩ := by
    have hd := Progress.run?_tokens d [] (Progress.expects_start true)
    rwa [List.append_nil] at hd
  exact data_of_cuts h hr rfl

/-- A text with the tokens of several data is read as those data. -/
theorem data_many {cs : List Char} {ds : List Datum} (h : Cuts cs (tokensAll ds)) :
    data false cs = .ok ds := by
  have hr := Progress.run?_data ds []
  rw [List.append_nil] at hr
  rw [data_of_cuts h hr rfl, List.reverse_reverse]

/-- The data of a text have the tokens into which it is cut. -/
theorem cuts_of_data {single : Bool} {cs : List Char} {ds : List Datum}
    (h : data single cs = .ok ds) :
    Cuts cs (tokensAll ds) ∧ ∃ q, Progress.start.run? single (tokensAll ds) = some q ∧
      q.isComplete single = true ∧ q.finished.reverse = ds := by
  unfold data at h
  dsimp only at h
  split at h
  · cases h
  · rename_i q hf
    split at h
    · cases h
    · rename_i hstuck
      split at h
      · rename_i hq
        cases h
        have hrun := run?_of_follow hf
        have hopened : q.opened = [] := by
          simp only [Progress.isComplete, Bool.and_eq_true, List.isEmpty_iff] at hq
          exact hq.1
        have htokens : (scan cs).lexemes.map Lexeme.token = tokensAll q.finished.reverse := by
          have hread := Progress.tokens_run? hrun
          simpa [Progress.tokens, Progress.openTokens, Progress.start, tokensAll, hopened]
            using hread.symm
        rw [← htokens]
        exact ⟨cuts_of_scanFrom hstuck, q, hrun, hq, rfl⟩
      · cases h

theorem data_true_eq_ok_iff {cs : List Char} {ds : List Datum} :
    data true cs = .ok ds ↔ ∃ d, ds = [d] ∧ Cuts cs d.tokens := by
  constructor
  · intro h
    obtain ⟨hc, q, hrun, hq, rfl⟩ := cuts_of_data h
    have hne : q.finished.reverse ≠ [] := by
      simp only [Progress.isComplete, Bool.and_eq_true, Bool.not_eq_true', Bool.true_and,
        List.isEmpty_eq_false_iff] at hq
      simpa using hq.2
    have hpos := List.length_pos_iff.mpr hne
    have hle := Progress.length_le_one_of_run? hrun
    obtain ⟨d, hd⟩ := List.length_eq_one_iff.mp (Nat.le_antisymm hle hpos)
    rw [hd, tokensAll, tokensAll, List.append_nil] at hc
    exact ⟨d, hd, hc⟩
  · rintro ⟨d, rfl, hc⟩
    exact data_single hc

theorem data_false_eq_ok_iff {cs : List Char} {ds : List Datum} :
    data false cs = .ok ds ↔ Cuts cs (tokensAll ds) :=
  ⟨fun h => (cuts_of_data h).1, data_many⟩

end CodeTree.Sexpr
