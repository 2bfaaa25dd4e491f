import CodeTree.Proofs.Sexpr.Grammar
import CodeTree.Proofs.Sexpr.Scanning

/-! Why a text is refused and where: the problems a text can have are ranked, and the first in rank
is reported at its place. -/
namespace CodeTree

/-- The place after some characters: its line counts the line feeds among them, and its column the
characters after the last line feed. -/
structure Position.Follows (p : Position) (front : List Char) : Prop where
  line : p.line = 1 + front.count '\n'
  column : ∃ earlier current, front = earlier ++ current ∧
    (earlier = [] ∨ ∃ lines, earlier = lines ++ ['\n']) ∧ '\n' ∉ current ∧
    p.column = 1 + current.length

namespace Position

theorem column_after {earlier current : List Char}
    (he : earlier = [] ∨ ∃ lines, earlier = lines ++ ['\n']) (hc : '\n' ∉ current) :
    (after (earlier ++ current)).column = 1 + current.length := by
  have hline : ∀ c ∈ current.reverse, (c != '\n') = true :=
    Sexpr.bne_lineFeed (by simpa using hc)
  have hstop : ∀ c ∈ earlier.reverse.head?, (c != '\n') = false := by
    rcases he with rfl | ⟨lines, rfl⟩
    · simp
    · simp
  rw [after, List.reverse_append, Sexpr.takeWhile_run hline hstop, List.length_reverse]

theorem follows_after (front : List Char) : (after front).Follows front where
  line := rfl
  column := by
    refine ⟨(front.reverse.dropWhile (· != '\n')).reverse,
      (front.reverse.takeWhile (· != '\n')).reverse, ?_, ?_, ?_, ?_⟩
    · rw [← List.reverse_append, List.takeWhile_append_dropWhile, List.reverse_reverse]
    · cases h : front.reverse.dropWhile (· != '\n') with
      | nil => exact .inl rfl
      | cons c rest =>
        have hc : c = '\n' := by
          have hhead := List.head?_dropWhile_not (· != '\n') front.reverse
          simpa [h] using hhead
        exact .inr ⟨rest.reverse, by rw [List.reverse_cons, hc]⟩
    · intro hmem
      simpa using List.all_eq_true.mp List.all_takeWhile _ (List.mem_reverse.mp hmem)
    · rw [List.length_reverse]
      rfl

theorem follows_iff {p : Position} {front : List Char} : p.Follows front ↔ p = after front := by
  constructor
  · rintro ⟨hline, earlier, current, rfl, he, hc, hcolumn⟩
    obtain ⟨line, column⟩ := p
    rw [← column_after he hc] at hcolumn
    change line = _ at hline
    change column = _ at hcolumn
    rw [hline, hcolumn]
    rfl
  · rintro rfl
    exact follows_after front

end Position

namespace Sexpr

section Prefixes

/-- The tokens are those of data one after another, and of exactly one datum if `single`. -/
def Grammatical (single : Bool) (ts : List Token) : Prop :=
  ∃ ds, tokensAll ds = ts ∧ (single → ds.length = 1)

/-- Some continuation of the tokens is grammatical. -/
def Viable (single : Bool) (ts : List Token) : Prop :=
  ∃ more, Grammatical single (ts ++ more)

namespace Progress

theorem run?_append (single : Bool) (p : Progress) (ts us : List Token) :
    p.run? single (ts ++ us) = (p.run? single ts).bind fun q => q.run? single us :=
  List.foldlM_append

theorem run?_concat {single : Bool} {p q : Progress} {ts : List Token}
    (h : p.run? single ts = some q) (t : Token) :
    p.run? single (ts ++ [t]) = q.next? single t := by
  rw [run?_append, h, Option.bind_some]
  exact bind_pure _

theorem length_opened_add (p : Progress) (d : Datum) :
    (p.add d).opened.length = p.opened.length := by
  obtain ⟨finished, opened⟩ := p
  cases opened <;> rfl

/-- Lists that are open can always be closed. -/
theorem exists_closed (single : Bool) (p : Progress) :
    ∃ q, p.run? single (List.replicate p.opened.length .closing) = some q ∧ q.opened = [] := by
  induction hn : p.opened.length generalizing p with
  | zero => exact ⟨p, rfl, List.length_eq_zero_iff.mp hn⟩
  | succ n ih =>
    obtain ⟨finished, opened⟩ := p
    cases opened with
    | nil => cases hn
    | cons items outer =>
      have hlen : (add ⟨finished, outer⟩ (.list items.reverse)).opened.length = n := by
        rw [length_opened_add]
        exact Nat.succ.inj hn
      obtain ⟨q, hrun, hq⟩ := ih _ hlen
      refine ⟨q, ?_, hq⟩
      rw [List.replicate_succ, run?_cons (next?_closing single finished items outer), hrun]

end Progress

theorem grammatical_iff {single : Bool} {ts : List Token} :
    Grammatical single ts ↔
      ∃ q, Progress.start.run? single ts = some q ∧ q.isComplete single = true := by
  constructor
  · rintro ⟨ds, rfl, hone⟩
    cases single with
    | false =>
      have hrun := Progress.run?_data ds []
      exact ⟨_, hrun, rfl⟩
    | true =>
      obtain ⟨d, rfl⟩ := List.length_eq_one_iff.mp (hone rfl)
      have hrun := Progress.run?_tokens d [] (Progress.expects_start true)
      rw [tokensAll, tokensAll]
      exact ⟨_, hrun, rfl⟩
  · rintro ⟨q, hrun, hq⟩
    simp only [Progress.isComplete, Bool.and_eq_true, List.isEmpty_iff] at hq
    have htokens := Progress.tokens_run? hrun
    have hts : tokensAll q.finished.reverse = ts := by
      simpa [Progress.tokens, Progress.openTokens, Progress.start, tokensAll, hq.1] using htokens
    refine ⟨q.finished.reverse, hts, ?_⟩
    rintro rfl
    rw [← hts] at hrun
    have hle := Progress.length_le_one_of_run? hrun
    have hpos : 0 < q.finished.reverse.length := by
      rw [List.length_pos_iff]
      simpa using hq.2
    omega

/-- Tokens are understood as long as they can be continued, and no longer. -/
theorem viable_iff {single : Bool} {ts : List Token} :
    Viable single ts ↔ ∃ p, Progress.start.run? single ts = some p := by
  constructor
  · rintro ⟨more, hg⟩
    obtain ⟨q, hrun, -⟩ := grammatical_iff.mp hg
    rw [Progress.run?_append] at hrun
    obtain ⟨p, hp, -⟩ := Option.bind_eq_some_iff.mp hrun
    exact ⟨p, hp⟩
  · rintro ⟨p, hp⟩
    obtain ⟨q, hclose, hopened⟩ := p.exists_closed single
    have hrun : Progress.start.run? single (ts ++ List.replicate p.opened.length .closing) =
        some q := by
      rw [Progress.run?_append, hp, Option.bind_some, hclose]
    by_cases hq : q.isComplete single
    · exact ⟨_, grammatical_iff.mpr ⟨q, hrun, hq⟩⟩
    -- One datum is wanted and none has come: any datum will do.
    · have hwanted : single = true ∧ q.finished = [] := by
        simpa [Progress.isComplete, hopened] using hq
      have hexpects : q.Expects single := by
        simp [Progress.Expects, hwanted.2]
      have hnext : q.next? single (.text []) = some (q.add (.text [])) := by
        unfold Progress.next?
        rw [hexpects, if_neg Bool.false_ne_true]
      refine ⟨List.replicate p.opened.length .closing ++ [.text []], grammatical_iff.mpr
        ⟨q.add (.text []), ?_, ?_⟩⟩
      · rw [← List.append_assoc, Progress.run?_concat hrun, hnext]
      · simp [Progress.isComplete, Progress.add, hopened]

end Prefixes

section Faults

mutual

/-- A datum with all data inside it, inner ones before outer ones and from left to right. -/
def Datum.parts : Datum → List Datum
  | .atom chars => [.atom chars]
  | .text raw => [.text raw]
  | .quoted raw => [.quoted raw]
  | .list items => partsAll items ++ [.list items]

def partsAll : List Datum → List Datum
  | [] => []
  | d :: ds => d.parts ++ partsAll ds

end

/-- What is wrong with a datum by itself: it is an integer too long to be converted, or a list whose
first item denotes something other than an identifier. That item is shown in the report; a node for
which the stack has no room cannot be, and this is another fault. -/
inductive Datum.Faulty (stack : Stack) : Datum → ReadError → Prop
  | overlong {cs : List Char} {negative : Bool} {digits : List Nat}
      (h : Number.Numeral.Spelling cs (.integer negative digits))
      (hl : Number.integerDigitLimit < digits.length) : Faulty stack (.atom cs) .overlongInteger
  | head {head : Datum} {items : List Datum} {t : Tree} (h : Derives head.tokens t)
      (ht : ∀ name, t ≠ .symbol name) (hfits : stack.fits t = true) :
      Faulty stack (.list (head :: items)) (.headNotSymbol t)
  | deepHead {head : Datum} {items : List Datum} {name : String} {children : List Tree}
      (h : Derives head.tokens (.node name children))
      (hfits : stack.fits (.node name children) = false) :
      Faulty stack (.list (head :: items)) .headTooDeep

variable {stack : Stack}

/-- The first of the data that is faulty has this fault. -/
def FirstFault (stack : Stack) (ds : List Datum) (e : ReadError) : Prop :=
  ∃ before d after, ds = before ++ d :: after ∧ d.Faulty stack e ∧
    ∀ x ∈ before, ∀ e', ¬ x.Faulty stack e'

theorem Datum.Faulty.unique {d : Datum} {e e' : ReadError} (h : d.Faulty stack e)
    (h' : d.Faulty stack e') : e = e' := by
  cases h with
  | overlong =>
    cases h'
    rfl
  | head h ht hfits =>
    cases h' with
    | head h' => rw [h.unique h']
    | deepHead h' hfits' =>
      rw [h.unique h', hfits'] at hfits
      cases hfits
  | deepHead h hfits =>
    cases h' with
    | head h' ht' hfits' =>
      rw [h'.unique h, hfits] at hfits'
      cases hfits'
    | deepHead => rfl

/-- A list whose head denotes no identifier is faulty in one of two ways. -/
theorem faulty_of_head {head : Datum} {t : Tree} (h : Derives head.tokens t)
    (ht : ∀ name, t ≠ .symbol name) (items : List Datum) :
    (Datum.list (head :: items)).Faulty stack
      (if stack.fits t then .headNotSymbol t else .headTooDeep) := by
  split
  · exact .head h ht ‹_›
  · rename_i hfits
    cases t with
    | leaf x => exact absurd (stack.fits_leaf x) hfits
    | node name children => exact .deepHead h (Bool.eq_false_iff.mpr hfits)

theorem Datum.Faulty.exists_head {head : Datum} {items : List Datum} {e : ReadError}
    (h : (Datum.list (head :: items)).Faulty stack e) :
    ∃ t, Derives head.tokens t ∧ ∀ name, t ≠ .symbol name := by
  cases h with
  | head h ht _ => exact ⟨_, h, ht⟩
  | deepHead h _ => exact ⟨_, h, nofun⟩

theorem FirstFault.append {ds : List Datum} {e : ReadError} (h : FirstFault stack ds e)
    (es : List Datum) : FirstFault stack (ds ++ es) e := by
  obtain ⟨before, d, after, rfl, hd, hbefore⟩ := h
  exact ⟨before, d, after ++ es, by simp, hd, hbefore⟩

theorem FirstFault.prepend {ds es : List Datum} {e : ReadError} (h : FirstFault stack es e)
    (hds : ∀ x ∈ ds, ∀ e', ¬ x.Faulty stack e') : FirstFault stack (ds ++ es) e := by
  obtain ⟨before, d, after, rfl, hd, hbefore⟩ := h
  refine ⟨ds ++ before, d, after, by simp, hd, fun x hx => ?_⟩
  exact (List.mem_append.mp hx).elim (hds x) (hbefore x)

theorem firstFault_cons {d : Datum} {ds : List Datum} {e : ReadError} :
    FirstFault stack (d :: ds) e ↔
      d.Faulty stack e ∨ ((∀ e', ¬ d.Faulty stack e') ∧ FirstFault stack ds e) := by
  constructor
  · rintro ⟨before, x, after, heq, hx, hbefore⟩
    cases before with
    | nil =>
      obtain ⟨rfl, rfl⟩ := List.cons.inj heq
      exact .inl hx
    | cons first before =>
      obtain ⟨rfl, rfl⟩ := List.cons.inj heq
      exact .inr ⟨hbefore d List.mem_cons_self,
        before, x, after, rfl, hx, fun y hy => hbefore y (List.mem_cons_of_mem _ hy)⟩
  · rintro (hd | ⟨hd, hds⟩)
    · exact ⟨[], d, ds, rfl, hd, nofun⟩
    · have hfirst : FirstFault stack ([d] ++ ds) e := hds.prepend (by simpa using hd)
      exact hfirst

theorem FirstFault.unique {ds : List Datum} {e e' : ReadError} (h : FirstFault stack ds e)
    (h' : FirstFault stack ds e') : e = e' := by
  induction ds with
  | nil =>
    obtain ⟨before, d, after, heq, -⟩ := h
    cases before <;> cases heq
  | cons d ds ih =>
    rcases firstFault_cons.mp h with hd | ⟨hd, hds⟩
    · rcases firstFault_cons.mp h' with hd' | ⟨hd', -⟩
      · exact hd.unique hd'
      · exact absurd hd (hd' e)
    · rcases firstFault_cons.mp h' with hd' | ⟨-, hds'⟩
      · exact absurd hd' (hd e')
      · exact ih hds hds'

theorem FirstFault.exists_faulty {ds : List Datum} {e : ReadError} (h : FirstFault stack ds e) :
    ∃ d ∈ ds, d.Faulty stack e := by
  obtain ⟨before, d, after, rfl, hd, -⟩ := h
  exact ⟨d, by simp, hd⟩

theorem atomLeaf?_eq_none_iff {cs : List Char} :
    atomLeaf? cs = none ↔ ∃ negative digits,
      Number.Numeral.Spelling cs (.integer negative digits) ∧
        Number.integerDigitLimit < digits.length := by
  constructor
  · intro h
    unfold atomLeaf? at h
    split at h
    · cases h
    split at h
    · rename_i n hn
      have hspelling := Number.Numeral.ofChars?_eq_some_iff.mp hn
      cases n with
      | integer negative digits =>
        refine ⟨negative, digits, hspelling, ?_⟩
        simpa [numeralLeaf?, Number.Numeral.isOverlong] using h
      | fraction => cases h
    · cases h
  · rintro ⟨negative, digits, hspelling, hl⟩
    simp [atomLeaf?, reserved?_eq_none_of_spelling hspelling,
      Number.Numeral.ofChars?_eq_some_iff.mpr hspelling, numeralLeaf?,
      Number.Numeral.isOverlong, hl]

/-- What can be wrong with a list of items that are all understood. -/
theorem listTree_eq_error {ts : List Tree} {e : ReadError} (h : listTree stack ts = .error e) :
    ∃ t rest, ts = t :: rest ∧ (∀ name, t ≠ .symbol name) ∧
      e = if stack.fits t then .headNotSymbol t else .headTooDeep := by
  unfold listTree at h
  split at h
  · cases h
  · cases h
  · rename_i t rest hsymbol
    cases h
    exact ⟨t, rest, rfl, hsymbol, rfl⟩

theorem not_faulty_of_tree {d : Datum} {t : Tree} (h : d.tree stack = .ok t) (e : ReadError) :
    ¬ d.Faulty stack e := by
  intro hf
  cases d with
  | atom cs =>
    have hnone : atomLeaf? cs = none := by
      cases hf with
      | overlong hspelling hl => exact atomLeaf?_eq_none_iff.mpr ⟨_, _, hspelling, hl⟩
    rw [Datum.tree, hnone] at h
    cases h
  | text raw => cases hf
  | quoted raw => cases hf
  | list items =>
    cases items with
    | nil => cases hf
    | cons head items =>
      obtain ⟨t, hd, ht⟩ := hf.exists_head
      obtain ⟨ts, hts, hlist⟩ := tree_list_eq_ok_iff.mp h
      obtain ⟨t', rest, hhead, -, rfl⟩ := trees_cons_eq_ok_iff.mp hts
      obtain rfl := hd.unique (derives_of_tree _ hhead)
      unfold listTree at hlist
      split at hlist
      · rename_i hnil
        cases hnil
      · rename_i name children hcons
        exact ht name (List.cons.inj hcons).1
      · cases hlist

mutual

theorem sound_of_tree (d : Datum) {t : Tree} (h : d.tree stack = .ok t) :
    ∀ x ∈ d.parts, ∀ e, ¬ x.Faulty stack e := by
  have hself := not_faulty_of_tree h
  cases d with
  | atom chars => simpa [Datum.parts] using hself
  | text raw => simpa [Datum.parts] using hself
  | quoted raw => simpa [Datum.parts] using hself
  | list items =>
    obtain ⟨ts, hts, -⟩ := tree_list_eq_ok_iff.mp h
    intro x hx
    rw [Datum.parts, List.mem_append, List.mem_singleton] at hx
    rcases hx with hx | rfl
    · exact sound_of_trees items hts x hx
    · exact hself

theorem sound_of_trees (ds : List Datum) {ts : List Tree} (h : trees stack ds = .ok ts) :
    ∀ x ∈ partsAll ds, ∀ e, ¬ x.Faulty stack e := by
  cases ds with
  | nil => exact nofun
  | cons d ds =>
    obtain ⟨t, rest, hd, hds, -⟩ := trees_cons_eq_ok_iff.mp h
    intro x hx
    rcases List.mem_append.mp hx with hx | hx
    · exact sound_of_tree d hd x hx
    · exact sound_of_trees ds hds x hx

end

mutual

/-- The error of a datum is its first fault. -/
theorem firstFault_of_tree (d : Datum) {e : ReadError} (h : d.tree stack = .error e) :
    FirstFault stack d.parts e := by
  cases d with
  | atom chars =>
    rw [Datum.tree] at h
    split at h
    · cases h
    · rename_i hnone
      cases h
      obtain ⟨negative, digits, hspelling, hl⟩ := atomLeaf?_eq_none_iff.mp hnone
      exact firstFault_cons.mpr (.inl (.overlong hspelling hl))
  | text raw => cases h
  | quoted raw => cases h
  | list items =>
    rw [Datum.tree] at h
    cases hts : trees stack items with
    | error e' =>
      rw [hts] at h
      cases h
      exact (firstFault_of_trees items hts).append _
    | ok ts =>
      rw [hts] at h
      obtain ⟨t, rest, rfl, ht, rfl⟩ := listTree_eq_error h
      refine FirstFault.prepend ?_ (sound_of_trees items hts)
      cases items with
      | nil => cases hts
      | cons head items =>
        obtain ⟨t', rest', hhead, -, heq⟩ := trees_cons_eq_ok_iff.mp hts
        obtain ⟨rfl, -⟩ := List.cons.inj heq
        exact firstFault_cons.mpr (.inl (faulty_of_head (derives_of_tree head hhead) ht items))

theorem firstFault_of_trees (ds : List Datum) {e : ReadError} (h : trees stack ds = .error e) :
    FirstFault stack (partsAll ds) e := by
  cases ds with
  | nil => cases h
  | cons d ds =>
    rw [trees] at h
    cases hd : d.tree stack with
    | error e' =>
      rw [hd] at h
      cases h
      exact (firstFault_of_tree d hd).append _
    | ok t =>
      rw [hd] at h
      cases hds : trees stack ds with
      | error e' =>
        rw [hds] at h
        cases h
        exact (firstFault_of_trees ds hds).prepend (sound_of_tree d hd)
      | ok ts =>
        rw [hds] at h
        cases h

end

theorem trees_eq_error_iff {ds : List Datum} {e : ReadError} :
    trees stack ds = .error e ↔ FirstFault stack (partsAll ds) e := by
  constructor
  · exact firstFault_of_trees ds
  · intro h
    cases hts : trees stack ds with
    | error e' => rw [h.unique (firstFault_of_trees ds hts)]
    | ok ts =>
      obtain ⟨d, hd, hf⟩ := h.exists_faulty
      exact absurd hf (sound_of_trees ds hts d hd e)

end Faults

/-- Why a text is refused, by rank. A problem of the text is the first one from the left: a token
after which nothing can be right, or a character at which no lexeme fits. A text without such a
problem may end too early. Only a grammatical text is refused for what its data denote. -/
inductive Refused (stack : Stack) (single : Bool) (cs : List Char) : ReadError → Prop
  | token {front rest chars after : List Char} {ts : List Token} {t : Token} {p : Position}
      (hr : Reaches cs front ts rest) (hm : Munches rest chars (some t) after)
      (hv : Viable single ts) (hn : ¬ Viable single (ts ++ [t])) (hp : p.Follows front) :
      Refused stack single cs (.unexpectedToken p)
  | character {front rest : List Char} {ts : List Token} {p : Position}
      (hr : Reaches cs front ts rest) (hb : Blocked rest) (hv : Viable single ts)
      (hp : p.Follows front) : Refused stack single cs (.unexpectedCharacters p)
  | ending {front rest chars after : List Char} {ts : List Token} {t : Token} {p : Position}
      (hr : Reaches cs front ts rest) (hm : Munches rest chars (some t) after)
      (hs : Splits after []) (hv : Viable single (ts ++ [t]))
      (hn : ¬ Grammatical single (ts ++ [t])) (hp : p.Follows front) :
      Refused stack single cs (.unexpectedToken p)
  | nothing (hs : Splits cs []) (hn : ¬ Grammatical single []) :
      Refused stack single cs (.unexpectedToken ⟨1, 1⟩)
  | fault {ds : List Datum} {e : ReadError} (hs : Splits cs (tokensAll ds))
      (hone : single → ds.length = 1) (hf : FirstFault stack (partsAll ds) e) :
      Refused stack single cs e

section Located
variable {stack : Stack}

theorem follow_eq_error {single : Bool} {lexemes : List Lexeme} {p : Progress} {offset : Nat}
    (h : follow single p lexemes = .error offset) :
    ∃ earlier lexeme later q, lexemes = earlier ++ lexeme :: later ∧
      p.run? single (earlier.map Lexeme.token) = some q ∧
      q.next? single lexeme.token = none ∧ offset = lexeme.offset := by
  induction lexemes generalizing p with
  | nil => cases h
  | cons lexeme rest ih =>
    rw [follow] at h
    split at h
    · rename_i q hq
      obtain ⟨earlier, last, later, r, rfl, hrun, hnone, rfl⟩ := ih h
      refine ⟨lexeme :: earlier, last, later, r, rfl, ?_, hnone, rfl⟩
      rw [List.map_cons, Progress.run?_cons hq, hrun]
    · rename_i hnone
      cases h
      exact ⟨[], lexeme, rest, p, rfl, rfl, hnone, rfl⟩

theorem follow_of_next?_eq_none {single : Bool} {earlier later : List Lexeme} {lexeme : Lexeme}
    {p q : Progress} (hrun : p.run? single (earlier.map Lexeme.token) = some q)
    (hnone : q.next? single lexeme.token = none) :
    follow single p (earlier ++ lexeme :: later) = .error lexeme.offset := by
  induction earlier generalizing p with
  | nil =>
    cases hrun
    rw [List.nil_append, follow, hnone]
  | cons first earlier ih =>
    cases hn : p.next? single first.token with
    | none => simp [Progress.run?, hn] at hrun
    | some r =>
      rw [List.map_cons, Progress.run?_cons hn] at hrun
      rw [List.cons_append, follow, hn]
      exact ih hrun

theorem not_viable_concat_iff {single : Bool} {p : Progress} {ts : List Token} {t : Token}
    (h : Progress.start.run? single ts = some p) :
    ¬ Viable single (ts ++ [t]) ↔ p.next? single t = none := by
  rw [viable_iff, Progress.run?_concat h, Option.eq_none_iff_forall_ne_some, not_exists]

theorem isComplete_iff {single : Bool} {p : Progress} {ts : List Token}
    (h : Progress.start.run? single ts = some p) :
    p.isComplete single = true ↔ Grammatical single ts := by
  rw [grammatical_iff]
  constructor
  · exact fun hp => ⟨p, h, hp⟩
  · rintro ⟨q, hq, hcomplete⟩
    rw [h] at hq
    cases hq
    exact hcomplete

theorem refused_of_follow {single : Bool} {cs : List Char} {offset : Nat}
    (h : follow single .start (scan cs).lexemes = .error offset) :
    Refused stack single cs (.unexpectedToken (.after (cs.take offset))) := by
  obtain ⟨earlier, lexeme, later, q, hlexemes, hrun, hnone, rfl⟩ := follow_eq_error h
  obtain ⟨front, rest, chars, after, hr, hm, hoffset, -⟩ := reaches_lexeme hlexemes
  rw [Nat.zero_add] at hoffset
  rw [hoffset, hr.take]
  exact .token hr hm (viable_iff.mpr ⟨q, hrun⟩) ((not_viable_concat_iff hrun).mpr hnone)
    (Position.follows_after front)

theorem refused_of_stuck {single : Bool} {cs : List Char} {offset : Nat}
    (hv : Viable single ((scan cs).lexemes.map Lexeme.token)) (h : (scan cs).stuck = some offset) :
    Refused stack single cs (.unexpectedCharacters (.after (cs.take offset))) := by
  obtain ⟨front, rest, hr, ⟨-, hnone⟩ | ⟨hb, hsome⟩⟩ := reaches_end 0 cs
  · cases hnone.symm.trans h
  · obtain rfl : 0 + front.length = offset := Option.some.inj (hsome.symm.trans h)
    rw [Nat.zero_add, hr.take]
    exact .character hr hb hv (Position.follows_after front)

theorem refused_of_incomplete {single : Bool} {cs : List Char}
    (hv : Viable single ((scan cs).lexemes.map Lexeme.token)) (h : (scan cs).stuck = none)
    (hn : ¬ Grammatical single ((scan cs).lexemes.map Lexeme.token)) :
    Refused stack single cs (.unexpectedToken
      (.after (cs.take (((scan cs).lexemes.getLast?.map Lexeme.offset).getD 0)))) := by
  rcases List.eq_nil_or_concat (scan cs).lexemes with hnil | ⟨earlier, lexeme, hlast⟩
  · have hsplits : Splits cs ((scan cs).lexemes.map Lexeme.token) := (cuts_of_scanFrom h).splits
    rw [hnil] at hsplits hn ⊢
    exact .nothing hsplits hn
  · rw [List.concat_eq_append] at hlast
    obtain ⟨front, rest, chars, after, hr, hm, hoffset, hafter⟩ := reaches_lexeme hlast
    have hend : (scanFrom (lexeme.offset + chars.length) after).stuck = none := by
      rw [hafter]
      exact h
    have hsplits := (cuts_of_scanFrom hend).splits
    rw [hafter] at hsplits
    rw [hlast, List.map_append, List.map_cons, List.map_nil] at hv hn
    rw [Nat.zero_add] at hoffset
    rw [hlast, List.getLast?_concat, Option.map_some, Option.getD_some, hoffset, hr.take]
    exact .ending hr hm hsplits hv hn (Position.follows_after front)

theorem refused_of_data {single : Bool} {cs : List Char} {e : ReadError}
    (h : data single cs = .error e) : Refused stack single cs e := by
  unfold data at h
  dsimp only at h
  split at h
  · rename_i offset hf
    cases h
    exact refused_of_follow hf
  rename_i p hf
  have hrun := run?_of_follow hf
  have hv : Viable single ((scan cs).lexemes.map Lexeme.token) := viable_iff.mpr ⟨p, hrun⟩
  split at h
  · rename_i offset hstuck
    cases h
    exact refused_of_stuck hv hstuck
  · rename_i hstuck
    split at h
    · cases h
    · rename_i hincomplete
      cases h
      exact refused_of_incomplete hv hstuck fun hg => hincomplete ((isComplete_iff hrun).mpr hg)

theorem data_eq_ok_iff {single : Bool} {cs : List Char} {ds : List Datum} :
    data single cs = .ok ds ↔ Splits cs (tokensAll ds) ∧ (single → ds.length = 1) := by
  rw [splits_iff_cuts]
  cases single with
  | false =>
    rw [data_false_eq_ok_iff]
    simp
  | true =>
    rw [data_true_eq_ok_iff]
    constructor
    · rintro ⟨d, rfl, hc⟩
      rw [tokensAll, tokensAll, List.append_nil]
      exact ⟨hc, fun _ => rfl⟩
    · rintro ⟨hc, hone⟩
      obtain ⟨d, rfl⟩ := List.length_eq_one_iff.mp (hone rfl)
      rw [tokensAll, tokensAll, List.append_nil] at hc
      exact ⟨d, rfl, hc⟩

/-- The scan of a text at a token that maximal munch gets to. -/
theorem scan_of_reaches {cs front rest chars after : List Char} {ts : List Token} {t : Token}
    (hr : Reaches cs front ts rest) (hm : Munches rest chars (some t) after) :
    ∃ earlier, earlier.map Lexeme.token = ts ∧
      scan cs = ⟨earlier ++ ⟨t, front.length⟩ ::
        (scanFrom (front.length + chars.length) after).lexemes,
        (scanFrom (front.length + chars.length) after).stuck⟩ := by
  obtain ⟨earlier, htokens, hscan⟩ := hr.scanFrom 0
  rw [Nat.zero_add, hm.scanFrom_token] at hscan
  exact ⟨earlier, htokens, hscan⟩

theorem data_of_token {single : Bool} {cs front rest chars after : List Char} {ts : List Token}
    {t : Token} (hr : Reaches cs front ts rest) (hm : Munches rest chars (some t) after)
    (hv : Viable single ts) (hn : ¬ Viable single (ts ++ [t])) :
    data single cs = .error (.unexpectedToken (.after front)) := by
  obtain ⟨p, hrun⟩ := viable_iff.mp hv
  obtain ⟨earlier, rfl, hscan⟩ := scan_of_reaches hr hm
  have hnone : p.next? single (Lexeme.mk t front.length).token = none :=
    (not_viable_concat_iff hrun).mp hn
  unfold data
  simp only [hscan, follow_of_next?_eq_none hrun hnone, hr.take]

theorem data_of_blocked {single : Bool} {cs front rest : List Char} {ts : List Token}
    (hr : Reaches cs front ts rest) (hb : Blocked rest) (hv : Viable single ts) :
    data single cs = .error (.unexpectedCharacters (.after front)) := by
  obtain ⟨p, hrun⟩ := viable_iff.mp hv
  obtain ⟨earlier, rfl, hscan⟩ := hr.scanFrom 0
  rw [Nat.zero_add, hb.scanFrom, List.append_nil] at hscan
  unfold data
  simp only [scan, hscan, follow_eq_ok hrun, hr.take]

theorem data_of_ending {single : Bool} {cs front rest chars after : List Char} {ts : List Token}
    {t : Token} (hr : Reaches cs front ts rest) (hm : Munches rest chars (some t) after)
    (hs : Splits after []) (hv : Viable single (ts ++ [t]))
    (hn : ¬ Grammatical single (ts ++ [t])) :
    data single cs = .error (.unexpectedToken (.after front)) := by
  obtain ⟨p, hrun⟩ := viable_iff.mp hv
  obtain ⟨earlier, rfl, hscan⟩ := scan_of_reaches hr hm
  obtain ⟨hstuck, hlexemes⟩ := hs.cuts.scanFrom (front.length + chars.length)
  rw [hstuck, List.map_eq_nil_iff.mp hlexemes] at hscan
  have hf : follow single .start (earlier ++ [⟨t, front.length⟩]) = .ok p :=
    follow_eq_ok (by rwa [List.map_append])
  have hincomplete : p.isComplete single = false := by
    rw [← Bool.not_eq_true, isComplete_iff hrun]
    exact hn
  unfold data
  simp [hscan, hf, hincomplete, hr.take]

theorem data_of_nothing {single : Bool} {cs : List Char} (hs : Splits cs [])
    (hn : ¬ Grammatical single []) : data single cs = .error (.unexpectedToken ⟨1, 1⟩) := by
  obtain ⟨hstuck, hlexemes⟩ := hs.cuts.scanFrom 0
  have hscan : scan cs = ⟨[], none⟩ := by
    rw [scan, ← hstuck, ← List.map_eq_nil_iff.mp hlexemes]
  have hrun : Progress.start.run? single [] = some .start := rfl
  have hincomplete : Progress.start.isComplete single = false := by
    rw [← Bool.not_eq_true, isComplete_iff hrun]
    exact hn
  unfold data
  simp [hscan, follow, hincomplete]
  rfl

/-- A text is refused exactly for the reasons by rank. -/
theorem refused_iff {single : Bool} {cs : List Char} {e : ReadError} :
    Refused stack single cs e ↔ (data single cs).bind (trees stack) = .error e := by
  constructor
  · intro h
    cases h with
    | token hr hm hv hn hp =>
      rw [data_of_token hr hm hv hn, Position.follows_iff.mp hp]
      rfl
    | character hr hb hv hp =>
      rw [data_of_blocked hr hb hv, Position.follows_iff.mp hp]
      rfl
    | ending hr hm hs hv hn hp =>
      rw [data_of_ending hr hm hs hv hn, Position.follows_iff.mp hp]
      rfl
    | nothing hs hn =>
      rw [data_of_nothing hs hn]
      rfl
    | fault hs hone hf =>
      rw [data_eq_ok_iff.mpr ⟨hs, hone⟩]
      exact trees_eq_error_iff.mpr hf
  · intro h
    cases hd : data single cs with
    | error e' =>
      rw [hd] at h
      cases h
      exact refused_of_data hd
    | ok ds =>
      rw [hd] at h
      obtain ⟨hs, hone⟩ := data_eq_ok_iff.mp hd
      exact .fault hs hone (trees_eq_error_iff.mp h)

end Located

end Sexpr
open Sexpr

variable {stack : Stack}

theorem readAll_eq_bind (s : String) :
    readAll stack s = (data false s.toList).bind (trees stack) := rfl

theorem read_eq_error_iff {s : String} {e : ReadError} :
    read stack s = .error e ↔ (data true s.toList).bind (trees stack) = .error e := by
  unfold read
  cases hd : data true s.toList with
  | error e' =>
    change Except.error e' = _ ↔ Except.error e' = _
    simp
  | ok ds =>
    obtain ⟨d, rfl, -⟩ := data_true_eq_ok_iff.mp hd
    change d.tree stack = .error e ↔ trees stack [d] = .error e
    cases ht : d.tree stack with
    | error e' => simp [trees, ht, bind, Except.bind]
    | ok t => simp [trees, ht, bind, Except.bind, pure, Except.pure]

/-- A text that is not read is refused for the problem that is first in rank, at its place. -/
theorem read_error_located (stack : Stack) (s : String) (e : ReadError) :
    (read stack s = .error e ↔ Refused stack true s.toList e) ∧
      (readAll stack s = .error e ↔ Refused stack false s.toList e) := by
  constructor
  · rw [read_eq_error_iff, refused_iff]
  · rw [readAll_eq_bind, refused_iff]

/-- Calls of `f` inside each other, as a datum, as characters and as a tree. -/
def nestedDatum : Nat → Datum
  | 0 => .atom ['x']
  | n + 1 => .list [.atom ['f'], nestedDatum n]

def nestedChars : Nat → List Char
  | 0 => ['x']
  | n + 1 => '(' :: 'f' :: ' ' :: (nestedChars n ++ [')'])

def nestedTree : Nat → Tree
  | 0 => .symbol "x"
  | n + 1 => .node "f" [nestedTree n]

theorem cuts_nestedChars (n : Nat) {rest : List Char} {ts : List Token} (hs : Stops rest)
    (hr : Cuts rest ts) : Cuts (nestedChars n ++ rest) ((nestedDatum n).tokens ++ ts) := by
  induction n generalizing rest ts with
  | zero => exact cuts_atom (by decide) hs hr
  | succ n ih =>
    have hinner := ih (stops_cons rest (by decide)) (cuts_closing hr)
    have hgap : ∀ c ∈ [' '], isSpace c := by simp [isSpace]
    have hhead : isAtom ['f'] := by decide
    have hitems := cuts_atom hhead (stops_cons _ rfl) (cuts_spaces hgap hinner)
    simpa [nestedChars, nestedDatum, Datum.tokens, tokensAll] using cuts_opening hitems

theorem tree_nestedDatum (n : Nat) : (nestedDatum n).tree stack = .ok (nestedTree n) := by
  induction n with
  | zero => rfl
  | succ n ih =>
    rw [nestedDatum, Datum.tree, trees, trees, ih]
    rfl

theorem nesting_nestedTree (n : Nat) : (nestedTree n).nesting = n := by
  induction n with
  | zero => rfl
  | succ n ih => simp [nestedTree, Tree.nesting, Tree.nestings, ih, Nat.add_comm]

/-- A list with so many calls inside each other for its head. -/
def nestedHead (n : Nat) : String :=
  String.ofList ('(' :: (nestedChars n ++ [')']))

theorem cuts_nestedHead (n : Nat) :
    Cuts (nestedHead n).toList (Datum.list [nestedDatum n]).tokens := by
  have hchars := cuts_nestedChars n (stops_cons [] (by decide)) (cuts_closing .nil)
  rw [nestedHead, String.toList_ofList]
  simpa [Datum.tokens, tokensAll] using cuts_opening hchars

theorem read_nestedHead {room n : Nat} (h : room < n) :
    read (.ofRoom room) (nestedHead n) = .error .headTooDeep := by
  have hdeep : (Stack.ofRoom room).fits (nestedTree n) = false := by
    simpa [Stack.ofRoom, nesting_nestedTree] using h
  have hlist : listTree (.ofRoom room) [nestedTree n] = .error .headTooDeep := by
    obtain ⟨m, rfl⟩ := Nat.exists_eq_add_of_lt h
    rw [nestedTree] at hdeep ⊢
    simp [listTree, hdeep]
  rw [read, data_single (cuts_nestedHead n)]
  change (Datum.list [nestedDatum n]).tree (.ofRoom room) = .error .headTooDeep
  rw [Datum.tree, trees, trees, tree_nestedDatum]
  exact hlist

/-- The head of a list is no identifier, and nothing else is wrong with the text. But it is nested
deeper than the stack has room for, so what is wrong with it is not reported. -/
theorem read_nestedHead_unreported :
    Splits (nestedHead 5000).toList (Datum.list [nestedDatum 5000]).tokens ∧
      Derives (nestedDatum 5000).tokens (nestedTree 5000) ∧
      (∀ name, nestedTree 5000 ≠ .symbol name) ∧
      read (.ofRoom 1000) (nestedHead 5000) = .error .headTooDeep := by
  have htree := @tree_nestedDatum (.ofRoom 1000) 5000
  exact ⟨(cuts_nestedHead 5000).splits, derives_of_tree _ htree, nofun, read_nestedHead (by decide)⟩

end CodeTree
