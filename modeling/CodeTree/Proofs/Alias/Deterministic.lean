import CodeTree.Proofs.Alias.Reversal

/-! Aliasing with a fresh table and the least unused word. The distinct generated identifiers of a
tree, as they come first from left to right, are matched with the words of the table, from the least
up, until either of them run out. -/
namespace CodeTree.Alias

/-- The name of a generated identifier. -/
def markedName? : Tree → Option String
  | .leaf (.symbol name) => if isMarked name then some name else none
  | _ => none

/-- The generated identifiers of a tree from left to right, each one as often as it occurs. -/
def occurrences (t : Tree) : List String :=
  t.subtrees.filterMap markedName?

/-- The distinct generated identifiers of a tree in order of first occurrence. -/
def gensyms (t : Tree) : List String :=
  (occurrences t).eraseDups

/-- Puts the second name of a pair in the place of an identifier that is the first. -/
def relabel (pairs : List (String × String)) : Leaf → Leaf
  | .symbol name => .symbol ((pairs.lookup name).getD name)
  | x => x

theorem occurrences_node (head : String) (cs : List Tree) :
    occurrences (.node head cs) = cs.flatMap occurrences := by
  rw [occurrences, Tree.subtrees_node, List.filterMap_cons_none rfl, List.filterMap_flatMap]
  rfl

theorem markedName?_eq_some {t : Tree} {name : String} (h : markedName? t = some name) :
    t = .symbol name ∧ isMarked name := by
  unfold markedName? at h
  split at h
  · split at h
    · rename_i hm
      cases h
      exact ⟨rfl, hm⟩
    · cases h
  · cases h

theorem isMarked_of_mem_gensyms {t : Tree} {name : String} (h : name ∈ gensyms t) :
    isMarked name := by
  obtain ⟨s, -, hs⟩ := List.mem_filterMap.mp (List.mem_eraseDups.mp h)
  exact (markedName?_eq_some hs).2

theorem eraseDups_concat (names : List String) (name : String) :
    (names ++ [name]).eraseDups =
      names.eraseDups ++ if name ∈ names then [] else [name] := by
  rw [List.eraseDups_append]
  by_cases h : name ∈ names
  · simp [List.removeAll, h]
  · simp [List.removeAll, h, List.eraseDups_cons]

section Least

theorem foldl_least (w : String) (ws : List String) :
    let least := ws.foldl (fun least w => if w < least then w else least) w
    least ∈ w :: ws ∧ ∀ v ∈ w :: ws, least ≤ v := by
  induction ws generalizing w with
  | nil => simp
  | cons v ws ih =>
    rw [List.foldl_cons]
    obtain ⟨hmem, hle⟩ := ih (if v < w then v else w)
    rw [List.forall_mem_cons] at hle
    have hfirst : (if v < w then v else w) ≤ w ∧ (if v < w then v else w) ≤ v := by
      split
      · rename_i hlt
        exact ⟨String.not_lt.mp (String.lt_asymm hlt), String.le_refl v⟩
      · rename_i hnot
        exact ⟨String.le_refl w, String.not_lt.mp hnot⟩
    refine ⟨?_, ?_⟩
    · rcases List.mem_cons.mp hmem with heq | hmem
      · rw [heq]
        split <;> simp
      · exact List.mem_cons_of_mem w (List.mem_cons_of_mem v hmem)
    · rw [List.forall_mem_cons, List.forall_mem_cons]
      exact ⟨String.le_trans hle.1 hfirst.1, String.le_trans hle.1 hfirst.2, hle.2⟩

/-- The strategy picks the least of the words it is given. -/
theorem firstUnused_eq {words : List String} {word : String} (hw : word ∈ words)
    (hle : ∀ v ∈ words, word ≤ v) : Strategy.firstUnused words = .text word := by
  cases words with
  | nil => cases hw
  | cons w ws =>
    obtain ⟨hmem, hleast⟩ := foldl_least w ws
    rw [Strategy.firstUnused, String.le_antisymm (hleast word hw) (hle _ hmem)]

end Least

namespace Table

/-- The words of a table from the least to the greatest by code points. -/
def ordered (table : Table) : List String :=
  table.words.mergeSort fun a b => a ≤ b

/-- The table in which the symbols, in their order, have the first of the ordered words. Symbols for
which no word is left have none. -/
def filled (table : Table) (symbols : List String) : Table :=
  { table with
    aliases := symbols.zip table.ordered
    used := (table.ordered.take symbols.length).reverse }

theorem ordered_perm (table : Table) : table.ordered.Perm table.words :=
  List.mergeSort_perm _ _

theorem mem_ordered {table : Table} {word : String} :
    word ∈ table.ordered ↔ word ∈ table.words :=
  table.ordered_perm.mem_iff

theorem length_ordered (table : Table) : table.ordered.length = table.words.length :=
  table.ordered_perm.length_eq

/-- Distinct words in order are in strict order. -/
theorem pairwise_ordered {table : Table} (h : table.words.Nodup) :
    table.ordered.Pairwise (· < ·) := by
  have hsorted : table.ordered.Pairwise (· ≤ ·) := by
    have htrans (a b c : String) (hab : decide (a ≤ b)) (hbc : decide (b ≤ c)) : decide (a ≤ c) :=
      decide_eq_true (String.le_trans (of_decide_eq_true hab) (of_decide_eq_true hbc))
    have htotal (a b : String) : decide (a ≤ b) || decide (b ≤ a) := by
      simpa using String.le_total a b
    simpa [ordered] using List.pairwise_mergeSort htrans htotal table.words
  have hdistinct : table.ordered.Pairwise (· ≠ ·) := table.ordered_perm.nodup_iff.mpr h
  refine hsorted.imp₂ (fun a b hle hne => ?_) hdistinct
  by_contra hlt
  exact hne (String.le_antisymm hle (String.not_lt.mp hlt))

section Filled
variable {table : Table} {symbols : List String} {symbol : String}

theorem get?_filled_of_not_mem (h : symbol ∉ symbols) :
    (table.filled symbols).get? symbol = none := by
  refine List.lookup_eq_none_iff.mpr fun entry he => ?_
  have hne : symbol ≠ entry.1 := fun heq => h (heq ▸ (List.of_mem_zip he).1)
  simpa using hne

theorem exists_get?_filled (hlen : symbols.length ≤ table.ordered.length) (h : symbol ∈ symbols) :
    ∃ word, (table.filled symbols).get? symbol = some word := by
  have hfst : (symbols.zip table.ordered).map Prod.fst = symbols := List.map_fst_zip hlen
  rw [← hfst] at h
  obtain ⟨entry, he, rfl⟩ := List.mem_map.mp h
  cases hget : (table.filled symbols).get? entry.1 with
  | some word => exact ⟨word, rfl⟩
  | none =>
    have hne := List.lookup_eq_none_iff.mp hget entry he
    simp at hne

/-- A recorded symbol changes nothing. -/
theorem wordFor_filled_of_mem (hlen : symbols.length ≤ table.ordered.length)
    (h : symbol ∈ symbols) :
    ∃ word, (table.filled symbols).wordFor symbol = .ok (word, table.filled symbols) := by
  obtain ⟨word, hget⟩ := exists_get?_filled hlen h
  exact ⟨word, wordFor_of_recorded hget⟩

section Next
variable {before rest : List String} {word : String}

/-- The words that are not used are the next one and those above it. -/
theorem isFree_filled_iff (hsorted : table.ordered.Pairwise (· < ·))
    (hsplit : table.ordered = before ++ word :: rest) (hlen : symbols.length = before.length)
    {w : String} : (table.filled symbols).IsFree w ↔ w ∈ word :: rest := by
  have hused : w ∈ (table.filled symbols).used ↔ w ∈ before := by
    simp [filled, hsplit, hlen]
  have hwords : w ∈ (table.filled symbols).words ↔ w ∈ before ∨ w ∈ word :: rest := by
    change w ∈ table.words ↔ _
    rw [← mem_ordered, hsplit, List.mem_append]
  rw [hsplit, List.pairwise_append] at hsorted
  rw [IsFree, hused, hwords]
  constructor
  · rintro ⟨hw | hw, hnot⟩
    · exact absurd hw hnot
    · exact hw
  · intro hw
    exact ⟨.inr hw, fun hb => String.lt_irrefl w (hsorted.2.2 w hb w hw)⟩

theorem record_filled (hsplit : table.ordered = before ++ word :: rest)
    (hlen : symbols.length = before.length) :
    (table.filled symbols).record symbol word = table.filled (symbols ++ [symbol]) := by
  have hold : (symbols ++ []).zip (before ++ word :: rest) = symbols.zip before ++ [] :=
    List.zip_append hlen
  have haliases : (symbols ++ [symbol]).zip table.ordered =
      symbols.zip table.ordered ++ [(symbol, word)] := by
    rw [List.append_nil, List.append_nil] at hold
    rw [hsplit, hold, List.zip_append hlen, List.zip_cons_cons, List.zip_nil_left]
  have hused : (table.ordered.take (symbols ++ [symbol]).length).reverse =
      word :: (table.ordered.take symbols.length).reverse := by
    rw [hsplit, List.length_append, List.length_singleton, hlen, List.take_length_add_append,
      List.take_left]
    simp
  rw [record, filled, filled, haliases, hused]

end Next

/-- A new symbol gets the next of the ordered words. -/
theorem wordFor_filled_of_lt (hnodup : table.words.Nodup) (hfirst : table.strategy = .firstUnused)
    (hlt : symbols.length < table.ordered.length) (h : symbol ∉ symbols) :
    ∃ word, (table.filled symbols).wordFor symbol =
      .ok (word, table.filled (symbols ++ [symbol])) := by
  obtain ⟨before, word, rest, hsplit, hlen⟩ :
      ∃ before word rest, table.ordered = before ++ word :: rest ∧
        symbols.length = before.length := by
    refine ⟨table.ordered.take symbols.length, table.ordered[symbols.length],
      table.ordered.drop (symbols.length + 1), by simp, ?_⟩
    rw [List.length_take]
    omega
  have hsorted := pairwise_ordered hnodup
  have hfree {w : String} := isFree_filled_iff (w := w) hsorted hsplit hlen
  have hpick : (table.filled symbols).strategy (table.filled symbols).unused = .text word := by
    change table.strategy _ = _
    rw [hfirst]
    refine firstUnused_eq (mem_unused.mpr (hfree.mpr List.mem_cons_self)) fun v hv => ?_
    rw [hsplit, List.pairwise_append] at hsorted
    rcases List.mem_cons.mp (hfree.mp (mem_unused.mp hv)) with rfl | hv
    · exact String.le_refl v
    · exact String.not_lt.mp (String.lt_asymm (List.rel_of_pairwise_cons hsorted.2.1 hv))
  refine ⟨word, ?_⟩
  rw [wordFor_of_chosen (get?_filled_of_not_mem h) hpick (hfree.mpr List.mem_cons_self),
    record_filled hsplit hlen]

/-- When all words are used, a new symbol is refused. -/
theorem wordFor_filled_of_eq (hlen : symbols.length = table.ordered.length) (h : symbol ∉ symbols) :
    (table.filled symbols).wordFor symbol =
      .error (.aliasesExhausted symbol table.ordered.length) := by
  rw [length_ordered]
  refine wordFor_of_exhausted (get?_filled_of_not_mem h) fun word hfree => hfree.2 ?_
  have hword : word ∈ table.ordered := mem_ordered.mpr hfree.1
  simpa [filled, hlen] using hword

/-- Once all words are used, further symbols make no difference. -/
theorem filled_append (hlen : table.ordered.length ≤ symbols.length) (more : List String) :
    table.filled (symbols ++ more) = table.filled symbols := by
  have htake : (symbols.take table.ordered.length).length = table.ordered.length := by
    rw [List.length_take]
    omega
  have hzip (rest : List String) :
      (symbols.take table.ordered.length ++ rest).zip table.ordered =
        (symbols.take table.ordered.length).zip table.ordered := by
    have h : (symbols.take table.ordered.length ++ rest).zip (table.ordered ++ []) =
        (symbols.take table.ordered.length).zip table.ordered ++ rest.zip [] :=
      List.zip_append htake
    rwa [List.append_nil, List.zip_nil_right, List.append_nil] at h
  have haliases : (symbols ++ more).zip table.ordered = symbols.zip table.ordered := by
    rw [← List.take_append_drop table.ordered.length symbols, List.append_assoc, hzip, hzip]
  have hused : table.ordered.take (symbols ++ more).length = table.ordered.take symbols.length := by
    rw [List.take_of_length_le hlen, List.take_of_length_le]
    rw [List.length_append]
    omega
  rw [filled, filled, haliases, hused]

end Filled

/-- The outcome of asking for the aliases of names, repetitions included: the distinct ones have
been filled in, and the first for which there was no word, if any, has been refused. -/
inductive Fills (table : Table) {α : Type} (names : List String) :
    EStateM.Result Error Table α → Prop
  | done (a : α) (h : names.eraseDups.length ≤ table.ordered.length) :
      Fills table names (.ok a (table.filled names.eraseDups))
  | stopped {name : String} (h : names.eraseDups[table.ordered.length]? = some name) :
      Fills table names (.error (.aliasesExhausted name table.ordered.length)
        (table.filled names.eraseDups))

section Fills
variable {table : Table} {α β : Type} {names more : List String}

theorem Fills.later {e : Error} {after : Table}
    (h : Fills table names (.error e after : EStateM.Result Error Table α)) :
    Fills table (names ++ more) (.error e after : EStateM.Result Error Table β) := by
  cases h with
  | @stopped name h =>
    -- The refused name is already among the first ones, and all words are used.
    have hlt : table.ordered.length < names.eraseDups.length :=
      (List.getElem?_eq_some_iff.mp h).1
    have hmore : (names ++ more).eraseDups[table.ordered.length]? = some name := by
      rw [List.eraseDups_append, List.getElem?_append_left hlt, h]
    have hfilled : table.filled (names ++ more).eraseDups = table.filled names.eraseDups := by
      rw [List.eraseDups_append, filled_append (Nat.le_of_lt hlt)]
    exact hfilled ▸ .stopped hmore

/-- Requests one after another: what is asked for later does not matter once one is refused. -/
theorem Fills.bind {x : EStateM Error Table α} {f : α → EStateM Error Table β} {s : Table}
    (hx : Fills table names (x.run s))
    (hf : ∀ a, names.eraseDups.length ≤ table.ordered.length →
      Fills table (names ++ more) ((f a).run (table.filled names.eraseDups))) :
    Fills table (names ++ more) ((x >>= f).run s) := by
  rw [EStateM.run_bind]
  generalize x.run s = result at hx
  cases hx with
  | done a h => exact hf a h
  | stopped h =>
    have hstopped : Fills table names (.error _ _ : EStateM.Result Error Table α) := .stopped h
    exact hstopped.later

theorem Fills.map {x : EStateM Error Table α} (f : α → β) {s : Table}
    (hx : Fills table names (x.run s)) :
    Fills table names ((do return f (← x)).run s) := by
  have h : Fills table (names ++ []) ((do return f (← x)).run s) := by
    refine hx.bind fun a hlen => ?_
    rw [List.append_nil]
    exact .done (f a) hlen
  rwa [List.append_nil] at h

end Fills
end Table

section Walk

variable {table : Table}

theorem fills_mapLeavesAllM {cs : List Tree}
    (hcs : ∀ c ∈ cs, ∀ names : List String, names.eraseDups.length ≤ table.ordered.length →
      table.Fills (names ++ occurrences c)
        ((c.mapLeavesM aliasName).run (table.filled names.eraseDups)))
    (names : List String) (hlen : names.eraseDups.length ≤ table.ordered.length) :
    table.Fills (names ++ cs.flatMap occurrences)
      ((mapLeavesAllM aliasName cs).run (table.filled names.eraseDups)) := by
  induction cs generalizing names with
  | nil =>
    rw [List.flatMap_nil, List.append_nil]
    exact .done [] hlen
  | cons c cs ih =>
    rw [List.forall_mem_cons] at hcs
    rw [List.flatMap_cons, ← List.append_assoc, mapLeavesAllM]
    refine (hcs.1 names hlen).bind fun r hc => ?_
    exact (ih hcs.2 _ hc).map (r :: ·)

variable (hnodup : table.words.Nodup) (hfirst : table.strategy = .firstUnused)
include hnodup hfirst

/-- A generated identifier is known, or takes the next word, or finds no word left. -/
theorem fills_marked {names : List String} {name : String} (hm : isMarked name)
    (hlen : names.eraseDups.length ≤ table.ordered.length) :
    table.Fills (names ++ [name])
      ((aliasName (.symbol name)).run (table.filled names.eraseDups)) := by
  by_cases hmem : name ∈ names
  · have hsame : (names ++ [name]).eraseDups = names.eraseDups := by
      rw [eraseDups_concat, if_pos hmem, List.append_nil]
    obtain ⟨word, hword⟩ := Table.wordFor_filled_of_mem hlen (List.mem_eraseDups.mpr hmem)
    rw [aliasName_run_of_ok hm hword, ← hsame]
    exact .done _ (hsame ▸ hlen)
  · have hnew : (names ++ [name]).eraseDups = names.eraseDups ++ [name] := by
      rw [eraseDups_concat, if_neg hmem]
    have hnot : name ∉ names.eraseDups := fun h => hmem (List.mem_eraseDups.mp h)
    rcases Nat.lt_or_eq_of_le hlen with hlt | heq
    · obtain ⟨word, hword⟩ := Table.wordFor_filled_of_lt hnodup hfirst hlt hnot
      rw [aliasName_run_of_ok hm hword, ← hnew]
      refine .done _ ?_
      rw [hnew, List.length_append]
      exact hlt
    · have hrefused := Table.wordFor_filled_of_eq heq hnot
      have hkept : table.filled names.eraseDups = table.filled (names ++ [name]).eraseDups := by
        rw [hnew, Table.filled_append (Nat.le_of_eq heq.symm)]
      rw [aliasName_run_of_error hm hrefused, hkept]
      refine .stopped ?_
      rw [hnew, ← heq]
      exact List.getElem?_concat_length

/-- One leaf asks for one alias, or for none. -/
theorem fills_aliasName {names : List String} (x : Leaf)
    (hlen : names.eraseDups.length ≤ table.ordered.length) :
    table.Fills (names ++ occurrences (.leaf x))
      ((aliasName x).run (table.filled names.eraseDups)) := by
  cases hx : markedName? (.leaf x) with
  | none =>
    have hnone : occurrences (.leaf x) = [] := by
      simp [occurrences, Tree.subtrees, hx]
    have hplain : isGensym (.leaf x) = false := by
      cases x with
      | symbol name => simpa [markedName?, isGensym] using hx
      | _ => rfl
    rw [hnone, List.append_nil, aliasName_of_not_isGensym hplain]
    exact .done x hlen
  | some name =>
    have hone : occurrences (.leaf x) = [name] := by
      simp [occurrences, Tree.subtrees, hx]
    obtain ⟨heq, hm⟩ := markedName?_eq_some hx
    obtain rfl := Tree.leaf.inj heq
    rw [hone]
    exact fills_marked hnodup hfirst hm hlen

/-- A walk over a tree asks for the aliases of its generated identifiers, from left to right. -/
theorem fills_mapLeavesM (t : Tree) (names : List String)
    (hlen : names.eraseDups.length ≤ table.ordered.length) :
    table.Fills (names ++ occurrences t)
      ((t.mapLeavesM aliasName).run (table.filled names.eraseDups)) := by
  induction t generalizing names with
  | leaf x =>
    rw [Tree.mapLeavesM]
    exact (fills_aliasName hnodup hfirst x hlen).map Tree.leaf
  | node head cs ih =>
    rw [Tree.mapLeavesM, occurrences_node]
    exact (fills_mapLeavesAllM ih names hlen).map (Tree.node head)

end Walk

theorem rename_filled {table : Table} {symbols : List String}
    (hm : ∀ name ∈ symbols, isMarked name) :
    (table.filled symbols).rename = relabel (symbols.zip table.ordered) := by
  funext x
  cases x with
  | symbol name =>
    by_cases hmarked : isMarked name
    · simp [Table.rename, relabel, hmarked, Table.get?, Table.filled]
    · have hnone : (table.filled symbols).get? name = none :=
        Table.get?_filled_of_not_mem fun h => hmarked (hm name h)
      have hlookup : (symbols.zip table.ordered).lookup name = none := hnone
      simp [Table.rename, relabel, hmarked, hlookup]
  | _ => rfl

/-- With a fresh table and the least unused word, the distinct generated identifiers of a tree get
the words of the table in order. If there are words enough, each identifier is replaced by its word;
otherwise the first one without a word is refused, and the table holds the aliases of all those
before it. -/
theorem aliasAll_firstUnused (words : List String) (t : Tree) :
    let table := Table.ofWords words .firstUnused
    table.ordered.Pairwise (· < ·) ∧ table.ordered.Perm table.words ∧
      (aliasAll t).run table =
        if h : (gensyms t).length ≤ table.ordered.length then
          .ok (t.mapLeaves (relabel ((gensyms t).zip table.ordered))) (table.filled (gensyms t))
        else
          .error (.aliasesExhausted ((gensyms t).get ⟨table.ordered.length, Nat.lt_of_not_le h⟩)
            table.ordered.length) (table.filled (gensyms t)) := by
  intro table
  have hnodup : table.words.Nodup := (Table.consistent_ofWords words .firstUnused).words_nodup
  refine ⟨Table.pairwise_ordered hnodup, table.ordered_perm, ?_⟩
  have hfills : table.Fills (occurrences t) ((aliasAll t).run table) := by
    rw [aliasAll_eq_mapLeavesM]
    exact fills_mapLeavesM hnodup rfl t [] (Nat.zero_le _)
  generalize hrun : (aliasAll t).run table = result at hfills
  cases hfills with
  | done r h =>
    have hlen : (gensyms t).length ≤ table.ordered.length := h
    have hrenamed : r = t.mapLeaves (table.filled (gensyms t)).rename := (aliasAll_ok hrun).renamed
    rw [rename_filled fun name => isMarked_of_mem_gensyms] at hrenamed
    rw [dif_pos hlen, hrenamed]
    rfl
  | @stopped name h =>
    obtain ⟨hlt, hname⟩ := List.getElem?_eq_some_iff.mp h
    have hlen : ¬ (gensyms t).length ≤ table.ordered.length := Nat.not_le_of_lt hlt
    rw [dif_neg hlen, ← hname]
    rfl

end CodeTree.Alias
