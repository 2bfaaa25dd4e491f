import CodeTree.Proofs.Tree.Equivalence

/-! Equality of trees by value and dictionaries keyed by trees. The comparison agrees with
recursion, equal trees have summaries that agree entry by entry and so equal hashes, and a
dictionary keeps the first of all trees that are the same. -/
namespace CodeTree.Tree

section Agreement

mutual

/-- Trees agree if they are nodes of one head whose children agree one by one, or leaves that are
identical or numbers of the same exact value. -/
inductive Agrees : Tree → Tree → Prop
  | identical (x : Leaf) : Agrees (.leaf x) (.leaf x)
  | number {x y : Leaf} {q : ℚ} (hx : x.number? = some q) (hy : y.number? = some q) :
      Agrees (.leaf x) (.leaf y)
  | node (head : String) {cs ds : List Tree} (h : AgreesAll cs ds) :
      Agrees (.node head cs) (.node head ds)

inductive AgreesAll : List Tree → List Tree → Prop
  | nil : AgreesAll [] []
  | cons {c d : Tree} {cs ds : List Tree} (h : Agrees c d) (hs : AgreesAll cs ds) :
      AgreesAll (c :: cs) (d :: ds)

end

mutual

theorem Agrees.same {a b : Tree} (h : Agrees a b) : a.same b := by
  match h with
  | .identical x => exact same_self _
  | .number hx hy =>
    rw [same_leaf, Leaf.same_iff]
    exact .inr ⟨_, hx, hy⟩
  | .node head hs => exact same_node_iff.mpr ⟨_, rfl, hs.forall₂⟩

theorem AgreesAll.forall₂ {cs ds : List Tree} (h : AgreesAll cs ds) :
    List.Forall₂ (fun c d => c.same d) cs ds := by
  match h with
  | .nil => exact .nil
  | .cons h hs => exact .cons h.same hs.forall₂

end

theorem agreesAll_of_forall₂ {cs ds : List Tree} (h : List.Forall₂ (fun c d => c.same d) cs ds)
    (hc : ∀ c ∈ cs, ∀ d, c.same d → Agrees c d) : AgreesAll cs ds := by
  induction h with
  | nil => exact .nil
  | cons hcd _ ih =>
    rw [List.forall_mem_cons] at hc
    exact .cons (hc.1 _ hcd) (ih hc.2)

/-- The comparison with a list of pending pairs is comparison by recursion. -/
theorem same_iff_agrees {a b : Tree} : a.same b ↔ Agrees a b := by
  refine ⟨fun h => ?_, Agrees.same⟩
  induction a generalizing b with
  | leaf x =>
    obtain ⟨y, rfl, hxy⟩ := same_leaf_iff.mp h
    rcases Leaf.same_iff.mp hxy with rfl | ⟨q, hx, hy⟩
    · exact .identical x
    · exact .number hx hy
  | node head cs ih =>
    obtain ⟨ds, rfl, hcs⟩ := same_node_iff.mp h
    exact .node head (agreesAll_of_forall₂ hcs fun c hc d hcd => ih c hc hcd)

theorem equivalence_same : Equivalence fun a b : Tree => a.same b = true where
  refl := same_self
  symm := same_symm
  trans := same_trans

end Agreement

section Summaries

/-- Equality of entries: of leaves by value, of nodes by head and number of children. -/
def Outline.same : Outline → Outline → Bool
  | .leaf x, .leaf y => x.same y
  | .compound h m, .compound k n => h == k && m == n
  | _, _ => false

theorem outline_same {a b : Tree} (h : a.same b) : a.outline.same b.outline := by
  cases a with
  | leaf x =>
    obtain ⟨y, rfl, hxy⟩ := same_leaf_iff.mp h
    exact hxy
  | node head cs =>
    obtain ⟨ds, rfl, hcs⟩ := same_node_iff.mp h
    simp [outline, Outline.same, hcs.length_eq]

/-- Trees that are the same have summaries that agree entry by entry. -/
theorem summary?_same {a b : Tree} (h : a.same b) {head : String} {entries : List Outline}
    (ha : a.summary? = some (head, entries)) :
    ∃ others, b.summary? = some (head, others) ∧
      List.Forall₂ (fun e o => e.same o) entries others := by
  cases a with
  | leaf x => cases ha
  | node k cs =>
    obtain ⟨ds, rfl, hcs⟩ := same_node_iff.mp h
    cases ha
    refine ⟨ds.map outline, rfl, ?_⟩
    rw [List.forall₂_map_left_iff, List.forall₂_map_right_iff]
    exact hcs.imp fun c d hcd => outline_same hcd

end Summaries

/-- How hashes are made: that of a leaf, that of an entry for a node, and that of a node from its
head and the hashes of its entries. -/
structure Hashing where
  leaf : Leaf → Int
  compound : String → Nat → Int
  node : String → List Int → Int

namespace Hashing

def entry (hashing : Hashing) : Outline → Int
  | .leaf x => hashing.leaf x
  | .compound head arity => hashing.compound head arity

/-- The hash of a tree: a node is hashed by its summary. -/
def hash (hashing : Hashing) (t : Tree) : Int :=
  match t.summary? with
  | some (head, entries) => hashing.node head (entries.map hashing.entry)
  | none => hashing.entry t.outline

/-- Leaves of the same value have the same hash. -/
def Respectful (hashing : Hashing) : Prop :=
  ∀ x y : Leaf, x.equals y → hashing.leaf x = hashing.leaf y

variable {hashing : Hashing}

theorem Respectful.entry_eq (hr : hashing.Respectful) {e o : Outline} (h : e.same o) :
    hashing.entry e = hashing.entry o := by
  cases e with
  | leaf x =>
    cases o with
    | leaf y =>
      rcases Bool.or_eq_true_iff.mp h with hxy | hxy
      · rw [beq_iff_eq.mp hxy]
      · exact hr x y hxy
    | compound k n => cases h
  | compound head m =>
    cases o with
    | leaf y => cases h
    | compound k n =>
      obtain ⟨rfl, rfl⟩ : head = k ∧ m = n := by simpa [Outline.same] using h
      rfl

/-- Trees that are the same have the same hash. -/
theorem Respectful.hash_eq (hr : hashing.Respectful) {a b : Tree} (h : a.same b) :
    hashing.hash a = hashing.hash b := by
  cases a with
  | leaf x =>
    obtain ⟨y, rfl, -⟩ := same_leaf_iff.mp h
    exact hr.entry_eq (outline_same h)
  | node head cs =>
    obtain ⟨others, hb, hentries⟩ := summary?_same h rfl
    have hmap : (cs.map outline).map hashing.entry = others.map hashing.entry := by
      rw [← List.forall₂_eq_eq_eq, List.forall₂_map_left_iff, List.forall₂_map_right_iff]
      exact hentries.imp fun e o heo => hr.entry_eq heo
    rw [hash, hash, hb]
    exact congrArg (hashing.node head) hmap

end Hashing

section Dictionaries

/-- The keys of a dictionary to which the trees have been added, in order of entry. A tree is found
among the keys, and not added, if a key with its hash is the same. -/
def distinctKeys (hash : Tree → Int) (ts : List Tree) : List Tree :=
  (ts.foldl (fun keys t =>
    if keys.any fun k => hash k == hash t && k.same t then keys else t :: keys) []).reverse

/-- The trees of a list that are the same as no tree before them. -/
def firstOccurrences (ts : List Tree) : List Tree :=
  (ts.zipIdx.filter fun entry => !(ts.take entry.2).any (·.same entry.1)).map Prod.fst

theorem kept_concat (ts : List Tree) (t : Tree) :
    kept (ts ++ [t]) = if (kept ts).any (·.same t) then kept ts else t :: kept ts := by
  rw [kept, List.foldl_append]
  rfl

theorem firstOccurrences_concat (ts : List Tree) (t : Tree) :
    firstOccurrences (ts ++ [t]) =
      firstOccurrences ts ++ if ts.any (·.same t) then [] else [t] := by
  have hearlier : ts.zipIdx.filter
        (fun entry => !((ts ++ [t]).take entry.2).any (·.same entry.1)) =
      ts.zipIdx.filter fun entry => !(ts.take entry.2).any (·.same entry.1) := by
    refine List.filter_congr fun entry he => ?_
    have hlt : entry.2 < ts.length := List.snd_lt_of_mem_zipIdx he
    rw [List.take_append_of_le_length (Nat.le_of_lt hlt)]
  rw [firstOccurrences, List.zipIdx_append, List.filter_append, List.map_append, hearlier]
  congr 1
  by_cases h : ts.any (·.same t)
  · simp [h]
  · simp [h]

/-- A tree is the same as a kept one if it is the same as any one before it: where a tree was
dropped, one that is the same had been kept. -/
theorem any_kept (ts : List Tree) (t : Tree) : (kept ts).any (·.same t) = ts.any (·.same t) := by
  induction ts using List.reverseRecOn with
  | nil => rfl
  | append_singleton ts s ih =>
    rw [kept_concat, List.any_append, ← ih]
    split
    · rename_i hs
      obtain ⟨k, hk, hks⟩ := List.any_eq_true.mp hs
      by_cases hst : s.same t
      · have hany : (kept ts).any (·.same t) = true :=
          List.any_eq_true.mpr ⟨k, hk, same_trans hks hst⟩
        simp [hany]
      · simp [hst]
    · simp [Bool.or_comm]

theorem reverse_kept (ts : List Tree) : (kept ts).reverse = firstOccurrences ts := by
  induction ts using List.reverseRecOn with
  | nil => rfl
  | append_singleton ts t ih =>
    rw [kept_concat, firstOccurrences_concat, ← ih, any_kept]
    split
    · rw [List.append_nil]
    · rw [List.reverse_cons]

theorem distinct_eq_firstOccurrences (ts : List Tree) : distinct ts = firstOccurrences ts :=
  reverse_kept ts

/-- Hashes that are the same for trees that are the same hide no key. -/
theorem distinctKeys_eq_distinct {hash : Tree → Int}
    (hh : ∀ a b : Tree, a.same b → hash a = hash b) (ts : List Tree) :
    distinctKeys hash ts = distinct ts := by
  have hfound (k t : Tree) : (hash k == hash t && k.same t) = k.same t := by
    cases hkt : k.same t with
    | false => rw [Bool.and_false]
    | true => rw [Bool.and_true, beq_iff_eq.mpr (hh k t hkt)]
  simp only [distinctKeys, distinct, kept, hfound]

end Dictionaries

/-- Equality of trees is comparison by recursion and an equivalence. Trees that are the same agree
in their summaries, and if the hashes of leaves respect equality, a dictionary drops exactly the
trees that are the same as an earlier one. -/
theorem same_lawful (hashing : Hashing) (hr : hashing.Respectful) :
    (∀ a b : Tree, a.same b ↔ Agrees a b) ∧
      (∀ (head : String) (cs : List Tree) (b : Tree),
        (node head cs).equals b = (node head cs).same b) ∧
      Equivalence (fun a b : Tree => a.same b = true) ∧
      (∀ a b : Tree, a.same b → ∀ head entries, a.summary? = some (head, entries) →
        ∃ others, b.summary? = some (head, others) ∧
          List.Forall₂ (fun e o => e.same o) entries others) ∧
      (∀ a b : Tree, a.same b → hashing.hash a = hashing.hash b) ∧
      ∀ ts, distinctKeys hashing.hash ts = firstOccurrences ts ∧
        distinct ts = firstOccurrences ts := by
  have hhash (a b : Tree) (h : a.same b) : hashing.hash a = hashing.hash b := hr.hash_eq h
  refine ⟨fun a b => same_iff_agrees, fun head cs b => rfl, equivalence_same, ?_, hhash, ?_⟩
  · intro a b h head entries ha
    exact summary?_same h ha
  · intro ts
    have hdistinct := distinct_eq_firstOccurrences ts
    exact ⟨(distinctKeys_eq_distinct hhash ts).trans hdistinct, hdistinct⟩

/-- Numbers are hashed by the integer part of their exact value. -/
def valueHashing : Hashing where
  leaf x := (x.number?.map Rat.floor).getD 0
  compound head arity := head.length + arity
  node head hashes := hashes.foldl (fun sum hash => 31 * sum + hash) head.length

theorem respectful_valueHashing : valueHashing.Respectful := by
  intro x y h
  have hsame : x.same y := Bool.or_eq_true_iff.mpr (.inr h)
  rcases Leaf.same_iff.mp hsame with rfl | ⟨q, hx, hy⟩
  · rfl
  · simp [valueHashing, hx, hy]

/-- One as an integer, a boolean and a float, each before NaN, which is the same as itself; two to
the fifty-third as an integer and a float; the integer after it, which no float is equal to; and two
routines of one name, of which the first comes twice. -/
def lookalikes : List Tree :=
  [.node "f" [.leaf (.integer 1), .leaf (.float .nan)],
   .node "f" [.leaf (.boolean true), .leaf (.float .nan)],
   .node "f" [.leaf (.integer 9007199254740993)],
   .node "f" [.leaf (.float (.ofRatio false 9007199254740992 1))],
   .node "f" [.leaf (.float (.ofRatio false 1 1)), .leaf (.float .nan)],
   .node "f" [.leaf (.integer 9007199254740992)],
   .node "f" [.leaf (.routine ⟨0, "g", false⟩)],
   .node "f" [.leaf (.routine ⟨1, "g", false⟩)],
   .node "f" [.leaf (.routine ⟨0, "g", false⟩)]]

theorem same_lawful_lookalikes :
    valueHashing.Respectful ∧
      distinctKeys valueHashing.hash lookalikes =
        [.node "f" [.leaf (.integer 1), .leaf (.float .nan)],
          .node "f" [.leaf (.integer 9007199254740993)],
          .node "f" [.leaf (.float (.ofRatio false 9007199254740992 1))],
          .node "f" [.leaf (.routine ⟨0, "g", false⟩)],
          .node "f" [.leaf (.routine ⟨1, "g", false⟩)]] := by
  have hr := respectful_valueHashing
  obtain ⟨-, -, -, -, -, hkeys⟩ := same_lawful valueHashing hr
  refine ⟨hr, (hkeys lookalikes).1.trans ?_⟩
  decide +kernel

end CodeTree.Tree
