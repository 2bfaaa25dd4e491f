import CodeTree.Alias.Gensym
import CodeTree.Proofs.Number.Numeral

/-! Generated names are fresh. A name has one reading as a tag and a number, whatever the tag, since
no numeral holds the mark; and no counter gives a number twice, whatever calls on other counters
come in between. -/
namespace CodeTree

namespace Number

theorem toList_toString (n : ℤ) :
    (toString n).toList =
      if n < 0 then '-' :: Nat.toDigits 10 n.natAbs else Nat.toDigits 10 n.natAbs := by
  rw [Int.toString_eq_repr, Int.repr_eq_if]
  split_ifs with hpos hneg hneg
  · omega
  · rw [Nat.toList_repr, show n.toNat = n.natAbs by omega]
  · rw [String.toList_append, Nat.toList_repr, show (-n).toNat = n.natAbs by omega]
    rfl
  · omega

theorem signRun_toString (n : ℤ) :
    signRun (toString n).toList = (decide (n < 0), Nat.toDigits 10 n.natAbs) := by
  rw [toList_toString]
  split_ifs with h
  · simp [signRun, h]
  · rw [signRun_numberText (isNumberText_toDigits _), decide_eq_false h]

theorem toString_injective {m n : ℤ} (h : toString m = toString n) : m = n := by
  have hruns : (decide (m < 0), Nat.toDigits 10 m.natAbs) =
      (decide (n < 0), Nat.toDigits 10 n.natAbs) := by
    rw [← signRun_toString, ← signRun_toString, h]
  obtain ⟨hsign, hdigits⟩ := Prod.mk.inj hruns
  rw [← signed_ofDigitChars m, ← signed_ofDigitChars n, hsign, hdigits]

end Number

namespace Alias
open Number

section Name

theorem mark_not_mem_toString (n : ℤ) : mark ∉ (toString n).toList := by
  have hdigits : mark ∉ Nat.toDigits 10 n.natAbs := fun h => by
    have hd : mark.isDigit := isDigit_toDigits h
    exact absurd hd (by decide)
  have hsign : mark ≠ '-' := by decide
  rw [toList_toString]
  split_ifs
  · exact List.not_mem_cons_of_ne_of_not_mem hsign hdigits
  · exact hdigits

/-- A list is taken apart in one way only at the last place of an element. -/
theorem append_cons_inj_of_last {α : Type} {a : α} {front front' back back' : List α}
    (hb : a ∉ back) (hb' : a ∉ back') (h : front ++ a :: back = front' ++ a :: back') :
    front = front' ∧ back = back' := by
  rcases List.append_eq_append_iff.mp h with ⟨mid, rfl, hm⟩ | ⟨mid, rfl, hm⟩
  all_goals
    rcases List.cons_eq_append_iff.mp hm with ⟨rfl, hback⟩ | ⟨mid, rfl, rfl⟩
  · cases hback
    exact ⟨(List.append_nil _).symm, rfl⟩
  · exact absurd (by simp) hb
  · cases hback
    exact ⟨List.append_nil _, rfl⟩
  · exact absurd (by simp) hb'

theorem toList_gensymName (tag : String) (number : ℤ) :
    (gensymName tag number).toList =
      (mark :: mark :: tag.toList) ++ mark :: (toString number).toList := by
  simp [gensymName, mark]

/-- A tag may hold marks and digits of its own: the number is what follows the last mark. -/
theorem gensymName_inj {tag tag' : String} {number number' : ℤ} :
    gensymName tag number = gensymName tag' number' ↔ tag = tag' ∧ number = number' := by
  constructor
  · intro h
    have hlist := congrArg String.toList h
    rw [toList_gensymName, toList_gensymName] at hlist
    obtain ⟨hfront, hback⟩ :=
      append_cons_inj_of_last (mark_not_mem_toString _) (mark_not_mem_toString _) hlist
    simp only [List.cons.injEq, true_and] at hfront
    exact ⟨String.toList_inj.mp hfront, toString_injective (String.toList_inj.mp hback)⟩
  · rintro ⟨rfl, rfl⟩
    rfl

theorem isGensym_gensymName (tag : String) (number : ℤ) :
    isGensym (.symbol (gensymName tag number)) := by
  simp [isGensym, isMarked, toList_gensymName]

end Name

namespace Counters

/-- A call for a fresh name: the counter that numbers it, with the number at which a private one
starts when first used, and the tag. -/
structure Call where
  counter? : Option String := none
  start : Int := 1
  tag : String := ""

/-- Calls made one after another, each with the name that it gets. -/
def gensymAll (cs : Counters) : List Call → List (Call × String)
  | [] => []
  | call :: calls =>
    let (name, after) := cs.gensym call.counter? call.start call.tag
    (call, name) :: after.gensymAll calls

theorem gensymAll_cons (cs : Counters) (call : Call) (calls : List Call) :
    cs.gensymAll (call :: calls) =
      (call, gensymName call.tag (cs.next call.counter? call.start)) ::
        (cs.advance call.counter? (cs.next call.counter? call.start + 1)).gensymAll calls :=
  rfl

theorem next_advance (cs : Counters) (counter? other? : Option String) (number start : ℤ) :
    (cs.advance counter? number).next other? start =
      if other? = counter? then number else cs.next other? start := by
  cases counter? with
  | none => cases other? <;> rfl
  | some counter =>
    cases other? with
    | none => rfl
    | some other =>
      by_cases h : other = counter
      · simp [advance, next, h]
      · have hne : (other == counter) = false := beq_false_of_ne h
        simp [advance, next, List.lookup_cons, h, hne]

/-- No call takes a counter back. -/
theorem le_next_advance {cs : Counters} {counter? : Option String} {n : ℤ}
    (h : ∀ start, n ≤ cs.next counter? start) (call : Call) (start : ℤ) :
    n ≤ (cs.advance call.counter? (cs.next call.counter? call.start + 1)).next counter? start := by
  rw [next_advance]
  split_ifs with hc
  · subst hc
    have hcall := h call.start
    omega
  · exact h start

/-- Once a counter has come to a number, no later call on it draws a smaller one. -/
theorem exists_number_of_mem {cs : Counters} {calls : List Call} {counter? : Option String} {n : ℤ}
    (h : ∀ start, n ≤ cs.next counter? start) {made : Call × String}
    (hm : made ∈ cs.gensymAll calls) (hc : made.1.counter? = counter?) :
    ∃ number, n ≤ number ∧ made.2 = gensymName made.1.tag number := by
  induction calls generalizing cs with
  | nil => cases hm
  | cons call calls ih =>
    rw [gensymAll_cons] at hm
    rcases List.mem_cons.mp hm with rfl | hm
    · subst hc
      exact ⟨_, h call.start, rfl⟩
    · exact ih (le_next_advance h call) hm

theorem map_fst_gensymAll (cs : Counters) (calls : List Call) :
    (cs.gensymAll calls).map Prod.fst = calls := by
  induction calls generalizing cs with
  | nil => rfl
  | cons call calls ih => rw [gensymAll_cons, List.map_cons, ih]

theorem pairwise_gensymAll (cs : Counters) (calls : List Call) :
    (cs.gensymAll calls).Pairwise fun a b => a.1.counter? = b.1.counter? → a.2 ≠ b.2 := by
  induction calls generalizing cs with
  | nil => exact .nil
  | cons call calls ih =>
    rw [gensymAll_cons, List.pairwise_cons]
    refine ⟨fun made hm hc heq => ?_, ih _⟩
    -- After this call its counter stands past the number drawn, from wherever it started.
    have hpast : ∀ start, cs.next call.counter? call.start + 1 ≤
        (cs.advance call.counter? (cs.next call.counter? call.start + 1)).next
          call.counter? start := by
      intro start
      rw [next_advance, if_pos rfl]
    obtain ⟨number, hle, hname⟩ := exists_number_of_mem hpast hm hc.symm
    have hnumber := (gensymName_inj.mp (heq.trans hname)).2
    omega

theorem isGensym_of_mem {cs : Counters} {calls : List Call} {made : Call × String}
    (hm : made ∈ cs.gensymAll calls) : isGensym (.symbol made.2) := by
  induction calls generalizing cs with
  | nil => cases hm
  | cons call calls ih =>
    rw [gensymAll_cons] at hm
    rcases List.mem_cons.mp hm with rfl | hm
    · exact isGensym_gensymName _ _
    · exact ih hm

/-- Fresh names from any state of the counters on. Every call gets a name that is told as generated,
and two calls on one counter, shared or private, never get the same one. -/
theorem gensymAll_fresh (cs : Counters) (calls : List Call) :
    (cs.gensymAll calls).map Prod.fst = calls ∧
      ((cs.gensymAll calls).Pairwise fun a b => a.1.counter? = b.1.counter? → a.2 ≠ b.2) ∧
      ∀ made ∈ cs.gensymAll calls, isGensym (.symbol made.2) :=
  ⟨map_fst_gensymAll cs calls, pairwise_gensymAll cs calls, fun _ hm => isGensym_of_mem hm⟩

/-- Tags that end like names of other calls, and a private counter that starts below zero. -/
example :
    (gensymAll {} [{ tag := "a#1" }, { counter? := some "own", start := -1, tag := "a#" },
      { tag := "a" }, { counter? := some "own", tag := "a#" }]).map Prod.snd =
        ["##a#1#1", "##a##-1", "##a#2", "##a##0"] := by
  decide +kernel

end Counters
end Alias
end CodeTree
