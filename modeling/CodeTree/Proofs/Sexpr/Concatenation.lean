import CodeTree.Proofs.Sexpr.Failure
import Mathlib.Control.Monad.Basic

/-! Reading is compositional: a text on the lines after one that is read gives its trees after those
of the first, or its own error, further down by the lines of the first. -/
namespace CodeTree
namespace Text

theorem quotedBody?_append {delimiter : Char} {cs raw after : List Char} (hd : delimiter ≠ '\\')
    (h : quotedBody? delimiter cs = some (raw, after)) (more : List Char) :
    quotedBody? delimiter (cs ++ more) = some (raw, after ++ more) := by
  obtain ⟨rfl, hraw⟩ := inside_of_quotedBody? h
  rw [List.append_assoc, List.cons_append]
  exact quotedBody?_of_inside hd hraw (after ++ more)

end Text

namespace Sexpr

theorem takeWhile_append_line {p : Char → Bool} (hp : p '\n' = false) (cs more : List Char) :
    (cs ++ '\n' :: more).takeWhile p = cs.takeWhile p := by
  induction cs with
  | nil => simp [hp]
  | cons c cs ih => simp only [List.cons_append, List.takeWhile_cons, ih]

theorem dropWhile_append_line {p : Char → Bool} (hp : p '\n' = false) (cs more : List Char) :
    (cs ++ '\n' :: more).dropWhile p = cs.dropWhile p ++ '\n' :: more := by
  induction cs with
  | nil => simp [hp]
  | cons c cs ih =>
    simp only [List.cons_append, List.dropWhile_cons, ih]
    split <;> rfl

end Sexpr

/-- The same column some lines further down. -/
def Position.down (lines : Nat) (p : Position) : Position :=
  { p with line := p.line + lines }

/-- The same error some lines further down. An error without a place stays as it is. -/
def ReadError.down (lines : Nat) : ReadError → ReadError
  | .unexpectedToken p => .unexpectedToken (p.down lines)
  | .unexpectedCharacters p => .unexpectedCharacters (p.down lines)
  | .headNotSymbol head => .headNotSymbol head
  | .headTooDeep => .headTooDeep
  | .overlongInteger => .overlongInteger

theorem Position.after_append_line (front back : List Char) :
    after (front ++ '\n' :: back) = (after back).down (front.count '\n' + 1) := by
  have hcolumn : (front ++ '\n' :: back).reverse.takeWhile (· != '\n') =
      back.reverse.takeWhile (· != '\n') := by
    rw [List.reverse_append, List.reverse_cons, List.append_assoc, List.singleton_append]
    exact Sexpr.takeWhile_append_line (by decide) back.reverse front.reverse
  have hline : 1 + (front.count '\n' + (back.count '\n' + 1)) =
      1 + back.count '\n' + (front.count '\n' + 1) := by omega
  rw [after, after, down, hcolumn, List.count_append, List.count_cons_self, hline]

namespace Sexpr

section Pieces

/-- The piece with more text after it. -/
def Piece.followedBy (more : List Char) : Piece → Piece
  | .skipped n rest => .skipped n (rest ++ more)
  | .token t n rest => .token t n (rest ++ more)
  | .stuck => .stuck

/-- A piece does not go on after a line feed, unless it had no end before. -/
theorem piece_append_line {c : Char} {rest : List Char} (h : piece c rest ≠ .stuck)
    (more : List Char) :
    piece c (rest ++ '\n' :: more) = (piece c rest).followedBy ('\n' :: more) := by
  have hatom : isAtomChar '\n' = false := by decide
  unfold piece at h ⊢
  by_cases hspace : isSpace c
  · simp only [hspace, if_true, Piece.followedBy]
  by_cases hsemi : c = ';'
  · have hline := takeWhile_append_line (p := (· != '\n')) (by decide) rest more
    have hrest := dropWhile_append_line (p := (· != '\n')) (by decide) rest more
    simp only [if_neg hspace, if_pos hsemi, hline, hrest, Piece.followedBy]
  by_cases hopen : c = '('
  · simp only [if_neg hspace, if_neg hsemi, if_pos hopen, Piece.followedBy]
  by_cases hclose : c = ')'
  · simp only [if_neg hspace, if_neg hsemi, if_neg hopen, if_pos hclose, Piece.followedBy]
  by_cases hquote : c = '"'
  · simp only [if_neg hspace, if_neg hsemi, if_neg hopen, if_neg hclose, if_pos hquote] at h ⊢
    cases hbody : Text.quotedBody? '"' rest with
    | none => simp [hbody] at h
    | some found =>
      simp only [Text.quotedBody?_append (by decide) hbody, Piece.followedBy]
  by_cases hbar : c = '|'
  · simp only [if_neg hspace, if_neg hsemi, if_neg hopen, if_neg hclose, if_neg hquote,
      if_pos hbar] at h ⊢
    cases hbody : Text.quotedBody? '|' rest with
    | none => simp [hbody] at h
    | some found =>
      simp only [Text.quotedBody?_append (by decide) hbody, Piece.followedBy]
  · by_cases hstart : isAtomStart c
    · simp only [if_neg hspace, if_neg hsemi, if_neg hopen, if_neg hclose, if_neg hquote,
        if_neg hbar, if_pos hstart, takeWhile_append_line hatom, dropWhile_append_line hatom,
        Piece.followedBy]
    · simp [hspace, hsemi, hopen, hclose, hquote, hbar, hstart] at h

theorem length_of_skipped {c : Char} {rest after : List Char} {n : Nat}
    (h : piece c rest = .skipped n after) : (c :: rest).length = n + after.length := by
  by_cases hs : isSpace c
  · cases (piece_space rest hs).symm.trans h
    rw [List.length_cons, Nat.add_comm]
  · obtain ⟨body, rfl, -, rfl⟩ := lexical_of_skipped (by simpa using hs) h
    rw [List.length_cons, List.length_append]
    omega

theorem length_of_token {c : Char} {rest after : List Char} {t : Token} {n : Nat}
    (h : piece c rest = .token t n after) : (c :: rest).length = n + after.length := by
  obtain ⟨body, rfl, -, rfl⟩ := lexical_of_token h
  rw [List.length_cons, List.length_append]
  omega

end Pieces

section Scans

/-- The scan of the same text after more characters. -/
def Lexeme.shift (k : Nat) (lexeme : Lexeme) : Lexeme :=
  { lexeme with offset := k + lexeme.offset }

theorem scanFrom_add (k offset : Nat) (cs : List Char) :
    scanFrom (k + offset) cs =
      ⟨(scanFrom offset cs).lexemes.map (Lexeme.shift k),
        (scanFrom offset cs).stuck.map (k + ·)⟩ := by
  fun_induction scanFrom offset cs with
  | case1 offset => rw [scanFrom_nil]; rfl
  | case2 offset c rest n after hp _ ih => rw [scanFrom_of_skipped hp, Nat.add_assoc, ih]
  | case3 offset c rest t n after hp _ scan ih =>
    rw [scanFrom_of_token hp, Nat.add_assoc, ih]
    rfl
  | case4 offset c rest hp => rw [scanFrom_of_stuck hp]; rfl

/-- The lines after a text that is cut whole are scanned as if they stood alone. -/
theorem Cuts.scanFrom_append_line {cs : List Char} {ts : List Token} (h : Cuts cs ts)
    (more : List Char) (offset : Nat) :
    ∃ lexemes, lexemes.map Lexeme.token = ts ∧
      Sexpr.scanFrom offset (cs ++ '\n' :: more) =
        ⟨lexemes ++ (Sexpr.scanFrom (offset + (cs.length + 1)) more).lexemes,
          (Sexpr.scanFrom (offset + (cs.length + 1)) more).stuck⟩ := by
  induction h generalizing offset with
  | nil => exact ⟨[], rfl, scanFrom_of_skipped (piece_space more (by decide)) offset⟩
  | @skipped c rest after n ts hp _ ih =>
    have hlen := length_of_skipped hp
    have hmore := piece_append_line (by rw [hp]; nofun) more
    rw [hp] at hmore
    obtain ⟨lexemes, htokens, hscan⟩ := ih (offset + n)
    refine ⟨lexemes, htokens, ?_⟩
    rw [List.cons_append, scanFrom_of_skipped hmore, hscan, hlen, Nat.add_assoc offset,
      Nat.add_assoc n]
  | @token c rest after t n ts hp _ ih =>
    have hlen := length_of_token hp
    have hmore := piece_append_line (by rw [hp]; nofun) more
    rw [hp] at hmore
    obtain ⟨lexemes, htokens, hscan⟩ := ih (offset + n)
    refine ⟨⟨t, offset⟩ :: lexemes, by rw [List.map_cons, htokens], ?_⟩
    rw [List.cons_append, scanFrom_of_token hmore, hscan, hlen, Nat.add_assoc offset,
      Nat.add_assoc n, List.cons_append]

end Scans

section Following

theorem follow_append {single : Bool} {p q : Progress} {lexemes : List Lexeme}
    (h : follow single p lexemes = .ok q) (more : List Lexeme) :
    follow single p (lexemes ++ more) = follow single q more := by
  induction lexemes generalizing p with
  | nil =>
    cases h
    rfl
  | cons lexeme rest ih =>
    rw [List.cons_append, follow]
    rw [follow] at h
    split at h
    · exact ih h
    · cases h

/-- The progress with data that were finished before. -/
def Progress.behind (earlier : List Datum) (p : Progress) : Progress :=
  { p with finished := p.finished ++ earlier }

theorem Progress.add_behind (earlier : List Datum) (p : Progress) (d : Datum) :
    (p.behind earlier).add d = (p.add d).behind earlier := by
  obtain ⟨finished, opened⟩ := p
  cases opened <;> rfl

theorem Progress.next?_behind (earlier : List Datum) (p : Progress) (t : Token) :
    (p.behind earlier).next? false t = (p.next? false t).map (Progress.behind earlier) := by
  obtain ⟨finished, opened⟩ := p
  cases t with
  | opening => rfl
  | closing =>
    cases opened with
    | nil => rfl
    | cons items outer => exact congrArg some (add_behind earlier ⟨finished, outer⟩ _)
  | text raw => exact congrArg some (add_behind earlier _ _)
  | quoted raw => exact congrArg some (add_behind earlier _ _)
  | atom chars => exact congrArg some (add_behind earlier _ _)

/-- Data that were finished before and characters that came before change nothing but the account of
them. -/
theorem follow_behind (earlier : List Datum) (k : Nat) (p : Progress) (lexemes : List Lexeme) :
    follow false (p.behind earlier) (lexemes.map (Lexeme.shift k)) =
      match follow false p lexemes with
      | .ok q => .ok (q.behind earlier)
      | .error offset => .error (k + offset) := by
  induction lexemes generalizing p with
  | nil => rfl
  | cons lexeme rest ih =>
    rw [List.map_cons, follow, follow]
    have hstep : (p.behind earlier).next? false (lexeme.shift k).token =
        (p.next? false lexeme.token).map (Progress.behind earlier) :=
      Progress.next?_behind earlier p lexeme.token
    rw [hstep]
    cases p.next? false lexeme.token with
    | none => rfl
    | some q => exact ih q

end Following

/-- The data of two texts, one on the lines after the other. -/
theorem data_append_line {as bs : List Char} {ds : List Datum} (h : data false as = .ok ds) :
    data false (as ++ '\n' :: bs) =
      match data false bs with
      | .ok es => .ok (ds ++ es)
      | .error e => .error (e.down (as.count '\n' + 1)) := by
  obtain ⟨earlier, htokens, hscan⟩ :=
    (data_false_eq_ok_iff.mp h).scanFrom_append_line bs 0
  have hfirst : follow false .start earlier = .ok (Progress.start.behind ds.reverse) := by
    apply follow_eq_ok
    rw [htokens]
    exact (Progress.run?_data ds []).trans (by rw [List.append_nil]; rfl)
  rw [Nat.zero_add, ← Nat.add_zero (as.length + 1), scanFrom_add] at hscan
  have htake (n : Nat) : (as ++ '\n' :: bs).take (as.length + 1 + n) = as ++ '\n' :: bs.take n := by
    rw [Nat.add_assoc, List.take_length_add_append, Nat.add_comm 1, List.take_succ_cons]
  unfold data
  simp only [scan, hscan, follow_append hfirst, follow_behind]
  cases hf : follow false .start (scanFrom 0 bs).lexemes with
  | error offset =>
    simp only [htake, Position.after_append_line, ReadError.down]
  | ok p =>
    cases hstuck : (scanFrom 0 bs).stuck with
    | some offset =>
      simp only [Option.map_some, htake, Position.after_append_line, ReadError.down]
    | none =>
      have hcomplete : (p.behind ds.reverse).isComplete false = p.isComplete false := rfl
      simp only [Option.map_none, hcomplete]
      by_cases hp : p.isComplete false
      · simp [hp, Progress.behind]
      · -- Some list is open, so the later text has a last token.
        have hne : (scanFrom 0 bs).lexemes ≠ [] := by
          intro hnil
          rw [hnil] at hf
          cases hf
          exact hp rfl
        have hlast := List.getLast?_eq_some_getLast hne
        simp [hp, List.getLast?_append, List.getLast?_map, hlast, Lexeme.shift, htake,
          Position.after_append_line, ReadError.down]

theorem trees_append {stack : Stack} {ds es : List Datum} {ts : List Tree}
    (h : trees stack ds = .ok ts) :
    trees stack (ds ++ es) = (trees stack es).map (ts ++ ·) := by
  induction ds generalizing ts with
  | nil =>
    cases h
    rw [List.nil_append]
    cases trees stack es <;> rfl
  | cons d ds ih =>
    obtain ⟨t, rest, hd, hds, rfl⟩ := trees_cons_eq_ok_iff.mp h
    rw [List.cons_append, trees, hd, ih hds]
    cases trees stack es <;> rfl

/-- What the data of a text denote has no place in it. -/
theorem down_of_trees {stack : Stack} {ds : List Datum} {e : ReadError}
    (h : trees stack ds = .error e) (lines : Nat) : e.down lines = e := by
  obtain ⟨d, -, hf⟩ := (trees_eq_error_iff.mp h).exists_faulty
  cases hf <;> rfl

end Sexpr
open Sexpr

/-- Reading a text with further lines after it. -/
theorem readAll_append_line {stack : Stack} {a b : String} {ts : List Tree}
    (h : readAll stack a = .ok ts) :
    (∀ us, readAll stack b = .ok us → readAll stack (a ++ "\n" ++ b) = .ok (ts ++ us)) ∧
      (∀ e, readAll stack b = .error e →
        readAll stack (a ++ "\n" ++ b) = .error (e.down (a.toList.count '\n' + 1))) := by
  have hlist : (a ++ "\n" ++ b).toList = a.toList ++ '\n' :: b.toList := by simp
  obtain ⟨ds, hds, hts⟩ : ∃ ds, data false a.toList = .ok ds ∧ trees stack ds = .ok ts := by
    rw [readAll_eq_bind] at h
    cases hds : data false a.toList with
    | error e =>
      rw [hds] at h
      cases h
    | ok ds =>
      rw [hds] at h
      exact ⟨ds, rfl, h⟩
  rw [readAll_eq_bind, readAll_eq_bind, hlist, data_append_line hds]
  cases data false b.toList with
  | error e =>
    refine ⟨nofun, fun e' he => ?_⟩
    cases he
    rfl
  | ok es =>
    refine ⟨fun us hus => ?_, fun e he => ?_⟩
    · change trees stack (ds ++ es) = _
      change trees stack es = _ at hus
      rw [trees_append hts, hus]
      rfl
    · change trees stack (ds ++ es) = _
      change trees stack es = _ at he
      rw [trees_append hts, he, down_of_trees he]
      rfl

theorem readAll_append_line_commentBeforeError :
    readAll (.ofRoom 1000) "(f \"\n\") ; note" = .ok [.node "f" [.leaf (.text "\n")]] ∧
      readAll (.ofRoom 1000) "(g\n  1))" = .error (.unexpectedToken ⟨2, 5⟩) ∧
      readAll (.ofRoom 1000) ("(f \"\n\") ; note" ++ "\n" ++ "(g\n  1))") =
        .error (.unexpectedToken ⟨4, 5⟩) := by
  have hfirst : readAll (.ofRoom 1000) "(f \"\n\") ; note" =
      .ok [.node "f" [.leaf (.text "\n")]] := by
    decide +kernel
  have hsecond : readAll (.ofRoom 1000) "(g\n  1))" = .error (.unexpectedToken ⟨2, 5⟩) := by
    decide +kernel
  exact ⟨hfirst, hsecond, (readAll_append_line hfirst).2 _ hsecond⟩

end CodeTree
