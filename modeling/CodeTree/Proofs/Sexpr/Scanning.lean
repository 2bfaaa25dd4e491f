import CodeTree.Proofs.Sexpr.Lexical

/-! A scan follows maximal munch from the left as far as that goes: to the end of the text, or to
the first character where no lexeme fits. The offset of a token counts the characters before it. -/
namespace CodeTree.Sexpr

section Equations

theorem scanFrom_of_skipped {c : Char} {rest after : List Char} {n : Nat}
    (h : piece c rest = .skipped n after) (offset : Nat) :
    scanFrom offset (c :: rest) = scanFrom (offset + n) after := by
  rw [scanFrom]
  split
  all_goals simp_all

theorem scanFrom_of_token {c : Char} {rest after : List Char} {t : Token} {n : Nat}
    (h : piece c rest = .token t n after) (offset : Nat) :
    scanFrom offset (c :: rest) =
      ⟨⟨t, offset⟩ :: (scanFrom (offset + n) after).lexemes,
        (scanFrom (offset + n) after).stuck⟩ := by
  rw [scanFrom]
  split
  all_goals simp_all

theorem scanFrom_of_stuck {c : Char} {rest : List Char} (h : piece c rest = .stuck)
    (offset : Nat) : scanFrom offset (c :: rest) = ⟨[], some offset⟩ := by
  rw [scanFrom]
  split
  all_goals simp_all

theorem scanFrom_nil (offset : Nat) : scanFrom offset [] = ⟨[], none⟩ := by
  rw [scanFrom]

theorem scanFrom_spaces {gap : List Char} (hg : ∀ c ∈ gap, isSpace c) (rest : List Char)
    (offset : Nat) : scanFrom offset (gap ++ rest) = scanFrom (offset + gap.length) rest := by
  induction gap generalizing offset with
  | nil => rfl
  | cons c gap ih =>
    have hlen : offset + 1 + gap.length = offset + (c :: gap).length := by
      rw [List.length_cons]
      omega
    rw [List.cons_append, scanFrom_of_skipped (piece_space _ (hg c List.mem_cons_self)),
      ih fun d hd => hg d (List.mem_cons_of_mem _ hd), hlen]

end Equations

section Munching

theorem Lexical.ne_nil {lexeme : List Char} {kind : Option Token} (h : Lexical lexeme kind) :
    lexeme ≠ [] := by
  rintro rfl
  cases h with
  | space hne => exact hne rfl
  | atom ha => cases ha

/-- The text goes on, and neither a token nor anything ignored stands at its front. -/
structure Blocked (cs : List Char) : Prop where
  ne_nil : cs ≠ []
  no_lexeme : ∀ lexeme kind, Lexical lexeme kind → ¬ lexeme <+: cs

theorem Munches.not_blocked {cs lexeme rest : List Char} {kind : Option Token}
    (h : Munches cs lexeme kind rest) : ¬ Blocked cs :=
  fun hb => hb.no_lexeme lexeme kind h.lexical ⟨rest, h.split.symm⟩

theorem blocked_of_stuck {c : Char} {rest : List Char} (h : piece c rest = .stuck) :
    Blocked (c :: rest) where
  ne_nil := List.cons_ne_nil c rest
  no_lexeme := by
    have hc : isSpace c = false := by
      by_cases hs : isSpace c
      · cases (piece_space rest hs).symm.trans h
      · simpa using hs
    rintro lexeme kind hl ⟨after, heq⟩
    cases lexeme with
    | nil => exact hl.ne_nil rfl
    | cons d body =>
      rw [List.cons_append] at heq
      obtain ⟨rfl, rfl⟩ := List.cons.inj heq
      have hlen := hl.length_le_piece hc after
      rw [h, Piece.length, List.length_cons] at hlen
      omega

/-- At the front of a text that goes on there is a longest lexeme, or none at all. -/
theorem munches_or_stuck (c : Char) (rest : List Char) :
    (∃ lexeme kind after, Munches (c :: rest) lexeme kind after) ∨ piece c rest = .stuck := by
  by_cases hs : isSpace c
  · exact .inl ⟨_, _, _, munches_space rest hs⟩
  have hc : isSpace c = false := by simpa using hs
  cases hp : piece c rest with
  | skipped n after =>
    obtain ⟨body, rfl, hl, rfl⟩ := lexical_of_skipped hc hp
    exact .inl ⟨_, _, _, munches_of_lexical hc hl (by rw [hp, Piece.length])⟩
  | token t n after =>
    obtain ⟨body, rfl, hl, rfl⟩ := lexical_of_token hp
    exact .inl ⟨_, _, _, munches_of_lexical hc hl (by rw [hp, Piece.length])⟩
  | stuck => exact .inr rfl

theorem Blocked.scanFrom {cs : List Char} (h : Blocked cs) (offset : Nat) :
    scanFrom offset cs = ⟨[], some offset⟩ := by
  cases cs with
  | nil => exact absurd rfl h.ne_nil
  | cons c rest =>
    rcases munches_or_stuck c rest with ⟨lexeme, kind, after, hm⟩ | hp
    · exact absurd h hm.not_blocked
    · exact scanFrom_of_stuck hp offset

theorem Munches.length_lt {cs lexeme rest : List Char} {kind : Option Token}
    (h : Munches cs lexeme kind rest) : rest.length < cs.length := by
  have hpos := List.length_pos_iff.mpr h.lexical.ne_nil
  rw [h.split, List.length_append]
  omega

theorem Munches.scanFrom_ignored {cs lexeme rest : List Char} (h : Munches cs lexeme none rest)
    (offset : Nat) : scanFrom offset cs = scanFrom (offset + lexeme.length) rest := by
  obtain rfl := h.split
  rcases h.lexical.isSpace_or with ⟨-, hs⟩ | ⟨c, body, rfl, hc⟩
  · exact scanFrom_spaces hs rest offset
  · exact scanFrom_of_skipped (Munches.piece_eq h hc) offset

theorem Munches.scanFrom_token {cs lexeme rest : List Char} {t : Token}
    (h : Munches cs lexeme (some t) rest) (offset : Nat) :
    scanFrom offset cs = ⟨⟨t, offset⟩ :: (scanFrom (offset + lexeme.length) rest).lexemes,
      (scanFrom (offset + lexeme.length) rest).stuck⟩ := by
  obtain rfl := h.split
  rcases h.lexical.isSpace_or with ⟨hkind, -⟩ | ⟨c, body, rfl, hc⟩
  · cases hkind
  · exact scanFrom_of_token (Munches.piece_eq h hc) offset

end Munching

section Reaching

/-- Maximal munch from the left takes the front off the text as the tokens, with what is ignored
between them, and gets to the rest. -/
inductive Reaches : List Char → List Char → List Token → List Char → Prop
  | start (cs : List Char) : Reaches cs [] [] cs
  | ignored {cs lexeme mid front rest : List Char} {ts : List Token}
      (h : Munches cs lexeme none mid) (hr : Reaches mid front ts rest) :
      Reaches cs (lexeme ++ front) ts rest
  | token {cs lexeme mid front rest : List Char} {t : Token} {ts : List Token}
      (h : Munches cs lexeme (some t) mid) (hr : Reaches mid front ts rest) :
      Reaches cs (lexeme ++ front) (t :: ts) rest

theorem Reaches.split {cs front rest : List Char} {ts : List Token}
    (h : Reaches cs front ts rest) : cs = front ++ rest := by
  induction h with
  | start => rfl
  | ignored h _ ih => rw [List.append_assoc, ← ih, h.split]
  | token h _ ih => rw [List.append_assoc, ← ih, h.split]

theorem Reaches.take {cs front rest : List Char} {ts : List Token}
    (h : Reaches cs front ts rest) : cs.take front.length = front := by
  rw [h.split, List.take_left]

/-- The scan of a text goes on as the scan of what has been reached. -/
theorem Reaches.scanFrom {cs front rest : List Char} {ts : List Token}
    (h : Reaches cs front ts rest) (offset : Nat) :
    ∃ lexemes, lexemes.map Lexeme.token = ts ∧
      Sexpr.scanFrom offset cs =
        ⟨lexemes ++ (Sexpr.scanFrom (offset + front.length) rest).lexemes,
          (Sexpr.scanFrom (offset + front.length) rest).stuck⟩ := by
  induction h generalizing offset with
  | start => exact ⟨[], rfl, rfl⟩
  | @ignored _ lexeme _ front _ _ h _ ih =>
    obtain ⟨lexemes, htokens, hscan⟩ := ih (offset + lexeme.length)
    rw [Nat.add_assoc, ← List.length_append] at hscan
    exact ⟨lexemes, htokens, by rw [h.scanFrom_ignored, hscan]⟩
  | @token _ lexeme _ front _ t _ h _ ih =>
    obtain ⟨lexemes, htokens, hscan⟩ := ih (offset + lexeme.length)
    rw [Nat.add_assoc, ← List.length_append] at hscan
    exact ⟨⟨t, offset⟩ :: lexemes, by rw [List.map_cons, htokens],
      by rw [h.scanFrom_token, hscan, List.cons_append]⟩

/-- Maximal munch gets to every token of a scan. -/
theorem reaches_lexeme {cs : List Char} {offset : Nat} {earlier later : List Lexeme}
    {lexeme : Lexeme} (h : (scanFrom offset cs).lexemes = earlier ++ lexeme :: later) :
    ∃ front rest chars after, Reaches cs front (earlier.map Lexeme.token) rest ∧
      Munches rest chars (some lexeme.token) after ∧ lexeme.offset = offset + front.length ∧
      scanFrom (lexeme.offset + chars.length) after = ⟨later, (scanFrom offset cs).stuck⟩ := by
  induction hn : cs.length using Nat.strongRecOn generalizing cs offset earlier with
  | ind n ih =>
  cases cs with
  | nil => simp [scanFrom_nil] at h
  | cons c rest =>
    rcases munches_or_stuck c rest with ⟨chars, kind, mid, hm⟩ | hp
    · cases kind with
      | none =>
        rw [hm.scanFrom_ignored] at h ⊢
        obtain ⟨front, rest, last, after, hr, ht, hoffset, hlater⟩ := ih _ (hn ▸ hm.length_lt) h rfl
        refine ⟨chars ++ front, rest, last, after, .ignored hm hr, ht, ?_, hlater⟩
        rw [hoffset, List.length_append, Nat.add_assoc]
      | some t =>
        rw [hm.scanFrom_token] at h ⊢
        cases earlier with
        | nil =>
          obtain ⟨rfl, rfl⟩ := List.cons.inj h
          exact ⟨[], c :: rest, chars, mid, .start _, hm, rfl, rfl⟩
        | cons first earlier =>
          obtain ⟨rfl, htail⟩ := List.cons.inj h
          obtain ⟨front, rest, last, after, hr, ht, hoffset, hlater⟩ :=
            ih _ (hn ▸ hm.length_lt) htail rfl
          refine ⟨chars ++ front, rest, last, after, .token hm hr, ht, ?_, hlater⟩
          rw [hoffset, List.length_append, Nat.add_assoc]
    · rw [scanFrom_of_stuck hp] at h
      cases earlier <;> cases h

/-- Maximal munch gets to where a scan ends. -/
theorem reaches_end (offset : Nat) (cs : List Char) :
    ∃ front rest, Reaches cs front ((scanFrom offset cs).lexemes.map Lexeme.token) rest ∧
      ((rest = [] ∧ (scanFrom offset cs).stuck = none) ∨
        (Blocked rest ∧ (scanFrom offset cs).stuck = some (offset + front.length))) := by
  induction hn : cs.length using Nat.strongRecOn generalizing cs offset with
  | ind n ih =>
  cases cs with
  | nil =>
    rw [scanFrom_nil]
    exact ⟨[], [], .start [], .inl ⟨rfl, rfl⟩⟩
  | cons c rest =>
    rcases munches_or_stuck c rest with ⟨chars, kind, mid, hm⟩ | hp
    · obtain ⟨front, last, hr, hend⟩ := ih _ (hn ▸ hm.length_lt) (offset + chars.length) mid rfl
      rw [Nat.add_assoc, ← List.length_append] at hend
      cases kind with
      | none =>
        rw [hm.scanFrom_ignored]
        exact ⟨chars ++ front, last, .ignored hm hr, hend⟩
      | some t =>
        rw [hm.scanFrom_token]
        exact ⟨chars ++ front, last, .token hm hr, hend⟩
    · rw [scanFrom_of_stuck hp]
      exact ⟨[], c :: rest, .start _, .inr ⟨blocked_of_stuck hp, rfl⟩⟩

end Reaching

end CodeTree.Sexpr
