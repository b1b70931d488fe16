import Mathlib.Logic.Function.Iterate
import Reckon.Proofs.Recovery

/-! Reading a program again with a parser that has already read one. Nothing more comes of it: a
parser that is through has no tokens left, and one that failed still stands at the literal that made
it fail, with no expression begun. It is so for the parser on the tokens and, as that one keeps step
with it, for the parser with its window. -/

namespace Reckon

/-- A number that no operand can be. -/
def LiteralError.token (e : LiteralError) : Token := ⟨.number, e.literal⟩

/-- Only where an operand has to come does a token end the parse, and then by being a number. -/
theorem Want.of_failure_eq_literal {w : Want} {t : Token} {e : LiteralError}
    (hr : w.Refuses t) (h : w.failure t = .literal e) :
    (w = .statement ∨ w = .operand) ∧ t = e.token ∧ ¬ t.StartsOperand := by
  have hw : (w = .statement ∨ w = .operand) ∧ ¬ t.StartsOperand := by
    cases w with
    | statement => exact ⟨.inl rfl, hr.2⟩
    | operand => exact ⟨.inr rfl, hr⟩
    | name | typeName | value | rightParen | semicolon | depth => cases h
  have hf : w.failure t =
      if t.kind = .number then .literal ⟨t.lexeme⟩ else .malformed (.unexpected t) := by
    rcases hw.1 with rfl | rfl <;> rfl
  rw [hf] at h
  split at h
  · rename_i hk
    cases h
    exact ⟨hw.1, by rw [LiteralError.token, ← hk], hw.2⟩
  · cases h

/-- Where the tokens are at an end, a literal is never at fault. -/
theorem outcome_of_operand {p : List Token} {w : Want} (hs : Segment p [])
    (hp : Statement.Expects maxDepth p w) (hw : w = .statement ∨ w = .operand) :
    ∃ s, outcome p = .ok s := by
  have hr : w.Refuses .endMarker := by
    rcases hw with rfl | rfl
    · exact ⟨by decide, id⟩
    · exact id
  have ho := outcome_of_expects (r := []) (by rwa [List.append_nil]) hp hr
  rw [List.append_nil, List.append_nil] at ho
  rw [ho]
  rcases hw with rfl | rfl <;> exact ⟨_, rfl⟩

/-- A segment is read to its end, or up to a number that is too large. -/
theorem segment_outcome_cases {seg rest : List Token} (h : Segment seg rest) :
    (∃ s, outcome seg = .ok s) ∨
      ∃ p e r, seg = p ++ e.token :: r ∧ ¬ e.token.StartsOperand ∧
        (p ≠ [] → Segment p [] ∧ ∃ s, outcome p = .ok s) ∧
        Parser.statement ⟨seg ++ rest, 0⟩ = .error e ⟨e.token :: (r ++ rest), 0⟩ := by
  rcases segment_cases h with ⟨s, hs⟩ | ⟨p, r, w, rfl, hp, hr⟩
  · exact .inl ⟨s, by simpa using outcome_of_derives hs []⟩
  cases hf : w.failure (r.headD .endMarker) with
  | malformed fault =>
    have ho := outcome_of_expects h.alone hp hr
    rw [List.append_nil, hf] at ho
    exact .inl ⟨_, ho⟩
  | literal e =>
    obtain ⟨hw, ht, hn⟩ := Want.of_failure_eq_literal hr hf
    have hs := statement_of_expects h hp hr
    rw [hf] at hs
    cases r with
    | nil => cases ht
    | cons t r =>
      cases ht
      refine .inr ⟨p, e, r, rfl, hn, fun hne => ?_, hs⟩
      have hseg := h.of_append hne (by simp)
      exact ⟨hseg, outcome_of_operand hseg hp hw⟩

namespace Parser

theorem statement_of_token {e : LiteralError} (h : ¬ e.token.StartsOperand) (ts : List Token) :
    statement ⟨e.token :: ts, 0⟩ = .error e ⟨e.token :: ts, 0⟩ := by
  have hr : Want.statement.Refuses ((e.token :: ts).headD .endMarker) := ⟨nofun, h⟩
  have hs := readsStatement.expects (r := e.token :: ts) .start hr
  rw [List.nil_append] at hs
  rw [statement, hs]
  rfl

theorem program_of_nil : program ⟨[], 0⟩ = .ok [] ⟨[], 0⟩ := by
  rw [program, dif_pos rfl]

theorem program_of_outcome {seg rest : List Token} {s : Statement} (h : Segment seg rest)
    (ho : outcome seg = .ok s) :
    program ⟨seg ++ rest, 0⟩ = match program ⟨rest, 0⟩ with
      | .ok ss r => .ok (s :: ss) r
      | .error e r => .error e r :=
  program_of_ok (by simp [h.ne_nil]) (statement_of_outcome_ok h ho)

theorem program_cases (ts : List Token) :
    (∃ p, program ⟨ts, 0⟩ = .ok p ⟨[], 0⟩) ∨
      ∃ before e after, ts = before ++ e.token :: after ∧ ¬ e.token.StartsOperand ∧
        (∃ p, program ⟨before, 0⟩ = .ok p ⟨[], 0⟩) ∧
        program ⟨ts, 0⟩ = .error e ⟨e.token :: after, 0⟩ := by
  generalize hs : segments ts = segs
  induction segs generalizing ts with
  | nil =>
    obtain rfl := segments_eq_nil_iff.1 hs
    exact .inl ⟨[], program_of_nil⟩
  | cons seg segs ih =>
    obtain ⟨rfl, hr, h⟩ := segments_eq_cons hs
    rcases segment_outcome_cases h with ⟨s, ho⟩ | ⟨p, e, r, rfl, hn, hp, he⟩
    · rw [program_of_outcome h ho]
      rcases ih _ hr with ⟨ss, hss⟩ | ⟨before, e, after, hts, hn, ⟨ss, hss⟩, he⟩
      · rw [hss]
        exact .inl ⟨s :: ss, rfl⟩
      · rw [he]
        have hb := h.of_rest_ne_nil (by simp [hts]) before
        refine .inr ⟨seg ++ before, e, after, by simp [hts], hn, ⟨s :: ss, ?_⟩, rfl⟩
        rw [program_of_outcome hb ho, hss]
    · refine .inr ⟨p, e, r ++ segs.flatten, by simp, hn, ?_, program_of_error (by simp) he⟩
      by_cases hne : p = []
      · subst hne
        exact ⟨[], program_of_nil⟩
      · obtain ⟨hseg, s, ho⟩ := hp hne
        refine ⟨[s], ?_⟩
        rw [← List.append_nil p, program_of_outcome hseg ho, program_of_nil]

/-- The parser as reading a program leaves it. -/
def afterProgram (p : Parser) : Parser :=
  match p.program with
  | .ok _ q => q
  | .error _ q => q

theorem afterProgram_of_ok {p q : Parser} {ss : Program} (h : p.program = .ok ss q) :
    p.afterProgram = q := by
  rw [afterProgram, h]

theorem afterProgram_of_error {p q : Parser} {e : LiteralError} (h : p.program = .error e q) :
    p.afterProgram = q := by
  rw [afterProgram, h]

theorem program_of_token {e : LiteralError} (h : ¬ e.token.StartsOperand) (ts : List Token) :
    program ⟨e.token :: ts, 0⟩ = .error e ⟨e.token :: ts, 0⟩ :=
  program_of_error (by simp) (statement_of_token h ts)

end Parser

/-- Where another reading changes nothing, every further one finds the same. -/
theorem iterate_of_fixed {α : Type} {f : α → α} {a b : α} (ha : f a = b) (hb : f b = b) (n : Nat) :
    f^[n + 1] a = b := by
  rw [Function.iterate_succ_apply, ha]
  exact Function.iterate_fixed hb n

/-- The tokens of a text around one of them, with the end marker for the next one if it is the
last. -/
theorem tokenize_of_tokens {source : String} {before after : List Token} {t : Token}
    (h : (Lexer.ofString source).tokens = before ++ t :: after) :
    tokenize source =
      before ++ t :: after.headD .endMarker :: (after ++ [Token.endMarker]).tail := by
  rw [tokenize, h]
  cases after <;> simp

/-- Whatever the first reading of a program comes to, every later one comes to no more. After a
success the tokens are used up. After a failure the parser stands at the literal, before which
everything was read, and fails at it again. -/
theorem program_again (source : String) :
    (∀ p q, (Parser.ofString source).program = .ok p q →
      q.current = .endMarker ∧ q.ahead = .endMarker ∧ q.depth = 0 ∧
      ∀ n, Parser.afterProgram^[n + 1] (.ofString source) = q ∧
        (Parser.afterProgram^[n + 1] (.ofString source)).program = .ok [] q) ∧
    ∀ e q, (Parser.ofString source).program = .error e q →
      q.current = ⟨.number, e.literal⟩ ∧ q.depth = 0 ∧
      (∃ before after, tokenize source = before ++ q.current :: q.ahead :: after ∧
        ∃ p r, Parser.program ⟨before, 0⟩ = .ok p r) ∧
      ∀ n, Parser.afterProgram^[n + 1] (.ofString source) = q ∧
        (Parser.afterProgram^[n + 1] (.ofString source)).program = .error e q := by
  rcases Parser.program_cases (Lexer.ofString source).tokens with
    ⟨p, hp⟩ | ⟨before, e, after, hts, hn, ⟨p, hp⟩, he⟩
  · refine ⟨fun p' q hq => ?_, fun e q hq => nomatch hq.symm.trans hp⟩
    cases hq.symm.trans hp
    have hi := iterate_of_fixed (Parser.afterProgram_of_ok hq)
      (Parser.afterProgram_of_ok Parser.program_of_nil)
    exact ⟨rfl, rfl, rfl, fun n => ⟨hi n, by rw [hi n]; exact Parser.program_of_nil⟩⟩
  · refine ⟨fun p' q hq => (nomatch hq.symm.trans he), fun e' q hq => ?_⟩
    cases hq.symm.trans he
    have ha := Parser.program_of_token hn after
    have hi := iterate_of_fixed (Parser.afterProgram_of_error hq)
      (Parser.afterProgram_of_error ha)
    exact ⟨rfl, rfl, ⟨before, _, tokenize_of_tokens hts, p, _, hp⟩,
      fun n => ⟨hi n, by rw [hi n]; exact ha⟩⟩

theorem program_again_nested :
    (Parser.ofString "x").program = .ok [.bad "failed to find semicolon"] ⟨[], 0⟩ ∧
      (∀ n, (Parser.afterProgram^[n + 1] (.ofString "x")).program = .ok [] ⟨[], 0⟩) ∧
      (Parser.ofString "-(9223372036854775808);").program =
        .error ⟨"9223372036854775808"⟩
          ⟨[⟨.number, "9223372036854775808"⟩, .rightParen, .semicolon], 0⟩ ∧
      ∀ n, (Parser.afterProgram^[n + 1] (.ofString "-(9223372036854775808);")).program =
        .error ⟨"9223372036854775808"⟩
          ⟨[⟨.number, "9223372036854775808"⟩, .rightParen, .semicolon], 0⟩ := by
  have ht₁ : (Lexer.ofString "x").tokens = [⟨.name, "x"⟩] := by decide +kernel
  have ht₂ : (Lexer.ofString "-(9223372036854775808);").tokens =
      [⟨.minus, "-"⟩, .leftParen, ⟨.number, "9223372036854775808"⟩, .rightParen, .semicolon] := by
    decide +kernel
  have h₁ : (Parser.ofString "x").program = .ok [.bad "failed to find semicolon"] ⟨[], 0⟩ := by
    have hs : Parser.statement ⟨[⟨.name, "x"⟩], 0⟩ =
        .ok (.bad "failed to find semicolon") ⟨[], 0⟩ := rfl
    rw [Parser.ofString, ht₁, Parser.program_of_ok (by simp) hs, Parser.program_of_nil]
  have h₂ : (Parser.ofString "-(9223372036854775808);").program =
      .error ⟨"9223372036854775808"⟩
        ⟨[⟨.number, "9223372036854775808"⟩, .rightParen, .semicolon], 0⟩ := by
    rw [Parser.ofString, ht₂]
    exact Parser.program_of_error (by simp) rfl
  obtain ⟨-, -, -, hn₁⟩ := (program_again "x").1 _ _ h₁
  obtain ⟨-, -, -, hn₂⟩ := (program_again "-(9223372036854775808);").2 _ _ h₂
  exact ⟨h₁, fun n => (hn₁ n).2, h₂, fun n => (hn₂ n).2⟩

namespace Window

/-- The window as reading a program leaves it. -/
def afterProgram (w : Window) : Window :=
  match w.program with
  | some o => o.after
  | none => w

theorem afterProgram_eq {w : Window} {o : Work Program} (h : w.program = some o) :
    w.afterProgram = o.after := by
  rw [afterProgram, h]

theorem Work.Matches.at_after {o : Work Program} {p : Parser} (h : o.Matches p.program) :
    At p.afterProgram.tokens o.after := by
  cases hp : p.program with
  | ok ss q =>
    rw [hp] at h
    rw [Parser.afterProgram_of_ok hp]
    exact h.2
  | error e q =>
    rw [hp] at h
    rw [Parser.afterProgram_of_error hp]
    exact h.2

/-- Where reading a program takes no token, the window stays as it is. -/
theorem program_of_fixed {ts : List Token} {w : Window} (hw : At ts w) (hd : w.depth = 0)
    (hp : Parser.afterProgram ⟨ts, 0⟩ = ⟨ts, 0⟩) :
    ∃ o, w.program = some o ∧ o.after = w ∧ o.Matches (Parser.program ⟨ts, 0⟩) := by
  by_cases hts : ts = []
  · subst hts
    rw [program, statements, if_pos (by rw [hw.current]; rfl), Parser.program_of_nil]
    exact ⟨_, rfl, rfl, rfl, hw⟩
  · obtain ⟨o, -, ho, hf, -, -, -, hl⟩ := program_agrees hw hd
    have ha := hf.at_after
    rw [hp] at ha
    have hr : o.after.remaining = w.remaining := by
      rw [remaining, remaining, ha.tokens, hw.tokens]
    exact ⟨o, ho, hl.onward.eq_of_remaining (fun h => hts (hw.eq_nil h)) hl.depth hr, hf⟩

/-- Where another reading takes no token, the window stays where the first one has left it. -/
theorem exists_program_again {ts us : List Token} {w : Window} (hw : At ts w) (hd : w.depth = 0)
    (hp : Parser.afterProgram ⟨ts, 0⟩ = ⟨us, 0⟩) (hq : Parser.afterProgram ⟨us, 0⟩ = ⟨us, 0⟩) :
    ∃ o u, w.program = some o ∧ o.after.program = some u ∧ o.after.depth = 0 ∧
      u.after = o.after ∧ (∀ n, afterProgram^[n + 1] w = o.after) ∧ At us o.after ∧
      o.Matches (Parser.program ⟨ts, 0⟩) ∧ u.Matches (Parser.program ⟨us, 0⟩) := by
  obtain ⟨o, -, ho, hf, -, -, -, hl⟩ := program_agrees hw hd
  have ha := hf.at_after
  rw [hp] at ha
  have hdo : o.after.depth = 0 := hl.depth.trans hd
  obtain ⟨u, hu, hua, hfu⟩ := program_of_fixed ha hdo hq
  have hfix : o.after.afterProgram = o.after := (afterProgram_eq hu).trans hua
  exact ⟨o, u, ho, hu, hdo, hua, iterate_of_fixed (afterProgram_eq ho) hfix, ha, hf, hfu⟩

/-- The parser with its window stays where its first reading of a program has left it, however often
it reads one: at the end of the text, where nothing more comes, or at the literal it failed at,
where it fails again. -/
theorem program_stays (source : String) :
    ∃ o u, (ofString source).program = some o ∧ o.after.program = some u ∧
      o.after.depth = 0 ∧ u.after = o.after ∧
      (∀ n, afterProgram^[n + 1] (ofString source) = o.after) ∧
      ((∃ ss, o.result = .ok ss ∧ u.result = .ok [] ∧
          o.after.current = .endMarker ∧ o.after.reading = .endMarker) ∨
        ∃ e, o.result = .error (.literal e) ∧ u.result = .error (.literal e) ∧
          o.after.current = ⟨.number, e.literal⟩ ∧
          ∃ before after, tokenize source = before ++ o.after.current :: o.after.reading :: after ∧
            ∃ p r, Parser.program ⟨before, 0⟩ = .ok p r) := by
  have hw := At.ofString source
  rcases Parser.program_cases (Lexer.ofString source).tokens with
    ⟨p, hp⟩ | ⟨before, e, after, hts, hn, ⟨p, hp⟩, he⟩
  · have hnil := Parser.program_of_nil
    obtain ⟨o, u, ho, hu, hd, hua, hi, ha, hf, hfu⟩ := exists_program_again hw rfl
      (Parser.afterProgram_of_ok hp) (Parser.afterProgram_of_ok hnil)
    rw [hp] at hf
    rw [hnil] at hfu
    exact ⟨o, u, ho, hu, hd, hua, hi, .inl ⟨p, hf.1, hfu.1, ha.current, ha.reading⟩⟩
  · have hagain := Parser.program_of_token hn after
    obtain ⟨o, u, ho, hu, hd, hua, hi, ha, hf, hfu⟩ := exists_program_again hw rfl
      (Parser.afterProgram_of_error he) (Parser.afterProgram_of_error hagain)
    rw [he] at hf
    rw [hagain] at hfu
    have hview : tokenize source =
        before ++ o.after.current :: o.after.reading :: (after ++ [Token.endMarker]).tail := by
      rw [ha.current, ha.reading]
      exact tokenize_of_tokens hts
    exact ⟨o, u, ho, hu, hd, hua, hi,
      .inr ⟨e, hf.1, hfu.1, ha.current, before, _, hview, p, _, hp⟩⟩

end Window
end Reckon
