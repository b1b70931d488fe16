import Reckon.Proofs.Acceptance
import Reckon.Proofs.Tokenization

/-! A program is what its segments come to, one after the other. So a text before a semicolon and
the text after it are read as if each stood alone, and there are as many statements as segments. -/

namespace Reckon

theorem statement_of_outcome_ok {seg rest : List Token} {s : Statement} (h : Segment seg rest)
    (ho : outcome seg = .ok s) : Parser.statement ⟨seg ++ rest, 0⟩ = .ok s ⟨rest, 0⟩ := by
  rcases segment_cases h with ⟨s', hs⟩ | ⟨p, r, w, rfl, hp, hr⟩
  · have := outcome_of_derives hs []
    rw [List.append_nil, ho] at this
    cases this
    exact statement_of_derives hs rest
  · have := outcome_of_expects h.alone hp hr
    rw [List.append_nil, ho] at this
    rw [statement_of_expects h hp hr]
    cases hf : w.failure (r.headD .endMarker) <;> rw [hf] at this <;> cases this
    rfl

theorem statement_of_outcome_error {seg rest : List Token} {e : LiteralError}
    (h : Segment seg rest) (ho : outcome seg = .error e) :
    ∃ q, Parser.statement ⟨seg ++ rest, 0⟩ = .error e q := by
  rw [← outcome_append h] at ho
  unfold outcome at ho
  split at ho <;> cases ho
  exact ⟨_, by assumption⟩

namespace Parser

theorem program_of_ok {p q : Parser} {s : Statement} (hp : p.tokens ≠ [])
    (h : p.statement = .ok s q) :
    p.program = match q.program with
      | .ok ss r => .ok (s :: ss) r
      | .error e r => .error e r := by
  rw [program, dif_neg hp]
  split <;> rename_i hs <;> rw [h] at hs <;> cases hs
  rfl

theorem program_of_error {p q : Parser} {e : LiteralError} (hp : p.tokens ≠ [])
    (h : p.statement = .error e q) : p.program = .error e q := by
  rw [program, dif_neg hp]
  split <;> rename_i hs <;> rw [h] at hs <;> cases hs
  rfl

end Parser

theorem program_eq_mapM (ts : List Token) :
    (match Parser.program ⟨ts, 0⟩ with
      | .ok p _ => Except.ok p
      | .error e _ => .error e) = (segments ts).mapM outcome := by
  generalize hs : segments ts = segs
  induction segs generalizing ts with
  | nil =>
    obtain rfl := segments_eq_nil_iff.1 hs
    rw [Parser.program, dif_pos rfl]
    rfl
  | cons seg segs ih =>
    obtain ⟨rfl, hr, h⟩ := segments_eq_cons hs
    have hne : seg ++ segs.flatten ≠ [] := by simp [h.ne_nil]
    rw [List.mapM_cons]
    cases ho : outcome seg with
    | error e =>
      obtain ⟨q, hq⟩ := statement_of_outcome_error h ho
      rw [Parser.program_of_error hne hq]
      rfl
    | ok s =>
      rw [Parser.program_of_ok hne (statement_of_outcome_ok h ho), ← ih segs.flatten hr]
      cases Parser.program ⟨segs.flatten, 0⟩ <;> rfl

/-- Each segment is read by itself. -/
theorem parse_eq_mapM (source : String) :
    parse source = (segments (Parser.ofString source).tokens).mapM outcome :=
  program_eq_mapM _

theorem tokens_append_semicolon (s₁ s₂ : String) :
    (Parser.ofString (s₁ ++ ";" ++ s₂)).tokens =
      (Parser.ofString s₁).tokens ++ .semicolon :: (Parser.ofString s₂).tokens := by
  have h := (Lexer.spells_tokens (.ofString s₁)).append_semicolon
    (Lexer.spells_tokens (.ofString s₂))
  have hs : (s₁ ++ ";" ++ s₂).toList = s₁.toList ++ ';' :: s₂.toList := by simp
  exact tokens_of_spells h _ hs

theorem tokens_concat_semicolon (s : String) :
    (Parser.ofString (s ++ ";")).tokens = (Parser.ofString s).tokens ++ [.semicolon] := by
  have h := tokens_append_semicolon s ""
  have h₀ : (Parser.ofString "").tokens = [] := Lexer.tokens_of_nil rfl
  rwa [String.append_empty, h₀] at h

theorem parse_append_semicolon (s₁ s₂ : String) :
    parse (s₁ ++ ";" ++ s₂) = (do return (← parse (s₁ ++ ";")) ++ (← parse s₂)) := by
  rw [parse_eq_mapM, parse_eq_mapM, parse_eq_mapM, tokens_append_semicolon,
    tokens_concat_semicolon, segments_append rfl, List.mapM_append]

section
variable {α β ε : Type} {f : α → Except ε β}

theorem mapM_cons_eq_ok {x : α} {xs : List α} {ys : List β} (h : (x :: xs).mapM f = .ok ys) :
    ∃ y zs, f x = .ok y ∧ xs.mapM f = .ok zs ∧ ys = y :: zs := by
  rw [List.mapM_cons] at h
  cases hx : f x with
  | error e => rw [hx] at h; cases h
  | ok y =>
    cases hxs : xs.mapM f with
    | error e => rw [hx, hxs] at h; cases h
    | ok zs =>
      rw [hx, hxs] at h
      cases h
      exact ⟨y, zs, rfl, rfl, rfl⟩

theorem length_of_mapM_eq_ok {xs : List α} {ys : List β} (h : xs.mapM f = .ok ys) :
    ys.length = xs.length := by
  induction xs generalizing ys with
  | nil => cases h; rfl
  | cons x xs ih =>
    obtain ⟨y, zs, -, hzs, rfl⟩ := mapM_cons_eq_ok h
    rw [List.length_cons, List.length_cons, ih hzs]

theorem exists_mem_of_mapM_eq_ok {xs : List α} {ys : List β} (h : xs.mapM f = .ok ys) {y : β}
    (hy : y ∈ ys) : ∃ x ∈ xs, f x = .ok y := by
  induction xs generalizing ys with
  | nil => cases h; cases hy
  | cons x xs ih =>
    obtain ⟨z, zs, hz, hzs, rfl⟩ := mapM_cons_eq_ok h
    rcases List.mem_cons.1 hy with rfl | hy
    · exact ⟨x, List.mem_cons_self, hz⟩
    · obtain ⟨w, hw, hf⟩ := ih hzs hy
      exact ⟨w, List.mem_cons_of_mem _ hw, hf⟩

theorem mapM_concat_eq_ok {x : α} {xs : List α} {ys : List β}
    (h : (xs ++ [x]).mapM f = .ok ys) : ∃ zs y, ys = zs ++ [y] ∧ f x = .ok y := by
  induction xs generalizing ys with
  | nil =>
    obtain ⟨y, zs, hy, hzs, rfl⟩ := mapM_cons_eq_ok h
    cases hzs
    exact ⟨[], y, rfl, hy⟩
  | cons x' xs ih =>
    obtain ⟨y', l, -, hl, rfl⟩ := mapM_cons_eq_ok h
    obtain ⟨zs, y, rfl, hy⟩ := ih hl
    exact ⟨y' :: zs, y, rfl, hy⟩

end

/-- One statement for each semicolon, and one more for tokens after the last. -/
theorem length_of_parse {source : String} {p : Program} (h : parse source = .ok p) :
    p.length = (Parser.ofString source).tokens.countP (·.kind = .semicolon) +
      (if Unterminated (Parser.ofString source).tokens then 1 else 0) := by
  rw [parse_eq_mapM] at h
  rw [length_of_mapM_eq_ok h, length_segments]

theorem parse_eq_ok_nil_iff {source : String} :
    parse source = .ok [] ↔ (Parser.ofString source).tokens = [] := by
  rw [parse_eq_mapM, ← segments_eq_nil_iff]
  refine ⟨fun h => ?_, fun h => by rw [h]; rfl⟩
  exact List.eq_nil_of_length_eq_zero (length_of_mapM_eq_ok h).symm

theorem isBad_of_unterminated {seg : List Token} {s : Statement} (h : Segment seg [])
    (hu : Unterminated seg) (ho : outcome seg = .ok s) : s.isBad = true := by
  rcases hb : s.isBad with _ | _
  · have hs : Statement.Derives maxDepth seg s :=
      (outcome_eq_iff_derives h).1 ⟨by rwa [List.append_nil], hb⟩
    obtain ⟨us, t, rfl, ht⟩ := hs.eq_append_semicolon
    obtain ⟨u, hu, hk⟩ := hu
    rw [List.getLast?_concat] at hu
    cases hu
    exact absurd ht hk
  · rfl

/-- The statement for the tokens after the last semicolon is a bad one. -/
theorem getLast?_of_parse {source : String} {p : Program} (h : parse source = .ok p)
    (hu : Unterminated (Parser.ofString source).tokens) :
    ∃ s, p.getLast? = some s ∧ s.isBad = true := by
  rw [parse_eq_mapM] at h
  obtain ⟨segs, seg, hs, hseg, hu⟩ := hu.last_segment
  rw [hs] at h
  obtain ⟨q, s, rfl, ho⟩ := mapM_concat_eq_ok h
  exact ⟨s, List.getLast?_concat, isBad_of_unterminated hseg hu ho⟩

theorem tokenize_eq (source : String) :
    (tokenize source).dropLast = (Parser.ofString source).tokens := List.dropLast_concat

theorem countP_tokenize (source : String) :
    (tokenize source).countP (·.kind = .semicolon) =
      (Parser.ofString source).tokens.countP (·.kind = .semicolon) := by
  change ((Parser.ofString source).tokens ++ [Token.endMarker]).countP _ = _
  simp

/-- Statements are read independently of one another, and none is lost. -/
theorem parse_independent :
    (∀ s₁ s₂ : String, parse (s₁ ++ ";" ++ s₂) =
      match parse (s₁ ++ ";"), parse s₂ with
      | .error e, _ => .error e
      | .ok _, .error e => .error e
      | .ok p, .ok q => .ok (p ++ q)) ∧
    ∀ (source : String) (p : Program), parse source = .ok p →
      p.length = (tokenize source).countP (·.kind = .semicolon) +
        (if Unterminated (tokenize source).dropLast then 1 else 0) ∧
      (Unterminated (tokenize source).dropLast → ∃ s, p.getLast? = some s ∧ s.isBad = true) := by
  refine ⟨fun s₁ s₂ => ?_, fun source p h => ?_⟩
  · rw [parse_append_semicolon]
    cases parse (s₁ ++ ";") with
    | error e => rfl
    | ok p => cases parse s₂ <;> rfl
  · rw [tokenize_eq, countP_tokenize]
    exact ⟨length_of_parse h, getLast?_of_parse h⟩

theorem parse_independent_unterminated :
    parse "1; 2" = .ok [.expression (.integer ⟨1, by decide, by decide⟩),
        .bad "failed to find semicolon"] ∧
      2 = (tokenize "1; 2").countP (·.kind = .semicolon) +
        (if Unterminated (tokenize "1; 2").dropLast then 1 else 0) ∧
      Unterminated (tokenize "1; 2").dropLast ∧
      ∃ s, [Statement.expression (.integer ⟨1, by decide, by decide⟩),
        .bad "failed to find semicolon"].getLast? = some s ∧ s.isBad = true := by
  have hs : segments (Parser.ofString "1; 2").tokens =
      [[⟨.number, "1"⟩, .semicolon], [⟨.number, "2"⟩]] := by decide +kernel
  have h : parse "1; 2" = .ok [.expression (.integer ⟨1, by decide, by decide⟩),
      .bad "failed to find semicolon"] := by
    rw [parse_eq_mapM, hs]
    rfl
  have hu : Unterminated (tokenize "1; 2").dropLast := by decide +kernel
  exact ⟨h, (parse_independent.2 _ _ h).1, hu, (parse_independent.2 _ _ h).2 hu⟩

end Reckon
