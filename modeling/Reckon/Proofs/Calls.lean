import Reckon.Proofs.Recovery

/-! What holds at every call of the parser: the window shows the tokens of the text without a gap,
the depth is as it was, and each pass of a loop and each expression inside another has fewer tokens
before it. -/

namespace Reckon
namespace Window

/-- The last token before `r` is where two views of the same tokens overlap. -/
theorem At.getLast?_eq {us r : List Token} {t : Token} {v w : Window} (hw : At (us ++ r) w)
    (hv : At (t :: r) v) (h : w.Onward v) : us.getLast? = some t := by
  obtain ⟨n, hn⟩ := hw.onward h
  have hd : (us ++ r).drop n = [t] ++ r := hn.tokens.symm.trans hv.tokens
  have hus : (us ++ r).take n ++ [t] = us := by
    have h : (us ++ r).take n ++ [t] ++ r = us ++ r := by
      rw [List.append_assoc, ← hd, List.take_append_drop]
    exact List.append_cancel_right h
  rw [← hus, List.getLast?_concat]

/-- What holds at a call while a text is read. -/
structure Call.Invariant (source : String) (c : Call) : Prop where
  views_before : Views source c.before
  views_after : Views source c.after
  reading_before : c.before.current = .endMarker → c.before.reading = .endMarker
  reading_after : c.after.current = .endMarker → c.after.reading = .endMarker
  /-- Nothing is passed over but by moving on from one token to the next. -/
  moved (i : Nat) : c.after.upcoming i = c.before.upcoming (c.advances + i)
  depth_le : c.before.depth ≤ maxDepth
  depth_eq : c.after.depth = c.before.depth
  /-- So the depth can be taken back by one afterwards. -/
  depth_inner (p : Priority) : c.method = .expression p →
    ∀ b ∈ c.inner, b.before.depth = c.before.depth + 1 ∧ b.after.depth = c.before.depth + 1
  statement : c.method = .statement → c.before.depth = 0
  /-- The tokens passed over, up to the current one, are an expression. -/
  expression (p : Priority) : c.method = .expression p → c.failure = none →
    ∃ ts e, Expr.Derives (maxDepth - c.before.depth) p.level ts e ∧
      c.before.tokens = ts ++ c.after.tokens.tail ∧ ts.getLast? = some c.after.current ∧
      Priority.ofKind c.after.reading.kind ≤ p

theorem Views.reading {source : String} {w : Window} (h : Views source w)
    (hw : w.current = .endMarker) : w.reading = .endMarker := by
  obtain ⟨k, h⟩ := views_iff.1 h
  have hnil := h.eq_nil (by rw [hw]; rfl)
  rw [h.reading, hnil]
  rfl

theorem Call.Sound.expression {c : Call} {source : String} {p : Priority} (h : c.Sound)
    (hv : Views source c.before) (hd : c.before.depth ≤ maxDepth) (hm : c.method = .expression p)
    (hf : c.failure = none) :
    ∃ ts e, Expr.Derives (maxDepth - c.before.depth) p.level ts e ∧
      c.before.tokens = ts ++ c.after.tokens.tail ∧ ts.getLast? = some c.after.current ∧
      Priority.ofKind c.after.reading.kind ≤ p := by
  obtain ⟨k, hw⟩ := views_iff.1 hv
  have hrule := h.rule
  rw [Call.Rule, hm] at hrule
  obtain ⟨-, o, ho, hafter, hfail⟩ := hrule
  have hag := expression_agrees (maxDepth - c.before.depth) p _ _ 0 hw (by omega) o ho
  cases hr : ParseM.nested (maxDepth - c.before.depth) p.level
      ⟨(Lexer.ofString source).tokens.drop k, 0⟩ with
  | error e q =>
    rw [hr] at hag
    rw [hf, Work.failure, hag.1] at hfail
    cases hfail
  | ok e q =>
    rw [hr] at hag
    obtain ⟨-, t, -, ha⟩ := hag
    obtain ⟨us, hus, he, hend⟩ := ParseM.nested_eq_ok hr
    rw [hafter] at ha
    rw [hus] at hw
    refine ⟨us, e, he, ?_, ?_, ?_⟩
    · rw [hw.tokens, ha.tokens, List.tail_cons]
    · rw [ha.current, List.headD_cons]
      exact hw.getLast?_eq ha h.onward
    · rw [ha.reading, List.tail_cons]
      exact Priority.ofKind_le_iff.2 hend

end Window

open Window

/-- At every call and every return the parser sees a stretch of the tokens of the text, and each
expression leaves the depth as it was. -/
theorem call_invariant (source : String) :
    ∃ o c, (Window.ofString source).program = some o ∧
      o.result = (parse source).mapError .literal ∧
      o.calls = [c] ∧ c.method = .program ∧ c.before = Window.ofString source ∧
      ∀ c : Call, c.Within o.calls → c.Invariant source := by
  obtain ⟨o, c, ho, hres, hcalls, hm, hb, hl⟩ := program_eq_parse source
  refine ⟨o, c, ho, hres, hcalls, hm, hb, fun c hc => ?_⟩
  have hs := hl.sound c hc
  obtain ⟨hb, hd⟩ := hl.before c hc
  have hv : Views source c.before := (views_ofString source).onward hb
  have hv' : Views source c.after := hv.onward hs.onward
  exact {
    views_before := hv
    views_after := hv'
    reading_before := hv.reading
    reading_after := hv'.reading
    moved := hs.moved
    depth_le := hd
    depth_eq := hs.depth
    depth_inner := fun p hm => by
      have hrule := hs.rule
      rw [Call.Rule, hm] at hrule
      exact hrule.1
    statement := hl.statement c hc
    expression := fun p hm hf => hs.expression hv hd hm hf }

/-- Reading a text comes to an end, and so does the pass over a statement at any token of it, with
fewer tokens left unless a literal is out of range. Within the pass every operator taken in and
every token skipped leaves fewer, and the expression after a sign, a parenthesis or an operator
begins with fewer. -/
theorem parse_progress (source : String) :
    (∃ o, (Window.ofString source).program = some o ∧
      o.result = (parse source).mapError .literal) ∧
    ∀ w, Views source w →
      (∃ o, w.program = some o) ∧
      (w.current.kind ≠ .endMarker →
        ∃ o, w.statementPass = some o ∧
          ((∃ e, o.result = .error (.literal e)) ∨ o.after.remaining < w.remaining) ∧
          ∀ c : Call, c.Within o.calls →
            (c.method = .operatorPass ∨ c.method = .recoverPass →
              c.after.remaining < c.before.remaining) ∧
            (c.method = .unary ∨ c.method = .group ∨ c.method = .binary →
              ∀ b ∈ c.inner, ∀ p, b.method = .expression p →
                b.before.remaining < c.before.remaining)) := by
  obtain ⟨o, -, ho, hres, -⟩ := program_eq_parse source
  refine ⟨⟨o, ho, hres⟩, fun w hw => ?_⟩
  obtain ⟨k, hw⟩ := views_iff.1 hw
  obtain ⟨o, ho, -⟩ := program_completes hw
  refine ⟨⟨o, ho⟩, fun hc => ?_⟩
  obtain ⟨o, ho, hl, hlt⟩ := statementPass_completes hw rfl hc
  refine ⟨o, ho, hlt, fun c hc => ?_⟩
  have hrule := (hl.sound c hc).rule
  constructor
  · rintro (hm | hm) <;> (rw [Call.Rule, hm] at hrule; exact hrule)
  · rintro (hm | hm | hm) <;> (rw [Call.Rule, hm] at hrule; exact hrule)

theorem parse_progress_unclosed :
    (Window.ofString "-(1").current.kind ≠ .endMarker ∧ (Window.ofString "-(1").remaining = 3 ∧
      ∃ o, (Window.ofString "-(1").statementPass = some o ∧
        ((∃ e, o.result = .error (.literal e)) ∨ o.after.remaining < 3) := by
  have hc : (Window.ofString "-(1").current.kind ≠ .endMarker := by decide +kernel
  have hr : (Window.ofString "-(1").remaining = 3 := by decide +kernel
  obtain ⟨o, ho, hlt, -⟩ := ((parse_progress "-(1").2 _ (views_ofString _)).2 hc
  exact ⟨hc, hr, o, ho, hr ▸ hlt⟩

end Reckon
