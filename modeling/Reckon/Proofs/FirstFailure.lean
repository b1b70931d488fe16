import Reckon.Expr.Exact
import Reckon.Proofs.Bindings
import Reckon.Proofs.Evaluation

/-! What evaluation comes to, told by exact values. When the nodes of an expression are visited
operands first and left before right, the first one that fails gives the answer; if none fails, the
answer is the value reckoned over all integers. Which node fails and with what words is a relation
of its own, and `failing?` decides it. -/

namespace Reckon

/-- No name has an error for its value. -/
def Environment.ErrorFree (env : Environment) : Prop := ∀ x err, env.get? x ≠ some (.error err)

def Answer.error? : Answer → Option EvalError
  | .ok _ => none
  | .error err => some err

theorem Answer.error?_eq_some_iff {a : Answer} {err : EvalError} :
    a.error? = some err ↔ a = .error err := by
  cases a <;> simp [error?]

namespace Expr

def operands : Expr → List Expr
  | .integer _ | .identifier _ => []
  | .unary _ e => [e]
  | .binary _ l r => [l, r]

/-- A node fails if its operands come to values and it does not. -/
inductive Fails (env : Environment) : Expr → String → Prop
  | undefined {x : Name} :
      env.get? x = none → Fails env (.identifier x) ("undefined variable: " ++ x)
  | unaryMismatch {op : UnaryOp} {e : Expr} {v : Value} :
      e.eval env = .ok v → v.ty ≠ op.ty →
      Fails env (.unary op e) ("type mismatch: " ++ op.symbol ++ v.ty.label)
  | unaryOverflow {e : Expr} {a : Integer} :
      e.eval env = .ok (.integer a) →
      -a.toInt < -0x8000000000000000 ∨ 0x7fffffffffffffff < -a.toInt →
      Fails env (.unary .negative e) "integer overflow"
  | binaryMismatch {op : BinaryOp} {l r : Expr} {v w : Value} :
      l.eval env = .ok v → r.eval env = .ok w → ¬ (v.ty = .integer ∧ w.ty = .integer) →
      Fails env (.binary op l r)
        ("type mismatch: " ++ v.ty.label ++ " " ++ op.symbol ++ " " ++ w.ty.label)
  | dividedByZero {l r : Expr} {a b : Integer} :
      l.eval env = .ok (.integer a) → r.eval env = .ok (.integer b) → b.toInt = 0 →
      Fails env (.binary .over l r) "divided by zero"
  | binaryOverflow {op : BinaryOp} {l r : Expr} {a b : Integer} :
      l.eval env = .ok (.integer a) → r.eval env = .ok (.integer b) →
      ¬ (op = .over ∧ b.toInt = 0) →
      op.exact a.toInt b.toInt < -0x8000000000000000 ∨
        0x7fffffffffffffff < op.exact a.toInt b.toInt →
      Fails env (.binary op l r) "integer overflow"

/-- The failure of a node whose operands have come to values, if it is one. -/
def failing? (env : Environment) (u : Expr) : Option EvalError :=
  if ∀ o ∈ u.operands, (o.eval env).isError = false then u.failure? env else none

theorem rangeFailure?_eq (n : Int) : rangeFailure? n = (Answer.ofInt n).error? := by
  rcases Answer.ofInt_cases n with ⟨a, rfl, h⟩ | ⟨hn, h⟩
  · rw [h, rangeFailure?, if_pos ⟨a.ge_min, a.le_max⟩]
    rfl
  · rw [h, rangeFailure?, if_neg (by omega)]
    rfl

variable {env : Environment} {op : UnaryOp} {bop : BinaryOp} {e l r : Expr} {v w : Value}

/-- A value that was reached is exact. -/
theorem exactValue?_of_eval (h : e.eval env = .ok v) : e.exactValue? env = some v.exact := by
  induction e generalizing v with
  | integer n => cases h; rfl
  | identifier x => rw [exactValue?, eval_identifier_eq_ok_iff.1 h]
  | unary op e ih =>
    obtain ⟨w, he, ha⟩ := exists_of_eval_unary h
    rcases UnaryOp.of_apply_eq_ok ha with ⟨a, b, rfl, rfl, rfl, hb⟩ | ⟨b, rfl, rfl, rfl⟩
    · simp [exactValue?, ih he, Value.exact, hb]
    · simp [exactValue?, ih he, Value.exact]
  | binary op l r ihl ihr =>
    obtain ⟨x, y, hl, hr, ha⟩ := exists_of_eval_binary h
    obtain ⟨a, b, c, rfl, rfl, rfl, hz, hc⟩ := BinaryOp.of_apply_eq_ok ha
    rw [exactValue?, ihl hl, ihr hr]
    simp [Value.exact, hz, hc]

theorem failure?_unary (h : e.eval env = .ok v) :
    (unary op e).failure? env = (op.apply v).error? := by
  have he := exactValue?_of_eval h
  rcases op.apply_cases v with ⟨rfl, n, rfl, ha⟩ | ⟨rfl, b, rfl, ha⟩ | ⟨ht, ha⟩
  · simp [failure?, he, Value.exact, ha, rangeFailure?_eq]
  · simp [failure?, he, Value.exact, ha, Answer.error?]
  · rw [ha]
    cases op with
    | negative =>
      cases v with
      | integer n => exact absurd rfl ht
      | boolean b => simp [failure?, he, Value.exact, ExactValue.ty, Value.ty, Answer.error?]
    | not =>
      cases v with
      | integer n => simp [failure?, he, Value.exact, ExactValue.ty, Value.ty, Answer.error?]
      | boolean b => exact absurd rfl ht

theorem failure?_binary (hl : l.eval env = .ok v) (hr : r.eval env = .ok w) :
    (binary bop l r).failure? env = (bop.apply v w).error? := by
  have hl := exactValue?_of_eval hl
  have hr := exactValue?_of_eval hr
  rcases bop.apply_cases v w with
    ⟨a, b, rfl, rfl, rfl, hb, ha⟩ | ⟨a, b, rfl, rfl, hz, ha⟩ | ⟨ht, ha⟩
  · simp [failure?, hl, hr, Value.exact, ha, hb, Answer.error?]
  · simp [failure?, hl, hr, Value.exact, ha, hz, rangeFailure?_eq]
  · rw [ha]
    cases v with
    | boolean b =>
      cases w <;> simp [failure?, hl, hr, Value.exact, ExactValue.ty, Value.ty, Answer.error?]
    | integer a =>
      cases w with
      | boolean b => simp [failure?, hl, hr, Value.exact, ExactValue.ty, Value.ty, Answer.error?]
      | integer b => exact absurd ⟨rfl, rfl⟩ ht

theorem failing?_unary (h : e.eval env = .ok v) :
    (unary op e).failing? env = (op.apply v).error? := by
  simp [failing?, operands, h, Answer.isError, failure?_unary h]

theorem failing?_binary (hl : l.eval env = .ok v) (hr : r.eval env = .ok w) :
    (binary bop l r).failing? env = (bop.apply v w).error? := by
  simp [failing?, operands, hl, hr, Answer.isError, failure?_binary hl hr]

theorem fails_of_failing? {u : Expr} {err : EvalError} (h : u.failing? env = some err) :
    Fails env u err.message := by
  cases u with
  | integer n => cases h
  | identifier x =>
    cases hx : env.get? x with
    | none =>
      have he : EvalError.undefined x = err := by
        simpa [failing?, operands, failure?, hx] using h
      exact he ▸ .undefined hx
    | some a => simp [failing?, operands, failure?, hx] at h
  | unary op e =>
    cases he : e.eval env with
    | error err' => simp [failing?, operands, he, Answer.isError] at h
    | ok v =>
      rw [failing?_unary he, Answer.error?_eq_some_iff] at h
      rcases op.apply_cases v with ⟨rfl, a, rfl, ha⟩ | ⟨-, b, -, ha⟩ | ⟨ht, ha⟩
      · rcases Answer.ofInt_cases (-a.toInt) with ⟨b, -, ho⟩ | ⟨hn, ho⟩
        · rw [ha, ho] at h
          cases h
        · rw [ha, ho] at h
          cases h
          exact .unaryOverflow he hn
      · rw [ha] at h
        cases h
      · rw [ha] at h
        cases h
        exact .unaryMismatch he ht
  | binary op l r =>
    cases hl : l.eval env with
    | error err' => simp [failing?, operands, hl, Answer.isError] at h
    | ok v =>
      cases hr : r.eval env with
      | error err' => simp [failing?, operands, hl, hr, Answer.isError] at h
      | ok w =>
        rw [failing?_binary hl hr, Answer.error?_eq_some_iff] at h
        rcases op.apply_cases v w with
          ⟨a, b, rfl, rfl, rfl, hb, ha⟩ | ⟨a, b, rfl, rfl, hz, ha⟩ | ⟨ht, ha⟩
        · rw [ha] at h
          cases h
          exact .dividedByZero hl hr hb
        · rcases Answer.ofInt_cases (op.exact a.toInt b.toInt) with ⟨c, -, ho⟩ | ⟨hn, ho⟩
          · rw [ha, ho] at h
            cases h
          · rw [ha, ho] at h
            cases h
            exact .binaryOverflow hl hr hz hn
        · rw [ha] at h
          cases h
          exact .binaryMismatch hl hr ht

theorem Fails.failing? {u : Expr} {text : String} (h : Fails env u text) :
    ∃ err, u.failing? env = some err ∧ err.message = text := by
  cases h with
  | @undefined x hx =>
    exact ⟨.undefined x, by simp [Expr.failing?, operands, failure?, hx], rfl⟩
  | @unaryMismatch op e v he ht =>
    refine ⟨.unaryMismatch op v.ty, ?_, rfl⟩
    rw [failing?_unary he, UnaryOp.apply_of_ty_ne ht]
    rfl
  | @unaryOverflow e a he hn =>
    refine ⟨.overflow, ?_, rfl⟩
    rw [failing?_unary he, UnaryOp.apply, Answer.ofInt_eq_error hn]
    rfl
  | @binaryMismatch op l r v w hl hr ht =>
    refine ⟨.binaryMismatch op v.ty w.ty, ?_, rfl⟩
    rw [failing?_binary hl hr, BinaryOp.apply_of_ty_ne ht]
    rfl
  | @dividedByZero l r a b hl hr hb =>
    refine ⟨.dividedByZero, ?_, rfl⟩
    rw [failing?_binary hl hr, BinaryOp.apply, if_pos ⟨rfl, hb⟩]
    rfl
  | @binaryOverflow op l r a b hl hr hz hn =>
    refine ⟨.overflow, ?_, rfl⟩
    rw [failing?_binary hl hr, BinaryOp.apply, if_neg hz, Answer.ofInt_eq_error hn]
    rfl

theorem failing?_eq_none_iff {u : Expr} : u.failing? env = none ↔ ∀ text, ¬ Fails env u text := by
  constructor
  · intro h text hf
    obtain ⟨err, he, -⟩ := hf.failing?
    rw [h] at he
    cases he
  · intro h
    cases hf : u.failing? env with
    | none => rfl
    | some err => exact absurd (fails_of_failing? hf) (h _)

theorem findSome?_failing? (h : env.ErrorFree) (e : Expr) :
    e.postorder.findSome? (failing? env) = (e.eval env).error? := by
  induction e with
  | integer n => rfl
  | identifier x =>
    cases hx : env.get? x with
    | none => simp [postorder, failing?, operands, failure?, eval, hx, Answer.error?]
    | some a =>
      cases a with
      | error err => exact absurd hx (h x err)
      | ok v => simp [postorder, failing?, operands, failure?, eval, hx, Answer.error?]
  | unary op e ih =>
    rw [postorder, List.findSome?_append, ih]
    cases he : e.eval env with
    | error err => rw [eval_unary_of_error he]; rfl
    | ok v => simp [eval_unary_of_ok he, failing?_unary he, Answer.error?]
  | binary op l r ihl ihr =>
    rw [postorder, List.findSome?_append, List.findSome?_append, ihl, ihr]
    cases hl : l.eval env with
    | error err => rw [eval_binary_of_error_left hl]; rfl
    | ok v =>
      cases hr : r.eval env with
      | error err => rw [eval_binary_of_error_right hl hr]; rfl
      | ok w => simp [eval_binary_of_ok hl hr, failing?_binary hl hr, Answer.error?]

end Expr

/-- The first node in postorder that fails gives the answer its words, and where no node fails the
answer is the exact value. -/
theorem eval_eq_first_failure {env : Environment} (h : env.ErrorFree) (e : Expr) :
    (∀ before u after text, e.postorder = before ++ u :: after →
      (∀ w ∈ before, ∀ text, ¬ w.Fails env text) → u.Fails env text →
      ∃ err, e.eval env = .error err ∧ err.message = text) ∧
    ((∀ u ∈ e.postorder, ∀ text, ¬ u.Fails env text) →
      ∃ v, e.eval env = .ok v ∧ e.exactValue? env = some v.exact) := by
  have hf := Expr.findSome?_failing? h e
  constructor
  · intro before u after text hp hb hu
    obtain ⟨err, hu, ht⟩ := hu.failing?
    have he : e.postorder.findSome? (Expr.failing? env) = some err :=
      List.findSome?_eq_some_iff.2
        ⟨before, u, after, hp, hu, fun w hw => Expr.failing?_eq_none_iff.2 (hb w hw)⟩
    rw [hf, Answer.error?_eq_some_iff] at he
    exact ⟨err, he, ht⟩
  · intro hn
    have he : e.postorder.findSome? (Expr.failing? env) = none :=
      List.findSome?_eq_none_iff.2 fun u hu => Expr.failing?_eq_none_iff.2 (hn u hu)
    rw [hf] at he
    cases hv : e.eval env with
    | error err => rw [hv] at he; cases he
    | ok v => exact ⟨v, rfl, Expr.exactValue?_of_eval hv⟩

/-- `true + -(-9223372036854775808)` overflows before the operands of the sum are found to differ,
and `-7 / 2` is rounded toward zero. -/
theorem eval_eq_first_failure_overflow :
    Environment.ErrorFree {} ∧
      (∀ w ∈ [Expr.identifier "true", .integer ⟨-0x8000000000000000, by decide, by decide⟩],
        ∀ text, ¬ w.Fails {} text) ∧
      (Expr.unary .negative (.integer ⟨-0x8000000000000000, by decide, by decide⟩)).Fails {}
        "integer overflow" ∧
      (∃ err, (Expr.binary .plus (.identifier "true") (.unary .negative
          (.integer ⟨-0x8000000000000000, by decide, by decide⟩))).eval {} = .error err ∧
        err.message = "integer overflow") ∧
      (∀ u ∈ (Expr.binary .over (.integer ⟨-7, by decide, by decide⟩)
          (.integer ⟨2, by decide, by decide⟩)).postorder, ∀ text, ¬ u.Fails {} text) ∧
      ∃ v, (Expr.binary .over (.integer ⟨-7, by decide, by decide⟩)
          (.integer ⟨2, by decide, by decide⟩)).eval {} = .ok v ∧
        some (.integer (-3)) = some v.exact := by
  have h : Environment.ErrorFree {} := records_nil.not_error
  have hb : ∀ w ∈ [Expr.identifier "true",
      .integer ⟨-0x8000000000000000, by decide, by decide⟩], ∀ text, ¬ w.Fails {} text := by
    intro w hw
    refine Expr.failing?_eq_none_iff.1 ?_
    revert w
    decide
  have hu : (Expr.unary .negative (.integer
      ⟨-0x8000000000000000, by decide, by decide⟩)).Fails {} "integer overflow" :=
    .unaryOverflow rfl (by decide)
  have hp : (Expr.binary .plus (.identifier "true") (.unary .negative
      (.integer ⟨-0x8000000000000000, by decide, by decide⟩))).postorder =
      [.identifier "true", .integer ⟨-0x8000000000000000, by decide, by decide⟩] ++ _ :: [_] := rfl
  have hn : ∀ u ∈ (Expr.binary .over (.integer ⟨-7, by decide, by decide⟩)
      (.integer ⟨2, by decide, by decide⟩)).postorder, ∀ text, ¬ u.Fails {} text := by
    intro u hu
    refine Expr.failing?_eq_none_iff.1 ?_
    revert u
    decide
  exact ⟨h, hb, hu, (eval_eq_first_failure h _).1 _ _ _ _ hp hb hu, hn,
    (eval_eq_first_failure h _).2 hn⟩

end Reckon
