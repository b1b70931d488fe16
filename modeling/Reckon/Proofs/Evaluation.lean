import Reckon.Typing

/-! One step of evaluation. An expression has a value only by the values of its operands, and an
operator comes to a value, leaves the range of the integers, divides by zero, or is given an operand
it does not take. -/

namespace Reckon

theorem Answer.ofInt_cases (n : Int) :
    (∃ a, a.toInt = n ∧ ofInt n = .ok (.integer a)) ∨
      ((n < -0x8000000000000000 ∨ 0x7fffffffffffffff < n) ∧ ofInt n = .error .overflow) := by
  cases h : Integer.ofInt? n with
  | some a => exact .inl ⟨a, Integer.ofInt?_eq_some_iff.1 h, by rw [ofInt, h]⟩
  | none => exact .inr ⟨Integer.ofInt?_eq_none_iff.1 h, by rw [ofInt, h]⟩

theorem Answer.ofInt_toInt (a : Integer) : ofInt a.toInt = .ok (.integer a) := by
  rw [ofInt, Integer.ofInt?_toInt]

theorem Answer.ofInt_eq_error {n : Int}
    (h : n < -0x8000000000000000 ∨ 0x7fffffffffffffff < n) : ofInt n = .error .overflow := by
  rw [ofInt, Integer.ofInt?_eq_none_iff.2 h]

theorem UnaryOp.apply_cases (op : UnaryOp) (v : Value) :
    (op = .negative ∧ ∃ n, v = .integer n ∧ op.apply v = .ofInt (-n.toInt)) ∨
      (op = .not ∧ ∃ b, v = .boolean b ∧ op.apply v = .ok (.boolean !b)) ∨
      (v.ty ≠ op.ty ∧ op.apply v = .error (.unaryMismatch op v.ty)) := by
  cases op with
  | negative =>
    cases v with
    | integer n => exact .inl ⟨rfl, n, rfl, rfl⟩
    | boolean b => exact .inr (.inr ⟨nofun, rfl⟩)
  | not =>
    cases v with
    | integer n => exact .inr (.inr ⟨nofun, rfl⟩)
    | boolean b => exact .inr (.inl ⟨rfl, b, rfl, rfl⟩)

theorem UnaryOp.apply_of_ty_ne {op : UnaryOp} {v : Value} (h : v.ty ≠ op.ty) :
    op.apply v = .error (.unaryMismatch op v.ty) := by
  rcases op.apply_cases v with ⟨rfl, n, rfl, -⟩ | ⟨rfl, b, rfl, -⟩ | ⟨-, ha⟩
  · exact absurd rfl h
  · exact absurd rfl h
  · exact ha

theorem BinaryOp.apply_cases (op : BinaryOp) (v w : Value) :
    (∃ a b, v = .integer a ∧ w = .integer b ∧ op = .over ∧ b.toInt = 0 ∧
        op.apply v w = .error .dividedByZero) ∨
      (∃ a b, v = .integer a ∧ w = .integer b ∧ ¬ (op = .over ∧ b.toInt = 0) ∧
        op.apply v w = .ofInt (op.exact a.toInt b.toInt)) ∨
      (¬ (v.ty = .integer ∧ w.ty = .integer) ∧
        op.apply v w = .error (.binaryMismatch op v.ty w.ty)) := by
  cases v with
  | boolean b => exact .inr (.inr ⟨fun h => Ty.noConfusion h.1, rfl⟩)
  | integer a =>
    cases w with
    | boolean b => exact .inr (.inr ⟨fun h => Ty.noConfusion h.2, rfl⟩)
    | integer b =>
      by_cases h : op = .over ∧ b.toInt = 0
      · exact .inl ⟨a, b, rfl, rfl, h.1, h.2, if_pos h⟩
      · exact .inr (.inl ⟨a, b, rfl, rfl, h, if_neg h⟩)

theorem BinaryOp.apply_of_ty_ne {op : BinaryOp} {v w : Value}
    (h : ¬ (v.ty = .integer ∧ w.ty = .integer)) :
    op.apply v w = .error (.binaryMismatch op v.ty w.ty) := by
  rcases op.apply_cases v w with ⟨a, b, rfl, rfl, -⟩ | ⟨a, b, rfl, rfl, -⟩ | ⟨-, ha⟩
  · exact absurd ⟨rfl, rfl⟩ h
  · exact absurd ⟨rfl, rfl⟩ h
  · exact ha

theorem Answer.eq_of_ofInt_eq_ok {n : Int} {v : Value} (h : ofInt n = .ok v) :
    ∃ a, v = .integer a ∧ a.toInt = n := by
  rcases ofInt_cases n with ⟨a, hn, ha⟩ | ⟨-, ha⟩
  · rw [ha] at h
    cases h
    exact ⟨a, rfl, hn⟩
  · rw [ha] at h
    cases h

theorem Answer.eq_of_ofInt_eq_error {n : Int} {err : EvalError} (h : ofInt n = .error err) :
    err = .overflow := by
  rcases ofInt_cases n with ⟨a, -, ha⟩ | ⟨-, ha⟩
  · rw [ha] at h
    cases h
  · rw [ha] at h
    cases h
    rfl

theorem UnaryOp.of_apply_eq_ok {op : UnaryOp} {v w : Value} (h : op.apply v = .ok w) :
    (∃ a b, op = .negative ∧ v = .integer a ∧ w = .integer b ∧ b.toInt = -a.toInt) ∨
      ∃ b, op = .not ∧ v = .boolean b ∧ w = .boolean !b := by
  rcases op.apply_cases v with ⟨ho, a, hv, ha⟩ | ⟨ho, b, hv, ha⟩ | ⟨-, ha⟩
  · rw [ha] at h
    obtain ⟨b, hw, hb⟩ := Answer.eq_of_ofInt_eq_ok h
    exact .inl ⟨a, b, ho, hv, hw, hb⟩
  · rw [ha] at h
    cases h
    exact .inr ⟨b, ho, hv, rfl⟩
  · rw [ha] at h
    cases h

theorem BinaryOp.of_apply_eq_ok {op : BinaryOp} {v w x : Value} (h : op.apply v w = .ok x) :
    ∃ a b c, v = .integer a ∧ w = .integer b ∧ x = .integer c ∧ ¬ (op = .over ∧ b.toInt = 0) ∧
      c.toInt = op.exact a.toInt b.toInt := by
  rcases op.apply_cases v w with ⟨a, b, -, -, -, -, ha⟩ | ⟨a, b, hv, hw, hz, ha⟩ | ⟨-, ha⟩
  · rw [ha] at h
    cases h
  · rw [ha] at h
    obtain ⟨c, hx, hc⟩ := Answer.eq_of_ofInt_eq_ok h
    exact ⟨a, b, c, hv, hw, hx, hz, hc⟩
  · rw [ha] at h
    cases h

/-- With an operand of its type an operator fails only by overflow. -/
theorem UnaryOp.of_apply_eq_error {op : UnaryOp} {v : Value} {err : EvalError}
    (hv : v.ty = op.ty) (h : op.apply v = .error err) : op = .negative ∧ err = .overflow := by
  rcases op.apply_cases v with ⟨ho, n, -, ha⟩ | ⟨-, b, -, ha⟩ | ⟨hne, -⟩
  · rw [ha] at h
    exact ⟨ho, Answer.eq_of_ofInt_eq_error h⟩
  · rw [ha] at h
    cases h
  · exact absurd hv hne

theorem BinaryOp.of_apply_eq_error {op : BinaryOp} {v w : Value} {err : EvalError}
    (hv : v.ty = .integer) (hw : w.ty = .integer) (h : op.apply v w = .error err) :
    err = .dividedByZero ∨ err = .overflow := by
  rcases op.apply_cases v w with ⟨a, b, -, -, -, -, ha⟩ | ⟨a, b, -, -, -, ha⟩ | ⟨hne, -⟩
  · rw [ha] at h
    cases h
    exact .inl rfl
  · rw [ha] at h
    exact .inr (Answer.eq_of_ofInt_eq_error h)
  · exact absurd ⟨hv, hw⟩ hne

namespace Expr

variable {env : Environment} {op : UnaryOp} {bop : BinaryOp} {e l r : Expr} {v w : Value}
  {err : EvalError}

theorem eval_identifier_eq_ok_iff {x : Name} :
    (identifier x).eval env = .ok v ↔ env.get? x = some (.ok v) := by
  rw [eval]
  cases env.get? x <;> simp

theorem eval_unary_of_ok (h : e.eval env = .ok v) : (unary op e).eval env = op.apply v := by
  rw [eval, h]
  rfl

theorem eval_unary_of_error (h : e.eval env = .error err) :
    (unary op e).eval env = .error err := by
  rw [eval, h]
  rfl

theorem eval_binary_of_ok (hl : l.eval env = .ok v) (hr : r.eval env = .ok w) :
    (binary bop l r).eval env = bop.apply v w := by
  rw [eval, hl, hr]
  rfl

theorem eval_binary_of_error_left (h : l.eval env = .error err) :
    (binary bop l r).eval env = .error err := by
  rw [eval, h]
  rfl

theorem eval_binary_of_error_right (hl : l.eval env = .ok v) (h : r.eval env = .error err) :
    (binary bop l r).eval env = .error err := by
  rw [eval, hl, h]
  rfl

theorem exists_of_eval_unary (h : (unary op e).eval env = .ok v) :
    ∃ w, e.eval env = .ok w ∧ op.apply w = .ok v := by
  cases he : e.eval env with
  | error err => rw [eval_unary_of_error he] at h; cases h
  | ok w => exact ⟨w, rfl, by rwa [eval_unary_of_ok he] at h⟩

theorem exists_of_eval_binary (h : (binary bop l r).eval env = .ok v) :
    ∃ a b, l.eval env = .ok a ∧ r.eval env = .ok b ∧ bop.apply a b = .ok v := by
  cases hl : l.eval env with
  | error err => rw [eval_binary_of_error_left hl] at h; cases h
  | ok a =>
    cases hr : r.eval env with
    | error err => rw [eval_binary_of_error_right hl hr] at h; cases h
    | ok b => exact ⟨a, b, rfl, rfl, by rwa [eval_binary_of_ok hl hr] at h⟩

end Expr
end Reckon
