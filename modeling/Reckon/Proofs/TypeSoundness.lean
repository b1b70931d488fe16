import Mathlib.Logic.Function.Iterate
import Reckon.Proofs.Bindings
import Reckon.Proofs.Evaluation

/-! Typed expressions come to values of their type, or fail by the arithmetic alone. A mismatch or
an unbound name is met only by what has no type, and what has no type always fails, if only by an
arithmetic failure that comes first. -/

namespace Reckon

theorem Environment.ty?_eq_some_iff {env : Environment} {x : Name} {t : Ty} :
    env.ty? x = some t ↔ ∃ v, env.get? x = some (.ok v) ∧ v.ty = t := by
  rw [ty?]
  rcases env.get? x with _ | _ | v <;> simp

namespace Expr

variable {env : Environment} {op : UnaryOp} {bop : BinaryOp} {e l r : Expr} {t : Ty} {v : Value}
  {err : EvalError}

theorem ty?_unary_eq_some_iff :
    (unary op e).ty? env = some t ↔ e.ty? env = some op.ty ∧ op.ty = t := by
  rw [ty?]
  split <;> simp_all

theorem ty?_binary_eq_some_iff :
    (binary bop l r).ty? env = some t ↔
      l.ty? env = some .integer ∧ r.ty? env = some .integer ∧ .integer = t := by
  rw [ty?]
  split <;> simp_all

/-- Whatever has a value has the type of its value. -/
theorem ty?_of_eval (h : e.eval env = .ok v) : e.ty? env = some v.ty := by
  induction e generalizing v with
  | integer n => cases h; rfl
  | identifier x => exact Environment.ty?_eq_some_iff.2 ⟨v, eval_identifier_eq_ok_iff.1 h, rfl⟩
  | unary op e ih =>
    obtain ⟨w, he, ha⟩ := exists_of_eval_unary h
    rw [ty?_unary_eq_some_iff, ih he]
    rcases UnaryOp.of_apply_eq_ok ha with ⟨a, b, rfl, rfl, rfl, -⟩ | ⟨b, rfl, rfl, rfl⟩
    · exact ⟨rfl, rfl⟩
    · exact ⟨rfl, rfl⟩
  | binary op l r ihl ihr =>
    obtain ⟨x, y, hl, hr, ha⟩ := exists_of_eval_binary h
    obtain ⟨a, b, c, rfl, rfl, rfl, -, -⟩ := BinaryOp.of_apply_eq_ok ha
    exact ty?_binary_eq_some_iff.2 ⟨ihl hl, ihr hr, rfl⟩

theorem eval_error_of_ty? (ht : e.ty? env = some t) (h : e.eval env = .error err) :
    t = .integer ∧ (err = .dividedByZero ∨ err = .overflow) := by
  induction e generalizing t with
  | integer n => cases h
  | identifier x =>
    obtain ⟨v, hx, -⟩ := Environment.ty?_eq_some_iff.1 ht
    rw [eval_identifier_eq_ok_iff.2 hx] at h
    cases h
  | unary op e ih =>
    obtain ⟨he, rfl⟩ := ty?_unary_eq_some_iff.1 ht
    cases hv : e.eval env with
    | error err' =>
      rw [eval_unary_of_error hv] at h
      exact ih he (hv.trans h)
    | ok v =>
      rw [eval_unary_of_ok hv] at h
      rw [ty?_of_eval hv] at he
      obtain ⟨rfl, rfl⟩ := UnaryOp.of_apply_eq_error (Option.some.inj he) h
      exact ⟨rfl, .inr rfl⟩
  | binary op l r ihl ihr =>
    obtain ⟨hl, hr, rfl⟩ := ty?_binary_eq_some_iff.1 ht
    cases hv : l.eval env with
    | error err' =>
      rw [eval_binary_of_error_left hv] at h
      exact ihl hl (hv.trans h)
    | ok v =>
      cases hw : r.eval env with
      | error err' =>
        rw [eval_binary_of_error_right hv hw] at h
        exact ihr hr (hw.trans h)
      | ok w =>
        rw [eval_binary_of_ok hv hw] at h
        rw [ty?_of_eval hv] at hl
        rw [ty?_of_eval hw] at hr
        exact ⟨rfl, BinaryOp.of_apply_eq_error (Option.some.inj hl) (Option.some.inj hr) h⟩

/-- Only negations of a boolean name are boolean. -/
theorem eval_of_ty?_boolean (ht : e.ty? env = some .boolean) :
    ∃ k x b, env.get? x = some (.ok (.boolean b)) ∧ e = (unary .not)^[k] (identifier x) ∧
      e.eval env = .ok (.boolean (not^[k] b)) := by
  induction e with
  | integer n => cases ht
  | identifier x =>
    obtain ⟨v, hx, hv⟩ := Environment.ty?_eq_some_iff.1 ht
    cases v with
    | integer n => cases hv
    | boolean b => exact ⟨0, x, b, hx, rfl, eval_identifier_eq_ok_iff.2 hx⟩
  | unary op e ih =>
    obtain ⟨he, ho⟩ := ty?_unary_eq_some_iff.1 ht
    cases op with
    | negative => cases ho
    | not =>
      obtain ⟨k, x, b, hx, rfl, hv⟩ := ih he
      refine ⟨k + 1, x, b, hx, ?_, ?_⟩
      · rw [Function.iterate_succ_apply']
      · rw [eval_unary_of_ok hv, Function.iterate_succ_apply']
        rfl
  | binary op l r ihl ihr =>
    obtain ⟨-, -, ho⟩ := ty?_binary_eq_some_iff.1 ht
    cases ho

end Expr

/-- An integer expression comes to an integer unless the arithmetic fails, a boolean one is a name
negated some times and comes to a boolean, and one without a type fails. What a session declares
has the type of its expression. -/
theorem eval_sound :
    (∀ (env : Environment) (e : Expr),
      match e.ty? env with
      | some .integer =>
        (∃ n, e.eval env = .ok (.integer n)) ∨ ∃ err, e.eval env = .error err ∧
          (err = .dividedByZero ∧ err.message = "divided by zero" ∨
            err = .overflow ∧ err.message = "integer overflow")
      | some .boolean =>
        ∃ k x b, env.get? x = some (.ok (.boolean b)) ∧
          e = (Expr.unary .not)^[k] (.identifier x) ∧
          e.eval env = .ok (.boolean (not^[k] b))
      | none => ∃ err, e.eval env = .error err) ∧
    ∀ rs before after d v,
      (Session.ofRequests rs).log = before ++ ⟨.declaration d, .ok v⟩ :: after →
      Environment.isReserved d.name = false ∧
        ∀ e ∈ d.value, e.ty? (replay before) = some v.ty := by
  constructor
  · intro env e
    rcases ht : e.ty? env with _ | _ | _
    · cases he : e.eval env with
      | ok v =>
        rw [Expr.ty?_of_eval he] at ht
        cases ht
      | error err => exact ⟨err, rfl⟩
    · cases he : e.eval env with
      | ok v =>
        rw [Expr.ty?_of_eval he] at ht
        cases v with
        | integer n => exact .inl ⟨n, rfl⟩
        | boolean b => cases ht
      | error err =>
        obtain ⟨-, rfl | rfl⟩ := Expr.eval_error_of_ty? ht he
        · exact .inr ⟨_, rfl, .inl ⟨rfl, rfl⟩⟩
        · exact .inr ⟨_, rfl, .inr ⟨rfl, rfl⟩⟩
    · exact Expr.eval_of_ty?_boolean ht
  · intro rs before after d v h
    have hd : (d.exec (replay before)).1 = .ok v := Session.exec_of_log h
    obtain ⟨hv, hr⟩ := Declaration.of_exec_eq_ok hd
    refine ⟨hr, fun e he => ?_⟩
    rw [Declaration.eval, Option.mem_def.1 he] at hv
    exact Expr.ty?_of_eval hv

theorem eval_sound_not :
    (Session.ofRequests [.evaluate (.declaration ⟨"x", "int", some (.identifier "true")⟩),
        .evaluate (.declaration ⟨"y", "int", some (.unary .not (.identifier "x"))⟩)]).log =
        [⟨.declaration ⟨"x", "int", some (.identifier "true")⟩, .ok (.boolean true)⟩] ++
          ⟨.declaration ⟨"y", "int", some (.unary .not (.identifier "x"))⟩,
            .ok (.boolean false)⟩ :: [] ∧
      Environment.isReserved "y" = false ∧
      (Expr.unary .not (.identifier "x")).ty? (replay
        [⟨.declaration ⟨"x", "int", some (.identifier "true")⟩, .ok (.boolean true)⟩]) =
        some .boolean := by
  have h : (Session.ofRequests [.evaluate (.declaration ⟨"x", "int", some (.identifier "true")⟩),
      .evaluate (.declaration ⟨"y", "int", some (.unary .not (.identifier "x"))⟩)]).log =
      [⟨.declaration ⟨"x", "int", some (.identifier "true")⟩, .ok (.boolean true)⟩] ++
        ⟨.declaration ⟨"y", "int", some (.unary .not (.identifier "x"))⟩,
          .ok (.boolean false)⟩ :: [] := rfl
  obtain ⟨hr, ht⟩ := eval_sound.2 _ _ _ _ _ h
  exact ⟨h, hr, ht _ rfl⟩

end Reckon
