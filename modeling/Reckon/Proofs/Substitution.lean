import Reckon.Proofs.Frame

/-! A declaration is a substitution: afterwards an expression is worth what it was worth before with
the declared value in the places of the name. The value may mention the name itself, which there
still means what it meant before. -/

namespace Reckon

/-- Where a name has the answer of `d`, it may as well be read as `d`. -/
theorem Expr.eval_subst {env env' : Environment} {x : Name} {d : Expr}
    (h : ∀ y, env'.get? y = if y = x then some (d.eval env) else env.get? y) (e : Expr) :
    (e.subst x d).eval env = e.eval env' := by
  induction e with
  | integer n => rfl
  | identifier y =>
    rw [subst, eval, h y]
    by_cases hy : y = x
    · simp [hy]
    · simp [hy, eval]
  | unary op e ih => simp only [subst, eval, ih]
  | binary op l r ihl ihr => simp only [subst, eval, ihl, ihr]

namespace Declaration

variable {d : Declaration} {env : Environment}

theorem get?_exec_of_ok {v : Value} (hv : d.eval env = .ok v)
    (hr : Environment.isReserved d.name = false) (y : Name) :
    (d.exec env).2.get? y = if y = d.name then some (d.eval env) else env.get? y := by
  have ha : ((Statement.declaration d).exec env).1 = .ok v := by
    change (d.exec env).1 = .ok v
    simp [d.answer_exec, hv, hr, Except.bind]
  change ((Statement.declaration d).exec env).2.get? y = _
  rw [Statement.get?_exec, ha, hv]
  by_cases hy : y = d.name
  · simp [Entry.binding?, hy]
  · simp [Entry.binding?, hy, Ne.symm hy]

theorem exec_of_not_ok (h : ∀ v, d.eval env = .ok v → Environment.isReserved d.name = true) :
    (d.exec env).2 = env := by
  rcases d.exec_cases env with ⟨e, he⟩ | ⟨v, env', -, he⟩
  · rw [he]
  · obtain ⟨hv, hr⟩ := of_exec_eq_ok (congrArg Prod.fst he)
    exact absurd (h v hv) (by simp [hr])

end Declaration

/-- After a declaration an expression comes to what it came to before, with the declared expression
put in the places of the name if that has a value and may be declared. -/
theorem eval_after_declaration (env : Environment) (x typeName : Name) (e₀ e : Expr) :
    e.eval ((Statement.declaration ⟨x, typeName, some e₀⟩).exec env).2 =
      if Environment.isReserved x = false ∧ (e₀.eval env).isError = false then
        (e.subst x e₀).eval env
      else e.eval env := by
  change e.eval (Declaration.exec ⟨x, typeName, some e₀⟩ env).2 = _
  have hd : Declaration.eval env ⟨x, typeName, some e₀⟩ = e₀.eval env := rfl
  cases hv : e₀.eval env with
  | error err =>
    rw [Declaration.exec_of_not_ok (by simp [hd, hv]), if_neg (by simp [Answer.isError])]
  | ok v =>
    cases hx : Environment.isReserved x with
    | true => rw [Declaration.exec_of_not_ok fun _ _ => hx, if_neg (by simp)]
    | false =>
      rw [if_pos ⟨rfl, rfl⟩]
      exact (Expr.eval_subst (Declaration.get?_exec_of_ok (hd.trans hv) hx) e).symm

end Reckon
