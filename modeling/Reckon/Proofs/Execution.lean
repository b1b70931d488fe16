import Reckon.Session

/-! What evaluating a statement does to an environment, and a program statement by statement. Only a
declaration that comes to a value changes anything, and it changes one name. -/

namespace Reckon

theorem Declaration.exec_cases (d : Declaration) (env : Environment) :
    (∃ e, d.exec env = (.error e, env)) ∨
      ∃ v env', env.insert? d.name (.ok v) = some env' ∧ d.exec env = (.ok v, env') := by
  cases hv : d.eval env with
  | error e => exact .inl ⟨e, by simp [exec, hv]⟩
  | ok v =>
    cases hi : env.insert? d.name (.ok v) with
    | none => exact .inl ⟨.reserved d.name, by simp [exec, hv, hi]⟩
    | some env' => exact .inr ⟨v, env', hi, by simp [exec, hv, hi]⟩

/-- Whether a name can be declared does not depend on the environment. -/
theorem Declaration.answer_exec (d : Declaration) (env : Environment) :
    (d.exec env).1 = (d.eval env).bind fun v =>
      if Environment.isReserved d.name then .error (.reserved d.name) else .ok v := by
  cases hv : d.eval env with
  | error e =>
    simp only [exec, hv]
    rfl
  | ok v =>
    by_cases hr : Environment.isReserved d.name
    · simp [exec, hv, Environment.insert?, hr, Except.bind]
    · simp [exec, hv, Environment.insert?, hr, Except.bind]

theorem Declaration.of_exec_eq_ok {d : Declaration} {env : Environment} {v : Value}
    (h : (d.exec env).1 = .ok v) :
    d.eval env = .ok v ∧ Environment.isReserved d.name = false := by
  rw [answer_exec] at h
  cases hv : d.eval env with
  | error e => simp [hv, Except.bind] at h
  | ok w =>
    cases hr : Environment.isReserved d.name with
    | true => simp [hv, hr, Except.bind] at h
    | false => exact ⟨by simpa [hv, hr, Except.bind] using h, rfl⟩

theorem Statement.exec_cases (s : Statement) (env : Environment) :
    ((s.exec env).2 = env ∧ ∀ d v, s = .declaration d → (s.exec env).1 ≠ .ok v) ∨
      ∃ d v env', s = .declaration d ∧ env.insert? d.name (.ok v) = some env' ∧
        s.exec env = (.ok v, env') := by
  cases s with
  | expression e => exact .inl ⟨rfl, fun _ _ h => nomatch h⟩
  | bad message => exact .inl ⟨rfl, fun _ _ h => nomatch h⟩
  | declaration d =>
    have hd : (declaration d).exec env = d.exec env := rfl
    rw [hd]
    rcases d.exec_cases env with ⟨e, h⟩ | ⟨v, env', hi, h⟩
    · rw [h]
      exact .inl ⟨rfl, fun _ _ _ hv => nomatch hv⟩
    · exact .inr ⟨d, v, env', rfl, hi, h⟩

namespace Program

theorem exec_nil (env : Environment) : exec [] env = ([], env) := rfl

theorem exec_cons (s : Statement) (p : Program) (env : Environment) :
    exec (s :: p) env =
      ((s.exec env).1 :: (exec p (s.exec env).2).1, (exec p (s.exec env).2).2) := by
  rw [exec, List.mapM_cons]
  rfl

theorem exec_append (p q : Program) (env : Environment) :
    exec (p ++ q) env =
      ((exec p env).1 ++ (exec q (exec p env).2).1, (exec q (exec p env).2).2) := by
  rw [exec, List.mapM_append]
  rfl

theorem length_exec (p : Program) (env : Environment) : (exec p env).1.length = p.length := by
  induction p generalizing env with
  | nil => rfl
  | cons s p ih => rw [exec_cons, List.length_cons, List.length_cons, ih]

theorem exists_getLast?_exec {p : Program} (hp : p ≠ []) (env : Environment) :
    ∃ a ∈ (p.exec env).1, (p.exec env).1.getLast? = some a := by
  have hne : (p.exec env).1 ≠ [] := by
    rw [← List.length_pos_iff, length_exec]
    exact List.length_pos_iff.2 hp
  exact ⟨_, List.getLast_mem hne, List.getLast?_eq_some_getLast hne⟩

end Program

/-- Why the text does not parse. -/
def literalError? (source : String) : Option LiteralError :=
  match parse source with
  | .error e => some e
  | .ok _ => none

theorem literalError?_eq_some_iff {source : String} {e : LiteralError} :
    literalError? source = some e ↔ parse source = .error e := by
  unfold literalError?
  cases parse source <;> simp

theorem literalError?_of_ok {source : String} {p : Program} (h : parse source = .ok p) :
    literalError? source = none := by
  rw [literalError?, h]

theorem run_of_error {source : String} {e : LiteralError} (h : parse source = .error e)
    (env : Environment) : run source env = (.error e, env) := by
  rw [run, h]
  rfl

theorem run_of_ok {source : String} {p : Program} (h : parse source = .ok p)
    (env : Environment) : run source env = (.ok (p.exec env).1.getLast?, (p.exec env).2) := by
  rw [run, h]
  rfl

/-- What is written back for what a text came to. -/
def reply : Except LiteralError (Option Answer) → String
  | .error e => "error: " ++ e.message ++ "\n"
  | .ok none => ""
  | .ok (some a) => a.text ++ "\n"

theorem respond_apply (source : String) (env : Environment) :
    (respond source).run env = (reply (run source env).1, (run source env).2) := by
  have hr : (run source).run env = run source env := rfl
  rw [respond, StateT.run_bind, hr]
  rcases run source env with ⟨e | (_ | a), env'⟩ <;> rfl

end Reckon
