import Reckon.Expr.Names
import Reckon.Proofs.Bindings

/-! What a statement depends on and what it leaves alone. Its answer follows from the names it
reads, and it changes no name but the one it declares. So environments that give every name the same
are the same to every program. -/

namespace Reckon

/-- Every name has the same in both environments, however they came to it. -/
def Environment.Same (env env' : Environment) : Prop := ∀ x, env.get? x = env'.get? x

theorem Expr.eval_congr {env env' : Environment} {e : Expr}
    (h : ∀ x ∈ e.names, env.get? x = env'.get? x) : e.eval env = e.eval env' := by
  induction e with
  | integer n => rfl
  | identifier x => simp only [eval, h x (List.mem_singleton_self x)]
  | unary op e ih => simp only [eval, ih h]
  | binary op l r ihl ihr =>
    have hl := ihl fun x hx => h x (List.mem_append_left _ hx)
    have hr := ihr fun x hx => h x (List.mem_append_right _ hx)
    simp only [eval, hl, hr]

namespace Statement

variable {env env' : Environment}

theorem answer_congr {s : Statement} (h : ∀ x ∈ s.reads, env.get? x = env'.get? x) :
    (s.exec env).1 = (s.exec env').1 := by
  cases s with
  | expression e => exact Expr.eval_congr h
  | bad message => rfl
  | declaration d =>
    have hd : d.eval env = d.eval env' := by
      obtain ⟨x, t, value⟩ := d
      cases value with
      | none => rfl
      | some e => exact Expr.eval_congr h
    change (d.exec env).1 = (d.exec env').1
    rw [d.answer_exec, d.answer_exec, hd]

theorem binding?_of_notMem {s : Statement} {x : Name} (h : x ∉ s.writes) (a : Answer) :
    Entry.binding? x ⟨s, a⟩ = none := by
  cases s with
  | expression e => rfl
  | bad message => rfl
  | declaration d =>
    have hd : d.name ≠ x := fun hd => h (by simp [writes, hd])
    cases a <;> simp [Entry.binding?, hd]

/-- A name that is not declared keeps what it has. -/
theorem get?_exec_of_notMem {s : Statement} {x : Name} (h : x ∉ s.writes) (env : Environment) :
    (s.exec env).2.get? x = env.get? x := by
  rw [s.get?_exec, binding?_of_notMem h]
  rfl

theorem same_exec (s : Statement) (h : env.Same env') :
    (s.exec env).2.Same (s.exec env').2 := by
  intro x
  rw [s.get?_exec, s.get?_exec, answer_congr fun y _ => h y, h x]

end Statement

theorem Program.exec_congr {env env' : Environment} (h : env.Same env') (p : Program) :
    (p.exec env).1 = (p.exec env').1 ∧ (p.exec env).2.Same (p.exec env').2 := by
  induction p generalizing env env' with
  | nil => exact ⟨rfl, h⟩
  | cons s p ih =>
    obtain ⟨ha, he⟩ := ih (s.same_exec h)
    have hs : (s.exec env).1 = (s.exec env').1 := Statement.answer_congr fun x _ => h x
    rw [exec_cons, exec_cons, ha, hs]
    exact ⟨rfl, he⟩

end Reckon
