import Reckon.Proofs.Execution

/-! The environment of a session is what its log says. The log has every statement the session has
evaluated, with its answer, and a name has the value that the last successful declaration of it
came to; the reserved names are never declared. -/

namespace Reckon

/-- A statement that was evaluated, and what it came to. -/
structure Entry where
  statement : Statement
  answer : Answer

/-- What a session is asked to do. -/
inductive Request
  | run (source : String)
  | evaluate (s : Statement)

namespace Request

/-- The environment that is there afterwards. -/
def after (env : Environment) : Request → Environment
  | .run source => (Reckon.run source env).2
  | .evaluate s => (s.exec env).2

/-- What is evaluated. Of a text that does not parse nothing is, whatever it begins with. -/
def entries (env : Environment) : Request → List Entry
  | .run source =>
    match parse source with
    | .error _ => []
    | .ok p => List.zipWith Entry.mk p (p.exec env).1
  | .evaluate s => [⟨s, (s.exec env).1⟩]

end Request

structure Session where
  log : List Entry := []
  environment : Environment := {}

namespace Session

def perform (s : Session) (r : Request) : Session :=
  { log := s.log ++ r.entries s.environment, environment := r.after s.environment }

def ofRequests (rs : List Request) : Session := rs.foldl perform {}

end Session

/-- The value the entry gives `x`, if it is a successful declaration of it. -/
def Entry.binding? (x : Name) : Entry → Option Value
  | ⟨.declaration d, .ok v⟩ => if d.name = x then some v else none
  | _ => none

def lastBinding? (x : Name) (log : List Entry) : Option Value :=
  log.reverse.findSome? (Entry.binding? x)

theorem lastBinding?_concat (x : Name) (log : List Entry) (entry : Entry) :
    lastBinding? x (log ++ [entry]) = (entry.binding? x).or (lastBinding? x log) := by
  rw [lastBinding?, List.reverse_concat, List.findSome?_cons]
  cases entry.binding? x <;> rfl

theorem Entry.binding?_eq_none {s : Statement} {a : Answer}
    (h : ∀ d v, s = .declaration d → a ≠ .ok v) (x : Name) : binding? x ⟨s, a⟩ = none := by
  unfold binding?
  split
  · rename_i heq
    cases heq
    exact absurd rfl (h _ _ rfl)
  · rfl

/-- A statement gives a name what its entry says, and no other name anything. -/
theorem Statement.get?_exec (s : Statement) (env : Environment) (x : Name) :
    (s.exec env).2.get? x =
      ((Entry.binding? x ⟨s, (s.exec env).1⟩).map .ok).or (env.get? x) := by
  rcases s.exec_cases env with ⟨he, hs⟩ | ⟨d, v, env', rfl, hi, he⟩
  · rw [Entry.binding?_eq_none hs, he]
    rfl
  · rw [he, Environment.get?_insert hi]
    by_cases hd : d.name = x
    · simp [Entry.binding?, hd]
    · simp [Entry.binding?, hd, Ne.symm hd]

/-- Each name that can be declared has the value that the log last gave it. -/
def Records (log : List Entry) (env : Environment) : Prop :=
  ∀ x, Environment.isReserved x = false → env.get? x = (lastBinding? x log).map .ok

theorem records_nil : Records [] {} := by
  intro x hx
  have hb : builtin? x = none := by simpa [Environment.isReserved] using hx
  simp [Environment.get?, hb, lastBinding?]

namespace Records

variable {log : List Entry} {env : Environment} (h : Records log env)
include h

theorem exec (s : Statement) : Records (log ++ [⟨s, (s.exec env).1⟩]) (s.exec env).2 := by
  intro x hx
  rw [lastBinding?_concat, s.get?_exec, h x hx]
  cases Entry.binding? x ⟨s, (s.exec env).1⟩ <;> rfl

theorem program (p : Program) :
    Records (log ++ List.zipWith Entry.mk p (p.exec env).1) (p.exec env).2 := by
  induction p generalizing log env with
  | nil => simpa [Program.exec_nil] using h
  | cons s p ih =>
    rw [Program.exec_cons, List.zipWith_cons_cons, List.append_cons]
    exact ih (h.exec s)

theorem after (r : Request) : Records (log ++ r.entries env) (r.after env) := by
  cases r with
  | evaluate s => exact h.exec s
  | run source =>
    rw [Request.entries, Request.after]
    cases hp : parse source with
    | error e => simpa [run_of_error hp] using h
    | ok p => simpa [run_of_ok hp] using h.program p

theorem respond (source : String) :
    Records (log ++ (Request.run source).entries env) ((Reckon.respond source).run env).2 := by
  rw [respond_apply]
  exact h.after (.run source)

/-- A session has its log, whatever texts it has been given. -/
theorem mapM_respond (sources : List String) :
    ∃ log, Records log ((sources.mapM Reckon.respond).run env).2 := by
  induction sources generalizing log env with
  | nil => exact ⟨log, h⟩
  | cons source sources ih =>
    rw [List.mapM_cons]
    exact ih (h.respond source)

theorem not_error (x : Name) (e : EvalError) : env.get? x ≠ some (.error e) := by
  intro he
  rcases hx : Environment.isReserved x with _ | _
  · rw [h x hx] at he
    simp at he
  · rw [Environment.get?_of_isReserved hx] at he
    simp at he

end Records

theorem Session.records_foldl {s : Session} (h : Records s.log s.environment)
    (rs : List Request) :
    Records (rs.foldl perform s).log (rs.foldl perform s).environment := by
  induction rs generalizing s with
  | nil => exact h
  | cons r rs ih => exact ih (h.after r)

theorem Session.records_ofRequests (rs : List Request) :
    Records (ofRequests rs).log (ofRequests rs).environment := records_foldl records_nil rs

/-- The environment that comes of running the statements of a log once more. -/
def replay (log : List Entry) : Environment := (Program.exec (log.map Entry.statement) {}).2

theorem Request.exec_entries (r : Request) (env : Environment) :
    Program.exec ((r.entries env).map Entry.statement) env =
      ((r.entries env).map Entry.answer, r.after env) := by
  cases r with
  | evaluate s => rfl
  | run source =>
    rw [entries, after]
    cases hp : parse source with
    | error e => rw [run_of_error hp]; rfl
    | ok p =>
      have hl := p.length_exec env
      have hs : (List.zipWith Entry.mk p (p.exec env).1).map Entry.statement = p :=
        List.ext_getElem (by simp [hl]) (by simp)
      have ha : (List.zipWith Entry.mk p (p.exec env).1).map Entry.answer = (p.exec env).1 :=
        List.ext_getElem (by simp [hl]) (by simp)
      simp only [run_of_ok hp, hs, ha]
      rfl

namespace Session

theorem exec_foldl {s : Session}
    (h : Program.exec (s.log.map Entry.statement) {} = (s.log.map Entry.answer, s.environment))
    (rs : List Request) :
    Program.exec ((rs.foldl perform s).log.map Entry.statement) {} =
      ((rs.foldl perform s).log.map Entry.answer, (rs.foldl perform s).environment) := by
  induction rs generalizing s with
  | nil => exact h
  | cons r rs ih =>
    refine ih ?_
    rw [perform, List.map_append, Program.exec_append, h, r.exec_entries, List.map_append]

/-- Running the statements of a log again gives its answers again. -/
theorem exec_log (rs : List Request) :
    Program.exec ((ofRequests rs).log.map Entry.statement) {} =
      ((ofRequests rs).log.map Entry.answer, (ofRequests rs).environment) := exec_foldl rfl rs

theorem exec_of_log {rs : List Request} {before after : List Entry} {entry : Entry}
    (h : (ofRequests rs).log = before ++ entry :: after) :
    (entry.statement.exec (replay before)).1 = entry.answer := by
  have ha := congrArg Prod.fst (exec_log rs)
  rw [h, List.map_append, List.map_append, Program.exec_append, List.map_cons, List.map_cons,
    Program.exec_cons] at ha
  have hl : (Program.exec (before.map Entry.statement) {}).1.length =
      (before.map Entry.answer).length := by
    rw [Program.length_exec, List.length_map, List.length_map]
  exact (List.cons.inj (List.append_inj ha hl).2).1

end Session

theorem Environment.isReserved_eq_false {x : Name} (ht : x ≠ "true") (hf : x ≠ "false") :
    isReserved x = false := by
  unfold isReserved builtin?
  split
  · exact absurd rfl ht
  · exact absurd rfl hf
  · rfl

/-- After any requests a name has the value of its last successful declaration, and only successful
declarations change anything. -/
theorem environment_eq_log (rs : List Request) :
    (Session.ofRequests rs).environment.get? "true" = some (.ok (.boolean true)) ∧
    (Session.ofRequests rs).environment.get? "false" = some (.ok (.boolean false)) ∧
    (∀ x, x ≠ "true" → x ≠ "false" → (Session.ofRequests rs).environment.get? x =
      (lastBinding? x (Session.ofRequests rs).log).map .ok) ∧
    (∀ x e, (Session.ofRequests rs).environment.get? x ≠ some (.error e)) ∧
    (∀ (s : Statement) (env : Environment),
      (∀ d v, s = .declaration d → (s.exec env).1 ≠ .ok v) → (s.exec env).2 = env) ∧
    ∀ (source : String) (e : LiteralError) (env : Environment),
      parse source = .error e → (run source env).2 = env := by
  have h := Session.records_ofRequests rs
  refine ⟨rfl, rfl, fun x ht hf => h x (Environment.isReserved_eq_false ht hf), h.not_error,
    fun s env hs => ?_, fun source e env he => by rw [run_of_error he]⟩
  rcases s.exec_cases env with ⟨he, -⟩ | ⟨d, v, env', rfl, -, he⟩
  · exact he
  · exact absurd (by rw [he]) (hs d v rfl)

theorem environment_eq_log_fatal :
    (∀ d v, Statement.declaration ⟨"true", "int", none⟩ = .declaration d →
        (Statement.exec (.declaration ⟨"true", "int", none⟩) {}).1 ≠ .ok v) ∧
      (Statement.exec (.declaration ⟨"true", "int", none⟩) {}).2 = {} ∧
      parse "var x int = 3; 9223372036854775808" = .error ⟨"9223372036854775808"⟩ ∧
      (run "var x int = 3; 9223372036854775808" {}).2 = {} ∧
      (Session.ofRequests [.run "var x int = 2;", .evaluate (.declaration ⟨"true", "int", none⟩),
        .run "var x int = 3; 9223372036854775808", .run "var x int = y;"]).environment.get? "x" =
        some (.ok (.integer ⟨2, by decide, by decide⟩)) := by
  obtain ⟨-, -, hx, -, hu, hf⟩ := environment_eq_log
    [.run "var x int = 2;", .evaluate (.declaration ⟨"true", "int", none⟩),
      .run "var x int = 3; 9223372036854775808", .run "var x int = y;"]
  have hs : ∀ d v, Statement.declaration ⟨"true", "int", none⟩ = .declaration d →
      (Statement.exec (.declaration ⟨"true", "int", none⟩) {}).1 ≠ .ok v :=
    fun _ _ _ h => nomatch h
  have he : parse "var x int = 3; 9223372036854775808" = .error ⟨"9223372036854775808"⟩ :=
    literalError?_eq_some_iff.1 (by decide +kernel)
  have hb : lastBinding? "x" (Session.ofRequests
      [.run "var x int = 2;", .evaluate (.declaration ⟨"true", "int", none⟩),
        .run "var x int = 3; 9223372036854775808", .run "var x int = y;"]).log =
      some (.integer ⟨2, by decide, by decide⟩) := by decide +kernel
  exact ⟨hs, hu _ _ hs, he, hf _ _ _ he, by rw [hx "x" (by decide) (by decide), hb]; rfl⟩

end Reckon
