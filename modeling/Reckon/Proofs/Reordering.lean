import Mathlib.Data.List.Basic
import Reckon.Proofs.Frame

/-! Statements in another order, and statements left out. Two neighbours may change places if
neither declares what the other reads or declares. Whatever declares nothing may be left out, and
those that stay do not notice. -/

namespace Reckon

/-- Neither statement declares a name that the other reads or declares. -/
structure Statement.Independent (s t : Statement) : Prop where
  writes_reads : s.writes.Disjoint t.reads
  reads_writes : s.reads.Disjoint t.writes
  writes_writes : s.writes.Disjoint t.writes

namespace Statement.Independent

variable {s t : Statement}

theorem symm (h : s.Independent t) : t.Independent s :=
  ⟨List.disjoint_symm h.reads_writes, List.disjoint_symm h.writes_reads,
    List.disjoint_symm h.writes_writes⟩

/-- The second statement does not notice the first. -/
theorem answer_exec (h : s.Independent t) (env : Environment) :
    (t.exec (s.exec env).2).1 = (t.exec env).1 :=
  answer_congr fun _ ht => get?_exec_of_notMem (fun hs => h.writes_reads hs ht) env

theorem same_exec (h : s.Independent t) (env : Environment) :
    (t.exec (s.exec env).2).2.Same (s.exec (t.exec env).2).2 := by
  intro x
  rw [t.get?_exec, s.get?_exec, s.get?_exec, t.get?_exec, h.answer_exec, h.symm.answer_exec]
  -- at most one of the two declares `x`, so it does not matter which one is asked first
  by_cases hs : x ∈ s.writes
  · rw [binding?_of_notMem (h.writes_writes hs)]
    simp
  · rw [binding?_of_notMem hs]
    simp

end Statement.Independent

/-- Independent neighbours in either order: every statement has the same answer, and every name the
same in the end. -/
theorem exec_swap {s t : Statement} (h : s.Independent t) (env : Environment)
    (before after : Program) :
    ∃ as a b bs, as.length = before.length ∧ bs.length = after.length ∧
      (Program.exec (before ++ [s, t] ++ after) env).1 = as ++ [a, b] ++ bs ∧
      (Program.exec (before ++ [t, s] ++ after) env).1 = as ++ [b, a] ++ bs ∧
      ∀ x, (Program.exec (before ++ [t, s] ++ after) env).2.get? x =
        (Program.exec (before ++ [s, t] ++ after) env).2.get? x := by
  obtain ⟨as, env, hb⟩ : ∃ as env', Program.exec before env = (as, env') := ⟨_, _, rfl⟩
  have hl : as.length = before.length := by rw [← before.length_exec, hb]
  obtain ⟨ha, he⟩ := Program.exec_congr (h.symm.same_exec env) after
  simp only [Program.exec_append, Program.exec_cons, Program.exec_nil, hb, h.answer_exec,
    h.symm.answer_exec, ha]
  exact ⟨as, _, _, _, hl, after.length_exec _, rfl, rfl, he⟩

/-- The declaration of a reserved name fails in either place. -/
theorem exec_swap_reserved :
    Statement.Independent (.declaration ⟨"x", "int", some (.identifier "y")⟩)
        (.declaration ⟨"true", "int", some (.identifier "y")⟩) ∧
      ∃ as a b bs, as.length = 1 ∧ bs.length = 1 ∧
        (Program.exec [.declaration ⟨"y", "int", none⟩,
          .declaration ⟨"x", "int", some (.identifier "y")⟩,
          .declaration ⟨"true", "int", some (.identifier "y")⟩,
          .expression (.identifier "x")] {}).1 = as ++ [a, b] ++ bs ∧
        (Program.exec [.declaration ⟨"y", "int", none⟩,
          .declaration ⟨"true", "int", some (.identifier "y")⟩,
          .declaration ⟨"x", "int", some (.identifier "y")⟩,
          .expression (.identifier "x")] {}).1 = as ++ [b, a] ++ bs ∧
        ∀ x, (Program.exec [.declaration ⟨"y", "int", none⟩,
            .declaration ⟨"true", "int", some (.identifier "y")⟩,
            .declaration ⟨"x", "int", some (.identifier "y")⟩,
            .expression (.identifier "x")] {}).2.get? x =
          (Program.exec [.declaration ⟨"y", "int", none⟩,
            .declaration ⟨"x", "int", some (.identifier "y")⟩,
            .declaration ⟨"true", "int", some (.identifier "y")⟩,
            .expression (.identifier "x")] {}).2.get? x := by
  have h : Statement.Independent (.declaration ⟨"x", "int", some (.identifier "y")⟩)
      (.declaration ⟨"true", "int", some (.identifier "y")⟩) := by
    constructor <;> simp [Statement.writes, Statement.reads, Expr.names]
  exact ⟨h, exec_swap h {} [.declaration ⟨"y", "int", none⟩] [.expression (.identifier "x")]⟩

/-- Whether the entry is that of a successful declaration. -/
def Entry.declares : Entry → Bool
  | ⟨.declaration _, .ok _⟩ => true
  | _ => false

theorem Statement.exec_of_not_declares {s : Statement} {env : Environment}
    (h : ¬ Entry.declares ⟨s, (s.exec env).1⟩) : (s.exec env).2 = env := by
  rcases s.exec_cases env with ⟨he, -⟩ | ⟨d, v, env', rfl, -, he⟩
  · exact he
  · rw [he] at h
    exact absurd rfl h

namespace Program

/-- The statements with what they come to. -/
def log (p : Program) (env : Environment) : List Entry := List.zipWith Entry.mk p (p.exec env).1

theorem log_cons (s : Statement) (p : Program) (env : Environment) :
    log (s :: p) env = ⟨s, (s.exec env).1⟩ :: log p (s.exec env).2 := by
  rw [log, exec_cons]
  rfl

/-- What is left of the log after entries without a declaration were struck out is the log of a run
of its own, from the same environment and to the same one. -/
theorem exec_of_sublist (p : Program) {env : Environment} {kept : List Entry}
    (hs : kept.Sublist (p.log env))
    (hd : kept.filter Entry.declares = (p.log env).filter Entry.declares) :
    exec (kept.map Entry.statement) env = (kept.map Entry.answer, (p.exec env).2) := by
  induction p generalizing env kept with
  | nil =>
    cases hs
    rfl
  | cons s p ih =>
    rw [log_cons] at hs hd
    rw [exec_cons]
    cases hs with
    | cons _ hs =>
      have hn : ¬ Entry.declares ⟨s, (s.exec env).1⟩ := by
        intro h
        have hl := (hs.filter Entry.declares).length_le
        rw [hd, List.filter_cons_of_pos h, List.length_cons] at hl
        omega
      rw [List.filter_cons_of_neg hn, Statement.exec_of_not_declares hn] at hd
      rw [Statement.exec_of_not_declares hn] at hs ⊢
      exact ih hs hd
    | @cons_cons kept _ _ hs =>
      have hk : kept.filter Entry.declares = (log p (s.exec env).2).filter Entry.declares := by
        rw [List.filter_cons, List.filter_cons] at hd
        split at hd
        · exact (List.cons.inj hd).2
        · exact hd
      rw [List.map_cons, exec_cons, ih hs hk]
      rfl

end Program

/-- Whatever else is struck from the log of a program, as long as the successful declarations stay,
the statements that are left have their answers again and lead to the same environment; and the
successful declarations alone lead there. -/
theorem exec_kept (p : Program) (env : Environment) :
    (∀ kept : List Entry, kept.Sublist (p.log env) →
      kept.filter Entry.declares = (p.log env).filter Entry.declares →
      Program.exec (kept.map Entry.statement) env = (kept.map Entry.answer, (p.exec env).2)) ∧
    (Program.exec (((p.log env).filter Entry.declares).map Entry.statement) env).2 =
      (p.exec env).2 := by
  have hf : ((p.log env).filter Entry.declares).filter Entry.declares =
      (p.log env).filter Entry.declares := by simp
  refine ⟨fun kept hs hd => p.exec_of_sublist hs hd, ?_⟩
  rw [p.exec_of_sublist List.filter_sublist hf]

/-- A failed declaration is left out and a failed expression stays. -/
theorem exec_kept_failing :
    List.Sublist
        [⟨.declaration ⟨"x", "int", none⟩, .ok (.integer 0)⟩,
          ⟨.expression (.identifier "y"), .error (.undefined "y")⟩]
        (Program.log [.declaration ⟨"x", "int", none⟩,
          .declaration ⟨"x", "int", some (.identifier "y")⟩, .expression (.identifier "y")] {}) ∧
      List.filter Entry.declares
          [⟨.declaration ⟨"x", "int", none⟩, .ok (.integer 0)⟩,
            ⟨.expression (.identifier "y"), .error (.undefined "y")⟩] =
        List.filter Entry.declares (Program.log [.declaration ⟨"x", "int", none⟩,
          .declaration ⟨"x", "int", some (.identifier "y")⟩, .expression (.identifier "y")] {}) ∧
      Program.exec [.declaration ⟨"x", "int", none⟩, .expression (.identifier "y")] {} =
        ([.ok (.integer 0), .error (.undefined "y")],
          (Program.exec [.declaration ⟨"x", "int", none⟩,
            .declaration ⟨"x", "int", some (.identifier "y")⟩,
            .expression (.identifier "y")] {}).2) := by
  have hl : Program.log [.declaration ⟨"x", "int", none⟩,
      .declaration ⟨"x", "int", some (.identifier "y")⟩, .expression (.identifier "y")] {} =
      [⟨.declaration ⟨"x", "int", none⟩, .ok (.integer 0)⟩,
        ⟨.declaration ⟨"x", "int", some (.identifier "y")⟩, .error (.undefined "y")⟩,
        ⟨.expression (.identifier "y"), .error (.undefined "y")⟩] := rfl
  have hs : List.Sublist
      [⟨.declaration ⟨"x", "int", none⟩, .ok (.integer 0)⟩,
        ⟨.expression (.identifier "y"), .error (.undefined "y")⟩]
      (Program.log [.declaration ⟨"x", "int", none⟩,
        .declaration ⟨"x", "int", some (.identifier "y")⟩, .expression (.identifier "y")] {}) := by
    rw [hl]
    exact ((List.Sublist.refl _).cons _).cons_cons _
  exact ⟨hs, rfl, (exec_kept _ {}).1 _ hs rfl⟩

end Reckon
