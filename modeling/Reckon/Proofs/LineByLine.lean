import Reckon.Proofs.Execution
import Reckon.Proofs.Independence

/-! A text run as a whole against its lines run one after the other. Both do the same, provided each
line ends its last statement and all of them parse; a line that does not parse keeps the whole text
from running. -/

namespace Reckon

theorem tokens_append_newline (s₁ s₂ : String) :
    (Parser.ofString (s₁ ++ "\n" ++ s₂)).tokens =
      (Parser.ofString s₁).tokens ++ (Parser.ofString s₂).tokens := by
  have h := Spells.append_blank (c := '\n') (by decide) (Lexer.spells_tokens (.ofString s₁))
    (Lexer.spells_tokens (.ofString s₂))
  have hs : (s₁ ++ "\n" ++ s₂).toList = s₁.toList ++ '\n' :: s₂.toList := by simp
  exact tokens_of_spells h _ hs

theorem parse_append_newline {s₁ : String} (h : ¬ Unterminated (tokenize s₁).dropLast)
    (s₂ : String) :
    parse (s₁ ++ "\n" ++ s₂) = (do return (← parse s₁) ++ (← parse s₂)) := by
  rw [tokenize_eq] at h
  rw [parse_eq_mapM, parse_eq_mapM, parse_eq_mapM, tokens_append_newline,
    segments_append_of_not_unterminated h, List.mapM_append]

theorem parse_intercalate {lines : List String}
    (h : ∀ l ∈ lines, ¬ Unterminated (tokenize l).dropLast) :
    parse ("\n".intercalate lines) = List.flatten <$> lines.mapM parse := by
  induction lines with
  | nil =>
    have h₀ : (Parser.ofString "").tokens = [] := Lexer.tokens_of_nil rfl
    rw [String.intercalate_nil, parse_eq_mapM, h₀]
    rfl
  | cons l ls ih =>
    have ih := ih fun l hl => h l (List.mem_cons_of_mem _ hl)
    rw [List.mapM_cons]
    cases ls with
    | nil =>
      rw [String.intercalate_singleton]
      cases parse l <;> simp
    | cons l' ls =>
      rw [String.intercalate_cons_cons, parse_append_newline (h l (by simp)), ih]
      cases parse l with
      | error e => rfl
      | ok p => cases (l' :: ls).mapM parse <;> rfl

theorem mapM_parse_of_some {lines : List String} {e : LiteralError}
    (h : lines.findSome? literalError? = some e) : lines.mapM parse = .error e := by
  induction lines with
  | nil => cases h
  | cons l ls ih =>
    rw [List.findSome?_cons] at h
    rw [List.mapM_cons]
    cases hl : parse l with
    | error e' =>
      rw [literalError?_eq_some_iff.2 hl] at h
      cases h
      rfl
    | ok p =>
      rw [literalError?_of_ok hl] at h
      rw [ih h]
      rfl

theorem exists_mapM_parse {lines : List String} (h : lines.findSome? literalError? = none) :
    ∃ ps, lines.mapM parse = .ok ps := by
  induction lines with
  | nil => exact ⟨[], rfl⟩
  | cons l ls ih =>
    rw [List.findSome?_cons] at h
    rw [List.mapM_cons]
    cases hl : parse l with
    | error e =>
      rw [literalError?_eq_some_iff.2 hl] at h
      cases h
    | ok p =>
      rw [literalError?_of_ok hl] at h
      obtain ⟨ps, hps⟩ := ih h
      rw [hps]
      exact ⟨p :: ps, rfl⟩

/-- The last answer among what several texts came to. -/
def lastAnswer? (replies : List (Except LiteralError (Option Answer))) : Option Answer :=
  replies.reverse.findSome? fun
    | .ok a => a
    | .error _ => none

theorem lastAnswer?_cons (a : Option Answer)
    (replies : List (Except LiteralError (Option Answer))) :
    lastAnswer? (.ok a :: replies) = (lastAnswer? replies).or a := by
  simp [lastAnswer?, List.findSome?_append]

theorem mapM_run_cons (l : String) (ls : List String) (env : Environment) :
    ((l :: ls).mapM run).run env =
      ((run l env).1 :: ((ls.mapM run).run (run l env).2).1,
        ((ls.mapM run).run (run l env).2).2) := by
  rw [List.mapM_cons]
  rfl

theorem mapM_run_of_ok {lines : List String} {ps : List Program}
    (h : lines.mapM parse = .ok ps) (env : Environment) :
    lastAnswer? ((lines.mapM run).run env).1 = (Program.exec ps.flatten env).1.getLast? ∧
      ((lines.mapM run).run env).2 = (Program.exec ps.flatten env).2 := by
  induction lines generalizing ps env with
  | nil =>
    cases h
    exact ⟨rfl, rfl⟩
  | cons l ls ih =>
    obtain ⟨p, qs, hp, hqs, rfl⟩ := mapM_cons_eq_ok h
    obtain ⟨h₁, h₂⟩ := ih hqs (p.exec env).2
    rw [mapM_run_cons, run_of_ok hp, lastAnswer?_cons, h₁, h₂, List.flatten_cons,
      Program.exec_append, List.getLast?_append]
    exact ⟨rfl, rfl⟩

/-- Running the lines together is running them one by one, if all of them parse. Else the first
failure is all that comes of it. -/
theorem run_intercalate (env : Environment) {lines : List String}
    (h : ∀ l ∈ lines, ¬ Unterminated (tokenize l).dropLast) :
    run ("\n".intercalate lines) env = match lines.findSome? literalError? with
      | some e => (.error e, env)
      | none => (.ok (lastAnswer? ((lines.mapM run).run env).1), ((lines.mapM run).run env).2) := by
  have hj := parse_intercalate h
  cases hf : lines.findSome? literalError? with
  | some e =>
    rw [mapM_parse_of_some hf] at hj
    exact run_of_error hj env
  | none =>
    obtain ⟨ps, hps⟩ := exists_mapM_parse hf
    rw [hps] at hj
    obtain ⟨h₁, h₂⟩ := mapM_run_of_ok hps env
    rw [h₁, h₂]
    exact run_of_ok hj env

theorem run_intercalate_fatal :
    (∀ l ∈ ["var x int = 2;", "", "x + 1;"], ¬ Unterminated (tokenize l).dropLast) ∧
      run "var x int = 2;\n\nx + 1;" {} =
        (.ok (lastAnswer? ((["var x int = 2;", "", "x + 1;"].mapM run).run {}).1),
          ((["var x int = 2;", "", "x + 1;"].mapM run).run {}).2) ∧
      (lastAnswer? ((["var x int = 2;", "", "x + 1;"].mapM run).run {}).1).map Answer.text =
        some "3" ∧
      (∀ l ∈ ["var x int = 2;", "9223372036854775808;"],
        ¬ Unterminated (tokenize l).dropLast) ∧
      run "var x int = 2;\n9223372036854775808;" {} = (.error ⟨"9223372036854775808"⟩, {}) := by
  have h₁ : ∀ l ∈ ["var x int = 2;", "", "x + 1;"], ¬ Unterminated (tokenize l).dropLast := by
    decide +kernel
  have h₂ : ∀ l ∈ ["var x int = 2;", "9223372036854775808;"],
      ¬ Unterminated (tokenize l).dropLast := by decide +kernel
  have hf₁ : ["var x int = 2;", "", "x + 1;"].findSome? literalError? = none := by decide +kernel
  have hf₂ : ["var x int = 2;", "9223372036854775808;"].findSome? literalError? =
      some ⟨"9223372036854775808"⟩ := by decide +kernel
  have hr₁ := run_intercalate {} h₁
  have hr₂ := run_intercalate {} h₂
  rw [hf₁] at hr₁
  rw [hf₂] at hr₂
  exact ⟨h₁, hr₁, by decide +kernel, h₂, hr₂⟩

end Reckon
