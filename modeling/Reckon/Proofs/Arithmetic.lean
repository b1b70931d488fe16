import Reckon.Proofs.Evaluation
import Reckon.Proofs.Execution
import Reckon.Proofs.RoundTrip

/-! Operations on integers that are written out. A text such as `-7 / 2;` comes to the exact result
or says why there is none. The sign is a token of its own, so the digits alone have to be in range;
of all integers only the least one cannot be written for that. -/

namespace Reckon

/-- A text of one statement is read as that statement. -/
theorem parse_of_derives {source : String} {ts : List Token} {s : Statement}
    (ht : Spells source.toList ts) (h : Statement.Derives maxDepth ts s) :
    parse source = .ok [s] := by
  have ho : outcome ts = .ok s := by simpa using outcome_of_derives h []
  rw [parse_eq_mapM, Parser.ofString, spells_iff.1 ht, h.segments_eq, List.mapM_cons, ho]
  rfl

/-- A number out of range ends the parse where an operand has to come. -/
theorem parse_of_expects {source : String} {p r : List Token} {t : Token}
    (ht : Spells source.toList (p ++ t :: r)) (hp : Statement.Expects maxDepth p .operand)
    (hk : t.kind = .number) (hv : 0x7fffffffffffffff < t.value) :
    parse source = .error ⟨t.lexeme⟩ := by
  have hn : Want.operand.Refuses ((t :: r).headD .endMarker) := by
    simpa [Want.Refuses, Token.StartsOperand, hk] using hv
  have hs : Parser.statement ⟨p ++ t :: r, 0⟩ = .error ⟨t.lexeme⟩ ⟨t :: r, 0⟩ := by
    rw [Parser.statement, readsStatement.expects hp hn]
    simp [Want.failure, hk]
  rw [parse, Parser.ofString, spells_iff.1 ht, Parser.program_of_error (by simp) hs]

namespace Integer

def least : Integer := ⟨-0x8000000000000000, by decide, by decide⟩

/-- The digits of the text, without the sign. -/
def numeral (a : Integer) : Token := ⟨.number, String.ofList (Nat.toDigits 10 a.toInt.natAbs)⟩

/-- The tokens of the text. -/
def tokens (a : Integer) : List Token :=
  if a.toInt < 0 then [UnaryOp.negative.token, a.numeral] else [a.numeral]

theorem value_numeral (a : Integer) : a.numeral.value = a.toInt.natAbs := by
  rw [numeral, Token.value, String.toList_ofList, Nat.ofDigitChars_ten_toDigits]

theorem spells_numeral (a : Integer) : Spells a.numeral.lexeme.toList [a.numeral] := by
  have hk : a.numeral.kind.Lexeme a.numeral.lexeme.toList := by
    rw [numeral, String.toList_ofList]
    exact Token.Kind.lexeme_toDigits _
  exact hk.spells

theorem spells_text (a : Integer) : Spells a.text.toList a.tokens := by
  by_cases h : a.toInt < 0
  · have ht : a.text.toList = [] ++ UnaryOp.negative.token.lexeme.toList ++
        a.numeral.lexeme.toList := by
      simp [text, numeral, h, UnaryOp.token, UnaryOp.symbol]
    have hg (c : Char) : ¬ UnaryOp.negative.token.kind.goesOn c := by
      simp [UnaryOp.token, UnaryOp.kind, Token.Kind.goesOn]
    rw [ht, tokens, if_pos h]
    exact .cons (List.forall_mem_nil _) UnaryOp.negative.lexeme_token (fun c _ => hg c)
      a.spells_numeral
  · have ht : a.text.toList = a.numeral.lexeme.toList := by simp [text, numeral, h]
    rw [ht, tokens, if_neg h]
    exact a.spells_numeral

/-- Its own text stands for every integer but the least. -/
theorem exists_derives_tokens {a : Integer} (h : a ≠ least) (d : Nat) :
    ∃ e, Expr.Derives (d + 2) .operand a.tokens e ∧ ∀ env, e.eval env = .ok (.integer a) := by
  have hv := a.value_numeral
  by_cases hn : a.toInt < 0
  · have hl : a.toInt ≠ -0x8000000000000000 := fun hl => h (Integer.ext hl)
    have hm := a.ge_min
    let n : Integer := ⟨-a.toInt, by omega, by omega⟩
    have hd : Expr.Derives (d + 1) .operand [a.numeral] (.integer n) := by
      refine .number rfl ?_
      change -a.toInt = (a.numeral.value : Int)
      omega
    refine ⟨.unary .negative (.integer n), ?_, fun env => ?_⟩
    · rw [tokens, if_pos hn]
      exact .unary rfl hd
    · have hn : - n.toInt = a.toInt := Int.neg_neg a.toInt
      rw [Expr.eval_unary_of_ok rfl, UnaryOp.apply, hn, Answer.ofInt_toInt]
  · refine ⟨.integer a, ?_, fun _ => rfl⟩
    rw [tokens, if_neg hn]
    refine .number rfl ?_
    omega

theorem tokens_least : least.tokens = [UnaryOp.negative.token, least.numeral] := rfl

end Integer

namespace BinaryOp

/-- The text of an operation on two integers. -/
def source (op : BinaryOp) (a b : Integer) : String :=
  a.text ++ " " ++ op.symbol ++ " " ++ b.text ++ ";"

theorem spells_source (op : BinaryOp) (a b : Integer) :
    Spells (op.source a b).toList (a.tokens ++ op.token :: (b.tokens ++ [.semicolon])) := by
  have hs : (op.source a b).toList =
      a.text.toList ++ ' ' :: (op.token.lexeme.toList ++ ' ' :: (b.text.toList ++ [';'])) := by
    simp [source, token]
  have hb : Spells (b.text.toList ++ [';']) (b.tokens ++ [.semicolon]) :=
    b.spells_text.append_semicolon (.nil (List.forall_mem_nil _))
  rw [hs]
  exact .append_blank (by decide) a.spells_text
    (.append_blank (by decide) op.lexeme_token.spells hb)

theorem run_source (op : BinaryOp) {a b : Integer} (ha : a ≠ .least) (hb : b ≠ .least)
    (env : Environment) :
    run (op.source a b) env = (.ok (some (op.apply (.integer a) (.integer b))), env) := by
  obtain ⟨l, hl, hla⟩ := Integer.exists_derives_tokens ha 254
  obtain ⟨r, hr, hrb⟩ := Integer.exists_derives_tokens hb 253
  have he : Expr.Derives maxDepth op.level (a.tokens ++ op.token :: b.tokens) (.binary op l r) :=
    .binary rfl rfl (hl.of_operand _) (hr.of_operand _)
  have hd := Statement.Derives.expression (s := .semicolon) (he.of_le op.level.le_sum) rfl
  have hs := op.spells_source a b
  rw [← List.cons_append, ← List.append_assoc] at hs
  rw [run_of_ok (parse_of_derives hs hd), Program.exec_cons, Program.exec_nil]
  simp [Statement.exec, Expr.eval_binary_of_ok (hla env) (hrb env)]

theorem parse_source_least (op : BinaryOp) {a b : Integer} (h : a = .least ∨ b = .least) :
    parse (op.source a b) = .error ⟨Integer.least.numeral.lexeme⟩ := by
  have hs := op.spells_source a b
  have hv : 0x7fffffffffffffff < Integer.least.numeral.value := by
    rw [Integer.value_numeral]
    decide
  have hm (d : Nat) (level : Level) :
      Expr.Expects (d + 2) level [UnaryOp.negative.token] .operand := by
    have hk : UnaryOp.negative.token.kind = UnaryOp.negative.kind := rfl
    exact (Expr.Expects.unary hk .operand).of_le level.operand_le
  by_cases ha : a = .least
  · subst ha
    exact parse_of_expects hs (.inside (by simp) (hm 254 .sum)) rfl hv
  · obtain rfl := h.resolve_left ha
    obtain ⟨l, hl, -⟩ := Integer.exists_derives_tokens ha 254
    have he : Expr.Expects maxDepth op.level (a.tokens ++ op.token :: [UnaryOp.negative.token])
        .operand := .binary rfl rfl (hl.of_operand _) (hm 253 op.level)
    have hs : Spells (op.source a .least).toList
        ((a.tokens ++ op.token :: [UnaryOp.negative.token]) ++ Integer.least.numeral ::
          [.semicolon]) := by
      simpa [Integer.tokens_least] using hs
    exact parse_of_expects hs (.inside (by simp) (he.of_le op.level.le_sum)) rfl hv

end BinaryOp

/-- `-9223372036854775808 + 0` has a result in range and is not even read. -/
theorem run_least :
    BinaryOp.plus.source .least 0 = "-9223372036854775808 + 0;" ∧
      Integer.least.toInt = BinaryOp.plus.exact Integer.least.toInt (0 : Integer).toInt ∧
      run "-9223372036854775808 + 0;" {} = (.error ⟨"9223372036854775808"⟩, {}) ∧
      run "-9223372036854775808 + 0;" {} ≠ (.ok (some (.ok (.integer .least))), {}) := by
  have hs : BinaryOp.plus.source .least 0 = "-9223372036854775808 + 0;" := rfl
  have hr : run "-9223372036854775808 + 0;" {} = (.error ⟨"9223372036854775808"⟩, {}) := by
    rw [← hs]
    exact run_of_error (BinaryOp.plus.parse_source_least (.inl rfl)) {}
  refine ⟨hs, rfl, hr, fun h => ?_⟩
  rw [hr] at h
  cases h

/-- An operation on any two integers but the least comes to its exact result, unless that is out of
range or the divisor is zero. With the least integer the text does not parse. -/
theorem run_operation (env : Environment) (op : BinaryOp) (a b : Integer) :
    (a ≠ .least → b ≠ .least →
      ∃ answer, run (op.source a b) env = (.ok (some answer), env) ∧
        (op = .over ∧ b.toInt = 0 →
          ∃ err, answer = .error err ∧ err.message = "divided by zero") ∧
        (¬ (op = .over ∧ b.toInt = 0) →
          (∀ n : Integer, n.toInt = op.exact a.toInt b.toInt → answer = .ok (.integer n)) ∧
          (op.exact a.toInt b.toInt < -0x8000000000000000 ∨
              0x7fffffffffffffff < op.exact a.toInt b.toInt →
            ∃ err, answer = .error err ∧ err.message = "integer overflow"))) ∧
    (a = .least ∨ b = .least →
      run (op.source a b) env = (.error ⟨"9223372036854775808"⟩, env)) := by
  constructor
  · intro ha hb
    refine ⟨_, op.run_source ha hb env, fun hz => ?_, fun hz => ⟨fun n hn => ?_, fun ho => ?_⟩⟩
    · exact ⟨.dividedByZero, if_pos hz, rfl⟩
    · rw [BinaryOp.apply, if_neg hz, ← hn, Answer.ofInt_toInt]
    · rw [BinaryOp.apply, if_neg hz, Answer.ofInt_eq_error ho]
      exact ⟨.overflow, rfl, rfl⟩
  · intro h
    exact run_of_error (op.parse_source_least h) env

theorem run_operation_negative :
    (⟨-7, by decide, by decide⟩ : Integer) ≠ .least ∧
      (⟨2, by decide, by decide⟩ : Integer) ≠ .least ∧
      ¬ (BinaryOp.over = .over ∧ (2 : Int) = 0) ∧ -3 = BinaryOp.over.exact (-7) 2 ∧
      run "-7 / 2;" {} = (.ok (some (.ok (.integer ⟨-3, by decide, by decide⟩))), {}) ∧
      run "1 - -9223372036854775808;" {} = (.error ⟨"9223372036854775808"⟩, {}) := by
  have ha : (⟨-7, by decide, by decide⟩ : Integer) ≠ .least := by decide
  have hb : (⟨2, by decide, by decide⟩ : Integer) ≠ .least := by decide
  have hs : BinaryOp.over.source ⟨-7, by decide, by decide⟩ ⟨2, by decide, by decide⟩ =
      "-7 / 2;" := rfl
  have hl : BinaryOp.minus.source ⟨1, by decide, by decide⟩ .least =
      "1 - -9223372036854775808;" := rfl
  obtain ⟨answer, hr, -, hn⟩ := (run_operation {} .over _ _).1 ha hb
  have hq : answer = .ok (.integer ⟨-3, by decide, by decide⟩) :=
    (hn (by decide)).1 ⟨-3, by decide, by decide⟩ rfl
  have hf := (run_operation {} .minus ⟨1, by decide, by decide⟩ .least).2 (.inr rfl)
  rw [hs, hq] at hr
  rw [hl] at hf
  exact ⟨ha, hb, by decide, rfl, hr, hf⟩

end Reckon
