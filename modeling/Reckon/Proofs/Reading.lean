import Reckon.Parser.Program
import Reckon.Proofs.Expectation

/-! What the parser does on tokens that the grammar derives, and on tokens that run into one it
refuses. Each function of the parser has one lemma that says both, for every continuation. -/

namespace Reckon.ParseM

section
variable {α β : Type} {m : ParseM α} {f : α → ParseM β} {p q : Parser}

theorem bind_of_ok {a : α} (h : m p = .ok a q) : (m >>= f) p = f a q := by
  change EStateM.bind m f p = f a q
  unfold EStateM.bind
  rw [h]

theorem bind_of_error {e : Failure} (h : m p = .error e q) : (m >>= f) p = .error e q := by
  change EStateM.bind m f p = .error e q
  unfold EStateM.bind
  rw [h]

end

section
variable {ts : List Token} {t : Token} {d k : Nat} {level : Level}

theorem peek_apply : peek ⟨ts, k⟩ = .ok (ts.headD .endMarker) ⟨ts, k⟩ := rfl

theorem advance_apply : advance ⟨t :: ts, k⟩ = .ok () ⟨ts, k⟩ := rfl

theorem take_of_kind {kind : Token.Kind} {fault : Fault} (h : t.kind = kind) :
    take kind fault ⟨t :: ts, k⟩ = .ok t ⟨ts, k⟩ := by
  rw [take, bind_of_ok peek_apply, List.headD_cons, if_pos h]
  rfl

theorem take_of_ne {kind : Token.Kind} {fault : Fault} (h : (ts.headD .endMarker).kind ≠ kind) :
    take kind fault ⟨ts, k⟩ = .error (.malformed fault) ⟨ts, k⟩ := by
  rw [take, bind_of_ok peek_apply, if_neg h]
  rfl

/-- With `k` expressions begun around it, `m` reads what the grammar derives and stops there, and
fails where it has to. -/
structure Reads (d : Nat) (level : Level) (k : Nat) (m : ParseM Expr) : Prop where
  derives {us r : List Token} {e : Expr} :
    Expr.Derives d level us e → level.Ends (r.headD .endMarker) → m ⟨us ++ r, k⟩ = .ok e ⟨r, k⟩
  expects {p r : List Token} {w : Want} :
    Expr.Expects d level p w → w.Refuses (r.headD .endMarker) →
    m ⟨p ++ r, k⟩ = .error (w.failure (r.headD .endMarker)) ⟨r, k⟩

theorem reads_deeper {m : ParseM Expr} (h : Reads d level (k + 1) m) :
    Reads d level k (deeper m) := by
  constructor
  · intro us r e he hr
    simp [deeper, h.derives he hr]
  · intro p r w hp hr
    simp [deeper, h.expects hp hr]

variable {read : Level → ParseM Expr}

theorem operand_number {n : Integer} (ht : t.kind = .number) (hn : n.toInt = t.value) :
    operand read ⟨t :: ts, k⟩ = .ok (.integer n) ⟨ts, k⟩ := by
  have hd : Integer.ofDigits? t.lexeme = some n := Integer.ofDigits?_eq_some_iff.2 hn
  rw [operand, bind_of_ok peek_apply]
  simp only [List.headD_cons, ht, hd]
  rfl

theorem operand_name (ht : t.kind = .name) :
    operand read ⟨t :: ts, k⟩ = .ok (.identifier t.lexeme) ⟨ts, k⟩ := by
  rw [operand, bind_of_ok peek_apply]
  simp only [List.headD_cons, ht]
  rfl

theorem operand_unary {op : UnaryOp} (ht : t.kind = op.kind) :
    operand read ⟨t :: ts, k⟩ = (read .operand >>= fun e => pure (.unary op e)) ⟨ts, k⟩ := by
  rw [operand, bind_of_ok peek_apply]
  cases op <;> simp only [List.headD_cons, ht, UnaryOp.kind] <;> rfl

theorem operand_group (ht : t.kind = .leftParen) :
    operand read ⟨t :: ts, k⟩ =
      (read .sum >>= fun e => take .rightParen .missingRightParen >>= fun _ => pure e)
        ⟨ts, k⟩ := by
  rw [operand, bind_of_ok peek_apply]
  simp only [List.headD_cons, ht]
  rfl

theorem operand_refused (h : ¬ (ts.headD .endMarker).StartsOperand) :
    operand read ⟨ts, k⟩ = .error (Want.operand.failure (ts.headD .endMarker)) ⟨ts, k⟩ := by
  rw [operand, bind_of_ok peek_apply]
  generalize ts.headD .endMarker = t at h
  obtain ⟨kind, lexeme⟩ := t
  cases kind with
  | number =>
    have hd : Integer.ofDigits? lexeme = none :=
      Integer.ofDigits?_eq_none_iff.2 (Nat.lt_of_not_le h)
    simp only [hd]
    rfl
  | name | minus | exclamation | leftParen => exact absurd trivial h
  | endMarker | unknown | var | plus | star | slash | equal | semicolon | rightParen => rfl

theorem reads_operand (h : ∀ level, Reads d level k (read level)) :
    Reads (d + 1) .operand k (operand read) := by
  constructor
  · intro us r e he hr
    cases he with
    | number ht hn => exact operand_number ht hn
    | name ht => exact operand_name ht
    | @group _ l rp ts _ hl hrp he =>
      have hend : Level.sum.Ends ((rp :: r).headD .endMarker) := Level.ends_of_kind hrp rfl
      have hts : l :: ts ++ [rp] ++ r = l :: (ts ++ rp :: r) := by simp
      rw [hts, operand_group hl, bind_of_ok ((h _).derives he hend), bind_of_ok (take_of_kind hrp)]
      rfl
    | unary ht he =>
      rw [List.cons_append, operand_unary ht, bind_of_ok ((h _).derives he (Level.ends_operand _))]
      rfl
    | binary hop => exact absurd hop (BinaryOp.level_ne_operand _)
  · intro p r w hp hr
    cases hp with
    | operand => exact operand_refused hr
    | group hl hp =>
      rw [List.cons_append, operand_group hl, bind_of_error ((h _).expects hp hr)]
    | close hl he =>
      rw [List.cons_append, operand_group hl, bind_of_ok ((h _).derives he hr.2),
        bind_of_error (take_of_ne hr.1)]
      rfl
    | unary ht hp =>
      rw [List.cons_append, operand_unary ht, bind_of_error ((h _).expects hp hr)]
    | binary hop => exact absurd hop (BinaryOp.level_ne_operand _)

theorem extend_operator {op : BinaryOp} {l : Expr} (hop : op.level = level)
    (ht : t.kind = op.kind) :
    extend read level l ⟨t :: ts, k⟩ =
      (read level >>= fun e => pure (.binary op l e)) ⟨ts, k⟩ := by
  rw [extend, bind_of_ok peek_apply]
  simp only [List.headD_cons, BinaryOp.ofKind?_eq_some_iff.2 ht, if_pos hop]
  rfl

theorem extend_of_ends {l : Expr} (h : level.Ends (ts.headD .endMarker)) :
    extend read level l ⟨ts, k⟩ = .ok l ⟨ts, k⟩ := by
  rw [extend, bind_of_ok peek_apply]
  cases ho : BinaryOp.ofKind? (ts.headD .endMarker).kind with
  | none => rfl
  | some op =>
    have hop : op.level ≠ level := fun hop =>
      Level.not_ends_of_operator hop (BinaryOp.ofKind?_eq_some_iff.1 ho) h
    simp only [if_neg hop]
    rfl

theorem reads_extend {m : ParseM Expr} (hl : level ≠ .operand)
    (hm : Reads (d + 1) level.tighter k m) (h : Reads d level k (read level)) :
    Reads (d + 1) level k (m >>= extend read level) := by
  constructor
  · intro us r e he hr
    cases he with
    | number | name | group | unary => exact absurd rfl hl
    | @binary _ _ _ t _ rs _ _ hop ht hls hrs =>
      have hend : level.tighter.Ends ((t :: (rs ++ r)).headD .endMarker) :=
        Level.ends_tighter_of_operator hop ht
      rw [List.append_assoc, List.cons_append, bind_of_ok (hm.derives hls hend),
        extend_operator hop ht, bind_of_ok (h.derives hrs hr)]
      rfl
    | product he | sum he => rw [bind_of_ok (hm.derives he hr.tighter), extend_of_ends hr]
  · intro p r w hp hr
    cases hp with
    | operand | group | close | unary => exact absurd rfl hl
    | @binary _ _ _ t _ p _ _ hop ht hls hp =>
      have hend : level.tighter.Ends ((t :: (p ++ r)).headD .endMarker) :=
        Level.ends_tighter_of_operator hop ht
      rw [List.append_assoc, List.cons_append, bind_of_ok (hm.derives hls hend),
        extend_operator hop ht, bind_of_error (h.expects hp hr)]
    | product hp | sum hp => rw [bind_of_error (hm.expects hp hr)]

theorem reads_nested (d k : Nat) (level : Level) : Reads d level k (nested d level) := by
  induction d generalizing k level with
  | zero =>
    constructor
    · intro us r e he
      exact absurd he Expr.not_derives_zero
    · intro p r w hp hr
      obtain ⟨rfl, rfl⟩ := hp.of_zero
      rfl
  | succ d ih =>
    have ho := reads_operand (ih (k + 1))
    have hp := reads_extend (by decide) ho (ih (k + 1) .product)
    have hs := reads_extend (by decide) hp (ih (k + 1) .sum)
    cases level with
    | operand => simpa [nested] using reads_deeper ho
    | product => exact reads_deeper hp
    | sum => simpa [nested] using reads_deeper hs

/-- The depth left and the depth used up are always as much together. -/
theorem reads_expression (k : Nat) (level : Level) :
    Reads (maxDepth - k) level k (expression level) :=
  ⟨(reads_nested (maxDepth - k) k level).derives, (reads_nested (maxDepth - k) k level).expects⟩

/-- As `Reads`, for statements. -/
structure ReadsStatement (d k : Nat) (m : ParseM Statement) : Prop where
  derives {us r : List Token} {s : Statement} :
    Statement.Derives d us s → m ⟨us ++ r, k⟩ = .ok s ⟨r, k⟩
  expects {p r : List Token} {w : Want} :
    Statement.Expects d p w → w.Refuses (r.headD .endMarker) →
    m ⟨p ++ r, k⟩ = .error (w.failure (r.headD .endMarker)) ⟨r, k⟩

section
variable {m : ParseM Expr} {v x q : Token}

theorem statement_of_ne_var (h : (ts.headD .endMarker).kind ≠ .var) :
    statement m ⟨ts, k⟩ =
      ((Statement.expression <$> m) >>= fun s =>
        take .semicolon .missingSemicolon >>= fun _ => pure s) ⟨ts, k⟩ := by
  rw [statement, bind_of_ok peek_apply, if_neg h]

theorem statement_of_var (hv : v.kind = .var) :
    statement m ⟨v :: ts, k⟩ =
      ((Statement.declaration <$> declaration m) >>= fun s =>
        take .semicolon .missingSemicolon >>= fun _ => pure s) ⟨v :: ts, k⟩ := by
  rw [statement, bind_of_ok peek_apply, List.headD_cons, if_pos hv]

theorem declaration_missing_name (hx : (ts.headD .endMarker).kind ≠ .name) :
    declaration m ⟨v :: ts, k⟩ = .error (.malformed .missingName) ⟨ts, k⟩ := by
  rw [declaration, bind_of_ok advance_apply, bind_of_error (take_of_ne hx)]

theorem declaration_missing_type (hx : x.kind = .name) (ht : (ts.headD .endMarker).kind ≠ .name) :
    declaration m ⟨v :: x :: ts, k⟩ = .error (.malformed .missingType) ⟨ts, k⟩ := by
  rw [declaration, bind_of_ok advance_apply, bind_of_ok (take_of_kind hx),
    bind_of_error (take_of_ne ht)]

theorem declaration_zero (hx : x.kind = .name) (ht : t.kind = .name)
    (hq : (ts.headD .endMarker).kind ≠ .equal) :
    declaration m ⟨v :: x :: t :: ts, k⟩ = .ok ⟨x.lexeme, t.lexeme, none⟩ ⟨ts, k⟩ := by
  rw [declaration, bind_of_ok advance_apply, bind_of_ok (take_of_kind hx),
    bind_of_ok (take_of_kind ht), bind_of_ok peek_apply, if_neg hq]
  rfl

theorem declaration_value (hx : x.kind = .name) (ht : t.kind = .name) (hq : q.kind = .equal) :
    declaration m ⟨v :: x :: t :: q :: ts, k⟩ =
      (m >>= fun e => pure ⟨x.lexeme, t.lexeme, some e⟩) ⟨ts, k⟩ := by
  rw [declaration, bind_of_ok advance_apply, bind_of_ok (take_of_kind hx),
    bind_of_ok (take_of_kind ht), bind_of_ok peek_apply, List.headD_cons, if_pos hq]
  rfl

theorem map_of_ok {α β : Type} {m : ParseM α} {f : α → β} {p q : Parser} {a : α}
    (h : m p = .ok a q) : (f <$> m) p = .ok (f a) q := by
  rw [← bind_pure_comp, bind_of_ok h]
  rfl

theorem map_of_error {α β : Type} {m : ParseM α} {f : α → β} {p q : Parser} {e : Failure}
    (h : m p = .error e q) : (f <$> m) p = .error e q := by
  rw [← bind_pure_comp, bind_of_error h]

theorem reads_statement (h : Reads (d + 1) .sum k m) :
    ReadsStatement (d + 1) k (statement m) := by
  constructor
  · intro us r s hs
    cases hs with
    | @expression ts e s he hs =>
      have hv := he.head_kind_ne_var (s :: r)
      have hend : Level.sum.Ends ((s :: r).headD .endMarker) := Level.ends_of_kind hs rfl
      have hts : ts ++ [s] ++ r = ts ++ s :: r := by simp
      rw [hts, statement_of_ne_var hv, bind_of_ok (map_of_ok (h.derives he hend)),
        bind_of_ok (take_of_kind hs)]
      rfl
    | @zero v x t s hv hx ht hs =>
      have hd : declaration m ⟨v :: x :: t :: s :: r, k⟩ =
          .ok ⟨x.lexeme, t.lexeme, none⟩ ⟨s :: r, k⟩ := declaration_zero hx ht (by simp [hs])
      change statement m ⟨v :: x :: t :: s :: r, k⟩ = _
      rw [statement_of_var hv, bind_of_ok (map_of_ok hd), bind_of_ok (take_of_kind hs)]
      rfl
    | @value v x t q s ts e hv hx ht hq he hs =>
      have hend : Level.sum.Ends ((s :: r).headD .endMarker) := Level.ends_of_kind hs rfl
      have hd : declaration m ⟨v :: x :: t :: q :: (ts ++ s :: r), k⟩ =
          .ok ⟨x.lexeme, t.lexeme, some e⟩ ⟨s :: r, k⟩ := by
        rw [declaration_value hx ht hq, bind_of_ok (h.derives he hend)]
        rfl
      have hts : v :: x :: t :: q :: ts ++ [s] ++ r = v :: x :: t :: q :: (ts ++ s :: r) := by simp
      rw [hts, statement_of_var hv, bind_of_ok (map_of_ok hd), bind_of_ok (take_of_kind hs)]
      rfl
  · intro p r w hp hr
    cases hp with
    | start =>
      have hm := h.expects (.sum (.product .operand)) hr.2
      rw [List.nil_append] at hm ⊢
      rw [statement_of_ne_var hr.1, bind_of_error (map_of_error hm)]
      rfl
    | name hv =>
      simp only [List.cons_append, List.nil_append]
      rw [statement_of_var hv,
        bind_of_error (map_of_error (declaration_missing_name hr))]
      rfl
    | typeName hv hx =>
      simp only [List.cons_append, List.nil_append]
      rw [statement_of_var hv,
        bind_of_error (map_of_error (declaration_missing_type hx hr))]
      rfl
    | value hv hx ht =>
      simp only [List.cons_append, List.nil_append]
      rw [statement_of_var hv,
        bind_of_ok (map_of_ok (declaration_zero hx ht hr.1)), bind_of_error (take_of_ne hr.2)]
      rfl
    | inside hp he =>
      rw [statement_of_ne_var (he.head_kind_ne_var hp r),
        bind_of_error (map_of_error (h.expects he hr))]
    | @insideValue v x t q p w hv hx ht hq he =>
      have hd : declaration m ⟨v :: x :: t :: q :: (p ++ r), k⟩ =
          .error (w.failure (r.headD .endMarker)) ⟨r, k⟩ := by
        rw [declaration_value hx ht hq, bind_of_error (h.expects he hr)]
      change statement m ⟨v :: x :: t :: q :: (p ++ r), k⟩ = _
      rw [statement_of_var hv, bind_of_error (map_of_error hd)]
    | after he =>
      rw [statement_of_ne_var (he.head_kind_ne_var r),
        bind_of_ok (map_of_ok (h.derives he hr.2)), bind_of_error (take_of_ne hr.1)]
      rfl
    | @afterValue v x t q ts e hv hx ht hq he =>
      have hd : declaration m ⟨v :: x :: t :: q :: (ts ++ r), k⟩ =
          .ok ⟨x.lexeme, t.lexeme, some e⟩ ⟨r, k⟩ := by
        rw [declaration_value hx ht hq, bind_of_ok (h.derives he hr.2)]
        rfl
      change statement m ⟨v :: x :: t :: q :: (ts ++ r), k⟩ = _
      rw [statement_of_var hv, bind_of_ok (map_of_ok hd), bind_of_error (take_of_ne hr.1)]
      rfl

end
end
end Reckon.ParseM
