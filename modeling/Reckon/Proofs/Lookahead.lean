import Reckon.Proofs.Completion
import Reckon.Proofs.Reading

/-! Expressions read through the window are those read from the tokens. What is left afterwards has
no place in the window yet but for its first token: the window is still on the last token of the
expression. After a failure it may be on the token that does not fit instead, and on a literal that
is out of range it always is. -/

namespace Reckon

namespace Priority

theorem ofKind_operator (op : BinaryOp) : (ofKind op.kind).weaker.level = op.level := by
  cases op <;> rfl

/-- What binds no more tightly ends the expression. -/
theorem ofKind_le_iff {p : Priority} {t : Token} : ofKind t.kind ≤ p ↔ p.level.Ends t := by
  constructor
  · intro h op ht
    rw [ht] at h
    revert h
    cases op <;> cases p <;> decide
  · intro h
    by_cases hop : ∃ op : BinaryOp, t.kind = op.kind
    · obtain ⟨op, ht⟩ := hop
      have hl := h op ht
      rw [ht]
      revert hl
      cases op <;> cases p <;> decide
    · have hk : ofKind t.kind = .lowest := by
        cases hk : t.kind with
        | plus => exact (hop ⟨.plus, hk⟩).elim
        | minus => exact (hop ⟨.minus, hk⟩).elim
        | star => exact (hop ⟨.times, hk⟩).elim
        | slash => exact (hop ⟨.over, hk⟩).elim
        | _ => rfl
      rw [hk]
      exact Nat.zero_le _

end Priority

theorem ParseM.nested_eq_ok {d k : Nat} {level : Level} {ts : List Token} {e : Expr} {q : Parser}
    (h : nested d level ⟨ts, k⟩ = .ok e q) :
    ∃ us, ts = us ++ q.tokens ∧ Expr.Derives d level us e ∧
      level.Ends (q.tokens.headD .endMarker) := by
  rcases Expr.splits d level ts with ⟨us, r, e', rfl, he, hend⟩ | ⟨p, r, w, rfl, hp, hr⟩
  · rw [(reads_nested d k level).derives he hend] at h
    cases h
    exact ⟨us, rfl, he, hend⟩
  · rw [(reads_nested d k level).expects hp hr] at h
    cases h

theorem ParseM.bind_of_eq {α β : Type} {m m' : ParseM α} {f : α → ParseM β} {p p' : Parser}
    (h : m p = m' p') : (m >>= f) p = (m' >>= f) p' := by
  change EStateM.bind m f p = EStateM.bind m' f p'
  unfold EStateM.bind
  rw [h]

/-- What an expression of the level takes in after its first operand. -/
def ParseM.extensions (read : Level → ParseM Expr) : Level → Expr → ParseM Expr
  | .operand, e => pure e
  | .product, e => extend read .product e
  | .sum, e => extend read .product e >>= extend read .sum

theorem ParseM.nested_succ (room : Nat) (level : Level) :
    nested (room + 1) level =
      deeper (operand (nested room) >>= extensions (nested room) level) := by
  cases level <;> rfl

namespace Window

/-- Whether the window is on the token before `ts`, which is no semicolon. -/
def Trails (ts : List Token) (w : Window) : Prop := ∃ t, t.kind ≠ .semicolon ∧ At (t :: ts) w

/-- Whether the failure may leave the window where it is while `ts` are left. A literal is the
current token, but what does not fit may be the next one. -/
def Halted (ts : List Token) (w : Window) : Failure → Prop
  | .literal _ => At ts w
  | .malformed _ => At ts w ∨ Trails ts w

/-- Whether a result is that of the parser on a token list, and the window it leaves shows the
tokens that parser leaves. -/
def Follows {α : Type} (result : Except Failure α) (v : Window) :
    EStateM.Result Failure Parser α → Prop
  | .ok a q => result = .ok a ∧ Trails q.tokens v
  | .error e q => result = .error e ∧ Halted q.tokens v e

/-- Whether the work, if it ends, comes to the same. -/
def Agrees {α : Type} (x : Option (Work α)) (r : EStateM.Result Failure Parser α) : Prop :=
  ∀ o, x = some o → Follows o.result o.after r

section
variable {α β : Type} {m : ParseM α} {p : Parser} {ts : List Token} {w : Window}

theorem Trails.reading (h : Trails ts w) : w.reading = ts.headD .endMarker := by
  obtain ⟨t, -, h⟩ := h
  exact h.reading

theorem Trails.next (h : Trails ts w) : At ts w.next := by
  obtain ⟨t, -, h⟩ := h
  exact h.next

theorem Trails.at_depth (h : Trails ts w) (d : Nat) : Trails ts { w with depth := d } := by
  obtain ⟨t, ht, h⟩ := h
  exact ⟨t, ht, h.at_depth d⟩

theorem Halted.at_depth {e : Failure} (h : Halted ts w e) (d : Nat) :
    Halted ts { w with depth := d } e := by
  cases e with
  | literal _ => exact At.at_depth h d
  | malformed _ => exact h.imp (·.at_depth d) (·.at_depth d)

theorem Follows.ok_or_error {result : Except Failure α} (h : Follows result w (m p)) :
    (∃ a q, m p = .ok a q ∧ result = .ok a ∧ Trails q.tokens w) ∨
      ∃ e q, m p = .error e q ∧ result = .error e ∧ Halted q.tokens w e := by
  cases hm : m p with
  | ok a q =>
    rw [hm] at h
    exact .inl ⟨a, q, rfl, h⟩
  | error e q =>
    rw [hm] at h
    exact .inr ⟨e, q, rfl, h⟩

theorem Follows.bind {o : Work α} {f : α → Window → Work β} {g : α → ParseM β}
    (h : Follows o.result o.after (m p))
    (hf : ∀ a q, Trails q.tokens o.after →
      Follows (f a o.after).result (f a o.after).after (g a q)) :
    Follows (o.bind f).result (o.bind f).after ((m >>= g) p) := by
  unfold Work.bind
  obtain ⟨a, q, hm, hr, hw⟩ | ⟨e, q, hm, hr, hw⟩ := h.ok_or_error
  · rw [ParseM.bind_of_ok hm, hr]
    exact hf a q hw
  · rw [ParseM.bind_of_error hm, hr]
    exact ⟨rfl, hw⟩

theorem Follows.map {result : Except Failure α} (f : α → β) (h : Follows result w (m p)) :
    Follows (result.map f) w ((m >>= fun a => pure (f a)) p) := by
  obtain ⟨a, q, hm, hr, hw⟩ | ⟨e, q, hm, hr, hw⟩ := h.ok_or_error
  · rw [ParseM.bind_of_ok hm, hr]
    exact ⟨rfl, hw⟩
  · rw [ParseM.bind_of_error hm, hr]
    exact ⟨rfl, hw⟩

theorem Follows.deeper {o : Work α} {k : Nat} (h : Follows o.result o.after (m ⟨ts, k + 1⟩)) :
    Follows o.leave.result o.leave.after (ParseM.deeper m ⟨ts, k⟩) := by
  unfold ParseM.deeper
  obtain ⟨a, q, hm, hr, hw⟩ | ⟨e, q, hm, hr, hw⟩ := h.ok_or_error
  · rw [hm]
    exact ⟨hr, hw.at_depth _⟩
  · rw [hm]
    exact ⟨hr, hw.at_depth _⟩

theorem require_of_kind {kind : Token.Kind} (fault : Fault) (h : w.reading.kind = kind) :
    (w.require kind fault).result = .ok w.reading ∧ (w.require kind fault).after = w.next := by
  rw [require, expect, if_pos h]
  exact ⟨rfl, rfl⟩

theorem require_of_ne {kind : Token.Kind} (fault : Fault) (h : w.reading.kind ≠ kind) :
    (w.require kind fault).result = .error (.malformed fault) ∧
      (w.require kind fault).after = w := by
  rw [require, expect, if_neg h]
  exact ⟨rfl, rfl⟩

/-- A required token is the one that is taken, and the window comes to rest on it. -/
theorem require_follows (kind : Token.Kind) (hk : kind ≠ .endMarker) (hs : kind ≠ .semicolon)
    (fault : Fault) (h : Trails ts w) (k : Nat) :
    Follows (w.require kind fault).result (w.require kind fault).after
      (ParseM.take kind fault ⟨ts, k⟩) := by
  by_cases hr : (ts.headD .endMarker).kind = kind
  · obtain ⟨hres, hafter⟩ := require_of_kind (w := w) fault (h.reading ▸ hr)
    obtain ⟨t, us, rfl, ht⟩ := Statement.eq_cons_of_kind hr hk
    rw [ParseM.take_of_kind ht, hres, hafter, h.reading]
    exact ⟨rfl, t, ht ▸ hs, h.next⟩
  · obtain ⟨hres, hafter⟩ := require_of_ne (w := w) fault (h.reading ▸ hr)
    rw [ParseM.take_of_ne hr, hres, hafter]
    exact ⟨rfl, .inr h⟩

end

section
variable {t : Token} {ts : List Token} {w : Window} {k room : Nat}

theorem identifier_follows (hw : At (t :: ts) w) (ht : t.kind = .name) :
    Follows w.identifier.result w.identifier.after
      (ParseM.operand (ParseM.nested room) ⟨t :: ts, k⟩) := by
  rw [ParseM.operand_name ht, identifier, hw.current]
  exact ⟨rfl, t, by simp [ht], hw⟩

theorem integer_follows (hw : At (t :: ts) w) (ht : t.kind = .number) :
    Follows w.integer.result w.integer.after
      (ParseM.operand (ParseM.nested room) ⟨t :: ts, k⟩) := by
  rw [integer, hw.current, List.headD_cons]
  cases hn : Integer.ofDigits? t.lexeme with
  | some n =>
    rw [ParseM.operand_number ht (Integer.ofDigits?_eq_some_iff.1 hn)]
    exact ⟨rfl, t, by simp [ht], hw⟩
  | none =>
    have hs : ¬ t.StartsOperand := by
      rw [Token.StartsOperand, ht]
      exact Nat.not_le_of_lt (Integer.ofDigits?_eq_none_iff.1 hn)
    have hs : ¬ ((t :: ts).headD .endMarker).StartsOperand := hs
    rw [ParseM.operand_refused hs, List.headD_cons, Want.failure, if_pos ht]
    exact ⟨rfl, hw⟩

theorem refused_follows (hw : At ts w) (hs : ¬ (ts.headD .endMarker).StartsOperand)
    (hn : (ts.headD .endMarker).kind ≠ .number) :
    Follows (.error (.malformed (.unexpected (ts.headD .endMarker)))) w
      (ParseM.operand (ParseM.nested room) ⟨ts, k⟩) := by
  rw [ParseM.operand_refused hs, Want.failure, if_neg hn]
  exact ⟨rfl, .inl hw⟩

theorem operators_agrees_done {p : Priority} {left : Expr} (hw : Trails ts w)
    (hend : p.level.Ends (ts.headD .endMarker)) :
    Agrees (w.operators p left) (.ok left ⟨ts, k⟩) := by
  intro o ho
  rw [operators, hw.reading, if_pos (Priority.ofKind_le_iff.2 hend)] at ho
  obtain rfl := Option.some.inj ho
  exact ⟨rfl, hw⟩

end

section
variable {room : Nat} (hE : ∀ (p : Priority) (ts : List Token) (w : Window) (k : Nat), At ts w →
  w.depth + room = maxDepth → Agrees (w.expression p) (ParseM.nested room p.level ⟨ts, k⟩))
include hE

variable {t : Token} {ts : List Token} {w : Window} {k : Nat}

theorem unary_agrees {op : UnaryOp} (hw : At (t :: ts) w) (hd : w.depth + room = maxDepth) :
    Agrees (w.unary op)
      ((ParseM.nested room .operand >>= fun e => pure (.unary op e)) ⟨ts, k⟩) := by
  intro o' ho'
  obtain ⟨o, ho, -⟩ := expression_completes 0 .unary w.next
  rw [unary, ho] at ho'
  obtain rfl := Option.some.inj ho'
  exact (hE .unary ts w.next k hw.next hd o ho).map (Expr.unary op)

theorem group_agrees (hw : At (t :: ts) w) (hd : w.depth + room = maxDepth) :
    Agrees w.group ((ParseM.nested room .sum >>= fun e =>
      ParseM.take .rightParen .missingRightParen >>= fun _ => pure e) ⟨ts, k⟩) := by
  intro o' ho'
  obtain ⟨o, ho, -⟩ := expression_completes 0 .lowest w.next
  rw [group, ho] at ho'
  obtain rfl := Option.some.inj ho'
  refine Follows.bind (hE .lowest ts w.next k hw.next hd o ho) fun e q hq => ?_
  exact (require_follows _ (by decide) (by decide) _ hq q.depth).map fun _ => e

theorem operand_agrees (hw : At ts w) (hd : w.depth + room = maxDepth) :
    Agrees w.operand (ParseM.operand (ParseM.nested room) ⟨ts, k⟩) := by
  intro o ho
  rw [operand, hw.current] at ho
  cases ts with
  | nil =>
    obtain rfl := Option.some.inj ho
    exact refused_follows hw (by simp [Token.StartsOperand]) (by simp)
  | cons t ts =>
    rw [List.headD_cons] at ho
    cases ht : t.kind with
    | minus =>
      rw [ParseM.operand_unary (show t.kind = UnaryOp.negative.kind from ht)]
      rw [ht] at ho
      exact unary_agrees hE hw hd o ho
    | exclamation =>
      rw [ParseM.operand_unary (show t.kind = UnaryOp.not.kind from ht)]
      rw [ht] at ho
      exact unary_agrees hE hw hd o ho
    | leftParen =>
      rw [ParseM.operand_group ht]
      rw [ht] at ho
      exact group_agrees hE hw hd o ho
    | name =>
      rw [ht] at ho
      obtain rfl := Option.some.inj ho
      exact identifier_follows hw ht
    | number =>
      rw [ht] at ho
      obtain rfl := Option.some.inj ho
      exact integer_follows hw ht
    | endMarker | unknown | var | plus | star | slash | equal | semicolon | rightParen =>
      rw [ht] at ho
      obtain rfl := Option.some.inj ho
      exact refused_follows hw (by simp [Token.StartsOperand, ht]) (by simp [ht])

theorem operator_agrees {op : BinaryOp} (left : Expr) (hw : Trails (t :: ts) w)
    (ht : t.kind = op.kind) (hd : w.depth + room = maxDepth) :
    Agrees (w.operator op left)
      ((ParseM.nested room op.level >>= fun e => pure (.binary op left e)) ⟨ts, k⟩) := by
  intro o' ho'
  have hp : (Priority.ofKind w.next.current.kind).weaker.level = op.level := by
    rw [hw.next.current, List.headD_cons, ht, Priority.ofKind_operator]
  obtain ⟨o, ho, -⟩ :=
    expression_completes 0 (Priority.ofKind w.next.current.kind).weaker w.next.next
  rw [operator, binary, ho] at ho'
  obtain rfl := Option.some.inj ho'
  rw [← hp]
  exact (hE _ ts w.next.next k hw.next.next hd o ho).map (Expr.binary op left)

/-- An operator is taken in with its right operand, and `next` goes on with what that makes. -/
theorem operators_agrees_operator {op : BinaryOp} {p : Priority} (left : Expr)
    {next : Expr → ParseM Expr} (hw : Trails (t :: ts) w) (ht : t.kind = op.kind)
    (hp : op.level ≤ p.level) (hd : w.depth + room = maxDepth)
    (hnext : ∀ e q v, Trails q.tokens v → op.level.Ends (q.tokens.headD .endMarker) →
      v.depth + room = maxDepth → Agrees (v.operators p e) (next e q)) :
    Agrees (w.operators p left)
      (((ParseM.nested room op.level >>= fun e => pure (.binary op left e)) >>= next)
        ⟨ts, k⟩) := by
  intro o' ho'
  have hr : w.reading.kind = op.kind := hw.reading ▸ ht
  have hle : ¬ Priority.ofKind w.reading.kind ≤ p :=
    fun h => Priority.ofKind_le_iff.1 h op hr hp
  obtain ⟨o, ho, hl, -⟩ := operator_completes (expressions_complete 0 _) hr (Nat.le_refl _) left
  have hf := operator_agrees hE (k := k) left hw ht hd o ho
  rw [operators, if_neg hle, BinaryOp.ofKind?_eq_some_iff.2 hr] at ho'
  dsimp only at ho'
  rw [ho, Option.bind_eq_bind, Option.bind_some] at ho'
  obtain ⟨e, q, hm, hres, hq⟩ | ⟨e, q, hm, hres, hq⟩ := hf.ok_or_error
  · obtain ⟨_, _, hn, he⟩ := ParseM.bind_eq_ok hm
    obtain ⟨-, -, -, hend⟩ := ParseM.nested_eq_ok hn
    cases he
    obtain ⟨u, hu, -⟩ := operators_completes (expressions_complete 0 _) p
      (.binary op left _) o.after (Nat.le_refl _)
    rw [hres] at ho'
    dsimp only at ho'
    rw [hu] at ho'
    obtain rfl := Option.some.inj ho'
    rw [ParseM.bind_of_ok hm]
    exact hnext _ _ o.after hq hend (hl.depth ▸ hd) u hu
  · rw [hres] at ho'
    obtain rfl := Option.some.inj ho'
    rw [ParseM.bind_of_error hm, hres]
    exact ⟨rfl, hq⟩

/-- Once what binds more tightly is taken in, an operator of the level is the last one. -/
theorem operators_agrees_extend {p : Priority} {left : Expr} (hw : Trails ts w)
    (hs : p.level.tighter.Ends (ts.headD .endMarker)) (hd : w.depth + room = maxDepth) :
    Agrees (w.operators p left) (ParseM.extend (ParseM.nested room) p.level left ⟨ts, k⟩) := by
  by_cases hop : ∃ op : BinaryOp, (ts.headD .endMarker).kind = op.kind ∧ op.level = p.level
  · obtain ⟨op, hk, hop⟩ := hop
    obtain ⟨t, ts, rfl, ht⟩ := Statement.eq_cons_of_kind hk (op.kind_ne rfl)
    rw [ParseM.extend_operator hop ht, ← hop, ← bind_pure (_ >>= _)]
    exact operators_agrees_operator hE left hw ht (Nat.le_of_eq (congrArg Level.rank hop)) hd
      fun e q v hv hend _ => operators_agrees_done hv (hop ▸ hend)
  · have hend : p.level.Ends (ts.headD .endMarker) := fun op ht hle =>
      hs op ht (Level.le_tighter hle fun h => hop ⟨op, ht, h⟩)
    rw [ParseM.extend_of_ends hend]
    exact operators_agrees_done hw hend

theorem operators_agrees (p : Priority) (left : Expr) (hw : Trails ts w)
    (hd : w.depth + room = maxDepth) :
    Agrees (w.operators p left)
      (ParseM.extensions (ParseM.nested room) p.level left ⟨ts, k⟩) := by
  have hdone (h : p.level = .operand) : Agrees (w.operators p left) (.ok left ⟨ts, k⟩) :=
    operators_agrees_done hw (h ▸ Level.ends_operand _)
  cases p with
  | multiplicative | unary => exact hdone rfl
  | additive => exact operators_agrees_extend hE (p := .additive) hw (Level.ends_operand _) hd
  | lowest =>
    -- A product operator may come first; what follows it is at most a sum operator.
    by_cases hop : ∃ op : BinaryOp, (ts.headD .endMarker).kind = op.kind ∧ op.level = .product
    · obtain ⟨op, hk, hop⟩ := hop
      obtain ⟨t, ts, rfl, ht⟩ := Statement.eq_cons_of_kind hk (op.kind_ne rfl)
      have h := operators_agrees_operator hE (k := k) (p := .lowest) left hw ht
        (by cases op <;> decide) hd fun e q v hv hend hd =>
          operators_agrees_extend hE (k := q.depth) (p := .lowest) hv (by rwa [hop] at hend) hd
      rw [hop] at h
      change Agrees _ (ParseM.extensions (ParseM.nested room) .sum left ⟨t :: ts, k⟩)
      rwa [ParseM.extensions, ParseM.bind_of_eq (ParseM.extend_operator hop ht)]
    · have hend : Level.product.Ends (ts.headD .endMarker) := fun op ht hle =>
        hop ⟨op, ht, by revert hle; cases op <;> decide⟩
      have h : Agrees (w.operators .lowest left)
          (ParseM.extend (ParseM.nested room) .sum left ⟨ts, k⟩) :=
        operators_agrees_extend hE (p := .lowest) hw hend hd
      have he : ParseM.extend (ParseM.nested room) .product left ⟨ts, k⟩ = .ok left ⟨ts, k⟩ :=
        ParseM.extend_of_ends hend
      rwa [← ParseM.bind_of_ok (f := ParseM.extend (ParseM.nested room) .sum) he] at h

theorem nested_agrees (p : Priority) (hw : At ts w) (hd : w.depth + room = maxDepth) :
    Agrees (w.nested p)
      ((ParseM.operand (ParseM.nested room) >>=
        ParseM.extensions (ParseM.nested room) p.level) ⟨ts, k⟩) := by
  intro o' ho'
  obtain ⟨o, ho, hl⟩ := operand_completes (expressions_complete 0 _) w (Nat.le_refl _)
  have hf := operand_agrees hE (k := k) hw hd o ho
  rw [nested, ho, Option.bind_eq_bind, Option.bind_some] at ho'
  obtain ⟨e, q, hm, hres, hq⟩ | ⟨e, q, hm, hres, hq⟩ := hf.ok_or_error
  · obtain ⟨u, hu, -⟩ :=
      operators_completes (expressions_complete 0 _) p e o.after (Nat.le_refl _)
    rw [hres] at ho'
    dsimp only at ho'
    rw [hu] at ho'
    obtain rfl := Option.some.inj ho'
    rw [ParseM.bind_of_ok hm]
    exact operators_agrees hE p e hq (hl.depth ▸ hd) u hu
  · rw [hres] at ho'
    obtain rfl := Option.some.inj ho'
    rw [ParseM.bind_of_error hm]
    exact ⟨hres, hq⟩

end

/-- An expression is the one that is read from the tokens with as much room left. -/
theorem expression_agrees (room : Nat) (p : Priority) (ts : List Token) (w : Window) (k : Nat)
    (hw : At ts w) (hd : w.depth + room = maxDepth) :
    Agrees (w.expression p) (ParseM.nested room p.level ⟨ts, k⟩) := by
  induction room generalizing p ts w k with
  | zero =>
    intro o ho
    rw [expression, if_pos (by omega)] at ho
    obtain rfl := Option.some.inj ho
    exact ⟨rfl, .inl hw⟩
  | succ room ih =>
    intro o' ho'
    have hd' : w.enter.depth + room = maxDepth := by
      change w.depth + 1 + room = maxDepth
      omega
    obtain ⟨o, _, ho, -⟩ :=
      nested_completes (expressions_complete 0 _) p w.enter (Nat.le_refl _)
    have hf := nested_agrees (k := k + 1) ih p (hw.at_depth _) hd' o ho
    rw [expression, if_neg (by omega), ho] at ho'
    obtain rfl := Option.some.inj ho'
    rw [ParseM.nested_succ]
    exact hf.deeper

end Window
end Reckon
