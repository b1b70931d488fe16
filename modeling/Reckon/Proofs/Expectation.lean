import Reckon.Parser.Basic
import Reckon.Proofs.Derivation

/-! Beginnings of expressions and statements. `Expects` says what has to come after some tokens,
and it fixes the failure when something else comes. Every token list either begins with something
the grammar derives or runs into a token it refuses. -/

namespace Reckon

/-- What has to come next. -/
inductive Want
  /-- A declaration or an expression, at the start of a statement. -/
  | statement
  | name
  | typeName
  /-- The equals sign or the semicolon after the type of a declaration. -/
  | value
  | operand
  | rightParen
  | semicolon
  /-- An expression, but none may be read this deep. -/
  | depth
deriving DecidableEq

def Token.zero : Token := ⟨.number, "0"⟩

/-- Whether an operand may start with the token. A number out of range starts none. -/
def Token.StartsOperand (t : Token) : Prop :=
  match t.kind with
  | .number => t.value ≤ 0x7fffffffffffffff
  | .name | .minus | .exclamation | .leftParen => True
  | _ => False

namespace Want

def Refuses : Want → Token → Prop
  | .statement, t => t.kind ≠ .var ∧ ¬ t.StartsOperand
  | .name, t | .typeName, t => t.kind ≠ .name
  | .value, t => t.kind ≠ .equal ∧ t.kind ≠ .semicolon
  | .operand, t => ¬ t.StartsOperand
  | .rightParen, t => t.kind ≠ .rightParen ∧ Level.sum.Ends t
  | .semicolon, t => t.kind ≠ .semicolon ∧ Level.sum.Ends t
  | .depth, _ => True

/-- What is wrong when the refused token `t` comes. -/
def failure : Want → Token → Failure
  | .statement, t | .operand, t =>
    if t.kind = .number then .literal ⟨t.lexeme⟩ else .malformed (.unexpected t)
  | .name, _ => .malformed .missingName
  | .typeName, _ => .malformed .missingType
  | .value, _ | .semicolon, _ => .malformed .missingSemicolon
  | .rightParen, _ => .malformed .missingRightParen
  | .depth, _ => .malformed .tooDeep

/-- A token that is what is wanted. -/
def sample : Want → Token
  | .statement | .operand | .depth => .zero
  | .name | .typeName => ⟨.name, "x"⟩
  | .value | .semicolon => .semicolon
  | .rightParen => .rightParen

end Want

/-- After `p` an expression of the level has to go on with what is wanted. -/
inductive Expr.Expects : Nat → Level → List Token → Want → Prop
  | depth : Expects 0 .operand [] .depth
  | operand {d : Nat} : Expects (d + 1) .operand [] .operand
  | group {d : Nat} {l : Token} {p : List Token} {w : Want} :
      l.kind = .leftParen → Expects d .sum p w → Expects (d + 1) .operand (l :: p) w
  | close {d : Nat} {l : Token} {ts : List Token} {e : Expr} :
      l.kind = .leftParen → Derives d .sum ts e → Expects (d + 1) .operand (l :: ts) .rightParen
  | unary {d : Nat} {op : UnaryOp} {t : Token} {p : List Token} {w : Want} :
      t.kind = op.kind → Expects d .operand p w → Expects (d + 1) .operand (t :: p) w
  | binary {d : Nat} {op : BinaryOp} {level : Level} {t : Token} {ls p : List Token} {l : Expr}
      {w : Want} :
      op.level = level → t.kind = op.kind → Derives (d + 1) level.tighter ls l →
      Expects d level p w → Expects (d + 1) level (ls ++ t :: p) w
  | product {d : Nat} {p : List Token} {w : Want} :
      Expects d .operand p w → Expects d .product p w
  | sum {d : Nat} {p : List Token} {w : Want} :
      Expects d .product p w → Expects d .sum p w

namespace Expr

theorem Derives.succ {d : Nat} {level : Level} {ts : List Token} {e : Expr}
    (h : Derives d level ts e) : Derives (d + 1) level ts e := by
  induction h with
  | number hk hn => exact .number hk hn
  | name hk => exact .name hk
  | group hl hr _ ih => exact .group hl hr ih
  | unary hk _ ih => exact .unary hk ih
  | binary hop hk _ _ ihl ihr => exact .binary hop hk ihl ihr
  | product _ ih => exact .product ih
  | sum _ ih => exact .sum ih

theorem Derives.mono {c d : Nat} {level : Level} {ts : List Token} {e : Expr} (hcd : c ≤ d)
    (h : Derives c level ts e) : Derives d level ts e := by
  induction hcd with
  | refl => exact h
  | step _ ih => exact ih.succ

theorem not_derives_zero {level : Level} {ts : List Token} {e : Expr} :
    ¬ Derives 0 level ts e := by
  intro h
  generalize hd : 0 = d at h
  induction h with
  | number | name | group | unary | binary => cases hd
  | product _ ih => exact ih hd
  | sum _ ih => exact ih hd

theorem expects_zero (level : Level) : Expects 0 level [] .depth := by
  cases level with
  | operand => exact .depth
  | product => exact .product .depth
  | sum => exact .sum (.product .depth)

theorem Expects.of_zero {level : Level} {p : List Token} {w : Want} (h : Expects 0 level p w) :
    p = [] ∧ w = .depth := by
  generalize hd : 0 = d at h
  induction h with
  | depth => exact ⟨rfl, rfl⟩
  | operand | group | close | unary | binary => cases hd
  | product _ ih => exact ih hd
  | sum _ ih => exact ih hd

theorem Expects.head_kind_ne_var {d : Nat} {level : Level} {p : List Token} {w : Want}
    (h : Expects d level p w) (hp : p ≠ []) (r : List Token) :
    ((p ++ r).headD .endMarker).kind ≠ .var := by
  induction h generalizing r with
  | depth | operand => exact absurd rfl hp
  | group hk _ _ | close hk _ => exact fun h => absurd (hk.symm.trans h) (by decide)
  | @unary _ op _ _ _ hk _ _ => exact fun h => absurd (hk.symm.trans h) (op.kind_ne rfl)
  | binary _ _ hl _ _ =>
    rw [List.append_assoc]
    exact hl.head_kind_ne_var _
  | product _ ih => exact ih hp r
  | sum _ ih => exact ih hp r

theorem Expects.ne_semicolon {d : Nat} {level : Level} {p : List Token} {w : Want}
    (h : Expects d level p w) : ∀ t ∈ p, t.kind ≠ .semicolon := by
  induction h with
  | depth | operand => simp
  | group hl _ ih => simpa [hl] using ih
  | close hl he => simpa [hl] using he.ne_semicolon
  | @unary _ op _ _ _ hk _ ih => simpa [hk, op.kind_ne (k := .semicolon) rfl] using ih
  | @binary _ op _ _ _ _ _ _ _ hk hl _ ih =>
    simpa [hk, op.kind_ne (k := .semicolon) rfl, or_imp, forall_and] using ⟨hl.ne_semicolon, ih⟩
  | product _ ih => exact ih
  | sum _ ih => exact ih

theorem Derives.loosen {d : Nat} {level : Level} {ts : List Token} {e : Expr}
    (hl : level ≠ .operand) (h : Derives d level.tighter ts e) : Derives d level ts e := by
  cases level with
  | operand => exact absurd rfl hl
  | product => exact .product h
  | sum => exact .sum h

theorem Expects.loosen {d : Nat} {level : Level} {p : List Token} {w : Want}
    (hl : level ≠ .operand) (h : Expects d level.tighter p w) : Expects d level p w := by
  cases level with
  | operand => exact absurd rfl hl
  | product => exact .product h
  | sum => exact .sum h

theorem Expects.of_nil {d : Nat} {level : Level} {w : Want} (h : Expects (d + 1) level [] w) :
    w = .operand := by
  generalize hd : d + 1 = c, hp : [] = p at h
  induction h with
  | depth => cases hd
  | operand => rfl
  | group | close | unary => cases hp
  | binary => simp at hp
  | product _ ih => exact ih hd hp
  | sum _ ih => exact ih hd hp

/-- More depth changes nothing, except where depth is what is missing. -/
theorem Expects.succ {d : Nat} {level : Level} {p : List Token} {w : Want}
    (h : Expects d level p w) : Expects (d + 1) level p (if w = .depth then .operand else w) := by
  induction h with
  | depth => exact .operand
  | operand => exact .operand
  | group hl _ ih => exact .group hl ih
  | close hl he => exact .close hl he.succ
  | unary hk _ ih => exact .unary hk ih
  | binary hop hk hl _ ih => exact .binary hop hk hl.succ ih
  | product _ ih => exact .product ih
  | sum _ ih => exact .sum ih

theorem Expects.mono {c d : Nat} {level : Level} {p : List Token} {w : Want} (hcd : c ≤ d)
    (hw : w ≠ .depth) (h : Expects c level p w) : Expects d level p w := by
  induction hcd with
  | refl => exact h
  | step _ ih => simpa [hw] using ih.succ

/-- Either `ts` begins with an expression of the level that is over where the rest starts, or it
runs into a token that is refused. -/
def Splits (d : Nat) (level : Level) (ts : List Token) : Prop :=
  (∃ us r e, ts = us ++ r ∧ Derives d level us e ∧ level.Ends (r.headD .endMarker)) ∨
    ∃ p r w, ts = p ++ r ∧ Expects d level p w ∧ w.Refuses (r.headD .endMarker)

theorem Splits.unary {d : Nat} {op : UnaryOp} {t : Token} {ts : List Token}
    (ht : t.kind = op.kind) (h : Splits d .operand ts) : Splits (d + 1) .operand (t :: ts) := by
  rcases h with ⟨us, r, e, rfl, he, _⟩ | ⟨p, r, w, rfl, hp, hr⟩
  · exact .inl ⟨t :: us, r, _, rfl, .unary ht he, Level.ends_operand _⟩
  · exact .inr ⟨t :: p, r, w, rfl, .unary ht hp, hr⟩

theorem Splits.group {d : Nat} {t : Token} {ts : List Token} (ht : t.kind = .leftParen)
    (h : Splits d .sum ts) : Splits (d + 1) .operand (t :: ts) := by
  rcases h with ⟨us, r, e, rfl, he, hr⟩ | ⟨p, r, w, rfl, hp, hr⟩
  · by_cases hk : (r.headD .endMarker).kind = .rightParen
    · cases r with
      | nil => cases hk
      | cons u r =>
        exact .inl ⟨t :: us ++ [u], r, e, by simp, .group ht hk he, Level.ends_operand _⟩
    · exact .inr ⟨t :: us, r, .rightParen, rfl, .close ht he, hk, hr⟩
  · exact .inr ⟨t :: p, r, w, rfl, .group ht hp, hr⟩

theorem splits_operand {d : Nat} (h : ∀ level ts, Splits d level ts) (ts : List Token) :
    Splits (d + 1) .operand ts := by
  by_cases hs : (ts.headD .endMarker).StartsOperand
  · cases ts with
    | nil => exact hs.elim
    | cons t ts =>
      unfold Token.StartsOperand at hs
      split at hs
      · rename_i hk
        change t.value ≤ _ at hs
        have hn : Derives (d + 1) .operand [t] (.integer ⟨t.value, by omega, by omega⟩) :=
          .number hk rfl
        exact .inl ⟨[t], ts, _, rfl, hn, Level.ends_operand _⟩
      · rename_i hk
        exact .inl ⟨[t], ts, _, rfl, .name hk, Level.ends_operand _⟩
      · rename_i hk
        exact (h _ ts).unary (show t.kind = UnaryOp.negative.kind from hk)
      · rename_i hk
        exact (h _ ts).unary (show t.kind = UnaryOp.not.kind from hk)
      · rename_i hk
        exact (h _ ts).group hk
      · exact hs.elim
  · exact .inr ⟨[], ts, .operand, rfl, .operand, hs⟩

/-- An operator of the level makes the expression before it a left operand. -/
theorem Splits.extend {d : Nat} {level : Level} {ts : List Token} (hl : level ≠ .operand)
    (h : Splits (d + 1) level.tighter ts) (hr : ∀ ts, Splits d level ts) :
    Splits (d + 1) level ts := by
  rcases h with ⟨us, r, e, rfl, he, hend⟩ | ⟨p, r, w, rfl, hp, hw⟩
  · by_cases hop : ∃ op : BinaryOp, (r.headD .endMarker).kind = op.kind ∧ op.level = level
    · obtain ⟨op, hk, hop⟩ := hop
      cases r with
      | nil => cases op <;> cases hk
      | cons t r =>
        rcases hr r with ⟨vs, r, e', rfl, he', hend'⟩ | ⟨p, r, w, rfl, hp, hw⟩
        · exact .inl ⟨us ++ t :: vs, r, _, by simp, .binary hop hk he he', hend'⟩
        · exact .inr ⟨us ++ t :: p, r, w, by simp, .binary hop hk he hp, hw⟩
    · refine .inl ⟨us, r, e, rfl, he.loosen hl, fun op hk hle => ?_⟩
      refine hend op hk (Level.le_tighter hle fun h => hop ⟨op, hk, h⟩)
  · exact .inr ⟨p, r, w, rfl, hp.loosen hl, hw⟩

theorem splits (d : Nat) (level : Level) (ts : List Token) : Splits d level ts := by
  induction d generalizing level ts with
  | zero => exact .inr ⟨[], ts, .depth, rfl, expects_zero level, trivial⟩
  | succ d ih =>
    have ho := splits_operand ih ts
    have hp : Splits (d + 1) .product ts := .extend (by decide) ho (ih .product)
    have hs : Splits (d + 1) .sum ts := .extend (by decide) hp (ih .sum)
    cases level <;> assumption

end Expr

/-- After `p` a statement, whose expression has depth `d` to use up, has to go on with what is
wanted. -/
inductive Statement.Expects (d : Nat) : List Token → Want → Prop
  | start : Expects d [] .statement
  | name {v : Token} : v.kind = .var → Expects d [v] .name
  | typeName {v x : Token} : v.kind = .var → x.kind = .name → Expects d [v, x] .typeName
  | value {v x t : Token} :
      v.kind = .var → x.kind = .name → t.kind = .name → Expects d [v, x, t] .value
  | inside {p : List Token} {w : Want} : p ≠ [] → Expr.Expects d .sum p w → Expects d p w
  | insideValue {v x t q : Token} {p : List Token} {w : Want} :
      v.kind = .var → x.kind = .name → t.kind = .name → q.kind = .equal →
      Expr.Expects d .sum p w → Expects d (v :: x :: t :: q :: p) w
  | after {ts : List Token} {e : Expr} : Expr.Derives d .sum ts e → Expects d ts .semicolon
  | afterValue {v x t q : Token} {ts : List Token} {e : Expr} :
      v.kind = .var → x.kind = .name → t.kind = .name → q.kind = .equal →
      Expr.Derives d .sum ts e → Expects d (v :: x :: t :: q :: ts) .semicolon

namespace Statement

theorem Derives.mono {c d : Nat} {ts : List Token} {s : Statement} (hcd : c ≤ d)
    (h : Derives c ts s) : Derives d ts s := by
  cases h with
  | expression he hs => exact .expression (he.mono hcd) hs
  | zero hv hx ht hs => exact .zero hv hx ht hs
  | value hv hx ht hq he hs => exact .value hv hx ht hq (he.mono hcd) hs

theorem Expects.mono {c d : Nat} {p : List Token} {w : Want} (hcd : c ≤ d) (hw : w ≠ .depth)
    (h : Expects c p w) : Expects d p w := by
  cases h with
  | start => exact .start
  | name hv => exact .name hv
  | typeName hv hx => exact .typeName hv hx
  | value hv hx ht => exact .value hv hx ht
  | inside hp he => exact .inside hp (he.mono hcd hw)
  | insideValue hv hx ht hq he => exact .insideValue hv hx ht hq (he.mono hcd hw)
  | after he => exact .after (he.mono hcd)
  | afterValue hv hx ht hq he => exact .afterValue hv hx ht hq (he.mono hcd)

theorem Expects.ne_semicolon {d : Nat} {p : List Token} {w : Want} (h : Expects d p w) :
    ∀ t ∈ p, t.kind ≠ .semicolon := by
  cases h with
  | start => simp
  | name hv => simp [hv]
  | typeName hv hx => simp [hv, hx]
  | value hv hx ht => simp [hv, hx, ht]
  | inside _ he => exact he.ne_semicolon
  | insideValue hv hx ht hq he => simpa [hv, hx, ht, hq] using he.ne_semicolon
  | after he => exact he.ne_semicolon
  | afterValue hv hx ht hq he => simpa [hv, hx, ht, hq] using he.ne_semicolon

theorem Derives.eq_append_semicolon {d : Nat} {ts : List Token} {s : Statement}
    (h : Derives d ts s) : ∃ us t, ts = us ++ [t] ∧ t.kind = .semicolon := by
  cases h with
  | expression _ hs => exact ⟨_, _, rfl, hs⟩
  | @zero v x t s _ _ _ hs => exact ⟨[v, x, t], s, rfl, hs⟩
  | @value v x t q s ts _ _ _ _ _ _ hs => exact ⟨v :: x :: t :: q :: ts, s, rfl, hs⟩

theorem Derives.isBad {d : Nat} {ts : List Token} {s : Statement} (h : Derives d ts s) :
    s.isBad = false := by
  cases h <;> rfl

/-- Either `ts` begins with a statement or it runs into a token that is refused. -/
def Splits (d : Nat) (ts : List Token) : Prop :=
  (∃ us r s, ts = us ++ r ∧ Derives d us s) ∨
    ∃ p r w, ts = p ++ r ∧ Expects d p w ∧ w.Refuses (r.headD .endMarker)

theorem eq_cons_of_kind {ts : List Token} {k : Token.Kind} (h : (ts.headD .endMarker).kind = k)
    (hk : k ≠ .endMarker) : ∃ t r, ts = t :: r ∧ t.kind = k := by
  cases ts with
  | nil => exact absurd h.symm hk
  | cons t r => exact ⟨t, r, rfl, h⟩

theorem splits_of_not_var {d : Nat} {ts : List Token} (hv : (ts.headD .endMarker).kind ≠ .var) :
    Splits (d + 1) ts := by
  rcases Expr.splits (d + 1) .sum ts with ⟨us, r, e, rfl, he, hend⟩ | ⟨p, r, w, rfl, hp, hr⟩
  · by_cases hs : (r.headD .endMarker).kind = .semicolon
    · obtain ⟨s, r, rfl, hs⟩ := eq_cons_of_kind hs (by decide)
      exact .inl ⟨us ++ [s], r, _, by simp, .expression he hs⟩
    · exact .inr ⟨us, r, .semicolon, rfl, .after he, hs, hend⟩
  · cases p with
    | nil =>
      obtain rfl := hp.of_nil
      exact .inr ⟨[], r, .statement, rfl, .start, hv, hr⟩
    | cons t p => exact .inr ⟨t :: p, r, w, rfl, .inside (by simp) hp, hr⟩

theorem splits_of_value {d : Nat} {v x t q : Token} {ts : List Token} (hv : v.kind = .var)
    (hx : x.kind = .name) (ht : t.kind = .name) (hq : q.kind = .equal) :
    Splits (d + 1) (v :: x :: t :: q :: ts) := by
  rcases Expr.splits (d + 1) .sum ts with ⟨us, r, e, rfl, he, hend⟩ | ⟨p, r, w, rfl, hp, hr⟩
  · by_cases hs : (r.headD .endMarker).kind = .semicolon
    · obtain ⟨s, r, rfl, hs⟩ := eq_cons_of_kind hs (by decide)
      exact .inl ⟨v :: x :: t :: q :: us ++ [s], r, _, by simp, .value hv hx ht hq he hs⟩
    · exact .inr ⟨_, r, .semicolon, rfl, .afterValue hv hx ht hq he, hs, hend⟩
  · exact .inr ⟨_, r, w, rfl, .insideValue hv hx ht hq hp, hr⟩

theorem splits (d : Nat) (ts : List Token) : Splits (d + 1) ts := by
  by_cases hv : (ts.headD .endMarker).kind = .var
  case neg => exact splits_of_not_var hv
  obtain ⟨v, ts, rfl, hv⟩ := eq_cons_of_kind hv (by decide)
  by_cases hx : (ts.headD .endMarker).kind = .name
  case neg => exact .inr ⟨[v], ts, .name, rfl, .name hv, hx⟩
  obtain ⟨x, ts, rfl, hx⟩ := eq_cons_of_kind hx (by decide)
  by_cases ht : (ts.headD .endMarker).kind = .name
  case neg => exact .inr ⟨[v, x], ts, .typeName, rfl, .typeName hv hx, ht⟩
  obtain ⟨t, ts, rfl, ht⟩ := eq_cons_of_kind ht (by decide)
  by_cases hs : (ts.headD .endMarker).kind = .semicolon
  · obtain ⟨s, ts, rfl, hs⟩ := eq_cons_of_kind hs (by decide)
    exact .inl ⟨[v, x, t, s], ts, _, rfl, .zero hv hx ht hs⟩
  by_cases hq : (ts.headD .endMarker).kind = .equal
  · obtain ⟨q, ts, rfl, hq⟩ := eq_cons_of_kind hq (by decide)
    exact splits_of_value hv hx ht hq
  · exact .inr ⟨[v, x, t], ts, .value, rfl, .value hv hx ht, hq, hs⟩

end Statement
end Reckon
