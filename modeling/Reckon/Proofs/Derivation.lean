import Reckon.Grammar

/-! Derivations of the grammar as trees. A tree holds every token it stands for, so it tells which
rule was used where; a rule without tokens of its own shows in the level. What `Derives` says of a
token list is that such a tree exists, and there is never more than one. -/

namespace Reckon

theorem UnaryOp.kind_ne {k : Token.Kind} (op : UnaryOp) (hk : ofKind? k = none) :
    op.kind ≠ k := by
  rintro rfl
  rw [ofKind?_eq_some_iff.2 rfl] at hk
  cases hk

theorem BinaryOp.kind_ne {k : Token.Kind} (op : BinaryOp) (hk : ofKind? k = none) :
    op.kind ≠ k := by
  rintro rfl
  rw [ofKind?_eq_some_iff.2 rfl] at hk
  cases hk

/-- Whether an expression of the level is over at `t`, as `t` is no operator the level takes in. -/
def Level.Ends (level : Level) (t : Token) : Prop :=
  ∀ op : BinaryOp, t.kind = op.kind → ¬ op.level ≤ level

namespace Level

theorem ends_operand (t : Token) : operand.Ends t := by
  intro op _
  cases op <;> decide

theorem le_tighter {level : Level} {op : BinaryOp} (h : op.level ≤ level)
    (hne : op.level ≠ level) : op.level ≤ level.tighter := by
  revert h hne
  cases level <;> cases op <;> decide

theorem Ends.tighter {level : Level} {t : Token} (h : level.Ends t) : level.tighter.Ends t := by
  intro op ht hop
  apply h op ht
  revert hop
  cases level <;> cases op <;> decide

theorem ends_tighter_of_operator {level : Level} {op : BinaryOp} {t : Token}
    (hop : op.level = level) (ht : t.kind = op.kind) : level.tighter.Ends t := by
  intro op' ht'
  rw [ht] at ht'
  subst hop
  revert ht'
  cases op <;> cases op' <;> decide

theorem ends_of_kind {level : Level} {t : Token} {k : Token.Kind} (ht : t.kind = k)
    (hk : BinaryOp.ofKind? k = none) : level.Ends t :=
  fun op hop => absurd (hop.symm.trans ht) (op.kind_ne hk)

theorem not_ends_of_operator {level : Level} {op : BinaryOp} {t : Token} (hop : op.level = level)
    (ht : t.kind = op.kind) : ¬ level.Ends t := fun h => h op ht (hop ▸ Nat.le_refl _)

end Level

theorem UnaryOp.kind_injective : Function.Injective kind := by
  intro a b h
  revert h
  cases a <;> cases b <;> decide

theorem BinaryOp.kind_injective : Function.Injective kind := by
  intro a b h
  revert h
  cases a <;> cases b <;> decide

theorem BinaryOp.level_ne_operand (op : BinaryOp) : op.level ≠ .operand := by
  cases op <;> decide

/-- No expression starts like a declaration. -/
theorem Expr.Derives.head_kind_ne_var {d : Nat} {level : Level} {ts : List Token} {e : Expr}
    (h : Derives d level ts e) (r : List Token) : ((ts ++ r).headD .endMarker).kind ≠ .var := by
  induction h generalizing r with
  | number hk _ | name hk | group hk _ _ _ => exact fun h => absurd (hk.symm.trans h) (by decide)
  | @unary _ op _ _ _ hk _ _ => exact fun h => absurd (hk.symm.trans h) (op.kind_ne rfl)
  | binary _ _ _ _ ihl _ =>
    rw [List.append_assoc]
    exact ihl _
  | product _ ih => exact ih r
  | sum _ ih => exact ih r

theorem Expr.Derives.ne_semicolon {d : Nat} {level : Level} {ts : List Token} {e : Expr}
    (h : Derives d level ts e) : ∀ t ∈ ts, t.kind ≠ .semicolon := by
  induction h with
  | number hk _ | name hk => simp [hk]
  | group hl hr _ ih => simpa [hl, hr, or_imp, forall_and] using ih
  | @unary _ op _ _ _ hk _ ih => simpa [hk, op.kind_ne (k := .semicolon) rfl] using ih
  | @binary _ op _ _ _ _ _ _ _ hk _ _ ihl ihr =>
    simpa [hk, op.kind_ne (k := .semicolon) rfl, or_imp, forall_and] using ⟨ihl, ihr⟩
  | product _ ih => exact ih
  | sum _ ih => exact ih

inductive Expr.Tree : Nat → Level → Type
  | number {d : Nat} (t : Token) (n : Integer) :
      t.kind = .number → n.toInt = t.value → Tree (d + 1) .operand
  | name {d : Nat} (t : Token) : t.kind = .name → Tree (d + 1) .operand
  | group {d : Nat} (l : Token) (x : Tree d .sum) (r : Token) :
      l.kind = .leftParen → r.kind = .rightParen → Tree (d + 1) .operand
  | unary {d : Nat} (op : UnaryOp) (t : Token) (x : Tree d .operand) :
      t.kind = op.kind → Tree (d + 1) .operand
  | binary {d : Nat} {level : Level} (op : BinaryOp) (l : Tree (d + 1) level.tighter) (t : Token)
      (r : Tree d level) : op.level = level → t.kind = op.kind → Tree (d + 1) level
  | product {d : Nat} (x : Tree d .operand) : Tree d .product
  | sum {d : Nat} (x : Tree d .product) : Tree d .sum

namespace Expr.Tree

def tokens {d : Nat} {level : Level} : Tree d level → List Token
  | .number t _ _ _ => [t]
  | .name t _ => [t]
  | .group l x r _ _ => l :: x.tokens ++ [r]
  | .unary _ t x _ => t :: x.tokens
  | .binary _ l t r _ _ => l.tokens ++ t :: r.tokens
  | .product x => x.tokens
  | .sum x => x.tokens

def expr {d : Nat} {level : Level} : Tree d level → Expr
  | .number _ n _ _ => .integer n
  | .name t _ => .identifier t.lexeme
  | .group _ x _ _ _ => x.expr
  | .unary op _ x _ => .unary op x.expr
  | .binary op l _ r _ _ => .binary op l.expr r.expr
  | .product x => x.expr
  | .sum x => x.expr

theorem derives {d : Nat} {level : Level} (x : Tree d level) :
    Derives d level x.tokens x.expr := by
  induction x with
  | number t n hk hn => exact .number hk hn
  | name t hk => exact .name hk
  | group l x r hl hr ih => exact .group hl hr ih
  | unary op t x hk ih => exact .unary hk ih
  | binary op l t r hop hk ihl ihr => exact .binary hop hk ihl ihr
  | product x ih => exact .product ih
  | sum x ih => exact .sum ih

theorem of_derives {d : Nat} {level : Level} {ts : List Token} {e : Expr}
    (h : Derives d level ts e) : ∃ x : Tree d level, x.tokens = ts ∧ x.expr = e := by
  induction h with
  | number hk hn => exact ⟨.number _ _ hk hn, rfl, rfl⟩
  | name hk => exact ⟨.name _ hk, rfl, rfl⟩
  | group hl hr _ ih =>
    obtain ⟨x, rfl, rfl⟩ := ih
    exact ⟨.group _ x _ hl hr, rfl, rfl⟩
  | unary hk _ ih =>
    obtain ⟨x, rfl, rfl⟩ := ih
    exact ⟨.unary _ _ x hk, rfl, rfl⟩
  | binary hop hk _ _ ihl ihr =>
    obtain ⟨l, rfl, rfl⟩ := ihl
    obtain ⟨r, rfl, rfl⟩ := ihr
    exact ⟨.binary _ l _ r hop hk, rfl, rfl⟩
  | product _ ih =>
    obtain ⟨x, rfl, rfl⟩ := ih
    exact ⟨.product x, rfl, rfl⟩
  | sum _ ih =>
    obtain ⟨x, rfl, rfl⟩ := ih
    exact ⟨.sum x, rfl, rfl⟩

theorem kind_eq {t u : Token} {ts us : List Token} {k k' : Token.Kind} (h : t :: ts = u :: us)
    (ht : t.kind = k) (hu : u.kind = k') : k = k' := by
  rw [← ht, ← hu, (List.cons.inj h).1]

/-- Two trees that are spelled alike up to where each is over are the same tree. -/
theorem unique {d : Nat} {level : Level} (x y : Tree d level) {r s : List Token}
    (h : x.tokens ++ r = y.tokens ++ s) (hr : level.Ends (r.headD .endMarker))
    (hs : level.Ends (s.headD .endMarker)) : x = y ∧ r = s := by
  induction x generalizing r s with
  | number t n hk hn =>
    cases y with
    | number t' n' hk' hn' =>
      obtain ⟨rfl, rfl⟩ := List.cons.inj h
      obtain rfl : n = n' := Integer.ext (hn.trans hn'.symm)
      exact ⟨rfl, rfl⟩
    | name t' hk' => exact absurd (kind_eq h hk hk') (by decide)
    | group l' y r' hl' _ => exact absurd (kind_eq h hk hl') (by decide)
    | unary op' t' y hk' => exact absurd (kind_eq h hk hk') (op'.kind_ne rfl).symm
    | binary op' l' t' r' hop' _ => exact absurd hop' op'.level_ne_operand
  | name t hk =>
    cases y with
    | number t' n' hk' hn' => exact absurd (kind_eq h hk hk') (by decide)
    | name t' hk' =>
      obtain ⟨rfl, rfl⟩ := List.cons.inj h
      exact ⟨rfl, rfl⟩
    | group l' y r' hl' _ => exact absurd (kind_eq h hk hl') (by decide)
    | unary op' t' y hk' => exact absurd (kind_eq h hk hk') (op'.kind_ne rfl).symm
    | binary op' l' t' r' hop' _ => exact absurd hop' op'.level_ne_operand
  | group l x rp hl hrp ih =>
    cases y with
    | number t' n' hk' hn' => exact absurd (kind_eq h hl hk') (by decide)
    | name t' hk' => exact absurd (kind_eq h hl hk') (by decide)
    | group l' y rp' hl' hrp' =>
      obtain ⟨rfl, hx⟩ := List.cons.inj h
      change x.tokens ++ [rp] ++ r = y.tokens ++ [rp'] ++ s at hx
      rw [List.append_assoc, List.append_assoc] at hx
      obtain ⟨rfl, hr⟩ := ih y hx (Level.ends_of_kind hrp rfl) (Level.ends_of_kind hrp' rfl)
      obtain ⟨rfl, rfl⟩ := List.cons.inj hr
      exact ⟨rfl, rfl⟩
    | unary op' t' y hk' => exact absurd (kind_eq h hl hk') (op'.kind_ne rfl).symm
    | binary op' l' t' r' hop' _ => exact absurd hop' op'.level_ne_operand
  | unary op t x hk ih =>
    cases y with
    | number t' n' hk' hn' => exact absurd (kind_eq h hk hk') (op.kind_ne rfl)
    | name t' hk' => exact absurd (kind_eq h hk hk') (op.kind_ne rfl)
    | group l' y r' hl' _ => exact absurd (kind_eq h hk hl') (op.kind_ne rfl)
    | unary op' t' y hk' =>
      obtain rfl : op = op' := UnaryOp.kind_injective (kind_eq h hk hk')
      obtain ⟨rfl, hx⟩ := List.cons.inj h
      obtain ⟨rfl, rfl⟩ := ih y hx (Level.ends_operand _) (Level.ends_operand _)
      exact ⟨rfl, rfl⟩
    | binary op' l' t' r' hop' _ => exact absurd hop' op'.level_ne_operand
  | binary op l t r₁ hop hk ihl ihr =>
    rw [tokens, List.append_assoc, List.cons_append] at h
    have ht := Level.ends_tighter_of_operator hop hk
    cases y with
    | number | name | group | unary => exact absurd hop op.level_ne_operand
    | binary op' l' t' r₁' hop' hk' =>
      rw [tokens, List.append_assoc, List.cons_append] at h
      obtain ⟨rfl, ho⟩ := ihl l' h ht (Level.ends_tighter_of_operator hop' hk')
      obtain ⟨rfl, hx⟩ := List.cons.inj ho
      obtain rfl : op = op' := BinaryOp.kind_injective (hk.symm.trans hk')
      obtain ⟨rfl, rfl⟩ := ihr r₁' hx hr hs
      exact ⟨rfl, rfl⟩
    | product y =>
      obtain ⟨-, rfl⟩ := ihl y h ht (Level.ends_operand _)
      exact absurd hs (Level.not_ends_of_operator hop hk)
    | sum y =>
      obtain ⟨-, rfl⟩ := ihl y h ht hs.tighter
      exact absurd hs (Level.not_ends_of_operator hop hk)
  | product x ih =>
    cases y with
    | binary op l t r₁ hop hk =>
      rw [tokens, tokens, List.append_assoc, List.cons_append] at h
      obtain ⟨-, rfl⟩ := ih l h (Level.ends_operand _) (Level.ends_operand _)
      exact absurd hr (Level.not_ends_of_operator hop hk)
    | product y =>
      obtain ⟨rfl, rfl⟩ := ih y h (Level.ends_operand _) (Level.ends_operand _)
      exact ⟨rfl, rfl⟩
  | sum x ih =>
    cases y with
    | binary op l t r₁ hop hk =>
      rw [tokens, tokens, List.append_assoc, List.cons_append] at h
      obtain ⟨-, rfl⟩ := ih l h hr.tighter (Level.ends_tighter_of_operator hop hk)
      exact absurd hr (Level.not_ends_of_operator hop hk)
    | sum y =>
      obtain ⟨rfl, rfl⟩ := ih y h hr.tighter hs.tighter
      exact ⟨rfl, rfl⟩

end Expr.Tree

inductive Statement.Tree (d : Nat) : Type
  | expression (x : Expr.Tree d .sum) (s : Token) : s.kind = .semicolon → Tree d
  | zero (v x t s : Token) :
      v.kind = .var → x.kind = .name → t.kind = .name → s.kind = .semicolon → Tree d
  | value (v x t q : Token) (e : Expr.Tree d .sum) (s : Token) :
      v.kind = .var → x.kind = .name → t.kind = .name → q.kind = .equal → s.kind = .semicolon →
      Tree d

namespace Statement.Tree

variable {d : Nat}

def tokens : Tree d → List Token
  | .expression x s _ => x.tokens ++ [s]
  | .zero v x t s _ _ _ _ => [v, x, t, s]
  | .value v x t q e s _ _ _ _ _ => v :: x :: t :: q :: e.tokens ++ [s]

def statement : Tree d → Statement
  | .expression x _ _ => .expression x.expr
  | .zero _ x t _ _ _ _ _ => .declaration ⟨x.lexeme, t.lexeme, none⟩
  | .value _ x t _ e _ _ _ _ _ _ => .declaration ⟨x.lexeme, t.lexeme, some e.expr⟩

theorem derives_iff {ts : List Token} {s : Statement} :
    Derives d ts s ↔ ∃ x : Tree d, x.tokens = ts ∧ x.statement = s := by
  constructor
  · intro h
    cases h with
    | expression he hs =>
      obtain ⟨x, rfl, rfl⟩ := Expr.Tree.of_derives he
      exact ⟨.expression x _ hs, rfl, rfl⟩
    | zero hv hx ht hs => exact ⟨.zero _ _ _ _ hv hx ht hs, rfl, rfl⟩
    | value hv hx ht hq he hs =>
      obtain ⟨x, rfl, rfl⟩ := Expr.Tree.of_derives he
      exact ⟨.value _ _ _ _ x _ hv hx ht hq hs, rfl, rfl⟩
  · rintro ⟨x, rfl, rfl⟩
    cases x with
    | expression x s hs => exact .expression x.derives hs
    | zero v x t s hv hx ht hs => exact .zero hv hx ht hs
    | value v x t q e s hv hx ht hq hs => exact .value hv hx ht hq e.derives hs

theorem expression_unique {x y : Expr.Tree d .sum} {s s' : Token} (hs : s.kind = .semicolon)
    (hs' : s'.kind = .semicolon) (h : x.tokens ++ [s] = y.tokens ++ [s']) : x = y ∧ s = s' := by
  obtain ⟨hxy, h⟩ := x.unique y h (Level.ends_of_kind hs rfl) (Level.ends_of_kind hs' rfl)
  exact ⟨hxy, (List.cons.inj h).1⟩

theorem expression_ne_var {x : Expr.Tree d .sum} {s v : Token} {ts : List Token}
    (hv : v.kind = .var) : x.tokens ++ [s] ≠ v :: ts := fun h =>
  x.derives.head_kind_ne_var [s] (by rwa [h])

/-- The grammar of statements is unambiguous. -/
theorem unique (x y : Tree d) (h : x.tokens = y.tokens) : x = y := by
  cases x with
  | expression x s hs =>
    cases y with
    | expression y s' hs' =>
      obtain ⟨rfl, rfl⟩ := expression_unique hs hs' h
      rfl
    | zero v _ _ _ hv => exact absurd h (expression_ne_var hv)
    | value v _ _ _ _ _ hv => exact absurd h (expression_ne_var hv)
  | zero v x t s hv _ _ _ =>
    cases y with
    | expression y _ _ => exact absurd h.symm (expression_ne_var hv)
    | zero => cases h; rfl
    | value => simp [tokens] at h
  | value v x t q e s hv _ _ _ hs =>
    cases y with
    | expression y _ _ => exact absurd h.symm (expression_ne_var hv)
    | zero => simp [tokens] at h
    | value v' x' t' q' e' s' _ _ _ _ hs' =>
      simp only [tokens, List.cons_append, List.cons.injEq] at h
      obtain ⟨rfl, rfl, rfl, rfl, h⟩ := h
      obtain ⟨rfl, rfl⟩ := expression_unique hs hs' h
      rfl

end Statement.Tree
end Reckon
