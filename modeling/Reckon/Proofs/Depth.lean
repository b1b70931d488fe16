import Reckon.Expr.Printer
import Reckon.Token.Spelling
import Reckon.Proofs.Expectation

/-! The depth an expression takes. What is printed with as few parentheses as possible derives at
that depth, and no other spelling of the expression gets by with less: parentheses that are left
out only save depth. -/

namespace Reckon

namespace Level

theorem operand_le (a : Level) : operand ≤ a := Nat.zero_le _

theorem le_sum (a : Level) : a ≤ sum := by
  cases a <;> decide

end Level

/-- Whether the lexer reads the name as one: a letter, then letters and digits, and no keyword. -/
def Name.IsWord (x : Name) : Prop := Token.Kind.name.Lexeme x.toList

theorem Token.isWord {t : Token} (hk : t.kind = .name) (h : t.kind.Lexeme t.lexeme.toList) :
    Name.IsWord t.lexeme := by
  rwa [hk] at h

theorem Integer.toList_text {n : Integer} (h : 0 ≤ n.toInt) :
    n.text.toList = Nat.toDigits 10 n.toInt.natAbs := by
  rw [text, if_neg (by omega), String.toList_ofList]

/-- A number that is not negative is read as itself. -/
theorem Integer.value_text {n : Integer} (h : 0 ≤ n.toInt) :
    n.toInt = Token.value ⟨.number, n.text⟩ := by
  rw [Token.value, toList_text h, Nat.ofDigitChars_ten_toDigits]
  omega

namespace Expr

/-- The depth it takes to read the expression in a place for `place`, in parentheses if need be. -/
def depth : Expr → Level → Nat
  | .integer _, _ | .identifier _, _ => 1
  | .unary _ e, _ => e.depth .operand + 1
  | .binary op l r, place =>
    let bare := max (l.depth op.level.tighter) (r.depth op.level + 1)
    if op.level ≤ place then bare else bare + 1

/-- A looser place takes no more depth. -/
theorem depth_le_of_le {a b : Level} (h : a ≤ b) (e : Expr) : e.depth b ≤ e.depth a := by
  cases e with
  | integer n | identifier x | unary op e => exact Nat.le_refl _
  | binary op l r =>
    by_cases ha : op.level ≤ a
    · have hb : op.level ≤ b := Nat.le_trans ha h
      simp [depth, ha, hb]
    · simp only [depth, if_neg ha]
      split <;> omega

/-- Parentheses take one more depth at most. -/
theorem depth_operand_le (e : Expr) : e.depth .operand ≤ e.depth .sum + 1 := by
  cases e with
  | integer n | identifier x | unary op e => exact Nat.le_succ _
  | binary op l r =>
    simp only [depth, if_pos op.level.le_sum]
    split <;> omega

/-- No spelling of an expression takes less than its depth. -/
theorem Derives.depth_le {d : Nat} {level : Level} {ts : List Token} {e : Expr}
    (h : Derives d level ts e) : e.depth level ≤ d := by
  induction h with
  | number | name => simp [depth]
  | @group d l r ts e _ _ _ ih =>
    have := e.depth_operand_le
    omega
  | unary _ _ ih => exact Nat.succ_le_succ ih
  | @binary d op level t ls rs l r hop _ _ _ ihl ihr =>
    subst hop
    have hle : op.level ≤ op.level := Nat.le_refl _
    simp only [depth, if_pos hle]
    omega
  | @product d ts e _ ih => exact Nat.le_trans (e.depth_le_of_le (by decide)) ih
  | @sum d ts e _ ih => exact Nat.le_trans (e.depth_le_of_le (by decide)) ih

theorem Derives.of_operand {d : Nat} {ts : List Token} {e : Expr} (h : Derives d .operand ts e)
    (place : Level) : Derives d place ts e := by
  cases place with
  | operand => exact h
  | product => exact .product h
  | sum => exact .sum (.product h)

theorem Derives.of_le {d : Nat} {a b : Level} {ts : List Token} {e : Expr} (hab : a ≤ b)
    (h : Derives d a ts e) : Derives d b ts e := by
  cases a with
  | operand => exact h.of_operand b
  | product =>
    cases b with
    | operand => exact absurd hab (by decide)
    | product => exact h
    | sum => exact .sum h
  | sum =>
    cases b with
    | operand | product => exact absurd hab (by decide)
    | sum => exact h

theorem Expects.of_le {d : Nat} {a b : Level} {p : List Token} {w : Want} (hab : a ≤ b)
    (h : Expects d a p w) : Expects d b p w := by
  cases a with
  | operand =>
    cases b with
    | operand => exact h
    | product => exact .product h
    | sum => exact .sum (.product h)
  | product =>
    cases b with
    | operand => exact absurd hab (by decide)
    | product => exact h
    | sum => exact .sum h
  | sum =>
    cases b with
    | operand | product => exact absurd hab (by decide)
    | sum => exact h

/-- Names are words and no number has a sign, so tokens can be found for them. -/
def Writable : Expr → Prop
  | .integer n => 0 ≤ n.toInt
  | .identifier x => x.IsWord
  | .unary _ e => e.Writable
  | .binary _ l r => l.Writable ∧ r.Writable

theorem enclose_of_level {e : Expr} (h : e.level = .operand) (place : Level) (ts : List Token) :
    enclose place e.level ts = ts := by
  rw [h, enclose, if_pos place.operand_le]

/-- What is printed derives at the least depth there is. -/
theorem derives_enclose {e : Expr} (hw : e.Writable) {place : Level} {d : Nat}
    (hd : e.depth place ≤ d) : Derives d place (enclose place e.level e.tokens) e := by
  induction e generalizing place d with
  | integer n =>
    obtain ⟨c, rfl⟩ := Nat.exists_eq_add_of_le' hd
    have hn : Derives (c + 1) .operand [⟨.number, n.text⟩] (.integer n) :=
      .number rfl (Integer.value_text hw)
    rw [enclose_of_level rfl]
    exact hn.of_operand place
  | identifier x =>
    obtain ⟨c, rfl⟩ := Nat.exists_eq_add_of_le' hd
    have hx : Derives (c + 1) .operand [⟨.name, x⟩] (.identifier x) := .name (t := ⟨.name, x⟩) rfl
    rw [enclose_of_level rfl]
    exact hx.of_operand place
  | unary op e ih =>
    obtain ⟨c, rfl⟩ := Nat.exists_eq_add_of_le' (Nat.le_trans (Nat.le_add_left 1 _) hd)
    have he : Derives c .operand (enclose .operand e.level e.tokens) e :=
      ih hw (Nat.le_of_succ_le_succ hd)
    rw [enclose_of_level rfl]
    exact (Derives.unary (t := op.token) rfl he).of_operand place
  | binary op l r ihl ihr =>
    -- At its own level the expression needs no parentheses of its own.
    have hb (d : Nat) (hd : max (l.depth op.level.tighter) (r.depth op.level + 1) ≤ d) :
        Derives d op.level (Expr.binary op l r).tokens (.binary op l r) := by
      obtain ⟨c, rfl⟩ := Nat.exists_eq_add_of_le' (m := 1) (n := d) (by omega)
      have hl : Derives (c + 1) op.level.tighter (enclose op.level.tighter l.level l.tokens) l :=
        ihl hw.1 (by omega)
      have hr : Derives c op.level (enclose op.level r.level r.tokens) r := ihr hw.2 (by omega)
      exact .binary rfl rfl hl hr
    by_cases hop : op.level ≤ place
    · simp only [depth, if_pos hop] at hd
      rw [level, enclose, if_pos hop]
      exact (hb d hd).of_le hop
    · simp only [depth, if_neg hop] at hd
      obtain ⟨c, rfl⟩ := Nat.exists_eq_add_of_le' (Nat.le_trans (Nat.le_add_left 1 _) hd)
      have hg := Derives.group (l := .leftParen) (r := .rightParen) rfl rfl
        ((hb c (Nat.le_of_succ_le_succ hd)).of_le op.level.le_sum)
      rw [level, enclose, if_neg hop]
      exact hg.of_operand place

theorem derives_tokens {e : Expr} (hw : e.Writable) {d : Nat} (hd : e.depth .sum ≤ d) :
    Derives d .sum e.tokens e := by
  have h := derives_enclose hw hd
  rwa [enclose, if_pos e.level.le_sum] at h

/-- What is read from words and numbers can be written with them. -/
theorem Derives.writable {d : Nat} {level : Level} {ts : List Token} {e : Expr}
    (h : Derives d level ts e) (hts : ∀ t ∈ ts, t.kind.Lexeme t.lexeme.toList) : e.Writable := by
  induction h with
  | @number d t n hk hn =>
    change 0 ≤ n.toInt
    omega
  | @name d t hk => exact Token.isWord hk (hts t (List.mem_singleton_self t))
  | group _ _ _ ih => exact ih fun t ht => hts t (by simp [ht])
  | unary _ _ ih => exact ih fun t ht => hts t (by simp [ht])
  | binary _ _ _ _ ihl ihr =>
    exact ⟨ihl fun t ht => hts t (by simp [ht]), ihr fun t ht => hts t (by simp [ht])⟩
  | product _ ih | sum _ ih => exact ih hts

end Expr

namespace Statement

/-- The expression in the statement. -/
def expr? : Statement → Option Expr
  | .expression e => some e
  | .declaration d => d.value
  | .bad _ => none

def FitsIn (d : Nat) (s : Statement) : Prop := ∀ e ∈ s.expr?, e.depth .sum ≤ d

instance (d : Nat) (s : Statement) : Decidable (s.FitsIn d) :=
  inferInstanceAs (Decidable (∀ e ∈ s.expr?, e.depth .sum ≤ d))

def Writable : Statement → Prop
  | .expression e => e.Writable
  | .declaration d => d.name.IsWord ∧ d.typeName.IsWord ∧ ∀ e ∈ d.value, e.Writable
  | .bad _ => False

theorem exists_fitsIn (s : Statement) : ∃ d, s.FitsIn d := by
  cases h : s.expr? with
  | none => exact ⟨0, by simp [FitsIn, h]⟩
  | some e => exact ⟨e.depth .sum, by simp [FitsIn, h]⟩

theorem Derives.fitsIn {d : Nat} {ts : List Token} {s : Statement} (h : Derives d ts s) :
    s.FitsIn d := by
  intro e he
  cases h with
  | expression hd _ =>
    cases he
    exact hd.depth_le
  | zero => cases he
  | value _ _ _ _ hd _ =>
    cases he
    exact hd.depth_le

theorem derives_tokens {d : Nat} {s : Statement} (hw : s.Writable) (h : s.FitsIn d) :
    Derives d s.tokens s := by
  cases s with
  | expression e => exact .expression (Expr.derives_tokens hw (h e rfl)) rfl
  | bad message => exact hw.elim
  | declaration decl =>
    obtain ⟨x, t, value⟩ := decl
    cases value with
    | none => exact .zero (x := ⟨.name, x⟩) (t := ⟨.name, t⟩) rfl rfl rfl rfl
    | some e =>
      have he := Expr.derives_tokens (hw.2.2 e rfl) (h e rfl)
      exact .value (v := .var) (x := ⟨.name, x⟩) (t := ⟨.name, t⟩) (q := .equal) rfl rfl rfl rfl
        he rfl

theorem Derives.writable {d : Nat} {ts : List Token} {s : Statement} (h : Derives d ts s)
    (hts : ∀ t ∈ ts, t.kind.Lexeme t.lexeme.toList) : s.Writable := by
  cases h with
  | expression he _ => exact he.writable fun t ht => hts t (by simp [ht])
  | @zero v x t _ _ hx ht _ =>
    exact ⟨x.isWord hx (hts x (by simp)), t.isWord ht (hts t (by simp)), nofun⟩
  | @value v x t _ _ _ e _ hx ht _ he _ =>
    refine ⟨x.isWord hx (hts x (by simp)), t.isWord ht (hts t (by simp)), fun e' he' => ?_⟩
    cases he'
    exact he.writable fun t ht => hts t (by simp [ht])

end Statement
end Reckon
