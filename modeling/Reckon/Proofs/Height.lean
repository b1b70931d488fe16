import Reckon.Expr.Exact
import Reckon.Proofs.RoundTrip

/-! How deep evaluating goes. Each expression inside another uses up parsing depth, though not one
for each node: a product and the sum it is the left operand of are read at one depth. So what parses
at depth 256 is at most 512 high, and some of it is. -/

namespace Reckon
namespace Expr

/-- As `eval`, with room for `room` evaluations one inside the other. Both operands are evaluated,
whatever the left one comes to. -/
def evalWithin (env : Environment) : Nat → Expr → Option Answer
  | 0, _ => none
  | _ + 1, .integer n => some (.ok (.integer n))
  | _ + 1, .identifier x => some ((env.get? x).getD (.error (.undefined x)))
  | room + 1, .unary op e => do
    let a ← e.evalWithin env room
    return a >>= op.apply
  | room + 1, .binary op l r => do
    let a ← l.evalWithin env room
    let b ← r.evalWithin env room
    return do op.apply (← a) (← b)

/-- Evaluations stand as deep inside each other as the expression is high. -/
theorem evalWithin_eq (env : Environment) (room : Nat) (e : Expr) :
    e.evalWithin env room = if e.height ≤ room then some (e.eval env) else none := by
  induction e generalizing room with
  | integer n | identifier x =>
    cases room with
    | zero => rfl
    | succ room => simp [evalWithin, height, eval]
  | unary op e ih =>
    cases room with
    | zero => rfl
    | succ room =>
      rw [evalWithin, ih]
      by_cases he : e.height ≤ room <;> simp [height, eval, he]
  | binary op l r ihl ihr =>
    cases room with
    | zero => rfl
    | succ room =>
      have hm : (binary op l r).height ≤ room + 1 ↔ l.height ≤ room ∧ r.height ≤ room := by
        rw [height, Nat.add_le_add_iff_right, Nat.max_le]
      rw [evalWithin, ihl, ihr]
      by_cases hl : l.height ≤ room <;> by_cases hr : r.height ≤ room <;>
        simp [hm, eval, hl, hr]

theorem depth_pos (e : Expr) (place : Level) : 0 < e.depth place := by
  cases e with
  | integer n | identifier x => exact Nat.one_pos
  | unary op e => exact Nat.succ_pos _
  | binary op l r =>
    simp only [depth]
    split <;> omega

/-- A looser level has room for one more node in the same depth. -/
theorem height_le_depth (e : Expr) (place : Level) :
    e.height = 1 ∨ e.height + 2 ≤ 2 * e.depth place + place.rank := by
  induction e generalizing place with
  | integer n | identifier x => exact .inl rfl
  | unary op e ih =>
    have hp := e.depth_pos .operand
    have he := ih .operand
    simp only [height, depth, Level.rank] at he ⊢
    omega
  | binary op l r ihl ihr =>
    have hl := ihl op.level.tighter
    have hr := ihr op.level
    have hlp := l.depth_pos op.level.tighter
    have hrp := r.depth_pos op.level
    have ht : op.level.tighter.rank + 1 = op.level.rank := by cases op <;> rfl
    have hle : op.level.rank ≤ 2 := by cases op <;> decide
    simp only [height, depth]
    split
    · rename_i hop
      have hop : op.level.rank ≤ place.rank := hop
      omega
    · omega

theorem height_le_of_mem_postorder {u e : Expr} (h : u ∈ e.postorder) : u.height ≤ e.height := by
  induction e with
  | integer n | identifier x =>
    rw [List.mem_singleton.1 h]
  | unary op e ih =>
    rcases List.mem_append.1 h with h | h
    · exact Nat.le_succ_of_le (ih h)
    · rw [List.mem_singleton.1 h]
  | binary op l r ihl ihr =>
    rcases List.mem_append.1 h with h | h
    · rcases List.mem_append.1 h with h | h
      · exact Nat.le_succ_of_le (Nat.le_trans (ihl h) (Nat.le_max_left _ _))
      · exact Nat.le_succ_of_le (Nat.le_trans (ihr h) (Nat.le_max_right _ _))
    · rw [List.mem_singleton.1 h]

/-- Two more nodes above `e`, which stands in parentheses there. -/
def storey (e : Expr) : Expr := .binary .plus (.binary .times e (.integer 0)) (.integer 0)

/-- As high as the depth allows when it is built of storeys. -/
def tower (n : Nat) : Expr := storey^[n] (.unary .negative (.integer 0))

theorem tower_succ (n : Nat) : tower (n + 1) = storey (tower n) := Function.iterate_succ_apply' ..

theorem height_tower (n : Nat) : (tower n).height = 2 * n + 2 := by
  induction n with
  | zero => rfl
  | succ n ih =>
    simp only [tower_succ, storey, height, ih]
    omega

theorem depth_tower (n : Nat) : (tower n).depth .operand = n + 2 := by
  induction n with
  | zero => rfl
  | succ n ih =>
    have hp : ¬ Level.sum ≤ .operand := by decide
    have ht : Level.product ≤ .product := by decide
    simp [tower_succ, storey, depth, BinaryOp.level, Level.tighter, ih, hp, ht]

theorem writable_tower (n : Nat) : (tower n).Writable := by
  induction n with
  | zero => exact Int.le_refl 0
  | succ n ih =>
    rw [tower_succ]
    exact ⟨⟨ih, Int.le_refl 0⟩, Int.le_refl 0⟩

/-- At the top of a statement no parentheses stand around the tower. -/
theorem depth_tower_sum (n : Nat) : (tower (n + 1)).depth .sum = n + 2 := by
  have ht : Level.product ≤ .product := by decide
  have hs : Level.sum ≤ .sum := by decide
  simp [tower_succ, storey, depth, BinaryOp.level, Level.tighter, depth_tower, ht, hs]

end Expr

theorem height_le_of_mem {source : String} {p : Program} (h : parse source = .ok p)
    {s : Statement} (hs : s ∈ p) {e : Expr} (he : e ∈ s.expr?) : e.height ≤ 2 * maxDepth := by
  have hb : s.isBad = false := by
    cases s with
    | expression e | declaration d => rfl
    | bad message => cases he
  obtain ⟨ts, hd, -⟩ := derives_of_parse h hs hb
  have hm : e.depth .sum ≤ maxDepth := hd.fitsIn e he
  have hr : Level.sum.rank = 2 := rfl
  have hp := e.depth_pos .sum
  have := e.height_le_depth .sum
  omega

/-- Whatever parses is evaluated without going deeper than 512, and that much is needed for some of
it. -/
theorem height_bound :
    (∀ source p, parse source = .ok p → ∀ s ∈ p, ∀ e ∈ s.expr?,
      (∀ u ∈ e.postorder, u.height ≤ 512) ∧
        ∀ env, e.evalWithin env 512 = some (e.eval env)) ∧
    ∃ source p, parse source = .ok p ∧ (∀ s ∈ p, s.isBad = false) ∧
      ∃ s ∈ p, ∃ e ∈ s.expr?, e.height = 512 ∧ ∀ env, e.evalWithin env 511 = none := by
  constructor
  · intro source p h s hs e he
    have hh : e.height ≤ 512 := height_le_of_mem h hs he
    refine ⟨fun u hu => Nat.le_trans (Expr.height_le_of_mem_postorder hu) hh, fun env => ?_⟩
    rw [Expr.evalWithin_eq, if_pos hh]
  · have hw := Expr.writable_tower 255
    have hf : (Statement.expression (Expr.tower 255)).FitsIn maxDepth := by
      intro e he
      cases he
      exact Nat.le_of_eq (Expr.depth_tower_sum 254)
    have hh : (Expr.tower 255).height = 512 := Expr.height_tower 255
    refine ⟨_, [.expression (Expr.tower 255)], parse_source_of_fitsIn ?_ ?_, ?_,
      _, List.mem_singleton_self _, _, rfl, hh, fun env => ?_⟩
    · exact List.forall_mem_singleton.2 hw
    · exact List.forall_mem_singleton.2 hf
    · exact List.forall_mem_singleton.2 rfl
    · rw [Expr.evalWithin_eq, hh]
      rfl

theorem height_bound_product :
    parse "-a * (b);" = .ok [.expression
        (.binary .times (.unary .negative (.identifier "a")) (.identifier "b"))] ∧
      (∀ u ∈ (Expr.binary .times (.unary .negative (.identifier "a"))
        (.identifier "b")).postorder, u.height ≤ 512) ∧
      ∀ env, (Expr.binary .times (.unary .negative (.identifier "a"))
          (.identifier "b")).evalWithin env 512 =
        some ((Expr.binary .times (.unary .negative (.identifier "a"))
          (.identifier "b")).eval env) := by
  have hs : segments (Parser.ofString "-a * (b);").tokens =
      [[⟨.minus, "-"⟩, ⟨.name, "a"⟩, ⟨.star, "*"⟩, .leftParen, ⟨.name, "b"⟩, .rightParen,
        .semicolon]] := by decide +kernel
  have hp : parse "-a * (b);" = .ok [.expression
      (.binary .times (.unary .negative (.identifier "a")) (.identifier "b"))] := by
    rw [parse_eq_mapM, hs]
    rfl
  exact ⟨hp, height_bound.1 _ _ hp _ (List.mem_singleton_self _) _ rfl⟩

end Reckon
