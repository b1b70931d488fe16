import Reckon.Proofs.Acceptance
import Reckon.Proofs.Stuck

/-! What is reported for a segment that is no statement. The longest viable beginning of the segment
and the token after it decide, and nothing else does. -/

namespace Reckon

def opened (ts : List Token) : Nat := ts.countP (·.kind = .leftParen)

def closed (ts : List Token) : Nat := ts.countP (·.kind = .rightParen)

@[simp] theorem opened_nil : opened [] = 0 := rfl

@[simp] theorem closed_nil : closed [] = 0 := rfl

@[simp] theorem opened_cons (t : Token) (ts : List Token) :
    opened (t :: ts) = opened ts + if t.kind = .leftParen then 1 else 0 := by
  simp [opened, List.countP_cons]

@[simp] theorem closed_cons (t : Token) (ts : List Token) :
    closed (t :: ts) = closed ts + if t.kind = .rightParen then 1 else 0 := by
  simp [closed, List.countP_cons]

@[simp] theorem opened_append (ts us : List Token) :
    opened (ts ++ us) = opened ts + opened us := List.countP_append

@[simp] theorem closed_append (ts us : List Token) :
    closed (ts ++ us) = closed ts + closed us := List.countP_append

namespace Expr

theorem Derives.closed_eq_opened {d : Nat} {level : Level} {ts : List Token} {e : Expr}
    (h : Derives d level ts e) : closed ts = opened ts := by
  induction h with
  | number ht | name ht => simp [ht]
  | group hl hr _ ih => simp [hl, hr, ih]
  | @unary _ op _ _ _ ht _ ih =>
    have hl := op.kind_ne (k := .leftParen) rfl
    have hr := op.kind_ne (k := .rightParen) rfl
    simp [ht, hl, hr, ih]
  | @binary _ op _ _ _ _ _ _ _ ht _ _ ihl ihr =>
    have hl := op.kind_ne (k := .leftParen) rfl
    have hr := op.kind_ne (k := .rightParen) rfl
    simp [ht, hl, hr, ihl, ihr]
  | product _ ih => exact ih
  | sum _ ih => exact ih

theorem Expects.closed_lt_opened {d : Nat} {level : Level} {p : List Token}
    (h : Expects d level p .rightParen) : closed p < opened p := by
  generalize hw : Want.rightParen = w at h
  induction h with
  | depth | operand => cases hw
  | group hl _ ih => simpa [hl] using Nat.lt_succ_of_lt (ih hw)
  | close hl he => simp [hl, he.closed_eq_opened]
  | @unary _ op _ _ _ ht _ ih =>
    have hl := op.kind_ne (k := .leftParen) rfl
    have hr := op.kind_ne (k := .rightParen) rfl
    simpa [ht, hl, hr] using ih hw
  | @binary _ op _ _ _ _ _ _ _ ht he _ ih =>
    have hl := op.kind_ne (k := .leftParen) rfl
    have hr := op.kind_ne (k := .rightParen) rfl
    simpa [ht, hl, hr, he.closed_eq_opened] using ih hw
  | product _ ih => exact ih hw
  | sum _ ih => exact ih hw

theorem Derives.value_le {d : Nat} {level : Level} {ts : List Token} {e : Expr}
    (h : Derives d level ts e) :
    ∀ t ∈ ts, t.kind = .number → t.value ≤ 0x7fffffffffffffff := by
  induction h with
  | @number _ t n _ hn =>
    intro u hu _
    obtain rfl := List.mem_singleton.1 hu
    have := n.le_max
    omega
  | name ht => simp [ht]
  | group hl hr _ ih => simpa [hl, hr, or_imp, forall_and] using ih
  | @unary _ op _ _ _ ht _ ih => simpa [ht, op.kind_ne (k := .number) rfl] using ih
  | @binary _ op _ _ _ _ _ _ _ ht _ _ ihl ihr =>
    simpa [ht, op.kind_ne (k := .number) rfl, or_imp, forall_and] using ⟨ihl, ihr⟩
  | product _ ih => exact ih
  | sum _ ih => exact ih

end Expr

namespace Statement

theorem Derives.value_le {d : Nat} {ts : List Token} {s : Statement} (h : Derives d ts s) :
    ∀ t ∈ ts, t.kind = .number → t.value ≤ 0x7fffffffffffffff := by
  cases h with
  | expression he hs => simpa [hs, or_imp, forall_and] using he.value_le
  | zero hv hx ht hs => simp [hv, hx, ht, hs]
  | value hv hx ht hq he hs =>
    simpa [hv, hx, ht, hq, hs, or_imp, forall_and] using he.value_le

end Statement

/-- Whether an operand may come after `p`. -/
def OperandMayFollow (p : List Token) : Prop := Statement.Viable maxDepth (p ++ [.zero])

def Token.TooLarge (t : Token) : Prop := t.kind = .number ∧ 0x7fffffffffffffff < t.value

open Classical in
/-- What is missing between `p` and `t`. -/
noncomputable def complaint (p : List Token) (t : Token) : String :=
  if p.map Token.kind = [.var] then "failed to find identifier of variable"
  else if p.map Token.kind = [.var, .name] then "failed to find type name of variable"
  else if OperandMayFollow p then "failed to find expression: unexpected " ++ t.mention
  else if closed p < opened p then "failed to find rparen"
  else "failed to find semicolon"

open Classical in
/-- What a segment comes to that is stuck at `t` after `p`. -/
noncomputable def blame (p : List Token) (t : Token) : Except LiteralError Statement :=
  if t.TooLarge ∧ OperandMayFollow p then .error ⟨t.lexeme⟩
  else if ∃ d, Statement.Viable d (p ++ [t]) then .ok (.bad "expression nested too deeply")
  else .ok (.bad (complaint p t))

theorem Statement.Viable.not_tooLarge {d : Nat} {p : List Token} {t : Token}
    (h : Viable d (p ++ [t])) : ¬ t.TooLarge := by
  rintro ⟨hk, hv⟩
  obtain ⟨us, s, hs⟩ := h
  have := hs.value_le t (by simp) hk
  omega

theorem complaint_ne_tooDeep (p : List Token) (t : Token) :
    complaint p t ≠ "expression nested too deeply" := by
  have hu : "failed to find expression: unexpected " ++ t.mention ≠
      "expression nested too deeply" := by
    intro h
    have := congrArg (fun s : String => s.toList.head?) h
    simp at this
  unfold complaint
  split
  · decide
  split
  · decide
  split
  · exact hu
  split <;> decide

theorem blame_eq_error_iff {p : List Token} {t : Token} {e : LiteralError} :
    blame p t = .error e ↔ e = ⟨t.lexeme⟩ ∧ t.TooLarge ∧ OperandMayFollow p := by
  unfold blame
  split
  · rename_i h
    simp [h, eq_comm]
  · rename_i h
    split <;> simp [h]

theorem blame_eq_tooDeep_iff {p : List Token} {t : Token} :
    blame p t = .ok (.bad "expression nested too deeply") ↔
      ∃ d, Statement.Viable d (p ++ [t]) := by
  unfold blame
  split
  · rename_i h
    simp only [reduceCtorEq, false_iff]
    rintro ⟨d, hd⟩
    exact hd.not_tooLarge h.1
  split
  · rename_i hv
    exact iff_of_true rfl hv
  · rename_i hv
    simp [hv, complaint_ne_tooDeep]

theorem Expr.Expects.want_cases {d : Nat} {level : Level} {p : List Token} {w : Want}
    (h : Expects d level p w) : w = .depth ∨ w = .operand ∨ w = .rightParen := by
  induction h with
  | depth => exact .inl rfl
  | operand => exact .inr (.inl rfl)
  | close => exact .inr (.inr rfl)
  | group _ _ ih | unary _ _ ih | binary _ _ _ _ ih | product _ ih | sum _ ih => exact ih

namespace Statement

theorem Expects.of_var {d : Nat} {p : List Token} (h : p.map Token.kind = [.var]) :
    Expects d p .name := by
  obtain ⟨v, rfl, hv⟩ := List.map_eq_singleton_iff.1 h
  exact .name hv

theorem Expects.of_var_name {d : Nat} {p : List Token} (h : p.map Token.kind = [.var, .name]) :
    Expects d p .typeName := by
  obtain ⟨v, q, rfl, hv, hq⟩ := List.map_eq_cons_iff.1 h
  obtain ⟨x, rfl, hx⟩ := List.map_eq_singleton_iff.1 hq
  exact .typeName hv hx

theorem Expects.closed_lt_opened {d : Nat} {p : List Token} (h : Expects d p .rightParen) :
    closed p < opened p := by
  cases h with
  | inside _ he => exact he.closed_lt_opened
  | insideValue hv hx ht hq he => simpa [hv, hx, ht, hq] using he.closed_lt_opened

theorem Expects.closed_eq_opened {d : Nat} {p : List Token} {w : Want} (h : Expects d p w)
    (hw : w = .value ∨ w = .semicolon) : closed p = opened p := by
  cases h with
  | start | name | typeName => simp at hw
  | value hv hx ht => simp [hv, hx, ht]
  | inside _ he | insideValue _ _ _ _ he =>
    rcases he.want_cases with rfl | rfl | rfl <;> simp at hw
  | after he => exact he.closed_eq_opened
  | afterValue hv hx ht hq he => simpa [hv, hx, ht, hq] using he.closed_eq_opened

theorem Expects.kinds_of_name {d : Nat} {p : List Token} (h : Expects d p .name) :
    p.map Token.kind = [.var] := by
  cases h with
  | name hv => simp [hv]
  | inside _ he | insideValue _ _ _ _ he => simpa using he.want_cases

theorem Expects.kinds_of_typeName {d : Nat} {p : List Token} (h : Expects d p .typeName) :
    p.map Token.kind = [.var, .name] := by
  cases h with
  | typeName hv hx => simp [hv, hx]
  | inside _ he | insideValue _ _ _ _ he => simpa using he.want_cases

/-- Only at the beginning of a declaration may a name come that is no operand. -/
theorem Expects.kinds_ne {d : Nat} {p : List Token} {w : Want} (h : Expects (d + 1) p w)
    (hw : w ≠ .depth) (hk : w.sample.kind ≠ .name) :
    p.map Token.kind ≠ [.var] ∧ p.map Token.kind ≠ [.var, .name] :=
  ⟨fun hp => h.not_refuses_sample hw (.of_var hp (d := d)) (by decide) hk,
    fun hp => h.not_refuses_sample hw (.of_var_name hp (d := d)) (by decide) hk⟩

end Statement

theorem Token.tooLarge_of_not_startsOperand {t : Token} (hk : t.kind = .number)
    (h : ¬ t.StartsOperand) : t.TooLarge := by
  unfold StartsOperand at h
  simp only [hk] at h
  exact ⟨hk, Nat.lt_of_not_le h⟩

theorem Want.refuses_zero {w : Want} (hw : w.sample ≠ .zero) : w.Refuses .zero := by
  have hz : Level.sum.Ends .zero := Level.ends_of_kind rfl rfl
  cases w with
  | statement | operand | depth => exact absurd rfl hw
  | name | typeName => exact fun h => nomatch h
  | value => exact ⟨by decide, by decide⟩
  | rightParen | semicolon => exact ⟨by decide, hz⟩

section
variable {p : List Token} {t : Token} {w : Want} (h : Statement.Expects maxDepth p w)
include h

theorem operandMayFollow_iff (hw : w ≠ .depth) : OperandMayFollow p ↔ w.sample = .zero := by
  constructor
  · intro ho
    by_cases hs : w.sample = .zero
    · exact hs
    · exact absurd ho (h.not_viable hw (Want.refuses_zero hs))
  · intro hs
    rw [OperandMayFollow, ← hs]
    exact h.viable hw

theorem complaint_of_operand (hw : w = .statement ∨ w = .operand) :
    complaint p t = "failed to find expression: unexpected " ++ t.mention := by
  have hd : w ≠ .depth ∧ w.sample = .zero := by rcases hw with rfl | rfl <;> decide
  obtain ⟨h₁, h₂⟩ := h.kinds_ne hd.1 (by rw [hd.2]; decide)
  rw [complaint, if_neg h₁, if_neg h₂, if_pos ((operandMayFollow_iff h hd.1).2 hd.2)]

theorem complaint_of_rightParen (hw : w = .rightParen) :
    complaint p t = "failed to find rparen" := by
  subst hw
  obtain ⟨h₁, h₂⟩ := h.kinds_ne (by decide) (by decide)
  have ho : ¬ OperandMayFollow p := by rw [operandMayFollow_iff h (by decide)]; decide
  rw [complaint, if_neg h₁, if_neg h₂, if_neg ho, if_pos h.closed_lt_opened]

theorem complaint_of_semicolon (hw : w = .value ∨ w = .semicolon) :
    complaint p t = "failed to find semicolon" := by
  have hd : w ≠ .depth ∧ w.sample = .semicolon := by rcases hw with rfl | rfl <;> decide
  obtain ⟨h₁, h₂⟩ := h.kinds_ne hd.1 (by rw [hd.2]; decide)
  have ho : ¬ OperandMayFollow p := by rw [operandMayFollow_iff h hd.1, hd.2]; decide
  have hc : ¬ closed p < opened p := by rw [h.closed_eq_opened hw]; exact Nat.lt_irrefl _
  rw [complaint, if_neg h₁, if_neg h₂, if_neg ho, if_neg hc]

/-- Where an operand may come, it is the token that is at fault, and a number can only be too
large. -/
theorem blame_of_operand (hw : w = .statement ∨ w = .operand)
    (hv : ¬ ∃ d, Statement.Viable d (p ++ [t])) (ht : ¬ t.StartsOperand) :
    blame p t = (Want.operand.failure t).outcome := by
  have hd : w ≠ .depth ∧ w.sample = .zero := by rcases hw with rfl | rfl <;> decide
  have ho : OperandMayFollow p := (operandMayFollow_iff h hd.1).2 hd.2
  by_cases hk : t.kind = .number
  · rw [blame, if_pos ⟨t.tooLarge_of_not_startsOperand hk ht, ho⟩, Want.failure, if_pos hk]
    rfl
  · rw [blame, if_neg fun hl => hk hl.1.1, if_neg hv, complaint_of_operand h hw, Want.failure,
      if_neg hk]
    rfl

theorem blame_of_expects (hw : w ≠ .depth) (ht : w.Refuses t) :
    blame p t = (w.failure t).outcome := by
  have hv : ¬ ∃ d, Statement.Viable d (p ++ [t]) := fun ⟨_, hd⟩ => h.not_viable hw ht hd
  have hb (hs : w.sample ≠ .zero) : blame p t = .ok (.bad (complaint p t)) := by
    rw [blame, if_neg fun hl => hs ((operandMayFollow_iff h hw).1 hl.2), if_neg hv]
  cases w with
  | statement => exact blame_of_operand h (.inl rfl) hv ht.2
  | operand => exact blame_of_operand h (.inr rfl) hv ht
  | depth => exact absurd rfl hw
  | name =>
    rw [hb (by decide), complaint, if_pos h.kinds_of_name]
    rfl
  | typeName =>
    rw [hb (by decide), complaint, h.kinds_of_typeName]
    rfl
  | rightParen =>
    rw [hb (by decide), complaint_of_rightParen h rfl]
    rfl
  | value =>
    rw [hb (by decide), complaint_of_semicolon h (.inl rfl)]
    rfl
  | semicolon =>
    rw [hb (by decide), complaint_of_semicolon h (.inr rfl)]
    rfl

end

theorem blame_of_depth {p : List Token} {t : Token}
    (h : Statement.Expects maxDepth (p ++ [t]) .depth) :
    blame p t = .ok (.bad "expression nested too deeply") :=
  blame_eq_tooDeep_iff.2 ⟨_, h.viable_succ⟩

/-- What a segment that is no statement comes to. -/
theorem exists_stuckAt {seg rest : List Token} (h : Segment seg rest)
    (hs : ∀ s, ¬ Statement.Derives maxDepth seg s) :
    ∃ p t, StuckAt seg p t ∧ outcome (seg ++ rest) = blame p t := by
  rcases segment_cases h with ⟨s, hd⟩ | ⟨p, r, w, rfl, hp, hr⟩
  · exact absurd hd (hs s)
  by_cases hw : w = .depth
  · subst hw
    obtain ⟨q, t, rfl, hq⟩ := Statement.Expects.depth_cases (d := 255) hp
    have hn : ¬ Statement.Viable maxDepth (q ++ [t]) :=
      Statement.Expects.not_viable_of_depth (d := 255) hp
    rw [outcome_of_expects h hp hr]
    refine ⟨q, t, ?_, (blame_of_depth hp).symm⟩
    rw [List.append_assoc]
    exact .of_viable hq (by simpa using hn)
  · refine ⟨p, r.headD .endMarker, .of_expects hp hw hr, ?_⟩
    rw [outcome_of_expects h hp hr, blame_of_expects hp hw hr]

/-- A segment that is no statement is stuck somewhere, and where it is stuck decides what is
reported: a literal that fits no operand, missing depth, or what is missing there. The segments of
a source are all such segments, by `segment_of_segments`. -/
theorem outcome_of_stuckAt {seg rest : List Token} (h : Segment seg rest)
    (hs : ∀ s, ¬ Statement.Derives maxDepth seg s) :
    (∃ p t, StuckAt seg p t) ∧ ∀ p t, StuckAt seg p t →
      outcome (seg ++ rest) = blame p t ∧
      (∀ e, outcome (seg ++ rest) = .error e ↔
        e = ⟨t.lexeme⟩ ∧ t.TooLarge ∧ OperandMayFollow p) ∧
      (outcome (seg ++ rest) = .ok (.bad "expression nested too deeply") ↔
        ∃ d, Statement.Viable d (p ++ [t])) := by
  obtain ⟨p, t, hp, ho⟩ := exists_stuckAt h hs
  refine ⟨⟨p, t, hp⟩, fun q u hq => ?_⟩
  obtain ⟨rfl, rfl⟩ := hp.unique hq
  rw [ho]
  exact ⟨rfl, fun e => blame_eq_error_iff, blame_eq_tooDeep_iff⟩

theorem outcome_of_stuckAt_operand :
    Segment [.leftParen, ⟨.number, "1"⟩, ⟨.plus, "+"⟩, .semicolon] [⟨.number, "2"⟩] ∧
      StuckAt [.leftParen, ⟨.number, "1"⟩, ⟨.plus, "+"⟩, .semicolon]
        [.leftParen, ⟨.number, "1"⟩, ⟨.plus, "+"⟩] .semicolon ∧
      blame [.leftParen, ⟨.number, "1"⟩, ⟨.plus, "+"⟩] .semicolon =
        .ok (.bad "failed to find expression: unexpected ';'") := by
  have hseg : Segment [.leftParen, ⟨.number, "1"⟩, ⟨.plus, "+"⟩, .semicolon] [⟨.number, "2"⟩] :=
    ⟨by decide, by decide, .inr ⟨[.leftParen, ⟨.number, "1"⟩, ⟨.plus, "+"⟩], .semicolon, rfl, rfl⟩⟩
  have hone : Expr.Derives 255 .operand [⟨.number, "1"⟩] (.integer ⟨1, by decide, by decide⟩) :=
    .number rfl (by decide)
  have hsum : Expr.Expects 255 .sum [⟨.number, "1"⟩, ⟨.plus, "+"⟩] .operand :=
    .binary (rfl : BinaryOp.plus.level = .sum) rfl (.product hone) (.sum (.product .operand))
  have hp : Statement.Expects maxDepth [.leftParen, ⟨.number, "1"⟩, ⟨.plus, "+"⟩] .operand :=
    .inside (by decide) (.sum (.product (.group rfl hsum)))
  have hr : Want.operand.Refuses .semicolon := fun h => h
  have hs := StuckAt.of_expects (r := [.semicolon]) hp (by decide) hr
  have hd s : ¬ Statement.Derives maxDepth
      [.leftParen, ⟨.number, "1"⟩, ⟨.plus, "+"⟩, .semicolon] s :=
    Statement.Expects.not_derives (d := 255) (r := [.semicolon]) hp hr
  exact ⟨hseg, hs, ((outcome_of_stuckAt hseg hd).2 _ _ hs).1.symm.trans rfl⟩

end Reckon
