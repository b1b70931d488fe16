import Reckon.Proofs.Derivation
import Reckon.Proofs.Moving

/-! All that the parser does comes to an end, and every call on the way does its part. The calls of
some work lead from the window it begins with to the one it ends with, and what leads from one
window to the next can be put together; what bounds the work are the tokens that remain. -/

namespace Reckon.Window

/-- Whether the call is one of `cs`, or was made by one of them, or by one of those. -/
inductive Call.Within (c : Call) : List Call → Prop
  | mem {cs : List Call} : c ∈ cs → c.Within cs
  | inner {cs : List Call} {b : Call} : b ∈ cs → c.Within b.inner → c.Within cs

namespace Call.Within

variable {b c : Call} {cs ds : List Call}

theorem not_nil : ¬ c.Within [] := by
  rintro (h | ⟨h, -⟩) <;> cases h

theorem of_append (h : c.Within (cs ++ ds)) : c.Within cs ∨ c.Within ds := by
  cases h with
  | mem h => exact (List.mem_append.1 h).imp .mem .mem
  | inner hb h => exact (List.mem_append.1 hb).imp (.inner · h) (.inner · h)

theorem of_singleton (h : c.Within [b]) : c = b ∨ c.Within b.inner := by
  cases h with
  | mem h => exact .inl (List.mem_singleton.1 h)
  | inner hb h =>
    obtain rfl := List.mem_singleton.1 hb
    exact .inr h

end Call.Within

mutual

/-- How often the call moves on to the next token, by itself and by the calls it makes. -/
def Call.advances : Call → Nat
  | ⟨m, _, inner, _, _⟩ => (if m = .advance then 1 else 0) + advancesOf inner

def Call.advancesOf : List Call → Nat
  | [] => 0
  | c :: cs => c.advances + advancesOf cs

end

theorem Call.advancesOf_append (cs ds : List Call) :
    advancesOf (cs ++ ds) = advancesOf cs + advancesOf ds := by
  induction cs with
  | nil => rw [List.nil_append, advancesOf, Nat.zero_add]
  | cons c cs ih => rw [List.cons_append, advancesOf, advancesOf, ih, Nat.add_assoc]

/-- Whether a call of the method does not move on by itself and may be made at any depth. -/
def Method.isPlain : Method → Bool
  | .advance | .statement => false
  | _ => true

/-- What a call of the method does besides moving on. -/
def Call.Rule (c : Call) : Prop :=
  match c.method with
  | .expression p =>
    (∀ b ∈ c.inner, b.before.depth = c.before.depth + 1 ∧ b.after.depth = c.before.depth + 1) ∧
      ∃ o, c.before.expression p = some o ∧ o.after = c.after ∧ o.failure = c.failure
  | .unary | .binary | .group =>
    ∀ b ∈ c.inner, ∀ p, b.method = .expression p → b.before.remaining < c.before.remaining
  | .operatorPass | .recoverPass => c.after.remaining < c.before.remaining
  | _ => True

/-- What a call comes to, whether it fails or not. -/
structure Call.Sound (c : Call) : Prop where
  onward : c.before.Onward c.after
  moved (i : Nat) : c.after.upcoming i = c.before.upcoming (c.advances + i)
  depth : c.after.depth = c.before.depth
  rule : c.Rule

/-- Whether the calls lead from `w` to `v`, with every statement at depth `k`. -/
structure Leads (k : Nat) (w : Window) (cs : List Call) (v : Window) : Prop where
  onward : w.Onward v
  moved (i : Nat) : v.upcoming i = w.upcoming (Call.advancesOf cs + i)
  depth : v.depth = w.depth
  before (c : Call) : c.Within cs → w.Onward c.before ∧ c.before.depth ≤ max w.depth maxDepth
  statement (c : Call) : c.Within cs → c.method = .statement → c.before.depth = k
  sound (c : Call) : c.Within cs → c.Sound

namespace Leads

variable {k : Nat} {u v w : Window} {cs ds : List Call}

theorem nil (k : Nat) (w : Window) : Leads k w [] w where
  onward := .refl w
  moved i := by rw [Call.advancesOf, Nat.zero_add]
  depth := rfl
  before _ hc := hc.not_nil.elim
  statement _ hc := hc.not_nil.elim
  sound _ hc := hc.not_nil.elim

theorem append (h : Leads k w cs v) (h' : Leads k v ds u) : Leads k w (cs ++ ds) u where
  onward := h.onward.trans h'.onward
  moved i := by rw [h'.moved, h.moved, Call.advancesOf_append, Nat.add_assoc]
  depth := h'.depth.trans h.depth
  before c hc := by
    rcases hc.of_append with hc | hc
    · exact h.before c hc
    · have hb := h'.before c hc
      exact ⟨h.onward.trans hb.1, h.depth ▸ hb.2⟩
  statement c hc := hc.of_append.elim (h.statement c) (h'.statement c)
  sound c hc := hc.of_append.elim (h.sound c) (h'.sound c)

/-- A call that does all it does through the calls it makes. -/
theorem of_inner {m : Method} {f : Option Failure} (h : Leads k w cs v) (ha : m ≠ .advance)
    (hm : m = .statement → w.depth = k) (hr : Call.Rule ⟨m, w, cs, v, f⟩) :
    Leads k w [⟨m, w, cs, v, f⟩] v := by
  have hmoved (i : Nat) : v.upcoming i = w.upcoming (Call.advances ⟨m, w, cs, v, f⟩ + i) := by
    rw [h.moved, Call.advances, if_neg ha, Nat.zero_add]
  refine ⟨h.onward, hmoved, h.depth, fun c hc => ?_, fun c hc => ?_, fun c hc => ?_⟩
  · rcases hc.of_singleton with rfl | hc
    · exact ⟨.refl w, Nat.le_max_left _ _⟩
    · exact h.before c hc
  · rcases hc.of_singleton with rfl | hc
    · exact hm
    · exact h.statement c hc
  · rcases hc.of_singleton with rfl | hc
    · exact ⟨h.onward, hmoved, h.depth, hr⟩
    · exact h.sound c hc

theorem call {m : Method} {f : Option Failure} (h : Leads k w cs v) (hm : m.isPlain)
    (hr : Call.Rule ⟨m, w, cs, v, f⟩) : Leads k w [⟨m, w, cs, v, f⟩] v := by
  refine h.of_inner ?_ ?_ hr
  · rintro rfl
    cases hm
  · rintro rfl
    cases hm

theorem advance (k : Nat) (w : Window) : Leads k w w.advance.calls w.next := by
  have hmoved (i : Nat) : w.next.upcoming i = w.upcoming (1 + i) := by
    rw [upcoming_next, Nat.add_comm]
  refine ⟨(Onward.refl w).next, hmoved, rfl, fun c hc => ?_, fun c hc => ?_, fun c hc => ?_⟩ <;>
    obtain rfl := hc.of_singleton.resolve_right Call.Within.not_nil
  · exact ⟨.refl w, Nat.le_max_left _ _⟩
  · exact fun hm => Method.noConfusion hm
  · exact ⟨(Onward.refl w).next, hmoved, rfl, trivial⟩

/-- Work inside one more expression. -/
theorem leave {α : Type} {o : Work α} (h : Leads k w.enter o.calls o.after)
    (hd : w.depth < maxDepth) : Leads k w o.leave.calls o.leave.after where
  onward := (Onward.here (w.depth + 1)).trans (h.onward.at_depth _)
  moved := h.moved
  depth := by rw [Work.leave, h.depth]; rfl
  before c hc := by
    obtain ⟨ho, hc⟩ := h.before c hc
    refine ⟨(Onward.here (w.depth + 1)).trans ho, Nat.le_trans hc ?_⟩
    exact Nat.max_le.2 ⟨Nat.le_trans hd (Nat.le_max_right _ _), Nat.le_max_right _ _⟩
  statement := h.statement
  sound := h.sound

theorem bind {α β : Type} {o : Work α} {f : α → Window → Work β}
    (h : Leads k w o.calls o.after)
    (hf : ∀ a, Leads k o.after (f a o.after).calls (f a o.after).after) :
    Leads k w (o.bind f).calls (o.bind f).after := by
  unfold Work.bind
  split
  · exact h.append (hf _)
  · exact h

end Leads

/-- Whether the work ends and its calls lead on from `w`. -/
def Completes {α : Type} (k : Nat) (w : Window) (x : Option (Work α)) : Prop :=
  ∃ o, x = some o ∧ Leads k w o.calls o.after

section
variable {α β : Type} {k : Nat} {w : Window}

theorem completes_andThen {o : Work α} {f : α → Window → Option (Work β)}
    (h : Leads k w o.calls o.after) (hf : ∀ a, Completes k o.after (f a o.after)) :
    Completes k w (o.andThen f) := by
  unfold Work.andThen
  split
  · rename_i a _
    obtain ⟨o', ho, hl⟩ := hf a
    rw [ho]
    exact ⟨_, rfl, h.append hl⟩
  · exact ⟨_, rfl, h⟩

theorem leads_expect (k : Nat) (kind : Token.Kind) (w : Window) :
    Leads k w (w.expect kind).calls (w.expect kind).after := by
  refine Leads.call ?_ rfl trivial
  split
  · exact Leads.advance k w
  · exact .nil k w

theorem leads_require (k : Nat) (kind : Token.Kind) (fault : Fault) (w : Window) :
    Leads k w (w.require kind fault).calls (w.require kind fault).after := by
  refine (leads_expect k kind w).bind fun found => ?_
  split
  · exact .nil k _
  · exact .nil k _

theorem leads_identifier (k : Nat) (w : Window) :
    Leads k w w.identifier.calls w.identifier.after :=
  (Leads.nil k w).call rfl trivial

theorem leads_integer (k : Nat) (w : Window) : Leads k w w.integer.calls w.integer.after := by
  refine Leads.call ?_ rfl trivial
  split
  · exact .nil k w
  · exact .nil k w

/-- What is read after a first token has fewer tokens left. -/
theorem remaining_lt_of_leads {cs : List Call} {v : Window} (hw : w.current.kind ≠ .endMarker)
    (h : Leads k w.next cs v) :
    ∀ b ∈ w.advance.calls ++ cs, ∀ p, b.method = .expression p →
      b.before.remaining < w.remaining := by
  intro b hb p hm
  rcases List.mem_append.1 hb with hb | hb
  · rw [List.mem_singleton.1 hb] at hm
    cases hm
  · exact (h.before b (.mem hb)).1.remaining_lt hw

end

section
variable {k n : Nat} (hE : ∀ v : Window, v.remaining < n → ∀ p, Completes k v (v.expression p))
include hE

theorem unary_completes {w : Window} (hw : w.current.kind ≠ .endMarker) (hn : w.remaining ≤ n)
    (op : UnaryOp) : Completes k w (w.unary op) := by
  obtain ⟨o, ho, h⟩ := hE w.next (Nat.lt_of_lt_of_le (remaining_next_lt hw) hn) .unary
  rw [unary, ho]
  exact ⟨_, rfl, ((Leads.advance k w).append h).call rfl (remaining_lt_of_leads hw h)⟩

theorem group_completes {w : Window} (hw : w.current.kind ≠ .endMarker) (hn : w.remaining ≤ n) :
    Completes k w w.group := by
  obtain ⟨o, ho, h⟩ := hE w.next (Nat.lt_of_lt_of_le (remaining_next_lt hw) hn) .lowest
  have hr := h.bind (f := fun e v => (v.require .rightParen .missingRightParen).map fun _ => e)
    fun _ => leads_require k .rightParen .missingRightParen o.after
  rw [group, ho]
  exact ⟨_, rfl, ((Leads.advance k w).append hr).call rfl (remaining_lt_of_leads hw hr)⟩

theorem binary_completes {w : Window} (hw : w.current.kind ≠ .endMarker) (hn : w.remaining ≤ n)
    (op : BinaryOp) (left : Expr) :
    ∃ o, w.binary op left = some o ∧ Leads k w o.calls o.after ∧ w.next.Onward o.after := by
  obtain ⟨o, ho, h⟩ := hE w.next (Nat.lt_of_lt_of_le (remaining_next_lt hw) hn)
    (Priority.ofKind w.current.kind).weaker
  rw [binary, ho]
  exact ⟨_, rfl, ((Leads.advance k w).append h).call rfl (remaining_lt_of_leads hw h), h.onward⟩

theorem operator_completes {w : Window} {op : BinaryOp} (hw : w.reading.kind = op.kind)
    (hn : w.remaining ≤ n) (left : Expr) :
    ∃ o, w.operator op left = some o ∧ Leads k w o.calls o.after ∧
      o.after.remaining < w.remaining := by
  have hop : w.next.current.kind ≠ .endMarker := fun h => op.kind_ne rfl (hw.symm.trans h)
  obtain ⟨o, ho, h, ha⟩ := binary_completes hE hop
    (Nat.le_trans w.remaining_next_le hn) op left
  have hlt : o.after.remaining < w.remaining :=
    Nat.lt_of_lt_of_le (ha.remaining_lt hop) w.remaining_next_le
  rw [operator, ho]
  exact ⟨_, rfl, ((Leads.advance k w).append h).call rfl hlt, hlt⟩

/-- Every operator taken in leaves fewer tokens. -/
theorem operators_completes (priority : Priority) (left : Expr) (w : Window)
    (hn : w.remaining ≤ n) : Completes k w (w.operators priority left) := by
  induction hr : w.remaining using Nat.strongRecOn generalizing w left with
  | _ r ih =>
    rw [operators]
    split
    · exact ⟨_, rfl, .nil k w⟩
    · split
      · exact ⟨_, rfl, .nil k w⟩
      · rename_i op hop
        obtain ⟨o, ho, h, hlt⟩ :=
          operator_completes hE (BinaryOp.ofKind?_eq_some_iff.1 hop) hn left
        rw [ho, Option.bind_eq_bind, Option.bind_some]
        split
        · exact ⟨o, rfl, h⟩
        · rename_i e _
          obtain ⟨o', ho', h'⟩ :=
            ih _ (hr ▸ hlt) e o.after (Nat.le_trans (Nat.le_of_lt hlt) hn) rfl
          rw [ho']
          exact ⟨_, rfl, h.append h'⟩

theorem operand_completes (w : Window) (hn : w.remaining ≤ n) : Completes k w w.operand := by
  rw [operand]
  have hne {kind : Token.Kind} (h : w.current.kind = kind) (hk : kind ≠ .endMarker) :
      w.current.kind ≠ .endMarker := h ▸ hk
  split
  · rename_i h
    exact unary_completes hE (hne h (by decide)) hn _
  · rename_i h
    exact unary_completes hE (hne h (by decide)) hn _
  · rename_i h
    exact group_completes hE (hne h (by decide)) hn
  · exact ⟨_, rfl, leads_identifier k w⟩
  · exact ⟨_, rfl, leads_integer k w⟩
  · exact ⟨_, rfl, .nil k w⟩

theorem nested_completes (priority : Priority) (w : Window) (hn : w.remaining ≤ n) :
    ∃ o b, w.nested priority = some o ∧ Leads k w o.calls o.after ∧ o.calls = [b] ∧
      b.before = w ∧ b.after = o.after := by
  obtain ⟨o, ho, h⟩ := operand_completes hE w hn
  rw [nested, ho, Option.bind_eq_bind, Option.bind_some]
  split
  · exact ⟨_, _, rfl, h.call rfl trivial, rfl, rfl, rfl⟩
  · rename_i left _
    obtain ⟨o', ho', h'⟩ :=
      operators_completes hE priority left o.after (Nat.le_trans h.onward.remaining_le hn)
    rw [ho']
    exact ⟨_, _, rfl, (h.append h').call rfl trivial, rfl, rfl, rfl⟩

end

/-- The tokens that remain bound the work, however deep it goes. -/
theorem expression_completes (k : Nat) (priority : Priority) (w : Window) :
    Completes k w (w.expression priority) := by
  induction hr : w.remaining using Nat.strongRecOn generalizing w priority with
  | _ r ih =>
    have hE (v : Window) (hv : v.remaining < r) (p : Priority) : Completes k v (v.expression p) :=
      ih _ hv p v rfl
    by_cases hd : maxDepth ≤ w.depth
    · have heq : w.expression priority =
          some ((fail (.malformed .tooDeep) w).record (.expression priority) w) := by
        rw [expression, if_pos hd]
        rfl
      exact ⟨_, heq, (Leads.nil k w).call rfl ⟨List.forall_mem_nil _, _, heq, rfl, rfl⟩⟩
    · obtain ⟨o, b, ho, h, hb, hbefore, hafter⟩ :=
        nested_completes hE priority w.enter (Nat.le_of_eq hr)
      have heq : w.expression priority = some (o.leave.record (.expression priority) w) := by
        rw [expression, if_neg hd, ho]
        rfl
      have hinner : ∀ c ∈ o.leave.calls,
          c.before.depth = w.depth + 1 ∧ c.after.depth = w.depth + 1 := by
        intro c hc
        rw [Work.leave, hb, List.mem_singleton] at hc
        rw [hc, hbefore, hafter, h.depth]
        exact ⟨rfl, rfl⟩
      exact ⟨_, heq, (h.leave (Nat.lt_of_not_le hd)).call rfl ⟨hinner, _, heq, rfl, rfl⟩⟩

/-- As it is asked of the expressions with fewer than `n` tokens left. -/
theorem expressions_complete (k n : Nat) (v : Window) (_ : v.remaining < n) (p : Priority) :
    Completes k v (v.expression p) := expression_completes k p v

section
variable {k : Nat} {w : Window}

theorem value?_completes (k : Nat) (w : Window) : Completes k w w.value? := by
  refine completes_andThen (leads_expect k .equal w) fun found => ?_
  cases found with
  | false => exact ⟨_, rfl, .nil k _⟩
  | true =>
    obtain ⟨o, ho, h⟩ := expression_completes k .lowest (w.expect .equal).after.next
    rw [ho]
    exact ⟨_, rfl, (Leads.advance k _).append h⟩

theorem binding_completes (k : Nat) (w : Window) : Completes k w w.binding := by
  refine completes_andThen (leads_require k _ _ w) fun x => ?_
  refine completes_andThen (leads_require k _ _ _) fun t => ?_
  obtain ⟨o, ho, h⟩ := value?_completes k
    ((w.require .name .missingName).after.require .name .missingType).after
  rw [ho]
  exact ⟨_, rfl, h⟩

theorem declaration_completes (k : Nat) (w : Window) : Completes k w w.declaration := by
  obtain ⟨o, ho, h⟩ := binding_completes k w
  rw [declaration, ho]
  exact ⟨_, rfl, h.call rfl trivial⟩

theorem expressionStatement_completes (k : Nat) (w : Window) :
    Completes k w w.expressionStatement := by
  obtain ⟨o, ho, h⟩ := expression_completes k .lowest w
  rw [expressionStatement, ho]
  exact ⟨_, rfl, h.call rfl trivial⟩

theorem content_completes (k : Nat) (w : Window) : Completes k w w.content := by
  rw [content]
  split
  · obtain ⟨o, ho, h⟩ := declaration_completes k w
    rw [ho]
    exact ⟨_, rfl, h⟩
  · obtain ⟨o, ho, h⟩ := expressionStatement_completes k w
    rw [ho]
    exact ⟨_, rfl, h⟩

theorem skip_completes (k : Nat) {ts : List Token} (hw : At ts w) :
    ∃ o, w.skip = some o ∧ Leads k w o.calls o.after ∧ o.result = .ok () := by
  induction ts generalizing w with
  | nil =>
    rw [skip, if_pos (.inr (by rw [hw.reading]; rfl))]
    exact ⟨_, rfl, .nil k w, rfl⟩
  | cons t ts ih =>
    rw [skip]
    split
    · exact ⟨_, rfl, .nil k w, rfl⟩
    · have ht : w.current.kind ≠ .endMarker := by
        rw [hw.current]
        exact hw.kind t List.mem_cons_self
      obtain ⟨o, ho, h, hr⟩ := ih hw.next
      have hpass :=
        (Leads.advance k w).call (m := .recoverPass) (f := none) rfl (remaining_next_lt ht)
      rw [ho]
      exact ⟨_, rfl, hpass.append h, hr⟩

theorem recover_completes (k : Nat) {ts : List Token} (hw : At ts w) :
    ∃ o, w.recover = some o ∧ Leads k w o.calls o.after ∧ o.result = .ok () := by
  obtain ⟨o, ho, h, hr⟩ := skip_completes k hw
  rw [recover, ho]
  exact ⟨_, rfl, h.call rfl trivial, hr⟩

/-- Only a literal out of range is a failure of a statement. -/
theorem statement_completes {ts : List Token} (hw : At ts w) (hk : w.depth = k) :
    ∃ o, w.statement = some o ∧ Leads k w o.calls o.after ∧
      ∀ e, o.result = .error e → ∃ l, e = .literal l := by
  obtain ⟨p, hp, h⟩ := content_completes k w
  have hb := h.bind (f := fun s v => (v.require .semicolon .missingSemicolon).map fun _ => s)
    fun _ => leads_require k .semicolon .missingSemicolon p.after
  rw [statement, hp, Option.bind_eq_bind, Option.bind_some]
  generalize p.bind _ = o at hb
  obtain ⟨_, ha⟩ := hw.onward hb.onward
  dsimp only
  split
  · obtain ⟨o', ho', h', hr⟩ := recover_completes k ha
    rw [ho']
    refine ⟨_, rfl, (hb.append h').of_inner (by simp) (fun _ => hk) trivial, fun e he => ?_⟩
    change o'.result.map _ = .error e at he
    rw [hr] at he
    cases he
  · rename_i hm
    refine ⟨_, rfl, hb.of_inner (by simp) (fun _ => hk) trivial, fun e he => ?_⟩
    cases e with
    | malformed fault => exact (hm fault he).elim
    | literal l => exact ⟨l, rfl⟩

/-- A pass of the loop over the statements leaves fewer tokens, unless it fails. -/
theorem statementPass_completes {ts : List Token} (hw : At ts w) (hk : w.depth = k)
    (hc : w.current.kind ≠ .endMarker) :
    ∃ o, w.statementPass = some o ∧ Leads k w o.calls o.after ∧
      ((∃ l, o.result = .error (.literal l)) ∨ o.after.remaining < w.remaining) := by
  obtain ⟨o, ho, h, hr⟩ := statement_completes hw hk
  have hb := h.bind (f := fun s v => v.advance.map fun _ => s) fun _ => Leads.advance k o.after
  rw [statementPass, ho]
  refine ⟨_, rfl, hb.call rfl trivial, ?_⟩
  cases hres : o.result with
  | error e =>
    obtain ⟨l, rfl⟩ := hr e hres
    refine .inl ⟨l, ?_⟩
    rw [Work.record, Work.bind, hres]
  | ok s =>
    refine .inr ?_
    rw [Work.record, Work.bind, hres]
    exact h.onward.next_next.remaining_lt hc

theorem statements_completes {ts : List Token} (hw : At ts w) (hk : w.depth = k) :
    Completes k w w.statements := by
  induction hr : w.remaining using Nat.strongRecOn generalizing w ts with
  | _ r ih =>
    rw [statements]
    split
    · exact ⟨_, rfl, .nil k w⟩
    · rename_i hc
      obtain ⟨o, ho, h, hlt⟩ := statementPass_completes hw hk hc
      rw [ho, Option.bind_eq_bind, Option.bind_some]
      split
      · exact ⟨_, rfl, h.append (.nil k _)⟩
      · rename_i s hs
        obtain ⟨_, ha⟩ := hw.onward h.onward
        have hlt : o.after.remaining < r :=
          hr ▸ hlt.resolve_left (by simp [hs])
        obtain ⟨o', ho', h'⟩ := ih _ hlt ha (h.depth.trans hk) rfl
        rw [ho']
        exact ⟨_, rfl, h.append h'⟩

theorem program_completes {ts : List Token} (hw : At ts w) : Completes w.depth w w.program := by
  obtain ⟨o, ho, h⟩ := statements_completes hw rfl
  rw [program, ho]
  exact ⟨_, rfl, h.call rfl trivial⟩

end
end Reckon.Window
