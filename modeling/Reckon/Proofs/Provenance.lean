import Reckon.Expr.Names
import Reckon.Proofs.Resumption

/-! Where the texts in a program come from. Its names are names in the source, the message of a bad
statement mentions no other tokens than those of the source, and a literal out of range is a number
in it. -/

namespace Reckon

/-- The names among the tokens. -/
def Token.names (ts : List Token) : List Name :=
  (ts.filter (·.kind = .name)).map Token.lexeme

namespace Token

@[simp] theorem names_nil : names [] = [] := rfl

@[simp] theorem names_cons (t : Token) (ts : List Token) :
    names (t :: ts) = if t.kind = .name then t.lexeme :: names ts else names ts := by
  by_cases h : t.kind = .name <;> simp [names, h]

@[simp] theorem names_append (ts us : List Token) : names (ts ++ us) = names ts ++ names us := by
  simp [names]

theorem exists_mem_of_mem_names {ts : List Token} {x : Name} (h : x ∈ names ts) :
    ∃ t ∈ ts, t.kind = .name ∧ t.lexeme = x := by
  obtain ⟨t, ht, rfl⟩ := List.mem_map.1 h
  exact ⟨t, (List.mem_filter.1 ht).1, of_decide_eq_true (List.mem_filter.1 ht).2, rfl⟩

end Token

theorem Expr.Derives.names_eq {d : Nat} {level : Level} {ts : List Token} {e : Expr}
    (h : Derives d level ts e) : e.names = Token.names ts := by
  induction h with
  | number hk | name hk => simp [names, hk]
  | group hl hr _ ih => simp [hl, hr, ih]
  | @unary _ op _ _ _ hk _ ih => simp [names, hk, op.kind_ne (k := .name) rfl, ih]
  | @binary _ op _ _ _ _ _ _ _ hk _ _ ihl ihr =>
    simp [names, hk, op.kind_ne (k := .name) rfl, ihl, ihr]
  | product _ ih => exact ih
  | sum _ ih => exact ih

theorem Statement.Derives.names_eq {d : Nat} {ts : List Token} {s : Statement}
    (h : Derives d ts s) : s.names = Token.names ts := by
  cases h with
  | expression he hs => simp [names, hs, he.names_eq]
  | zero hv hx ht hs => simp [names, Declaration.names, hv, hx, ht, hs]
  | value hv hx ht hq he hs =>
    simp [names, Declaration.names, hv, hx, ht, hq, hs, he.names_eq]

/-- The token a fault mentions is the one that was refused. -/
theorem Want.eq_of_failure_eq_unexpected {w : Want} {t u : Token}
    (h : w.failure t = .malformed (.unexpected u)) : u = t := by
  cases w with
  | statement | operand =>
    simp only [failure] at h
    split at h <;> cases h
    rfl
  | name | typeName | value | rightParen | semicolon | depth => cases h

theorem mem_or_eq_of_headD (ts : List Token) :
    ts.headD .endMarker ∈ ts ∨ ts.headD .endMarker = .endMarker := by
  cases ts with
  | nil => exact .inr rfl
  | cons t ts => exact .inl List.mem_cons_self

/-- What a segment reads as when it does not end the parse. -/
theorem derives_or_fault_of_outcome {seg : List Token} {s : Statement} (h : Segment seg [])
    (ho : outcome seg = .ok s) :
    Statement.Derives maxDepth seg s ∨
      ∃ fault : Fault, s = .bad fault.message ∧
        ∀ t, fault = .unexpected t → t ∈ seg ∨ t = .endMarker := by
  rcases segment_cases h with ⟨s', hs⟩ | ⟨p, r, w, rfl, hp, hr⟩
  · have hs' := outcome_of_derives hs []
    rw [List.append_nil, ho] at hs'
    cases hs'
    exact .inl hs
  · have hs := outcome_of_expects h hp hr
    rw [List.append_nil, ho] at hs
    cases hf : w.failure (r.headD .endMarker) with
    | literal e => rw [hf] at hs; cases hs
    | malformed fault =>
      rw [hf] at hs
      cases hs
      refine .inr ⟨fault, rfl, fun t ht => ?_⟩
      subst ht
      rw [Want.eq_of_failure_eq_unexpected hf]
      exact (mem_or_eq_of_headD r).imp_left (List.mem_append_right p)

theorem exists_segment_of_parse {source : String} {p : Program} (h : parse source = .ok p)
    {s : Statement} (hs : s ∈ p) :
    ∃ seg, Segment seg [] ∧ (∀ t ∈ seg, t ∈ (Parser.ofString source).tokens) ∧
      outcome seg = .ok s := by
  rw [parse_eq_mapM] at h
  obtain ⟨seg, hseg, ho⟩ := exists_mem_of_mapM_eq_ok h hs
  obtain ⟨before, after, hb⟩ := List.append_of_mem hseg
  refine ⟨seg, (segment_of_segments hb).alone, fun t ht => ?_, ho⟩
  rw [← flatten_segments (Parser.ofString source).tokens]
  exact List.mem_flatten_of_mem hseg ht

theorem exists_token_of_parse_error {source : String} {e : LiteralError}
    (h : parse source = .error e) : e.token ∈ (Parser.ofString source).tokens := by
  unfold parse at h
  rcases Parser.program_cases (Parser.ofString source).tokens with
    ⟨p, hp⟩ | ⟨before, e', after, hts, -, -, he⟩
  · have hp : (Parser.ofString source).program = .ok p ⟨[], 0⟩ := hp
    rw [hp] at h
    cases h
  · have he : (Parser.ofString source).program = .error e' ⟨e'.token :: after, 0⟩ := he
    rw [he] at h
    cases h
    rw [hts]
    simp

end Reckon
