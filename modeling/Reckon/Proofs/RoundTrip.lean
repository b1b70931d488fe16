import Reckon.Proofs.Depth
import Reckon.Proofs.LeftmostError
import Reckon.Proofs.Provenance

/-! Reading back what is printed. The tokens of a printed program are those that were written, cut
into its statements, and each statement comes back unless no text at all can hold it. -/

namespace Reckon

theorem Spells.lexeme {cs : List Char} {ts : List Token} (h : Spells cs ts) :
    ∀ t ∈ ts, t.kind.Lexeme t.lexeme.toList := by
  induction h with
  | nil => exact List.forall_mem_nil _
  | cons _ hk _ _ ih => exact List.forall_mem_cons.2 ⟨hk, ih⟩

theorem Token.Kind.Lexeme.spells {t : Token} (h : t.kind.Lexeme t.lexeme.toList) :
    Spells t.lexeme.toList [t] := by
  have hn : Blank [] := List.forall_mem_nil _
  simpa using Spells.cons hn h (by simp) (.nil hn)

/-- Tokens may always be written with single spaces between them. -/
theorem spells_intercalate {ts : List Token} (h : ∀ t ∈ ts, t.kind.Lexeme t.lexeme.toList) :
    Spells (" ".intercalate (ts.map Token.lexeme)).toList ts := by
  have hn : Blank [] := List.forall_mem_nil _
  have hs : Blank [' '] := List.forall_mem_singleton.2 (by decide)
  induction ts with
  | nil => exact .nil hn
  | cons t ts ih =>
    obtain ⟨ht, hts⟩ := List.forall_mem_cons.1 h
    cases ts with
    | nil => simpa using ht.spells
    | cons u ts =>
      have hg : ∀ d, (' ' :: (" ".intercalate ((u :: ts).map Token.lexeme)).toList).head? = some d →
          ¬ t.kind.goesOn d := by
        intro d hd
        cases hd
        cases t.kind <;> decide
      rw [List.map_cons, List.map_cons, String.intercalate_cons_cons]
      simpa using Spells.cons hn ht hg ((ih hts).blank_append hs)

theorem Token.Kind.lexeme_toDigits (n : Nat) : number.Lexeme (Nat.toDigits 10 n) :=
  .number Nat.toDigits_ne_nil fun _ => Nat.isDigit_of_mem_toDigits (by decide) (by decide)

theorem UnaryOp.lexeme_token (op : UnaryOp) : op.token.kind.Lexeme op.token.lexeme.toList := by
  cases op <;> exact .symbol (by decide)

theorem BinaryOp.lexeme_token (op : BinaryOp) : op.token.kind.Lexeme op.token.lexeme.toList := by
  cases op <;> exact .symbol (by decide)

theorem lexeme_enclose {place level : Level} {ts : List Token}
    (h : ∀ t ∈ ts, t.kind.Lexeme t.lexeme.toList) :
    ∀ t ∈ enclose place level ts, t.kind.Lexeme t.lexeme.toList := by
  have hl : Token.leftParen.kind.Lexeme Token.leftParen.lexeme.toList := .symbol (by decide)
  have hr : Token.rightParen.kind.Lexeme Token.rightParen.lexeme.toList := .symbol (by decide)
  unfold enclose
  split
  · exact h
  · simpa [or_imp, forall_and] using ⟨hl, h, hr⟩

theorem Expr.lexeme_tokens {e : Expr} (hw : e.Writable) :
    ∀ t ∈ e.tokens, t.kind.Lexeme t.lexeme.toList := by
  induction e with
  | integer n =>
    have hd : Token.Kind.number.Lexeme n.text.toList := by
      rw [Integer.toList_text hw]
      exact Token.Kind.lexeme_toDigits _
    exact List.forall_mem_singleton.2 hd
  | identifier x => exact List.forall_mem_singleton.2 hw
  | unary op e ih => exact List.forall_mem_cons.2 ⟨op.lexeme_token, lexeme_enclose (ih hw)⟩
  | binary op l r ihl ihr =>
    rw [tokens, List.forall_mem_append, List.forall_mem_cons]
    exact ⟨lexeme_enclose (ihl hw.1), op.lexeme_token, lexeme_enclose (ihr hw.2)⟩

theorem Statement.lexeme_tokens {s : Statement} (hw : s.Writable) :
    ∀ t ∈ s.tokens, t.kind.Lexeme t.lexeme.toList := by
  have hs : Token.semicolon.kind.Lexeme Token.semicolon.lexeme.toList := .symbol (by decide)
  have hv : Token.var.kind.Lexeme Token.var.lexeme.toList := .var
  have hq : Token.equal.kind.Lexeme Token.equal.lexeme.toList := .symbol (by decide)
  cases s with
  | expression e =>
    rw [tokens, List.forall_mem_append, List.forall_mem_singleton]
    exact ⟨Expr.lexeme_tokens hw, hs⟩
  | bad message => exact hw.elim
  | declaration d =>
    obtain ⟨x, t, value⟩ := d
    obtain ⟨hx, ht, he⟩ := hw
    cases value with
    | none => simpa [tokens, Declaration.tokens] using ⟨hv, hx, ht, hs⟩
    | some e =>
      have he := Expr.lexeme_tokens (he e rfl)
      simpa [tokens, Declaration.tokens, or_imp, forall_and] using ⟨hv, hx, ht, hq, he, hs⟩

/-- The lexer takes the written tokens apart again. -/
theorem Program.tokens_source {p : Program} (hw : ∀ s ∈ p, s.Writable) :
    (Parser.ofString p.source).tokens = p.tokens := by
  refine spells_iff.1 (spells_intercalate fun t ht => ?_)
  obtain ⟨s, hs, ht⟩ := List.mem_flatMap.1 ht
  exact Statement.lexeme_tokens (hw s hs) t ht

/-- A statement is one segment, whatever follows it. -/
theorem Statement.Derives.segments_append {d : Nat} {ts : List Token} {s : Statement}
    (h : Derives d ts s) (us : List Token) : segments (ts ++ us) = ts :: segments us := by
  have hc {vs : List Token} {t : Token} (hv : ∀ u ∈ vs, u.kind ≠ .semicolon)
      (ht : t.kind = .semicolon) : segments (vs ++ [t] ++ us) = (vs ++ [t]) :: segments us := by
    induction vs with
    | nil => simp [segments, ht]
    | cons v vs ih =>
      obtain ⟨hv, hvs⟩ := List.forall_mem_cons.1 hv
      rw [List.cons_append, List.cons_append, segments, if_neg hv, ih hvs]
  cases h with
  | expression he ht => exact hc he.ne_semicolon ht
  | @zero v x t s hv hx ht hs =>
    have hp : ∀ u ∈ [v, x, t], u.kind ≠ .semicolon := by simp [hv, hx, ht]
    exact hc hp hs
  | @value v x t q s ts e hv hx ht hq he hs =>
    have hp : ∀ u ∈ v :: x :: t :: q :: ts, u.kind ≠ .semicolon := by
      simpa [hv, hx, ht, hq] using he.ne_semicolon
    exact hc hp hs

theorem Statement.Derives.segments_eq {d : Nat} {ts : List Token} {s : Statement}
    (h : Derives d ts s) : segments ts = [ts] := by
  simpa [segments] using h.segments_append []

theorem Program.segments_tokens {p : Program} (hw : ∀ s ∈ p, s.Writable) :
    segments p.tokens = p.map Statement.tokens := by
  induction p with
  | nil => rfl
  | cons s p ih =>
    obtain ⟨hs, hp⟩ := List.forall_mem_cons.1 hw
    obtain ⟨d, hd⟩ := s.exists_fitsIn
    rw [tokens, List.flatMap_cons, (Statement.derives_tokens hs hd).segments_append, List.map_cons,
      ← ih hp, tokens]

/-- The grammar reads the same statement at every depth that suffices. -/
theorem Statement.Derives.unique {c d : Nat} {ts : List Token} {s s' : Statement}
    (h : Derives c ts s) (h' : Derives d ts s') : s = s' := by
  obtain ⟨x, hx, rfl⟩ := Tree.derives_iff.1 (h.mono (Nat.le_max_left c d))
  obtain ⟨y, hy, rfl⟩ := Tree.derives_iff.1 (h'.mono (Nat.le_max_right c d))
  rw [Tree.unique x y (hx.trans hy.symm)]

/-- A segment that more depth would make a statement lacks nothing else. -/
theorem outcome_of_deeper {d : Nat} {seg : List Token} {s : Statement} (hseg : Segment seg [])
    (h : Statement.Derives d seg s) (hn : ∀ s', ¬ Statement.Derives maxDepth seg s') :
    outcome seg = .ok (.bad "expression nested too deeply") := by
  rcases segment_cases hseg with ⟨s', hs'⟩ | ⟨p, r, w, rfl, hp, hr⟩
  · exact absurd hs' (hn s')
  have hw : w = .depth := by
    by_contra hw
    have hp' : Statement.Expects (max d maxDepth + 1) p w := hp.mono (by omega) hw
    exact hp'.not_derives hr (h.mono (by omega))
  subst hw
  have ho := outcome_of_expects hseg hp hr
  rwa [List.append_nil] at ho

/-- What a printed statement is read as. -/
def Statement.reread (s : Statement) : Statement :=
  if s.FitsIn maxDepth then s else .bad "expression nested too deeply"

theorem Statement.outcome_tokens {s : Statement} (hw : s.Writable) :
    outcome s.tokens = .ok s.reread := by
  unfold reread
  by_cases h : s.FitsIn maxDepth
  · have ho := outcome_of_derives (derives_tokens hw h) []
    rwa [if_pos h, ← List.append_nil s.tokens]
  · obtain ⟨d, hd⟩ := s.exists_fitsIn
    have hs := derives_tokens hw hd
    have hseg : segments s.tokens = [] ++ [s.tokens] := hs.segments_eq
    rw [if_neg h]
    refine outcome_of_deeper (segment_of_segments hseg) hs fun s' hs' => h ?_
    rw [hs.unique hs']
    exact hs'.fitsIn

theorem parse_source_eq {p : Program} (hw : ∀ s ∈ p, s.Writable) :
    parse p.source = .ok (p.map Statement.reread) := by
  rw [parse_eq_mapM, Program.tokens_source hw, Program.segments_tokens hw]
  induction p with
  | nil => rfl
  | cons s p ih =>
    obtain ⟨hs, hp⟩ := List.forall_mem_cons.1 hw
    rw [List.map_cons, List.mapM_cons, Statement.outcome_tokens hs, ih hp]
    rfl

theorem derives_of_parse {source : String} {p : Program} (h : parse source = .ok p)
    {s : Statement} (hs : s ∈ p) (hb : s.isBad = false) :
    ∃ ts, Statement.Derives maxDepth ts s ∧ ∀ t ∈ ts, t.kind.Lexeme t.lexeme.toList := by
  obtain ⟨seg, hseg, ht, ho⟩ := exists_segment_of_parse h hs
  have hd : Statement.Derives maxDepth seg s :=
    (outcome_eq_iff_derives hseg).1 ⟨by rwa [List.append_nil], hb⟩
  exact ⟨seg, hd, fun t hm => (Lexer.spells_tokens (.ofString source)).lexeme t (ht t hm)⟩

/-- Some text has the statement. -/
def Statement.Readable (s : Statement) : Prop := ∃ source p, parse source = .ok p ∧ s ∈ p

theorem Statement.Writable.isBad {s : Statement} (hw : s.Writable) : s.isBad = false := by
  cases s with
  | expression e | declaration d => rfl
  | bad message => exact hw.elim

theorem Statement.readable_iff {s : Statement} (hw : s.Writable) :
    s.Readable ↔ s.FitsIn maxDepth := by
  constructor
  · rintro ⟨source, p, h, hs⟩
    obtain ⟨ts, hd, -⟩ := derives_of_parse h hs hw.isBad
    exact hd.fitsIn
  · intro h
    refine ⟨Program.source [s], [s], ?_, List.mem_singleton_self s⟩
    rw [parse_source_eq (List.forall_mem_singleton.2 hw), List.map_singleton, reread, if_pos h]

theorem parse_source_of_fitsIn {p : Program} (hw : ∀ s ∈ p, s.Writable)
    (h : ∀ s ∈ p, s.FitsIn maxDepth) : parse p.source = .ok p := by
  have hr : ∀ s ∈ p, s.reread = id s := fun s hs => if_pos (h s hs)
  rw [parse_source_eq hw, List.map_congr_left hr, List.map_id]

open Classical in
/-- A program that some text parses to is read back from its printed form, and so is any other with
proper names and numbers, except for what no text parses to. -/
theorem parse_source (p : Program) :
    (∀ source, parse source = .ok p → (∀ s ∈ p, s.isBad = false) → parse p.source = .ok p) ∧
      ((∀ s ∈ p, s.Writable) → parse p.source =
        .ok (p.map fun s => if s.Readable then s else .bad "expression nested too deeply")) := by
  constructor
  · intro source h hb
    have hd (s : Statement) (hs : s ∈ p) : s.Writable ∧ s.FitsIn maxDepth := by
      obtain ⟨ts, hd, ht⟩ := derives_of_parse h hs (hb s hs)
      exact ⟨hd.writable ht, hd.fitsIn⟩
    exact parse_source_of_fitsIn (fun s hs => (hd s hs).1) fun s hs => (hd s hs).2
  · intro hw
    rw [parse_source_eq hw]
    congr 1
    refine List.map_congr_left fun s hs => ?_
    simp only [Statement.reread, Statement.readable_iff (hw s hs)]

theorem parse_source_negated :
    parse "var x int = ((1)) + (2);" = .ok [.declaration ⟨"x", "int", some (.binary .plus
        (.integer ⟨1, by decide, by decide⟩) (.integer ⟨2, by decide, by decide⟩))⟩] ∧
      parse (Program.source [.declaration ⟨"x", "int", some (.binary .plus
          (.integer ⟨1, by decide, by decide⟩) (.integer ⟨2, by decide, by decide⟩))⟩]) =
        .ok [.declaration ⟨"x", "int", some (.binary .plus
          (.integer ⟨1, by decide, by decide⟩) (.integer ⟨2, by decide, by decide⟩))⟩] ∧
      (∀ s ∈ [Statement.expression ((Expr.unary .negative)^[256] (.integer 0))], s.Writable) ∧
      parse (Program.source [.expression ((Expr.unary .negative)^[256] (.integer 0))]) =
        .ok [.bad "expression nested too deeply"] := by
  have hs : segments (Parser.ofString "var x int = ((1)) + (2);").tokens =
      [[.var, ⟨.name, "x"⟩, ⟨.name, "int"⟩, .equal, .leftParen, .leftParen, ⟨.number, "1"⟩,
        .rightParen, .rightParen, ⟨.plus, "+"⟩, .leftParen, ⟨.number, "2"⟩, .rightParen,
        .semicolon]] := by decide +kernel
  have hp : parse "var x int = ((1)) + (2);" = .ok [.declaration ⟨"x", "int", some (.binary .plus
      (.integer ⟨1, by decide, by decide⟩) (.integer ⟨2, by decide, by decide⟩))⟩] := by
    rw [parse_eq_mapM, hs]
    rfl
  have hw (n : Nat) : ((Expr.unary .negative)^[n] (.integer 0)).Writable := by
    induction n with
    | zero => exact Int.le_refl 0
    | succ n ih => rwa [Function.iterate_succ_apply']
  have hw : ∀ s ∈ [Statement.expression ((Expr.unary .negative)^[256] (.integer 0))],
      s.Writable := List.forall_mem_singleton.2 (hw 256)
  have hf : ¬ (Statement.expression ((Expr.unary .negative)^[256] (.integer 0))).FitsIn
      maxDepth := by decide +kernel
  have hr := mt (Statement.readable_iff (List.forall_mem_singleton.1 hw)).1 hf
  refine ⟨hp, (parse_source _).1 _ hp (by decide), hw, ?_⟩
  rw [(parse_source _).2 hw, List.map_singleton, if_neg hr]

end Reckon
