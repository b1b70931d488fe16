import Mathlib.Data.List.TakeWhile
import Reckon.Token.Lexer
import Reckon.Token.Spelling

/-! The lexer reads exactly what `Spells` relates to a text. A text spells one list of tokens and
no other, and a semicolon between two texts keeps their tokens apart. -/

namespace Reckon

namespace Token.Kind

/-- The lexer takes just the characters of the table for symbols. -/
theorem ofSymbol?_eq_some_iff {c : Char} {k : Kind} :
    ofSymbol? c = some k ↔ (c, k) ∈ symbols := by
  constructor
  · intro h
    unfold ofSymbol? at h
    split at h <;> cases h <;> decide
  · have hs : ∀ e ∈ symbols, ofSymbol? e.1 = some e.2 := by decide
    exact hs (c, k)

theorem ofSymbol?_eq_none_iff {c : Char} : ofSymbol? c = none ↔ ∀ k, (c, k) ∉ symbols := by
  simp only [Option.eq_none_iff_forall_ne_some, ne_eq, ofSymbol?_eq_some_iff]

theorem ofSymbol?_eq_none {c : Char} (h : c.isAlphanum) : ofSymbol? c = none := by
  have hs : ∀ e ∈ symbols, ¬ e.1.isAlphanum := by decide
  rw [ofSymbol?_eq_none_iff]
  intro k hk
  exact hs (c, k) hk h

theorem not_isWhitespace_of_symbol {c : Char} {k : Kind} (h : (c, k) ∈ symbols) :
    ¬ c.isWhitespace := by
  have hs : ∀ e ∈ symbols, ¬ e.1.isWhitespace := by decide
  exact hs (c, k) h

theorem not_isWhitespace_of_isAlphanum {c : Char} (h : c.isAlphanum) : ¬ c.isWhitespace := by
  intro hw
  simp only [Char.isWhitespace, Bool.or_eq_true, decide_eq_true_eq] at hw
  rcases hw with ((rfl | rfl) | rfl) | rfl <;> exact absurd h (by decide)

theorem not_isDigit_of_isAlpha {c : Char} (h : c.isAlpha) : ¬ c.isDigit := by
  intro hd
  have hl : c.isUpper ∨ c.isLower := Bool.or_eq_true_iff.1 h
  rw [Char.isDigit_iff_toNat] at hd
  have hge : 'A'.toNat ≤ c.toNat := by
    rcases hl with hu | hl
    · exact (of_decide_eq_true hu).1
    · exact Nat.le_trans (by decide) (of_decide_eq_true (Bool.and_eq_true_iff.1 hl).1)
  exact absurd (Nat.le_trans hge hd.2) (by decide)

theorem isAlphanum_of_isAlpha {c : Char} (h : c.isAlpha) : c.isAlphanum :=
  Bool.or_eq_true_iff.2 (.inl h)

theorem isAlphanum_of_isDigit {c : Char} (h : c.isDigit) : c.isAlphanum :=
  Bool.or_eq_true_iff.2 (.inr h)

theorem not_isWhitespace_of_goesOn {k : Kind} {d : Char} (h : k.goesOn d) :
    ¬ d.isWhitespace := by
  unfold goesOn at h
  split at h
  · exact not_isWhitespace_of_isAlphanum (isAlphanum_of_isDigit h)
  · exact not_isWhitespace_of_isAlphanum h
  · exact not_isWhitespace_of_isAlphanum h
  · exact not_isWhitespace_of_isAlphanum h
  · cases h

theorem ofChars_symbol {c : Char} {k : Kind} (h : (c, k) ∈ symbols) (cs : List Char) :
    ofChars c cs = k := by
  rw [ofChars, ofSymbol?_eq_some_iff.2 h]

theorem ofChars_number {c : Char} (h : c.isDigit) (cs : List Char) : ofChars c cs = .number := by
  rw [ofChars, ofSymbol?_eq_none (isAlphanum_of_isDigit h)]
  simp [h]

theorem ofChars_unknown {c : Char} (hs : ofSymbol? c = none) (ha : ¬ c.isAlphanum)
    (cs : List Char) : ofChars c cs = .unknown := by
  simp only [Char.isAlphanum, Bool.or_eq_true, not_or] at ha
  rw [ofChars, hs]
  simp [ha.1, ha.2]

theorem ofChars_word {c : Char} (h : c.isAlpha) (cs : List Char) :
    ofChars c cs = if c :: cs = ['v', 'a', 'r'] then .var else .name := by
  rw [ofChars, ofSymbol?_eq_none (isAlphanum_of_isAlpha h)]
  simp [not_isDigit_of_isAlpha h, h]

end Token.Kind

namespace Lexer

theorem joins_symbol {c : Char} {k : Token.Kind} (h : (c, k) ∈ Token.Kind.symbols) (d : Char) :
    joins c d = false := by
  simp [joins, Token.Kind.ofSymbol?_eq_some_iff.2 h]

theorem joins_eq {c : Char} (h : Token.Kind.ofSymbol? c = none) (d : Char) :
    joins c d = if c.isDigit then d.isDigit else d.isAlphanum := by
  simp [joins, h]

end Lexer

namespace Token.Kind

theorem not_lexeme_nil {k : Kind} : ¬ k.Lexeme [] := by
  intro h
  cases h with
  | number h => exact h rfl

theorem Lexeme.cons {k : Kind} {c : Char} {cs : List Char} (h : k.Lexeme (c :: cs)) :
    ¬ c.isWhitespace ∧ (∀ d ∈ cs, Lexer.joins c d) ∧ k = ofChars c cs := by
  cases h with
  | symbol h =>
    exact ⟨not_isWhitespace_of_symbol h, by simp, (ofChars_symbol h _).symm⟩
  | number _ h =>
    have hc : c.isDigit := h c (by simp)
    have ha := isAlphanum_of_isDigit hc
    refine ⟨not_isWhitespace_of_isAlphanum ha, fun d hd => ?_, (ofChars_number hc _).symm⟩
    rw [Lexer.joins_eq (ofSymbol?_eq_none ha), if_pos hc]
    exact h d (List.mem_cons_of_mem _ hd)
  | var =>
    refine ⟨by decide, List.forall_mem_cons.2 ⟨by decide, ?_⟩, by decide⟩
    exact List.forall_mem_cons.2 ⟨by decide, List.forall_mem_nil _⟩
  | name hc h hv =>
    have ha := isAlphanum_of_isAlpha hc
    refine ⟨not_isWhitespace_of_isAlphanum ha, fun d hd => ?_, ?_⟩
    · rw [Lexer.joins_eq (ofSymbol?_eq_none ha), if_neg (not_isDigit_of_isAlpha hc)]
      exact h d hd
    · rw [ofChars_word hc, if_neg hv]
  | unknown hw hs ha h =>
    rw [← ofSymbol?_eq_none_iff] at hs
    refine ⟨hw, fun d hd => ?_, (ofChars_unknown hs ha _).symm⟩
    have hc : ¬ c.isDigit := fun hc => ha (isAlphanum_of_isDigit hc)
    rw [Lexer.joins_eq hs, if_neg hc]
    exact h d hd

theorem lexeme_ofChars {c : Char} {cs : List Char} (hw : ¬ c.isWhitespace)
    (h : ∀ d ∈ cs, Lexer.joins c d) : (ofChars c cs).Lexeme (c :: cs) := by
  cases hs : ofSymbol? c with
  | some k =>
    rw [ofSymbol?_eq_some_iff] at hs
    have : cs = [] := List.eq_nil_iff_forall_not_mem.2 fun d hd => by
      have := h d hd
      rw [Lexer.joins_symbol hs] at this
      cases this
    subst this
    rw [ofChars_symbol hs]
    exact .symbol hs
  | none =>
    simp only [Lexer.joins_eq hs] at h
    by_cases hc : c.isDigit
    · simp only [hc, if_true] at h
      rw [ofChars_number hc]
      refine .number (by simp) fun d hd => ?_
      rcases List.mem_cons.1 hd with rfl | hd
      · exact hc
      · exact h d hd
    · simp only [hc, if_false, Bool.false_eq_true] at h
      by_cases ha : c.isAlpha
      · rw [ofChars_word ha]
        split
        · rename_i hv
          rw [hv]
          exact .var
        · rename_i hv
          exact .name ha h hv
      · have : ¬ c.isAlphanum := by simp [Char.isAlphanum, ha, hc]
        rw [ofChars_unknown hs this]
        exact .unknown hw (ofSymbol?_eq_none_iff.1 hs) this h

/-- A lexeme goes on with the characters that may join its first one. -/
theorem goesOn_ofChars (c : Char) (cs : List Char) (d : Char) :
    (ofChars c cs).goesOn d = Lexer.joins c d := by
  cases hs : ofSymbol? c with
  | some k =>
    rw [ofSymbol?_eq_some_iff] at hs
    have hg : ∀ e ∈ symbols, e.2.goesOn d = false := by simp [symbols, goesOn]
    rw [Lexer.joins_symbol hs, ofChars_symbol hs]
    exact hg (c, k) hs
  | none =>
    rw [Lexer.joins_eq hs]
    by_cases hc : c.isDigit
    · rw [ofChars_number hc, if_pos hc]
      rfl
    · rw [if_neg hc]
      by_cases ha : c.isAlpha
      · rw [ofChars_word ha]
        split <;> rfl
      · rw [ofChars_unknown hs (by simp [Char.isAlphanum, ha, hc])]
        rfl

theorem ofChars_ne_endMarker (c : Char) (cs : List Char) : ofChars c cs ≠ .endMarker := by
  unfold ofChars
  split
  · rename_i k hs
    have hk : ∀ e ∈ symbols, e.2 ≠ .endMarker := by decide
    exact hk (c, k) (ofSymbol?_eq_some_iff.1 hs)
  · split_ifs <;> decide

end Token.Kind

namespace Lexer

theorem kind_next_eq_endMarker_iff {l : Lexer} :
    l.next.1.kind = .endMarker ↔ l.rest.dropWhile Char.isWhitespace = [] := by
  cases h : l.rest.dropWhile Char.isWhitespace with
  | nil => simp [(next_of_nil h).1]
  | cons c cs => simp [(next_of_cons h).1, Token.Kind.ofChars_ne_endMarker]

theorem kind_ne_endMarker (l : Lexer) : ∀ t ∈ l.tokens, t.kind ≠ .endMarker := by
  fun_induction tokens l with
  | case1 => exact List.forall_mem_nil _
  | case2 l h _ ih => exact List.forall_mem_cons.2 ⟨h, ih⟩

theorem tokens_of_nil {l : Lexer} (h : l.rest.dropWhile Char.isWhitespace = []) :
    l.tokens = [] := by
  rw [tokens, dif_pos (kind_next_eq_endMarker_iff.2 h)]

theorem tokens_of_cons {l : Lexer} {c : Char} {cs : List Char}
    (h : l.rest.dropWhile Char.isWhitespace = c :: cs) :
    l.tokens = ⟨.ofChars c (cs.takeWhile (joins c)), String.ofList (c :: cs.takeWhile (joins c))⟩ ::
      l.next.2.tokens := by
  have hk : l.next.1.kind ≠ .endMarker := by simp [kind_next_eq_endMarker_iff, h]
  rw [tokens, dif_neg hk, (next_of_cons h).1]

theorem spells_tokens (l : Lexer) : Spells l.rest l.tokens := by
  fun_induction tokens l with
  | case1 l h => exact .nil (List.dropWhile_eq_nil_iff.1 (kind_next_eq_endMarker_iff.1 h))
  | case2 l h _ ih =>
    cases hd : l.rest.dropWhile Char.isWhitespace with
    | nil => exact absurd (kind_next_eq_endMarker_iff.2 hd) h
    | cons c cs =>
      obtain ⟨hn, hr⟩ := next_of_cons hd
      have hw : ¬ c.isWhitespace := by
        simpa [hd] using List.head?_dropWhile_not Char.isWhitespace l.rest
      have hl : l.next.1.kind.Lexeme l.next.1.lexeme.toList := by
        rw [hn, String.toList_ofList]
        exact Token.Kind.lexeme_ofChars hw fun d => List.mem_takeWhile_imp
      have hm (d : Char) (hd : l.next.2.rest.head? = some d) : ¬ l.next.1.kind.goesOn d := by
        have := List.head?_dropWhile_not (joins c) cs
        rw [← hr, hd] at this
        simpa [hn, Token.Kind.goesOn_ofChars] using this
      have hs : l.rest =
          l.rest.takeWhile Char.isWhitespace ++ l.next.1.lexeme.toList ++ l.next.2.rest := by
        rw [hn, hr, String.toList_ofList, List.append_assoc, List.cons_append,
          List.takeWhile_append_dropWhile, ← hd, List.takeWhile_append_dropWhile]
      rw [hs]
      exact .cons (fun d => List.mem_takeWhile_imp) hl hm ih

end Lexer

theorem dropWhile_append_cons {p : Char → Bool} {cs ds : List Char} {c : Char}
    (h : ∀ d ∈ cs, p d) (hc : ¬ p c) : (cs ++ c :: ds).dropWhile p = c :: ds := by
  rw [List.dropWhile_append_of_pos h, List.dropWhile_cons_of_neg hc]

theorem takeWhile_of_ends {p : Char → Bool} {cs r : List Char} (h : ∀ d ∈ cs, p d)
    (hd : ∀ d, r.head? = some d → ¬ p d) :
    (cs ++ r).takeWhile p = cs ∧ (cs ++ r).dropWhile p = r := by
  rw [List.takeWhile_append_of_pos h, List.dropWhile_append_of_pos h]
  cases r with
  | nil => simp
  | cons d r =>
    have : ¬ p d := hd d rfl
    simp [this]

theorem tokens_of_spells {cs : List Char} {ts : List Token} (h : Spells cs ts) (l : Lexer)
    (hl : l.rest = cs) : l.tokens = ts := by
  induction h generalizing l with
  | nil hb => exact Lexer.tokens_of_nil (by rw [hl]; exact List.dropWhile_eq_nil_iff.2 hb)
  | @cons blanks cs t ts hb hk hm _ ih =>
    obtain ⟨k, lexeme⟩ := t
    cases hx : lexeme.toList with
    | nil => exact absurd (hx ▸ hk) Token.Kind.not_lexeme_nil
    | cons c body =>
      simp only [hx] at hk hl
      obtain ⟨hw, hj, rfl⟩ := hk.cons
      have hd : l.rest.dropWhile Char.isWhitespace = c :: (body ++ cs) := by
        rw [hl, List.append_assoc, List.cons_append, dropWhile_append_cons hb hw]
      obtain ⟨h1, h2⟩ := takeWhile_of_ends (r := cs) hj fun d hd => by
        rw [← Token.Kind.goesOn_ofChars c body]
        exact hm d hd
      rw [Lexer.tokens_of_cons hd, h1, ih l.next.2 (by rw [(Lexer.next_of_cons hd).2, h2]), ← hx,
        String.ofList_toList]

theorem spells_iff {s : String} {ts : List Token} :
    Spells s.toList ts ↔ (Lexer.ofString s).tokens = ts :=
  ⟨fun h => tokens_of_spells h _ rfl, fun h => h ▸ Lexer.spells_tokens (Lexer.ofString s)⟩

/-- The tokens of a text are what the text spells, and every text spells exactly one list. -/
theorem tokenize_eq_iff_spells (s : String) :
    (∀ ts, tokenize s = ts ++ [.endMarker] ↔ Spells s.toList ts) ∧
      ∃! ts, Spells s.toList ts := by
  refine ⟨fun ts => ?_, (Lexer.ofString s).tokens, spells_iff.2 rfl, fun ts h => ?_⟩
  · rw [tokenize, List.append_left_inj, spells_iff]
  · exact (spells_iff.1 h).symm

theorem Spells.blank_append {blanks cs : List Char} {ts : List Token} (hb : Blank blanks)
    (h : Spells cs ts) : Spells (blanks ++ cs) ts := by
  have happ {bs : List Char} (h : Blank bs) : Blank (blanks ++ bs) := fun c hc =>
    (List.mem_append.1 hc).elim (hb c) (h c)
  cases h with
  | nil h => exact .nil (happ h)
  | cons h hk hm hs =>
    rw [← List.append_assoc, ← List.append_assoc]
    exact .cons (happ h) hk hm hs

/-- Two texts may stand side by side if no token goes on with what the second begins with. -/
theorem Spells.append {cs ds : List Char} {ts us : List Token} (h : Spells cs ts)
    (hu : Spells ds us) (hd : ∀ d, ds.head? = some d → ∀ k : Token.Kind, ¬ k.goesOn d) :
    Spells (cs ++ ds) (ts ++ us) := by
  induction h with
  | nil hb => exact hu.blank_append hb
  | @cons blanks cs t ts hb hk hm _ ih =>
    rw [List.append_assoc]
    refine .cons hb hk (fun d h => ?_) ih
    cases cs with
    | nil => exact hd d h _
    | cons c cs => exact hm d h

/-- No token reaches over a semicolon. -/
theorem Spells.append_semicolon {cs ds : List Char} {ts us : List Token} (h : Spells cs ts)
    (hu : Spells ds us) : Spells (cs ++ ';' :: ds) (ts ++ .semicolon :: us) := by
  have hm : ∀ d, ds.head? = some d → ¬ Token.semicolon.kind.goesOn d := by
    simp [Token.semicolon, Token.Kind.goesOn]
  have hs := Spells.cons (t := .semicolon) (List.forall_mem_nil _) (.symbol (by decide)) hm hu
  refine h.append hs fun d hd k => ?_
  cases hd
  cases k <;> decide

/-- No token reaches over a blank. -/
theorem Spells.append_blank {cs ds : List Char} {ts us : List Token} {c : Char}
    (hc : c.isWhitespace) (h : Spells cs ts) (hu : Spells ds us) :
    Spells (cs ++ c :: ds) (ts ++ us) := by
  have hb : Blank [c] := List.forall_mem_singleton.2 hc
  refine h.append (hu.blank_append hb) fun d hd k hk => ?_
  cases hd
  exact Token.Kind.not_isWhitespace_of_goesOn hk hc

end Reckon
