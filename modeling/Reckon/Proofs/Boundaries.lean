import Reckon.Proofs.Laziness
import Reckon.Proofs.Matching
import Reckon.Token.Cursor

/-! A cursor stands at the byte up to which the lexer has read, and reads what the lexer reads. So
it is always between two characters, no cut it makes is out of place, and some pattern covers
whatever it comes to. This asks no more of the search than that it is lawful. -/

namespace Reckon

open Text

namespace Lexer

/-- A token is passed over with the blanks before it. -/
theorem offset_next (l : Lexer) :
    l.next.2.offset = l.offset + byteSize (l.rest.takeWhile Char.isWhitespace) +
      l.next.1.lexeme.utf8ByteSize := by
  unfold next
  split <;> rfl

theorem lexeme_next_ne_empty {l : Lexer} (h : l.next.1.kind ≠ .endMarker) :
    l.next.1.lexeme ≠ "" := by
  cases hd : l.rest.dropWhile Char.isWhitespace with
  | nil => exact absurd (congrArg Token.kind (next_of_nil hd).1) h
  | cons c cs =>
    rw [(next_of_cons hd).1]
    simp

theorem joins_eq_isDigit {c : Char} (h : c.isDigit) : joins c = Char.isDigit := by
  funext d
  rw [joins_eq (Token.Kind.ofSymbol?_eq_none (Token.Kind.isAlphanum_of_isDigit h)), if_pos h]

theorem joins_eq_isAlphanum {c : Char} (hs : Token.Kind.ofSymbol? c = none) (hc : ¬ c.isDigit) :
    joins c = Char.isAlphanum := by
  funext d
  rw [joins_eq hs, if_neg hc]

theorem takeWhile_joins_symbol {c : Char} {k : Token.Kind} (h : (c, k) ∈ Token.Kind.symbols)
    (cs : List Char) : cs.takeWhile (joins c) = [] := by
  cases cs with
  | nil => rfl
  | cons d cs => rw [List.takeWhile_cons, joins_symbol h]; rfl

end Lexer

namespace Cursor

/-! The tables hold what the kinds of symbols and words go by. -/

theorem symbols_eq : symbols = Token.Kind.symbols.map fun e => (.singleton e.1, e.2) := rfl

theorem mem_symbols_iff {symbol : String} {k : Token.Kind} :
    (symbol, k) ∈ symbols ↔ ∃ c, symbol = .singleton c ∧ Token.Kind.ofSymbol? c = some k := by
  rw [symbols_eq, List.mem_map]
  constructor
  · rintro ⟨e, he, h⟩
    cases h
    exact ⟨e.1, rfl, Token.Kind.ofSymbol?_eq_some_iff.2 he⟩
  · rintro ⟨c, rfl, h⟩
    exact ⟨(c, k), Token.Kind.ofSymbol?_eq_some_iff.1 h, rfl⟩

theorem startsWith_singleton (c d : Char) (cs : List Char) :
    (String.ofList (c :: cs)).startsWith (String.singleton d) = decide (d = c) := by
  rw [Bool.eq_iff_iff, String.startsWith_string_iff, String.toList_ofList, String.toList_singleton,
    List.cons_prefix_cons, decide_eq_true_iff]
  exact and_iff_left List.nil_prefix

theorem find?_symbols (c : Char) (cs : List Char) :
    symbols.find? (fun e => (String.ofList (c :: cs)).startsWith e.1) =
      (Token.Kind.ofSymbol? c).map (.singleton c, ·) := by
  cases h : symbols.find? fun e => (String.ofList (c :: cs)).startsWith e.1 with
  | none =>
    cases hk : Token.Kind.ofSymbol? c with
    | none => rfl
    | some k =>
      have := List.find?_eq_none.1 h _ (mem_symbols_iff.2 ⟨c, rfl, hk⟩)
      rw [startsWith_singleton] at this
      exact absurd (decide_eq_true rfl) this
  | some e =>
    obtain ⟨d, hd, hk⟩ := mem_symbols_iff.1 (List.mem_of_find?_eq_some h)
    have := List.find?_some h
    rw [hd, startsWith_singleton] at this
    obtain rfl := of_decide_eq_true this
    rw [hk, Option.map_some, ← hd]

theorem find?_symbols_nil : symbols.find? (fun e => (String.ofList []).startsWith e.1) = none := by
  simp [symbols]

theorem lookup_keywords (cs : List Char) :
    (keywords.lookup (String.ofList cs)).getD .name =
      if cs = ['v', 'a', 'r'] then .var else .name := by
  have hvar : "var" = String.ofList ['v', 'a', 'r'] := rfl
  by_cases h : cs = ['v', 'a', 'r']
  · subst h
    rfl
  · have hne : (String.ofList cs == "var") = false := by
      rw [beq_eq_false_iff_ne, hvar]
      exact fun he => h (String.ofList_injective he)
    rw [if_neg h, keywords, List.lookup_cons, hne]
    rfl

theorem slice?_run (c : Char) (cs : List Char) (p : Char → Bool) :
    slice? (.ofList (c :: cs)) 0 (byteSize (c :: cs.takeWhile p)) =
      some (.ofList (c :: cs.takeWhile p)) := by
  have h : sliceFrom? (.ofList (c :: cs)) 0 =
      some (.ofList (c :: cs.takeWhile p ++ cs.dropWhile p)) := by
    rw [List.cons_append, List.takeWhile_append_dropWhile]
    exact sliceFrom?_eq_some_iff.2 ⟨"", String.empty_append.symm, rfl⟩
  simpa using slice?_add h

theorem push_eq {w : Cursor} {cs ds : List Char}
    (h : sliceFrom? w.input w.start = some (.ofList (cs ++ ds))) (rule : Rule) (k : Token.Kind) :
    w.push rule k (byteSize cs) =
      some ⟨⟨k, .ofList cs⟩, { w with start := w.start + byteSize cs }, rule⟩ := by
  rw [push, slice?_add h]
  rfl

theorem read_of_nil {find? : Pattern.Search} {w : Cursor}
    (h : sliceFrom? w.input w.start = some (.ofList [])) :
    w.read find? = some ⟨.endMarker, w, .endOfText⟩ := by
  rw [read, h, Option.bind_eq_bind, Option.bind_some, find?_symbols_nil]
  rfl

section
variable {find? : Pattern.Search} (hf : find?.Lawful)
include hf

theorem exists_skipBlanks {w : Cursor} {cs : List Char}
    (h : sliceFrom? w.input w.start = some (.ofList cs)) :
    ∃ v, w.skipBlanks find? = some v ∧ v.input = w.input ∧
      v.start = w.start + byteSize (cs.takeWhile Char.isWhitespace) ∧
      sliceFrom? v.input v.start = some (.ofList (cs.dropWhile Char.isWhitespace)) := by
  refine ⟨{ w with start := w.start + byteSize (cs.takeWhile Char.isWhitespace) }, ?_, rfl, rfl, ?_⟩
  · rw [skipBlanks, h, Option.bind_eq_bind, Option.bind_some, blanks]
    cases cs with
    | nil =>
      rw [hf.find?_eq_none (by simp)]
      rfl
    | cons c cs =>
      by_cases hc : c.isWhitespace
      · rw [hf.find?_run hc, List.takeWhile_cons_of_pos hc]
        rfl
      · rw [hf.find?_of_not hc, List.takeWhile_cons_of_neg hc]
        rfl
  · rw [← List.takeWhile_append_dropWhile (p := Char.isWhitespace) (l := cs)] at h
    exact sliceFrom?_add h

/-- What is no symbol is a number, a word or unknown. The dot of the last pattern covers every
character but a line feed, and that one is a blank. -/
theorem readRest_of_cons (w : Cursor) {c : Char} (cs : List Char) (hc : ¬ c.isWhitespace)
    (hs : Token.Kind.ofSymbol? c = none) :
    ∃ rule, rule ≠ .fallback ∧ w.readRest find? (.ofList (c :: cs)) =
      w.push rule (.ofChars c (cs.takeWhile (Lexer.joins c)))
        (byteSize (c :: cs.takeWhile (Lexer.joins c))) := by
  rw [readRest, digits, word, unknown]
  by_cases hd : c.isDigit
  · rw [hf.find?_run hd, Lexer.joins_eq_isDigit hd, Token.Kind.ofChars_number hd]
    exact ⟨.number, by decide, rfl⟩
  · rw [hf.find?_of_not hd, Lexer.joins_eq_isAlphanum hs hd]
    by_cases ha : c.isAlpha
    · rw [hf.find?_run ha, Token.Kind.ofChars_word ha, ← lookup_keywords]
      refine ⟨.word, by decide, ?_⟩
      simp only [slice?_run]
      rfl
    · have hn : decide (c ≠ '\n') = true := by
        refine decide_eq_true ?_
        rintro rfl
        exact hc rfl
      have hu : ¬ c.isAlphanum := by simp [Char.isAlphanum, ha, hd]
      rw [hf.find?_of_not ha, hf.find?_run hn, Token.Kind.ofChars_unknown hs hu]
      exact ⟨.unknown, by decide, rfl⟩

theorem read_of_cons {w : Cursor} {c : Char} {cs : List Char}
    (h : sliceFrom? w.input w.start = some (.ofList (c :: cs))) (hc : ¬ c.isWhitespace) :
    ∃ rule, rule ≠ .fallback ∧ w.read find? =
      w.push rule (.ofChars c (cs.takeWhile (Lexer.joins c)))
        (byteSize (c :: cs.takeWhile (Lexer.joins c))) := by
  rw [read, h, Option.bind_eq_bind, Option.bind_some, find?_symbols]
  cases hs : Token.Kind.ofSymbol? c with
  | some k =>
    have hk := Token.Kind.ofSymbol?_eq_some_iff.1 hs
    rw [Lexer.takeWhile_joins_symbol hk, Token.Kind.ofChars_symbol hk]
    exact ⟨.symbol, by decide, rfl⟩
  | none =>
    have hne : ¬ (String.ofList (c :: cs)).isEmpty := by simp
    rw [Option.map_none]
    simp only [if_neg hne]
    exact readRest_of_cons hf w cs hc hs

end

/-- The cursor stands where the lexer does. -/
structure At (w : Cursor) (l : Lexer) : Prop where
  rest : sliceFrom? w.input w.start = some (.ofList l.rest)
  start : w.start = l.offset

theorem at_ofString (source : String) : At (ofString source) (.ofString source) where
  rest := sliceFrom?_eq_some_iff.2
    ⟨"", by rw [Lexer.ofString, String.ofList_toList, String.empty_append]; rfl, rfl⟩
  start := rfl

/-- A call cuts nothing out of place, goes by a pattern and gives what the lexer gives. -/
theorem next_at {find? : Pattern.Search} (hf : find?.Lawful) {w : Cursor} {l : Lexer}
    (h : At w l) :
    ∃ r, w.next find? = some r ∧ r.token = l.next.1 ∧ r.rule ≠ .fallback ∧
      r.after.input = w.input ∧ At r.after l.next.2 := by
  obtain ⟨v, hv, hi, hstart, hrest⟩ := exists_skipBlanks hf h.rest
  have hoffset := l.offset_next
  rw [← h.start, ← hstart] at hoffset
  rw [next, hv, Option.bind_eq_bind, Option.bind_some]
  cases hd : l.rest.dropWhile Char.isWhitespace with
  | nil =>
    obtain ⟨ht, hr⟩ := Lexer.next_of_nil hd
    rw [hd] at hrest
    rw [ht] at hoffset
    exact ⟨_, read_of_nil hrest, ht.symm, by simp, hi, hr ▸ hrest, hoffset.symm⟩
  | cons c cs =>
    obtain ⟨ht, hr⟩ := Lexer.next_of_cons hd
    have hc : ¬ c.isWhitespace := by
      simpa [hd] using List.head?_dropWhile_not Char.isWhitespace l.rest
    rw [hd] at hrest
    obtain ⟨rule, hrule, hread⟩ := read_of_cons hf hrest hc
    rw [← List.takeWhile_append_dropWhile (p := Lexer.joins c) (l := cs), ← List.cons_append]
      at hrest
    rw [ht] at hoffset
    exact ⟨_, hread.trans (push_eq hrest _ _), ht.symm, hrule, hi, hr ▸ sliceFrom?_add hrest,
      hoffset.symm⟩

theorem after?_succ {find? : Pattern.Search} {w v : Cursor} {n : Nat} {r : Reading}
    (hv : w.after? find? n = some v) (hr : v.next find? = some r) :
    w.after? find? (n + 1) = some r.after := by
  rw [after?, hv, Option.bind_eq_bind, Option.bind_some, hr]
  rfl

theorem after?_at {find? : Pattern.Search} (hf : find?.Lawful) {w : Cursor} {l : Lexer}
    (h : At w l) (n : Nat) :
    ∃ v, w.after? find? n = some v ∧ v.input = w.input ∧ At v (l.later n) := by
  induction n with
  | zero => exact ⟨w, rfl, rfl, h⟩
  | succ n ih =>
    obtain ⟨v, hv, hi, hat⟩ := ih
    obtain ⟨r, hr, -, -, hi', hat'⟩ := next_at hf hat
    exact ⟨r.after, after?_succ hv hr, hi'.trans hi, l.later_succ n ▸ hat'⟩

end Cursor

/-- Between any two calls the cursor is within the text and between two characters, and the next
call gives the lexer's next token. No call takes the cursor back, one that gives a token takes it
over that token at least, and none falls back on the next character for want of a pattern. -/
theorem cursor_on_boundary {find? : Pattern.Search} (hf : find?.Lawful) (source : String)
    (n : Nat) :
    ∃ w r, (Cursor.ofString source).after? find? n = some w ∧ w.next find? = some r ∧
      (Cursor.ofString source).after? find? (n + 1) = some r.after ∧
      w.input = source ∧ w.start ≤ source.utf8ByteSize ∧
      String.Pos.Raw.IsValid source ⟨w.start⟩ ∧
      w.start ≤ r.after.start ∧
      (r.token.kind ≠ .endMarker →
        w.start < r.after.start ∧ w.start + r.token.lexeme.utf8ByteSize ≤ r.after.start) ∧
      r.rule ≠ .fallback ∧
      w.start = ((Lexer.ofString source).later n).offset ∧
      r.token = ((Lexer.ofString source).later n).next.1 := by
  obtain ⟨w, hw, hi, hat⟩ := Cursor.after?_at hf (Cursor.at_ofString source) n
  obtain ⟨r, hr, ht, hrule, -, hat'⟩ := Cursor.next_at hf hat
  have hi : w.input = source := hi
  have hvalid : String.Pos.Raw.IsValid source ⟨w.start⟩ := hi ▸ isValid_of_sliceFrom? hat.rest
  have hnext := Lexer.offset_next ((Lexer.ofString source).later n)
  rw [← hat.start, ← hat'.start, ← ht] at hnext
  refine ⟨w, r, hw, hr, Cursor.after?_succ hw hr, hi, hvalid.le_utf8ByteSize, hvalid, by omega,
    fun hk => ⟨?_, by omega⟩, hrule, hat.start, ht⟩
  have hne : r.token.lexeme ≠ "" := by
    rw [ht] at hk ⊢
    exact Lexer.lexeme_next_ne_empty hk
  have hpos : r.token.lexeme.utf8ByteSize ≠ 0 := by simpa using hne
  omega

theorem cursor_on_boundary_wide :
    Pattern.Search.Lawful Pattern.find? ∧
      ∃ w r, (Cursor.ofString "é1 \n𝒳;").after? Pattern.find? 1 = some w ∧
        w.next Pattern.find? = some r ∧ w.start = 3 ∧
        String.Pos.Raw.IsValid "é1 \n𝒳;" ⟨w.start⟩ ∧ r.token = ⟨.unknown, "𝒳"⟩ ∧
        w.start + 4 ≤ r.after.start ∧ r.rule ≠ .fallback := by
  have hl : ((Lexer.ofString "é1 \n𝒳;").later 1).offset = 3 ∧
      ((Lexer.ofString "é1 \n𝒳;").later 1).next.1 = ⟨.unknown, "𝒳"⟩ := by decide +kernel
  have hf := Pattern.find?_lawful
  obtain ⟨w, r, hw, hr, -, -, -, hvalid, -, hgoes, hrule, hstart, ht⟩ :=
    cursor_on_boundary hf "é1 \n𝒳;" 1
  rw [hl.2] at ht
  have hk : r.token.kind ≠ .endMarker := by simp [ht]
  have hgoes := (hgoes hk).2
  rw [ht] at hgoes
  exact ⟨hf, w, r, hw, hr, hstart.trans hl.1, hvalid, ht, hgoes, hrule⟩

-- Other searches may find nothing, or what ends inside a character.
example : (((Cursor.ofString "é1").next fun _ _ => none).map fun r => (r.rule, r.after.start)) =
      some (.fallback, 2) ∧
    (((Cursor.ofString "é1").next fun _ _ => some 1).map fun r => r.token) = none := by
  decide +kernel

end Reckon
