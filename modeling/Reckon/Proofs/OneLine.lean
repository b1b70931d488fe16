import Mathlib.Data.Nat.Digits.Defs
import Reckon.Eval
import Reckon.Proofs.Provenance

/-! Texts on one line. Lexemes are such texts, so every message, value and listing is one that is
made of lexemes, digits and fixed words. -/

namespace Reckon

/-- Neither ends a line nor jumps along it. -/
def Inline (c : Char) : Prop := c ≠ '\n' ∧ c ≠ '\r' ∧ c ≠ '\t'

instance (c : Char) : Decidable (Inline c) :=
  inferInstanceAs (Decidable (c ≠ '\n' ∧ c ≠ '\r' ∧ c ≠ '\t'))

-- named, since deciding it for every character there is would be an instance too
instance (cs : List Char) : Decidable (∀ c ∈ cs, Inline c) := List.decidableBAll Inline cs

def OneLine (s : String) : Prop := ∀ c ∈ s.toList, Inline c

instance (s : String) : Decidable (OneLine s) :=
  inferInstanceAs (Decidable (∀ c ∈ s.toList, Inline c))

@[simp] theorem oneLine_append {s t : String} : OneLine (s ++ t) ↔ OneLine s ∧ OneLine t := by
  simp [OneLine, or_imp, forall_and]

theorem OneLine.append {s t : String} (hs : OneLine s) (ht : OneLine t) : OneLine (s ++ t) :=
  oneLine_append.2 ⟨hs, ht⟩

@[simp] theorem oneLine_ofList {cs : List Char} :
    OneLine (String.ofList cs) ↔ ∀ c ∈ cs, Inline c := by
  rw [OneLine, String.toList_ofList]

/-- What is fixed is decided as characters: a text would be taken from its bytes first. -/
theorem OneLine.ofList {cs : List Char} (h : ∀ c ∈ cs, Inline c) : OneLine (String.ofList cs) :=
  oneLine_ofList.2 h

theorem inline_of_not_isWhitespace {c : Char} (h : ¬ c.isWhitespace) : Inline c := by
  refine ⟨?_, ?_, ?_⟩ <;> rintro rfl <;> exact h (by decide)

theorem inline_digitChar (n : Nat) : Inline n.digitChar :=
  ⟨Nat.digitChar_ne _ (by decide), Nat.digitChar_ne _ (by decide), Nat.digitChar_ne _ (by decide)⟩

theorem exists_digitChar_of_mem_toDigits {b n : Nat} (hb : 1 < b) {c : Char}
    (h : c ∈ Nat.toDigits b n) : ∃ k : Nat, c = k.digitChar := by
  induction n using Nat.strong_induction_on with
  | _ n ih =>
    by_cases hn : n < b
    · rw [Nat.toDigits_of_lt_base hn, List.mem_singleton] at h
      exact ⟨n, h⟩
    · have hn : b ≤ n := Nat.le_of_not_lt hn
      rw [Nat.toDigits_of_base_le hb hn, List.mem_append, List.mem_singleton] at h
      rcases h with h | rfl
      · exact ih (n / b) (Nat.div_lt_self (by omega) hb) h
      · exact ⟨n % b, rfl⟩

theorem inline_of_mem_toDigits {b n : Nat} (hb : 1 < b) {c : Char} (h : c ∈ Nat.toDigits b n) :
    Inline c := by
  obtain ⟨k, rfl⟩ := exists_digitChar_of_mem_toDigits hb h
  exact inline_digitChar k

namespace Text

theorem inline_escape (c : Char) : ∀ d ∈ escape c, Inline d := by
  unfold escape
  split
  case h_7 =>
    rename_i ht hn hr _ _
    split
    · have hd : ∀ d ∈ Nat.toDigits 16 c.toNat, Inline d := fun d =>
        inline_of_mem_toDigits (by decide)
      rw [List.forall_mem_append, List.forall_mem_append]
      exact ⟨⟨by decide, hd⟩, by decide⟩
    · exact List.forall_mem_singleton.2 ⟨hn, hr, ht⟩
  all_goals decide

theorem oneLine_quoted (s : String) : OneLine (quoted s) := by
  have hs : ∀ d ∈ s.toList.flatMap escape, Inline d := fun d hd => by
    obtain ⟨c, -, hc⟩ := List.mem_flatMap.1 hd
    exact inline_escape c d hc
  rw [quoted, oneLine_ofList, List.forall_mem_append, List.forall_mem_cons]
  exact ⟨⟨by decide, hs⟩, by decide⟩

end Text

theorem Lexer.isAlphanum_of_joins {c d : Char} (h : joins c d) : d.isAlphanum := by
  rw [joins, Bool.and_eq_true] at h
  have h := h.2
  split at h
  · exact Token.Kind.isAlphanum_of_isDigit h
  · exact h

theorem Token.Kind.Lexeme.inline {k : Kind} {cs : List Char} (h : k.Lexeme cs) :
    ∀ c ∈ cs, Inline c := by
  cases cs with
  | nil => exact List.forall_mem_nil _
  | cons c cs =>
    obtain ⟨hc, hj, -⟩ := h.cons
    refine List.forall_mem_cons.2 ⟨inline_of_not_isWhitespace hc, fun d hd => ?_⟩
    have ha := Lexer.isAlphanum_of_joins (hj d hd)
    exact inline_of_not_isWhitespace (not_isWhitespace_of_isAlphanum ha)

theorem Spells.oneLine {cs : List Char} {ts : List Token} (h : Spells cs ts) :
    ∀ t ∈ ts, OneLine t.lexeme := by
  induction h with
  | nil => exact List.forall_mem_nil _
  | cons _ hk _ _ ih => exact List.forall_mem_cons.2 ⟨hk.inline, ih⟩

theorem Lexer.oneLine_tokens (l : Lexer) : ∀ t ∈ l.tokens, OneLine t.lexeme :=
  (spells_tokens l).oneLine

theorem Token.oneLine_text {t : Token} (h : OneLine t.lexeme) : OneLine t.text := by
  have hl : OneLine t.kind.label := by
    cases t.kind <;> decide
  rw [text, oneLine_append, oneLine_append, oneLine_append]
  exact ⟨⟨⟨hl, by decide⟩, h⟩, by decide⟩

/-- A text that is shown as one line. -/
structure IsLine (s : String) : Prop where
  ne_empty : s ≠ ""
  oneLine : OneLine s

instance (s : String) : Decidable (IsLine s) :=
  decidable_of_iff (s ≠ "" ∧ OneLine s) ⟨fun h => ⟨h.1, h.2⟩, fun h => ⟨h.1, h.2⟩⟩

theorem IsLine.append {s t : String} (hs : IsLine s) (ht : OneLine t) : IsLine (s ++ t) :=
  ⟨by simp [hs.ne_empty], oneLine_append.2 ⟨hs.oneLine, ht⟩⟩

theorem IsLine.ofList {c : Char} {cs : List Char} (h : ∀ d ∈ c :: cs, Inline d) :
    IsLine (String.ofList (c :: cs)) :=
  ⟨by simp, .ofList h⟩

theorem Integer.isLine_text (n : Integer) : IsLine n.text := by
  have hd : IsLine (String.ofList (Nat.toDigits 10 n.toInt.natAbs)) :=
    ⟨by simp, oneLine_ofList.2 fun c => inline_of_mem_toDigits (by decide)⟩
  unfold text
  split
  · exact IsLine.append (by decide) hd.oneLine
  · exact hd

theorem Value.isLine_text (v : Value) : IsLine v.text := by
  cases v with
  | integer n => exact n.isLine_text
  | boolean b => cases b <;> decide

theorem Fault.isLine_message {fault : Fault}
    (h : ∀ t, fault = .unexpected t → OneLine t.lexeme) : IsLine fault.message := by
  unfold message
  cases fault with
  | unexpected t =>
    have ht : OneLine t.mention := by
      unfold Token.mention
      split
      · decide
      · rw [oneLine_append, oneLine_append]
        exact ⟨⟨by decide, h t rfl⟩, by decide⟩
    exact IsLine.append (.ofList (by decide)) ht
  | missingSemicolon | missingName | missingType | missingRightParen | tooDeep =>
    exact .ofList (by decide)

theorem LiteralError.isLine_message {e : LiteralError} (h : OneLine e.literal) :
    IsLine e.message := by
  have hs : IsLine ("failed to parse " ++ e.literal) := IsLine.append (.ofList (by decide)) h
  have hc : OneLine e.cause := by
    rw [cause]
    exact .ofList (by decide)
  exact (hs.append (.ofList (by decide))).append hc

/-- The names of the statement are written on one line, and so is the message of a bad one. -/
structure Statement.Plain (s : Statement) : Prop where
  names : ∀ x ∈ s.names, OneLine x
  message : ∀ m, s = .bad m → IsLine m

theorem plain_of_parse {source : String} {p : Program} (h : parse source = .ok p) :
    ∀ s ∈ p, s.Plain := by
  intro s hs
  obtain ⟨seg, hseg, ht, ho⟩ := exists_segment_of_parse h hs
  have hl : ∀ t ∈ seg, OneLine t.lexeme := fun t h => Lexer.oneLine_tokens _ t (ht t h)
  rcases derives_or_fault_of_outcome hseg ho with hd | ⟨fault, rfl, hf⟩
  · refine ⟨fun x hx => ?_, fun m hm => ?_⟩
    · rw [hd.names_eq] at hx
      obtain ⟨t, ht, -, rfl⟩ := Token.exists_mem_of_mem_names hx
      exact hl t ht
    · have := hd.isBad
      rw [hm] at this
      cases this
  · refine ⟨List.forall_mem_nil _, fun m hm => ?_⟩
    cases hm
    refine Fault.isLine_message fun t ht => ?_
    rcases hf t ht with ht | rfl
    · exact hl t ht
    · decide

theorem Name.oneLine_dump {x : Name} (h : OneLine x) : OneLine (Name.dump x) := by
  unfold dump
  exact .append (.append (.ofList (by decide)) h) (.ofList (by decide))

theorem Expr.oneLine_dump {e : Expr} (h : ∀ x ∈ e.names, OneLine x) : OneLine e.dump := by
  induction e with
  | integer n =>
    unfold dump
    exact .append (.append (.ofList (by decide)) n.isLine_text.oneLine) (.ofList (by decide))
  | identifier x =>
    have hx := Name.oneLine_dump (h x (List.mem_singleton_self x))
    unfold dump
    exact .append (.append (.ofList (by decide)) hx) (.ofList (by decide))
  | unary op e ih =>
    have hl : OneLine op.label := by cases op <;> decide
    have ho : OneLine ("Prefix(" ++ op.label ++ ", ") :=
      .append (.append (.ofList (by decide)) hl) (.ofList (by decide))
    unfold dump
    exact .append (.append ho (ih h)) (.ofList (by decide))
  | binary op l r ihl ihr =>
    have hl : OneLine op.label := by cases op <;> decide
    have ho : OneLine ("Infix(" ++ op.label ++ ", (") :=
      .append (.append (.ofList (by decide)) hl) (.ofList (by decide))
    rw [names, List.forall_mem_append] at h
    unfold dump
    exact .append (.append (.append (.append ho (ihl h.1)) (.ofList (by decide))) (ihr h.2))
      (.ofList (by decide))

theorem Declaration.oneLine_dump {d : Declaration} (h : ∀ x ∈ d.names, OneLine x) :
    OneLine d.dump := by
  obtain ⟨x, t, value⟩ := d
  rw [names, List.forall_mem_cons, List.forall_mem_cons] at h
  obtain ⟨hx, ht, hv⟩ := h
  have hd : OneLine ("VariableDeclaration \x7b identifier: " ++ Name.dump x ++
      ", type_name: " ++ Name.dump t) :=
    .append (.append (.append (.ofList (by decide)) (Name.oneLine_dump hx)) (.ofList (by decide)))
      (Name.oneLine_dump ht)
  unfold dump
  refine .append (.append (.append hd (.ofList (by decide))) ?_) (.ofList (by decide))
  cases value with
  | none => exact .ofList (by decide)
  | some e =>
    exact .append (.append (.ofList (by decide)) (Expr.oneLine_dump hv)) (.ofList (by decide))

theorem Statement.oneLine_dump {s : Statement} (h : s.Plain) : OneLine s.dump := by
  unfold dump
  cases s with
  | expression e =>
    exact .append (.append (.ofList (by decide)) (Expr.oneLine_dump h.names)) (.ofList (by decide))
  | declaration d =>
    exact .append (.append (.ofList (by decide)) (Declaration.oneLine_dump h.names))
      (.ofList (by decide))
  | bad m =>
    exact .append (.append (.ofList (by decide)) (Text.oneLine_quoted m)) (.ofList (by decide))

end Reckon
