import Reckon.Parser.Window
import Reckon.Proofs.Laziness

/-! Windows that move on over the tokens of a text. A window only ever moves on, one token at a
time; from a token on, that leaves fewer of them. -/

namespace Reckon

namespace Window

theorem headD_eq_getD (ts : List Token) : ts.headD .endMarker = ts.getD 0 .endMarker := by
  cases ts <;> rfl

theorem getD_tail (ts : List Token) (i : Nat) :
    ts.tail.getD i .endMarker = ts.getD (i + 1) .endMarker := by
  cases ts <;> rfl

/-- The tokens in the window and those the lexer has yet to give, without end markers. -/
def tokens (w : Window) : List Token :=
  (w.current :: w.reading :: w.lexer.tokens).filter (·.kind ≠ .endMarker)

/-- How many tokens are left, the current one included. -/
def remaining (w : Window) : Nat := w.tokens.length

theorem tokens_eq_append (w : Window) :
    w.tokens = [w.current].filter (·.kind ≠ .endMarker) ++ w.next.tokens := by
  have hl : (w.lexer.next.1 :: w.lexer.next.2.tokens).filter (·.kind ≠ .endMarker) =
      w.lexer.tokens.filter (·.kind ≠ .endMarker) := by
    rw [Lexer.next_fst, Lexer.tokens_next]
    cases w.lexer.tokens <;> rfl
  change ([w.current] ++ [w.reading] ++ w.lexer.tokens).filter _ =
    _ ++ ([w.reading] ++ (w.lexer.next.1 :: w.lexer.next.2.tokens)).filter _
  simp only [List.filter_append, hl, List.append_assoc]

theorem remaining_next_le (w : Window) : w.next.remaining ≤ w.remaining := by
  rw [remaining, remaining, w.tokens_eq_append, List.length_append]
  exact Nat.le_add_left _ _

theorem remaining_next_lt {w : Window} (h : w.current.kind ≠ .endMarker) :
    w.next.remaining < w.remaining := by
  have hf : [w.current].filter (·.kind ≠ .endMarker) = [w.current] := by simp [h]
  rw [remaining, remaining, w.tokens_eq_append, hf]
  exact Nat.lt_succ_self _

/-- Whether `v` is `w` some tokens on, perhaps at another depth. -/
inductive Onward (w : Window) : Window → Prop
  | here (d : Nat) : Onward w { w with depth := d }
  | next {v : Window} : Onward w v → Onward w v.next

namespace Onward

variable {u v w : Window}

theorem refl (w : Window) : Onward w w := .here w.depth

theorem at_depth (h : Onward w v) (d : Nat) : Onward w { v with depth := d } := by
  induction h with
  | here => exact .here d
  | next _ ih => exact ih.next

theorem trans (h : Onward w v) (h' : Onward v u) : Onward w u := by
  induction h' with
  | here d => exact h.at_depth d
  | next _ ih => exact ih.next

theorem next_next (h : Onward w v) : Onward w.next v.next := by
  induction h with
  | here d => exact .here d
  | next _ ih => exact ih.next

theorem remaining_le (h : Onward w v) : v.remaining ≤ w.remaining := by
  induction h with
  | here => exact Nat.le_refl _
  | next _ ih => exact Nat.le_trans (remaining_next_le _) ih

/-- The first move from a token leaves it behind. -/
theorem remaining_lt (h : Onward w.next v) (hw : w.current.kind ≠ .endMarker) :
    v.remaining < w.remaining :=
  Nat.lt_of_le_of_lt h.remaining_le (remaining_next_lt hw)

/-- A window that has left no token behind has not moved. -/
theorem eq_of_remaining (h : Onward w v) (hw : w.current.kind ≠ .endMarker)
    (hd : v.depth = w.depth) (hr : v.remaining = w.remaining) : v = w := by
  induction h with
  | here d =>
    cases hd
    rfl
  | @next v h ih =>
    have hle := remaining_next_le v
    have hv : v = w := ih hd (Nat.le_antisymm h.remaining_le (hr ▸ hle))
    subst hv
    exact absurd hr (Nat.ne_of_lt (remaining_next_lt hw))

end Onward

/-- The token of the window that comes up after `n` moves. -/
def upcoming (w : Window) : Nat → Token
  | 0 => w.current
  | 1 => w.reading
  | n + 2 => (w.lexer.later n).next.1

theorem upcoming_add_two (w : Window) (i : Nat) :
    w.upcoming (i + 2) = w.lexer.tokens.getD i .endMarker := by
  rw [upcoming, Lexer.next_fst, Lexer.tokens_later, List.headD_eq_head?_getD,
    List.head?_drop, List.getD_eq_getElem?_getD]

theorem upcoming_next (w : Window) (i : Nat) : w.next.upcoming i = w.upcoming (i + 1) := by
  match i with
  | 0 | 1 | _ + 2 => rfl

/-- Whether the window shows the tokens of the text from some token on, with end markers after the
last. -/
def Views (source : String) (w : Window) : Prop :=
  ∃ k, ∀ i, w.upcoming i = (tokenize source).getD (k + i) .endMarker

/-- Whether the window is at `ts`. -/
structure At (ts : List Token) (w : Window) : Prop where
  current : w.current = ts.headD .endMarker
  reading : w.reading = ts.tail.headD .endMarker
  lexer : w.lexer.tokens = ts.tail.tail
  kind : ∀ t ∈ ts, t.kind ≠ .endMarker

namespace At

variable {ts : List Token} {v w : Window}

theorem ofString (source : String) : At (Lexer.ofString source).tokens (ofString source) where
  current := Lexer.next_fst _
  reading := by
    rw [← Lexer.tokens_next]
    exact Lexer.next_fst _
  lexer := by
    rw [← Lexer.tokens_next, ← Lexer.tokens_next]
    rfl
  kind := Lexer.kind_ne_endMarker _

theorem next (h : At ts w) : At ts.tail w.next where
  current := h.reading
  reading := by
    rw [← h.lexer]
    exact Lexer.next_fst _
  lexer := by
    rw [← h.lexer]
    exact Lexer.tokens_next _
  kind := fun t ht => h.kind t (List.mem_of_mem_tail ht)

theorem at_depth (h : At ts w) (d : Nat) : At ts { w with depth := d } :=
  ⟨h.current, h.reading, h.lexer, h.kind⟩

theorem onward (h : At ts w) (hv : Onward w v) : ∃ k, At (ts.drop k) v := by
  induction hv with
  | here d => exact ⟨0, h.at_depth d⟩
  | next _ ih =>
    obtain ⟨k, hk⟩ := ih
    exact ⟨k + 1, by simpa using hk.next⟩

theorem tokens (h : At ts w) : w.tokens = ts := by
  have hts : ts.filter (·.kind ≠ .endMarker) = ts :=
    List.filter_eq_self.2 fun t ht => by simpa using h.kind t ht
  rw [Window.tokens, h.current, h.reading, h.lexer]
  match ts, hts with
  | [], _ => rfl
  | [t], hts =>
    change ([t] ++ [Token.endMarker]).filter _ = [t]
    rw [List.filter_append, hts]
    rfl
  | t :: u :: ts, hts => exact hts

theorem upcoming (h : At ts w) (i : Nat) : w.upcoming i = ts.getD i .endMarker := by
  match i with
  | 0 => exact h.current.trans (headD_eq_getD ts)
  | 1 => exact h.reading.trans ((headD_eq_getD _).trans (getD_tail ts 0))
  | n + 2 => rw [upcoming_add_two, h.lexer, getD_tail, getD_tail]

theorem eq_nil (h : At ts w) (hw : w.current.kind = .endMarker) : ts = [] := by
  cases ts with
  | nil => rfl
  | cons t ts =>
    rw [h.current] at hw
    exact absurd hw (h.kind t List.mem_cons_self)

end At

theorem tokens_getD (source : String) (i : Nat) :
    (tokenize source).getD i .endMarker = (Lexer.ofString source).tokens.getD i .endMarker := by
  rw [tokenize, List.getD_eq_getElem?_getD, List.getD_eq_getElem?_getD, List.getElem?_append]
  split
  · rfl
  · rename_i h
    rw [List.getElem?_eq_none (Nat.le_of_not_lt h)]
    cases i - (Lexer.ofString source).tokens.length <;> rfl

/-- Lists without end markers are told apart by their tokens, if end markers follow them. -/
theorem eq_of_getD_eq {ts us : List Token} (ht : ∀ t ∈ ts, t.kind ≠ .endMarker)
    (hu : ∀ u ∈ us, u.kind ≠ .endMarker)
    (h : ∀ i, ts.getD i .endMarker = us.getD i .endMarker) : ts = us := by
  induction ts generalizing us with
  | nil =>
    cases us with
    | nil => rfl
    | cons u us => exact absurd (congrArg Token.kind (h 0)).symm (hu u List.mem_cons_self)
  | cons t ts ih =>
    cases us with
    | nil => exact absurd (congrArg Token.kind (h 0)) (ht t List.mem_cons_self)
    | cons u us =>
      have htail := ih (fun t h => ht t (List.mem_cons_of_mem _ h))
        (fun u h => hu u (List.mem_cons_of_mem _ h)) fun i => h (i + 1)
      obtain rfl : t = u := h 0
      rw [htail]

theorem At.of_upcoming {ts : List Token} {w : Window} (ht : ∀ t ∈ ts, t.kind ≠ .endMarker)
    (h : ∀ i, w.upcoming i = ts.getD i .endMarker) : At ts w where
  current := (h 0).trans (headD_eq_getD ts).symm
  reading := by rw [headD_eq_getD, getD_tail]; exact h 1
  lexer := by
    refine eq_of_getD_eq (Lexer.kind_ne_endMarker _)
      (fun t h => ht t (List.mem_of_mem_tail (List.mem_of_mem_tail h))) fun i => ?_
    rw [← upcoming_add_two, h, getD_tail, getD_tail]
  kind := ht

theorem views_iff {source : String} {w : Window} :
    Views source w ↔ ∃ k, At ((Lexer.ofString source).tokens.drop k) w := by
  have hd (k i : Nat) : (tokenize source).getD (k + i) .endMarker =
      ((Lexer.ofString source).tokens.drop k).getD i .endMarker := by
    rw [tokens_getD, List.getD_eq_getElem?_getD, List.getD_eq_getElem?_getD, List.getElem?_drop]
  refine exists_congr fun k => ⟨fun h => .of_upcoming ?_ fun i => (h i).trans (hd k i),
    fun h i => (h.upcoming i).trans (hd k i).symm⟩
  exact fun t ht => Lexer.kind_ne_endMarker _ t (List.mem_of_mem_drop ht)

theorem views_ofString (source : String) : Views source (ofString source) :=
  views_iff.2 ⟨0, At.ofString source⟩

theorem Views.onward {source : String} {v w : Window} (h : Views source w) (hv : Onward w v) :
    Views source v := by
  obtain ⟨k, h⟩ := views_iff.1 h
  obtain ⟨n, h⟩ := h.onward hv
  exact views_iff.2 ⟨k + n, by rwa [List.drop_drop] at h⟩

end Window
end Reckon
