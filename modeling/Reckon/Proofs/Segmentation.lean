import Reckon.Token.Basic

/-! A token list cut into segments, one for each statement: a segment ends with its first
semicolon, and only the last one may lack it. -/

namespace Reckon

def segments : List Token → List (List Token)
  | [] => []
  | t :: ts =>
    if t.kind = .semicolon then [t] :: segments ts
    else match segments ts with
      | [] => [[t]]
      | s :: ss => (t :: s) :: ss

theorem flatten_segments (ts : List Token) : (segments ts).flatten = ts := by
  fun_induction segments ts with
  | case1 => rfl
  | case2 t ts _ ih => simp [ih]
  | case3 t ts _ h ih => simpa [h] using ih.symm
  | case4 t ts _ s ss h ih => simpa [h] using ih

/-- `seg` is the first segment of `seg ++ rest`. -/
structure Segment (seg rest : List Token) : Prop where
  ne_nil : seg ≠ []
  plain : ∀ t ∈ seg.dropLast, t.kind ≠ .semicolon
  closed : rest = [] ∨ ∃ us s, seg = us ++ [s] ∧ s.kind = .semicolon

/-- Whether the list ends with a token that is no semicolon. -/
def Unterminated (ts : List Token) : Prop := ∃ t ∈ ts.getLast?, t.kind ≠ .semicolon

instance (ts : List Token) : Decidable (Unterminated ts) :=
  inferInstanceAs (Decidable (∃ t ∈ ts.getLast?, t.kind ≠ .semicolon))

namespace Segment

theorem alone {seg rest : List Token} (h : Segment seg rest) : Segment seg [] :=
  ⟨h.ne_nil, h.plain, .inl rfl⟩

theorem of_rest_ne_nil {seg rest : List Token} (h : Segment seg rest) (hr : rest ≠ [])
    (rest' : List Token) : Segment seg rest' :=
  ⟨h.ne_nil, h.plain, .inr (h.closed.resolve_left hr)⟩

theorem single {t : Token} {rest : List Token} (h : rest = [] ∨ t.kind = .semicolon) :
    Segment [t] rest :=
  ⟨by simp, by simp, h.imp_right fun ht => ⟨[], t, rfl, ht⟩⟩

theorem cons {t : Token} {seg rest : List Token} (ht : t.kind ≠ .semicolon)
    (h : Segment seg rest) : Segment (t :: seg) rest := by
  refine ⟨by simp, ?_, h.closed.imp_right ?_⟩
  · rw [List.dropLast_cons_of_ne_nil h.ne_nil]
    intro u hu
    rcases List.mem_cons.1 hu with rfl | hu
    · exact ht
    · exact h.plain u hu
  · rintro ⟨us, s, rfl, hs⟩
    exact ⟨t :: us, s, rfl, hs⟩

theorem ne_semicolon_of_mem {p r rest : List Token} (h : Segment (p ++ r) rest) (hr : r ≠ [])
    {t : Token} (ht : t ∈ p) : t.kind ≠ .semicolon := by
  apply h.plain
  rw [List.dropLast_append_of_ne_nil hr]
  exact List.mem_append_left _ ht

theorem of_append {p r rest : List Token} (h : Segment (p ++ r) rest) (hp : p ≠ [])
    (hr : r ≠ []) : Segment p [] :=
  ⟨hp, fun _ ht => h.ne_semicolon_of_mem hr (List.dropLast_subset p ht), .inl rfl⟩

theorem rest_eq_nil {seg rest : List Token} (h : Segment seg rest)
    (hs : ∀ t ∈ seg, t.kind ≠ .semicolon) : rest = [] := by
  rcases h.closed with h | ⟨us, s, rfl, hk⟩
  · exact h
  · exact absurd hk (hs s (by simp))

theorem headD_append {p r rest : List Token} (h : Segment (p ++ r) rest)
    (hp : ∀ t ∈ p, t.kind ≠ .semicolon) (t : Token) : (r ++ rest).headD t = r.headD t := by
  cases r with
  | nil => rw [h.rest_eq_nil (by simpa using hp)]; rfl
  | cons u r => rfl

/-- What follows the first semicolon is what follows the segment. -/
theorem tail_dropWhile {p r rest : List Token} (h : Segment (p ++ r) rest)
    (hp : ∀ t ∈ p, t.kind ≠ .semicolon) :
    ((r ++ rest).dropWhile (·.kind ≠ .semicolon)).tail = rest := by
  rcases List.eq_nil_or_concat r with rfl | ⟨us, u, rfl⟩
  · rw [h.rest_eq_nil (by simpa using hp)]
    rfl
  · rw [List.concat_eq_append, ← List.append_assoc] at h
    have hu : ∀ t ∈ us, (decide (t.kind ≠ .semicolon)) = true := fun t ht =>
      decide_eq_true (h.ne_semicolon_of_mem (by simp) (List.mem_append_right p ht))
    rw [List.concat_eq_append, List.append_assoc, List.dropWhile_append_of_pos hu]
    rcases h.closed with rfl | ⟨us', s, hs, hk⟩
    · by_cases hk : u.kind = .semicolon <;> simp [hk]
    · obtain ⟨-, hs⟩ := List.append_inj' hs rfl
      cases hs
      simp [hk]

end Segment

theorem segments_eq_nil_iff {ts : List Token} : segments ts = [] ↔ ts = [] := by
  fun_cases segments ts <;> simp_all

theorem segments_eq_cons {ts seg : List Token} {segs : List (List Token)}
    (h : segments ts = seg :: segs) :
    ts = seg ++ segs.flatten ∧ segments segs.flatten = segs ∧ Segment seg segs.flatten := by
  fun_induction segments ts generalizing seg segs with
  | case1 => cases h
  | case2 t ts ht _ =>
    cases h
    rw [flatten_segments]
    exact ⟨rfl, rfl, .single (.inr ht)⟩
  | case3 t ts _ hs _ =>
    cases h
    obtain rfl := segments_eq_nil_iff.1 hs
    exact ⟨rfl, rfl, .single (.inl rfl)⟩
  | case4 t ts ht s ss hs ih =>
    cases h
    obtain ⟨rfl, h2, h3⟩ := ih hs
    exact ⟨rfl, h2, h3.cons ht⟩

theorem segment_of_segments {ts seg : List Token} {before after : List (List Token)}
    (h : segments ts = before ++ seg :: after) : Segment seg after.flatten := by
  induction before generalizing ts with
  | nil => exact (segments_eq_cons h).2.2
  | cons s before ih => exact ih (segments_eq_cons h).2.1

/-- A semicolon cuts the list whatever stands around it. -/
theorem segments_append {ts us : List Token} {s : Token} (hs : s.kind = .semicolon) :
    segments (ts ++ s :: us) = segments (ts ++ [s]) ++ segments us := by
  induction ts with
  | nil => simp [segments, hs]
  | cons t ts ih =>
    by_cases ht : t.kind = .semicolon
    · simp [segments, ht, ih]
    · cases h : segments (ts ++ [s]) with
      | nil => simp [segments_eq_nil_iff] at h
      | cons seg segs => simp [segments, ht, ih, h]

theorem segments_append_of_not_unterminated {ts us : List Token} (h : ¬ Unterminated ts) :
    segments (ts ++ us) = segments ts ++ segments us := by
  rcases List.eq_nil_or_concat ts with rfl | ⟨vs, s, rfl⟩
  · rfl
  · rw [List.concat_eq_append] at h ⊢
    have hs : s.kind = .semicolon := by simpa [Unterminated] using h
    rw [List.append_assoc, List.singleton_append, segments_append hs]

theorem unterminated_cons {t : Token} {ts : List Token} (h : ts ≠ []) :
    Unterminated (t :: ts) ↔ Unterminated ts := by
  obtain ⟨u, us, rfl⟩ := List.exists_cons_of_ne_nil h
  rw [Unterminated, Unterminated, List.getLast?_cons_cons]

theorem unterminated_cons_semicolon {t : Token} {ts : List Token} (ht : t.kind = .semicolon) :
    Unterminated (t :: ts) ↔ Unterminated ts := by
  cases ts with
  | nil => simp [Unterminated, ht]
  | cons u us => exact unterminated_cons (by simp)

theorem length_segments (ts : List Token) :
    (segments ts).length =
      ts.countP (·.kind = .semicolon) + (if Unterminated ts then 1 else 0) := by
  fun_induction segments ts with
  | case1 => rfl
  | case2 t ts ht ih => simp [ih, ht, unterminated_cons_semicolon ht]; omega
  | case3 t ts ht hs _ =>
    obtain rfl := segments_eq_nil_iff.1 hs
    simp [Unterminated, ht]
  | case4 t ts ht s ss hs ih =>
    have hne : ts ≠ [] := fun h => by simp [segments_eq_nil_iff.2 h] at hs
    simpa [hs, ht, unterminated_cons hne] using ih

theorem Unterminated.last_segment {ts : List Token} (h : Unterminated ts) :
    ∃ segs seg, segments ts = segs ++ [seg] ∧ Segment seg [] ∧ Unterminated seg := by
  rcases List.eq_nil_or_concat (segments ts) with hs | ⟨segs, seg, hs⟩
  · rw [segments_eq_nil_iff.1 hs] at h
    obtain ⟨t, ht, -⟩ := h
    cases ht
  · rw [List.concat_eq_append] at hs
    have hseg := segment_of_segments hs
    refine ⟨segs, seg, hs, hseg, ?_⟩
    rw [← flatten_segments ts, hs] at h
    simpa [Unterminated, hseg.ne_nil] using h

end Reckon
