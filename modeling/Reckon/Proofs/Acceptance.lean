import Reckon.Proofs.Reading
import Reckon.Proofs.Segmentation

/-! Statements are read segment by segment: a segment that the grammar derives gives its statement,
any other one a bad statement or the failure of a literal, and reading goes on right after it. -/

namespace Reckon

/-- What the first statement of the tokens comes to, whatever is left after it. -/
def outcome (ts : List Token) : Except LiteralError Statement :=
  match Parser.statement { tokens := ts } with
  | .ok s _ => .ok s
  | .error e _ => .error e

theorem outcome_eq_ok_iff {ts : List Token} {s : Statement} :
    outcome ts = .ok s ↔ ∃ q, Parser.statement { tokens := ts } = .ok s q := by
  unfold outcome
  cases Parser.statement { tokens := ts } <;> simp

def Failure.outcome : Failure → Except LiteralError Statement
  | .malformed fault => .ok (.bad fault.message)
  | .literal e => .error e

theorem readsStatement :
    ParseM.ReadsStatement maxDepth 0 (ParseM.statement (ParseM.expression .sum)) :=
  ParseM.reads_statement (ParseM.reads_expression 0 .sum)

theorem statement_of_derives {seg : List Token} {s : Statement}
    (h : Statement.Derives maxDepth seg s) (rest : List Token) :
    Parser.statement ⟨seg ++ rest, 0⟩ = .ok s ⟨rest, 0⟩ := by
  rw [Parser.statement, readsStatement.derives h]

theorem statement_of_expects {p r rest : List Token} {w : Want} (hs : Segment (p ++ r) rest)
    (hp : Statement.Expects maxDepth p w) (hr : w.Refuses (r.headD .endMarker)) :
    Parser.statement ⟨p ++ r ++ rest, 0⟩ = match w.failure (r.headD .endMarker) with
      | .malformed fault => .ok (.bad fault.message) ⟨rest, 0⟩
      | .literal e => .error e ⟨r ++ rest, 0⟩ := by
  have hh := hs.headD_append hp.ne_semicolon .endMarker
  have hm := readsStatement.expects (r := r ++ rest) hp (by rwa [hh])
  rw [Parser.statement, List.append_assoc, hm, hh]
  cases w.failure (r.headD .endMarker) with
  | malformed fault => simp only [Parser.recover, hs.tail_dropWhile hp.ne_semicolon]
  | literal e => rfl

/-- A segment is a statement of the grammar, or it runs into a token that is refused. -/
theorem segment_cases {seg rest : List Token} (h : Segment seg rest) :
    (∃ s, Statement.Derives maxDepth seg s) ∨
      ∃ p r w, seg = p ++ r ∧ Statement.Expects maxDepth p w ∧ w.Refuses (r.headD .endMarker) := by
  have hd : Statement.Splits maxDepth seg := Statement.splits 255 seg
  rcases hd with ⟨us, r, s, rfl, hs⟩ | h
  · obtain ⟨vs, t, rfl, ht⟩ := hs.eq_append_semicolon
    by_cases hr : r = []
    · exact .inl ⟨s, by simpa [hr] using hs⟩
    · exact absurd ht (h.ne_semicolon_of_mem hr (by simp))
  · exact .inr h

theorem outcome_of_derives {seg : List Token} {s : Statement}
    (h : Statement.Derives maxDepth seg s) (rest : List Token) :
    outcome (seg ++ rest) = .ok s := by
  rw [outcome, statement_of_derives h]

theorem outcome_of_expects {p r rest : List Token} {w : Want} (hs : Segment (p ++ r) rest)
    (hp : Statement.Expects maxDepth p w) (hr : w.Refuses (r.headD .endMarker)) :
    outcome (p ++ r ++ rest) = (w.failure (r.headD .endMarker)).outcome := by
  rw [outcome, statement_of_expects hs hp hr]
  cases w.failure (r.headD .endMarker) <;> rfl

/-- What a segment comes to does not depend on what follows it. -/
theorem outcome_append {seg rest : List Token} (h : Segment seg rest) :
    outcome (seg ++ rest) = outcome seg := by
  rcases segment_cases h with ⟨s, hs⟩ | ⟨p, r, w, rfl, hp, hr⟩
  · rw [outcome_of_derives hs, ← outcome_of_derives hs [], List.append_nil]
  · rw [outcome_of_expects h hp hr, ← outcome_of_expects h.alone hp hr, List.append_nil]

theorem outcome_eq_iff_derives {seg rest : List Token} (h : Segment seg rest) {s : Statement} :
    outcome (seg ++ rest) = .ok s ∧ s.isBad = false ↔ Statement.Derives maxDepth seg s := by
  constructor
  · rintro ⟨ho, hs⟩
    rcases segment_cases h with ⟨s', hs'⟩ | ⟨p, r, w, rfl, hp, hr⟩
    · rw [outcome_of_derives hs'] at ho
      cases ho
      exact hs'
    · rw [outcome_of_expects h hp hr] at ho
      cases hf : w.failure (r.headD .endMarker) <;> rw [hf] at ho <;> cases ho
      cases hs
  · exact fun hs => ⟨outcome_of_derives hs rest, hs.isBad⟩

/-- A segment reads as a good statement exactly where the grammar derives it, and as the statement
of that derivation. There is never a second one. -/
theorem statement_good_iff_derives {source : String} {before after : List (List Token)}
    {seg : List Token} (h : segments (Parser.ofString source).tokens = before ++ seg :: after) :
    (∀ s, (∃ q, Parser.statement { tokens := (seg :: after).flatten } = .ok s q) ∧ s.isBad = false ↔
      Statement.Derives maxDepth seg s) ∧
    (∀ s, Statement.Derives maxDepth seg s ↔
      ∃ x : Statement.Tree maxDepth, x.tokens = seg ∧ x.statement = s) ∧
    ∀ x y : Statement.Tree maxDepth, x.tokens = seg → y.tokens = seg → x = y := by
  refine ⟨fun s => ?_, fun s => Statement.Tree.derives_iff, fun x y hx hy => ?_⟩
  · rw [← outcome_eq_ok_iff]
    exact outcome_eq_iff_derives (segment_of_segments h)
  · exact x.unique y (hx.trans hy.symm)

theorem statement_good_iff_derives_product :
    segments (Parser.ofString "1; -a * (2 + 3); b").tokens =
        [[⟨.number, "1"⟩, .semicolon]] ++
          [⟨.minus, "-"⟩, ⟨.name, "a"⟩, ⟨.star, "*"⟩, .leftParen, ⟨.number, "2"⟩, ⟨.plus, "+"⟩,
            ⟨.number, "3"⟩, .rightParen, .semicolon] :: [[⟨.name, "b"⟩]] ∧
      Statement.Derives maxDepth
        [⟨.minus, "-"⟩, ⟨.name, "a"⟩, ⟨.star, "*"⟩, .leftParen, ⟨.number, "2"⟩, ⟨.plus, "+"⟩,
          ⟨.number, "3"⟩, .rightParen, .semicolon]
        (.expression (.binary .times (.unary .negative (.identifier "a"))
          (.binary .plus (.integer ⟨2, by decide, by decide⟩)
            (.integer ⟨3, by decide, by decide⟩)))) := by
  refine ⟨?h, ((statement_good_iff_derives ?h).1 _).1 ⟨⟨_, rfl⟩, rfl⟩⟩
  decide +kernel

end Reckon
