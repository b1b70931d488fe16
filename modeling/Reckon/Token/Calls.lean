import Reckon.Token.Lexer

/-! Asking a lexer for its tokens, one call after the other. A call moves the lexer on or only
counts what is left. -/

namespace Reckon.Lexer

/-- How many tokens are left, found by taking them off one by one. -/
def count (l : Lexer) : Nat :=
  match h : l.next? with
  | (none, _) => 0
  | (some t, r) =>
    have : r.rest.length < l.rest.length := by
      simp only [next?, Prod.mk.injEq] at h
      obtain ⟨ht, rfl⟩ := h
      exact rest_next_lt fun hk => nomatch (if_pos hk).symm.trans ht
    r.count + 1
termination_by l.rest.length

inductive Call
  | next
  | next?
  | count
deriving DecidableEq

inductive Reply
  | token (t : Token)
  | token? (t? : Option Token)
  | count (n : Nat)
deriving DecidableEq

/-- The reply to a call, and the lexer after it. Counting is done on a copy. -/
def perform (l : Lexer) : Call → Reply × Lexer
  | .next => (.token l.next.1, l.next.2)
  | .next? => (.token? l.next?.1, l.next?.2)
  | .count => (.count l.count, l)

def replies (l : Lexer) : List Call → List Reply
  | [] => []
  | c :: cs => (l.perform c).1 :: (l.perform c).2.replies cs

/-- Whether the call moves the lexer. -/
def Call.moves : Call → Bool
  | .next | .next? => true
  | .count => false

end Reckon.Lexer
