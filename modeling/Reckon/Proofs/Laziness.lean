import Reckon.Proofs.Tokenization
import Reckon.Token.Calls

/-! A lexer that is asked for one token at a time gives those it would give all at once. However
the calls are mixed, the reply to one depends only on how many calls before it have moved the
lexer. -/

namespace Reckon
namespace Lexer

theorem next_eq_endMarker {l : Lexer} (h : l.next.1.kind = .endMarker) : l.next.1 = .endMarker :=
  (next_of_nil (kind_next_eq_endMarker_iff.1 h)).1

theorem next_fst (l : Lexer) : l.next.1 = l.tokens.headD .endMarker := by
  rw [tokens]
  split
  · rename_i h
    exact next_eq_endMarker h
  · rfl

theorem tokens_next (l : Lexer) : l.next.2.tokens = l.tokens.tail := by
  rw [tokens.eq_def l]
  split
  · rename_i h
    have hr : l.next.2.rest = [] := (next_of_nil (kind_next_eq_endMarker_iff.1 h)).2
    exact tokens_of_nil (by rw [hr]; rfl)
  · rfl

/-- The lexer `n` tokens on. -/
def later (l : Lexer) : Nat → Lexer
  | 0 => l
  | n + 1 => l.next.2.later n

theorem later_succ (l : Lexer) (n : Nat) : l.later (n + 1) = (l.later n).next.2 := by
  induction n generalizing l with
  | zero => rfl
  | succ n ih => exact ih l.next.2

theorem tokens_later (l : Lexer) (n : Nat) : (l.later n).tokens = l.tokens.drop n := by
  induction n generalizing l with
  | zero => rfl
  | succ n ih => rw [later, ih, tokens_next, List.drop_tail]

theorem next?_fst (l : Lexer) : l.next?.1 = l.tokens.head? := by
  rw [tokens]
  split
  · rename_i h
    exact if_pos h
  · rename_i h
    exact if_neg h

theorem next?_snd (l : Lexer) : l.next?.2 = l.next.2 := rfl

theorem count_eq (l : Lexer) : l.count = l.tokens.length := by
  fun_induction count l with
  | case1 l r h =>
    have ht : l.tokens.head? = none := by rw [← next?_fst, h]
    rw [List.head?_eq_none_iff.1 ht]
    rfl
  | case2 l t r h _ ih =>
    have ht : l.tokens.head? = some t := by rw [← next?_fst, h]
    have hr : r.tokens = l.tokens.tail := by rw [← tokens_next, ← next?_snd, h]
    rw [ih, hr, List.length_tail, Nat.sub_add_cancel]
    exact List.length_pos_iff_exists_mem.2 ⟨t, List.mem_of_head? ht⟩

/-- The reply to a call where `ts` is left. -/
def Call.reply (ts : List Token) : Call → Reply
  | .next => .token (ts.headD .endMarker)
  | .next? => .token? ts.head?
  | .count => .count ts.length

theorem perform_fst (l : Lexer) (c : Call) : (l.perform c).1 = c.reply l.tokens := by
  cases c with
  | next => rw [perform, next_fst, Call.reply]
  | next? => rw [perform, next?_fst, Call.reply]
  | count => rw [perform, count_eq, Call.reply]

theorem tokens_perform (l : Lexer) (c : Call) :
    (l.perform c).2.tokens = l.tokens.drop (if c.moves then 1 else 0) := by
  cases c with
  | next | next? => exact (l.tokens_next).trans List.drop_one.symm
  | count => rfl

theorem getElem?_replies (l : Lexer) (cs : List Call) (i : Nat) :
    (l.replies cs)[i]? =
      cs[i]?.map (Call.reply (l.tokens.drop ((cs.take i).countP Call.moves))) := by
  induction cs generalizing l i with
  | nil => rfl
  | cons c cs ih =>
    cases i with
    | zero => rw [replies, perform_fst]; rfl
    | succ i =>
      rw [replies, List.getElem?_cons_succ, List.getElem?_cons_succ, ih, tokens_perform,
        List.drop_drop, List.take_succ_cons, List.countP_cons, Nat.add_comm]

end Lexer

open Lexer in
/-- After `k` moves a lexer gives the token with `k` others before it, or the end marker once there
is none, and counts those that are left. -/
theorem replies_eq {source : String} {ts : List Token}
    (h : tokenize source = ts ++ [.endMarker]) (calls : List Call) (i : Nat) :
    ((Lexer.ofString source).replies calls)[i]? =
      let k := (calls.take i).countP Call.moves
      calls[i]?.map fun (c : Call) => match c with
        | .next => .token (ts.getD k .endMarker)
        | .next? => .token? ts[k]?
        | .count => .count (ts.length - min k ts.length) := by
  obtain rfl : (Lexer.ofString source).tokens = ts := List.append_cancel_right h
  rw [getElem?_replies]
  refine congrArg (Option.map · _) (funext fun c => ?_)
  cases c with
  | next => simp [Call.reply, List.headD_eq_head?_getD, List.getD_eq_getElem?_getD]
  | next? => simp [Call.reply]
  | count =>
    simp only [Call.reply, List.length_drop]
    congr 1
    omega

theorem replies_eq_mixed :
    tokenize " 1+ x " = [⟨.number, "1"⟩, ⟨.plus, "+"⟩, ⟨.name, "x"⟩] ++ [.endMarker] ∧
      (Lexer.ofString " 1+ x ").replies [.next?, .count, .next, .next, .next?, .count, .next] =
        [.token? (some ⟨.number, "1"⟩), .count 2, .token ⟨.plus, "+"⟩, .token ⟨.name, "x"⟩,
          .token? none, .count 0, .token .endMarker] := by
  have h : tokenize " 1+ x " =
      [⟨.number, "1"⟩, ⟨.plus, "+"⟩, ⟨.name, "x"⟩] ++ [.endMarker] := by decide +kernel
  refine ⟨h, List.ext_getElem? fun i => ?_⟩
  rw [replies_eq h]
  match i with
  | 0 | 1 | 2 | 3 | 4 | 5 | 6 | _ + 7 => rfl

end Reckon
