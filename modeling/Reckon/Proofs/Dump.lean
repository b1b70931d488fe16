import Reckon.Proofs.OneLine
import Reckon.Proofs.RoundTrip

/-! What a dump tells. A text that begins with the dump of an expression or a statement says which
one it is and where the dump ends, so programs with the same dump are the same. Names are not
escaped: this holds for names without a double quote, and no other name is ever read. -/

namespace Reckon

/-- A mark that stands in neither of two texts tells where each is over. -/
theorem append_mark_inj {α : Type} {mark : α} {xs ys r s : List α} (hx : mark ∉ xs)
    (hy : mark ∉ ys) (h : xs ++ mark :: r = ys ++ mark :: s) : xs = ys ∧ r = s := by
  induction xs generalizing ys with
  | nil =>
    cases ys with
    | nil => exact ⟨rfl, (List.cons.inj h).2⟩
    | cons y ys =>
      obtain ⟨rfl, -⟩ := List.cons.inj h
      exact absurd List.mem_cons_self hy
  | cons x xs ih =>
    cases ys with
    | nil =>
      obtain ⟨rfl, -⟩ := List.cons.inj h
      exact absurd List.mem_cons_self hx
    | cons y ys =>
      obtain ⟨rfl, ht⟩ := List.cons.inj h
      obtain ⟨rfl, rfl⟩ := ih (List.not_mem_of_not_mem_cons hx) (List.not_mem_of_not_mem_cons hy) ht
      exact ⟨rfl, rfl⟩

/-- Two words tell the texts that begin with them apart, unless one begins with the other. -/
theorem ofList_append_ne {cs ds r s : List Char}
    (h : cs.isPrefixOf ds = false ∧ ds.isPrefixOf cs = false) :
    (String.ofList cs).toList ++ r ≠ (String.ofList ds).toList ++ s := by
  rw [String.toList_ofList, String.toList_ofList]
  intro he
  have hc : cs <+: ds ++ s := ⟨r, he⟩
  rcases List.prefix_or_prefix_of_prefix hc (List.prefix_append ds s) with hp | hp
  · exact Bool.false_ne_true (h.1.symm.trans (List.isPrefixOf_iff_prefix.2 hp))
  · exact Bool.false_ne_true (h.2.symm.trans (List.isPrefixOf_iff_prefix.2 hp))

/-- As `append_mark_inj`, the mark being the first character of a word. -/
theorem append_ofList_inj {mark : Char} {cs xs ys r s : List Char} (hx : mark ∉ xs)
    (hy : mark ∉ ys) (h : xs ++ ((String.ofList (mark :: cs)).toList ++ r) =
      ys ++ ((String.ofList (mark :: cs)).toList ++ s)) : xs = ys ∧ r = s := by
  rw [String.toList_ofList, List.cons_append, List.cons_append] at h
  obtain ⟨rfl, hr⟩ := append_mark_inj hx hy h
  exact ⟨rfl, List.append_cancel_left hr⟩

theorem digitChar_inj : ∀ m < 16, ∀ n < 16, m.digitChar = n.digitChar → m = n := by decide

theorem toDigits_injective {b : Nat} (hb : 1 < b) (hb' : b ≤ 16) :
    Function.Injective (Nat.toDigits b) := by
  intro m n h
  induction m using Nat.strong_induction_on generalizing n with
  | _ m ih =>
    have hd (n : Nat) : 0 < (Nat.toDigits b n).length := Nat.length_toDigits_pos
    rw [Nat.toDigits_eq_if (n := m) hb, Nat.toDigits_eq_if (n := n) hb] at h
    split_ifs at h with hm hn hn'
    · exact digitChar_inj m (by omega) n (by omega) (List.singleton_inj.1 h)
    · have hl := congrArg List.length h
      have := hd (n / b)
      simp only [List.length_append, List.length_singleton] at hl
      omega
    · have hl := congrArg List.length h
      have := hd (m / b)
      simp only [List.length_append, List.length_singleton] at hl
      omega
    · obtain ⟨hq, hr⟩ := List.append_inj' h rfl
      have hmod (n : Nat) : n % b < 16 := Nat.lt_of_lt_of_le (Nat.mod_lt n (by omega)) hb'
      have hr := digitChar_inj _ (hmod m) _ (hmod n) (List.singleton_inj.1 hr)
      have hq := ih (m / b) (Nat.div_lt_self (by omega) hb) hq
      rw [← Nat.div_add_mod m b, hq, hr, Nat.div_add_mod]

theorem notMem_toDigits {c : Char} (hc : ∀ n : Nat, n.digitChar ≠ c) {b : Nat} (hb : 1 < b)
    (n : Nat) : c ∉ Nat.toDigits b n := by
  intro h
  obtain ⟨k, hk⟩ := exists_digitChar_of_mem_toDigits hb h
  exact hc k hk.symm

namespace Text

/-- The escapes of two characters, each with the character it stands for. -/
def shorthands : List (Char × Char) :=
  [('0', '\x00'), ('t', '\t'), ('n', '\n'), ('r', '\r'), ('\\', '\\'), ('"', '"')]

/-- What may stand for a character between quotes. Which characters are written by their code
points is left open. -/
inductive Escapes : Char → List Char → Prop
  | plain {c : Char} : c ≠ '\\' → c ≠ '"' → Escapes c [c]
  | short {c d : Char} : (d, c) ∈ shorthands → Escapes c ['\\', d]
  | codePoint {c : Char} : Escapes c ('\\' :: 'u' :: '\x7b' :: Nat.toDigits 16 c.toNat ++ ['\x7d'])

theorem escapes_escape (c : Char) : Escapes c (escape c) := by
  unfold escape
  split
  case h_7 =>
    rename_i hb hq
    split
    · exact .codePoint
    · exact .plain hb hq
  all_goals exact .short (by decide)

theorem shorthands_inj : ∀ p ∈ shorthands, ∀ q ∈ shorthands, p.1 = q.1 → p.2 = q.2 := by decide

theorem shorthands_ne_u : ∀ p ∈ shorthands, p.1 ≠ 'u' := by decide

theorem Escapes.unique {c d : Char} {cs ds r s : List Char} (hc : Escapes c cs)
    (hd : Escapes d ds) (h : cs ++ r = ds ++ s) : c = d ∧ r = s := by
  cases hc with
  | plain hb hq =>
    cases hd with
    | plain => exact ⟨(List.cons.inj h).1, (List.cons.inj h).2⟩
    | short | codePoint => exact absurd (List.cons.inj h).1 hb
  | short hm =>
    cases hd with
    | plain hb => exact absurd (List.cons.inj h).1.symm hb
    | short hm' =>
      simp only [List.cons_append, List.nil_append, List.cons.injEq, true_and] at h
      exact ⟨shorthands_inj _ hm _ hm' h.1, h.2⟩
    | codePoint =>
      simp only [List.cons_append, List.nil_append, List.cons.injEq, true_and] at h
      exact absurd h.1 (shorthands_ne_u _ hm)
  | codePoint =>
    cases hd with
    | plain hb => exact absurd (List.cons.inj h).1.symm hb
    | short hm' =>
      simp only [List.cons_append, List.nil_append, List.cons.injEq, true_and] at h
      exact absurd h.1.symm (shorthands_ne_u _ hm')
    | codePoint =>
      simp only [List.cons_append, List.append_assoc, List.nil_append, List.cons.injEq,
        true_and] at h
      have hn := notMem_toDigits (c := '\x7d') (fun n => Nat.digitChar_ne _ (by decide))
        (b := 16) (by decide)
      obtain ⟨hcd, hr⟩ := append_mark_inj (hn c.toNat) (hn d.toNat) h
      exact ⟨Char.toNat_inj.1 (toDigits_injective (by decide) (by decide) hcd), hr⟩

theorem Escapes.head_ne {c : Char} {cs r s : List Char} (h : Escapes c cs) :
    cs ++ r ≠ '"' :: s := by
  intro he
  cases h with
  | plain _ hq => exact hq (List.cons.inj he).1
  | short | codePoint => exact absurd (List.cons.inj he).1 (by decide)

theorem escape_inj {cs ds r s : List Char}
    (h : cs.flatMap escape ++ '"' :: r = ds.flatMap escape ++ '"' :: s) : cs = ds ∧ r = s := by
  induction cs generalizing ds with
  | nil =>
    cases ds with
    | nil => exact ⟨rfl, (List.cons.inj h).2⟩
    | cons d ds =>
      rw [List.flatMap_cons, List.append_assoc] at h
      exact absurd h.symm (escapes_escape d).head_ne
  | cons c cs ih =>
    rw [List.flatMap_cons, List.append_assoc] at h
    cases ds with
    | nil => exact absurd h (escapes_escape c).head_ne
    | cons d ds =>
      rw [List.flatMap_cons, List.append_assoc] at h
      obtain ⟨rfl, ht⟩ := (escapes_escape c).unique (escapes_escape d) h
      obtain ⟨rfl, rfl⟩ := ih ht
      exact ⟨rfl, rfl⟩

theorem quoted_inj {m n : String} {r s : List Char}
    (h : (quoted m).toList ++ r = (quoted n).toList ++ s) : m = n ∧ r = s := by
  simp only [quoted, String.toList_ofList, List.cons_append, List.append_assoc, List.nil_append,
    List.cons.injEq, true_and] at h
  obtain ⟨hm, hr⟩ := escape_inj h
  exact ⟨String.toList_inj.1 hm, hr⟩

end Text

theorem Integer.text_injective : Function.Injective text := by
  intro m n h
  have hs (k : Nat) (cs : List Char) : Nat.toDigits 10 k ≠ '-' :: cs := fun hk =>
    notMem_toDigits (fun n => Nat.digitChar_ne '-' (by decide)) (by decide) k
      (hk ▸ List.mem_cons_self)
  have hd := @toDigits_injective 10 (by decide) (by decide)
  have h := String.toList_inj.2 h
  unfold text at h
  refine Integer.ext ?_
  split_ifs at h with hm hn hn <;>
    simp only [String.toList_append, String.toList_ofList] at h
  · have := hd (List.append_cancel_left h)
    omega
  · exact absurd h.symm (hs _ _)
  · exact absurd h (hs _ _)
  · have := hd h
    omega

theorem Integer.rightParen_notMem_text (n : Integer) : ')' ∉ n.text.toList := by
  have hd : ')' ∉ Nat.toDigits 10 n.toInt.natAbs :=
    notMem_toDigits (fun n => Nat.digitChar_ne _ (by decide)) (by decide) _
  unfold text
  split
  · simpa using hd
  · simpa using hd

/-- Without a double quote. -/
def Name.Unquoted (x : Name) : Prop := '"' ∉ x.toList

instance (x : Name) : Decidable x.Unquoted := inferInstanceAs (Decidable ('"' ∉ x.toList))

theorem Name.dump_inj {x y : Name} (hx : x.Unquoted) (hy : y.Unquoted) {r s : List Char}
    (h : x.dump.toList ++ r = y.dump.toList ++ s) : x = y ∧ r = s := by
  simp only [dump, String.toList_append, List.append_assoc] at h
  obtain ⟨hxy, hr⟩ := append_ofList_inj hx hy (List.append_cancel_left h)
  exact ⟨String.toList_inj.1 hxy, hr⟩

theorem UnaryOp.label_inj {a b : UnaryOp} {r s : List Char}
    (h : a.label.toList ++ r = b.label.toList ++ s) : a = b ∧ r = s := by
  cases a <;> cases b
  case negative.negative | not.not => exact ⟨rfl, List.append_cancel_left h⟩
  all_goals exact absurd h (ofList_append_ne (by decide))

theorem BinaryOp.label_inj {a b : BinaryOp} {r s : List Char}
    (h : a.label.toList ++ r = b.label.toList ++ s) : a = b ∧ r = s := by
  cases a <;> cases b
  case plus.plus | minus.minus | times.times | over.over =>
    exact ⟨rfl, List.append_cancel_left h⟩
  all_goals exact absurd h (ofList_append_ne (by decide))

theorem Expr.dump_inj {e e' : Expr} (h : ∀ x ∈ e.names, Name.Unquoted x)
    (h' : ∀ x ∈ e'.names, Name.Unquoted x) {r s : List Char}
    (hd : e.dump.toList ++ r = e'.dump.toList ++ s) : e = e' ∧ r = s := by
  induction e generalizing e' r s with
  | integer n =>
    cases e' <;> unfold dump at hd <;> simp only [String.toList_append, List.append_assoc] at hd
    case integer n' =>
      obtain ⟨hn, rfl⟩ := append_ofList_inj n.rightParen_notMem_text n'.rightParen_notMem_text
        (List.append_cancel_left hd)
      rw [Integer.text_injective (String.toList_inj.1 hn)]
      exact ⟨rfl, rfl⟩
    all_goals exact absurd hd (ofList_append_ne (by decide))
  | identifier x =>
    cases e' <;> unfold dump at hd <;> simp only [String.toList_append, List.append_assoc] at hd
    case identifier y =>
      rw [names, List.forall_mem_singleton] at h h'
      obtain ⟨rfl, hr⟩ := Name.dump_inj h h' (List.append_cancel_left hd)
      exact ⟨rfl, List.append_cancel_left hr⟩
    all_goals exact absurd hd (ofList_append_ne (by decide))
  | unary op e ih =>
    cases e' <;> unfold dump at hd <;> simp only [String.toList_append, List.append_assoc] at hd
    case unary op' e' =>
      rw [names] at h h'
      obtain ⟨rfl, he⟩ := UnaryOp.label_inj (List.append_cancel_left hd)
      obtain ⟨rfl, hr⟩ := ih h h' (List.append_cancel_left he)
      exact ⟨rfl, List.append_cancel_left hr⟩
    all_goals exact absurd hd (ofList_append_ne (by decide))
  | binary op f g ihf ihg =>
    cases e' <;> unfold dump at hd <;> simp only [String.toList_append, List.append_assoc] at hd
    case binary op' f' g' =>
      rw [names, List.forall_mem_append] at h h'
      obtain ⟨rfl, hf⟩ := BinaryOp.label_inj (List.append_cancel_left hd)
      obtain ⟨rfl, hg⟩ := ihf h.1 h'.1 (List.append_cancel_left hf)
      obtain ⟨rfl, hr⟩ := ihg h.2 h'.2 (List.append_cancel_left hg)
      exact ⟨rfl, List.append_cancel_left hr⟩
    all_goals exact absurd hd (ofList_append_ne (by decide))

theorem Declaration.dump_inj {d d' : Declaration} (h : ∀ x ∈ d.names, Name.Unquoted x)
    (h' : ∀ x ∈ d'.names, Name.Unquoted x) {r s : List Char}
    (hd : d.dump.toList ++ r = d'.dump.toList ++ s) : d = d' ∧ r = s := by
  obtain ⟨x, t, value⟩ := d
  obtain ⟨x', t', value'⟩ := d'
  rw [names, List.forall_mem_cons, List.forall_mem_cons] at h h'
  obtain ⟨hx, ht, hv⟩ := h
  obtain ⟨hx', ht', hv'⟩ := h'
  unfold dump at hd
  simp only [String.toList_append, List.append_assoc] at hd
  obtain ⟨rfl, htype⟩ := Name.dump_inj hx hx' (List.append_cancel_left hd)
  obtain ⟨rfl, hvalue⟩ := Name.dump_inj ht ht' (List.append_cancel_left htype)
  have hvalue := List.append_cancel_left hvalue
  cases value with
  | none =>
    cases value' with
    | none => exact ⟨rfl, List.append_cancel_left (List.append_cancel_left hvalue)⟩
    | some e' =>
      simp only [String.toList_append, List.append_assoc] at hvalue
      exact absurd hvalue (ofList_append_ne (by decide))
  | some e =>
    cases value' with
    | none =>
      simp only [String.toList_append, List.append_assoc] at hvalue
      exact absurd hvalue (ofList_append_ne (by decide))
    | some e' =>
      simp only [String.toList_append, List.append_assoc] at hvalue
      obtain ⟨rfl, hr⟩ := Expr.dump_inj hv hv' (List.append_cancel_left hvalue)
      exact ⟨rfl, List.append_cancel_left (List.append_cancel_left hr)⟩

/-- Every name in the statement is without a double quote. -/
def Statement.Unquoted (s : Statement) : Prop := ∀ x ∈ s.names, Name.Unquoted x

instance (s : Statement) : Decidable s.Unquoted :=
  inferInstanceAs (Decidable (∀ x ∈ s.names, Name.Unquoted x))

namespace Statement

theorem dump_inj {s s' : Statement} (h : s.Unquoted) (h' : s'.Unquoted) {r t : List Char}
    (hd : s.dump.toList ++ r = s'.dump.toList ++ t) : s = s' ∧ r = t := by
  cases s with
  | expression e =>
    cases s' <;> unfold dump at hd <;> simp only [String.toList_append, List.append_assoc] at hd
    case expression e' =>
      obtain ⟨rfl, hr⟩ := Expr.dump_inj h h' (List.append_cancel_left hd)
      exact ⟨rfl, List.append_cancel_left hr⟩
    all_goals exact absurd hd (ofList_append_ne (by decide))
  | declaration d =>
    cases s' <;> unfold dump at hd <;> simp only [String.toList_append, List.append_assoc] at hd
    case declaration d' =>
      obtain ⟨rfl, hr⟩ := Declaration.dump_inj h h' (List.append_cancel_left hd)
      exact ⟨rfl, List.append_cancel_left hr⟩
    all_goals exact absurd hd (ofList_append_ne (by decide))
  | bad m =>
    cases s' <;> unfold dump at hd <;> simp only [String.toList_append, List.append_assoc] at hd
    case bad m' =>
      obtain ⟨rfl, hr⟩ := Text.quoted_inj (List.append_cancel_left hd)
      exact ⟨rfl, List.append_cancel_left hr⟩
    all_goals exact absurd hd (ofList_append_ne (by decide))

/-- The end of a list is not taken for a statement. -/
theorem dump_append_ne (s : Statement) {r t : List Char} :
    s.dump.toList ++ r ≠ "] \x7d".toList ++ t := by
  cases s <;> unfold dump <;> simp only [String.toList_append, List.append_assoc] <;>
    exact ofList_append_ne (by decide)

end Statement

namespace Program

/-- The dumps of further statements in a list. -/
def dumpTail (p : Program) : List Char := p.flatMap fun s => ", ".toList ++ s.dump.toList

theorem toList_intercalate_dump (s : Statement) (p : Program) :
    (", ".intercalate ((s :: p).map Statement.dump)).toList = s.dump.toList ++ dumpTail p := by
  induction p generalizing s with
  | nil => rw [List.map_singleton, String.intercalate_singleton, dumpTail, List.flatMap_nil,
      List.append_nil]
  | cons t p ih =>
    rw [List.map_cons, List.map_cons, String.intercalate_cons_cons, ← List.map_cons,
      String.toList_append, String.toList_append, ih, dumpTail, dumpTail, List.flatMap_cons,
      List.append_assoc, List.append_assoc]

theorem dumpTail_inj {p q : Program} (hp : ∀ s ∈ p, s.Unquoted) (hq : ∀ s ∈ q, s.Unquoted)
    (h : dumpTail p ++ "] \x7d".toList = dumpTail q ++ "] \x7d".toList) : p = q := by
  unfold dumpTail at h
  induction p generalizing q with
  | nil =>
    cases q with
    | nil => rfl
    | cons s' q =>
      rw [List.flatMap_nil, List.nil_append, List.flatMap_cons, List.append_assoc,
        List.append_assoc, ← List.append_nil "] \x7d".toList] at h
      exact absurd h (ofList_append_ne (by decide))
  | cons s p ih =>
    cases q with
    | nil =>
      rw [List.flatMap_nil, List.nil_append, List.flatMap_cons, List.append_assoc,
        List.append_assoc, ← List.append_nil "] \x7d".toList] at h
      exact absurd h (ofList_append_ne (by decide))
    | cons s' q =>
      rw [List.forall_mem_cons] at hp hq
      simp only [List.flatMap_cons, List.append_assoc] at h
      obtain ⟨rfl, ht⟩ := Statement.dump_inj hp.1 hq.1 (List.append_cancel_left h)
      rw [ih hp.2 hq.2 ht]

theorem dump_inj {p q : Program} (hp : ∀ s ∈ p, s.Unquoted) (hq : ∀ s ∈ q, s.Unquoted)
    (h : p.dump = q.dump) : p = q := by
  have h := String.toList_inj.2 h
  unfold dump at h
  simp only [String.toList_append, List.append_assoc] at h
  have h := List.append_cancel_left h
  cases p with
  | nil =>
    cases q with
    | nil => rfl
    | cons s' q =>
      rw [toList_intercalate_dump, List.append_assoc, List.map_nil, String.intercalate_nil] at h
      exact absurd h.symm s'.dump_append_ne
  | cons s p =>
    rw [toList_intercalate_dump, List.append_assoc] at h
    cases q with
    | nil =>
      rw [List.map_nil, String.intercalate_nil] at h
      exact absurd h s.dump_append_ne
    | cons s' q =>
      rw [toList_intercalate_dump, List.append_assoc] at h
      rw [List.forall_mem_cons] at hp hq
      obtain ⟨rfl, ht⟩ := Statement.dump_inj hp.1 hq.1 h
      rw [dumpTail_inj hp.2 hq.2 ht]

end Program

theorem Name.IsWord.unquoted {x : Name} (h : x.IsWord) : x.Unquoted := by
  have hq : ¬ ('"').isAlphanum := by decide
  intro hm
  unfold IsWord at h
  generalize x.toList = cs at h hm
  cases h with
  | symbol hs =>
    have hk : ∀ e ∈ Token.Kind.symbols, e.2 ≠ .name := by decide
    exact absurd rfl (hk _ hs)
  | name hc hd _ =>
    rcases List.mem_cons.1 hm with rfl | hm
    · exact hq (Token.Kind.isAlphanum_of_isAlpha hc)
    · exact hq (hd _ hm)

theorem Expr.Writable.unquoted {e : Expr} (h : e.Writable) : ∀ x ∈ e.names, x.Unquoted := by
  induction e with
  | integer n => exact List.forall_mem_nil _
  | identifier x => exact List.forall_mem_singleton.2 (Name.IsWord.unquoted h)
  | unary op e ih => exact ih h
  | binary op l r ihl ihr => exact List.forall_mem_append.2 ⟨ihl h.1, ihr h.2⟩

theorem Statement.Writable.unquoted {s : Statement} (h : s.Writable) : s.Unquoted := by
  cases s with
  | expression e => exact Expr.Writable.unquoted h
  | bad m => exact h.elim
  | declaration d =>
    obtain ⟨x, t, value⟩ := d
    obtain ⟨hx, ht, hv⟩ := h
    refine List.forall_mem_cons.2 ⟨hx.unquoted, List.forall_mem_cons.2 ⟨ht.unquoted, ?_⟩⟩
    cases value with
    | none => exact List.forall_mem_nil _
    | some e => exact (hv e rfl).unquoted

/-- Names are read from letters and digits. -/
theorem unquoted_of_parse {source : String} {p : Program} (h : parse source = .ok p) :
    ∀ s ∈ p, s.Unquoted := by
  intro s hs
  cases hb : s.isBad with
  | false =>
    obtain ⟨ts, hd, ht⟩ := derives_of_parse h hs hb
    exact (hd.writable ht).unquoted
  | true =>
    cases s with
    | expression | declaration => cases hb
    | bad m => exact List.forall_mem_nil _

/-- A dump tells its program from every other one whose names are without a double quote. All that
is read from a text is such a program. -/
theorem dump_faithful :
    (∀ p q : Program, (∀ s ∈ p, s.Unquoted) → (∀ s ∈ q, s.Unquoted) → p.dump = q.dump → p = q) ∧
      (∀ source p, parse source = .ok p → ∀ s ∈ p, s.Unquoted) ∧
      ∀ source₁ source₂ p q, parse source₁ = .ok p → parse source₂ = .ok q →
        p.dump = q.dump → p = q := by
  refine ⟨fun p q => Program.dump_inj, fun source p => unquoted_of_parse, ?_⟩
  intro source₁ source₂ p q hp hq
  exact Program.dump_inj (unquoted_of_parse hp) (unquoted_of_parse hq)

theorem dump_faithful_rightwards :
    (∀ s ∈ [Statement.bad "a\"), Bad(\"b"], s.Unquoted) ∧
      (∀ s ∈ [Statement.bad "a", .bad "b"], s.Unquoted) ∧
      Program.dump [.bad "a\"), Bad(\"b"] ≠ Program.dump [.bad "a", .bad "b"] ∧
      ∃ p p' q : Program, parse "x - y - z;" = .ok p ∧ parse "x-(y-z);" = .ok p' ∧
        parse "(x - y) - z;" = .ok q ∧ (∀ s ∈ p, s.Unquoted) ∧ p.dump = p'.dump ∧ p = p' ∧
        p.dump ≠ q.dump := by
  have hu : ∀ s ∈ [Statement.bad "a\"), Bad(\"b"], s.Unquoted := by decide
  have hv : ∀ s ∈ [Statement.bad "a", .bad "b"], s.Unquoted := by decide
  have ht₁ : segments (Parser.ofString "x - y - z;").tokens =
      [[⟨.name, "x"⟩, ⟨.minus, "-"⟩, ⟨.name, "y"⟩, ⟨.minus, "-"⟩, ⟨.name, "z"⟩, .semicolon]] := by
    decide +kernel
  have ht₂ : segments (Parser.ofString "x-(y-z);").tokens =
      [[⟨.name, "x"⟩, ⟨.minus, "-"⟩, .leftParen, ⟨.name, "y"⟩, ⟨.minus, "-"⟩, ⟨.name, "z"⟩,
        .rightParen, .semicolon]] := by decide +kernel
  have ht₃ : segments (Parser.ofString "(x - y) - z;").tokens =
      [[.leftParen, ⟨.name, "x"⟩, ⟨.minus, "-"⟩, ⟨.name, "y"⟩, .rightParen, ⟨.minus, "-"⟩,
        ⟨.name, "z"⟩, .semicolon]] := by decide +kernel
  have h₁ : parse "x - y - z;" = .ok [.expression (.binary .minus (.identifier "x")
      (.binary .minus (.identifier "y") (.identifier "z")))] := by
    rw [parse_eq_mapM, ht₁]
    rfl
  have h₂ : parse "x-(y-z);" = .ok [.expression (.binary .minus (.identifier "x")
      (.binary .minus (.identifier "y") (.identifier "z")))] := by
    rw [parse_eq_mapM, ht₂]
    rfl
  have h₃ : parse "(x - y) - z;" = .ok [.expression (.binary .minus (.binary .minus
      (.identifier "x") (.identifier "y")) (.identifier "z"))] := by
    rw [parse_eq_mapM, ht₃]
    rfl
  refine ⟨hu, hv, fun h => ?_, _, _, _, h₁, h₂, h₃, dump_faithful.2.1 _ _ h₁, rfl,
    dump_faithful.2.2 _ _ _ _ h₁ h₂ rfl, fun h => ?_⟩
  · exact absurd (dump_faithful.1 _ _ hu hv h) (by decide)
  · exact absurd (dump_faithful.2.2 _ _ _ _ h₁ h₃ h) (by decide)

-- A double quote in a name forges a second statement.
example : Program.dump [.expression (.identifier "a\"))), Expression(Identifier(Name(\"b")] =
    Program.dump [.expression (.identifier "a"), .expression (.identifier "b")] := by
  decide +kernel

end Reckon
