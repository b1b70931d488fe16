import Reckon.Script
import Reckon.Proofs.Bindings
import Reckon.Proofs.OneLine

/-! What is written comes in whole lines. A session writes one line for a text with any tokens in it
and nothing for any other text; a script with its listings writes one line for each token and each
statement. -/

namespace Reckon

theorem Ty.oneLine_label (t : Ty) : OneLine t.label := by
  cases t <;> decide

theorem Answer.isLine_ok (v : Value) : IsLine (text (.ok v)) := v.isLine_text

theorem Answer.isLine_ofInt (n : Int) : IsLine (ofInt n).text := by
  unfold ofInt
  split
  · exact isLine_ok _
  · exact (.ofList (by decide) : IsLine "integer overflow")

theorem UnaryOp.isLine_apply (op : UnaryOp) (v : Value) : IsLine (op.apply v).text := by
  have ho : OneLine op.symbol := by cases op <;> decide
  have hm (t : Ty) : IsLine ("type mismatch: " ++ op.symbol ++ t.label) :=
    .append (.append (.ofList (by decide)) ho) t.oneLine_label
  unfold apply
  split
  · exact Answer.isLine_ofInt _
  · exact Answer.isLine_ok _
  · exact hm _

theorem BinaryOp.isLine_apply (op : BinaryOp) (v w : Value) : IsLine (op.apply v w).text := by
  have ho : OneLine op.symbol := by cases op <;> decide
  have hm (t u : Ty) :
      IsLine ("type mismatch: " ++ t.label ++ " " ++ op.symbol ++ " " ++ u.label) :=
    .append (.append (.append (.append (.append (.ofList (by decide)) t.oneLine_label)
      (.ofList (by decide))) ho) (.ofList (by decide))) u.oneLine_label
  unfold apply
  split
  · split
    · exact (.ofList (by decide) : IsLine "divided by zero")
    · exact Answer.isLine_ofInt _
  · exact hm _ _

/-- An error stands for no name, so an error can only name names that were written. -/
theorem Expr.isLine_eval {env : Environment} (henv : ∀ x e, env.get? x ≠ some (.error e))
    {e : Expr} (h : ∀ x ∈ e.names, OneLine x) : IsLine (e.eval env).text := by
  induction e with
  | integer n => exact Answer.isLine_ok _
  | identifier x =>
    rw [eval]
    cases hx : env.get? x with
    | none =>
      exact IsLine.append (s := "undefined variable: ") (.ofList (by decide))
        (h x (List.mem_singleton_self x))
    | some a =>
      cases a with
      | ok v => exact Answer.isLine_ok v
      | error err => exact absurd hx (henv x err)
  | unary op e ih =>
    have ih := ih h
    rw [eval]
    cases he : e.eval env with
    | error err => rw [he] at ih; exact ih
    | ok v => exact op.isLine_apply v
  | binary op l r ihl ihr =>
    rw [names, List.forall_mem_append] at h
    have ihl := ihl h.1
    have ihr := ihr h.2
    rw [eval]
    cases hl : l.eval env with
    | error err => rw [hl] at ihl; exact ihl
    | ok v =>
      cases hr : r.eval env with
      | error err => rw [hr] at ihr; exact ihr
      | ok w => exact op.isLine_apply v w

theorem Declaration.isLine_eval {env : Environment} (henv : ∀ x e, env.get? x ≠ some (.error e))
    {d : Declaration} (h : ∀ x ∈ d.names, OneLine x) : IsLine (d.eval env).text := by
  obtain ⟨x, t, value⟩ := d
  rw [names, List.forall_mem_cons, List.forall_mem_cons] at h
  obtain ⟨-, ht, hv⟩ := h
  cases value with
  | some e => exact Expr.isLine_eval henv hv
  | none =>
    change IsLine (zero t).text
    unfold zero
    split
    · exact Answer.isLine_ok _
    · exact IsLine.append (s := "unknown type name: ") (.ofList (by decide)) ht

theorem Declaration.isLine_exec {env : Environment} (henv : ∀ x e, env.get? x ≠ some (.error e))
    {d : Declaration} (h : ∀ x ∈ d.names, OneLine x) : IsLine (d.exec env).1.text := by
  have he := isLine_eval henv h
  cases hv : d.eval env with
  | error e =>
    rw [hv] at he
    simpa only [exec, hv] using he
  | ok v =>
    cases hi : env.insert? d.name (.ok v) with
    | some env' => simpa only [exec, hv, hi] using Answer.isLine_ok v
    | none =>
      have hr : IsLine (Answer.text (.error (.reserved d.name))) :=
        IsLine.append (s := "cannot assign to reserved name: ") (.ofList (by decide))
          (h d.name List.mem_cons_self)
      simpa only [exec, hv, hi] using hr

theorem Statement.isLine_exec {env : Environment} (henv : ∀ x e, env.get? x ≠ some (.error e))
    {s : Statement} (h : s.Plain) : IsLine (s.exec env).1.text := by
  cases s with
  | expression e => exact Expr.isLine_eval henv h.names
  | declaration d => exact Declaration.isLine_exec henv h.names
  | bad m => exact h.message m rfl

theorem Program.isLine_exec {p : Program} (hp : ∀ s ∈ p, s.Plain) {log : List Entry}
    {env : Environment} (h : Records log env) : ∀ a ∈ (p.exec env).1, IsLine a.text := by
  induction p generalizing log env with
  | nil => exact List.forall_mem_nil _
  | cons s p ih =>
    rw [List.forall_mem_cons] at hp
    rw [exec_cons]
    exact List.forall_mem_cons.2 ⟨Statement.isLine_exec h.not_error hp.1, ih hp.2 (h.exec s)⟩

theorem tokenize_eq_endMarker_iff {source : String} :
    tokenize source = [.endMarker] ↔ (Parser.ofString source).tokens = [] :=
  List.append_left_eq_self

theorem isLine_message_of_parse {source : String} {e : LiteralError}
    (h : parse source = .error e) : IsLine e.message :=
  LiteralError.isLine_message (Lexer.oneLine_tokens _ _ (exists_token_of_parse_error h))

theorem respond_of_tokens_nil {source : String} (h : (Parser.ofString source).tokens = [])
    (env : Environment) : ((respond source).run env).1 = "" := by
  rw [respond_apply, run_of_ok (parse_eq_ok_nil_iff.2 h)]
  rfl

theorem exists_line_of_respond {source : String} (hs : (Parser.ofString source).tokens ≠ [])
    {log : List Entry} {env : Environment} (h : Records log env) :
    ∃ text, IsLine text ∧ ((respond source).run env).1 = text ++ "\n" := by
  rw [respond_apply]
  cases hp : parse source with
  | error e =>
    rw [run_of_error hp]
    have hm := isLine_message_of_parse hp
    exact ⟨"error: " ++ e.message, .append (.ofList (by decide)) hm.oneLine, rfl⟩
  | ok p =>
    have hne : p ≠ [] := fun he => hs (parse_eq_ok_nil_iff.1 (he ▸ hp))
    obtain ⟨a, ha, hl⟩ := Program.exists_getLast?_exec hne env
    rw [run_of_ok hp, hl]
    exact ⟨a.text, Program.isLine_exec (plain_of_parse hp) h a ha, rfl⟩

namespace Script

/-- What is written when each of the lines is. -/
def written (lines : List String) : String := String.join (lines.map line)

theorem written_cons (l : String) (ls : List String) :
    written (l :: ls) = line l ++ written ls := by
  rw [written, List.map_cons, String.join_cons]
  rfl

theorem written_singleton (l : String) : written [l] = line l := by
  rw [written_cons]
  exact String.append_empty

theorem written_append (ls ms : List String) : written (ls ++ ms) = written ls ++ written ms := by
  rw [written, List.map_append, String.join_append]
  rfl

def tokenLines (source : String) : List String := "Tokens:" :: (tokenize source).map Token.text

def programLines (p : Program) : List String :=
  ["", "Parsed result:"] ++ p.map Statement.dump ++ [""]

def resultLines (p : Program) : List String := ((p.run.run {}).1.map Answer.text).toList

theorem tokenListing_eq (source : String) : tokenListing source = written (tokenLines source) := by
  rw [tokenListing, tokenLines, written_cons, written, List.map_map]
  rfl

theorem programListing_eq (p : Program) : programListing p = written (programLines p) := by
  rw [programListing, programLines, written_append, written_append, written_cons,
    written_singleton, written_singleton, written, List.map_map]
  rfl

theorem result_eq (p : Program) : result p = written (resultLines p) := by
  unfold result resultLines
  cases (p.run.run {}).1 with
  | none => rfl
  | some a => exact (written_singleton a.text).symm

theorem decode_toUTF8 (source : String) : decode source.toUTF8 = .ok source := by
  unfold decode String.fromUTF8? String.toUTF8
  rw [dif_pos source.isValidUTF8]
  rfl

/-- The lines of a script that parses. -/
def lines (source : String) (p : Program) : List String :=
  tokenLines source ++ programLines p ++ resultLines p

theorem output_of_ok {source : String} {p : Program} (h : parse source = .ok p) (path : String) :
    (run ⟨true, true⟩ path (decode source.toUTF8)).output = written (lines source p) := by
  rw [decode_toUTF8, run, h, lines, written_append, written_append, ← tokenListing_eq,
    ← programListing_eq, ← result_eq]
  rfl

theorem output_of_error {source : String} {e : LiteralError} (h : parse source = .error e)
    (path : String) :
    (run ⟨true, true⟩ path (decode source.toUTF8)).output = written (tokenLines source) := by
  rw [decode_toUTF8, run, h, ← tokenListing_eq]
  rfl

theorem oneLine_tokenLines (source : String) : ∀ l ∈ tokenLines source, OneLine l := by
  rw [tokenLines, tokenize, List.forall_mem_cons, List.forall_mem_map, List.forall_mem_append]
  have he : OneLine Token.endMarker.text := Token.oneLine_text (.ofList (List.forall_mem_nil _))
  refine ⟨.ofList (by decide), fun t ht => ?_, List.forall_mem_singleton.2 he⟩
  exact Token.oneLine_text (Lexer.oneLine_tokens _ t ht)

theorem oneLine_programLines {source : String} {p : Program} (h : parse source = .ok p) :
    ∀ l ∈ programLines p, OneLine l := by
  rw [programLines, List.forall_mem_append, List.forall_mem_append, List.forall_mem_map]
  have he : OneLine "" := .ofList (List.forall_mem_nil _)
  have hr : OneLine "Parsed result:" := .ofList (by decide)
  refine ⟨⟨by simp [he, hr], fun s hs => ?_⟩, List.forall_mem_singleton.2 he⟩
  exact Statement.oneLine_dump (plain_of_parse h s hs)

theorem oneLine_resultLines {source : String} {p : Program} (h : parse source = .ok p) :
    ∀ l ∈ resultLines p, OneLine l := by
  intro l hl
  obtain ⟨a, ha, rfl⟩ := Option.map_eq_some_iff.1 (Option.mem_toList.1 hl)
  exact (Program.isLine_exec (plain_of_parse h) records_nil a (List.mem_of_getLast? ha)).oneLine

theorem length_tokenLines (source : String) :
    (tokenLines source).length = (tokenize source).countP (·.kind ≠ .endMarker) + 2 := by
  have h : (Lexer.ofString source).tokens.countP (·.kind ≠ .endMarker) =
      (Lexer.ofString source).tokens.length :=
    List.countP_eq_length.2 fun t ht => decide_eq_true (Lexer.kind_ne_endMarker _ t ht)
  rw [tokenLines, tokenize, List.countP_append, h]
  simp

theorem length_programLines (p : Program) : (programLines p).length = p.length + 3 := by
  simp [programLines]

theorem length_resultLines (p : Program) :
    (resultLines p).length = if 0 < p.length then 1 else 0 := by
  cases p with
  | nil => rfl
  | cons s p =>
    obtain ⟨a, -, ha⟩ := Program.exists_getLast?_exec (List.cons_ne_nil s p) {}
    have hr : ((Program.run (s :: p)).run {}).1 = some a := ha
    rw [resultLines, hr]
    rfl

end Script

/-- A session answers a text that has tokens with one line and any other with nothing. A script with
its listings writes the lines that are counted here, and only those of its tokens if it does not
parse. -/
theorem output_framed :
    (∀ (earlier : List String) (input : String),
      (tokenize input = [.endMarker] →
        ((respond input).run ((earlier.mapM respond).run {}).2).1 = "") ∧
      (tokenize input ≠ [.endMarker] → ∃ text, IsLine text ∧
        ((respond input).run ((earlier.mapM respond).run {}).2).1 = text ++ "\n")) ∧
    (∀ (path source : String) (p : Program), parse source = .ok p →
      (Script.run ⟨true, true⟩ path (Script.decode source.toUTF8)).output =
        Script.written (Script.lines source p) ∧
      (∀ l ∈ Script.lines source p, OneLine l) ∧
      (Script.lines source p).length =
        (tokenize source).countP (·.kind ≠ .endMarker) + p.length + 5 +
          if 0 < p.length then 1 else 0) ∧
    ∀ (path source : String) (e : LiteralError), parse source = .error e →
      (Script.run ⟨true, true⟩ path (Script.decode source.toUTF8)).output =
        Script.written (Script.tokenLines source) ∧
      ∀ l ∈ Script.tokenLines source, OneLine l := by
  refine ⟨fun earlier input => ⟨fun ht => ?_, fun ht => ?_⟩,
    fun path source p h => ⟨Script.output_of_ok h path, ?_, ?_⟩,
    fun path source e h => ⟨Script.output_of_error h path, Script.oneLine_tokenLines source⟩⟩
  · exact respond_of_tokens_nil (tokenize_eq_endMarker_iff.1 ht) _
  · obtain ⟨log, hr⟩ := records_nil.mapM_respond earlier
    exact exists_line_of_respond (mt tokenize_eq_endMarker_iff.2 ht) hr
  · rw [Script.lines, List.forall_mem_append, List.forall_mem_append]
    exact ⟨⟨Script.oneLine_tokenLines source, Script.oneLine_programLines h⟩,
      Script.oneLine_resultLines h⟩
  · rw [Script.lines, List.length_append, List.length_append, Script.length_tokenLines,
      Script.length_programLines, Script.length_resultLines]
    omega

theorem output_framed_unbound :
    tokenize " \n" = [.endMarker] ∧
      ((respond " \n").run ((["var x int;"].mapM respond).run {}).2).1 = "" ∧
      tokenize "\ty;\r" ≠ [.endMarker] ∧
      (∃ text, IsLine text ∧
        ((respond "\ty;\r").run ((["var x int;"].mapM respond).run {}).2).1 = text ++ "\n") ∧
      parse "\ty;\r" = .ok [.expression (.identifier "y")] ∧
      (Script.run ⟨true, true⟩ "a" (Script.decode "\ty;\r".toUTF8)).output =
        Script.written (Script.lines "\ty;\r" [.expression (.identifier "y")]) ∧
      (Script.lines "\ty;\r" [.expression (.identifier "y")]).length = 2 + 1 + 5 + 1 ∧
      parse "9223372036854775808" = .error ⟨"9223372036854775808"⟩ ∧
      (Script.run ⟨true, true⟩ "a" (Script.decode "9223372036854775808".toUTF8)).output =
        Script.written ["Tokens:", "NUMBER('9223372036854775808')", "ENDMARKER('')"] := by
  obtain ⟨hs, hp, he⟩ := output_framed
  have hn : tokenize " \n" = [.endMarker] := by decide +kernel
  have hy : tokenize "\ty;\r" ≠ [.endMarker] := by decide +kernel
  have ho : parse "\ty;\r" = .ok [.expression (.identifier "y")] := by
    have hs : segments (Parser.ofString "\ty;\r").tokens = [[⟨.name, "y"⟩, .semicolon]] := by
      decide +kernel
    rw [parse_eq_mapM, hs]
    rfl
  have hf : parse "9223372036854775808" = .error ⟨"9223372036854775808"⟩ :=
    literalError?_eq_some_iff.1 (by decide +kernel)
  obtain ⟨hw, -, hl⟩ := hp "a" _ _ ho
  obtain ⟨hw', -⟩ := he "a" _ _ hf
  have hc : (tokenize "\ty;\r").countP (·.kind ≠ .endMarker) = 2 := by decide +kernel
  have ht : Script.tokenLines "9223372036854775808" =
      ["Tokens:", "NUMBER('9223372036854775808')", "ENDMARKER('')"] := by decide +kernel
  rw [hc] at hl
  rw [ht] at hw'
  exact ⟨hn, (hs _ _).1 hn, hy, (hs _ _).2 hy, ho, hw, hl, hf, hw'⟩

end Reckon
