import Mathlib.Data.List.Permutation
import SheetQuery.Expr.Parser
import SheetQuery.Proofs.Derivation
import SheetQuery.Proofs.Renaming
import SheetQuery.Summary

/-! The columns that compiled SQL refers to. Every quoted name in it is a column of the expression, which its summary
lists, or the record's column where the expression asks for it. The names of columns stay in their quotes: whatever
they are replaced with, all else is read as before. What a comment swallows is the exception. -/

namespace SheetQuery

namespace Summary

def Lists (s : Summary) : Expr → Prop
  | .column n => n ∈ s.columns
  | .call (some n) _ => Text.upper n ∈ s.functions
  | _ => True

structure Within (s t : Summary) : Prop where
  columns : s.columns ⊆ t.columns
  functions : s.functions ⊆ t.functions

namespace Within

variable {s t u : Summary}

theorem refl (s : Summary) : s.Within s := ⟨List.Subset.refl _, List.Subset.refl _⟩

theorem trans (h : s.Within t) (h' : t.Within u) : s.Within u :=
  ⟨List.Subset.trans h.columns h'.columns, List.Subset.trans h.functions h'.functions⟩

end Within

theorem mem_addNew {x y : String} {xs : List String} : y ∈ addNew xs x ↔ y ∈ xs ∨ y = x := by
  unfold addNew
  split
  case isTrue hx => exact ⟨.inl, fun h => h.elim id fun hy => hy ▸ hx⟩
  case isFalse => simp

theorem within_addColumn (s : Summary) (n : String) : s.Within (s.addColumn n) :=
  ⟨fun _ h => mem_addNew.2 (.inl h), List.Subset.refl _⟩

theorem within_addFunction (s : Summary) (n : String) : s.Within (s.addFunction n) :=
  ⟨List.Subset.refl _, fun _ h => mem_addNew.2 (.inl h)⟩

/-- A walk over an expression forgets nothing and ends with all that the expression uses. -/
structure Covers (s : Summary) (e : Expr) : Prop where
  within : s.Within (walk s e).1
  lists {t : Summary} : (walk s e).1.Within t → e.Everywhere t.Lists

theorem walkAll_covers {es : List Expr} (h : ∀ e ∈ es, ∀ s, Covers s e) (s : Summary) :
    s.Within (walkAll s es).1 ∧ ∀ {t}, (walkAll s es).1.Within t → ∀ e ∈ es, e.Everywhere t.Lists := by
  induction es generalizing s with
  | nil => exact ⟨.refl s, nofun⟩
  | cons e es ih =>
    rw [List.forall_mem_cons] at h
    have he := h.1 s
    obtain ⟨hwithin, hlists⟩ := ih h.2 (walk s e).1
    refine ⟨he.within.trans hwithin, fun ht => ?_⟩
    rw [List.forall_mem_cons]
    exact ⟨he.lists (hwithin.trans ht), hlists ht⟩

theorem covers (s : Summary) (e : Expr) : Covers s e := by
  induction e using Expr.induct generalizing s with
  | literal v => exact ⟨.refl s, fun _ => .literal trivial⟩
  | column n => exact ⟨within_addColumn s n, fun ht => .column (ht.columns (mem_addNew.2 (.inr rfl)))⟩
  | unsupported k => exact ⟨.refl s, fun _ => .unsupported trivial⟩
  | unary op e ih => exact ⟨(ih s).within, fun ht => .unary trivial ((ih s).lists ht)⟩
  | binary op l r ihl ihr =>
    have hl := ihl s
    have hr := ihr (walk s l).1
    exact ⟨hl.within.trans hr.within, fun ht => .binary trivial (hl.lists (hr.within.trans ht)) (hr.lists ht)⟩
  | call name args ih =>
    cases name with
    | none =>
      obtain ⟨hwithin, hlists⟩ := walkAll_covers ih s
      exact ⟨hwithin, fun ht => .call trivial (hlists ht)⟩
    | some n =>
      obtain ⟨hwithin, hlists⟩ := walkAll_covers ih (s.addFunction (Text.upper n))
      refine ⟨(within_addFunction s _).trans hwithin, fun ht => .call ?_ (hlists ht)⟩
      exact (hwithin.trans ht).functions (mem_addNew.2 (.inr rfl))

end Summary

namespace Expr

/-- The columns that an expression declares: those it names, and the record's if it asks for it. -/
def Declares (e : Expr) (names : Naming) (n : String) : Prop :=
  n ∈ e.summary.1.columns ∨ n = names.recordIdColumn ∧ "RECORD_ID" ∈ e.summary.1.functions

theorem everywhere_refers (e : Expr) (names : Naming) : e.Everywhere (Refers (e.Declares names) names) := by
  have hlists : e.Everywhere e.summary.1.Lists := (Summary.covers ⟨[], [], []⟩ e).lists (.refl _)
  refine hlists.imp fun x hx => ?_
  cases x with
  | column n => exact .inl hx
  | call name args =>
    cases name with
    | none => exact nofun
    | some n =>
      intro hn
      have hupper : "RECORD_ID" = Text.upper n := Builtin.name_of_ofName? (f := .recordId) hn
      exact .inr ⟨rfl, hupper ▸ hx⟩
  | _ => trivial

end Expr

namespace Sql

/-- What is read of the name of the result. -/
def outputLexemes (names : Naming) : List Lexeme :=
  match names.outputName with
  | some name => [.bare ' ', .bare 'A', .bare 'S', .bare ' ', .name name]
  | none => []

def outputChars (d : Dialect) (names : Naming) : List Char :=
  match names.outputName with
  | some name => [' ', 'A', 'S', ' '] ++ (d.quote name).toList
  | none => []

variable {d : Dialect} {names : Naming} {e : Expr} {f : Fragment}

theorem outputChars_reads : ReadsBehind d (outputChars d names) (outputLexemes names) := by
  unfold outputChars outputLexemes
  cases names.outputName with
  | none => exact ⟨nofun, fun b => .nil d b⟩
  | some name =>
    obtain ⟨hblank, hA, hS⟩ : isBare d ' ' = true ∧ isBare d 'A' = true ∧ isBare d 'S' = true := by cases d <;> decide
    refine ⟨fun c hc => ?_, fun b => ?_⟩
    · obtain rfl : ' ' = c := Option.some.inj hc
      exact ⟨hblank, by decide⟩
    · have hname : Reads d ' ' (d.quote name).toList [.name name] := by
        simpa using (Reads.nil d d.quotes.2).name (s := name) (b := ' ') rfl nofun
      have hword : Reads d ' ' ('A' :: 'S' :: ' ' :: (d.quote name).toList) _ :=
        ((hname.bare hblank nofun).bare hS nofun).bare hA nofun
      exact hword.bare hblank nofun

theorem text_compile (e : Expr) : (e.compile d names).fragment.text.toList =
    ((e.operand d names).value d).result.text.toList ++ outputChars d names := by
  unfold Expr.compile outputChars
  cases names.outputName <;> simp [Fragment.push]

theorem bindings_compile (e : Expr) :
    (e.compile d names).fragment.bindings = ((e.operand d names).value d).result.bindings := by
  unfold Expr.compile
  cases names.outputName <;> simp [Fragment.push]

/-- A compiled expression is laid from tiles, and the name of the result follows. -/
theorem compile_laid (e : Expr) (ρ : String → String) (h : (e.compile d names).notices = []) :
    ((e.rename ρ).compile d (names.rename ρ)).notices = [] ∧
    ∃ ts, IsRow d (e.Declares names) ts ∧
      (e.compile d names).fragment.text.toList = rowChars d names id ts ++ outputChars d names ∧
      ((e.rename ρ).compile d (names.rename ρ)).fragment.text.toList = rowChars d names ρ ts ++ outputChars d names ∧
      ((e.rename ρ).compile d (names.rename ρ)).fragment.bindings = (e.compile d names).fragment.bindings := by
  have hsql := write_renamed (d := d) ρ ((e.everywhere_refers names).canonical (Expr.stable_refers _ _))
  rw [← Expr.canonical_rename] at hsql
  have hop : (e.operand d names).Twin False (SameTiles d names (e.Declares names) ρ)
      ((e.rename ρ).operand d (names.rename ρ)) := by
    refine ⟨?_, hsql⟩
    simp only [Expr.operand, Expr.canonical_rename]
    exact Expr.kin_rename ρ e.canonical
  have hvalue := hop.value weaving_sameTiles
  have hquiet := Notice.firsts_eq_nil_iff.1 h
  refine ⟨Notice.firsts_eq_nil_iff.2 (hvalue.quiet.1 hquiet), ?_⟩
  obtain ⟨ts, hlaid⟩ := hvalue.result (.inl hquiet)
  refine ⟨ts, hlaid.row, ?_, ?_, ?_⟩
  · rw [text_compile, hlaid.text]
  · rw [text_compile, hlaid.text']
    rfl
  · rw [bindings_compile, bindings_compile, hlaid.bindings]

end Sql

namespace Expr

open Sql

theorem compileStrict_eq_ok_iff {d : Dialect} {names : Naming} {e : Expr} {f : Fragment} :
    e.compileStrict d names = .ok f ↔ (e.compile d names).notices = [] ∧ (e.compile d names).fragment = f := by
  cases hn : (e.compile d names).notices <;> simp [compileStrict, hn]

/-- Read by the rules of its dialect, compiled SQL is a row of characters, texts and columns, with the name of the
result behind it: every column is declared, and stands behind the table it is taken from if there is one. Over other
columns the expression has the same values and the same row, with the other columns in it. -/
theorem compileStrict_refers {d : Dialect} {names : Naming} {e : Expr} {f : Fragment}
    (h : e.compileStrict d names = .ok f) (ρ : String → String) :
    ∃ (f' : Fragment) (ts : List Tile), (e.rename ρ).compileStrict d (names.rename ρ) = .ok f' ∧
      f'.bindings = f.bindings ∧ (∀ n, .column n ∈ ts → e.Declares names n) ∧
      HasLexemes d f.text (rowLexemes names id ts ++ outputLexemes names) ∧
      HasLexemes d f'.text (rowLexemes names ρ ts ++ outputLexemes names) := by
  obtain ⟨hquiet, rfl⟩ := compileStrict_eq_ok_iff.1 h
  obtain ⟨hquiet', ts, hrow, htext, htext', hbindings⟩ := compile_laid e ρ hquiet
  refine ⟨_, ts, compileStrict_eq_ok_iff.2 ⟨hquiet', rfl⟩, hbindings, fun n hn => hrow.fits _ hn, ?_, ?_⟩
  · rw [HasLexemes, htext]
    exact hrow.reads outputChars_reads fun t _ => by cases t <;> rfl
  · rw [HasLexemes, htext']
    exact hrow.reads outputChars_reads fun t _ => by cases t <;> rfl

/-- Names with quotes, a line break and two minus signs in them. -/
theorem compileStrict_refers_quoted :
    let e : Expr := .binary .sub (.column "a\"--\nb") (.call (some "Record_Id") [])
    let names : Naming := ⟨some "o", some "t\"", "i?d"⟩
    let f : Fragment := ⟨"\"t\"\"\".\"a\"\"--\nb\" - \"t\"\"\".\"i?d\" AS \"o\"", [], .value⟩
    let ρ : String → String := fun n => n ++ "\""
    e.compileStrict .postgres names = .ok f ∧
      lexemes .postgres (.outside ' ') f.text.toList =
        [.name "t\"", .bare '.', .name "a\"--\nb", .bare ' ', .bare '-', .bare ' ',
          .name "t\"", .bare '.', .name "i?d", .bare ' ', .bare 'A', .bare 'S', .bare ' ', .name "o"] ∧
      ∃ (f' : Fragment) (ts : List Tile), (e.rename ρ).compileStrict .postgres (names.rename ρ) = .ok f' ∧
        f'.bindings = f.bindings ∧ (∀ n, .column n ∈ ts → e.Declares names n) ∧
        HasLexemes .postgres f.text (rowLexemes names id ts ++ outputLexemes names) ∧
        HasLexemes .postgres f'.text (rowLexemes names ρ ts ++ outputLexemes names) := by
  intro e names f ρ
  have h : e.compileStrict .postgres names = .ok f := compileStrict_eq_ok_iff.2 ⟨by decide, by decide⟩
  exact ⟨h, by decide, compileStrict_refers h ρ⟩

/-- Two minus signs that meet begin a comment. It ends at the line break in the name of the column, so that the rest
of the name is read as SQL, and a column in it that no expression declares. -/
theorem column_leaks_behind_comment :
    let e : Expr := .unary .minus (.unary .plus (.unary .minus (.column "a\n[evil")))
    Expr.parse "-+-\x7ba\n[evil\x7d" = .ok e ∧
      e.compileStrict .mssql .default = .ok ⟨"--[a\n[evil]", [], .value⟩ ∧
      lexemes .mssql (.outside ' ') "--[a\n[evil]".toList = [.comment, .name "evil"] ∧
      e.summary.1 = ⟨["a\n[evil"], [], []⟩ := by
  intro e
  have hscan : Lexer.scan "-+-\x7ba\n[evil\x7d" =
      .ok ⟨[⟨.op .sub, 0⟩, ⟨.op .add, 1⟩, ⟨.op .sub, 2⟩, ⟨.braced "a\n[evil", 3⟩], 12⟩ := by rfl
  exact ⟨(parse_of_scan hscan).trans (by cbv), compileStrict_eq_ok_iff.2 ⟨by decide, by decide⟩, by decide, by decide⟩

end Expr

end SheetQuery
