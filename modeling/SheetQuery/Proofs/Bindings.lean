import SheetQuery.Proofs.Derivation
import SheetQuery.Proofs.Placeholders

/-! Placeholders and values of compiled SQL. Where compilation succeeds, the text ends outside quotes, its
parentheses match, and it has a placeholder outside quotes for each value; written in line, the values take
exactly those places, provided SQL Server's brackets around a name end where the name does. -/

namespace SheetQuery

namespace Sql

/-- Functions may lack arguments, and the names in quotes are among some. -/
def Rules.naming (loud : Prop) (P : String → Prop) : Rules := ⟨True, loud, P⟩

theorem Derives.names {d : Dialect} {q : Rules} {s : Category} {g : Doc} (h : Derives d q s g) :
    ∀ n ∈ g.names, q.mayName n := by
  induction h with
  | @column table name ht hn => cases table <;> simp_all [Doc.names]
  | _ => simp_all [Doc.names, Doc.keyword, Doc.overRows, Doc.given, Doc.chosen, Doc.case, Doc.cast, or_imp]

theorem Doc.names_under {P : String → Prop} {g : Doc} {name : Option String} (hg : ∀ n ∈ g.names, P n)
    (hn : ∀ n ∈ name, P n) : ∀ n ∈ (g.under name).names, P n := by
  cases name <;> simp_all [Doc.under, Doc.names, Doc.keyword, or_imp]

end Sql

namespace Naming

structure All (P : String → Prop) (names : Naming) : Prop where
  outputName : ∀ n ∈ names.outputName, P n
  tableAlias : ∀ n ∈ names.tableAlias, P n
  recordIdColumn : P names.recordIdColumn

end Naming

namespace Expr

open Sql

variable {d : Dialect} {names : Naming} {e : Expr} {f : Fragment} {P : String → Prop}

def NamedBy (P : String → Prop) : Expr → Prop
  | .column name => P name
  | _ => True

theorem everywhere_of_forall {Q : Expr → Prop} (h : ∀ e, Q e) (e : Expr) : e.Everywhere Q := by
  induction e using Expr.induct with
  | literal v => exact .literal (h _)
  | column n => exact .column (h _)
  | binary op l r ihl ihr => exact .binary (h _) ihl ihr
  | unary op e ih => exact .unary (h _) ih
  | call n args ih => exact .call (h _) ih
  | unsupported k => exact .unsupported (h _)

theorem NamedBy.meets {loud : Prop} (h : NamedBy P e) (hw : loud → e.IsWorded) :
    (Rules.naming loud P).Meets e := by
  cases e with
  | column n => exact h
  | binary | unary => exact hw
  | call name args => exact fun n hn => ⟨fun hl => hw hl n hn, fun _ _ => .inl trivial⟩
  | _ => trivial

/-- Successful SQL is laid out, and quotes only names that were given. -/
theorem compileStrict_laid_out (hn : names.All P) (he : e.Everywhere (NamedBy P))
    (h : e.compileStrict d names = .ok f) : ∃ g : Doc, Spells d f g ∧ ∀ n ∈ g.names, P n := by
  have hok : (e.compile d names).notices = [] ∧ (e.compile d names).fragment = f := by
    simp only [compileStrict] at h
    split at h
    · exact ⟨by assumption, Except.ok.inj h⟩
    · cases h
  obtain ⟨hq, rfl⟩ := hok
  have hm : e.Everywhere (Rules.naming False P).Meets := he.imp fun _ h => h.meets False.elim
  obtain ⟨g, hg, hs⟩ := compile_laid_out hn.tableAlias hn.recordIdColumn (fun _ => trivial) hm (.inr hq)
  exact ⟨_, hs, Doc.names_under hg.names hn.outputName⟩

/-- The text of successful SQL ends outside quotes, its parentheses match, and as many placeholders stand
outside quotes as there are values. -/
theorem placeholders_match_bindings (h : e.compileStrict d names = .ok f) :
    ∃ cs, flagged d .outside f.text.toList = some cs ∧ closes 0 (bareChars cs) = true ∧
      (bareChars cs).count '?' = f.bindings.length := by
  obtain ⟨g, hs, -⟩ := compileStrict_laid_out (P := fun _ => True) ⟨fun _ _ => trivial, fun _ _ => trivial, trivial⟩
    (everywhere_of_forall (fun e => by cases e <;> trivial) e) h
  refine ⟨_, hs.flagged_eq, ?_, ?_⟩
  · have hc := closes_bareChars (d := d) g 0 []
    rwa [List.append_nil] at hc
  · rw [count_bareChars, hs.bindings]

/-- A column, a text and an output name that all hold placeholders and quotes. -/
theorem placeholders_match_bindings_quoted :
    let e : Expr := .binary .eq (.column "a?\x60(") (.text "it's ?")
    let names : Naming := ⟨some "r?", none, "id"⟩
    e.compileStrict .mysql names = .ok ⟨"\x60a?\x60\x60(\x60 = ? AS \x60r?\x60", [.text "it's ?"], .value⟩ ∧
      ∃ cs, flagged .mysql .outside "\x60a?\x60\x60(\x60 = ? AS \x60r?\x60".toList = some cs ∧
        closes 0 (bareChars cs) = true ∧ (bareChars cs).count '?' = 1 := by
  intro e names
  have h : e.compileStrict .mysql names =
      .ok ⟨"\x60a?\x60\x60(\x60 = ? AS \x60r?\x60", [.text "it's ?"], .value⟩ := by rfl
  exact ⟨h, placeholders_match_bindings h⟩

/-- In line, each value takes the place of its placeholder and all else stays as it is. -/
theorem inline_fills_placeholders (hn : names.All (isSealed d · = true))
    (he : e.Everywhere (NamedBy (isSealed d · = true))) (h : e.compileStrict d names = .ok f) :
    substituted d f = some (f.inline d).toList := by
  obtain ⟨g, hs, hg⟩ := compileStrict_laid_out hn he h
  rw [hs.substituted_eq, hs.inline_eq hg]

/-- A bracket within a name is written twice and does no harm. -/
theorem inline_fills_placeholders_bracketed :
    let e : Expr := .binary .add (.column "a]b") (.text "?")
    isSealed .mssql "a]b" = true ∧ e.compileStrict .mssql .default = .ok ⟨"[a]]b] + ?", [.text "?"], .value⟩ ∧
      substituted .mssql ⟨"[a]]b] + ?", [.text "?"], .value⟩ =
        some (Fragment.inline .mssql ⟨"[a]]b] + ?", [.text "?"], .value⟩).toList := by
  intro e
  have h : e.compileStrict .mssql .default = .ok ⟨"[a]]b] + ?", [.text "?"], .value⟩ := by rfl
  have hnames : Naming.default.All (isSealed .mssql · = true) := ⟨nofun, nofun, by decide⟩
  exact ⟨by decide, h, inline_fills_placeholders hnames
    (.binary trivial (.column (by decide : isSealed .mssql "a]b" = true)) (.literal trivial)) h⟩

/-- SQL Server's closing bracket does not open again when it is written twice: the placeholder in the name is
taken for the first of the text. -/
theorem inline_fills_bracketed_name :
    let e : Expr := .binary .add (.column "a]?") (.text "x")
    ∃ f, e.compileStrict .mssql .default = .ok f ∧ f.text = "[a]]?] + ?" ∧
      substituted .mssql f = some "[a]]?] + 'x'".toList ∧ f.inline .mssql = "[a]]'x'] + ?" :=
  ⟨⟨"[a]]?] + ?", [.text "x"], .value⟩, by rfl, rfl, by decide, by decide⟩

end Expr

end SheetQuery
