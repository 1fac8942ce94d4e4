import SheetQuery.Check
import SheetQuery.Proofs.DateShifts
import SheetQuery.Proofs.Replacement

/-! Numbers in texts. Before a database reads a number from a text, what numbers do not have is taken out: some dialects
delete every character but digits, points and minus signs, the others remove currency signs, commas and the like one
after another. On texts that read as numbers both leave the same. -/

namespace SheetQuery

/-- The parts of a text that reads as a number: digits with points and commas that end in a digit, and what may stand
around them. -/
structure NumberParts where
  currency : Option Char
  sign : Option Char
  digits : List Char
  percent : Option Char
  currency_mem : ∀ c ∈ currency, c = '$' ∨ c = '€' ∨ c = '£' ∨ c = '¥'
  sign_mem : ∀ c ∈ sign, c = '-' ∨ c = '+'
  digits_mem : ∀ c ∈ digits, c.isDigit = true ∨ c = ',' ∨ c = '.'
  last_isDigit : ∃ c ∈ digits.getLast?, c.isDigit = true
  percent_mem : ∀ c ∈ percent, c = '%'

/-- A character that the number left over in a text may have. -/
def isNumberChar (c : Char) : Bool := c.isDigit || c == '.' || c == '-'

namespace NumberParts

variable (p : NumberParts)

def chars : List Char := p.currency.toList ++ p.sign.toList ++ p.digits ++ p.percent.toList

def minus : List Char := p.sign.toList.filter (· == '-')

def bare : List Char := p.digits.filter (· != ',')

theorem bare_ne_nil : p.bare ≠ [] := by
  obtain ⟨c, hc, hdigit⟩ := p.last_isDigit
  have hcomma : c ≠ ',' := by
    rintro rfl
    simp at hdigit
  have hmem : c ∈ p.bare := List.mem_filter.2 ⟨List.mem_of_getLast? hc, by simpa using hcomma⟩
  exact List.ne_nil_of_mem hmem

theorem bare_mem {c : Char} (hc : c ∈ p.bare) : c.isDigit = true ∨ c = '.' := by
  obtain ⟨hmem, hcomma⟩ := List.mem_filter.1 hc
  rcases p.digits_mem c hmem with hdigit | rfl | rfl
  · exact .inl hdigit
  · simp at hcomma
  · exact .inr rfl

theorem minus_eq : p.minus = [] ∨ p.minus = ['-'] := by
  unfold minus
  cases hs : p.sign with
  | none => simp
  | some c => rcases p.sign_mem c hs with rfl | rfl <;> simp

end NumberParts

/-- A list without its first character if that is such a one. -/
def dropIf (P : Char → Prop) [DecidablePred P] : List Char → List Char
  | c :: cs => if P c then cs else c :: cs
  | [] => []

theorem exists_dropIf (P : Char → Prop) [DecidablePred P] (cs : List Char) :
    ∃ o : Option Char, (∀ c ∈ o, P c) ∧ cs = o.toList ++ dropIf P cs := by
  cases cs with
  | nil => exact ⟨none, by simp, rfl⟩
  | cons c cs =>
    by_cases hc : P c
    · exact ⟨some c, by simpa using hc, by simp [dropIf, hc]⟩
    · exact ⟨none, by simp, by simp [dropIf, hc]⟩

def afterCurrency (s : String) : List Char := dropIf (fun c => c = '$' ∨ c = '€' ∨ c = '£' ∨ c = '¥') s.toList

def afterSign (s : String) : List Char := dropIf (fun c => c = '-' ∨ c = '+') (afterCurrency s)

def digitsReversed (s : String) : List Char := dropIf (· = '%') (afterSign s).reverse

/-- Whether characters from the end of a text are a percent sign or none and then digits, points and commas. -/
def endsAsNumber (cs : List Char) : Bool :=
  let digits := match cs with
    | '%' :: ds => ds
    | ds => ds
  digits.head?.any Char.isDigit && digits.all fun c => c.isDigit || c == ',' || c == '.'

theorem readsAsNumber_eq (s : String) : Check.readsAsNumber s =
    ((digitsReversed s).head?.any Char.isDigit &&
      (digitsReversed s).all fun c => c.isDigit || c == ',' || c == '.') := by
  have hends : Check.readsAsNumber s = endsAsNumber (afterSign s).reverse := rfl
  rw [hends, digitsReversed]
  cases (afterSign s).reverse with
  | nil => rfl
  | cons c cs => by_cases hc : c = '%' <;> simp [endsAsNumber, dropIf, hc]

theorem exists_numberParts {s : String} (h : Check.readsAsNumber s = true) :
    ∃ p : NumberParts, s.toList = p.chars := by
  obtain ⟨currency, hcurrency, hs⟩ : ∃ o : Option Char, _ ∧ s.toList = o.toList ++ afterCurrency s := exists_dropIf _ _
  obtain ⟨sign, hsign, hsigned⟩ : ∃ o : Option Char, _ ∧ afterCurrency s = o.toList ++ afterSign s := exists_dropIf _ _
  obtain ⟨percent, hpercent, hdigits⟩ : ∃ o : Option Char, _ ∧ (afterSign s).reverse = o.toList ++ digitsReversed s :=
    exists_dropIf _ _
  rw [readsAsNumber_eq, Bool.and_eq_true, Option.any_eq_true] at h
  obtain ⟨⟨last, hlast, hdigit⟩, hall⟩ := h
  refine ⟨⟨currency, sign, (digitsReversed s).reverse, percent, hcurrency, hsign, ?_,
    ⟨last, by simpa using hlast, hdigit⟩, hpercent⟩, ?_⟩
  · intro c hc
    simpa [or_assoc] using List.all_eq_true.1 hall c (List.mem_reverse.1 hc)
  · have hrest := congrArg List.reverse hdigits
    rw [List.reverse_reverse, List.reverse_append] at hrest
    have hone : percent.toList.reverse = percent.toList := by cases percent <;> rfl
    rw [hs, hsigned, hrest, hone]
    simp [NumberParts.chars]

namespace Sql

def strippedMarks : List Char := ['$', '€', '£', '¥', ',', '%', '+', ' ']

theorem numberMarks_eq : numberMarks.map (·, "") = (strippedMarks.map (·, "")).map fun p => (p.1.toString, p.2) := by
  decide

theorem foldl_numberMarks (s : String) :
    ((numberMarks.map (·, "")).foldl (fun s p => replaceText p.1 p.2 s) s).toList =
      s.toList.filter (· ∉ strippedMarks) := by
  rw [numberMarks_eq, foldl_replaceText (by decide)]
  induction s.toList with
  | nil => rfl
  | cons c cs ih =>
    rw [List.flatMap_cons, ih, exchange_map]
    split <;> simp_all

theorem inSet_number (c : Char) : inSet c "0-9.-".toList = isNumberChar c := by
  simp [inSet, isNumberChar, Char.isDigit, Char.le_def, Bool.or_assoc]

end Sql

namespace NumberParts

open Sql (strippedMarks)

/-- A character of a text that reads as a number is removed as a mark unless the number may have it. -/
theorem notMem_strippedMarks_iff (p : NumberParts) {c : Char} (hc : c ∈ p.chars) :
    c ∉ strippedMarks ↔ isNumberChar c = true := by
  simp only [chars, List.mem_append, Option.mem_toList] at hc
  rcases hc with ((hc | hc) | hc) | hc
  · rcases p.currency_mem c hc with rfl | rfl | rfl | rfl <;> decide
  · rcases p.sign_mem c hc with rfl | rfl <;> decide
  · rcases p.digits_mem c hc with hdigit | rfl | rfl
    · have hmarks : strippedMarks.all (fun m => !m.isDigit) = true := by decide
      refine iff_of_true (fun hm => ?_) (by simp [isNumberChar, hdigit])
      simpa [hdigit] using List.all_eq_true.1 hmarks c hm
    · decide
    · decide
  · obtain rfl := p.percent_mem c hc
    decide

theorem filter_isNumberChar (p : NumberParts) : p.chars.filter isNumberChar = p.minus ++ p.bare := by
  have hcurrency : p.currency.toList.filter isNumberChar = [] := by
    rw [List.filter_eq_nil_iff]
    intro c hc
    rcases p.currency_mem c (Option.mem_toList.1 hc) with rfl | rfl | rfl | rfl <;> decide
  have hsign : p.sign.toList.filter isNumberChar = p.minus := by
    refine List.filter_congr fun c hc => ?_
    rcases p.sign_mem c (Option.mem_toList.1 hc) with rfl | rfl <;> decide
  have hdigits : p.digits.filter isNumberChar = p.bare := by
    refine List.filter_congr fun c hc => ?_
    rcases p.digits_mem c hc with hdigit | rfl | rfl
    · have hcomma : c ≠ ',' := by
        rintro rfl
        simp at hdigit
      simp [isNumberChar, hdigit, hcomma]
    · decide
    · decide
  have hpercent : p.percent.toList.filter isNumberChar = [] := by
    rw [List.filter_eq_nil_iff]
    intro c hc
    obtain rfl := p.percent_mem c (Option.mem_toList.1 hc)
    decide
  rw [chars, List.filter_append, List.filter_append, List.filter_append, hcurrency, hsign, hdigits, hpercent]
  simp

/-- Both ways of taking out what numbers do not have leave the same. -/
theorem filter_strippedMarks (p : NumberParts) : p.chars.filter (· ∉ strippedMarks) = p.minus ++ p.bare := by
  rw [← filter_isNumberChar]
  refine List.filter_congr fun c hc => ?_
  rw [Bool.eq_iff_iff, decide_eq_true_iff]
  exact p.notMem_strippedMarks_iff hc

end NumberParts

namespace Sql

/-- An operand with words behind it. -/
theorem ReadsAs.beforeWords {i : Item} (hi : i.kind = .operand) {ws : List String}
    (hws : ∀ s ∈ ws, (Item.word s).kind = .operand) (hne : ws ≠ []) :
    ReadsAs (i :: ws.map .word) (.run (i.term :: ws.map .word)) := by
  have hterm : Item.termOf (i :: ws.map .word) = .run (i.term :: ws.map .word) := by
    obtain ⟨s, ss, rfl⟩ := List.exists_cons_of_ne_nil hne
    have hword : Item.term ∘ Item.word = Term.word := funext fun _ => rfl
    rw [Item.termOf, List.map_cons, List.map_map, hword]
    rfl
  rw [← hterm]
  refine .operands ?_ (by simp)
  rw [List.forall_mem_cons, List.forall_mem_map]
  exact ⟨hi, hws⟩

section
variable {α : Type} {E : Engine α} {v w : α} {word inner : Word} {body words : Doc}

/-- A call has one tree only, and it has parts if it gives something. -/
theorem Doc.Evaluates.exists_group (h : (Doc.call inner body).Evaluates E v) :
    ∃ ps, (Item.group inner.text body.items).term = .group inner.text ps ∧
      (Term.group inner.text ps).eval E = some v := by
  obtain ⟨t, ht, heval⟩ := h
  obtain rfl : (Item.group inner.text body.items).term = t := Option.some.inj ht.tied
  rw [Item.term] at heval ⊢
  split at heval
  · exact ⟨_, rfl, heval⟩
  · simp [Term.eval] at heval

/-- A function of a call's result with words behind it. -/
theorem Doc.Evaluates.qualified (h : (Doc.call inner body).Evaluates E v) (ws : List String)
    (hwords : words.items = ws.map .word) (hws : ∀ s ∈ ws, (Item.word s).kind = .operand) (hne : ws ≠ [])
    (hv : E.convert word.text (.run (ws.map .word)) v = some w) :
    (Doc.call word (.spaced (.call inner body) words)).Evaluates E w := by
  obtain ⟨ps, hterm, heval⟩ := h.exists_group
  have hreads : ReadsAs (Item.group inner.text body.items :: ws.map .word)
      (.run (.group inner.text ps :: ws.map .word)) := hterm ▸ .beforeWords rfl hws hne
  have hitems : (Doc.spaced (.call inner body) words).items = Item.group inner.text body.items :: ws.map .word := by
    rw [← hwords]
    rfl
  refine ⟨_, .call (.one (hitems ▸ hreads)), ?_⟩
  simpa [Term.eval, heval] using hv

end

namespace Doc.Evaluates

variable {d : Dialect} {table : Option String} {row : String → Option String} {g : Doc} {s : String}

theorem castText (h : g.Evaluates (textEngine d table row) (.text (some s)))
    (hd : d = .postgres ∨ d = .mssql ∨ d = .sqlite) :
    (Doc.cast g (textDoc d)).Evaluates (textEngine d table row) (.text (some s)) := by
  rcases hd with rfl | rfl | rfl
  · exact cast h (.words ["TEXT"] (by decide) (by simp)) rfl
  · have htype : (textDoc .mssql).Reads (.group "NVARCHAR" [("", .word "MAX")]) :=
      .call (.one (.words ["MAX"] (by decide) (by simp)))
    exact cast h htype.items rfl
  · exact cast h (.words ["TEXT"] (by decide) (by simp)) rfl

/-- A text that is not empty stays. -/
theorem nullIf (h : g.Evaluates (textEngine d table row) (.text (some s))) (hs : s ≠ "") :
    (Doc.call (.of "NULLIF") (.listed g (.text ""))).Evaluates (textEngine d table row) (.text (some s)) := by
  have hargs : List.Forall₂ (Doc.Evaluates (textEngine d table row)) [g, .text ""] [.text (some s), .text (some "")] :=
    .cons h (.cons (text rfl) .nil)
  refine call hargs (by simp) ?_
  simp [textEngine, textFunction?, TextValue.text?, hs]

variable {r : String} (h : g.Evaluates (textEngine d table row) (.text (some s)))
include h

theorem withoutOthers (hr : s.toList.filter isNumberChar = r.toList) (hd : d = .mysql ∨ d = .postgres ∨ d = .oracle) :
    (Doc.withoutOthers d g).Evaluates (textEngine d table row) (.text (some r)) := by
  have hdeleted : deleteMatches? "[^0-9.-]" s = some r := by
    have hset : excepted? "[^0-9.-]" = some "0-9.-".toList := by decide
    simp only [deleteMatches?, hset, inSet_number, hr, String.ofList_toList, Option.map_some]
  have hpattern : (Doc.text "[^0-9.-]").Evaluates (textEngine d table row) (.text (some "[^0-9.-]")) := text rfl
  have hempty : (Doc.text "").Evaluates (textEngine d table row) (.text (some "")) := text rfl
  rcases hd with rfl | rfl | rfl
  · refine call (.cons h (.cons hpattern (.cons hempty .nil))) (by simp) ?_
    simp [textEngine, textFunction?, TextValue.text?, hdeleted]
  · have hflag : (Doc.text "g").Evaluates (textEngine .postgres table row) (.text (some "g")) := text rfl
    refine call (.cons h (.cons hpattern (.cons hempty (.cons hflag .nil)))) (by simp) ?_
    simp [textEngine, textFunction?, TextValue.text?, hdeleted]
  · refine call (.cons h (.cons hpattern (.cons hempty .nil))) (by simp) ?_
    simp [textEngine, textFunction?, TextValue.text?, hdeleted]

variable (hne : r ≠ "")
include hne

theorem withoutMarks (hr : s.toList.filter (· ∉ strippedMarks) = r.toList) :
    g.withoutMarks.Evaluates (textEngine d table row) (.text (some r)) := by
  have hall := h.replaceAll (numberMarks.map (·, ""))
  have hfold : (numberMarks.map (·, "")).foldl (fun s p => replaceText p.1 p.2 s) s = r := by
    rw [← String.toList_inj, foldl_numberMarks, hr]
  rw [Option.map_some, hfold] at hall
  exact nullIf hall hne

/-- Where both ways of taking out what numbers do not have leave the same text, every dialect reads the number in it. -/
theorem numberOfText (hothers : s.toList.filter isNumberChar = r.toList)
    (hmarks : s.toList.filter (· ∉ strippedMarks) = r.toList) :
    (Doc.numberOfText d g).Evaluates (textEngine d table row) (.numberIn (some r)) := by
  cases d
  case mysql =>
    have hzero : (Doc.keyword "0").Evaluates (textEngine .mysql table row) (.numberIn (some "0")) :=
      keyword (by decide) rfl
    exact parens (binary (nullIf (h.withoutOthers hothers (.inl rfl)) hne) hzero (by simp [Doc.operators]) rfl rfl)
  case postgres =>
    have htext := (h.castText (.inl rfl)).withoutOthers hothers (.inr (.inl rfl))
    exact cast (nullIf htext hne) (.words ["DOUBLE", "PRECISION"] (by decide) (by simp)) rfl
  case mssql =>
    have htext := (h.castText (.inr (.inl rfl))).withoutMarks hne hmarks
    exact cast htext (.words ["FLOAT"] (by decide) (by simp)) rfl
  case sqlite =>
    have htext := (h.castText (.inr (.inr rfl))).withoutMarks hne hmarks
    exact cast htext (.words ["REAL"] (by decide) (by simp)) rfl
  case oracle =>
    have htext := h.withoutOthers hothers (.inr (.inr rfl))
    exact qualified htext ["DEFAULT", "NULL", "ON", "CONVERSION", "ERROR"] rfl (by decide) (by simp) rfl

end Doc.Evaluates

end Sql

namespace Expr

open Sql

/-- From a text that reads as a number, the SQL of VALUE takes out the same in every dialect. The database is left to
read the number in a minus sign if there was one, and digits and points, of which there is at least one. -/
theorem value_reads_same_text {s : String} (hs : Check.readsAsNumber s = true) {name : String}
    (hname : Text.upper name = "VALUE") :
    ∃ minus digits : List Char, (minus = [] ∨ minus = ['-']) ∧ digits ≠ [] ∧
      (∀ c ∈ digits, c.isDigit = true ∨ c = '.') ∧ s.toList.filter isNumberChar = minus ++ digits ∧
      ∀ (e : Expr) (es : List Expr) (d : Dialect) (names : Naming) (row : String → Option String), e.Worded →
        names.outputName = none →
        evaluate? (textEngine d names.tableAlias row) d (e.compile d names).fragment = some (.text (some s)) →
        evaluate? (textEngine d names.tableAlias row) d ((call (some name) (e :: es)).compile d names).fragment =
          some (.numberIn (some (.ofList (minus ++ digits)))) := by
  obtain ⟨p, hp⟩ := exists_numberParts hs
  have hothers := hp ▸ p.filter_isNumberChar
  have hmarks := hp ▸ p.filter_strippedMarks
  refine ⟨p.minus, p.bare, p.minus_eq, p.bare_ne_nil, fun c => p.bare_mem, hothers, ?_⟩
  intro e es d names row he hn hv
  have hbuiltin : Builtin.ofName? (Text.upper name) = some .value := by
    rw [hname]
    decide
  have hne : String.ofList (p.minus ++ p.bare) ≠ "" := by
    rw [ne_eq, ← String.toList_inj]
    simp [p.bare_ne_nil]
  obtain ⟨g, hg, hc, hgv⟩ := exists_evaluates_arg hn he hv es
  have hnumber := hgv.numberOfText hne (by simpa using hothers) (by simpa using hmarks)
  have hcomment : (Doc.numberOfText d g).comment noSign = false := by
    cases d <;> simp [Doc.numberOfText, Doc.withoutOthers, Doc.cast, hc]
  exact evaluate?_call hbuiltin (by decide) rfl rfl hg.numberOfText hcomment hnumber hn

/-- An amount with all that may stand around its digits, in two dialects that take it out in different ways. -/
theorem value_reads_same_text_amount :
    let sql (d : Dialect) := ((call (some "Value") [text "$-1,234.50%"]).compile d .default).fragment
    Check.readsAsNumber "$-1,234.50%" = true ∧
      evaluate? (textEngine .postgres none fun _ => none) .postgres (sql .postgres) =
        some (.numberIn (some "-1234.50")) ∧
      evaluate? (textEngine .mssql none fun _ => none) .mssql (sql .mssql) = some (.numberIn (some "-1234.50")) := by
  intro sql
  have hreads : Check.readsAsNumber "$-1,234.50%" = true := by decide
  have hname : Text.upper "Value" = "VALUE" := by decide
  obtain ⟨minus, digits, -, -, -, hkept, hsame⟩ := value_reads_same_text hreads hname
  have hleft : String.ofList (minus ++ digits) = "-1234.50" := by
    rw [← hkept]
    decide
  rw [hleft] at hsame
  have hliteral (d : Dialect) := hsame (text "$-1,234.50%") [] d .default (fun _ => none) (.literal trivial) rfl
    (evaluate?_text rfl rfl)
  exact ⟨hreads, hliteral .postgres, hliteral .mssql⟩

end Expr

end SheetQuery
