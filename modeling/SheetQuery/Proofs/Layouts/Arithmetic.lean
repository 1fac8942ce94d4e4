import SheetQuery.Proofs.Layout
import SheetQuery.Sql.Arithmetic

/-! The layouts of the numeric functions, given those of their arguments. -/

namespace SheetQuery.Sql

variable {d : Dialect} {args : List Operand} {f h : Fragment} {g g' v w : Doc}

theorem isDigit_toString (n : Nat) : ∀ c ∈ (toString n).toList, c.isDigit = true := by
  intro c hc
  rw [Nat.toString_eq_repr, Nat.toList_repr] at hc
  exact Nat.isDigit_of_mem_toDigits (by decide) (by decide) hc

theorem isKeyword_toString (n : Nat) : isKeyword (toString n).toList = true := by
  have hd := isDigit_toString n
  simp only [isKeyword, isName, Bool.and_eq_true, Bool.not_eq_true', List.isEmpty_eq_false_iff,
    List.all_eq_true, bne_iff_ne]
  refine ⟨⟨⟨?_, fun c hc => by simp [isNameChar, Char.isAlphanum, hd c hc]⟩, ?_⟩, ?_⟩
  · rw [Nat.toString_eq_repr, Nat.toList_repr]
    exact Nat.toDigits_ne_nil
  · intro h
    exact absurd (hd 'C' (h ▸ by simp)) (by decide)
  · intro h
    exact absurd (hd 'E' (h ▸ by simp)) (by decide)

def countDoc (n : Nat) : Doc := .keyword (toString n) (isKeyword_toString n)

def floatDoc : Dialect → Doc
  | .mysql => .keyword "DOUBLE"
  | .postgres => .spaced (.keyword "DOUBLE") (.keyword "PRECISION")
  | .mssql | .oracle => .keyword "FLOAT"
  | .sqlite => .keyword "REAL"

def textDoc : Dialect → Doc
  | .mysql => .keyword "CHAR"
  | .postgres | .sqlite => .keyword "TEXT"
  | .mssql => .call (.of "NVARCHAR") (.keyword "MAX")
  | .oracle => .call (.of "VARCHAR2") (.keyword "4000")

theorem Spells.castFloat (hs : Spells d f g) : Spells d (castFloat d f) (.cast g (floatDoc d)) := by
  refine hs.castTo ?_ ?_ <;> cases d <;> simp [floatDoc, Dialect.floatName]

theorem Spells.castText (hs : Spells d f g) : Spells d (castText d f) (.cast g (textDoc d)) := by
  refine hs.castTo ?_ ?_ <;> cases d <;> simp [textDoc, Dialect.textName]

namespace Doc

def round (d : Dialect) (v p : Doc) : Doc :=
  match d with
  | .postgres => .call (.of "ROUND") (.listed (.cast v (.keyword "NUMERIC")) (.cast p (.keyword "INTEGER")))
  | _ => .call (.of "ROUND") (.listed v p)

def roundedUp (d : Dialect) (v : Doc) : Doc :=
  match d with
  | .mssql => .call (.of "CEILING") v
  | .sqlite => .parens (.binary .add (.cast v (.keyword "INTEGER"))
      (.parens (.binary .gt v (.cast v (.keyword "INTEGER")))))
  | _ => .call (.of "CEIL") v

def roundedDown (d : Dialect) (v : Doc) : Doc :=
  match d with
  | .sqlite => .parens (.binary .sub (.cast v (.keyword "INTEGER"))
      (.parens (.binary .lt v (.cast v (.keyword "INTEGER")))))
  | _ => .call (.of "FLOOR") v

def powerOfTen (p : Doc) : Doc := .call (.of "POWER") (.listed (.keyword "10.0") p)

def roundTowards (direction : Doc → Doc) (v p : Doc) : Doc :=
  .parens (.binary .div (direction (.binary .mul v p.powerOfTen)) p.powerOfTen)

def bySign (v yes no : Doc) : Doc :=
  .choice (.spaced (.keyword "WHEN") (.spaced (.binary .ge v (.keyword "0")) (.spaced (.keyword "THEN")
    (.spaced yes (.spaced (.keyword "ELSE") no)))))

def even (d : Dialect) (v : Doc) : Doc :=
  let half : Doc := .binary .div (.cast v (floatDoc d)) (.keyword "2")
  .bySign v (.binary .mul (.roundedUp d half) (.keyword "2")) (.binary .mul (.roundedDown d half) (.keyword "2"))

def halfBeside (d : Dialect) (op : InfixOp) (v : Doc) : Doc :=
  .binary .div (.parens (.binary op (.cast v (floatDoc d)) (.keyword "1"))) (.keyword "2")

def odd (d : Dialect) (v : Doc) : Doc :=
  .bySign v (.binary .sub (.binary .mul (.roundedUp d (.halfBeside d .add v)) (.keyword "2")) (.keyword "1"))
    (.binary .add (.binary .mul (.roundedDown d (.halfBeside d .sub v)) (.keyword "2")) (.keyword "1"))

def remainder (d : Dialect) (l r : Doc) : Doc :=
  if d.hasPercent then .binary .mod l r else .call (.of "MOD") (.listed l r)

def groupedRemainder (d : Dialect) (l r : Doc) : Doc :=
  if d.hasPercent then .parens (.binary .mod l r) else .call (.of "MOD") (.listed l r)

def naturalLog (d : Dialect) (v : Doc) : Doc :=
  .call (if d = .mssql then .of "LOG" else .of "LN") v

def logToBase (d : Dialect) (v w : Doc) : Doc :=
  .call (.of "LOG") (if d = .mssql then .listed w v else .listed v w)

def wholePart (d : Dialect) (v : Doc) : Doc :=
  match d with
  | .mysql => .call (.of "TRUNCATE") (.listed v (.keyword "0"))
  | .mssql => .cast v (.keyword "BIGINT")
  | _ => .cast v (.keyword "INTEGER")

def replaceIn (old new : String) (g : Doc) : Doc :=
  .call (.of "REPLACE") (.listed g (.listed (.text old) (.text new)))

def replaceAll (pairs : List (String × String)) (g : Doc) : Doc :=
  pairs.foldl (fun g p => replaceIn p.1 p.2 g) g

def withoutMarks (g : Doc) : Doc :=
  .call (.of "NULLIF") (.listed (replaceAll (numberMarks.map (·, "")) g) (.text ""))

/-- A text without what numbers do not have, for PostgreSQL at every place. -/
def withoutOthers (d : Dialect) (v : Doc) : Doc :=
  .call (.of "REGEXP_REPLACE") (.listed v (.listed (.text "[^0-9.-]")
    (if d = .postgres then .listed (.text "") (.text "g") else .text "")))

def numberOfText (d : Dialect) (v : Doc) : Doc :=
  match d with
  | .mysql => .parens (.binary .add (.call (.of "NULLIF") (.listed (.withoutOthers d v) (.text "")))
      (.keyword "0"))
  | .postgres => .cast (.call (.of "NULLIF") (.listed (.withoutOthers d (.cast v (textDoc d))) (.text "")))
      (.spaced (.keyword "DOUBLE") (.keyword "PRECISION"))
  | .mssql => .call (.of "TRY_CAST") (.spaced (.withoutMarks (.cast v (textDoc d)))
      (.spaced (.keyword "AS") (.keyword "FLOAT")))
  | .sqlite => .cast (.withoutMarks (.cast v (textDoc d))) (.keyword "REAL")
  | .oracle => .call (.of "TO_NUMBER") (.spaced (.withoutOthers d v) (.spaced (.keyword "DEFAULT")
      (.spaced (.keyword "NULL") (.spaced (.keyword "ON") (.spaced (.keyword "CONVERSION")
      (.keyword "ERROR"))))))

def isPresent (g : Doc) : Doc := .binary .is g (.not (.keyword "NULL"))

def isFilled (d : Dialect) (g : Doc) : Doc :=
  if d = .oracle then .isPresent g
  else .binary .and (.isPresent g) (.binary .ne (.cast g (textDoc d)) (.text ""))

def count : List Doc → Doc
  | [] => .keyword "0"
  | gs => .parens (.joined .add (gs.map .oneIf))

/-- An aggregate over rows of one value each. -/
def overRows (aggregate : Word) (rows : Doc) : Doc :=
  .parens (.spaced (.keyword "SELECT") (.spaced (.call aggregate (.keyword "v")) (.spaced (.keyword "FROM")
    (.spaced (.parens (.spaced (.keyword "VALUES") rows)) (.spaced (.keyword "AS")
    (.call (.of "t") (.keyword "v")))))))

def extreme (d : Dialect) (name aggregate : Word) (gs : List Doc) : Doc :=
  match d with
  | .mssql => .overRows aggregate (.list (gs.map .parens))
  | .sqlite => .call aggregate (.list gs)
  | _ => .call name (.list gs)

end Doc

namespace Spells

theorem round (hv : Spells d (arg d args 0).result v) (hw : Spells d (precision d args).result w) :
    Spells d (round d args).result (.round d v w) := by
  cases d <;> constructor <;>
    simp [Sql.round, Doc.round, Sql.castTo, hv.text, hw.text, hv.bindings, hw.bindings]

theorem roundedUp (hs : Spells d f g) : Spells d (roundedUp d f) (.roundedUp d g) := by
  cases d <;> constructor <;>
    simp [Sql.roundedUp, Doc.roundedUp, Sql.castTo, InfixOp.text, hs.text, hs.bindings]

theorem roundedDown (hs : Spells d f g) : Spells d (roundedDown d f) (.roundedDown d g) := by
  cases d <;> constructor <;>
    simp [Sql.roundedDown, Doc.roundedDown, Sql.castTo, InfixOp.text, hs.text, hs.bindings]

theorem roundTowards {direction : Dialect → Fragment → Fragment} {layout : Doc → Doc}
    (hd : ∀ f g, Spells d f g → Spells d (direction d f) (layout g))
    (hv : Spells d (groupedArg d args 0).result v) (hw : Spells d (precision d args).result w) :
    Spells d (roundTowards direction d args).result (.roundTowards layout v w) := by
  have hpower : Spells d ("POWER(10.0, " ++ (precision d args).result ++ ")") w.powerOfTen := by
    constructor <;> simp [Doc.powerOfTen, hw.text, hw.bindings]
  have hscaled : Spells d ((groupedArg d args 0).result ++ Fragment.raw " * " ++ _) _ :=
    .binary (o := .raw " * ") .mul (by simp [InfixOp.text]) rfl hv hpower
  have hquotient : Spells d (_ ++ Fragment.raw " / " ++ _) _ :=
    .binary (o := .raw " / ") .div (by simp [InfixOp.text]) rfl (hd _ _ hscaled) hpower
  constructor
  · simp [Sql.roundTowards, Doc.roundTowards, ← hquotient.text]
  · simpa [Sql.roundTowards, Doc.roundTowards] using hquotient.bindings

theorem even (hv : Spells d (arg d args 0).result v) : Spells d (even d args).result (.even d v) := by
  have hhalf : Spells d (Sql.castFloat d (arg d args 0).result ++ " / 2")
      (.binary .div (.cast v (floatDoc d)) (.keyword "2" (by decide))) := by
    constructor <;> simp [InfixOp.text, hv.castFloat.text, hv.castFloat.bindings]
  have hup := hhalf.roundedUp
  have hdown := hhalf.roundedDown
  constructor
  · simp [Sql.even, Doc.even, Doc.bySign, InfixOp.text, hv.text, hup.text, hdown.text]
  · simp [Sql.even, Doc.even, Doc.bySign, hv.bindings, hup.bindings, hdown.bindings]

theorem odd (hv : Spells d (arg d args 0).result v) : Spells d (odd d args).result (.odd d v) := by
  have hc := hv.castFloat
  have hup : Spells d _ (Doc.roundedUp d (.halfBeside d .add v)) :=
    Spells.roundedUp (f := "(" ++ Sql.castFloat d (arg d args 0).result ++ " + 1) / 2")
      (by constructor <;> simp [Doc.halfBeside, InfixOp.text, hc.text, hc.bindings])
  have hdown : Spells d _ (Doc.roundedDown d (.halfBeside d .sub v)) :=
    Spells.roundedDown (f := "(" ++ Sql.castFloat d (arg d args 0).result ++ " - 1) / 2")
      (by constructor <;> simp [Doc.halfBeside, InfixOp.text, hc.text, hc.bindings])
  constructor
  · simp [Sql.odd, Doc.odd, Doc.bySign, InfixOp.text, hv.text, hup.text, hdown.text]
  · simp [Sql.odd, Doc.odd, Doc.bySign, hv.bindings, hup.bindings, hdown.bindings]

theorem remainder (hf : Spells d f g) (hh : Spells d h g') : Spells d (remainder d f h) (.remainder d g g') := by
  cases d <;> constructor <;>
    simp [Sql.remainder, Doc.remainder, Dialect.hasPercent, InfixOp.text, hf.text, hf.bindings, hh.text, hh.bindings]

theorem groupedRemainder (hf : Spells d f g) (hh : Spells d h g') :
    Spells d (groupedRemainder d f h) (.groupedRemainder d g g') := by
  have hr := hf.remainder hh
  unfold Sql.groupedRemainder Doc.groupedRemainder
  unfold Doc.remainder at hr
  split
  case isTrue hp =>
    rw [if_pos hp] at hr
    rw [Sql.groupIf, if_pos hp]
    exact hr.parenthesized
  case isFalse hp =>
    rw [if_neg hp] at hr
    rw [Sql.groupIf, if_neg hp]
    exact hr

theorem naturalLog (hl : args.length < 2) (hv : Spells d (arg d args 0).result v) :
    Spells d (logarithm d args).result (.naturalLog d v) := by
  cases d <;> constructor <;> simp [logarithm, Doc.naturalLog, hl, hv.text, hv.bindings]

theorem logToBase (hl : ¬ args.length < 2) (hv : Spells d (arg d args 0).result v)
    (hw : Spells d (arg d args 1).result w) : Spells d (logarithm d args).result (.logToBase d v w) := by
  cases d <;> constructor <;>
    simp [logarithm, Doc.logToBase, hl, hv.text, hv.bindings, hw.text, hw.bindings]

theorem wholePart (hv : Spells d (arg d args 0).result v) :
    Spells d (wholePart d args).result (.wholePart d v) := by
  cases d <;> constructor <;> simp [Sql.wholePart, Doc.wholePart, Sql.castTo, hv.text, hv.bindings]

end Spells

/-- A text that needs no doubling of quotes. -/
def Unquoted (s : String) : Prop := Text.replaceChar '\'' ['\'', '\''] s = s

instance (s : String) : Decidable (Unquoted s) := inferInstanceAs (Decidable (_ = _))

theorem Unquoted.append {s t : String} (hs : Unquoted s) (ht : Unquoted t) : Unquoted (s ++ t) := by
  unfold Unquoted Text.replaceChar at *
  rw [String.toList_append, List.flatMap_append, String.ofList_append, hs, ht]

namespace Spells

theorem quotes : Spells d "''" (.text "") := by
  constructor <;> simp [Text.replaceChar]

theorem replaceIn {old new : String} (ho : Unquoted old) (hn : Unquoted new) (hs : Spells d f g) :
    Spells d (replaceIn old new f) (.replaceIn old new g) := by
  unfold Unquoted at ho hn
  constructor
  · simp [Sql.replaceIn, Doc.replaceIn, hs.text, ho, hn]
  · simp [Sql.replaceIn, Doc.replaceIn, hs.bindings]

theorem replaceAll {pairs : List (String × String)} (hp : ∀ p ∈ pairs, Unquoted p.1 ∧ Unquoted p.2)
    (hs : Spells d f g) :
    Spells d (pairs.foldl (fun f p => Sql.replaceIn p.1 p.2 f) f) (.replaceAll pairs g) := by
  induction pairs generalizing f g with
  | nil => exact hs
  | cons p ps ih =>
    obtain ⟨h₁, h₂⟩ := hp p List.mem_cons_self
    exact ih (fun q hq => hp q (List.mem_cons_of_mem p hq)) (hs.replaceIn h₁ h₂)

theorem withoutMarks (hs : Spells d f g) : Spells d (withoutMarks f) g.withoutMarks := by
  have hm : ∀ p ∈ numberMarks.map (·, ""), Unquoted p.1 ∧ Unquoted p.2 := by decide
  have hall := hs.replaceAll hm
  rw [List.foldl_map] at hall
  constructor
  · simp [Sql.withoutMarks, Doc.withoutMarks, hall.text, Text.replaceChar]
  · simp [Sql.withoutMarks, Doc.withoutMarks, hall.bindings]

theorem numberOfText (hv : Spells d (arg d args 0).result v) :
    Spells d (numberOfText d args).result (.numberOfText d v) := by
  have ht := hv.castText
  have hm := ht.withoutMarks
  cases d
  case mysql =>
    constructor
    · simp [Sql.numberOfText, Doc.numberOfText, Doc.withoutOthers, InfixOp.text, hv.text, Text.replaceChar]
    · simp [Sql.numberOfText, Doc.numberOfText, Doc.withoutOthers, hv.bindings]
  case postgres =>
    refine Spells.castTo ⟨?_, ?_⟩ (by simp) rfl
    · simp [Doc.withoutOthers, ht.text, Text.replaceChar]
    · simp [Doc.withoutOthers, ht.bindings]
  case mssql =>
    constructor
    · simp [Sql.numberOfText, Doc.numberOfText, hm.text]
    · simp [Sql.numberOfText, Doc.numberOfText, hm.bindings]
  case sqlite => exact hm.castKeyword "REAL" (by decide)
  case oracle =>
    constructor
    · simp [Sql.numberOfText, Doc.numberOfText, Doc.withoutOthers, hv.text, Text.replaceChar]
    · simp [Sql.numberOfText, Doc.numberOfText, Doc.withoutOthers, hv.bindings]

section
variable {x : Operand} (hs : Spells d (x.grouped d).result g)
include hs

theorem isPresent : Spells d (isPresent d x).result g.isPresent := by
  constructor
  · simp [Sql.isPresent, Doc.isPresent, InfixOp.text, hs.text]
  · simp [Sql.isPresent, Doc.isPresent, hs.bindings]

theorem isFilled : Spells d (isFilled d x).result (g.isFilled d) := by
  have ht := hs.castText
  by_cases hd : d = .oracle
  · subst hd
    constructor
    · simp [Sql.isFilled, Doc.isFilled, Doc.isPresent, InfixOp.text, hs.text]
    · simp [Sql.isFilled, Doc.isFilled, Doc.isPresent, hs.bindings]
  · constructor
    · simp [Sql.isFilled, Doc.isFilled, Doc.isPresent, hd, InfixOp.text, hs.text, ht.text, Text.replaceChar]
    · simp [Sql.isFilled, Doc.isFilled, Doc.isPresent, hd, hs.bindings, ht.bindings]

end

theorem overRows (aggregate : Word) {fs : List Fragment} {gs : List Doc} (hs : List.Forall₂ (Spells d) fs gs) :
    Spells d (("(SELECT " ++ aggregate.text ++ "(v) FROM (VALUES ") ++
      Fragment.join ", " (fs.map fun v => "(" ++ v ++ ")") ++ ") AS t(v))")
      (.overRows aggregate (.list (gs.map .parens))) := by
  have hrows : List.Forall₂ (Spells d) (fs.map fun v => "(" ++ v ++ ")") (gs.map .parens) := by
    rw [List.forall₂_map_left_iff, List.forall₂_map_right_iff]
    exact hs.imp fun f g hf => ⟨by simp [hf.text], by simp [hf.bindings]⟩
  have hj := join_comma hrows
  constructor
  · simp [Doc.overRows, hj.text]
  · simp [Doc.overRows, hj.bindings]

theorem extreme (name aggregate : Word) {gs : List Doc}
    (hs : List.Forall₂ (fun x g => Spells d (x.value d).result g) args gs) (hl : args.length ≠ 1) :
    Spells d (extreme d name.text aggregate.text args).result (.extreme d name aggregate gs) := by
  rw [extreme.eq_def]
  split
  case h_1 => simp at hl
  case h_2 =>
    cases d
    case mssql => exact overRows aggregate (values hs)
    case sqlite => exact nativeCall hs aggregate
    all_goals exact nativeCall hs name

theorem countIf {test : Operand → Noted Fragment} {gs : List Doc}
    (hs : List.Forall₂ (fun x g => Spells d (test x).result g) args gs) :
    Spells d (countIf test args).result (.count gs) := by
  have hall : List.Forall₂ (Spells d) (args.map fun x => Sql.oneIf (test x).result) (gs.map .oneIf) := by
    rw [List.forall₂_map_left_iff, List.forall₂_map_right_iff]
    exact hs.imp fun x g hx => hx.oneIf
  have hsum := (joined .add " + " (by simp [InfixOp.text]) hall).parenthesized
  cases hs with
  | nil => exact .keyword "0" (by decide)
  | cons => simpa [Sql.countIf, Function.comp_def, Doc.count] using hsum

end Spells

end SheetQuery.Sql
