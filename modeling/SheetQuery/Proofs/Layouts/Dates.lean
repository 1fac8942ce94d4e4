import SheetQuery.Proofs.Layouts.Arithmetic
import SheetQuery.Sql.Dates

/-! The layouts of the functions on dates, given those of their arguments. -/

namespace SheetQuery.Sql

variable {d : Dialect} {args : List Operand} {f h : Fragment} {g g' v w : Doc}

theorem isKeyword_shiftUnit (u : ShiftUnit) (d : Dialect) : isKeyword (u.keyword d).toList = true := by
  cases u <;> cases d <;> decide

def shiftDoc (u : ShiftUnit) (d : Dialect) : Doc := .keyword (u.keyword d) (isKeyword_shiftUnit u d)

theorem isKeyword_elapsedUnit (u : ElapsedUnit) (d : Dialect) : isKeyword (u.keyword d).toList = true := by
  cases u <;> cases d <;> decide

def elapsedDoc (u : ElapsedUnit) (d : Dialect) : Doc := .keyword (u.keyword d) (isKeyword_elapsedUnit u d)

theorem unquoted_shiftKeyword (u : ShiftUnit) (d : Dialect) : Unquoted (u.keyword d) := by
  cases u <;> cases d <;> decide

def shiftedDate (d : Dialect) (args : List Operand) : Noted Fragment :=
  if d = .oracle then groupedArg d args 0 else arg d args 0

def shiftAmount (d : Dialect) (args : List Operand) : Noted Fragment :=
  if d = .mssql then arg d args 1 else groupedArg d args 1

/-- Whether the amount is written as it stands. A literal below zero is written as its magnitude, and in SQLite
every literal as a modifier. -/
def writesAmount (d : Dialect) (args : List Operand) : Bool :=
  match d with
  | .mysql | .mssql => (negativeAmount? args).isNone
  | .sqlite => (numberArg? args 1).isNone
  | .postgres | .oracle => true

namespace Doc

def scaled (op : InfixOp) (g : Doc) (k : String)
    (h : isKeyword k.toList = true := by exact check_eq_true _ Bool.not_true) : Doc :=
  .parens (.binary op g (.keyword k h))

def truncated (g : Doc) (k : String)
    (h : isKeyword k.toList = true := by exact check_eq_true _ Bool.not_true) : Doc :=
  .call (.of "TRUNC") (.binary .div g (.keyword k h))

def interval (w : Word) (v amount unit : Doc) : Doc :=
  .call w (.listed v (.spaced (.keyword "INTERVAL") (.spaced amount unit)))

def dateAdd (d : Dialect) (args : List Operand) (v w : Doc) : Doc :=
  let unit := shiftUnit args
  match d with
  | .mysql =>
    match negativeAmount? args with
    | some n => .interval (.of "DATE_SUB") v (.value (.number n)) (shiftDoc unit .mysql)
    | none => .interval (.of "DATE_ADD") v w (shiftDoc unit .mysql)
  | .postgres => .parens (.binary .add (.cast v (.keyword "TIMESTAMP")) (.binary .mul w
      (.spaced (.keyword "INTERVAL") (.text ("1 " ++ unit.keyword .postgres)))))
  | .mssql =>
    let amount := match negativeAmount? args with
      | some n => .minus (.value (.number n))
      | none => w
    .call (.of "DATEADD") (.listed (shiftDoc unit .mssql) (.listed amount v))
  | .sqlite =>
    match numberArg? args 1 with
    | some n => .call (.of "DATETIME") (.listed v (.value (.text (modifierText unit n))))
    | none => .call (.of "DATETIME") (.listed v (.binary .pipe (if unit = .week then w.scaled .mul "7" else w)
        (.text (" " ++ unit.keyword .sqlite))))
  | .oracle =>
    match unit with
    | .month => .call (.of "ADD_MONTHS") (.listed v w)
    | .year => .call (.of "ADD_MONTHS") (.listed v (.binary .mul w (.keyword "12")))
    | .week => .parens (.binary .add v (.call (.of "NUMTODSINTERVAL")
        (.listed (.binary .mul w (.keyword "7")) (.text "DAY"))))
    | unit => .parens (.binary .add v (.call (.of "NUMTODSINTERVAL")
        (.listed w (.text (unit.keyword .oracle)))))

def scaledDays (days other : Doc) : ElapsedUnit → Doc
  | .milliseconds => days.scaled .mul "86400000"
  | .seconds => days.scaled .mul "86400"
  | .minutes => days.scaled .mul "1440"
  | .hours => days.scaled .mul "24"
  | .days => days
  | .weeks => days.scaled .div "7"
  | .months | .quarters | .years => other

def formatted (pattern : String) (g : Doc) : Doc :=
  .cast (.call (.of "STRFTIME") (.listed (.text pattern) g)) (.keyword "INTEGER")

def agePart (part : String) (x y : Doc) : Doc :=
  .call (.of "DATE_PART") (.listed (.text part) (.call (.of "AGE") (.listed x y)))

def ageInMonths (x y : Doc) : Doc :=
  .parens (.binary .add (.binary .mul (agePart "year" x y) (.keyword "12")) (agePart "month" x y))

def extract (part g : Doc) : Doc := .call (.of "EXTRACT") (.spaced part (.spaced (.keyword "FROM") g))

def timestampDiff (unit : ElapsedUnit) (x y : Doc) : Doc :=
  let seconds : Doc := .extract (.keyword "EPOCH") (.parens (.binary .sub x y))
  match unit with
  | .milliseconds => seconds.scaled .mul "1000"
  | .seconds => seconds
  | .minutes => seconds.scaled .div "60"
  | .hours => seconds.scaled .div "3600"
  | .days => seconds.scaled .div "86400"
  | .weeks => seconds.scaled .div "604800"
  | .months => ageInMonths x y
  | .quarters => (ageInMonths x y).truncated "3"
  | .years => agePart "year" x y

def julianDays (x y : Doc) : Doc :=
  .parens (.binary .sub (.call (.of "JULIANDAY") x) (.call (.of "JULIANDAY") y))

def calendarYears (x y : Doc) : Doc := .parens (.binary .sub (formatted "%Y" x) (formatted "%Y" y))

def calendarMonths (x y : Doc) : Doc :=
  .parens (.binary .sub (.binary .add (.binary .mul (calendarYears x y) (.keyword "12")) (formatted "%m" x))
    (formatted "%m" y))

def julianDiff (unit : ElapsedUnit) (x y : Doc) : Doc :=
  (julianDays x y).scaledDays (match unit with
    | .years => calendarYears x y
    | .quarters => (calendarMonths x y).scaled .div "3"
    | _ => calendarMonths x y) unit

def monthsBetween (x y : Doc) : Doc := .call (.of "MONTHS_BETWEEN") (.listed x y)

def monthsDiff (unit : ElapsedUnit) (x y : Doc) : Doc :=
  scaledDays (.parens (.binary .sub x y)) (match unit with
    | .quarters => (monthsBetween x y).truncated "3"
    | .years => (monthsBetween x y).truncated "12"
    | _ => .call (.of "TRUNC") (monthsBetween x y)) unit

def counted (w : Word) (unit v w' : Doc) : Doc := .call w (.listed unit (.listed w' v))

def dateDiff (d : Dialect) (unit : ElapsedUnit) (v w : Doc) : Doc :=
  match d with
  | .mysql =>
    let diff := counted (.of "TIMESTAMPDIFF") (elapsedDoc unit .mysql) v w
    if unit = .milliseconds then diff.scaled .div "1000" else diff
  | .postgres => timestampDiff unit (.cast v (.keyword "TIMESTAMP")) (.cast w (.keyword "TIMESTAMP"))
  | .mssql => counted (.of "DATEDIFF") (elapsedDoc unit .mssql) v w
  | .sqlite => julianDiff unit v w
  | .oracle => monthsDiff unit (.cast v (.keyword "DATE")) (.cast w (.keyword "DATE"))

def dateText (d : Dialect) (v : Doc) : Doc :=
  match d with
  | .mysql => .call (.of "DATE_FORMAT") (.listed v (.text "%Y-%m-%d"))
  | .postgres => .call (.of "TO_CHAR") (.listed (.cast v (.keyword "DATE")) (.text "YYYY-MM-DD"))
  | .mssql => .call (.of "CONVERT") (.listed (.call (.of "VARCHAR") (.keyword "10")) (.listed v (.keyword "23")))
  | .sqlite => .call (.of "STRFTIME") (.listed (.text "%Y-%m-%d") v)
  | .oracle => .call (.of "TO_CHAR") (.listed v (.text "YYYY-MM-DD"))

def datePart (d : Dialect) (part : ShiftUnit) (v : Doc) : Doc :=
  let stamp : Doc := .cast v (.keyword "TIMESTAMP")
  match d, part with
  | .mssql, _ => .call (.of "DATEPART") (.listed (shiftDoc part .mssql) v)
  | .sqlite, .year => formatted "%Y" v
  | .sqlite, .month => formatted "%m" v
  | .sqlite, .day => formatted "%d" v
  | .sqlite, _ => formatted "%H" v
  | .oracle, .hour => .extract (shiftDoc .hour .oracle) stamp
  | .oracle, _ => .extract (shiftDoc part .oracle) v
  | _, _ => .extract (shiftDoc part .oracle) stamp

def dayNumber (d : Dialect) (v : Doc) : Doc :=
  match d with
  | .mysql => .call (.of "WEEKDAY") v
  | .postgres => .extract (.keyword "ISODOW") (.cast v (.keyword "TIMESTAMP"))
  | .mssql => .parens (.binary .mod (.parens (.binary .add (.binary .add (.call (.of "DATEPART")
      (.listed (.keyword "WEEKDAY") v)) (.keyword "@@DATEFIRST")) (.keyword "5"))) (.keyword "7"))
  | .sqlite => formatted "%w" v
  | .oracle => .parens (.binary .sub (.call (.of "TRUNC") v) (.call (.of "TRUNC") (.listed v (.text "IW"))))

def shifted (day : Doc) : Nat → Doc
  | 0 => day
  | k => .parens (.binary .add day (countDoc k))

def weekday (d : Dialect) (start : Weekday) (v : Doc) : Doc :=
  let day := dayNumber d v
  if d.needsWeekShift start then groupedRemainder d (day.shifted (d.weekShift start)) (.keyword "7") else day

end Doc

namespace Spells

theorem dateAdd_mysql (hv : Spells .mysql (arg .mysql args 0).result v)
    (hw : writesAmount .mysql args = true → Spells .mysql (groupedArg .mysql args 1).result w) :
    Spells .mysql (dateAdd .mysql args).result (.dateAdd .mysql args v w) := by
  cases hn : negativeAmount? args with
  | some n =>
    constructor
    · simp [Sql.dateAdd, Doc.dateAdd, Doc.interval, hn, shiftDoc, hv.text]
    · simp [Sql.dateAdd, Doc.dateAdd, Doc.interval, hn, shiftDoc, hv.bindings]
  | none =>
    replace hw := hw (by simp [writesAmount, hn])
    constructor
    · simp [Sql.dateAdd, Doc.dateAdd, Doc.interval, hn, shiftDoc, hv.text, hw.text]
    · simp [Sql.dateAdd, Doc.dateAdd, Doc.interval, hn, shiftDoc, hv.bindings, hw.bindings]

theorem dateAdd_postgres (hv : Spells .postgres (arg .postgres args 0).result v)
    (hw : Spells .postgres (groupedArg .postgres args 1).result w) :
    Spells .postgres (dateAdd .postgres args).result (.dateAdd .postgres args v w) := by
  have hu : Unquoted ("1 " ++ (shiftUnit args).keyword .postgres) :=
    .append (by decide) (unquoted_shiftKeyword _ _)
  unfold Unquoted at hu
  constructor
  · simp [Sql.dateAdd, Doc.dateAdd, Sql.castTo, InfixOp.text, hu, hv.text, hw.text]
  · simp [Sql.dateAdd, Doc.dateAdd, Sql.castTo, hv.bindings, hw.bindings]

theorem dateAdd_mssql (hv : Spells .mssql (arg .mssql args 0).result v)
    (hw : writesAmount .mssql args = true → Spells .mssql (arg .mssql args 1).result w) :
    Spells .mssql (dateAdd .mssql args).result (.dateAdd .mssql args v w) := by
  cases hn : negativeAmount? args with
  | some n =>
    constructor
    · simp [Sql.dateAdd, Doc.dateAdd, hn, shiftDoc, hv.text]
    · simp [Sql.dateAdd, Doc.dateAdd, hn, shiftDoc, hv.bindings]
  | none =>
    replace hw := hw (by simp [writesAmount, hn])
    constructor
    · simp [Sql.dateAdd, Doc.dateAdd, hn, shiftDoc, hv.text, hw.text]
    · simp [Sql.dateAdd, Doc.dateAdd, hn, shiftDoc, hv.bindings, hw.bindings]

theorem dateAdd_sqlite (hv : Spells .sqlite (arg .sqlite args 0).result v)
    (hw : writesAmount .sqlite args = true → Spells .sqlite (groupedArg .sqlite args 1).result w) :
    Spells .sqlite (dateAdd .sqlite args).result (.dateAdd .sqlite args v w) := by
  have hu : Unquoted (" " ++ (shiftUnit args).keyword .sqlite) :=
    .append (by decide) (unquoted_shiftKeyword _ _)
  unfold Unquoted at hu
  cases hn : numberArg? args 1 with
  | some n =>
    constructor
    · simp [Sql.dateAdd, Doc.dateAdd, hn, hv.text]
    · simp [Sql.dateAdd, Doc.dateAdd, hn, hv.bindings]
  | none =>
    replace hw := hw (by simp [writesAmount, hn])
    by_cases hs : shiftUnit args = .week
    · rw [hs] at hu
      constructor
      · simp [Sql.dateAdd, Doc.dateAdd, Doc.scaled, hn, hs, hu, InfixOp.text, hv.text, hw.text]
      · simp [Sql.dateAdd, Doc.dateAdd, Doc.scaled, hn, hs, hv.bindings, hw.bindings]
    · constructor
      · simp [Sql.dateAdd, Doc.dateAdd, hn, hs, hu, InfixOp.text, hv.text, hw.text]
      · simp [Sql.dateAdd, Doc.dateAdd, hn, hs, hv.bindings, hw.bindings]

theorem dateAdd_oracle (hv : Spells .oracle (groupedArg .oracle args 0).result v)
    (hw : Spells .oracle (groupedArg .oracle args 1).result w) :
    Spells .oracle (dateAdd .oracle args).result (.dateAdd .oracle args v w) := by
  have hu := unquoted_shiftKeyword (shiftUnit args) .oracle
  have hday : Unquoted "DAY" := by decide
  unfold Unquoted at hu hday
  cases hs : shiftUnit args
  case month | year | week =>
    constructor
    · simp [Sql.dateAdd, Doc.dateAdd, hs, hday, InfixOp.text, hv.text, hw.text]
    · simp [Sql.dateAdd, Doc.dateAdd, hs, hv.bindings, hw.bindings]
  all_goals
    rw [hs] at hu
    constructor
    · simp [Sql.dateAdd, Doc.dateAdd, hs, hu, InfixOp.text, hv.text, hw.text]
    · simp [Sql.dateAdd, Doc.dateAdd, hs, hv.bindings, hw.bindings]

theorem dateAdd (hv : Spells d (shiftedDate d args).result v)
    (hw : writesAmount d args = true → Spells d (shiftAmount d args).result w) :
    Spells d (dateAdd d args).result (.dateAdd d args v w) := by
  cases d
  case mysql => exact dateAdd_mysql hv hw
  case postgres => exact dateAdd_postgres hv (hw rfl)
  case mssql => exact dateAdd_mssql hv hw
  case sqlite => exact dateAdd_sqlite hv hw
  case oracle => exact dateAdd_oracle hv (hw rfl)

theorem scaled (op : InfixOp) (k : String) (hk : isKeyword k.toList = true) {t : String}
    (ht : t.toList = ' ' :: (op.text.toList ++ ' ' :: (k.toList ++ [')']))) (hs : Spells d f g) :
    Spells d ("(" ++ f ++ Fragment.raw t) (.scaled op g k hk) := by
  constructor
  · simp [Doc.scaled, ht, hs.text]
  · simp [Doc.scaled, hs.bindings]

theorem truncated (k : String) (hk : isKeyword k.toList = true) {t : String}
    (ht : t.toList = ' ' :: '/' :: ' ' :: (k.toList ++ [')'])) (hs : Spells d f g) :
    Spells d ("TRUNC(" ++ f ++ Fragment.raw t) (.truncated g k hk) := by
  constructor
  · simp [Doc.truncated, ht, InfixOp.text, hs.text]
  · simp [Doc.truncated, hs.bindings]

theorem scaledDays {unit : ElapsedUnit} {s : Fragment} (hu : scaledDays? f unit = some s) (hs : Spells d f g)
    (other : Doc) : Spells d s (g.scaledDays other unit) := by
  cases unit <;> simp only [scaledDays?, Option.some.injEq, reduceCtorEq] at hu <;> subst hu
  case milliseconds => exact scaled .mul "86400000" (by decide) (by simp [InfixOp.text]) hs
  case seconds => exact scaled .mul "86400" (by decide) (by simp [InfixOp.text]) hs
  case minutes => exact scaled .mul "1440" (by decide) (by simp [InfixOp.text]) hs
  case hours => exact scaled .mul "24" (by decide) (by simp [InfixOp.text]) hs
  case days => exact hs
  case weeks => exact scaled .div "7" (by decide) (by simp [InfixOp.text]) hs

theorem formatted (pattern : String) (hp : Unquoted pattern) (hs : Spells d f g) :
    Spells d (formatted pattern f) (.formatted pattern g) := by
  unfold Unquoted at hp
  refine Spells.castKeyword ⟨?_, ?_⟩ "INTEGER" _
  · simp [hp, hs.text]
  · simp [hs.bindings]

section
variable (hf : Spells d f g) (hh : Spells d h g') (unit : ElapsedUnit)
include hf hh

theorem timestampDiff : Spells d (timestampDiff unit f h) (.timestampDiff unit g g') := by
  have hyear : Unquoted "year" := by decide
  have hmonth : Unquoted "month" := by decide
  unfold Unquoted at hyear hmonth
  have hseconds : Spells d ("EXTRACT(EPOCH FROM (" ++ f ++ " - " ++ h ++ "))")
      (.extract (.keyword "EPOCH" (by decide)) (.parens (.binary .sub g g'))) := by
    constructor
    · simp [Doc.extract, InfixOp.text, hf.text, hh.text]
    · simp [Doc.extract, hf.bindings, hh.bindings]
  have hmonths : Spells d ("(DATE_PART('year', " ++ ("AGE(" ++ f ++ ", " ++ h ++ ")")
      ++ ") * 12 + DATE_PART('month', " ++ ("AGE(" ++ f ++ ", " ++ h ++ ")") ++ "))") (.ageInMonths g g') := by
    constructor
    · simp [Doc.ageInMonths, Doc.agePart, InfixOp.text, hyear, hmonth, hf.text, hh.text]
    · simp [Doc.ageInMonths, Doc.agePart, hf.bindings, hh.bindings]
  cases unit
  case milliseconds => exact scaled .mul "1000" (by decide) (by simp [InfixOp.text]) hseconds
  case seconds => exact hseconds
  case minutes => exact scaled .div "60" (by decide) (by simp [InfixOp.text]) hseconds
  case hours => exact scaled .div "3600" (by decide) (by simp [InfixOp.text]) hseconds
  case days => exact scaled .div "86400" (by decide) (by simp [InfixOp.text]) hseconds
  case weeks => exact scaled .div "604800" (by decide) (by simp [InfixOp.text]) hseconds
  case months => exact hmonths
  case quarters => exact truncated "3" (by decide) (by simp) hmonths
  case years =>
    constructor
    · simp [Sql.timestampDiff, Doc.timestampDiff, Doc.agePart, hyear, hf.text, hh.text]
    · simp [Sql.timestampDiff, Doc.timestampDiff, Doc.agePart, hf.bindings, hh.bindings]

theorem julianDiff : Spells d (julianDiff unit f h) (.julianDiff unit g g') := by
  have hdays : Spells d ("(JULIANDAY(" ++ f ++ ") - JULIANDAY(" ++ h ++ "))") (.julianDays g g') := by
    constructor
    · simp [Doc.julianDays, InfixOp.text, hf.text, hh.text]
    · simp [Doc.julianDays, hf.bindings, hh.bindings]
  have hyears : Spells d ("(" ++ Sql.formatted "%Y" f ++ " - " ++ Sql.formatted "%Y" h ++ ")")
      (.calendarYears g g') := by
    have hx := hf.formatted "%Y" (by decide)
    have hy := hh.formatted "%Y" (by decide)
    constructor
    · simp [Doc.calendarYears, InfixOp.text, hx.text, hy.text]
    · simp [Doc.calendarYears, hx.bindings, hy.bindings]
  have hmonths : Spells d ("(" ++ ("(" ++ Sql.formatted "%Y" f ++ " - " ++ Sql.formatted "%Y" h ++ ")")
      ++ " * 12 + " ++ Sql.formatted "%m" f ++ " - " ++ Sql.formatted "%m" h ++ ")") (.calendarMonths g g') := by
    have hx := hf.formatted "%m" (by decide)
    have hy := hh.formatted "%m" (by decide)
    constructor
    · simp [Doc.calendarMonths, InfixOp.text, ← hyears.text, hx.text, hy.text]
    · simp [Doc.calendarMonths, ← hyears.bindings, hx.bindings, hy.bindings]
  cases hu : scaledDays? ("(JULIANDAY(" ++ f ++ ") - JULIANDAY(" ++ h ++ "))") unit with
  | some s =>
    simp only [Sql.julianDiff, hu]
    exact hdays.scaledDays hu _
  | none =>
    cases unit <;> simp only [scaledDays?, reduceCtorEq] at hu
    case months => exact hmonths
    case quarters => exact scaled .div "3" (by decide) (by simp [InfixOp.text]) hmonths
    case years => exact hyears

theorem monthsDiff : Spells d (monthsDiff unit f h) (.monthsDiff unit g g') := by
  have hdays : Spells d ("(" ++ f ++ " - " ++ h ++ ")") (.parens (.binary .sub g g')) := by
    constructor
    · simp [InfixOp.text, hf.text, hh.text]
    · simp [hf.bindings, hh.bindings]
  have hmonths : Spells d ("MONTHS_BETWEEN(" ++ f ++ ", " ++ h ++ ")") (.monthsBetween g g') := by
    constructor
    · simp [Doc.monthsBetween, hf.text, hh.text]
    · simp [Doc.monthsBetween, hf.bindings, hh.bindings]
  cases hu : scaledDays? ("(" ++ f ++ " - " ++ h ++ ")") unit with
  | some s =>
    simp only [Sql.monthsDiff, hu]
    exact hdays.scaledDays hu _
  | none =>
    cases unit <;> simp only [scaledDays?, reduceCtorEq] at hu
    case months =>
      constructor
      · simp [Sql.monthsDiff, Doc.monthsDiff, Doc.scaledDays, scaledDays?, ← hmonths.text]
      · simp [Sql.monthsDiff, Doc.monthsDiff, Doc.scaledDays, scaledDays?, ← hmonths.bindings]
    case quarters => exact truncated "3" (by decide) (by simp) hmonths
    case years => exact truncated "12" (by decide) (by simp) hmonths

end

theorem dateDiff (hv : Spells d (arg d args 0).result v) (hw : Spells d (arg d args 1).result w) :
    Spells d (dateDiff d args).result (.dateDiff d (elapsedUnit args) v w) := by
  cases d
  case mysql =>
    have hdiff : Spells .mysql (("TIMESTAMPDIFF(" ++ (elapsedUnit args).keyword .mysql ++ ", ")
        ++ (arg .mysql args 1).result ++ ", " ++ (arg .mysql args 0).result ++ ")")
        (.counted (.of "TIMESTAMPDIFF" (by decide)) (elapsedDoc (elapsedUnit args) .mysql) v w) := by
      constructor
      · simp [Doc.counted, elapsedDoc, hv.text, hw.text]
      · simp [Doc.counted, elapsedDoc, hv.bindings, hw.bindings]
    simp only [Sql.dateDiff, Doc.dateDiff, Noted.result_bind, Noted.result_pure]
    split
    · exact scaled .div "1000" (by decide) (by simp [InfixOp.text]) hdiff
    · exact hdiff
  case postgres => exact timestampDiff (hv.castKeyword _ _) (hw.castKeyword _ _) _
  case mssql =>
    constructor
    · simp [Sql.dateDiff, Doc.dateDiff, Doc.counted, elapsedDoc, hv.text, hw.text]
    · simp [Sql.dateDiff, Doc.dateDiff, Doc.counted, elapsedDoc, hv.bindings, hw.bindings]
  case sqlite => exact julianDiff hv hw _
  case oracle => exact monthsDiff (hv.castKeyword _ _) (hw.castKeyword _ _) _

theorem dateText (hv : Spells d (arg d args 0).result v) : Spells d (dateText d args).result (.dateText d v) := by
  have hpercent : Unquoted "%Y-%m-%d" := by decide
  have hletters : Unquoted "YYYY-MM-DD" := by decide
  unfold Unquoted at hpercent hletters
  cases d <;> constructor <;>
    simp [Sql.dateText, Doc.dateText, Sql.castTo, hpercent, hletters, hv.text, hv.bindings]

theorem extract (part : ShiftUnit) (hs : Spells d f g) :
    Spells d (("EXTRACT(" ++ part.keyword .oracle ++ " FROM ") ++ f ++ ")") (.extract (shiftDoc part .oracle) g) := by
  constructor
  · simp [Doc.extract, shiftDoc, hs.text]
  · simp [Doc.extract, shiftDoc, hs.bindings]

theorem datePart (part : ShiftUnit) (hv : Spells d (arg d args 0).result v) :
    Spells d (datePart d part args).result (.datePart d part v) := by
  have hcast : Spells d (Sql.castTo "TIMESTAMP" (arg d args 0).result) (.cast v (.keyword "TIMESTAMP" (by decide))) :=
    hv.castKeyword _ _
  cases d
  case mysql | postgres => exact hcast.extract part
  case mssql =>
    constructor
    · simp [Sql.datePart, Doc.datePart, shiftDoc, hv.text]
    · simp [Sql.datePart, Doc.datePart, shiftDoc, hv.bindings]
  case sqlite =>
    cases part
    case year => exact hv.formatted "%Y" (by decide)
    case month => exact hv.formatted "%m" (by decide)
    case day => exact hv.formatted "%d" (by decide)
    all_goals exact hv.formatted "%H" (by decide)
  case oracle =>
    cases part
    case hour => exact hcast.extract .hour
    all_goals exact hv.extract _

theorem dayNumber (hs : Spells d f g) : Spells d (dayNumber d f) (.dayNumber d g) := by
  have hweek : Unquoted "IW" := by decide
  unfold Unquoted at hweek
  cases d
  case sqlite => exact hs.formatted "%w" (by decide)
  all_goals
    constructor
    · simp [Sql.dayNumber, Doc.dayNumber, Doc.extract, Sql.castTo, InfixOp.text, hweek, hs.text]
    · simp [Sql.dayNumber, Doc.dayNumber, Doc.extract, Sql.castTo, hs.bindings]

theorem shifted (hs : Spells d f g) (k : Nat) : Spells d (match k with
    | 0 => f
    | k => "(" ++ f ++ (" + " ++ toString k ++ ")")) (g.shifted k) := by
  cases k with
  | zero => exact hs
  | succ k =>
    constructor
    · simp [Doc.shifted, countDoc, InfixOp.text, hs.text]
    · simp [Doc.shifted, countDoc, hs.bindings]

theorem weekday (hv : Spells d (arg d args 0).result v) :
    Spells d (weekday d args).result (.weekday d (startDay args).result v) := by
  have hday := hv.dayNumber
  simp only [Sql.weekday, Doc.weekday, Noted.result_bind, Noted.result_pure]
  split
  · exact (hday.shifted _).groupedRemainder (.keyword "7" (by decide))
  · exact hday

end Spells

end SheetQuery.Sql
