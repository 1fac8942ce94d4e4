import SheetQuery.Proofs.Layouts.Arithmetic
import SheetQuery.Sql.Strings

/-! The layouts of the functions on text, given those of their arguments. -/

namespace SheetQuery.Sql

variable {d : Dialect} {args : List Operand} {f : Fragment} {g v w k : Doc} {gs : List Doc}

/-- A part of a concatenation that is written with operators. In SQLite a part counts as the empty text if
it is NULL, which a concatenation never is. -/
def concatPart (d : Dialect) (x : Operand) : Fragment :=
  if d = .sqlite ∧ x.expr.calledName ≠ some "CONCAT" then "COALESCE(" ++ (x.grouped d).result ++ ", '')"
  else (x.grouped d).result

namespace Doc

def guarded (w : Word) (g : Doc) : Doc := .call w (.listed g (.text ""))

def concatPart (d : Dialect) (e : Expr) (g : Doc) : Doc :=
  if d = .sqlite ∧ e.calledName ≠ some "CONCAT" then .guarded (.of "COALESCE") g else g

def piped : List Doc → Doc
  | [] => .text ""
  | [g] => g
  | gs => .parens (.joined .pipe gs)

def concatParts (d : Dialect) (gs : List Doc) : List Doc :=
  match d with
  | .mysql => gs.map (.guarded (.of "IFNULL"))
  | .mssql => if gs.length < 2 then gs ++ [.text ""] else gs
  | _ => gs

def trimmed (v : Doc) : Doc := .call (.of "LTRIM") (.call (.of "RTRIM") v)

def leading (v n : Doc) : Doc := .call (.of "SUBSTR") (.listed v (.listed (.keyword "1") n))

def trailing (v n : Doc) : Doc := .call (.of "SUBSTR") (.listed v (.minus n))

def substring (v n k : Doc) : Doc := .call (.of "SUBSTRING") (.listed v (.listed n k))

def search (d : Dialect) (v w : Doc) : Doc :=
  match d with
  | .mysql => .call (.of "LOCATE") (.listed w v)
  | .postgres => .call (.of "POSITION") (.spaced w (.spaced (.keyword "IN") v))
  | .mssql => .call (.of "CHARINDEX") (.listed w v)
  | .sqlite | .oracle => .call (.of "INSTR") (.listed v w)

def padded (v k : Doc) : Doc :=
  .call (.of "RPAD") (.listed v (.listed (.binary .mul (.call (.of "LENGTH") v) k) v))

def zeroes (v n : Doc) : Doc :=
  .call (.of "REPLACE") (.listed (.call (.of "HEX") (.call (.of "ZEROBLOB") n)) (.listed (.text "00") v))

def patternMatch (d : Dialect) (v w : Doc) : Doc :=
  match d with
  | .postgres => .parens (.binary .tilde v w)
  | .sqlite => .parens (.binary .regexp v w)
  | _ => .call (.of "REGEXP_LIKE") (.listed v w)

def patternExtract (v w : Doc) : Doc := .call (.of "SUBSTRING") (.spaced v (.spaced (.keyword "FROM") w))

def patternReplace (v w k : Doc) : Doc :=
  .call (.of "REGEXP_REPLACE") (.listed v (.listed w (.listed k (.text "g"))))

def jsonMember (d : Dialect) (v w : Doc) : Doc :=
  match d with
  | .oracle => .call (.of "JSON_VALUE") (.listed v w)
  | .postgres => .parens (.binary .path (.call (.of "JSONB_PATH_QUERY_FIRST")
      (.listed (.cast v (.keyword "JSONB")) (.cast w (.keyword "JSONPATH")))) (.text "\x7b\x7d"))
  | _ => .call (.of "JSON_UNQUOTE") (.call (.of "JSON_EXTRACT") (.listed v w))

end Doc

namespace Spells

theorem guarded (w : Word) {o : Fragment} (ho : o.text.toList = w.text.toList ++ ['(']) (hb : o.bindings = [])
    (hs : Spells d f g) : Spells d (o ++ f ++ ", '')") (.guarded w g) := by
  constructor
  · simp [Doc.guarded, ho, hs.text, Text.replaceChar]
  · simp [Doc.guarded, hb, hs.bindings]

theorem concatPart {x : Operand} (hs : Spells d (x.grouped d).result g) :
    Spells d (concatPart d x) (.concatPart d x.expr g) := by
  unfold Sql.concatPart Doc.concatPart
  split
  · exact guarded (.of "COALESCE") (by simp) rfl hs
  · exact hs

theorem piped {fs : List Fragment} (hs : List.Forall₂ (Spells d) fs gs) : Spells d (piped fs) (.piped gs) := by
  cases hs with
  | nil => exact quotes
  | cons hf hs =>
    cases hs with
    | nil => exact hf
    | cons hf' hs =>
      exact (joined .pipe " || " (by simp [InfixOp.text]) (.cons hf (.cons hf' hs))).parenthesized

theorem concat_piped (hd : d = .oracle ∨ d = .sqlite)
    (hs : List.Forall₂ (fun x g => Spells d (Sql.concatPart d x) g) args gs) :
    Spells d (concat d args).result (.piped gs) := by
  have hp : Spells d (Sql.piped (args.map (Sql.concatPart d))) (.piped gs) :=
    piped (List.forall₂_map_left_iff.2 hs)
  rcases hd with rfl | rfl
  · have hparts : args.map (Sql.concatPart .oracle) = args.map fun x => (x.grouped .oracle).result :=
      List.map_congr_left fun x _ => by simp [Sql.concatPart]
    rw [hparts] at hp
    simpa [concat, Function.comp_def] using hp
  · have hparts : args.map (Sql.concatPart .sqlite) = args.map fun x =>
        (if x.expr.calledName = some "CONCAT" then (x.grouped .sqlite).result
          else "COALESCE(" ++ (x.grouped .sqlite).result ++ ", '')" : Fragment) :=
      List.map_congr_left fun x _ => by simp [Sql.concatPart]
    rw [hparts] at hp
    simpa [concat, Function.comp_def, apply_ite Noted.result] using hp

theorem concat_called (hd : ¬ (d = .oracle ∨ d = .sqlite))
    (hs : List.Forall₂ (fun x g => Spells d (x.value d).result g) args gs) :
    Spells d (concat d args).result (.call (.of "CONCAT") (.list (Doc.concatParts d gs))) := by
  have hv := values hs
  cases d
  case postgres => exact nativeCall hs (.of "CONCAT")
  case mysql =>
    refine callText (.of "CONCAT") ?_
    rw [Doc.concatParts, List.forall₂_map_left_iff, List.forall₂_map_right_iff]
    exact hv.imp fun f g hf => guarded (.of "IFNULL") (by simp) rfl hf
  case mssql =>
    refine callText (.of "CONCAT") ?_
    rw [Doc.concatParts, hv.length_eq]
    split
    · exact List.rel_append hv (.cons quotes .nil)
    · exact hv
  all_goals simp at hd

theorem linkEncoded (hv : Spells d (arg d args 0).result v) :
    Spells d (linkEncoded d args).result (.replaceAll linkEscapes v) :=
  hv.replaceAll (by decide)

theorem trimmed (hv : Spells d (arg d args 0).result v) : Spells d (trimmed d args).result v.trimmed := by
  constructor <;> simp [Sql.trimmed, Doc.trimmed, hv.text, hv.bindings]

section
variable (hv : Spells d (arg d args 0).result v) (hw : Spells d (arg d args 1).result w)
include hv

theorem trailing (hw : Spells d (groupedArg d args 1).result w) :
    Spells d (trailing d args).result (v.trailing w) := by
  constructor <;> simp [Sql.trailing, Doc.trailing, hv.text, hw.text, hv.bindings, hw.bindings]

theorem padded (hd : d = .oracle) (hw : Spells d (groupedArg d args 1).result w) :
    Spells d (repeated d args).result (v.padded w) := by
  subst hd
  constructor <;> simp [repeated, Doc.padded, InfixOp.text, hv.text, hw.text, hv.bindings, hw.bindings]

theorem jsonLiteral (hd : d = .oracle) {path : String} (hl : literalArg? args 1 = some path) :
    Spells d (jsonMember d args).result (v.jsonMember d (.text path)) := by
  subst hd
  constructor <;> simp [Sql.jsonMember, Doc.jsonMember, hl, hv.text, hv.bindings]

include hw

theorem leading : Spells d (leading d args).result (v.leading w) := by
  constructor <;> simp [Sql.leading, Doc.leading, hv.text, hw.text, hv.bindings, hw.bindings]

theorem substring (hk : ∀ x, args[2]? = some x → Spells d (x.value d).result k)
    (hn : args[2]? = none → k = .call (.of "LEN") v) : Spells d (substring d args).result (v.substring w k) := by
  cases hi : args[2]? with
  | none =>
    rw [hn hi]
    constructor <;> simp [Sql.substring, Doc.substring, hi, hv.text, hw.text, hv.bindings, hw.bindings]
  | some x =>
    have hx := hk x hi
    constructor <;>
      simp [Sql.substring, Doc.substring, hi, hv.text, hw.text, hx.text, hv.bindings, hw.bindings, hx.bindings]

theorem search : Spells d (search d args).result (v.search d w) := by
  cases d <;> constructor <;>
    simp [Sql.search, Doc.search, hv.text, hw.text, hv.bindings, hw.bindings]

theorem zeroes (hd : d ≠ .oracle) : Spells d (repeated d args).result (v.zeroes w) := by
  cases d
  case oracle => exact absurd rfl hd
  all_goals
    constructor <;> simp [repeated, Doc.zeroes, hv.text, hw.text, hv.bindings, hw.bindings, Text.replaceChar]

theorem patternMatch (hd : d ≠ .postgres ∧ d ≠ .sqlite) :
    Spells d (patternMatch d args).result (v.patternMatch d w) := by
  cases d
  case postgres | sqlite => simp at hd
  all_goals
    constructor <;> simp [Sql.patternMatch, Doc.patternMatch, hv.text, hw.text, hv.bindings, hw.bindings]

theorem patternExtract : Spells d (patternExtract d args).result (v.patternExtract w) := by
  constructor <;> simp [Sql.patternExtract, Doc.patternExtract, hv.text, hw.text, hv.bindings, hw.bindings]

theorem patternReplace (hk : Spells d (arg d args 2).result k) :
    Spells d (patternReplace d args).result (v.patternReplace w k) := by
  constructor
  · simp [Sql.patternReplace, Doc.patternReplace, hv.text, hw.text, hk.text, Text.replaceChar]
  · simp [Sql.patternReplace, Doc.patternReplace, hv.bindings, hw.bindings, hk.bindings]

theorem jsonMember (hd : d = .oracle → literalArg? args 1 = none) :
    Spells d (jsonMember d args).result (v.jsonMember d w) := by
  cases d
  case oracle =>
    constructor <;> simp [Sql.jsonMember, Doc.jsonMember, hd rfl, hv.text, hw.text, hv.bindings, hw.bindings]
  all_goals
    constructor
    · simp [Sql.jsonMember, Doc.jsonMember, Sql.castTo, InfixOp.text, hv.text, hw.text, Text.replaceChar]
    · simp [Sql.jsonMember, Doc.jsonMember, Sql.castTo, hv.bindings, hw.bindings]

end

theorem patternMatch_grouped (hd : d = .postgres ∨ d = .sqlite) (hv : Spells d (groupedArg d args 0).result v)
    (hw : Spells d (groupedArg d args 1).result w) :
    Spells d (Sql.patternMatch d args).result (v.patternMatch d w) := by
  rcases hd with rfl | rfl <;> constructor <;>
    simp [Sql.patternMatch, Doc.patternMatch, InfixOp.text, hv.text, hw.text, hv.bindings, hw.bindings]

end Spells

end SheetQuery.Sql
