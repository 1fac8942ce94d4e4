import SheetQuery.Compile
import SheetQuery.Proofs.Layouts.Arithmetic
import SheetQuery.Proofs.Shapes
import SheetQuery.Proofs.Weaving

/-! Functions side by side. From arguments whose SQL stands in a relation that fixed text keeps, every function of the
table makes SQL that stands in it too. A few functions look into an argument that is a literal; what they see there has
to be the same. -/

namespace SheetQuery

/-- The arguments that a function looks into: the amount and the unit of a shift of a date, the unit of a time
between dates, the day that a week starts on and the path into a JSON document. -/
def Builtin.looksInto : Builtin → Nat → Bool
  | .dateAdd, i => i == 1 || i == 2
  | .dateDiff, i => i == 2
  | .weekday, i | .jsonExtract, i => i == 1
  | _, _ => false

def Expr.looksInto (name : Option String) (i : Nat) : Bool :=
  ((name.bind fun name => Builtin.ofName? (Text.upper name)).map (·.looksInto i)).getD false

namespace Sql

/-- What is seen by looking into arguments is the same. -/
def SameSeen (looksInto : Nat → Bool) (args args' : List Operand) : Prop :=
  ∀ i, looksInto i = true → literalArg? args i = literalArg? args' i ∧ numberArg? args i = numberArg? args' i

theorem SameSeen.of_literals {looksInto : Nat → Bool} {args args' : List Operand} (h : List.Forall₂ (fun x x' =>
      x'.expr.asText? = x.expr.asText? ∧ x'.expr.asNumber? = x.expr.asNumber?) args args') :
    SameSeen looksInto args args' := by
  rintro i -
  rw [literalArg?, literalArg?, numberArg?, numberArg?]
  induction h generalizing i with
  | nil => simp
  | cons hx _ ih =>
    cases i with
    | zero => simp [hx.1, hx.2]
    | succ i => simpa using ih i

variable {d : Dialect} {loud : Prop} {R : Fragment → Fragment → Prop} (w : Weaving d loud R) {args args' : List Operand}

theorem isWord_of_isName {s : String} (h : isName s.toList = true) : IsWord s := by
  refine .of_toList ?_
  have hmarks : (['\'', '"', '\x60', '[', ']', '\\', '$', '#', '/', '*'].all fun m => !isNameChar m) = true := by
    decide
  simp only [isName, Bool.and_eq_true, List.all_eq_true] at h
  simp only [isPlainWord, Bool.and_eq_true, List.all_eq_true]
  refine ⟨h.1, fun c hc => ?_⟩
  rw [isLetter, Bool.not_eq_true', List.contains_eq_mem, decide_eq_false_iff_not]
  intro hm
  simpa [h.2 c hc] using List.all_eq_true.1 hmarks c hm

theorem isWord_toString (n : Nat) : IsWord (toString n) :=
  isWord_of_isName (isName_of_isKeyword (isKeyword_toString n))

theorem isWord_shiftUnit (unit : ShiftUnit) (d : Dialect) : IsWord (unit.keyword d) := by
  cases d <;> cases unit <;> exact ⟨_, rfl, by decide⟩

theorem isWord_elapsedUnit (unit : ElapsedUnit) (d : Dialect) : IsWord (unit.keyword d) := by
  cases d <;> cases unit <;> exact ⟨_, rfl, by decide⟩

namespace Weaving

variable {f f' g g' : Fragment}
include w

theorem negated {e e' : Expr} (h : e'.asNumber? = e.asNumber?) :
    Option.Rel (fun m n => R (.bind (.number m.neg)) (.bind (.number n.neg))) e.asNumber? e'.asNumber? := by
  rw [h]
  cases e.asNumber? with
  | none => exact .none
  | some n => exact .some (w.bind _)

theorem replaceIn {old new : String} (h : R f f')
    (ht : Closes (", '" ++ old ++ "', '" ++ new ++ "')")) : R (replaceIn old new f) (replaceIn old new f') :=
  w.closing ht (w.opened h rfl)

theorem roundedUp (h : R f f') : R (roundedUp d f) (roundedUp d f') := by
  cases d
  case sqlite => exact w.wrap₃ (w.castTo h rfl) h (w.castTo h rfl) rfl rfl rfl rfl
  all_goals exact w.wrap h rfl rfl

theorem roundedDown (h : R f f') : R (roundedDown d f) (roundedDown d f') := by
  cases d
  case sqlite => exact w.wrap₃ (w.castTo h rfl) h (w.castTo h rfl) rfl rfl rfl rfl
  all_goals exact w.wrap h rfl rfl

theorem withoutMarks (h : R f f') : R (withoutMarks f) (withoutMarks f') := by
  have hmarks : ∀ marks : List String,
      (∀ m ∈ marks, closesOperand isPlain (", '" ++ m ++ "', '" ++ "" ++ "')").toList) →
      ∀ {f f'}, R f f' → R (marks.foldl (fun f mark => Sql.replaceIn mark "" f) f)
        (marks.foldl (fun f mark => Sql.replaceIn mark "" f) f') := by
    intro marks hm
    induction marks with
    | nil => exact fun h => h
    | cons m marks ih =>
      rw [List.forall_mem_cons] at hm
      exact fun h => ih hm.2 (w.replaceIn h (.of_toList hm.1))
  exact w.wrap (hmarks numberMarks (by decide) h) rfl rfl

theorem piped {fs fs' : List Fragment} (h : List.Forall₂ R fs fs') : R (piped fs) (piped fs') := by
  rcases h with _ | ⟨hf, _ | ⟨hg, hs⟩⟩
  · exact w.plain rfl
  · exact hf
  · exact w.parenthesized (w.join (.cons hf (.cons hg hs)) rfl)

theorem formatted {pattern : List Char} (h : R f f') (hp : isPlainWord pattern = true) :
    R (formatted (.ofList pattern) f) (formatted (.ofList pattern) f') :=
  w.castTo (w.closed (w.opening (.word ⟨pattern, rfl, hp⟩ rfl rfl rfl) h) rfl) rfl

theorem dayNumber (h : R f f') : R (dayNumber d f) (dayNumber d f') := by
  cases d
  case mysql => exact w.wrap h rfl rfl
  case postgres => exact w.wrap (w.castTo h rfl) rfl rfl
  case mssql => exact w.wrap h rfl rfl
  case sqlite => exact w.formatted h rfl
  case oracle => exact w.wrap₂ h h rfl rfl rfl

theorem timestampDiff (unit : ElapsedUnit) (h : R f f') (h' : R g g') :
    R (timestampDiff unit f g) (timestampDiff unit f' g') := by
  have hseconds : R ("EXTRACT(EPOCH FROM (" ++ f ++ " - " ++ g ++ "))")
      ("EXTRACT(EPOCH FROM (" ++ f' ++ " - " ++ g' ++ "))") := w.wrap₂ h h' rfl rfl rfl
  have hage : R ("AGE(" ++ f ++ ", " ++ g ++ ")") ("AGE(" ++ f' ++ ", " ++ g' ++ ")") := w.wrap₂ h h' rfl rfl rfl
  cases unit
  case seconds => exact hseconds
  case milliseconds | minutes | hours | days | weeks => exact w.wrap hseconds rfl rfl
  case months => exact w.wrap₂ hage hage rfl rfl rfl
  case quarters => exact w.wrap (w.wrap₂ hage hage rfl rfl rfl) rfl rfl
  case years => exact w.wrap hage rfl rfl

theorem julianDiff (unit : ElapsedUnit) (h : R f f') (h' : R g g') :
    R (julianDiff unit f g) (julianDiff unit f' g') := by
  have hdays : R ("(JULIANDAY(" ++ f ++ ") - JULIANDAY(" ++ g ++ "))")
      ("(JULIANDAY(" ++ f' ++ ") - JULIANDAY(" ++ g' ++ "))") := w.wrap₂ h h' rfl rfl rfl
  have hyears : R ("(" ++ Sql.formatted "%Y" f ++ " - " ++ Sql.formatted "%Y" g ++ ")")
      ("(" ++ Sql.formatted "%Y" f' ++ " - " ++ Sql.formatted "%Y" g' ++ ")") :=
    w.wrap₂ (w.formatted h rfl) (w.formatted h' rfl) rfl rfl rfl
  cases unit
  case days => exact hdays
  case milliseconds | seconds | minutes | hours | weeks => exact w.wrap hdays rfl rfl
  case years => exact hyears
  case months => exact w.wrap₃ hyears (w.formatted h rfl) (w.formatted h' rfl) rfl rfl rfl rfl
  case quarters => exact w.wrap (w.wrap₃ hyears (w.formatted h rfl) (w.formatted h' rfl) rfl rfl rfl rfl) rfl rfl

theorem monthsDiff (unit : ElapsedUnit) (h : R f f') (h' : R g g') :
    R (monthsDiff unit f g) (monthsDiff unit f' g') := by
  have hdays : R ("(" ++ f ++ " - " ++ g ++ ")") ("(" ++ f' ++ " - " ++ g' ++ ")") := w.wrap₂ h h' rfl rfl rfl
  have hmonths : R ("MONTHS_BETWEEN(" ++ f ++ ", " ++ g ++ ")") ("MONTHS_BETWEEN(" ++ f' ++ ", " ++ g' ++ ")") :=
    w.wrap₂ h h' rfl rfl rfl
  cases unit
  case days => exact hdays
  case milliseconds | seconds | minutes | hours | weeks => exact w.wrap hdays rfl rfl
  case months | quarters | years => exact w.wrap hmonths rfl rfl

end Weaving

include w

theorem isPresent_twin {x x' : Operand} (h : x.Twin loud R x') : (isPresent d x).Twin loud R (isPresent d x') :=
  (h.grouped w).bind fun hv => .pure (w.closed hv rfl)

theorem isFilled_twin {x x' : Operand} (h : x.Twin loud R x') : (isFilled d x).Twin loud R (isFilled d x') :=
  (h.grouped w).bind fun hv => .pure <| w.asPredicate <| by
    split
    · exact w.closed hv rfl
    · exact w.closed (w.parted hv (w.castText hv) rfl) rfl

section Arithmetic
variable (h : List.Forall₂ (Operand.Twin loud R) args args')
include h

theorem sumChain_twin : (sumChain d args).Twin loud R (sumChain d args') := by
  induction h with
  | nil => exact .null w
  | cons hx hs ih =>
    cases hs with
    | nil => exact hx
    | cons => exact hx.joined w ih (.glue rfl rfl rfl rfl)

theorem average_twin : (average d args).Twin loud R (average d args') := by
  have hlength := h.length_eq
  rcases h with _ | ⟨hx, _ | ⟨hy, hs⟩⟩
  case nil => exact (Operand.Twin.null w).value w
  case cons.nil => exact hx.value w
  case cons.cons =>
    simp only [average, hlength]
    refine ((Operand.Twin.mk (.call (some "SUM") _ _) ?_).joined w (.literal w _) (.glue rfl rfl rfl rfl)).value w
    exact (sumChain_twin w (.cons hx (.cons hy hs))).value w

theorem extreme_twin {name aggregate : List Char} (hn : isPlainWord name = true)
    (ha : isPlainWord aggregate = true) :
    (extreme d (.ofList name) (.ofList aggregate) args).Twin loud R
      (extreme d (.ofList name) (.ofList aggregate) args') := by
  have hrows {vs vs' : List Fragment} (hv : List.Forall₂ R vs vs') :
      R (.join ", " (vs.map fun v => "(" ++ v ++ ")")) (.join ", " (vs'.map fun v => "(" ++ v ++ ")")) :=
    w.join (List.rel_map (fun _ _ hf => w.wrap hf rfl rfl) hv) rfl
  have hsame := h
  rcases h with _ | ⟨hx, _ | ⟨_, _⟩⟩
  case cons.nil => exact hx.value w
  -- none or several
  all_goals
    cases d
    case mssql =>
      exact (values_twin w hsame).bind fun hv =>
        .pure (w.closed (w.opening (.word ⟨aggregate, rfl, ha⟩ rfl rfl rfl) (hrows hv)) rfl)
    case sqlite => exact nativeCall_twin w hsame ha
    all_goals exact nativeCall_twin w hsame hn

omit w in
theorem countIf_twin (w : Weaving d loud R) {test : Operand → Noted Fragment}
    (ht : ∀ {x x'}, Operand.Twin loud R x x' → (test x).Twin loud R (test x')) :
    (countIf test args).Twin loud R (countIf test args') := by
  cases h with
  | nil => exact .pure (w.plain rfl)
  | cons hx hs =>
    exact (all_twin (.cons hx hs) ht).bind fun hv =>
      .pure (w.parenthesized (w.join (List.rel_map (fun _ _ hf => w.oneIf hf) hv) rfl))

theorem precision_twin : (precision d args).Twin loud R (precision d args') := by
  simp only [precision, h.length_eq]
  split
  · exact arg_twin w h 1
  · exact .pure (w.plain rfl)

theorem round_twin : (round d args).Twin loud R (round d args') :=
  (arg_twin w h 0).bind fun hv => (precision_twin w h).bind fun hn => .pure <| by
    cases d
    case postgres => exact w.wrap₂ (w.castTo hv rfl) (w.castTo hn rfl) rfl rfl rfl
    all_goals exact w.wrap₂ hv hn rfl rfl rfl

theorem roundTowards_twin {direction : Dialect → Fragment → Fragment}
    (hd : ∀ {f f'}, R f f' → R (direction d f) (direction d f')) :
    (roundTowards direction d args).Twin loud R (roundTowards direction d args') :=
  (groupedArg_twin w h 0).bind fun hv => (precision_twin w h).bind fun hn =>
    .pure (w.wrap₂ (hd (w.parted hv (w.wrap hn rfl rfl) rfl)) (w.wrap hn rfl rfl) rfl rfl rfl)

theorem even_twin : (even d args).Twin loud R (even d args') :=
  (arg_twin w h 0).bind fun hv =>
    have hhalf := w.closed (w.castFloat hv) rfl
    .pure (w.wrap₃ hv (w.roundedUp hhalf) (w.roundedDown hhalf) rfl rfl rfl rfl)

theorem odd_twin : (odd d args).Twin loud R (odd d args') :=
  (arg_twin w h 0).bind fun hv =>
    .pure (w.wrap₃ hv (w.roundedUp (w.wrap (w.castFloat hv) rfl rfl))
      (w.roundedDown (w.wrap (w.castFloat hv) rfl rfl)) rfl rfl rfl rfl)

theorem modulo_twin : (modulo d args).Twin loud R (modulo d args') :=
  (groupedArg_twin w h 0).bind fun hl => (groupedArg_twin w h 1).bind fun hr => .pure (w.groupedRemainder hl hr)

theorem logarithm_twin : (logarithm d args).Twin loud R (logarithm d args') :=
  (arg_twin w h 0).bind fun hv => by
    rw [h.length_eq]
    split
    · exact .pure (by split <;> exact w.wrap hv rfl rfl)
    · refine (arg_twin w h 1).bind fun hw => .pure ?_
      cases d <;> first | exact w.wrap₂ hw hv rfl rfl rfl | exact w.wrap₂ hv hw rfl rfl rfl

theorem wholePart_twin : (wholePart d args).Twin loud R (wholePart d args') :=
  (arg_twin w h 0).bind fun hv => .pure <| by
    cases d
    case mysql => exact w.wrap hv rfl rfl
    all_goals exact w.castTo hv rfl

theorem numberOfText_twin : (numberOfText d args).Twin loud R (numberOfText d args') :=
  (arg_twin w h 0).bind fun hv => .pure <| by
    cases d
    case mysql | oracle => exact w.wrap hv rfl rfl
    case postgres => exact w.castTo (w.wrap (w.castText hv) rfl rfl) rfl
    case mssql => exact w.wrap (w.withoutMarks (w.castText hv)) rfl rfl
    case sqlite => exact w.castTo (w.withoutMarks (w.castText hv)) rfl

end Arithmetic

section Strings
variable (h : List.Forall₂ (Operand.Twin loud R) args args')
include h

theorem concat_twin : (concat d args).Twin loud R (concat d args') := by
  cases d
  case postgres => exact nativeCall_twin w h rfl
  case mysql =>
    exact (values_twin w h).bind fun hv =>
      .pure (w.callText (List.rel_map (fun _ _ hf => w.wrap hf rfl rfl) hv) rfl)
  case mssql =>
    refine (values_twin w h).bind fun hv => .pure (w.callText ?_ rfl)
    rw [hv.length_eq]
    split
    · exact List.rel_append hv (.cons (w.plain rfl) .nil)
    · exact hv
  case oracle => exact (all_twin h fun hx => hx.grouped w).map w.piped
  case sqlite =>
    refine (all_twin h fun hx => (hx.grouped w).bind fun hv => .pure ?_).map w.piped
    rw [hx.expr.calledName]
    split
    · exact hv
    · exact w.wrap hv rfl rfl

theorem link_twin : (link d args).Twin loud R (link d args') := by
  have htext (s : String) : (Operand.text s).Twin loud R (.text s) := .literal w _
  refine (concat_twin w ?_).map w.toValue
  rcases h with _ | ⟨hx, _ | ⟨hy, -⟩⟩
  · exact .cons (htext _) (.cons (.null w) (.cons (htext _) .nil))
  · exact .cons (htext _) (.cons hx (.cons (htext _) .nil))
  · exact .cons (htext _) (.cons hx (.cons (htext _) (.cons (htext _) (.cons hy (.cons (htext _) .nil)))))

theorem linkEncoded_twin : (linkEncoded d args).Twin loud R (linkEncoded d args') := by
  have hescapes : ∀ escapes : List (String × String),
      (∀ e ∈ escapes, closesOperand isPlain (", '" ++ e.1 ++ "', '" ++ e.2 ++ "')").toList) →
      ∀ {f f'}, R f f' → R (escapes.foldl (fun f e => replaceIn e.1 e.2 f) f)
        (escapes.foldl (fun f e => replaceIn e.1 e.2 f) f') := by
    intro escapes he
    induction escapes with
    | nil => exact fun h => h
    | cons e escapes ih =>
      rw [List.forall_mem_cons] at he
      exact fun h => ih he.2 (w.replaceIn h (.of_toList he.1))
  exact (arg_twin w h 0).bind fun hv => .pure (hescapes linkEscapes (by decide) hv)

theorem trimmed_twin : (trimmed d args).Twin loud R (trimmed d args') :=
  (arg_twin w h 0).bind fun hv => .pure (w.wrap hv rfl rfl)

theorem leading_twin : (leading d args).Twin loud R (leading d args') :=
  (arg_twin w h 0).bind fun hv => (arg_twin w h 1).bind fun hn => .pure (w.wrap₂ hv hn rfl rfl rfl)

theorem trailing_twin : (trailing d args).Twin loud R (trailing d args') :=
  (arg_twin w h 0).bind fun hv => (groupedArg_twin w h 1).bind fun hn => .pure (w.wrap₂ hv hn rfl rfl rfl)

theorem substring_twin : (substring d args).Twin loud R (substring d args') := by
  refine (arg_twin w h 0).bind fun hv => (arg_twin w h 1).bind fun hn => ?_
  have hlength := getElem?_twin h 2
  generalize args[2]? = x, args'[2]? = x' at hlength
  cases hlength with
  | some hx => exact (hx.value w).bind fun hk => .pure (w.wrap₃ hv hn hk rfl rfl rfl rfl)
  | none => exact .pure (w.wrap₃ hv hn (w.wrap hv rfl rfl) rfl rfl rfl rfl)

theorem search_twin : (search d args).Twin loud R (search d args') :=
  (arg_twin w h 0).bind fun hv => (arg_twin w h 1).bind fun hn => .pure <| by
    cases d
    case mysql | postgres | mssql => exact w.wrap₂ hn hv rfl rfl rfl
    case sqlite | oracle => exact w.wrap₂ hv hn rfl rfl rfl

theorem repeated_twin : (repeated d args).Twin loud R (repeated d args') :=
  (arg_twin w h 0).bind fun hv => by
    cases d
    case oracle =>
      exact (groupedArg_twin w h 1).bind fun hn =>
        .pure (w.closed (w.parted (w.parted (w.parted (w.opened hv rfl) hv rfl) hn rfl) hv rfl) rfl)
    all_goals exact (arg_twin w h 1).bind fun hn => .pure (w.wrap₂ hn hv rfl rfl rfl)

theorem patternMatch_twin : (patternMatch d args).Twin loud R (patternMatch d args') := by
  cases d
  case postgres =>
    exact (groupedArg_twin w h 0).bind fun hv => (groupedArg_twin w h 1).bind fun hn =>
      .pure (w.asPredicate (w.wrap₂ hv hn rfl rfl rfl))
  case sqlite =>
    exact (groupedArg_twin w h 0).bind fun hv => (groupedArg_twin w h 1).bind fun hn =>
      .pure (w.wrap₂ hv hn rfl rfl rfl)
  all_goals
    exact (arg_twin w h 0).bind fun hv => (arg_twin w h 1).bind fun hn =>
      .pure (w.asPredicate (w.wrap₂ hv hn rfl rfl rfl))

theorem patternExtract_twin : (patternExtract d args).Twin loud R (patternExtract d args') :=
  (arg_twin w h 0).bind fun hv => (arg_twin w h 1).bind fun hn => .pure (w.wrap₂ hv hn rfl rfl rfl)

theorem patternReplace_twin : (patternReplace d args).Twin loud R (patternReplace d args') :=
  (arg_twin w h 0).bind fun hv => (arg_twin w h 1).bind fun hn => (arg_twin w h 2).bind fun hk =>
    .pure (w.wrap₃ hv hn hk rfl rfl rfl rfl)

theorem jsonMember_twin (hseen : SameSeen Builtin.jsonExtract.looksInto args args') :
    (jsonMember d args).Twin loud R (jsonMember d args') :=
  (arg_twin w h 0).bind fun hv => by
    cases d
    case oracle =>
      simp only [(hseen 1 rfl).1]
      split
      · exact .pure (w.path _ rfl (w.opened hv rfl))
      · exact .after _ fun _ => (arg_twin w h 1).bind fun hn => .pure (w.wrap₂ hv hn rfl rfl rfl)
    case postgres =>
      exact (arg_twin w h 1).bind fun hn =>
        .pure (w.behind ⟨_, rfl, by decide⟩ (w.parted (w.opened (w.castTo hv rfl) rfl) (w.castTo hn rfl) rfl))
    all_goals exact (arg_twin w h 1).bind fun hn => .pure (w.wrap₂ hv hn rfl rfl rfl)

end Strings

section Dates
variable (h : List.Forall₂ (Operand.Twin loud R) args args')
include h

theorem dateAdd_twin (hseen : SameSeen Builtin.dateAdd.looksInto args args') :
    (dateAdd d args).Twin loud R (dateAdd d args') := by
  have hunit : shiftUnit args = shiftUnit args' := by rw [shiftUnit, (hseen 2 rfl).1, shiftUnit]
  have hnumber : numberArg? args 1 = numberArg? args' 1 := (hseen 1 rfl).2
  have hnegative : negativeAmount? args = negativeAmount? args' := by rw [negativeAmount?, hnumber, negativeAmount?]
  simp only [dateAdd, hunit, hnumber, hnegative]
  generalize shiftUnit args' = unit
  have hword (d : Dialect) := isWord_shiftUnit unit d
  cases d
  case mysql =>
    refine (arg_twin w h 0).bind fun hv => ?_
    split
    · exact .pure (w.closing (.word (hword .mysql) rfl rfl rfl) (w.parted (w.opened hv rfl) (w.bind _) rfl))
    · exact (groupedArg_twin w h 1).bind fun hn =>
        .pure (w.closing (.word (hword .mysql) rfl rfl rfl) (w.parted (w.opened hv rfl) hn rfl))
  case postgres =>
    exact (arg_twin w h 0).bind fun hv => (groupedArg_twin w h 1).bind fun hn =>
      .pure (w.closing (.word (hword .postgres) rfl rfl rfl) (w.parted (w.opened (w.castTo hv rfl) rfl) hn rfl))
  case mssql =>
    refine (arg_twin w h 0).bind fun hv => ?_
    split
    · exact .pure (w.closed (w.parted (w.opening (.word (hword .mssql) rfl rfl rfl) (w.bind _)) hv rfl) rfl)
    · exact (arg_twin w h 1).bind fun hn =>
        .pure (w.closed (w.parted (w.opening (.word (hword .mssql) rfl rfl rfl) hn) hv rfl) rfl)
  case sqlite =>
    refine (arg_twin w h 0).bind fun hv => ?_
    split
    · exact .pure (w.wrap₂ hv (w.bind _) rfl rfl rfl)
    · refine (groupedArg_twin w h 1).bind fun hn => .pure ?_
      have hamount : ∀ {f f'}, R f f' → R (if unit = .week then "(" ++ f ++ " * 7)" else f)
          (if unit = .week then "(" ++ f' ++ " * 7)" else f') := by
        intro f f' hf
        split
        · exact w.wrap hf rfl rfl
        · exact hf
      exact w.closing (.word (hword .sqlite) rfl rfl rfl) (w.parted (w.opened hv rfl) (hamount hn) rfl)
  case oracle =>
    refine (groupedArg_twin w h 0).bind fun hv => (groupedArg_twin w h 1).bind fun hn => .pure ?_
    cases unit
    case month | year | week => exact w.wrap₂ hv hn rfl rfl rfl
    all_goals exact w.closing (.word (hword .oracle) rfl rfl rfl) (w.parted (w.opened hv rfl) hn rfl)

theorem dateDiff_twin (hseen : SameSeen Builtin.dateDiff.looksInto args args') :
    (dateDiff d args).Twin loud R (dateDiff d args') := by
  have hunit : elapsedUnit args = elapsedUnit args' := by rw [elapsedUnit, (hseen 2 rfl).1, elapsedUnit]
  refine (arg_twin w h 0).bind fun hv => (arg_twin w h 1).bind fun hn => .pure ?_
  rw [hunit]
  generalize elapsedUnit args' = unit
  have hword (d : Dialect) := isWord_elapsedUnit unit d
  cases d
  case mysql =>
    dsimp only
    split
    · exact w.wrap (w.closed (w.parted (w.opening (.word (hword .mysql) rfl rfl rfl) hn) hv rfl) rfl) rfl rfl
    · exact w.closed (w.parted (w.opening (.word (hword .mysql) rfl rfl rfl) hn) hv rfl) rfl
  case postgres => exact w.timestampDiff unit (w.castTo hv rfl) (w.castTo hn rfl)
  case mssql => exact w.closed (w.parted (w.opening (.word (hword .mssql) rfl rfl rfl) hn) hv rfl) rfl
  case sqlite => exact w.julianDiff unit hv hn
  case oracle => exact w.monthsDiff unit (w.castTo hv rfl) (w.castTo hn rfl)

theorem dateText_twin : (dateText d args).Twin loud R (dateText d args') :=
  (arg_twin w h 0).bind fun hv => .pure <| by
    cases d
    case postgres => exact w.wrap (w.castTo hv rfl) rfl rfl
    all_goals exact w.wrap hv rfl rfl

theorem datePart_twin (part : ShiftUnit) : (datePart d part args).Twin loud R (datePart d part args') :=
  (arg_twin w h 0).bind fun hv => .pure <| by
    have hextract {f f' : Fragment} (hf : R f f') : R (("EXTRACT(" ++ part.keyword .oracle ++ " FROM ") ++ f ++ ")")
        (("EXTRACT(" ++ part.keyword .oracle ++ " FROM ") ++ f' ++ ")") :=
      w.closed (w.opening (.word (isWord_shiftUnit part .oracle) rfl rfl rfl) hf) rfl
    cases d
    case mysql | postgres => exact hextract (w.castTo hv rfl)
    case mssql => exact w.closed (w.opening (.word (isWord_shiftUnit part .mssql) rfl rfl rfl) hv) rfl
    case sqlite => cases part <;> exact w.formatted hv rfl
    case oracle =>
      cases part
      case hour => exact hextract (w.castTo hv rfl)
      all_goals exact hextract hv

omit w in
theorem startDay_eq (hseen : SameSeen Builtin.weekday.looksInto args args') : startDay args = startDay args' := by
  have hi := getElem?_twin h 1
  have hday := (hseen 1 rfl).1
  simp only [startDay, literalArg?] at hday ⊢
  generalize args[1]? = x, args'[1]? = x' at hi hday
  cases hi with
  | none => rfl
  | some hx =>
    simp only [Option.bind_some] at hday
    simp only [hday]

theorem weekday_twin (hseen : SameSeen Builtin.weekday.looksInto args args') :
    (weekday d args).Twin loud R (weekday d args') := by
  refine (arg_twin w h 0).bind fun hv => ?_
  rw [startDay_eq h hseen]
  refine (Noted.Twin.refl (S := Eq) (fun _ => rfl) _).bind fun {start _} hs => .pure ?_
  subst hs
  have hday := w.dayNumber hv
  split
  · refine w.groupedRemainder ?_ (w.plain rfl)
    split
    · exact hday
    · exact w.closing (.word (isWord_toString _) rfl rfl rfl) (w.opened hday rfl)
  · exact hday

end Dates

section Logic
variable (h : List.Forall₂ (Operand.Twin loud R) args args')
include h

theorem ifElse_twin : (ifElse d args).Twin loud R (ifElse d args') := by
  cases h with
  | nil => exact (arg_twin w .nil 1).bind fun hy => .pure (w.wrap₂ (w.plain rfl) hy rfl rfl rfl)
  | cons hx hs =>
    have h := List.Forall₂.cons hx hs
    refine (hx.condition w).bind fun ht => (arg_twin w h 1).bind fun hy => ?_
    rw [h.length_eq]
    split
    · exact (arg_twin w h 2).bind fun hn => .pure (w.wrap₃ ht hy hn rfl rfl rfl rfl)
    · exact .pure (w.wrap₂ ht hy rfl rfl rfl)

/-- What branches add behind a fragment. -/
theorem branches_twin : (branches d args).Twin loud (fun m m' => ∀ {f f'}, R f f' → R (f ++ m) (f' ++ m'))
    (branches d args') := by
  fun_induction branches d args generalizing args' with
  | case1 =>
    cases h
    have hempty (f : Fragment) : f ++ .empty = f.asValue := by
      have hparts : f ++ .empty = ⟨f.text ++ "", f.bindings ++ [], .value⟩ := rfl
      rw [hparts, String.append_empty, List.append_nil]
      rfl
    exact .pure fun hf => by simpa only [hempty] using w.asValue hf
  | case2 x =>
    obtain _ | ⟨hx, _ | _⟩ := h
    refine (hx.value w).bind fun hv => .pure fun hf => ?_
    rw [← Fragment.append_assoc, ← Fragment.append_assoc]
    exact w.parted hf hv rfl
  | case3 c r rest ih =>
    obtain _ | ⟨hc, _ | ⟨hr, hs⟩⟩ := h
    refine (hc.value w).bind fun hv => (hr.value w).bind fun hn => (ih hs).bind fun hm => .pure fun hf => ?_
    simp only [← Fragment.append_assoc]
    exact hm (w.parted (w.parted hf hv rfl) hn rfl)

theorem switch_twin : (switch d args).Twin loud R (switch d args') :=
  (arg_twin w h 0).bind fun hv => (branches_twin w (List.forall₂_drop 1 h)).bind fun hm =>
    .pure (w.closed (hm (w.opened hv rfl)) rfl)

theorem allOf_twin {word : String} (hw : IsWord word) :
    (allOf d word args).Twin loud R (allOf d word args') := by
  have hsame := h
  rcases h with _ | ⟨hx, _ | ⟨_, _⟩⟩
  case cons.nil => exact hx.condition w
  all_goals
    exact (all_twin hsame fun hx => hx.groupedCondition w).bind fun hc =>
      .pure (w.asPredicate (w.parenthesized (w.joining (.word hw rfl rfl rfl) hc)))

theorem xor_twin : (xor d args).Twin loud R (xor d args') := by
  cases d
  case mysql => exact allOf_twin w h ⟨_, rfl, rfl⟩
  all_goals
    refine (all_twin h fun hx => hx.condition w).bind fun hc => .pure (w.asPredicate ?_)
    have htests := List.rel_map (fun _ _ hf => w.oneIf hf) hc
    exact w.wrap (w.remainder (w.parenthesized (w.join htests rfl)) (w.plain rfl)) rfl rfl

theorem isBlank_twin : (isBlank d args).Twin loud R (isBlank d args') := by
  cases h with
  | nil => exact .pure (w.asPredicate (w.plain rfl))
  | cons hx _ =>
    refine (hx.grouped w).bind fun hv => .pure (w.asPredicate ?_)
    split
    · exact w.closed hv rfl
    · exact w.wrap₂ hv (w.castText hv) rfl rfl rfl

theorem isNotBlank_twin : (isNotBlank d args).Twin loud R (isNotBlank d args') := by
  cases h with
  | nil => exact .pure (w.asPredicate (w.plain rfl))
  | cons hx _ => exact (isFilled_twin w hx).map w.parenthesized

end Logic

/-- Every function of the table; the column of the record stands in the relation if it is asked for. -/
theorem entry_twin {names names' : Naming} (f : Builtin)
    (hrecord : f = .recordId →
      R (columnText d names names.recordIdColumn) (columnText d names' names'.recordIdColumn))
    (h : List.Forall₂ (Operand.Twin loud R) args args') (hseen : SameSeen f.looksInto args args') :
    ((entry d names f).write d args).Twin loud R ((entry d names' f).write d args') := by
  cases f
  case add | sum => exact (sumChain_twin w h).value w
  case avg => exact average_twin w h
  case min | max => exact extreme_twin w h rfl rfl
  case count => exact countIf_twin h w (isPresent_twin w)
  case countFilled => exact countIf_twin h w (isFilled_twin w)
  case countAll =>
    have hraw : R (.raw (toString args.length)) (.raw (toString args'.length)) := by
      rw [← h.length_eq]
      exact w.plainText ((isWord_toString args.length).mono fun _ => isFixed_word)
    exact .pure hraw
  case round => exact round_twin w h
  case roundUp => exact roundTowards_twin w h w.roundedUp
  case roundDown => exact roundTowards_twin w h w.roundedDown
  case ceiling => exact (arg_twin w h 0).map w.roundedUp
  case floor => exact (arg_twin w h 0).map w.roundedDown
  case float => exact (arg_twin w h 0).map w.castFloat
  case even => exact even_twin w h
  case odd => exact odd_twin w h
  case mod => exact modulo_twin w h
  case log => exact logarithm_twin w h
  case value => exact numberOfText_twin w h
  case search => exact search_twin w h
  case url => exact link_twin w h
  case urlEncode => exact linkEncoded_twin w h
  case dateAdd => exact dateAdd_twin w h hseen
  case dateDiff => exact dateDiff_twin w h hseen
  case dateText => exact dateText_twin w h
  case weekday => exact weekday_twin w h hseen
  case ifElse => exact ifElse_twin w h
  case switch => exact switch_twin w h
  case and | or => exact allOf_twin w h ⟨_, rfl, rfl⟩
  case xor => exact xor_twin w h
  case isBlank => exact isBlank_twin w h
  case isNotBlank => exact isNotBlank_twin w h
  case trueValue | falseValue => exact .pure (w.plain rfl)
  case blank => exact .pure w.null
  case recordId => exact .pure (hrecord rfl)
  case arrayUnique | arraySort | arrayCompact | arraySlice => exact .after _ fun _ => .pure w.null
  -- the dialect's own function, or a shape where it has none
  case int =>
    cases d
    case postgres | oracle => exact nativeCall_twin w h rfl
    all_goals exact wholePart_twin w h
  case concat =>
    have hc := concat_twin w h
    cases d
    case postgres => exact nativeCall_twin w h rfl
    all_goals exact hc
  case trim =>
    cases d
    case mssql => exact trimmed_twin w h
    all_goals exact nativeCall_twin w h rfl
  case left =>
    cases d
    case sqlite | oracle => exact leading_twin w h
    all_goals exact nativeCall_twin w h rfl
  case right =>
    cases d
    case sqlite | oracle => exact trailing_twin w h
    all_goals exact nativeCall_twin w h rfl
  case mid | substr =>
    cases d
    case mssql => exact substring_twin w h
    all_goals exact nativeCall_twin w h rfl
  case repeatText =>
    cases d
    case sqlite | oracle => exact repeated_twin w h
    all_goals exact nativeCall_twin w h rfl
  case regexMatch =>
    have hm := patternMatch_twin w h
    cases d
    case mysql => exact nativeCall_twin w h rfl
    all_goals exact hm
  case regexExtract =>
    cases d
    case postgres => exact patternExtract_twin w h
    all_goals exact nativeCall_twin w h rfl
  case regexReplace =>
    cases d
    case postgres => exact patternReplace_twin w h
    all_goals exact nativeCall_twin w h rfl
  case jsonExtract =>
    have hj := jsonMember_twin w h hseen
    cases d
    case mssql | sqlite => exact nativeCall_twin w h rfl
    all_goals exact hj
  case now =>
    cases d
    case sqlite | oracle => exact .pure (w.plain rfl)
    all_goals exact nativeCall_twin w h rfl
  case day =>
    have hp := datePart_twin w h .day
    cases d
    case mysql | mssql => exact nativeCall_twin w h rfl
    all_goals exact hp
  case month =>
    have hp := datePart_twin w h .month
    cases d
    case mysql | mssql => exact nativeCall_twin w h rfl
    all_goals exact hp
  case year =>
    have hp := datePart_twin w h .year
    cases d
    case mysql | mssql => exact nativeCall_twin w h rfl
    all_goals exact hp
  case hour =>
    have hp := datePart_twin w h .hour
    cases d
    case mysql => exact nativeCall_twin w h rfl
    all_goals exact hp
  case len => cases d <;> exact nativeCall_twin w h rfl
  all_goals exact nativeCall_twin w h rfl

theorem call_twin {names names' : Naming} (name : Option String)
    (hrecord : (name.bind fun n => Builtin.ofName? (Text.upper n)) = some .recordId →
      R (columnText d names names.recordIdColumn) (columnText d names' names'.recordIdColumn))
    (h : List.Forall₂ (Operand.Twin loud R) args args') (hseen : SameSeen (Expr.looksInto name) args args') :
    (call d names name args).Twin loud R (call d names' name args') := by
  cases name with
  | none => exact .after _ fun _ => .pure w.null
  | some n =>
    simp only [call]
    cases hf : Builtin.ofName? (Text.upper n) with
    | none => exact .after _ fun hl => (values_twin w h).map fun hv => w.closed (w.headed _ hl (w.join hv rfl)) rfl
    | some f =>
      have he := entry_twin w f (fun hr => hrecord (by simp [hf, hr])) h fun i hi =>
        hseen i (by simp [Expr.looksInto, hf, hi])
      dsimp only
      generalize entry d names f = a, entry d names' f = b at he ⊢
      cases a <;> cases b <;> exact he

section
variable {x x' y y' : Operand} (hx : x.Twin loud R x')
include hx

theorem binary_twin (op : BinaryOp) (hy : y.Twin loud R y') : (binary d op x y).Twin loud R (binary d op x' y') := by
  cases op
  case and | or =>
    exact (hx.conditionUnder w _ false).bind fun hl => (hy.conditionUnder w _ true).bind fun hr =>
      .pure (w.asPredicate (w.parting (.word ⟨_, rfl, rfl⟩ rfl rfl rfl) hl hr))
  case concat => exact concat_twin w (.cons hx (.cons hy .nil))
  case other s =>
    exact .after _ fun loud => (hx.valueUnder w _ false).bind fun hl => (hy.valueUnder w _ true).bind fun hr =>
      .pure (w.filled _ loud (.cons hl (.cons hr .nil)))
  case mod =>
    simp only [binary]
    split
    · exact (hx.joined w hy (.glue rfl rfl rfl rfl)).sql
    · exact (hx.value w).bind fun hl => (hy.value w).bind fun hr => .pure (w.remainder hl hr)
  case add | sub | mul | div => exact (hx.joined w hy (.glue rfl rfl rfl rfl)).sql
  all_goals
    exact (hx.valueUnder w _ false).bind fun hl => (hy.valueUnder w _ true).bind fun hr =>
      .pure (w.asPredicate (w.parting (.word ⟨_, rfl, rfl⟩ rfl rfl rfl) hl hr))

/-- A number under a minus sign is one value, which stands in the relation too. -/
theorem unary_twin (op : UnaryOp) (hnumber : Option.Rel
      (fun m n => R (.bind (.number m.neg)) (.bind (.number n.neg))) x.expr.asNumber? x'.expr.asNumber?) :
    (unary d op x).Twin loud R (unary d op x') := by
  cases op
  case minus =>
    simp only [unary]
    generalize x.expr.asNumber? = m, x'.expr.asNumber? = n at hnumber
    cases hnumber with
    | some hn => exact .pure hn
    | none => exact (hx.grouped w).map fun hf => w.opened hf rfl
  case plus => exact hx.sql
  case not => exact (hx.condition w).bind fun hf => .pure (w.asPredicate (w.wrap hf rfl rfl))
  case other s =>
    exact .after _ fun loud => (hx.grouped w).bind fun hf => .pure (w.filled _ loud (.cons hf .nil))

end

end Sql

end SheetQuery
