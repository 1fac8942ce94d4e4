import SheetQuery.Diagnostic
import SheetQuery.Expr.Parser
import SheetQuery.Typing

/-! Checking formulas. The typed form of an expression is walked once, each node before its parts, and
every node is judged by its own types and literals; what is found at a node never stops the walk. Whether a text is
a regular expression or a JSON document is for the readers of these languages to say; a check is made with any two
of them. -/

namespace SheetQuery

/-- The readers of the languages that literal texts are written in. Each says what is wrong with a text, if anything
is. -/
structure Readers where
  patternFault? : String → Option String
  jsonFault? : String → Option String

namespace Check

/-- The greatest whole number up to which all whole numbers are exact. -/
def exactLimit : Number := .ofNat 0x1FFFFFFFFFFFFF

def maxPrecision : Number := .ofNat 20

def manyRepeats : Number := .ofNat 1000

def one : Number := .ofNat 1

def foundIf (b : Bool) (f : Finding) : List Finding := if b then [f] else []

def typeAt (args : List Typed) (i : Nat) : Option DataType := args[i]?.map Typed.type

def numberAt (args : List Typed) (i : Nat) : Option Number := args[i]?.bind (·.expr.asNumber?)

def textAt (args : List Typed) (i : Nat) : Option String := args[i]?.bind (·.expr.asText?)

def numberIs (args : List Typed) (i : Nat) (p : Number → Bool) : Bool := (numberAt args i).any p

def literal (type : DataType) : Literal → List Finding
  | .text s => foundIf (type = .text && Calendar.hasDateShape s) (.dateAsText s)
  | .number n => foundIf (exactLimit.lt n.abs) (.unsafeNumber n)
  | _ => []

def column (schema : Option Schema) (name : String) : List Finding :=
  foundIf (schema.any fun s => !s.contains name) (.missingColumn name)

def operandValues (op : BinaryOp) (l r : Typed) : List Finding :=
  match op with
  | .div => foundIf (r.expr.asNumber?.any (·.same .zero)) .divisionByZero
  | .concat => foundIf (l.type = .null || r.type = .null) .joinsNull
  | _ => []

def addition (l r : DataType) : List Finding :=
  if l = .text ∨ r = .text then foundIf (l ≠ r) (.addsToText l r)
  else if (l = .date ∧ r = .interval) ∨ (l = .interval ∧ r = .date) then []
  else if l = .date ∧ r = .date then [.addsDates]
  else foundIf (l ≠ r) (.addsMixed l r)

def subtraction (l r : DataType) : List Finding :=
  if l = .text ∨ r = .text then [.subtractsText]
  else if l = .date ∧ (r = .date ∨ r = .interval) then []
  else foundIf (l ≠ r && !l.mixesWith r) (.subtractsMixed l r)

def factors (op : BinaryOp) (l r : DataType) : List Finding :=
  if l = .numeric ∧ r = .numeric then []
  else if l.mixesWith r then [.booleanFactor]
  else [.factorType op l r]

def comparison (op : BinaryOp) (l r : DataType) : List Finding :=
  foundIf (l ≠ r && !l.mixesWith r) (.comparesMixed l r)
    ++ foundIf (op.isEquality && (l = .date || r = .date)) .dateEquality

/-- What the types of the operands say, unless one of them is silent. -/
def operandTypes (op : BinaryOp) (l r : DataType) : List Finding :=
  if l.isQuiet || r.isQuiet then []
  else
    match op with
    | .add => addition l r
    | .sub => subtraction l r
    | .mul | .div => factors op l r
    | .eq | .eqEq | .notEq | .lt | .gt | .ltEq | .gtEq => comparison op l r
    | .concat => []
    | .mod | .and | .or | .other _ => foundIf (l ≠ r) (.operatorMixed op l r)

def unary (op : UnaryOp) (type : DataType) : List Finding :=
  if type.isQuiet then []
  else
    match op with
    | .minus => foundIf (type ≠ .numeric) (.negates type)
    | .not => foundIf (!type.fitsCondition) (.inverts type)
    | .plus => []
    | .other s => [.unknownUnary s]

def ifElse (args : List Typed) : List Finding :=
  let test := match typeAt args 0 with
    | some t => foundIf (!t.fitsCondition && !t.isQuiet) (.ifCondition t)
    | none => []
  let branches := match typeAt args 1, typeAt args 2 with
    | some yes, some no => foundIf (yes ≠ no && !yes.isQuiet && !no.isQuiet) (.ifBranches yes no)
    | _, _ => []
  test ++ branches

def switch (args : List Typed) : List Finding :=
  let types := (switchResults (args.map Typed.type)).filter fun t => !t.isQuiet
  foundIf (1 < types.eraseDups.length) (.switchBranches types.eraseDups)

/-- A logarithm of one argument is natural; of two, the first is the base. -/
def logarithm (args : List Typed) : List Finding :=
  if 1 < args.length then
    foundIf (numberIs args 0 fun b => b.le .zero || b.same one) .logarithmBase
      ++ foundIf (numberIs args 1 (·.le .zero)) .logarithmOf
  else foundIf (numberIs args 0 (·.le .zero)) .logarithmOf

/-- Whether a text reads as a number: a currency sign, a sign, digits with points and commas that end in
a digit, a percent sign. -/
def readsAsNumber (s : String) : Bool :=
  let cs := match s.toList with
    | c :: cs => if c = '$' ∨ c = '€' ∨ c = '£' ∨ c = '¥' then cs else c :: cs
    | [] => []
  let cs := match cs with
    | c :: cs => if c = '-' ∨ c = '+' then cs else c :: cs
    | [] => []
  let digits := match cs.reverse with
    | '%' :: ds => ds
    | ds => ds
  digits.head?.any Char.isDigit && digits.all fun c => c.isDigit || c == ',' || c == '.'

def hasLinkScheme (s : String) : Bool :=
  let s := Text.asciiLower s
  s.startsWith "http://" || s.startsWith "https://"

/-- The positions of a slice count from one. -/
def slice (args : List Typed) : List Finding :=
  let isPosition (n : Number) : Bool := !n.lt one && n.isWhole
  if numberIs args 1 (!isPosition ·) || numberIs args 2 (!isPosition ·) then [.slicePosition]
  else
    match numberAt args 1, numberAt args 2 with
    | some start, some finish => foundIf (finish.lt start) .emptySlice
    | _, _ => []

def repeatCount (args : List Typed) : List Finding :=
  foundIf (numberIs args 1 (·.lt .zero)) .negativeRepeat
    ++ foundIf (numberIs args 1 manyRepeats.lt) .largeRepeat

def textUnless (args : List Typed) (i : Nat) (p : String → Bool) (f : String → Finding) : List Finding :=
  match textAt args i with
  | some s => foundIf (!p s) (f s)
  | none => []

def textFault (args : List Typed) (i : Nat) (fault? : String → Option String) (f : String → Finding) : List Finding :=
  match (textAt args i).bind fault? with
  | some fault => [f fault]
  | none => []

def arguments (readers : Readers) (f : Builtin) (args : List Typed) : List Finding :=
  match f with
  | .ifElse => ifElse args
  | .switch => switch args
  | .concat => foundIf (args.any (·.type = .null)) .concatNull
  | .len | .trim | .upper | .lower => foundIf (typeAt args 0 = some .null) (.nullInput f)
  | .left | .right => foundIf (numberIs args 1 (·.lt .zero)) .negativePosition
  | .mid | .substr =>
    foundIf (numberIs args 1 (·.lt .zero)) .negativePosition
      ++ foundIf (numberIs args 2 (·.le .zero)) .nonPositiveLength
  | .search => foundIf (textAt args 1 = some "") .emptySearch
  | .replace => foundIf (textAt args 2 = some "") .emptyReplacement
  | .repeatText => repeatCount args
  | .url => textUnless args 0 hasLinkScheme fun _ => .linkScheme
  | .regexMatch | .regexExtract | .regexReplace => textFault args 1 readers.patternFault? .invalidPattern
  | .round | .roundUp | .roundDown =>
    foundIf (numberIs args 1 fun p => p.lt .zero || maxPrecision.lt p || !p.isWhole) .roundPrecision
  | .mod => foundIf (numberIs args 1 (·.same .zero)) .moduloByZero
  | .log => logarithm args
  | .power =>
    foundIf (numberIs args 0 (·.same .zero) && numberIs args 1 (·.lt .zero)) .zeroToNegative
  | .sqrt => foundIf (numberIs args 0 (·.lt .zero)) .negativeRoot
  | .dateAdd => textUnless args 2 (fun s => (ShiftUnit.ofName? s).isSome) .shiftUnit
  | .dateDiff => textUnless args 2 (fun s => (ElapsedUnit.ofName? s).isSome) .elapsedUnit
  | .weekday => textUnless args 1 (fun s => (Weekday.ofName? s).isSome) .startDay
  | .and | .or | .xor =>
    args.flatMap fun a => foundIf (!a.type.fitsCondition && !a.type.isQuiet) (.notConditional f)
  | .value => textUnless args 0 readsAsNumber .notNumeric
  | .arraySort =>
    textUnless args 1 (fun s => Text.asciiLower s = "asc" || Text.asciiLower s = "desc") .sortDirection
  | .arraySlice => slice args
  | .jsonExtract =>
    textFault args 0 readers.jsonFault? .invalidJson
      ++ textUnless args 1 (fun s => s.startsWith '.' || s.startsWith '[') fun _ => .jsonPath
  | _ => []

def argumentType (f : Builtin) (i : Nat) (actual : DataType) : List Finding :=
  match f.signature.expected? i with
  | none => []
  | some expected =>
    if actual.isQuiet ∨ actual = expected then []
    else if expected.mixesWith actual then [.booleanArgument f i expected]
    else [.argumentType f i expected actual]

/-- The types of the arguments; connectives take conditions, booleans and numbers alike. -/
def argumentTypes (f : Builtin) (args : List Typed) : List Finding :=
  match f with
  | .and | .or | .xor => []
  | _ => args.zipIdx.flatMap fun (a, i) => argumentType f i a.type

def call (readers : Readers) (name : Option String) (args : List Typed) : List Finding :=
  match name with
  | none | some "" => [.invalidCall]
  | some name =>
    match Builtin.lookup name with
    | none => [.unknownFunction name]
    | some f =>
      ((f.signature.arityFault? args.length).map (.arity f)).toList ++ arguments readers f args
        ++ argumentTypes f args

def node (readers : Readers) (schema : Option Schema) (e : Expr) (type : DataType) (parts : List Typed) :
    List Finding :=
  match e, parts with
  | .literal v, _ => literal type v
  | .column name, _ => column schema name
  | .binary op _ _, [l, r] => operandValues op l r ++ operandTypes op l.type r.type
  | .unary op _, [x] => unary op x.type
  | .call name _, args => call readers name args
  | .unsupported kind, _ => [.unsupported kind]
  | _, _ => []

mutual

def walk (readers : Readers) (schema : Option Schema) : Typed → List Finding
  | .node e type parts => node readers schema e type parts ++ walkAll readers schema parts

def walkAll (readers : Readers) (schema : Option Schema) : List Typed → List Finding
  | [] => []
  | t :: ts => walk readers schema t ++ walkAll readers schema ts

end

end Check

/-- Everything found in an expression. Without a schema no column is missing. -/
def Expr.findings (readers : Readers) (schema : Option Schema) (e : Expr) : List Finding :=
  Check.walk readers schema (Typed.of schema e)

def Expr.diagnostics (readers : Readers) (schema : Option Schema) (span : Span) (e : Expr) : List Diagnostic :=
  (e.findings readers schema).map (⟨·, span⟩)

/-- The diagnostics of formula text. What is found is placed at the whole text; text that cannot be read
has one diagnostic, from where reading stopped. -/
def Diagnostic.ofFormula (readers : Readers) (schema : Option Schema) (text : String) : List Diagnostic :=
  match Expr.parse text with
  | .ok e => e.diagnostics readers schema ⟨0, text.utf8ByteSize⟩
  | .error err => [⟨.unreadable err.fault, ⟨min err.position text.utf8ByteSize, text.utf8ByteSize⟩⟩]

end SheetQuery
