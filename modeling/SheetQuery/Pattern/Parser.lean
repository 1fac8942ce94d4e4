import SheetQuery.Pattern.Escape

/-! Patterns from text. A text is read from left to right, with the groups that are open kept on a
stack. -/

namespace SheetQuery.Pattern

/-- The last part of a branch, and whether it is repeated. -/
inductive Tail
  | fresh
  | atom (e : Pattern)
  | repeated (e : Pattern)
  | reluctant (e : Pattern)
deriving Repr, Inhabited

def Tail.toList : Tail → List Pattern
  | fresh => []
  | atom e | repeated e | reluctant e => [e]

structure Flags where
  foldsCase : Bool
  /-- Whether the edges of lines count as edges. -/
  multiLine : Bool
  /-- Whether a dot is also the end of a line. -/
  dotNewline : Bool
  ignoresBlanks : Bool
deriving DecidableEq, Repr, Inhabited

inductive Role
  /-- No group but the whole pattern. -/
  | whole
  | group (number : Nat)
  | look (behind negated : Bool)
  | atomic
  /-- A group that only sets flags, with those before it. -/
  | flags (before : Flags)
  /-- The test of a conditional. -/
  | test
  /-- The branches of a conditional after its test. -/
  | branches (test : Pattern)
deriving Repr, Inhabited

/-- An open group: its finished alternatives and the parts of its present branch, both last first. -/
structure Level where
  role : Role
  branches : List Pattern
  parts : List Pattern
  tail : Tail
deriving Repr, Inhabited

namespace Level

def start (role : Role) : Level := ⟨role, [], [], .fresh⟩

def branch (l : Level) : Pattern := ofParts (l.tail.toList ++ l.parts).reverse

def alternatives (l : Level) : List Pattern := (l.branch :: l.branches).reverse

def content (l : Level) : Pattern := ofBranches l.alternatives

/-- Ends the last part, so that nothing can be added to it. -/
def endPart (l : Level) : Level := { l with parts := l.tail.toList ++ l.parts, tail := .fresh }

def add (l : Level) (e : Pattern) : Level := { l.endPart with tail := .atom e }

end Level

structure State where
  /-- The innermost group, which for the whole pattern is the pattern. -/
  level : Level
  /-- The groups around it. -/
  outer : List Level
  flags : Flags
  /-- How many groups have been opened that can be referred to. -/
  groups : Nat
  /-- The names of groups, the last first. -/
  names : List (String × Nat)
  /-- The lengths of what the groups match that are closed. -/
  lengths : List (Nat × Option Nat)
  /-- The groups that are referred to. -/
  referred : List Nat
  hasNumberReference : Bool
  /-- The length of the pattern in bytes. -/
  size : Nat
deriving Repr, Inhabited

def maxDepth : Nat := 64

namespace State

def ignored (s : State) : Bool := s.flags.ignoresBlanks

def add (s : State) (e : Pattern) : State := { s with level := s.level.add e }

def setTail (s : State) (t : Tail) : State := { s with level := { s.level with tail := t } }

def endPart (s : State) : State := { s with level := s.level.endPart }

/-- Once there are names, groups are not referred to by number. This is asked where a pattern without
alternatives ends. -/
def namesAgree (s : State) : Bool :=
  !s.level.branches.isEmpty || !s.hasNumberReference || s.names.isEmpty

def openGroup (s : State) (role : Role) : State :=
  { s with level := .start role, outer := s.level :: s.outer }

def reference (s : State) (n : Nat) : Pattern × State :=
  (.reference n ((s.lengths.lookup n).getD none), { s with referred := n :: s.referred })

/-- The number that a group is referred to by; a number may not be out of proportion to the pattern. -/
def number? (s : State) (n : Nat) : Option Nat := if n < s.size / 2 then some n else none

def target? (s : State) : GroupName → Option Nat
  | .name name =>
    match s.names.lookup name with
    | some n => some n
    | none => if name.all Char.isDigit then some (Number.digitsValue name.toList) else none
  | .back n => if n ≤ s.groups then some (s.groups + 1 - n) else none
  | .ahead n => some (s.groups + n)

/-- Goes on after the test of a conditional. One without branches has to test a group. -/
def afterTest? (s : State) (test : Pattern) (rest : List Char) : Option (State × Nat) :=
  match rest, test with
  | ')' :: _, .reference n _ =>
    if s.hasNumberReference && !s.names.isEmpty then none else some (s.add (.matched n), 1)
  | ')' :: _, _ => none
  | _, .reference n _ => some (s.openGroup (.branches (.matched n)), 0)
  | _, test => some (s.openGroup (.branches test), 0)

/-- A conditional of all that its branches are; without any it is its test. -/
def conditionalOf (test : Pattern) : List Pattern → Pattern
  | [] => test
  | yes :: rest =>
    let no := if rest.isEmpty then .empty else ofBranches rest
    if yes.isEmpty && no.isEmpty then test else .conditional test yes no

/-- Closes the innermost group. Also gives how many characters of the rest belong to that. -/
def closeGroup? (s : State) (rest : List Char) : Option (State × Nat) :=
  match s.outer with
  | [] => none
  | l :: outer =>
    if !s.namesAgree then none
    else
      let e := s.level.content
      let s' := { s with level := l, outer }
      match s.level.role with
      | .whole => none
      | .group n => some ({ s'.add (.group n e) with lengths := (n, e.length?) :: s.lengths }, 0)
      | .look behind negated => some (s'.add (.look behind negated e), 0)
      | .atomic => some (s'.add (.atomic e), 0)
      | .flags before => some ({ s'.add e with flags := before }, 0)
      | .test => s'.afterTest? e rest
      | .branches test => some (s'.add (conditionalOf test s.level.alternatives), 0)

def alternative (s : State) : State :=
  let l := s.level
  { s with level := ⟨l.role, l.branch :: l.branches, [], .fresh⟩ }

def repeat? (s : State) (min : Nat) (max : Option Nat) : Option State :=
  match s.level.tail with
  | .atom e => if e.isRepeatable then some (s.setTail (.repeated (.repeated min max e))) else none
  | _ => none

def possess (s : State) (e : Pattern) : State := (s.setTail (.atom (.atomic e))).endPart

def nameGroup (s : State) (name : String) : State :=
  let n := s.groups + 1
  { s with groups := n, names := (name, n) :: s.names }

end State

/-- Flags from after the question mark, up to the sign that ends them: a colon if the flags are those of a
group. `taken` counts the characters before. Gives the flags, whether a group follows, and the length. -/
def flags? (f : Flags) (off : Bool) (taken skip : Nat) : List Char → Option (Flags × Bool × Nat)
  | [] => none
  | c :: cs =>
    match skip with
    | skip + 1 => flags? f off (taken + 1) skip cs
    | 0 =>
      match blanks? f.ignoresBlanks .between (c :: cs) with
      | none => none
      | some (n + 1) => flags? f off (taken + 1) n cs
      | some 0 =>
        let next (f : Flags) := flags? f off (taken + 1) 0 cs
        match c with
        | 'i' => next { f with foldsCase := !off }
        | 'm' => next { f with multiLine := !off }
        | 's' => next { f with dotNewline := !off }
        | 'x' => next { f with ignoresBlanks := !off }
        | 'U' => next f
        | 'u' => if off then none else next f
        | '-' => if off then none else flags? f true (taken + 1) 0 cs
        | ')' => if taken = 0 ∨ (off ∧ taken = 1) then none else some (f, false, taken + 1)
        | ':' => if off ∧ taken = 1 then none else some (f, true, taken + 1)
        | _ => none

/-- A conditional from after `(?(`: a group's number or name is the test, or else a pattern is. Gives what
is left. -/
def conditional? (s : State) (cs : List Char) : Option (State × List Char) := do
  let byGroup (n : Nat) (rest : List Char) : Option (State × List Char) := do
    let (e, s) := s.reference n
    match ← afterBlanks? s.ignored rest with
    | ')' :: rest => do
      let (s, k) ← s.afterTest? e rest
      return (s, rest.drop k)
    | _ => none
  match cs with
  | [] => none
  | '<' :: ds =>
    let (target, rest) ← groupTarget? '>' ds
    byGroup (← s.target? target) rest
  | '\'' :: ds =>
    let (target, rest) ← groupTarget? '\'' ds
    byGroup (← s.target? target) rest
  | c :: _ =>
    if c.isDigit then
      let (n, rest) ← count? cs
      byGroup (← s.number? n) rest
    else return (s.openGroup .test, cs)

/-- A group from after its opening parenthesis, and what is left after its sign. -/
def group? (s : State) (cs : List Char) : Option (State × List Char) := do
  let cs ← afterBlanks? s.ignored cs
  if maxDepth ≤ s.outer.length + 1 then none
  else
    let named (close : Char) (rest : List Char) : Option (State × List Char) := do
      let (name, rest) ← groupName? close rest
      let s := s.nameGroup name
      return (s.openGroup (.group s.groups), rest)
    match cs with
    | '?' :: '=' :: rest => return (s.openGroup (.look false false), rest)
    | '?' :: '!' :: rest => return (s.openGroup (.look false true), rest)
    | '?' :: '<' :: '=' :: rest => return (s.openGroup (.look true false), rest)
    | '?' :: '<' :: '!' :: rest => return (s.openGroup (.look true true), rest)
    | '?' :: '<' :: rest => named '>' rest
    | '?' :: '\'' :: rest => named '\'' rest
    | '?' :: 'P' :: '<' :: rest => named '>' rest
    | '?' :: 'P' :: '=' :: rest =>
      let (name, rest) ← groupName? ')' rest
      let (e, s) := s.reference (← s.target? (.name name))
      return (s.add e, rest)
    | '?' :: '>' :: rest => return (s.openGroup .atomic, rest)
    | '?' :: '(' :: rest => conditional? s rest
    | '?' :: rest =>
      let (flags, isGroup, n) ← flags? s.flags false 0 0 rest
      if isGroup then return ({ s.openGroup (.flags s.flags) with flags }, rest.drop n)
      else return ({ s.add .empty with flags }, rest.drop n)
    | _ =>
      let s := { s with groups := s.groups + 1 }
      return (s.openGroup (.group s.groups), cs)

/-- A sign of repetition after a part, or after a repetition what makes it reluctant or atomic. -/
def repetition? (s : State) (c : Char) (min : Nat) (max : Option Nat) : Option State :=
  match s.level.tail, c with
  | .repeated e, '?' => some (s.setTail (.reluctant e))
  | .repeated e, '+' | .reluctant e, '+' => some (s.possess e)
  | _, _ => s.repeat? min max

/-- Reads the part that begins with `c`; also gives what is left after it. -/
def step? (s : State) (c : Char) (cs : List Char) : Option (State × List Char) :=
  match c with
  | '(' => group? s cs
  | ')' => (s.closeGroup? cs).map fun (s, n) => (s, cs.drop n)
  | '|' => some (s.alternative, cs)
  | '?' => (repetition? s c 0 (some 1)).map (·, cs)
  | '*' => (repetition? s c 0 none).map (·, cs)
  | '+' => (repetition? s c 1 none).map (·, cs)
  | '\x7b' =>
    match s.level.tail, bounds? s.ignored cs with
    | .atom _, some ((min, max), rest) => (s.repeat? min max).map (·, rest)
    | _, _ => some (s.add (.char c s.flags.foldsCase), cs)
  | '[' =>
    (wholeSet? s.ignored cs).map fun (text, n) => (s.add (.set text s.flags.foldsCase), cs.drop n)
  | '^' | '$' => some (s.add (.place (if s.flags.multiLine then .lineEdge c else .textEdge c)), cs)
  | '.' => some (s.add (.any s.flags.dotNewline), cs)
  | '\\' => do
    let d :: ds := cs | none
    let (escape, rest) ← escape? s.ignored false d ds
    match escape with
    | .literal x => return (s.add (.char x s.flags.foldsCase), rest)
    | .set text => return (s.add (.set text (s.flags.foldsCase && d != 'h' && d != 'H')), rest)
    | .part e => return (s.add e, rest)
    | .groupNumber n =>
      let (e, s) := s.reference (← s.number? n)
      return ({ s.add e with hasNumberReference := true }, rest)
    | .group target =>
      let (e, s) := s.reference (← s.target? target)
      return (s.add e, rest)
  | c => some (s.add (.char c s.flags.foldsCase), cs)

/-- Reads a text after `skip` characters. Blanks end a reluctant repetition and nothing else. -/
def run? (s : State) (skip : Nat) : List Char → Option State
  | [] => some s
  | c :: cs =>
    match skip with
    | skip + 1 => run? s skip cs
    | 0 =>
      match blanks? s.ignored .between (c :: cs) with
      | none => none
      | some (n + 1) =>
        match s.level.tail with
        | .reluctant _ => run? s.endPart n cs
        | _ => run? s n cs
      | some 0 =>
        match step? s c cs with
        | some (s, rest) => run? s (cs.length - rest.length) cs
        | none => none

structure Parsed where
  pattern : Pattern
  referred : List Nat
deriving Repr, Inhabited

/-- The pattern that a text denotes. All groups are closed, and those referred to exist. -/
def parse? (text : String) : Option Parsed := do
  let start : State :=
    ⟨.start .whole, [], ⟨false, false, false, false⟩, 0, [], [], [], false, text.utf8ByteSize⟩
  let s ← run? start 0 text.toList
  if s.outer.isEmpty && s.namesAgree && s.referred.all (fun n => 1 ≤ n && n ≤ s.groups) then
    return ⟨s.level.content, s.referred⟩
  else none

end SheetQuery.Pattern
