import SheetQuery.Toml.Scalar

/-! TOML text to tables. Reading fails as a whole: a document with one fault has no value. The loops over
keys, items and lines take as many steps as there are characters at most. -/

namespace SheetQuery.Toml

def skipBlanks (cs : List Char) : List Char := cs.dropWhile isBlank

def skipLayout (inComment : Bool) : List Char → Option (List Char)
  | [] => some []
  | '\n' :: cs => skipLayout false cs
  | '\r' :: '\n' :: cs => skipLayout false cs
  | c :: cs =>
    if inComment then if isControl c then none else skipLayout true cs
    else if isBlank c then skipLayout false cs
    else if c = '#' then skipLayout true cs
    else some (c :: cs)

/-- Reads to the end of a line on which nothing but a comment is left. -/
def endLine? (cs : List Char) : Option (List Char) :=
  let rest := match skipBlanks cs with
    | '#' :: cs => cs.dropWhile fun c => !isControl c
    | cs => cs
  match rest with
  | [] => some []
  | '\n' :: cs => some cs
  | '\r' :: '\n' :: cs => some cs
  | _ => none

def isBareKeyChar (c : Char) : Bool := c.isAlphanum || c == '_' || c == '-'

def keyPart? (cs : List Char) : Option (String × List Char) :=
  match cs with
  | '"' :: rest => (lineText '"' true 0 rest).map fun (t, rest) => (String.ofList t, rest)
  | '\'' :: rest => (lineText '\'' false 0 rest).map fun (t, rest) => (String.ofList t, rest)
  | cs =>
    let key := cs.takeWhile isBareKeyChar
    if key.isEmpty then none else some (String.ofList key, cs.drop key.length)

/-- A key of parts joined by points: the parts before the last, the last, and what is left. -/
def key? : Nat → List Char → Option (List String × String × List Char)
  | 0, _ => none
  | steps + 1, cs => do
    let (part, rest) ← keyPart? (skipBlanks cs)
    match skipBlanks rest with
    | '.' :: rest =>
      let (path, key, rest) ← key? steps rest
      return (part :: path, key, rest)
    | rest => return ([], part, rest)

/-- Arrays and tables nest at most this deep in a value. -/
def maxNesting : Nat := 80

mutual

/-- A value and what is left after it; `room` is how much deeper it may nest. -/
def value? (room : Nat) (steps : Nat) (cs : List Char) : Option (Toml × List Char) :=
  match steps with
  | 0 => none
  | steps + 1 =>
    match cs with
    | '"' :: rest => (text? '"' rest).map fun (s, rest) => (.text s, rest)
    | '\'' :: rest => (text? '\'' rest).map fun (s, rest) => (.text s, rest)
    | '[' :: rest =>
      match room with
      | 0 => none
      | room + 1 => (items? room steps rest).map fun (vs, rest) => (.array vs, rest)
    | '{' :: rest =>
      match room with
      | 0 => none
      | room + 1 =>
        match skipBlanks rest with
        | '}' :: rest => some (.closed [], rest)
        | rest => do
          let (settings, rest) ← settings? room steps rest
          let t ← Table.ofRoot.addAll? settings
          return (.closed t.entries, rest)
    | cs =>
      let n := wordLength cs
      (word? (cs.take n)).map (·, cs.drop n)

def items? (room : Nat) (steps : Nat) (cs : List Char) : Option (List Toml × List Char) :=
  match steps with
  | 0 => none
  | steps + 1 => do
    match ← skipLayout false cs with
    | ']' :: rest => return ([], rest)
    | cs =>
      let (v, rest) ← value? room steps cs
      match ← skipLayout false rest with
      | ',' :: rest =>
        let (vs, rest) ← items? room steps rest
        return (v :: vs, rest)
      | ']' :: rest => return ([v], rest)
      | _ => none

def settings? (room : Nat) (steps : Nat) (cs : List Char) : Option (List Setting × List Char) :=
  match steps with
  | 0 => none
  | steps + 1 => do
    let (s, rest) ← setting? room steps cs
    match skipBlanks rest with
    | ',' :: rest =>
      let (ss, rest) ← settings? room steps rest
      return (s :: ss, rest)
    | '}' :: rest => return ([s], rest)
    | _ => none

def setting? (room : Nat) (steps : Nat) (cs : List Char) : Option (Setting × List Char) :=
  match steps with
  | 0 => none
  | steps + 1 => do
    let (path, key, rest) ← key? steps cs
    match rest with
    | '=' :: rest =>
      let (v, rest) ← value? room steps (skipBlanks rest)
      return (⟨path, key, v⟩, rest)
    | _ => none

end

/-- The header whose opening bracket has been read. -/
def header? (steps : Nat) (cs : List Char) : Option (Header × List Char) := do
  let (isArray, cs) := match cs with
    | '[' :: cs => (true, cs)
    | cs => (false, cs)
  let (path, key, rest) ← key? steps cs
  match isArray, rest with
  | true, ']' :: ']' :: rest => return (⟨path, key, true⟩, rest)
  | false, ']' :: rest => return (⟨path, key, false⟩, rest)
  | _, _ => none

/-- The parts of a document, given the header that is open and its settings, last first. -/
def parts? (header : Option Header) (settings : List Setting) : Nat → List Char → Option (List Part)
  | 0, _ => none
  | steps + 1, cs => do
    match ← skipLayout false cs with
    | [] => return [⟨header, settings.reverse⟩]
    | '[' :: cs =>
      let (next, rest) ← header? steps cs
      return ⟨header, settings.reverse⟩ :: (← parts? (some next) [] steps (← endLine? rest))
    | cs =>
      let (s, rest) ← setting? maxNesting (4 * cs.length + 4) cs
      parts? header (s :: settings) steps (← endLine? rest)

/-- The entries of a document, which may begin with a byte order mark. -/
def parse? (text : String) : Option (List (String × Toml)) := do
  let cs := match text.toList with
    | '\uFEFF' :: cs => cs
    | cs => cs
  let parts ← parts? none [] (cs.length + 1) cs
  let root ← Table.ofParts? parts
  return root.entries

end SheetQuery.Toml
