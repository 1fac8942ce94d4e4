import SheetQuery.Proofs.Evaluation

/-! Texts in SQL. REPLACE goes through a text from left to right and exchanges every occurrence of another text. For one
character that is a map over the characters, and several of these one after another are one map too, if none brings in
a character that a later one looks for. -/

namespace SheetQuery.Sql

/-- Every occurrence of `old` exchanged for `new`. The first `skip` characters belong to an occurrence that was found
before; an empty text occurs nowhere. -/
def replaceFrom (old new : List Char) : Nat → List Char → List Char
  | _, [] => []
  | skip + 1, _ :: cs => replaceFrom old new skip cs
  | 0, c :: cs =>
    if !old.isEmpty && old.isPrefixOf (c :: cs) then new ++ replaceFrom old new (old.length - 1) cs
    else c :: replaceFrom old new 0 cs

def replaceText (old new s : String) : String := .ofList (replaceFrom old.toList new.toList 0 s.toList)

/-- What comes in the place of a character: the text that is given for it first, or the character itself. -/
def exchange (pairs : List (Char × String)) (c : Char) : List Char :=
  match pairs.lookup c with
  | some new => new.toList
  | none => [c]

section
variable {pairs : List (Char × String)} {c : Char} {new : String}

theorem exchange_cons_self : exchange ((c, new) :: pairs) c = new.toList := by
  rw [exchange, List.lookup_cons_self]

theorem exchange_cons_of_ne {x : Char} (h : x ≠ c) : exchange ((c, new) :: pairs) x = exchange pairs x := by
  have hx : (x == c) = false := by simpa using h
  rw [exchange, List.lookup_cons, hx, exchange]

theorem exchange_of_notMem (h : ∀ p ∈ pairs, p.1 ≠ c) : exchange pairs c = [c] := by
  have hnone : pairs.lookup c = none := by
    rw [List.lookup_eq_none_iff]
    intro p hp
    simpa using (h p hp).symm
  simp [exchange, hnone]

theorem exchange_map (new : Char → String) (cs : List Char) (c : Char) :
    exchange (cs.map fun c => (c, new c)) c = if c ∈ cs then (new c).toList else [c] := by
  induction cs with
  | nil => rfl
  | cons x cs ih =>
    by_cases hx : c = x
    · subst hx
      simp [exchange_cons_self]
    · simpa [exchange_cons_of_ne hx, hx] using ih

theorem flatMap_exchange_of_notMem {cs : List Char} (h : ∀ p ∈ pairs, p.1 ∉ cs) :
    cs.flatMap (exchange pairs) = cs := by
  have hsame : ∀ c ∈ cs, exchange pairs c = [c] :=
    fun c hc => exchange_of_notMem fun p hp heq => h p hp (heq ▸ hc)
  rw [List.flatMap_congr hsame, List.flatMap_singleton']

/-- One character at a time. -/
theorem replaceFrom_char (c : Char) (new : String) (cs : List Char) :
    replaceFrom [c] new.toList 0 cs = cs.flatMap (exchange [(c, new)]) := by
  induction cs with
  | nil => rfl
  | cons x cs ih =>
    by_cases hx : x = c
    · subst hx
      simp [replaceFrom, exchange_cons_self, ih]
    · have hc : c ≠ x := fun h => hx h.symm
      simp [replaceFrom, exchange_cons_of_ne hx, exchange_of_notMem, hc, ih]

theorem toList_replaceText_char (c : Char) (new s : String) :
    (replaceText c.toString new s).toList = s.toList.flatMap (exchange [(c, new)]) := by
  simp [replaceText, Char.toString, replaceFrom_char]

/-- Replacements of characters one after another are one map. The first of them changes a character only into what the
others leave alone. -/
theorem foldl_replaceText (hp : pairs.Pairwise fun p q => q.1 ∉ p.2.toList) (s : String) :
    ((pairs.map fun p => (p.1.toString, p.2)).foldl (fun s p => replaceText p.1 p.2 s) s).toList =
      s.toList.flatMap (exchange pairs) := by
  induction pairs generalizing s with
  | nil => exact (flatMap_exchange_of_notMem (List.forall_mem_nil _)).symm
  | cons p ps ih =>
    obtain ⟨hlater, hps⟩ := List.pairwise_cons.1 hp
    rw [List.map_cons, List.foldl_cons, ih hps, toList_replaceText_char, List.flatMap_assoc]
    refine List.flatMap_congr fun c _ => ?_
    by_cases hc : c = p.1
    · subst hc
      rw [exchange_cons_self, exchange_cons_self, flatMap_exchange_of_notMem hlater]
    · rw [exchange_cons_of_ne hc, exchange_cons_of_ne hc, exchange_of_notMem (by simp), List.flatMap_singleton]

end

/-- What an expression over texts gives: a text, or the number that the database reads from one. `none` is NULL. -/
inductive TextValue
  | text (v : Option String)
  | numberIn (v : Option String)
deriving DecidableEq

/-- Whether a character is in a set of a pattern, where a hyphen between two characters stands for all from one to the
other. -/
def inSet (c : Char) : List Char → Bool
  | first :: '-' :: last :: cs => (decide (first ≤ c) && decide (c ≤ last)) || inSet c cs
  | x :: cs => c == x || inSet c cs
  | [] => false

/-- The set whose complement a pattern of the form `[^...]` matches. -/
def excepted? (pattern : String) : Option (List Char) :=
  match pattern.toList with
  | '[' :: '^' :: cs => if cs.getLast? = some ']' ∧ ']' ∉ cs.dropLast then some cs.dropLast else none
  | _ => none

def deleteMatches? (pattern s : String) : Option String :=
  (excepted? pattern).map fun set => .ofList (s.toList.filter (inSet · set))

def convertText (d : Dialect) (f : String) (type : Term) (v : Option String) : Option TextValue :=
  match d, f, type with
  | .postgres, "CAST", .word "TEXT" | .sqlite, "CAST", .word "TEXT" => some (.text v)
  | .mssql, "CAST", .group "NVARCHAR" [("", .word "MAX")] => some (.text v)
  | .postgres, "CAST", .run [.word "DOUBLE", .word "PRECISION"] => some (.numberIn v)
  | .mssql, "TRY_CAST", .word "FLOAT" => some (.numberIn v)
  | .sqlite, "CAST", .word "REAL" => some (.numberIn v)
  | .oracle, "TO_NUMBER", .run [.word "DEFAULT", .word "NULL", .word "ON", .word "CONVERSION", .word "ERROR"] =>
    some (.numberIn v)
  | _, _, _ => none

/-- A function of texts. PostgreSQL deletes only the first match of a pattern unless a flag says otherwise. -/
def textFunction? (d : Dialect) : String → List (Option String) → Option (Option String)
  | "REPLACE", [s, old, new] => some do return replaceText (← old) (← new) (← s)
  | "NULLIF", [v, w] => some (if v = w then none else v)
  | "REGEXP_REPLACE", [some s, some pattern, some ""] =>
    if d = .mysql ∨ d = .oracle then some <$> deleteMatches? pattern s else none
  | "REGEXP_REPLACE", [some s, some pattern, some "", some "g"] =>
    if d = .postgres then some <$> deleteMatches? pattern s else none
  | _, _ => none

def TextValue.text? : TextValue → Option (Option String)
  | text v => some v
  | numberIn _ => none

/-- Texts, and numbers read from them. MySQL reads a number wherever zero is added to a text. -/
def textEngine (d : Dialect) (table : Option String) (row : String → Option String) : Engine TextValue where
  word s := if s = "0" then some (.numberIn (some "0")) else none
  value
    | .text s => some (.text (some s))
    | _ => none
  text s := some (.text (some s))
  column t c := if t = none ∨ t = table then some (.text (row c)) else none
  operator
    | .add, .text v, .numberIn w => if d = .mysql ∧ w = some "0" then some (.numberIn v) else none
    | _, _, _ => none
  convert f type v := v.text?.bind (convertText d f type)
  call f vs := do
    let v ← textFunction? d f (← vs.mapM TextValue.text?)
    return .text v

namespace Doc.Evaluates

variable {d : Dialect} {table : Option String} {row : String → Option String} {g : Doc} {v : Option String}

theorem replaceIn (h : g.Evaluates (textEngine d table row) (.text v)) (old new : String) :
    (Doc.replaceIn old new g).Evaluates (textEngine d table row) (.text (v.map (replaceText old new))) := by
  have hargs : List.Forall₂ (Doc.Evaluates (textEngine d table row)) [g, .text old, .text new]
      [.text v, .text (some old), .text (some new)] := .cons h (.cons (text rfl) (.cons (text rfl) .nil))
  refine call hargs (by simp) ?_
  cases v <;> rfl

theorem replaceAll (h : g.Evaluates (textEngine d table row) (.text v)) (pairs : List (String × String)) :
    (Doc.replaceAll pairs g).Evaluates (textEngine d table row)
      (.text (v.map (pairs.foldl fun s p => replaceText p.1 p.2 s))) := by
  induction pairs generalizing g v with
  | nil => simpa [Doc.replaceAll] using h
  | cons p ps ih => simpa [Doc.replaceAll, Function.comp_def] using ih (h.replaceIn p.1 p.2)

end Doc.Evaluates

end SheetQuery.Sql
