import SheetQuery.Number.Basic

/-! TOML values, and how the statements of a document build its tables. A table comes into being by a
header, by a dotted key or as a parent of either, and each way leaves it open to other additions; a key is
set once. -/

namespace SheetQuery

inductive Toml
  | text (s : String)
  | integer (n : Int)
  | real (n : Number)
  | boolean (b : Bool)
  /-- A date, a time or both, as it is written. -/
  | moment (s : String)
  | array (items : List Toml)
  /-- A table between braces, to which nothing can be added. -/
  | closed (entries : List (String × Toml))
  /-- A table. It is implied until a header defines it, and dotted if keys with dots made it. -/
  | table (implied dotted : Bool) (entries : List (String × Toml))
  /-- The tables of an array, each of which has a header. -/
  | tables (items : List (List (String × Toml)))
deriving Repr, Inhabited

namespace Toml

structure Table where
  implied : Bool
  dotted : Bool
  entries : List (String × Toml)
deriving Repr, Inhabited

namespace Table

def ofRoot : Table := ⟨false, false, []⟩

def get? (t : Table) (key : String) : Option Toml := t.entries.lookup key

def set (t : Table) (key : String) (v : Toml) : Table :=
  if (t.get? key).isSome then
    { t with entries := t.entries.map fun (k, old) => if k = key then (k, v) else (k, old) }
  else { t with entries := t.entries ++ [(key, v)] }

def toToml (t : Table) : Toml := .table t.implied t.dotted t.entries

/-- Changes the table at a path, of dotted keys or of headers, and makes the tables on the way to it. -/
def alter (byKey : Bool) (f : Table → Option Table) : List String → Table → Option Table
  | [], t => f t
  | key :: path, t =>
    match t.get? key with
    | none => (alter byKey f path ⟨true, byKey, []⟩).map fun child => t.set key child.toToml
    | some (.table implied dotted entries) =>
      if byKey && !implied then none
      else (alter byKey f path ⟨implied, dotted, entries⟩).map fun child => t.set key child.toToml
    | some (.tables items) =>
      match items.getLast? with
      | none => none
      | some entries =>
        (alter byKey f path ⟨false, false, entries⟩).map fun child =>
          t.set key (.tables (items.dropLast ++ [child.entries]))
    | some _ => none

def add? (t : Table) (key : String) (v : Toml) : Option Table :=
  if (t.get? key).isSome then none else some { t with entries := t.entries ++ [(key, v)] }

/-- Adds a value under a key, dotted if it has a path. Only dotted keys add to a table that dotted keys
have made. -/
def addAt? (t : Table) (path : List String) (key : String) (v : Toml) : Option Table :=
  alter true (fun t => if t.dotted == path.isEmpty then none else t.add? key v) path t

end Table

structure Setting where
  path : List String
  key : String
  value : Toml
deriving Inhabited

structure Header where
  path : List String
  key : String
  isArray : Bool
deriving Repr, Inhabited

/-- A header and the settings under it; those at the beginning have none. -/
structure Part where
  header : Option Header
  settings : List Setting
deriving Inhabited

def Table.addAll? (t : Table) (settings : List Setting) : Option Table :=
  settings.foldlM (fun t s => t.addAt? s.path s.key s.value) t

/-- The table that a header begins, in the table it belongs to, with its settings. A table can be begun
once, but may have been named as a parent before. -/
def Table.begin? (header : Header) (settings : List Setting) (parent : Table) : Option Table :=
  match header.isArray, parent.get? header.key with
  | false, none => fresh.map fun t => parent.set header.key t.toToml
  | false, some (.table true false entries) =>
    (Table.addAll? ⟨false, false, entries⟩ settings).map fun t => parent.set header.key t.toToml
  | true, none => fresh.map fun t => parent.set header.key (.tables [t.entries])
  | true, some (.tables items) => fresh.map fun t => parent.set header.key (.tables (items ++ [t.entries]))
  | _, _ => none
where
  fresh : Option Table := Table.addAll? ⟨false, false, []⟩ settings

def Table.addPart? (root : Table) (part : Part) : Option Table :=
  match part.header with
  | none => root.addAll? part.settings
  | some header => root.alter false (Table.begin? header part.settings) header.path

def Table.ofParts? (parts : List Part) : Option Table :=
  parts.foldlM Table.addPart? Table.ofRoot

end Toml

end SheetQuery
