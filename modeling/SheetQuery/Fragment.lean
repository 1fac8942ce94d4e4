import SheetQuery.Dialect
import SheetQuery.Number.Layout

/-! SQL fragments: text with `?` placeholders, and the values bound to them in the order in which they
stand in the text. Everything that puts fragments together keeps that order. -/

namespace SheetQuery

inductive Binding
  | number (n : Number)
  | text (s : String)
  | boolean (b : Bool)
deriving DecidableEq, Repr, Inhabited

def Binding.literal (d : Dialect) : Binding → String
  | number n => n.plain
  | text s => "'" ++ Text.replaceChar '\'' ['\'', '\''] s ++ "'"
  | boolean b =>
    if d.predicatesAreValues then (if b then "TRUE" else "FALSE") else (if b then "1" else "0")

inductive Shape
  | value
  | predicate
deriving DecidableEq, Repr, Inhabited

structure Fragment where
  text : String
  bindings : List Binding
  shape : Shape
deriving DecidableEq, Repr, Inhabited

namespace Fragment

def empty : Fragment := ⟨"", [], .value⟩

/-- Text without placeholders of its own. -/
def raw (s : String) : Fragment := ⟨s, [], .value⟩

def bind (v : Binding) : Fragment := ⟨"?", [v], .value⟩

def null : Fragment := raw "NULL"

def asPredicate (f : Fragment) : Fragment := { f with shape := .predicate }

def asValue (f : Fragment) : Fragment := { f with shape := .value }

def isPredicate (f : Fragment) : Bool := f.shape == .predicate

/-- Adds a fragment at the end; the shape stays. -/
def push (f g : Fragment) : Fragment :=
  { f with text := f.text ++ g.text, bindings := f.bindings ++ g.bindings }

/-- Two fragments one after the other make a value. -/
instance : Append Fragment where
  append f g := (f.push g).asValue

instance : Coe String Fragment := ⟨raw⟩

def join (separator : String) : List Fragment → Fragment
  | [] => empty
  | f :: fs => fs.foldl (fun acc g => acc ++ separator ++ g) f.asValue

/-- The text and values of a pattern whose holes, written as a pair of braces, take the parts in order. A
doubled brace is a brace, and a hole without a part is NULL. -/
def fill : List Char → List Fragment → List Char × List Binding
  | '{' :: '{' :: cs, parts => let (t, vs) := fill cs parts; ('{' :: t, vs)
  | '}' :: '}' :: cs, parts => let (t, vs) := fill cs parts; ('}' :: t, vs)
  | '{' :: '}' :: cs, part :: parts =>
    let (t, vs) := fill cs parts
    (part.text.toList ++ t, part.bindings ++ vs)
  | '{' :: '}' :: cs, [] => let (t, vs) := fill cs []; (null.text.toList ++ t, vs)
  | c :: cs, parts => let (t, vs) := fill cs parts; (c :: t, vs)
  | [], _ => ([], [])

def template (pattern : String) (parts : List Fragment) : Fragment :=
  let (t, vs) := fill pattern.toList parts
  ⟨String.ofList t, vs, .value⟩

/-- In parentheses, with the same shape. -/
def parenthesized (f : Fragment) : Fragment :=
  { raw "(" ++ f ++ raw ")" with shape := f.shape }

/-- Where a reader of SQL text stands: the quote it waits for, the values not yet used and what is
written. -/
structure InlineState where
  closing : Option Char
  pending : List Binding
  written : String
deriving Repr, Inhabited

/-- The character that ends what `c` opens in a dialect, if `c` opens anything. -/
def closingQuote? (d : Dialect) (c : Char) : Option Char :=
  if c = '\'' ∨ c = '"' ∨ c = '\x60' then some c
  else if c = '[' ∧ d = .mssql then some ']'
  else none

/-- Reads one character. A placeholder outside quotes becomes the next value, if one is left. -/
def inlineStep (d : Dialect) (s : InlineState) (c : Char) : InlineState :=
  match s.closing with
  | some close => { s with closing := if c = close then none else some close, written := s.written.push c }
  | none =>
    match c, s.pending with
    | '?', v :: vs => { s with pending := vs, written := s.written ++ v.literal d }
    | c, _ => { s with closing := closingQuote? d c, written := s.written.push c }

def inline (d : Dialect) (f : Fragment) : String :=
  (f.text.toList.foldl (inlineStep d) ⟨none, f.bindings, ""⟩).written

end Fragment

end SheetQuery
