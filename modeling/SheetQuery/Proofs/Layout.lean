import Mathlib.Data.List.Forall2
import SheetQuery.Sql.Basic

/-! The layout of SQL text. A `Doc` is SQL as it is put together: words, values, quoted names and texts,
side by side, in lists, between brackets and joined by operators. `Spells d f g` relates a fragment to
its layout; what is said of layouts then holds of the text. -/

namespace SheetQuery

namespace Fragment

@[simp] theorem text_append (f g : Fragment) : (f ++ g).text = f.text ++ g.text := rfl

@[simp] theorem bindings_append (f g : Fragment) : (f ++ g).bindings = f.bindings ++ g.bindings := rfl

@[simp] theorem isPredicate_append (f g : Fragment) : (f ++ g).isPredicate = false := rfl

theorem append_assoc (f g h : Fragment) : f ++ g ++ h = f ++ (g ++ h) := by
  have happend (f g : Fragment) : f ++ g = ⟨f.text ++ g.text, f.bindings ++ g.bindings, .value⟩ := rfl
  simp only [happend, String.append_assoc, List.append_assoc]

@[simp] theorem text_raw (s : String) : (raw s).text = s := rfl

@[simp] theorem bindings_raw (s : String) : (raw s).bindings = [] := rfl

@[simp] theorem isPredicate_raw (s : String) : (raw s).isPredicate = false := rfl

@[simp] theorem text_bind (v : Binding) : (bind v).text = "?" := rfl

@[simp] theorem bindings_bind (v : Binding) : (bind v).bindings = [v] := rfl

@[simp] theorem text_asPredicate (f : Fragment) : f.asPredicate.text = f.text := rfl

@[simp] theorem bindings_asPredicate (f : Fragment) : f.asPredicate.bindings = f.bindings := rfl

@[simp] theorem isPredicate_asPredicate (f : Fragment) : f.asPredicate.isPredicate = true := rfl

@[simp] theorem text_asValue (f : Fragment) : f.asValue.text = f.text := rfl

@[simp] theorem bindings_asValue (f : Fragment) : f.asValue.bindings = f.bindings := rfl

@[simp] theorem isPredicate_asValue (f : Fragment) : f.asValue.isPredicate = false := rfl

@[simp] theorem text_parenthesized (f : Fragment) : f.parenthesized.text = "(" ++ f.text ++ ")" := rfl

@[simp] theorem bindings_parenthesized (f : Fragment) : f.parenthesized.bindings = f.bindings := by
  simp [parenthesized]

@[simp] theorem isPredicate_parenthesized (f : Fragment) :
    f.parenthesized.isPredicate = f.isPredicate := rfl

theorem text_foldl (sep : String) (f : Fragment) (fs : List Fragment) :
    (fs.foldl (fun acc g => acc ++ raw sep ++ g) f).text.toList =
      f.text.toList ++ fs.flatMap fun g => sep.toList ++ g.text.toList := by
  induction fs generalizing f with
  | nil => simp
  | cons g fs ih => simp [ih]

theorem bindings_foldl (sep : String) (f : Fragment) (fs : List Fragment) :
    (fs.foldl (fun acc g => acc ++ raw sep ++ g) f).bindings = f.bindings ++ fs.flatMap bindings := by
  induction fs generalizing f with
  | nil => simp
  | cons g fs ih => simp [ih]

theorem text_join (sep : String) (f : Fragment) (fs : List Fragment) :
    (join sep (f :: fs)).text.toList =
      f.text.toList ++ fs.flatMap fun g => sep.toList ++ g.text.toList :=
  text_foldl sep f.asValue fs

theorem bindings_join (sep : String) (f : Fragment) (fs : List Fragment) :
    (join sep (f :: fs)).bindings = f.bindings ++ fs.flatMap bindings :=
  bindings_foldl sep f.asValue fs

@[simp]
theorem isPredicate_join (sep : String) (fs : List Fragment) : (join sep fs).isPredicate = false := by
  cases fs with
  | nil => rfl
  | cons f fs =>
    have h (a : Fragment) (ha : a.isPredicate = false) :
        (fs.foldl (fun acc g => acc ++ raw sep ++ g) a).isPredicate = false := by
      induction fs generalizing a with
      | nil => exact ha
      | cons g fs ih => exact ih _ rfl
    exact h f.asValue rfl

end Fragment

namespace Noted

variable {α β : Type}

@[simp] theorem result_pure (a : α) : (pure a : Noted α).result = a := rfl

@[simp] theorem result_bind (x : Noted α) (f : α → Noted β) :
    (x >>= f).result = (f x.result).result := rfl

@[simp] theorem result_map (f : α → β) (x : Noted α) : (f <$> x).result = f x.result := rfl

@[simp] theorem result_all (xs : List (Noted α)) : (all xs).result = xs.map result := rfl

@[simp] theorem notices_pure (a : α) : (pure a : Noted α).notices = [] := rfl

@[simp] theorem notices_bind (x : Noted α) (f : α → Noted β) :
    (x >>= f).notices = x.notices ++ (f x.result).notices := rfl

@[simp] theorem notices_map (f : α → β) (x : Noted α) : (f <$> x).notices = x.notices :=
  List.append_nil x.notices

@[simp] theorem notices_all (xs : List (Noted α)) : (all xs).notices = xs.flatMap notices := rfl

end Noted

namespace Sql

@[simp]
theorem isPredicate_value (d : Dialect) (x : Operand) : (x.value d).result.isPredicate = false := by
  simp only [Operand.value, Noted.result_map, asValue]
  split <;> rfl

theorem isPredicate_condition (d : Dialect) (x : Operand) : (x.condition d).result.isPredicate = true := by
  simp only [Operand.condition, Noted.result_map, asCondition]
  split
  · assumption
  · cases d <;> rfl

/-- The characters that operators are made of. -/
def symbolChars : List Char := ['+', '-', '*', '/', '%', '=', '<', '>', '|', '~', '#']

/-- The characters that end a word. -/
def delimiters : List Char :=
  [' ', '(', ')', ',', '?', '\'', '"', '\x60', '[', ']'] ++ symbolChars

def isSymbolChar (c : Char) : Bool := symbolChars.contains c

def isWordChar (c : Char) : Bool := !delimiters.contains c

theorem isSymbolChar_eq_false {c : Char} (h : isWordChar c = true) : isSymbolChar c = false := by
  rw [isWordChar, Bool.not_eq_true', delimiters, List.contains_append, Bool.or_eq_false_iff] at h
  exact h.2

/-- A class of characters without delimiters is one of word characters. -/
theorem isWordChar_of {p : Char → Bool} (hp : delimiters.all (!p ·) = true) {c : Char} (h : p c = true) :
    isWordChar c = true := by
  rw [isWordChar, Bool.not_eq_true', List.contains_eq_mem, decide_eq_false_iff_not]
  intro hc
  simpa [h] using List.all_eq_true.1 hp c hc

/-- A keyword, a name without quotes, or the digits of a number. -/
structure Word where
  text : String
  nonempty : text.toList ≠ []
  plain : ∀ c ∈ text.toList, isWordChar c = true

def isNameChar (c : Char) : Bool := c.isAlphanum || c == '_' || c == '@' || c == '.'

def isName (cs : List Char) : Bool := !cs.isEmpty && cs.all isNameChar

theorem isWordChar_of_isName {cs : List Char} (h : isName cs = true) :
    cs ≠ [] ∧ ∀ c ∈ cs, isWordChar c = true := by
  rw [isName, Bool.and_eq_true, Bool.not_eq_true', List.isEmpty_eq_false_iff, List.all_eq_true] at h
  exact ⟨h.1, fun c hc => isWordChar_of (p := isNameChar) (by decide) (h.2 c hc)⟩

/-- A check of a literal text. Its negation evaluates to `!true`, so that `Bool.not_true` is proof enough. -/
theorem check_eq_true {check : List Char → Bool} (s : String) (h : (!check s.toList) = false) :
    check s.toList = true := by
  rwa [Bool.not_eq_false'] at h

/-- A word given by its text. -/
def Word.of (s : String) (h : isName s.toList = true := by exact check_eq_true _ Bool.not_true) : Word :=
  ⟨s, (isWordChar_of_isName h).1, (isWordChar_of_isName h).2⟩

@[simp]
theorem Word.text_of (s : String) (h) : (Word.of s h).text = s := rfl

inductive InfixOp
  | or
  | xor
  | and
  | is
  | eq
  | ne
  | lt
  | gt
  | le
  | ge
  | tilde
  | regexp
  | add
  | sub
  | pipe
  | path
  | mul
  | div
  | mod
deriving DecidableEq, Repr

namespace InfixOp

def all : List InfixOp :=
  [or, xor, and, is, eq, ne, lt, gt, le, ge, tilde, regexp, add, sub, pipe, path, mul, div, mod]

def text : InfixOp → String
  | or => "OR"
  | xor => "XOR"
  | and => "AND"
  | is => "IS"
  | eq => "="
  | ne => "<>"
  | lt => "<"
  | gt => ">"
  | le => "<="
  | ge => ">="
  | tilde => "~"
  | regexp => "REGEXP"
  | add => "+"
  | sub => "-"
  | pipe => "||"
  | path => "#>>"
  | mul => "*"
  | div => "/"
  | mod => "%"

/-- How tightly an operator binds. NOT has level 4 and a minus sign before an operand level 8. -/
def level : InfixOp → Nat
  | or => 1
  | xor => 2
  | and => 3
  | is | eq | ne | lt | gt | le | ge | tilde | regexp => 5
  | add | sub | pipe | path => 6
  | mul | div | mod => 7

end InfixOp

/-- Whether characters are a name and not one of the words that bracket a choice. -/
def isKeyword (cs : List Char) : Bool :=
  isName cs && cs != ['C', 'A', 'S', 'E'] && cs != ['E', 'N', 'D']

theorem isName_of_isKeyword {cs : List Char} (h : isKeyword cs = true) : isName cs = true := by
  simp only [isKeyword, Bool.and_eq_true] at h
  exact h.1.1

theorem notBracket_of_isKeyword {s : String} (h : isKeyword s.toList = true) :
    s ≠ "CASE" ∧ s ≠ "END" := by
  simp only [isKeyword, Bool.and_eq_true, bne_iff_ne] at h
  exact ⟨fun hs => h.1.2 (by simp [hs]), fun hs => h.2 (by simp [hs])⟩

/-- SQL as it is put together. -/
inductive Doc
  | empty
  | word (w : Word) (notBracket : w.text ≠ "CASE" ∧ w.text ≠ "END")
  | value (v : Binding)
  | text (s : String)
  | column (table : Option String) (name : String)
  | binary (op : InfixOp) (l r : Doc)
  | minus (g : Doc)
  | not (g : Doc)
  /-- Side by side. -/
  | spaced (l r : Doc)
  /-- With a comma between. -/
  | listed (l r : Doc)
  | parens (g : Doc)
  | call (name : Word) (g : Doc)
  /-- What stands between CASE and END. -/
  | choice (g : Doc)

namespace Doc

def keyword (s : String) (h : isKeyword s.toList = true := by exact check_eq_true _ Bool.not_true) : Doc :=
  word (.of s (isName_of_isKeyword h)) (notBracket_of_isKeyword h)

def charsWith (d : Dialect) (w : Binding → List Char) : Doc → List Char
  | empty => []
  | word x _ => x.text.toList
  | value v => w v
  | text s => '\'' :: (Text.replaceChar '\'' ['\'', '\''] s).toList ++ ['\'']
  | column none name => (d.quote name).toList
  | column (some table) name => (d.quote table).toList ++ '.' :: (d.quote name).toList
  | binary op l r => l.charsWith d w ++ ' ' :: op.text.toList ++ ' ' :: r.charsWith d w
  | minus g => '-' :: g.charsWith d w
  | not g => ['N', 'O', 'T', ' '] ++ g.charsWith d w
  | spaced l r => l.charsWith d w ++ ' ' :: r.charsWith d w
  | listed l r => l.charsWith d w ++ ',' :: ' ' :: r.charsWith d w
  | parens g => '(' :: g.charsWith d w ++ [')']
  | call name g => name.text.toList ++ '(' :: g.charsWith d w ++ [')']
  | choice g => ['C', 'A', 'S', 'E', ' '] ++ g.charsWith d w ++ [' ', 'E', 'N', 'D']

def chars (d : Dialect) (g : Doc) : List Char := g.charsWith d fun _ => ['?']

def values : Doc → List Binding
  | empty | word _ _ | text _ | column _ _ => []
  | value v => [v]
  | binary _ l r | spaced l r | listed l r => l.values ++ r.values
  | minus g | not g | parens g | call _ g | choice g => g.values

/-- Whether the text begins with a minus sign, where `neg` tells which values are written with one. -/
def startsMinus (neg : Binding → Bool) : Doc → Bool
  | value v => neg v
  | minus _ => true
  | binary _ l _ | spaced l _ | listed l _ => l.startsMinus neg
  | _ => false

/-- Whether two minus signs come to stand side by side. -/
def comment (neg : Binding → Bool) : Doc → Bool
  | empty | word _ _ | value _ | text _ | column _ _ => false
  | binary _ l r | spaced l r | listed l r => l.comment neg || r.comment neg
  | minus g => g.startsMinus neg || g.comment neg
  | not g | parens g | call _ g | choice g => g.comment neg

section
variable (d : Dialect)

@[simp] theorem chars_empty : empty.chars d = [] := rfl

@[simp] theorem chars_word (w : Word) (h) : (word w h).chars d = w.text.toList := rfl

@[simp] theorem chars_keyword (s : String) (h) : (keyword s h).chars d = s.toList := rfl

@[simp] theorem chars_value (v : Binding) : (value v).chars d = ['?'] := rfl

@[simp] theorem chars_text (s : String) :
    (text s).chars d = '\'' :: (Text.replaceChar '\'' ['\'', '\''] s).toList ++ ['\''] := rfl

@[simp] theorem chars_column (name : String) : (column none name).chars d = (d.quote name).toList := rfl

@[simp] theorem chars_binary (op : InfixOp) (l r : Doc) :
    (binary op l r).chars d = l.chars d ++ ' ' :: op.text.toList ++ ' ' :: r.chars d := rfl

@[simp] theorem chars_minus (g : Doc) : (minus g).chars d = '-' :: g.chars d := rfl

@[simp] theorem chars_not (g : Doc) : (not g).chars d = ['N', 'O', 'T', ' '] ++ g.chars d := rfl

@[simp] theorem chars_spaced (l r : Doc) : (spaced l r).chars d = l.chars d ++ ' ' :: r.chars d := rfl

@[simp] theorem chars_listed (l r : Doc) :
    (listed l r).chars d = l.chars d ++ ',' :: ' ' :: r.chars d := rfl

@[simp] theorem chars_parens (g : Doc) : (parens g).chars d = '(' :: g.chars d ++ [')'] := rfl

@[simp] theorem chars_call (name : Word) (g : Doc) :
    (call name g).chars d = name.text.toList ++ '(' :: g.chars d ++ [')'] := rfl

@[simp] theorem chars_choice (g : Doc) :
    (choice g).chars d = ['C', 'A', 'S', 'E', ' '] ++ g.chars d ++ [' ', 'E', 'N', 'D'] := rfl

end

attribute [simp] values startsMinus comment

@[simp] theorem values_keyword (s : String) (h) : (keyword s h).values = [] := rfl

@[simp] theorem startsMinus_keyword (neg) (s : String) (h) :
    (keyword s h).startsMinus neg = false := rfl

@[simp] theorem comment_keyword (neg) (s : String) (h) : (keyword s h).comment neg = false := rfl

end Doc

/-- A fragment has the text and the values of a layout. -/
structure Spells (d : Dialect) (f : Fragment) (g : Doc) : Prop where
  text : f.text.toList = g.chars d
  bindings : f.bindings = g.values

def Doc.oneIf (g : Doc) : Doc :=
  .choice (.spaced (.keyword "WHEN") (.spaced g (.spaced (.keyword "THEN") (.spaced (.keyword "1")
    (.spaced (.keyword "ELSE") (.keyword "0"))))))

def Doc.cast (g type : Doc) : Doc :=
  .call (.of "CAST") (.spaced g (.spaced (.keyword "AS") type))

namespace Doc

variable (d : Dialect) (neg : Binding → Bool) (g type : Doc)

@[simp] theorem chars_cast : (cast g type).chars d =
    ['C', 'A', 'S', 'T', '('] ++ g.chars d ++ [' ', 'A', 'S', ' '] ++ type.chars d ++ [')'] := by
  simp [cast]

@[simp] theorem values_cast : (cast g type).values = g.values ++ type.values := by simp [cast]

@[simp] theorem comment_cast : (cast g type).comment neg = (g.comment neg || type.comment neg) := by
  simp [cast]

@[simp] theorem comment_oneIf : g.oneIf.comment neg = g.comment neg := by simp [oneIf]

end Doc

def Doc.toValue (d : Dialect) (predicate : Bool) (g : Doc) : Doc :=
  if predicate && !d.predicatesAreValues then g.oneIf else g

def Doc.toCondition (d : Dialect) (predicate : Bool) (g : Doc) : Doc :=
  if predicate then g
  else
    match d with
    | .mssql | .oracle => .binary .ne g (.keyword "0")
    | .postgres => .cast g (.keyword "BOOLEAN")
    | .mysql | .sqlite => g

def Doc.groupIf (b : Bool) (g : Doc) : Doc := if b then .parens g else g

def Doc.list : List Doc → Doc
  | [] => .empty
  | [g] => g
  | g :: gs => .listed g (Doc.list gs)

/-- Layouts with an operator between them, which groups to the left. -/
def Doc.joined (op : InfixOp) : List Doc → Doc
  | [] => .empty
  | g :: gs => gs.foldl (.binary op) g

namespace Spells

variable {d : Dialect} {f h : Fragment} {g g' : Doc}

theorem congr (hs : Spells d f g) (ht : h.text = f.text) (hb : h.bindings = f.bindings) : Spells d h g :=
  ⟨by rw [ht, hs.text], by rw [hb, hs.bindings]⟩

theorem oneIf (hs : Spells d f g) : Spells d (oneIf f) g.oneIf := by
  constructor <;> simp [Sql.oneIf, Doc.oneIf, hs.text, hs.bindings]

theorem parenthesized (hs : Spells d f g) : Spells d f.parenthesized (.parens g) := by
  constructor <;> simp [hs.text, hs.bindings]

theorem bind (v : Binding) : Spells d (.bind v) (.value v) := ⟨by simp, rfl⟩

theorem keyword (s : String) (hk) : Spells d (.raw s) (.keyword s hk) := ⟨rfl, rfl⟩

theorem column (names : Naming) (name : String) :
    Spells d (columnText d names name) (.column names.tableAlias name) := by
  cases ht : names.tableAlias <;> constructor <;> simp [columnText, ht, Doc.chars, Doc.charsWith]

theorem asPredicate (hs : Spells d f g) : Spells d f.asPredicate g := ⟨hs.text, hs.bindings⟩

theorem asValue (hs : Spells d f g) : Spells d f.asValue g := ⟨hs.text, hs.bindings⟩

theorem binary (op : InfixOp) {o : Fragment} (ho : o.text.toList = ' ' :: (op.text.toList ++ [' ']))
    (hb : o.bindings = []) (hs : Spells d f g) (hs' : Spells d h g') :
    Spells d (f ++ o ++ h) (.binary op g g') := by
  constructor
  · simp [ho, hs.text, hs'.text]
  · simp [hb, hs.bindings, hs'.bindings]

theorem minus (hs : Spells d f g) : Spells d ("-" ++ f) (.minus g) := by
  constructor
  · simp [hs.text]
  · simp [hs.bindings]

theorem castTo {type : Doc} {s : String} (hs : Spells d f g) (ht : type.chars d = s.toList)
    (hv : type.values = []) : Spells d (castTo s f) (.cast g type) := by
  constructor <;> simp [Sql.castTo, hs.text, hs.bindings, ht, hv]

theorem castKeyword (hs : Spells d f g) (s : String) (hk) : Spells d (Sql.castTo s f) (.cast g (.keyword s hk)) :=
  hs.castTo (Doc.chars_keyword d s hk) rfl

theorem toValue (hs : Spells d f g) : Spells d (Sql.asValue d f) (g.toValue d f.isPredicate) := by
  unfold Sql.asValue Doc.toValue
  split
  · exact hs.oneIf
  · exact hs.asValue

theorem toCondition (hs : Spells d f g) : Spells d (asCondition d f) (g.toCondition d f.isPredicate) := by
  unfold asCondition Doc.toCondition
  split
  · exact hs
  · cases d
    case mysql | sqlite => exact hs.asPredicate
    all_goals
      constructor
      · simp [InfixOp.text, hs.text]
      · simp [hs.bindings]

theorem groupIf (b : Bool) (hs : Spells d f g) : Spells d (groupIf b f) (g.groupIf b) := by
  cases b
  · exact hs
  · exact hs.parenthesized

theorem join_comma {fs : List Fragment} {gs : List Doc} (hs : List.Forall₂ (Spells d) fs gs) :
    Spells d (Fragment.join ", " fs) (.list gs) := by
  cases hs with
  | nil => exact ⟨rfl, rfl⟩
  | @cons f g fs gs hf hs =>
    induction hs generalizing f g with
    | nil => exact hf.asValue
    | @cons f' g' fs gs hf' hs ih =>
      obtain ⟨ht, hb⟩ := ih hf'
      constructor
      · simpa [Doc.list, Fragment.text_join, hf.text] using ht
      · simpa [Doc.list, Fragment.bindings_join, hf.bindings] using hb

theorem joined (op : InfixOp) (sep : String) (hsep : sep.toList = ' ' :: (op.text.toList ++ [' ']))
    {fs : List Fragment} {gs : List Doc} (hs : List.Forall₂ (Spells d) fs gs) :
    Spells d (Fragment.join sep fs) (.joined op gs) := by
  cases hs with
  | nil => exact ⟨rfl, rfl⟩
  | @cons f g fs gs hf hs =>
    induction hs generalizing f g with
    | nil => exact hf.asValue
    | @cons f' g' fs gs hf' hs ih =>
      obtain ⟨ht, hb⟩ := ih (.binary (o := .raw sep) op hsep rfl hf hf')
      constructor
      · simpa [Doc.joined, Fragment.text_join] using ht
      · simpa [Doc.joined, Fragment.bindings_join] using hb

theorem callText (w : Word) {fs : List Fragment} {gs : List Doc} (hs : List.Forall₂ (Spells d) fs gs) :
    Spells d (Sql.callText w.text fs) (.call w (.list gs)) := by
  have hj := join_comma hs
  constructor
  · simp [Sql.callText, hj.text]
  · simp [Sql.callText, hj.bindings]

section
variable {args : List Operand} {gs : List Doc}
  (hs : List.Forall₂ (fun x g => Spells d (x.value d).result g) args gs)
include hs

theorem values : List.Forall₂ (Spells d) (values d args).result gs := by
  have hv : (Sql.values d args).result = args.map fun x => (x.value d).result := by
    simp [Sql.values, Function.comp_def]
  rw [hv]
  exact List.forall₂_map_left_iff.2 hs

theorem nativeCall (w : Word) : Spells d (nativeCall d w.text args).result (.call w (.list gs)) :=
  .callText w (values hs)

end

end Spells

end Sql

end SheetQuery
