import SheetQuery.Proofs.Precedence

/-! SQL expressions as trees. A sequence of operands and operators is tied together from left to right,
with a stack of operators that wait for their right operand; an operator that comes next first completes
the waiting ones that bind at least as tightly. The result gives every operator the operands that reach
up to it. -/

namespace SheetQuery.Sql

inductive Term
  | word (s : String)
  | value (v : Binding)
  | name (s : String)
  | text (s : String)
  /-- Several items side by side. -/
  | run (ts : List Term)
  | binary (op : InfixOp) (l r : Term)
  | minus (t : Term)
  | not (t : Term)
  /-- What stands in parentheses, after a name or none: its parts, each with the separator before it. -/
  | group (name : String) (parts : List (String × Term))
  | choice (parts : List (String × Term))
  | unread

/-- What waits for an operand on its right. -/
inductive Pending
  | left (t : Term) (op : InfixOp)
  | minus
  | not

namespace Pending

def operator : Pending → Operator
  | left _ op => .between op
  | minus => .minus
  | not => .not

def level (k : Pending) : Nat := k.operator.level

def apply : Pending → Term → Term
  | left l op, r => .binary op l r
  | minus, t => .minus t
  | not, t => .not t

end Pending

/-- Completes what waits and binds at least as tightly as level `p`. -/
def close (p : Nat) : List Pending → Term → List Pending × Term
  | [], t => ([], t)
  | k :: ks, t => if p ≤ k.level then close p ks (k.apply t) else (k :: ks, t)

section
variable {α : Type} (leaf : List α → Term)

/-- Reads up to the last operand, with what still waits for it. -/
def scan : List Pending → List (Mark α) → Option (List Pending × Term)
  | _, [] => none
  | ks, .operand run :: ms =>
    match ms with
    | [] => some (ks, leaf run)
    | .operator (.between op) :: ms =>
      scan (.left (close op.level ks (leaf run)).2 op :: (close op.level ks (leaf run)).1) ms
    | _ => none
  | ks, .operator .minus :: ms => scan (.minus :: ks) ms
  | ks, .operator .not :: ms => scan (.not :: ks) ms
  | _, .operator (.between _) :: _ => none

def tie (ms : List (Mark α)) : Option Term := (scan leaf [] ms).map fun s => (close 0 s.1 s.2).2

end

theorem close_append {p : Nat} (s b : List Pending) (t : Term)
    (h : (∃ k ∈ s, k.level < p) ∨ ∀ k ∈ b.head?, k.level < p) :
    close p (s ++ b) t = ((close p s t).1 ++ b, (close p s t).2) := by
  induction s generalizing t with
  | nil =>
    cases b with
    | nil => rfl
    | cons k ks =>
      have hk : k.level < p := by simpa using h
      simp [close, Nat.not_le.2 hk]
  | cons k ks ih =>
    by_cases hk : p ≤ k.level
    · simp only [List.cons_append, close, hk, if_true]
      refine ih _ (h.imp_left ?_)
      rintro ⟨m, hm, hmp⟩
      rcases List.mem_cons.1 hm with rfl | hm
      · omega
      · exact ⟨m, hm, hmp⟩
    · simp [close, hk]

theorem mem_close {p : Nat} {k : Pending} {s : List Pending} (h : k ∈ s) (hk : k.level < p) (t : Term) :
    k ∈ (close p s t).1 := by
  induction s generalizing t with
  | nil => simp at h
  | cons m ms ih =>
    rw [close]
    split
    case isTrue hm =>
      rcases List.mem_cons.1 h with rfl | h
      · omega
      · exact ih h _
    case isFalse => exact h

theorem close_subset {p : Nat} {k : Pending} {s : List Pending} {t : Term} (h : k ∈ (close p s t).1) :
    k ∈ s := by
  induction s generalizing t with
  | nil => exact h
  | cons m ms ih =>
    rw [close] at h
    split at h
    · exact List.mem_cons_of_mem m (ih h)
    · exact h

theorem close_eq_nil {p : Nat} {s : List Pending} (h : ∀ k ∈ s, p ≤ k.level) (t : Term) :
    close p s t = ([], (close 0 s t).2) := by
  induction s generalizing t with
  | nil => rfl
  | cons k ks ih =>
    have hk := h k List.mem_cons_self
    simp only [close, hk, if_true, Nat.zero_le]
    exact ih (fun m hm => h m (List.mem_cons_of_mem k hm)) _

section
variable {α : Type} {leaf : List α → Term}

theorem scan_append (ks : List Pending) (ms : List (Mark α)) (op : InfixOp) (ns : List (Mark α)) :
    scan leaf ks (ms ++ .operator (.between op) :: ns) = (scan leaf ks ms).bind fun s =>
      scan leaf (.left (close op.level s.1 s.2).2 op :: (close op.level s.1 s.2).1) ns := by
  fun_induction scan leaf ks ms with
  | case1 => rfl
  | case2 => rfl
  | case3 ks run op' ms ih => simpa [scan] using ih
  | case4 ks run ms h1 h2 =>
    cases ms with
    | nil => simp at h1
    | cons m ms =>
      cases m with
      | operand r => simp [scan]
      | operator o => cases o <;> simp_all [scan]
  | case5 ks ms ih => simpa [scan] using ih
  | case6 ks ms ih => simpa [scan] using ih
  | case7 => rfl

/-- What waits after reading a sequence waited before or is an operator of the sequence. -/
theorem scan_operators {ks : List Pending} {ms : List (Mark α)} {s : List Pending} {t : Term}
    (h : scan leaf ks ms = some (s, t)) : ∀ k ∈ s, k ∈ ks ∨ k.operator ∈ Mark.operators ms := by
  fun_induction scan leaf ks ms with
  | case1 => simp at h
  | case2 ks run =>
    obtain ⟨rfl, -⟩ : ks = s ∧ leaf run = t := by simpa using h
    exact fun k hk => .inl hk
  | case3 ks run op ms ih =>
    intro k hk
    rcases ih h k hk with hk | ho
    · rcases List.mem_cons.1 hk with rfl | hk
      · exact .inr (by simp [Pending.operator])
      · exact .inl (close_subset hk)
    · exact .inr (by simp [ho])
  | case4 => simp at h
  | case5 ks ms ih =>
    intro k hk
    rcases ih h k hk with hk | ho
    · rcases List.mem_cons.1 hk with rfl | hk
      · exact .inr (by simp [Pending.operator])
      · exact .inl hk
    · exact .inr (by simp [ho])
  | case6 ks ms ih =>
    intro k hk
    rcases ih h k hk with hk | ho
    · rcases List.mem_cons.1 hk with rfl | hk
      · exact .inr (by simp [Pending.operator])
      · exact .inl hk
    · exact .inr (by simp [ho])
  | case7 => simp at h

/-- An operator before an operand keeps the bound, or lowers it to its own level. -/
theorem bound_cons {p : Nat} {ks b : List Pending} (k : Pending)
    (hp : (∃ k ∈ ks, k.level ≤ p) ∨ ∀ k ∈ b.head?, k.level ≤ p) :
    (∃ m ∈ k :: ks, m.level ≤ min p k.level) ∨ ∀ m ∈ b.head?, m.level ≤ min p k.level := by
  rcases Nat.le_total k.level p with h | h
  · exact .inl ⟨k, List.mem_cons_self, by omega⟩
  · rw [Nat.min_eq_left h]
    exact hp.imp_left fun ⟨m, hm, hmp⟩ => ⟨m, List.mem_cons_of_mem k hm, hmp⟩

/-- An unbroken sequence leaves what waits below it alone. The bound `p` is kept by the waiting operator
next below, or by one of the sequence that binds as loosely. -/
theorem scan_frame {p : Nat} {ks b : List Pending} {ms : List (Mark α)}
    (hp : (∃ k ∈ ks, k.level ≤ p) ∨ ∀ k ∈ b.head?, k.level ≤ p)
    (h : unbroken p (Mark.operators ms) = true) :
    scan leaf (ks ++ b) ms = (scan leaf ks ms).map fun s => (s.1 ++ b, s.2) := by
  fun_induction scan leaf ks ms generalizing p with
  | case1 => rfl
  | case2 => rfl
  | case3 ks run op ms ih =>
    obtain ⟨hop, hms⟩ : p < op.level ∧ unbroken p (Mark.operators ms) = true := by
      simpa [unbroken] using h
    have hc : close op.level (ks ++ b) (leaf run) =
        ((close op.level ks (leaf run)).1 ++ b, (close op.level ks (leaf run)).2) := by
      refine close_append ks b (leaf run) (hp.imp ?_ ?_)
      · rintro ⟨k, hk, hkp⟩
        exact ⟨k, hk, by omega⟩
      · intro hb k hk
        exact lt_of_le_of_lt (hb k hk) hop
    simp only [scan, hc]
    refine ih (hp.imp_left ?_) hms
    rintro ⟨k, hk, hkp⟩
    exact ⟨k, List.mem_cons_of_mem _ (mem_close hk (by omega) _), hkp⟩
  | case4 ks run ms h1 h2 =>
    cases ms with
    | nil => simp at h1
    | cons m ms =>
      cases m with
      | operand r => rfl
      | operator o => cases o <;> simp_all [scan]
  | case5 ks ms ih => exact ih (bound_cons .minus hp) h
  | case6 ks ms ih => exact ih (bound_cons .not hp) h
  | case7 => rfl

theorem close_zero_append (s b : List Pending) (t : Term) :
    close 0 (s ++ b) t = close 0 b (close 0 s t).2 := by
  induction s generalizing t with
  | nil => rfl
  | cons k ks ih => simpa [close] using ih _

/-- An operator between two sequences that reach up to it takes their trees as its operands. -/
theorem tie_binary {op : InfixOp} {ls rs : List (Mark α)} {l r : Term} (hl : tie leaf ls = some l)
    (hr : tie leaf rs = some r) (hls : leftReach op.level ls = ls)
    (hrs : rightReach op.level rs = rs) :
    tie leaf (ls ++ .operator (.between op) :: rs) = some (.binary op l r) := by
  obtain ⟨⟨s, t⟩, hs, rfl⟩ := Option.map_eq_some_iff.1 hl
  obtain ⟨⟨s', t'⟩, hs', rfl⟩ := Option.map_eq_some_iff.1 hr
  have hc : close op.level s t = ([], (close 0 s t).2) := by
    refine close_eq_nil (fun k hk => ?_) t
    rcases scan_operators hs k hk with hk | ho
    · simp at hk
    · exact leftReach_eq_self_iff.1 hls k.operator ho
  have hf : scan leaf ([] ++ [Pending.left (close 0 s t).2 op]) rs = (scan leaf [] rs).map _ :=
    scan_frame (p := op.level) (.inr (by simp [Pending.level, Pending.operator, Operator.level]))
      (rightReach_eq_self_iff.1 hrs)
  rw [List.nil_append, hs', Option.map_some] at hf
  rw [tie, scan_append, hs, Option.bind_some, hc, hf, Option.map_some, close_zero_append]
  rfl

/-- A minus sign before a sequence that reaches up to it takes its tree as its operand. -/
theorem tie_minus {rs : List (Mark α)} {r : Term} (hr : tie leaf rs = some r)
    (hrs : rightReach Operator.minus.level rs = rs) :
    tie leaf (.operator .minus :: rs) = some (.minus r) := by
  obtain ⟨⟨s, t⟩, hs, rfl⟩ := Option.map_eq_some_iff.1 hr
  have hf : scan leaf ([] ++ [Pending.minus]) rs = (scan leaf [] rs).map _ :=
    scan_frame (p := Operator.minus.level) (.inr (by simp [Pending.level, Pending.operator]))
      (rightReach_eq_self_iff.1 hrs)
  rw [List.nil_append, hs, Option.map_some] at hf
  rw [tie, scan, hf, Option.map_some, close_zero_append]
  rfl

end

def Item.label : Item → String
  | .word s | .symbol s => s
  | .comma => ","
  | _ => ""

/-- Items side by side; one alone is itself. -/
def Term.ofRun : List Term → Term
  | [t] => t
  | ts => .run ts

section
variable {α : Type} (item : α → Item) (leaf : List α → Term)

/-- What stands between separators, each with the separator before it. -/
def segments : String → List α → List α → List (String × List α)
  | s, seg, [] => [(s, seg)]
  | s, seg, x :: xs =>
    if (item x).kind = .separator then (s, seg) :: segments (item x).label [] xs
    else segments s (seg ++ [x]) xs

def readSegments : List (String × List α) → Option (List (String × Term))
  | [] => some []
  | (s, seg) :: segs =>
    ((sequence (Item.kind ∘ item) [] seg).bind (tie leaf)).bind fun t =>
      (readSegments segs).map ((s, t) :: ·)

/-- Without an empty segment before a first separator. -/
def dropEmpty : List (String × List α) → List (String × List α)
  | (_, []) :: segs => segs
  | segs => segs

def partsOf (xs : List α) : Option (List (String × Term)) :=
  readSegments item leaf (dropEmpty (segments item "" [] xs))

end

mutual

def Item.term : Item → Term
  | .word s | .symbol s => .word s
  | .value v => .value v
  | .name s => .name s
  | .text s => .text s
  | .comma => .word ","
  | .group n is =>
    match partsOf Prod.fst (fun run => .ofRun (run.map Prod.snd)) (Item.withTerms is) with
    | some parts => .group n parts
    | none => .unread
  | .choice is =>
    match partsOf Prod.fst (fun run => .ofRun (run.map Prod.snd)) (Item.withTerms is) with
    | some parts => .choice parts
    | none => .unread

def Item.withTerms : List Item → List (Item × Term)
  | [] => []
  | i :: is => (i, i.term) :: Item.withTerms is

end

def Item.termOf (run : List Item) : Term := .ofRun (run.map Item.term)

/-- The tree of a fragment, if it can be read and is one expression. -/
def readTerm (d : Dialect) (f : Fragment) : Option Term := (marks d f).bind (tie Item.termOf)

section
variable {α β : Type} (f : α → β)

def Mark.map : Mark α → Mark β
  | operand run => operand (run.map f)
  | operator o => operator o

variable {item : β → Item} {leaf : List β → Term}

theorem sequence_map (kind : β → Kind) (run xs : List α) :
    sequence kind (run.map f) (xs.map f) =
      (sequence (kind ∘ f) run xs).map (List.map (Mark.map f)) := by
  induction xs generalizing run with
  | nil => cases run <;> simp [sequence, Mark.map]
  | cons x xs ih =>
    have hnil := ih []
    have hrun := ih (run ++ [x])
    simp only [List.map_append, List.map_cons, List.map_nil] at hnil hrun
    cases hk : kind (f x) <;> cases run <;>
      simp_all [sequence, Mark.map, Function.comp_def]

theorem scan_map (ks : List Pending) (ms : List (Mark α)) :
    scan leaf ks (ms.map (Mark.map f)) = scan (leaf ∘ List.map f) ks ms := by
  fun_induction scan (leaf ∘ List.map f) ks ms with
  | case4 ks run ms h1 h2 =>
    cases ms with
    | nil => simp at h1
    | cons m ms =>
      cases m with
      | operand r => rfl
      | operator o => cases o <;> simp_all [scan, Mark.map]
  | _ => simp_all [scan, Mark.map]

theorem segments_map (s : String) (seg xs : List α) :
    segments item s (seg.map f) (xs.map f) =
      (segments (item ∘ f) s seg xs).map (Prod.map id (List.map f)) := by
  induction xs generalizing s seg with
  | nil => rfl
  | cons x xs ih =>
    have hseg := ih s (seg ++ [x])
    have hnil := ih (item (f x)).label []
    simp only [List.map_append, List.map_cons, List.map_nil] at hseg hnil
    by_cases hk : (item (f x)).kind = .separator <;> simp_all [segments]

theorem tie_map (ms : List (Mark α)) :
    tie leaf (ms.map (Mark.map f)) = tie (leaf ∘ List.map f) ms := by
  rw [tie, scan_map, tie]

theorem readSegments_map (segs : List (String × List α)) :
    readSegments item leaf (segs.map (Prod.map id (List.map f))) =
      readSegments (item ∘ f) (leaf ∘ List.map f) segs := by
  induction segs with
  | nil => rfl
  | cons seg segs ih =>
    have hs := sequence_map f (Item.kind ∘ item) [] seg.2
    rw [List.map_nil] at hs
    simp only [List.map_cons, readSegments, Prod.map, id, ih, hs, Option.bind_map]
    congr 2
    funext ms
    exact tie_map f ms

theorem partsOf_map (xs : List α) :
    partsOf item leaf (xs.map f) = partsOf (item ∘ f) (leaf ∘ List.map f) xs := by
  have hs : segments item "" (List.map f []) (xs.map f) = _ := segments_map f "" [] xs
  rw [List.map_nil] at hs
  rw [partsOf, partsOf, hs, ← readSegments_map]
  congr 1
  cases segments (item ∘ f) "" [] xs with
  | nil => rfl
  | cons seg segs => 
    obtain ⟨s, seg⟩ := seg
    cases seg <;> rfl

end

theorem Item.withTerms_eq_map (is : List Item) : withTerms is = is.map fun i => (i, i.term) := by
  induction is with
  | nil => rfl
  | cons i is ih => rw [withTerms, ih, List.map_cons]

theorem Item.partsOf_withTerms (is : List Item) :
    partsOf Prod.fst (fun run => .ofRun (run.map Prod.snd)) (withTerms is) = partsOf id termOf is := by
  rw [withTerms_eq_map, partsOf_map]
  congr 1
  funext run
  simp [termOf, Function.comp_def]

theorem Item.term_group {n : String} {is : List Item} {parts : List (String × Term)}
    (h : partsOf id termOf is = some parts) : (group n is).term = .group n parts := by
  rw [term, partsOf_withTerms, h]

theorem Item.term_choice {is : List Item} {parts : List (String × Term)}
    (h : partsOf id termOf is = some parts) : (choice is).term = .choice parts := by
  rw [term, partsOf_withTerms, h]

/-- The items of one expression, and its tree. -/
structure ReadsAs (is : List Item) (t : Term) : Prop where
  nonempty : is ≠ []
  unseparated : ∀ i ∈ is, i.kind ≠ .separator
  tied : (sequence Item.kind [] is).bind (tie Item.termOf) = some t

theorem sequence_words {ss : List String} (h : ∀ s ∈ ss, (Item.word s).kind = .operand) (run : List Item)
    (hne : run ++ ss.map Item.word ≠ []) :
    sequence Item.kind run (ss.map .word) = some [.operand (run ++ ss.map .word)] := by
  induction ss generalizing run with
  | nil =>
    have hr : run.isEmpty = false := by simpa using hne
    simp [sequence, hr]
  | cons s ss ih =>
    have hs := h s List.mem_cons_self
    rw [List.map_cons, sequence_operand hs, ih (fun t ht => h t (List.mem_cons_of_mem s ht)) _ (by simp)]
    simp

/-- Words side by side. -/
theorem ReadsAs.words (ss : List String) (h : ∀ s ∈ ss, (Item.word s).kind = .operand) (hne : ss ≠ []) :
    ReadsAs (ss.map .word) (.ofRun (ss.map .word)) where
  nonempty := by simpa using hne
  unseparated := by
    intro i hi
    obtain ⟨s, hs, rfl⟩ := List.mem_map.1 hi
    simp [h s hs]
  tied := by
    rw [sequence_words h [] (by simpa using hne)]
    simp [tie, scan, close, Item.termOf, Item.term, Function.comp_def]

/-- Items with separators between expressions, a separator `s` standing before them. -/
inductive Parted : String → List Item → List (String × Term) → Prop
  | one {s : String} {is : List Item} {t : Term} : ReadsAs is t → Parted s is [(s, t)]
  | more {s : String} {is js : List Item} {t : Term} {x : Item} {ps : List (String × Term)} :
    ReadsAs is t → x.kind = .separator → Parted x.label js ps → Parted s (is ++ x :: js) ((s, t) :: ps)

theorem segments_append {is : List Item} (h : ∀ i ∈ is, i.kind ≠ .separator) (s : String)
    (seg js : List Item) : segments id s seg (is ++ js) = segments id s (seg ++ is) js := by
  induction is generalizing seg with
  | nil => simp
  | cons i is ih =>
    have hi : (id i).kind ≠ .separator := h i List.mem_cons_self
    rw [List.cons_append, segments, if_neg hi, ih fun j hj => h j (List.mem_cons_of_mem i hj)]
    simp

theorem Parted.segments {s : String} {is : List Item} {ps : List (String × Term)} (h : Parted s is ps) :
    readSegments id Item.termOf (segments id s [] is) = some ps ∧
      dropEmpty (segments id s [] is) = segments id s [] is := by
  induction h with
  | @one s is t h =>
    have hs := segments_append h.unseparated s [] []
    rw [List.append_nil, List.nil_append] at hs
    obtain ⟨i, is', rfl⟩ := List.exists_cons_of_ne_nil h.nonempty
    rw [hs]
    exact ⟨by simp [Sql.segments, readSegments, h.tied], rfl⟩
  | @more s is js t x ps h hx _ ih =>
    have hx' : (id x).kind = .separator := hx
    rw [segments_append h.unseparated, List.nil_append, Sql.segments, if_pos hx']
    obtain ⟨i, is', rfl⟩ := List.exists_cons_of_ne_nil h.nonempty
    exact ⟨by simp [readSegments, h.tied, ih.1], rfl⟩

theorem Parted.partsOf {is : List Item} {ps : List (String × Term)} (h : Parted "" is ps) :
    partsOf id Item.termOf is = some ps := by
  rw [Sql.partsOf, h.segments.2, h.segments.1]

theorem Parted.partsOf_cons {x : Item} {is : List Item} {ps : List (String × Term)}
    (hx : x.kind = .separator) (h : Parted x.label is ps) :
    Sql.partsOf id Item.termOf (x :: is) = some ps := by
  have hx' : (id x).kind = .separator := hx
  rw [Sql.partsOf, Sql.segments, if_pos hx']
  exact h.segments.1

theorem Doc.unseparated {g : Doc} (hg : g.isExpr = true) : ∀ i ∈ g.items, i.kind ≠ .separator := by
  induction g with
  | binary op l r ihl ihr =>
    obtain ⟨hl, hr⟩ : l.isExpr = true ∧ r.isExpr = true := by simpa [isExpr] using hg
    intro i hi
    simp only [items, List.mem_append, List.mem_cons] at hi
    rcases hi with hi | rfl | hi
    · exact ihl hl i hi
    · cases op <;> decide
    · exact ihr hr i hi
  | minus g ih =>
    intro i hi
    rcases List.mem_cons.1 hi with rfl | hi
    · decide
    · exact ih hg i hi
  | not g ih =>
    intro i hi
    rcases List.mem_cons.1 hi with rfl | hi
    · decide
    · exact ih hg i hi
  | word w _ =>
    intro i hi
    obtain rfl : i = .word w.text := by simpa [items] using hi
    have hk : (Item.word w.text).kind = .operand := by simpa [isExpr] using hg
    simp [hk]
  | column table name =>
    have hd : (Item.word ".").kind ≠ .separator := by decide
    have hn (s : String) : (Item.name s).kind ≠ .separator := by simp [Item.kind]
    cases table <;> simp [items, hd, hn]
  | empty => simp [isExpr] at hg
  | spaced l r => simp [isExpr] at hg
  | listed l r => simp [isExpr] at hg
  | _ => simp [items, Item.kind]

structure Doc.Reads (g : Doc) (t : Term) : Prop where
  expr : g.isExpr = true
  tied : tie Item.termOf g.marks = some t

namespace Doc.Reads

variable {g l r : Doc} {t u : Term}

theorem items (h : g.Reads t) : ReadsAs g.items t where
  nonempty := by
    intro hn
    have hs := Doc.sequence_eq h.expr
    rw [hn] at hs
    simp [sequence] at hs
  unseparated := Doc.unseparated h.expr
  tied := by rw [Doc.sequence_eq h.expr, Option.bind_some, h.tied]

theorem binary {op : InfixOp} (hl : l.Reads t) (hr : r.Reads u)
    (hlo : ∀ o ∈ l.operators, op.level ≤ o.level) (hro : unbroken op.level r.operators = true) :
    (Doc.binary op l r).Reads (.binary op t u) where
  expr := by simp [isExpr, hl.expr, hr.expr]
  tied := by
    rw [marks_binary]
    refine tie_binary hl.tied hr.tied ?_ ?_
    · rw [leftReach_eq_self_iff, operators_marks]
      exact hlo
    · rw [rightReach_eq_self_iff, operators_marks]
      exact hro

theorem minus (h : g.Reads t) (ho : unbroken Operator.minus.level g.operators = true) :
    (Doc.minus g).Reads (.minus t) where
  expr := h.expr
  tied := by
    rw [marks_minus]
    refine tie_minus h.tied ?_
    rw [rightReach_eq_self_iff, operators_marks]
    exact ho

theorem parens (h : g.Reads t) : (Doc.parens g).Reads (.group "" [("", t)]) where
  expr := rfl
  tied := by
    have ht := Item.term_group (n := "") (Parted.one h.items).partsOf
    simp [marks, beforeLast, lastRun, Doc.items, tie, scan, close, Item.termOf, Term.ofRun, ht]

theorem call {w : Word} {ps : List (String × Term)} (h : Parted "" g.items ps) :
    (Doc.call w g).Reads (.group w.text ps) where
  expr := rfl
  tied := by
    have ht := Item.term_group (n := w.text) h.partsOf
    simp [marks, beforeLast, lastRun, Doc.items, tie, scan, close, Item.termOf, Term.ofRun, ht]

theorem choice {ps : List (String × Term)} (h : Sql.partsOf id Item.termOf g.items = some ps) :
    (Doc.choice g).Reads (.choice ps) where
  expr := rfl
  tied := by
    have ht := Item.term_choice h
    simp [marks, beforeLast, lastRun, Doc.items, tie, scan, close, Item.termOf, Term.ofRun, ht]

/-- A call with two arguments. -/
theorem callPair {w : Word} (hl : l.Reads t) (hr : r.Reads u) :
    (Doc.call w (.listed l r)).Reads (.group w.text [("", t), (",", u)]) := by
  have hparts : Parted "" (Doc.listed l r).items [("", t), (",", u)] :=
    .more (x := .comma) hl.items rfl (.one hr.items)
  exact .call hparts

/-- A cast to a type of one word or more. -/
theorem cast {type : Doc} (h : g.Reads t) (ws : List String) (ht : type.items = ws.map .word) (hne : ws ≠ [])
    (hws : ∀ w ∈ ws, (Item.word w).kind = .operand) :
    (Doc.cast g type).Reads (.group "CAST" [("", t), ("AS", .ofRun (ws.map .word))]) := by
  have hwords := ReadsAs.words ws hws hne
  rw [← ht] at hwords
  have hparts : Parted "" (g.items ++ Item.word "AS" :: type.items) [("", t), ("AS", .ofRun (ws.map .word))] :=
    .more h.items (by decide) (.one hwords)
  exact .call hparts

/-- One and zero for a predicate. -/
theorem oneIf (h : g.Reads t) :
    g.oneIf.Reads (.choice [("WHEN", t), ("THEN", .word "1"), ("ELSE", .word "0")]) := by
  have hone : ReadsAs [.word "1"] (.word "1") := .words ["1"] (by decide) (by simp)
  have hzero : ReadsAs [.word "0"] (.word "0") := .words ["0"] (by decide) (by simp)
  have hparts : Parted (Item.word "WHEN").label
      (g.items ++ Item.word "THEN" :: ([Item.word "1"] ++ Item.word "ELSE" :: [Item.word "0"]))
      [("WHEN", t), ("THEN", .word "1"), ("ELSE", .word "0")] :=
    .more h.items (by decide) (.more hone (by decide) (.one hzero))
  exact .choice (hparts.partsOf_cons (by decide))

theorem value (v : Binding) : (Doc.value v).Reads (.value v) := ⟨rfl, rfl⟩

theorem text (s : String) : (Doc.text s).Reads (.text s) := ⟨rfl, rfl⟩

theorem word {w : Word} {h} (hw : (Item.word w.text).kind = .operand) :
    (Doc.word w h).Reads (.word w.text) where
  expr := by simp [isExpr, hw]
  tied := rfl

theorem column (table : Option String) (name : String) : (Doc.column table name).Reads
    (match table with
      | none => .name name
      | some table => .run [.name table, .word ".", .name name]) where
  expr := rfl
  tied := by cases table <;> rfl

/-- How a layout is read depends on its operands and operators alone. -/
theorem congr (h : g.Reads t) (he : r.isExpr = g.isExpr) (hm : r.marks = g.marks) : r.Reads t :=
  ⟨he ▸ h.expr, hm ▸ h.tied⟩

theorem readTerm {d : Dialect} {f : Fragment} (h : g.Reads t) (hs : Spells d f g)
    (hc : g.comment noSign = false) : readTerm d f = some t := by
  rw [Sql.readTerm, hs.marks_eq h.expr hc, Option.bind_some, h.tied]

end Doc.Reads

end SheetQuery.Sql
