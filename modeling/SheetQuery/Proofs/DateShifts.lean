import Mathlib.Algebra.Order.Field.Rat
import Mathlib.Tactic.Ring
import SheetQuery.Proofs.NumberText
import SheetQuery.Proofs.Parity

/-! Dates shifted by a literal amount. Each dialect has its own way to write a shift: a function of its own for what
is below zero, a sign, a multiple of an interval, or a text with the amount in it. Read back, all of them shift the
date by the amount and the unit that the call names. -/

namespace SheetQuery

/-- An exact amount: a rational number, or what is no number on the line. -/
inductive Amount
  | finite (q : ℚ)
  | infinite (negative : Bool)
  | undefined
deriving DecidableEq

namespace Amount

def neg : Amount → Amount
  | finite q => finite (-q)
  | infinite b => infinite !b
  | undefined => undefined

def times (k : Nat) : Amount → Amount
  | finite q => finite (k * q)
  | infinite b => infinite b
  | undefined => undefined

@[simp] theorem neg_neg (a : Amount) : a.neg.neg = a := by
  cases a <;> simp [neg]

@[simp] theorem times_one (a : Amount) : a.times 1 = a := by
  cases a <;> simp [times]

end Amount

namespace Number

def amount (n : Number) : Amount :=
  if n.isNaN then .undefined
  else if n.isFinite then .finite ((if n.negative then -1 else 1) * n.units / unitsPerOne)
  else .infinite n.negative

theorem amount_neg (n : Number) : n.neg.amount = n.amount.neg := by
  have hunits : n.neg.units = n.units := rfl
  have hnan : n.neg.isNaN = n.isNaN := rfl
  have hfinite : n.neg.isFinite = n.isFinite := rfl
  unfold amount
  rw [hunits, hnan, hfinite, negative_neg]
  generalize (unitsPerOne : ℚ) = k
  cases n.isNaN <;> cases n.isFinite <;> cases n.negative <;> simp [Amount.neg] <;> ring

/-- The sign that is written of a number, and its magnitude, stand for the number. -/
theorem amount_signed (n : Number) : amount ⟨n.lt .zero, n.rank⟩ = n.amount := by
  obtain ⟨b, r⟩ := n
  by_cases hnan : infinityRank < r
  · simp [amount, isNaN, hnan]
  · have hlt : lt ⟨b, r⟩ .zero = (b && decide (r ≠ 0)) := by
      cases b <;> simp [lt, isNaN, hnan, key, zero, Nat.pos_iff_ne_zero]
    rw [hlt]
    by_cases hr : r = 0
    · subst hr
      have hunits (b : Bool) : units ⟨b, 0⟩ = 0 := by simp [units, significand]
      have hfinite (b : Bool) : isFinite ⟨b, 0⟩ = true := by simp [isFinite, infinityRank]
      have hnumber (b : Bool) : isNaN ⟨b, 0⟩ = false := by simp [isNaN, infinityRank]
      have hzero (b : Bool) : amount ⟨b, 0⟩ = .finite 0 := by
        unfold amount
        rw [hunits, hfinite, hnumber]
        generalize (unitsPerOne : ℚ) = k
        simp
      rw [hzero, hzero]
    · simp [hr]

theorem ofUnsigned?_sign (b : Bool) (cs : List Char) :
    ofUnsigned? b cs = (ofUnsigned? false cs).map fun n => ⟨b, n.rank⟩ := by
  unfold ofUnsigned?
  simp only [ofDecimal_sign b]
  split <;> split_ifs <;> simp [Function.comp_def]

def ofMagnitude? (negative : Bool) (cs : List Char) : Option Number :=
  let word := Text.asciiLower (String.ofList cs)
  if word = "inf" ∨ word = "infinity" then some ⟨negative, infinityRank⟩
  else if word = "nan" then some ⟨negative, nan.rank⟩
  else ofUnsigned? negative cs

theorem ofMagnitude?_sign (b : Bool) (cs : List Char) :
    ofMagnitude? b cs = (ofMagnitude? false cs).map fun n => ⟨b, n.rank⟩ := by
  unfold ofMagnitude?
  simp only [ofUnsigned?_sign b]
  split_ifs <;> rfl

theorem ofText?_eq_of_unsigned {s : String} (hs : ∀ c ∈ s.toList.head?, c ≠ '-' ∧ c ≠ '+') :
    ofText? s = ofMagnitude? false s.toList := by
  unfold ofText?
  split
  rename_i negative cs heq
  split at heq
  case h_1 cs' hcs => exact absurd rfl (hs '-' (by simp [hcs])).1
  case h_2 cs' hcs => exact absurd rfl (hs '+' (by simp [hcs])).2
  case h_3 =>
    obtain ⟨rfl, rfl⟩ := Prod.mk.inj heq
    rfl

/-- A sign before a text that has none. -/
theorem ofText?_signed (b : Bool) {s : String} (hs : ∀ c ∈ s.toList.head?, c ≠ '-' ∧ c ≠ '+') :
    ofText? ((if b then "-" else "+") ++ s) = (ofText? s).map fun n => ⟨b, n.rank⟩ := by
  rw [ofText?_eq_of_unsigned hs, ← ofMagnitude?_sign b]
  cases b <;> simp [ofText?, ofMagnitude?]

/-- A magnitude is read back from its text, which has neither a sign nor a blank in it. -/
theorem ofText?_plain_abs (n : Number) : ∃ m, ofText? n.abs.plain = some m ∧
    (∀ b, amount ⟨b, m.rank⟩ = amount ⟨b, n.rank⟩) ∧ (∀ c ∈ n.abs.plain.toList.head?, c ≠ '-' ∧ c ≠ '+') ∧
    ∀ c ∈ n.abs.plain.toList, c ≠ ' ' := by
  by_cases hfinite : n.abs.isFinite = true
  · obtain ⟨whole, fraction, hw⟩ := exists_written_plain hfinite rfl
    refine ⟨n.abs, hw.ofText?_eq hfinite rfl, fun b => rfl, ?_, ?_⟩
    · obtain ⟨c, cs, hcs, hc⟩ := hw.exists_digit
      rw [hcs]
      rintro _ ⟨⟩
      constructor <;> rintro rfl <;> simp at hc
    · rw [hw.text, numeral]
      rintro c hc rfl
      rcases List.mem_append.1 hc with hc | hc
      · simpa using hw.whole_digits _ hc
      · split at hc
        · simp at hc
        · rcases List.mem_cons.1 hc with hc | hc
          · simp at hc
          · simpa using hw.fraction_digits _ hc
  · have hwhole : n.abs.isWhole = false := by simp [isWhole, hfinite]
    by_cases hnan : n.abs.isNaN = true
    · have htext : n.abs.plain = "NaN" := by simp [plain, hwhole, display, hnan]
      have hleft (b : Bool) : isNaN ⟨b, nan.rank⟩ = true := by cases b <;> decide
      have hright (b : Bool) : isNaN ⟨b, n.rank⟩ = true := hnan
      rw [htext]
      exact ⟨⟨false, nan.rank⟩, by decide, fun b => by simp [amount, hleft, hright], by simp, by simp⟩
    · have hsign : n.abs.negative = false := rfl
      have htext : n.abs.plain = "inf" := by simp [plain, hwhole, display, hnan, hfinite, signed, hsign]
      have hrank : n.rank = infinityRank := by
        have hlow : ¬ n.rank < infinityRank := fun h => hfinite (decide_eq_true h)
        have hhigh : ¬ infinityRank < n.rank := fun h => hnan (decide_eq_true h)
        omega
      rw [htext, hrank]
      exact ⟨⟨false, infinityRank⟩, by decide, fun b => rfl, by simp, by simp⟩

end Number

namespace ShiftUnit

/-- A unit as a number of units of another, where it has one of fixed length. -/
def base : ShiftUnit → Nat × ShiftUnit
  | week => (7, day)
  | year => (12, month)
  | u => (1, u)

end ShiftUnit

namespace Sql

/-- The units that the date arithmetic of a dialect names. -/
def namesUnit (d : Dialect) (u : ShiftUnit) : Bool :=
  match d with
  | .sqlite => u ≠ .week
  | .oracle => u ∈ [.second, .minute, .hour, .day]
  | _ => true

def unitOf? (d : Dialect) (s : String) : Option ShiftUnit :=
  (ShiftUnit.ofName? s).filter (namesUnit d)

def splitQuantity (s : String) : String × String :=
  (String.ofList (s.toList.takeWhile (· ≠ ' ')), String.ofList (s.toList.dropWhile (· ≠ ' ')))

structure Shift where
  date : Term
  amount : Amount
  unit : ShiftUnit

/-- The same shift in days or months where the unit is a multiple of them. -/
def Shift.normal (s : Shift) : Shift := ⟨s.date, s.amount.times s.unit.base.1, s.unit.base.2⟩

namespace Term

def amount? : Term → Option Amount
  | .value (.number n) => some n.amount
  | .minus t => (amount? t).map Amount.neg
  | .binary .mul t (.word s) => do return (← amount? t).times (← numeral? s)
  | _ => none

def shift? (d : Dialect) (t : Term) : Option Shift :=
  match d, t with
  | .mysql, .group "DATE_ADD" [("", date), (",", .run [.word "INTERVAL", t, .word u])] => do
    return ⟨date, ← t.amount?, ← unitOf? d u⟩
  | .mysql, .group "DATE_SUB" [("", date), (",", .run [.word "INTERVAL", t, .word u])] => do
    return ⟨date, (← t.amount?).neg, ← unitOf? d u⟩
  | .mssql, .group "DATEADD" [("", .word u), (",", t), (",", date)] => do
    return ⟨date, ← t.amount?, ← unitOf? d u⟩
  | .postgres, .group "" [("", .binary .add (.group "CAST" [("", date), ("AS", .word "TIMESTAMP")])
      (.binary .mul t (.run [.word "INTERVAL", .text q])))] => do
    return ⟨date, (← t.amount?).times (← numeral? (splitQuantity q).1), ← unitOf? d (splitQuantity q).2⟩
  | .sqlite, .group "DATETIME" [("", date), (",", .value (.text q))] => do
    return ⟨date, (← Number.ofText? (splitQuantity q).1).amount, ← unitOf? d (splitQuantity q).2⟩
  | .oracle, .group "ADD_MONTHS" [("", date), (",", t)] => do
    return ⟨date, ← t.amount?, .month⟩
  | .oracle, .group "" [("", .binary .add date (.group "NUMTODSINTERVAL" [("", t), (",", .text u)]))] => do
    return ⟨date, ← t.amount?, ← unitOf? d u⟩
  | _, _ => none

section
variable (date t : Term) (s : String)

@[simp] theorem shift?_dateAdd :
    shift? .mysql (.group "DATE_ADD" [("", date), (",", .run [.word "INTERVAL", t, .word s])]) = (do
      return ⟨date, ← t.amount?, ← unitOf? .mysql s⟩) := rfl

@[simp] theorem shift?_dateSub :
    shift? .mysql (.group "DATE_SUB" [("", date), (",", .run [.word "INTERVAL", t, .word s])]) = (do
      return ⟨date, (← t.amount?).neg, ← unitOf? .mysql s⟩) := rfl

@[simp] theorem shift?_mssql : shift? .mssql (.group "DATEADD" [("", .word s), (",", t), (",", date)]) = (do
    return ⟨date, ← t.amount?, ← unitOf? .mssql s⟩) := rfl

@[simp] theorem shift?_interval :
    shift? .postgres (.group "" [("", .binary .add (.group "CAST" [("", date), ("AS", .word "TIMESTAMP")])
      (.binary .mul t (.run [.word "INTERVAL", .text s])))]) = (do
    return ⟨date, (← t.amount?).times (← numeral? (splitQuantity s).1), ← unitOf? .postgres (splitQuantity s).2⟩) := rfl

@[simp] theorem shift?_modifier : shift? .sqlite (.group "DATETIME" [("", date), (",", .value (.text s))]) = (do
    return ⟨date, (← Number.ofText? (splitQuantity s).1).amount, ← unitOf? .sqlite (splitQuantity s).2⟩) := rfl

@[simp] theorem shift?_addMonths : shift? .oracle (.group "ADD_MONTHS" [("", date), (",", t)]) = (do
    return ⟨date, ← t.amount?, .month⟩) := rfl

@[simp] theorem shift?_dayInterval :
    shift? .oracle (.group "" [("", .binary .add date (.group "NUMTODSINTERVAL" [("", t), (",", .text s)]))]) = (do
      return ⟨date, ← t.amount?, ← unitOf? .oracle s⟩) := rfl

end

end Term

/-- Operands side by side. -/
theorem ReadsAs.operands {is : List Item} (h : ∀ i ∈ is, i.kind = .operand) (hne : is ≠ []) :
    ReadsAs is (Item.termOf is) where
  nonempty := hne
  unseparated i hi := by simp [h i hi]
  tied := by
    have hsequence (run : List Item) (hrun : run ++ is ≠ []) :
        sequence Item.kind run is = some [.operand (run ++ is)] := by
      clear hne
      induction is generalizing run with
      | nil =>
        have hr : run.isEmpty = false := by simpa using hrun
        simp [sequence, hr]
      | cons i is ih =>
        rw [sequence_operand (h i List.mem_cons_self), ih (fun j hj => h j (List.mem_cons_of_mem i hj)) _ (by simp)]
        simp
    rw [hsequence [] (by simpa using hne)]
    simp [tie, scan, close]

/-- Parentheses around what is no one layout of an expression. -/
theorem Doc.Reads.parensOf {g : Doc} {ps : List (String × Term)} (h : Parted "" g.items ps) :
    (Doc.parens g).Reads (.group "" ps) where
  expr := rfl
  tied := by
    have ht := Item.term_group (n := "") h.partsOf
    simp [marks, beforeLast, lastRun, Doc.items, tie, scan, close, Item.termOf, Term.ofRun, ht]

section
variable {d : Dialect} {u : ShiftUnit} {v : Doc} {date : Term} {n : Number}

theorem unitOf?_keyword (h : namesUnit d u = true) : unitOf? d (u.keyword d) = some u := by
  revert h
  cases d <;> cases u <;> decide

theorem kind_shiftKeyword (u : ShiftUnit) (d : Dialect) : (Item.word (u.keyword d)).kind = .operand := by
  cases u <;> cases d <;> decide

theorem Doc.Reads.interval (hv : v.Reads date) (w : Word) (b : Binding) (u : ShiftUnit) (d : Dialect) :
    (Doc.interval w v (.value b) (shiftDoc u d)).Reads
      (.group w.text [("", date), (",", .run [.word "INTERVAL", .value b, .word (u.keyword d)])]) := by
  have hinterval : ReadsAs [.word "INTERVAL", .value b, .word (u.keyword d)] _ := .operands (by
    have hword : (Item.word "INTERVAL").kind = .operand := by decide
    have hvalue : (Item.value b).kind = .operand := rfl
    simp [hword, hvalue, kind_shiftKeyword]) (by simp)
  exact .call (.more (x := .comma) hv.items rfl (.one hinterval))

/-- A multiple of an interval, added to a date. -/
theorem Doc.Reads.addInterval (hv : v.Reads date) (b : Binding) (q : String) :
    (Doc.parens (.binary .add (.cast v (.keyword "TIMESTAMP")) (.binary .mul (.value b)
      (.spaced (.keyword "INTERVAL") (.text q))))).Reads
    (.group "" [("", .binary .add (.group "CAST" [("", date), ("AS", .word "TIMESTAMP")])
      (.binary .mul (.value b) (.run [.word "INTERVAL", .text q])))]) := by
  have hinside : Parted "" (v.items ++ Item.word "AS" :: [.word "TIMESTAMP"])
      [("", date), ("AS", .word "TIMESTAMP")] :=
    .more hv.items (by decide) (.one (.operands (by decide) (by simp)))
  have hcast := Item.term_group (n := "CAST") hinside.partsOf
  have hsum : ReadsAs [.group "CAST" (v.items ++ Item.word "AS" :: [.word "TIMESTAMP"]), .symbol "+", .value b,
      .symbol "*", .word "INTERVAL", .text q] (.binary .add (.group "CAST" [("", date), ("AS", .word "TIMESTAMP")])
        (.binary .mul (.value b) (.run [.word "INTERVAL", .text q]))) := by
    refine ⟨by simp, ?_, ?_⟩
    · simp only [List.forall_mem_cons]
      refine ⟨nofun, by decide, nofun, by decide, by decide, nofun, nofun⟩
    · rw [← hcast]
      rfl
  exact .parensOf (.one hsum)

end

theorem splitQuantity_append {s : String} (hs : ∀ c ∈ s.toList, c ≠ ' ') (t : String) :
    splitQuantity (s ++ " " ++ t) = (s, " " ++ t) := by
  have htake : (s.toList ++ ' ' :: t.toList).takeWhile (· ≠ ' ') = s.toList := by
    rw [List.takeWhile_append_of_pos (by simpa using hs)]
    simp
  have hdrop : (s.toList ++ ' ' :: t.toList).dropWhile (· ≠ ' ') = ' ' :: t.toList := by
    rw [List.dropWhile_append_of_pos (by simpa using hs)]
    simp
  have hlist : (s ++ " " ++ t).toList = s.toList ++ ' ' :: t.toList := by simp
  rw [splitQuantity, hlist, htake, hdrop, Prod.mk.injEq, ← String.toList_inj, ← String.toList_inj]
  simp

/-- The text of a modifier says the amount and the unit. -/
theorem exists_quantity_modifierText (u : ShiftUnit) (n : Number) :
    ∃ m, Number.ofText? (splitQuantity (modifierText u n)).1 = some m ∧
      m.amount = (if u = .week then n.mul (.ofNat 7) else n).amount ∧
      unitOf? .sqlite (splitQuantity (modifierText u n)).2 = some (if u = .week then .day else u) := by
  have hunit : unitOf? .sqlite (" " ++ u.keyword .sqlite) = some (if u = .week then .day else u) := by
    cases u <;> decide
  simp only [modifierText]
  generalize (if u = .week then n.mul (.ofNat 7) else n) = k
  obtain ⟨m, hm, hamount, hsign, hblank⟩ := k.ofText?_plain_abs
  have hsplit := splitQuantity_append (s := (if k.lt .zero then "-" else "+") ++ k.abs.plain) (by
    cases k.lt .zero <;> simpa using hblank) (u.keyword .sqlite)
  rw [hsplit]
  refine ⟨⟨k.lt .zero, m.rank⟩, ?_, ?_, hunit⟩
  · rw [Number.ofText?_signed _ hsign, hm]
    rfl
  · rw [hamount, Number.amount_signed]

/-- What a literal amount of a unit shifts a date by. SQLite has no weeks, so that seven times as many days are
written; the product is rounded to a number. -/
def literalShift (d : Dialect) (date : Term) (n : Number) (u : ShiftUnit) : Shift :=
  if d = .sqlite ∧ u = .week then ⟨date, (n.mul (.ofNat 7)).amount, .day⟩ else Shift.normal ⟨date, n.amount, u⟩

section
variable {d : Dialect} {args : List Operand} {v : Doc} {date : Term} {n : Number}
  (hv : v.Reads date) (hn : numberArg? args 1 = some n)

def Doc.Shifts (d : Dialect) (g : Doc) (s : Shift) : Prop :=
  ∃ t, g.Reads t ∧ (t.shift? d).map Shift.normal = some s

include hv hn

theorem shifts_mysql :
    (Doc.dateAdd .mysql args v (.value (.number n))).Shifts .mysql (literalShift .mysql date n (shiftUnit args)) := by
  have hunit := unitOf?_keyword (d := .mysql) (u := shiftUnit args) rfl
  cases hlt : n.lt .zero with
  | true =>
    simp only [Doc.dateAdd, negativeAmount?, hn, Option.bind_some, hlt, if_true]
    exact ⟨_, hv.interval _ _ _ _, by simp [Term.amount?, hunit, literalShift, Number.amount_neg]⟩
  | false =>
    simp only [Doc.dateAdd, negativeAmount?, hn, Option.bind_some, hlt, Bool.false_eq_true, if_false]
    exact ⟨_, hv.interval _ _ _ _, by simp [Term.amount?, hunit, literalShift]⟩

theorem shifts_mssql :
    (Doc.dateAdd .mssql args v (.value (.number n))).Shifts .mssql (literalShift .mssql date n (shiftUnit args)) := by
  have hunit := unitOf?_keyword (d := .mssql) (u := shiftUnit args) rfl
  have hkeyword : (shiftDoc (shiftUnit args) .mssql).Reads (.word ((shiftUnit args).keyword .mssql)) :=
    .word (kind_shiftKeyword (shiftUnit args) .mssql)
  have hcall {amount : Doc} {t : Term} (h : amount.Reads t) :
      (Doc.call (.of "DATEADD") (.listed (shiftDoc (shiftUnit args) .mssql) (.listed amount v))).Reads
        (.group "DATEADD" [("", .word ((shiftUnit args).keyword .mssql)), (",", t), (",", date)]) :=
    .call (.more (x := .comma) hkeyword.items rfl (.more (x := .comma) h.items rfl (.one hv.items)))
  cases hlt : n.lt .zero with
  | true =>
    simp only [Doc.dateAdd, negativeAmount?, hn, Option.bind_some, hlt, if_true]
    refine ⟨_, hcall (.minus (.value _) rfl), ?_⟩
    simp [Term.amount?, hunit, literalShift, Number.amount_neg]
  | false =>
    simp only [Doc.dateAdd, negativeAmount?, hn, Option.bind_some, hlt, Bool.false_eq_true, if_false]
    exact ⟨_, hcall (.value _), by simp [Term.amount?, hunit, literalShift]⟩

omit hn in
theorem shifts_postgres :
    (Doc.dateAdd .postgres args v (.value (.number n))).Shifts .postgres
      (literalShift .postgres date n (shiftUnit args)) := by
  have hquantity (u : ShiftUnit) : numeral? (splitQuantity ("1 " ++ u.keyword .postgres)).1 = some 1 ∧
      unitOf? .postgres (splitQuantity ("1 " ++ u.keyword .postgres)).2 = some u := by
    cases u <;> decide
  obtain ⟨hone, hunit⟩ := hquantity (shiftUnit args)
  exact ⟨_, hv.addInterval _ _, by simp [Term.amount?, hone, hunit, literalShift]⟩

theorem shifts_sqlite :
    (Doc.dateAdd .sqlite args v (.value (.number n))).Shifts .sqlite
      (literalShift .sqlite date n (shiftUnit args)) := by
  obtain ⟨m, hm, hamount, hunit⟩ := exists_quantity_modifierText (shiftUnit args) n
  simp only [Doc.dateAdd, hn]
  refine ⟨_, hv.callPair (.value _), ?_⟩
  have hshift : Term.shift? .sqlite (.group "DATETIME" [("", date),
      (",", .value (.text (modifierText (shiftUnit args) n)))]) =
        some ⟨date, m.amount, if shiftUnit args = .week then .day else shiftUnit args⟩ := by
    simp [hm, hunit]
  rw [Word.text_of, hshift, hamount]
  by_cases hweek : shiftUnit args = .week <;> simp [literalShift, hweek, Shift.normal, ShiftUnit.base]

omit hn in
theorem shifts_oracle (hvo : v.operators = []) :
    (Doc.dateAdd .oracle args v (.value (.number n))).Shifts .oracle
      (literalShift .oracle date n (shiftUnit args)) := by
  have hsum {amount : Doc} {t : Term} (h : amount.Reads t) (unit : String) :
      (Doc.parens (.binary .add v (.call (.of "NUMTODSINTERVAL") (.listed amount (.text unit))))).Reads
        (.group "" [("", .binary .add date (.group "NUMTODSINTERVAL" [("", t), (",", .text unit)]))]) :=
    (hv.binary (h.callPair (.text unit)) (by simp [hvo]) rfl).parens
  have htimes (k : String) (hk) (hword : (Item.word k).kind = .operand) :
      (Doc.binary .mul (.value (.number n)) (.keyword k hk)).Reads (.binary .mul (.value (.number n)) (.word k)) :=
    .binary (.value _) (.word hword) nofun rfl
  have hseven : numeral? "7" = some 7 := by decide
  have htwelve : numeral? "12" = some 12 := by decide
  cases hu : shiftUnit args
  all_goals simp only [Doc.dateAdd, hu]
  case month => exact ⟨_, hv.callPair (.value _), by simp [Term.amount?, literalShift]⟩
  case year =>
    refine ⟨_, hv.callPair (htimes "12" _ (by decide)), ?_⟩
    simp [Term.amount?, htwelve, literalShift, Shift.normal, ShiftUnit.base]
  case week =>
    have hday : unitOf? .oracle "DAY" = some .day := by decide
    refine ⟨_, hsum (htimes "7" _ (by decide)) _, ?_⟩
    simp [Term.amount?, hseven, hday, literalShift, Shift.normal, ShiftUnit.base]
  all_goals
    have hunit := unitOf?_keyword (d := .oracle) (u := shiftUnit args) (by rw [hu]; decide)
    rw [hu] at hunit
    exact ⟨_, hsum (.value _) _, by simp [Term.amount?, hunit, literalShift]⟩

theorem shifts_dateAdd (hvo : v.operators = []) (d : Dialect) :
    (Doc.dateAdd d args v (.value (.number n))).Shifts d (literalShift d date n (shiftUnit args)) := by
  cases d
  case mysql => exact shifts_mysql hv hn
  case postgres => exact shifts_postgres hv
  case mssql => exact shifts_mssql hv hn
  case sqlite => exact shifts_sqlite hv hn
  case oracle => exact shifts_oracle hv hvo

end

def shiftFrame (d : Dialect) (u : ShiftUnit) (n : Number) : Fragment × Fragment :=
  let amount : Fragment := .bind (.number n)
  match d with
  | .mysql =>
    if n.lt .zero then ("DATE_SUB(", ", INTERVAL " ++ .bind (.number n.neg) ++ (" " ++ u.keyword d ++ ")"))
    else ("DATE_ADD(", ", INTERVAL " ++ amount ++ (" " ++ u.keyword d ++ ")"))
  | .postgres => ("(CAST(", " AS TIMESTAMP) + " ++ amount ++ (" * INTERVAL '1 " ++ u.keyword d ++ "')"))
  | .mssql =>
    if n.lt .zero then (("DATEADD(" ++ u.keyword d ++ ", -") ++ .bind (.number n.neg) ++ ", ", ")")
    else (("DATEADD(" ++ u.keyword d ++ ", ") ++ amount ++ ", ", ")")
  | .sqlite => ("DATETIME(", ", " ++ .bind (.text (modifierText u n)) ++ ")")
  | .oracle =>
    match u with
    | .month => ("ADD_MONTHS(", ", " ++ amount ++ ")")
    | .year => ("ADD_MONTHS(", ", " ++ amount ++ " * 12)")
    | .week => ("(", " + NUMTODSINTERVAL(" ++ amount ++ " * 7, 'DAY'))")
    | u => ("(", " + NUMTODSINTERVAL(" ++ amount ++ (", '" ++ u.keyword d ++ "'))"))

section
variable {d : Dialect} {args : List Operand} {n : Number} (harg : (arg d args 1).result = .bind (.number n))
  (hgrouped : (groupedArg d args 1).result = .bind (.number n))
include harg hgrouped

theorem spells_dateAdd_literal {v : Doc} (hv : Spells d (shiftedDate d args).result v) :
    Spells d (dateAdd d args).result (.dateAdd d args v (.value (.number n))) := by
  refine .dateAdd hv fun _ => ?_
  unfold shiftAmount
  split
  · rw [harg]
    exact .bind _
  · rw [hgrouped]
    exact .bind _

theorem result_dateAdd_eq (hn : numberArg? args 1 = some n) : (dateAdd d args).result =
    (shiftFrame d (shiftUnit args) n).1 ++ (shiftedDate d args).result ++ (shiftFrame d (shiftUnit args) n).2 := by
  cases d
  case mysql | mssql =>
    cases hlt : n.lt .zero <;>
      simp [dateAdd, shiftFrame, shiftedDate, negativeAmount?, hn, hlt, harg, hgrouped, Fragment.append_assoc]
  case postgres =>
    have hraw (s t : String) (f : Fragment) : Fragment.raw s ++ (Fragment.raw t ++ f) = Fragment.raw (s ++ t) ++ f :=
      (Fragment.append_assoc _ _ _).symm
    simp [dateAdd, shiftFrame, shiftedDate, hgrouped, castTo, Fragment.append_assoc, hraw]
  case sqlite => simp [dateAdd, shiftFrame, shiftedDate, hn, Fragment.append_assoc]
  case oracle =>
    cases hu : shiftUnit args <;> simp [dateAdd, shiftFrame, shiftedDate, hu, hgrouped, Fragment.append_assoc]

end

end Sql

namespace Expr

open Sql

variable {e : Expr} {n : Number}

/-- A number under signs is canonical, and one value as an operand. -/
theorem operand_of_asNumber? (h : e.asNumber? = some n) (d : Dialect) (names : Naming) :
    e.operand d names = ⟨e, pure (.bind (.number n))⟩ := by
  suffices e.canonical = e ∧ write d names e = pure (.bind (.number n)) by rw [operand, this.1, this.2]
  induction e using Expr.induct generalizing n with
  | literal v =>
    cases v with
    | number m =>
      obtain rfl : m = n := by simpa [asNumber?] using h
      exact ⟨rfl, rfl⟩
    | _ => simp [asNumber?] at h
  | unary op e ih =>
    cases op with
    | minus =>
      obtain ⟨m, hm, rfl⟩ : ∃ m, e.asNumber? = some m ∧ m.neg = n := by simpa [asNumber?] using h
      exact ⟨by rw [canonical_unary, (ih hm).1], by simp [write, Sql.unary, hm]⟩
    | plus =>
      have hm : e.asNumber? = some n := by simpa [asNumber?] using h
      exact ⟨by rw [canonical_unary, (ih hm).1], by simpa [write, Sql.unary] using (ih hm).2⟩
    | _ => simp [asNumber?] at h
  | _ => simp [asNumber?] at h

theorem isOperation_of_asNumber? (h : e.asNumber? = some n) : isOperation e = false := by
  cases e with
  | unary op e =>
    cases op with
    | minus =>
      obtain ⟨m, hm, -⟩ : ∃ m, e.asNumber? = some m ∧ m.neg = n := by simpa [asNumber?] using h
      simp [isOperation, hm]
    | _ => rfl
  | binary op l r => simp [asNumber?] at h
  | _ => rfl

theorem value_of_asNumber? (h : e.asNumber? = some n) (d : Dialect) (names : Naming) :
    (e.operand d names).value d = pure (.bind (.number n)) := by
  rw [operand_of_asNumber? h]
  rfl

theorem grouped_of_asNumber? (h : e.asNumber? = some n) (d : Dialect) (names : Naming) :
    (e.operand d names).grouped d = pure (.bind (.number n)) := by
  rw [Operand.grouped, value_of_asNumber? h, operand_of_asNumber? h, isOperation_of_asNumber? h]
  rfl

/-- The unit that the arguments after an amount name, days where the first of them is no text that names one. -/
def namedUnit (more : List Expr) : ShiftUnit :=
  ((more.head?.bind fun e => e.canonical.asText?).bind ShiftUnit.ofName?).getD .day

theorem shiftUnit_operands (date offset : Expr) (more : List Expr) (d : Dialect) (names : Naming) :
    shiftUnit ((date :: offset :: more).map (operand d names)) = namedUnit more := by
  cases more <;> rfl

theorem sqlOf_dateAdd {name : String} (hname : Text.upper name = "DATEADD") (d : Dialect) (names : Naming)
    (es : List Expr) : sqlOf d names (.call (some name) es) = (Sql.dateAdd d (es.map (operand d names))).result := by
  have hbuiltin : Builtin.ofName? (Text.upper name) = some .dateAdd := by rw [hname]; decide
  rw [sqlOf, sql_operand_builtin hbuiltin (by decide) rfl]

theorem shiftedDate_column (d : Dialect) (names : Naming) (c : String) (more : List Operand) :
    (shiftedDate d ((column c).operand d names :: more)).result = columnText d names c := by
  have hvalue : asValue d (columnText d names c) = columnText d names c := by
    cases h : names.tableAlias <;> simp [asValue, columnText, h] <;> rfl
  unfold shiftedDate
  split
  · exact hvalue
  · exact hvalue

/-- A literal amount keeps its sign and its magnitude: it is one value as an operand, and around any date the SQL of
DATEADD shifts the date by the amount and the unit of the call. -/
theorem dateAdd_shifts_by_literal {name : String} (hname : Text.upper name = "DATEADD") {offset : Expr} {n : Number}
    (hn : offset.asNumber? = some n) (more : List Expr) (d : Dialect) (names : Naming) :
    (offset.operand d names).grouped d = pure (.bind (.number n)) ∧
    ∃ before after : Fragment,
      (∀ date : Expr, sqlOf d names (.call (some name) (date :: offset :: more)) =
        before ++ (shiftedDate d [date.operand d names]).result ++ after) ∧
      ∀ c : String, ∃ date, readTerm d (columnText d names c) = some date ∧
        ((readTerm d (before ++ columnText d names c ++ after)).bind (Term.shift? d)).map Shift.normal =
          some (literalShift d date n (namedUnit more)) := by
  let args (date : Expr) : List Operand := (date :: offset :: more).map (operand d names)
  have hnumber (date : Expr) : numberArg? (args date) 1 = some n := by
    simp [args, numberArg?, operand_of_asNumber? hn, hn]
  have harg (date : Expr) : (arg d (args date) 1).result = .bind (.number n) :=
    congrArg Noted.result (value_of_asNumber? hn d names)
  have hgrouped (date : Expr) : (groupedArg d (args date) 1).result = .bind (.number n) :=
    congrArg Noted.result (grouped_of_asNumber? hn d names)
  have hframe (date : Expr) : (Sql.dateAdd d (args date)).result = (shiftFrame d (namedUnit more) n).1 ++
      (shiftedDate d [date.operand d names]).result ++ (shiftFrame d (namedUnit more) n).2 := by
    rw [result_dateAdd_eq (harg date) (hgrouped date) (hnumber date), shiftUnit_operands]
    rfl
  refine ⟨grouped_of_asNumber? hn d names, _, _, fun date => (sqlOf_dateAdd hname d names _).trans (hframe date),
    fun c => ?_⟩
  have hcolumn : Spells d (columnText d names c) (.column names.tableAlias c) := .column names c
  have hreads := Doc.Reads.column names.tableAlias c
  refine ⟨_, hreads.readTerm hcolumn rfl, ?_⟩
  have hspells := spells_dateAdd_literal (harg (column c)) (hgrouped (column c))
    ((shiftedDate_column d names c _).symm ▸ hcolumn)
  have hcomment : (Doc.dateAdd d (args (column c)) (.column names.tableAlias c) (.value (.number n))).comment noSign =
      false := Doc.comment_dateAdd signsNegatives_noSign fun _ => rfl
  obtain ⟨t, ht, hshift⟩ := shifts_dateAdd hreads (hnumber (column c)) rfl d
  rw [hframe, shiftedDate_column] at hspells
  rw [ht.readTerm hspells hcomment, Option.bind_some, hshift, shiftUnit_operands]

/-- Two weeks back in Oracle, under two signs. -/
theorem dateAdd_shifts_by_literal_weeks :
    let n := Number.neg (.ofNat 2)
    let sql := sqlOf .oracle .default
      (.call (some "DateAdd") [column "due", unary .plus (unary .minus (number (.ofNat 2))), text "Weeks"])
    sql.text = "(\"due\" + NUMTODSINTERVAL(? * 7, 'DAY'))" ∧ sql.bindings = [.number n] ∧
      ((readTerm .oracle sql).bind (Term.shift? .oracle)).map Shift.normal =
        some ⟨.name "due", n.amount.times 7, .day⟩ := by
  intro n sql
  have hname : Text.upper "DateAdd" = "DATEADD" := by decide
  have hn : (unary .plus (unary .minus (number (.ofNat 2)))).asNumber? = some n := rfl
  obtain ⟨-, before, after, hframe, hshift⟩ := dateAdd_shifts_by_literal hname hn [text "Weeks"] .oracle .default
  obtain ⟨date, hdate, hs⟩ := hshift "due"
  have hname : some (Term.name "due") = some date :=
    ((Doc.Reads.column none "due").readTerm (.column .default "due") rfl).symm.trans hdate
  have hsql : sql = _ := hframe (column "due")
  rw [shiftedDate_column] at hsql
  have hweeks (m : Number) : literalShift .oracle (.name "due") m (namedUnit [text "Weeks"]) =
      ⟨.name "due", m.amount.times 7, .day⟩ := by
    have hunit : namedUnit [text "Weeks"] = .week := by decide
    rw [hunit]
    rfl
  rw [← hsql, ← Option.some.inj hname, hweeks] at hs
  exact ⟨by decide, by decide +kernel, hs⟩

end Expr

end SheetQuery
