import Mathlib.Data.List.TakeWhile
import SheetQuery.Proofs.Readback

/-! SQL with its values written in. A literal begins with a minus sign exactly if it is a number below zero,
and no other character in it could begin a comment. Writing the values in their places gives the text of
the layout with literals for placeholders. -/

namespace SheetQuery

namespace Number

def isNumeralChar (c : Char) : Bool := c.isDigit || c == '.'

theorem isKeyword_of_numeral {cs : List Char} (hne : cs ≠ []) (h : cs.all isNumeralChar = true) :
    Sql.isKeyword cs = true := by
  have hname : cs.all Sql.isNameChar = true := by
    rw [List.all_eq_true] at h ⊢
    intro c hc
    have hc' := h c hc
    simp only [isNumeralChar, Bool.or_eq_true, beq_iff_eq] at hc'
    rcases hc' with hd | rfl
    · simp [Sql.isNameChar, Char.isAlphanum, hd]
    · decide
  have hcase : cs ≠ ['C', 'A', 'S', 'E'] := by rintro rfl; revert h; decide
  have hend : cs ≠ ['E', 'N', 'D'] := by rintro rfl; revert h; decide
  simp [Sql.isKeyword, Sql.isName, hname, hne, hcase, hend]

theorem all_digitsText (n : Nat) : (digitsText n).all isNumeralChar = true := by
  rw [List.all_eq_true]
  intro c hc
  have hd : c.isDigit = true := Nat.isDigit_of_mem_toDigits (by decide) (by decide) hc
  simp [isNumeralChar, hd]

theorem isKeyword_digitsText (n : Nat) : Sql.isKeyword (digitsText n) = true :=
  isKeyword_of_numeral Nat.toDigits_ne_nil (all_digitsText n)

/-- Digits with at most one point among them. -/
theorem isKeyword_positional (d : Decimal) : Sql.isKeyword (positional d) = true := by
  have hne : digitsText d.digits ≠ [] := Nat.toDigits_ne_nil
  have hds := all_digitsText d.digits
  have hpoint : isNumeralChar '.' = true := by decide
  have hzero : isNumeralChar '0' = true := by decide
  have hzeros (k : Nat) : (List.replicate k '0').all isNumeralChar = true := by
    simp [List.all_replicate, hzero]
  simp only [positional]
  split
  · exact isKeyword_of_numeral (by simp [hne]) (by rw [List.all_append, hds, hzeros]; rfl)
  · split
    · generalize (digitsText d.digits).length - (-d.exponent).toNat = k
      have hcut := List.take_append_drop k (digitsText d.digits)
      rw [← hcut, List.all_append, Bool.and_eq_true] at hds
      refine isKeyword_of_numeral (by simp) ?_
      rw [List.all_append, List.all_cons, hds.1, hds.2, hpoint]
      rfl
    · refine isKeyword_of_numeral (by simp) ?_
      simp only [List.cons_append, List.all_cons, List.all_append, hds, hzeros, hpoint, hzero]
      rfl

theorem lt_zero (n : Number) : n.lt .zero = (!n.isNaN && n.negative && !n.isZero) := by
  obtain ⟨s, r⟩ := n
  have hz : isNaN zero = false := by decide
  have hkey : key zero = 0 := rfl
  rw [lt, hz, hkey]
  cases s with
  | false => simp [key]
  | true =>
    have hr : decide (0 < r) = !(r == 0) := by cases r <;> simp
    simp [key, isZero, hr]

theorem isWhole_of_isZero {n : Number} (h : n.isZero = true) : n.isWhole = true ∧ n.wholePart = 0 := by
  obtain ⟨s, r⟩ := n
  obtain rfl : r = 0 := by simpa [isZero] using h
  have hu : units ⟨s, 0⟩ = 0 := by simp [units, significand]
  have hf : isFinite ⟨s, 0⟩ = true := by simp [isFinite, infinityRank]
  simp [isWhole, wholePart, hu, hf]

/-- A number is written with a sign exactly if it is below zero. -/
theorem plain_signed (n : Number) : ∃ cs, n.plain.toList = signed (n.lt .zero) cs ∧ Sql.isKeyword cs = true := by
  rw [lt_zero]
  unfold plain
  split
  case isTrue h =>
    have hnan : n.isNaN = false := by
      simp only [isWhole, Bool.and_eq_true, isFinite, decide_eq_true_eq] at h
      simp only [isNaN, decide_eq_false_iff_not]
      omega
    exact ⟨digitsText n.wholePart, by simp [hnan], isKeyword_digitsText _⟩
  case isFalse h =>
    unfold display
    split
    case isTrue hnan => exact ⟨['N', 'a', 'N'], by simp [hnan, signed], by decide⟩
    case isFalse hnan =>
      have hzero : n.isZero = false := by
        rw [Bool.eq_false_iff]
        exact fun hz => h (by simp [isWhole_of_isZero hz])
      cases hf : n.isFinite with
      | false => exact ⟨['i', 'n', 'f'], by simp [hnan, hzero], by decide⟩
      | true => exact ⟨positional (n.shortest .up), by simp [hnan, hzero], isKeyword_positional _⟩

end Number

namespace Sql

def literalChars (d : Dialect) (v : Binding) : List Char := (v.literal d).toList

def isNegative : Binding → Bool
  | .number n => n.lt .zero
  | _ => false

/-- The layout of a literal. -/
theorem literal_laid_out (d : Dialect) (v : Binding) : ∃ g : Doc, g.chars d = literalChars d v ∧
    g.startsMinus noSign = isNegative v ∧ g.comment noSign = false ∧ g.chars d ≠ [] := by
  have hword (cs : List Char) (h : isKeyword cs = true) : ∃ g : Doc, g.chars d = cs ∧
      g.startsMinus noSign = false ∧ g.comment noSign = false ∧ g.chars d ≠ [] :=
    have hne : cs ≠ [] := (isWordChar_of_isName (isName_of_isKeyword h)).1
    ⟨.keyword (String.ofList cs) (by simpa using h), by simp, rfl, rfl, by simpa using hne⟩
  cases v with
  | text s => exact ⟨.text s, by simp [literalChars, Binding.literal], rfl, rfl, by simp⟩
  | boolean b =>
    obtain ⟨g, hg, hs, hc, hne⟩ := hword (literalChars d (.boolean b)) (by cases d <;> cases b <;> decide)
    exact ⟨g, hg, hs, hc, hne⟩
  | number n =>
    obtain ⟨cs, hcs, hk⟩ := n.plain_signed
    obtain ⟨g, hg, hs, hc, hne⟩ := hword cs hk
    have hchars : literalChars d (.number n) = Number.signed (n.lt .zero) cs := hcs
    rw [hchars]
    cases hn : n.lt .zero with
    | false => exact ⟨g, hg, by simp [hs, isNegative, hn], hc, hne⟩
    | true => exact ⟨.minus g, by simp [hg, Number.signed], by simp [isNegative, hn], by simp [hs, hc], by simp⟩

theorem tame_literal (d : Dialect) : Tame d (literalChars d) isNegative where
  nonempty v := by
    obtain ⟨g, hg, -, -, hne⟩ := literal_laid_out d v
    rwa [← hg]
  head_minus v hv := by
    obtain ⟨g, hg, hs, -, -⟩ := literal_laid_out d v
    have hm := head_charsWith_minus d (tame_placeholder d) (hs.trans hv) []
    rwa [List.append_nil, ← Doc.chars, hg] at hm
  head_other v hv := by
    obtain ⟨g, hg, hs, -, -⟩ := literal_laid_out d v
    have hm := head_charsWith d (tame_placeholder d) (hs.trans hv) Separated.nil
    rwa [List.append_nil, ← Doc.chars, hg] at hm
  comment v rest h := by
    obtain ⟨g, hg, -, hc, -⟩ := literal_laid_out d v
    have hm := hasComment_charsWith d (tame_placeholder d) g h
    rwa [← Doc.chars, hg, hc, Bool.false_or] at hm

section
variable {d : Dialect}

theorem push_append (w : String) (c : Char) (cs : List Char) :
    w.push c ++ String.ofList cs = w ++ String.ofList (c :: cs) :=
  String.toList_inj.1 (by simp)

/-- A character that neither opens a quote nor is replaced. -/
def isUnquoted (d : Dialect) (c : Char) : Bool := c ≠ '?' ∧ Fragment.closingQuote? d c = none

/-- Whether quotes around a name end where the name does: in SQL Server the first closing bracket in it ends
them, and nothing after that may open quotes or be replaced. -/
def isSealed (d : Dialect) (name : String) : Bool :=
  d != .mssql || (name.toList.dropWhile (· != ']')).all (isUnquoted .mssql)

theorem inlineStep_of_ne {c : Char} (h : c ≠ '?') (vs : List Binding) (w : String) :
    Fragment.inlineStep d ⟨none, vs, w⟩ c = ⟨Fragment.closingQuote? d c, vs, w.push c⟩ := by
  unfold Fragment.inlineStep
  split
  · simp_all
  · split
    · simp_all
    · rfl

theorem foldl_unquoted {cs : List Char} (h : ∀ c ∈ cs, isUnquoted d c = true) (vs : List Binding) (w : String) :
    cs.foldl (Fragment.inlineStep d) ⟨none, vs, w⟩ = ⟨none, vs, w ++ .ofList cs⟩ := by
  induction cs generalizing w with
  | nil => simp
  | cons c cs ih =>
    obtain ⟨hc, hq⟩ : c ≠ '?' ∧ Fragment.closingQuote? d c = none := by simpa [isUnquoted] using h c List.mem_cons_self
    rw [List.foldl_cons, inlineStep_of_ne hc, hq, ih fun x hx => h x (List.mem_cons_of_mem c hx), push_append]

/-- What stands in quotes is kept. A doubled quote closes and opens again, unless another character opens. -/
theorem foldl_inside {close : Char} {cs : List Char} (hne : close ≠ '?')
    (h : Fragment.closingQuote? d close = some close ∨ close ∉ cs) (vs : List Binding) (w : String) :
    (cs.flatMap fun c => if c = close then [close, close] else [c]).foldl (Fragment.inlineStep d)
        ⟨some close, vs, w⟩ =
      ⟨some close, vs, w ++ .ofList (cs.flatMap fun c => if c = close then [close, close] else [c])⟩ := by
  induction cs generalizing w with
  | nil => simp
  | cons c cs ih =>
    have hcs : Fragment.closingQuote? d close = some close ∨ close ∉ cs :=
      h.imp_right fun hn hm => hn (List.mem_cons_of_mem c hm)
    by_cases hc : c = close
    · have hself : Fragment.closingQuote? d close = some close := h.resolve_right fun hn => hn (by simp [hc])
      have hshut : Fragment.inlineStep d ⟨some close, vs, w⟩ close = ⟨none, vs, w.push close⟩ := by
        simp [Fragment.inlineStep]
      simp only [List.flatMap_cons, hc, if_true, List.cons_append, List.nil_append, List.foldl_cons]
      rw [hshut, inlineStep_of_ne hne, hself, ih hcs, push_append, push_append]
    · have hstay : Fragment.inlineStep d ⟨some close, vs, w⟩ c = ⟨some close, vs, w.push c⟩ := by
        simp [Fragment.inlineStep, hc]
      simp only [List.flatMap_cons, hc, if_false, List.cons_append, List.nil_append, List.foldl_cons]
      rw [hstay, ih hcs, push_append]

/-- From outside quotes to outside quotes, the characters `cs` become `out` and use up the values before
`vs'`. -/
def Inlines (d : Dialect) (cs : List Char) (vs vs' : List Binding) (out : List Char) : Prop :=
  ∀ w, cs.foldl (Fragment.inlineStep d) ⟨none, vs, w⟩ = ⟨none, vs', w ++ .ofList out⟩

namespace Inlines

variable {cs cs' out out' : List Char} {vs vs' vs'' : List Binding}

theorem append (h : Inlines d cs vs vs' out) (h' : Inlines d cs' vs' vs'' out') :
    Inlines d (cs ++ cs') vs vs'' (out ++ out') := by
  intro w
  rw [List.foldl_append, h w, h' (w ++ .ofList out), String.append_assoc, ← String.ofList_append]

theorem unquoted (h : ∀ c ∈ cs, isUnquoted d c = true) (vs : List Binding) : Inlines d cs vs vs cs :=
  foldl_unquoted h vs

theorem value (v : Binding) (vs : List Binding) : Inlines d ['?'] (v :: vs) vs (literalChars d v) := by
  intro w
  simp [Fragment.inlineStep, literalChars]

theorem quoted (o close : Char) (ho : o ≠ '?') (hclose : close ≠ '?')
    (hq : Fragment.closingQuote? d o = some close)
    (h : Fragment.closingQuote? d close = some close ∨ close ∉ cs) (vs : List Binding) :
    Inlines d (o :: (cs.flatMap fun c => if c = close then [close, close] else [c]) ++ [close]) vs vs
      (o :: (cs.flatMap fun c => if c = close then [close, close] else [c]) ++ [close]) := by
  intro w
  have hshut (w : String) : Fragment.inlineStep d ⟨some close, vs, w⟩ close = ⟨none, vs, w.push close⟩ := by
    simp [Fragment.inlineStep]
  simp only [List.foldl_append, List.foldl_cons, List.foldl_nil]
  rw [inlineStep_of_ne ho, hq, foldl_inside hclose h, hshut, push_append]
  refine congrArg (Fragment.InlineState.mk none vs) (String.toList_inj.1 ?_)
  simp

theorem text (s : String) (vs : List Binding) :
    Inlines d ((Doc.text s).chars d) vs vs ((Doc.text s).chars d) := by
  rw [Doc.chars_text, Text.replaceChar, String.toList_ofList]
  exact quoted '\'' '\'' (by decide) (by decide) rfl (.inl rfl) vs

/-- In brackets a doubled closing one reads as the end, so what follows it has to be of no account. -/
theorem bracketed {name : String} (h : isSealed .mssql name = true) (vs : List Binding) :
    Inlines .mssql (Dialect.mssql.quote name).toList vs vs (Dialect.mssql.quote name).toList := by
  have hsplit : name.toList.takeWhile (· != ']') ++ name.toList.dropWhile (· != ']') = name.toList :=
    List.takeWhile_append_dropWhile
  have hbefore : ']' ∉ name.toList.takeWhile (· != ']') := fun hm => by
    simpa using List.mem_takeWhile_imp hm
  have hquote : (Dialect.mssql.quote name).toList =
      '[' :: (name.toList.flatMap fun c => if c = ']' then [']', ']'] else [c]) ++ [']'] :=
    String.toList_ofList
  rw [hquote, ← hsplit, List.flatMap_append]
  simp only [isSealed, bne_self_eq_false, Bool.false_or, List.all_eq_true] at h
  generalize name.toList.takeWhile (· != ']') = before at hbefore ⊢
  cases hafter : name.toList.dropWhile (· != ']') with
  | nil =>
    rw [List.flatMap_nil, List.append_nil]
    exact quoted '[' ']' (by decide) (by decide) rfl (.inr hbefore) vs
  | cons c after =>
    rw [hafter] at h
    obtain rfl : c = ']' := by
      have hhead := List.head_dropWhile_not (· != ']') (l := name.toList) (by simp [hafter])
      simpa [hafter] using hhead
    -- the first closing bracket ends the quotes, and the rest is read outside them
    have hrest : ∀ c ∈ ']' :: (after.flatMap fun c => if c = ']' then [']', ']'] else [c]) ++ [']'],
        isUnquoted .mssql c = true := by
      intro c hc
      simp only [List.mem_append, List.mem_cons, List.mem_flatMap, List.not_mem_nil, or_false] at hc
      rcases hc with (rfl | ⟨x, hx, hc⟩) | rfl
      · decide
      · split at hc
        · obtain rfl : c = ']' := by simpa using hc
          decide
        · obtain rfl : c = x := by simpa using hc
          exact h c (List.mem_cons_of_mem _ hx)
      · decide
    have hhead := quoted (d := .mssql) '[' ']' (by decide) (by decide) rfl (.inr hbefore) vs
    have hall := hhead.append (unquoted hrest vs)
    simpa using hall

theorem quote {name : String} (h : isSealed d name = true) (vs : List Binding) :
    Inlines d (d.quote name).toList vs vs (d.quote name).toList := by
  cases d
  case mssql => exact bracketed h vs
  all_goals
    rw [Dialect.quote, String.toList_ofList]
    exact quoted _ _ (by decide) (by decide) rfl (.inl rfl) vs

theorem fixed (cs : List Char) (h : cs.all (isUnquoted d) = true) (vs : List Binding) : Inlines d cs vs vs cs :=
  unquoted (List.all_eq_true.1 h) vs

end Inlines

theorem isUnquoted_of_isWordChar {c : Char} (h : isWordChar c = true) : isUnquoted d c = true := by
  have hq : c ≠ '?' ∧ c ≠ '\'' ∧ c ≠ '"' ∧ c ≠ '\x60' ∧ c ≠ '[' := by
    refine ⟨?_, ?_, ?_, ?_, ?_⟩ <;> rintro rfl <;> revert h <;> decide
  simp [isUnquoted, Fragment.closingQuote?, hq]

/-- The names that a layout quotes. -/
def Doc.names : Doc → List String
  | column table name => table.toList ++ [name]
  | binary _ l r | spaced l r | listed l r => l.names ++ r.names
  | minus g | not g | parens g | call _ g | choice g => g.names
  | empty | word _ _ | value _ | text _ => []

theorem Inlines.word (x : Word) (vs : List Binding) : Inlines d x.text.toList vs vs x.text.toList :=
  unquoted (fun c hc => isUnquoted_of_isWordChar (x.plain c hc)) vs

/-- The values of a layout come to stand in their places. -/
theorem Inlines.chars {g : Doc} (hg : ∀ n ∈ g.names, isSealed d n = true) (vs : List Binding) :
    Inlines d (g.chars d) (g.values ++ vs) vs (g.charsWith d (literalChars d)) := by
  have hspace (vs : List Binding) : Inlines d [' '] vs vs [' '] := fixed _ (by cases d <;> decide) vs
  have hopen (vs : List Binding) : Inlines d ['('] vs vs ['('] := fixed _ (by cases d <;> decide) vs
  have hclose (vs : List Binding) : Inlines d [')'] vs vs [')'] := fixed _ (by cases d <;> decide) vs
  induction g generalizing vs with
  | empty => exact fun w => by simp [Doc.charsWith]
  | word x _ => exact word x vs
  | value v => exact value v vs
  | text s => exact text s vs
  | column table name =>
    cases table with
    | none => exact quote (hg name (by simp [Doc.names])) vs
    | some table =>
      have ht : Inlines d (d.quote table).toList vs vs (d.quote table).toList :=
        quote (hg table (by simp [Doc.names])) vs
      have hn : Inlines d (d.quote name).toList vs vs (d.quote name).toList :=
        quote (hg name (by simp [Doc.names])) vs
      exact ht.append ((fixed ['.'] (by cases d <;> decide) vs).append hn)
  | binary op l r ihl ihr =>
    have hop (vs : List Binding) : Inlines d (' ' :: op.text.toList ++ [' ']) vs vs (' ' :: op.text.toList ++ [' ']) :=
      fixed _ (by cases op <;> cases d <;> decide) vs
    have hl := ihl (fun n hn => hg n (by simp [Doc.names, hn])) (r.values ++ vs)
    have hr := ihr (fun n hn => hg n (by simp [Doc.names, hn])) vs
    simpa [Doc.charsWith] using (hl.append (hop _)).append hr
  | minus g ih => exact (fixed ['-'] (by cases d <;> decide) _).append (ih hg vs)
  | not g ih => exact (fixed ['N', 'O', 'T', ' '] (by cases d <;> decide) _).append (ih hg vs)
  | spaced l r ihl ihr =>
    have hl := ihl (fun n hn => hg n (by simp [Doc.names, hn])) (r.values ++ vs)
    have hr := ihr (fun n hn => hg n (by simp [Doc.names, hn])) vs
    simpa [Doc.charsWith] using (hl.append (hspace _)).append hr
  | listed l r ihl ihr =>
    have hl := ihl (fun n hn => hg n (by simp [Doc.names, hn])) (r.values ++ vs)
    have hr := ihr (fun n hn => hg n (by simp [Doc.names, hn])) vs
    have hcomma : Inlines d [',', ' '] (r.values ++ vs) (r.values ++ vs) [',', ' '] :=
      fixed _ (by cases d <;> decide) _
    simpa [Doc.charsWith] using (hl.append hcomma).append hr
  | parens g ih => exact ((hopen _).append (ih hg vs)).append (hclose vs)
  | call name g ih =>
    simpa [Doc.charsWith] using ((word name _).append ((hopen _).append (ih hg vs))).append (hclose vs)
  | choice g ih =>
    have hcase (vs : List Binding) : Inlines d ['C', 'A', 'S', 'E', ' '] vs vs ['C', 'A', 'S', 'E', ' '] :=
      fixed _ (by cases d <;> decide) vs
    have hend : Inlines d [' ', 'E', 'N', 'D'] vs vs [' ', 'E', 'N', 'D'] := fixed _ (by cases d <;> decide) vs
    exact ((hcase _).append (ih hg vs)).append hend

end

end Sql

end SheetQuery
