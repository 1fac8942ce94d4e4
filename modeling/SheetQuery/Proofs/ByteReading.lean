import SheetQuery.Proofs.FormulaTokens

/-! Formula text as bytes. A reader that stands at a byte offset looks at single bytes, takes slices of the text
and goes on by so many bytes. Such a slice exists only between boundaries of characters. The reader here gives no
answer if a slice does not exist or if it would stay where it is; it always answers, and with the same tokens and
errors as the reader of characters. -/

namespace SheetQuery

open Text (byteLength)

/-! ### Offsets -/

/-- The text from byte `i` on is `cs`. -/
def StandsAt (text : String) (i : Nat) (cs : List Char) : Prop :=
  ∃ pre, text.toList = pre ++ cs ∧ i = byteLength pre

section
variable {text : String} {i : Nat} {c : Char} {cs ds : List Char}

@[simp] theorem byteLength_nil : byteLength [] = 0 := rfl

@[simp] theorem byteLength_cons (c : Char) (cs : List Char) : byteLength (c :: cs) = c.utf8Size + byteLength cs := rfl

@[simp] theorem byteLength_append (cs ds : List Char) : byteLength (cs ++ ds) = byteLength cs + byteLength ds := by
  induction cs with
  | nil => simp
  | cons c cs ih => simp [ih, Nat.add_assoc]

theorem utf8ByteSize_ofList (cs : List Char) : (String.ofList cs).utf8ByteSize = byteLength cs := by
  induction cs with
  | nil => rfl
  | cons c cs ih => rw [← List.singleton_append, String.ofList_append, String.utf8ByteSize_append, ih]; simp

theorem byteLength_toList (text : String) : byteLength text.toList = text.utf8ByteSize := by
  rw [← utf8ByteSize_ofList, String.ofList_toList]

theorem byteLength_eq_zero : byteLength cs = 0 ↔ cs = [] := by
  cases cs with
  | nil => simp
  | cons c cs => simpa using fun h => absurd h (Nat.ne_of_gt c.utf8Size_pos)

theorem utf8Size_of_lt (h : c.toNat < 128) : c.utf8Size = 1 :=
  Char.utf8Size_eq_one_iff.2 (UInt32.le_iff_toNat_le.2 (Nat.le_of_lt_succ h))

/-- Characters of ASCII take a byte each. -/
theorem byteLength_ascii (h : ∀ c ∈ cs, c.toNat < 128) : byteLength cs = cs.length := by
  induction cs with
  | nil => rfl
  | cons c cs ih =>
    obtain ⟨hc, hcs⟩ := List.forall_mem_cons.1 h
    rw [byteLength_cons, utf8Size_of_lt hc, ih hcs, List.length_cons, Nat.add_comm]

theorem standsAt_zero (text : String) : StandsAt text 0 text.toList := ⟨[], rfl, rfl⟩

namespace StandsAt

theorem append (h : StandsAt text i (cs ++ ds)) : StandsAt text (i + byteLength cs) ds := by
  obtain ⟨pre, htext, rfl⟩ := h
  exact ⟨pre ++ cs, by rw [htext, List.append_assoc], (byteLength_append pre cs).symm⟩

theorem drop (h : StandsAt text i cs) (n : Nat) : StandsAt text (i + byteLength (cs.take n)) (cs.drop n) :=
  append (by rwa [List.take_append_drop])

theorem tail (h : StandsAt text i (c :: cs)) : StandsAt text (i + c.utf8Size) cs := h.drop 1

theorem size (h : StandsAt text i cs) : i + byteLength cs = text.utf8ByteSize := by
  obtain ⟨pre, htext, rfl⟩ := h
  rw [← byteLength_toList, htext, byteLength_append]

theorem lt_size (h : StandsAt text i (c :: cs)) : i < text.utf8ByteSize := by
  have hsize := h.size
  have hpos := c.utf8Size_pos
  rw [byteLength_cons] at hsize
  omega

theorem isValid (h : StandsAt text i cs) : (⟨i⟩ : String.Pos.Raw).IsValid text := by
  obtain ⟨pre, htext, rfl⟩ := h
  refine String.Pos.Raw.isValid_iff_exists_append.2 ⟨.ofList pre, .ofList cs, ?_, ?_⟩
  · rw [← String.ofList_append, ← htext, String.ofList_toList]
  · rw [String.rawEndPos, utf8ByteSize_ofList]

end StandsAt

end

namespace ByteReader

/-! ### Reading by bytes -/

def bytes (text : String) : List Char := text.toByteArray.data.toList.map Char.ofUInt8

/-- The text between two offsets, if they are in order and each lies on the boundary of a character. -/
def slice? (text : String) (i j : Nat) : Option (List Char) :=
  if h : (⟨i⟩ : String.Pos.Raw).IsValid text ∧ (⟨j⟩ : String.Pos.Raw).IsValid text ∧ i ≤ j then
    some (text.extract ⟨⟨i⟩, h.1⟩ ⟨⟨j⟩, h.2.1⟩).toList
  else none

def sliceFrom? (text : String) (i : Nat) : Option (List Char) := slice? text i text.utf8ByteSize

def pastDigits (text : String) (i : Nat) : Nat := i + (((bytes text).drop i).takeWhile Char.isDigit).length

def hasOneOf (text : String) (i : Nat) (cs : List Char) : Bool := (bytes text)[i]?.any cs.contains

def pastSign (text : String) (i : Nat) : Nat := if hasOneOf text i ['+', '-'] then i + 1 else i

/-- The offset behind the exponent at `i`. An exponent has digits. -/
def pastExponent (text : String) (i : Nat) : Nat :=
  if hasOneOf text i ['e', 'E'] then
    let j := pastSign text (i + 1)
    if j < pastDigits text j then pastDigits text j else i
  else i

def pastFraction (text : String) (i : Nat) : Nat := if hasOneOf text i ['.'] then pastDigits text (i + 1) else i

def pastNumeral (text : String) (i : Nat) : Nat := pastExponent text (pastFraction text (pastDigits text i))

/-- The content of a text up to its closing quote and the offset behind it; the characters stand at `i`. -/
def quoted? (quote : Char) (i : Nat) : List Char → Option (List Char × Nat)
  | [] => none
  | c :: cs =>
    if c = quote then some ([], i + c.utf8Size)
    else if c = '\\' then
      match cs with
      | [] => none
      | d :: ds => (quoted? quote (i + c.utf8Size + d.utf8Size) ds).map fun (t, j) => (Lexer.unescape d :: t, j)
    else (quoted? quote (i + c.utf8Size) cs).map fun (t, j) => (c :: t, j)

/-- What is found at an offset: a lexeme and the offset behind it, or a fault. Without a slice there is nothing. -/
abbrev Found := Option (Except ParseFault (Lexeme × Nat))

def textAt (text : String) (i : Nat) : Found :=
  (sliceFrom? text i).map fun rest =>
    match quoted? (rest.headD '?') (i + (rest.headD '?').utf8Size) rest.tail with
    | some (t, j) => .ok (.text (.ofList t), j)
    | none => .error .unterminatedText

def columnAt (text : String) (i : Nat) : Found :=
  (sliceFrom? text (i + 1)).bind fun rest =>
    let close := byteLength (rest.takeWhile (· ≠ '}'))
    if close < byteLength rest then
      (slice? text (i + 1) (i + 1 + close)).map fun name => .ok (.braced (.ofList name), i + close + 2)
    else some (.error .unterminatedColumn)

def numeralAt (text : String) (i : Nat) : Found :=
  (slice? text i (pastNumeral text i)).map fun numeral =>
    match Number.ofText? (.ofList numeral) with
    | some v => .ok (.number v, pastNumeral text i)
    | none => .error (.invalidNumber (.ofList numeral))

def nameAt (text : String) (i : Nat) : Found :=
  (sliceFrom? text i).bind fun rest =>
    let size := byteLength (rest.takeWhile Lexer.isNameChar)
    if size = 0 then some (.error (.unexpectedChar (rest.headD '?')))
    else (slice? text i (i + size)).map fun name => .ok (.name (.ofList name), i + size)

def operatorAt (text : String) (i : Nat) : Found :=
  (sliceFrom? text i).map fun rest =>
    match Lexer.operator? rest with
    | some (l, n) => .ok (l, i + (n + 1))
    | none => .error (.unexpectedChar (rest.headD '?'))

/-- What the byte `b` at an offset begins. Every byte outside ASCII may begin a name. -/
def lexemeAt (text : String) (i : Nat) (b : Char) : Found :=
  if b = '(' then some (.ok (.openParen, i + 1))
  else if b = ')' then some (.ok (.closeParen, i + 1))
  else if b = ',' then some (.ok (.comma, i + 1))
  else if b = '\'' ∨ b = '"' then textAt text i
  else if b = '{' then columnAt text i
  else if b.isDigit ∨ b = '.' then numeralAt text i
  else if b = '_' ∨ b = '$' ∨ b.isAlpha ∨ 128 ≤ b.toNat then nameAt text i
  else operatorAt text i

/-- The tokens from an offset on. -/
def tokens? (text : String) (i : Nat) : Option (Except ParseError (List Token)) :=
  if h : i < (bytes text).length then
    if Lexer.isSpace (bytes text)[i] then tokens? text (i + 1)
    else
      match lexemeAt text i (bytes text)[i] with
      | none => none
      | some (.error fault) => some (.error ⟨i, fault⟩)
      | some (.ok (l, j)) =>
        if i < j then (tokens? text j).map fun ts => ts.map (⟨l, i⟩ :: ·) else none
  else some (.ok [])
termination_by (bytes text).length - i

def scan? (text : String) : Option (Except ParseError TokenStream) :=
  (tokens? text 0).map fun ts => ts.map (⟨·, text.utf8ByteSize⟩)

/-! ### The bytes of a text -/

variable {text : String} {i n : Nat} {b c : Char} {cs ds : List Char}

def codes (c : Char) : List Char := (String.utf8EncodeChar c).map Char.ofUInt8

/-- What the first byte `b` of `c` tells: a character of ASCII is its own byte, and all others begin outside. -/
def Leads (b c : Char) : Prop := b = c ∧ c.toNat < 128 ∨ 128 ≤ b.toNat ∧ 128 ≤ c.toNat

theorem codes_ascii (h : c.toNat < 128) : codes c = [c] := by
  have hval : c.toNat % 256 = c.toNat := Nat.mod_eq_of_lt (by omega)
  rw [codes, String.utf8EncodeChar_eq_singleton (utf8Size_of_lt h), List.map_singleton, List.singleton_inj,
    Char.ext_iff, ← UInt32.toNat_inj]
  exact hval

theorem toNat_ofUInt8 (h : n < 256) : (Char.ofUInt8 (.ofNat n)).toNat = n := Nat.mod_eq_of_lt h

theorem exists_codes_of_le (h : 128 ≤ c.toNat) : ∃ b bs, codes c = b :: bs ∧ 128 ≤ b.toNat := by
  have hval : ¬ c.val.toNat ≤ 127 := Nat.not_le_of_lt h
  simp only [codes, String.utf8EncodeChar]
  split_ifs <;> refine ⟨_, _, List.map_cons, ?_⟩ <;> rw [toNat_ofUInt8] <;> omega

theorem exists_codes (c : Char) : ∃ b bs, codes c = b :: bs ∧ Leads b c := by
  by_cases h : c.toNat < 128
  · exact ⟨c, [], codes_ascii h, .inl ⟨rfl, h⟩⟩
  · obtain ⟨b, bs, hcodes, hb⟩ := exists_codes_of_le (Nat.le_of_not_lt h)
    exact ⟨b, bs, hcodes, .inr ⟨hb, Nat.le_of_not_lt h⟩⟩

theorem bytes_eq (text : String) : bytes text = text.toList.flatMap codes := by
  rw [bytes, ← String.utf8Encode_toList, List.utf8Encode, List.toList_data_toByteArray, List.map_flatMap]
  rfl

theorem length_codes (cs : List Char) : (cs.flatMap codes).length = byteLength cs := by
  induction cs with
  | nil => rfl
  | cons c cs ih => simp [codes, ih]

theorem length_bytes (text : String) : (bytes text).length = text.utf8ByteSize := by
  rw [bytes_eq, length_codes, byteLength_toList]

theorem drop_bytes (h : StandsAt text i cs) : (bytes text).drop i = cs.flatMap codes := by
  obtain ⟨pre, htext, rfl⟩ := h
  rw [bytes_eq, htext, List.flatMap_append, ← length_codes, List.drop_left]

theorem getElem?_bytes (h : StandsAt text i cs) : (bytes text)[i]? = (cs.flatMap codes).head? := by
  rw [← drop_bytes h, List.head?_drop]

theorem getElem?_bytes_cons (h : StandsAt text i (c :: cs)) : ∃ b, (bytes text)[i]? = some b ∧ Leads b c := by
  obtain ⟨b, bs, hcodes, hb⟩ := exists_codes c
  exact ⟨b, by simp [getElem?_bytes h, hcodes], hb⟩

/-! ### Slices -/

theorem size_utf8Encode (cs : List Char) : cs.utf8Encode.size = byteLength cs := by
  rw [← utf8ByteSize_ofList, ← String.toByteArray_ofList, String.size_toByteArray]

theorem slice?_eq (h : StandsAt text i (cs ++ ds)) : slice? text i (i + byteLength cs) = some cs := by
  rw [slice?, dif_pos ⟨h.isValid, h.append.isValid, Nat.le_add_right ..⟩]
  obtain ⟨pre, htext, rfl⟩ := h
  have hbytes := ByteArray.extract_append_size_add (a := pre.utf8Encode) (b := (cs ++ ds).utf8Encode) (i := 0)
    (j := byteLength cs)
  rw [← List.utf8Encode_append, ← htext, String.utf8Encode_toList, size_utf8Encode, Nat.add_zero,
    List.utf8Encode_append, ByteArray.extract_append_eq_left (size_utf8Encode cs).symm] at hbytes
  refine congrArg some (String.ofList_injective ?_)
  rw [String.ofList_toList, ← String.toByteArray_inj, String.toByteArray_extract, String.toByteArray_ofList]
  exact hbytes

theorem sliceFrom?_eq (h : StandsAt text i cs) : sliceFrom? text i = some cs := by
  rw [sliceFrom?, ← h.size]
  rw [← List.append_nil cs] at h
  exact slice?_eq h

/-! ### Lexemes -/

theorem isDigit_lt (h : c.isDigit = true) : c.toNat < 128 := by
  have hle := (Char.isDigit_iff_toNat.1 h).2
  simp at hle
  omega

/-- A property of characters of ASCII alone can be seen at the first byte. -/
theorem Leads.apply_eq (h : Leads b c) {p : Char → Bool} (hp : ∀ c, p c = true → c.toNat < 128) : p b = p c := by
  rcases h with ⟨rfl, -⟩ | ⟨hb, hc⟩
  · rfl
  · have hb' : ¬ p b = true := fun hpb => Nat.not_lt_of_le hb (hp b hpb)
    have hc' : ¬ p c = true := fun hpc => Nat.not_lt_of_le hc (hp c hpc)
    rw [Bool.eq_false_iff.2 hb', Bool.eq_false_iff.2 hc']

theorem length_takeWhile_codes (cs : List Char) :
    ((cs.flatMap codes).takeWhile Char.isDigit).length = (cs.takeWhile Char.isDigit).length := by
  induction cs with
  | nil => rfl
  | cons c cs ih =>
    cases hc : c.isDigit with
    | true => simp [codes_ascii (isDigit_lt hc), hc, ih]
    | false =>
      obtain ⟨b, bs, hcodes, hb⟩ := exists_codes c
      simp [hcodes, hb.apply_eq fun _ => isDigit_lt, hc]

theorem byteLength_take_digits (cs : List Char) :
    byteLength (cs.take (cs.takeWhile Char.isDigit).length) = (cs.takeWhile Char.isDigit).length := by
  rw [← List.prefix_iff_eq_take.1 (List.takeWhile_prefix _)]
  exact byteLength_ascii fun c hc => isDigit_lt (List.mem_takeWhile_imp hc)

theorem pastDigits_eq (h : StandsAt text i cs) :
    pastDigits text i = i + (cs.takeWhile Char.isDigit).length := by
  rw [pastDigits, drop_bytes h, length_takeWhile_codes]

theorem hasOneOf_eq (h : StandsAt text i cs) (hds : ds.all (·.toNat < 128) = true) :
    hasOneOf text i ds = cs.head?.any ds.contains := by
  cases cs with
  | nil => simp [hasOneOf, getElem?_bytes h]
  | cons c cs =>
    obtain ⟨b, hget, hb⟩ := getElem?_bytes_cons h
    rw [hasOneOf, hget, List.head?_cons, Option.any_some, Option.any_some]
    exact hb.apply_eq fun d hd => of_decide_eq_true (List.all_eq_true.1 hds d (List.contains_iff_mem.1 hd))

def signLength : List Char → Nat
  | c :: _ => if c = '+' ∨ c = '-' then 1 else 0
  | [] => 0

theorem pastSign_eq (h : StandsAt text i cs) : pastSign text i = i + byteLength (cs.take (signLength cs)) := by
  rw [pastSign, hasOneOf_eq h (by decide)]
  cases cs with
  | nil => rfl
  | cons c cs =>
    by_cases hc : c = '+' ∨ c = '-'
    · have hsize : c.utf8Size = 1 := by rcases hc with rfl | rfl <;> rfl
      simp [signLength, hc, hsize]
    · simp [signLength, hc]

theorem exponentLength_cons (hc : c = 'e' ∨ c = 'E') (cs : List Char) :
    Lexer.exponentLength (c :: cs) =
      if ((cs.drop (signLength cs)).takeWhile Char.isDigit).length = 0 then 0
      else 1 + signLength cs + ((cs.drop (signLength cs)).takeWhile Char.isDigit).length := by
  simp only [Lexer.exponentLength, if_pos hc]
  cases cs with
  | nil => rfl
  | cons d ds =>
    by_cases hd : d = '+' ∨ d = '-'
    · simp only [signLength, if_pos hd, List.drop_succ_cons, List.drop_zero]
      cases (ds.takeWhile Char.isDigit).length <;> rfl
    · simp only [signLength, if_neg hd, List.drop_zero]
      cases ((d :: ds).takeWhile Char.isDigit).length <;> rfl

theorem pastExponent_eq (h : StandsAt text i cs) :
    pastExponent text i = i + byteLength (cs.take (Lexer.exponentLength cs)) := by
  rw [pastExponent, hasOneOf_eq h (by decide)]
  cases cs with
  | nil => rfl
  | cons c cs =>
    by_cases hc : c = 'e' ∨ c = 'E'
    · have hsize : c.utf8Size = 1 := by rcases hc with rfl | rfl <;> rfl
      have hsign : StandsAt text (i + 1) cs := hsize ▸ h.tail
      rw [if_pos (by simpa using hc), pastSign_eq hsign, exponentLength_cons hc]
      simp only [pastDigits_eq (hsign.drop (signLength cs))]
      have htake := byteLength_take_digits (cs.drop (signLength cs))
      by_cases hzero : ((cs.drop (signLength cs)).takeWhile Char.isDigit).length = 0
      · rw [if_neg (by omega), if_pos hzero]
        rfl
      · rw [if_pos (by omega), if_neg hzero, Nat.add_assoc 1, Nat.add_comm 1, List.take_succ_cons, List.take_add,
          byteLength_cons, byteLength_append, htake, hsize]
        omega
    · rw [if_neg (by simpa using hc)]
      simp [Lexer.exponentLength, hc]

def fractionLength : List Char → Nat
  | '.' :: cs => 1 + (cs.takeWhile Char.isDigit).length
  | _ => 0

theorem pastFraction_eq (h : StandsAt text i cs) :
    pastFraction text i = i + byteLength (cs.take (fractionLength cs)) := by
  rw [pastFraction, hasOneOf_eq h (by decide)]
  fun_cases fractionLength cs with
  | case1 cs =>
    have hdigits : StandsAt text (i + 1) cs := h.tail
    rw [if_pos (by simp), pastDigits_eq hdigits, Nat.add_comm 1, List.take_succ_cons, byteLength_cons,
      byteLength_take_digits, Nat.add_assoc]
    rfl
  | case2 cs hcs =>
    have hpoint : ¬ cs.head?.any ['.'].contains = true := by
      cases cs with
      | nil => simp
      | cons c cs => simpa using fun hc : c = '.' => hcs cs (hc ▸ rfl)
    rw [if_neg hpoint]
    rfl

theorem numeralLength_eq (cs : List Char) :
    let rest := cs.drop (cs.takeWhile Char.isDigit).length
    Lexer.numeralLength cs = (cs.takeWhile Char.isDigit).length + fractionLength rest +
      Lexer.exponentLength (rest.drop (fractionLength rest)) := rfl

theorem pastNumeral_eq (h : StandsAt text i cs) :
    pastNumeral text i = i + byteLength (cs.take (Lexer.numeralLength cs)) := by
  have hdigits := h.drop (cs.takeWhile Char.isDigit).length
  have hfraction := hdigits.drop (fractionLength (cs.drop (cs.takeWhile Char.isDigit).length))
  rw [pastNumeral, pastDigits_eq h, ← byteLength_take_digits, pastFraction_eq hdigits, pastExponent_eq hfraction,
    numeralLength_eq, List.take_add, List.take_add, byteLength_append, byteLength_append, List.drop_drop]
  omega

/-! Each kind of lexeme, found at an offset, is the one that its characters begin. -/

def placed (i : Nat) (cs : List Char) : Except ParseFault (Lexeme × Nat) → Except ParseFault (Lexeme × Nat) :=
  Except.map fun (l, n) => (l, i + byteLength (cs.take (n + 1)))

theorem quoted?_eq (quote : Char) (i : Nat) (cs : List Char) :
    quoted? quote i cs = (Lexer.quoted quote cs).map fun (t, n) => (t, i + byteLength (cs.take n)) := by
  fun_induction Lexer.quoted quote cs generalizing i with
  | case1 => rfl
  | case2 cs => simp [quoted?.eq_def quote i (quote :: cs)]
  | case3 h => simp [quoted?, h]
  | case4 d ds h ih =>
    rw [quoted?, if_neg h, if_pos rfl, ih]
    simp [Option.map_map, Function.comp_def, Nat.add_assoc]
  | case5 c cs h h' ih =>
    rw [quoted?.eq_def]
    simp [h, h', ih, Option.map_map, Function.comp_def, Nat.add_assoc]

theorem textAt_eq (h : StandsAt text i (c :: cs)) :
    textAt text i = some (placed i (c :: cs) (match Lexer.quoted c cs with
      | some (t, n) => .ok (.text (.ofList t), n)
      | none => .error .unterminatedText)) := by
  rw [textAt, sliceFrom?_eq h, Option.map_some, List.headD_cons, List.tail_cons, quoted?_eq]
  cases Lexer.quoted c cs with
  | none => rfl
  | some r => simp [placed, Except.map, Nat.add_assoc]

theorem columnAt_eq (h : StandsAt text i ('{' :: cs)) :
    columnAt text i = some (placed i ('{' :: cs) (
      if (cs.takeWhile (· ≠ '}')).length < cs.length then
        .ok (.braced (.ofList (cs.takeWhile (· ≠ '}'))), (cs.takeWhile (· ≠ '}')).length + 1)
      else .error .unterminatedColumn)) := by
  have hrest : StandsAt text (i + 1) cs := h.tail
  rw [columnAt, sliceFrom?_eq hrest, Option.bind_some]
  dsimp only
  by_cases hmem : '}' ∈ cs
  · obtain ⟨name, rest, rfl, hclosed⟩ := List.eq_append_cons_of_mem hmem
    have hname : (name ++ '}' :: rest).takeWhile (· ≠ '}') = name := by
      rw [List.takeWhile_append_of_pos]
      · simp
      · intro d hd
        simpa using ne_of_mem_of_not_mem hd hclosed
    have hclose : byteLength ['}'] = 1 := rfl
    have hopen : '{'.utf8Size = 1 := rfl
    have hlt : byteLength name < byteLength (name ++ ['}'] ++ rest) := by
      rw [byteLength_append, byteLength_append]
      omega
    have hend : i + byteLength name + 2 =
        i + byteLength (('{' :: (name ++ '}' :: rest)).take (name.length + 1 + 1)) := by
      have htake : (name ++ '}' :: rest).take (name.length + 1) = name ++ ['}'] := by
        rw [List.append_cons, List.take_left' (by simp)]
      rw [List.take_succ_cons, htake, byteLength_cons, byteLength_append]
      omega
    rw [hname, if_pos (by simpa using hlt), if_pos (by simp), slice?_eq hrest, hend]
    rfl
  · have hname : cs.takeWhile (· ≠ '}') = cs :=
      List.takeWhile_eq_self_iff.2 fun d hd => by simpa using ne_of_mem_of_not_mem hd hmem
    rw [hname, if_neg (Nat.lt_irrefl _), if_neg (Nat.lt_irrefl _)]
    rfl

theorem numeralLength_pos (hc : c.isDigit = true ∨ c = '.') (cs : List Char) :
    0 < Lexer.numeralLength (c :: cs) := by
  rw [numeralLength_eq]
  rcases hc with hc | rfl
  · rw [List.takeWhile_cons_of_pos hc, List.length_cons]
    omega
  · have hdigits : ('.' :: cs).takeWhile Char.isDigit = [] := List.takeWhile_cons_of_neg (by decide)
    have hfraction : 0 < fractionLength ('.' :: cs) := by
      rw [fractionLength]
      omega
    rw [hdigits]
    exact Nat.add_pos_left (Nat.add_pos_right _ hfraction) _

theorem numeralAt_eq (h : StandsAt text i (c :: cs)) (hc : c.isDigit = true ∨ c = '.') :
    numeralAt text i = some (placed i (c :: cs)
      ((Number.ofText? (.ofList ((c :: cs).take (Lexer.numeralLength (c :: cs))))).elim
        (.error (.invalidNumber (.ofList ((c :: cs).take (Lexer.numeralLength (c :: cs))))))
        fun v => .ok (.number v, Lexer.numeralLength (c :: cs) - 1))) := by
  have hslice : slice? text i (pastNumeral text i) = some ((c :: cs).take (Lexer.numeralLength (c :: cs))) := by
    rw [pastNumeral_eq h]
    exact slice?_eq (by rwa [List.take_append_drop])
  rw [numeralAt, hslice, Option.map_some]
  cases Number.ofText? (.ofList ((c :: cs).take (Lexer.numeralLength (c :: cs)))) with
  | none => rfl
  | some v =>
    simp only [placed, Except.map, Option.elim, pastNumeral_eq h, Nat.sub_add_cancel (numeralLength_pos hc cs)]

theorem nameAt_eq (h : StandsAt text i (c :: cs)) (hc : Lexer.isNameChar c = true) :
    nameAt text i = some (placed i (c :: cs)
      (.ok (.name (.ofList (c :: cs.takeWhile Lexer.isNameChar)), (cs.takeWhile Lexer.isNameChar).length))) := by
  have htake : (c :: cs).take ((cs.takeWhile Lexer.isNameChar).length + 1) = (c :: cs).takeWhile Lexer.isNameChar := by
    rw [← List.length_cons, ← List.takeWhile_cons_of_pos hc]
    exact (List.prefix_iff_eq_take.1 (List.takeWhile_prefix _)).symm
  have hslice : slice? text i (i + byteLength ((c :: cs).takeWhile Lexer.isNameChar)) =
      some ((c :: cs).takeWhile Lexer.isNameChar) := by
    rw [← List.takeWhile_append_dropWhile (p := Lexer.isNameChar) (l := c :: cs)] at h
    exact slice?_eq h
  have hsize : byteLength ((c :: cs).takeWhile Lexer.isNameChar) ≠ 0 := by
    rw [Ne, byteLength_eq_zero, List.takeWhile_cons_of_pos hc]
    exact List.cons_ne_nil _ _
  rw [nameAt, sliceFrom?_eq h, Option.bind_some]
  dsimp only
  rw [if_neg hsize, hslice, Option.map_some, ← List.takeWhile_cons_of_pos hc]
  simp only [placed, Except.map, htake]

theorem nameAt_eq_error (h : StandsAt text i (c :: cs)) (hc : Lexer.isNameChar c = false) :
    nameAt text i = some (.error (.unexpectedChar c)) := by
  rw [nameAt, sliceFrom?_eq h, Option.bind_some]
  dsimp only
  rw [List.takeWhile_cons_of_neg (by simp [hc]), if_pos byteLength_nil, List.headD_cons]

theorem operator?_ascii {l : Lexeme} (h : Lexer.operator? cs = some (l, n)) :
    byteLength (cs.take (n + 1)) = n + 1 ∧ ∀ c ∈ cs.head?, c.toNat < 128 := by
  unfold Lexer.operator? at h
  split at h <;> cases h <;> exact ⟨rfl, by simp⟩

theorem operatorAt_eq (h : StandsAt text i (c :: cs)) :
    operatorAt text i = some (placed i (c :: cs) (match Lexer.operator? (c :: cs) with
      | some r => .ok r
      | none => .error (.unexpectedChar c))) := by
  rw [operatorAt, sliceFrom?_eq h, Option.map_some, List.headD_cons]
  cases hop : Lexer.operator? (c :: cs) with
  | none => rfl
  | some r => simp only [placed, Except.map, (operator?_ascii hop).1]

theorem isNameChar_ascii (hc : c.toNat < 128) (hdigit : ¬ c.isDigit = true) :
    Lexer.isNameChar c = true ↔ c = '_' ∨ c = '$' ∨ c.isAlpha = true ∨ 128 ≤ c.toNat := by
  simp only [Lexer.isNameChar, Text.isLetterOrNumeral, Text.isLetter, Text.isNumeral, if_pos hc, Bool.or_eq_true,
    beq_iff_eq, hdigit, Bool.false_eq_true, or_false, Nat.not_le_of_lt hc]
  rw [or_assoc, or_comm, or_assoc]

theorem lexemeAt_ascii (h : StandsAt text i (c :: cs)) (hc : c.toNat < 128) :
    lexemeAt text i c = some (placed i (c :: cs) (Lexer.lexeme c cs)) := by
  have hone (l : Lexeme) : some (.ok (l, i + 1)) = some (placed i (c :: cs) (.ok (l, 0))) := by
    simp [placed, Except.map, utf8Size_of_lt hc]
  rw [lexemeAt, Lexer.lexeme]
  by_cases h₁ : c = '('
  · rw [if_pos h₁, if_pos h₁, hone]
  by_cases h₂ : c = ')'
  · rw [if_neg h₁, if_neg h₁, if_pos h₂, if_pos h₂, hone]
  by_cases h₃ : c = ','
  · rw [if_neg h₁, if_neg h₁, if_neg h₂, if_neg h₂, if_pos h₃, if_pos h₃, hone]
  rw [if_neg h₁, if_neg h₁, if_neg h₂, if_neg h₂, if_neg h₃, if_neg h₃]
  by_cases htext : c = '\'' ∨ c = '"'
  · rw [if_pos htext, if_pos htext]
    exact textAt_eq h
  rw [if_neg htext, if_neg htext]
  by_cases hbrace : c = '{'
  · rw [if_pos hbrace, if_pos hbrace]
    subst hbrace
    exact columnAt_eq h
  rw [if_neg hbrace, if_neg hbrace]
  by_cases hnumeral : c.isDigit = true ∨ c = '.'
  · rw [if_pos hnumeral, if_pos hnumeral]
    rw [numeralAt_eq h hnumeral]
    dsimp only
    cases Number.ofText? (.ofList ((c :: cs).take (Lexer.numeralLength (c :: cs)))) <;> rfl
  rw [if_neg hnumeral, if_neg hnumeral]
  have hname := isNameChar_ascii hc fun hd => hnumeral (.inl hd)
  by_cases hc' : Lexer.isNameChar c = true
  · rw [if_pos (hname.1 hc'), if_pos hc']
    exact nameAt_eq h hc'
  · rw [if_neg fun hn => hc' (hname.2 hn), if_neg hc']
    exact operatorAt_eq h

theorem ne_of_beyond {d : Char} (hc : 128 ≤ c.toNat) (hd : d.toNat < 128) : c ≠ d := by
  rintro rfl
  omega

theorem lexemeAt_beyond (h : StandsAt text i (c :: cs)) (hb : 128 ≤ b.toNat) (hc : 128 ≤ c.toNat) :
    lexemeAt text i b = some (placed i (c :: cs) (Lexer.lexeme c cs)) := by
  have hleft : lexemeAt text i b = nameAt text i := by
    have hdigit : b.isDigit ≠ true := fun hd => Nat.not_lt_of_le hb (isDigit_lt hd)
    have hne (d : Char) (hd : d.toNat < 128) : b ≠ d := ne_of_beyond hb hd
    simp [lexemeAt, hb, hdigit, hne]
  have hright : Lexer.lexeme c cs = if Lexer.isNameChar c then
      .ok (.name (.ofList (c :: cs.takeWhile Lexer.isNameChar)), (cs.takeWhile Lexer.isNameChar).length)
      else .error (.unexpectedChar c) := by
    have hdigit : c.isDigit ≠ true := fun hd => Nat.not_lt_of_le hc (isDigit_lt hd)
    have hne (d : Char) (hd : d.toNat < 128) : c ≠ d := ne_of_beyond hc hd
    have hop : Lexer.operator? (c :: cs) = none := by
      refine Option.eq_none_iff_forall_ne_some.2 fun r hr => ?_
      exact Nat.not_lt_of_le hc ((operator?_ascii hr).2 c rfl)
    simp [Lexer.lexeme, hdigit, hne, hop]
  rw [hleft, hright]
  by_cases hname : Lexer.isNameChar c = true
  · rw [if_pos hname, nameAt_eq h hname]
  · rw [if_neg hname, nameAt_eq_error h (by simpa using hname)]
    rfl

theorem lexemeAt_eq (h : StandsAt text i (c :: cs)) (hb : Leads b c) :
    lexemeAt text i b = some (placed i (c :: cs) (Lexer.lexeme c cs)) := by
  rcases hb with ⟨rfl, hc⟩ | ⟨hb, hc⟩
  · exact lexemeAt_ascii h hc
  · exact lexemeAt_beyond h hb hc

theorem tokens_skip (i n : Nat) (cs : List Char) :
    Lexer.tokens i n cs = Lexer.tokens (i + byteLength (cs.take n)) 0 (cs.drop n) := by
  induction cs generalizing i n with
  | nil => cases n <;> rfl
  | cons c cs ih =>
    cases n with
    | zero => rfl
    | succ n =>
      rw [Lexer.tokens, ih]
      simp [Nat.add_assoc]

theorem isSpace_lt (h : Lexer.isSpace c = true) : c.toNat < 128 := by
  simp only [Lexer.isSpace, Bool.or_eq_true, beq_iff_eq] at h
  rcases h with (((rfl | rfl) | rfl) | rfl) | rfl <;> decide

theorem tokens?_eq (h : StandsAt text i cs) : tokens? text i = some (Lexer.tokens i 0 cs) := by
  -- a lexeme takes several characters at once, so the induction is on how many are left
  induction hn : cs.length using Nat.strong_induction_on generalizing i cs with
  | _ n ih =>
    subst hn
    cases cs with
    | nil =>
      rw [tokens?, dif_neg]
      · rfl
      · rw [length_bytes, ← h.size]
        exact Nat.lt_irrefl i
    | cons c cs =>
      obtain ⟨b, hget, hb⟩ := getElem?_bytes_cons h
      obtain ⟨hlt, hget⟩ := List.getElem?_eq_some_iff.1 hget
      rw [tokens?, dif_pos hlt, hget, lexemeAt_eq h hb, Lexer.tokens, hb.apply_eq fun _ => isSpace_lt]
      cases hspace : Lexer.isSpace c with
      | true =>
        have hsize := utf8Size_of_lt (isSpace_lt hspace)
        have htail : StandsAt text (i + 1) cs := hsize ▸ h.tail
        rw [if_pos rfl, if_pos rfl, ih _ (Nat.lt_succ_self _) htail rfl, hsize]
      | false =>
        rw [if_neg Bool.false_ne_true, if_neg Bool.false_ne_true]
        cases Lexer.lexeme c cs with
        | error fault => rfl
        | ok r =>
          obtain ⟨l, n⟩ := r
          have hrest := h.drop (n + 1)
          have hnext : i < i + byteLength ((c :: cs).take (n + 1)) := by
            have hpos := c.utf8Size_pos
            rw [List.take_succ_cons, byteLength_cons]
            omega
          have hlength : ((c :: cs).drop (n + 1)).length < (c :: cs).length := by
            simp only [List.length_drop, List.length_cons]
            omega
          simp only [placed, Except.map, if_pos hnext, ih _ hlength hrest rfl, Option.map_some]
          rw [tokens_skip (i + c.utf8Size) n cs, List.take_succ_cons, byteLength_cons, List.drop_succ_cons,
            Nat.add_assoc]
          cases Lexer.tokens (i + (c.utf8Size + byteLength (cs.take n))) 0 (cs.drop n) <;> rfl

theorem scan?_eq (text : String) : scan? text = some (Lexer.scan text) := by
  rw [scan?, tokens?_eq (standsAt_zero text), Lexer.scan, byteLength_toList]
  cases Lexer.tokens 0 0 text.toList <;> rfl

end ByteReader

end SheetQuery
