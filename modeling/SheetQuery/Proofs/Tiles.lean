import Mathlib.Data.List.Chain
import SheetQuery.Proofs.Weaving

/-! SQL as a row of tiles: characters outside quotes, texts, and columns. No two tiles with quotes meet and none
follows on a word, so a row is read back tile by tile. A row can be laid again with other columns in place of its own;
the fragments that are laid so from one row stand in a relation that fixed text keeps. -/

namespace SheetQuery.Sql

inductive Tile
  | bare (c : Char)
  | text (s : String)
  | column (name : String)

namespace Tile

def chars (d : Dialect) (names : Naming) (ρ : String → String) : Tile → List Char
  | bare c => [c]
  | text s => '\'' :: (doubling '\'' s.toList ++ ['\''])
  | column name => (columnText d names (ρ name)).text.toList

/-- What is read where a tile is laid: for a column its name, behind the name of its table if it has one. -/
def lexemes (names : Naming) (ρ : String → String) : Tile → List Lexeme
  | bare c => [.bare c]
  | text s => [.text s]
  | column name =>
    match names.tableAlias with
    | some table => [.name table, .bare '.', .name (ρ name)]
    | none => [.name (ρ name)]

def mayPrecede : Tile → Tile → Bool
  | bare c, bare c' => !(c == '/' && c' == '*')
  | bare c, _ => separates c
  | _, bare _ => true
  | _, _ => false

/-- A tile that a dialect reads as it is meant, with a column that `P` holds of. -/
def Fits (d : Dialect) (P : String → Prop) : Tile → Prop
  | bare c => isBare d c = true
  | text s => d = .mysql → '\\' ∉ s.toList
  | column name => P name

def first (d : Dialect) : Tile → Char
  | bare c => c
  | text _ => '\''
  | column _ => d.quotes.1

variable {d : Dialect} {names : Naming} {ρ : String → String} {P Q : String → Prop} {t u : Tile}

theorem Fits.mono (hPQ : ∀ n, P n → Q n) (h : t.Fits d P) : t.Fits d Q := by
  cases t with
  | column n => exact hPQ n h
  | _ => exact h

theorem toList_quote (d : Dialect) (s : String) :
    (d.quote s).toList = d.quotes.1 :: (doubling d.quotes.2 s.toList ++ [d.quotes.2]) := by
  simp [Dialect.quote, doubling]

theorem head?_chars (t : Tile) (cs : List Char) : (t.chars d names ρ ++ cs).head? = some (t.first d) := by
  cases t with
  | column n => cases h : names.tableAlias <;> simp [chars, first, columnText, h, Fragment.raw, toList_quote]
  | _ => rfl

/-- Behind a tile with quotes comes a character of its own. -/
theorem exists_bare_of_mayPrecede (h : t.mayPrecede u = true) (ht : ∀ c, t ≠ bare c) : ∃ c, u = bare c := by
  cases t with
  | bare c => exact absurd rfl (ht c)
  | _ =>
    cases u with
    | bare c => exact ⟨c, rfl⟩
    | _ => exact absurd h (by simp [mayPrecede])

end Tile

def rowChars (d : Dialect) (names : Naming) (ρ : String → String) (ts : List Tile) : List Char :=
  ts.flatMap (Tile.chars d names ρ)

def rowLexemes (names : Naming) (ρ : String → String) (ts : List Tile) : List Lexeme :=
  ts.flatMap (Tile.lexemes names ρ)

structure IsRow (d : Dialect) (P : String → Prop) (ts : List Tile) : Prop where
  fits : ∀ t ∈ ts, t.Fits d P
  chain : ts.IsChain (Tile.mayPrecede · · = true)

section
variable {d : Dialect} {names : Naming} {ρ : String → String} {P Q : String → Prop} {t : Tile} {ts us : List Tile}
  {b : Char} {rest : List Char} {ls : List Lexeme}

namespace IsRow

theorem append (h : IsRow d P ts) (h' : IsRow d P us)
    (hseam : ∀ t ∈ ts.getLast?, ∀ u ∈ us.head?, Tile.mayPrecede t u = true) : IsRow d P (ts ++ us) :=
  ⟨List.forall_mem_append.2 ⟨h.fits, h'.fits⟩, h.chain.append h'.chain hseam⟩

theorem tail (h : IsRow d P (t :: ts)) : IsRow d P ts :=
  ⟨fun u hu => h.fits u (List.mem_cons_of_mem _ hu), h.chain.tail⟩

end IsRow

/-- What may stand behind a row: nothing, or characters that begin with one that goes with every tile. -/
def GoesBehind (d : Dialect) (rest : List Char) : Prop := ∀ c ∈ rest.head?, isBare d c = true ∧ c ≠ '*'

theorem ne_close_of_isBare {c : Char} (h : isBare d c = true) : c ≠ '\'' ∧ c ≠ d.quotes.2 := by
  constructor <;> rintro rfl <;> revert h <;> cases d <;> decide

namespace IsRow

/-- The character behind the first tile. -/
theorem head?_tail (h : IsRow d P (t :: ts)) (hr : GoesBehind d rest) {c : Char}
    (hc : c ∈ (rowChars d names ρ ts ++ rest).head?) :
    (∃ u ∈ ts.head?, c = u.first d ∧ t.mayPrecede u = true ∧ u.Fits d P) ∨ isBare d c = true ∧ c ≠ '*' := by
  cases ts with
  | nil => exact .inr (hr c hc)
  | cons u ts =>
    rw [rowChars, List.flatMap_cons, List.append_assoc, Tile.head?_chars, Option.mem_some_iff] at hc
    exact .inl ⟨u, rfl, hc.symm, (List.isChain_cons_cons.1 h.chain).1, h.fits u (by simp)⟩

theorem ne_close (h : IsRow d P (t :: ts)) (hr : GoesBehind d rest) (ht : ∀ c, t ≠ Tile.bare c) (names : Naming)
    (ρ : String → String) {close : Char} (hclose : close = '\'' ∨ close = d.quotes.2) :
    (rowChars d names ρ ts ++ rest).head? ≠ some close := by
  intro hc
  have hbare : isBare d close = true := by
    rcases h.head?_tail hr hc with ⟨u, -, rfl, hu, hfit⟩ | ⟨hbare, -⟩
    · obtain ⟨c, rfl⟩ := Tile.exists_bare_of_mayPrecede hu ht
      exact hfit
    · exact hbare
  rcases hclose with rfl | rfl
  · exact (ne_close_of_isBare hbare).1 rfl
  · exact (ne_close_of_isBare hbare).2 rfl

theorem ne_star (h : IsRow d P (Tile.bare '/' :: ts)) (hr : GoesBehind d rest) :
    (rowChars d names ρ ts ++ rest).head? ≠ some '*' := by
  intro hc
  rcases h.head?_tail hr hc with ⟨u, -, hu, hprec, -⟩ | ⟨-, hstar⟩
  · cases u with
    | bare c =>
      obtain rfl : '*' = c := hu
      exact absurd hprec (by decide)
    | text s => exact absurd hu (by simp [Tile.first])
    | column n => exact absurd hu (by cases d <;> simp [Tile.first, Dialect.quotes])
  · exact hstar rfl

end IsRow

theorem opened?_quotes (d : Dialect) : opened? d d.quotes.1 = some ⟨d.quotes.2, true, true⟩ := by
  cases d <;> rfl

theorem Reads.name {s : String} (h : Reads d d.quotes.2 rest ls) (hb : separates b = true)
    (hr : rest.head? ≠ some d.quotes.2) : Reads d b ((d.quote s).toList ++ rest) (.name s :: ls) := by
  have hq := Reads.quoted (q := ⟨d.quotes.2, true, true⟩) (s := s) h (opened?_quotes d) hb rfl hr
    (by simp [Quotation.escapes])
  rw [Tile.toList_quote]
  exact hq

/-- The rest is read alike behind every character. -/
def ReadsBehind (d : Dialect) (rest : List Char) (ls : List Lexeme) : Prop :=
  GoesBehind d rest ∧ ∀ b, Reads d b rest ls

theorem IsRow.reads (h : IsRow d P ts) (hr : ReadsBehind d rest ls)
    (hb : ∀ t ∈ ts.head?, (Tile.bare b).mayPrecede t = true) :
    Reads d b (rowChars d names ρ ts ++ rest) (rowLexemes names ρ ts ++ ls) := by
  induction ts generalizing b with
  | nil => exact hr.2 b
  | cons t ts ih =>
    simp only [rowChars, rowLexemes, List.flatMap_cons, List.append_assoc] at ih ⊢
    have hnext (b : Char) (hseam : ∀ u, t.mayPrecede u = true → (Tile.bare b).mayPrecede u = true) :=
      ih h.tail (b := b) fun u hu => hseam u ((List.isChain_cons.1 h.chain).1 u hu)
    have hb : (Tile.bare b).mayPrecede t = true := hb t rfl
    cases t with
    | bare c =>
      refine (hnext c fun _ hu => hu).bare (h.fits _ List.mem_cons_self) ?_
      rintro rfl
      exact h.ne_star hr.1
    | text s =>
      have hclose := h.ne_close hr.1 nofun names ρ (.inl rfl)
      refine (hnext '\'' ?_).quoted (q := ⟨'\'', false, true⟩) rfl hb rfl hclose ?_
      · intro u hu
        obtain ⟨c, rfl⟩ := Tile.exists_bare_of_mayPrecede hu nofun
        rfl
      · intro hesc
        exact h.fits _ List.mem_cons_self (by simpa [Quotation.escapes] using hesc)
    | column n =>
      have hclose := h.ne_close hr.1 nofun names ρ (.inr rfl)
      have hname {b : Char} (hb : separates b = true) :=
        (hnext d.quotes.2 (fun u hu => by
          obtain ⟨c, rfl⟩ := Tile.exists_bare_of_mayPrecede hu nofun
          cases d <;> rfl)).name (s := ρ n) hb hclose
      simp only [Tile.chars, Tile.lexemes, columnText]
      cases htable : names.tableAlias with
      | none => exact hname hb
      | some table =>
        have hdot := (hname (b := '.') rfl).bare (b := d.quotes.2) (c := '.') (by cases d <;> rfl) nofun
        have htable := hdot.name (s := table) hb (by cases d <;> simp [Dialect.quotes])
        simpa using htable

end

section
variable {d : Dialect} {cs : List Char}

/-- Tiles without columns, whose characters are always the same. -/
structure IsFixedRow (d : Dialect) (ts : List Tile) (cs : List Char) : Prop where
  fits : ∀ t ∈ ts, t.Fits d fun _ => False
  chars_eq (names : Naming) (ρ : String → String) : rowChars d names ρ ts = cs

theorem IsFixedRow.cons {t : Tile} {ts : List Tile} {as : List Char} (h : IsFixedRow d ts cs)
    (ht : t.Fits d fun _ => False) (has : ∀ names ρ, t.chars d names ρ = as) : IsFixedRow d (t :: ts) (as ++ cs) where
  fits := List.forall_mem_cons.2 ⟨ht, h.fits⟩
  chars_eq names ρ := by
    rw [← h.chars_eq names ρ, ← has names ρ]
    rfl

theorem doubling_eq_self {close : Char} (h : close ∉ cs) : doubling close cs = cs := by
  induction cs with
  | nil => rfl
  | cons c cs ih =>
    rw [List.mem_cons, not_or] at h
    rw [doubling, List.flatMap_cons, ← doubling, ih h.2, if_neg (Ne.symm h.1)]
    rfl

/-- Fixed text is a row of tiles, whichever side of a quote it begins on. -/
theorem exists_tiles (cs : List Char) :
    (∀ b, isSound (isBare d) (.outside b) cs = true →
      ∃ ts, IsFixedRow d ts cs ∧ (Tile.bare b :: ts).IsChain (Tile.mayPrecede · · = true)) ∧
    (isSound (isBare d) .inside cs = true →
      ∃ w ts rest, cs = w ++ '\'' :: rest ∧ '\'' ∉ w ∧ '\\' ∉ w ∧ IsFixedRow d ts rest ∧
        ∀ s, (Tile.text s :: ts).IsChain (Tile.mayPrecede · · = true)) ∧
    (isSound (isBare d) .behind cs = true →
      ∃ ts, IsFixedRow d ts cs ∧ ∀ s, (Tile.text s :: ts).IsChain (Tile.mayPrecede · · = true)) := by
  induction cs with
  | nil =>
    have hnil : IsFixedRow d [] [] := ⟨by simp, fun _ _ => rfl⟩
    exact ⟨fun b _ => ⟨[], hnil, .singleton _⟩, by simp [isSound], fun _ => ⟨[], hnil, fun _ => .singleton _⟩⟩
  | cons c cs ih =>
    obtain ⟨ihout, ihin, ihbehind⟩ := ih
    refine ⟨fun b h => ?_, fun h => ?_, fun h => ?_⟩
    · by_cases hc : c = '\''
      · obtain ⟨hb, hin⟩ : separates b = true ∧ isSound (isBare d) .inside cs = true := by simpa [isSound, hc] using h
        obtain ⟨w, ts, rest, rfl, hquote, hslash, hrow, hchain⟩ := ihin hin
        refine ⟨Tile.text (.ofList w) :: ts, ?_, .cons_cons hb (hchain _)⟩
        have hcons := hrow.cons (t := Tile.text (.ofList w)) (fun _ => by simpa using hslash) fun _ _ => rfl
        simpa [hc, doubling_eq_self hquote] using hcons
      · obtain ⟨⟨hbare, hblock⟩, hout⟩ : (isBare d c = true ∧ (b ≠ '/' ∨ c ≠ '*')) ∧
            isSound (isBare d) (.outside c) cs = true := by simpa [isSound, hc] using h
        obtain ⟨ts, hrow, hchain⟩ := ihout c hout
        refine ⟨Tile.bare c :: ts, hrow.cons (t := Tile.bare c) hbare fun _ _ => rfl, .cons_cons ?_ hchain⟩
        simpa [Tile.mayPrecede] using hblock
    · by_cases hc : c = '\''
      · obtain ⟨ts, hrow, hchain⟩ := ihbehind (by simpa [isSound, hc] using h)
        exact ⟨[], ts, cs, by rw [hc]; rfl, List.not_mem_nil, List.not_mem_nil, hrow, hchain⟩
      · obtain ⟨hslash, hin⟩ : c ≠ '\\' ∧ isSound (isBare d) .inside cs = true := by simpa [isSound, hc] using h
        obtain ⟨w, ts, rest, rfl, hquote, hslash', hrow, hchain⟩ := ihin hin
        exact ⟨c :: w, ts, rest, rfl, by simp [Ne.symm hc, hquote], by simp [Ne.symm hslash, hslash'], hrow, hchain⟩
    · obtain ⟨⟨hc, hbare⟩, hout⟩ : (c ≠ '\'' ∧ isBare d c = true) ∧ isSound (isBare d) (.outside c) cs = true := by
        simpa [isSound] using h
      obtain ⟨ts, hrow, hchain⟩ := ihout c hout
      exact ⟨Tile.bare c :: ts, hrow.cons (t := Tile.bare c) hbare fun _ _ => rfl, fun _ => .cons_cons rfl hchain⟩

theorem IsFixedRow.bare_of_mem {ts : List Tile} (h : IsFixedRow d ts cs) {t : Tile} (ht : t ∈ ts) :
    (∃ c, t = Tile.bare c) ∨ ∃ s, t = Tile.text s := by
  cases t with
  | bare c => exact .inl ⟨c, rfl⟩
  | text s => exact .inr ⟨s, rfl⟩
  | column n => exact (h.fits _ ht).elim

theorem IsFixedRow.starts {ts : List Tile} (h : IsFixedRow d ts cs) (hs : startsBare cs = true) (t : Tile)
    (us : List Tile) : ∀ u ∈ (ts ++ us).head?, t.mayPrecede u = true := by
  intro u hu
  cases ts with
  | nil => exact absurd hs (by simp [← h.chars_eq .default id, rowChars, startsBare])
  | cons v ts =>
    obtain rfl : v = u := Option.some.inj hu
    have hhead : cs.head? = some (v.first d) := by
      rw [← h.chars_eq .default id]
      exact Tile.head?_chars v _
    rw [startsBare, hhead] at hs
    rcases h.bare_of_mem List.mem_cons_self with ⟨c, rfl⟩ | ⟨s, rfl⟩
    · cases t <;> simp_all [Tile.mayPrecede, Tile.first]
    · exact absurd hs (by simp [Tile.first])

theorem IsFixedRow.ends {ts : List Tile} (h : IsFixedRow d ts cs) (hs : endsBare cs = true) :
    ∀ t ∈ ts.getLast?, ∀ u, t.mayPrecede u = true := by
  intro t ht u
  obtain ⟨us, rfl⟩ := List.getLast?_eq_some_iff.1 ht
  have hchars := h.chars_eq .default id
  rw [rowChars, List.flatMap_append, List.flatMap_singleton] at hchars
  rw [endsBare, ← hchars] at hs
  rcases h.bare_of_mem (List.mem_append_right _ List.mem_cons_self) with ⟨c, rfl⟩ | ⟨s, rfl⟩
  · cases u <;> simp_all [Tile.mayPrecede, Tile.chars]
  · rw [Tile.chars, ← List.cons_append, ← List.append_assoc, List.getLast?_concat] at hs
    exact absurd hs (by decide)

/-- A text that passes as fixed is a row of tiles. -/
theorem exists_fixedRow {s : String} {q : List Char → Bool} (hq : ∀ cs, q cs = true → isFixed (isBare d) cs = true)
    (hs : Spelled q s) (P : String → Prop) : ∃ ts, IsRow d P ts ∧ IsFixedRow d ts s.toList ∧ q s.toList = true := by
  obtain ⟨cs, rfl, hcs⟩ := hs
  obtain ⟨ts, hrow, hchain⟩ := (exists_tiles cs).1 ' ' (hq cs hcs)
  rw [String.toList_ofList]
  exact ⟨ts, ⟨fun t ht => (hrow.fits t ht).mono nofun, hchain.tail⟩, hrow, hcs⟩

end

/-- Fragments laid from one row of tiles, the second with other columns. -/
structure LaidFrom (d : Dialect) (names : Naming) (P : String → Prop) (ρ : String → String) (ts : List Tile)
    (f f' : Fragment) : Prop where
  row : IsRow d P ts
  text : f.text.toList = rowChars d names id ts
  text' : f'.text.toList = rowChars d names ρ ts
  bindings : f'.bindings = f.bindings
  shape : f'.shape = f.shape

/-- Fragments laid from the same tiles. -/
def SameTiles (d : Dialect) (names : Naming) (P : String → Prop) (ρ : String → String) (f f' : Fragment) : Prop :=
  ∃ ts, LaidFrom d names P ρ ts f f'

section
variable {d : Dialect} {names : Naming} {P : String → Prop} {ρ : String → String} {f f' g g' : Fragment} {s : String}
  {ts us : List Tile}

namespace LaidFrom

theorem append (h : LaidFrom d names P ρ ts f f') (h' : LaidFrom d names P ρ us g g')
    (hseam : ∀ t ∈ ts.getLast?, ∀ u ∈ us.head?, t.mayPrecede u = true) :
    LaidFrom d names P ρ (ts ++ us) (f ++ g) (f' ++ g') where
  row := h.row.append h'.row hseam
  text := by simp [rowChars, h.text, h'.text]
  text' := by simp [rowChars, h.text', h'.text']
  bindings := by simp [h.bindings, h'.bindings]
  shape := rfl

theorem raw (h : IsRow d P ts) (hs : IsFixedRow d ts s.toList) : LaidFrom d names P ρ ts (.raw s) (.raw s) :=
  ⟨h, (hs.chars_eq names id).symm, (hs.chars_eq names ρ).symm, rfl, rfl⟩

theorem column {n : String} (h : P n) :
    LaidFrom d names P ρ [.column n] (columnText d names n) (columnText d names (ρ n)) where
  row := ⟨by simpa [Tile.Fits] using h, .singleton _⟩
  text := by simp [rowChars, Tile.chars]
  text' := by simp [rowChars, Tile.chars]
  bindings := by cases hn : names.tableAlias <;> simp [columnText, hn]
  shape := by cases hn : names.tableAlias <;> simp only [columnText, hn] <;> rfl

end LaidFrom

theorem weaving_sameTiles : Weaving d False (SameTiles d names P ρ) where
  isPredicate := by
    rintro f f' ⟨ts, h⟩
    rw [Fragment.isPredicate, Fragment.isPredicate, h.shape]
  startsGroup := by
    rintro f f' ⟨ts, h⟩
    rw [String.startsWith_char_eq_head?, String.startsWith_char_eq_head?, h.text, h.text']
    cases ts with
    | nil => rfl
    | cons t ts => rw [rowChars, rowChars, List.flatMap_cons, List.flatMap_cons, Tile.head?_chars, Tile.head?_chars]
  asPredicate := by
    rintro f f' ⟨ts, h⟩
    exact ⟨ts, h.row, h.text, h.text', h.bindings, rfl⟩
  asValue := by
    rintro f f' ⟨ts, h⟩
    exact ⟨ts, h.row, h.text, h.text', h.bindings, rfl⟩
  bind v := by
    have hrow : IsRow d P [.bare '?'] := ⟨by cases d <;> simp [Tile.Fits, isBare], .singleton _⟩
    exact ⟨_, hrow, by simp [rowChars, Tile.chars], by simp [rowChars, Tile.chars], rfl, rfl⟩
  fixed hs := by
    obtain ⟨ts, hrow, hts, -⟩ := exists_fixedRow (fun _ h => h) hs P
    exact ⟨ts, .raw hrow hts⟩
  before := by
    rintro s f f' hs ⟨ts, h⟩
    obtain ⟨us, hrow, hfixed, hs⟩ := exists_fixedRow (fun _ h => (Bool.and_eq_true _ _ ▸ h).1) hs P
    rw [opensOperand, Bool.and_eq_true] at hs
    exact ⟨us ++ ts, .append (.raw hrow hfixed) h fun t ht u _ => hfixed.ends hs.2 t ht u⟩
  behind := by
    rintro s f f' hs ⟨ts, h⟩
    obtain ⟨us, hrow, hfixed, hs⟩ := exists_fixedRow (fun _ h => (Bool.and_eq_true _ _ ▸ h).1) hs P
    rw [closesOperand, Bool.and_eq_true] at hs
    refine ⟨ts ++ us, h.append (.raw hrow hfixed) fun t _ => ?_⟩
    simpa using hfixed.starts hs.2 t []
  between := by
    rintro s f f' g g' hs ⟨ts, h⟩ ⟨ts', h'⟩
    obtain ⟨us, hrow, hfixed, hs⟩ := exists_fixedRow
      (fun _ h => (Bool.and_eq_true _ _ ▸ (Bool.and_eq_true _ _ ▸ h).1).1) hs P
    simp only [partsOperands, opensOperand, Bool.and_eq_true] at hs
    have hright := LaidFrom.append (.raw hrow hfixed) h' fun t ht u _ => hfixed.ends hs.1.2 t ht u
    rw [Fragment.append_assoc, Fragment.append_assoc]
    exact ⟨ts ++ (us ++ ts'), h.append hright fun t _ => hfixed.starts hs.2 t ts'⟩
  path := by
    rintro s f f' rfl ⟨ts, h⟩
    have hpath : LaidFrom .oracle names P ρ [.bare ',', .bare ' ', .text s, .bare ')']
        (", '" ++ Text.replaceChar '\'' ['\'', '\''] s ++ "')")
        (", '" ++ Text.replaceChar '\'' ['\'', '\''] s ++ "')") := by
      refine ⟨⟨?_, ?_⟩, ?_, ?_, rfl, rfl⟩
      · simp [Tile.Fits, isBare]
      · simp [Tile.mayPrecede, separates]
      all_goals simp [rowChars, Tile.chars, Text.replaceChar, doubling]
    exact ⟨_, h.append hpath fun t _ u hu => by cases hu; cases t <;> simp [Tile.mayPrecede]⟩
  headed _ := False.elim
  filled _ := False.elim

end

end SheetQuery.Sql
