import SheetQuery.Check
import SheetQuery.Proofs.ByteReading

/-! Where tokens stand and where reading stops. Every token begins at a character of the text, behind the token
before it. Reading stops at a token, at the end or at the very start, so a diagnostic about text that cannot be read
has a place in the text. -/

namespace SheetQuery

variable {text : String} {i : Nat} {cs : List Char}

/-! ### Tokens -/

namespace Lexer

/-- Tokens from an offset on begin at characters of the text, one behind another. A fault too stands at a place of
the text. -/
def Placed (text : String) (i : Nat) : Except ParseError (List Token) → Prop
  | .ok ts => ts.Pairwise (·.position < ·.position) ∧
      ∀ t ∈ ts, i ≤ t.position ∧ ∃ c cs, StandsAt text t.position (c :: cs)
  | .error e => ∃ cs, StandsAt text e.position cs

theorem Placed.mono {j : Nat} {r : Except ParseError (List Token)} (h : Placed text j r) (hle : i ≤ j) :
    Placed text i r := by
  cases r with
  | ok ts => exact ⟨h.1, fun t ht => ⟨Nat.le_trans hle (h.2 t ht).1, (h.2 t ht).2⟩⟩
  | error e => exact h

theorem placed_tokens (h : StandsAt text i cs) (skip : Nat) : Placed text i (tokens i skip cs) := by
  induction cs generalizing i skip with
  | nil => exact ⟨.nil, by simp⟩
  | cons c cs ih =>
    have hnext (k : Nat) : Placed text (i + c.utf8Size) (tokens (i + c.utf8Size) k cs) := ih h.tail k
    have hle : i ≤ i + c.utf8Size := Nat.le_add_right ..
    cases skip with
    | succ k => exact (hnext k).mono hle
    | zero =>
      simp only [tokens]
      split
      · exact (hnext 0).mono hle
      · split
        case h_1 => exact ⟨_, h⟩
        case h_2 l n _ =>
          have hrest := hnext n
          split
          case h_1 e he => rwa [he] at hrest
          case h_2 ts hts =>
            rw [hts] at hrest
            have hlt : i < i + c.utf8Size := Nat.lt_add_of_pos_right c.utf8Size_pos
            refine ⟨List.pairwise_cons.2 ⟨fun t ht => Nat.lt_of_lt_of_le hlt (hrest.2 t ht).1, hrest.1⟩, ?_⟩
            exact List.forall_mem_cons.2 ⟨⟨Nat.le_refl i, c, cs, h⟩, (Placed.mono hrest hle).2⟩

theorem scan_positions {s : TokenStream} (h : scan text = .ok s) :
    s.positions.Pairwise (· < ·) ∧ (∀ p ∈ s.positions, (⟨p⟩ : String.Pos.Raw).IsValid text) ∧
      s.finish = text.utf8ByteSize := by
  have hplaced := placed_tokens (standsAt_zero text) 0
  rw [scan, byteLength_toList] at h
  split at h
  case h_1 => cases h
  case h_2 ts hts =>
    cases h
    rw [hts] at hplaced
    refine ⟨?_, ?_, rfl⟩
    · refine List.pairwise_append.2 ⟨List.pairwise_map.2 hplaced.1, List.pairwise_singleton .., ?_⟩
      simp only [List.forall_mem_map, List.forall_mem_singleton]
      intro t ht
      obtain ⟨-, c, cs, hat⟩ := hplaced.2 t ht
      exact hat.lt_size
    · refine List.forall_mem_append.2 ⟨List.forall_mem_map.2 fun t ht => ?_, ?_⟩
      · obtain ⟨-, c, cs, hat⟩ := hplaced.2 t ht
        exact hat.isValid
      · have hend := (standsAt_zero text).drop text.toList.length
        rw [List.take_length, byteLength_toList, Nat.zero_add] at hend
        exact List.forall_mem_singleton.2 hend.isValid

theorem scan_error {e : ParseError} (h : scan text = .error e) : (⟨e.position⟩ : String.Pos.Raw).IsValid text := by
  have hplaced := placed_tokens (standsAt_zero text) 0
  rw [scan] at h
  split at h
  case h_1 e' he =>
    cases h
    rw [he] at hplaced
    obtain ⟨cs, hat⟩ := hplaced
    exact hat.isValid
  case h_2 => cases h

end Lexer

/-! ### The parser -/

namespace Parser

variable {α : Type} {finish : Nat} {tokens rest : List Token}

/-- A reader takes from the front of the tokens, or stops at one of them or at the end. -/
def Confined (finish : Nat) {tokens : List Token} : Except ParseError (Taken α tokens) → Prop
  | .ok r => r.rest <:+ tokens
  | .error e => e.position ∈ TokenStream.positions ⟨tokens, finish⟩

theorem positions_subset (h : rest <:+ tokens) :
    TokenStream.positions ⟨rest, finish⟩ ⊆ TokenStream.positions ⟨tokens, finish⟩ := by
  obtain ⟨used, rfl⟩ := h
  simp only [TokenStream.positions, List.map_append, List.append_assoc]
  exact List.subset_append_right ..

theorem positionOf_mem (h : rest <:+ tokens) : positionOf finish rest ∈ TokenStream.positions ⟨tokens, finish⟩ := by
  refine positions_subset h ?_
  cases rest <;> simp [positionOf, TokenStream.positions]

namespace Confined

variable {result : Except ParseError (Taken α rest)}

/-- Where a reader stops that was given a part of the tokens. -/
theorem position_mem (h : Confined finish result) (hs : rest <:+ tokens) {e : ParseError} (he : result = .error e) :
    e.position ∈ TokenStream.positions ⟨tokens, finish⟩ := by
  rw [he] at h
  exact positions_subset hs h

/-- What a reader leaves that was given a part of the tokens. -/
theorem rest_suffix (h : Confined finish result) (hs : rest <:+ tokens) {taken : Taken α rest}
    (he : result = .ok taken) : taken.rest <:+ tokens := by
  rw [he] at h
  exact h.trans hs

end Confined

/-- What the readers do with the tokens. -/
structure ReadsWithin (finish : Nat) (tokens : List Token) : Prop where
  operand (room : Nat) : Confined finish (operand finish room tokens)
  chain (room : Nat) : Confined finish (chain finish room tokens)
  argumentList (room : Nat) : Confined finish (argumentList finish room tokens)
  arguments (room : Nat) : Confined finish (arguments finish room tokens)

section
variable (ih : ∀ us : List Token, us.length < tokens.length → ReadsWithin finish us)
include ih

theorem operand_within (room : Nat) : Confined finish (operand finish room tokens) := by
  cases room with
  | zero =>
    rw [operand]
    exact positionOf_mem (List.suffix_refl _)
  | succ room =>
    cases tokens with
    | nil =>
      rw [operand]
      exact positionOf_mem (List.suffix_refl _)
    | cons t rest =>
      have hreads := ih rest (by simp)
      have hsuffix : rest <:+ t :: rest := List.suffix_cons ..
      rw [operand]
      split
      case h_1 op hop =>
        have hoperand := hreads.operand room
        split
        · rename_i he
          exact hoperand.position_mem hsuffix he
        · rename_i he
          exact hoperand.rest_suffix hsuffix he
      case h_2 =>
        split
        · exact hsuffix
        · exact hsuffix
        · exact hsuffix
        · split
          · rename_i position inner
            have hinner : inner <:+ t :: ⟨.openParen, position⟩ :: inner := (List.suffix_cons ..).trans hsuffix
            have harguments := (ih inner (by simp only [List.length_cons]; omega)).arguments room
            split
            · rename_i he
              exact harguments.position_mem hinner he
            · rename_i he
              exact harguments.rest_suffix hinner he
          · exact hsuffix
        · have hchain := hreads.chain room
          split
          · rename_i he
            exact hchain.position_mem hsuffix he
          · rename_i he
            have hrest := hchain.rest_suffix hsuffix he
            split
            · exact (List.suffix_cons ..).trans hrest
            · exact positionOf_mem hrest
        · exact positionOf_mem (List.suffix_refl _)

theorem chain_within (room : Nat) : Confined finish (chain finish room tokens) := by
  have hoperand := operand_within ih room
  rw [chain]
  split
  · rename_i he
    rwa [he] at hoperand
  · rename_i he
    rw [he] at hoperand
    split
    · rename_i op position rest hlt
      have hrest : rest <:+ tokens := (List.suffix_cons ..).trans hoperand
      have hchain := (ih rest (by simp only [List.length_cons] at hlt; omega)).chain room
      split
      · rename_i he'
        exact hchain.position_mem hrest he'
      · rename_i he'
        exact hchain.rest_suffix hrest he'
    · exact hoperand

theorem argumentList_within (room : Nat) : Confined finish (argumentList finish room tokens) := by
  have hchain := chain_within ih room
  rw [argumentList]
  split
  · rename_i he
    rwa [he] at hchain
  · rename_i he
    rw [he] at hchain
    split
    · rename_i position rest hlt
      have hrest : rest <:+ tokens := (List.suffix_cons ..).trans hchain
      have hlist := (ih rest (by simp only [List.length_cons] at hlt; omega)).argumentList room
      split
      · rename_i he'
        exact hlist.position_mem hrest he'
      · rename_i he'
        exact hlist.rest_suffix hrest he'
    · exact (List.suffix_cons ..).trans hchain
    · exact positionOf_mem hchain

theorem arguments_within (room : Nat) : Confined finish (arguments finish room tokens) := by
  rw [arguments.eq_def]
  split
  · exact List.suffix_cons ..
  · exact argumentList_within ih room

end

theorem readsWithin (finish : Nat) (tokens : List Token) : ReadsWithin finish tokens := by
  induction hn : tokens.length using Nat.strong_induction_on generalizing tokens with
  | _ n ihn =>
    subst hn
    have ih (us : List Token) (hlt : us.length < tokens.length) : ReadsWithin finish us := ihn us.length hlt us rfl
    exact ⟨operand_within ih, chain_within ih, argumentList_within ih, arguments_within ih⟩

/-- Only a formula without tokens is refused at its start. -/
theorem formula_error {s : TokenStream} {e : ParseError} (h : formula s = .error e) :
    e.position = 0 ∨ e.position ∈ s.positions := by
  have hchain := (readsWithin s.finish s.tokens).chain maxNesting
  rw [formula] at h
  split at h
  · cases h
    exact .inl rfl
  · split at h
    · rename_i he
      cases h
      rw [he] at hchain
      exact .inr hchain
    · rename_i he
      rw [he] at hchain
      split at h
      · cases h
      · cases h
        exact .inr (positionOf_mem hchain)

end Parser

namespace Expr

theorem parse_error {e : ParseError} (h : parse text = .error e) :
    (⟨e.position⟩ : String.Pos.Raw).IsValid text := by
  rw [parse] at h
  split at h
  case h_1 e' he =>
    cases h
    exact Lexer.scan_error he
  case h_2 s hs =>
    rcases Parser.formula_error h with hzero | hmem
    · rw [hzero]
      exact (standsAt_zero text).isValid
    · exact (Lexer.scan_positions hs).2.1 _ hmem

/-- Every slice that a reader of bytes takes lies between boundaries of characters, and it finds the same tokens. They
stand at boundaries, one behind another, before the end of the text. Where reading stops there is a boundary too, and
diagnostics span the whole text or, as one error, all from there on. -/
theorem positions_valid (text : String) :
    ByteReader.scan? text = some (Lexer.scan text) ∧
    (∀ s, Lexer.scan text = .ok s → s.positions.Pairwise (· < ·) ∧
      (∀ p ∈ s.positions, (⟨p⟩ : String.Pos.Raw).IsValid text) ∧ s.finish = text.utf8ByteSize) ∧
    (∀ e, parse text = .error e → e.position ≤ text.utf8ByteSize ∧ (⟨e.position⟩ : String.Pos.Raw).IsValid text) ∧
    ∀ readers schema,
      (∃ e, parse text = .ok e ∧ ∀ d ∈ Diagnostic.ofFormula readers schema text, d.span = ⟨0, text.utf8ByteSize⟩) ∨
      ∃ e d, parse text = .error e ∧ Diagnostic.ofFormula readers schema text = [d] ∧ d.severity = .error ∧
        d.span = ⟨e.position, text.utf8ByteSize⟩ := by
  have herror (e : ParseError) (he : parse text = .error e) :
      e.position ≤ text.utf8ByteSize ∧ (⟨e.position⟩ : String.Pos.Raw).IsValid text :=
    ⟨(parse_error he).le_rawEndPos, parse_error he⟩
  refine ⟨ByteReader.scan?_eq text, fun s => Lexer.scan_positions, herror, fun readers schema => ?_⟩
  cases hparse : parse text with
  | ok e =>
    refine .inl ⟨e, rfl, fun d hd => ?_⟩
    rw [Diagnostic.ofFormula, hparse] at hd
    obtain ⟨f, -, rfl⟩ := List.mem_map.1 hd
    rfl
  | error e =>
    refine .inr ⟨e, _, rfl, by rw [Diagnostic.ofFormula, hparse], rfl, ?_⟩
    rw [Nat.min_eq_left (herror e hparse).1]

/-- A name outside ASCII and a text without its closing quote: reading stops at the quote, which is byte 10. -/
theorem positions_valid_unclosed :
    let text := "größe & 'é"
    parse text = .error ⟨10, .unterminatedText⟩ ∧ (10 : Nat) ≤ text.utf8ByteSize ∧
      (⟨10⟩ : String.Pos.Raw).IsValid text ∧ ByteReader.scan? text = some (.error ⟨10, .unterminatedText⟩) := by
  intro text
  have hscan : Lexer.scan text = .error ⟨10, .unterminatedText⟩ := by decide +kernel
  have hparse : parse text = .error ⟨10, .unterminatedText⟩ := by rw [parse, hscan]
  obtain ⟨hbytes, -, herror, -⟩ := positions_valid text
  exact ⟨hparse, (herror _ hparse).1, (herror _ hparse).2, hscan ▸ hbytes⟩

end Expr

end SheetQuery
