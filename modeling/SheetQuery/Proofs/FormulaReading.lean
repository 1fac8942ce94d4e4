import Mathlib.Data.List.Permutation
import SheetQuery.Proofs.FormulaGrammar
import SheetQuery.Proofs.FormulaTokens

/-! Reading formulas by the grammar. Tokens that derive an expression are read as it, whatever ends them, and
what is read was derived. So reading succeeds exactly on the tokens that derive an expression in which no operand
is enclosed too often, and gives that expression; no tokens derive two. -/

namespace SheetQuery

namespace Formula

variable {sym : Symbol} {ts w : List Lexeme} {e x : Expr} {ms : List (BinaryOp × Expr)} {n : Nat}

/-! ### What derives is read -/

section Completeness

open SheetQuery.Parser

/-- In front of anything but an opening parenthesis, the tokens are read as the operand. -/
def ReadsOperand (n : Nat) (ts : List Lexeme) (e : Expr) : Prop :=
  ∀ (finish : Nat) (tokens : List Token) (w : List Lexeme), tokens.map Token.lexeme = ts ++ w →
    w.head? ≠ some .openParen →
    ∃ r, operand finish (n + 1) tokens = .ok r ∧ r.value = e ∧ r.rest.map Token.lexeme = w

/-- A token that cannot go on after an operand. -/
def Ends : Lexeme → Prop
  | .op _ => False
  | .openParen => False
  | _ => True

theorem chain_of_strung (h : Strung (ReadsOperand n) ts x ms) (finish : Nat) {tokens : List Token}
    (w : List Lexeme) (ht : tokens.map Token.lexeme = ts ++ w) (hw : ∀ l ∈ w.head?, Ends l) :
    ∃ r, chain finish (n + 1) tokens = .ok r ∧ r.value = (x, ms) ∧ r.rest.map Token.lexeme = w := by
  induction h generalizing tokens with
  | last h =>
    obtain ⟨⟨_, rest, hlt⟩, hr, rfl, rfl⟩ := h finish tokens w ht (by
      intro hopen
      exact hw _ hopen)
    rw [chain, hr]
    dsimp only
    split
    · exact (hw _ rfl).elim
    · exact ⟨_, rfl, rfl, rfl⟩
  | @cons ts us x y op ms h _ _ ih =>
    obtain ⟨⟨_, rest, hlt⟩, hr, rfl, hrest⟩ := h finish tokens (.op op :: us ++ w) (by simpa using ht) (by simp)
    obtain ⟨⟨_, position⟩, rest', rfl, rfl, hrest'⟩ := List.map_eq_cons_iff.1 hrest
    obtain ⟨⟨_, rest'', hlt'⟩, hr', rfl, hw'⟩ := ih hrest'
    rw [chain, hr]
    simp only [hr']
    exact ⟨_, rfl, rfl, hw'⟩

theorem operand_closeParen (finish room position : Nat) (rest : List Token)
    (r : Taken Expr (⟨.closeParen, position⟩ :: rest)) :
    operand finish room (⟨.closeParen, position⟩ :: rest) ≠ .ok r := by
  cases room <;> simp [operand, prefixOp?, failAt]

/-- What the derivation says about reading: operators make a chain that groups as the tree, and an operand is
read as such. -/
def Readable : Symbol → List Lexeme → Expr → Nat → Prop
  | .level p, ts, e, n => ∃ x ms, Grouped p e x ms ∧ Strung (ReadsOperand n) ts x ms
  | .operand, ts, e, n => ReadsOperand n ts e
  | .primary, ts, e, n => ReadsOperand n ts e

section
variable {args : List (List Lexeme × Expr)} (h : ∀ a ∈ args, Readable (.level 1) a.1 a.2 n) (finish : Nat)
  {tokens : List Token}
  (ht : tokens.map Token.lexeme = [Lexeme.comma].intercalate (args.map Prod.fst) ++ .closeParen :: w)
include h ht

theorem argumentList_of_readable (hne : args ≠ []) :
    ∃ r, argumentList finish (n + 1) tokens = .ok r ∧ r.value = args.map Prod.snd ∧
      r.rest.map Token.lexeme = w := by
  induction args generalizing tokens with
  | nil => exact absurd rfl hne
  | cons a args ih =>
    obtain ⟨x, ms, hg, hs⟩ := h a List.mem_cons_self
    cases args with
    | nil =>
      obtain ⟨⟨_, rest, hlt⟩, hr, rfl, hrest⟩ :=
        chain_of_strung hs finish (.closeParen :: w) (by simpa using ht) (by simp [Ends])
      obtain ⟨⟨_, position⟩, rest', rfl, rfl, hrest'⟩ := List.map_eq_cons_iff.1 hrest
      rw [argumentList, hr]
      exact ⟨_, rfl, by simp [hg.group_eq], hrest'⟩
    | cons b args =>
      obtain ⟨⟨_, rest, hlt⟩, hr, rfl, hrest⟩ := chain_of_strung hs finish
        (.comma :: [Lexeme.comma].intercalate ((b :: args).map Prod.fst) ++ .closeParen :: w)
        (by simpa using ht) (by simp [Ends])
      obtain ⟨⟨_, position⟩, rest', rfl, rfl, hrest'⟩ := List.map_eq_cons_iff.1 hrest
      obtain ⟨⟨_, rest'', hlt'⟩, hr', rfl, hw⟩ :=
        ih (fun a ha => h a (List.mem_cons_of_mem _ ha)) hrest' (by simp)
      rw [argumentList, hr]
      simp only [hr']
      exact ⟨_, rfl, by simp [hg.group_eq], hw⟩

theorem arguments_of_readable :
    ∃ r, arguments finish (n + 1) tokens = .ok r ∧ r.value = args.map Prod.snd ∧
      r.rest.map Token.lexeme = w := by
  by_cases hne : args = []
  · subst hne
    obtain ⟨⟨_, position⟩, rest, rfl, rfl, hrest⟩ := List.map_eq_cons_iff.1 ht
    rw [arguments]
    exact ⟨_, rfl, rfl, hrest⟩
  · obtain ⟨r, hr, hargs⟩ := argumentList_of_readable h finish ht hne
    rw [arguments.eq_def]
    split
    · -- no argument begins with a closing parenthesis
      rw [argumentList, chain] at hr
      split at hr
      · cases hr
      · rename_i hc
        split at hc
        · cases hc
        · rename_i ho
          exact (operand_closeParen _ _ _ _ _ ho).elim
    · exact ⟨r, hr, hargs⟩

end

theorem bareName_of_notMem {s : String} (hs : s ∉ ["true", "false", "null"]) : bareName s = .column s := by
  simp only [List.mem_cons, List.not_mem_nil, or_false, not_or] at hs
  simp [bareName, hs]

theorem readsOperand_name (s : String) (n : Nat) : ReadsOperand n [.name s] (bareName s) := by
  intro finish tokens w ht hw
  obtain ⟨⟨_, position⟩, rest, rfl, rfl, rfl⟩ := List.map_eq_cons_iff.1 ht
  rw [operand]
  simp only [prefixOp?]
  split
  · simp at hw
  · exact ⟨_, rfl, rfl, rfl⟩

theorem Derives.readable (h : Derives sym ts e n) : Readable sym ts e n := by
  induction h with
  | binary hop _ _ ihl ihr =>
    obtain ⟨x, ms, hl, hs⟩ := ihl
    obtain ⟨y, ns, hr, hs'⟩ := ihr
    exact ⟨x, _, .binary (Nat.le_refl _) hl hr, hs.append hop hs'⟩
  | tighter _ ih =>
    obtain ⟨x, ms, hg, hs⟩ := ih
    exact ⟨x, ms, hg.mono (Nat.le_succ _), hs⟩
  | single _ ih => exact ⟨_, [], .operand _ _, .last ih⟩
  | unsigned _ ih => exact ih
  | number | text | braced =>
    intro finish tokens w ht _
    obtain ⟨⟨_, position⟩, rest, rfl, rfl, rfl⟩ := List.map_eq_cons_iff.1 ht
    rw [operand]
    exact ⟨_, rfl, rfl, rfl⟩
  | trueWord n => exact readsOperand_name "true" n
  | falseWord n => exact readsOperand_name "false" n
  | nullWord n => exact readsOperand_name "null" n
  | name s n hs => exact bareName_of_notMem hs ▸ readsOperand_name s n
  | signed ht _ ih =>
    intro finish tokens w htokens hw
    obtain ⟨⟨_, position⟩, rest, rfl, rfl, hrest⟩ := List.map_eq_cons_iff.1 htokens
    obtain ⟨⟨_, rest', hlt⟩, hr, rfl, hw'⟩ := ih finish rest w hrest hw
    cases ht <;>
    · rw [operand]
      simp only [prefixOp?, hr]
      exact ⟨_, rfl, rfl, hw'⟩
  | emptyCall s n =>
    intro finish tokens w ht _
    obtain ⟨⟨_, position⟩, rest, rfl, rfl, hrest⟩ := List.map_eq_cons_iff.1 ht
    obtain ⟨⟨_, position'⟩, rest', rfl, rfl, hrest'⟩ := List.map_eq_cons_iff.1 hrest
    obtain ⟨⟨_, position''⟩, rest'', rfl, rfl, rfl⟩ := List.map_eq_cons_iff.1 hrest'
    rw [operand]
    simp only [prefixOp?, arguments]
    exact ⟨_, rfl, rfl, rfl⟩
  | call s _ ih =>
    intro finish tokens w ht _
    obtain ⟨⟨_, position⟩, rest, rfl, rfl, hrest⟩ := List.map_eq_cons_iff.1 ht
    obtain ⟨⟨_, position'⟩, inner, rfl, rfl, hinner⟩ := List.map_eq_cons_iff.1 hrest
    obtain ⟨⟨_, rest', hlt⟩, hr, rfl, hw'⟩ := arguments_of_readable ih finish (by simpa using hinner)
    rw [operand]
    simp only [prefixOp?, hr]
    exact ⟨_, rfl, rfl, hw'⟩
  | parens _ ih =>
    intro finish tokens w ht _
    obtain ⟨⟨_, position⟩, rest, rfl, rfl, hrest⟩ := List.map_eq_cons_iff.1 ht
    obtain ⟨x, ms, hg, hs⟩ := ih
    obtain ⟨⟨_, rest', hlt⟩, hr, rfl, hrest'⟩ :=
      chain_of_strung hs finish (.closeParen :: w) (by simpa using hrest) (by simp [Ends])
    obtain ⟨⟨_, position'⟩, rest'', rfl, rfl, hw'⟩ := List.map_eq_cons_iff.1 hrest'
    rw [operand]
    simp only [prefixOp?, hr]
    exact ⟨_, rfl, hg.group_eq, hw'⟩

end Completeness

/-! ### What is read derives -/

section Soundness

open SheetQuery.Parser

def Takes (tokens rest : List Token) (used : List Lexeme) : Prop :=
  tokens.map Token.lexeme = used ++ rest.map Token.lexeme

theorem Takes.trans {tokens rest rest' : List Token} {used used' : List Lexeme} {l : Lexeme} {position : Nat}
    (h : Takes tokens (⟨l, position⟩ :: rest) used) (h' : Takes rest rest' used') :
    Takes tokens rest' (used ++ l :: used') := by
  rw [Takes, h, List.map_cons, h', List.append_assoc, List.cons_append]

/-- At least one argument, up to and with the closing parenthesis. -/
def TakesArguments (tokens rest : List Token) (args : List Expr) (n : Nat) : Prop :=
  ∃ parts : List (List Lexeme × Expr), parts ≠ [] ∧ args = parts.map Prod.snd ∧
    Takes tokens rest ([Lexeme.comma].intercalate (parts.map Prod.fst) ++ [Lexeme.closeParen]) ∧
    ∀ a ∈ parts, Derives (.level 1) a.1 a.2 n

/-- What the readers take from tokens derives what they give. -/
structure ReadsDerived (finish : Nat) (tokens : List Token) : Prop where
  operand {room : Nat} {r : Taken Expr tokens} : operand finish room tokens = .ok r →
    ∃ n used, room = n + 1 ∧ Takes tokens r.rest used ∧ Derives .operand used r.value n
  chain {room : Nat} {r : Taken (Expr × List (BinaryOp × Expr)) tokens} : chain finish room tokens = .ok r →
    ∃ n used, room = n + 1 ∧ Takes tokens r.rest used ∧ Strung (Derives .operand · · n) used r.value.1 r.value.2
  argumentList {room : Nat} {r : Taken (List Expr) tokens} : argumentList finish room tokens = .ok r →
    ∃ n, room = n + 1 ∧ TakesArguments tokens r.rest r.value n
  arguments {room : Nat} {r : Taken (List Expr) tokens} : arguments finish room tokens = .ok r →
    r.value = [] ∧ Takes tokens r.rest [.closeParen] ∨ ∃ n, room = n + 1 ∧ TakesArguments tokens r.rest r.value n

theorem sign_of_prefixOp? {l : Lexeme} {op : UnaryOp} (h : prefixOp? l = some op) : Sign l op := by
  unfold prefixOp? at h
  split at h <;> cases h <;> constructor

theorem derives_bareName (s : String) (n : Nat) : Derives .primary [.name s] (bareName s) n := by
  unfold bareName
  split
  · exact .trueWord n
  · exact .falseWord n
  · exact .nullWord n
  · exact .name s n (by simp_all)

section
variable {finish : Nat} {tokens : List Token} (ht : ∀ l ∈ tokens.map Token.lexeme, l.IsRead)
  (ih : ∀ us : List Token, us.length < tokens.length → (∀ l ∈ us.map Token.lexeme, l.IsRead) →
    ReadsDerived finish us)
include ht ih

theorem operand_derives {room : Nat} {r : Taken Expr tokens} (h : operand finish room tokens = .ok r) :
    ∃ n used, room = n + 1 ∧ Takes tokens r.rest used ∧ Derives .operand used r.value n := by
  cases room with
  | zero => simp [operand] at h
  | succ n =>
    cases tokens with
    | nil => simp [operand, failAt] at h
    | cons t rest =>
      obtain ⟨l, position⟩ := t
      have hreads := ih rest (by simp) fun l hl => ht l (List.mem_cons_of_mem _ hl)
      refine ⟨n, ?_⟩
      rw [operand] at h
      split at h
      case h_1 op hop =>
        split at h
        · cases h
        · rename_i e rest' hlt he
          cases h
          obtain ⟨n, used, rfl, hu, hd⟩ := hreads.operand he
          exact ⟨l :: used, rfl, by simpa [Takes] using hu, .signed (sign_of_prefixOp? hop) hd⟩
      case h_2 =>
        split at h
        case h_1 v hv =>
          obtain rfl : l = .number v := hv
          cases h
          exact ⟨[.number v], rfl, rfl, .unsigned (.number v n)⟩
        case h_2 s hs =>
          obtain rfl : l = .text s := hs
          cases h
          exact ⟨[.text s], rfl, rfl, .unsigned (.text s n)⟩
        case h_3 s hs =>
          obtain rfl : l = .braced s := hs
          cases h
          exact ⟨[.braced s], rfl, rfl, .unsigned (.braced s n)⟩
        case h_4 s hs =>
          obtain rfl : l = .name s := hs
          split at h
          · rename_i position' inner
            split at h
            · cases h
            · rename_i args rest' hlt ha
              cases h
              have hinner := ih inner (by simp only [List.length_cons]; omega) fun l hl =>
                ht l (List.mem_cons_of_mem _ (List.mem_cons_of_mem _ hl))
              rcases hinner.arguments ha with ⟨rfl, hu⟩ | ⟨n, rfl, parts, -, rfl, hu, hd⟩
              · exact ⟨_, rfl, by simpa [Takes] using hu, .unsigned (.emptyCall s n)⟩
              · exact ⟨_, rfl, by simpa [Takes] using hu, .unsigned (.call s hd)⟩
          · cases h
            exact ⟨[.name s], rfl, rfl, .unsigned (derives_bareName s n)⟩
        case h_5 hl =>
          obtain rfl : l = .openParen := hl
          split at h
          · cases h
          · rename_i first more rest' hlt hc
            obtain ⟨n, used, rfl, hu, hs⟩ := hreads.chain hc
            split at h
            · cases h
              exact ⟨_, rfl, by simpa [Takes] using hu, .unsigned (.parens (.of_strung hs))⟩
            · cases h
        case h_6 => cases h

theorem chain_derives {room : Nat} {r : Taken (Expr × List (BinaryOp × Expr)) tokens}
    (h : chain finish room tokens = .ok r) :
    ∃ n used, room = n + 1 ∧ Takes tokens r.rest used ∧
      Strung (Derives .operand · · n) used r.value.1 r.value.2 := by
  rw [chain] at h
  split at h
  · cases h
  · rename_i first rest hlt ho
    obtain ⟨n, used, rfl, hu, hd⟩ := operand_derives ht ih ho
    refine ⟨n, ?_⟩
    split at h
    · rename_i op position rest' hlt'
      have hread : ∀ l ∈ (Lexeme.op op :: rest'.map Token.lexeme), l.IsRead := fun l hl =>
        ht l (hu ▸ List.mem_append_right _ hl)
      have hreads := ih rest' (by simp only [List.length_cons] at hlt'; omega) fun l hl =>
        hread l (List.mem_cons_of_mem _ hl)
      split at h
      · cases h
      · rename_i x more rest'' hlt'' hc
        cases h
        obtain ⟨_, used', hn, hu', hs⟩ := hreads.chain hc
        obtain rfl := Nat.succ.inj hn
        exact ⟨_, rfl, hu.trans hu', .cons hd (hread _ List.mem_cons_self) hs⟩
    · cases h
      exact ⟨used, rfl, hu, .last hd⟩

theorem argumentList_derives {room : Nat} {r : Taken (List Expr) tokens}
    (h : argumentList finish room tokens = .ok r) :
    ∃ n, room = n + 1 ∧ TakesArguments tokens r.rest r.value n := by
  rw [argumentList] at h
  split at h
  · cases h
  · rename_i first more rest hlt hc
    obtain ⟨n, used, rfl, hu, hs⟩ := chain_derives ht ih hc
    have hd : Derives (.level 1) used (group [] first more) n := .of_strung hs
    refine ⟨n, rfl, ?_⟩
    split at h
    · rename_i position rest' hlt'
      have hreads := ih rest' (by simp only [List.length_cons] at hlt'; omega) fun l hl =>
        ht l (hu ▸ List.mem_append_right _ (List.mem_cons_of_mem _ hl))
      split at h
      · cases h
      · rename_i args rest'' hlt'' ha
        cases h
        obtain ⟨_, hn, parts, hne, rfl, hu', hparts⟩ := hreads.argumentList ha
        obtain rfl := Nat.succ.inj hn
        obtain ⟨part, parts, rfl⟩ := List.exists_cons_of_ne_nil hne
        refine ⟨(used, group [] first more) :: part :: parts, by simp, rfl, ?_,
          List.forall_mem_cons.2 ⟨hd, hparts⟩⟩
        simpa using hu.trans hu'
    · cases h
      exact ⟨[(used, group [] first more)], by simp, rfl, by simpa [Takes] using hu, by simpa using hd⟩
    · cases h

theorem arguments_derives {room : Nat} {r : Taken (List Expr) tokens} (h : arguments finish room tokens = .ok r) :
    r.value = [] ∧ Takes tokens r.rest [.closeParen] ∨
      ∃ n, room = n + 1 ∧ TakesArguments tokens r.rest r.value n := by
  rw [arguments.eq_def] at h
  split at h
  · cases h
    exact .inl ⟨rfl, rfl⟩
  · exact .inr (argumentList_derives ht ih h)

end

/-- The readers call each other on what is left, which is shorter. -/
theorem readsDerived (finish : Nat) (tokens : List Token) (ht : ∀ l ∈ tokens.map Token.lexeme, l.IsRead) :
    ReadsDerived finish tokens := by
  induction hn : tokens.length using Nat.strong_induction_on generalizing tokens with
  | _ n ihn =>
    subst hn
    have ih (us : List Token) (hlt : us.length < tokens.length) (hus : ∀ l ∈ us.map Token.lexeme, l.IsRead) :
        ReadsDerived finish us := ihn us.length hlt us hus rfl
    exact ⟨operand_derives ht ih, chain_derives ht ih, argumentList_derives ht ih, arguments_derives ht ih⟩

end Soundness

open SheetQuery.Parser

theorem Derives.chain (h : Derives (.level 1) ts e n) (finish : Nat) {tokens : List Token}
    (ht : tokens.map Token.lexeme = ts) :
    ∃ r, chain finish (n + 1) tokens = .ok r ∧ r.rest = [] ∧ group [] r.value.1 r.value.2 = e := by
  obtain ⟨x, ms, hg, hs⟩ := h.readable
  obtain ⟨r, hr, hv, hrest⟩ := chain_of_strung hs finish [] (by simpa using ht) (by simp)
  exact ⟨r, hr, List.map_eq_nil_iff.1 hrest, by rw [hv, hg.group_eq]⟩

/-- Both trees come out of one reading, with room for the deeper of the two. -/
theorem Derives.unique {e' : Expr} {n' : Nat} (h : Derives (.level 1) ts e n) (h' : Derives (.level 1) ts e' n') :
    e = e' := by
  have ht : (ts.map (Token.mk · 0)).map Token.lexeme = ts := by simp [Function.comp_def]
  obtain ⟨r, hr, -, rfl⟩ := (h.mono (Nat.le_max_left n n')).chain 0 ht
  obtain ⟨r', hr', -, rfl⟩ := (h'.mono (Nat.le_max_right n n')).chain 0 ht
  rw [Except.ok.inj (hr.symm.trans hr')]

theorem formula_eq_ok_iff {s : TokenStream} (hs : ∀ l ∈ s.tokens.map Token.lexeme, l.IsRead) :
    formula s = .ok e ↔ Derives (.level 1) (s.tokens.map Token.lexeme) e (maxNesting - 1) := by
  unfold formula
  constructor
  · intro h
    split at h
    · cases h
    · split at h
      · cases h
      · rename_i first more rest hlt hc
        obtain ⟨n, used, hn, hu, hstrung⟩ := (readsDerived s.finish s.tokens hs).chain hc
        obtain rfl : maxNesting - 1 = n := by rw [hn]; rfl
        split at h
        · cases h
          rw [show s.tokens.map Token.lexeme = used by simpa [Takes] using hu]
          exact .of_strung hstrung
        · cases h
  · intro h
    obtain ⟨⟨⟨first, more⟩, rest, hlt⟩, hr, rfl, rfl⟩ := h.chain s.finish rfl
    split
    · rename_i hnil
      simp [hnil] at hlt
    · rw [show maxNesting = maxNesting - 1 + 1 from rfl, hr]

theorem parse_eq_ok_iff {text : String} {s : TokenStream} (h : Lexer.scan text = .ok s) :
    Expr.parse text = .ok e ↔ Derives (.level 1) (s.tokens.map Token.lexeme) e (maxNesting - 1) := by
  rw [Expr.parse_of_scan h]
  exact formula_eq_ok_iff (List.forall_mem_map.2 (Lexer.scan_isRead h))

theorem exists_scan_of_parse {text : String} (h : Expr.parse text = .ok e) : ∃ s, Lexer.scan text = .ok s := by
  unfold Expr.parse at h
  split at h
  · cases h
  · exact ⟨_, ‹_›⟩

end Formula

namespace Expr

open Formula

/-- Formula text is read exactly if its tokens derive an expression in which every operand lies inside fewer
than `maxNesting` parentheses, calls and prefix operators. It is read as that expression, and no other derives
from the tokens at any depth. -/
theorem parse_eq_ok_iff_derives {text : String} {s : TokenStream} (h : Lexer.scan text = .ok s) :
    (∀ e, parse text = .ok e ↔ Derives (.level 1) (s.tokens.map Token.lexeme) e (maxNesting - 1)) ∧
    ∀ e e' n n', Derives (.level 1) (s.tokens.map Token.lexeme) e n →
      Derives (.level 1) (s.tokens.map Token.lexeme) e' n' → e = e' :=
  ⟨fun _ => parse_eq_ok_iff h, fun _ _ _ _ => Derives.unique⟩

/-- Differences group to the left, and a product binds more tightly. -/
theorem difference_derives :
    let s : TokenStream := ⟨[⟨.name "a", 0⟩, ⟨.op .sub, 2⟩, ⟨.braced "b", 4⟩, ⟨.op .mul, 7⟩, ⟨.name "c", 8⟩,
      ⟨.op .sub, 10⟩, ⟨.op .sub, 12⟩, ⟨.name "F", 13⟩, ⟨.openParen, 14⟩, ⟨.name "null", 15⟩, ⟨.closeParen, 19⟩], 20⟩
    let e : Expr := .binary .sub (.binary .sub (.column "a") (.binary .mul (.column "b") (.column "c")))
      (.unary .minus (.call (some "F") [.literal .null]))
    Lexer.scan "a - \x7bb\x7d*c - -F(null)" = .ok s ∧
      Derives (.level 1) (s.tokens.map Token.lexeme) e (maxNesting - 1) := by
  intro s e
  have hs : Lexer.scan "a - \x7bb\x7d*c - -F(null)" = .ok s := by rfl
  have he : parse "a - \x7bb\x7d*c - -F(null)" = .ok e := (parse_of_scan hs).trans (by cbv)
  exact ⟨hs, ((parse_eq_ok_iff_derives hs).1 e).1 he⟩

end Expr

end SheetQuery
