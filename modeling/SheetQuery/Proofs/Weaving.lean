import SheetQuery.Proofs.Layout
import SheetQuery.Proofs.Lexemes

/-! Fragments side by side. A relation on fragments that putting fixed text around and between them keeps is kept
by every place that an operand can be put in. Fixed text is not quite free: next to what may end in a quote it shows
a character of its own, so that no two quoted parts meet. Of results that come with notices something is said only
if the relation bears names and symbols of any kind. -/

namespace SheetQuery

/-- Results that stand in a relation. If `loud` holds they all do, with the same notices; else those do that come
without notices. -/
structure Noted.Twin {α β : Type} (loud : Prop) (S : α → β → Prop) (m : Noted α) (m' : Noted β) : Prop where
  quiet : m.notices = [] ↔ m'.notices = []
  notices : loud → m.notices = m'.notices
  result : m.notices = [] ∨ loud → S m.result m'.result

namespace Noted.Twin

variable {α β γ δ : Type} {loud : Prop} {S : α → β → Prop} {T : γ → δ → Prop} {m : Noted α} {m' : Noted β}

theorem eq {m m' : Noted α} (h : Twin True Eq m m') : m = m' := by
  have hr := h.result (.inr trivial)
  have hn := h.notices trivial
  cases m
  cases m'
  simp_all

theorem refl {S : α → α → Prop} (h : ∀ a, S a a) (m : Noted α) : Twin loud S m m :=
  ⟨Iff.rfl, fun _ => rfl, fun _ => h _⟩

theorem pure {a : α} {b : β} (h : S a b) : Twin loud S (Pure.pure a : Noted α) (Pure.pure b : Noted β) :=
  ⟨Iff.rfl, fun _ => rfl, fun _ => h⟩

theorem bind {k : α → Noted γ} {k' : β → Noted δ} (h : Twin loud S m m')
    (hk : ∀ {a b}, S a b → Twin loud T (k a) (k' b)) : Twin loud T (m >>= k) (m' >>= k') := by
  refine ⟨?_, fun hl => ?_, ?_⟩
  · rw [notices_bind, notices_bind, List.append_eq_nil_iff, List.append_eq_nil_iff, ← h.quiet]
    exact and_congr_right fun hm => (hk (h.result (.inl hm))).quiet
  · rw [notices_bind, notices_bind, h.notices hl, (hk (h.result (.inr hl))).notices hl]
  · rintro (hq | hl)
    · rw [notices_bind, List.append_eq_nil_iff] at hq
      exact (hk (h.result (.inl hq.1))).result (.inl hq.2)
    · exact (hk (h.result (.inr hl))).result (.inr hl)

theorem map {k : α → γ} {k' : β → δ} (h : Twin loud S m m') (hk : ∀ {a b}, S a b → T (k a) (k' b)) :
    Twin loud T (k <$> m) (k' <$> m') :=
  h.bind fun hab => .pure (hk hab)

/-- Both come with a notice. -/
theorem after (n : Notice) {k : Unit → Noted γ} {k' : Unit → Noted δ} (hk : loud → Twin loud T (k ()) (k' ())) :
    Twin loud T (notice n >>= k) (notice n >>= k') := by
  refine ⟨by simp [notice], fun hl => ?_, ?_⟩
  · rw [notices_bind, notices_bind]
    exact congrArg (n :: ·) ((hk hl).notices hl)
  · rintro (hq | hl)
    · simp [notice] at hq
    · exact (hk hl).result (.inr hl)

theorem all {ms : List (Noted α)} {ms' : List (Noted β)} (h : List.Forall₂ (Twin loud S) ms ms') :
    Twin loud (List.Forall₂ S) (all ms) (all ms') := by
  induction h with
  | nil => exact ⟨Iff.rfl, fun _ => rfl, fun _ => .nil⟩
  | cons hm _ ih =>
    obtain ⟨hq, hn, hr⟩ := ih
    simp only [notices_all, result_all] at hq hn hr
    refine ⟨?_, fun hl => ?_, ?_⟩
    · simp only [notices_all, List.flatMap_cons, List.append_eq_nil_iff]
      exact and_congr hm.quiet hq
    · simp only [notices_all, List.flatMap_cons, hm.notices hl, hn hl]
    · rintro (hall | hl)
      · simp only [notices_all, List.flatMap_cons, List.append_eq_nil_iff] at hall
        exact .cons (hm.result (.inl hall.1)) (hr (.inl hall.2))
      · exact .cons (hm.result (.inr hl)) (hr (.inr hl))

end Noted.Twin

namespace Sql

/-- The characters that stand for themselves in every dialect. -/
def isPlain (c : Char) : Bool := !(['\'', '"', '\x60', '[', ']', '\\', '$', '#'].contains c)

/-- Where fixed text stands with respect to the texts in it: outside them behind a character, inside one or right
behind one. -/
inductive Seam
  | outside (before : Char)
  | inside
  | behind

/-- Whether every text that is opened is closed, none follows on a word or on another text, and all else is of the
characters `p`, with no block comment. -/
def isSound (p : Char → Bool) : Seam → List Char → Bool
  | .inside, [] => false
  | _, [] => true
  | .outside b, c :: cs =>
    if c = '\'' then separates b && isSound p .inside cs
    else p c && !(b == '/' && c == '*') && isSound p (.outside c) cs
  | .inside, c :: cs => if c = '\'' then isSound p .behind cs else c != '\\' && isSound p .inside cs
  | .behind, c :: cs => c != '\'' && p c && isSound p (.outside c) cs

def startsBare (cs : List Char) : Bool := cs.head?.any fun c => c != '\'' && c != '*'

def endsBare (cs : List Char) : Bool := cs.getLast?.any fun c => separates c && c != '/'

def isFixed (p : Char → Bool) (cs : List Char) : Bool := isSound p (.outside ' ') cs

def opensOperand (p : Char → Bool) (cs : List Char) : Bool := isFixed p cs && endsBare cs

def closesOperand (p : Char → Bool) (cs : List Char) : Bool := isFixed p cs && startsBare cs

def partsOperands (p : Char → Bool) (cs : List Char) : Bool := opensOperand p cs && startsBare cs

/-- A text whose characters pass a test. A literal is given by its characters at once, without reading them off it. -/
def Spelled (q : List Char → Bool) (s : String) : Prop := ∃ cs, s = .ofList cs ∧ q cs = true

theorem Spelled.mono {q q' : List Char → Bool} (hq : ∀ cs, q cs = true → q' cs = true) {s : String}
    (h : Spelled q s) : Spelled q' s := by
  obtain ⟨cs, hs, hcs⟩ := h
  exact ⟨cs, hs, hq cs hcs⟩

theorem Spelled.of_toList {q : List Char → Bool} {s : String} (h : q s.toList = true) : Spelled q s :=
  ⟨s.toList, String.ofList_toList.symm, h⟩

theorem isBare_of_isPlain (d : Dialect) {c : Char} (h : isPlain c = true) : isBare d c = true := by
  simp_all [isBare, isPlain]

theorem isSound_isBare (d : Dialect) {m : Seam} {cs : List Char} (h : isSound isPlain m cs = true) :
    isSound (isBare d) m cs = true := by
  fun_induction isSound isPlain m cs with
  | case1 => exact h
  | case2 => simp [isSound]
  | _ => simp_all [isSound, isBare_of_isPlain]

theorem isFixed_isBare (d : Dialect) {cs : List Char} (h : isFixed isPlain cs = true) :
    isFixed (isBare d) cs = true :=
  isSound_isBare d h

/-- The characters of words: they may stand anywhere in fixed text. -/
def isLetter (c : Char) : Bool := !(['\'', '"', '\x60', '[', ']', '\\', '$', '#', '/', '*'].contains c)

def isPlainWord (cs : List Char) : Bool := !cs.isEmpty && cs.all isLetter

section
variable {c : Char} {ws as bs : List Char}

theorem isLetter_iff : isLetter c = true ↔ isPlain c = true ∧ c ≠ '/' ∧ c ≠ '*' ∧ c ≠ '\'' ∧ c ≠ '\\' := by
  simp only [isLetter, isPlain, Bool.not_eq_true', List.contains_eq_mem, decide_eq_false_iff_not, List.mem_cons,
    List.not_mem_nil, or_false, not_or]
  tauto

/-- No text follows on a letter, so what may follow on one may follow on all. -/
theorem isSound_letter (hc : isLetter c = true) (h : isSound isPlain (.outside 'x') bs = true) :
    isSound isPlain (.outside c) bs = true := by
  cases bs with
  | nil => rfl
  | cons b bs =>
    have hslash : c ≠ '/' := (isLetter_iff.1 hc).2.1
    by_cases hb : b = '\''
    · simp [isSound, hb, separates] at h
    · simpa [isSound, hb, hslash] using h

theorem isSound_letters (hws : ∀ c ∈ ws, isLetter c = true) (hc : isLetter c = true)
    (h : isSound isPlain (.outside 'x') bs = true) : isSound isPlain (.outside c) (ws ++ bs) = true := by
  induction ws generalizing c with
  | nil => exact isSound_letter hc h
  | cons w ws ih =>
    rw [List.forall_mem_cons] at hws
    obtain ⟨hplain, _, hstar, hquote, _⟩ := isLetter_iff.1 hws.1
    simp [isSound, hquote, hplain, hstar, ih hws.2 hws.1]

theorem isSound_inside (hws : ∀ c ∈ ws, isLetter c = true) :
    isSound isPlain .inside (ws ++ bs) = isSound isPlain .inside bs := by
  induction ws with
  | nil => rfl
  | cons w ws ih =>
    rw [List.forall_mem_cons] at hws
    obtain ⟨_, _, _, hquote, hslash⟩ := isLetter_iff.1 hws.1
    simp [isSound, hquote, hslash, ih hws.2]

variable (hw : isPlainWord ws = true)
include hw

theorem isSound_word {m : Seam} (h : isSound isPlain m (as ++ 'x' :: bs) = true) :
    isSound isPlain m (as ++ (ws ++ bs)) = true := by
  obtain ⟨hne, hall⟩ : ws ≠ [] ∧ ∀ c ∈ ws, isLetter c = true := by simpa [isPlainWord] using hw
  induction as generalizing m with
  | cons c as ih =>
    cases m with
    | inside =>
      simp only [List.cons_append, isSound] at h ⊢
      split at h <;> simp_all
    | outside b =>
      simp only [List.cons_append, isSound] at h ⊢
      split at h <;> simp_all
    | behind =>
      simp only [List.cons_append, isSound] at h ⊢
      simp_all
  | nil =>
    rw [List.nil_append] at h ⊢
    cases m with
    | inside => simpa [isSound, isSound_inside hall] using h
    | _ =>
      obtain ⟨c, cs, rfl⟩ := List.exists_cons_of_ne_nil hne
      rw [List.forall_mem_cons] at hall
      obtain ⟨hplain, _, hstar, hquote, _⟩ := isLetter_iff.1 hall.1
      have hrest : isSound isPlain (.outside 'x') bs = true := by simp_all [isSound]
      simp [isSound, hquote, hplain, hstar, isSound_letters hall.2 hall.1 hrest]

theorem isFixed_word : isFixed isPlain ws = true := by
  have h : isFixed isPlain ([] ++ (ws ++ [])) = true := isSound_word hw (by decide)
  rwa [List.nil_append, List.append_nil] at h

theorem startsBare_word (h : startsBare (as ++ 'x' :: bs) = true) : startsBare (as ++ (ws ++ bs)) = true := by
  obtain ⟨hne, hall⟩ : ws ≠ [] ∧ ∀ c ∈ ws, isLetter c = true := by simpa [isPlainWord] using hw
  obtain ⟨c, cs, rfl⟩ := List.exists_cons_of_ne_nil hne
  obtain ⟨_, _, hstar, hquote, _⟩ := isLetter_iff.1 (hall c List.mem_cons_self)
  cases as with
  | nil => simp [startsBare, hstar, hquote]
  | cons => exact h

omit hw in
theorem endsBare_word (h : endsBare (as ++ 'x' :: bs) = true) : endsBare (as ++ (ws ++ bs)) = true := by
  rcases List.eq_nil_or_concat' bs with rfl | ⟨bs, b, rfl⟩
  · simp [endsBare, separates] at h
  · have hlast : ('x' :: (bs ++ [b])).getLast? = some b := by rw [← List.cons_append, List.getLast?_concat]
    simpa [endsBare, List.getLast?_append, hlast] using h

end

/-- A relation on fragments that fixed text around and between them keeps, and if `loud` holds any text. -/
structure Weaving (d : Dialect) (loud : Prop) (R : Fragment → Fragment → Prop) : Prop where
  isPredicate {f f' : Fragment} : R f f' → f.isPredicate = f'.isPredicate
  startsGroup {f f' : Fragment} : R f f' → f.text.startsWith '(' = f'.text.startsWith '('
  asPredicate {f f' : Fragment} : R f f' → R f.asPredicate f'.asPredicate
  asValue {f f' : Fragment} : R f f' → R f.asValue f'.asValue
  bind (v : Binding) : R (.bind v) (.bind v)
  fixed {s : String} : Spelled (isFixed (isBare d)) s → R (.raw s) (.raw s)
  before {s : String} {f f' : Fragment} : Spelled (opensOperand (isBare d)) s → R f f' → R (s ++ f) (s ++ f')
  behind {s : String} {f f' : Fragment} : Spelled (closesOperand (isBare d)) s → R f f' → R (f ++ s) (f' ++ s)
  between {s : String} {f f' g g' : Fragment} : Spelled (partsOperands (isBare d)) s → R f f' → R g g' →
    R (f ++ s ++ g) (f' ++ s ++ g')
  /-- Oracle's paths into JSON documents are written into the text. -/
  path (s : String) {f f' : Fragment} : d = .oracle → R f f' →
    R (f ++ (", '" ++ Text.replaceChar '\'' ['\'', '\''] s ++ "')"))
      (f' ++ (", '" ++ Text.replaceChar '\'' ['\'', '\''] s ++ "')"))
  /-- Functions that are not in the table are called by their own names. -/
  headed (s : String) {f f' : Fragment} : loud → R f f' → R (s ++ f) (s ++ f')
  /-- Operators that are not in the language are written as they are. -/
  filled (pattern : String) {fs fs' : List Fragment} : loud → List.Forall₂ R fs fs' →
    R (.template pattern fs) (.template pattern fs')

/-- Equality is kept by whatever is put around fragments. -/
theorem weaving_eq (d : Dialect) (loud : Prop) : Weaving d loud Eq where
  isPredicate h := h ▸ rfl
  startsGroup h := h ▸ rfl
  asPredicate h := h ▸ rfl
  asValue h := h ▸ rfl
  bind _ := rfl
  fixed _ := rfl
  before _ h := h ▸ rfl
  behind _ h := h ▸ rfl
  between _ h h' := h ▸ h' ▸ rfl
  path _ := fun _ h => h ▸ rfl
  headed _ := fun _ h => h ▸ rfl
  filled pattern := fun _ h => by rw [List.forall₂_eq_eq_eq] at h; rw [h]

/-- Fixed text of every dialect. -/
abbrev Opens (s : String) : Prop := Spelled (opensOperand isPlain) s

abbrev Closes (s : String) : Prop := Spelled (closesOperand isPlain) s

abbrev Parts (s : String) : Prop := Spelled (partsOperands isPlain) s

abbrev IsWord (s : String) : Prop := Spelled isPlainWord s

section
variable {a b w : String} {as ws bs : List Char} (ha : a = .ofList as) (hb : b = .ofList bs)
include ha hb

theorem Spelled.glue {q : List Char → Bool} (hw : w = .ofList ws) (h : q (as ++ (ws ++ bs)) = true) :
    Spelled q (a ++ w ++ b) := by
  refine ⟨as ++ (ws ++ bs), ?_, h⟩
  rw [ha, hw, hb, String.ofList_append, String.ofList_append, String.append_assoc]

/-- Fixed text with a word in it is judged as if the word were a letter. -/
theorem Spelled.word {q : List Char → Bool} (hw : IsWord w)
    (hq : ∀ ws, isPlainWord ws = true → q (as ++ 'x' :: bs) = true → q (as ++ (ws ++ bs)) = true)
    (h : q (as ++ 'x' :: bs) = true) : Spelled q (a ++ w ++ b) := by
  obtain ⟨ws, hws, hplain⟩ := hw
  exact .glue ha hb hws (hq ws hplain h)

end

section
variable {a b w : String} {as bs : List Char} (hw : IsWord w) (ha : a = .ofList as) (hb : b = .ofList bs)
include hw ha hb

theorem Opens.word (h : opensOperand isPlain (as ++ 'x' :: bs) = true) : Opens (a ++ w ++ b) :=
  Spelled.word ha hb hw (fun ws hws h => by
    simp only [opensOperand, Bool.and_eq_true] at h ⊢
    exact ⟨isSound_word hws h.1, endsBare_word h.2⟩) h

theorem Closes.word (h : closesOperand isPlain (as ++ 'x' :: bs) = true) : Closes (a ++ w ++ b) :=
  Spelled.word ha hb hw (fun ws hws h => by
    simp only [closesOperand, Bool.and_eq_true] at h ⊢
    exact ⟨isSound_word hws h.1, startsBare_word hws h.2⟩) h

theorem Parts.word (h : partsOperands isPlain (as ++ 'x' :: bs) = true) : Parts (a ++ w ++ b) :=
  Spelled.word ha hb hw (fun ws hws h => by
    simp only [partsOperands, opensOperand, Bool.and_eq_true] at h ⊢
    exact ⟨⟨isSound_word hws h.1.1, endsBare_word h.1.2⟩, startsBare_word hws h.2⟩) h

end

namespace Weaving

variable {d : Dialect} {loud : Prop} {R : Fragment → Fragment → Prop} (w : Weaving d loud R) {f f' g g' k k' : Fragment}
include w

section
variable {s : String}

theorem opening (hs : Opens s) (h : R f f') : R (s ++ f) (s ++ f') := by
  refine w.before (hs.mono fun cs hcs => ?_) h
  rw [opensOperand, Bool.and_eq_true] at hcs ⊢
  exact ⟨isFixed_isBare d hcs.1, hcs.2⟩

theorem closing (hs : Closes s) (h : R f f') : R (f ++ s) (f' ++ s) := by
  refine w.behind (hs.mono fun cs hcs => ?_) h
  rw [closesOperand, Bool.and_eq_true] at hcs ⊢
  exact ⟨isFixed_isBare d hcs.1, hcs.2⟩

theorem parting (hs : Parts s) (h : R f f') (h' : R g g') : R (f ++ s ++ g) (f' ++ s ++ g') := by
  refine w.between (hs.mono fun cs hcs => ?_) h h'
  simp only [partsOperands, opensOperand, Bool.and_eq_true] at hcs ⊢
  exact ⟨⟨isFixed_isBare d hcs.1.1, hcs.1.2⟩, hcs.2⟩

theorem plainText (hs : Spelled (isFixed isPlain) s) : R (.raw s) (.raw s) :=
  w.fixed (hs.mono fun _ => isFixed_isBare d)

end

/-! Text that is a literal is checked by evaluation. -/

section
variable {s t u v : List Char}

theorem plain (hs : isFixed isPlain s = true) : R (.raw (.ofList s)) (.raw (.ofList s)) := w.plainText ⟨s, rfl, hs⟩

theorem opened (h : R f f') (hs : opensOperand isPlain s = true) : R (String.ofList s ++ f) (String.ofList s ++ f') :=
  w.opening ⟨s, rfl, hs⟩ h

theorem closed (h : R f f') (hs : closesOperand isPlain s = true) : R (f ++ String.ofList s) (f' ++ String.ofList s) :=
  w.closing ⟨s, rfl, hs⟩ h

theorem parted (h : R f f') (h' : R g g') (hs : partsOperands isPlain s = true) :
    R (f ++ String.ofList s ++ g) (f' ++ String.ofList s ++ g') :=
  w.parting ⟨s, rfl, hs⟩ h h'

theorem wrap (h : R f f') (hs : opensOperand isPlain s = true) (ht : closesOperand isPlain t = true) :
    R (String.ofList s ++ f ++ String.ofList t) (String.ofList s ++ f' ++ String.ofList t) :=
  w.closed (w.opened h hs) ht

theorem wrap₂ (h : R f f') (h' : R g g') (hs : opensOperand isPlain s = true) (ht : partsOperands isPlain t = true)
    (hu : closesOperand isPlain u = true) :
    R (String.ofList s ++ f ++ String.ofList t ++ g ++ String.ofList u)
      (String.ofList s ++ f' ++ String.ofList t ++ g' ++ String.ofList u) :=
  w.closed (w.parted (w.opened h hs) h' ht) hu

theorem wrap₃ (h : R f f') (h' : R g g') (hk : R k k') (hs : opensOperand isPlain s = true)
    (ht : partsOperands isPlain t = true) (hu : partsOperands isPlain u = true)
    (hv : closesOperand isPlain v = true) :
    R (String.ofList s ++ f ++ String.ofList t ++ g ++ String.ofList u ++ k ++ String.ofList v)
      (String.ofList s ++ f' ++ String.ofList t ++ g' ++ String.ofList u ++ k' ++ String.ofList v) :=
  w.closed (w.parted (w.parted (w.opened h hs) h' ht) hk hu) hv

end

theorem null : R .null .null := w.plain rfl

theorem parenthesized (h : R f f') : R f.parenthesized f'.parenthesized := by
  have hparen : R ("(" ++ f ++ ")") ("(" ++ f' ++ ")") := w.wrap h rfl rfl
  have hshape (f : Fragment) : f.parenthesized =
      if f.isPredicate then ("(" ++ f ++ ")" : Fragment).asPredicate else ("(" ++ f ++ ")" : Fragment) := by
    cases f with
    | mk text bindings shape => cases shape <;> rfl
  rw [hshape, hshape, ← w.isPredicate h]
  split
  · exact w.asPredicate hparen
  · exact hparen

theorem groupIf (b : Bool) (h : R f f') : R (groupIf b f) (groupIf b f') := by
  cases b
  · exact h
  · exact w.parenthesized h

theorem toValue (h : R f f') : R (Sql.asValue d f) (Sql.asValue d f') := by
  unfold Sql.asValue
  rw [w.isPredicate h]
  split
  · exact w.wrap h rfl rfl
  · exact w.asValue h

theorem toCondition (h : R f f') : R (asCondition d f) (asCondition d f') := by
  unfold asCondition
  rw [w.isPredicate h]
  split
  · exact h
  · cases d
    case postgres => exact w.asPredicate (w.wrap h rfl rfl)
    case mysql | sqlite => exact w.asPredicate h
    case mssql | oracle => exact w.asPredicate (w.closed h rfl)

theorem castTo {type : List Char} (h : R f f') (ht : isPlainWord type = true) :
    R (castTo (.ofList type) f) (castTo (.ofList type) f') :=
  w.closing (.word ⟨type, rfl, ht⟩ rfl rfl rfl) (w.opened h rfl)

theorem castFloat (h : R f f') : R (castFloat d f) (castFloat d f') := by
  cases d <;> exact w.castTo h rfl

theorem castText (h : R f f') : R (castText d f) (castText d f') := by
  cases d <;> exact w.castTo h rfl

theorem remainder (h : R f f') (h' : R g g') : R (remainder d f g) (remainder d f' g') := by
  unfold Sql.remainder
  split
  · exact w.parted h h' rfl
  · exact w.wrap₂ h h' rfl rfl rfl

theorem groupedRemainder (h : R f f') (h' : R g g') : R (groupedRemainder d f g) (groupedRemainder d f' g') :=
  w.groupIf _ (w.remainder h h')

theorem oneIf (h : R f f') : R (oneIf f) (oneIf f') := w.wrap h rfl rfl

theorem joining {s : String} {fs fs' : List Fragment} (hs : Parts s) (h : List.Forall₂ R fs fs') :
    R (.join s fs) (.join s fs') := by
  have hchain {a a' : Fragment} (ha : R a a') {fs fs' : List Fragment} (h : List.Forall₂ R fs fs') :
      R (fs.foldl (fun acc g => acc ++ s ++ g) a) (fs'.foldl (fun acc g => acc ++ s ++ g) a') := by
    induction h generalizing a a' with
    | nil => exact ha
    | cons hf _ ih => exact ih (w.parting hs ha hf)
  cases h with
  | nil => exact w.plain rfl
  | cons hf h => exact hchain (w.asValue hf) h

theorem join {s : List Char} {fs fs' : List Fragment} (h : List.Forall₂ R fs fs')
    (hs : partsOperands isPlain s = true) : R (.join (.ofList s) fs) (.join (.ofList s) fs') :=
  w.joining ⟨s, rfl, hs⟩ h

theorem callText {name : List Char} {fs fs' : List Fragment} (h : List.Forall₂ R fs fs')
    (hn : isPlainWord name = true) : R (callText (.ofList name) fs) (callText (.ofList name) fs') := by
  have hopens : Opens ("" ++ .ofList name ++ "(") := .word ⟨name, rfl, hn⟩ rfl rfl rfl
  rw [String.empty_append] at hopens
  exact w.closed (w.opening hopens (w.join h rfl)) rfl

end Weaving

end Sql

/-- Expressions between which a place for an operand sees no difference. -/
structure Expr.Kin (e e' : Expr) : Prop where
  isOperation : Sql.isOperation e = Sql.isOperation e'
  clashesUnder (op : BinaryOp) (right : Bool) : Sql.clashesUnder op right e = Sql.clashesUnder op right e'
  calledName : e.calledName = e'.calledName

namespace Expr.Kin

theorem refl (e : Expr) : e.Kin e := ⟨rfl, fun _ _ => rfl, rfl⟩

theorem binary (op : BinaryOp) (l r l' r' : Expr) : Kin (.binary op l r) (.binary op l' r') :=
  ⟨rfl, fun _ _ => rfl, rfl⟩

theorem call (name : Option String) (args args' : List Expr) : Kin (.call name args) (.call name args') :=
  ⟨rfl, fun _ _ => rfl, by cases name <;> rfl⟩

end Expr.Kin

/-- Operands whose SQL stands in a relation. -/
structure Operand.Twin (loud : Prop) (R : Fragment → Fragment → Prop) (x x' : Operand) : Prop where
  expr : x.expr.Kin x'.expr
  sql : x.sql.Twin loud R x'.sql

namespace Operand.Twin

open Sql

variable {d : Dialect} {loud : Prop} {R : Fragment → Fragment → Prop} {x x' y y' : Operand} (w : Weaving d loud R)
include w

theorem literal (v : Literal) : (Operand.literal v).Twin loud R (.literal v) := by
  refine ⟨.refl _, .pure ?_⟩
  cases v with
  | null => exact w.null
  | _ => exact w.bind _

theorem null : Operand.null.Twin loud R .null := literal w _

theorem value (h : x.Twin loud R x') : (x.value d).Twin loud R (x'.value d) := h.sql.map w.toValue

theorem grouped (h : x.Twin loud R x') : (x.grouped d).Twin loud R (x'.grouped d) :=
  (h.value w).map fun hf => by rw [h.expr.isOperation]; exact w.groupIf _ hf

theorem condition (h : x.Twin loud R x') : (x.condition d).Twin loud R (x'.condition d) :=
  h.sql.map fun hf => by
    rw [h.expr.isOperation, w.isPredicate hf]
    exact w.toCondition (w.groupIf _ hf)

theorem groupedCondition (h : x.Twin loud R x') : (x.groupedCondition d).Twin loud R (x'.groupedCondition d) :=
  (h.condition w).map fun hf => by
    rw [h.expr.isOperation, w.startsGroup hf]
    exact w.groupIf _ hf

theorem valueUnder (h : x.Twin loud R x') (op : BinaryOp) (right : Bool) :
    (x.valueUnder d op right).Twin loud R (x'.valueUnder d op right) :=
  h.sql.map fun hf => by rw [h.expr.clashesUnder]; exact w.toValue (w.groupIf _ hf)

theorem conditionUnder (h : x.Twin loud R x') (op : BinaryOp) (right : Bool) :
    (x.conditionUnder d op right).Twin loud R (x'.conditionUnder d op right) :=
  h.sql.map fun hf => by rw [h.expr.clashesUnder]; exact w.toCondition (w.groupIf _ hf)

theorem joined {op : BinaryOp} (h : x.Twin loud R x') (h' : y.Twin loud R y')
    (hop : Parts (" " ++ op.symbol ++ " ")) :
    (joined d op x y).Twin loud R (joined d op x' y') where
  expr := .binary op _ _ _ _
  sql := (h.valueUnder w op false).bind fun hl => (h'.valueUnder w op true).bind fun hr => .pure (w.parting hop hl hr)

end Operand.Twin

namespace Sql

variable {d : Dialect} {loud : Prop} {R : Fragment → Fragment → Prop} {args args' : List Operand} (w : Weaving d loud R)
  (h : List.Forall₂ (Operand.Twin loud R) args args')
include h

theorem getElem?_twin (i : Nat) : Option.Rel (Operand.Twin loud R) args[i]? args'[i]? := by
  induction h generalizing i with
  | nil => simp
  | cons hx _ ih =>
    cases i with
    | zero => simpa using Option.Rel.some hx
    | succ i => simpa using ih i

include w

theorem getD_twin (i : Nat) : (args.getD i .null).Twin loud R (args'.getD i .null) := by
  have hi := getElem?_twin h i
  simp only [List.getD_eq_getElem?_getD]
  generalize args[i]? = x, args'[i]? = x' at hi
  cases hi with
  | some hx => exact hx
  | none => exact .null w

theorem arg_twin (i : Nat) : (arg d args i).Twin loud R (arg d args' i) := (getD_twin w h i).value w

theorem groupedArg_twin (i : Nat) : (groupedArg d args i).Twin loud R (groupedArg d args' i) :=
  (getD_twin w h i).grouped w

omit w in
/-- The SQL of all arguments, each in its place. -/
theorem all_twin {place place' : Operand → Noted Fragment}
    (hp : ∀ {x x'}, Operand.Twin loud R x x' → (place x).Twin loud R (place' x')) :
    (Noted.all (args.map place)).Twin loud (List.Forall₂ R) (Noted.all (args'.map place')) :=
  .all (List.rel_map (fun _ _ hx => hp hx) h)

theorem values_twin : (values d args).Twin loud (List.Forall₂ R) (values d args') := all_twin h fun hx => hx.value w

theorem nativeCall_twin {name : List Char} (hn : isPlainWord name = true) :
    (nativeCall d (.ofList name) args).Twin loud R (nativeCall d (.ofList name) args') :=
  (values_twin w h).map fun hv => w.callText hv hn

end Sql

end SheetQuery
