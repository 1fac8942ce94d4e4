import SheetQuery.Proofs.CanonicalForm

/-! When an operand is kept whole. Read by precedence, an operator takes the whole text of a side as its
operand exactly if the side shows no operator outside brackets that binds looser, or on the right no
tighter. Expressions that are operators get parentheses; calls and prefix operators get none, and are
kept only if what they show allows it. -/

namespace SheetQuery.Sql

/-- All of a fragment is the left operand of an operator of another. -/
def KeepsLeft (d : Dialect) (o : InfixOp) (whole part : Fragment) : Prop :=
  ∃ L R, marks d part = some L ∧ marks d whole = some (L ++ Mark.operator (.between o) :: R) ∧
    leftReach o.level L = L

/-- All of a fragment is the right operand of an operator of another. -/
def KeepsRight (d : Dialect) (o : InfixOp) (whole part : Fragment) : Prop :=
  ∃ L R, marks d part = some R ∧ marks d whole = some (L ++ Mark.operator (.between o) :: R) ∧
    rightReach o.level R = R

/-- All of a fragment is the operand of a prefix operator at the head of another. -/
def KeepsUnder (d : Dialect) (u : Operator) (whole part : Fragment) : Prop :=
  ∃ R, marks d part = some R ∧ marks d whole = some (.operator u :: R) ∧ rightReach u.level R = R

/-- Expressions are the arguments of a call. -/
def KeepsArgs (d : Dialect) (name : String) (whole : Fragment) (args : List Fragment) : Prop :=
  ∃ Is, List.Forall₂ (fun f is => items d f = some is ∧ (marks d f).isSome = true) args Is ∧
    items d whole = some [.group name ([Item.comma].intercalate Is)]

/-- Operands with an operator between them. -/
def chain (o : InfixOp) (runs : List (List (Mark Item))) : List (Mark Item) :=
  [Mark.operator (.between o)].intercalate runs

/-- All of a fragment is an operand in a chain. The operator before it takes it and nothing more; the one
after it takes it up to its head, with what the chain holds before it. -/
def KeepsAmong (d : Dialect) (o : InfixOp) (whole : Fragment) (before : List Fragment) (part : Fragment)
    (after : List Fragment) : Prop :=
  ∃ Ls P Rs, List.Forall₂ (fun f ms => marks d f = some ms) before Ls ∧ marks d part = some P ∧
    List.Forall₂ (fun f ms => marks d f = some ms) after Rs ∧ marks d whole = some (chain o (Ls ++ P :: Rs)) ∧
    (after ≠ [] → P <:+ leftReach o.level (chain o (Ls ++ [P]))) ∧
    (before ≠ [] → rightReach o.level (chain o (P :: Rs)) = P)

theorem chain_cons (o : InfixOp) (ms : List (Mark Item)) (rest : List (List (Mark Item))) :
    chain o (ms :: rest) = ms ++ rest.flatMap (.operator (.between o) :: ·) := by
  induction rest generalizing ms with
  | nil => simp [chain]
  | cons ns rest ih => simpa [chain] using ih ns

theorem suffix_chain (o : InfixOp) (rest : List (List (Mark Item))) (ms : List (Mark Item)) :
    ms <:+ chain o (rest ++ [ms]) := by
  cases rest with
  | nil => simp [chain]
  | cons ns rest =>
    rw [List.cons_append, chain_cons, List.flatMap_append]
    exact ⟨ns ++ rest.flatMap (.operator (.between o) :: ·) ++ [.operator (.between o)], by simp⟩

/-- An operator after the first operand of a chain ends it on the right. -/
theorem rightReach_chain {o : InfixOp} {ms : List (Mark Item)} {rest : List (List (Mark Item))}
    (hself : rightReach o.level ms = ms) (hops : rest ≠ [] → ∀ u ∈ Mark.operators ms, o.level ≤ u.level) :
    rightReach o.level (chain o (ms :: rest)) = ms := by
  rw [chain_cons]
  cases rest with
  | nil => simpa using hself
  | cons ns rest => simpa using (rightReach_append_iff (le_refl o.level) (hops (by simp))).2 hself

namespace Doc

theorem items_list (gs : List Doc) : (Doc.list gs).items = [Item.comma].intercalate (gs.map items) := by
  induction gs with
  | nil => rfl
  | cons g gs ih =>
    cases gs with
    | nil => simp [Doc.list]
    | cons g' gs => simpa [Doc.list, items] using ih

theorem marks_joined (o : InfixOp) (g : Doc) (gs : List Doc) :
    (joined o (g :: gs)).marks = chain o ((g :: gs).map marks) := by
  rw [List.map_cons, chain_cons, joined]
  induction gs generalizing g with
  | nil => simp
  | cons g' gs ih => simp [ih]

theorem isExpr_joined {o : InfixOp} {g : Doc} {gs : List Doc} (hg : g.isExpr = true) (hgs : ∀ h ∈ gs, h.isExpr = true) :
    (joined o (g :: gs)).isExpr = true := by
  rw [joined]
  induction gs generalizing g with
  | nil => exact hg
  | cons g' gs ih =>
    obtain ⟨hg', hgs⟩ := List.forall_mem_cons.1 hgs
    exact ih (by simp [isExpr, hg, hg']) hgs

end Doc

section
variable {d : Dialect} {whole part : Fragment} {g g' : Doc} {gs : List Doc} {o : InfixOp}

/-- A layout can be read exactly if no two minus signs meet in it. -/
theorem Spells.marks_eq_some_iff (hs : Spells d part g) (hg : g.isExpr = true) {ms : List (Mark Item)} :
    marks d part = some ms ↔ g.comment noSign = false ∧ g.marks = ms := by
  cases hc : g.comment noSign with
  | true => simp [hs.marks_eq_none hc]
  | false => simp [hs.marks_eq hg hc]

theorem Spells.items_eq_some_iff (hs : Spells d part g) {is : List Item} :
    items d part = some is ↔ g.comment noSign = false ∧ g.items = is := by
  cases hc : g.comment noSign with
  | true => simp [hs.items_eq_none hc]
  | false => simp [hs.items_eq hc]

theorem keepsLeft_iff (hg : g.isExpr = true) (hg' : g'.isExpr = true) (hw : Spells d whole (.binary o g g'))
    (hp : Spells d part g) : KeepsLeft d o whole part ↔
      (Doc.binary o g g').comment noSign = false ∧ ∀ u ∈ g.operators, o.level ≤ u.level := by
  have he : (Doc.binary o g g').isExpr = true := by simp [Doc.isExpr, hg, hg']
  simp only [KeepsLeft, hp.marks_eq_some_iff hg, hw.marks_eq_some_iff he, Doc.marks_binary]
  constructor
  · rintro ⟨L, R, ⟨-, rfl⟩, ⟨hc, -⟩, hr⟩
    rw [leftReach_eq_self_iff, Doc.operators_marks] at hr
    exact ⟨hc, hr⟩
  · rintro ⟨hc, ho⟩
    have hcg : g.comment noSign = false := (Bool.or_eq_false_iff.1 hc).1
    refine ⟨g.marks, g'.marks, ⟨hcg, rfl⟩, ⟨hc, rfl⟩, ?_⟩
    rwa [leftReach_eq_self_iff, Doc.operators_marks]

theorem keepsRight_iff (hg : g.isExpr = true) (hg' : g'.isExpr = true) (hw : Spells d whole (.binary o g g'))
    (hp : Spells d part g') : KeepsRight d o whole part ↔
      (Doc.binary o g g').comment noSign = false ∧ unbroken o.level g'.operators = true := by
  have he : (Doc.binary o g g').isExpr = true := by simp [Doc.isExpr, hg, hg']
  simp only [KeepsRight, hp.marks_eq_some_iff hg', hw.marks_eq_some_iff he, Doc.marks_binary]
  constructor
  · rintro ⟨L, R, ⟨-, rfl⟩, ⟨hc, -⟩, hr⟩
    rw [rightReach_eq_self_iff, Doc.operators_marks] at hr
    exact ⟨hc, hr⟩
  · rintro ⟨hc, ho⟩
    have hcg : g'.comment noSign = false := (Bool.or_eq_false_iff.1 hc).2
    refine ⟨g.marks, g'.marks, ⟨hcg, rfl⟩, ⟨hc, rfl⟩, ?_⟩
    rwa [rightReach_eq_self_iff, Doc.operators_marks]

/-- A prefix operator before its operand. -/
theorem keepsUnder_iff {u : Operator} {h : Doc} (hg : g.isExpr = true) (hh : h.isExpr = true)
    (hm : h.marks = .operator u :: g.marks) (hc : h.comment noSign = false → g.comment noSign = false)
    (hw : Spells d whole h) (hp : Spells d part g) :
    KeepsUnder d u whole part ↔ h.comment noSign = false ∧ unbroken u.level g.operators = true := by
  simp only [KeepsUnder, hp.marks_eq_some_iff hg, hw.marks_eq_some_iff hh, hm]
  constructor
  · rintro ⟨R, ⟨-, rfl⟩, ⟨hch, -⟩, hr⟩
    rw [rightReach_eq_self_iff, Doc.operators_marks] at hr
    exact ⟨hch, hr⟩
  · rintro ⟨hch, ho⟩
    refine ⟨g.marks, ⟨hc hch, rfl⟩, ⟨hch, rfl⟩, ?_⟩
    rwa [rightReach_eq_self_iff, Doc.operators_marks]

theorem Spells.forall₂_read {fs : List Fragment} (hs : List.Forall₂ (Spells d) fs gs)
    (he : ∀ g ∈ gs, g.isExpr = true) (hc : ∀ g ∈ gs, g.comment noSign = false) :
    List.Forall₂ (fun f g => items d f = some g.items ∧ marks d f = some g.marks) fs gs := by
  induction hs with
  | nil => exact .nil
  | cons hf _ ih =>
    obtain ⟨⟨hg, hgs⟩, hcg, hcgs⟩ := And.intro (List.forall_mem_cons.1 he) (List.forall_mem_cons.1 hc)
    exact .cons ⟨hf.items_eq hcg, hf.marks_eq hg hcg⟩ (ih hgs hcgs)

theorem keepsArgs_iff (w : Word) {args : List Fragment} (hs : List.Forall₂ (Spells d) args gs)
    (he : ∀ g ∈ gs, g.isExpr = true) (hw : Spells d whole (.call w (.list gs))) :
    KeepsArgs d w.text whole args ↔ gs.any (·.comment noSign) = false := by
  have hcall : (Doc.call w (.list gs)).comment noSign = gs.any (·.comment noSign) := comment_list gs
  constructor
  · rintro ⟨Is, -, hwhole⟩
    rw [← hcall]
    exact (hw.items_eq_some_iff.1 hwhole).1
  · intro hc
    refine ⟨gs.map Doc.items, ?_, ?_⟩
    · have hread := Spells.forall₂_read hs he (by simpa using hc)
      exact List.forall₂_map_right_iff.2 (hread.imp fun f g h => ⟨h.1, by simp [h.2]⟩)
    · rw [hw.items_eq (hcall.trans hc), Doc.items, Doc.items_list]

theorem keepsAmong_iff {gs' : List Doc} {before after : List Fragment}
    (hs : List.Forall₂ (Spells d) before gs) (hp : Spells d part g)
    (hs' : List.Forall₂ (Spells d) after gs') (he : ∀ h ∈ gs ++ g :: gs', h.isExpr = true)
    (hw : Spells d whole (.joined o (gs ++ g :: gs'))) :
    KeepsAmong d o whole before part after ↔ (gs ++ g :: gs').any (·.comment noSign) = false ∧
      (after ≠ [] → ∀ u ∈ g.operators, o.level ≤ u.level) ∧
      (before ≠ [] → unbroken o.level g.operators = true) := by
  obtain ⟨h, hs₀, hhead⟩ : ∃ h hs₀, gs ++ g :: gs' = h :: hs₀ := List.exists_cons_of_ne_nil (by simp)
  have hexpr : (Doc.joined o (gs ++ g :: gs')).isExpr = true := by
    rw [hhead] at he ⊢
    exact Doc.isExpr_joined (List.forall_mem_cons.1 he).1 (List.forall_mem_cons.1 he).2
  have hmarks : (Doc.joined o (gs ++ g :: gs')).marks = chain o ((gs ++ g :: gs').map Doc.marks) := by
    rw [hhead, Doc.marks_joined]
  have hg : g.isExpr = true := he g (by simp)
  have hleft (Ls : List (List (Mark Item))) :
      g.marks <:+ leftReach o.level (chain o (Ls ++ [g.marks])) ↔ ∀ u ∈ g.operators, o.level ≤ u.level := by
    rw [suffix_leftReach_iff (suffix_chain o Ls g.marks), Doc.operators_marks]
  constructor
  · rintro ⟨Ls, P, Rs, -, hP, -, hwhole, hl, hr⟩
    obtain ⟨-, rfl⟩ := (hp.marks_eq_some_iff hg).1 hP
    obtain ⟨hc, -⟩ := (hw.marks_eq_some_iff hexpr).1 hwhole
    refine ⟨by rwa [comment_joined] at hc, fun ha => (hleft Ls).1 (hl ha), fun hb => ?_⟩
    have hreach := hr hb
    rw [chain_cons] at hreach
    rw [← Doc.operators_marks, ← rightReach_eq_self_iff]
    exact rightReach_eq_self_of_append hreach
  · rintro ⟨hc, hl, hr⟩
    have hcs : ∀ h ∈ gs ++ g :: gs', h.comment noSign = false := fun h hh =>
      Bool.eq_false_iff.2 (List.any_eq_false.1 hc h hh)
    have hbefore := Spells.forall₂_read hs (fun h hh => he h (by simp [hh])) (fun h hh => hcs h (by simp [hh]))
    have hafter := Spells.forall₂_read hs' (fun h hh => he h (by simp [hh])) (fun h hh => hcs h (by simp [hh]))
    refine ⟨gs.map Doc.marks, g.marks, gs'.map Doc.marks,
      List.forall₂_map_right_iff.2 (hbefore.imp fun _ _ => And.right), hp.marks_eq hg (hcs g (by simp)),
      List.forall₂_map_right_iff.2 (hafter.imp fun _ _ => And.right), ?_,
      fun ha => (hleft _).2 (hl ha), fun hb => rightReach_chain ?_ fun hrest => ?_⟩
    · rw [hw.marks_eq hexpr (by rwa [comment_joined]), hmarks]
      simp
    · rw [rightReach_eq_self_iff, Doc.operators_marks]
      exact hr hb
    · have ha : after ≠ [] := by
        rintro rfl
        cases hs'
        exact hrest rfl
      rw [Doc.operators_marks]
      exact hl ha

end

def partText (d : Dialect) (x : Operand) : Fragment :=
  match d with
  | .postgres | .mssql => (x.value d).result
  | .mysql => "IFNULL(" ++ (x.value d).result ++ ", '')"
  | .oracle => (x.grouped d).result
  | .sqlite =>
    if x.expr.calledName = some "CONCAT" then (x.grouped d).result
    else "COALESCE(" ++ (x.grouped d).result ++ ", '')"

def partFace (d : Dialect) (s : Sketch) : Face :=
  match d with
  | .postgres | .mssql => s.value d
  | .mysql => .closed s.face.comment
  | .oracle => s.grouped d
  | .sqlite => if s.expr.calledName = some "CONCAT" then s.grouped d else .closed s.face.comment

theorem comment_partFace (d : Dialect) (s : Sketch) : (partFace d s).comment = s.face.comment := by
  cases d
  case sqlite =>
    simp only [partFace]
    split <;> simp [Face.closed]
  all_goals simp [partFace, Face.closed]

theorem partText_drawn {d : Dialect} {x : Operand} {s : Sketch} (m : Matches d noSign x s) :
    Drawn d noSign (partText d x) (partFace d s) := by
  cases d
  case postgres | mssql => exact m.value
  case oracle => exact m.grouped
  case mysql =>
    have hv := m.value.inside
    rw [Sketch.comment_value] at hv
    exact (guarded_closed (.of "IFNULL" (by decide)) (by simp) rfl hv).value rfl
  case sqlite =>
    have hg := m.grouped
    simp only [partText, partFace, m.expr]
    split
    · exact hg
    · have hi := hg.inside
      rw [Sketch.comment_grouped] at hi
      exact (guarded_closed (.of "COALESCE" (by decide)) (by simp) rfl hi).value rfl

def joinsByOperator (d : Dialect) : Bool := d = .oracle ∨ d = .sqlite

/-- What stands between the commas of a concatenation. SQL Server wants at least two parts. -/
def listedTexts (d : Dialect) (xs : List Operand) : List Fragment :=
  if d = .mssql ∧ xs.length < 2 then xs.map (partText d) ++ [.raw "''"] else xs.map (partText d)

theorem concat_operator {d : Dialect} (hd : joinsByOperator d = true) (xs : List Operand) :
    (concat d xs).result = piped (xs.map (partText d)) := by
  cases d
  case oracle =>
    have hpart : partText .oracle = fun x => (x.grouped .oracle).result := rfl
    simp [concat, hpart, Function.comp_def]
  case sqlite =>
    have hpart : partText .sqlite = fun x : Operand => if x.expr.calledName = some "CONCAT" then
      (x.grouped .sqlite).result else "COALESCE(" ++ (x.grouped .sqlite).result ++ ", '')" := rfl
    simp [concat, hpart, Function.comp_def]
  all_goals simp [joinsByOperator] at hd

theorem concat_function {d : Dialect} (hd : joinsByOperator d = false) (xs : List Operand) :
    (concat d xs).result = callText "CONCAT" (listedTexts d xs) := by
  cases d
  case postgres =>
    have hpart : partText .postgres = fun x => (x.value .postgres).result := rfl
    simp [concat, nativeCall, values, listedTexts, hpart, Function.comp_def]
  case mysql =>
    have hpart : partText .mysql = fun x : Operand => "IFNULL(" ++ (x.value .mysql).result ++ ", '')" := rfl
    simp [concat, values, listedTexts, hpart, Function.comp_def]
  case mssql =>
    have hpart : partText .mssql = fun x => (x.value .mssql).result := rfl
    simp [concat, values, listedTexts, hpart, Function.comp_def]
  all_goals simp [joinsByOperator] at hd

/-- The parts of a concatenation are laid out as expressions. -/
theorem partTexts_spelled {d : Dialect} {xs : List Operand} {ss : List Sketch} (m : MatchesAll d noSign xs ss) :
    ∃ gs, List.Forall₂ (Spells d) (xs.map (partText d)) gs ∧ (∀ g ∈ gs, g.isExpr = true) ∧
      gs.any (·.comment noSign) = anyComment ss := by
  induction m with
  | nil => exact ⟨[], .nil, by simp, rfl⟩
  | @cons x s xs ss h _ ih =>
    obtain ⟨g, hg, hs, hf⟩ := partText_drawn h
    obtain ⟨gs, hss, hgs, hc⟩ := ih
    have hcg : g.comment noSign = s.face.comment := by rw [← comment_partFace d s, ← hf, Doc.face]
    refine ⟨g :: gs, .cons hs hss, List.forall_mem_cons.2 ⟨hg, hgs⟩, ?_⟩
    simp only [List.any_cons, hcg, hc, anyComment]

theorem keepsArgs_concat_iff {d : Dialect} {xs : List Operand} {ss : List Sketch} (m : MatchesAll d noSign xs ss)
    (hd : joinsByOperator d = false) :
    KeepsArgs d "CONCAT" (concat d xs).result (listedTexts d xs) ↔ anyComment ss = false := by
  obtain ⟨gs, hs, hgs, hc⟩ := partTexts_spelled m
  have hlisted : ∃ gs', List.Forall₂ (Spells d) (listedTexts d xs) gs' ∧ (∀ g ∈ gs', g.isExpr = true) ∧
      gs'.any (·.comment noSign) = anyComment ss := by
    unfold listedTexts
    split
    · refine ⟨gs ++ [.text ""], List.rel_append hs (.cons Spells.quotes .nil), ?_, by simp [hc]⟩
      exact List.forall_mem_append.2 ⟨hgs, by simp [Doc.isExpr]⟩
    · exact ⟨gs, hs, hgs, hc⟩
  obtain ⟨gs', hs', hgs', hc'⟩ := hlisted
  have hw : Spells d (concat d xs).result (.call (.of "CONCAT") (.list gs')) := by
    rw [concat_function hd]
    exact .callText (.of "CONCAT") hs'
  rw [← hc']
  exact keepsArgs_iff (.of "CONCAT") hs' hgs' hw

/-- A part of a concatenation by the operator, within its parentheses. -/
theorem keepsAmong_piped_iff {d : Dialect} {before after : List Operand} {x : Operand} {sb sa : List Sketch}
    {s : Sketch} (mb : MatchesAll d noSign before sb) (m : Matches d noSign x s)
    (ma : MatchesAll d noSign after sa) :
    ∃ f, piped ((before ++ x :: after).map (partText d)) =
        (if (before ++ after).isEmpty then f else f.parenthesized) ∧
      (KeepsAmong d .pipe f (before.map (partText d)) (partText d x) (after.map (partText d)) ↔
        anyComment (sb ++ s :: sa) = false ∧
          (after ≠ [] → ∀ u ∈ (partFace d s).operators, InfixOp.pipe.level ≤ u.level) ∧
          (before ≠ [] → unbroken InfixOp.pipe.level (partFace d s).operators = true)) := by
  obtain ⟨gb, hb, hgb, hcb⟩ := partTexts_spelled mb
  obtain ⟨g, hg, hs, hf⟩ := partText_drawn m
  obtain ⟨ga, ha, hga, hca⟩ := partTexts_spelled ma
  have hexpr : ∀ h ∈ gb ++ g :: ga, h.isExpr = true :=
    List.forall_mem_append.2 ⟨hgb, List.forall_mem_cons.2 ⟨hg, hga⟩⟩
  have hcomment : (gb ++ g :: ga).any (·.comment noSign) = anyComment (sb ++ s :: sa) := by
    have hcg : g.comment noSign = s.face.comment := by rw [← comment_partFace d s, ← hf, Doc.face]
    simp only [List.any_append, List.any_cons, hcb, hcg, hca, anyComment]
  have hkeeps {f : Fragment} (hw : Spells d f (.joined .pipe (gb ++ g :: ga))) :=
    keepsAmong_iff hb hs ha hexpr hw
  simp only [hcomment, ne_eq, List.map_eq_nil_iff] at hkeeps
  rw [← hf]
  by_cases hone : before ++ after = []
  · obtain ⟨rfl, rfl⟩ := List.append_eq_nil_iff.1 hone
    cases hb
    cases ha
    exact ⟨partText d x, rfl, hkeeps hs⟩
  · refine ⟨Fragment.join " || " ((before ++ x :: after).map (partText d)), ?_, hkeeps ?_⟩
    · rcases before with _ | ⟨y, _ | ⟨z, before⟩⟩ <;> rcases after with _ | ⟨w, after⟩
      case nil.nil => exact absurd rfl hone
      all_goals rfl
    · refine .joined .pipe _ (by simp [InfixOp.text]) ?_
      rw [List.map_append, List.map_cons]
      exact List.rel_append hb (.cons hs ha)

section
variable {d : Dialect} {x y : Operand} {s t : Sketch} {op : BinaryOp} {o : InfixOp}
  (m : Matches d noSign x s) (m' : Matches d noSign y t)
include m m'

theorem keepsLeft_side_iff (ho : infixOf? d op = some o) :
    KeepsLeft d o (binary d op x y).result (sideOf d op false x).result ↔
      (binaryFace d op s t).comment = false ∧ ∀ u ∈ (s.under d op false).operators, o.level ≤ u.level := by
  obtain ⟨g, hg, hs, hf⟩ := m.side op false
  obtain ⟨g', hg', hs', hf'⟩ := m'.side op true
  rw [keepsLeft_iff hg hg' (binary_spelled ho hs hs') hs, binaryFace_infixOp ho, ← hf, ← hf']
  rfl

theorem keepsRight_side_iff (ho : infixOf? d op = some o) :
    KeepsRight d o (binary d op x y).result (sideOf d op true y).result ↔
      (binaryFace d op s t).comment = false ∧ unbroken o.level (t.under d op true).operators = true := by
  obtain ⟨g, hg, hs, hf⟩ := m.side op false
  obtain ⟨g', hg', hs', hf'⟩ := m'.side op true
  rw [keepsRight_iff hg hg' (binary_spelled ho hs hs') hs', binaryFace_infixOp ho, ← hf, ← hf']
  rfl

/-- The remainder where it is a function. -/
theorem keepsArgs_remainder_iff (hd : d.hasPercent = false) :
    KeepsArgs d "MOD" (binary d .mod x y).result [(x.value d).result, (y.value d).result] ↔
      (binaryFace d .mod s t).comment = false := by
  obtain ⟨g, hg, hs, hf⟩ := m.value
  obtain ⟨g', hg', hs', hf'⟩ := m'.value
  have hw : Spells d (binary d .mod x y).result (.call (.of "MOD" (by decide)) (.listed g g')) := by
    constructor
    · simp [binary, remainder, hd, hs.text, hs'.text]
    · simp [binary, remainder, hd, hs.bindings, hs'.bindings]
  have hc := congrArg Face.comment hf
  have hc' := congrArg Face.comment hf'
  simp only [Doc.face, Sketch.comment_value] at hc hc'
  rw [show "MOD" = (Word.of "MOD" (by decide)).text from rfl,
    keepsArgs_iff _ (.cons hs (.cons hs' .nil)) (by simp [hg, hg']) hw]
  simp [binaryFace, infixOf?, hd, anyComment, Face.closed, hc, hc']

end

section
variable {d : Dialect} {x : Operand} {s : Sketch} (m : Matches d noSign x s)
include m

theorem keepsUnder_minus_iff (hn : s.expr.asNumber? = none) :
    KeepsUnder d .minus (unary d .minus x).result (x.grouped d).result ↔
      (unaryFace d noSign .minus s).comment = false ∧
        unbroken Operator.minus.level (s.grouped d).operators = true := by
  obtain ⟨g, hg, hs, hf⟩ := m.grouped
  have hw : (unary d .minus x).result = "-" ++ (x.grouped d).result := by simp [unary, m.expr, hn]
  have hsw : Spells d (unary d .minus x).result (.minus g) := by
    rw [hw]
    exact ⟨by simp [hs.text], by simp [hs.bindings]⟩
  have hc (h : (Doc.minus g).comment noSign = false) : g.comment noSign = false := (Bool.or_eq_false_iff.1 h).2
  rw [keepsUnder_iff (h := .minus g) hg hg rfl hc hsw hs, ← hf, unaryFace, hn]
  simp [Face.minus, ← hf, Doc.face]

/-- NOT is put before a condition in parentheses. -/
theorem keepsUnder_not_iff :
    KeepsUnder d .not (unary d .not x).result (x.condition d).result.parenthesized ↔ s.face.comment = false := by
  obtain ⟨g, -, hs, hf⟩ := m.condition
  have hw : Spells d (unary d .not x).result (.not (.parens g)) := by
    constructor
    · simp [unary, hs.text]
    · simp [unary, hs.bindings]
  have hc := congrArg Face.comment hf
  simp only [Doc.face, Sketch.comment_condition] at hc
  rw [keepsUnder_iff (g := .parens g) (h := .not (.parens g)) rfl rfl rfl id hw hs.parenthesized]
  simp [hc, Doc.operators, unbroken]

end

end SheetQuery.Sql
