import SheetQuery.Proofs.OperatorStructure

/-! Concatenation and NULL. The dialects join texts by a function or by an operator, and not all of them take NULL for
the empty text. Read back and evaluated, the SQL of a concatenation gives in every dialect the texts of its leaves one
after another. -/

namespace SheetQuery

namespace Sql

/-- Texts one after another; `none` is NULL and counts as the empty text. -/
def joinTexts (vs : List (Option String)) : String := String.join (vs.map (·.getD ""))

@[simp] theorem joinTexts_nil : joinTexts [] = "" := rfl

@[simp]
theorem joinTexts_cons (v : Option String) (vs : List (Option String)) :
    joinTexts (v :: vs) = v.getD "" ++ joinTexts vs := by
  simp [joinTexts, String.join_cons]

@[simp]
theorem joinTexts_append (vs ws : List (Option String)) : joinTexts (vs ++ ws) = joinTexts vs ++ joinTexts ws := by
  simp [joinTexts, String.join_append]

theorem joinTexts_filled (vs : List (Option String)) : joinTexts (vs.map fun v => some (v.getD "")) = joinTexts vs := by
  simp [joinTexts, Function.comp_def]

/-- What the function CONCAT gives. In MySQL one NULL makes it NULL; PostgreSQL and SQL Server take NULL for the empty
text, and SQL Server asks for two arguments. -/
def concatValue (d : Dialect) (vs : List (Option String)) : Option (Option String) :=
  match d with
  | .mysql => some (if none ∈ vs then none else some (joinTexts vs))
  | .postgres => some (some (joinTexts vs))
  | .mssql => if 2 ≤ vs.length then some (some (joinTexts vs)) else none
  | .sqlite | .oracle => none

/-- Where no argument is NULL, all dialects that have the function agree on it. -/
theorem concatValue_filled (vs : List (Option String)) :
    concatValue .mysql (vs.map fun v => some (v.getD "")) = some (some (joinTexts vs)) := by
  have hnone : none ∉ vs.map fun v => some (v.getD "") := by simp
  rw [concatValue, if_neg hnone, joinTexts_filled]

/-- What the operator `||` gives. In SQLite one NULL makes it NULL; Oracle takes NULL for the empty text. -/
def pipeValue (d : Dialect) (v w : Option String) : Option (Option String) :=
  match d with
  | .sqlite => some (v.bind fun s => w.map (s ++ ·))
  | .oracle => some (some (v.getD "" ++ w.getD ""))
  | .mysql | .postgres | .mssql => none

def callValue (d : Dialect) : String → List (Option String) → Option (Option String)
  | "", [v] => some v
  | "IFNULL", [v, w] => if d = .mysql ∨ d = .sqlite then some (v.or w) else none
  | "COALESCE", vs => some (vs.findSome? id)
  | "CONCAT", vs => concatValue d vs
  | _, _ => none

section
variable (d : Dialect) (table : Option String) (row : String → Option String)

mutual

/-- The text that a tree of SQL stands for in a row of the table, if it is made of texts. -/
def Term.textValue : Term → Option (Option String)
  | .value (.text s) | .text s => some (some s)
  | .name c => some (row c)
  | .run [.name t, .word ".", .name c] => if table = some t then some (row c) else none
  | .binary .pipe l r => do
    let v ← Term.textValue l
    let w ← Term.textValue r
    pipeValue d v w
  | .group n ps => (Term.partValues "" ps).bind (callValue d n)
  | _ => none

def Term.partValues (sep : String) : List (String × Term) → Option (List (Option String))
  | [] => some []
  | (s, t) :: ps =>
    if s = sep then do
      let v ← Term.textValue t
      let vs ← Term.partValues "," ps
      return v :: vs
    else none

end

def Doc.Tells (g : Doc) (v : Option String) : Prop := ∃ t, g.Reads t ∧ t.textValue d table row = some v

end

namespace Doc.Tells

variable {d : Dialect} {table : Option String} {row : String → Option String} {g : Doc} {v w : Option String}
  {gs : List Doc} {vs : List (Option String)}

attribute [local simp] Term.textValue Term.partValues

theorem value (s : String) : (Doc.value (.text s)).Tells d table row (some s) := ⟨_, .value _, rfl⟩

theorem text (s : String) : (Doc.text s).Tells d table row (some s) := ⟨_, .text _, rfl⟩

theorem column (name : String) : (Doc.column table name).Tells d table row (row name) := by
  refine ⟨_, .column table name, ?_⟩
  cases table <;> simp

/-- The parts of a list with commas, a separator `s` standing before it. -/
theorem parted (h : List.Forall₂ (Doc.Tells d table row) gs vs) (hne : gs ≠ []) (s : String) :
    ∃ ps, Parted s (Doc.list gs).items ps ∧ Term.partValues d table row s ps = some vs := by
  induction h generalizing s with
  | nil => exact absurd rfl hne
  | @cons g v gs vs hg h ih =>
    obtain ⟨t, ht, hv⟩ := hg
    cases h with
    | nil => exact ⟨_, .one ht.items, by simp [hv]⟩
    | @cons g' v' gs vs hg' h =>
      obtain ⟨ps, hp, hvs⟩ := ih (by simp) ","
      exact ⟨_, .more (x := .comma) ht.items rfl hp, by simp [hv, hvs]⟩

theorem called (h : List.Forall₂ (Doc.Tells d table row) gs vs) (hne : gs ≠ []) {word : Word}
    (hv : callValue d word.text vs = some v) : (Doc.call word (.list gs)).Tells d table row v := by
  obtain ⟨ps, hp, hvs⟩ := parted h hne ""
  exact ⟨_, .call hp, by simp [hvs, hv]⟩

theorem parens (h : g.Tells d table row v) : (Doc.parens g).Tells d table row v := by
  obtain ⟨t, ht, hv⟩ := h
  exact ⟨_, ht.parens, by simp [hv, callValue]⟩

/-- A part that counts as the empty text if it is NULL. -/
theorem guarded (h : g.Tells d table row v) {word : Word}
    (hword : word.text = "COALESCE" ∨ word.text = "IFNULL" ∧ d = .mysql) :
    (Doc.guarded word g).Tells d table row (some (v.getD "")) := by
  have hparts : List.Forall₂ (Doc.Tells d table row) [g, .text ""] [v, some ""] := .cons h (.cons (text "") .nil)
  refine called hparts (by simp) ?_
  rcases hword with hword | ⟨hword, rfl⟩ <;> cases v <;> simp [hword, callValue]

/-- A chain of the concatenation operator. -/
theorem foldl_pipe (h : g.Tells d table row v) (hg : ∀ u ∈ g.operators, InfixOp.pipe.level ≤ u.level)
    (hs : List.Forall₂ (Doc.Tells d table row) gs vs) (hgs : ∀ g ∈ gs, g.operators = [])
    (hw : vs.foldlM (pipeValue d) v = some w) : (gs.foldl (.binary .pipe) g).Tells d table row w := by
  induction hs generalizing g v with
  | nil =>
    obtain rfl : v = w := by simpa using hw
    exact h
  | @cons g' v' gs vs hg' _ ih =>
    obtain ⟨x, hx, hxs⟩ : ∃ x, pipeValue d v v' = some x ∧ vs.foldlM (pipeValue d) x = some w := by
      simpa [Option.bind_eq_some_iff] using hw
    obtain ⟨t, ht, hv⟩ := h
    obtain ⟨t', ht', hv'⟩ := hg'
    have ho := hgs g' (by simp)
    refine ih ⟨_, ht.binary ht' hg (by rw [ho]; rfl), ?_⟩ ?_ (fun x hx => hgs x (by simp [hx])) hxs
    · simp [hv, hv', hx]
    · simp only [Doc.operators, ho, List.mem_append, List.mem_singleton, or_imp, forall_and, forall_eq]
      exact ⟨hg, Nat.le_refl _⟩

end Doc.Tells

/-- Two parts with the operator between them. Where NULL spoils the whole, neither part is NULL. -/
theorem exists_pipeValue {d : Dialect} {v w : Option String} (h : d = .oracle ∨ d = .sqlite ∧ v ≠ none ∧ w ≠ none) :
    ∃ x, pipeValue d v w = some (some x) ∧ x = v.getD "" ++ w.getD "" := by
  rcases h with rfl | ⟨rfl, hv, hw⟩
  · exact ⟨_, rfl, rfl⟩
  · obtain ⟨a, rfl⟩ := Option.ne_none_iff_exists'.1 hv
    obtain ⟨b, rfl⟩ := Option.ne_none_iff_exists'.1 hw
    exact ⟨_, rfl, rfl⟩

theorem exists_foldlM_pipeValue {d : Dialect} {v : Option String} {vs : List (Option String)}
    (h : d = .oracle ∨ d = .sqlite ∧ v ≠ none ∧ ∀ w ∈ vs, w ≠ none) : ∃ x, vs.foldlM (pipeValue d) v = some x ∧
      x.getD "" = v.getD "" ++ joinTexts vs ∧ (v ≠ none → x ≠ none) := by
  induction vs generalizing v with
  | nil => exact ⟨v, rfl, by simp, id⟩
  | cons w vs ih =>
    obtain ⟨y, hy, rfl⟩ := exists_pipeValue (v := v) (w := w)
      (h.imp_right fun ⟨hd, hv, hvs⟩ => ⟨hd, hv, hvs w (by simp)⟩)
    obtain ⟨x, hx, hjoin, hnull⟩ := ih (v := some (v.getD "" ++ w.getD ""))
      (h.imp_right fun ⟨hd, _, hvs⟩ => ⟨hd, by simp, fun z hz => hvs z (by simp [hz])⟩)
    refine ⟨x, by simp [hy, hx], ?_, fun _ => hnull (by simp)⟩
    simp [hjoin, String.append_assoc]

/-- A fragment that stands for a text and shows no operators outside brackets. -/
def Told (d : Dialect) (table : Option String) (row : String → Option String) (f : Fragment) (v : Option String) :
    Prop :=
  ∃ g : Doc, Spells d f g ∧ g.comment noSign = false ∧ g.operators = [] ∧ g.Tells d table row v

namespace Told

variable {d : Dialect} {table : Option String} {row : String → Option String} {f : Fragment} {v : Option String}
  {es : List Expr} {part : Expr → Fragment} {value : Expr → Option String}

theorem asValue (h : Told d table row f v) : Told d table row f.asValue v := by
  obtain ⟨g, hs, hc, ho, hg⟩ := h
  exact ⟨g, hs.asValue, hc, ho, hg⟩

theorem quotes : Told d table row (.raw "''") (some "") :=
  ⟨.text "", ⟨rfl, rfl⟩, rfl, rfl, .text ""⟩

theorem coalesced (h : Told d table row f v) : Told d table row ("COALESCE(" ++ f ++ ", '')") (some (v.getD "")) := by
  obtain ⟨g, hs, hc, -, hg⟩ := h
  exact ⟨_, .guarded (.of "COALESCE" (by decide)) (by simp) rfl hs, by simpa [Doc.guarded] using hc, rfl,
    hg.guarded (.inl rfl)⟩

theorem ifNull (h : Told .mysql table row f v) :
    Told .mysql table row ("IFNULL(" ++ f ++ ", '')") (some (v.getD "")) := by
  obtain ⟨g, hs, hc, -, hg⟩ := h
  exact ⟨_, .guarded (.of "IFNULL" (by decide)) (by simp) rfl hs, by simpa [Doc.guarded] using hc, rfl,
    hg.guarded (.inr ⟨rfl, rfl⟩)⟩

/-- The layouts of parts that stand for texts. -/
theorem layouts {fs : List Fragment} {vs : List (Option String)} (h : List.Forall₂ (Told d table row) fs vs) :
    ∃ gs : List Doc, List.Forall₂ (Spells d) fs gs ∧ gs.any (·.comment noSign) = false ∧
      (∀ g ∈ gs, g.operators = []) ∧ List.Forall₂ (Doc.Tells d table row) gs vs := by
  induction h with
  | nil => exact ⟨[], .nil, rfl, by simp, .nil⟩
  | cons hf _ ih =>
    obtain ⟨g, hs, hc, ho, hg⟩ := hf
    obtain ⟨gs, hss, hcs, hos, hgs⟩ := ih
    exact ⟨g :: gs, .cons hs hss, by simp [hc, hcs], List.forall_mem_cons.2 ⟨ho, hos⟩, .cons hg hgs⟩

/-- A concatenation by the function. -/
theorem called {fs : List Fragment} {vs : List (Option String)} (h : List.Forall₂ (Told d table row) fs vs)
    (hne : fs ≠ []) (hv : concatValue d vs = some v) : Told d table row (callText "CONCAT" fs) v := by
  obtain ⟨gs, hs, hc, -, hg⟩ := layouts h
  have hgs : gs ≠ [] := by
    rintro rfl
    cases hs
    exact hne rfl
  exact ⟨_, .callText (.of "CONCAT" (by decide)) hs, by simpa [comment_list] using hc, rfl,
    .called hg hgs (by simpa [callValue] using hv)⟩

/-- A concatenation by the operator. Where NULL spoils the whole, no part is NULL. -/
theorem piped {fs : List Fragment} {vs : List (Option String)} (h : List.Forall₂ (Told d table row) fs vs)
    (hne : fs ≠ []) (hd : d = .oracle ∨ d = .sqlite ∧ ∀ w ∈ vs, w ≠ none) :
    ∃ x, Told d table row (Sql.piped fs) x ∧ x.getD "" = joinTexts vs ∧ (d ≠ .oracle → x ≠ none) := by
  obtain ⟨gs, hs, hc, ho, hg⟩ := layouts h
  have hspelled : Spells d (Sql.piped fs) (.piped gs) := .piped hs
  rcases hg with _ | ⟨hfirst, hrest⟩
  · cases hs
    exact absurd rfl hne
  rename_i g v gs vs
  rw [List.forall_mem_cons] at ho hd
  obtain ⟨x, hx, hjoin, hnull⟩ := exists_foldlM_pipeValue hd
  have hchain : (gs.foldl (.binary .pipe) g).Tells d table row x :=
    hfirst.foldl_pipe (by simp [ho.1]) hrest ho.2 hx
  refine ⟨x, ?_, by rw [hjoin, joinTexts_cons], fun horacle => hnull (hd.resolve_left horacle).2.1⟩
  cases gs with
  | nil => exact ⟨g, hspelled, by simpa using hc, ho.1, hchain⟩
  | cons g' gs => exact ⟨_, hspelled, (comment_joined .pipe (g :: g' :: gs)).trans hc, rfl, hchain.parens⟩

/-- SQL Server is given a second part if there is only one. -/
theorem padded {fs : List Fragment} {vs : List (Option String)} (h : List.Forall₂ (Told d table row) fs vs)
    (hne : fs ≠ []) :
    ∃ ws, List.Forall₂ (Told d table row) (if fs.length < 2 then fs ++ [Fragment.raw "''"] else fs) ws ∧
      2 ≤ ws.length ∧ joinTexts ws = joinTexts vs := by
  have hlength := h.length_eq
  have hpos : 0 < fs.length := List.length_pos_iff.2 hne
  split
  · refine ⟨vs ++ [some ""], List.rel_append h (.cons quotes .nil), ?_, by simp⟩
    simp only [List.length_append, List.length_singleton]
    omega
  · exact ⟨vs, h, by omega, rfl⟩

end Told

end Sql

namespace Expr

mutual

def leafTexts (row : String → Option String) : Expr → List (Option String)
  | column c => [row c]
  | literal (.text s) => [some s]
  | binary _ l r => leafTexts row l ++ leafTexts row r
  | call _ args => leafTextsAll row args
  | _ => []

def leafTextsAll (row : String → Option String) : List Expr → List (Option String)
  | [] => []
  | e :: es => leafTexts row e ++ leafTextsAll row es

end

theorem leafTextsAll_eq_flatMap (row : String → Option String) (es : List Expr) :
    leafTextsAll row es = es.flatMap (leafTexts row) := by
  induction es with
  | nil => rfl
  | cons e es ih => rw [leafTextsAll, ih, List.flatMap_cons]

/-- Texts and columns, joined by `&` and by calls of CONCAT. -/
inductive IsJoin : Expr → Prop
  | column (name : String) : IsJoin (.column name)
  | text (s : String) : IsJoin (.text s)
  | ampersand {l r : Expr} (left : IsJoin l) (right : IsJoin r) : IsJoin (.binary .concat l r)
  | call {name : String} {args : List Expr} (called : Text.upper name = "CONCAT") (nonempty : args ≠ [])
    (parts : ∀ a ∈ args, IsJoin a) : IsJoin (.call (some name) args)

end Expr

namespace Sql

open Canonical SheetQuery.Expr

/-- What the SQL of a text has to be to stand in a concatenation. Only a leaf may be NULL, except in Oracle. -/
structure Joins (d : Dialect) (names : Naming) (row : String → Option String) (e : Expr) : Prop where
  told : ∃ v, Told d names.tableAlias row (write d names e).result v ∧ v.getD "" = joinTexts (e.leafTexts row) ∧
    (e.calledName = some "CONCAT" → d ≠ .oracle → v ≠ none)
  isPredicate : (write d names e).result.isPredicate = false
  isOperation : isOperation e = false

namespace Joins

variable {d : Dialect} {names : Naming} {row : String → Option String} {e : Expr} {es : List Expr}

theorem text (s : String) : Joins d names row (.text s) where
  told := ⟨some s, ⟨.value (.text s), .bind _, rfl, rfl, .value s⟩, by simp [leafTexts, Expr.text], by simp⟩
  isPredicate := rfl
  isOperation := rfl

theorem column (name : String) : Joins d names row (.column name) where
  told := ⟨row name, ⟨.column names.tableAlias name, .column names name, rfl, rfl, .column name⟩,
    by simp [leafTexts], by simp [calledName]⟩
  isPredicate := isPredicate_columnText names name
  isOperation := rfl

/-- As a value and within other SQL, what joins is written as it is. -/
theorem asValue_eq (h : Joins d names row e) :
    asValue d (write d names e).result = (write d names e).result.asValue := by
  simp [asValue, h.isPredicate]

theorem value_eq (h : Joins d names row e) :
    (Operand.value d ⟨e, write d names e⟩).result = (write d names e).result.asValue :=
  h.asValue_eq

theorem grouped_eq (h : Joins d names row e) :
    (Operand.grouped d ⟨e, write d names e⟩).result = (write d names e).result.asValue := by
  simp [Operand.grouped, h.value_eq, h.isOperation, groupIf]

theorem joinTexts_map {value : Expr → Option String}
    (h : ∀ a ∈ es, (value a).getD "" = joinTexts (a.leafTexts row)) :
    joinTexts (es.map value) = joinTexts (leafTextsAll row es) := by
  induction es with
  | nil => rfl
  | cons a es ih =>
    rw [List.forall_mem_cons] at h
    simp [leafTextsAll, h.1, ih h.2]

theorem write_called {name : String} (hname : Text.upper name = "CONCAT") (es : List Expr) :
    write d names (.call (some name) es) = write d names (.call (some "CONCAT") es) := by
  have hupper : Text.upper "CONCAT" = "CONCAT" := by decide
  have hbuiltin : Builtin.ofName? "CONCAT" = some .concat := by decide
  simp only [write, call, hname, hupper, hbuiltin]

theorem concat (hne : es ≠ []) (h : ∀ a ∈ es, Joins d names row a) :
    ∃ v, Told d names.tableAlias row (Sql.concat d (es.map fun e => ⟨e, write d names e⟩)).result v ∧
      v.getD "" = joinTexts (leafTextsAll row es) ∧ (d ≠ .oracle → v ≠ none) := by
  choose! value htold hjoin hnull using fun a ha => (h a ha).told
  have hall : joinTexts (es.map value) = joinTexts (leafTextsAll row es) := joinTexts_map hjoin
  have hparts : List.Forall₂ (Told d names.tableAlias row) (es.map fun a => (write d names a).result.asValue)
      (es.map value) := by
    rw [List.forall₂_map_left_iff, List.forall₂_map_right_iff, List.forall₂_same]
    exact fun a ha => (htold a ha).asValue
  have hvalues : (values d (es.map fun e => ⟨e, write d names e⟩)).result =
      es.map fun a => (write d names a).result.asValue := by
    simpa [values, Function.comp_def] using fun a ha => (h a ha).value_eq
  have hne' : (es.map fun a => (write d names a).result.asValue) ≠ [] := by simpa using hne
  cases d
  case postgres =>
    have hcall := Told.called hparts hne' (v := some (joinTexts (es.map value))) rfl
    rw [← hvalues] at hcall
    exact ⟨_, hcall, hall, by simp⟩
  case mysql =>
    have hfilled := List.forall₂_map_left_iff.2 (List.forall₂_map_right_iff.2 (hparts.imp fun _ _ hf => hf.ifNull))
    have hcall := Told.called hfilled (by simpa using hne) (concatValue_filled (es.map value))
    rw [← hvalues] at hcall
    exact ⟨_, hcall, hall, by simp⟩
  case mssql =>
    obtain ⟨ws, hpadded, htwo, hws⟩ := Told.padded hparts hne'
    have hcall := Told.called hpadded (by split <;> simp [hne]) (v := some (joinTexts ws))
      (by simp [concatValue, htwo])
    rw [← hvalues] at hcall
    exact ⟨_, hcall, hws.trans hall, by simp⟩
  case oracle =>
    obtain ⟨x, hx, hjoined, -⟩ := Told.piped hparts hne' (.inl rfl)
    refine ⟨x, ?_, hjoined.trans hall, by simp⟩
    have hgrouped : (es.map fun a => (Operand.grouped .oracle ⟨a, write .oracle names a⟩).result) =
        es.map fun a => (write .oracle names a).result.asValue := List.map_congr_left fun a ha => (h a ha).grouped_eq
    simpa [Sql.concat, Function.comp_def, hgrouped] using hx
  case sqlite =>
    -- a part that is no concatenation is replaced if it is NULL, and a concatenation is not NULL
    have hpart (a : Expr) (ha : a ∈ es) : Told .sqlite names.tableAlias row
        (if a.calledName = some "CONCAT" then (Operand.grouped .sqlite ⟨a, write .sqlite names a⟩).result
          else "COALESCE(" ++ (Operand.grouped .sqlite ⟨a, write .sqlite names a⟩).result ++ ", '')")
        (some ((value a).getD "")) := by
      rw [(h a ha).grouped_eq]
      split
      case isTrue hname =>
        obtain ⟨s, hs⟩ := Option.ne_none_iff_exists'.1 (hnull a ha hname (by simp))
        have hsome := (htold a ha).asValue
        rwa [hs] at hsome ⊢
      case isFalse => exact (htold a ha).asValue.coalesced
    have hfilled := List.forall₂_map_left_iff.2 (List.forall₂_map_right_iff.2 (List.forall₂_same.2 hpart))
    obtain ⟨x, hx, hjoined, hsome⟩ := Told.piped hfilled (by simpa using hne) (.inr ⟨rfl, by simp⟩)
    have hmap : joinTexts (es.map fun a => some ((value a).getD "")) = joinTexts (es.map value) := by
      simpa [Function.comp_def] using joinTexts_filled (es.map value)
    refine ⟨x, ?_, hjoined.trans (hmap.trans hall), hsome⟩
    simpa [Sql.concat, Function.comp_def, apply_ite Noted.result] using hx

theorem call {name : String} (hname : Text.upper name = "CONCAT") (hne : es ≠ [])
    (h : ∀ a ∈ es, Joins d names row a) : Joins d names row (.call (some name) es) where
  told := by
    obtain ⟨v, hv, hjoin, hnull⟩ := concat hne h
    refine ⟨v, ?_, hjoin, fun _ => hnull⟩
    rwa [write_called hname, write_concat]
  isPredicate := by
    rw [write_called hname, write_concat]
    exact isPredicate_concat
  isOperation := rfl

end Joins

/-- What the induction over concatenations carries: a canonical form joins, and so does every part that it gives to
a concatenation around it. -/
structure Flattens (d : Dialect) (names : Naming) (row : String → Option String) (e : Expr) : Prop where
  joins : Joins d names row e
  parts : ∀ a ∈ concatParts e, Joins d names row a
  parts_ne_nil : concatParts e ≠ []
  leafTexts_parts : (concatParts e).flatMap (leafTexts row) = e.leafTexts row

namespace Flattens

variable {d : Dialect} {names : Naming} {row : String → Option String} {e l r : Expr} {es : List Expr}

theorem of_leaf (h : Joins d names row e) (he : concatParts e = [e]) : Flattens d names row e where
  joins := h
  parts := by simpa [he] using h
  parts_ne_nil := by simp [he]
  leafTexts_parts := by simp [he]

theorem call {name : String} (hname : Text.upper name = "CONCAT") (hne : es ≠ [])
    (h : ∀ a ∈ es, Joins d names row a) : Flattens d names row (.call (some name) es) := by
  have hjoins : Joins d names row (.call (some name) es) := .call hname hne h
  by_cases hparts : hasName (some name) "CONCAT" = true
  · have hargs : concatParts (.call (some name) es) = es := by simp [concatParts, hparts]
    refine ⟨hjoins, ?_, ?_, ?_⟩
    · rwa [hargs]
    · rwa [hargs]
    · rw [hargs, leafTexts, leafTextsAll_eq_flatMap]
  · exact .of_leaf hjoins (by simp [concatParts, hparts])

theorem ampersand (hl : Flattens d names row l) (hr : Flattens d names row r) :
    Flattens d names row (.call (some "CONCAT") (concatParts l ++ concatParts r)) :=
  .call (by decide) (by simp [hl.parts_ne_nil]) (List.forall_mem_append.2 ⟨hl.parts, hr.parts⟩)

end Flattens

end Sql

namespace Expr

open Sql

variable {e : Expr}

theorem canonical_called_concat {name : String} (hname : Text.upper name = "CONCAT") (args : List Expr) :
    (call (some name) args).canonical = call (some name) (args.map canonical) := by
  refine canonical_builtin (f := .concat) ?_ (by decide) args
  rw [hname]
  decide

theorem IsJoin.flattens (h : e.IsJoin) (d : Dialect) (names : Naming) (row : String → Option String) :
    Flattens d names row e.canonical ∧ e.canonical.leafTexts row = e.leafTexts row := by
  induction h with
  | column name => exact ⟨.of_leaf (.column name) rfl, rfl⟩
  | text s => exact ⟨.of_leaf (.text s) rfl, rfl⟩
  | ampersand _ _ ihl ihr =>
    rw [canonical_concat]
    refine ⟨ihl.1.ampersand ihr.1, ?_⟩
    simp only [leafTexts, leafTextsAll_eq_flatMap, List.flatMap_append, ihl.1.leafTexts_parts,
      ihr.1.leafTexts_parts, ihl.2, ihr.2]
  | @call name args hname hne _ ih =>
    rw [canonical_called_concat hname]
    refine ⟨.call hname (by simpa using hne) (List.forall_mem_map.2 fun a ha => (ih a ha).1.joins), ?_⟩
    rw [leafTexts, leafTexts, leafTextsAll_eq_flatMap, leafTextsAll_eq_flatMap, List.flatMap_map]
    exact List.flatMap_congr fun a ha => (ih a ha).2

theorem IsJoin.calledName_canonical (h : e.IsJoin) (he : e.children ≠ []) :
    e.canonical.calledName = some "CONCAT" := by
  cases h with
  | column name => exact absurd rfl he
  | text s => exact absurd rfl he
  | ampersand _ _ =>
    rw [canonical_concat, calledName_concat]
  | call hname _ _ => rw [canonical_called_concat hname, calledName, hname]

/-- Concatenation is safe from NULL and the same in every dialect. The SQL of texts and columns joined by CONCAT and
`&` is read back and, whatever the columns hold, gives the texts of the leaves from left to right, with NULL as the
empty text; where that leaves nothing, it may be NULL in Oracle, which has no other empty text. -/
theorem concatenation_null_safe (h : e.IsJoin) (he : e.children ≠ []) (d : Dialect) {names : Naming}
    (hn : names.outputName = none) (row : String → Option String) :
    ∃ t v, readTerm d (e.compile d names).fragment = some t ∧ t.textValue d names.tableAlias row = some v ∧
      (v = some (joinTexts (e.leafTexts row)) ∨ d = .oracle ∧ v = none ∧ joinTexts (e.leafTexts row) = "") := by
  obtain ⟨hflat, hleaves⟩ := h.flattens d names row
  obtain ⟨v, ⟨g, hs, hc, -, t, ht, hv⟩, hjoin, hnull⟩ := hflat.joins.told
  have hcompile : (e.compile d names).fragment = (write d names e.canonical).result.asValue := by
    simp only [compile, hn]
    exact hflat.joins.asValue_eq
  refine ⟨t, v, ?_, hv, ?_⟩
  · rw [hcompile]
    exact ht.readTerm hs.asValue hc
  · rw [hleaves] at hjoin
    cases v with
    | some s => exact .inl (congrArg some hjoin)
    | none =>
      have horacle : d = .oracle := by
        by_contra hd
        exact hnull (h.calledName_canonical he) hd rfl
      exact .inr ⟨horacle, rfl, hjoin.symm⟩

theorem concatenation_null_safe_nested :
    let e : Expr := call (some "Concat") [column "a", binary .concat (text "x") (column "b"),
      call (some "CONCAT") [column "a"]]
    let row (c : String) : Option String := if c = "a" then none else some "y"
    (e.compile .sqlite .default).fragment.text =
      "(COALESCE(\"a\", '') || (COALESCE(?, '') || COALESCE(\"b\", '')) || COALESCE(\"a\", ''))" ∧
    ∃ t, readTerm .sqlite (e.compile .sqlite .default).fragment = some t ∧
      t.textValue .sqlite none row = some (some "xy") := by
  intro e row
  have hjoin : e.IsJoin := by
    refine .call (by decide) (by simp) ?_
    simp only [List.forall_mem_cons, List.not_mem_nil, false_imp_iff, implies_true, and_true]
    exact ⟨.column "a", .ampersand (.text "x") (.column "b"), .call (by decide) (by simp) (by simpa using .column "a")⟩
  obtain ⟨t, v, ht, hv, hvalue⟩ := concatenation_null_safe hjoin (by simp [e, children]) .sqlite
    (show Naming.default.outputName = none from rfl) row
  have hleaves : joinTexts (e.leafTexts row) = "xy" := by decide
  rcases hvalue with rfl | ⟨hd, -⟩
  · exact ⟨by decide, t, ht, by rw [← hleaves]; exact hv⟩
  · cases hd

end Expr

end SheetQuery
