import SheetQuery.Proofs.Relabeling
import SheetQuery.Proofs.Tiles
import SheetQuery.Proofs.WovenCalls

/-! Columns under other names. The passes to canonical form do not look at the names of columns, and neither does what
writes SQL: an expression with its columns renamed is laid from the tiles of the expression. -/

namespace SheetQuery

namespace Expr

def renameNode (ρ : String → String) : Expr → Expr
  | column name => column (ρ name)
  | e => e

def rename (ρ : String → String) (e : Expr) : Expr := e.rebuild (renameNode ρ)

variable (ρ : String → String)

@[simp] theorem rename_literal (v : Literal) : (literal v).rename ρ = literal v := rfl

@[simp] theorem rename_column (n : String) : (column n).rename ρ = column (ρ n) := rfl

@[simp] theorem rename_unsupported (k : String) : (unsupported k).rename ρ = unsupported k := rfl

@[simp] theorem rename_unary (op : UnaryOp) (e : Expr) : (unary op e).rename ρ = unary op (e.rename ρ) := rfl

@[simp]
theorem rename_binary (op : BinaryOp) (l r : Expr) : (binary op l r).rename ρ = binary op (l.rename ρ) (r.rename ρ) :=
  rfl

@[simp]
theorem rename_call (name : Option String) (args : List Expr) :
    (call name args).rename ρ = call name (args.map (rename ρ)) := by
  simp only [rename, rebuild, renameNode, rebuildAll_eq_map]
  rfl

/-- Other columns are a relabeling in which the functions keep their names. -/
def columnNames (ρ : String → String) : Relabeling := ⟨ρ, id, fun _ => rfl, fun _ => rfl⟩

theorem rename_eq_relabel (e : Expr) : e.rename ρ = e.relabel (columnNames ρ) := by
  have hnode : renameNode ρ = (columnNames ρ).node := by
    funext e
    cases e with
    | call name args => simp [renameNode, Relabeling.node, columnNames]
    | _ => rfl
  rw [rename, relabel, hnode]

theorem kin_rename (e : Expr) : e.Kin (e.rename ρ) := by
  rw [rename_eq_relabel]
  exact kin_relabel (columnNames ρ) e

theorem asNumber?_rename (e : Expr) : (e.rename ρ).asNumber? = e.asNumber? := by
  rw [rename_eq_relabel, asNumber?_relabel]

theorem asText?_rename (e : Expr) : (e.rename ρ).asText? = e.asText? := by
  rw [rename_eq_relabel, asText?_relabel]

theorem canonical_rename (e : Expr) : (e.rename ρ).canonical = e.canonical.rename ρ := by
  simp only [rename_eq_relabel, canonical_relabel]

end Expr

def Naming.rename (ρ : String → String) (names : Naming) : Naming :=
  { names with recordIdColumn := ρ names.recordIdColumn }

/-- Every column that a node refers to is one that `P` holds of. -/
def Expr.Refers (P : String → Prop) (names : Naming) : Expr → Prop
  | .column n => P n
  | .call name _ => (name.bind fun n => Builtin.ofName? (Text.upper n)) = some .recordId → P names.recordIdColumn
  | _ => True

theorem Expr.stable_refers (P : String → Prop) (names : Naming) : Stable (Refers P names) where
  literal _ := trivial
  binary _ := trivial
  unary _ := trivial
  call h _ := h
  operator _ _ _ := trivial
  function h args := by
    simp only [List.mem_cons, List.not_mem_nil, or_false] at h
    rcases h with rfl | rfl | rfl <;> exact nofun

namespace Sql

variable {d : Dialect} {names : Naming} {P : String → Prop}

/-- An expression is written with the tiles that it is written with over other columns. -/
theorem write_renamed (ρ : String → String) {e : Expr} (he : e.Everywhere (Expr.Refers P names)) :
    (write d names e).Twin False (SameTiles d names P ρ) (write d (names.rename ρ) (e.rename ρ)) := by
  have w : Weaving d False (SameTiles d names P ρ) := weaving_sameTiles
  induction he with
  | literal _ => exact (Operand.Twin.literal w _).sql
  | column h => exact .pure ⟨_, .column h⟩
  | binary _ _ _ ihl ihr => exact binary_twin w ⟨Expr.kin_rename ρ _, ihl⟩ _ ⟨Expr.kin_rename ρ _, ihr⟩
  | unary _ _ ih => exact unary_twin w ⟨Expr.kin_rename ρ _, ih⟩ _ (w.negated (Expr.asNumber?_rename ρ _))
  | @call name args h _ ih =>
    rw [Expr.rename_call]
    simp only [write, operands_eq_map, List.map_map]
    refine call_twin w name (fun hf => ⟨_, .column (h hf)⟩) ?_ (.of_literals ?_)
    all_goals rw [List.forall₂_map_left_iff, List.forall₂_map_right_iff, List.forall₂_same]
    · exact fun a ha => ⟨Expr.kin_rename ρ a, ih a ha⟩
    · exact fun a _ => ⟨Expr.asText?_rename ρ a, Expr.asNumber?_rename ρ a⟩
  | unsupported _ => exact .after _ False.elim

end Sql

end SheetQuery
