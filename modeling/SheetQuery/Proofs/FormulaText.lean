import SheetQuery.Proofs.FormulaReading
import SheetQuery.Proofs.Writing

/-! What formula text makes. Every node of a parsed expression comes from a token, so what is known of tokens
holds of the nodes: the operators are those of the language, and the names of functions are words, for what
the lexer takes for a name has no character that ends one in SQL. -/

namespace SheetQuery

namespace Formula

variable {P : Expr → Prop} {sym : Symbol} {ts : List Lexeme} {e : Expr} {n : Nat}

/-- The condition holds of the nodes that a token makes. -/
def Makes (P : Expr → Prop) : Lexeme → Prop
  | .number v => P (.number v)
  | .text s => P (.text s)
  | .braced s => P (.column s)
  | .name s => P (Parser.bareName s) ∧ ∀ args, P (.call (some s) args)
  | .op op => ∀ l r, P (.binary op l r)
  | _ => True

theorem mem_intercalate_of_mem {l : Lexeme} {sep : List Lexeme} {parts : List (List Lexeme)} (hts : ts ∈ parts)
    (hl : l ∈ ts) : l ∈ sep.intercalate parts := by
  induction parts with
  | nil => simp at hts
  | cons us parts ih =>
    cases parts with
    | nil => simp_all
    | cons vs parts =>
      rw [List.intercalate_cons_cons, List.mem_append, List.mem_append]
      rcases List.mem_cons.1 hts with rfl | hts
      · exact .inl (.inl hl)
      · exact .inr (ih hts)

theorem Derives.everywhere (h : Derives sym ts e n) (hts : ∀ l ∈ ts, Makes P l)
    (hsign : ∀ l op e, Sign l op → P (.unary op e)) : e.Everywhere P := by
  induction h with
  | @binary op _ _ l r =>
    rename_i ihl ihr
    exact .binary (hts (.op op) (by simp) l r) (ihl fun l hl => hts l (by simp [hl]))
      (ihr fun l hl => hts l (by simp [hl]))
  | tighter _ ih | single _ ih | unsigned _ ih => exact ih hts
  | signed ht _ ih => exact .unary (hsign _ _ _ ht) (ih fun l hl => hts l (by simp [hl]))
  | number v => exact .literal (hts (.number v) (by simp))
  | text s => exact .literal (hts (.text s) (by simp))
  | braced s => exact .column (hts (.braced s) (by simp))
  | trueWord => exact .literal (hts (.name "true") (by simp)).1
  | falseWord => exact .literal (hts (.name "false") (by simp)).1
  | nullWord => exact .literal (hts (.name "null") (by simp)).1
  | name s _ hs => exact .column (bareName_of_notMem hs ▸ (hts (.name s) (by simp)).1)
  | emptyCall s => exact .call ((hts (.name s) (by simp)).2 _) (by simp)
  | call s _ ih =>
    refine .call ((hts (.name s) (by simp)).2 _) (List.forall_mem_map.2 fun a ha => ih a ha fun l hl => hts l ?_)
    simp [mem_intercalate_of_mem (List.mem_map_of_mem ha) hl]
  | parens _ ih => exact ih fun l hl => hts l (by simp [hl])

end Formula

namespace Expr

variable {text : String} {e : Expr}

/-- A condition that tokens read from text bring about holds all over the expression. -/
theorem everywhere_of_parse {P : Expr → Prop} (h : parse text = .ok e)
    (hread : ∀ l : Lexeme, l.IsRead → Formula.Makes P l)
    (hsign : ∀ l op e, Formula.Sign l op → P (.unary op e)) : e.Everywhere P := by
  obtain ⟨s, hs⟩ := Formula.exists_scan_of_parse h
  have ht := List.forall_mem_map.2 (Lexer.scan_isRead hs)
  exact ((Formula.parse_eq_ok_iff hs).1 h).everywhere (fun l hl => hread l (ht l hl)) hsign

theorem worded_of_parse (h : parse text = .ok e) : e.Worded := by
  have hword {c : Char} (hc : Lexer.isNameChar c = true) : Sql.isWordChar c = true :=
    Sql.isWordChar_of (p := Lexer.isNameChar) (by decide) hc
  refine everywhere_of_parse h (fun l hl => ?_) fun l op e hop => ?_
  · cases l with
    | name s =>
      obtain ⟨c, cs, hs, hc, hcs⟩ := hl
      refine ⟨?_, fun args n hn => ?_⟩
      · unfold Parser.bareName
        split <;> trivial
      · obtain rfl := Option.some.inj hn
        rw [hs]
        exact ⟨by simp, List.forall_mem_cons.2 ⟨hword (Bool.and_eq_true_iff.1 hc).1, fun d hd => hword (hcs d hd)⟩⟩
    | op o =>
      rintro l r s rfl
      exact Nat.lt_irrefl 0 hl
    | _ => trivial
  · rintro s rfl
    cases hop

end Expr

end SheetQuery
