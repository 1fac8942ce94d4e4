import SheetQuery.Json.Basic
import SheetQuery.Json.Token
import SheetQuery.Token.Basic

/-! JSON text to values. Arrays and objects nest at most `maxNesting` deep. -/

namespace SheetQuery.Json

def maxNesting : Nat := 127

mutual

/-- A value; `room` is how much deeper arrays and objects may nest. -/
def value? (room : Nat) (ts : List Lexeme) : Option (Taken Json ts) :=
  match ts with
  | .word (some b) :: rest => some ⟨.bool b, rest, by simp⟩
  | .word none :: rest => some ⟨.null, rest, by simp⟩
  | .text s :: rest => some ⟨.text s, rest, by simp⟩
  | .number n :: rest => some ⟨.number n, rest, by simp⟩
  | .openBracket :: rest =>
    match room, rest with
    | 0, _ => none
    | _ + 1, .closeBracket :: rest => some ⟨.array [], rest, by simp only [List.length_cons]; omega⟩
    | room + 1, rest =>
      match items? room rest with
      | some ⟨items, rest', h⟩ => some ⟨.array items, rest', by simp only [List.length_cons]; omega⟩
      | none => none
  | .openBrace :: rest =>
    match room, rest with
    | 0, _ => none
    | _ + 1, .closeBrace :: rest => some ⟨.object [], rest, by simp only [List.length_cons]; omega⟩
    | room + 1, rest =>
      match fields? room rest with
      | some ⟨fields, rest', h⟩ => some ⟨.object fields, rest', by simp only [List.length_cons]; omega⟩
      | none => none
  | _ => none
termination_by (ts.length, 0)
decreasing_by all_goals (simp_wf; omega)

/-- At least one value, separated by commas, up to and with the closing bracket. -/
def items? (room : Nat) (ts : List Lexeme) : Option (Taken (List Json) ts) :=
  match value? room ts with
  | none => none
  | some ⟨v, rest, h⟩ =>
    match rest with
    | .comma :: rest' =>
      match items? room rest' with
      | some ⟨vs, rest'', h'⟩ => some ⟨v :: vs, rest'', by simp only [List.length_cons] at h; omega⟩
      | none => none
    | .closeBracket :: rest' => some ⟨[v], rest', by simp only [List.length_cons] at h; omega⟩
    | _ => none
termination_by (ts.length, 1)
decreasing_by
  · omega
  · simp at h; omega

/-- At least one field, separated by commas, up to and with the closing brace. -/
def fields? (room : Nat) (ts : List Lexeme) : Option (Taken (List (String × Json)) ts) :=
  match ts with
  | .text name :: .colon :: more =>
    match value? room more with
    | none => none
    | some ⟨v, rest, h⟩ =>
      match rest with
      | .comma :: rest' =>
        match fields? room rest' with
        | some ⟨fs, rest'', h'⟩ => some ⟨(name, v) :: fs, rest'', by simp only [List.length_cons] at h ⊢; omega⟩
        | none => none
      | .closeBrace :: rest' => some ⟨[(name, v)], rest', by simp only [List.length_cons] at h ⊢; omega⟩
      | _ => none
  | _ => none
termination_by (ts.length, 1)
decreasing_by
  · simp_wf; omega
  · simp at h; simp_wf; omega

end

def parse? (s : String) : Option Json :=
  match lexemes? s with
  | none => none
  | some ts =>
    match value? maxNesting ts with
    | some ⟨v, [], _⟩ => some v
    | _ => none

end SheetQuery.Json
