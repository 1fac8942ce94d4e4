import Mathlib.Tactic.FinCases
import SheetQuery.Proofs.Replacement

/-! The text of a link. Thirteen marks in it are escaped, each as a percent sign and its code in two hexadecimal digits,
and the percent sign is one of them: an escape is never escaped again, and the text can be had back. -/

namespace SheetQuery

namespace Sql

def linkMarks : List Char := ['%', ' ', '"', '#', '&', '+', ',', '/', ':', ';', '=', '?', '@']

def percentCode (c : Char) : List Char := '%' :: (Nat.toDigits 16 c.toNat).map Char.toUpper

def escapeMark (c : Char) : List Char := if c ∈ linkMarks then percentCode c else [c]

/-- A text with each of its marks escaped. -/
def escapeLink (s : String) : String := .ofList (s.toList.flatMap escapeMark)

def hexValue (c : Char) : Nat := if c.isDigit then c.toNat - '0'.toNat else c.toNat - 'A'.toNat + 10

def unescape : List Char → List Char
  | '%' :: high :: low :: cs => .ofNat (16 * hexValue high + hexValue low) :: unescape cs
  | c :: cs => c :: unescape cs
  | [] => []

def unescapeLink (s : String) : String := .ofList (unescape s.toList)

theorem unescape_percentCode {c : Char} (hc : c ∈ linkMarks) (cs : List Char) :
    unescape (percentCode c ++ cs) = c :: unescape cs := by
  unfold linkMarks at hc
  fin_cases hc <;> rfl

theorem unescape_escapeMark (c : Char) (cs : List Char) : unescape (escapeMark c ++ cs) = c :: unescape cs := by
  unfold escapeMark
  split
  case isTrue hc => exact unescape_percentCode hc cs
  case isFalse hc =>
    -- what is not escaped is no percent sign
    have hpercent : c ≠ '%' := by
      rintro rfl
      exact hc (by decide)
    rw [List.singleton_append, unescape]
    intro high low ds h
    exact absurd h hpercent

theorem unescapeLink_escapeLink (s : String) : unescapeLink (escapeLink s) = s := by
  have hchars (cs : List Char) : unescape (cs.flatMap escapeMark) = cs := by
    induction cs with
    | nil => rfl
    | cons c cs ih => rw [List.flatMap_cons, unescape_escapeMark, ih]
  simp [unescapeLink, escapeLink, hchars]

def markCodes : List (Char × String) := linkMarks.map fun c => (c, .ofList (percentCode c))

theorem linkEscapes_eq : linkEscapes = markCodes.map fun p => (p.1.toString, p.2) := by decide

/-- A mark that comes later is in no escape before it. -/
theorem pairwise_markCodes : markCodes.Pairwise fun p q => q.1 ∉ p.2.toList := by decide

theorem exchange_markCodes (c : Char) : exchange markCodes c = escapeMark c := by
  simp [markCodes, exchange_map, escapeMark]

/-- The replacements of a link, one after another. -/
theorem foldl_linkEscapes (s : String) :
    linkEscapes.foldl (fun s p => replaceText p.1 p.2 s) s = escapeLink s := by
  rw [← String.toList_inj, linkEscapes_eq, foldl_replaceText pairwise_markCodes, escapeLink, String.toList_ofList]
  exact List.flatMap_congr fun c _ => exchange_markCodes c

end Sql

namespace Expr

open Sql

/-- The SQL of URLENCODE gives in every dialect the text with each of its marks escaped once, and two texts never give
the same. -/
theorem urlEncode_escapes_marks {name : String} (hname : Text.upper name = "URLENCODE") {e : Expr} (he : e.Worded)
    (es : List Expr) (d : Dialect) {names : Naming} (hn : names.outputName = none) (row : String → Option String)
    {v : Option String}
    (hv : evaluate? (textEngine d names.tableAlias row) d (e.compile d names).fragment = some (.text v)) :
    evaluate? (textEngine d names.tableAlias row) d ((call (some name) (e :: es)).compile d names).fragment =
        some (.text (v.map escapeLink)) ∧
      Function.Injective escapeLink := by
  have hbuiltin : Builtin.ofName? (Text.upper name) = some .urlEncode := by
    rw [hname]
    decide
  refine ⟨?_, Function.LeftInverse.injective unescapeLink_escapeLink⟩
  obtain ⟨g, hs, hc, hg⟩ := exists_evaluates_arg hn he hv es
  have hescaped := hg.replaceAll linkEscapes
  rw [funext foldl_linkEscapes] at hescaped
  exact evaluate?_call hbuiltin (by decide) rfl rfl hs.linkEncoded (by rw [Doc.comment_replaceAll, hc]) hescaped hn

/-- A text that has an escape in it already. -/
theorem urlEncode_escapes_escape :
    let names : Naming := ⟨none, some "t", "id"⟩
    let row (c : String) : Option String := if c = "link" then some "a%20b: \"c/d?\"" else none
    evaluate? (textEngine .oracle (some "t") row) .oracle
      ((call (some "UrlEncode") [column "link"]).compile .oracle names).fragment =
        some (.text (some "a%2520b%3A%20%22c%2Fd%3F%22")) := by
  intro names row
  have hcolumn : evaluate? (textEngine .oracle (some "t") row) .oracle
      ((column "link").compile .oracle names).fragment = some (.text (some "a%20b: \"c/d?\"")) :=
    evaluate?_column rfl rfl
  have hescaped : (some "a%20b: \"c/d?\"").map escapeLink = some "a%2520b%3A%20%22c%2Fd%3F%22" := by decide
  rw [← hescaped]
  exact (urlEncode_escapes_marks (by decide) (.column trivial) [] .oracle rfl row hcolumn).1

end Expr

end SheetQuery
