/-! Letter case within ASCII, replacement of single characters and the length in UTF-8. -/

namespace SheetQuery.Text

/-- The text with `A` to `Z` in lower case and all else as it is. -/
def asciiLower (s : String) : String :=
  String.ofList (s.toList.map Char.toLower)

/-- Equality up to the case of ASCII letters. -/
def sameLetters (s t : String) : Bool := asciiLower s == asciiLower t

/-- The text with each occurrence of `c` written as `cs`. -/
def replaceChar (c : Char) (cs : List Char) (s : String) : String :=
  String.ofList (s.toList.flatMap fun d => if d = c then cs else [d])

/-- How many bytes the characters take in UTF-8. -/
def byteLength (cs : List Char) : Nat :=
  cs.foldr (fun c n => c.utf8Size + n) 0

/-- The text without one `c` at its end, if it has one. -/
def dropLast (c : Char) (s : String) : String :=
  match s.toList.reverse with
  | d :: ds => if d = c then String.ofList ds.reverse else s
  | [] => s

def hex (n : Nat) : List Char := Nat.toDigits 16 n

/-- `n` in at least `width` characters, filled with `fill` on the left. -/
def padLeft (fill : Char) (width : Nat) (cs : List Char) : List Char :=
  List.replicate (width - cs.length) fill ++ cs

end SheetQuery.Text
