/-! # Space between tokens

Blanks are spaces and tabs. A line ends with a line feed, before which a
carriage return may stand, and a comment reaches up to the end of its line.
-/

namespace DocumentLint.Toml

def isBlank (c : Char) : Bool := c == ' ' || c == '\t'

/-- Characters that comments and quoted texts may hold as they are. -/
def isPlain (c : Char) : Bool := c == '\t' || (0x20 ≤ c.toNat && c.toNat != 0x7F)

def skipBlanks (cs : List Char) : List Char := cs.dropWhile isBlank

/-- What follows a line break at the front of a text. -/
def lineBreak? : List Char → Option (List Char)
  | '\n' :: cs => some cs
  | '\r' :: '\n' :: cs => some cs
  | _ => none

/-- What follows the rest of a line that holds nothing but blanks and a comment. -/
def lineEnd? (cs : List Char) : Option (List Char) :=
  let cs := match skipBlanks cs with
    | '#' :: cs => cs.dropWhile isPlain
    | cs => cs
  if cs.isEmpty then some [] else lineBreak? cs

/-- Skips blanks, comments and line breaks; the flag tells whether the text
begins inside a comment. -/
def skipGap? : Bool → List Char → Option (List Char)
  | _, [] => some []
  | _, '\n' :: cs => skipGap? false cs
  | _, '\r' :: '\n' :: cs => skipGap? false cs
  | false, '#' :: cs => skipGap? true cs
  | comment, c :: cs =>
    if comment then if isPlain c then skipGap? true cs else none
    else if isBlank c then skipGap? false cs
    else some (c :: cs)

/-- Skips blanks and line breaks. -/
def skipSpace : List Char → List Char
  | '\r' :: '\n' :: cs => skipSpace cs
  | c :: cs => if isBlank c || c == '\n' then skipSpace cs else c :: cs
  | [] => []

theorem length_skipSpace_le (cs : List Char) : (skipSpace cs).length ≤ cs.length := by
  fun_induction skipSpace cs with
  | case1 cs ih => simp only [List.length_cons]; omega
  | case2 c cs _ _ ih => simp only [List.length_cons]; omega
  | case3 => simp
  | case4 => simp

end DocumentLint.Toml
