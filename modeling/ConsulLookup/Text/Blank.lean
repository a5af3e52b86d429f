/-! Blank characters and trimming. -/

namespace ConsulLookup.Text

/-- The Unicode `White_Space` property: tab to carriage return, space, next line, no-break
space, ogham space, the spaces U+2000–U+200A, the line and paragraph separators, narrow
no-break space, medium mathematical space and ideographic space. -/
def isWhiteSpace (c : Char) : Bool :=
  let n := c.toNat
  (0x09 ≤ n && n ≤ 0x0D) || n == 0x20 || n == 0x85 || n == 0xA0 || n == 0x1680 ||
    (0x2000 ≤ n && n ≤ 0x200A) || n == 0x2028 || n == 0x2029 || n == 0x202F ||
    n == 0x205F || n == 0x3000

/-- A blank: a `White_Space` character or one of the information separators U+001C–U+001F. -/
def isBlank (c : Char) : Bool :=
  isWhiteSpace c || (0x1C ≤ c.toNat && c.toNat ≤ 0x1F)

/-- Drops the characters satisfying `p` from the end of a list. -/
def dropTrailing (p : Char → Bool) (cs : List Char) : List Char :=
  (cs.reverse.dropWhile p).reverse

/-- Drops the characters satisfying `p` from both ends of a list. -/
def trimWith (p : Char → Bool) (cs : List Char) : List Char :=
  dropTrailing p (cs.dropWhile p)

/-- A text without blanks at either end. -/
def trimBlank (s : String) : String :=
  String.ofList (trimWith isBlank s.toList)

/-- A text without `White_Space` at either end. -/
def trimWhiteSpace (s : String) : String :=
  String.ofList (trimWith isWhiteSpace s.toList)

/-- Twelve of the first 256 characters are blanks, and the ideographic space is one. -/
example : ((List.range 0x100).filter (fun n => isBlank (Char.ofNat n))).length = 12 ∧
    isBlank '\u3000' = true := by
  decide +kernel

end ConsulLookup.Text
