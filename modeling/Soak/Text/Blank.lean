/-!
# Blank characters

The white space that texts of the program are trimmed by: the Unicode property
`White_Space`.  It is wider than the four characters that JSON allows between its tokens
and than `Char.isWhitespace`, which knows ASCII only.
-/

namespace Soak.Text

/-- The first and last code points of the runs of the property `White_Space`. -/
def blankRuns : List (Nat × Nat) :=
  [(0x09, 0x0D), (0x20, 0x20), (0x85, 0x85), (0xA0, 0xA0), (0x1680, 0x1680),
   (0x2000, 0x200A), (0x2028, 0x2029), (0x202F, 0x202F), (0x205F, 0x205F), (0x3000, 0x3000)]

/-- A character with the property `White_Space`. -/
def isBlank (c : Char) : Bool :=
  blankRuns.any fun run => run.1 ≤ c.toNat && c.toNat ≤ run.2

/-- A text of blank characters only. -/
def allBlank (s : String) : Bool :=
  s.toList.all isBlank

/-- The text without the blanks at its start. -/
def trimStart (s : String) : String :=
  String.ofList (s.toList.dropWhile isBlank)

/-- The text without the blanks at its two ends. -/
def trim (s : String) : String :=
  String.ofList ((s.toList.dropWhile isBlank).reverse.dropWhile isBlank).reverse

end Soak.Text
