/-!
# Blank characters

A character is *blank* when Unicode gives it the property White_Space. `trim` removes blank characters
at both ends of a text.
-/

namespace RunSweep

/-- Whether a character is white space in Unicode's sense. -/
def isBlank (c : Char) : Bool :=
  let n := c.toNat
  (0x09 ≤ n && n ≤ 0x0D) || n == 0x20 || n == 0x85 || n == 0xA0 || n == 0x1680
    || (0x2000 ≤ n && n ≤ 0x200A) || n == 0x2028 || n == 0x2029 || n == 0x202F || n == 0x205F
    || n == 0x3000

/-- A list of characters without the blank ones at its two ends. -/
def trimBlank (cs : List Char) : List Char :=
  ((cs.dropWhile isBlank).reverse.dropWhile isBlank).reverse

/-- A text without the blank characters at its two ends. -/
def trim (text : String) : String :=
  String.ofList (trimBlank text.toList)

/-- Whether every character of the text is blank. -/
def isBlankText (text : String) : Bool :=
  text.toList.all isBlank

end RunSweep
