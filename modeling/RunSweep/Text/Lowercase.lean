import RunSweep.Text.LetterCase

/-!
# Lower case

`lowercase` is Unicode's full lower-casing of a text. Each character is replaced on its own, with two
exceptions to "one for one": U+0130 becomes an `i` and a combining dot, and a capital sigma that ends a
word becomes the final small sigma.
-/

namespace RunSweep

open LetterCase

/-- The lower-case form of a character, apart from its place in a word. -/
def lowerChar (c : Char) : List Char :=
  if c.toNat < 0x80 then
    [if 'A' ≤ c ∧ c ≤ 'Z' then Char.ofNat (c.toNat + 0x20) else c]
  else if c.toNat = 0x130 then ['i', Char.ofNat 0x307]
  else
    match lowerRuns.find? fun (first, last, step, _) =>
        first ≤ c.toNat && c.toNat ≤ last && (c.toNat - first) % step == 0 with
    | some (_, _, _, offset) => [Char.ofNat (Int.toNat (c.toNat + offset))]
    | none => [c]

/-- Whether the first character that is not passed over is cased. -/
def meetsCased (cs : List Char) : Bool :=
  ((cs.dropWhile isIgnorable).head?.map isCased).getD false

/-- The small sigma for a capital one, given the characters before it (nearest first) and after it:
the final form exactly at the end of a word. -/
def lowerSigma (before after : List Char) : Char :=
  if meetsCased before && !meetsCased after then Char.ofNat 0x3C2 else Char.ofNat 0x3C3

/-- Lower-case `cs`, where `before` holds the characters already passed, nearest first. -/
def lowerChars (before : List Char) : List Char → List Char
  | [] => []
  | c :: cs =>
      (if c.toNat = 0x3A3 then [lowerSigma before cs] else lowerChar c)
        ++ lowerChars (c :: before) cs

/-- The text in lower case. -/
def lowercase (text : String) : String :=
  String.ofList (lowerChars [] text.toList)

end RunSweep
