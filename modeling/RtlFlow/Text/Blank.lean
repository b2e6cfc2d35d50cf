/-! # Blanks

The blank characters of text and the two operations that cut text at them: `trim` takes the blanks
off both ends, and `words` splits a text into its maximal runs of non-blank characters. A blank is
a character with the Unicode property `White_Space`, so a no-break space counts and a zero-width
space does not. -/

namespace RtlFlow.Text

/-- **A blank**: a character with the property `White_Space`. -/
def isBlank (c : Char) : Bool :=
  let n := c.toNat
  (9 ≤ n && n ≤ 13) || n == 0x20 || n == 0x85 || n == 0xA0 || n == 0x1680 ||
    (0x2000 ≤ n && n ≤ 0x200A) || n == 0x2028 || n == 0x2029 || n == 0x202F || n == 0x205F ||
    n == 0x3000

/-- The characters left when those that satisfy `p` are dropped from both ends. -/
def trimWhere (p : Char → Bool) (cs : List Char) : List Char :=
  ((cs.dropWhile p).reverse.dropWhile p).reverse

/-- **Trimmed text**: the text without the blanks at its two ends. -/
def trim (s : String) : String := String.ofList (trimWhere isBlank s.toList)

/-- Splits a list of characters into its maximal runs of characters that fail `isSep`.
`run` holds the current run, last character first. -/
def runsBetween (isSep : Char → Bool) (run : List Char) : List Char → List (List Char)
  | [] => if run.isEmpty then [] else [run.reverse]
  | c :: cs =>
    if isSep c then
      if run.isEmpty then runsBetween isSep [] cs
      else run.reverse :: runsBetween isSep [] cs
    else runsBetween isSep (c :: run) cs

/-- **The words of a text**: its maximal runs of non-blank characters, in order. -/
def words (s : String) : List String :=
  (runsBetween isBlank [] s.toList).map String.ofList

end RtlFlow.Text
