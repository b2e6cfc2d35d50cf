import RtlFlow.Text.Unicode.Letter

/-! # Quoted text

A text between double quotes for the eyes of a reader: quotes and backslashes have a backslash
before them, and characters that cannot be seen by themselves are written as escapes. -/

namespace RtlFlow.Text

open RtlFlow.Text.Unicode

/-- Whether a character cannot be seen by itself: it has no shape of its own, or it is a mark that
joins the character before it. A letter that joins the one before it can be seen. -/
def isUnseen (c : Char) : Bool :=
  c ≠ ' ' &&
    ([GeneralCategory.cc, .cf, .cs, .co, .cn, .zs, .zl, .zp].contains (category c) ||
      (isGraphemeExtend c && category c != .lm))

/-- A character as it is written between quotes. -/
def quoteChar (c : Char) : String :=
  if c = '\x00' then "\\0"
  else if c = '\t' then "\\t"
  else if c = '\r' then "\\r"
  else if c = '\n' then "\\n"
  else if c = '"' then "\\\""
  else if c = '\\' then "\\\\"
  else if isUnseen c then
    "\\u\x7b" ++ String.ofList (Nat.toDigits 16 c.toNat) ++ "\x7d"
  else c.toString

/-- **A text between quotes.** -/
def quoted (s : String) : String := "\"" ++ String.join (s.toList.map quoteChar) ++ "\""

/-- A list of texts, each between quotes. -/
def quotedList (xs : List String) : String := "[" ++ ", ".intercalate (xs.map quoted) ++ "]"

end RtlFlow.Text
