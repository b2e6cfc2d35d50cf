import RtlFlow.Text.Unicode.Break

/-! # Named sets of characters

The sets that a pattern can name: general categories and their groups, scripts, properties that
are held or not, and properties that have one of several values; and the ASCII sets that are named
between colons inside brackets. Names are compared in the loose form of `looseName`. -/

namespace RtlFlow.CharSet

open RtlFlow.Text.Unicode

/-- The groups of general categories by their names in the loose form. -/
def categoryGroups : List (List String × List GeneralCategory) :=
  [(["l", "letter"], [.lu, .ll, .lt, .lm, .lo]),
   (["lc", "casedletter"], [.lu, .ll, .lt]),
   (["m", "mark", "combiningmark"], [.mn, .mc, .me]),
   (["n", "number"], [.nd, .nl, .no]),
   (["p", "punctuation", "punct"], [.pc, .pd, .ps, .pe, .pi, .pf, .po]),
   (["s", "symbol"], [.sm, .sc, .sk, .so]),
   (["z", "separator"], [.zs, .zl, .zp]),
   (["c", "other"], [.cc, .cf, .co, .cn]),
   (["digit"], [.nd]), (["cntrl"], [.cc])]

/-- The set of a general category or of a group of them, by its name in the loose form. Surrogates
are no characters, so their category has no set. -/
def ofCategoryName? (loose : String) : Option CharSet :=
  match loose with
  | "any" => some all
  | "ascii" => some ascii
  | "assigned" => some (compl (ofCategory .cn))
  | "cs" | "surrogate" => none
  | _ =>
    match GeneralCategory.names.find? fun (_, short, long) => short == loose || long == loose with
    | some (g, _, _) => some (ofCategory g)
    | none => (categoryGroups.find? fun (names, _) => names.contains loose).map fun (_, gs) =>
        inCategories gs

/-- **The set that a name means**: a property, a general category or a script. The short names
`cf`, `lc` and `sc` are those of categories, although properties have them too. -/
def ofName? (name : String) : Option CharSet :=
  let loose := looseName name
  (ofProperty? loose).orElse fun _ => (ofCategoryName? loose).orElse fun _ => ofScript? loose

/-- **The set of the characters for which a named property has a named value.** -/
def ofNamedValue? (property value : String) : Option CharSet :=
  let value := looseName value
  match looseName property with
  | "gc" | "generalcategory" => ofCategoryName? value
  | "sc" | "script" => ofScript? value
  | "scx" | "scriptextensions" => ofScriptExtension? value
  | "age" => ofAge? value
  | "gcb" | "graphemeclusterbreak" => ofGraphemeBreak? value
  | "sb" | "sentencebreak" => ofSentenceBreak? value
  | "wb" | "wordbreak" => ofWordBreak? value
  | _ => none

/-- The set of the characters in ranges that are given by characters. -/
def ofChars (rs : List (Char × Char)) : CharSet := ofRanges (rs.map fun (a, b) => (a.toNat, b.toNat))

/-- **The ASCII set** with a name. -/
def ofAsciiName? : String → Option CharSet
  | "alnum" => some (ofChars [('0', '9'), ('A', 'Z'), ('a', 'z')])
  | "alpha" => some (ofChars [('A', 'Z'), ('a', 'z')])
  | "ascii" => some ascii
  | "blank" => some (ofChars [('\t', '\t'), (' ', ' ')])
  | "cntrl" => some (ofRanges [(0, 0x1F), (0x7F, 0x7F)])
  | "digit" => some (ofChars [('0', '9')])
  | "graph" => some (ofChars [('!', '~')])
  | "lower" => some (ofChars [('a', 'z')])
  | "print" => some (ofChars [(' ', '~')])
  | "punct" => some (ofChars [('!', '/'), (':', '@'), ('[', '\u0060'), ('\x7b', '~')])
  | "space" => some (ofChars [('\t', '\r'), (' ', ' ')])
  | "upper" => some (ofChars [('A', 'Z')])
  | "word" => some (ofChars [('0', '9'), ('A', 'Z'), ('_', '_'), ('a', 'z')])
  | "xdigit" => some (ofChars [('0', '9'), ('A', 'F'), ('a', 'f')])
  | _ => none

end RtlFlow.CharSet
