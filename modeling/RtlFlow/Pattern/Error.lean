/-! # Malformed patterns -/

namespace RtlFlow

/-- **Why a text is no pattern.** -/
inductive PatternError where
  /-- A closing parenthesis opens nothing. -/
  | groupUnopened
  /-- A group is not closed. -/
  | groupUnclosed
  /-- A group name is missing, malformed or given twice. -/
  | groupName
  /-- A flag is unknown, given twice or missing. -/
  | flags
  /-- Looking ahead or behind is not supported. -/
  | lookAround
  /-- A repetition has nothing to repeat. -/
  | nothingToRepeat
  /-- The count of a repetition is malformed. -/
  | repetitionCount
  /-- A bracketed set is not closed. -/
  | setUnclosed
  /-- A range in a bracketed set is malformed. -/
  | setRange
  /-- An escape in a bracketed set stands for no character. -/
  | setEscape
  /-- An escape is unknown or breaks off. -/
  | escape
  /-- A reference to a group is not supported. -/
  | backReference
  /-- A numeric escape writes no character. -/
  | codePoint
  /-- A character property is unknown. -/
  | property
  /-- The pattern could match a part of a character. -/
  | invalidText
  /-- The pattern is nested too deep. -/
  | tooDeep
  /-- The pattern is too large. -/
  | tooLarge
  deriving DecidableEq, Repr

/-- The wording of a pattern error. -/
def PatternError.message : PatternError → String
  | .groupUnopened => "unopened group"
  | .groupUnclosed => "unclosed group"
  | .groupName => "invalid capture group name"
  | .flags => "invalid flags"
  | .lookAround => "look-around is not supported"
  | .nothingToRepeat => "repetition operator missing expression"
  | .repetitionCount => "invalid repetition count"
  | .setUnclosed => "unclosed character class"
  | .setRange => "invalid character class range"
  | .setEscape => "invalid escape sequence found in character class"
  | .escape => "unrecognized escape sequence"
  | .backReference => "backreferences are not supported"
  | .codePoint => "invalid hexadecimal escape"
  | .property => "Unicode property not found"
  | .invalidText => "pattern can match invalid UTF-8"
  | .tooDeep => "pattern is nested too deep"
  | .tooLarge => "compiled pattern exceeds size limit"

end RtlFlow
