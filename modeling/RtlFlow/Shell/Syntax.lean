/-! # The language of the command shell

Scripts of the command shell as data: simple commands with their words and redirections, and the
ways in which commands are put together. A word is a list of pieces, some of which are only known
when the command runs. -/

namespace RtlFlow.Shell

/-- **What is made of the value of a variable.** -/
inductive Usage where
  /-- The value as it is. -/
  | plain
  /-- The number of its bytes. -/
  | length
  /-- A text in the place of a value that is missing, or also of one that is empty. -/
  | orElse (emptyToo : Bool) (text : List Char)
  /-- A text in the place of a value that is there, or only of one that is not empty. -/
  | instead (emptyToo : Bool) (text : List Char)
  /-- The value without the shortest or the longest beginning or end that a pattern matches. -/
  | without (atEnd longest : Bool) (pattern : List Char)
  deriving DecidableEq, Repr, Inhabited

/-- **A piece of a word.** What is quoted is not cut at blanks. -/
inductive Piece where
  /-- Text that stands for itself. -/
  | text (s : List Char)
  /-- What is made of the value of a variable. -/
  | variable (name : String) (usage : Usage) (quoted : Bool)
  /-- The output of a script. -/
  | output (script : List Char) (quoted : Bool)
  /-- The value of an arithmetic expression. -/
  | number (expression : List Char)
  deriving DecidableEq, Repr, Inhabited

/-- **A word.** -/
abbrev Word := List Piece

/-- **What a redirection does.** -/
inductive RedirectKind where
  /-- Output goes to a file that is emptied first. -/
  | replace
  /-- Output goes to the end of a file. -/
  | append
  /-- Input comes from a file. -/
  | input
  /-- Output goes where that of another channel goes. -/
  | sameAs
  deriving DecidableEq, Repr, Inhabited

/-- **A redirection** of a channel, by number. -/
structure Redirect where
  /-- The channel. -/
  channel : Nat
  /-- What is done. -/
  kind : RedirectKind
  /-- The file or the other channel. -/
  target : Word
  deriving DecidableEq, Repr, Inhabited

/-- **A command.** -/
inductive Command where
  /-- Nothing. -/
  | nothing
  /-- Assignments and words, on a line of the script, with redirections. -/
  | simple (line : Nat) (assigns : List (String × Word)) (words : List Word)
      (redirects : List Redirect)
  /-- One command after the other. -/
  | seq (a b : Command)
  /-- The second command when the first succeeds. -/
  | both (a b : Command)
  /-- The second command when the first fails. -/
  | either (a b : Command)
  /-- The output of the first command is the input of the second. -/
  | pipe (a b : Command)
  /-- Success when the command fails. -/
  | negate (a : Command)
  /-- A command that is not waited for. -/
  | background (a : Command)
  /-- A command in a process of its own. -/
  | subshell (a : Command)
  /-- A command with redirections. -/
  | redirected (a : Command) (redirects : List Redirect)
  /-- A choice. -/
  | branch (condition yes no : Command)
  /-- One command when a word matches a pattern of several, and another one when not. -/
  | select (subject : Word) (patterns : List Word) (matching other : Command)
  /-- A loop while a condition holds, or until it does. -/
  | loop (holds : Bool) (condition body : Command)
  /-- A loop over words. -/
  | forEach (name : String) (words : List Word) (body : Command)
  /-- A function is defined. -/
  | define (name : String) (body : Command)
  deriving Repr, Inhabited

end RtlFlow.Shell
