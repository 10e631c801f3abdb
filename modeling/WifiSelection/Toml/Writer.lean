import WifiSelection.Text

/-!
Writing strings of TOML. A string that has nothing to escape is a basic string of one line. Of the
others, one without control characters is written as it is, between apostrophes or in several lines
if it has line ends or too many delimiters; the rest has escapes.
-/

namespace WifiSelection

namespace Toml

namespace Writer

def needsEscape (character : Char) : Bool :=
  let code := character.toNat
  (code ≤ 0x1F && code != 9 && code != 10) || code = 0x7F

def longestRun (character : Char) : Nat → Nat → List Char → Nat
  | longest, _, [] => longest
  | longest, current, head :: tail =>
    if head = character then
      longestRun character (max longest (current + 1)) (current + 1) tail
    else
      longestRun character longest 0 tail

inductive Style where
  | basic
  | literal
  | multilineBasic
  | multilineLiteral
deriving DecidableEq, Repr

def style (characters : List Char) : Style :=
  let escapes := characters.any needsEscape
  let lines := characters.contains '\n'
  let quotes := longestRun '"' 0 0 characters
  let apostrophes := longestRun '\'' 0 0 characters
  let backslashes := characters.contains '\\'
  if !escapes && !backslashes && quotes = 0 && !lines then
    .basic
  else if !escapes && apostrophes = 0 && !lines then
    .literal
  else if !escapes && !backslashes && quotes ≤ 2 then
    .multilineBasic
  else if !escapes && apostrophes ≤ 2 then
    .multilineLiteral
  else if lines then
    .multilineBasic
  else
    .basic

def upperHexDigit (value : Nat) : Char :=
  (Text.hexDigit value).toUpper

def escape (character : Char) : List Char :=
  match character with
  | '\x08' => ['\\', 'b']
  | '\t' => ['\\', 't']
  | '\n' => ['\\', 'n']
  | '\x0c' => ['\\', 'f']
  | '\r' => ['\\', 'r']
  | '"' => ['\\', '"']
  | '\\' => ['\\', '\\']
  | _ =>
    if needsEscape character then
      ['\\', 'u', '0', '0', upperHexDigit (character.toNat / 16),
        upperHexDigit (character.toNat % 16)]
    else
      [character]

/-- The inside of a basic string. Over several lines a line feed is written as it is, and so are
quotes, but for every third of a run. -/
def basicBody (multiline : Bool) : Nat → List Char → List Char
  | _, [] => []
  | run, character :: rest =>
    if multiline && character = '\n' then
      '\n' :: basicBody multiline 0 rest
    else if character = '"' then
      if multiline && run + 1 < 3 then
        '"' :: basicBody multiline (run + 1) rest
      else
        '\\' :: '"' :: basicBody multiline 0 rest
    else
      escape character ++ basicBody multiline 0 rest

/-- A string in its style. When it has several lines a line feed, which is not part of it, follows
the opening delimiters. -/
def string (text : String) : String :=
  let characters := text.toList
  let opening := if characters.contains '\n' then "\n" else ""
  match style characters with
  | .basic => "\"" ++ String.ofList (basicBody false 0 characters) ++ "\""
  | .literal => "'" ++ text ++ "'"
  | .multilineBasic =>
    "\"\"\"" ++ opening ++ String.ofList (basicBody true 0 characters) ++ "\"\"\""
  | .multilineLiteral => "'''" ++ opening ++ text ++ "'''"

end Writer

end Toml

end WifiSelection
