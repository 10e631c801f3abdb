import WifiSelection.Text
import WifiSelection.Toml.Basic
import WifiSelection.Numbers

/-!
Reading TOML text. Readers take the characters that are left and return what they read with the
characters after it. A line ends in a line feed, alone or after a carriage return.
-/

namespace WifiSelection

namespace Toml

namespace Reader

/-- Lists, inline tables and key paths have to stay below this depth. -/
def depthLimit : Nat := 80

def isSpace (character : Char) : Bool :=
  character = ' ' || character = '\t'

def skipSpace (input : List Char) : List Char :=
  input.dropWhile isSpace

def isPrintable (character : Char) : Bool :=
  let code := character.toNat
  code = 9 || (0x20 ≤ code && code ≤ 0x7E) || 0x80 ≤ code

def newline? : List Char → Option (List Char)
  | '\n' :: rest => some rest
  | '\r' :: '\n' :: rest => some rest
  | _ => none

def skipComment : List Char → List Char
  | '#' :: rest => rest.dropWhile isPrintable
  | rest => rest

def lineEnd? (input : List Char) : Option (List Char) :=
  match skipComment (skipSpace input) with
  | [] => some []
  | rest => newline? rest

def skipLines : Nat → List Char → List Char
  | 0, input => input
  | fuel + 1, input =>
    let input := skipSpace input
    match newline? (skipComment input) with
    | some rest => skipLines fuel rest
    | none => input

/-! ### Strings -/

def codePoint? (width : Nat) (input : List Char) : Option (Char × List Char) := do
  let written := input.take width
  let digits ← written.mapM Text.hexDigit?
  let code := Text.digitsValue 16 digits
  if digits.length = width ∧ code.isValidChar then
    return (Char.ofNat code, input.drop width)
  else
    failure

def escaped? : List Char → Option (Char × List Char)
  | 'b' :: rest => some ('\x08', rest)
  | 't' :: rest => some ('\t', rest)
  | 'n' :: rest => some ('\n', rest)
  | 'f' :: rest => some ('\x0c', rest)
  | 'r' :: rest => some ('\r', rest)
  | '"' :: rest => some ('"', rest)
  | '\\' :: rest => some ('\\', rest)
  | 'u' :: rest => codePoint? 4 rest
  | 'U' :: rest => codePoint? 8 rest
  | _ => none

/-- The characters of a basic string up to its closing quote, in reverse order behind those already
read. -/
def basic : Nat → List Char → List Char → Option (List Char × List Char)
  | 0, _, _ => none
  | _ + 1, _, [] => none
  | _ + 1, found, '"' :: rest => some (found, rest)
  | fuel + 1, found, '\\' :: rest =>
    match escaped? rest with
    | some (character, rest) => basic fuel (character :: found) rest
    | none => none
  | fuel + 1, found, character :: rest =>
    if isPrintable character then basic fuel (character :: found) rest else none

def literal : List Char → List Char → Option (List Char × List Char)
  | _, [] => none
  | found, '\'' :: rest => some (found, rest)
  | found, character :: rest =>
    if isPrintable character then literal (character :: found) rest else none

/-- The input after the line end that a backslash takes out, with all blanks and line ends that
follow. -/
def joinedLine? (input : List Char) : Option (List Char) :=
  (newline? (skipSpace input)).map fun rest =>
    let rec skip : Nat → List Char → List Char
      | 0, rest => rest
      | fuel + 1, rest =>
        let rest := skipSpace rest
        match newline? rest with
        | some rest => skip fuel rest
        | none => rest
    skip rest.length rest

/-- How a run of delimiters ends a string of several lines: three of them close it, and up to two
more in front of those are its last characters. With fewer than three it goes on. -/
def closing? (delimiter : Char) (input : List Char) : Option (Nat × List Char) :=
  let run := (input.takeWhile (· = delimiter)).length
  if run < 3 then
    none
  else
    let kept := min (run - 3) 2
    some (kept, input.drop (kept + 3))

/-- The characters of a string of several lines up to its closing delimiters, in reverse order. Only
between quotes does a backslash start an escape or join lines. -/
def multiline (delimiter : Char) : Nat → List Char → List Char → Option (List Char × List Char)
  | 0, _, _ => none
  | _ + 1, _, [] => none
  | fuel + 1, found, character :: rest =>
    if character = delimiter then
      match closing? delimiter (character :: rest) with
      | some (kept, rest) => some (List.replicate kept delimiter ++ found, rest)
      | none => multiline delimiter fuel (delimiter :: found) rest
    else if character = '\\' ∧ delimiter = '"' then
      match joinedLine? rest with
      | some rest => multiline delimiter fuel found rest
      | none =>
        match escaped? rest with
        | some (character, rest) => multiline delimiter fuel (character :: found) rest
        | none => none
    else
      match newline? (character :: rest) with
      | some rest => multiline delimiter fuel ('\n' :: found) rest
      | none =>
        if isPrintable character then multiline delimiter fuel (character :: found) rest else none

def skipNewline (input : List Char) : List Char :=
  (newline? input).getD input

def finish (result : Option (List Char × List Char)) : Option (String × List Char) :=
  result.map fun (found, rest) => (String.ofList found.reverse, rest)

def string? (input : List Char) : Option (String × List Char) :=
  match input with
  | '"' :: '"' :: '"' :: rest =>
    let rest := skipNewline rest
    finish (multiline '"' (rest.length + 1) [] rest)
  | '"' :: rest => finish (basic (rest.length + 1) [] rest)
  | '\'' :: '\'' :: '\'' :: rest =>
    let rest := skipNewline rest
    finish (multiline '\'' (rest.length + 1) [] rest)
  | '\'' :: rest => finish (literal [] rest)
  | _ => none

/-! ### Keys -/

def isBare (character : Char) : Bool :=
  character.isAlphanum || character = '_' || character = '-'

def name? (input : List Char) : Option (String × List Char) :=
  match input with
  | '"' :: rest => finish (basic (rest.length + 1) [] rest)
  | '\'' :: rest => finish (literal [] rest)
  | _ =>
    let name := input.takeWhile isBare
    if name.isEmpty then none else some (String.ofList name, input.dropWhile isBare)

def names? : Nat → List Char → Option (List String × List Char)
  | 0, _ => none
  | fuel + 1, input => do
    let (name, rest) ← name? (skipSpace input)
    match skipSpace rest with
    | '.' :: rest =>
      let (names, rest) ← names? fuel rest
      return (name :: names, rest)
    | rest => return ([name], rest)

def key? (input : List Char) : Option (List String × List Char) := do
  let (names, rest) ← names? (input.length + 1) input
  if names.length < depthLimit then return (names, rest) else failure

/-! ### Numbers, dates and times -/

def moreDigits (digit? : Char → Option Nat) : List Char → Option (List Nat × List Char)
  | [] => some ([], [])
  | '_' :: character :: rest =>
    match digit? character with
    | some digit => (moreDigits digit? rest).map fun (digits, rest) => (digit :: digits, rest)
    | none => none
  | character :: rest =>
    if character = '_' then
      none
    else
      match digit? character with
      | some digit => (moreDigits digit? rest).map fun (digits, rest) => (digit :: digits, rest)
      | none => some ([], character :: rest)

def digits? (digit? : Char → Option Nat) : List Char → Option (List Nat × List Char)
  | [] => none
  | character :: rest =>
    match digit? character with
    | some digit =>
      (moreDigits digit? rest).map fun (digits, rest) => (digit :: digits, rest)
    | none => none

def digitBelow (base : Nat) (character : Char) : Option Nat :=
  match Text.hexDigit? character with
  | some digit => if digit < base then some digit else none
  | none => none

def integerValue? (negative : Bool) (magnitude : Nat) : Option Toml :=
  if negative then
    if magnitude ≤ Width.maxSigned64 + 1 then some (integer (-(magnitude : Int))) else none
  else
    if magnitude ≤ Width.maxSigned64 then some (integer magnitude) else none

def based? (base : Nat) (input : List Char) : Option (Toml × List Char) := do
  let (digits, rest) ← digits? (digitBelow base) input
  let value ← integerValue? false (Text.digitsValue base digits)
  return (value, rest)

def whole? : List Char → Option (List Nat × List Char)
  | '0' :: rest => some ([0], rest)
  | input => digits? Text.decimalDigit? input

def fraction? : List Char → Option (Option (List Nat) × List Char)
  | '.' :: rest => (digits? Text.decimalDigit? rest).map fun (digits, rest) => (some digits, rest)
  | rest => some (none, rest)

def sign : List Char → Option Bool × List Char
  | '-' :: rest => (some true, rest)
  | '+' :: rest => (some false, rest)
  | rest => (none, rest)

def exponent? (input : List Char) : Option (Option Int × List Char) :=
  let after (rest : List Char) : Option (Option Int × List Char) :=
    let (negative, rest) := sign rest
    (digits? Text.decimalDigit? rest).map fun (digits, rest) =>
      let magnitude : Int := Text.digitsValue 10 digits
      (some (if negative = some true then -magnitude else magnitude), rest)
  match input with
  | 'e' :: rest => after rest
  | 'E' :: rest => after rest
  | rest => some (none, rest)

/-- A decimal number after its sign: an integer if it has neither fraction nor exponent, or else a
double that must not exceed the finite ones. -/
def decimal? (negative : Bool) (input : List Char) : Option (Toml × List Char) := do
  let (whole, rest) ← whole? input
  let (places, rest) ← fraction? rest
  let (power, rest) ← exponent? rest
  if places.isNone && power.isNone then
    let value ← integerValue? negative (Text.digitsValue 10 whole)
    return (value, rest)
  else
    let places := places.getD []
    let digits := Text.digitsValue 10 (whole ++ places)
    match Binary64.ofDecimal negative digits (power.getD 0 - places.length) with
    | .infinite false => failure
    | value => return (real value, rest)

def number? (input : List Char) : Option (Toml × List Char) :=
  match input with
  | '0' :: 'x' :: rest => based? 16 rest
  | '0' :: 'o' :: rest => based? 8 rest
  | '0' :: 'b' :: rest => based? 2 rest
  | _ =>
    let (minus, unsigned) := sign input
    let negative := minus = some true
    match unsigned with
    | 'i' :: 'n' :: 'f' :: rest => some (real (.infinite negative), rest)
    | 'n' :: 'a' :: 'n' :: rest => some (real .nan, rest)
    | _ => decimal? negative unsigned

def twoDigits? (low high : Nat) : List Char → Option (List Char)
  | first :: second :: rest => do
    let first ← Text.decimalDigit? first
    let second ← Text.decimalDigit? second
    let value := first * 10 + second
    if low ≤ value ∧ value ≤ high then return rest else failure
  | _ => none

def after? (expected : Char) : List Char → Option (List Char)
  | character :: rest => if character = expected then some rest else none
  | [] => none

def partOfSecond? : List Char → Option (List Char)
  | '.' :: rest =>
    let digits := rest.takeWhile Char.isDigit
    if digits.isEmpty then none else some (rest.dropWhile Char.isDigit)
  | rest => some rest

/-- The input after a time of day whose hour and colon have been read. -/
def minutes? (input : List Char) : Option (List Char) := do
  let rest ← twoDigits? 0 59 input
  let rest ← after? ':' rest
  let rest ← twoDigits? 0 60 rest
  partOfSecond? rest

def hour? (input : List Char) : Option (List Char) := do
  let rest ← twoDigits? 0 23 input
  after? ':' rest

def offset? (input : List Char) : Option (List Char) :=
  let signed (rest : List Char) : Option (List Char) := do
    let rest ← hour? rest
    twoDigits? 0 59 rest
  match input with
  | 'Z' :: rest => some rest
  | 'z' :: rest => some rest
  | '+' :: rest => signed rest
  | '-' :: rest => signed rest
  | rest => some rest

def timeOfDate? (input : List Char) : Option (List Char) :=
  match input with
  | delimiter :: rest =>
    if delimiter = 'T' || delimiter = 't' || delimiter = ' ' then
      match hour? rest with
      | some rest => do
        let rest ← minutes? rest
        offset? rest
      | none => some input
    else
      some input
  | [] => some []

def daysOf (year month : Nat) : Nat :=
  let isLeap := year % 4 = 0 ∧ (year % 100 ≠ 0 ∨ year % 400 = 0)
  if month = 2 then
    if isLeap then 29 else 28
  else if month = 4 ∨ month = 6 ∨ month = 9 ∨ month = 11 then
    30
  else
    31

def dayOfYear? (year : Nat) (input : List Char) : Option (List Char) := do
  let afterMonth ← twoDigits? 1 12 input
  let month := Text.digitsValue 10 ((input.take 2).filterMap Text.decimalDigit?)
  let rest ← after? '-' afterMonth
  twoDigits? 1 (daysOf year month) rest

def startsDate (input : List Char) : Bool :=
  ((input.take 4).filterMap Text.decimalDigit?).length = 4 && (input.drop 4).head? = some '-'

def numberOrMoment? (input : List Char) : Option (Toml × List Char) :=
  if startsDate input then do
    let year := Text.digitsValue 10 ((input.take 4).filterMap Text.decimalDigit?)
    let rest ← dayOfYear? year (input.drop 5)
    let rest ← timeOfDate? rest
    return (moment, rest)
  else
    match hour? input with
    | some rest => (minutes? rest).map fun rest => (moment, rest)
    | none => number? input

/-! ### Values and documents -/

mutual

def value : Nat → Nat → List Char → Option (Toml × List Char)
  | 0, _, _ => none
  | fuel + 1, depth, input =>
    match input with
    | 't' :: 'r' :: 'u' :: 'e' :: rest => some (bool true, rest)
    | 'f' :: 'a' :: 'l' :: 's' :: 'e' :: rest => some (bool false, rest)
    | '[' :: rest =>
      if depth + 1 < depthLimit then elements fuel (depth + 1) [] rest else none
    | '\x7b' :: rest =>
      if depth + 1 < depthLimit then
        match skipSpace rest with
        | '\x7d' :: rest => some (table .inlineValue [], rest)
        | rest => members fuel (depth + 1) [] rest
      else
        none
    | '"' :: _ => (string? input).map fun (found, rest) => (text found, rest)
    | '\'' :: _ => (string? input).map fun (found, rest) => (text found, rest)
    | _ => numberOrMoment? input

def elements : Nat → Nat → List Toml → List Char → Option (Toml × List Char)
  | 0, _, _, _ => none
  | fuel + 1, depth, found, input =>
    match skipLines fuel input with
    | ']' :: rest => some (list found.reverse, rest)
    | input =>
      match value fuel depth input with
      | none => none
      | some (element, rest) =>
        match skipLines fuel rest with
        | ',' :: rest => elements fuel depth (element :: found) rest
        | ']' :: rest => some (list (element :: found).reverse, rest)
        | _ => none

def members : Nat → Nat → Members → List Char → Option (Toml × List Char)
  | 0, _, _, _ => none
  | fuel + 1, depth, found, input =>
    match key? input with
    | some (path, '=' :: rest) =>
      match value fuel depth (skipSpace rest) with
      | none => none
      | some (element, rest) =>
        match found.define element path with
        | none => none
        | some found =>
          match skipSpace rest with
          | ',' :: rest => members fuel depth found rest
          | '\x7d' :: rest => some (table .inlineValue found, rest)
          | _ => none
    | _ => none

end

def entry? (input : List Char) : Option (Entry × List Char) :=
  match key? input with
  | some (path, '=' :: rest) => do
    let rest := skipSpace rest
    let (found, rest) ← value (2 * rest.length + 2) 0 rest
    let rest ← lineEnd? rest
    return ((path, found), rest)
  | _ => none

def heading? : List Char → Option (Section × List Char)
  | '[' :: '[' :: rest =>
    match key? rest with
    | some (path, ']' :: ']' :: rest) => (lineEnd? rest).map fun rest => (⟨path, true, []⟩, rest)
    | _ => none
  | '[' :: rest =>
    match key? rest with
    | some (path, ']' :: rest) => (lineEnd? rest).map fun rest => (⟨path, false, []⟩, rest)
    | _ => none
  | _ => none

/-- The sections of a document from some line on. The section at hand and the statements of it that
were read come first; they are in reverse order. -/
def sections : Nat → Section → List Char → Option (List Section)
  | 0, _, _ => none
  | fuel + 1, part, input =>
    match skipSpace input with
    | [] => some [{ part with entries := part.entries.reverse }]
    | '[' :: rest =>
      match heading? ('[' :: rest) with
      | some (next, rest) =>
        (sections fuel next rest).map fun parts =>
          { part with entries := part.entries.reverse } :: parts
      | none => none
    | input =>
      match lineEnd? input with
      | some rest => sections fuel part rest
      | none =>
        match entry? input with
        | some (entry, rest) => sections fuel { part with entries := entry :: part.entries } rest
        | none => none

end Reader

def ofText? (input : String) : Option Toml :=
  let characters := input.toList
  let characters := if characters.head? = some '\ufeff' then characters.drop 1 else characters
  match Reader.sections (characters.length + 2) ⟨[], false, []⟩ characters with
  | some parts => ofSections? parts
  | none => none

end Toml

end WifiSelection
