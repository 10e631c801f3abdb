import WifiSelection.Json.Basic
import WifiSelection.Text
import WifiSelection.Numbers

/-!
Reading JSON text. Readers take the characters that are left and return a value with the characters
after it. Of two members with one name the later counts. A text with a number too large for a
double, an unpaired surrogate or anything after its value is no JSON text.
-/

namespace WifiSelection

namespace Json

namespace Reader

def isSpace (character : Char) : Bool :=
  character = ' ' || character = '\n' || character = '\t' || character = '\r'

def skipSpace (input : List Char) : List Char :=
  input.dropWhile isSpace

def digits (input : List Char) : List Nat × List Char :=
  let isDigit := fun character => (Text.decimalDigit? character).isSome
  ((input.takeWhile isDigit).filterMap Text.decimalDigit?, input.dropWhile isDigit)

def fraction : List Char → Option (Option (List Nat) × List Char)
  | '.' :: rest =>
    match digits rest with
    | ([], _) => none
    | (found, rest) => some (some found, rest)
  | rest => some (none, rest)

def exponentValue (input : List Char) : Option (Int × List Char) :=
  let (negative, unsigned) :=
    match input with
    | '-' :: rest => (true, rest)
    | '+' :: rest => (false, rest)
    | _ => (false, input)
  match digits unsigned with
  | ([], _) => none
  | (found, rest) =>
    let magnitude : Int := Text.digitsValue 10 found
    some (if negative then -magnitude else magnitude, rest)

def exponent : List Char → Option (Option Int × List Char)
  | 'e' :: rest => (exponentValue rest).map fun (value, rest) => (some value, rest)
  | 'E' :: rest => (exponentValue rest).map fun (value, rest) => (some value, rest)
  | rest => some (none, rest)

/-- The value of a number from its parts. Minus zero is a double. -/
def numberValue (negative : Bool) (whole : List Nat) (fraction : Option (List Nat))
    (exponent : Option Int) : Option Json :=
  let magnitude := Text.digitsValue 10 whole
  let fits :=
    if negative then
      0 < magnitude && magnitude ≤ Width.maxSigned64 + 1
    else
      magnitude ≤ Width.maxUnsigned64
  let isInteger := fraction.isNone && exponent.isNone && fits
  if isInteger then
    some (integer (if negative then -(magnitude : Int) else magnitude))
  else
    let places := fraction.getD []
    let digits := Text.digitsValue 10 (whole ++ places)
    match Binary64.ofDecimal negative digits (exponent.getD 0 - places.length) with
    | .infinite _ => none
    | value => some (real value)

def number (input : List Char) : Option (Json × List Char) := do
  let (negative, unsigned) :=
    match input with
    | '-' :: rest => (true, rest)
    | _ => (false, input)
  let (whole, rest) := digits unsigned
  if whole.isEmpty || (whole.head? = some 0 && 1 < whole.length) then failure
  let (places, rest) ← fraction rest
  let (power, rest) ← exponent rest
  let value ← numberValue negative whole places power
  return (value, rest)

def codeUnit : List Char → Option (Nat × List Char)
  | first :: second :: third :: fourth :: rest => do
    let found ← [first, second, third, fourth].mapM Text.hexDigit?
    return (Text.digitsValue 16 found, rest)
  | _ => none

def escapedCharacter (input : List Char) : Option (Char × List Char) := do
  let (unit, rest) ← codeUnit input
  if 0xD800 ≤ unit ∧ unit < 0xDC00 then
    match rest with
    | '\\' :: 'u' :: rest =>
      let (low, rest) ← codeUnit rest
      if 0xDC00 ≤ low ∧ low < 0xE000 then
        return (Char.ofNat (0x10000 + (unit - 0xD800) * 0x400 + (low - 0xDC00)), rest)
      else
        failure
    | _ => failure
  else if 0xDC00 ≤ unit ∧ unit < 0xE000 then
    failure
  else
    return (Char.ofNat unit, rest)

/-- The characters up to the closing quote, in reverse order behind those already read. -/
def quoted : Nat → List Char → List Char → Option (List Char × List Char)
  | 0, _, _ => none
  | _ + 1, _, [] => none
  | _ + 1, found, '"' :: rest => some (found, rest)
  | fuel + 1, found, '\\' :: rest =>
    match rest with
    | '"' :: rest => quoted fuel ('"' :: found) rest
    | '\\' :: rest => quoted fuel ('\\' :: found) rest
    | '/' :: rest => quoted fuel ('/' :: found) rest
    | 'b' :: rest => quoted fuel ('\x08' :: found) rest
    | 'f' :: rest => quoted fuel ('\x0c' :: found) rest
    | 'n' :: rest => quoted fuel ('\n' :: found) rest
    | 'r' :: rest => quoted fuel ('\r' :: found) rest
    | 't' :: rest => quoted fuel ('\t' :: found) rest
    | 'u' :: rest =>
      match escapedCharacter rest with
      | some (character, rest) => quoted fuel (character :: found) rest
      | none => none
    | _ => none
  | fuel + 1, found, character :: rest =>
    if character.toNat < 0x20 then none else quoted fuel (character :: found) rest

def text (fuel : Nat) (input : List Char) : Option (String × List Char) :=
  (quoted fuel [] input).map fun (found, rest) => (String.ofList found.reverse, rest)

def addMember (name : String) (value : Json) (members : List (String × Json)) :
    List (String × Json) :=
  members.filter (·.1 != name) ++ [(name, value)]

mutual

def value : Nat → List Char → Option (Json × List Char)
  | 0, _ => none
  | fuel + 1, input =>
    match skipSpace input with
    | 'n' :: 'u' :: 'l' :: 'l' :: rest => some (null, rest)
    | 't' :: 'r' :: 'u' :: 'e' :: rest => some (bool true, rest)
    | 'f' :: 'a' :: 'l' :: 's' :: 'e' :: rest => some (bool false, rest)
    | '"' :: rest => (text fuel rest).map fun (found, rest) => (Json.text found, rest)
    | '[' :: rest =>
      match skipSpace rest with
      | ']' :: rest => some (list [], rest)
      | rest => elements fuel [] rest
    | '\x7b' :: rest =>
      match skipSpace rest with
      | '\x7d' :: rest => some (record [], rest)
      | rest => members fuel [] rest
    | rest => number rest

def elements : Nat → List Json → List Char → Option (Json × List Char)
  | 0, _, _ => none
  | fuel + 1, found, input =>
    match value fuel input with
    | none => none
    | some (element, rest) =>
      match skipSpace rest with
      | ',' :: rest => elements fuel (element :: found) rest
      | ']' :: rest => some (list (element :: found).reverse, rest)
      | _ => none

def members : Nat → List (String × Json) → List Char → Option (Json × List Char)
  | 0, _, _ => none
  | fuel + 1, found, input =>
    match skipSpace input with
    | '"' :: rest =>
      match text fuel rest with
      | none => none
      | some (name, rest) =>
        match skipSpace rest with
        | ':' :: rest =>
          match value fuel rest with
          | none => none
          | some (element, rest) =>
            let found := addMember name element found
            match skipSpace rest with
            | ',' :: rest => members fuel found rest
            | '\x7d' :: rest => some (record found, rest)
            | _ => none
        | _ => none
    | _ => none

end

end Reader

def ofText? (input : String) : Option Json :=
  let characters := input.toList
  match Reader.value (2 * characters.length + 2) characters with
  | some (value, rest) => if (Reader.skipSpace rest).isEmpty then some value else none
  | none => none

end Json

end WifiSelection
