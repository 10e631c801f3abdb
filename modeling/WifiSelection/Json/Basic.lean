import WifiSelection.Numbers

/-!
JSON values and the JSON form of typed ones. A number is an integer when it is written without
fraction and exponent and fits 64 bits, with or without a sign; any other number is a double. A
record is read from named members in any order, unknown names being ignored, or from a list that
gives the fields in their declared order. Each field states whether it must be present, may be
absent, or has a default.
-/

namespace WifiSelection

inductive Json where
  | null
  | bool (value : Bool)
  | integer (value : Int)
  | real (value : Binary64)
  | text (value : String)
  | list (elements : List Json)
  | record (members : List (String × Json))
deriving Repr, Inhabited

namespace Json

def member? (json : Json) (name : String) : Option Json :=
  match json with
  | record members => members.lookup name
  | _ => none

end Json

class JsonForm (α : Type) where
  toJson : α → Json
  ofJson? : Json → Option α

namespace JsonForm

instance : JsonForm Bool where
  toJson := Json.bool
  ofJson?
    | .bool value => some value
    | _ => none

instance : JsonForm String where
  toJson := Json.text
  ofJson?
    | .text value => some value
    | _ => none

instance : JsonForm Int32 where
  toJson value := .integer value.toInt
  ofJson?
    | .integer value => Width.int32? value
    | _ => none

instance : JsonForm Int64 where
  toJson value := .integer value.toInt
  ofJson?
    | .integer value => Width.int64? value
    | _ => none

instance : JsonForm UInt32 where
  toJson value := .integer value.toNat
  ofJson?
    | .integer value => Width.uint32? value
    | _ => none

instance : JsonForm UInt8 where
  toJson value := .integer value.toNat
  ofJson?
    | .integer value => Width.uint8? value
    | _ => none

instance : JsonForm Nat where
  toJson value := .integer value
  ofJson?
    | .integer value => Width.count? value
    | _ => none

instance : JsonForm Binary64 where
  toJson := Json.real
  ofJson?
    | .integer value => some (Binary64.ofInt value)
    | .real value => some value
    | _ => none

instance [JsonForm α] : JsonForm (Option α) where
  toJson
    | none => .null
    | some value => toJson value
  ofJson?
    | .null => some none
    | json => (ofJson? json).map some

instance [JsonForm α] : JsonForm (List α) where
  toJson values := .list (values.map toJson)
  ofJson?
    | .list elements => elements.mapM ofJson?
    | _ => none

/-- Reads one of finitely many named choices: its name, or a record that gives `null` under that
name alone. -/
def choice? (choices : List (String × α)) : Json → Option α
  | .text name => choices.lookup name
  | .record [(name, .null)] => choices.lookup name
  | _ => none

end JsonForm

inductive JsonFields where
  | named (members : List (String × Json))
  | positional (elements : List Json)

abbrev JsonReader := StateT JsonFields Option

namespace JsonReader

open JsonForm

/-- Reads one field. One default stands in for a name that is missing, another for a place after
the end of a list. -/
def field [JsonForm α] (name : String) (missingName missingPlace : Option α) :
    JsonReader α := fun fields =>
  match fields with
  | .named members =>
    match members.lookup name with
    | some json => (ofJson? json).map fun value => (value, fields)
    | none => missingName.map fun value => (value, fields)
  | .positional [] => missingPlace.map fun value => (value, fields)
  | .positional (json :: rest) => (ofJson? json).map fun value => (value, .positional rest)

def required [JsonForm α] (name : String) : JsonReader α :=
  field name none none

def defaulted [JsonForm α] (name : String) (default : α) : JsonReader α :=
  field name (some default) (some default)

/-- A field whose absence by name means no value; in a list it must have its place. -/
def optional [JsonForm α] (name : String) : JsonReader (Option α) :=
  field name (some none) none

def run? (reader : JsonReader α) : Json → Option α
  | .record members => (reader (.named members)).map Prod.fst
  | .list elements =>
    match reader (.positional elements) with
    | some (value, .positional []) => some value
    | _ => none
  | _ => none

end JsonReader

end WifiSelection
