import WifiSelection.Numbers

/-!
Values of TOML documents, how a document grows by the statements that define its tables, and typed
values read from it. A table remembers what defined it, since that decides which later statements may
add to it. A record is read from a table, unknown names being ignored, or from a list that gives the
fields in their declared order; in both what is missing takes its default. A date stands for a record
with nothing given.
-/

namespace WifiSelection

inductive TableOrigin where
  | heading
  /-- The heading of a table inside it. -/
  | innerHeading
  | dottedKey
  | inlineValue
deriving DecidableEq, Repr, Inhabited

inductive Toml where
  | text (value : String)
  | integer (value : Int)
  | real (value : Binary64)
  | bool (value : Bool)
  /-- A date, a time, or both; only its presence is kept. -/
  | moment
  | list (elements : List Toml)
  | table (origin : TableOrigin) (members : List (String × Toml))
  /-- A list of tables, each defined by a heading in double brackets. -/
  | tables (elements : List (List (String × Toml)))
deriving Repr, Inhabited

namespace Toml

abbrev Members := List (String × Toml)

def Members.set (members : Members) (name : String) (value : Toml) : Members :=
  if (members.lookup name).isSome then
    members.map fun member => if member.1 = name then (name, value) else member
  else
    members ++ [(name, value)]

/-- The members after one statement `key = value`, the key being a path. The last name of the path
must be new. A path of several names may go into tables that dotted keys brought about, and through
tables that stand for outer headings, but it may not end in one of those. -/
def Members.define (value : Toml) : List String → Members → Option Members
  | [], _ => none
  | [name], members =>
    if (members.lookup name).isSome then none else some (members ++ [(name, value)])
  | name :: rest, members =>
    let endsHere := rest.length = 1
    match members.lookup name with
    | none => (define value rest []).map fun inner => members.set name (table .dottedKey inner)
    | some (table .dottedKey inner) =>
      (define value rest inner).map fun inner => members.set name (table .dottedKey inner)
    | some (table .innerHeading inner) =>
      if endsHere then
        none
      else
        (define value rest inner).map fun inner => members.set name (table .innerHeading inner)
    | some (tables elements) =>
      if endsHere then
        none
      else
        match elements.getLast? with
        | some last =>
          (define value rest last).map fun last =>
            members.set name (tables (elements.dropLast ++ [last]))
        | none => none
    | some _ => none

/-- The members with the one under a path of headings changed. Tables on the way are made as
needed, and a list of tables is entered at its last one. -/
def Members.modify (change : Option Toml → Option Toml) : List String → Members → Option Members
  | [], _ => none
  | [name], members => (change (members.lookup name)).map (members.set name)
  | name :: rest, members =>
    match members.lookup name with
    | none => (modify change rest []).map fun inner => members.set name (table .innerHeading inner)
    | some (table origin inner) =>
      if origin = .inlineValue then
        none
      else
        (modify change rest inner).map fun inner => members.set name (table origin inner)
    | some (tables elements) =>
      match elements.getLast? with
      | some last =>
        (modify change rest last).map fun last =>
          members.set name (tables (elements.dropLast ++ [last]))
      | none => none
    | some _ => none

abbrev Entry := List String × Toml

def Members.defineAll (entries : List Entry) (members : Members) : Option Members :=
  entries.foldlM (fun members (path, value) => members.define value path) members

structure Section where
  heading : List String
  /-- Written in double brackets: the table is one more of a list. -/
  isListed : Bool
  entries : List Entry

def Section.table? (part : Section) (existing : Option Toml) : Option Toml :=
  if part.isListed then
    match existing with
    | none => (Members.defineAll part.entries []).map fun members => tables [members]
    | some (tables elements) =>
      (Members.defineAll part.entries []).map fun members => tables (elements ++ [members])
    | some _ => none
  else
    match existing with
    | none => (Members.defineAll part.entries []).map (table .heading)
    | some (table .innerHeading inner) =>
      (Members.defineAll part.entries inner).map (table .heading)
    | some _ => none

def Members.addSection (document : Members) (part : Section) : Option Members :=
  if part.heading.isEmpty then
    document.defineAll part.entries
  else
    document.modify part.table? part.heading

def ofSections? (parts : List Section) : Option Toml :=
  (parts.foldlM Members.addSection []).map (table .heading)

end Toml

class TomlForm (α : Type) where
  ofToml? : Toml → Option α

namespace TomlForm

instance : TomlForm String where
  ofToml?
    | .text value => some value
    | _ => none

instance : TomlForm Int32 where
  ofToml?
    | .integer value => Width.int32? value
    | _ => none

instance : TomlForm Int64 where
  ofToml?
    | .integer value => Width.int64? value
    | _ => none

def isEmpty : Toml → Bool
  | .list elements => elements.isEmpty
  | .table _ members => members.isEmpty
  | .tables elements => elements.isEmpty
  | _ => false

def choice? (choices : List (String × α)) : Toml → Option α
  | .text name => choices.lookup name
  | .table _ [(name, value)] => if isEmpty value then choices.lookup name else none
  | _ => none

end TomlForm

inductive TomlFields where
  | named (members : Toml.Members)
  | positional (elements : List Toml)

abbrev TomlReader := StateT TomlFields Option

namespace TomlReader

open TomlForm

def defaulted [TomlForm α] (name : String) (default : α) : TomlReader α := fun fields =>
  match fields with
  | .named members =>
    match members.lookup name with
    | some value => (ofToml? value).map fun value => (value, fields)
    | none => some (default, fields)
  | .positional [] => some (default, fields)
  | .positional (value :: rest) => (ofToml? value).map fun value => (value, .positional rest)

def fields? : Toml → Option TomlFields
  | .table _ members => some (.named members)
  | .list elements => some (.positional elements)
  | .tables elements => some (.positional (elements.map (Toml.table .heading)))
  | .moment => some (.named [])
  | _ => none

def run? (reader : TomlReader α) (value : Toml) : Option α :=
  (fields? value).bind fun fields => (reader fields).map Prod.fst

end TomlReader

end WifiSelection
