import Mathlib.Data.List.Nodup
import Mathlib.Logic.Relation
import WifiSelection.Json.Basic
import WifiSelection.Proofs.Regrouping

/-!
Records in JSON, field by field. A record is written with all its fields and is read from named
members one field at a time. So it reads back as it was written, and it reads the same when members
are left out that have the default of their field, when members of other names are added, and when
a member is worded otherwise.
-/

namespace WifiSelection

open JsonForm (toJson ofJson?)

/-- Which JSON values are other wordings of one that was read as a value. -/
class JsonWording (α : Type) [JsonForm α] where
  Rewords : α → Json → Json → Prop

class LawfulJson (α : Type) [JsonForm α] [JsonWording α] : Prop where
  ofJson?_toJson : ∀ value : α, ofJson? (toJson value) = some value
  ofJson?_of_rewords : ∀ {value : α} {json other : Json}, ofJson? json = some value →
    JsonWording.Rewords value json other → ofJson? other = some value

abbrev JsonMembers := List (String × Json)

namespace JsonReader

variable [JsonForm β]

def named? (name : String) (missing : Option β) (members : JsonMembers) : Option β :=
  match members.lookup name with
  | some json => ofJson? json
  | none => missing

theorem run?_bind_field (name : String) (missingName missingPlace : Option β)
    (next : β → JsonReader α) (members : JsonMembers) :
    run? (field name missingName missingPlace >>= next) (.record members) =
      (named? name missingName members).bind fun value => run? (next value) (.record members) := by
  change ((field name missingName missingPlace (.named members)).bind fun read =>
    next read.1 read.2).map Prod.fst = _
  simp only [field, named?]
  cases members.lookup name with
  | none => cases missingName <;> rfl
  | some json =>
      simp only
      cases read : (ofJson? json : Option β) <;> rfl

theorem run?_bind_required (name : String) (next : β → JsonReader α) (members : JsonMembers) :
    run? (required name >>= next) (.record members) =
      (named? name none members).bind fun value => run? (next value) (.record members) :=
  run?_bind_field name none none next members

theorem run?_bind_defaulted (name : String) (default : β) (next : β → JsonReader α)
    (members : JsonMembers) : run? (defaulted name default >>= next) (.record members) =
      (named? name (some default) members).bind fun value => run? (next value) (.record members) :=
  run?_bind_field name (some default) (some default) next members

theorem run?_pure (value : α) (members : JsonMembers) :
    run? (pure value) (.record members) = some value :=
  rfl

end JsonReader

/-- A field of a record, with the value that it has when it is left out, if it may be. -/
structure JsonField (α : Type) where
  {Value : Type}
  [form : JsonForm Value]
  [wording : JsonWording Value]
  [lawful : LawfulJson Value]
  name : String
  get : α → Value
  default : Option Value := none

attribute [instance] JsonField.form JsonField.wording JsonField.lawful

namespace JsonField

variable (field : JsonField α)

def write (value : α) : Json :=
  toJson (field.get value)

def read? (members : JsonMembers) : Option field.Value :=
  JsonReader.named? field.name field.default members

end JsonField

class JsonRecord (α : Type) [JsonForm α] where
  fields : List (JsonField α)
  names_nodup : (fields.map JsonField.name).Nodup
  toJson_eq : ∀ value : α,
    toJson value = .record (fields.map fun field => (field.name, field.write value))
  ofJson?_eq_some_iff : ∀ (members : JsonMembers) (value : α),
    ofJson? (.record members) = some value ↔
      ∀ field ∈ fields, field.read? members = some (field.get value)

section Lookup

variable {name other : String} {members before after : JsonMembers} {json : Json}

theorem lookup_filter_of_ne (apart : other ≠ name) :
    (members.filter fun member => member.1 ≠ name).lookup other = members.lookup other := by
  induction members with
  | nil => rfl
  | cons head tail ih =>
      obtain ⟨key, json⟩ := head
      by_cases dropped : key = name
      · subst key
        have unequal : (other == name) = false := by simpa using apart
        rw [List.lookup_cons, unequal]
        simpa using ih
      · simp only [List.filter_cons, dropped, ne_eq, not_false_eq_true, decide_true, if_true,
          List.lookup_cons]
        cases other == key with
        | true => rfl
        | false => exact ih

theorem lookup_filter_self : (members.filter fun member => member.1 ≠ name).lookup name = none := by
  rw [List.lookup_eq_none_iff]
  intro member kept
  have apart := of_decide_eq_true (List.mem_filter.mp kept).2
  simpa using Ne.symm apart

theorem lookup_insert_of_ne (apart : other ≠ name) :
    (before ++ (name, json) :: after).lookup other = (before ++ after).lookup other := by
  have unequal : (other == name) = false := by simpa using apart
  simp only [List.lookup_append, List.lookup_cons, unequal]

end Lookup

namespace JsonRecord

variable [JsonForm α] [JsonRecord α] {value : α} {members others : JsonMembers}

theorem ofJson?_toJson (value : α) : ofJson? (toJson value) = some value := by
  rw [toJson_eq, ofJson?_eq_some_iff]
  intro field declared
  have written := lookup_map_of_nodup (names_nodup (α := α)) declared fun field => field.write value
  simp only [JsonField.read?, JsonReader.named?, written]
  exact LawfulJson.ofJson?_toJson (field.get value)

/-- One change to the wording of a record that was read as a value. -/
inductive Rewording (value : α) : JsonMembers → JsonMembers → Prop
  | leaveOut {members : JsonMembers} {field : JsonField α} (declared : field ∈ fields)
      (isDefault : field.default = some (field.get value)) :
      Rewording value members (members.filter fun member => member.1 ≠ field.name)
  | add {before after : JsonMembers} {name : String} {json : Json}
      (unknown : ∀ field ∈ fields (α := α), field.name ≠ name) :
      Rewording value (before ++ after) (before ++ (name, json) :: after)
  | reword {before after : JsonMembers} {field : JsonField α} {json other : Json}
      (declared : field ∈ fields)
      (rewords : JsonWording.Rewords (field.get value) json other) :
      Rewording value (before ++ (field.name, json) :: after)
        (before ++ (field.name, other) :: after)

theorem eq_of_name_eq {field other : JsonField α} (declared : field ∈ fields)
    (otherDeclared : other ∈ fields) (same : field.name = other.name) : field = other :=
  List.inj_on_of_nodup_map names_nodup declared otherDeclared same

theorem read?_of_rewording (rewording : Rewording value members others)
    (read : ∀ field ∈ fields, field.read? members = some (field.get value)) :
    ∀ field ∈ fields, field.read? others = some (field.get value) := by
  intro field declared
  have readBefore := read field declared
  rw [JsonField.read?, JsonReader.named?] at readBefore ⊢
  cases rewording with
  | @leaveOut _ omitted omittedDeclared isDefault =>
      by_cases same : field.name = omitted.name
      · obtain rfl := eq_of_name_eq declared omittedDeclared same
        rw [lookup_filter_self]
        exact isDefault
      · rw [lookup_filter_of_ne same]
        exact readBefore
  | add unknown =>
      rw [lookup_insert_of_ne (unknown field declared)]
      exact readBefore
  | @reword before after changed json other changedDeclared rewords =>
      by_cases same : field.name = changed.name
      · obtain rfl := eq_of_name_eq declared changedDeclared same
        rw [List.lookup_append, List.lookup_cons_self] at readBefore ⊢
        cases earlier : before.lookup field.name with
        | some first =>
            rw [earlier] at readBefore
            exact readBefore
        | none =>
            rw [earlier] at readBefore
            exact LawfulJson.ofJson?_of_rewords readBefore rewords
      · rw [lookup_insert_of_ne same] at readBefore ⊢
        exact readBefore

theorem ofJson?_of_rewordings (read : ofJson? (.record members) = some value)
    (rewordings : Relation.ReflTransGen (Rewording value) members others) :
    ofJson? (.record others) = some value := by
  rw [ofJson?_eq_some_iff] at read ⊢
  induction rewordings with
  | refl => exact read
  | tail _ rewording ih => exact read?_of_rewording rewording ih

instance : JsonWording α where
  Rewords value json other := ∃ members others, json = .record members ∧ other = .record others ∧
    Relation.ReflTransGen (Rewording value) members others

instance : LawfulJson α where
  ofJson?_toJson := ofJson?_toJson
  ofJson?_of_rewords := by
    rintro value json other read ⟨members, others, rfl, rfl, rewordings⟩
    exact ofJson?_of_rewordings read rewordings

end JsonRecord

end WifiSelection
