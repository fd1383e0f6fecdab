import TokenConformance.Json.Value

/-! # Objects with declared fields

A record is written as an object, or as the array of its fields in the order of their declaration.

* `Record`: the declared fields that a value gives.
* `Json.record?`: reads a record. Fields that are not declared do not matter; a declared field may
  not stand twice; an array may not be longer than the declaration.
* `Record.required`, `Record.withDefault`, `Record.optional`: how the three kinds of fields are
  read. In an array only fields with a default may be left off at the end.
* `Json.tagged?`: the kind of a record that carries it in the field `nodeType`, or first.
* `Json.kindAmong?`: the kinds that records inside other tagged records may carry.
-/

namespace TokenConformance

/-- The declared fields that a value gives, each at most once. -/
structure Record where
  /-- Written as an array. -/
  positional : Bool
  fields : List (String × Json)
deriving Inhabited

namespace Record

/-- The value of a field. -/
def find? (r : Record) (name : String) : Option Json :=
  (r.fields.find? fun f => f.1 = name).map (·.2)

/-- A field that must be there. -/
def required {α : Type} (r : Record) (name : String) (read : Json → Option α) : Option α :=
  (r.find? name).bind read

/-- A field that has a value when it is not there. It may not be `null`. -/
def withDefault {α : Type} (r : Record) (name : String) (default : α) (read : Json → Option α) :
    Option α :=
  match r.find? name with
  | none => some default
  | some j => read j

/-- A field that may be missing or `null`. An array must give it. -/
def optional {α : Type} (r : Record) (name : String) (read : Json → Option α) :
    Option (Option α) :=
  match r.find? name with
  | none => if r.positional then none else some none
  | some j => j.nullable? read

end Record

namespace Json

/-- The fields of an object of which every key is a text. -/
def namedFields? (fields : List (Option String × Json)) : Option (List (String × Json)) :=
  fields.mapM fun f => f.1.map (·, f.2)

/-- Reads a record with the given fields. -/
def record? (names : List String) : Json → Option Record
  | .object fields => do
    let fields ← namedFields? fields
    let known := fields.filter fun f => f.1 ∈ names
    if (known.map (·.1)).Nodup then some ⟨false, known⟩ else none
  | .array items => if items.length ≤ names.length then some ⟨true, names.zip items⟩ else none
  | _ => none

/-- A kind by its name, or by its number among the known kinds. A number past them is unknown. -/
def kindAmong? (kinds : List String) : Json → Option String
  | .number n => (n.toIntIn? 0 18446744073709551615).map fun i => kinds.getD i.toNat ""
  | j => j.text?

/-- The kind of a tagged record, and the record without it. -/
def tagged? (kind? : Json → Option String) : Json → Option (String × Json)
  | .object fields =>
    match fields.filter fun f => f.1 = some "nodeType" with
    | [(_, tag)] =>
      (kind? tag).map (·, .object (fields.filter fun f => f.1 ≠ some "nodeType"))
    | _ => none
  | .array (tag :: items) => (kind? tag).map (·, .array items)
  | _ => none

/-- Whether a record of an unknown kind is acceptable: as an array it has nothing but its kind. -/
def ignorable : Json → Bool
  | .array items => items.isEmpty
  | _ => true

/-- The value with one field of an object named otherwise. -/
def renameField (old new : String) : Json → Json
  | .object fields =>
    .object (fields.map fun f => if f.1 = some old then (some new, f.2) else f)
  | j => j

end Json

end TokenConformance
