import Aviso.Json.Print
import Aviso.Text.Quoted

/-!
# Reading records from JSON values

The parts from which records are read, and the errors that name what was found
and what was expected.

* `Value.toText`, `Value.toOption` and the others read the value of a field;
* `Record.ofValue` reads a record from an object or an array.
-/

namespace Aviso.Json

/-- What a value can be expected to be. -/
inductive Shape where
  | map
  | string
  | boolean
  /-- Nothing but null. -/
  | unit
  /-- The name of a choice, or an object with the name as its only key. -/
  | choice
  /-- A record by its name and its number of fields. -/
  | record (name : String) (fields : Nat)
deriving Repr, DecidableEq

def Shape.message : Shape → String
  | map => "a map"
  | string => "a string"
  | boolean => "a boolean"
  | unit => "unit"
  | choice => "string or map"
  | record name _ => "struct " ++ name

/-- What a value is, as an error says it. -/
def Value.found : Value → String
  | .null => "null"
  | .bool value => "boolean \x60" ++ (if value then "true" else "false") ++ "\x60"
  | .number (.integer value) => "integer \x60" ++ value.repr ++ "\x60"
  | .number (.binary64 value) => "floating point \x60" ++ String.ofList value.print ++ "\x60"
  | .string text => "string " ++ Text.quoted text
  | .array _ => "sequence"
  | .object _ => "map"

/-- Why a value is not what it is read as. -/
inductive DecodeError where
  | wrongType (value : Value) (expected : Shape)
  | missingField (name : String)
  | unknownChoice (name : String) (known : List String)
  /-- An object that stands for a choice has not exactly one key. -/
  | notOneKey
  /-- An array that stands for a record ends before a field that has no default. -/
  | tooShort (length : Nat) (record : String) (fields : Nat)
  | tooLong (length : Nat)
deriving Repr

/-- A name as errors show it. -/
def ticked (name : String) : String :=
  "\x60" ++ name ++ "\x60"

def DecodeError.message : DecodeError → String
  | wrongType value expected =>
    "invalid type: " ++ value.found ++ ", expected " ++ expected.message
  | missingField name => "missing field " ++ ticked name
  | unknownChoice name known =>
    let known := match known with
      | [only] => ticked only
      | several => "one of " ++ ", ".intercalate (several.map ticked)
    "unknown variant " ++ ticked name ++ ", expected " ++ known
  | notOneKey => "invalid value: map, expected map with a single key"
  | tooShort length record fields =>
    "invalid length " ++ toString length ++ ", expected struct " ++ record ++ " with " ++
      toString fields ++ " elements"
  | tooLong length =>
    "invalid length " ++ toString length ++ ", expected fewer elements in array"

namespace Value

def toText : Value → Except DecodeError String
  | .string text => .ok text
  | value => .error (.wrongType value .string)

def toBool : Value → Except DecodeError Bool
  | .bool value => .ok value
  | value => .error (.wrongType value .boolean)

def toMembers : Value → Except DecodeError Members
  | .object members => .ok members
  | value => .error (.wrongType value .map)

/-- Null stands for nothing. -/
def toOption (decode : Value → Except DecodeError α) : Value → Except DecodeError (Option α)
  | .null => .ok none
  | value => (decode value).map some

/-- The choice of a name. -/
def named (known : List String) (ofName? : String → Option α) (name : String) :
    Except DecodeError α :=
  match ofName? name with
  | some choice => .ok choice
  | none => .error (.unknownChoice name known)

/-- A choice is given by its name, or by an object that holds null under its name. -/
def toChoice (known : List String) (ofName? : String → Option α) :
    Value → Except DecodeError α
  | .string name => named known ofName? name
  | .object [(name, value)] => do
    let choice ← named known ofName? name
    match value with
    | .null => return choice
    | value => .error (.wrongType value .unit)
  | .object _ => .error .notOneKey
  | value => .error (.wrongType value .choice)

end Value

/-- The text of a value that may be missing. -/
def ofOption (encode : α → Value) : Option α → Value
  | none => .null
  | some value => encode value

/-! ## Records -/

/-- How a record is read.  The values of its fields go into a draft, one after the other, and
the draft gives the record in the end, or a field that it lacks. -/
structure Record (φ δ ρ : Type) where
  /-- The name of the record in errors. -/
  name : String
  /-- The fields in the order of the array form. -/
  fields : List φ
  /-- The key of a field in the object form. -/
  key : φ → String
  /-- The draft before any field is read, with the defaults. -/
  empty : δ
  set : δ → φ → Value → Except DecodeError δ
  finish : δ → Except φ ρ
  mem_fields : ∀ field, field ∈ fields
  key_injective : ∀ {first second}, key first = key second → first = second

namespace Record

variable {φ δ ρ : Type}

/-- The field of a key, if it is that of one. -/
def ofKey? (record : Record φ δ ρ) (key : String) : Option φ :=
  record.fields.find? fun field => record.key field == key

theorem ofKey?_eq_some_iff {record : Record φ δ ρ} {key : String} {field : φ} :
    record.ofKey? key = some field ↔ record.key field = key := by
  constructor
  · intro hfound
    simpa using List.find?_some hfound
  · rintro rfl
    cases hfound : record.ofKey? (record.key field) with
    | none =>
      have hother := List.find?_eq_none.mp hfound field (record.mem_fields field)
      exact absurd (beq_self_eq_true _) hother
    | some other =>
      have hsame : record.key other = record.key field := by
        simpa using List.find?_some hfound
      rw [record.key_injective hsame]

/-- Reads a member; one that is no field changes nothing. -/
def setMember (record : Record φ δ ρ) (draft : δ) (member : String × Value) :
    Except DecodeError δ :=
  match record.ofKey? member.1 with
  | some field => record.set draft field member.2
  | none => .ok draft

/-- The record that the members of an object give. -/
def ofMembers (record : Record φ δ ρ) (members : Members) : Except DecodeError ρ := do
  let draft ← members.foldlM record.setMember record.empty
  (record.finish draft).mapError fun field => .missingField (record.key field)

/-- The record that the items of an array give; the fields at its end that have
a default may be left off. -/
def ofItems [DecidableEq φ] (record : Record φ δ ρ) (items : List Value) :
    Except DecodeError ρ := do
  let draft ← (record.fields.zip items).foldlM
    (fun draft item => record.set draft item.1 item.2) record.empty
  let value ← (record.finish draft).mapError fun field =>
    .tooShort (record.fields.idxOf field) record.name record.fields.length
  if record.fields.length < items.length then .error (.tooLong items.length) else return value

/-- The record that a value stands for. -/
def ofValue [DecidableEq φ] (record : Record φ δ ρ) : Value → Except DecodeError ρ
  | .object members => record.ofMembers members
  | .array items => record.ofItems items
  | value => .error (.wrongType value (.record record.name record.fields.length))

end Record

end Aviso.Json
