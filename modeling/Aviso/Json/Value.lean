import Aviso.Binary64.Basic

/-!
# JSON values

Integers and binary64 numbers are different numbers of a JSON value, since they
print differently.  The members of an object are a list of keys and values; an
object that was read has its keys in ascending order and each key once, which
`insert` keeps.
-/

namespace Aviso.Json

/-- A number of a JSON value. -/
inductive Number where
  | integer (value : Int)
  | binary64 (value : Binary64)
deriving Repr, DecidableEq

/-- The binary64 number nearest to a number, in units of `2 ^ -1074`. -/
def Number.signedUnits : Number → Int
  | integer value =>
    let magnitude : Nat := units (nearestCode (value.natAbs * unitsPerOne) 1)
    if value < 0 then -(magnitude : Int) else magnitude
  | binary64 value => value.signedUnits

/-- A JSON value. -/
inductive Value where
  | null
  | bool (value : Bool)
  | number (value : Number)
  | string (value : String)
  | array (items : List Value)
  | object (members : List (String × Value))
deriving Repr

/-- The members of an object. -/
abbrev Members := List (String × Value)

/-- The members with the value at the key, in place of any other there. -/
def insert (key : String) (value : Value) : Members → Members
  | [] => [(key, value)]
  | (other, old) :: members =>
    if key < other then (key, value) :: (other, old) :: members
    else if key = other then (key, value) :: members
    else (other, old) :: insert key value members

/-- The members that writing the given ones in turn leaves. -/
def Members.ofList (written : Members) : Members :=
  written.foldl (fun members (key, value) => insert key value members) []

namespace Value

def string? : Value → Option String
  | string value => some value
  | _ => none

def object? : Value → Option Members
  | object members => some members
  | _ => none

end Value

/-! ## Writing a member -/

section Insert

variable {key name : String}

theorem insert_cons_of_lt (before : key < name) (value old : Value) (members : Members) :
    insert key value ((name, old) :: members) = (key, value) :: (name, old) :: members :=
  if_pos before

theorem insert_cons_self (key : String) (value old : Value) (members : Members) :
    insert key value ((key, old) :: members) = (key, value) :: members := by
  rw [insert, if_neg (String.lt_irrefl key), if_pos rfl]

theorem insert_cons_of_gt (behind : name < key) (value old : Value) (members : Members) :
    insert key value ((name, old) :: members) = (name, old) :: insert key value members := by
  have different : key ≠ name := fun same => String.lt_irrefl key (same ▸ behind)
  rw [insert, if_neg (String.lt_asymm behind), if_neg different]

end Insert

/-! ## Looking up what was written -/

@[simp] theorem lookup_insert_self (key : String) (value : Value) (members : Members) :
    (insert key value members).lookup key = some value := by
  induction members with
  | nil => exact List.lookup_cons_self
  | cons member members ih =>
    obtain ⟨name, old⟩ := member
    rcases Std.lt_trichotomy key name with before | rfl | behind
    · rw [insert_cons_of_lt before, List.lookup_cons_self]
    · rw [insert_cons_self, List.lookup_cons_self]
    · have unequal : (key == name) = false :=
        beq_false_of_ne fun same => String.lt_irrefl key (same ▸ behind)
      rw [insert_cons_of_gt behind, List.lookup_cons, unequal]
      exact ih

theorem lookup_insert_of_ne {key other : String} (different : other ≠ key) (value : Value)
    (members : Members) : (insert key value members).lookup other = members.lookup other := by
  have unequal : (other == key) = false := beq_false_of_ne different
  induction members with
  | nil => rw [insert, List.lookup_cons, unequal]
  | cons member members ih =>
    obtain ⟨name, old⟩ := member
    rcases Std.lt_trichotomy key name with before | rfl | behind
    · rw [insert_cons_of_lt before, List.lookup_cons, unequal]
    · rw [insert_cons_self, List.lookup_cons, List.lookup_cons, unequal]
    · rw [insert_cons_of_gt behind, List.lookup_cons, List.lookup_cons, ih]

end Aviso.Json
