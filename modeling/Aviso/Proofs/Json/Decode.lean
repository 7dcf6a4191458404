import Mathlib.Data.List.Forall2
import Aviso.Json.Decode

/-!
# Reading records

A record is read value by value into a draft.  What each value does to the draft is
said once for a kind of record (`Record.Reads`), and carries the loops over the members
of an object and over the items of an array.

* `Reads.exists_foldlM_setMember` and `Reads.exists_foldlM_zip`: after a run of values
  the draft holds the fields that they were given for, and what it held before.
* `Reads.ofMembers_eq_ok` and `Reads.ofItems_eq_ok`: a record is read from values that stand
  for its fields, in whatever order the members come, where every other field is held by
  the empty draft.
-/

namespace Aviso.Json.Record

variable {φ δ ρ : Type}

/-- `Holds` says which fields of the record a draft holds, and `StandsFor` which values can be
given for a field. -/
structure Reads (record : Record φ δ ρ) (value : ρ) (Holds : δ → φ → Prop)
    (StandsFor : φ → Value → Prop) : Prop where
  /-- A value that stands for a field is read, and of the draft no other field is changed. -/
  set : ∀ (draft : δ) {field : φ} {given : Value}, StandsFor field given →
    ∃ next, record.set draft field given = .ok next ∧
      ∀ other, Holds next other ↔ other = field ∨ Holds draft other
  finish : ∀ {draft : δ}, (∀ field, Holds draft field) → record.finish draft = .ok value

namespace Reads

variable {record : Record φ δ ρ} {value : ρ} {Holds : δ → φ → Prop} {StandsFor : φ → Value → Prop}

section Members

variable {members : Members}

/-- After a run of members the draft holds the fields among them. -/
theorem exists_foldlM_setMember (hreads : record.Reads value Holds StandsFor) (draft : δ)
    (hstands : ∀ member ∈ members, ∀ field, record.ofKey? member.1 = some field →
      StandsFor field member.2) :
    ∃ last, members.foldlM record.setMember draft = .ok last ∧
      ∀ field, Holds last field ↔ record.key field ∈ members.map Prod.fst ∨ Holds draft field := by
  induction members generalizing draft with
  | nil => exact ⟨draft, rfl, by simp⟩
  | cons member members ih =>
    obtain ⟨hmember, hmembers⟩ := List.forall_mem_cons.mp hstands
    cases hkey : record.ofKey? member.1 with
    | none =>
      obtain ⟨last, hlast, hholds⟩ := ih draft hmembers
      refine ⟨last, ?_, fun field => ?_⟩
      · rw [List.foldlM_cons, setMember, hkey]
        exact hlast
      · have hother : record.key field ≠ member.1 := by
          intro hsame
          rw [ofKey?_eq_some_iff.mpr hsame] at hkey
          exact absurd hkey (by simp)
        rw [hholds, List.map_cons, List.mem_cons, or_iff_right hother]
    | some read =>
      obtain ⟨next, hnext, hset⟩ := hreads.set draft (hmember read hkey)
      obtain ⟨last, hlast, hholds⟩ := ih next hmembers
      refine ⟨last, ?_, fun field => ?_⟩
      · rw [List.foldlM_cons, setMember, hkey]
        simp only [hnext]
        exact hlast
      · have hsame : record.key field = member.1 ↔ field = read := by
          rw [← ofKey?_eq_some_iff, hkey, Option.some.injEq, eq_comm]
        rw [hholds, hset, List.map_cons, List.mem_cons, hsame, or_left_comm, or_assoc]

/-- A record is read from members that stand for its fields, if no field is left out but
those that the empty draft holds. -/
theorem ofMembers_eq_ok (hreads : record.Reads value Holds StandsFor)
    (hstands : ∀ member ∈ members, ∀ field, record.ofKey? member.1 = some field →
      StandsFor field member.2)
    (hleft : ∀ field, record.key field ∈ members.map Prod.fst ∨ Holds record.empty field) :
    record.ofMembers members = .ok value := by
  obtain ⟨last, hlast, hholds⟩ := hreads.exists_foldlM_setMember record.empty hstands
  have hfinish : record.finish last = .ok value :=
    hreads.finish fun field => (hholds field).mpr (hleft field)
  rw [ofMembers, hlast]
  show Except.mapError _ (record.finish last) = .ok value
  rw [hfinish]
  rfl

end Members

section Items

variable {fields : List φ} {items : List Value}

/-- After a run of items the draft holds their fields. -/
theorem exists_foldlM_zip (hreads : record.Reads value Holds StandsFor) (draft : δ)
    (hstands : List.Forall₂ StandsFor fields items) :
    ∃ last,
      (fields.zip items).foldlM (fun draft item => record.set draft item.1 item.2) draft =
        .ok last ∧
      ∀ field, Holds last field ↔ field ∈ fields ∨ Holds draft field := by
  induction hstands generalizing draft with
  | nil => exact ⟨draft, rfl, by simp⟩
  | @cons field given fields items hgiven _ ih =>
    obtain ⟨next, hnext, hset⟩ := hreads.set draft hgiven
    obtain ⟨last, hlast, hholds⟩ := ih next
    refine ⟨last, ?_, fun other => ?_⟩
    · rw [List.zip_cons_cons, List.foldlM_cons, hnext]
      exact hlast
    · rw [hholds, hset, List.mem_cons, or_left_comm, or_assoc]

/-- A record is read from an array of its fields, if none is left off its end but those that
the empty draft holds. -/
theorem ofItems_eq_ok [DecidableEq φ] (hreads : record.Reads value Holds StandsFor)
    (hstands : List.Forall₂ StandsFor (record.fields.take items.length) items)
    (hleft : ∀ field ∈ record.fields.drop items.length, Holds record.empty field) :
    record.ofItems items = .ok value := by
  obtain ⟨last, hlast, hholds⟩ := hreads.exists_foldlM_zip record.empty hstands
  have hlength := hstands.length_eq
  have hfits : ¬ record.fields.length < items.length := by
    rw [List.length_take] at hlength
    omega
  have hzip : record.fields.zip items = (record.fields.take items.length).zip items := by
    rw [List.zip_eq_zip_take_min, Nat.min_eq_right (Nat.le_of_not_lt hfits), List.take_length]
  have hfinish : record.finish last = .ok value := by
    refine hreads.finish fun field => (hholds field).mpr ?_
    have hmem := record.mem_fields field
    rw [← List.take_append_drop items.length record.fields, List.mem_append] at hmem
    exact hmem.imp_right (hleft field)
  rw [ofItems, hzip, hlast]
  show (Except.mapError _ (record.finish last)).bind _ = .ok value
  rw [hfinish]
  exact if_neg hfits

end Items

end Reads

end Aviso.Json.Record
