import Mathlib.Data.List.Induction
import Mathlib.Data.List.Nodup
import Aviso.Proofs.Condition.Errors
import Aviso.Proofs.Path

/-!
# What a context keeps

A context is written root by root, and a later value takes the place of an earlier
one under its root.

* `Json.insert_insert` and `Json.insert_comm`: under one key the later value counts,
  and under different keys the order does not.
* `Context.settled` is a context with one value under each root, written in a fixed
  order, and `Context.written_eq_settled` says that every run of writings ends in
  such a context.
* `Expression.value_congr_root`: a path sees of a context what is under its root.
* `Context.written_keeps_last` puts them together for what is looked up, for paths and
  for the ticket as it was before.
-/

namespace Aviso

open Text Json

/-! ## Members -/

namespace Json

theorem insert_insert (key : String) (old value : Value) (members : Members) :
    insert key value (insert key old members) = insert key value members := by
  induction members with
  | nil => exact insert_cons_self key value old []
  | cons first members ih =>
    obtain ⟨name, kept⟩ := first
    rcases Std.lt_trichotomy key name with hlt | rfl | hgt
    · rw [insert_cons_of_lt hlt, insert_cons_self, insert_cons_of_lt hlt]
    · rw [insert_cons_self, insert_cons_self, insert_cons_self]
    · rw [insert_cons_of_gt hgt, insert_cons_of_gt hgt, insert_cons_of_gt hgt, ih]

theorem insert_comm_of_lt {key other : String} (hlt : key < other) (value next : Value)
    (members : Members) :
    insert key value (insert other next members) =
      insert other next (insert key value members) := by
  induction members with
  | nil =>
    have hfront := insert_cons_of_lt hlt value next []
    exact hfront.trans (insert_cons_of_gt hlt next value []).symm
  | cons first members ih =>
    obtain ⟨name, old⟩ := first
    rcases Std.lt_trichotomy other name with hbefore | rfl | hbehind
    · rw [insert_cons_of_lt hbefore, insert_cons_of_lt hlt,
        insert_cons_of_lt (String.lt_trans hlt hbefore), insert_cons_of_gt hlt,
        insert_cons_of_lt hbefore]
    · rw [insert_cons_self, insert_cons_of_lt hlt, insert_cons_of_lt hlt, insert_cons_of_gt hlt,
        insert_cons_self]
    · rw [insert_cons_of_gt hbehind]
      rcases Std.lt_trichotomy key name with hfront | rfl | hplace
      · rw [insert_cons_of_lt hfront, insert_cons_of_lt hfront, insert_cons_of_gt hlt,
          insert_cons_of_gt hbehind]
      · rw [insert_cons_self, insert_cons_self, insert_cons_of_gt hlt]
      · rw [insert_cons_of_gt hplace, insert_cons_of_gt hplace, insert_cons_of_gt hbehind, ih]

theorem insert_comm {key other : String} (hdifferent : key ≠ other) (value next : Value)
    (members : Members) :
    insert key value (insert other next members) =
      insert other next (insert key value members) := by
  rcases Std.lt_trichotomy key other with hlt | hsame | hgt
  · exact insert_comm_of_lt hlt value next members
  · exact absurd hsame hdifferent
  · exact (insert_comm_of_lt hgt next value members).symm

end Json

/-! ## Runs of writings -/

theorem Root.mem_all (root : Root) : root ∈ all := by
  cases root <;> decide

namespace Context

/-- The context after the values are written in turn, each under its root. -/
def written (context : Context) (writings : List (Root × Value)) : Context :=
  writings.foldl (fun context writing => context.insert writing.1 writing.2) context

/-- The last of the values that are written under a root. -/
def lastWritten? (root : Root) (writings : List (Root × Value)) : Option Value :=
  ((writings.filter fun writing => writing.1 == root).getLast?).map Prod.snd

/-- The context with the value under the root, if there is one. -/
def put (context : Context) (root : Root) : Option Value → Context
  | none => context
  | some value => context.insert root value

/-- The context that holds at most a value under one root. -/
def holding (root : Root) (value? : Option Value) : Context :=
  ({} : Context).put root value?

/-- The context with the values of the roots, in the order of the roots. -/
def settled (context : Context) (values : Root → Option Value) (roots : List Root) : Context :=
  roots.foldl (fun context root => context.put root (values root)) context

variable {context : Context} {root other : Root} {writings : List (Root × Value)}

theorem written_concat (context : Context) (writings : List (Root × Value))
    (writing : Root × Value) :
    context.written (writings ++ [writing]) =
      (context.written writings).insert writing.1 writing.2 := by
  rw [written, List.foldl_concat]
  rfl

theorem lastWritten?_concat_self (writings : List (Root × Value)) (writing : Root × Value) :
    lastWritten? writing.1 (writings ++ [writing]) = some writing.2 := by
  simp [lastWritten?]

theorem lastWritten?_concat_of_ne (writings : List (Root × Value)) {writing : Root × Value}
    (hdifferent : root ≠ writing.1) :
    lastWritten? root (writings ++ [writing]) = lastWritten? root writings := by
  have hother : ¬ writing.1 = root := hdifferent.symm
  simp [lastWritten?, hother]

/-- Under a root stands the last value that was written there, and what stood there before
if none was. -/
theorem get?_written (context : Context) (writings : List (Root × Value)) (root : Root) :
    (context.written writings).get? root =
      (lastWritten? root writings).or (context.get? root) := by
  induction writings using List.reverseRecOn with
  | nil => rfl
  | append_singleton writings writing ih =>
    rw [written_concat]
    by_cases hroot : root = writing.1
    · rw [hroot, get?_insert_self, lastWritten?_concat_self, Option.some_or]
    · rw [get?_insert_of_ne _ hroot, lastWritten?_concat_of_ne _ hroot, ih]

/-- A key that is the name of no root written keeps what it has. -/
theorem lookup_written {key : String} (hkey : ∀ writing ∈ writings, writing.1.name ≠ key) :
    (context.written writings).members.lookup key = context.members.lookup key := by
  induction writings using List.reverseRecOn with
  | nil => rfl
  | append_singleton writings writing ih =>
    have hlast : key ≠ writing.1.name := (hkey writing (by simp)).symm
    have hrest : ∀ earlier ∈ writings, earlier.1.name ≠ key := fun earlier hmem =>
      hkey earlier (List.mem_append_left _ hmem)
    rw [written_concat, insert, lookup_insert_of_ne hlast, ih hrest]

theorem get?_holding (root : Root) (value? : Option Value) :
    (holding root value?).get? root = value? := by
  cases value? with
  | none => rfl
  | some value => exact get?_insert_self _ root value

/-! ## The order of writings -/

theorem insert_insert (context : Context) (root : Root) (old value : Value) :
    (context.insert root old).insert root value = context.insert root value := by
  simp only [insert, Json.insert_insert]

theorem insert_comm (hdifferent : root ≠ other) (context : Context) (value next : Value) :
    (context.insert root value).insert other next =
      (context.insert other next).insert root value := by
  have hnames : other.name ≠ root.name := fun hsame => hdifferent (Root.name_injective hsame).symm
  simp only [insert, Json.insert_comm hnames]

theorem insert_put_of_ne (hdifferent : root ≠ other) (context : Context) (value? : Option Value)
    (next : Value) :
    (context.put root value?).insert other next = (context.insert other next).put root value? := by
  cases value? with
  | none => rfl
  | some value => exact insert_comm hdifferent context value next

theorem insert_put_self (context : Context) (root : Root) (old? : Option Value) (value : Value) :
    (context.put root old?).insert root value = context.insert root value := by
  cases old? with
  | none => rfl
  | some old => exact insert_insert context root old value

section Settled

variable {values next : Root → Option Value} {roots : List Root}

theorem settled_cons (context : Context) (values : Root → Option Value) (root : Root)
    (roots : List Root) :
    context.settled values (root :: roots) =
      (context.put root (values root)).settled values roots :=
  rfl

theorem settled_congr (hvalues : ∀ root ∈ roots, values root = next root) :
    context.settled values roots = context.settled next roots := by
  induction roots generalizing context with
  | nil => rfl
  | cons first roots ih =>
    obtain ⟨hfirst, hroots⟩ := List.forall_mem_cons.mp hvalues
    rw [settled_cons, settled_cons, hfirst, ih hroots]

theorem insert_settled_of_not_mem (hroot : root ∉ roots) (value : Value) :
    (context.settled values roots).insert root value =
      (context.insert root value).settled values roots := by
  induction roots generalizing context with
  | nil => rfl
  | cons first roots ih =>
    rw [List.mem_cons, not_or] at hroot
    rw [settled_cons, settled_cons, ih hroot.2, insert_put_of_ne (Ne.symm hroot.1)]

/-- A value that is written last takes its place in the order of the roots. -/
theorem insert_settled_of_mem (hroots : roots.Nodup) (hroot : root ∈ roots) {value : Value}
    (hvalue : next root = some value)
    (hothers : ∀ other ∈ roots, other ≠ root → values other = next other) :
    (context.settled values roots).insert root value = context.settled next roots := by
  induction roots generalizing context with
  | nil => exact absurd hroot List.not_mem_nil
  | cons first roots ih =>
    obtain ⟨hfirst, hnodup⟩ := List.nodup_cons.mp hroots
    obtain ⟨hhead, htail⟩ := List.forall_mem_cons.mp hothers
    rw [settled_cons, settled_cons]
    by_cases hsame : first = root
    · subst hsame
      have hrest : ∀ other ∈ roots, values other = next other := fun other hmem =>
        htail other hmem fun hother => hfirst (hother ▸ hmem)
      rw [insert_settled_of_not_mem hfirst, insert_put_self, hvalue, settled_congr hrest]
      rfl
    · have hmem : root ∈ roots := List.mem_of_ne_of_mem (Ne.symm hsame) hroot
      rw [hhead hsame, ih hnodup hmem htail]

end Settled

/-- A run of writings leaves what the last value under each root leaves. -/
theorem written_eq_settled (context : Context) (writings : List (Root × Value)) :
    context.written writings =
      context.settled (fun root => lastWritten? root writings) Root.all := by
  induction writings using List.reverseRecOn with
  | nil => rfl
  | append_singleton writings writing ih =>
    rw [written_concat, ih]
    apply insert_settled_of_mem (by decide) (Root.mem_all writing.1)
      (lastWritten?_concat_self writings writing)
    intro other _ hother
    exact (lastWritten?_concat_of_ne writings hother).symm

end Context

/-! ## Paths -/

/-- A path sees of a context what stands under its root. -/
theorem Expression.value_congr_root {root : Root} {context other : Context}
    (hroot : context.get? root = other.get? root) {expression : List Char}
    (hbegins : BeforePoint (trim expression) root.name.toList) :
    Expression.value expression context = Expression.value expression other := by
  obtain ⟨others, htext, hothers⟩ := hbegins.exists_text
  have hpath : Path.value (trim expression) context = Path.value (trim expression) other := by
    rw [htext]
    cases htop : other.get? root with
    | none =>
      rw [Path.value_of_missing hothers htop, Path.value_of_missing hothers (hroot.trans htop)]
    | some top =>
      rw [Path.value_of_supplied hothers htop, Path.value_of_supplied hothers (hroot.trans htop)]
  simp only [Expression.value, hpath]

/-- The path to the ticket as it was before the event. -/
def Route.ticketBefore : Route :=
  ⟨.previously, ["ticket".toList], by decide, by decide⟩

/-- A key that writes no index leads into objects only. -/
theorem Path.leads_member_iff {top target : Value} {segment : List Char}
    (hindex : index? segment = none) :
    Leads top [segment] target ↔
      ∃ members, top = .object members ∧ members.lookup (String.ofList segment) = some target := by
  constructor
  · intro hleads
    obtain ⟨child, hchild, hhere⟩ := leads_cons_iff.mp hleads
    obtain rfl := leads_nil_iff.mp hhere
    cases hchild with
    | member hmember => exact ⟨_, rfl, hmember⟩
    | item hitem =>
      rw [index?_eq_some_iff.mpr hitem] at hindex
      exact absurd hindex (by simp)
  · rintro ⟨members, rfl, hmember⟩
    exact .step (.member hmember) .here

theorem Route.value_ticketBefore_iff {context : Context} {fields : Members} :
    Expression.value ticketBefore.text context = .ok (.object fields) ↔ context.Past fields := by
  have hsegments : ∀ segment ∈ ["ticket".toList], '.' ∉ segment := ticketBefore.point_free
  have htext : ticketBefore.text = Path.text Root.previously.name.toList ["ticket".toList] := rfl
  have hindex : Path.index? "ticket".toList = none := by decide
  rw [Expression.value_of_path ticketBefore.text_ne_nil ticketBefore.trimmed_text
    ticketBefore.literal?_text, htext, Context.Past]
  cases htop : context.get? .previously with
  | none =>
    rw [Path.value_of_missing hsegments htop]
    simp
  | some top =>
    rw [Path.value_of_supplied hsegments htop, Path.follow_eq_ok_iff, Path.leads_member_iff hindex,
      String.ofList_toList]
    simp only [Option.some.injEq]

/-! ## What is left of a run -/

/-- A run of writings leaves the last value under each root that is written, and everything
else as it was, be it under a root or not.  Only the last values count: runs that leave
the same ones leave the same context, so writings under different roots can change
places.  A path sees nothing of a run but the last value under its root, and what was there
before if none was written.  In every context the fields of the ticket before the event are
those to which its path leads. -/
theorem Context.written_keeps_last (context : Context) (writings : List (Root × Value)) :
    (∀ root, (context.written writings).get? root =
      (lastWritten? root writings).or (context.get? root)) ∧
    (∀ key, (∀ writing ∈ writings, writing.1.name ≠ key) →
      (context.written writings).members.lookup key = context.members.lookup key) ∧
    (∀ root other value next, root ≠ other →
      (context.insert root value).insert other next =
        (context.insert other next).insert root value) ∧
    (∀ others, (∀ root, lastWritten? root others = lastWritten? root writings) →
      context.written others = context.written writings) ∧
    (∀ root expression, BeforePoint (trim expression) root.name.toList →
      Expression.value expression (context.written writings) =
        Expression.value expression
          (holding root ((lastWritten? root writings).or (context.get? root)))) ∧
    ∀ fields, context.ticketBefore? = some fields ↔
      Expression.value "previamente.ticket".toList context = .ok (.object fields) := by
  refine ⟨get?_written context writings, fun key hkey => lookup_written hkey,
    fun root other value next hdifferent => insert_comm hdifferent context value next, ?_, ?_, ?_⟩
  · intro others hlast
    rw [written_eq_settled, written_eq_settled]
    exact settled_congr fun root _ => hlast root
  · intro root expression hbegins
    apply Expression.value_congr_root _ hbegins
    rw [get?_written, get?_holding]
  · intro fields
    have htext : Route.ticketBefore.text = "previamente.ticket".toList := by decide
    rw [ticketBefore?_eq_some_iff, ← Route.value_ticketBefore_iff, htext]

/-- A ticket that is written twice, a client between the two, and a member under no root. -/
theorem Context.written_keeps_last_twice :
    let context : Context := { members := [("otro", .null), ("ticket", .bool false)] }
    let first : Root × Value := (.ticket, .object [("estado", .string "ABIERTO")])
    let client : Root × Value := (.client, .string "Ana")
    let last : Root × Value := (.ticket, .object [("estado", .string "CERRADO")])
    let writings := [first, client, last]
    (∀ writing ∈ writings, writing.1.name ≠ "otro") ∧
      (context.written writings).members.lookup "otro" = some .null ∧
      (∀ root, lastWritten? root [last, client] = lastWritten? root writings) ∧
      context.written [last, client] = context.written writings ∧
      BeforePoint (trim " ticket.estado".toList) Root.ticket.name.toList ∧
      Expression.value " ticket.estado".toList (context.written writings) =
        .ok (.string "CERRADO") := by
  intro context first client last writings
  have hkey : ∀ writing ∈ writings, writing.1.name ≠ "otro" := by decide
  have hlast : ∀ root, lastWritten? root [last, client] = lastWritten? root writings := by
    intro root
    cases root <;> rfl
  have hbegins : BeforePoint (trim " ticket.estado".toList) Root.ticket.name.toList :=
    ⟨by decide, .inr ⟨"estado".toList, by decide⟩⟩
  obtain ⟨_, hlookup, _, hsame, hpath, _⟩ := written_keeps_last context writings
  have hvalue := hpath .ticket " ticket.estado".toList hbegins
  exact ⟨hkey, hlookup "otro" hkey, hlast, hsame _ hlast, hbegins, hvalue.trans rfl⟩

end Aviso
