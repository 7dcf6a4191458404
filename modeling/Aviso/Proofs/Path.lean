import Aviso.Expression
import Aviso.Proofs.Literal
import Aviso.Proofs.Results
import Aviso.Proofs.Text.Blank

/-!
# Where paths lead

A path is written with points between its root and its segments.  `Child` says
what one segment names in a value, and `Leads` where several of them lead, both
without the reading of a path.

* `Path.segments_text` and `Path.exists_text`: a text is divided at its points, in
  one way.
* `Path.follow_eq_ok_iff` and `Path.follow_eq_error_iff`: following segments ends
  where they lead, or at the first one that names nothing.
* `Route.trimmed_text` and `Route.literal?_text`: neither blanks nor a literal come
  between a path and its value.
* `Path.value_iff_leads`: an expression that is no literal has a value exactly when
  it is a path that leads there, and its error otherwise says where it stops.
-/

namespace Aviso

open Text Json

namespace Path

/-! ## What segments name -/

/-- The segment writes the index: digits, with a plus sign or without it. -/
def Indexes (segment : List Char) (index : Nat) : Prop :=
  ∃ sign digits, segment = sign ++ digits ∧ (sign = [] ∨ sign = ['+']) ∧
    digits ≠ [] ∧ (∀ c ∈ digits, c.isDigit = true) ∧ digitsValue digits = index

/-- The child is the member of an object with the segment as its key, or the item
of an array at the index that the segment writes. -/
inductive Child : Value → List Char → Value → Prop where
  | member {members segment child}
      (hmember : members.lookup (String.ofList segment) = some child) :
      Child (.object members) segment child
  | item {items segment index child} (hindex : Indexes segment index)
      (hitem : items[index]? = some child) : Child (.array items) segment child

/-- The segments lead from one value to another, each naming a child. -/
inductive Leads : Value → List (List Char) → Value → Prop where
  | here {value} : Leads value [] value
  | step {value segment child segments target} (hchild : Child value segment child)
      (hleads : Leads child segments target) : Leads value (segment :: segments) target

theorem index?_eq_some_iff {segment : List Char} {index : Nat} :
    index? segment = some index ↔ Indexes segment index := by
  have hdigits {digits : List Char} :
      (if digits.isEmpty || !digits.all Char.isDigit then none else some (digitsValue digits)) =
          some index ↔
        digits ≠ [] ∧ (∀ c ∈ digits, c.isDigit = true) ∧ digitsValue digits = index := by
    cases digits <;> simp
  unfold index?
  split
  · rename_i digits
    rw [hdigits]
    constructor
    · intro hindex
      exact ⟨['+'], digits, rfl, .inr rfl, hindex⟩
    · rintro ⟨sign, other, hsegment, rfl | rfl, hindex⟩
      · rw [List.nil_append] at hsegment
        exact absurd (hindex.2.1 '+' (hsegment ▸ List.mem_cons_self)) (by decide)
      · rw [List.cons.inj hsegment |>.2]
        exact hindex
  · rename_i hsign
    rw [hdigits]
    constructor
    · intro hindex
      exact ⟨[], segment, rfl, .inl rfl, hindex⟩
    · rintro ⟨sign, digits, hsegment, rfl | rfl, hindex⟩
      · rw [hsegment]
        exact hindex
      · exact absurd hsegment (hsign digits)

theorem child?_eq_some_iff {value child : Value} {segment : List Char} :
    child? value segment = some child ↔ Child value segment child := by
  constructor
  · intro hchild
    unfold child? at hchild
    split at hchild
    · exact .member hchild
    · obtain ⟨index, hindex, hitem⟩ := Option.bind_eq_some_iff.mp hchild
      exact .item (index?_eq_some_iff.mp hindex) hitem
    · exact absurd hchild (by simp)
  · intro hchild
    cases hchild with
    | member hmember => exact hmember
    | item hindex hitem => simp [child?, index?_eq_some_iff.mpr hindex, hitem]

theorem child?_eq_none_iff {value : Value} {segment : List Char} :
    child? value segment = none ↔ ∀ child, ¬ Child value segment child := by
  simp only [← child?_eq_some_iff, Option.eq_none_iff_forall_ne_some, ne_eq]

/-! ## Following segments -/

theorem leads_nil_iff {value target : Value} : Leads value [] target ↔ value = target := by
  constructor
  · intro hleads
    cases hleads
    rfl
  · rintro rfl
    exact .here

theorem leads_cons_iff {value target : Value} {segment : List Char} {segments : List (List Char)} :
    Leads value (segment :: segments) target ↔
      ∃ child, Child value segment child ∧ Leads child segments target := by
  constructor
  · intro hleads
    cases hleads with
    | step hchild hleads => exact ⟨_, hchild, hleads⟩
  · rintro ⟨child, hchild, hleads⟩
    exact .step hchild hleads

theorem follow_cons_of_child {path : List Char} {value child : Value} {segment : List Char}
    (hchild : child? value segment = some child) (segments : List (List Char)) :
    follow path value (segment :: segments) = follow path child segments := by
  rw [follow, hchild]

/-- The segment is the first one that names nothing: those in front of it lead to a
value, and that value has no such child. -/
def Breaks (value : Value) (segments : List (List Char)) (segment : List Char) : Prop :=
  ∃ passed later reached, segments = passed ++ segment :: later ∧
    Leads value passed reached ∧ ∀ child, ¬ Child reached segment child

theorem breaks_cons_iff {value child : Value} {segment missing : List Char}
    {segments : List (List Char)} (hchild : child? value segment = some child) :
    Breaks value (segment :: segments) missing ↔ Breaks child segments missing := by
  constructor
  · rintro ⟨passed, later, reached, hsplit, hleads, hnone⟩
    cases passed with
    | nil =>
      obtain ⟨rfl, rfl⟩ := List.cons.inj hsplit
      rw [← leads_nil_iff.mp hleads, ← child?_eq_none_iff, hchild] at hnone
      exact absurd hnone (by simp)
    | cons first passed =>
      obtain ⟨rfl, hrest⟩ := List.cons.inj hsplit
      obtain ⟨other, hother, hleads⟩ := leads_cons_iff.mp hleads
      rw [← child?_eq_some_iff, hchild] at hother
      obtain rfl := Option.some.inj hother
      exact ⟨passed, later, reached, hrest, hleads, hnone⟩
  · rintro ⟨passed, later, reached, rfl, hleads, hnone⟩
    exact ⟨segment :: passed, later, reached, rfl,
      .step (child?_eq_some_iff.mp hchild) hleads, hnone⟩

theorem follow_eq_ok_iff {path : List Char} {value target : Value}
    {segments : List (List Char)} :
    follow path value segments = .ok target ↔ Leads value segments target := by
  induction segments generalizing value with
  | nil => rw [follow, Except.ok.injEq, leads_nil_iff]
  | cons segment segments ih =>
    rw [leads_cons_iff]
    cases hchild : child? value segment with
    | none =>
      have hnone := child?_eq_none_iff.mp hchild
      simp [follow, hchild, hnone]
    | some child =>
      rw [follow_cons_of_child hchild, ih]
      simp only [← child?_eq_some_iff, hchild, Option.some.injEq, exists_eq_left']

theorem follow_eq_error_iff {path : List Char} {value : Value} {segments : List (List Char)}
    {error : ExpressionError} :
    follow path value segments = .error error ↔
      ∃ segment, Breaks value segments segment ∧
        error = .missingProperty (String.ofList path) (String.ofList segment) := by
  induction segments generalizing value with
  | nil => simp [follow, Breaks]
  | cons segment segments ih =>
    cases hchild : child? value segment with
    | some child =>
      rw [follow_cons_of_child hchild, ih]
      simp only [breaks_cons_iff hchild]
    | none =>
      have hnone := child?_eq_none_iff.mp hchild
      simp only [follow, hchild, Except.error.injEq]
      constructor
      · rintro rfl
        exact ⟨segment, ⟨[], segments, value, rfl, .here, hnone⟩, rfl⟩
      · rintro ⟨missing, ⟨passed, later, reached, hsplit, hleads, _⟩, rfl⟩
        cases passed with
        | nil => rw [(List.cons.inj hsplit).1]
        | cons first passed =>
          obtain ⟨rfl, _⟩ := List.cons.inj hsplit
          obtain ⟨child, hsome, _⟩ := leads_cons_iff.mp hleads
          exact absurd hsome (hnone child)

/-! ## Texts with points -/

/-- A first segment and others, each behind a point. -/
def text (first : List Char) (others : List (List Char)) : List Char :=
  first ++ others.flatMap fun segment => '.' :: segment

theorem segments_text {first : List Char} {others : List (List Char)} (hfirst : '.' ∉ first)
    (hothers : ∀ segment ∈ others, '.' ∉ segment) :
    segments (text first others) = (first, others) := by
  induction others generalizing first with
  | nil =>
    rw [text, List.flatMap_nil, List.append_nil]
    induction first with
    | nil => rfl
    | cons c first ih =>
      rw [List.mem_cons, not_or] at hfirst
      rw [segments, ih hfirst.2]
      simp [Ne.symm hfirst.1]
  | cons segment others ih =>
    obtain ⟨hsegment, hothers⟩ := List.forall_mem_cons.mp hothers
    have hrest := ih hsegment hothers
    induction first with
    | nil =>
      rw [text, List.flatMap_cons, List.nil_append, List.cons_append, segments]
      rw [text] at hrest
      rw [hrest]
      simp
    | cons c first ih =>
      rw [List.mem_cons, not_or] at hfirst
      have hbehind := ih hfirst.2
      rw [text] at hbehind
      rw [text, List.cons_append, segments, hbehind]
      simp [Ne.symm hfirst.1]

/-- A text is its segments with points between them. -/
theorem exists_text (path : List Char) :
    ∃ first others, path = text first others ∧ '.' ∉ first ∧
      (∀ segment ∈ others, '.' ∉ segment) ∧ segments path = (first, others) := by
  induction path with
  | nil => exact ⟨[], [], rfl, by simp, by simp, rfl⟩
  | cons c path ih =>
    obtain ⟨first, others, rfl, hfirst, hothers, hsegments⟩ := ih
    by_cases hpoint : c = '.'
    · subst hpoint
      refine ⟨[], first :: others, rfl, by simp, List.forall_mem_cons.mpr ⟨hfirst, hothers⟩, ?_⟩
      rw [segments, hsegments]
      simp
    · refine ⟨c :: first, others, rfl, ?_, hothers, ?_⟩
      · rw [List.mem_cons, not_or]
        exact ⟨Ne.symm hpoint, hfirst⟩
      · rw [segments, hsegments]
        simp [hpoint]

end Path

/-! ## Routes -/

/-- A root with segments behind it, as they stand between points.  The last one does
not end with a blank, which would not count. -/
structure Route where
  root : Root
  segments : List (List Char)
  point_free : ∀ segment ∈ segments, '.' ∉ segment
  open_ended : ∀ segment ∈ segments.getLast?, startsBlank segment.reverse = false

namespace Route

def text (route : Route) : List Char :=
  Path.text route.root.name.toList route.segments

/-- The name of a root neither begins as a literal does nor with a blank, does not
end with one and holds no point. -/
theorem name_solid (root : Root) :
    (root.name.toList.head?.any fun c => !Literal.begins c) = true ∧
      Trimmed root.name.toList ∧ '.' ∉ root.name.toList := by
  cases root <;> decide

theorem exists_cons_name (root : Root) :
    ∃ c name, root.name.toList = c :: name ∧ Literal.begins c = false := by
  have hhead := (name_solid root).1
  cases hname : root.name.toList with
  | nil =>
    rw [hname] at hhead
    exact absurd hhead (by simp)
  | cons c name =>
    rw [hname] at hhead
    exact ⟨c, name, rfl, by simpa using hhead⟩

theorem trimmed_text (route : Route) : Trimmed route.text := by
  obtain ⟨_, ⟨hstart, hend⟩, _⟩ := name_solid route.root
  obtain ⟨c, name, hname, _⟩ := exists_cons_name route.root
  constructor
  · rw [text, Path.text, startsBlank_append (by simp [hname])]
    exact hstart
  · rcases List.eq_nil_or_concat route.segments with hnone | ⟨front, last, hsplit⟩
    · rw [text, hnone, Path.text, List.flatMap_nil, List.append_nil]
      exact hend
    · have hlast := route.open_ended
      rw [hsplit, List.concat_eq_append, List.getLast?_concat] at hlast
      have hshape : route.text =
          Path.text route.root.name.toList front ++ '.' :: last := by
        simp [text, Path.text, hsplit]
      rw [hshape, startsBlank_reverse_append (List.cons_ne_nil _ _), List.reverse_cons]
      cases hsegment : last.reverse with
      | nil => rfl
      | cons d rest =>
        rw [List.cons_append, startsBlank]
        have hsolid := hlast last rfl
        rw [hsegment] at hsolid
        exact hsolid

theorem text_ne_nil (route : Route) : route.text ≠ [] := by
  obtain ⟨c, name, hname, _⟩ := exists_cons_name route.root
  simp [text, Path.text, hname]

theorem literal?_text (route : Route) : literal? route.text = none := by
  obtain ⟨c, name, hname, hhead⟩ := exists_cons_name route.root
  have htrimmed := route.trimmed_text
  rw [text, Path.text, hname, List.cons_append] at htrimmed ⊢
  exact literal?_eq_none_of_head htrimmed hhead

end Route

theorem Root.ofName?_eq_some_iff {name : String} {root : Root} :
    ofName? name = some root ↔ root.name = name := by
  constructor
  · intro hfound
    have hsame := List.find?_some hfound
    exact beq_iff_eq.mp hsame
  · rintro rfl
    exact ofName?_name root

theorem Root.ofName?_eq_none_iff {name : String} :
    ofName? name = none ↔ ∀ root : Root, root.name ≠ name := by
  simp only [Option.eq_none_iff_forall_ne_some, ne_eq, ofName?_eq_some_iff]

/-! ## The value of an expression -/

/-- A literal has its value in every context. -/
theorem Expression.value_of_literal {expression : List Char} {value : Value}
    (hsome : expression ≠ []) (htrimmed : Trimmed expression)
    (hliteral : literal? expression = some value) (context : Context) :
    Expression.value expression context = .ok value := by
  rw [Expression.value, trim_eq_self htrimmed]
  simp [hsome, hliteral]

/-- A trimmed expression that is no literal is a path. -/
theorem Expression.value_of_path {expression : List Char} (hsome : expression ≠ [])
    (htrimmed : Trimmed expression) (hliteral : literal? expression = none) (context : Context) :
    value expression context = Path.value expression context := by
  rw [value, trim_eq_self htrimmed]
  simp [hsome, hliteral]

namespace Path

section Value

variable {root : Root} {others : List (List Char)} {context : Context}

theorem value_of_missing (hothers : ∀ segment ∈ others, '.' ∉ segment)
    (hroot : context.get? root = none) :
    value (text root.name.toList others) context = .error (.missingRoot root) := by
  rw [value, segments_text (Route.name_solid root).2.2 hothers]
  simp [hroot]

theorem value_of_supplied {top : Value} (hothers : ∀ segment ∈ others, '.' ∉ segment)
    (hroot : context.get? root = some top) :
    value (text root.name.toList others) context =
      follow (text root.name.toList others) top others := by
  rw [value, segments_text (Route.name_solid root).2.2 hothers]
  simp [hroot]

theorem value_of_unknown {name : List Char} (hname : '.' ∉ name)
    (hothers : ∀ segment ∈ others, '.' ∉ segment) (hunknown : ∀ root : Root, root.name.toList ≠ name) :
    value (text name others) context = .error (.unknownRoot (String.ofList name)) := by
  have hnone : Root.ofName? (String.ofList name) = none := by
    rw [Root.ofName?_eq_none_iff]
    intro root hroot
    exact hunknown root (by rw [hroot, String.toList_ofList])
  rw [value, segments_text hname hothers]
  simp [hnone]

end Value

end Path

/-- The segments of a trimmed path under a root are those of a route. -/
theorem Route.exists_of_trimmed {root : Root} {others : List (List Char)}
    (hothers : ∀ segment ∈ others, '.' ∉ segment)
    (htrimmed : Trimmed (Path.text root.name.toList others)) :
    ∃ route : Route, route.root = root ∧ route.segments = others := by
  refine ⟨⟨root, others, hothers, ?_⟩, rfl, rfl⟩
  intro last hlast
  obtain ⟨front, rfl⟩ := List.getLast?_eq_some_iff.mp hlast
  cases hsegment : last.reverse with
  | nil => rfl
  | cons d rest =>
    have hshape : Path.text root.name.toList (front ++ [last]) =
        Path.text root.name.toList front ++ ['.'] ++ last := by
      simp [Path.text]
    have hsome : last ≠ [] := by
      rintro rfl
      exact absurd hsegment (by simp)
    have hend := htrimmed.2
    rw [hshape, startsBlank_reverse_append hsome, hsegment] at hend
    exact hend

/-- The text in front of the first point of an expression, or all of it. -/
def BeforePoint (expression name : List Char) : Prop :=
  '.' ∉ name ∧ (expression = name ∨ ∃ behind, expression = name ++ '.' :: behind)

theorem BeforePoint.exists_text {expression name : List Char}
    (hbefore : BeforePoint expression name) :
    ∃ others, expression = Path.text name others ∧ ∀ segment ∈ others, '.' ∉ segment := by
  obtain ⟨_, rfl | ⟨behind, rfl⟩⟩ := hbefore
  · exact ⟨[], by simp [Path.text], by simp⟩
  · obtain ⟨first, others, rfl, hfirst, hothers, _⟩ := Path.exists_text behind
    exact ⟨first :: others, by simp [Path.text], List.forall_mem_cons.mpr ⟨hfirst, hothers⟩⟩

/-- A path under a root that was supplied has the value to which its segments lead,
and no other value; if they lead nowhere, its error names the first of them that
names nothing, and the whole path.  A root that was not supplied is the error
itself.  Conversely every expression that is no literal and has a value is such a
path, and where it does not begin with a root, what it begins with is the error. -/
theorem Path.value_iff_leads (context : Context) :
    (∀ route : Route,
      (context.get? route.root = none →
        Expression.value route.text context = .error (.missingRoot route.root)) ∧
      ∀ top, context.get? route.root = some top →
        (∀ target, Expression.value route.text context = .ok target ↔
          Leads top route.segments target) ∧
        ∀ error, Expression.value route.text context = .error error ↔
          ∃ segment, Breaks top route.segments segment ∧
            error = .missingProperty (String.ofList route.text) (String.ofList segment)) ∧
    ∀ expression, expression ≠ [] → Trimmed expression → literal? expression = none →
      (∀ target, Expression.value expression context = .ok target ↔
        ∃ route : Route, route.text = expression ∧
          ∃ top, context.get? route.root = some top ∧ Leads top route.segments target) ∧
      ∀ name, BeforePoint expression name → (∀ root : Root, root.name.toList ≠ name) →
        Expression.value expression context = .error (.unknownRoot (String.ofList name)) := by
  have hroute (route : Route) :
      Expression.value route.text context = value route.text context :=
    Expression.value_of_path route.text_ne_nil route.trimmed_text route.literal?_text context
  constructor
  · intro route
    rw [hroute]
    refine ⟨value_of_missing route.point_free, ?_⟩
    intro top htop
    rw [Route.text, value_of_supplied route.point_free htop]
    exact ⟨fun target => follow_eq_ok_iff, fun error => follow_eq_error_iff⟩
  · intro expression hsome htrimmed hliteral
    rw [Expression.value_of_path hsome htrimmed hliteral]
    constructor
    · intro target
      constructor
      · intro hvalue
        obtain ⟨first, others, rfl, hfirst, hothers, _⟩ := exists_text expression
        by_cases hknown : ∃ root : Root, root.name.toList = first
        · obtain ⟨root, rfl⟩ := hknown
          obtain ⟨route, rfl, rfl⟩ := Route.exists_of_trimmed hothers htrimmed
          cases htop : context.get? route.root with
          | none =>
            rw [value_of_missing hothers htop] at hvalue
            exact absurd hvalue (by simp)
          | some top =>
            rw [value_of_supplied hothers htop, follow_eq_ok_iff] at hvalue
            exact ⟨route, rfl, top, htop, hvalue⟩
        · rw [value_of_unknown hfirst hothers (not_exists.mp hknown)] at hvalue
          exact absurd hvalue (by simp)
      · rintro ⟨route, rfl, top, htop, hleads⟩
        rw [Route.text, value_of_supplied route.point_free htop]
        exact follow_eq_ok_iff.mpr hleads
    · intro name hbefore hunknown
      obtain ⟨others, rfl, hothers⟩ := hbefore.exists_text
      exact value_of_unknown hbefore.1 hothers hunknown

/-- Segments may hold blanks, be empty, or write an index with a sign. -/
theorem Path.value_iff_leads_nested :
    let seven : Value := .number (.integer 7)
    let top : Value := .object [("a b", .array [.null, .object [("", seven)]])]
    let context : Context := { members := [("ticket", top)] }
    let segments := ["a b".toList, "+1".toList, []]
    context.get? .ticket = some top ∧ Leads top segments seven ∧
      Expression.value "ticket.a b.+1.".toList context = .ok seven := by
  intro seven top context segments
  let route : Route := ⟨.ticket, segments, by decide, by decide⟩
  have htop : context.get? .ticket = some top := rfl
  have hindex : Indexes "+1".toList 1 :=
    ⟨['+'], ['1'], rfl, .inr rfl, by decide, List.all_eq_true.mp (by decide), rfl⟩
  have hleads : Leads top segments seven :=
    .step (.member rfl) (.step (.item hindex rfl) (.step (.member rfl) .here))
  have htext : route.text = "ticket.a b.+1.".toList := by decide
  have hvalue := ((((value_iff_leads context).1 route).2 top htop).1 seven).mpr hleads
  rw [htext] at hvalue
  exact ⟨htop, hleads, hvalue⟩

end Aviso
