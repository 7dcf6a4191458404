import Mathlib.Data.List.Forall2
import Mathlib.Data.List.Induction
import Mathlib.Data.List.Nodup
import Aviso.Json.Decode
import Aviso.Json.Read

/-!
# Records as JSON texts

A record is an object whose members are texts, truth values and null.  Its text
may hold blanks between any two tokens and may give the members in any order, so
both ways of printing an object are covered, and the order in which a type
declares its fields as well as the order of their keys.

* `readString?_print`: a string is read back up to its closing quote, whatever
  characters it holds.
* `Spells` says which texts stand for members, and `readMembers?_of_spells` that they
  are read back.
* `ObjectText` says which texts are those of a record.  `read?_of_objectText` reads
  them back, so by `ObjectText.unique` no two records share a text.
* `objectText_print` and `objectText_printLines`: both printers write such texts.
* `Members.ofList_perm`: sorting the keys keeps the members.
-/

namespace Aviso.Json

/-! ## Strings -/

/-- The digits of a control character are read as its code. -/
theorem unitDigits_control {c : Char} (hcontrol : c.toNat < 0x20) :
    unitDigits c = ['0', '0', Nat.digitChar (c.toNat / 16), Nat.digitChar (c.toNat % 16)] ∧
      hexCode? '0' '0' (Nat.digitChar (c.toNat / 16)) (Nat.digitChar (c.toNat % 16)) =
        some c.toNat := by
  have hall : ∀ n < 0x20,
      unitDigits (Char.ofNat n) = ['0', '0', Nat.digitChar (n / 16), Nat.digitChar (n % 16)] ∧
        hexCode? '0' '0' (Nat.digitChar (n / 16)) (Nat.digitChar (n % 16)) = some n := by
    decide
  have hdigits := hall c.toNat hcontrol
  rwa [Char.ofNat_toNat] at hdigits

theorem decodeUnits?_control {c : Char} (hcontrol : c.toNat < 0x20) (units : List StringUnit) :
    decodeUnits? (.code c.toNat :: units) = (decodeUnits? units).map fun chars => c :: chars := by
  have hhigh : ¬ 0xD800 ≤ c.toNat := by omega
  have hlow : ¬ 0xDC00 ≤ c.toNat := by omega
  rw [decodeUnits?.eq_def]
  simp [hhigh, hlow, Char.ofNat_toNat]

/-- A character that is written as it is, is read as it is. -/
theorem readUnits?_plain {c : Char} (hquote : c ≠ '"') (hbackslash : c ≠ '\\')
    (hcontrol : ¬ c.toNat < 0x20) (text : List Char) :
    readUnits? (c :: text) =
      (readUnits? text).map fun (units, behind) => (.char c :: units, behind) := by
  have hstands : (decide (c.toNat < 0x20) || c == '\\') = false := by
    simp [hcontrol, hbackslash]
  rw [readUnits?]
  · cases readUnits? text <;> simp [hstands]
  all_goals simp [hquote, hbackslash]

/-- A character inside a string is read as one unit, which stands for it. -/
theorem exists_unit (c : Char) :
    ∃ unit,
      (∀ text, readUnits? (escaped c ++ text) =
        (readUnits? text).map fun (units, behind) => (unit :: units, behind)) ∧
      ∀ units, decodeUnits? (unit :: units) = (decodeUnits? units).map fun chars => c :: chars := by
  by_cases hletter : c ∈ ['"', '\\', '\x08', '\x0c', '\n', '\r', '\t']
  · refine ⟨.char c, ?_, fun _ => rfl⟩
    intro text
    simp only [List.mem_cons, List.not_mem_nil, or_false] at hletter
    rcases hletter with rfl | rfl | rfl | rfl | rfl | rfl | rfl <;>
      cases hrest : readUnits? text <;> simp [escaped, readUnits?, escape?, hrest]
  · simp only [List.mem_cons, List.not_mem_nil, or_false, not_or] at hletter
    by_cases hcontrol : c.toNat < 0x20
    · obtain ⟨hdigits, hcode⟩ := unitDigits_control hcontrol
      refine ⟨.code c.toNat, ?_, decodeUnits?_control hcontrol⟩
      intro text
      cases hrest : readUnits? text <;>
        simp [escaped, hletter, hcontrol, hdigits, readUnits?, hcode, hrest]
    · refine ⟨.char c, ?_, fun _ => rfl⟩
      intro text
      have hescaped : escaped c = [c] := by simp [escaped, hletter, hcontrol]
      rw [hescaped, List.singleton_append, readUnits?_plain hletter.1 hletter.2.1 hcontrol]

/-- The units of a string, up to its closing quote. -/
theorem exists_units (chars behind : List Char) :
    ∃ units, readUnits? (chars.flatMap escaped ++ '"' :: behind) = some (units, behind) ∧
      decodeUnits? units = some chars := by
  induction chars with
  | nil => exact ⟨[], rfl, rfl⟩
  | cons c chars ih =>
    obtain ⟨units, hread, hdecode⟩ := ih
    obtain ⟨unit, hunit, hstands⟩ := exists_unit c
    refine ⟨unit :: units, ?_, ?_⟩
    · rw [List.flatMap_cons, List.append_assoc, hunit, hread]
      rfl
    · rw [hstands, hdecode]
      rfl

theorem readString?_print (text : String) (behind : List Char) :
    readString? (text.toList.flatMap escaped ++ '"' :: behind) = some (some text, behind) := by
  obtain ⟨units, hread, hdecode⟩ := exists_units text.toList behind
  rw [readString?, hread]
  simp [hdecode]

/-! ## Blanks between tokens -/

/-- Blanks that may stand between two tokens. -/
def Space (text : List Char) : Prop :=
  ∀ c ∈ text, c = ' ' ∨ c = '\t' ∨ c = '\n' ∨ c = '\r'

theorem space_nil : Space [] := by
  simp [Space]

theorem space_blank : Space [' '] := by
  simp [Space]

theorem space_lineBreak : Space ['\n'] := by
  simp [Space]

theorem skipSpace_append {space : List Char} (hspace : Space space) (text : List Char) :
    skipSpace (space ++ text) = skipSpace text := by
  apply List.dropWhile_append_of_pos
  intro c hmem
  simpa [or_assoc] using hspace c hmem

theorem skipSpace_eq_nil {space : List Char} (hspace : Space space) : skipSpace space = [] := by
  have hskip := skipSpace_append hspace []
  rwa [List.append_nil] at hskip

/-! ## Members -/

/-- A value that holds no others and is no number, with the document that it is read
as. -/
inductive Scalar : Value → Document → Prop where
  | null : Scalar .null .null
  | bool (value : Bool) : Scalar (.bool value) (.bool value)
  | string (text : String) : Scalar (.string text) (.string (some text))

theorem exists_scalar_ofOption {α : Type} (text : α → String) (value : Option α) :
    ∃ document, Scalar (ofOption (fun value => .string (text value)) value) document := by
  cases value with
  | none => exact ⟨_, .null⟩
  | some value => exact ⟨_, .string (text value)⟩

/-- The documents are the members that are read, in their order. -/
def ReadAs : Members → List (Option String × Document) → Prop :=
  List.Forall₂ fun member document => document.1 = some member.1 ∧ Scalar member.2 document.2

theorem readValue?_of_scalar {value : Value} {document : Document} (hscalar : Scalar value document)
    {space : List Char} (hspace : Space space) (budget : Nat) (behind : List Char) :
    readValue? (budget + 1) (space ++ (value.printChars ++ behind)) = some (document, behind) := by
  rw [readValue?, skipSpace_append hspace]
  cases hscalar with
  | null => rfl
  | bool value => cases value <;> rfl
  | string text =>
    have hread := readString?_print text behind
    have hquote : skipSpace ((Value.string text).printChars ++ behind) =
        '"' :: (text.toList.flatMap escaped ++ '"' :: behind) := by
      simp [Value.printChars, printString, skipSpace]
    rw [hquote]
    simp [hread]

/-- The text of a member with blanks behind its key, in front of its value and behind it. -/
def memberText (member : String × Value) (first second third : List Char) : List Char :=
  printString member.1 ++ (first ++ ':' :: (second ++ (member.2.printChars ++ third)))

/-- A member is read, and what stands behind it decides whether another one follows. -/
theorem readMembers?_member {member : String × Value} {document : Document}
    (hscalar : Scalar member.2 document) {space first second third : List Char}
    (hspace : Space space) (hfirst : Space first) (hsecond : Space second) (hthird : Space third)
    (budget : Nat) (text : List Char) :
    readMembers? (budget + 2) (space ++ (memberText member first second third ++ '\x7d' :: text)) =
        some ([(some member.1, document)], text) ∧
      readMembers? (budget + 2) (space ++ (memberText member first second third ++ ',' :: text)) =
        (readMembers? (budget + 1) text).map fun (members, behind) =>
          ((some member.1, document) :: members, behind) := by
  have hquote (rest : List Char) : skipSpace (memberText member first second third ++ rest) =
      '"' :: (member.1.toList.flatMap escaped ++
        '"' :: (first ++ ':' :: (second ++ (member.2.printChars ++ (third ++ rest))))) := by
    simp [memberText, printString, skipSpace]
  have hkey (rest : List Char) := readString?_print member.1
    (first ++ ':' :: (second ++ (member.2.printChars ++ (third ++ rest))))
  have hcolon (rest : List Char) : skipSpace (first ++ ':' :: rest) = ':' :: rest := by
    rw [skipSpace_append hfirst]
    rfl
  have hvalue (rest : List Char) := readValue?_of_scalar hscalar hsecond budget (third ++ rest)
  have hbehind {c : Char} (hsolid : c = '\x7d' ∨ c = ',') : skipSpace (c :: text) = c :: text := by
    rcases hsolid with rfl | rfl <;> rfl
  constructor
  all_goals
    rw [readMembers?, skipSpace_append hspace, hquote]
    simp [hkey, hcolon, hvalue, skipSpace_append hthird, hbehind]

/-- The text of members, in their order, from the first key to the closing brace, with
the members that it is read as. -/
inductive Spells : Members → List (Option String × Document) → List Char → Prop where
  | last {member document first second third} (hscalar : Scalar member.2 document)
      (hfirst : Space first) (hsecond : Space second) (hthird : Space third) :
      Spells [member] [(some member.1, document)] (memberText member first second third ++ ['\x7d'])
  | cons {member document members documents first second third space text}
      (hscalar : Scalar member.2 document)
      (hfirst : Space first) (hsecond : Space second) (hthird : Space third)
      (hspace : Space space) (hmembers : Spells members documents text) :
      Spells (member :: members) ((some member.1, document) :: documents)
        (memberText member first second third ++ ',' :: (space ++ text))

/-- Members are read back.  Every step of the budget is paid for by a character. -/
theorem readMembers?_of_spells {members : Members} {documents : List (Option String × Document)}
    {text : List Char} (hspells : Spells members documents text) {space : List Char}
    (hspace : Space space) {budget : Nat} (hbudget : text.length < budget) (behind : List Char) :
    readMembers? budget (space ++ (text ++ behind)) = some (documents, behind) := by
  induction hspells generalizing space budget with
  | @last member document first second third hscalar hfirst hsecond hthird =>
    obtain ⟨budget, rfl⟩ : ∃ fewer, budget = fewer + 2 := ⟨budget - 2, by
      simp [memberText, printString] at hbudget; omega⟩
    rw [List.append_assoc]
    exact (readMembers?_member hscalar hspace hfirst hsecond hthird budget behind).1
  | @cons member document members documents first second third inner text hscalar hfirst hsecond
      hthird hinner _ ih =>
    obtain ⟨budget, rfl⟩ : ∃ fewer, budget = fewer + 2 := ⟨budget - 2, by
      simp [memberText, printString] at hbudget; omega⟩
    have hrest : text.length < budget + 1 := by
      simp [memberText, printString] at hbudget
      omega
    rw [List.append_assoc, List.cons_append, List.append_assoc,
      (readMembers?_member hscalar hspace hfirst hsecond hthird budget _).2, ih hinner hrest]
    rfl

theorem Spells.exists_cons {members : Members} {documents : List (Option String × Document)}
    {text : List Char} (hspells : Spells members documents text) : ∃ rest, text = '"' :: rest := by
  cases hspells <;> exact ⟨_, rfl⟩

theorem Spells.readAs {members : Members} {documents : List (Option String × Document)}
    {text : List Char} (hspells : Spells members documents text) : ReadAs members documents := by
  induction hspells with
  | last hscalar => exact .cons ⟨rfl, hscalar⟩ .nil
  | cons hscalar _ _ _ _ _ ih => exact .cons ⟨rfl, hscalar⟩ ih

/-! ## Records -/

/-- The text is an object with the members, in their order, with blanks around it and
between its tokens. -/
def ObjectText (members : Members) (text : String) : Prop :=
  ∃ documents inside left space right,
    Spells members documents inside ∧ Space left ∧ Space space ∧ Space right ∧
      text.toList = left ++ '\x7b' :: (space ++ (inside ++ right))

theorem readValue?_of_spells {members : Members} {documents : List (Option String × Document)}
    {text : List Char} (hspells : Spells members documents text) {left space : List Char}
    (hleft : Space left) (hspace : Space space) {budget : Nat} (hbudget : text.length < budget)
    (behind : List Char) :
    readValue? (budget + 1) (left ++ '\x7b' :: (space ++ (text ++ behind))) =
      some (.object documents, behind) := by
  have hmembers := readMembers?_of_spells hspells space_nil hbudget behind
  obtain ⟨rest, rfl⟩ := hspells.exists_cons
  have hopen : skipSpace ('\x7b' :: (space ++ '"' :: (rest ++ behind))) =
      '\x7b' :: (space ++ '"' :: (rest ++ behind)) :=
    rfl
  have hinside : skipSpace (space ++ '"' :: (rest ++ behind)) = '"' :: (rest ++ behind) := by
    rw [skipSpace_append hspace]
    rfl
  rw [List.nil_append, List.cons_append] at hmembers
  rw [readValue?, skipSpace_append hleft, List.cons_append, hopen]
  simp [hinside, hmembers]

/-- A record is read as a document with its members. -/
theorem read?_of_objectText {members : Members} {text : String} (htext : ObjectText members text) :
    ∃ documents, Document.read? text = some (.object documents) ∧ ReadAs members documents := by
  obtain ⟨documents, inside, left, space, right, hspells, hleft, hspace, hright, hchars⟩ := htext
  have hbudget : inside.length < 2 * text.toList.length + 1 := by
    simp [hchars]
    omega
  have hvalue := readValue?_of_spells hspells hleft hspace hbudget right
  rw [← hchars] at hvalue
  refine ⟨documents, ?_, hspells.readAs⟩
  simp [Document.read?, hvalue, skipSpace_eq_nil hright]

theorem Scalar.injective {value other : Value} {document : Document}
    (hvalue : Scalar value document) (hother : Scalar other document) : value = other := by
  cases hvalue <;> cases hother <;> rfl

/-- No text is that of two records. -/
theorem ObjectText.unique {members others : Members} {text : String}
    (hmembers : ObjectText members text) (hothers : ObjectText others text) : members = others := by
  obtain ⟨documents, hread, hfirst⟩ := read?_of_objectText hmembers
  obtain ⟨documents', hread', hsecond⟩ := read?_of_objectText hothers
  obtain rfl := Document.object.inj (Option.some.inj (hread.symm.trans hread'))
  clear hread hread' hmembers hothers
  induction hfirst generalizing others with
  | nil => exact (List.forall₂_nil_right_iff.mp hsecond).symm
  | @cons member document members documents hmember _ ih =>
    obtain ⟨other, others, hother, hrest, rfl⟩ := List.forall₂_cons_right_iff.mp hsecond
    have hkey : member.1 = other.1 := Option.some.inj (hmember.1.symm.trans hother.1)
    rw [Prod.ext hkey (hmember.2.injective hother.2), ih hrest]

/-! ## Printed records -/

/-- The values of the members hold no others and are no numbers. -/
def Scalars (members : Members) : Prop :=
  ∀ member ∈ members, ∃ document, Scalar member.2 document

theorem Scalar.printLinesAt {value : Value} {document : Document} (hscalar : Scalar value document)
    (level : Nat) : value.printLinesAt level = value.printChars := by
  cases hscalar <;> simp [Value.printLinesAt, Value.printChars]

/-- The members behind the first one as they are printed without spaces. -/
theorem spells_printMembers {member : String × Value} {members : Members}
    (hscalars : Scalars (member :: members)) :
    ∃ documents, Spells (member :: members) documents
      (memberText member [] [] [] ++ printMembers members) := by
  induction members generalizing member with
  | nil =>
    obtain ⟨document, hscalar⟩ := hscalars member List.mem_cons_self
    exact ⟨_, .last hscalar space_nil space_nil space_nil⟩
  | cons next members ih =>
    obtain ⟨⟨document, hscalar⟩, hmembers⟩ := List.forall_mem_cons.mp hscalars
    obtain ⟨documents, hspells⟩ := ih hmembers
    refine ⟨(some member.1, document) :: documents, ?_⟩
    have hnext : printMembers (next :: members) =
        ',' :: ([] ++ (memberText next [] [] [] ++ printMembers members)) := by
      simp [printMembers, memberText]
    rw [hnext]
    exact .cons hscalar space_nil space_nil space_nil space_nil hspells

theorem space_newLine (level : Nat) : Space (newLine level) := by
  intro c hmem
  simp only [newLine, List.mem_cons, List.mem_replicate] at hmem
  rcases hmem with rfl | ⟨_, rfl⟩ <;> decide

/-- The same on lines of their own. -/
theorem spells_printMemberLines {member : String × Value} {members : Members} (level : Nat)
    (hscalars : Scalars (member :: members)) :
    ∃ documents, Spells (member :: members) documents
      (memberText member [] [' '] [] ++ printMemberLines level members) := by
  induction members generalizing member with
  | nil =>
    obtain ⟨document, hscalar⟩ := hscalars member List.mem_cons_self
    have hlast : memberText member [] [' '] [] ++ printMemberLines level [] =
        memberText member [] [' '] (newLine level) ++ ['\x7d'] := by
      simp [printMemberLines, memberText]
    rw [hlast]
    exact ⟨_, .last hscalar space_nil space_blank (space_newLine level)⟩
  | cons next members ih =>
    obtain ⟨⟨document, hscalar⟩, hmembers⟩ := List.forall_mem_cons.mp hscalars
    obtain ⟨⟨_, hnextScalar⟩, _⟩ := List.forall_mem_cons.mp hmembers
    obtain ⟨documents, hspells⟩ := ih hmembers
    refine ⟨(some member.1, document) :: documents, ?_⟩
    have hnext : printMemberLines level (next :: members) =
        ',' :: (newLine (level + 1) ++
          (memberText next [] [' '] [] ++ printMemberLines level members)) := by
      simp [printMemberLines, memberText, hnextScalar.printLinesAt]
    rw [hnext]
    exact .cons hscalar space_nil space_blank space_nil (space_newLine _) hspells

/-- A record that is printed without spaces is a text of its members, also with a line
break behind it. -/
theorem objectText_print {members : Members} {right : List Char} (hright : Space right)
    (hsome : members ≠ []) (hscalars : Scalars members) :
    ObjectText members ((Value.object members).print ++ String.ofList right) := by
  cases members with
  | nil => exact absurd rfl hsome
  | cons member members =>
    obtain ⟨documents, hspells⟩ := spells_printMembers hscalars
    refine ⟨documents, _, [], [], right, hspells, space_nil, space_nil, hright, ?_⟩
    simp [Value.print, Value.printChars, memberText]

/-- So is one that is printed on several lines. -/
theorem objectText_printLines {members : Members} {right : List Char} (hright : Space right)
    (hsome : members ≠ []) (hscalars : Scalars members) :
    ObjectText members ((Value.object members).printLines ++ String.ofList right) := by
  cases members with
  | nil => exact absurd rfl hsome
  | cons member members =>
    obtain ⟨document, hscalar⟩ := hscalars member List.mem_cons_self
    obtain ⟨documents, hspells⟩ := spells_printMemberLines 0 hscalars
    refine ⟨documents, _, [], newLine 1, right, hspells, space_nil, space_newLine 1, hright, ?_⟩
    simp [Value.printLines, Value.printLinesAt, memberText, hscalar.printLinesAt]

/-! ## Sorted members -/

theorem insert_perm {key : String} (value : Value) {members : Members}
    (hfree : key ∉ members.map Prod.fst) :
    (insert key value members).Perm ((key, value) :: members) := by
  induction members with
  | nil => exact .refl _
  | cons member members ih =>
    obtain ⟨name, old⟩ := member
    rw [List.map_cons, List.mem_cons, not_or] at hfree
    obtain ⟨hother, hrest⟩ := hfree
    rcases Std.lt_trichotomy key name with hlt | hsame | hgt
    · rw [insert_cons_of_lt hlt]
    · exact absurd hsame hother
    · rw [insert_cons_of_gt hgt]
      exact ((ih hrest).cons (name, old)).trans (.swap _ _ _)

/-- Members under different keys are all kept. -/
theorem Members.ofList_perm {written : Members} (hkeys : (written.map Prod.fst).Nodup) :
    (Members.ofList written).Perm written := by
  induction written using List.reverseRecOn with
  | nil => exact .refl _
  | append_singleton written member ih =>
    rw [List.map_append, List.map_singleton, List.nodup_append_comm, List.singleton_append,
      List.nodup_cons] at hkeys
    obtain ⟨hfree, hkeys⟩ := hkeys
    have hperm := ih hkeys
    rw [Members.ofList, List.foldl_concat, ← Members.ofList]
    rw [← (hperm.map Prod.fst).mem_iff] at hfree
    calc List.Perm (insert member.1 member.2 (Members.ofList written))
          (member :: Members.ofList written) := insert_perm member.2 hfree
      List.Perm _ (member :: written) := hperm.cons member
      List.Perm _ (written ++ [member]) := (List.perm_append_singleton member written).symm

end Aviso.Json
