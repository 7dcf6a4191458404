import Aviso.Proofs.Condition.Literals
import Aviso.Proofs.Condition.Segments
import Aviso.Proofs.Path

/-!
# What bare literals are worth

A condition is read with one grammar of literals, and its operands are evaluated with
another.  The two agree on quotations and truth words.  They differ on numbers: a
condition takes the decimal digits of every script for a number, and digits of any value.

* `Token.Constant`: a literal has its value in every context.
* `Token.worth_of_spelt`: what every bare literal of a condition is worth.
* `Condition.worth_of_parse`: so a condition that can be read compares its bare
  literals by their values, but for numbers that are not `Literal.Readable`: they are
  paths under a root that there is not.
-/

namespace Aviso

open Text Json

namespace Token

/-! ## One literal -/

/-- The text is a literal, and as an expression has the value in every context. -/
def Constant (written : List Char) (value : Value) : Prop :=
  literal? written = some value ∧ ∀ context, Expression.value written context = .ok value

/-- What a bare literal of a condition is worth.  Quotations are the text between the
quotes, truth words and readable numbers are what they say, and other numbers are taken
for paths. -/
inductive Worth : List Char → Prop where
  | quotation {quote : Char} {inside : List Char} (hquote : quote = '\'' ∨ quote = '"')
      (hfree : quote ∉ inside)
      (hconstant : Constant (quote :: inside ++ [quote]) (.string (String.ofList inside))) :
      Worth (quote :: inside ++ [quote])
  | truth {word : String} (hword : word = trueWord ∨ word = falseWord)
      (hconstant : Constant word.toList (.bool (word == trueWord))) : Worth word.toList
  | number {sign whole places : List Char} {number : Number} (hsign : sign = [] ∨ sign = ['-'])
      (hreadable : Literal.Readable whole places)
      (hconstant : Constant (sign ++ (whole ++ Literal.behindPoint places)) (.number number)) :
      Worth (sign ++ (whole ++ Literal.behindPoint places))
  | path {sign whole places : List Char} (hsign : sign = [] ∨ sign = ['-'])
      (hreadable : ¬ Literal.Readable whole places)
      (hnone : literal? (sign ++ (whole ++ Literal.behindPoint places)) = none)
      (hvalue : ∀ context,
        Expression.value (sign ++ (whole ++ Literal.behindPoint places)) context =
          .error (.unknownRoot (String.ofList (sign ++ whole)))) :
      Worth (sign ++ (whole ++ Literal.behindPoint places))

theorem toList_of_spelt {written : String} {text : List Char}
    (hspelt : Spelt (.literal written) text) : written.toList = text := by
  cases hspelt with
  | quotation => exact String.toList_ofList
  | number => exact String.toList_ofList
  | truth => rfl

theorem constant_of_literal? {written : String} {text : List Char} {value : Value}
    (hspelt : Spelt (.literal written) text) (hliteral : literal? text = some value) :
    Constant text value :=
  ⟨hliteral, Expression.value_of_literal hspelt.ne_nil (trimmed_literal hspelt) hliteral⟩

/-- Digits behind a sign are no root. -/
theorem not_root {sign whole : List Char} (hsign : sign = [] ∨ sign = ['-'])
    (hwhole : whole ≠ [] ∧ ∀ c ∈ whole, isDigit c = true) (root : Root) :
    root.name.toList ≠ sign ++ whole := by
  intro hname
  have hletter : (root.name.toList.head?.any fun c => c == '-' || isDigit c) = false := by
    cases root <;> decide
  obtain ⟨c, rest, htext, hhead⟩ := exists_cons_number hsign hwhole []
  rw [List.append_nil] at htext
  rw [hname, htext] at hletter
  rcases hhead with rfl | hdigit
  · simp at hletter
  · simp [hdigit] at hletter

/-- A number that is no literal is a path without a root. -/
theorem value_of_number {sign whole places : List Char} (hsign : sign = [] ∨ sign = ['-'])
    (hwhole : whole ≠ [] ∧ ∀ c ∈ whole, isDigit c = true)
    (hplaces : ∀ c ∈ places, isDigit c = true) (context : Context) :
    Path.value (sign ++ (whole ++ Literal.behindPoint places)) context =
      .error (.unknownRoot (String.ofList (sign ++ whole))) := by
  have hfree {digits : List Char} (hdigits : ∀ c ∈ digits, isDigit c = true) : '.' ∉ digits := by
    intro hmem
    exact absurd (hdigits '.' hmem) (by decide)
  have hname : '.' ∉ sign ++ whole := by
    rw [List.mem_append, not_or]
    refine ⟨?_, hfree hwhole.2⟩
    rcases hsign with rfl | rfl <;> decide
  obtain ⟨others, htext, hothers⟩ : ∃ others,
      sign ++ (whole ++ Literal.behindPoint places) = Path.text (sign ++ whole) others ∧
        ∀ segment ∈ others, '.' ∉ segment := by
    cases places with
    | nil => exact ⟨[], by simp [Literal.behindPoint, Path.text], by simp⟩
    | cons c places =>
      exact ⟨[c :: places], by simp [Literal.behindPoint, Path.text],
        List.forall_mem_singleton.mpr (hfree hplaces)⟩
  rw [htext, Path.value_of_unknown hname hothers (not_root hsign hwhole)]

/-- A number is worth its value, or is a path. -/
theorem worth_of_number {sign whole places : List Char} (hsign : sign = [] ∨ sign = ['-'])
    (hwhole : whole ≠ [] ∧ ∀ c ∈ whole, isDigit c = true)
    (hplaces : ∀ c ∈ places, isDigit c = true) {written : String}
    (hspelt : Spelt (.literal written) (sign ++ (whole ++ Literal.behindPoint places))) :
    Worth (sign ++ (whole ++ Literal.behindPoint places)) := by
  have hdigits : ∀ c ∈ whole ++ places, isDigit c = true :=
    List.forall_mem_append.mpr ⟨hwhole.2, hplaces⟩
  have hforeign : ∀ c ∈ whole ++ places, c.isDigit = false → Literal.Foreign c :=
    fun c hmem hother => ⟨hother, not_mem_of_run (by decide) hdigits c hmem⟩
  have htrimmed := trimmed_literal hspelt
  rcases literal?_number_cases hsign hwhole.1 (not_mem_of_run (by decide) hwhole.2) hforeign
    htrimmed with ⟨hreadable, number, hliteral⟩ | ⟨hreadable, hnone⟩
  · exact .number hsign hreadable (constant_of_literal? hspelt hliteral)
  · refine .path hsign hreadable hnone fun context => ?_
    rw [Expression.value_of_path hspelt.ne_nil htrimmed hnone,
      value_of_number hsign hwhole hplaces]

theorem worth_of_spelt {written : String} {text : List Char}
    (hspelt : Spelt (.literal written) text) : Worth written.toList := by
  rw [toList_of_spelt hspelt]
  have hspelt' := hspelt
  cases hspelt with
  | quotation hquote hfree =>
    exact .quotation hquote hfree (constant_of_literal? hspelt' (literal?_quotation hquote _))
  | truth hword => exact .truth hword (constant_of_literal? hspelt' (literal?_truth hword))
  | @number sign whole fraction hsign hwhole hfraction =>
    obtain ⟨places, rfl, hplaces⟩ : ∃ places, fraction = Literal.behindPoint places ∧
        ∀ c ∈ places, isDigit c = true := by
      rcases hfraction with rfl | ⟨places, rfl, hsome, hplaces⟩
      · exact ⟨[], rfl, by simp⟩
      · obtain ⟨c, rest, rfl⟩ := List.exists_cons_of_ne_nil hsome
        exact ⟨c :: rest, rfl, hplaces⟩
    exact worth_of_number hsign hwhole hplaces hspelt'

end Token

/-! ## Conditions -/

namespace Condition

/-- In a condition that can be read, every bare literal is an operand, and as an operand
it is worth what `Token.Worth` says: quotations, truth words and readable numbers are
the same literal when they are evaluated, and the other numbers are not. -/
theorem worth_of_parse {text : String} {comparisons : List Comparison}
    (hparse : parse text = .ok comparisons) :
    let inner := withoutTag (trim text.toList)
    (inner = [] ∧ comparisons = []) ∨
      List.Forall₂ (fun part comparison =>
          comparison.MadeOf (finds Token.read part.2) ∧
            ∀ written, .literal written ∈ finds Token.read part.2 → Token.Worth written.toList)
        (segments inner) comparisons := by
  intro inner
  by_cases hnone : inner = []
  · rw [parse_eq_nil hnone] at hparse
    exact .inl ⟨hnone, (Except.ok.inj hparse).symm⟩
  · rw [parse_eq_mapM hnone, mapM_eq_ok_iff] at hparse
    refine .inr (hparse.imp fun part comparison hread => ?_)
    refine ⟨(readSegment_eq_ok_iff.mp hread).2, fun written hmem => ?_⟩
    obtain ⟨before, rest, behind, hfound⟩ := exists_read_of_mem_finds Token.takes_read hmem
    obtain ⟨taken, _, hspelt, _⟩ := Token.exists_stands_of_read hfound
    exact Token.worth_of_spelt hspelt

theorem worth_of_parse_fraction :
    parse "{{ticket.horas}} ES IGUAL QUE -1.5" =
        .ok [⟨"ticket.horas", .equal, "-1.5", none⟩] ∧
      Token.Worth "-1.5".toList := by
  have hparse : parse "{{ticket.horas}} ES IGUAL QUE -1.5" =
      .ok [⟨"ticket.horas", .equal, "-1.5", none⟩] := by decide +kernel
  refine ⟨hparse, ?_⟩
  rcases worth_of_parse hparse with ⟨_, hnone⟩ | hall
  · exact absurd hnone (by simp)
  · have hsegments : segments (withoutTag (trim "{{ticket.horas}} ES IGUAL QUE -1.5".toList)) =
        [(none, "{{ticket.horas}} ES IGUAL QUE -1.5".toList)] := by decide +kernel
    rw [hsegments] at hall
    exact (List.forall₂_cons.mp hall).1.2 "-1.5" (by decide +kernel)

/-- The digit three of the Arabic script is an operand of a condition, and an unknown
root when it is evaluated. -/
theorem parse_foreign_digit :
    parse "{{1}} CONTIENE ٣" = .ok [⟨"1", .contains, "٣", none⟩] ∧
      literal? "٣".toList = none ∧
      ∀ context, Expression.value "٣".toList context = .error (.unknownRoot "٣") := by
  have hnone : literal? "٣".toList = none := rfl
  refine ⟨by decide +kernel, hnone, fun context => ?_⟩
  rw [Expression.value_of_path (by decide) (by decide) hnone]
  rfl

end Condition

end Aviso
