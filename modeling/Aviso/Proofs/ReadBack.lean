import Aviso.Proofs.Body
import Aviso.Proofs.Path

/-!
# Literals that are read back

A text between quotes and an integer in decimal digits are literals with one value, which
no context has a part in.

* `literal?_quoted`: every text is read back from between either quotes, and
  `literal?_repr` every integer of 64 bits from its decimal text.
* `Body.fill_literal`: a placeholder of a literal is the text of its value.
* `literal_read_back` puts these together.
-/

namespace Aviso

open Text Json

namespace Literal

/-- A text between two quotes. -/
def quoted (quote : Char) (inside : String) : List Char :=
  quote :: inside.toList ++ [quote]

/-- The integers of 64 bits with a sign. -/
def Fits (value : Int) : Prop :=
  -(Nat.pow 2 63 : Int) ≤ value ∧ value < (Nat.pow 2 63 : Int)

instance (value : Int) : Decidable (Fits value) :=
  inferInstanceAs (Decidable (_ ∧ _))

end Literal

section Read

variable {left right : List Char} (hleft : Blanks left) (hright : Blanks right)

include hleft hright

theorem literal?_quoted {quote : Char} (hquote : quote = '\'' ∨ quote = '"') (inside : String) :
    literal? (left ++ (Literal.quoted quote inside ++ right)) = some (.string inside) := by
  rw [Literal.quoted, literal?_between hleft hright (trimmed_quotation hquote _),
    literal?_quotation hquote, String.ofList_toList]

theorem literal?_repr {value : Int} (hfits : Literal.Fits value) :
    literal? (left ++ (value.repr.toList ++ right)) = some (.number (.integer value)) := by
  have hwrites := Literal.writesInteger_repr value
  rw [literal?_between hleft hright hwrites.trimmed, literal?_integer hwrites hfits hwrites.trimmed]

end Read

/-- The decimal text of an integer holds no brace. -/
theorem Literal.brace_not_mem_repr (value : Int) : '}' ∉ value.repr.toList := by
  intro hmem
  rcases (Literal.writesInteger_repr value).eq_or_isDigit _ hmem with hsign | hdigit
  · exact absurd hsign (by decide)
  · exact absurd hdigit (by decide)

/-! ## Placeholders of literals -/

namespace Slot

/-- The placeholder of a text between quotes, which may hold any braces but closing ones. -/
def ofQuoted {quote : Char} (hquote : quote = '\'' ∨ quote = '"') {inside : String}
    (hfree : ¬ Placeholder.closing <:+: inside.toList) : Slot where
  expression := Literal.quoted quote inside
  trimmed := trimmed_quotation hquote inside.toList
  closing_free := by
    have hnone : quote ∉ Placeholder.closing := by
      rcases hquote with rfl | rfl <;> decide
    exact fun hwithin => hfree (infix_of_infix_between hnone hnone hwithin)
  open_ended := by
    rw [Literal.quoted, List.getLast?_concat]
    rcases hquote with rfl | rfl <;> decide

/-- The placeholder of the decimal text of an integer. -/
def ofInteger (value : Int) : Slot where
  expression := value.repr.toList
  trimmed := (Literal.writesInteger_repr value).trimmed
  closing_free := fun hwithin => Literal.brace_not_mem_repr value (hwithin.subset (by decide))
  open_ended := fun hlast => Literal.brace_not_mem_repr value (List.mem_of_getLast? hlast)

end Slot

/-- A placeholder of a literal is the text of its value. -/
theorem Body.fill_literal {slot : Slot} {value : Value} (hsome : slot.expression ≠ [])
    (hliteral : literal? slot.expression = some value) (context : Context) :
    fill (String.ofList slot.print) context = .ok value.display := by
  rw [fill_print, Expression.value_of_literal hsome slot.trimmed hliteral]
  rfl

/-- The text of an integer in a message is its decimal text. -/
theorem display_integer (value : Int) : (Value.number (.integer value)).display = value.repr := by
  rw [Value.display, Number.display, Number.print, String.ofList_toList]

/-- Every text is read back from between quotes of either kind, and every integer of 64 bits
from its decimal text, with any blanks around them.  So a placeholder of the one is filled in
to the text, if that holds no closing braces, and a placeholder of the other to the decimal
text again, in every context. -/
theorem literal_read_back :
    (∀ quote inside left right, (quote = '\'' ∨ quote = '"') → Blanks left → Blanks right →
      literal? (left ++ (Literal.quoted quote inside ++ right)) = some (.string inside)) ∧
    (∀ value left right, Literal.Fits value → Blanks left → Blanks right →
      literal? (left ++ (value.repr.toList ++ right)) = some (.number (.integer value)) ∧
        (Value.number (.integer value)).display = value.repr) ∧
    (∀ quote inside context, (quote = '\'' ∨ quote = '"') →
      ¬ Placeholder.closing <:+: inside.toList →
      Body.fill (String.ofList (Placeholder.print (Literal.quoted quote inside))) context =
        .ok inside) ∧
    ∀ value context, Literal.Fits value →
      Body.fill (String.ofList (Placeholder.print value.repr.toList)) context =
        .ok value.repr := by
  refine ⟨?_, ?_, ?_, ?_⟩
  · intro quote inside left right hquote hleft hright
    exact literal?_quoted hleft hright hquote inside
  · intro value left right hfits hleft hright
    exact ⟨literal?_repr hleft hright hfits, display_integer value⟩
  · intro quote inside context hquote hfree
    have hliteral := literal?_quoted blanks_nil blanks_nil hquote inside
    rw [List.nil_append, List.append_nil] at hliteral
    exact @Body.fill_literal (Slot.ofQuoted hquote hfree) _ (List.cons_ne_nil _ _) hliteral context
  · intro value context hfits
    have hliteral := literal?_repr blanks_nil blanks_nil hfits
    rw [List.nil_append, List.append_nil] at hliteral
    have hfill := @Body.fill_literal (Slot.ofInteger value) _
      (Literal.writesInteger_repr value).ne_nil hliteral context
    rw [display_integer] at hfill
    exact hfill

/-- A text with its own quote and opening braces in it, and the least integer. -/
theorem literal_read_back_least :
    let inside := "it's \x7b\x7b1"
    let least : Int := -9223372036854775808
    Blanks ['\n', ' '] ∧ ¬ Placeholder.closing <:+: inside.toList ∧ Literal.Fits least ∧
      literal? (['\n', ' '] ++ (Literal.quoted '\'' inside ++ ['\n', ' '])) =
        some (.string inside) ∧
      literal? (['\n', ' '] ++ ("-9223372036854775808".toList ++ ['\n', ' '])) =
        some (.number (.integer least)) ∧
      Body.fill (String.ofList (Placeholder.print (Literal.quoted '\'' inside))) {} = .ok inside ∧
      Body.fill (String.ofList (Placeholder.print "-9223372036854775808".toList)) {} =
        .ok "-9223372036854775808" := by
  intro inside least
  obtain ⟨hquoted, hrepr, hfillQuoted, hfillRepr⟩ := literal_read_back
  have hblanks : Blanks ['\n', ' '] := by decide
  have hfree : ¬ Placeholder.closing <:+: inside.toList := by decide
  have hfits : Literal.Fits least := by decide
  have htext : least.repr = "-9223372036854775808" := by decide +kernel
  have hleast := (hrepr least _ _ hfits hblanks hblanks).1
  have hfilled := hfillRepr least {} hfits
  rw [htext] at hleast hfilled
  exact ⟨hblanks, hfree, hfits, hquoted _ inside _ _ (.inl rfl) hblanks hblanks, hleast,
    hfillQuoted _ inside {} (.inl rfl) hfree, hfilled⟩

end Aviso
