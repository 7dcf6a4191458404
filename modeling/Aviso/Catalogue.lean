import Aviso.Json.Read
import Aviso.Template

/-!
# The catalogue of templates

A catalogue holds one template for an id, in ascending order of ids.  It is filled
template by template, where the last one under an id counts, or from the files
of a directory, where a file that holds no template is passed over.
-/

namespace Aviso

open Json

/-- The templates of a catalogue, in ascending order of their ids. -/
structure Catalogue where
  templates : List Template := []
deriving Repr, DecidableEq

/-- The templates with one more, in place of any other with its id. -/
def placed (template : Template) : List Template → List Template
  | [] => [template]
  | other :: templates =>
    if template.id < other.id then template :: other :: templates
    else if template.id = other.id then template :: templates
    else other :: placed template templates

namespace Catalogue

def empty : Catalogue := {}

/-- The catalogue with one more template. -/
def insert (catalogue : Catalogue) (template : Template) : Catalogue :=
  { templates := placed template catalogue.templates }

/-- The catalogue of templates that are inserted in turn. -/
def ofList (templates : List Template) : Catalogue :=
  templates.foldl insert empty

def get? (catalogue : Catalogue) (id : String) : Option Template :=
  catalogue.templates.find? fun template => template.id == id

@[simp] theorem get?_insert_self (catalogue : Catalogue) (template : Template) :
    (catalogue.insert template).get? template.id = some template := by
  obtain ⟨templates⟩ := catalogue
  simp only [insert, get?]
  induction templates with
  | nil => simp [placed]
  | cons other templates ih =>
    unfold placed
    split
    · simp
    · split
      · simp
      · rename_i different
        have unequal : (other.id == template.id) = false := by
          simpa using fun same => different same.symm
        simpa [unequal] using ih

theorem get?_insert_of_ne (catalogue : Catalogue) {template : Template} {id : String}
    (different : id ≠ template.id) : (catalogue.insert template).get? id = catalogue.get? id := by
  have unequal : (template.id == id) = false := by simpa using fun same => different same.symm
  obtain ⟨templates⟩ := catalogue
  simp only [insert, get?]
  induction templates with
  | nil => simp [placed, unequal]
  | cons other templates ih =>
    unfold placed
    split
    · simp [unequal]
    · split
      · rename_i same
        have other_unequal : (other.id == id) = false := by rwa [← same]
        simp [unequal, other_unequal]
      · simp only [List.find?_cons, ih]

/-- The templates bound to an event that happens to a kind of thing; a deprecated
one is bound to nothing. -/
def boundTo (catalogue : Catalogue) (event : Event) (entity : Entity) : List Template :=
  catalogue.templates.filter fun template =>
    !template.deprecated && template.event == some event && template.entity == some entity

end Catalogue

/-! ## Files -/

/-- What a name in a directory stands for. -/
inductive Entry where
  | directory
  | file (content : ByteArray)

/-- What is found where a directory should be. -/
inductive Listing where
  | missing
  | notDirectory
  | entries (entries : List (String × Entry))

/-- Why no catalogue can be loaded. -/
inductive LoadError where
  | notDirectory
deriving Repr, DecidableEq

def LoadError.message : LoadError → String
  | notDirectory => "Not a directory (os error 20)"

/-- What stands behind the last point of a name; a point that begins the name does
not count. -/
def extension? (name : String) : Option String :=
  let reversed := name.toList.reverse
  let extension := reversed.takeWhile (· != '.')
  match reversed.drop extension.length with
  | _ :: _ :: _ => some (String.ofList extension.reverse)
  | _ => none

/-- The template that a file holds, if it holds one. -/
def Entry.template? : Entry → Option Template
  | directory => none
  | file content => do
    let text ← String.fromUTF8? content
    let document ← Document.read? text
    Template.ofDocument? document

/-- The template that a name in a directory stands for: only a file whose name ends
in `.json` is looked into. -/
def namedTemplate? (entry : String × Entry) : Option Template :=
  if extension? entry.1 == some "json" then entry.2.template? else none

/-- The catalogue of a directory.  Where nothing is, the catalogue is empty. -/
def Catalogue.load : Listing → Except LoadError Catalogue
  | .missing => .ok empty
  | .notDirectory => .error .notDirectory
  | .entries entries => .ok (ofList (entries.filterMap namedTemplate?))

end Aviso
