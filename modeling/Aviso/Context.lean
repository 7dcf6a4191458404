import Aviso.Json.Value

/-!
# What a template is rendered against

A context holds the data of a notification under five roots.  Besides it a
rendering knows which event is notified and what kind of thing it happened to.

* `Context.get?` and `Context.insert` reach the five roots only; other members of
  a context are kept and never seen;
* `Context.ticketBefore?` is the ticket as it was before the event.
-/

namespace Aviso

open Json

/-- The names that a path can begin with. -/
inductive Root where
  | user
  | client
  | ticket
  | previously
  | serviceCategory
deriving Repr, DecidableEq

namespace Root

def all : List Root :=
  [user, client, ticket, previously, serviceCategory]

def name : Root → String
  | user => "usuario"
  | client => "cliente"
  | ticket => "ticket"
  | previously => "previamente"
  | serviceCategory => "categoría_de_servicio"

def ofName? (name : String) : Option Root :=
  all.find? fun root => root.name == name

theorem name_injective {left right : Root} (same : left.name = right.name) : left = right := by
  revert same
  cases left <;> cases right <;> decide

@[simp] theorem ofName?_name (root : Root) : ofName? root.name = some root := by
  cases root <;> decide

end Root

/-- What happened. -/
inductive Event where
  | creation
  | modification
  | elimination
deriving Repr, DecidableEq

namespace Event

def all : List Event :=
  [creation, modification, elimination]

def name : Event → String
  | creation => "creation"
  | modification => "modification"
  | elimination => "elimination"

def ofName? (name : String) : Option Event :=
  all.find? fun event => event.name == name

@[simp] theorem ofName?_name (event : Event) : ofName? event.name = some event := by
  cases event <;> decide

end Event

/-- The kind of thing that an event happens to. -/
inductive Entity where
  | ticket
deriving Repr, DecidableEq

namespace Entity

def all : List Entity :=
  [ticket]

def name : Entity → String
  | ticket => "ticket"

def ofName? (name : String) : Option Entity :=
  all.find? fun kind => kind.name == name

@[simp] theorem ofName?_name (kind : Entity) : ofName? kind.name = some kind := by
  cases kind
  decide

end Entity

/-- The text with the letters A to Z in lower case. -/
def lowerCase (text : String) : String :=
  String.ofList (text.toList.map Char.toLower)

/-- Why a word names no event or kind; the word is in lower case. -/
inductive NameError where
  | unknownEvent (name : String)
  | unknownEntity (name : String)
deriving Repr, DecidableEq

def NameError.message : NameError → String
  | unknownEvent name => "unknown event: " ++ name
  | unknownEntity name => "unknown entity kind: " ++ name

/-- The event that a word names, in whatever case. -/
def Event.ofWord (word : String) : Except NameError Event :=
  match ofName? (lowerCase word) with
  | some event => .ok event
  | none => .error (.unknownEvent (lowerCase word))

/-- The kind that a word names, in whatever case. -/
def Entity.ofWord (word : String) : Except NameError Entity :=
  match ofName? (lowerCase word) with
  | some kind => .ok kind
  | none => .error (.unknownEntity (lowerCase word))

/-- The data of a notification. -/
structure Context where
  members : Members := []
deriving Repr

namespace Context

/-- What the context holds under a root. -/
def get? (context : Context) (root : Root) : Option Value :=
  context.members.lookup root.name

/-- The context with a value under a root, in place of any other there. -/
def insert (context : Context) (root : Root) (value : Value) : Context :=
  { members := Json.insert root.name value context.members }

/-- The fields of the ticket before the event. -/
def ticketBefore? (context : Context) : Option Members := do
  let previously ← context.get? .previously
  let fields ← previously.object?
  let ticket ← fields.lookup "ticket"
  ticket.object?

@[simp] theorem get?_insert_self (context : Context) (root : Root) (value : Value) :
    (context.insert root value).get? root = some value := by
  simp [insert, get?]

theorem get?_insert_of_ne (context : Context) {root other : Root} (different : other ≠ root)
    (value : Value) : (context.insert root value).get? other = context.get? other := by
  have names : other.name ≠ root.name := fun same => different (Root.name_injective same)
  exact lookup_insert_of_ne names value context.members

end Context

end Aviso
