import GeoChain.Json.Basic

/-!
# Records in JSON

A record is read from an object by the names of its fields; fields that it does not declare are
ignored. A field may be required, may have a default for when it is missing, or may be optional, in
which case a missing field and `null` mean the same. A record is written with its fields in the
order of their declaration, leaving out those without content.
-/

namespace GeoChain

namespace Json

def members? : Json → Option (List (String × Json))
  | object members => some members
  | _ => none

def text? : Json → Option String
  | string text => some text
  | _ => none

def bool? : Json → Option Bool
  | bool value => some value
  | _ => none

/-- A natural number below a bound. -/
def natBelow? (bound : Nat) : Json → Option Nat
  | int n => if 0 ≤ n ∧ n < bound then some n.toNat else none
  | _ => none

def list? {α : Type} (read? : Json → Option α) : Json → Option (List α)
  | array items => items.mapM read?
  | _ => none

/-- The name of a variant without content: the bare name, or an object that gives it `null`. -/
def variant? : Json → Option String
  | string name => some name
  | object [(name, null)] => some name
  | _ => none

def field? (name : String) : Json → Option Json
  | object members => Keyed.find? name members
  | _ => none

def required? {α : Type} (name : String) (read? : Json → Option α) (record : Json) : Option α :=
  (record.field? name).bind read?

def defaulted? {α : Type} (name : String) (missing : α) (read? : Json → Option α)
    (record : Json) : Option α :=
  record.members?.bind fun members =>
    match Keyed.find? name members with
    | none => some missing
    | some value => read? value

def optional? {α : Type} (name : String) (read? : Json → Option α) (record : Json) :
    Option (Option α) :=
  record.members?.bind fun members =>
    match Keyed.find? name members with
    | none | some null => some none
    | some value => (read? value).map some

def some? (value : Json) : Option Json := some value

/-- A record of the fields that have content. -/
def record (fields : List (Option (String × Json))) : Json := object (fields.filterMap id)

def fieldOf (name : String) (value : Json) : Option (String × Json) := some (name, value)

def fieldIf {α : Type} (name : String) (write : α → Json) (value : Option α) :
    Option (String × Json) :=
  value.map fun content => (name, write content)

/-- A field that is left out if the list is empty. -/
def fieldOfItems {α : Type} (name : String) (write : α → Json) (items : List α) :
    Option (String × Json) :=
  if items.isEmpty then none else some (name, array (items.map write))

end Json

end GeoChain
