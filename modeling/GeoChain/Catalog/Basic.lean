import GeoChain.Catalog.ModuleEmitter
import GeoChain.Text.Shown

/-!
# The catalog of processes

A catalog lists processes in the order of their first registration. Registering a process again
replaces its description and its emitter in place, so the last registration counts and every process
is listed once. Looking up is exact.
-/

namespace GeoChain

structure Entry where
  description : Description
  emitter : Emitter

def Entry.id (entry : Entry) : ProcessId := entry.description.id

structure Catalog where
  entries : List Entry

namespace Catalog

def empty : Catalog := ⟨[]⟩

/-- Puts an entry in place of the one with its id, or else at the end. -/
def place (entry : Entry) : List Entry → List Entry
  | [] => [entry]
  | other :: rest => if other.id = entry.id then entry :: rest else other :: place entry rest

def register (description : Description) (emitter : Emitter) (catalog : Catalog) : Catalog :=
  ⟨place ⟨description, emitter⟩ catalog.entries⟩

def find? (process : String) (catalog : Catalog) : Option Entry :=
  catalog.entries.find? (fun entry => entry.id.text = process)

def contains (process : String) (catalog : Catalog) : Bool := (catalog.find? process).isSome

def describe? (process : String) (catalog : Catalog) : Option Description :=
  (catalog.find? process).map (·.description)

def resolve (process : String) (catalog : Catalog) : Except CompileError Emitter :=
  match catalog.find? process with
  | some entry => .ok entry.emitter
  | none => .error (.unknownProcess process)

def descriptions (catalog : Catalog) : List Description := catalog.entries.map (·.description)

/-- The ids of all processes, in the order of their first registration. -/
def ids (catalog : Catalog) : List String := catalog.entries.map (·.id.text)

def size (catalog : Catalog) : Nat := catalog.entries.length

def isEmpty (catalog : Catalog) : Bool := catalog.entries.isEmpty

/-- A catalog as messages show it: by the ids of its processes. -/
def shown (catalog : Catalog) : String :=
  Text.shownRecord "ProcessRegistry" [("processes", Text.shownList catalog.ids)] false

/-- The entries that a module gives rise to: itself, and each of several outputs. -/
def moduleEntries (module : Module) : List Entry :=
  ⟨module.described, module.run.emit⟩ ::
    if module.hasSeveralOutputs then
      module.returns.map fun output => ⟨module.describedFor output, (module.runFor output).emit⟩
    else []

def entriesOf (modules : List Module) : List Entry := modules.flatMap moduleEntries

def registerAll (entries : List Entry) (catalog : Catalog) : Catalog :=
  entries.foldl (fun held entry => held.register entry.description entry.emitter) catalog

/-- Registers the processes of all modules; the count is that of the registrations. -/
def importModules (modules : List Module) (catalog : Catalog) : Nat × Catalog :=
  ((entriesOf modules).length, catalog.registerAll (entriesOf modules))

end Catalog

end GeoChain
