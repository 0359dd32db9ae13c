import GeoChain.Chain.Command
import GeoChain.Compile.Arguments
import GeoChain.Compile.Context

/-!
# Emitters

An emitter turns one call of a process into the datasets that it makes and the commands that make
them. It may read and change the context; what it did to the context stays done when it fails. An
emitter fails with an error of its own, or breaks off with a text or with nothing to say.
-/

namespace GeoChain

/-- The datasets that a process makes, and the commands to run, both in order. -/
structure Product where
  datasets : List String
  commands : List Command
deriving DecidableEq, Repr

/-- How an emitter stops short of a product. -/
inductive Halt where
  | failed (error : CompileError)
  | broken (message : Option String)
deriving DecidableEq

/-- The error that a halt of a process amounts to. -/
def Halt.error (process : ProcessId) : Halt → CompileError
  | .failed error => error
  | .broken message =>
    .failed process.text (.stated (message.getD "process compiler panicked")) none

/-- A step of an emitter: a result or a halt, and the context after it. -/
abbrev Emission (α : Type) := ExceptT Halt (StateM Context) α

abbrev Emitter := Arguments → Emission Product

namespace Emission

/-- A check that leaves the context alone. -/
def check {α : Type} (found : Except CompileError α) : Emission α :=
  match found with
  | .ok value => pure value
  | .error cause => throw (.failed cause)

def addLocation (location : String) : Emission Unit :=
  modify (Context.addLocation location)

/-- Draws the id of the next step of a process. -/
def nextStepId (lead : String) : Emission String := do
  let context ← get
  set context.advance
  return context.stepId lead

def execute {α : Type} (emission : Emission α) (context : Context) : Except Halt α × Context :=
  emission.run.run context

end Emission

/-- One dataset made by one command. -/
def Product.single (dataset : String) (command : Command) : Product := ⟨[dataset], [command]⟩

end GeoChain
