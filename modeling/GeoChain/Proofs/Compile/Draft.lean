import GeoChain.Catalog.ModuleEmitter

/-!
# Drafts of calls

A draft settles a call up to the ids of its steps: the location that it notes, the datasets that it
makes, and its commands with their ids left open. An emitter that follows a draft takes nothing from
the context but step ids, one for each of its commands.
-/

namespace GeoChain

/-- The source after so many step ids were drawn. -/
def IdSource.advanceBy : Nat → IdSource → IdSource
  | 0, ids => ids
  | n + 1, ids => ids.advance.advanceBy n

/-- The id of the next step that starts with a lead. -/
def IdSource.stepId (lead : String) (ids : IdSource) : String := lead ++ "_" ++ ids.ending

/-- Puts the next ids into commands. -/
def number (lead : String) : List Command → IdSource → List Command
  | [], _ => []
  | command :: rest, ids => { command with id := ids.stepId lead } :: number lead rest ids.advance

theorem IdSource.advanceBy_sequential (n count : Nat) :
    (IdSource.sequential n).advanceBy count = .sequential (n + count) := by
  induction count generalizing n with
  | zero => rfl
  | succ count ih =>
    rw [advanceBy, advance, ih, Nat.add_right_comm, Nat.add_assoc]

theorem length_number (lead : String) (commands : List Command) (ids : IdSource) :
    (number lead commands ids).length = commands.length := by
  induction commands generalizing ids with
  | nil => rfl
  | cons command rest ih => rw [number, List.length_cons, List.length_cons, ih]

/-- Every command gets an id and keeps everything else. -/
theorem number_of_mem (lead : String) {commands : List Command} {command : Command}
    (member : command ∈ commands) (ids : IdSource) :
    ∃ id, { command with id := id } ∈ number lead commands ids := by
  induction commands generalizing ids with
  | nil => cases member
  | cons first rest ih =>
    rcases List.mem_cons.mp member with rfl | later
    · exact ⟨ids.stepId lead, List.mem_cons_self⟩
    · obtain ⟨id, numbered⟩ := ih later ids.advance
      exact ⟨id, List.mem_cons_of_mem _ numbered⟩

/-- Every command with an id was one without. -/
theorem mem_number {lead : String} {commands : List Command} {ids : IdSource} {command : Command}
    (numbered : command ∈ number lead commands ids) :
    ∃ original ∈ commands, ∃ id, command = { original with id := id } := by
  induction commands generalizing ids with
  | nil => cases numbered
  | cons first rest ih =>
    rcases List.mem_cons.mp numbered with rfl | later
    · exact ⟨first, List.mem_cons_self, _, rfl⟩
    · obtain ⟨original, among, same⟩ := ih later
      exact ⟨original, List.mem_cons_of_mem _ among, same⟩

/-- A call that is settled up to the ids of its steps. -/
structure Draft where
  lead : String
  location : Option String
  datasets : List String
  commands : List Command

namespace Draft

def product (draft : Draft) (ids : IdSource) : Product :=
  ⟨draft.datasets, number draft.lead draft.commands ids⟩

/-- The locations that are known after the call. -/
def note (draft : Draft) (locations : List String) : List String :=
  match draft.location with
  | none => locations
  | some location => Context.insertLocation location locations

def after (draft : Draft) (context : Context) : Context :=
  ⟨draft.note context.locations, context.ids.advanceBy draft.commands.length⟩

theorem after_locations {draft : Draft} (unlocated : draft.location = none) (context : Context) :
    (draft.after context).locations = context.locations := by
  rw [after, note, unlocated]

/-- A call does what a draft says, or it fails and notes no location. -/
def Done (draft : Except CompileError Draft) (context : Context)
    (called : Except Halt Product × Context) : Prop :=
  match draft with
  | .ok made => called = (.ok (made.product context.ids), made.after context)
  | .error cause => ∃ after, called = (.error (.failed cause), after) ∧
      after.locations = context.locations

end Draft

/-- Every call of an emitter does what its draft says. The draft may use the id of the first
step. -/
def Emitter.Follows (emitter : Emitter) (draft : Arguments → String → Except CompileError Draft) :
    Prop :=
  ∀ arguments context, Draft.Done (draft arguments (context.stepId arguments.process.text)) context
    ((emitter arguments).execute context)

namespace Emission

variable {α β : Type}

theorem execute_bind (first : Emission α) (next : α → Emission β) (context : Context) :
    (first >>= next).execute context = match first.execute context with
      | (.error halt, after) => (.error halt, after)
      | (.ok value, after) => (next value).execute after := by
  simp only [execute, bind, ExceptT.bind, ExceptT.mk, ExceptT.run, StateT.bind, StateT.run]
  rcases first context with ⟨halt | value, after⟩
  · rfl
  · rfl

@[simp] theorem execute_draw (lead : String) (next : String → Emission β) (context : Context) :
    (nextStepId lead >>= next).execute context =
      (next (context.ids.stepId lead)).execute context.advance := rfl

end Emission

/-- A check that both the emitter and its draft start with. -/
theorem Draft.Done.check {α : Type} {found : Except CompileError α} {next : α → Emission Product}
    {draft : α → Except CompileError Draft} {context : Context}
    (each : ∀ value, Done (draft value) context ((next value).execute context)) :
    Done (found >>= draft) context ((Emission.check found >>= next).execute context) := by
  cases found with
  | error cause => exact ⟨context, rfl, rfl⟩
  | ok value => exact each value

namespace Emitter.Follows

variable {emitter : Emitter} {draft : Arguments → String → Except CompileError Draft}
  {arguments : Arguments}

theorem does (follows : emitter.Follows draft) (context : Context) {made : Draft}
    (drafted : draft arguments (context.stepId arguments.process.text) = .ok made) :
    (emitter arguments).execute context = (.ok (made.product context.ids), made.after context) := by
  have done := follows arguments context
  rw [drafted] at done
  exact done

/-- What a successful call of an emitter that follows a draft made. -/
theorem made {context after : Context} {product : Product} (follows : emitter.Follows draft)
    (called : (emitter arguments).execute context = (.ok product, after)) :
    ∃ made, draft arguments (context.stepId arguments.process.text) = .ok made ∧
      product = made.product context.ids ∧ after = made.after context := by
  have done := follows arguments context
  rw [called] at done
  cases drafted : draft arguments (context.stepId arguments.process.text) with
  | error cause =>
    rw [drafted] at done
    obtain ⟨other, failed, -⟩ := done
    cases failed
  | ok made =>
    rw [drafted] at done
    cases done
    exact ⟨made, rfl, rfl, rfl⟩

/-- An emitter fails with the error of its draft. -/
theorem failed {context after : Context} {halt : Halt} (follows : emitter.Follows draft)
    (called : (emitter arguments).execute context = (.error halt, after)) :
    ∃ cause, draft arguments (context.stepId arguments.process.text) = .error cause ∧
      halt = .failed cause := by
  have done := follows arguments context
  rw [called] at done
  cases drafted : draft arguments (context.stepId arguments.process.text) with
  | error cause =>
    rw [drafted] at done
    obtain ⟨other, failed, -⟩ := done
    cases failed
    exact ⟨cause, rfl, rfl⟩
  | ok made =>
    rw [drafted] at done
    cases done

end Emitter.Follows

end GeoChain
