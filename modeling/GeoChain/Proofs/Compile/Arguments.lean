import GeoChain.Catalog.ModuleEmitter
import GeoChain.Proofs.Keyed
import GeoChain.Proofs.Outcome

/-!
# Reading arguments

What it takes for a check of an argument to succeed. The checks of datasets succeed only on
datasets that the call receives, and no check of an argument blames the locations of the data.
-/

namespace GeoChain

/-- A check that does not fail for want of data. -/
def Declines {α : Type} (found : Except CompileError α) : Prop := found ≠ .error .noData

namespace Declines

variable {α β : Type}

theorem ok (value : α) : Declines (.ok value) := by
  intro failed
  cases failed

/-- A failure is passed on, whatever the check would have found. -/
theorem transport {cause : CompileError} (declines : Declines (.error cause : Except _ α)) :
    Declines (.error cause : Except _ β) := by
  intro failed
  exact declines (congrArg Except.error (Except.error.inj failed))

theorem bind {first : Except CompileError α} {next : α → Except CompileError β}
    (early : Declines first) (late : ∀ value, Declines (next value)) :
    Declines (first >>= next) := by
  cases first with
  | error cause => exact early.transport
  | ok value => exact late value

end Declines

namespace Arguments

variable {arguments : Arguments} {name : String}

theorem requireText_ok {text : String} : arguments.requireText name = .ok text ↔
    arguments.get? name = some (.literal (.string text)) := by
  rw [requireText, optionalText]
  split
  · rename_i held
    simp [require, held]
  · rename_i held
    simp [require, held]
  · rename_i held
    simp [require, held]
  · rename_i value notText _ held
    have distinct : value ≠ .literal (.string text) := fun same => notText text same
    simp [require, held, distinct]

theorem requireData_ok {datasets : List String} : arguments.requireData name = .ok datasets ↔
    arguments.get? name = some (.data datasets) := by
  rw [requireData]
  split
  · rename_i held
    simp [held]
  · rename_i held
    simp [held]
  · rename_i held
    simp [held]
  · rename_i held
    simp [held]

theorem requireSingle_ok {dataset : String} : arguments.requireSingle name = .ok dataset ↔
    arguments.get? name = some (.data [dataset]) := by
  rw [requireSingle, ← requireData_ok]
  split
  · rename_i found
    simp [found]
  · rename_i datasets several found
    have distinct : datasets ≠ [dataset] := fun same => several dataset same
    simp [found, distinct]
  · rename_i found
    simp [found]

theorem requireSingle_of_error {cause : CompileError}
    (failed : arguments.requireData name = .error cause) :
    arguments.requireSingle name = .error cause := by
  rw [requireSingle, failed]

theorem requireSingle_of_several {datasets : List String} (several : datasets.length ≠ 1)
    (held : arguments.get? name = some (.data datasets)) :
    arguments.requireSingle name =
      .error (arguments.failed (.notSingle name datasets.length)) := by
  rw [requireSingle, requireData_ok.mpr held]
  split
  · rename_i found
    cases found
    exact absurd rfl several
  · rename_i found
    cases found
    rfl
  · rename_i found
    cases found

theorem data?_eq_some {datasets : List String} : arguments.data? name = some datasets ↔
    arguments.get? name = some (.data datasets) := by
  rw [data?]
  split
  · rename_i held
    simp [held]
  · rename_i held
    simp [held]
  · rename_i held
    simp [held]

theorem data?_eq_none :
    arguments.data? name = none ↔ ∀ datasets, arguments.get? name ≠ some (.data datasets) := by
  simp only [Option.eq_none_iff_forall_ne_some, ne_eq, data?_eq_some]

theorem mem_received {values : List (String × Value)} {dataset : String} :
    dataset ∈ ModuleRun.received values ↔
      ∃ name datasets, (name, .data datasets) ∈ values ∧ dataset ∈ datasets := by
  rw [ModuleRun.received, List.mem_flatMap]
  constructor
  · rintro ⟨⟨name, value⟩, member, inside⟩
    cases value with
    | literal json => simp at inside
    | data datasets => exact ⟨name, datasets, member, inside⟩
  · rintro ⟨name, datasets, member, inside⟩
    exact ⟨(name, .data datasets), member, inside⟩

/-- The datasets of one argument stand next to each other in what is received. -/
theorem received_infix {datasets : List String}
    (held : arguments.get? name = some (.data datasets)) :
    datasets <:+: ModuleRun.received arguments.values := by
  obtain ⟨before, after, split⟩ := List.append_of_mem (Keyed.mem_of_find? held)
  refine ⟨ModuleRun.received before, ModuleRun.received after, ?_⟩
  simp [split, ModuleRun.received]

theorem received_of_get? {datasets : List String} {dataset : String}
    (held : arguments.get? name = some (.data datasets)) (member : dataset ∈ datasets) :
    dataset ∈ ModuleRun.received arguments.values :=
  mem_received.mpr ⟨name, datasets, Keyed.mem_of_find? held, member⟩

theorem missing_declines {α : Type} (name : String) (arguments : Arguments) :
    Declines (.error (arguments.missing name) : Except CompileError α) := by
  intro failed
  cases failed

theorem failed_declines {α : Type} (failure : Failure) (arguments : Arguments) :
    Declines (.error (arguments.failed failure) : Except CompileError α) := by
  intro failed
  cases failed

theorem require_declines {α : Type} {found : Except CompileError (Option α)}
    (declines : Declines found) : Declines (arguments.require name found) := by
  rcases found with cause | (_ | value)
  · exact declines.transport
  · exact missing_declines name arguments
  · exact .ok value

theorem requireText_declines (name : String) (arguments : Arguments) :
    Declines (arguments.requireText name) := by
  refine require_declines ?_
  rw [optionalText]
  split
  · exact .ok _
  · exact .ok _
  · exact .ok _
  · exact failed_declines _ arguments

theorem numberOfText_declines (name text : String) (arguments : Arguments) :
    Declines (arguments.numberOfText name text) := by
  rw [numberOfText]
  split
  · exact .ok _
  · exact failed_declines _ arguments
  · intro failed
    cases failed

theorem optionalNumber_declines (name : String) (arguments : Arguments) :
    Declines (arguments.optionalNumber name) := by
  rw [optionalNumber]
  split
  · exact .ok _
  · split
    · exact .ok _
    · exact failed_declines _ arguments
  · rename_i text _
    have declines := numberOfText_declines name text arguments
    cases found : arguments.numberOfText name text with
    | ok x => exact .ok _
    | error cause =>
      rw [found] at declines
      exact declines.transport
  · exact .ok _
  · exact .ok _
  · exact failed_declines _ arguments

theorem requireData_declines (name : String) (arguments : Arguments) :
    Declines (arguments.requireData name) := by
  rw [requireData]
  split
  · exact .ok _
  · exact missing_declines name arguments
  · exact missing_declines name arguments
  · exact failed_declines _ arguments

theorem requireSingle_declines (name : String) (arguments : Arguments) :
    Declines (arguments.requireSingle name) := by
  have declines := requireData_declines name arguments
  rw [requireSingle]
  split
  · exact .ok _
  · exact failed_declines _ arguments
  · rename_i cause found
    rw [found] at declines
    exact declines.transport

end Arguments

end GeoChain
