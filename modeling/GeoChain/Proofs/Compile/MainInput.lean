import GeoChain.Proofs.Compile.Absent

/-!
# The main input

The main input of a call is under `imagery` if that is data, and otherwise under `data` if that is
data. Both ways of reading it, for all of its datasets and for its only one, choose the same of the
two arguments. So they give the same where there is one dataset and fail alike where there is no
main input; any other number of datasets is refused only by the second.
-/

namespace GeoChain

namespace Arguments

/-- The argument that the main input comes from, and its datasets. It does not matter what
`imagery` is if it is not data. -/
inductive Supplies (arguments : Arguments) : String → List String → Prop where
  | imagery {datasets : List String} (held : arguments.get? "imagery" = some (.data datasets)) :
      Supplies arguments "imagery" datasets
  | data {datasets : List String}
      (elsewhere : ∀ others, arguments.get? "imagery" ≠ some (.data others))
      (held : arguments.get? "data" = some (.data datasets)) : Supplies arguments "data" datasets

/-- Neither of the two arguments is data. -/
structure Unsupplied (arguments : Arguments) : Prop where
  imagery : ∀ datasets, arguments.get? "imagery" ≠ some (.data datasets)
  data : ∀ datasets, arguments.get? "data" ≠ some (.data datasets)

variable {arguments : Arguments} {name dataset : String} {datasets : List String}
  {cause : CompileError}

namespace Supplies

theorem held (supplies : arguments.Supplies name datasets) :
    arguments.get? name = some (.data datasets) := by
  cases supplies with
  | imagery held => exact held
  | data _ held => exact held

theorem primaryData (supplies : arguments.Supplies name datasets) :
    arguments.primaryData = .ok datasets := by
  rw [Arguments.primaryData, mainName, fallbackName]
  cases supplies with
  | imagery held => rw [data?_eq_some.mpr held]
  | data elsewhere held => rw [data?_eq_none.mpr elsewhere, data?_eq_some.mpr held]

theorem primarySingle (supplies : arguments.Supplies name datasets) :
    arguments.primarySingle = arguments.requireSingle name := by
  rw [Arguments.primarySingle, mainName, fallbackName]
  cases supplies with
  | imagery held => rw [data?_eq_some.mpr held, Option.isSome_some, if_pos rfl]
  | data elsewhere held =>
    rw [data?_eq_none.mpr elsewhere, data?_eq_some.mpr held, Option.isSome_none,
      if_neg Bool.false_ne_true, Option.isSome_some, if_pos rfl]

end Supplies

namespace Unsupplied

theorem primaryData (unsupplied : arguments.Unsupplied) :
    arguments.primaryData = arguments.requireData "imagery" := by
  rw [Arguments.primaryData, mainName, fallbackName, data?_eq_none.mpr unsupplied.imagery,
    data?_eq_none.mpr unsupplied.data]

theorem primarySingle (unsupplied : arguments.Unsupplied) :
    arguments.primarySingle = arguments.requireSingle "imagery" := by
  rw [Arguments.primarySingle, mainName, fallbackName, data?_eq_none.mpr unsupplied.imagery,
    data?_eq_none.mpr unsupplied.data, Option.isSome_none, if_neg Bool.false_ne_true,
    if_neg Bool.false_ne_true]

/-- Why the main input cannot be read: `imagery` is absent or null, or else it is a literal. -/
theorem fails (unsupplied : arguments.Unsupplied) :
    (arguments.given? "imagery" = none ∧
      arguments.primaryData = .error (arguments.missing "imagery")) ∨
    ∃ literal, arguments.given? "imagery" = some (.literal literal) ∧
      arguments.primaryData = .error (arguments.failed (.notNode "imagery")) := by
  rw [unsupplied.primaryData]
  cases given : arguments.given? "imagery" with
  | none => exact Or.inl ⟨rfl, requireData_of_absent given⟩
  | some value =>
    cases value with
    | literal literal => exact Or.inr ⟨literal, rfl, requireData_of_literal given⟩
    | data datasets => exact absurd (given?_eq_some.mp given).1 (unsupplied.imagery datasets)

end Unsupplied

theorem supplied_or_not (arguments : Arguments) :
    (∃ name datasets, arguments.Supplies name datasets) ∨ arguments.Unsupplied := by
  by_cases imagery : ∃ datasets, arguments.get? "imagery" = some (.data datasets)
  · obtain ⟨datasets, held⟩ := imagery
    exact Or.inl ⟨_, datasets, .imagery held⟩
  · by_cases data : ∃ datasets, arguments.get? "data" = some (.data datasets)
    · obtain ⟨datasets, held⟩ := data
      exact Or.inl ⟨_, datasets, .data (not_exists.mp imagery) held⟩
    · exact Or.inr ⟨not_exists.mp imagery, not_exists.mp data⟩

theorem primaryData_eq_ok :
    arguments.primaryData = .ok datasets ↔ ∃ name, arguments.Supplies name datasets := by
  constructor
  · intro found
    rcases supplied_or_not arguments with ⟨name, others, supplies⟩ | unsupplied
    · rw [supplies.primaryData] at found
      cases found
      exact ⟨name, supplies⟩
    · rw [unsupplied.primaryData] at found
      exact absurd (requireData_ok.mp found) (unsupplied.imagery datasets)
  · rintro ⟨name, supplies⟩
    exact supplies.primaryData

theorem primaryData_ok (found : arguments.primaryData = .ok datasets) :
    ∃ name, arguments.get? name = some (.data datasets) := by
  obtain ⟨name, supplies⟩ := primaryData_eq_ok.mp found
  exact ⟨name, supplies.held⟩

theorem primarySingle_eq_ok :
    arguments.primarySingle = .ok dataset ↔ arguments.primaryData = .ok [dataset] := by
  rcases supplied_or_not arguments with ⟨name, datasets, supplies⟩ | unsupplied
  · rw [supplies.primarySingle, supplies.primaryData, requireSingle_ok, supplies.held]
    simp
  · rw [unsupplied.primarySingle, unsupplied.primaryData, requireSingle_ok, requireData_ok]

theorem primarySingle_of_error (failed : arguments.primaryData = .error cause) :
    arguments.primarySingle = .error cause := by
  rcases supplied_or_not arguments with ⟨name, datasets, supplies⟩ | unsupplied
  · rw [supplies.primaryData] at failed
    cases failed
  · rw [unsupplied.primaryData] at failed
    rw [unsupplied.primarySingle, requireSingle_of_error failed]

theorem primarySingle_ok (found : arguments.primarySingle = .ok dataset) :
    ∃ name, arguments.get? name = some (.data [dataset]) :=
  primaryData_ok (primarySingle_eq_ok.mp found)

theorem primaryData_declines (arguments : Arguments) : Declines arguments.primaryData := by
  rcases supplied_or_not arguments with ⟨name, datasets, supplies⟩ | unsupplied
  · rw [supplies.primaryData]
    exact .ok datasets
  · rw [unsupplied.primaryData]
    exact requireData_declines "imagery" arguments

theorem primarySingle_declines (arguments : Arguments) : Declines arguments.primarySingle := by
  rcases supplied_or_not arguments with ⟨name, datasets, supplies⟩ | unsupplied
  · rw [supplies.primarySingle]
    exact requireSingle_declines name arguments
  · rw [unsupplied.primarySingle]
    exact requireSingle_declines "imagery" arguments

section

variable {one other : Arguments} {names : List String} (agree : AgreeOn names one other)

include agree

theorem primaryData_congr (main : mainName ∈ names) (fallback : fallbackName ∈ names) :
    one.primaryData = other.primaryData := by
  rw [primaryData, primaryData, data?_congr agree main, data?_congr agree fallback,
    requireData_congr agree main]

theorem primarySingle_congr (main : mainName ∈ names) (fallback : fallbackName ∈ names) :
    one.primarySingle = other.primarySingle := by
  rw [primarySingle, primarySingle, data?_congr agree main, data?_congr agree fallback,
    requireSingle_congr agree main, requireSingle_congr agree fallback]

end

theorem Supplies.provides (supplies : arguments.Supplies name datasets) :
    arguments.Provides mainName := by
  rw [Provides, if_pos rfl]
  have found := data?_eq_some.mpr supplies.held
  cases supplies with
  | imagery => exact Or.inl (Option.isSome_of_eq_some found)
  | data => exact Or.inr (Option.isSome_of_eq_some found)

theorem primaryData_requires : Requires [mainName] arguments arguments.primaryData := by
  constructor
  · intro datasets found other member
    obtain ⟨name, supplies⟩ := primaryData_eq_ok.mp found
    rw [List.mem_singleton.mp member]
    exact supplies.provides
  · intro process other failed
    rcases supplied_or_not arguments with ⟨name, datasets, supplies⟩ | unsupplied
    · rw [supplies.primaryData] at failed
      cases failed
    · rw [unsupplied.primaryData] at failed
      obtain ⟨named, rfl, absent⟩ := requireData_missing failed
      exact ⟨named, List.mem_cons_self, absent⟩

theorem primarySingle_requires : Requires [mainName] arguments arguments.primarySingle := by
  constructor
  · intro dataset found
    exact primaryData_requires.provided [dataset] (primarySingle_eq_ok.mp found)
  · intro process other failed
    rcases supplied_or_not arguments with ⟨name, datasets, supplies⟩ | unsupplied
    · -- The argument that the datasets come from is there, so it is not the missing one.
      rw [supplies.primarySingle] at failed
      obtain ⟨-, -, absent⟩ := requireSingle_missing failed
      rw [given?_eq_some.mpr ⟨supplies.held, nofun⟩] at absent
      cases absent
    · rw [unsupplied.primarySingle] at failed
      obtain ⟨named, rfl, absent⟩ := requireSingle_missing failed
      exact ⟨named, List.mem_cons_self, absent⟩

/-- The two ways of reading the main input agree. Its only dataset is read exactly if all of its
datasets are one, a failure to read all of them is also one to read the only one, and any other
number of them is refused under the name that they come from. All of them are those of `imagery` if
it is data, else those of `data` if that is. If neither is, both ways fail, for want of `imagery` if
it is absent or null and otherwise because it is a literal. -/
theorem mainInput_agrees (arguments : Arguments) :
    (∀ dataset, arguments.primarySingle = .ok dataset ↔ arguments.primaryData = .ok [dataset]) ∧
    (∀ cause, arguments.primaryData = .error cause → arguments.primarySingle = .error cause) ∧
    (∀ datasets, arguments.primaryData = .ok datasets → datasets.length ≠ 1 →
      ∃ name, arguments.Supplies name datasets ∧ arguments.primarySingle =
        .error (.failed arguments.process.text (.notSingle name datasets.length) none)) ∧
    (∀ datasets, arguments.primaryData = .ok datasets ↔ ∃ name, arguments.Supplies name datasets) ∧
    (arguments.Unsupplied → ∃ cause,
      arguments.primaryData = .error cause ∧ arguments.primarySingle = .error cause ∧
      (cause = .missingArgument arguments.process.text "imagery" ↔
        arguments.given? "imagery" = none) ∧
      (cause = .failed arguments.process.text (.notNode "imagery") none ↔
        ∃ literal, arguments.given? "imagery" = some (.literal literal))) := by
  refine ⟨fun dataset => primarySingle_eq_ok, fun cause => primarySingle_of_error,
    fun datasets found several => ?_, fun datasets => primaryData_eq_ok, fun unsupplied => ?_⟩
  · obtain ⟨name, supplies⟩ := primaryData_eq_ok.mp found
    refine ⟨name, supplies, ?_⟩
    rw [supplies.primarySingle, requireSingle_of_several several supplies.held]
    rfl
  · rcases unsupplied.fails with ⟨absent, failed⟩ | ⟨literal, given, failed⟩
    · refine ⟨_, failed, primarySingle_of_error failed, iff_of_true rfl absent, ?_⟩
      simp [absent, missing]
    · refine ⟨_, failed, primarySingle_of_error failed, ?_, iff_of_true rfl ⟨literal, given⟩⟩
      simp [given, Arguments.failed]

/-- Two scenes under `data`, beside a number. -/
def scenesBesideNumber : Arguments :=
  ⟨.sanitize "min_time", [("data", .data ["spring@climate", "autumn@climate"]),
    ("imagery", .literal (.int 5))]⟩

def numberAlone : Arguments := ⟨.sanitize "min_time", [("imagery", .literal (.int 5))]⟩

/-- The number does not stand in the way of the scenes, which are refused for being two. It is
itself to blame only where there are none. -/
theorem scenes_agree :
    scenesBesideNumber.primaryData = .ok ["spring@climate", "autumn@climate"] ∧
    ["spring@climate", "autumn@climate"].length ≠ 1 ∧
    (∃ cause, scenesBesideNumber.primarySingle = .error cause ∧ cause.message =
      "compilation of process 'min_time' failed: " ++
        "argument 'data' must produce exactly one dataset, got 2") ∧
    numberAlone.Unsupplied ∧
    numberAlone.primarySingle = .error (.failed "min_time" (.notNode "imagery") none) := by
  have read : scenesBesideNumber.primaryData = .ok ["spring@climate", "autumn@climate"] := rfl
  have several : ["spring@climate", "autumn@climate"].length ≠ 1 := by decide
  have unsupplied : numberAlone.Unsupplied := ⟨nofun, nofun⟩
  obtain ⟨-, -, refused, -⟩ := mainInput_agrees scenesBesideNumber
  obtain ⟨name, supplies, failed⟩ := refused _ read several
  obtain ⟨-, -, -, -, fails⟩ := mainInput_agrees numberAlone
  obtain ⟨cause, -, alsoFailed, -, literal⟩ := fails unsupplied
  refine ⟨read, several, ⟨_, failed, ?_⟩, unsupplied, ?_⟩
  · cases supplies with
    | imagery held => cases held
    | data => decide
  · rw [alsoFailed, literal.mpr ⟨.int 5, rfl⟩]
    rfl

end Arguments

end GeoChain
