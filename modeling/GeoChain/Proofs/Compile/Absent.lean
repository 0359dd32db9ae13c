import GeoChain.Proofs.Compile.Arguments

/-!
# Absent arguments

What a check sees of an argument is its value, and a literal `null` is as good as no value. So two
calls that agree on the names that are checked pass the same checks. A check that succeeds found
every argument that it requires, and it reports none missing but one that it requires and that is
absent.
-/

namespace GeoChain

namespace Arguments

/-- The value of an argument, if there is one other than `null`. -/
def given? (name : String) (arguments : Arguments) : Option Value :=
  match arguments.get? name with
  | some (.literal .null) | none => none
  | some value => some value

/-- Two calls of one process that give the same under each of the names. -/
structure AgreeOn (names : List String) (one other : Arguments) : Prop where
  process : one.process = other.process
  given : ∀ name ∈ names, one.given? name = other.given? name

variable {arguments one other : Arguments} {name : String} {names : List String}

theorem given?_eq_none : arguments.given? name = none ↔
    arguments.get? name = none ∨ arguments.get? name = some (.literal .null) := by
  rw [given?]
  split
  · rename_i held
    simp [held]
  · rename_i held
    simp [held]
  · rename_i value notNull held
    have distinct : value ≠ .literal .null := notNull
    simp [held, distinct]

theorem given?_eq_some {value : Value} : arguments.given? name = some value ↔
    arguments.get? name = some value ∧ value ≠ .literal .null := by
  rw [given?]
  split
  · rename_i held
    rw [held]
    constructor
    · intro found
      cases found
    · rintro ⟨found, distinct⟩
      exact absurd (Option.some.inj found).symm distinct
  · rename_i held
    simp [held]
  · rename_i found notNull held
    have distinct : found ≠ .literal .null := notNull
    rw [held]
    constructor
    · rintro same
      exact ⟨same, Option.some.inj same ▸ distinct⟩
    · exact And.left

/-- Calls that agree on a name have the same under it, or both have nothing. -/
theorem AgreeOn.cases (agree : AgreeOn names one other) (reads : name ∈ names) :
    one.get? name = other.get? name ∨ one.given? name = none ∧ other.given? name = none := by
  have same := agree.given name reads
  cases found : other.given? name with
  | none => exact Or.inr ⟨same.trans found, rfl⟩
  | some value =>
    left
    rw [(given?_eq_some.mp found).1, (given?_eq_some.mp (same.trans found)).1]

/-- The arguments of a call without one of them. -/
def without (name : String) (arguments : Arguments) : Arguments :=
  ⟨arguments.process, Keyed.erase name arguments.values⟩

theorem given?_without_self (name : String) (arguments : Arguments) :
    (arguments.without name).given? name = none :=
  given?_eq_none.mpr (Or.inl (Keyed.find?_erase_self name arguments.values))

/-- Leaving out an argument changes nothing for the other names. -/
theorem without_agree (apart : name ∉ names) (arguments : Arguments) :
    AgreeOn names (arguments.without name) arguments := by
  refine ⟨rfl, fun other member => ?_⟩
  have distinct : name ≠ other := fun same => apart (same ▸ member)
  have same : (arguments.without name).get? other = arguments.get? other :=
    Keyed.find?_erase_of_ne distinct arguments.values
  rw [given?, given?, same]

section Absence

variable (absent : arguments.given? name = none)

include absent

theorem optionalText_of_absent : arguments.optionalText name = .ok none := by
  rcases given?_eq_none.mp absent with held | held
  · rw [optionalText, held]
  · rw [optionalText, held]

theorem optionalNumber_of_absent : arguments.optionalNumber name = .ok none := by
  rcases given?_eq_none.mp absent with held | held
  · rw [optionalNumber, held]
  · rw [optionalNumber, held]

theorem requireData_of_absent :
    arguments.requireData name = .error (arguments.missing name) := by
  rcases given?_eq_none.mp absent with held | held
  · rw [requireData, held]
  · rw [requireData, held]

theorem data?_of_absent : arguments.data? name = none := by
  rcases given?_eq_none.mp absent with held | held
  · rw [data?, held]
  · rw [data?, held]

end Absence

theorem requireData_of_literal {literal : Json}
    (given : arguments.given? name = some (.literal literal)) :
    arguments.requireData name = .error (arguments.failed (.notNode name)) := by
  obtain ⟨held, notNull⟩ := given?_eq_some.mp given
  rw [requireData, held]
  split
  · rename_i same
    cases same
  · rename_i same
    cases same
    exact absurd rfl notNull
  · rename_i same
    cases same
  · rfl

section Agreement

variable (agree : AgreeOn names one other)

include agree

theorem missing_congr (name : String) : one.missing name = other.missing name := by
  rw [missing, missing, agree.process]

theorem failed_congr (failure : Failure) : one.failed failure = other.failed failure := by
  rw [failed, failed, agree.process]

theorem require_congr {α : Type} {found : Except CompileError (Option α)} :
    one.require name found = other.require name found := by
  simp only [require, missing_congr agree]

theorem optionalText_congr (reads : name ∈ names) :
    one.optionalText name = other.optionalText name := by
  rcases agree.cases reads with same | ⟨mine, others⟩
  · rw [optionalText, optionalText, same, failed_congr agree]
  · rw [optionalText_of_absent mine, optionalText_of_absent others]

theorem requireText_congr (reads : name ∈ names) :
    one.requireText name = other.requireText name := by
  rw [requireText, requireText, optionalText_congr agree reads, require_congr agree]

theorem numberOfText_congr (text : String) :
    one.numberOfText name text = other.numberOfText name text := by
  rw [numberOfText, numberOfText, failed_congr agree, failed_congr agree]

theorem optionalNumber_congr (reads : name ∈ names) :
    one.optionalNumber name = other.optionalNumber name := by
  rcases agree.cases reads with same | ⟨mine, others⟩
  · simp only [optionalNumber, same, failed_congr agree, numberOfText_congr agree]
  · rw [optionalNumber_of_absent mine, optionalNumber_of_absent others]

theorem requireNumber_congr (reads : name ∈ names) :
    one.requireNumber name = other.requireNumber name := by
  rw [requireNumber, requireNumber, optionalNumber_congr agree reads, require_congr agree]

theorem requireData_congr (reads : name ∈ names) :
    one.requireData name = other.requireData name := by
  rcases agree.cases reads with same | ⟨mine, others⟩
  · rw [requireData, requireData, same, missing_congr agree, failed_congr agree]
  · rw [requireData_of_absent mine, requireData_of_absent others, missing_congr agree]

theorem requireSingle_congr (reads : name ∈ names) :
    one.requireSingle name = other.requireSingle name := by
  simp only [requireSingle, requireData_congr agree reads, failed_congr agree]

theorem data?_congr (reads : name ∈ names) : one.data? name = other.data? name := by
  rcases agree.cases reads with same | ⟨mine, others⟩
  · rw [data?, data?, same]
  · rw [data?_of_absent mine, data?_of_absent others]

end Agreement

theorem optionalText_none :
    arguments.optionalText name = .ok none ↔ arguments.given? name = none := by
  constructor
  · intro found
    rw [optionalText] at found
    split at found
    · cases found
    · rename_i held
      exact given?_eq_none.mpr (Or.inr held)
    · rename_i held
      exact given?_eq_none.mpr (Or.inl held)
    · cases found
  · exact optionalText_of_absent

theorem optionalNumber_none :
    arguments.optionalNumber name = .ok none ↔ arguments.given? name = none := by
  constructor
  · intro found
    rw [optionalNumber] at found
    split at found
    · cases found
    · split at found
      · cases found
      · cases found
    · obtain ⟨x, -, none⟩ := Outcome.map_eq_ok.mp found
      cases none
    · rename_i held
      exact given?_eq_none.mpr (Or.inr held)
    · rename_i held
      exact given?_eq_none.mpr (Or.inl held)
    · cases found
  · exact optionalNumber_of_absent

/-- What a required parameter asks of a call: a value, or for the main input datasets, which may
come under its other name. -/
def Provides (name : String) (arguments : Arguments) : Prop :=
  if name = mainName then
    (arguments.data? mainName).isSome ∨ (arguments.data? fallbackName).isSome
  else ∃ value, arguments.given? name = some value

/-- A check that succeeds only if all names are provided, and that reports only a name among them as
missing, which is absent then. -/
structure Requires {α : Type} (names : List String) (arguments : Arguments)
    (found : Except CompileError α) : Prop where
  provided : ∀ value, found = .ok value → ∀ name ∈ names, arguments.Provides name
  missing : ∀ process name, found = .error (.missingArgument process name) →
    process = arguments.process.text ∧ name ∈ names ∧ arguments.given? name = none

namespace Requires

variable {α β : Type} {others : List String}

theorem ok (value : α) : Requires [] arguments (.ok value) :=
  ⟨fun _ _ _ member => (nomatch member), fun _ _ found => (nomatch found)⟩

theorem bind {first : Except CompileError α} {next : α → Except CompileError β}
    (early : Requires names arguments first)
    (late : ∀ value, Requires others arguments (next value)) :
    Requires (names ++ others) arguments (first >>= next) := by
  constructor
  · intro result found name member
    obtain ⟨value, before, after⟩ := Outcome.bind_eq_ok.mp found
    rcases List.mem_append.mp member with here | there
    · exact early.provided value before name here
    · exact (late value).provided result after name there
  · intro process name found
    cases first with
    | error cause =>
      obtain ⟨named, member, absent⟩ :=
        early.missing process name (congrArg Except.error (Except.error.inj found))
      exact ⟨named, List.mem_append_left _ member, absent⟩
    | ok value =>
      obtain ⟨named, member, absent⟩ := (late value).missing process name found
      exact ⟨named, List.mem_append_right _ member, absent⟩

/-- What is done with the value of a check requires nothing more. -/
theorem map {first : Except CompileError α} (early : Requires names arguments first)
    (result : α → β) : Requires names arguments (first >>= fun value => pure (result value)) := by
  have whole := early.bind fun value => .ok (result value)
  rwa [List.append_nil] at whole

/-- A check that is not for want of an argument requires nothing. -/
theorem of_not_missing {found : Except CompileError α}
    (never : ∀ process name, found ≠ .error (.missingArgument process name)) :
    Requires [] arguments found :=
  ⟨fun _ _ _ member => (nomatch member),
    fun process name failed => absurd failed (never process name)⟩

/-- An argument is required if it is fetched and nothing else counts as missing. -/
theorem require {found : Except CompileError (Option α)} (apart : name ≠ mainName)
    (none_iff : found = .ok none ↔ arguments.given? name = none)
    (never : ∀ process other, found ≠ .error (.missingArgument process other)) :
    Requires [name] arguments (arguments.require name found) := by
  constructor
  · intro value fetched other member
    rw [List.mem_singleton.mp member, Provides, if_neg apart]
    refine Option.ne_none_iff_exists'.mp fun absent => ?_
    rw [none_iff.mpr absent] at fetched
    cases fetched
  · intro process other failed
    rcases found with cause | (_ | value)
    · exact absurd (congrArg Except.error (Except.error.inj failed)) (never process other)
    · cases failed
      exact ⟨rfl, List.mem_cons_self, none_iff.mp rfl⟩
    · cases failed

end Requires

theorem optionalText_not_missing (name process other : String) (arguments : Arguments) :
    arguments.optionalText name ≠ .error (.missingArgument process other) := by
  intro failed
  rw [optionalText] at failed
  split at failed
  · cases failed
  · cases failed
  · cases failed
  · cases failed

theorem numberOfText_not_missing (name text process other : String) (arguments : Arguments) :
    arguments.numberOfText name text ≠ .error (.missingArgument process other) := by
  intro failed
  rw [numberOfText] at failed
  split at failed
  · cases failed
  · cases failed
  · cases failed

theorem optionalNumber_not_missing (name process other : String) (arguments : Arguments) :
    arguments.optionalNumber name ≠ .error (.missingArgument process other) := by
  intro failed
  rw [optionalNumber] at failed
  split at failed
  · cases failed
  · split at failed
    · cases failed
    · cases failed
  · rename_i text _
    have never := numberOfText_not_missing name text process other arguments
    cases found : arguments.numberOfText name text with
    | ok x =>
      rw [found] at failed
      cases failed
    | error cause =>
      rw [found] at failed never
      exact never (congrArg Except.error (Except.error.inj failed))
  · cases failed
  · cases failed
  · cases failed

theorem requireText_requires (apart : name ≠ mainName) :
    Requires [name] arguments (arguments.requireText name) :=
  .require apart optionalText_none fun process other =>
    optionalText_not_missing name process other arguments

theorem requireNumber_requires (apart : name ≠ mainName) :
    Requires [name] arguments (arguments.requireNumber name) :=
  .require apart optionalNumber_none fun process other =>
    optionalNumber_not_missing name process other arguments

theorem optionalNumber_requires : Requires [] arguments (arguments.optionalNumber name) :=
  .of_not_missing fun process other => optionalNumber_not_missing name process other arguments

theorem requireData_missing {process other : String}
    (failed : arguments.requireData name = .error (.missingArgument process other)) :
    process = arguments.process.text ∧ other = name ∧ arguments.given? name = none := by
  rw [requireData] at failed
  split at failed
  · cases failed
  · rename_i held
    cases failed
    exact ⟨rfl, rfl, given?_eq_none.mpr (Or.inr held)⟩
  · rename_i held
    cases failed
    exact ⟨rfl, rfl, given?_eq_none.mpr (Or.inl held)⟩
  · cases failed

theorem requireSingle_missing {process other : String}
    (failed : arguments.requireSingle name = .error (.missingArgument process other)) :
    process = arguments.process.text ∧ other = name ∧ arguments.given? name = none := by
  rw [requireSingle] at failed
  split at failed
  · cases failed
  · cases failed
  · rename_i cause found
    cases failed
    exact requireData_missing found

theorem requireSingle_requires (apart : name ≠ mainName) :
    Requires [name] arguments (arguments.requireSingle name) := by
  constructor
  · intro dataset found other member
    rw [List.mem_singleton.mp member, Provides, if_neg apart]
    exact ⟨_, given?_eq_some.mpr ⟨requireSingle_ok.mp found, nofun⟩⟩
  · intro process other failed
    obtain ⟨named, rfl, absent⟩ := requireSingle_missing failed
    exact ⟨named, List.mem_cons_self, absent⟩

end Arguments

end GeoChain
