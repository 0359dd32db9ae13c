import GeoChain.Proofs.Catalog.Resolved
import GeoChain.Proofs.Dataset.Piece

/-!
# What the built-in processes make

Of the built-in processes one loads a dataset, two pass datasets through, and five make a dataset of
their own. The name of such a dataset is settled by the process, by the datasets that it reads, and
by the key of the literals that shape the result. What the process puts behind the names that it
reads gives the process and the key away.
-/

namespace GeoChain

namespace Process

/-- The processes whose results are shaped by literals. -/
def keyed : List String := [FilterDaterange.name, ZonalStatistics.name, UdfReduceTime.name]

/-- The processes that make a dataset from one other. -/
def single : List String := MinTime.name :: keyed

/-- The processes that make a dataset of their own. -/
def makers : List String := Ndvi.name :: single

/-- The processes that pass datasets through. -/
def passing : List String := [FilterBbox.name, RasterExporter.name]

/-- The literal that shapes what a process makes, by the texts that it is given. -/
def literal? (process : String) (text? : String → Option String) : Option String :=
  if process = FilterDaterange.name then do
    let start ← text? "from"
    let stop ← text? "to"
    return FilterDaterange.range (Text.trim start) (Text.trim stop)
  else if process = ZonalStatistics.name then text? "regions"
  else if process = UdfReduceTime.name then text? "python_file_url"
  else none

theorem makers_apart : ∀ one ∈ makers, ∀ other ∈ makers, Apart Dataset.marked one other := by
  decide

end Process

/-- A process that makes a dataset, with the key of the literals that shape it. -/
structure Stage where
  process : String
  key : Option String
deriving DecidableEq

namespace Stage

open Dataset

/-- The stage of a process that is given some texts. -/
def of (process : String) (text? : String → Option String) : Stage :=
  ⟨process, (Process.literal? process text?).map literalKey⟩

/-- The process makes datasets, and there is a key exactly if literals shape them. -/
structure Valid (stage : Stage) : Prop where
  maker : stage.process ∈ Process.makers
  keyed : stage.key.isSome ↔ stage.process ∈ Process.keyed
  digest : ∀ key ∈ stage.key, ∃ literal, key = literalKey literal

/-- How many datasets the process reads. -/
def arity (stage : Stage) : Nat := if stage.process = Process.Ndvi.name then 2 else 1

/-- The name of what is made from some datasets. -/
def dataset (stage : Stage) (inputs : List String) : String :=
  match stage.key with
  | none => joined inputs stage.process
  | some key => derived (joined inputs key) stage.process

/-- What stands behind the names of the datasets that are read. -/
def piece (stage : Stage) : List Char :=
  stage.key.toList.flatMap marked ++ marked stage.process

theorem piece_ne_nil (stage : Stage) : stage.piece ≠ [] :=
  List.append_ne_nil_of_right_ne_nil _ (marked_ne_nil _)

theorem marked_dataset (stage : Stage) (inputs : List String) :
    marked (stage.dataset inputs) = inputs.flatMap marked ++ stage.piece := by
  obtain ⟨process, key⟩ := stage
  cases key with
  | none => simp [dataset, piece, marked_joined]
  | some key =>
    have split := marked_glued (stem (joined inputs key)) process
    rw [marked_stem, marked_joined, List.append_assoc] at split
    simpa [dataset, piece, derived] using split

theorem valid_of_keyed {process : String} (member : process ∈ Process.keyed) (literal : String) :
    Valid ⟨process, some (literalKey literal)⟩ where
  maker := List.mem_cons_of_mem _ (List.mem_cons_of_mem _ member)
  keyed := by simpa using member
  digest := by simp

theorem valid_of_unkeyed {process : String} (member : process ∈ Process.makers)
    (unkeyed : process ∉ Process.keyed) : Valid ⟨process, none⟩ where
  maker := member
  keyed := by simpa using unkeyed
  digest := by simp

/-- Keys have one length and no `@`, so the end of a text shows which one it is. -/
theorem key_unique {literal other : String} {process text : List Char}
    (ends : marked (literalKey literal) ++ process <:+ text)
    (alsoEnds : marked (literalKey other) ++ process <:+ text) :
    literalKey literal = literalKey other := by
  have length : ∀ literal, (marked (literalKey literal)).length = 9 := by
    intro literal
    rw [marked, List.length_cons, plain, List.length_map, length_literalKey]
  have sized : (marked (literalKey literal) ++ process).length =
      (marked (literalKey other) ++ process).length := by
    rw [List.length_append, List.length_append, length, length]
  have inside := List.suffix_of_suffix_length_le ends alsoEnds (Nat.le_of_eq sized)
  have same := List.append_cancel_right (inside.eq_of_length sized)
  have chars : plain (literalKey literal) = plain (literalKey other) := (List.cons.inj same).2
  rw [plain_eq_toList (at_not_mem_literalKey _), plain_eq_toList (at_not_mem_literalKey _)] at chars
  exact String.toList_inj.mp chars

/-- The end of a name shows what stage made it. -/
theorem Valid.apart {one other : Stage} (valid : one.Valid) (alsoValid : other.Valid) :
    Apart piece one other := by
  intro text ends alsoEnds
  obtain ⟨process, key⟩ := one
  obtain ⟨otherProcess, otherKey⟩ := other
  obtain rfl : process = otherProcess :=
    Process.makers_apart _ valid.maker _ alsoValid.maker text
      ((List.suffix_append _ _).trans ends) ((List.suffix_append _ _).trans alsoEnds)
  have alike : key.isSome ↔ otherKey.isSome := valid.keyed.trans alsoValid.keyed.symm
  cases key with
  | none =>
    cases otherKey with
    | none => rfl
    | some otherKey => simp at alike
  | some key =>
    cases otherKey with
    | none => simp at alike
    | some otherKey =>
      obtain ⟨literal, rfl⟩ := valid.digest key rfl
      obtain ⟨otherLiteral, rfl⟩ := alsoValid.digest otherKey rfl
      simp only [piece, Option.toList_some, List.flatMap_singleton] at ends alsoEnds
      rw [key_unique ends alsoEnds]

/-- A name gives its stage, and what the names that were read are glued to. -/
theorem dataset_glued {stage other : Stage} {inputs others : List String}
    (valid : stage.Valid) (alsoValid : other.Valid)
    (same : stage.dataset inputs = other.dataset others) :
    stage = other ∧ inputs.flatMap marked = others.flatMap marked := by
  have pieces := congrArg marked same
  rw [marked_dataset, marked_dataset] at pieces
  exact (valid.apart alsoValid).last pieces

/-- The end of a name gives its stage and the names that were read, if those can be told apart. -/
theorem dataset_unique {stage other : Stage} {inputs others : List String} {text : List Char}
    (valid : stage.Valid) (count : inputs.length = stage.arity) (alsoValid : other.Valid)
    (alsoCount : others.length = other.arity)
    (apart : ∀ one ∈ inputs, ∀ other ∈ others, Apart marked one other)
    (ends : marked (stage.dataset inputs) <:+ text)
    (alsoEnds : marked (other.dataset others) <:+ text) :
    stage = other ∧ inputs = others := by
  rw [marked_dataset] at ends alsoEnds
  obtain ⟨front, split⟩ := ends
  obtain ⟨back, alsoSplit⟩ := alsoEnds
  have same := split.trans alsoSplit.symm
  rw [← List.append_assoc, ← List.append_assoc] at same
  obtain ⟨rfl, before⟩ := (valid.apart alsoValid).last same
  exact ⟨rfl, pieces_of_length apart (count.trans alsoCount.symm) before⟩

end Stage

namespace Arguments

/-- The text that an argument is given as, if it is a text. -/
def text? (arguments : Arguments) (name : String) : Option String :=
  match arguments.get? name with
  | some (.literal (.string text)) => some text
  | _ => none

theorem text?_eq_some {arguments : Arguments} {name text : String} :
    arguments.text? name = some text ↔ arguments.get? name = some (.literal (.string text)) := by
  rw [text?]
  split
  · rename_i held
    simp [held]
  · rename_i notText
    simp only [reduceCtorEq, false_iff]
    exact notText text

theorem text?_of_required {arguments : Arguments} {name text : String}
    (required : arguments.requireText name = .ok text) : arguments.text? name = some text :=
  text?_eq_some.mpr (requireText_ok.mp required)

/-- The stage of a call. -/
def stage (arguments : Arguments) : Stage := .of arguments.process.text arguments.text?

/-- The datasets that a call of a built-in process reads: the bands of an index, or the main
input. -/
def inputs (arguments : Arguments) : List String :=
  if arguments.process.text = Process.Ndvi.name then
    ["red", "nir"].flatMap fun band => (arguments.data? band).getD []
  else arguments.primaryData.toOption.getD []

end Arguments

namespace Process

variable {arguments : Arguments} {made : Draft}

/-- What a successful call of a built-in process makes. -/
inductive Makes (arguments : Arguments) : List String → Prop where
  | loads {text : String} {reference : Reference}
      (loader : arguments.process.text = GetData.name)
      (held : arguments.get? "data_id" = some (.literal (.string text)))
      (read : Reference.read text = .ok reference) : Makes arguments [reference.dataset]
  | passes {datasets : List String} (passing : arguments.process.text ∈ passing)
      (main : arguments.primaryData = .ok datasets) : Makes arguments datasets
  | makes (valid : arguments.stage.Valid)
      (count : arguments.inputs.length = arguments.stage.arity)
      (received : ∀ dataset ∈ arguments.inputs, dataset ∈ ModuleRun.received arguments.values) :
      Makes arguments [arguments.stage.dataset arguments.inputs]

/-- What a call with one main input makes. -/
theorem Makes.single {input : String} (main : arguments.primarySingle = .ok input)
    (notIndex : arguments.process.text ≠ Ndvi.name) (valid : arguments.stage.Valid) :
    Makes arguments [arguments.stage.dataset [input]] := by
  have inputs : arguments.inputs = [input] := by
    rw [Arguments.inputs, if_neg notIndex, Arguments.primarySingle_eq_ok.mp main]
    rfl
  obtain ⟨name, held⟩ := Arguments.primarySingle_ok main
  have received := Arguments.received_of_get? held List.mem_cons_self
  have count : arguments.inputs.length = arguments.stage.arity := by
    rw [inputs, Stage.arity, Arguments.stage, Stage.of, if_neg notIndex]
    rfl
  have makes := Makes.makes valid count (by simpa [inputs] using received)
  rwa [inputs] at makes

/-- What a call with one main input and a literal makes. -/
theorem Makes.keyed {input literal : String} (main : arguments.primarySingle = .ok input)
    (member : arguments.process.text ∈ keyed)
    (shaped : literal? arguments.process.text arguments.text? = some literal) :
    Makes arguments [Dataset.derived (Dataset.keyedStem input literal) arguments.process.text] := by
  have stage : arguments.stage = ⟨arguments.process.text, some (Dataset.literalKey literal)⟩ := by
    rw [Arguments.stage, Stage.of, shaped, Option.map_some]
  have notIndex : arguments.process.text ≠ Ndvi.name := by
    intro index
    rw [index] at member
    revert member
    decide
  have makes := Makes.single main notIndex (stage ▸ Stage.valid_of_keyed member literal)
  rw [stage] at makes
  exact makes

theorem GetData.draft_makes (named : arguments.process.text = name)
    (drafted : draft arguments = .ok made) : Makes arguments made.datasets := by
  obtain ⟨text, reference, held, read, rfl⟩ := draft_ok.mp drafted
  exact .loads named held read

theorem FilterBbox.draft_makes (named : arguments.process.text = name)
    (drafted : draft arguments = .ok made) : Makes arguments made.datasets := by
  simp only [draft, Outcome.bind_eq_ok, Outcome.pure_eq, Except.ok.injEq] at drafted
  obtain ⟨datasets, main, inputs, -, rfl⟩ := drafted
  exact .passes (by simp [named, passing]) main

theorem RasterExporter.draft_makes (named : arguments.process.text = name)
    (drafted : draft arguments = .ok made) : Makes arguments made.datasets := by
  simp only [draft, Outcome.bind_eq_ok, Outcome.pure_eq, Except.ok.injEq] at drafted
  obtain ⟨datasets, main, rfl⟩ := drafted
  exact .passes (by simp [named, passing]) main

theorem MinTime.draft_makes (named : arguments.process.text = name)
    (drafted : draft arguments = .ok made) : Makes arguments made.datasets := by
  simp only [draft, Outcome.bind_eq_ok, Outcome.pure_eq, Except.ok.injEq] at drafted
  obtain ⟨input, main, rfl⟩ := drafted
  have stage : arguments.stage = ⟨name, none⟩ := by
    rw [Arguments.stage, named]
    rfl
  have valid : arguments.stage.Valid := stage ▸ Stage.valid_of_unkeyed (by decide) (by decide)
  have makes := Makes.single main (by rw [named]; decide) valid
  rw [stage] at makes
  exact makes

theorem Ndvi.draft_makes (named : arguments.process.text = name)
    (drafted : draft arguments = .ok made) : Makes arguments made.datasets := by
  simp only [draft, Outcome.bind_eq_ok, Outcome.pure_eq, Except.ok.injEq] at drafted
  obtain ⟨red, redHeld, nir, nirHeld, rfl⟩ := drafted
  have redGiven := Arguments.requireSingle_ok.mp redHeld
  have nirGiven := Arguments.requireSingle_ok.mp nirHeld
  have stage : arguments.stage = ⟨name, none⟩ := by
    rw [Arguments.stage, named]
    rfl
  have inputs : arguments.inputs = [red, nir] := by
    rw [Arguments.inputs, if_pos named]
    simp [Arguments.data?_eq_some.mpr redGiven, Arguments.data?_eq_some.mpr nirGiven]
  have valid : arguments.stage.Valid := stage ▸ Stage.valid_of_unkeyed (by decide) (by decide)
  have makes := Makes.makes valid (by rw [inputs, stage]; rfl) (by
    rw [inputs]
    intro dataset member
    rcases List.mem_pair.mp member with rfl | rfl
    · exact Arguments.received_of_get? redGiven List.mem_cons_self
    · exact Arguments.received_of_get? nirGiven List.mem_cons_self)
  rw [stage, inputs] at makes
  exact makes

theorem ZonalStatistics.draft_makes (named : arguments.process.text = name)
    (drafted : draft arguments = .ok made) : Makes arguments made.datasets := by
  simp only [draft, Outcome.bind_eq_ok, Outcome.pure_eq, Except.ok.injEq] at drafted
  obtain ⟨input, main, url, required, rfl⟩ := drafted
  have shaped : literal? arguments.process.text arguments.text? = some url := by
    rw [named]
    exact Arguments.text?_of_required required
  exact named ▸ Makes.keyed main (by rw [named]; decide) shaped

theorem UdfReduceTime.draft_makes (named : arguments.process.text = name)
    (drafted : draft arguments = .ok made) : Makes arguments made.datasets := by
  simp only [draft, Outcome.bind_eq_ok, Outcome.pure_eq, Except.ok.injEq] at drafted
  obtain ⟨input, main, url, required, rfl⟩ := drafted
  have shaped : literal? arguments.process.text arguments.text? = some url := by
    rw [named]
    exact Arguments.text?_of_required required
  exact named ▸ Makes.keyed main (by rw [named]; decide) shaped

/-- An accepted bound is the trimmed text of its argument, and a stamp. -/
theorem FilterDaterange.bound_ok {argument found : String} :
    bound argument arguments = .ok found ↔
    ∃ text, arguments.text? argument = some text ∧
      Calendar.Stamp.isBound (Text.trim text).toList ∧ found = Text.trim text := by
  have trimmed : ∀ text, (Text.trim text).toList = Text.trimChars text.toList :=
    fun text => String.toList_ofList
  simp only [bound, Outcome.bind_eq_ok, Arguments.requireText_ok, Arguments.text?_eq_some, trimmed]
  constructor
  · rintro ⟨text, held, read⟩
    split at read
    · rename_i proper
      cases read
      exact ⟨text, held, proper, rfl⟩
    · cases read
  · rintro ⟨text, held, proper, rfl⟩
    exact ⟨text, held, if_pos proper⟩

theorem FilterDaterange.draft_makes (named : arguments.process.text = name)
    (drafted : draft arguments = .ok made) : Makes arguments made.datasets := by
  simp only [draft, Outcome.bind_eq_ok, Outcome.pure_eq, Except.ok.injEq] at drafted
  obtain ⟨input, main, start, startBound, stop, stopBound, rfl⟩ := drafted
  obtain ⟨first, firstText, -, rfl⟩ := bound_ok.mp startBound
  obtain ⟨last, lastText, -, rfl⟩ := bound_ok.mp stopBound
  have shaped : literal? arguments.process.text arguments.text? =
      some (range (Text.trim first) (Text.trim last)) := by
    rw [named, literal?, if_pos rfl, firstText, lastText]
    rfl
  exact named ▸ Makes.keyed main (by rw [named]; decide) shaped

/-- Every built-in process makes what its kind says. -/
theorem Drafts.makes {entry : Entry} {draft : Arguments → Except CompileError Draft}
    (drafts : Drafts entry draft) (named : arguments.process.text = entry.id.text)
    (drafted : draft arguments = .ok made) : Makes arguments made.datasets := by
  cases drafts with
  | getData => exact GetData.draft_makes named drafted
  | filterBbox => exact FilterBbox.draft_makes named drafted
  | filterDaterange => exact FilterDaterange.draft_makes named drafted
  | minTime => exact MinTime.draft_makes named drafted
  | ndvi => exact Ndvi.draft_makes named drafted
  | rasterExporter => exact RasterExporter.draft_makes named drafted
  | zonalStatistics => exact ZonalStatistics.draft_makes named drafted
  | udfReduceTime => exact UdfReduceTime.draft_makes named drafted

theorem makers_not_passing : ∀ process ∈ makers, process ∉ passing ∧ process ≠ GetData.name := by
  decide

theorem Makes.of_loader {datasets : List String} (makes : Makes arguments datasets)
    (loader : arguments.process.text = GetData.name) : ∃ text reference,
      arguments.get? "data_id" = some (.literal (.string text)) ∧
      Reference.read text = .ok reference ∧ datasets = [reference.dataset] := by
  have notPassing : GetData.name ∉ passing := by decide
  cases makes with
  | loads _ held read => exact ⟨_, _, held, read, rfl⟩
  | passes passing _ => exact absurd (loader ▸ passing) notPassing
  | makes valid _ _ => exact absurd loader (makers_not_passing _ valid.maker).2

theorem Makes.of_passing {datasets : List String} (makes : Makes arguments datasets)
    (passes : arguments.process.text ∈ passing) : arguments.primaryData = .ok datasets := by
  have notPassing : GetData.name ∉ passing := by decide
  cases makes with
  | loads loader _ _ => exact absurd (loader ▸ passes) notPassing
  | passes _ main => exact main
  | makes valid _ _ => exact absurd passes (makers_not_passing _ valid.maker).1

theorem Makes.of_maker {datasets : List String} (makes : Makes arguments datasets)
    (maker : arguments.process.text ∈ makers) : arguments.stage.Valid ∧
      arguments.inputs.length = arguments.stage.arity ∧
      datasets = [arguments.stage.dataset arguments.inputs] ∧
      ∀ dataset ∈ arguments.inputs, dataset ∈ ModuleRun.received arguments.values := by
  cases makes with
  | loads loader _ _ => exact absurd loader (makers_not_passing _ maker).2
  | passes passes _ => exact absurd passes (makers_not_passing _ maker).1
  | makes valid count received => exact ⟨valid, count, rfl, received⟩

end Process

/-- What a call through the built-in catalog makes. -/
theorem Catalog.builtin_makes (arguments : Arguments) {entry : Entry} {early late : Context}
    {product : Product} (found : builtin.find? arguments.process.text = some entry)
    (called : (entry.emitter arguments).execute early = (.ok product, late)) :
    Process.Makes arguments product.datasets := by
  obtain ⟨draft, drafts⟩ := Process.builtins_drafted (mem_builtin (mem_of_find? found))
  obtain ⟨made, isDraft, rfl, -⟩ := drafts.follows.made called
  exact drafts.makes (id_of_find? found).symm isDraft

end GeoChain
