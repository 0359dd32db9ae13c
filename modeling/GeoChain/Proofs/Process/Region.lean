import GeoChain.Proofs.Compile.Absent
import GeoChain.Proofs.Number.Plain
import GeoChain.Proofs.Process.Draft
import Mathlib.Data.List.Forall2

/-!
# The region of a box

A call sets all four edges of the region or it fails. An edge or a resolution may be given as any
number or as a numeral, but what is written for it is always plain: what does not stand for a finite
number makes the call fail, so no exponent, infinity or other word gets into the command.
-/

namespace GeoChain

namespace Value

/-- The finite number that a literal stands for: it is a number, or a numeral between blanks. -/
def number? : Value → Option Double
  | .literal (.float x) => some x
  | .literal (.int n) => Double.ofNat? (n < 0) n.natAbs
  | .literal (.string text) =>
    match Numeral.read (Text.trimChars text.toList) with
    | .ok (.finite x) => some x
    | _ => none
  | _ => none

end Value

namespace Arguments

variable {arguments : Arguments} {name : String} {x : Double}

/-- The finite number that an argument stands for. -/
def number? (name : String) (arguments : Arguments) : Option Double :=
  (arguments.given? name).bind Value.number?

theorem numberOfText_ok {text : String} : arguments.numberOfText name text = .ok x ↔
    (Value.literal (.string text)).number? = some x := by
  rw [numberOfText, Value.number?]
  split
  · rename_i found
    simp [found]
  · rename_i found
    simp [found]
  · rename_i found
    simp [found]

theorem optionalNumber_some : arguments.optionalNumber name = .ok (some x) ↔
    arguments.number? name = some x := by
  rw [optionalNumber, number?, given?]
  cases held : arguments.get? name with
  | none => simp
  | some value =>
    cases value with
    | data datasets => simp [Value.number?]
    | literal value =>
      cases value with
      | float y => simp [Value.number?]
      | int n =>
        simp only [Option.bind_some, Value.number?]
        cases Double.ofNat? (n < 0) n.natAbs with
        | none => simp
        | some y => simp
      | string text => simp [Outcome.map_eq_ok, numberOfText_ok]
      | null => simp
      | bool | array | object => simp [Value.number?]

theorem requireNumber_ok : arguments.requireNumber name = .ok x ↔
    arguments.number? name = some x := by
  rw [← optionalNumber_some, requireNumber]
  cases arguments.optionalNumber name with
  | error cause => simp [require]
  | ok found =>
    cases found with
    | none => simp [require]
    | some y => simp [require]

end Arguments

namespace Process

namespace FilterBbox

variable {arguments : Arguments} {settings : List (String × String)} {found : List Input}

/-- The input sets a parameter of the region to the number that an argument stands for. -/
def Sets (arguments : Arguments) (setting : String × String) (input : Input) : Prop :=
  ∃ x, arguments.number? setting.1 = some x ∧ input = ⟨setting.2, x.plainText, none⟩

/-- The settings whose arguments are there. -/
def present (arguments : Arguments) (settings : List (String × String)) :
    List (String × String) :=
  settings.filter fun setting => (arguments.given? setting.1).isSome

theorem edgeInputs_ok : edgeInputs arguments settings = .ok found ↔
    List.Forall₂ (Sets arguments) settings found := by
  induction settings generalizing found with
  | nil => simp [edgeInputs, eq_comm]
  | cons setting rest ih =>
    simp only [edgeInputs, Outcome.bind_eq_ok, Arguments.requireNumber_ok, ih, Outcome.pure_eq,
      Except.ok.injEq, List.forall₂_cons_left_iff, Sets]
    constructor
    · rintro ⟨x, number, others, tail, rfl⟩
      exact ⟨_, others, ⟨x, number, rfl⟩, tail, rfl⟩
    · rintro ⟨_, others, ⟨x, number, rfl⟩, tail, rfl⟩
      exact ⟨x, number, others, tail, rfl⟩

theorem edgeInputs_append (others : List (String × String)) :
    edgeInputs arguments (settings ++ others) = (do
      let first ← edgeInputs arguments settings
      let second ← edgeInputs arguments others
      return first ++ second) := by
  induction settings with
  | nil =>
    rw [List.nil_append, edgeInputs, Outcome.ok_bind]
    cases edgeInputs arguments others with
    | error cause => rfl
    | ok second => rfl
  | cons setting rest ih =>
    rw [List.cons_append, edgeInputs, edgeInputs, ih]
    cases arguments.requireNumber setting.1 with
    | error cause => rfl
    | ok x =>
      cases edgeInputs arguments rest with
      | error cause => rfl
      | ok first =>
        cases edgeInputs arguments others with
        | error cause => rfl
        | ok second => rfl

/-- A resolution that is there is required like an edge. -/
theorem resolutionInputs_eq :
    resolutionInputs arguments settings = edgeInputs arguments (present arguments settings) := by
  induction settings with
  | nil => rfl
  | cons setting rest ih =>
    rw [resolutionInputs, ih]
    cases given : arguments.given? setting.1 with
    | none =>
      have left : present arguments (setting :: rest) = present arguments rest :=
        List.filter_cons_of_neg (by simp [given])
      rw [left, Arguments.optionalNumber_none.mpr given]
      cases edgeInputs arguments (present arguments rest) with
      | error cause => rfl
      | ok others => rfl
    | some value =>
      have kept : present arguments (setting :: rest) = setting :: present arguments rest :=
        List.filter_cons_of_pos (by simp [given])
      rw [kept, edgeInputs, Arguments.requireNumber]
      cases number : arguments.optionalNumber setting.1 with
      | error cause => rfl
      | ok x? =>
        cases x? with
        | none => simp [Arguments.optionalNumber_none.mp number] at given
        | some x => rfl

theorem inputs_eq :
    inputs arguments = edgeInputs arguments (edges ++ present arguments resolutions) := by
  rw [edgeInputs_append, inputs, resolutionInputs_eq]

theorem draft_ok {made : Draft} : draft arguments = .ok made ↔ ∃ datasets found,
    arguments.primaryData = .ok datasets ∧
    List.Forall₂ (Sets arguments) (edges ++ present arguments resolutions) found ∧
    made = ⟨name, none, datasets, [⟨"", "g.region", found, [], some "p"⟩]⟩ := by
  simp only [draft, Outcome.bind_eq_ok, inputs_eq, edgeInputs_ok, Outcome.pure_eq,
    Except.ok.injEq]
  constructor
  · rintro ⟨datasets, main, found, sets, rfl⟩
    exact ⟨datasets, found, main, sets, rfl⟩
  · rintro ⟨datasets, found, main, sets, rfl⟩
    exact ⟨datasets, main, found, sets, rfl⟩

theorem exists_sets : (∃ found, List.Forall₂ (Sets arguments) settings found) ↔
    ∀ setting ∈ settings, (arguments.number? setting.1).isSome := by
  induction settings with
  | nil => simp
  | cons setting rest ih =>
    rw [List.forall_mem_cons, ← ih]
    constructor
    · rintro ⟨_, sets⟩
      cases sets with
      | cons head tail =>
        obtain ⟨x, number, -⟩ := head
        exact ⟨Option.isSome_of_eq_some number, _, tail⟩
    · rintro ⟨isNumber, others, tail⟩
      obtain ⟨x, number⟩ := Option.isSome_iff_exists.mp isNumber
      exact ⟨_, .cons ⟨x, number, rfl⟩ tail⟩

theorem param_of_sets (sets : List.Forall₂ (Sets arguments) settings found) :
    found.map (·.param) = settings.map (·.2) := by
  induction sets with
  | nil => rfl
  | cons first _ ih =>
    obtain ⟨x, -, rfl⟩ := first
    rw [List.map_cons, List.map_cons, ih]

theorem mem_of_sets (sets : List.Forall₂ (Sets arguments) settings found) {input : Input}
    (member : input ∈ found) : ∃ setting ∈ settings, Sets arguments setting input := by
  induction sets with
  | nil => cases member
  | @cons setting first rest others head _ ih =>
    rcases List.mem_cons.mp member with rfl | later
    · exact ⟨setting, List.mem_cons_self, head⟩
    · obtain ⟨later, among, sets⟩ := ih later
      exact ⟨later, List.mem_cons_of_mem _ among, sets⟩

theorem param_present : (present arguments resolutions).map (·.2) =
    ["ewres", "nsres"].filter fun name => (arguments.given? name).isSome := by
  cases ewres : arguments.given? "ewres" <;> cases nsres : arguments.given? "nsres" <;>
    simp [present, resolutions, ewres, nsres]

/-- Whatever its arguments are, a call fails with an error, or it passes the datasets of the main
input on and sets the region with one command: all four edges, then the resolutions that are given,
each as the plain text of a finite number. It succeeds if the main input is data and all that is
given or required stands for a finite number. -/
theorem emit_region (arguments : Arguments) (context : Context) :
    ((∃ cause after, (emit arguments).execute context = (.error (.failed cause), after)) ∨
      ∃ datasets inputs after, (emit arguments).execute context =
          (.ok ⟨datasets, [⟨context.stepId name, "g.region", inputs, [], some "p"⟩]⟩, after) ∧
        arguments.primaryData = .ok datasets ∧
        inputs.map (·.param) = ["n", "s", "e", "w"] ++
          ["ewres", "nsres"].filter (fun name => (arguments.given? name).isSome) ∧
        ∀ input ∈ inputs, IsPlain input.value.toList ∧ input.imported = none ∧
          ∃ name x, (name, input.param) ∈ [("top", "n"), ("bottom", "s"), ("right", "e"),
            ("left", "w"), ("ewres", "ewres"), ("nsres", "nsres")] ∧
            arguments.number? name = some x ∧ input.value = x.plainText) ∧
    ((∃ product after, (emit arguments).execute context = (.ok product, after)) ↔
      (∃ datasets, arguments.primaryData = .ok datasets) ∧
      (∀ name ∈ ["top", "bottom", "right", "left"], (arguments.number? name).isSome) ∧
      ∀ name ∈ ["ewres", "nsres"], (arguments.given? name).isSome →
        (arguments.number? name).isSome) := by
  have required : (∀ setting ∈ edges ++ present arguments resolutions,
      (arguments.number? setting.1).isSome) ↔
      (∀ name ∈ ["top", "bottom", "right", "left"], (arguments.number? name).isSome) ∧
      ∀ name ∈ ["ewres", "nsres"], (arguments.given? name).isSome →
        (arguments.number? name).isSome := by
    rw [List.forall_mem_append]
    simp [edges, present, resolutions]
  constructor
  · rcases called : (emit arguments).execute context with ⟨halt | product, after⟩
    · obtain ⟨cause, -, rfl⟩ := emit_follows.failed called
      exact Or.inl ⟨cause, after, rfl⟩
    · obtain ⟨made, drafted, rfl, -⟩ := emit_follows.made called
      obtain ⟨datasets, found, main, sets, rfl⟩ := draft_ok.mp drafted
      refine Or.inr ⟨datasets, found, after, rfl, main, ?_, fun input member => ?_⟩
      · rw [param_of_sets sets, List.map_append, param_present]
        rfl
      · obtain ⟨setting, among, x, number, rfl⟩ := mem_of_sets sets member
        have declared : edges ++ present arguments resolutions ⊆ edges ++ resolutions :=
          List.append_subset.mpr ⟨List.subset_append_left _ _,
            fun _ kept => List.mem_append_right _ (List.mem_of_mem_filter kept)⟩
        exact ⟨x.isPlain_plainText, rfl, setting.1, x, declared among, number, rfl⟩
  · rw [← required, ← exists_sets]
    constructor
    · rintro ⟨product, after, called⟩
      obtain ⟨made, drafted, -⟩ := emit_follows.made called
      obtain ⟨datasets, found, main, sets, -⟩ := draft_ok.mp drafted
      exact ⟨⟨datasets, main⟩, found, sets⟩
    · rintro ⟨⟨datasets, main⟩, found, sets⟩
      exact ⟨_, _, emit_follows.does context (draft_ok.mpr ⟨datasets, found, main, sets, rfl⟩)⟩

example : ["1e999", "NaN", " +.5e3 "].map (fun top =>
    ((emit ⟨.sanitize name, [("bottom", .literal (.int (-2))), ("imagery", .data ["rain@climate"]),
      ("left", .literal (.string "-1.50")), ("right", .literal (.int 0)),
      ("top", .literal (.string top))]⟩).execute (.new (.sequential 1))).1.toOption.map
        fun product => product.commands.flatMap fun command => command.inputs.map (·.value)) =
      [none, none, some ["500", "-2", "0", "-1.5"]] := by
  decide +kernel

end FilterBbox

end Process

end GeoChain
