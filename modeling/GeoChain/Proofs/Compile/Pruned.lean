import GeoChain.Proofs.Compile.Congruence
import GeoChain.Proofs.Compile.Origin
import GeoChain.Proofs.Process.Described

/-!
# Deleting null arguments

A literal `null` counts as no argument, to every built-in process and to every module. So arguments
that are `null` can be deleted, any of them and wherever they stand in a graph: it compiles to the
same plan, or fails with the same error.
-/

namespace GeoChain

def Argument.isNull : Argument → Bool
  | .literal .null => true
  | .literal _ | .node _ | .nodes _ => false

theorem Argument.isNull_iff {argument : Argument} :
    argument.isNull ↔ argument = .literal .null := by
  constructor
  · intro null
    cases argument with
    | literal value =>
      cases value with
      | null => rfl
      | bool | int | float | string | array | object => cases null
    | node | nodes => cases null
  · rintro rfl
    rfl

namespace Node

mutual

/-- Deletes those of the given arguments that are `null`. An argument is given by the position of
its node and by its name. -/
def prune (deleted : Position → String → Bool) (position : Position) : Node → Node
  | mk process arguments => mk process (pruneArguments deleted position arguments)

def pruneArguments (deleted : Position → String → Bool) (position : Position) :
    List (String × Argument) → List (String × Argument)
  | [] => []
  | (name, argument) :: rest =>
    if argument.isNull && deleted position name then pruneArguments deleted position rest
    else (name, pruneArgument deleted position name argument) ::
      pruneArguments deleted position rest

def pruneArgument (deleted : Position → String → Bool) (position : Position) (name : String) :
    Argument → Argument
  | .literal value => .literal value
  | .node nested => .node (prune deleted (position ++ [(name, 0)]) nested)
  | .nodes nested => .nodes (pruneNodes deleted position name 0 nested)

def pruneNodes (deleted : Position → String → Bool) (position : Position) (name : String)
    (place : Nat) : List Node → List Node
  | [] => []
  | node :: rest =>
    prune deleted (position ++ [(name, place)]) node ::
      pruneNodes deleted position name (place + 1) rest

end

/-- Deleting leaves the names in their order. -/
theorem pruneArguments_increasing {given : List (String × Argument)}
    (increasing : Keyed.Increasing given) (deleted : Position → String → Bool)
    (position : Position) : Keyed.Increasing (pruneArguments deleted position given) := by
  have names : List.Sublist (Keyed.names (pruneArguments deleted position given))
      (Keyed.names given) := by
    clear increasing
    induction given with
    | nil => exact List.Sublist.refl _
    | cons first rest ih =>
      obtain ⟨name, argument⟩ := first
      rw [pruneArguments]
      split
      · exact ih.cons name
      · exact ih.cons_cons name
  exact List.Pairwise.sublist names increasing

end Node

namespace Arguments

/-- The arguments that are not `null`. -/
def present (values : List (String × Value)) : List (String × Value) :=
  values.filter fun entry => entry.2 ≠ .literal .null

variable {values : List (String × Value)}

theorem mem_present {entry : String × Value} :
    entry ∈ present values ↔ entry ∈ values ∧ entry.2 ≠ .literal .null := by
  simp [present]

theorem present_cons_null (name : String) (values : List (String × Value)) :
    present ((name, .literal .null) :: values) = present values := by
  simp [present]

theorem present_cons {value : Value} (notNull : value ≠ .literal .null) (name : String)
    (values : List (String × Value)) :
    present ((name, value) :: values) = (name, value) :: present values := by
  simp [present, notNull]

theorem present_cons_congr {others : List (String × Value)}
    (same : present values = present others) (entry : String × Value) :
    present (entry :: values) = present (entry :: others) := by
  simp only [present, List.filter_cons] at same ⊢
  rw [same]

/-- What gives nothing for a `null` gives the same for the arguments that are not `null`. -/
theorem flatMap_present {α : Type} {f : String × Value → List α}
    (nothing : ∀ name, f (name, .literal .null) = []) (values : List (String × Value)) :
    (present values).flatMap f = values.flatMap f := by
  induction values with
  | nil => rfl
  | cons first rest ih =>
    obtain ⟨name, value⟩ := first
    by_cases null : value = .literal .null
    · rw [null, present_cons_null, List.flatMap_cons, nothing, List.nil_append, ih]
    · rw [present_cons null, List.flatMap_cons, List.flatMap_cons, ih]

theorem present_increasing (increasing : Keyed.Increasing values) :
    Keyed.Increasing (present values) :=
  increasing.sublist (List.filter_sublist.map _)

/-- What is given under a name stands among the arguments that are not `null`. -/
theorem given?_eq_find?_present (increasing : Keyed.Increasing values) (name : String)
    (process : ProcessId) : given? name ⟨process, values⟩ = Keyed.find? name (present values) := by
  apply Option.ext
  intro value
  rw [given?_eq_some]
  constructor
  · rintro ⟨held, notNull⟩
    exact Keyed.find?_of_mem (present_increasing increasing)
      (mem_present.mpr ⟨Keyed.mem_of_find? held, notNull⟩)
  · intro found
    obtain ⟨member, notNull⟩ := mem_present.mp (Keyed.mem_of_find? found)
    exact ⟨Keyed.find?_of_mem increasing member, notNull⟩

end Arguments

namespace ModuleRun

theorem inputs_present (values : List (String × Value)) :
    inputs (Arguments.present values) = inputs values := by
  rw [inputs, inputs, List.filterMap_eq_flatMap_toList, List.filterMap_eq_flatMap_toList]
  exact Arguments.flatMap_present (fun _ => rfl) values

theorem received_present (values : List (String × Value)) :
    received (Arguments.present values) = received values :=
  Arguments.flatMap_present (fun _ => rfl) values

end ModuleRun

/-- An emitter that does the same on arguments that differ only in what is `null`. -/
def Emitter.IgnoresNull (emitter : Emitter) : Prop :=
  ∀ process one other, Keyed.Increasing one → Keyed.Increasing other →
    Arguments.present one = Arguments.present other →
      emitter ⟨process, one⟩ = emitter ⟨process, other⟩

theorem Process.builtins_ignore {entry : Entry} (member : entry ∈ builtins) :
    entry.emitter.IgnoresNull := by
  intro process one other increasing others same
  refine builtins_congr member ⟨rfl, fun name _ => ?_⟩
  rw [Arguments.given?_eq_find?_present increasing, Arguments.given?_eq_find?_present others, same]

theorem ModuleRun.emit_ignores (run : ModuleRun) : run.emit.IgnoresNull := by
  intro process one other _ _ same
  have sameInputs : inputs one = inputs other := by
    rw [← inputs_present one, same, inputs_present]
  have sameData : received one = received other := by
    rw [← received_present one, same, received_present]
  simp only [emit, sameInputs, sameData, Arguments.failed]

theorem Catalog.import_ignores {modules : List Module} {process : String} {entry : Entry}
    (found : (importing modules).find? process = some entry) : entry.emitter.IgnoresNull := by
  rcases mem_registerAll (mem_of_find? found) with imported | builtIn
  · obtain ⟨run, runs⟩ := mem_entriesOf imported
    exact runs ▸ run.emit_ignores
  · exact Process.builtins_ignore (mem_builtin builtIn)

namespace Compiler

variable {compiler : Compiler} {deleted : Position → String → Bool}

/-- A node compiles alike with and without the deleted arguments, wherever it stands. -/
def Prunes (compiler : Compiler) (deleted : Position → String → Bool) (node : Node) : Prop :=
  ∀ position depth context,
    compiler.node depth (node.prune deleted position) context = compiler.node depth node context

theorem pruneNodes_alike {nested : List Node}
    (same : ∀ child ∈ nested, compiler.Prunes deleted child) (position : Position) (name : String)
    (place : Nat) : List.Forall₂ (Alike compiler compiler)
      (Node.pruneNodes deleted position name place nested) nested := by
  induction nested generalizing place with
  | nil => exact .nil
  | cons child rest ih =>
    obtain ⟨here, later⟩ := List.forall_mem_cons.mp same
    exact .cons (here _) (ih later (place + 1))

theorem pruneArgument_alike {argument : Argument}
    (same : ∀ child ∈ argument.nested, compiler.Prunes deleted child) (position : Position)
    (name : String) : AlikeArguments compiler compiler
      (Node.pruneArgument deleted position name argument) argument := by
  cases argument with
  | literal value => exact ⟨rfl, .nil⟩
  | node inner => exact ⟨rfl, .cons (same inner List.mem_cons_self _) .nil⟩
  | nodes inner => exact ⟨rfl, pruneNodes_alike same position name 0⟩

/-- The arguments of two nodes compiled alike, but for arguments that are `null`. -/
inductive SameButNull : (one other :
    Except CompileError (List (String × Value) × List Command) × Context) → Prop where
  | failed (cause : CompileError) (after : Context) :
      SameButNull (.error cause, after) (.error cause, after)
  | made {values others : List (String × Value)}
      (same : Arguments.present values = Arguments.present others) (commands : List Command)
      (after : Context) :
      SameButNull (.ok (values, commands), after) (.ok (others, commands), after)

theorem arguments_prune {given : List (String × Argument)}
    (same : ∀ entry ∈ given, ∀ child ∈ entry.2.nested, compiler.Prunes deleted child)
    (position : Position) (depth : Nat) (context : Context) :
    SameButNull (compiler.arguments depth (Node.pruneArguments deleted position given) context)
      (compiler.arguments depth given context) := by
  induction given generalizing context with
  | nil => exact .made rfl [] context
  | cons first rest ih =>
    obtain ⟨name, argument⟩ := first
    obtain ⟨here, later⟩ := List.forall_mem_cons.mp same
    rw [Node.pruneArguments]
    by_cases drop : (argument.isNull && deleted position name) = true
    · obtain rfl := Argument.isNull_iff.mp (Bool.and_eq_true_iff.mp drop).1
      have tail := ih later context
      rw [if_pos drop, arguments, argument]
      dsimp only
      generalize compiler.arguments depth (Node.pruneArguments deleted position rest) context =
        pruned at tail ⊢
      generalize compiler.arguments depth rest context = full at tail ⊢
      cases tail with
      | failed cause after => exact .failed cause after
      | made values commands after =>
        exact .made (values.trans (Arguments.present_cons_null name _).symm) commands after
    · have alike := pruneArgument_alike here position name
      rw [if_neg drop, arguments, arguments, argument_alike alike]
      rcases compiler.argument depth argument context with ⟨cause | ⟨value, commands⟩, after⟩
      · exact .failed cause after
      · have tail := ih later after
        dsimp only
        generalize compiler.arguments depth (Node.pruneArguments deleted position rest) after =
          pruned at tail ⊢
        generalize compiler.arguments depth rest after = full at tail ⊢
        cases tail with
        | failed cause last => exact .failed cause last
        | made values more last =>
          exact .made (Arguments.present_cons_congr values (name, value)) (commands ++ more) last

/-- The values of arguments stand under the names of the arguments. -/
theorem arguments_increasing {given : List (String × Argument)}
    (increasing : Keyed.Increasing given) {depth : Nat} {context after : Context}
    {values : List (String × Value)} {commands : List Command}
    (compiled : compiler.arguments depth given context = (.ok (values, commands), after)) :
    Keyed.Increasing values := by
  have names : Keyed.names values = Keyed.names given := by
    clear increasing
    induction given generalizing context values commands with
    | nil =>
      cases compiled
      rfl
    | cons first rest ih =>
      rw [arguments] at compiled
      split at compiled
      · cases compiled
      · split at compiled
        · cases compiled
        · rename_i later
          cases compiled
          exact congrArg (first.1 :: ·) (ih later)
  rw [Keyed.Increasing, names]
  exact increasing

theorem call_ignores {emitter : Emitter} (ignores : emitter.IgnoresNull) (process : ProcessId)
    {values others : List (String × Value)} (increasing : Keyed.Increasing values)
    (increasingOthers : Keyed.Increasing others)
    (same : Arguments.present values = Arguments.present others) (earlier : List Command)
    (context : Context) :
    call process emitter values earlier context = call process emitter others earlier context := by
  rw [call, call, ignores process values others increasing increasingOthers same]

theorem node_prune (ignores : ∀ process entry, compiler.catalog.find? process = some entry →
      entry.emitter.IgnoresNull) {graph : Node} (ordered : graph.Ordered) :
    compiler.Prunes deleted graph := by
  induction graph using Node.nested_induction with
  | step process given ih =>
    obtain ⟨increasing, inner⟩ := ordered
    intro position depth context
    rw [Node.prune, node, node]
    by_cases deep : compiler.maxDepth < depth
    · rw [if_pos deep, if_pos deep]
    · rw [if_neg deep, if_neg deep]
      cases found : compiler.catalog.resolve process.text with
      | error cause => rfl
      | ok emitter =>
        obtain ⟨entry, registered, rfl⟩ := Catalog.resolve_ok.mp found
        have nested : ∀ entry ∈ given, ∀ child ∈ entry.2.nested, compiler.Prunes deleted child :=
          fun entry member child inside =>
            ih entry member child inside (inner entry member child inside)
        have same := arguments_prune nested position (depth + 1) context
        dsimp only
        generalize pruned : compiler.arguments (depth + 1)
          (Node.pruneArguments deleted position given) context = one at same ⊢
        generalize full : compiler.arguments (depth + 1) given context = other at same ⊢
        cases same with
        | failed cause after => rfl
        | made values commands after =>
          -- Emitters look values up by name, so the names have to increase on both sides.
          have left := arguments_increasing
            (Node.pruneArguments_increasing increasing deleted position) pruned
          have right := arguments_increasing increasing full
          exact call_ignores (ignores _ _ registered) process left right values commands after

/-- Arguments that are `null` can be deleted, anywhere in a graph and whichever: its compilation
gives the same plan, or the same error. -/
theorem compile_prune (modules : List Module) (maxDepth : Nat) (ids : IdSource) {graph : Node}
    (built : graph.Built) (deleted : Position → String → Bool) :
    compile ⟨Catalog.importing modules, maxDepth⟩ ids (graph.prune deleted []) =
      compile ⟨Catalog.importing modules, maxDepth⟩ ids graph := by
  have same := @node_prune ⟨Catalog.importing modules, maxDepth⟩ deleted
    (fun _ _ found => Catalog.import_ignores found) graph built.ordered
  rw [compile, compile, same]

/-- A call that gives `null` where nothing is wanted. -/
def paddedMinimum : Node :=
  (Node.new (.sanitize Process.MinTime.name)).withArgument "data" (.literal .null)
    |>.withArgument "imagery" (.node (seriesLoad.withArgument "bands" (.literal .null)))

theorem paddedMinimum_built : paddedMinimum.Built :=
  .withNode (.withLiteral (.new _) _ _) _ (.withLiteral seriesLoad_built _ _)

theorem paddedMinimum_compiles : paddedMinimum.Built ∧
    paddedMinimum.prune (fun _ _ => true) [] = seriesMinimum ∧
    compile ⟨Catalog.importing [], 64⟩ (.sequential 1) paddedMinimum = .ok seriesPlan := by
  have pruned : paddedMinimum.prune (fun _ _ => true) [] = seriesMinimum := by decide +kernel
  refine ⟨paddedMinimum_built, pruned, ?_⟩
  rw [← compile_prune [] 64 (.sequential 1) paddedMinimum_built fun _ _ => true, pruned]
  exact seriesMinimum_compiles

end Compiler

end GeoChain
