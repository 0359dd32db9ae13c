import GeoChain.Proofs.Compile.Run
import GeoChain.Proofs.Text.ByteOrder
import Mathlib.Data.List.Basic

/-!
# Compiling a graph is a run of its walk

Compiling a node by recursion gives what the run of the walk through it gives: the error of the
first event that fails, with the context that it leaves, or the datasets of the root and the
commands of all calls in the order of the calls. Emitters are arbitrary here: they may change the
context in any way, fail, or break off.
-/

namespace GeoChain

/-- Compiling a part of a graph gives what the run of its events gives: the same failure, or a
value that the calls of the run settle. -/
def Agrees {α : Type} (compiled : Except CompileError α × Context) (run : Run)
    (ran : Except (CompileError × Context) Run) (Settled : α → List Call → Prop) : Prop :=
  match compiled with
  | (.error cause, after) => ran = .error (cause, after)
  | (.ok value, after) => ∃ calls, ran = .ok ⟨run.calls ++ calls, after⟩ ∧ Settled value calls

namespace Agrees

variable {α β : Type} {compiled : Except CompileError α × Context} {run : Run}
  {ran : Except (CompileError × Context) Run} {Settled : α → List Call → Prop}
  {whole : Except CompileError β × Context} {Goal : β → List Call → Prop}

/-- The first part of a whole, and what comes after it. -/
theorem andThen {rest : Run → Except (CompileError × Context) Run}
    (first : Agrees compiled run ran Settled)
    (failed : ∀ cause after, compiled = (.error cause, after) → whole = (.error cause, after))
    (second : ∀ value calls after, compiled = (.ok value, after) →
      ran = .ok ⟨run.calls ++ calls, after⟩ → Settled value calls →
      Agrees whole ⟨run.calls ++ calls, after⟩ (rest ⟨run.calls ++ calls, after⟩)
        fun result later => Goal result (calls ++ later)) :
    Agrees whole run (ran >>= rest) Goal := by
  rcases compiled with ⟨cause | value, after⟩
  · simp only [Agrees] at first
    rw [failed cause after rfl, first]
    rfl
  · obtain ⟨calls, done, settled⟩ := first
    have agree := second value calls after rfl done settled
    rw [done, Outcome.ok_bind]
    rcases whole with ⟨cause | result, final⟩
    · exact agree
    · obtain ⟨later, doneLater, goal⟩ := agree
      exact ⟨calls ++ later, by rw [doneLater, List.append_assoc], goal⟩

/-- The last part of a whole. -/
theorem finish (last : Agrees compiled run ran Settled)
    (failed : ∀ cause after, compiled = (.error cause, after) → whole = (.error cause, after))
    (goal : ∀ value calls after, compiled = (.ok value, after) →
      ran = .ok ⟨run.calls ++ calls, after⟩ → Settled value calls →
      ∃ result, whole = (.ok result, after) ∧ Goal result calls) :
    Agrees whole run ran Goal := by
  rcases compiled with ⟨cause | value, after⟩
  · rw [failed cause after rfl]
    exact last
  · obtain ⟨calls, done, settled⟩ := last
    obtain ⟨result, made, reached⟩ := goal value calls after rfl done settled
    rw [made]
    exact ⟨calls, done, reached⟩

end Agrees

namespace Compiler

variable {compiler : Compiler}

/-- Agreement on a node, wherever it stands and whatever ran before it elsewhere. -/
def AgreesOn (compiler : Compiler) (node : Node) : Prop :=
  ∀ depth position run, Untouched position run.calls →
    Agrees (compiler.node (depth + position.length) node run.context) run
      (compiler.through depth (node.events position) run)
      fun product calls =>
        datasetsAt calls position = product.datasets ∧ commandsOf calls = product.commands

theorem nodes_agree {nodes : List Node} (tidy : ∀ child ∈ nodes, child.Ordered)
    (ih : ∀ child ∈ nodes, compiler.AgreesOn child) (depth place : Nat) {position : Position}
    {name : String} (run : Run)
    (untouched : ∀ i, place ≤ i → Untouched (position ++ [(name, i)]) run.calls) :
    Agrees (compiler.nodes (depth + position.length + 1) nodes run.context) run
      (compiler.through depth (Node.nodesEvents position name place nodes) run)
      fun product calls =>
        (List.range' place nodes.length).flatMap
          (fun i => datasetsAt calls (position ++ [(name, i)])) = product.datasets ∧
        commandsOf calls = product.commands := by
  induction nodes generalizing place run with
  | nil => exact ⟨[], by simp [Node.nodesEvents], rfl, rfl⟩
  | cons first rest ihRest =>
    obtain ⟨tidyFirst, tidyRest⟩ := List.forall_mem_cons.mp tidy
    obtain ⟨ihFirst, ihLater⟩ := List.forall_mem_cons.mp ih
    have here := ihFirst depth (position ++ [(name, place)]) run (untouched place (Nat.le_refl _))
    have deeper : depth + (position ++ [(name, place)]).length = depth + position.length + 1 := by
      simp only [List.length_append, List.length_singleton]
      omega
    rw [deeper] at here
    rw [nodes, Node.nodesEvents, through_append]
    refine here.andThen (fun cause after compiled => by rw [compiled]) ?_
    rintro product calls after compiled ran ⟨datasets, commands⟩
    rw [compiled]
    dsimp only
    -- No node of the rest stands below the place of the first, so neither hides what the other made.
    have apart : ∀ i, place + 1 ≤ i → Untouched (position ++ [(name, i)]) calls := by
      intro i later call member inside
      have below := Node.leftPositions_below tidyFirst (left_of_mem_calls ran call member)
      have same : place = i := congrArg Prod.snd (Node.step_unique below inside)
      omega
    have there := ihRest tidyRest ihLater (place + 1) ⟨run.calls ++ calls, after⟩
      (fun i later => (untouched i (by omega)).append (apart i later))
    dsimp only at there
    refine there.finish (fun cause after compiled => by rw [compiled]) ?_
    rintro others later final compiled ranLater ⟨datasetsLater, commandsLater⟩
    rw [compiled]
    have apartLater : Untouched (position ++ [(name, place)]) later := by
      intro call member inside
      obtain ⟨i, above, below⟩ :=
        Node.nodesEvents_below tidyRest (left_of_mem_calls ranLater call member)
      have same : place = i := congrArg Prod.snd (Node.step_unique inside below)
      omega
    have datasetsRest : ∀ i ∈ List.range' (place + 1) rest.length,
        datasetsAt (calls ++ later) (position ++ [(name, i)]) =
          datasetsAt later (position ++ [(name, i)]) :=
      fun i member => datasetsAt_append_left (apart i (List.mem_range'_1.mp member).1).unmade
    refine ⟨_, rfl, ?_, ?_⟩
    · rw [List.length_cons, List.range'_succ, List.flatMap_cons, datasetsAt_append_right
        apartLater.unmade, datasets, List.flatMap_congr datasetsRest, datasetsLater]
    · rw [commandsOf_append, commands, commandsLater]

theorem argument_nested {argument : Argument} (nested : argument.isNested) (depth : Nat)
    (context : Context) : compiler.argument depth argument context =
      match compiler.nodes depth argument.nested context with
      | (.error cause, after) => (.error cause, after)
      | (.ok product, after) => (.ok (.data product.datasets, product.commands), after) := by
  cases argument with
  | literal value => cases nested
  | node inner =>
    simp only [argument, Argument.nested, nodes]
    rcases compiler.node depth inner context with ⟨cause | product, after⟩
    · rfl
    · simp
  | nodes inner => rfl

theorem valueAt_nested {argument : Argument} (nested : argument.isNested) (calls : List Call)
    (position : Position) (name : String) : valueAt calls position name argument =
      .data ((List.range argument.nested.length).flatMap fun place =>
        datasetsAt calls (position ++ [(name, place)])) := by
  cases argument with
  | literal value => cases nested
  | node inner => rfl
  | nodes inner => rfl

theorem argument_agrees {argument : Argument} (tidy : ∀ child ∈ argument.nested, child.Ordered)
    (ih : ∀ child ∈ argument.nested, compiler.AgreesOn child) (depth : Nat) {position : Position}
    {name : String} (run : Run) (untouched : ∀ i, Untouched (position ++ [(name, i)]) run.calls) :
    Agrees (compiler.argument (depth + position.length + 1) argument run.context) run
      (compiler.through depth (Node.argumentEvents position name argument) run)
      fun result calls =>
        valueAt calls position name argument = result.1 ∧ commandsOf calls = result.2 := by
  by_cases nested : argument.isNested
  · have agree := nodes_agree tidy ih depth 0 run (fun i _ => untouched i)
    rw [argument_nested nested, Node.argumentEvents_eq]
    refine agree.finish (fun cause after compiled => by rw [compiled]) ?_
    rintro product calls after compiled - ⟨datasets, commands⟩
    rw [compiled]
    refine ⟨_, rfl, ?_, commands⟩
    rw [valueAt_nested nested, List.range_eq_range', datasets]
  · cases argument with
    | literal value => exact ⟨[], by simp [Node.argumentEvents], rfl, rfl⟩
    | node inner => exact absurd rfl nested
    | nodes inner => exact absurd rfl nested

theorem arguments_agree {given : List (String × Argument)} (increasing : Keyed.Increasing given)
    (tidy : ∀ entry ∈ given, ∀ child ∈ entry.2.nested, child.Ordered)
    (ih : ∀ entry ∈ given, ∀ child ∈ entry.2.nested, compiler.AgreesOn child) (depth : Nat)
    {position : Position} (run : Run)
    (untouched : ∀ entry ∈ given, ∀ i, Untouched (position ++ [(entry.1, i)]) run.calls) :
    Agrees (compiler.arguments (depth + position.length + 1) given run.context) run
      (compiler.through depth (Node.argumentsEvents position given) run)
      fun result calls =>
        valuesAt calls position given = result.1 ∧ commandsOf calls = result.2 := by
  induction given generalizing run with
  | nil => exact ⟨[], by simp [Node.argumentsEvents], rfl, rfl⟩
  | cons first rest ihRest =>
    obtain ⟨name, argument⟩ := first
    obtain ⟨above, tail⟩ := Keyed.increasing_cons.mp increasing
    obtain ⟨tidyFirst, tidyRest⟩ := List.forall_mem_cons.mp tidy
    obtain ⟨ihFirst, ihLater⟩ := List.forall_mem_cons.mp ih
    obtain ⟨untouchedFirst, untouchedRest⟩ := List.forall_mem_cons.mp untouched
    have here := argument_agrees tidyFirst ihFirst depth run untouchedFirst
    rw [arguments, Node.argumentsEvents, through_append]
    refine here.andThen (fun cause after compiled => by rw [compiled]) ?_
    rintro ⟨value, commands⟩ calls after compiled ran ⟨valued, commanded⟩
    rw [compiled]
    dsimp only at valued commanded ⊢
    have apart : ∀ entry ∈ rest, ∀ i, Untouched (position ++ [(entry.1, i)]) calls := by
      intro entry member i call new inside
      have left := left_of_mem_calls ran call new
      rw [Node.argumentEvents_eq] at left
      obtain ⟨j, -, below⟩ := Node.nodesEvents_below tidyFirst left
      have same : name = entry.1 := congrArg Prod.fst (Node.step_unique below inside)
      exact String.ne_of_lt (above entry member) same
    have there := ihRest tail tidyRest ihLater ⟨run.calls ++ calls, after⟩
      (fun entry member i => (untouchedRest entry member i).append (apart entry member i))
    dsimp only at there
    refine there.finish (fun cause after compiled => by rw [compiled]) ?_
    rintro ⟨values, more⟩ later final compiled ranLater ⟨valuedLater, commandedLater⟩
    rw [compiled]
    have apartLater : ∀ i, Untouched (position ++ [(name, i)]) later := by
      intro i call member inside
      obtain ⟨entry, among, j, below⟩ :=
        Node.argumentsEvents_below tidyRest (left_of_mem_calls ranLater call member)
      have same : name = entry.1 := congrArg Prod.fst (Node.step_unique inside below)
      exact String.ne_of_lt (above entry among) same
    have valuedFirst : valueAt (calls ++ later) position name argument = value := by
      refine Eq.trans (valueAt_congr (fun i => ?_) argument) valued
      exact datasetsAt_append_right (apartLater i).unmade
    have valuedRest : valuesAt (calls ++ later) position rest = values := by
      refine Eq.trans (valuesAt_congr fun entry member i => ?_) valuedLater
      exact datasetsAt_append_left (apart entry member i).unmade
    refine ⟨_, rfl, ?_, ?_⟩
    · rw [valuesAt, List.map_cons, valuedFirst]
      exact congrArg _ valuedRest
    · rw [commandsOf_append, commanded, commandedLater]

theorem call_agrees {process : ProcessId} {entry : Entry}
    (found : compiler.catalog.find? process.text = some entry) (depth : Nat) (run : Run)
    (position : Position) (given : List (String × Argument)) (earlier : List Command) :
    Agrees (call process entry.emitter (valuesAt run.calls position given) earlier run.context) run
      (compiler.carryOut depth run (.leave position (.mk process given)))
      fun product calls => ∃ own, product.commands = earlier ++ own ∧
        calls = [⟨position, ⟨process, valuesAt run.calls position given⟩,
          ⟨product.datasets, own⟩⟩] := by
  simp only [call, carryOut, Node.process, Node.arguments, found]
  rcases (entry.emitter ⟨process, valuesAt run.calls position given⟩).execute run.context
    with ⟨(cause | message) | ⟨datasets, commands⟩, after⟩
  · rfl
  · rfl
  · cases datasets with
    | nil => rfl
    | cons dataset rest => exact ⟨_, rfl, commands, rfl, rfl⟩

/-- Every ordered node compiles as its walk runs. -/
theorem agreesOn (compiler : Compiler) {node : Node} (ordered : node.Ordered) :
    compiler.AgreesOn node := by
  induction node using Node.nested_induction with
  | step process given ih =>
    intro depth position run untouched
    obtain ⟨increasing, nested⟩ := ordered
    rw [Compiler.node, Node.events, through_cons, carryOut]
    by_cases deep : compiler.maxDepth < depth + position.length
    · rw [if_pos deep, if_pos deep]
      rfl
    · rw [if_neg deep, if_neg deep, Catalog.resolve]
      simp only [Node.process]
      cases found : compiler.catalog.find? process.text with
      | none => rfl
      | some entry =>
        have inner := arguments_agree increasing nested
          (fun entry member child inside =>
            ih entry member child inside (nested entry member child inside))
          depth run (fun entry _ i => untouched.nested (entry.1, i))
        dsimp only
        rw [Outcome.ok_bind, through_append]
        refine inner.andThen (fun cause after compiled => by rw [compiled]) ?_
        rintro ⟨values, earlier⟩ calls after compiled ran ⟨valued, commanded⟩
        rw [compiled, through_singleton]
        dsimp only at valued commanded ⊢
        have unmade : ∀ call ∈ calls, call.position ≠ position := by
          intro call member same
          obtain ⟨entry, -, i, below⟩ :=
            Node.argumentsEvents_below nested (left_of_mem_calls ran call member)
          have short := below.length_le
          rw [same, List.length_append, List.length_singleton] at short
          omega
        have valuedAll : valuesAt (run.calls ++ calls) position given = values := by
          refine Eq.trans (valuesAt_congr fun entry _ i => ?_) valued
          exact datasetsAt_append_left (untouched.nested (entry.1, i)).unmade
        have last := call_agrees found depth ⟨run.calls ++ calls, after⟩ position given earlier
        rw [valuedAll] at last
        dsimp only at last
        refine last.finish (fun cause after failed => failed) ?_
        rintro product _ final made - ⟨own, commands, rfl⟩
        refine ⟨product, made, ?_, ?_⟩
        · rw [datasetsAt_append_left unmade]
          simp [datasetsAt]
        · rw [commandsOf_append, commanded, commands]
          simp [commandsOf]

/-- What compiling gives when a run ends so. -/
def outcome : Except (CompileError × Context) Run → Except CompileError Product × Context
  | .error (cause, after) => (.error cause, after)
  | .ok run => (.ok ⟨datasetsAt run.calls [], commandsOf run.calls⟩, run.context)

theorem node_eq_outcome {graph : Node} (ordered : graph.Ordered) (depth : Nat)
    (context : Context) :
    compiler.node depth graph context = outcome (compiler.run depth graph context) := by
  have agree := compiler.agreesOn ordered depth [] ⟨[], context⟩ (by simp [Untouched])
  rw [List.length_nil, Nat.add_zero] at agree
  dsimp only at agree
  rcases compiled : compiler.node depth graph context with ⟨cause | product, after⟩
  · rw [compiled] at agree
    rw [run, agree]
    rfl
  · rw [compiled] at agree
    obtain ⟨calls, ran, datasets, commands⟩ := agree
    rw [run, ran]
    simp only [outcome, List.nil_append, datasets, commands]

theorem run_of_node {graph : Node} (ordered : graph.Ordered) {depth : Nat}
    {context after : Context} {product : Product}
    (compiles : compiler.node depth graph context = (.ok product, after)) :
    ∃ final, compiler.run depth graph context = .ok final ∧ final.context = after ∧
      product = ⟨datasetsAt final.calls [], commandsOf final.calls⟩ := by
  rw [node_eq_outcome ordered] at compiles
  cases ran : compiler.run depth graph context with
  | error failure =>
    rw [ran] at compiles
    cases compiles
  | ok final =>
    rw [ran] at compiles
    cases compiles
    exact ⟨final, rfl, rfl, rfl⟩

/-- A graph compiles if its run ends and the calls agree on one location. -/
theorem compile_ok {graph : Node} (ordered : graph.Ordered) {ids : IdSource} {plan : Plan} :
    compiler.compile ids graph = .ok plan ↔
      ∃ run, compiler.run 1 graph (.new ids) = .ok run ∧
        run.context.location = .ok plan.location ∧ plan.outputs = datasetsAt run.calls [] ∧
        plan.commands = commandsOf run.calls := by
  rw [compile, node_eq_outcome ordered]
  cases ran : compiler.run 1 graph (.new ids) with
  | error failure => simp [outcome]
  | ok final =>
    simp only [outcome]
    cases located : final.context.location with
    | error cause => simp [located]
    | ok location =>
      obtain ⟨place, outputs, commands⟩ := plan
      simp only [Except.ok.injEq, exists_eq_left', located, Plan.mk.injEq]
      constructor
      · rintro ⟨rfl, rfl, rfl⟩
        exact ⟨rfl, rfl, rfl⟩
      · rintro ⟨rfl, rfl, rfl⟩
        exact ⟨rfl, rfl, rfl⟩

/-- Compiling a graph, wherever it came from, is the run of its walk. Arguments stand in the order
of the bytes of their names. The first event that fails decides the result; if none fails, the
emitter of every node was called exactly once, the datasets are those of the root, and the commands
are those of all calls in their order. -/
theorem node_eq_run (compiler : Compiler) (depth : Nat) {graph : Node} (built : graph.Built)
    (context : Context) :
    (∀ position node, graph.at? position = some node →
      node.arguments.Pairwise fun one other => Text.bytes one.1 < Text.bytes other.1) ∧
    compiler.node depth graph context = outcome (compiler.run depth graph context) ∧
    (∀ failure, compiler.run depth graph context = .error failure ↔
      ∃ before event after middle, graph.events [] = before ++ event :: after ∧
        compiler.through depth before ⟨[], context⟩ = .ok middle ∧
        compiler.carryOut depth middle event = .error failure) ∧
    ∀ final, compiler.run depth graph context = .ok final →
      final.calls.length = graph.count ∧ (final.calls.map (·.position)).Nodup ∧
      ∀ position, position ∈ final.calls.map (·.position) ↔
        ∃ node, graph.at? position = some node := by
  have ordered := built.ordered
  refine ⟨?_, node_eq_outcome ordered depth context, fun failure => through_error, ?_⟩
  · intro position node found
    have increasing := (ordered.at found).increasing
    rw [Keyed.Increasing, Keyed.names, List.pairwise_map] at increasing
    exact increasing.imp Text.bytes_lt_iff.mpr
  intro final done
  have positions := positions_of_run done
  refine ⟨?_, ?_, ?_⟩
  · rw [← List.length_map (fun call : Call => call.position), positions,
      Node.length_leftPositions]
  · rw [positions]
    exact Node.leftPositions_nodup ordered []
  · intro position
    rw [positions, mem_leftPositions]
    simp [Node.leave_mem_events ordered]

def sampleLoad : ProcessId := ⟨"load", by decide⟩

def sampleMask : ProcessId := ⟨"mask", by decide⟩

/-- Two processes: one gives a dataset, the other breaks off. -/
def sampleCatalog : Catalog := ⟨[
  ⟨.new sampleLoad "", fun _ => pure ⟨["a"], []⟩⟩,
  ⟨.new sampleMask "", fun _ => throw (.broken (some "band index out of range"))⟩]⟩

def sampleGraph : Node :=
  (Node.new sampleMask).withArgument "data" (.nodes [.new sampleLoad, .new sampleLoad])

theorem sampleGraph_built : sampleGraph.Built := by
  refine .withNodes (.new _) _ _ ?_
  intro child member
  simp only [List.mem_cons, List.not_mem_nil, or_false, or_self] at member
  exact member ▸ .new _

theorem node_breaks_off : sampleGraph.Built ∧
    Compiler.node ⟨sampleCatalog, 64⟩ 1 sampleGraph (.new (.sequential 1)) =
      (.error (.failed "mask" (.stated "band index out of range") none),
        .new (.sequential 1)) := by
  refine ⟨sampleGraph_built, ?_⟩
  rw [(node_eq_run ⟨sampleCatalog, 64⟩ 1 sampleGraph_built (.new (.sequential 1))).2.1]
  rfl

end Compiler

end GeoChain
