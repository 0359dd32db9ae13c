import GeoChain.Compile.Compiler
import GeoChain.Proofs.Compile.Arguments
import GeoChain.Proofs.Compile.Event

/-!
# Runs

A run carries the events of a walk out, one after the other, and records the calls that it made.
Entering a node checks the depth and looks the process up. Leaving it calls its emitter, with every
literal as it was given and with every nested argument replaced by the datasets that the nodes in it
made, and appends the call. The first event that fails ends the run.
-/

namespace GeoChain

/-- One call of an emitter: the node that it was made for, what it was given, and what it made. -/
structure Call where
  position : Position
  arguments : Arguments
  product : Product

/-- The calls made so far, in order, and the context that they left. -/
structure Run where
  calls : List Call
  context : Context

/-- The datasets that the node at a position made. -/
def datasetsAt (calls : List Call) (position : Position) : List String :=
  match calls.find? (fun call => call.position = position) with
  | some call => call.product.datasets
  | none => []

/-- The commands of all calls. -/
def commandsOf (calls : List Call) : List Command := calls.flatMap (·.product.commands)

/-- The value of an argument of the node at a position. -/
def valueAt (calls : List Call) (position : Position) (name : String) : Argument → Value
  | .literal value => .literal value
  | argument => .data ((List.range argument.nested.length).flatMap fun place =>
      datasetsAt calls (position ++ [(name, place)]))

def valuesAt (calls : List Call) (position : Position) (given : List (String × Argument)) :
    List (String × Value) :=
  given.map fun entry => (entry.1, valueAt calls position entry.1 entry.2)

/-- What the node at a position is called with. -/
def argumentsAt (calls : List Call) (position : Position) (node : Node) : Arguments :=
  ⟨node.process, valuesAt calls position node.arguments⟩

namespace Compiler

/-- Carries out one event. A failure comes with the context that it leaves. -/
def carryOut (compiler : Compiler) (depth : Nat) (run : Run) :
    Event → Except (CompileError × Context) Run
  | .enter position node =>
    if compiler.maxDepth < depth + position.length then
      .error (.malformed (.tooDeep compiler.maxDepth), run.context)
    else
      match compiler.catalog.find? node.process.text with
      | none => .error (.unknownProcess node.process.text, run.context)
      | some _ => .ok run
  | .leave position node =>
    match compiler.catalog.find? node.process.text with
    | none => .error (.unknownProcess node.process.text, run.context)
    | some entry =>
      let arguments : Arguments := ⟨node.process, valuesAt run.calls position node.arguments⟩
      match (entry.emitter arguments).execute run.context with
      | (.error (.failed cause), after) => .error (cause, after)
      | (.error (.broken message), after) =>
        let stated := Failure.stated (message.getD "process compiler panicked")
        .error (.failed node.process.text stated none, after)
      | (.ok ⟨[], _⟩, after) => .error (.failed node.process.text .nothingProduced none, after)
      | (.ok product, after) => .ok ⟨run.calls ++ [⟨position, arguments, product⟩], after⟩

/-- Carries out events until one fails. -/
def through (compiler : Compiler) (depth : Nat) :
    List Event → Run → Except (CompileError × Context) Run
  | [], run => .ok run
  | event :: rest, run =>
    match compiler.carryOut depth run event with
    | .error failure => .error failure
    | .ok run => compiler.through depth rest run

variable {compiler : Compiler} {depth : Nat}

theorem carryOut_enter {run next : Run} {position : Position} {node : Node} :
    compiler.carryOut depth run (.enter position node) = .ok next ↔
      depth + position.length ≤ compiler.maxDepth ∧
      (∃ entry, compiler.catalog.find? node.process.text = some entry) ∧ next = run := by
  rw [carryOut]
  by_cases deep : compiler.maxDepth < depth + position.length
  · have notShallow : ¬ depth + position.length ≤ compiler.maxDepth := by omega
    simp [deep, notShallow]
  · have shallow : depth + position.length ≤ compiler.maxDepth := by omega
    cases found : compiler.catalog.find? node.process.text with
    | none => simp [deep]
    | some entry => simp [deep, shallow, eq_comm]

/-- What a successful call was: its emitter, what it was given, and what it made. -/
theorem carryOut_leave {run next : Run} {position : Position} {node : Node} :
    compiler.carryOut depth run (.leave position node) = .ok next ↔
      ∃ entry product after, compiler.catalog.find? node.process.text = some entry ∧
        (entry.emitter ⟨node.process, valuesAt run.calls position node.arguments⟩).execute
          run.context = (.ok product, after) ∧ product.datasets ≠ [] ∧
        next = ⟨run.calls ++ [⟨position,
          ⟨node.process, valuesAt run.calls position node.arguments⟩, product⟩], after⟩ := by
  rw [carryOut]
  cases found : compiler.catalog.find? node.process.text with
  | none => simp
  | some entry =>
    dsimp only
    rcases called : (entry.emitter
      ⟨node.process, valuesAt run.calls position node.arguments⟩).execute run.context
      with ⟨outcome, after⟩
    rcases outcome with (cause | message) | ⟨datasets, commands⟩
    · simp [called]
    · simp [called]
    · cases datasets with
      | nil => simp [called]
      | cons dataset rest =>
        simp only [Except.ok.injEq]
        constructor
        · rintro rfl
          exact ⟨entry, _, after, rfl, called, by simp, rfl⟩
        · rintro ⟨other, product, left, same, calledOther, -, rfl⟩
          cases same
          cases called.symm.trans calledOther
          rfl

@[simp] theorem through_nil (run : Run) : compiler.through depth [] run = .ok run := rfl

theorem through_cons (event : Event) (rest : List Event) (run : Run) :
    compiler.through depth (event :: rest) run =
      (compiler.carryOut depth run event >>= compiler.through depth rest) := by
  rw [through]
  cases compiler.carryOut depth run event with
  | error failure => rfl
  | ok next => rfl

theorem through_singleton (event : Event) (run : Run) :
    compiler.through depth [event] run = compiler.carryOut depth run event := by
  rw [through_cons]
  cases compiler.carryOut depth run event with
  | error failure => rfl
  | ok next => rfl

theorem through_append (first rest : List Event) (run : Run) :
    compiler.through depth (first ++ rest) run =
      (compiler.through depth first run >>= compiler.through depth rest) := by
  induction first generalizing run with
  | nil => rfl
  | cons event first ih =>
    rw [List.cons_append, through_cons, through_cons]
    cases compiler.carryOut depth run event with
    | error failure => rfl
    | ok next => exact ih next

theorem through_cons_ok {event : Event} {rest : List Event} {run final : Run} :
    compiler.through depth (event :: rest) run = .ok final ↔
      ∃ next, compiler.carryOut depth run event = .ok next ∧
        compiler.through depth rest next = .ok final := by
  rw [through_cons, Outcome.bind_eq_ok]

theorem through_append_ok {first rest : List Event} {run final : Run} :
    compiler.through depth (first ++ rest) run = .ok final ↔
      ∃ next, compiler.through depth first run = .ok next ∧
        compiler.through depth rest next = .ok final := by
  rw [through_append, Outcome.bind_eq_ok]

/-- The first event that fails decides how a run fails. -/
theorem through_error {events : List Event} {run : Run} {failure : CompileError × Context} :
    compiler.through depth events run = .error failure ↔
      ∃ before event after middle, events = before ++ event :: after ∧
        compiler.through depth before run = .ok middle ∧
        compiler.carryOut depth middle event = .error failure := by
  constructor
  · intro failed
    induction events generalizing run with
    | nil => cases failed
    | cons event rest ih =>
      rw [through_cons] at failed
      cases here : compiler.carryOut depth run event with
      | error other =>
        rw [here, Outcome.error_bind] at failed
        cases failed
        exact ⟨[], event, rest, run, rfl, rfl, here⟩
      | ok next =>
        rw [here, Outcome.ok_bind] at failed
        obtain ⟨before, later, after, middle, rfl, ran, fails⟩ := ih failed
        exact ⟨event :: before, later, after, middle, rfl, through_cons_ok.mpr ⟨next, here, ran⟩,
          fails⟩
  · rintro ⟨before, event, after, middle, rfl, ran, fails⟩
    rw [through_append, ran, Outcome.ok_bind, through_cons, fails, Outcome.error_bind]

/-- What every call keeps, a run keeps. -/
theorem through_keeps {P : Run → Prop} {events : List Event} {run final : Run}
    (keeps : ∀ position node run next, P run →
      compiler.carryOut depth run (.leave position node) = .ok next → P next)
    (holds : P run) (done : compiler.through depth events run = .ok final) : P final := by
  induction events generalizing run with
  | nil =>
    cases done
    exact holds
  | cons event rest ih =>
    obtain ⟨next, here, later⟩ := through_cons_ok.mp done
    cases event with
    | enter position node =>
      obtain ⟨-, -, rfl⟩ := carryOut_enter.mp here
      exact ih holds later
    | leave position node => exact ih (keeps position node run next holds here) later

/-- A run calls one emitter for each position that it leaves. -/
theorem through_calls {events : List Event} {run final : Run}
    (done : compiler.through depth events run = .ok final) :
    ∃ calls, final.calls = run.calls ++ calls ∧
      calls.map (·.position) = leftPositions events := by
  induction events generalizing run with
  | nil =>
    cases done
    exact ⟨[], by simp, rfl⟩
  | cons event rest ih =>
    obtain ⟨next, here, later⟩ := through_cons_ok.mp done
    obtain ⟨calls, grown, positions⟩ := ih later
    cases event with
    | enter position node =>
      obtain ⟨-, -, rfl⟩ := carryOut_enter.mp here
      exact ⟨calls, grown, positions⟩
    | leave position node =>
      obtain ⟨entry, product, after, -, -, -, rfl⟩ := carryOut_leave.mp here
      refine ⟨_ :: calls, by rw [grown, List.append_assoc, List.singleton_append], ?_⟩
      rw [List.map_cons, positions]
      rfl

/-- The calls that a run adds are made at the positions that it leaves. -/
theorem left_of_mem_calls {events : List Event} {run : Run} {calls : List Call} {after : Context}
    (done : compiler.through depth events run = .ok ⟨run.calls ++ calls, after⟩) :
    ∀ call ∈ calls, call.position ∈ leftPositions events := by
  obtain ⟨added, grown, positions⟩ := through_calls done
  rw [List.append_cancel_left grown, ← positions]
  exact fun call member => List.mem_map_of_mem member

/-- The run of the walk through a whole graph. -/
def run (compiler : Compiler) (depth : Nat) (graph : Node) (context : Context) :
    Except (CompileError × Context) Run :=
  compiler.through depth (graph.events []) ⟨[], context⟩

theorem positions_of_run {graph : Node} {context : Context} {final : Run}
    (done : compiler.run depth graph context = .ok final) :
    final.calls.map (·.position) = leftPositions (graph.events []) := by
  obtain ⟨calls, grown, positions⟩ := through_calls done
  rw [grown, ← positions, List.nil_append]

/-- A run calls the emitter of every node, once the nodes nested in it were called. -/
theorem call_at {graph node : Node} (ordered : graph.Ordered) {context : Context} {final : Run}
    (done : compiler.run depth graph context = .ok final) {position : Position}
    (found : graph.at? position = some node) : ∃ before middle next after,
      graph.events [] = before ++ .leave position node :: after ∧
      compiler.through depth before ⟨[], context⟩ = .ok middle ∧
      compiler.carryOut depth middle (.leave position node) = .ok next ∧
      compiler.through depth after next = .ok final := by
  have member : .leave position node ∈ graph.events [] :=
    (Node.leave_mem_events ordered).mpr ⟨position, rfl, found⟩
  obtain ⟨before, after, split⟩ := List.append_of_mem member
  rw [run, split, through_append_ok] at done
  obtain ⟨middle, early, late⟩ := done
  obtain ⟨next, here, later⟩ := through_cons_ok.mp late
  exact ⟨before, middle, next, after, split, early, here, later⟩

end Compiler

/-- None of the calls was made for the node at a position or for a node nested in it. -/
def Untouched (position : Position) (calls : List Call) : Prop :=
  ∀ call ∈ calls, ¬ position <+: call.position

variable {first rest : List Call} {position : Position}

theorem Untouched.append (one : Untouched position first) (other : Untouched position rest) :
    Untouched position (first ++ rest) := by
  intro call member
  rcases List.mem_append.mp member with early | late
  · exact one call early
  · exact other call late

theorem Untouched.nested (untouched : Untouched position first) (step : String × Nat) :
    Untouched (position ++ [step]) first :=
  fun call member below => untouched call member ((List.prefix_append _ _).trans below)

theorem Untouched.unmade (untouched : Untouched position first) :
    ∀ call ∈ first, call.position ≠ position :=
  fun call member same => untouched call member (same ▸ List.prefix_rfl)

theorem find?_of_unmade (unmade : ∀ call ∈ first, call.position ≠ position) :
    first.find? (fun call => call.position = position) = none := by
  simpa using unmade

theorem datasetsAt_append_left (unmade : ∀ call ∈ first, call.position ≠ position) :
    datasetsAt (first ++ rest) position = datasetsAt rest position := by
  simp [datasetsAt, List.find?_append, find?_of_unmade unmade]

theorem datasetsAt_append_right (unmade : ∀ call ∈ rest, call.position ≠ position) :
    datasetsAt (first ++ rest) position = datasetsAt first position := by
  simp [datasetsAt, List.find?_append, find?_of_unmade unmade]

/-- The value of an argument depends only on the calls for the nodes in it. -/
theorem valueAt_congr {first second : List Call} {position other : Position} {name : String}
    (same : ∀ i, datasetsAt first (position ++ [(name, i)]) =
      datasetsAt second (other ++ [(name, i)])) (argument : Argument) :
    valueAt first position name argument = valueAt second other name argument := by
  cases argument with
  | literal value => rfl
  | node inner => simp only [valueAt, same]
  | nodes inner => simp only [valueAt, same]

theorem valuesAt_congr {first second : List Call} {position other : Position}
    {given : List (String × Argument)}
    (same : ∀ entry ∈ given, ∀ i, datasetsAt first (position ++ [(entry.1, i)]) =
      datasetsAt second (other ++ [(entry.1, i)])) :
    valuesAt first position given = valuesAt second other given := by
  apply List.map_congr_left
  intro entry member
  rw [valueAt_congr (same entry member)]

/-- A node is called with the literals that it was given. -/
theorem get?_valuesAt {process : ProcessId} {given : List (String × Argument)} {name : String}
    {value : Json} :
    Arguments.get? name ⟨process, valuesAt first position given⟩ = some (.literal value) ↔
      Keyed.find? name given = some (.literal value) := by
  rw [Arguments.get?, valuesAt, Keyed.find?_map, Option.map_eq_some_iff]
  constructor
  · rintro ⟨argument, found, valued⟩
    cases argument with
    | literal other =>
      cases valued
      exact found
    | node nested => cases valued
    | nodes nested => cases valued
  · intro found
    exact ⟨_, found, rfl⟩

theorem increasing_valuesAt {given : List (String × Argument)}
    (increasing : Keyed.Increasing given) : Keyed.Increasing (valuesAt first position given) := by
  simpa [Keyed.Increasing, Keyed.names, valuesAt, Function.comp_def] using increasing

/-- What the node of a call made, where no two calls are made at one position. -/
theorem datasetsAt_of_mem {calls : List Call} (nodup : (calls.map (·.position)).Nodup) {call : Call}
    (member : call ∈ calls) : datasetsAt calls call.position = call.product.datasets := by
  obtain ⟨before, after, rfl⟩ := List.append_of_mem member
  rw [List.map_append, List.map_cons] at nodup
  have unmade : ∀ earlier ∈ before, earlier.position ≠ call.position := by
    intro earlier among same
    have last : call.position ∈ call.position :: after.map (·.position) := List.mem_cons_self
    exact (List.nodup_append.mp nodup).2.2 _ (List.mem_map_of_mem among) _ last same
  rw [datasetsAt_append_left unmade]
  simp [datasetsAt]

theorem mem_datasetsAt {dataset : String} (member : dataset ∈ datasetsAt first position) :
    ∃ call ∈ first, dataset ∈ call.product.datasets := by
  rw [datasetsAt] at member
  split at member
  · rename_i call found
    exact ⟨call, List.mem_of_find?_eq_some found, member⟩
  · cases member

/-- A node receives what the nodes in its arguments made. -/
theorem received_valuesAt (calls : List Call) (position : Position)
    (given : List (String × Argument)) : ModuleRun.received (valuesAt calls position given) =
      given.flatMap fun entry => (List.range entry.2.nested.length).flatMap fun place =>
        datasetsAt calls (position ++ [(entry.1, place)]) := by
  rw [ModuleRun.received, valuesAt, List.flatMap_map]
  refine List.flatMap_congr fun entry _ => ?_
  obtain ⟨name, argument⟩ := entry
  cases argument with
  | literal value => rfl
  | node nested => rfl
  | nodes nested => rfl

theorem nested_of_received {dataset : String} {given : List (String × Argument)}
    (member : dataset ∈ ModuleRun.received (valuesAt first position given)) :
    ∃ entry ∈ given, ∃ place < entry.2.nested.length,
      dataset ∈ datasetsAt first (position ++ [(entry.1, place)]) := by
  rw [received_valuesAt] at member
  obtain ⟨entry, held, inside⟩ := List.mem_flatMap.mp member
  obtain ⟨place, within, here⟩ := List.mem_flatMap.mp inside
  exact ⟨entry, held, place, List.mem_range.mp within, here⟩

/-- What a node receives was made by a call before. -/
theorem made_of_received {dataset : String} {given : List (String × Argument)}
    (member : dataset ∈ ModuleRun.received (valuesAt first position given)) :
    ∃ call ∈ first, dataset ∈ call.product.datasets := by
  obtain ⟨entry, -, place, -, here⟩ := nested_of_received member
  exact mem_datasetsAt here

theorem commandsOf_append (first rest : List Call) :
    commandsOf (first ++ rest) = commandsOf first ++ commandsOf rest :=
  List.flatMap_append

end GeoChain
