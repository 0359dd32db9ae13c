import GeoChain.Proofs.Catalog.Resolved
import GeoChain.Proofs.Compile.Agreement
import GeoChain.Proofs.Compile.Origin

/-!
# The location of a plan

The locations that a compilation collects are those that its `get_data` nodes refer to, each once
and in order. So a graph whose nodes all compile has a plan exactly if they refer to one location.
With the built-in processes alone a run that made a call has a location, since every other process
needs data, and a node list without nodes makes no dataset to go on with.
-/

namespace GeoChain

/-- A node loads data from the location. -/
def Node.LoadsFrom (catalog : Catalog) (location : String) (node : Node) : Prop :=
  catalog.resolve node.process.text = .ok Process.GetData.emit ∧
    ∃ text reference, node.argument? "data_id" = some (.literal (.string text)) ∧
      Reference.read text = .ok reference ∧ reference.location = location

/-- Some node of a graph loads data from the location. -/
def Node.Refers (catalog : Catalog) (graph : Node) (location : String) : Prop :=
  ∃ position node, graph.at? position = some node ∧ node.LoadsFrom catalog location

namespace Context

theorem mem_insertLocation {location other : String} {locations : List String} :
    other ∈ insertLocation location locations ↔ other = location ∨ other ∈ locations := by
  induction locations with
  | nil => simp [insertLocation]
  | cons first rest ih =>
    rw [insertLocation]
    split
    · simp
    · split
      · rename_i same
        simp [same]
      · rw [List.mem_cons, ih, List.mem_cons]
        exact or_left_comm

theorem insertLocation_sorted (location : String) {locations : List String}
    (sorted : locations.Pairwise (· < ·)) :
    (insertLocation location locations).Pairwise (· < ·) := by
  induction locations with
  | nil => exact List.pairwise_singleton _ _
  | cons first rest ih =>
    obtain ⟨above, tail⟩ := List.pairwise_cons.mp sorted
    rw [insertLocation]
    split
    · rename_i less
      refine List.pairwise_cons.mpr ⟨?_, sorted⟩
      intro other member
      rcases List.mem_cons.mp member with rfl | later
      · exact less
      · exact String.lt_trans less (above other later)
    · rename_i notLess
      split
      · exact sorted
      · rename_i distinct
        refine List.pairwise_cons.mpr ⟨?_, ih tail⟩
        intro other member
        rcases mem_insertLocation.mp member with rfl | later
        · exact Keyed.lt_of_not_lt_of_ne notLess distinct
        · exact above other later

section Sorted

variable {locations : List String} {location : String}

theorem eq_singleton_iff (sorted : locations.Pairwise (· < ·)) :
    locations = [location] ↔ ∀ other, other ∈ locations ↔ other = location := by
  constructor
  · rintro rfl other
    exact List.mem_singleton
  · intro only
    cases locations with
    | nil => exact absurd ((only location).mpr rfl) List.not_mem_nil
    | cons first rest =>
      obtain ⟨above, -⟩ := List.pairwise_cons.mp sorted
      have same := (only first).mp List.mem_cons_self
      cases rest with
      | nil => rw [same]
      | cons second others =>
        have alike := (only second).mp (List.mem_cons_of_mem _ List.mem_cons_self)
        have less := above second List.mem_cons_self
        rw [same, alike] at less
        exact absurd less (String.lt_irrefl location)

theorem two_le_length_iff (sorted : locations.Pairwise (· < ·)) :
    2 ≤ locations.length ↔ ∃ one other, one ∈ locations ∧ other ∈ locations ∧ one ≠ other := by
  rcases locations with _ | ⟨first, _ | ⟨second, rest⟩⟩
  · simp
  · constructor
    · intro long
      simp at long
    · rintro ⟨one, other, here, there, distinct⟩
      exact absurd ((List.mem_singleton.mp here).trans (List.mem_singleton.mp there).symm) distinct
  · obtain ⟨above, -⟩ := List.pairwise_cons.mp sorted
    have less := above second List.mem_cons_self
    constructor
    · intro _
      exact ⟨first, second, List.mem_cons_self, List.mem_cons_of_mem _ List.mem_cons_self,
        String.ne_of_lt less⟩
    · intro _
      simp

end Sorted

section Outcomes

variable {context : Context}

theorem location_ok {location : String} :
    context.location = .ok location ↔ context.locations = [location] := by
  obtain ⟨_ | ⟨first, _ | ⟨second, rest⟩⟩, ids⟩ := context
  · simp [Context.location]
  · simp [Context.location]
  · simp [Context.location]

theorem location_noData : context.location = .error .noData ↔ context.locations = [] := by
  obtain ⟨_ | ⟨first, _ | ⟨second, rest⟩⟩, ids⟩ := context
  · simp [Context.location]
  · simp [Context.location]
  · simp [Context.location]

theorem location_several {locations : List String} :
    context.location = .error (.severalLocations locations) ↔
      context.locations = locations ∧ 2 ≤ context.locations.length := by
  obtain ⟨_ | ⟨first, _ | ⟨second, rest⟩⟩, ids⟩ := context
  · simp [Context.location]
  · simp [Context.location]
  · simp [Context.location]

end Outcomes

end Context

namespace Compiler

variable {modules : List Module} {maxDepth depth : Nat} {run next : Run} {position : Position}
  {node : Node}

/-- A call notes the location that its node loads from, and nothing if its node loads no data. -/
theorem leave_locations
    (left : carryOut ⟨Catalog.importing modules, maxDepth⟩ depth run (.leave position node) =
      .ok next) :
    (∃ location, (∀ other, node.LoadsFrom (Catalog.importing modules) other ↔ other = location) ∧
      next.context.locations = Context.insertLocation location run.context.locations) ∨
    ((∀ other, ¬ node.LoadsFrom (Catalog.importing modules) other) ∧
      next.context.locations = run.context.locations) := by
  obtain ⟨entry, product, after, found, called, -, rfl⟩ := carryOut_leave.mp left
  by_cases loads : entry.emitter = Process.GetData.emit
  · left
    rw [loads] at called
    obtain ⟨text, reference, held, read, -, rfl⟩ := Process.GetData.call_ok called
    have given := get?_valuesAt.mp held
    refine ⟨reference.location, fun other => ?_, rfl⟩
    constructor
    · rintro ⟨-, another, found, givenOther, readOther, rfl⟩
      cases given.symm.trans givenOther
      cases read.symm.trans readOther
      rfl
    · rintro rfl
      exact ⟨Catalog.resolve_ok.mpr ⟨entry, found, loads⟩, text, reference, given, read, rfl⟩
  · right
    obtain ⟨draft, follows, transforms⟩ := (Catalog.import_follows found).resolve_left loads
    obtain ⟨made, isDraft, -, rfl⟩ := follows.made called
    refine ⟨?_, Draft.after_locations (transforms _ _ _ isDraft).unlocated run.context⟩
    rintro other ⟨resolved, -⟩
    obtain ⟨another, same, emits⟩ := Catalog.resolve_ok.mp resolved
    cases found.symm.trans same
    exact loads emits

theorem leave_sorted (sorted : run.context.locations.Pairwise (· < ·))
    (left : carryOut ⟨Catalog.importing modules, maxDepth⟩ depth run (.leave position node) =
      .ok next) : next.context.locations.Pairwise (· < ·) := by
  rcases leave_locations left with ⟨location, -, noted⟩ | ⟨-, kept⟩
  · rw [noted]
    exact Context.insertLocation_sorted location sorted
  · rw [kept]
    exact sorted

theorem mem_leave_locations
    (left : carryOut ⟨Catalog.importing modules, maxDepth⟩ depth run (.leave position node) =
      .ok next) (other : String) :
    other ∈ next.context.locations ↔ node.LoadsFrom (Catalog.importing modules) other ∨
      other ∈ run.context.locations := by
  rcases leave_locations left with ⟨location, only, noted⟩ | ⟨none, kept⟩
  · rw [noted, Context.mem_insertLocation, only]
  · rw [kept, or_iff_right (none other)]

theorem through_locations {events : List Event} {final : Run}
    (done : through ⟨Catalog.importing modules, maxDepth⟩ depth events run =
      .ok final) (location : String) :
    location ∈ final.context.locations ↔
      (∃ position node, .leave position node ∈ events ∧
        node.LoadsFrom (Catalog.importing modules) location) ∨
        location ∈ run.context.locations := by
  induction events generalizing run with
  | nil =>
    cases done
    simp
  | cons event rest ih =>
    obtain ⟨next, here, later⟩ := through_cons_ok.mp done
    rw [ih later]
    cases event with
    | enter position node =>
      obtain ⟨-, -, rfl⟩ := carryOut_enter.mp here
      simp
    | leave position node =>
      rw [mem_leave_locations here, ← or_assoc]
      refine or_congr_left ?_
      constructor
      · rintro (⟨other, inner, member, loads⟩ | loads)
        · exact ⟨other, inner, List.mem_cons_of_mem _ member, loads⟩
        · exact ⟨position, node, List.mem_cons_self, loads⟩
      · rintro ⟨other, inner, member, loads⟩
        rcases List.mem_cons.mp member with here | later
        · cases here
          exact Or.inr loads
        · exact Or.inl ⟨other, inner, later, loads⟩

/-- After a run the locations are those that the graph refers to, in order. -/
theorem run_locations (modules : List Module) {graph : Node} (ordered : graph.Ordered)
    {ids : IdSource} {final : Run}
    (done : Compiler.run ⟨Catalog.importing modules, maxDepth⟩ depth graph
      (.new ids) = .ok final) :
    final.context.locations.Pairwise (· < ·) ∧ ∀ location, location ∈ final.context.locations ↔
      graph.Refers (Catalog.importing modules) location := by
  constructor
  · refine through_keeps (P := fun run => run.context.locations.Pairwise (· < ·)) ?_
      List.Pairwise.nil done
    intro position node run next sorted left
    exact leave_sorted sorted left
  · intro location
    rw [through_locations done]
    constructor
    · rintro (⟨position, node, member, loads⟩ | none)
      · obtain ⟨rest, -, found⟩ := (Node.leave_mem_events ordered).mp member
        exact ⟨rest, node, found, loads⟩
      · cases none
    · rintro ⟨position, node, found, loads⟩
      exact Or.inl ⟨position, node, (Node.leave_mem_events ordered).mpr ⟨_, rfl, found⟩, loads⟩

/-- With the built-in processes alone, data were loaded before anything else could be called. -/
theorem leave_located (located : run.calls ≠ [] → run.context.locations ≠ [])
    (left : carryOut ⟨Catalog.builtin, maxDepth⟩ depth run (.leave position node) = .ok next) :
    next.context.locations ≠ [] := by
  obtain ⟨entry, product, after, found, called, nonempty, rfl⟩ := carryOut_leave.mp left
  obtain ⟨draft, follows, -, loads | needs⟩ := Catalog.builtin_follows found
  · rw [loads] at called
    obtain ⟨text, reference, -, -, -, rfl⟩ := Process.GetData.call_ok called
    exact List.ne_nil_of_mem (Context.mem_insertLocation.mpr (Or.inl rfl))
  · obtain ⟨made, isDraft, rfl, rfl⟩ := follows.made called
    have needed := needs _ _ isDraft
    obtain ⟨dataset, received⟩ := List.exists_mem_of_ne_nil _ (needed.reads nonempty)
    obtain ⟨call, among, -⟩ := made_of_received received
    have kept := Draft.after_locations needed.unlocated run.context
    dsimp only
    rw [kept]
    exact located (List.ne_nil_of_mem among)

theorem through_located {events : List Event} {final : Run}
    (located : run.calls ≠ [] → run.context.locations ≠ [])
    (done : through ⟨Catalog.builtin, maxDepth⟩ depth events run = .ok final) :
    final.calls ≠ [] → final.context.locations ≠ [] := by
  refine through_keeps (P := fun run => run.calls ≠ [] → run.context.locations ≠ []) ?_ located
    done
  intro position node run next holds left _
  exact leave_located holds left

/-- No event fails for want of data, with the built-in processes alone. -/
theorem carryOut_declines {event : Event} {after : Context} :
    carryOut ⟨Catalog.builtin, maxDepth⟩ depth run event ≠ .error (.noData, after) := by
  intro failed
  cases event with
  | enter position node =>
    rw [carryOut] at failed
    split at failed
    · cases failed
    · split at failed
      · cases failed
      · cases failed
  | leave position node =>
    rw [carryOut] at failed
    split at failed
    · cases failed
    · rename_i entry found
      dsimp only at failed
      split at failed
      · rename_i cause left called
        cases failed
        obtain ⟨draft, follows, declines, -⟩ := Catalog.builtin_follows found
        obtain ⟨other, drafted, same⟩ := follows.failed called
        cases same
        exact declines _ drafted
      · cases failed
      · cases failed
      · cases failed

theorem node_declines {graph : Node} (ordered : graph.Ordered) {context after : Context} :
    Compiler.node ⟨Catalog.builtin, maxDepth⟩ depth graph context ≠ (.error .noData, after) := by
  intro failed
  rw [node_eq_outcome ordered] at failed
  cases ran : Compiler.run ⟨Catalog.builtin, maxDepth⟩ depth graph context with
  | error failure =>
    obtain ⟨cause, left⟩ := failure
    rw [ran] at failed
    cases failed
    obtain ⟨before, event, rest, middle, -, -, fails⟩ := through_error.mp ran
    exact carryOut_declines fails
  | ok final =>
    rw [ran] at failed
    cases failed

/-- A run of a graph with the built-in processes alone ends with a location. -/
theorem run_located {graph : Node} {ids : IdSource} {final : Run}
    (done : Compiler.run ⟨Catalog.builtin, maxDepth⟩ depth graph (.new ids) = .ok final) :
    final.context.locations ≠ [] := by
  have positions := positions_of_run done
  obtain ⟨process, given⟩ := graph
  rw [Node.leftPositions_mk] at positions
  have called : final.calls ≠ [] := by
    intro none
    rw [none] at positions
    simp at positions
  exact through_located (by simp) done called

theorem compile_ok_iff {compiler : Compiler} {ids : IdSource} {graph : Node} {product : Product}
    {context : Context} (compiles : compiler.node 1 graph (.new ids) = (.ok product, context))
    {location : String} :
    (∃ plan, compiler.compile ids graph = .ok plan ∧ plan.location = location) ↔
      context.location = .ok location := by
  rw [compile, compiles]
  dsimp only
  cases context.location with
  | error cause => simp
  | ok found => simp

theorem compile_error_iff {compiler : Compiler} {ids : IdSource} {graph : Node} {product : Product}
    {context : Context} (compiles : compiler.node 1 graph (.new ids) = (.ok product, context))
    {cause : CompileError} :
    compiler.compile ids graph = .error cause ↔ context.location = .error cause := by
  rw [compile, compiles]
  dsimp only
  cases context.location with
  | error other => simp
  | ok found => simp

/-- A graph whose nodes compile has a plan exactly if it refers to one location, and otherwise fails
with the locations that it refers to, in the order of their bytes. With the built-in processes alone
no graph fails for want of data. -/
theorem compile_location (modules : List Module) (maxDepth : Nat) (ids : IdSource) {graph : Node}
    (built : graph.Built) :
    (∀ product context,
      Compiler.node ⟨Catalog.importing modules, maxDepth⟩ 1 graph (.new ids) =
        (.ok product, context) →
      (∀ location,
        (∃ plan, compile ⟨Catalog.importing modules, maxDepth⟩ ids graph = .ok plan ∧
          plan.location = location) ↔
        ∀ other, graph.Refers (Catalog.importing modules) other ↔ other = location) ∧
      (compile ⟨Catalog.importing modules, maxDepth⟩ ids graph = .error .noData ↔
        ∀ other, ¬ graph.Refers (Catalog.importing modules) other) ∧
      ((∃ locations, compile ⟨Catalog.importing modules, maxDepth⟩ ids graph =
          .error (.severalLocations locations)) ↔
        ∃ one other, graph.Refers (Catalog.importing modules) one ∧
          graph.Refers (Catalog.importing modules) other ∧ one ≠ other) ∧
      ∀ locations, compile ⟨Catalog.importing modules, maxDepth⟩ ids graph =
          .error (.severalLocations locations) →
        (locations.Pairwise fun one other => Text.bytes one < Text.bytes other) ∧
        ∀ other, other ∈ locations ↔ graph.Refers (Catalog.importing modules) other) ∧
    compile ⟨Catalog.builtin, maxDepth⟩ ids graph ≠ .error .noData := by
  have ordered := built.ordered
  constructor
  · intro product context compiles
    obtain ⟨final, done, rfl, -⟩ := run_of_node ordered compiles
    obtain ⟨sorted, members⟩ := run_locations modules ordered done
    refine ⟨?_, ?_, ?_, ?_⟩
    · intro location
      rw [compile_ok_iff compiles, Context.location_ok, Context.eq_singleton_iff sorted]
      simp only [members]
    · rw [compile_error_iff compiles, Context.location_noData, List.eq_nil_iff_forall_not_mem]
      simp only [members]
    · simp only [compile_error_iff compiles, Context.location_several, exists_eq_left',
        Context.two_le_length_iff sorted, members]
    · intro locations failed
      rw [compile_error_iff compiles, Context.location_several] at failed
      obtain ⟨rfl, -⟩ := failed
      exact ⟨sorted.imp Text.bytes_lt_iff.mpr, members⟩
  · intro failed
    rcases compiled : Compiler.node ⟨Catalog.builtin, maxDepth⟩ 1 graph (.new ids) with
      ⟨cause | product, context⟩
    · rw [compile, compiled] at failed
      cases failed
      exact node_declines ordered compiled
    · obtain ⟨final, done, rfl, -⟩ := run_of_node ordered compiled
      rw [compile_error_iff compiled, Context.location_noData] at failed
      exact run_located done failed

theorem seriesMinimum_refers : seriesMinimum.Built ∧
    ∀ other, seriesMinimum.Refers (Catalog.importing []) other ↔ other = "nc_spm" := by
  refine ⟨seriesMinimum_built, ?_⟩
  have compiles : ∃ product context,
      Compiler.node ⟨Catalog.importing [], 64⟩ 1 seriesMinimum (.new (.sequential 1)) =
        (.ok product, context) := ⟨_, _, rfl⟩
  obtain ⟨product, context, compiles⟩ := compiles
  have settled := (compile_location [] 64 (.sequential 1) seriesMinimum_built).1 product context
    compiles
  exact (settled.1 "nc_spm").mp ⟨seriesPlan, seriesMinimum_compiles, rfl⟩

end Compiler

end GeoChain
