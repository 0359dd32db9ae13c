import GeoChain.Proofs.Compile.Origin

/-!
# The depth limit

The height of a graph is the depth of its deepest node. A limit that is not below the height has no
influence on what a compilation gives. A lower one always ends it: at the first node of the walk
that is too deep, unless something before that node fails by itself.
-/

namespace GeoChain

namespace Node

mutual

/-- One for a node without nested nodes, else one more than the largest height of a nested node. -/
def height : Node → Nat
  | mk _ arguments => heightArguments arguments + 1

/-- The largest height of a node in the arguments, zero if there is none. -/
def heightArguments : List (String × Argument) → Nat
  | [] => 0
  | (_, argument) :: rest => max (heightArgument argument) (heightArguments rest)

def heightArgument : Argument → Nat
  | .literal _ => 0
  | .node nested => height nested
  | .nodes nested => heightList nested

def heightList : List Node → Nat
  | [] => 0
  | node :: rest => max (height node) (heightList rest)

end

variable {limit : Nat}

theorem heightList_le {nodes : List Node} :
    heightList nodes ≤ limit ↔ ∀ child ∈ nodes, child.height ≤ limit := by
  induction nodes with
  | nil => simp [heightList]
  | cons first rest ih => rw [heightList, Nat.max_le, ih, List.forall_mem_cons]

theorem heightArgument_eq (argument : Argument) :
    heightArgument argument = heightList argument.nested := by
  cases argument with
  | literal => rfl
  | node nested => simp [heightArgument, Argument.nested, heightList]
  | nodes nested => rfl

theorem height_le_succ {process : ProcessId} {given : List (String × Argument)} :
    (mk process given).height ≤ limit + 1 ↔
      ∀ entry ∈ given, ∀ child ∈ entry.2.nested, child.height ≤ limit := by
  rw [height, Nat.add_le_add_iff_right]
  induction given with
  | nil => simp [heightArguments]
  | cons first rest ih =>
    obtain ⟨name, argument⟩ := first
    rw [heightArguments, Nat.max_le, ih, heightArgument_eq, heightList_le, List.forall_mem_cons]

/-- The walk through a graph enters nodes as deep as the graph is high, and no deeper. -/
theorem entered_within (graph : Node) (start : Position) :
    (∀ position node, .enter position node ∈ graph.events start →
      position.length < start.length + limit) ↔ graph.height ≤ limit := by
  induction graph using nested_induction generalizing start limit with
  | step process given ih =>
    cases limit with
    | zero =>
      constructor
      · intro within
        have root := within start (.mk process given) List.mem_cons_self
        omega
      · intro low
        rw [height] at low
        omega
    | succ limit =>
      -- A nested node starts one step further from the root, with one level less to go.
      rw [height_le_succ]
      constructor
      · intro within entry member child inside
        obtain ⟨place, placed⟩ := List.getElem?_of_mem inside
        refine (ih entry member child inside (start ++ [(entry.1, place)])).mp ?_
        intro position node entered
        have nested : .enter position node ∈ argumentsEvents start given :=
          mem_argumentsEvents.mpr ⟨entry, member, place, child, placed, entered⟩
        have bound := within position node
          (List.mem_cons_of_mem _ (List.mem_append_left _ nested))
        rw [List.length_append, List.length_singleton]
        omega
      · intro low position node entered
        rcases List.mem_cons.mp entered with root | later
        · cases root
          omega
        · rcases List.mem_append.mp later with nested | last
          · obtain ⟨entry, member, place, child, placed, inner⟩ := mem_argumentsEvents.mp nested
            have inside := List.mem_of_getElem? placed
            have bound := (ih entry member child inside (start ++ [(entry.1, place)])).mpr
              (low entry member child inside) position node inner
            rw [List.length_append, List.length_singleton] at bound
            omega
          · cases List.mem_singleton.mp last

end Node

/-- Whether an event enters a node below so many others. -/
def Event.isBelow (limit : Nat) : Event → Bool
  | enter position _ => limit ≤ position.length
  | leave _ _ => false

/-- A graph that is higher than a limit has a first event that goes below it. -/
theorem Node.first_below {graph : Node} {limit : Nat} (high : limit < graph.height) :
    ∃ before position node after, graph.events [] = before ++ .enter position node :: after ∧
      limit ≤ position.length ∧ ∀ earlier ∈ before, earlier.isBelow limit = false := by
  have deep : ∃ event ∈ graph.events [], event.isBelow limit = true := by
    by_contra none
    refine absurd ((Node.entered_within graph []).mp ?_) (Nat.not_le.mpr high)
    intro position node entered
    have shallow : ¬ limit ≤ position.length := fun below =>
      none ⟨_, entered, by simpa [Event.isBelow] using below⟩
    rw [List.length_nil]
    omega
  obtain ⟨first, found⟩ := Option.isSome_iff_exists.mp (List.find?_isSome.mpr deep)
  obtain ⟨below, before, after, split, shallow⟩ := List.find?_eq_some_iff_append.mp found
  cases first with
  | enter position node =>
    exact ⟨before, position, node, after, split, by simpa [Event.isBelow] using below,
      fun earlier member => by simpa using shallow earlier member⟩
  | leave position node => cases below

namespace Compiler

variable {catalog : Catalog} {limit larger : Nat} {run : Run}

theorem carryOut_shallow {event : Event} (shallow : event.isBelow limit = false)
    (within : limit ≤ larger) :
    carryOut ⟨catalog, larger⟩ 1 run event = carryOut ⟨catalog, limit⟩ 1 run event := by
  cases event with
  | enter position node =>
    simp only [Event.isBelow, decide_eq_false_iff_not, Nat.not_le] at shallow
    have low : ¬ limit < 1 + position.length := by omega
    have lower : ¬ larger < 1 + position.length := by omega
    simp only [carryOut, low, lower, if_false]
  | leave position node => rfl

/-- Above the limit, a larger limit makes no difference to a run. -/
theorem through_shallow {events : List Event}
    (shallow : ∀ event ∈ events, event.isBelow limit = false) (within : limit ≤ larger) :
    through ⟨catalog, larger⟩ 1 events run = through ⟨catalog, limit⟩ 1 events run := by
  induction events generalizing run with
  | nil => rfl
  | cons event rest ih =>
    obtain ⟨here, later⟩ := List.forall_mem_cons.mp shallow
    rw [through_cons, through_cons, carryOut_shallow here within]
    cases carryOut ⟨catalog, limit⟩ 1 run event with
    | error failure => rfl
    | ok next => exact ih later

/-- A graph that is not higher than a limit runs the same under every larger one. -/
theorem run_low {graph : Node} (low : graph.height ≤ limit) (within : limit ≤ larger)
    (context : Context) :
    Compiler.run ⟨catalog, larger⟩ 1 graph context =
      Compiler.run ⟨catalog, limit⟩ 1 graph context := by
  refine through_shallow (fun event member => ?_) within
  cases event with
  | enter position node =>
    have bound := (Node.entered_within graph []).mpr low position node member
    simpa [Event.isBelow] using bound
  | leave position node => rfl

/-- A run stops at the first node that is too deep, if it comes so far. -/
theorem run_high (catalog : Catalog) {graph node : Node} {position : Position}
    {before after : List Event}
    (split : graph.events [] = before ++ .enter position node :: after)
    (deep : limit ≤ position.length) (shallow : ∀ event ∈ before, event.isBelow limit = false)
    (within : limit ≤ larger) (context : Context) :
    Compiler.run ⟨catalog, limit⟩ 1 graph context =
      (through ⟨catalog, larger⟩ 1 before ⟨[], context⟩ >>= fun run =>
        .error (.malformed (.tooDeep limit), run.context)) := by
  have tooDeep : limit < 1 + position.length := by omega
  rw [Compiler.run, split, through_append, through_shallow shallow within]
  cases through ⟨catalog, limit⟩ 1 before ⟨[], context⟩ with
  | error failure => rfl
  | ok run =>
    rw [Outcome.ok_bind, Outcome.ok_bind, through_cons, carryOut, if_pos tooDeep]
    rfl

theorem compile_of_failed {compiler : Compiler} {ids : IdSource} {graph : Node}
    (ordered : graph.Ordered) {cause : CompileError} {after : Context}
    (failed : compiler.run 1 graph (.new ids) = .error (cause, after)) :
    compiler.compile ids graph = .error cause := by
  rw [compile, node_eq_outcome ordered, failed]
  rfl

/-- A limit only filters. If the graph is not higher, every larger limit gives the same. If it is
higher, the compilation fails: for the depth, if nothing fails before the first node that is too
deep, and otherwise with the first failure there, which every larger limit has as well. -/
theorem compile_limit (catalog : Catalog) (ids : IdSource) {graph : Node} (built : graph.Built)
    (limit : Nat) :
    (graph.height ≤ limit → ∀ larger, limit ≤ larger →
      compile ⟨catalog, larger⟩ ids graph = compile ⟨catalog, limit⟩ ids graph) ∧
    (limit < graph.height → ∃ before position node after,
      graph.events [] = before ++ .enter position node :: after ∧
      limit < 1 + position.length ∧
      (∀ earlier inner, .enter earlier inner ∈ before → 1 + earlier.length ≤ limit) ∧
      ∀ larger, limit ≤ larger →
        ((∃ run, through ⟨catalog, larger⟩ 1 before ⟨[], .new ids⟩ = .ok run) ∧
          compile ⟨catalog, limit⟩ ids graph = .error (.malformed (.tooDeep limit))) ∨
        ∃ early event late run cause left, before = early ++ event :: late ∧
          through ⟨catalog, larger⟩ 1 early ⟨[], .new ids⟩ = .ok run ∧
          carryOut ⟨catalog, larger⟩ 1 run event = .error (cause, left) ∧
          compile ⟨catalog, limit⟩ ids graph = .error cause) := by
  have ordered := built.ordered
  constructor
  · intro low larger within
    rw [compile, compile, node_eq_outcome ordered, node_eq_outcome ordered, run_low low within]
  · intro high
    obtain ⟨before, position, node, after, split, deep, shallow⟩ := Node.first_below high
    refine ⟨before, position, node, after, split, by omega, ?_, ?_⟩
    · intro earlier inner member
      have above := shallow _ member
      simp only [Event.isBelow, decide_eq_false_iff_not, Nat.not_le] at above
      omega
    intro larger within
    have whole := run_high catalog split deep shallow within (.new ids)
    cases ran : through ⟨catalog, larger⟩ 1 before ⟨[], .new ids⟩ with
    | ok run =>
      rw [ran, Outcome.ok_bind] at whole
      exact Or.inl ⟨⟨run, rfl⟩, compile_of_failed ordered whole⟩
    | error failure =>
      obtain ⟨cause, left⟩ := failure
      rw [ran, Outcome.error_bind] at whole
      obtain ⟨early, event, late, run, parts, started, fails⟩ := through_error.mp ran
      exact Or.inr ⟨early, event, late, run, cause, left, parts, started, fails,
        compile_of_failed ordered whole⟩

theorem seriesMinimum_limited : seriesMinimum.Built ∧ seriesMinimum.height = 2 ∧
    compile ⟨Catalog.builtin, 2⟩ (.sequential 1) seriesMinimum = .ok seriesPlan ∧
    ∃ cause, compile ⟨Catalog.builtin, 1⟩ (.sequential 1) seriesMinimum = .error cause := by
  have height : seriesMinimum.height = 2 := rfl
  refine ⟨seriesMinimum_built, height, ?_, ?_⟩
  · have same := (compile_limit Catalog.builtin (.sequential 1) seriesMinimum_built 2).1
      (Nat.le_of_eq height) 64 (by decide)
    rw [← same]
    exact seriesMinimum_compiles
  · have high : 1 < seriesMinimum.height := by rw [height]; decide
    obtain ⟨before, position, node, after, -, -, -, settled⟩ :=
      (compile_limit Catalog.builtin (.sequential 1) seriesMinimum_built 1).2 high
    rcases settled 64 (by decide) with ⟨-, failed⟩ | ⟨_, _, _, _, cause, _, -, -, -, failed⟩
    · exact ⟨_, failed⟩
    · exact ⟨cause, failed⟩

end Compiler

end GeoChain
