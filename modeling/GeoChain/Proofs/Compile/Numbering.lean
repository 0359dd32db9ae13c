import GeoChain.Proofs.Compile.Origin

/-!
# Sequential step ids

A sequential source never gives an id twice, whatever the ids start with: the number after the last
underscore tells them apart. Every command of a run takes the next id, and it starts with the
process of the node that the command was made for. So the commands of a plan are numbered from one
without a gap.
-/

namespace GeoChain

namespace IdSource

/-- The ids that steps get, one after the other, which start with the given leads. -/
def stepIds : List String → IdSource → List String
  | [], _ => []
  | lead :: rest, ids => ids.stepId lead :: stepIds rest ids.advance

theorem length_stepIds (leads : List String) (ids : IdSource) :
    (stepIds leads ids).length = leads.length := by
  induction leads generalizing ids with
  | nil => rfl
  | cons lead rest ih => rw [stepIds, List.length_cons, List.length_cons, ih]

theorem stepIds_append (first rest : List String) (ids : IdSource) :
    stepIds (first ++ rest) ids =
      stepIds first ids ++ stepIds rest (ids.advanceBy first.length) := by
  induction first generalizing ids with
  | nil => rfl
  | cons lead first ih =>
    rw [List.cons_append, stepIds, ih, stepIds, List.cons_append, List.length_cons, advanceBy]

theorem stepId_sequential (lead : String) (n : Nat) :
    (IdSource.sequential n).stepId lead = lead ++ "_" ++ toString n := rfl

theorem getElem?_stepIds (leads : List String) (n k : Nat) :
    (stepIds leads (.sequential n))[k]? =
      leads[k]?.map fun lead => lead ++ "_" ++ toString (n + k) := by
  induction leads generalizing n k with
  | nil => rfl
  | cons lead rest ih =>
    cases k with
    | zero => rfl
    | succ k =>
      have shift : n + 1 + k = n + (k + 1) := by omega
      rw [stepIds, advance, List.getElem?_cons_succ, List.getElem?_cons_succ, ih, shift]

/-- What follows the last underscore of a text is settled by the text. -/
theorem afterUnderscore_unique {first second ending other : List Char} (plain : '_' ∉ ending)
    (alsoPlain : '_' ∉ other) (same : first ++ '_' :: ending = second ++ '_' :: other) :
    ending = other := by
  rcases List.append_eq_append_iff.mp same with ⟨between, -, split⟩ | ⟨between, -, split⟩
  · cases between with
    | nil => exact (List.cons.inj split).2
    | cons c rest =>
      have inside : '_' ∈ ending := by
        rw [(List.cons.inj split).2]
        exact List.mem_append_right _ List.mem_cons_self
      exact absurd inside plain
  · cases between with
    | nil => exact (List.cons.inj split).2.symm
    | cons c rest =>
      have inside : '_' ∈ other := by
        rw [(List.cons.inj split).2]
        exact List.mem_append_right _ List.mem_cons_self
      exact absurd inside alsoPlain

/-- Two ids with the same text have the same number. The leads may differ: they may themselves end
in a number. -/
theorem number_unique {lead other : String} {m n : Nat}
    (same : lead ++ "_" ++ toString m = other ++ "_" ++ toString n) : m = n := by
  have chars := congrArg String.toList same
  simp only [String.toList_append, Nat.toString_eq_repr, Nat.toList_repr,
    List.append_assoc] at chars
  have digits : Nat.toDigits 10 m = Nat.toDigits 10 n :=
    afterUnderscore_unique Nat.underscore_not_in_toDigits Nat.underscore_not_in_toDigits chars
  calc
    m = Nat.ofDigitChars 10 (Nat.toDigits 10 m) 0 := Nat.ofDigitChars_ten_toDigits.symm
    _ = Nat.ofDigitChars 10 (Nat.toDigits 10 n) 0 := by rw [digits]
    _ = n := Nat.ofDigitChars_ten_toDigits

theorem mem_stepIds {leads : List String} {n : Nat} {id : String}
    (member : id ∈ stepIds leads (.sequential n)) :
    ∃ lead k, n ≤ k ∧ id = lead ++ "_" ++ toString k := by
  obtain ⟨k, placed⟩ := List.mem_iff_getElem?.mp member
  rw [getElem?_stepIds] at placed
  obtain ⟨lead, -, rfl⟩ := Option.map_eq_some_iff.mp placed
  exact ⟨lead, n + k, by omega, rfl⟩

/-- A sequential source gives no id twice. -/
theorem stepIds_nodup (leads : List String) (n : Nat) :
    (stepIds leads (.sequential n)).Nodup := by
  induction leads generalizing n with
  | nil => exact List.nodup_nil
  | cons lead rest ih =>
    rw [stepIds, advance]
    refine List.nodup_cons.mpr ⟨?_, ih (n + 1)⟩
    intro again
    obtain ⟨other, k, later, same⟩ := mem_stepIds again
    have equal : n = k := number_unique ((stepId_sequential lead n).symm.trans same)
    omega

theorem stepIds_number (lead : String) (commands : List Command) (ids : IdSource) :
    (number lead commands ids).map (·.id) =
      stepIds (List.replicate commands.length lead) ids := by
  induction commands generalizing ids with
  | nil => rfl
  | cons command rest ih =>
    rw [number, List.map_cons, ih, List.length_cons, List.replicate_succ, stepIds]

end IdSource

/-- Drawing ids leaves the locations alone and moves the source on. -/
theorem Emission.execute_draws (leads : List String) (context : Context) :
    (leads.mapM nextStepId).execute context = (.ok (context.ids.stepIds leads),
      ⟨context.locations, context.ids.advanceBy leads.length⟩) := by
  induction leads generalizing context with
  | nil => rfl
  | cons lead rest ih =>
    rw [List.mapM_cons, execute_draw, execute_bind, ih]
    rfl

namespace Draft

/-- The steps of a call, if it is made, start with the lead. -/
def Leads (lead : String) (drafted : Except CompileError Draft) : Prop :=
  ∀ made, drafted = .ok made → made.lead = lead

theorem Leads.made {lead : String} {made : Draft} (leads : made.lead = lead) :
    Leads lead (.ok made) := by
  rintro other ⟨⟩
  exact leads

theorem Leads.bind {α : Type} {lead : String} {found : Except CompileError α}
    {next : α → Except CompileError Draft} (each : ∀ value, Leads lead (next value)) :
    Leads lead (found >>= next) := by
  intro made drafted
  obtain ⟨value, -, later⟩ := Outcome.bind_eq_ok.mp drafted
  exact each value made later

end Draft

/-- The steps of a built-in process start with its own name. -/
theorem Process.Drafts.leads {entry : Entry} {draft : Arguments → Except CompileError Draft}
    (drafts : Drafts entry draft) : ∀ arguments, Draft.Leads entry.id.text (draft arguments) := by
  cases drafts with
  | getData => exact fun _ => .bind fun _ => .bind fun _ => .made rfl
  | filterBbox => exact fun _ => .bind fun _ => .bind fun _ => .made rfl
  | filterDaterange => exact fun _ => .bind fun _ => .bind fun _ => .bind fun _ => .made rfl
  | minTime => exact fun _ => .bind fun _ => .made rfl
  | ndvi => exact fun _ => .bind fun _ => .bind fun _ => .made rfl
  | rasterExporter => exact fun _ => .bind fun _ => .made rfl
  | zonalStatistics => exact fun _ => .bind fun _ => .bind fun _ => .made rfl
  | udfReduceTime => exact fun _ => .bind fun _ => .bind fun _ => .made rfl

theorem ModuleRun.draft_leads (run : ModuleRun) (arguments : Arguments) (stepId : String) :
    Draft.Leads arguments.process.text (run.draft arguments stepId) := by
  intro made drafted
  rw [settled_of_draft drafted, settled]

/-- Whatever modules are imported, the steps of a process start with the name that it is called
by. -/
theorem Catalog.import_leads {modules : List Module} {process : ProcessId} {entry : Entry}
    (found : (importing modules).find? process.text = some entry) :
    ∃ draft, entry.emitter.Follows draft ∧ ∀ arguments stepId, arguments.process = process →
      Draft.Leads process.text (draft arguments stepId) := by
  rcases mem_registerAll (mem_of_find? found) with imported | builtIn
  · obtain ⟨run, runs⟩ := mem_entriesOf imported
    refine ⟨run.draft, runs ▸ run.emit_follows, ?_⟩
    rintro arguments stepId rfl
    exact run.draft_leads arguments stepId
  · obtain ⟨draft, drafts⟩ := Process.builtins_drafted (mem_builtin builtIn)
    exact ⟨_, drafts.follows, fun arguments _ _ => id_of_find? found ▸ drafts.leads arguments⟩

/-- The process of every command, in the order of the commands. -/
def leadsOf (calls : List Call) : List String :=
  calls.flatMap fun call =>
    List.replicate call.product.commands.length call.arguments.process.text

theorem leadsOf_append (first rest : List Call) :
    leadsOf (first ++ rest) = leadsOf first ++ leadsOf rest :=
  List.flatMap_append

theorem length_leadsOf (calls : List Call) :
    (leadsOf calls).length = (commandsOf calls).length := by
  simp [leadsOf, commandsOf, List.length_flatMap]

/-- A command of a run belongs to one of its calls. -/
theorem call_of_command {calls : List Call} {k : Nat} {command : Command}
    (placed : (commandsOf calls)[k]? = some command) :
    ∃ before call after j, calls = before ++ call :: after ∧
      call.product.commands[j]? = some command ∧ k = (commandsOf before).length + j := by
  induction calls generalizing k with
  | nil => simp [commandsOf] at placed
  | cons first rest ih =>
    have split : commandsOf (first :: rest) = first.product.commands ++ commandsOf rest := rfl
    rw [split] at placed
    by_cases own : k < first.product.commands.length
    · rw [List.getElem?_append_left own] at placed
      exact ⟨[], first, rest, k, rfl, placed, by simp [commandsOf]⟩
    · rw [List.getElem?_append_right (by omega)] at placed
      obtain ⟨before, call, after, j, rfl, inside, later⟩ := ih placed
      refine ⟨first :: before, call, after, j, rfl, inside, ?_⟩
      have longer : (commandsOf (first :: before)).length =
          first.product.commands.length + (commandsOf before).length := List.length_append
      omega

/-- The lead of a command is the process of the call that it belongs to. -/
theorem getElem?_leadsOf {before after : List Call} {call : Call} {j : Nat} {command : Command}
    (inside : call.product.commands[j]? = some command) :
    (leadsOf (before ++ call :: after))[(commandsOf before).length + j]? =
      some call.arguments.process.text := by
  obtain ⟨within, -⟩ := List.getElem?_eq_some_iff.mp inside
  have split : leadsOf (call :: after) =
      List.replicate call.product.commands.length call.arguments.process.text ++
        leadsOf after := rfl
  rw [leadsOf_append, ← length_leadsOf, List.getElem?_append_right (by omega), split,
    Nat.add_sub_cancel_left, List.getElem?_append_left (by simpa using within)]
  simp [within]

namespace Compiler

variable {modules : List Module} {maxDepth depth : Nat} {run next : Run}

/-- The commands so far have the ids from one on, and the source goes on behind them. -/
structure Numbered (run : Run) : Prop where
  ids : (commandsOf run.calls).map (·.id) = IdSource.stepIds (leadsOf run.calls) (.sequential 1)
  counted : run.context.ids = .sequential (1 + (commandsOf run.calls).length)

/-- A call takes the next ids for its commands, and no other. -/
theorem leave_numbers {position : Position} {node : Node}
    (left : carryOut ⟨Catalog.importing modules, maxDepth⟩ depth run (.leave position node) =
      .ok next) :
    ∃ call, next.calls = run.calls ++ [call] ∧ call.position = position ∧
      call.arguments.process = node.process ∧
      call.product.commands.map (·.id) = IdSource.stepIds (leadsOf [call]) run.context.ids ∧
      next.context.ids = run.context.ids.advanceBy call.product.commands.length := by
  obtain ⟨entry, product, after, found, called, -, rfl⟩ := carryOut_leave.mp left
  obtain ⟨draft, follows, leads⟩ := Catalog.import_leads found
  obtain ⟨made, isDraft, rfl, rfl⟩ := follows.made called
  have lead := leads _ _ rfl made isDraft
  refine ⟨_, rfl, rfl, rfl, ?_, ?_⟩
  · simp only [Draft.product, IdSource.stepIds_number, leadsOf, List.flatMap_singleton, lead,
      length_number]
  · simp only [Draft.product, Draft.after, length_number]

theorem leave_numbered {position : Position} {node : Node} (numbered : Numbered run)
    (left : carryOut ⟨Catalog.importing modules, maxDepth⟩ depth run (.leave position node) =
      .ok next) : Numbered next := by
  obtain ⟨call, grown, -, -, ids, moved⟩ := leave_numbers left
  have own : commandsOf [call] = call.product.commands := by simp [commandsOf]
  constructor
  · rw [grown, commandsOf_append, own, List.map_append, numbered.ids, ids, numbered.counted,
      leadsOf_append, IdSource.stepIds_append, IdSource.advanceBy_sequential, length_leadsOf]
  · rw [moved, numbered.counted, IdSource.advanceBy_sequential, grown, commandsOf_append, own,
      List.length_append, Nat.add_assoc]

theorem through_numbered (modules : List Module) {events : List Event} {final : Run}
    (numbered : Numbered run)
    (done : through ⟨Catalog.importing modules, maxDepth⟩ depth events run = .ok final) :
    Numbered final :=
  through_keeps (fun _ _ _ _ holds left => leave_numbered holds left) numbered done

theorem numbered_nil : Numbered ⟨[], .new (.sequential 1)⟩ := ⟨rfl, rfl⟩

/-- Every call of a run was made for the node at its position. -/
theorem through_process {events : List Event} {final : Run}
    (done : through ⟨Catalog.importing modules, maxDepth⟩ depth events run = .ok final)
    {call : Call} (member : call ∈ final.calls) : call ∈ run.calls ∨
      ∃ node, .leave call.position node ∈ events ∧ call.arguments.process = node.process := by
  induction events generalizing run with
  | nil =>
    cases done
    exact Or.inl member
  | cons event rest ih =>
    obtain ⟨middle, here, later⟩ := through_cons_ok.mp done
    rcases ih later with early | ⟨node, inside, process⟩
    · cases event with
      | enter position node =>
        obtain ⟨-, -, rfl⟩ := carryOut_enter.mp here
        exact Or.inl early
      | leave position node =>
        obtain ⟨own, grown, rfl, process, -⟩ := leave_numbers here
        rcases List.mem_append.mp (grown ▸ early) with before | last
        · exact Or.inl before
        · cases List.mem_singleton.mp last
          exact Or.inr ⟨node, List.mem_cons_self, process⟩
    · exact Or.inr ⟨node, List.mem_cons_of_mem _ inside, process⟩

/-- With sequential step ids, the number in the id of a command is its place in the plan, counted
from one, and it follows the process of the node that the command was made for. So no two commands
of a plan have the same id; and no two ids of a sequential source are the same, whatever they start
with. -/
theorem compile_numbered (modules : List Module) (maxDepth : Nat) :
    (∀ graph plan, graph.Built →
      compile ⟨Catalog.importing modules, maxDepth⟩ (.sequential 1) graph = .ok plan →
      (∃ run, Compiler.run ⟨Catalog.importing modules, maxDepth⟩ 1 graph
          (.new (.sequential 1)) = .ok run ∧ plan.commands = commandsOf run.calls ∧
        ∀ k command, plan.commands[k]? = some command → ∃ before call after j node,
          run.calls = before ++ call :: after ∧ k = (commandsOf before).length + j ∧
          call.product.commands[j]? = some command ∧
          graph.at? call.position = some node ∧ call.arguments.process = node.process ∧
          command.id = node.process.text ++ "_" ++ toString (k + 1)) ∧
      (plan.commands.map (·.id)).Nodup) ∧
    ∀ (leads locations : List String) (next : Nat), ∃ ids,
      (leads.mapM Emission.nextStepId).execute ⟨locations, .sequential next⟩ =
        (.ok ids, ⟨locations, .sequential (next + leads.length)⟩) ∧
      ids.length = leads.length ∧ ids.Nodup := by
  constructor
  · intro graph plan built compiled
    have ordered := built.ordered
    obtain ⟨final, done, -, -, commands⟩ := (compile_ok ordered).mp compiled
    have numbered := through_numbered modules numbered_nil done
    refine ⟨⟨final, done, commands, ?_⟩, ?_⟩
    · intro k command placed
      rw [commands] at placed
      obtain ⟨before, call, after, j, split, inside, place⟩ := call_of_command placed
      have member : call ∈ final.calls := by simp [split]
      obtain ⟨node, left, process⟩ := (through_process done member).resolve_left (by simp)
      obtain ⟨rest, reached, found⟩ := (Node.leave_mem_events ordered).mp left
      rw [List.nil_append] at reached
      refine ⟨before, call, after, j, node, split, place, inside, reached ▸ found, process,
        ?_⟩
      have named : ((commandsOf final.calls).map (·.id))[k]? = some command.id := by
        rw [List.getElem?_map, placed, Option.map_some]
      rw [numbered.ids, IdSource.getElem?_stepIds, split, place, getElem?_leadsOf inside,
        Option.map_some, ← place, process, Nat.add_comm 1 k] at named
      exact (Option.some.inj named).symm
    · rw [commands, numbered.ids]
      exact IdSource.stepIds_nodup _ 1
  · intro leads locations next
    refine ⟨_, ?_, IdSource.length_stepIds leads _, IdSource.stepIds_nodup leads next⟩
    rw [Emission.execute_draws, IdSource.advanceBy_sequential]

theorem seriesMinimum_numbered : seriesMinimum.Built ∧
    compile ⟨Catalog.importing [], 64⟩ (.sequential 1) seriesMinimum = .ok seriesPlan ∧
    seriesPlan.commands.map (·.id) = ["get_data_1", "min_time_2"] ∧
    (seriesPlan.commands.map (·.id)).Nodup := by
  obtain ⟨-, nodup⟩ := (compile_numbered [] 64).1 seriesMinimum seriesPlan seriesMinimum_built
    seriesMinimum_compiles
  exact ⟨seriesMinimum_built, seriesMinimum_compiles, rfl, nodup⟩

end Compiler

end GeoChain
