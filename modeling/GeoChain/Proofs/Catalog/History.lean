import GeoChain.Process.Builtin
import GeoChain.Proofs.Graph.ProcessId
import Mathlib

/-!
# Histories of a catalog

A history starts from the empty or from the built-in catalog and registers processes and imports
modules in any order. Whatever the history, a process stands once, where it was first registered,
and is what it was last registered as. So importing modules again changes nothing, even if some of
their processes have the same id or replace others.
-/

namespace GeoChain

namespace Catalog

/-- The ids of entries, in their order. -/
def idsOf (entries : List Entry) : List String := entries.map (·.id.text)

/-- The last of the entries of a process. -/
def last? (process : String) (entries : List Entry) : Option Entry :=
  entries.reverse.find? (fun entry => entry.id.text = process)

section Registration

variable {entry : Entry} {entries registered : List Entry} {catalog : Catalog}

theorem idsOf_cons (entry : Entry) (rest : List Entry) :
    idsOf (entry :: rest) = entry.id.text :: idsOf rest := rfl

theorem idsOf_append (first rest : List Entry) :
    idsOf (first ++ rest) = idsOf first ++ idsOf rest :=
  List.map_append

theorem place_cons (entry other : Entry) (rest : List Entry) :
    place entry (other :: rest) =
      if other.id.text = entry.id.text then entry :: rest else other :: place entry rest := by
  rw [place]
  exact if_congr ProcessId.text_inj.symm rfl rfl

/-- An entry whose process is listed takes the place of the listed one. -/
theorem idsOf_place_of_mem (listed : entry.id.text ∈ idsOf entries) :
    idsOf (place entry entries) = idsOf entries := by
  induction entries with
  | nil => cases listed
  | cons other rest ih =>
    rw [place_cons]
    by_cases same : other.id.text = entry.id.text
    · rw [if_pos same, idsOf_cons, idsOf_cons, same]
    · have later : entry.id.text ∈ idsOf rest :=
        (List.mem_cons.mp listed).resolve_left fun here => same here.symm
      rw [if_neg same, idsOf_cons, idsOf_cons, ih later]

theorem place_of_not_mem (new : entry.id.text ∉ idsOf entries) :
    place entry entries = entries ++ [entry] := by
  induction entries with
  | nil => rfl
  | cons other rest ih =>
    obtain ⟨distinct, later⟩ := List.ne_and_not_mem_of_not_mem_cons new
    rw [place_cons, if_neg fun same => distinct same.symm, ih later, List.cons_append]

theorem find?_place (entry : Entry) (entries : List Entry) (process : String) :
    (place entry entries).find? (fun entry => entry.id.text = process) =
      if entry.id.text = process then some entry
      else entries.find? (fun entry => entry.id.text = process) := by
  induction entries with
  | nil => by_cases here : entry.id.text = process <;> simp [place, here]
  | cons other rest ih =>
    rw [place_cons]
    by_cases same : other.id.text = entry.id.text
    · by_cases here : entry.id.text = process
      · simp [same, here]
      · simp [same, here]
    · rw [if_neg same]
      by_cases found : other.id.text = process
      · have apart : entry.id.text ≠ process := fun here => same (found.trans here.symm)
        simp [found, apart]
      · rw [List.find?_cons_of_neg (by simpa using found), ih,
          List.find?_cons_of_neg (by simpa using found)]

theorem last?_append (process : String) (first rest : List Entry) :
    last? process (first ++ rest) = (last? process rest).or (last? process first) := by
  rw [last?, List.reverse_append, List.find?_append, last?, last?]

theorem last?_append_singleton (registered : List Entry) (entry : Entry) (process : String) :
    last? process (registered ++ [entry]) =
      if entry.id.text = process then some entry else last? process registered := by
  rw [last?_append]
  by_cases here : entry.id.text = process
  · simp [last?, here]
  · simp [last?, here]

/-- A catalog holds what was registered: every process once, in the order of the first
registrations, and as it was registered last. -/
structure Holds (registered : List Entry) (catalog : Catalog) : Prop where
  listed : ∀ process, process ∈ idsOf catalog.entries ↔ process ∈ idsOf registered
  ordered : (idsOf catalog.entries).Pairwise fun one other =>
    (idsOf registered).idxOf one < (idsOf registered).idxOf other
  last : ∀ process, catalog.find? process = last? process registered

theorem holds_empty : Holds [] empty :=
  ⟨fun _ => Iff.rfl, List.Pairwise.nil, fun _ => rfl⟩

theorem Holds.nodup (holds : Holds registered catalog) : (idsOf catalog.entries).Nodup :=
  holds.ordered.imp fun before same => absurd (same ▸ before) (Nat.lt_irrefl _)

/-- One more registration. -/
theorem Holds.register (holds : Holds registered catalog) (entry : Entry) :
    Holds (registered ++ [entry]) (catalog.register entry.description entry.emitter) := by
  have known : ∀ process ∈ idsOf catalog.entries,
      (idsOf (registered ++ [entry])).idxOf process = (idsOf registered).idxOf process := by
    intro process member
    rw [idsOf_append, List.idxOf_append_of_mem ((holds.listed process).mp member)]
  have kept : (idsOf catalog.entries).Pairwise fun one other =>
      (idsOf (registered ++ [entry])).idxOf one <
        (idsOf (registered ++ [entry])).idxOf other := by
    refine holds.ordered.imp_of_mem fun one other before => ?_
    rw [known _ one, known _ other]
    exact before
  by_cases listed : entry.id.text ∈ idsOf catalog.entries
  · have same : idsOf (catalog.register entry.description entry.emitter).entries =
        idsOf catalog.entries := idsOf_place_of_mem listed
    refine ⟨fun process => ?_, by rw [same]; exact kept, fun process => ?_⟩
    · rw [same, holds.listed, idsOf_append, List.mem_append]
      constructor
      · exact Or.inl
      · rintro (early | last)
        · exact early
        · rw [List.mem_singleton.mp last]
          exact (holds.listed _).mp listed
    · rw [last?_append_singleton, ← holds.last]
      exact find?_place entry catalog.entries process
  · have grown : (catalog.register entry.description entry.emitter).entries =
        catalog.entries ++ [entry] := place_of_not_mem listed
    have fresh : entry.id.text ∉ idsOf registered := fun member =>
      listed ((holds.listed _).mpr member)
    refine ⟨fun process => ?_, ?_, fun process => ?_⟩
    · rw [grown, idsOf_append, idsOf_append, List.mem_append, List.mem_append, holds.listed]
    · rw [grown, idsOf_append catalog.entries]
      refine List.pairwise_append.mpr ⟨kept, List.pairwise_singleton _ _, ?_⟩
      intro process member other last
      rw [known process member, List.mem_singleton.mp last, idsOf_append,
        List.idxOf_append_of_notMem fresh]
      have within := List.idxOf_lt_length_of_mem ((holds.listed process).mp member)
      simp [idsOf] at within ⊢
      omega
    · rw [last?_append_singleton, ← holds.last]
      exact find?_place entry catalog.entries process

theorem Holds.registerAll (holds : Holds registered catalog) (entries : List Entry) :
    Holds (registered ++ entries) (catalog.registerAll entries) := by
  induction entries generalizing registered catalog with
  | nil => rwa [List.append_nil]
  | cons entry rest ih =>
    rw [List.append_cons]
    exact ih (holds.register entry)

/-- Two lists of entries in which every process stands once are the same if they list the same
processes in the same order and find the same entry for each. -/
theorem entries_ext {first second : List Entry} (nodup : (idsOf first).Nodup)
    (ids : idsOf first = idsOf second)
    (found : ∀ process, first.find? (fun entry => entry.id.text = process) =
      second.find? (fun entry => entry.id.text = process)) : first = second := by
  induction first generalizing second with
  | nil => exact (List.map_eq_nil_iff.mp ids.symm).symm
  | cons entry rest ih =>
    cases second with
    | nil => cases ids
    | cons other others =>
      rw [idsOf_cons, idsOf_cons] at ids
      obtain ⟨sameId, sameIds⟩ := List.cons.inj ids
      obtain ⟨fresh, tail⟩ := List.nodup_cons.mp nodup
      have head : entry = other := by simpa [sameId] using found entry.id.text
      subst head
      refine congrArg (entry :: ·) (ih tail sameIds fun process => ?_)
      by_cases here : entry.id.text = process
      · have absent : ∀ list, entry.id.text ∉ idsOf list →
            list.find? (fun entry => entry.id.text = process) = none := by
          intro list missing
          refine List.find?_eq_none.mpr fun one member same => missing ?_
          rw [here, ← of_decide_eq_true same]
          exact List.mem_map_of_mem member
        rw [absent rest fresh, absent others (sameIds ▸ fresh)]
      · have later := found process
        rwa [List.find?_cons_of_neg (by simpa using here),
          List.find?_cons_of_neg (by simpa using here)] at later

theorem eq_of_find? {first second : Catalog} (nodup : (idsOf first.entries).Nodup)
    (ids : idsOf first.entries = idsOf second.entries)
    (found : ∀ process, first.find? process = second.find? process) : first = second :=
  congrArg Catalog.mk (entries_ext nodup ids found)

/-- Registers a module, and after it each of its outputs if there are several. -/
def registerModule (catalog : Catalog) (module : Module) : Catalog :=
  let held := catalog.register module.described module.run.emit
  if module.returns.length ≤ 1 then held
  else module.returns.foldl (fun held output =>
    held.register (module.describedFor output) (module.runFor output).emit) held

/-- The number of processes that a module is registered as. -/
def processCount (module : Module) : Nat :=
  if module.returns.length ≤ 1 then 1 else 1 + module.returns.length

theorem registerAll_moduleEntries (catalog : Catalog) (module : Module) :
    catalog.registerAll (moduleEntries module) = registerModule catalog module := by
  rw [moduleEntries, Module.hasSeveralOutputs, registerModule]
  by_cases several : 1 < module.returns.length
  · have notSingle : ¬ module.returns.length ≤ 1 := by omega
    simp [several, notSingle, registerAll, List.foldl_map]
  · have single : module.returns.length ≤ 1 := by omega
    simp [several, single, registerAll]

theorem length_moduleEntries (module : Module) :
    (moduleEntries module).length = processCount module := by
  rw [moduleEntries, Module.hasSeveralOutputs, processCount]
  by_cases several : 1 < module.returns.length
  · have notSingle : ¬ module.returns.length ≤ 1 := by omega
    simp [several, notSingle, Nat.add_comm]
  · have single : module.returns.length ≤ 1 := by omega
    simp [several, single]

/-- Importing registers the modules one after the other, and counts every registration. -/
theorem importModules_eq (catalog : Catalog) (modules : List Module) :
    catalog.importModules modules =
      ((modules.map processCount).sum, modules.foldl registerModule catalog) := by
  rw [importModules, entriesOf, List.length_flatMap]
  simp only [length_moduleEntries, Prod.mk.injEq, true_and]
  induction modules generalizing catalog with
  | nil => rfl
  | cons module rest ih =>
    rw [List.flatMap_cons, registerAll, List.foldl_append, List.foldl_cons]
    rw [← registerAll_moduleEntries]
    exact ih _

end Registration

/-- What can be done to a catalog: a process is registered, or modules are imported. -/
inductive Change where
  | register (description : Description) (emitter : Emitter)
  | importModules (modules : List Module)

namespace Change

/-- The entries that a change registers, in order. -/
def entries : Change → List Entry
  | register description emitter => [⟨description, emitter⟩]
  | importModules modules => entriesOf modules

def apply (catalog : Catalog) : Change → Catalog
  | register description emitter => catalog.register description emitter
  | importModules modules => (catalog.importModules modules).2

theorem apply_eq (catalog : Catalog) (change : Change) :
    change.apply catalog = catalog.registerAll change.entries := by
  cases change with
  | register description emitter => rfl
  | importModules modules => rfl

end Change

/-- Whether a history starts from the built-in catalog or from the empty one, and what was done to
it since. -/
structure History where
  fromBuiltin : Bool
  changes : List Change

namespace History

def start (history : History) : Catalog :=
  if history.fromBuiltin then .builtin else .empty

/-- The catalog at the end of a history. -/
def catalog (history : History) : Catalog := history.changes.foldl Change.apply history.start

/-- All registrations of a history, the built-in ones first. -/
def registered (history : History) : List Entry :=
  (if history.fromBuiltin then Process.builtins else []) ++ history.changes.flatMap Change.entries

theorem holds_start (history : History) :
    Holds (if history.fromBuiltin then Process.builtins else []) history.start := by
  rw [start]
  cases history.fromBuiltin with
  | false => exact holds_empty
  | true => exact holds_empty.registerAll Process.builtins

theorem holds_changes {registered : List Entry} {catalog : Catalog}
    (holds : Holds registered catalog) (changes : List Change) :
    Holds (registered ++ changes.flatMap Change.entries) (changes.foldl Change.apply catalog) := by
  induction changes generalizing registered catalog with
  | nil => rwa [List.flatMap_nil, List.append_nil]
  | cons change rest ih =>
    rw [List.flatMap_cons, ← List.append_assoc, List.foldl_cons, Change.apply_eq]
    exact ih (holds.registerAll change.entries)

/-- The catalog of a history holds what was registered in it. -/
theorem holds (history : History) : Holds history.registered history.catalog :=
  holds_changes history.holds_start history.changes

end History

section Holding

variable {registered : List Entry} {catalog : Catalog} (process : String)

theorem Holds.size (holds : Holds registered catalog) :
    catalog.size = (idsOf registered).toFinset.card := by
  have same : (idsOf registered).toFinset = (idsOf catalog.entries).toFinset := by
    ext process
    rw [List.mem_toFinset, List.mem_toFinset, holds.listed]
  rw [same, List.toFinset_card_of_nodup holds.nodup, Catalog.size, idsOf, List.length_map]

end Holding

end Catalog

end GeoChain
