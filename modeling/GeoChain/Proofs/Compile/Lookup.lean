import GeoChain.Proofs.Catalog.History
import GeoChain.Proofs.Catalog.Resolved
import GeoChain.Proofs.Compile.Congruence

/-!
# What a compilation looks up

A compilation looks at the catalog only through the processes of the nodes of its graph. So two
catalogs that resolve these alike compile the graph alike, whether it compiles or not. Registering
other processes, or importing modules that offer other processes, makes no difference.
-/

namespace GeoChain

/-- A process that a module offers: itself, or one of its outputs. -/
def Module.Offers (module : Module) (process : ProcessId) : Prop :=
  process = module.process ∨ ∃ output ∈ module.returns, process = module.outputProcess output

namespace Catalog

variable {process : String}

theorem find?_register_of_ne {entry : Entry} (apart : entry.id.text ≠ process)
    (catalog : Catalog) :
    (catalog.register entry.description entry.emitter).find? process = catalog.find? process :=
  (find?_place entry catalog.entries process).trans (if_neg apart)

theorem find?_registerAll_of_ne {entries : List Entry}
    (apart : ∀ entry ∈ entries, entry.id.text ≠ process) (catalog : Catalog) :
    (catalog.registerAll entries).find? process = catalog.find? process := by
  induction entries generalizing catalog with
  | nil => rfl
  | cons entry rest ih =>
    obtain ⟨here, later⟩ := List.forall_mem_cons.mp apart
    exact (ih later _).trans (find?_register_of_ne here catalog)

theorem offers_of_mem {module : Module} {entry : Entry}
    (member : entry ∈ moduleEntries module) : module.Offers entry.id := by
  rcases mem_moduleEntries.mp member with rfl | ⟨-, output, listed, rfl⟩
  · exact Or.inl rfl
  · exact Or.inr ⟨output, listed, rfl⟩

theorem find?_importModules {process : ProcessId} {modules : List Module}
    (apart : ∀ module ∈ modules, ¬ module.Offers process) (catalog : Catalog) :
    (catalog.importModules modules).2.find? process.text = catalog.find? process.text := by
  refine find?_registerAll_of_ne (fun entry member same => ?_) catalog
  obtain ⟨module, listed, inside⟩ := List.mem_flatMap.mp member
  exact apart module listed (ProcessId.text_inj.mp same ▸ offers_of_mem inside)

end Catalog

namespace Compiler

variable {first second : Compiler}

/-- Two compilers do the same on a graph, at any depth and in any context. -/
def Coincide (first second : Compiler) (graph : Node) : Prop :=
  ∀ depth context, first.node depth graph context = second.node depth graph context

/-- Compilers that resolve the processes of all nodes alike do the same on a graph. -/
theorem node_congr {graph : Node} (ordered : graph.Ordered)
    (limit : first.maxDepth = second.maxDepth)
    (same : ∀ position node, graph.at? position = some node →
      first.catalog.resolve node.process.text = second.catalog.resolve node.process.text) :
    Coincide first second graph := by
  induction graph using Node.nested_induction with
  | step process given ih =>
    have nested : ∀ entry ∈ given, ∀ child ∈ entry.2.nested, Coincide first second child := by
      intro entry member child inside
      refine ih entry member child inside (ordered.child member inside) ?_
      intro position node found
      obtain ⟨i, within, rfl⟩ := List.getElem_of_mem inside
      exact same ((entry.1, i) :: position) node (Node.at?_cons.mpr ⟨entry.2, _,
        Keyed.find?_of_mem ordered.increasing member, List.getElem?_eq_getElem within, found⟩)
    exact node_alike limit (same [] _ rfl) (Keyed.related_self.mpr fun entry member =>
      ⟨rfl, List.forall₂_same.mpr (nested entry member)⟩)

/-- Importing modules changes nothing for a graph that names none of the processes that they
offer. -/
theorem compile_importModules {graph : Node} (ordered : graph.Ordered) {modules : List Module}
    (apart : ∀ module ∈ modules, ∀ position node, graph.at? position = some node →
      ¬ module.Offers node.process)
    (catalog : Catalog) (maxDepth : Nat) (ids : IdSource) :
    compile ⟨(catalog.importModules modules).2, maxDepth⟩ ids graph =
      compile ⟨catalog, maxDepth⟩ ids graph := by
  have same : Coincide ⟨(catalog.importModules modules).2, maxDepth⟩ ⟨catalog, maxDepth⟩ graph := by
    refine node_congr ordered rfl fun position node found => ?_
    rw [Catalog.resolve, Catalog.resolve, Catalog.find?_importModules
      fun module listed => apart module listed position node found]
  rw [compile, compile, same]

end Compiler

end GeoChain
