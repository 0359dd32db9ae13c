import GeoChain.Backend.Provider
import GeoChain.Proofs.Compile.Lookup
import GeoChain.Proofs.Compile.Origin

/-!
# Discovery

However often a catalog is filled from a provider, and whatever the provider answers, the catalog is
what it was, with the modules of the successful listings imported in order. A call that fails leaves
the catalog as it was. A graph that names no process of an imported module compiles as before.
-/

namespace GeoChain

namespace Provider

/-- What one call of discovery gives, whatever the catalog holds. -/
def discovered : Except BackendError Listing → Except BackendError Nat
  | .error cause => .error cause
  | .ok listing =>
    if listing.isSuccess then .ok (listing.modules.map Catalog.processCount).sum
    else .error (listingRefused listing.status)

/-- The modules of a listing that is a success. -/
def advertised? : Except BackendError Listing → Option (List Module)
  | .error _ => none
  | .ok listing => if listing.isSuccess then some listing.modules else none

/-- The catalog with all successful listings imported. -/
def importListed (answers : List (Except BackendError Listing)) (catalog : Catalog) : Catalog :=
  (answers.filterMap advertised?).foldl (fun held modules => (held.importModules modules).2) catalog

section Import

variable {answer : Except BackendError Listing} {answers rest : List (Except BackendError Listing)}
  {catalog : Catalog}

theorem importListed_append : importListed (answers ++ rest) catalog =
    importListed rest (importListed answers catalog) := by
  rw [importListed, List.filterMap_append, List.foldl_append]
  rfl

theorem importListed_cons : importListed (answer :: rest) catalog =
    importListed rest (importListed [answer] catalog) := by
  rw [← importListed_append, List.singleton_append]

/-- One call imports the listing that it gets, if it is a success, and fails otherwise. -/
theorem registerListed_eq (answer : Except BackendError Listing) (catalog : Catalog) :
    registerListed answer catalog = (discovered answer, importListed [answer] catalog) := by
  cases answer with
  | error cause => rfl
  | ok listing =>
    rw [registerListed, discovered, importListed, List.filterMap_cons, advertised?]
    by_cases success : listing.isSuccess
    · rw [if_pos success, if_pos success, if_pos success]
      have counted := congrArg Prod.fst (Catalog.importModules_eq catalog listing.modules)
      exact Prod.ext (congrArg Except.ok counted) rfl
    · rw [if_neg success, if_neg success, if_neg success]
      rfl

/-- A call that fails imports nothing. -/
theorem advertised?_of_failed {cause : BackendError} (failed : discovered answer = .error cause) :
    advertised? answer = none := by
  cases answer with
  | error other => rfl
  | ok listing =>
    rw [discovered] at failed
    rw [advertised?]
    split at failed
    · cases failed
    · rename_i refused
      exact if_neg refused

theorem importListed_of_failed {cause : BackendError} (failed : discovered answer = .error cause) :
    importListed (answers ++ [answer]) catalog = importListed answers catalog := by
  rw [importListed_append, importListed, List.filterMap_cons, advertised?_of_failed failed]
  rfl

theorem compile_importListed {graph : Node} (ordered : graph.Ordered)
    (apart : ∀ modules ∈ answers.filterMap advertised?, ∀ module ∈ modules,
      ∀ position node, graph.at? position = some node → ¬ module.Offers node.process)
    (maxDepth : Nat) (ids : IdSource) :
    Compiler.compile ⟨importListed answers catalog, maxDepth⟩ ids graph =
      Compiler.compile ⟨catalog, maxDepth⟩ ids graph := by
  rw [importListed]
  generalize answers.filterMap advertised? = listings at apart
  induction listings generalizing catalog with
  | nil => rfl
  | cons modules rest ih =>
    obtain ⟨here, later⟩ := List.forall_mem_cons.mp apart
    rw [List.foldl_cons, ih later, Compiler.compile_importModules ordered here]

end Import

variable {m : Type → Type} [Monad m]

/-- The answers of a provider that is asked so many times. -/
def listings (provider : Provider m) : Nat → m (List (Except BackendError Listing))
  | 0 => return []
  | count + 1 => do
    let first ← provider.list
    let rest ← provider.listings count
    return first :: rest

/-- What so many calls of discovery give, each with the catalog that it leaves. -/
def discoveries (provider : Provider m) :
    Nat → Catalog → m (List (Except BackendError Nat × Catalog))
  | 0, _ => return []
  | count + 1, catalog => do
    let first ← provider.discover catalog
    let rest ← provider.discoveries count first.2
    return first :: rest

/-- What calls give that get these answers: with every answer the listings so far are imported. -/
def traced (answers : List (Except BackendError Listing)) (catalog : Catalog) :
    List (Except BackendError Nat × Catalog) :=
  (answers.map discovered).zip (answers.inits.tail.map (importListed · catalog))

theorem traced_cons (answer : Except BackendError Listing)
    (rest : List (Except BackendError Listing)) (catalog : Catalog) :
    traced (answer :: rest) catalog =
      registerListed answer catalog :: traced rest (importListed [answer] catalog) := by
  have inits : (answer :: rest).inits.tail = [answer] :: rest.inits.tail.map (answer :: ·) := by
    cases rest with
    | nil => rfl
    | cons next others => simp
  have later : (importListed · catalog) ∘ (answer :: ·) =
      (importListed · (importListed [answer] catalog)) :=
    funext fun seen => importListed_cons
  rw [traced, inits, List.map_cons, List.map_cons, List.map_map, later, List.zip_cons_cons,
    registerListed_eq, traced]

theorem discoveries_eq [LawfulMonad m] (provider : Provider m) (count : Nat) (catalog : Catalog) :
    provider.discoveries count catalog = (traced · catalog) <$> provider.listings count := by
  induction count generalizing catalog with
  | zero => simp [discoveries, listings, traced]
  | succ count ih =>
    simp only [discoveries, listings, discover, ih, traced_cons, registerListed_eq, bind_assoc,
      pure_bind, map_bind, bind_map_left, map_pure]

/-- Whatever a provider answers, every call of discovery leaves the catalog with the modules of the
successful listings so far imported in order, and gives their number or the failure; a call that
fails leaves the catalog as the call before it did. No graph that names none of the processes that
the imported modules offer notices any of it. -/
theorem discoveries_import [LawfulMonad m] (provider : Provider m) (count : Nat)
    (catalog : Catalog) :
    provider.discoveries count catalog =
      (fun answers => (answers.map discovered).zip
        (answers.inits.tail.map (importListed · catalog))) <$> provider.listings count ∧
    (∀ answers answer cause, discovered answer = .error cause →
      importListed (answers ++ [answer]) catalog = importListed answers catalog) ∧
    ∀ answers graph, graph.Built →
      (∀ modules ∈ answers.filterMap advertised?, ∀ module ∈ modules,
        ∀ position node, graph.at? position = some node → ¬ module.Offers node.process) →
      ∀ maxDepth ids, Compiler.compile ⟨importListed answers catalog, maxDepth⟩ ids graph =
        Compiler.compile ⟨catalog, maxDepth⟩ ids graph := by
  refine ⟨discoveries_eq provider count catalog, fun _ _ _ => importListed_of_failed, ?_⟩
  intro answers graph built apart maxDepth ids
  exact compile_importListed built.ordered apart maxDepth ids

/-- A provider that gives the answers of a list, one after the other. -/
def replaying : Provider (StateM (List (Except BackendError Listing))) where
  submit _ _ := return .error (.new .networkError)
  list answers := (answers.headD (.error (.new .timeout)), answers.tail)

def infoModule : Module := .new "r.info" ""

theorem process_of_offered {process : ProcessId} (offered : infoModule.Offers process) :
    process = .sanitize "r.info" := by
  rcases offered with same | ⟨output, listed, -⟩
  · exact same
  · cases listed

/-- A listing, a refused one with a module of the name of a built-in process, and a failure. -/
def severalAnswers : List (Except BackendError Listing) :=
  [.ok ⟨200, [infoModule]⟩, .ok ⟨401, [.new "min.time" ""]⟩, .error (.new .timeout)]

theorem severalAnswers_import : Compiler.seriesMinimum.Built ∧
    ((replaying.discoveries 3 Catalog.builtin).run severalAnswers).1.map (·.1) =
      [.ok 1, .error (listingRefused 401), .error (.new .timeout)] ∧
    importListed severalAnswers .builtin = (Catalog.builtin.importModules [infoModule]).2 ∧
    Compiler.compile ⟨importListed severalAnswers .builtin, 64⟩ (.sequential 1)
      Compiler.seriesMinimum = .ok Compiler.seriesPlan := by
  obtain ⟨traces, unchanged, compiles⟩ := discoveries_import replaying 3 Catalog.builtin
  refine ⟨Compiler.seriesMinimum_built, ?_, ?_, ?_⟩
  · rw [traces]
    rfl
  · have refused := unchanged [.ok ⟨200, [infoModule]⟩] (.ok ⟨401, [.new "min.time" ""]⟩) _ rfl
    have failed := unchanged [.ok ⟨200, [infoModule]⟩, .ok ⟨401, [.new "min.time" ""]⟩]
      (.error (.new .timeout)) _ rfl
    exact failed.trans refused
  · refine (compiles severalAnswers _ Compiler.seriesMinimum_built ?_ 64 _).trans
      Compiler.seriesMinimum_compiles
    intro modules listed module member position node found offered
    obtain rfl : modules = [infoModule] := List.mem_singleton.mp listed
    obtain rfl : module = infoModule := List.mem_singleton.mp member
    have left : .leave position node ∈ Compiler.seriesMinimum.events [] :=
      (Node.leave_mem_events Compiler.seriesMinimum_built.ordered).mpr ⟨position, rfl, found⟩
    have walk : Compiler.seriesMinimum.events [] = [.enter [] Compiler.seriesMinimum,
      .enter [("imagery", 0)] Compiler.seriesLoad, .leave [("imagery", 0)] Compiler.seriesLoad,
      .leave [] Compiler.seriesMinimum] := rfl
    simp only [walk, List.mem_cons, reduceCtorEq, Event.leave.injEq, false_or,
      List.not_mem_nil, or_false] at left
    rcases left with ⟨-, rfl⟩ | ⟨-, rfl⟩
    · exact absurd (process_of_offered offered) (by decide)
    · exact absurd (process_of_offered offered) (by decide)

end Provider

end GeoChain
