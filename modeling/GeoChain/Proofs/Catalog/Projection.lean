import GeoChain.Proofs.Catalog.ModuleCall
import GeoChain.Proofs.Graph.ProcessId

/-!
# One output of a module

The process for one output of a module gives the command of the module with that output alone. The
dataset is called by the process, whose id is made from the module and the output together, while
the whole module puts the output as it is behind the id that is made from the module. So both give
one name exactly if making the id changes nothing about the output and the module has a name.
-/

namespace GeoChain

namespace Dataset

theorem joined_append (datasets : List String) (first rest : String) :
    joined datasets (first ++ rest) = joined datasets first ++ rest := by
  induction datasets with
  | nil => rfl
  | cons dataset datasets ih => rw [joined, joined, ih, String.append_assoc, String.append_assoc,
      String.append_assoc]

theorem joined_inj {datasets : List String} {one other : String} :
    joined datasets one = joined datasets other ↔ one = other := by
  induction datasets with
  | nil => rfl
  | cons dataset datasets ih => rw [joined, joined, String.append_right_inj, ih]

end Dataset

namespace Module

open ProcessId

variable {module : Module} {output : ModuleParameter}

/-- The id of the process for an output is that of the module, followed by the output. -/
theorem outputProcess_eq_iff :
    (module.outputProcess output).text = module.process.text ++ "_" ++ output.name ↔
      module.id ≠ "" ∧ ∀ c ∈ output.name.toList, isIdChar c := by
  have spelled : (module.outputProcess output).text.toList =
      sanitizeChars (module.id.toList ++ '_' :: output.name.toList) := by
    rw [outputProcess, toList_text_sanitize, String.toList_append, String.toList_append,
      List.append_assoc]
    rfl
  rw [← String.toList_inj, spelled, process, String.toList_append, String.toList_append,
    toList_text_sanitize, List.append_assoc]
  change _ = sanitizeChars module.id.toList ++ '_' :: output.name.toList ↔ _
  by_cases unnamed : module.id = ""
  · -- The empty id alone becomes an underscore, which the id of the output does not get.
    refine iff_of_false (fun same => ?_) (fun both => both.1 unnamed)
    have lengths := congrArg List.length same
    simp [unnamed, sanitizeChars] at lengths
  · have named : module.id.toList ≠ [] := mt String.toList_eq_nil_iff.mp unnamed
    rw [sanitizeChars_append named, List.append_cancel_left_eq, List.map_cons,
      sanitizeChar_eq_self.mpr (by decide), List.cons_inj_right, map_sanitizeChar_eq_self,
      and_iff_right unnamed]

/-- Where data is received, the process for one of several outputs of a module gives the command of
the module, with that output alone. The dataset is the one that the whole module makes for the
output exactly if the module has a name and the name of the output could be that of a process. -/
theorem runFor_projects (several : module.hasSeveralOutputs) (member : output ∈ module.returns)
    {values : List (String × Value)} (supplied : ModuleRun.received values ≠ [])
    (context other : Context) : ∃ full single made dataset,
      ((module.run.emit ⟨module.process, values⟩).execute context).1.map (·.commands) =
        .ok [full] ∧
      (((module.runFor output).emit ⟨module.outputProcess output, values⟩).execute other).1.map
        (fun product => (product.datasets, product.commands)) = .ok ([dataset], [single]) ∧
      single.module = full.module ∧ single.inputs = full.inputs ∧
      single.outputs = [⟨output.name, dataset, none⟩] ∧ full.output? output.name = some made ∧
      (dataset = made ↔ module.id ≠ "" ∧ ∀ c ∈ output.name.toList, isIdChar c) := by
  have among : output.name ∈ module.run.outputs := List.mem_map_of_mem member
  have declared : module.run.outputs ≠ [] := List.ne_nil_of_mem among
  have length : module.run.outputs.length ≠ 1 := by
    have count : 1 < module.returns.length := by simpa [hasSeveralOutputs] using several
    rw [run, List.length_map]
    omega
  rw [ModuleRun.execute_emit_of_data declared supplied,
    ModuleRun.execute_emit_of_data (List.cons_ne_nil _ _) supplied]
  have made : ∀ base, module.run.outputDataset base output.name = base ++ "_" ++ output.name :=
    fun base => if_neg length
  refine ⟨_, _, _, Dataset.joined (ModuleRun.received values) (module.outputProcess output).text,
    rfl, rfl, rfl, rfl, rfl, (ModuleRun.output?_command among _ _ _).trans (congrArg some (made _)),
    ?_⟩
  rw [← outputProcess_eq_iff, ← Dataset.joined_append, ← Dataset.joined_append, Dataset.joined_inj]

end Module

def slopeOutput : ModuleParameter := ⟨"slope", "", false, .empty⟩

theorem slopeAspect_projects : slopeAspect.hasSeveralOutputs ∧ slopeOutput ∈ slopeAspect.returns ∧
    ModuleRun.received slopeCall.values = ["elevation@PERMANENT"] ∧ ∃ full single dataset,
      ((slopeAspect.run.emit slopeCall).execute (.new (.sequential 1))).1.map (·.commands) =
        .ok [full] ∧
      (((slopeAspect.runFor slopeOutput).emit
        ⟨slopeAspect.outputProcess slopeOutput, slopeCall.values⟩).execute
          (.new (.sequential 7))).1.map (fun product => (product.datasets, product.commands)) =
        .ok ([dataset], [single]) ∧
      single.inputs = full.inputs ∧ full.output? "slope" = some dataset := by
  have member : slopeOutput ∈ slopeAspect.returns := by decide
  obtain ⟨full, single, made, dataset, whole, projected, -, inputs, -, found, same⟩ :=
    Module.runFor_projects (by decide) member (show ModuleRun.received slopeCall.values ≠ [] by
      decide) (.new (.sequential 1)) (.new (.sequential 7))
  have alike : dataset = made := same.mpr ⟨by decide, by simp [slopeOutput, isIdChar]⟩
  exact ⟨by decide, member, rfl, full, single, dataset, whole, projected, inputs, alike ▸ found⟩

end GeoChain
