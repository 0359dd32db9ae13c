import GeoChain.Catalog.Module
import GeoChain.Proofs.Json.Received

/-!
# Schemas of modules

Of a schema the type and the subtype are taken out of the object, and the other keywords stay in it
as they are. So a schema that was received is read back from what is written for it, and clients are
told the object that it was read from. Only a type or a subtype that is `null` is lost, and a raster
becomes a raster cube.
-/

namespace GeoChain

open Json (Throughout Tidy Survives Form Fits)

theorem rasterCube_fits {bound : Nat} : Fits (bound + 1) rasterCube :=
  Json.fits_of_holdsTexts rfl

namespace ModuleSchema

variable {schema : ModuleSchema} {members : List (String × Json)} {value : Json}
  {f : Json → Json}

/-- The type and the subtype as they are written. -/
def typed (schema : ModuleSchema) : List (String × Json) :=
  [Json.fieldIf "type" .string schema.type,
    Json.fieldIf "subtype" .string schema.subtype].filterMap id

/-- The members of a schema as they are written. -/
def written (schema : ModuleSchema) : List (String × Json) := schema.typed ++ schema.others

theorem toJson_eq (schema : ModuleSchema) : schema.toJson = .object schema.written := by
  rw [toJson, Json.record, List.filterMap_append, List.filterMap_map, Function.id_comp,
    List.filterMap_some, written, typed]

theorem names_typed (schema : ModuleSchema) :
    (Keyed.names schema.typed).Sublist ["type", "subtype"] :=
  Json.Declares.names_sublist (.consIf (.consIf .nil))

theorem text_of_mem_typed {entry : String × Json} (member : entry ∈ schema.typed) :
    ∃ text, entry.2 = .string text := by
  obtain ⟨field, among, same⟩ := List.mem_filterMap.mp member
  rcases List.mem_pair.mp among with rfl | rfl
  · obtain ⟨text, -, rfl⟩ := Option.map_eq_some_iff.mp same
    exact ⟨text, rfl⟩
  · obtain ⟨text, -, rfl⟩ := Option.map_eq_some_iff.mp same
    exact ⟨text, rfl⟩

theorem find?_typed (schema : ModuleSchema) (name : String) : Keyed.find? name schema.typed =
    if name = "type" then schema.type.map .string
    else if name = "subtype" then schema.subtype.map .string else none := by
  obtain ⟨type, subtype, others⟩ := schema
  cases type <;> cases subtype <;> simp [typed, Json.fieldIf, Keyed.find?, eq_comm]
  rintro rfl
  decide

/-- The other keywords are in key order, and the type and the subtype are not among them. -/
structure Proper (schema : ModuleSchema) : Prop where
  increasing : Keyed.Increasing schema.others
  ordered : ∀ entry ∈ schema.others, entry.2.inKeyOrder = entry.2
  apart : ∀ entry ∈ schema.others, entry.1 ≠ "type" ∧ entry.1 ≠ "subtype"

theorem proper_empty : Proper .empty where
  increasing := Keyed.increasing_nil
  ordered := List.forall_mem_nil _
  apart := List.forall_mem_nil _

theorem ofJson?_object : ofJson? (.object members) = some schema ↔
    (Keyed.find? "type" members).filter (· ≠ .null) = schema.type.map .string ∧
    (Keyed.find? "subtype" members).filter (· ≠ .null) = schema.subtype.map .string ∧
    Keyed.erase "subtype" (Keyed.erase "type" members) = schema.others := by
  rw [← Json.optional?_text_eq_some, ← Json.optional?_text_eq_some]
  simp only [ofJson?, Option.bind_eq_bind, Option.bind_eq_some_iff]
  constructor
  · rintro ⟨type, readType, subtype, readSubtype, same⟩
    cases same
    exact ⟨readType, readSubtype, rfl⟩
  · rintro ⟨readType, readSubtype, others⟩
    refine ⟨schema.type, readType, schema.subtype, readSubtype, ?_⟩
    rw [others]
    rfl

theorem object_of_read (read : ofJson? value = some schema) :
    ∃ members, value = .object members := by
  cases value with
  | object members => exact ⟨members, rfl⟩
  | null | bool | int | float | string | array => cases read

/-- What a schema keeps was in the object that it was read from. -/
theorem others_inside (read : ofJson? value = some schema) :
    ∀ entry ∈ schema.others, entry.2 ∈ value.children := by
  obtain ⟨members, rfl⟩ := object_of_read read
  obtain ⟨-, -, others⟩ := ofJson?_object.mp read
  rw [← others]
  intro entry member
  exact List.mem_map_of_mem (List.mem_of_mem_filter (List.mem_of_mem_filter member))

theorem proper_of_read (tidy : Throughout Tidy value) (read : ofJson? value = some schema) :
    schema.Proper := by
  have inside := others_inside read
  obtain ⟨members, rfl⟩ := object_of_read read
  obtain ⟨-, -, others⟩ := ofJson?_object.mp read
  obtain ⟨increasing, -⟩ := Json.throughout_object.mp tidy
  refine ⟨?_, ?_, ?_⟩
  · rw [← others]
    exact (increasing.filter _).filter _
  · intro entry member
    exact Json.inKeyOrder_of_tidy (Json.throughout_hereditary Tidy tidy (inside entry member))
  · rw [← others]
    intro entry member
    obtain ⟨early, notSubtype⟩ := List.mem_filter.mp member
    obtain ⟨-, notType⟩ := List.mem_filter.mp early
    exact ⟨of_decide_eq_true notType, of_decide_eq_true notSubtype⟩

namespace Proper

theorem find?_others (proper : schema.Proper) {name : String} (known : name ∈ ["type", "subtype"]) :
    Keyed.find? name schema.others = none := by
  rw [Keyed.find?_eq_none]
  intro held
  obtain ⟨entry, member, rfl⟩ := List.mem_map.mp held
  obtain ⟨notType, notSubtype⟩ := proper.apart entry member
  simp [notType, notSubtype] at known

theorem distinct (proper : schema.Proper) : (Keyed.names schema.written).Nodup := by
  rw [Keyed.names, written, List.map_append]
  refine List.nodup_append.mpr ⟨?_, proper.increasing.nodup, ?_⟩
  · exact (names_typed schema).nodup (by decide)
  · rintro name typed _ other rfl
    exact Keyed.find?_eq_none.mp (proper.find?_others ((names_typed schema).subset typed)) other

theorem erase_written (proper : schema.Proper) :
    Keyed.erase "subtype" (Keyed.erase "type" schema.written) = schema.others := by
  have notType : schema.others.filter (fun entry => entry.1 ≠ "type") = schema.others :=
    List.filter_eq_self.mpr fun entry member => decide_eq_true (proper.apart entry member).1
  have notSubtype : schema.others.filter (fun entry => entry.1 ≠ "subtype") = schema.others :=
    List.filter_eq_self.mpr fun entry member => decide_eq_true (proper.apart entry member).2
  have known : Keyed.erase "subtype" (Keyed.erase "type" schema.typed) = [] := by
    refine List.filter_eq_nil_iff.mpr fun entry member => ?_
    obtain ⟨among, kept⟩ := List.mem_filter.mp member
    have named := (names_typed schema).subset (List.mem_map_of_mem among)
    simp only [List.mem_cons, List.not_mem_nil, or_false] at named
    simpa [of_decide_eq_true kept] using named
  rw [Keyed.erase, Keyed.erase] at known ⊢
  rw [written, List.filter_append, List.filter_append, known, notType, notSubtype,
    List.nil_append]

theorem written_ordered (proper : schema.Proper) :
    ∀ entry ∈ schema.written, entry.2.inKeyOrder = entry.2 := by
  refine List.forall_mem_append.mpr ⟨fun entry member => ?_, proper.ordered⟩
  obtain ⟨text, same⟩ := text_of_mem_typed member
  rw [same]
  rfl

/-- In each form a schema is an object with what it is written with, and the other keywords stand
in it in their order. -/
theorem formed (proper : schema.Proper) (form : Form f) :
    ∃ members, f schema.toJson = .object members ∧
      (∀ name, Keyed.find? name members = Keyed.find? name schema.written) ∧
      Keyed.erase "subtype" (Keyed.erase "type" members) = schema.others := by
  rw [toJson_eq]
  cases form with
  | written => exact ⟨_, rfl, fun _ => rfl, proper.erase_written⟩
  | ordered =>
    have each : ∀ entry ∈ schema.written, (entry.1, entry.2.inKeyOrder) = entry :=
      fun entry member => Prod.ext rfl (proper.written_ordered entry member)
    refine ⟨Keyed.ofList schema.written, ?_, ?_, ?_⟩
    · rw [Json.inKeyOrder_object, List.map_congr_left each, List.map_id']
    · exact Keyed.find?_ofList proper.distinct
    · rw [Keyed.erase_ofList, Keyed.erase_ofList, proper.erase_written,
        Keyed.ofList_of_increasing proper.increasing]

theorem find?_written (proper : schema.Proper) (name : String) :
    Keyed.find? name schema.written =
      if name = "type" then schema.type.map .string
      else if name = "subtype" then schema.subtype.map .string
      else Keyed.find? name schema.others := by
  rw [written, Keyed.find?_append, find?_typed]
  split
  · rename_i isType
    rw [isType, proper.find?_others (by simp), Option.or_none]
  · split
    · rename_i isSubtype
      rw [isSubtype, proper.find?_others (by simp), Option.or_none]
    · rw [Option.none_or]

theorem survives (proper : schema.Proper) : Survives toJson ofJson? schema := by
  intro f form
  obtain ⟨members, same, found, others⟩ := proper.formed form
  have notNull : ∀ text? : Option String,
      (text?.map Json.string).filter (· ≠ .null) = text?.map Json.string := by
    intro text?
    cases text? with
    | none => rfl
    | some text => rfl
  rw [same, ofJson?_object, found, found, proper.find?_written, proper.find?_written, if_pos rfl,
    if_neg (by decide), if_pos rfl]
  exact ⟨notNull _, notNull _, others⟩

end Proper

theorem isRaster_of_read (read : ofJson? (.object members) = some schema) : schema.isRaster ↔
    Keyed.find? "subtype" members ∈ [some (.string "cell"), some (.string "strds")] := by
  obtain ⟨-, subtype, -⟩ := ofJson?_object.mp read
  have each : ∀ text, schema.subtype = some text ↔
      Keyed.find? "subtype" members = some (.string text) := by
    intro text
    have mapped : schema.subtype = some text ↔
        schema.subtype.map Json.string = some (.string text) := by simp
    rw [mapped, ← subtype, Option.filter_eq_some_iff]
    simp
  simp [isRaster, each]

/-- In key order a schema is written as it was read, without a type or a subtype that is `null`. -/
theorem written_of_read (tidy : Throughout Tidy (.object members))
    (read : ofJson? (.object members) = some schema) : Keyed.ofList schema.written =
      members.filter fun entry => ¬ (entry.2 = .null ∧ entry.1 ∈ ["type", "subtype"]) := by
  have proper := proper_of_read tidy read
  obtain ⟨increasing, -⟩ := Json.throughout_object.mp tidy
  obtain ⟨type, subtype, others⟩ := ofJson?_object.mp read
  refine Keyed.eq_of_find? (Keyed.increasing_ofList _) (increasing.filter _) fun name => ?_
  rw [Keyed.find?_ofList proper.distinct, proper.find?_written, Keyed.find?_filter increasing]
  split
  · rename_i isType
    rw [isType, ← type]
    simp
  · rename_i notType
    split
    · rename_i isSubtype
      rw [isSubtype, ← subtype]
      simp
    · rename_i notSubtype
      rw [← others, Keyed.find?_erase_of_ne (Ne.symm notSubtype),
        Keyed.find?_erase_of_ne (Ne.symm notType)]
      cases Keyed.find? name members <;> simp [notType, notSubtype, Option.filter]

/-- Clients are told a raster cube for a raster, and else the schema as it was read. -/
theorem described_of_read (tidy : Throughout Tidy (.object members))
    (read : ofJson? (.object members) = some schema) : schema.described =
      if Keyed.find? "subtype" members ∈ [some (.string "cell"), some (.string "strds")]
      then rasterCube
      else .object (members.filter fun entry =>
        ¬ (entry.2 = .null ∧ entry.1 ∈ ["type", "subtype"])) := by
  simp only [described, isRaster_of_read read, toJson_eq, written_of_read tidy read]

theorem described_cases (schema : ModuleSchema) : schema.described = rasterCube ∨
    schema.described = .object (Keyed.ofList schema.written) := by
  rw [described, toJson_eq]
  split
  · exact .inl rfl
  · exact .inr rfl

theorem Proper.described_ordered (proper : schema.Proper) :
    schema.described.inKeyOrder = schema.described := by
  rcases schema.described_cases with raster | object
  · rw [raster]
    rfl
  · rw [object]
    exact Json.inKeyOrder_object_of_increasing (Keyed.increasing_ofList _) fun entry member =>
      proper.written_ordered entry (Keyed.mem_ofList member)

section

variable {bound : Nat}

theorem written_fits (fits : ∀ entry ∈ schema.others, Fits bound entry.2) :
    ∀ entry ∈ schema.written, Fits bound entry.2 := by
  refine List.forall_mem_append.mpr ⟨fun entry member => ?_, fits⟩
  obtain ⟨text, same⟩ := text_of_mem_typed member
  rw [same]
  exact .text text

theorem toJson_fits (fits : ∀ entry ∈ schema.others, Fits bound entry.2) :
    Fits (bound + 1) schema.toJson := by
  rw [toJson_eq]
  exact .object (written_fits fits)

theorem described_fits (fits : ∀ entry ∈ schema.others, Fits bound entry.2) :
    Fits (bound + 1) schema.described := by
  rcases schema.described_cases with raster | object
  · rw [raster]
    exact rasterCube_fits
  · rw [object]
    exact .object fun entry member => written_fits fits entry (Keyed.mem_ofList member)

end

end ModuleSchema

end GeoChain
