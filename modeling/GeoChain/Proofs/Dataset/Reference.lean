import GeoChain.Dataset.Reference
import GeoChain.Proofs.Text.Split

/-!
# The texts that are references

A text with three dots is cut at the first three of them into four parts; a text with fewer dots is
not. It is a reference exactly if no part is empty and the third one names a type. A text with too
few dots or an empty part has no shape, whatever its type is; only of the others the type is looked
at. The text of a reference that was read is the text that it was read from.
-/

namespace GeoChain

namespace Datatype

theorem read?_text (known : Datatype) : read? known.text = some known := by
  cases known with
  | raster | strds | vector => rfl

theorem text_of_read? {name : String} {known : Datatype} (found : read? name = some known) :
    name = known.text := by
  unfold read? at found
  split at found
  · cases found
    rfl
  · cases found
    rfl
  · cases found
    rfl
  · cases found

/-- The names that the types have. -/
def names : List String := ["raster", "strds", "vector"]

theorem mem_names {name : String} : name ∈ names ↔ ∃ known : Datatype, name = known.text := by
  constructor
  · intro member
    simp only [names, List.mem_cons, List.not_mem_nil, or_false] at member
    rcases member with rfl | rfl | rfl
    · exact ⟨.raster, rfl⟩
    · exact ⟨.strds, rfl⟩
    · exact ⟨.vector, rfl⟩
  · rintro ⟨known, rfl⟩
    cases known with
    | raster | strds | vector => decide

theorem read?_eq_none {name : String} : read? name = none ↔ name ∉ names := by
  constructor
  · intro missing member
    obtain ⟨known, rfl⟩ := mem_names.mp member
    rw [known.read?_text] at missing
    cases missing
  · intro foreign
    cases found : read? name with
    | none => rfl
    | some known => exact absurd (mem_names.mpr ⟨known, text_of_read? found⟩) foreign

end Datatype

namespace Reference

/-- The parts that a text is cut into at its first three dots. Only the last one may have dots. -/
structure CutInto (text location mapset datatype layer : String) : Prop where
  joined : text = location ++ "." ++ mapset ++ "." ++ datatype ++ "." ++ layer
  location : '.' ∉ location.toList
  mapset : '.' ∉ mapset.toList
  datatype : '.' ∉ datatype.toList

variable {text location mapset datatype layer : String} {reference : Reference}

/-- The first dot ends a part, and the rest has one dot fewer. -/
theorem exists_part {chars : List Char} {n : Nat} (dots : n + 1 ≤ chars.count '.') :
    ∃ part rest, '.' ∉ part ∧ chars = part ++ '.' :: rest ∧ n ≤ rest.count '.' := by
  have member : '.' ∈ chars := List.count_pos_iff.mp (by omega)
  obtain ⟨part, rest, rfl, plain⟩ := List.eq_append_cons_of_mem member
  have none : part.count '.' = 0 := List.count_eq_zero.mpr plain
  rw [List.count_append, List.count_cons_self] at dots
  exact ⟨part, rest, plain, rfl, by omega⟩

/-- Three dots are enough for a cut. -/
theorem exists_cut (enough : 3 ≤ text.toList.count '.') :
    ∃ location mapset datatype layer, CutInto text location mapset datatype layer := by
  obtain ⟨location, rest, plainLocation, whole, enough⟩ := exists_part enough
  obtain ⟨mapset, others, plainMapset, split, enough⟩ := exists_part enough
  obtain ⟨datatype, layer, plainDatatype, last, -⟩ := exists_part enough
  refine ⟨.ofList location, .ofList mapset, .ofList datatype, .ofList layer, ?_, ?_, ?_, ?_⟩
  · apply String.toList_injective
    simp [whole, split, last]
  · simpa using plainLocation
  · simpa using plainMapset
  · simpa using plainDatatype

namespace CutInto

theorem toList (cut : CutInto text location mapset datatype layer) : text.toList =
    location.toList ++ '.' :: (mapset.toList ++ '.' :: (datatype.toList ++ '.' :: layer.toList)) := by
  have dot : ".".toList = ['.'] := rfl
  rw [cut.joined]
  simp only [String.toList_append, dot, List.append_assoc, List.cons_append, List.nil_append]

theorem parts?_eq (cut : CutInto text location mapset datatype layer) :
    parts? text.toList = some (location.toList, mapset.toList, datatype.toList, layer.toList) := by
  simp only [parts?, cut.toList, Text.splitFirst?_append cut.location,
    Text.splitFirst?_append cut.mapset, Text.splitFirst?_append cut.datatype, Option.bind_eq_bind,
    Option.bind_some, Option.pure_def]

theorem empty_iff : (location.toList.isEmpty || mapset.toList.isEmpty || datatype.toList.isEmpty ||
    layer.toList.isEmpty) = true ↔ "" ∈ [location, mapset, datatype, layer] := by
  simp only [Bool.or_eq_true, List.isEmpty_iff, String.toList_eq_nil_iff, List.mem_cons,
    List.not_mem_nil, or_false, or_assoc, @eq_comm _ ""]

/-- An empty part is found before the type is looked at. -/
theorem read_of_gap (cut : CutInto text location mapset datatype layer)
    (gap : "" ∈ [location, mapset, datatype, layer]) : read text = .error .shape := by
  rw [read, cut.parts?_eq]
  exact if_pos (empty_iff.mpr gap)

theorem read_of_known {known : Datatype} (cut : CutInto text location mapset known.text layer)
    (full : "" ∉ [location, mapset, known.text, layer]) :
    read text = .ok ⟨location, mapset, known, layer⟩ := by
  rw [read, cut.parts?_eq]
  simp only [if_neg (mt empty_iff.mp full), String.ofList_toList, Datatype.read?_text]

theorem read_of_foreign (cut : CutInto text location mapset datatype layer)
    (full : "" ∉ [location, mapset, datatype, layer]) (foreign : datatype ∉ Datatype.names) :
    read text = .error (.datatype datatype) := by
  rw [read, cut.parts?_eq]
  simp only [if_neg (mt empty_iff.mp full), String.ofList_toList,
    Datatype.read?_eq_none.mpr foreign]

end CutInto

/-- A text with fewer than three dots is not cut. -/
theorem read_of_few_dots (few : text.toList.count '.' < 3) : read text = .error .shape := by
  cases found : parts? text.toList with
  | none => rw [read, found]
  | some parts =>
    simp only [parts?, Option.bind_eq_bind, Option.bind_eq_some_iff] at found
    obtain ⟨⟨first, rest⟩, here, ⟨second, others⟩, there, ⟨third, last⟩, later, -⟩ := found
    have whole := Text.splitFirst?_eq_some here
    have split := Text.splitFirst?_eq_some there
    have lastSplit := Text.splitFirst?_eq_some later
    dsimp only at split lastSplit
    rw [whole, split, lastSplit] at few
    simp only [List.count_append, List.count_cons_self] at few
    omega

/-- Every text is read as one of three: it has too few dots or an empty part, it has a type that is
not known, or it is a reference. -/
theorem read_cases (text : String) :
    (read text = .error .shape ∧ (text.toList.count '.' < 3 ∨
      ∃ location mapset datatype layer, CutInto text location mapset datatype layer ∧
        "" ∈ [location, mapset, datatype, layer])) ∨
    ∃ location mapset datatype layer, CutInto text location mapset datatype layer ∧
      "" ∉ [location, mapset, datatype, layer] ∧
      ((datatype ∉ Datatype.names ∧ read text = .error (.datatype datatype)) ∨
        ∃ known : Datatype, datatype = known.text ∧
          read text = .ok ⟨location, mapset, known, layer⟩) := by
  by_cases few : text.toList.count '.' < 3
  · exact Or.inl ⟨read_of_few_dots few, Or.inl few⟩
  · obtain ⟨location, mapset, datatype, layer, cut⟩ := exists_cut (Nat.le_of_not_lt few)
    by_cases gap : "" ∈ [location, mapset, datatype, layer]
    · exact Or.inl ⟨cut.read_of_gap gap, Or.inr ⟨location, mapset, datatype, layer, cut, gap⟩⟩
    · right
      refine ⟨location, mapset, datatype, layer, cut, gap, ?_⟩
      by_cases named : datatype ∈ Datatype.names
      · obtain ⟨known, rfl⟩ := Datatype.mem_names.mp named
        exact Or.inr ⟨known, rfl, cut.read_of_known gap⟩
      · exact Or.inl ⟨named, cut.read_of_foreign gap named⟩

theorem read_ok : read text = .ok reference ↔
    CutInto text reference.location reference.mapset reference.datatype.text reference.layer ∧
      "" ∉ [reference.location, reference.mapset, reference.datatype.text, reference.layer] := by
  constructor
  · intro reads
    rcases read_cases text with ⟨shape, -⟩ | ⟨location, mapset, datatype, layer, cut, full, settled⟩
    · rw [reads] at shape
      cases shape
    · rcases settled with ⟨-, foreign⟩ | ⟨known, rfl, found⟩
      · rw [reads] at foreign
        cases foreign
      · rw [reads] at found
        cases found
        exact ⟨cut, full⟩
  · rintro ⟨cut, full⟩
    exact cut.read_of_known full

theorem read_shape : read text = .error .shape ↔ text.toList.count '.' < 3 ∨
    ∃ location mapset datatype layer, CutInto text location mapset datatype layer ∧
      "" ∈ [location, mapset, datatype, layer] := by
  constructor
  · intro reads
    rcases read_cases text with ⟨-, why⟩ | ⟨location, mapset, datatype, layer, -, -, settled⟩
    · exact why
    · rcases settled with ⟨-, foreign⟩ | ⟨known, -, found⟩
      · rw [reads] at foreign
        cases foreign
      · rw [reads] at found
        cases found
  · rintro (few | ⟨location, mapset, datatype, layer, cut, gap⟩)
    · exact read_of_few_dots few
    · exact cut.read_of_gap gap

theorem read_datatype {found : String} : read text = .error (.datatype found) ↔
    ∃ location mapset layer, CutInto text location mapset found layer ∧
      "" ∉ [location, mapset, found, layer] ∧ found ∉ Datatype.names := by
  constructor
  · intro reads
    rcases read_cases text with ⟨shape, -⟩ | ⟨location, mapset, datatype, layer, cut, full, settled⟩
    · rw [reads] at shape
      cases shape
    · rcases settled with ⟨named, foreign⟩ | ⟨known, -, known⟩
      · rw [reads] at foreign
        cases foreign
        exact ⟨location, mapset, layer, cut, full, named⟩
      · rw [reads] at known
        cases known
  · rintro ⟨location, mapset, layer, cut, full, foreign⟩
    exact cut.read_of_foreign full foreign

/-- A text is a reference exactly if it is cut into four parts with content of which the third one
is the name of a type; these are the parts of the reference. The text of a reference that was read
is the text that it was read from, so it is read as the same reference again. Otherwise a text has
too few dots or an empty part, or else a type that is not known, and which of them it is settles the
problem. -/
theorem read_language :
    (∀ text, (∃ reference, read text = .ok reference) ↔
      ∃ location mapset datatype layer, CutInto text location mapset datatype layer ∧
        "" ∉ [location, mapset, datatype, layer] ∧ datatype ∈ ["raster", "strds", "vector"]) ∧
    (∀ text reference, read text = .ok reference →
      CutInto text reference.location reference.mapset reference.datatype.text reference.layer ∧
      reference.text = text ∧ read reference.text = .ok reference ∧
      '.' ∉ reference.location.toList ∧ '.' ∉ reference.mapset.toList) ∧
    (∀ text, read text = .error .shape ↔ text.toList.count '.' < 3 ∨
      ∃ location mapset datatype layer, CutInto text location mapset datatype layer ∧
        "" ∈ [location, mapset, datatype, layer]) ∧
    ∀ text found, read text = .error (.datatype found) ↔
      ∃ location mapset layer, CutInto text location mapset found layer ∧
        "" ∉ [location, mapset, found, layer] ∧ found ∉ ["raster", "strds", "vector"] := by
  refine ⟨?_, ?_, fun text => read_shape, fun text found => read_datatype⟩
  · intro text
    constructor
    · rintro ⟨reference, reads⟩
      obtain ⟨cut, full⟩ := read_ok.mp reads
      exact ⟨_, _, _, _, cut, full, Datatype.mem_names.mpr ⟨reference.datatype, rfl⟩⟩
    · rintro ⟨location, mapset, datatype, layer, cut, full, named⟩
      obtain ⟨known, rfl⟩ := Datatype.mem_names.mp named
      exact ⟨⟨location, mapset, known, layer⟩, cut.read_of_known full⟩
  · intro text reference reads
    obtain ⟨cut, -⟩ := read_ok.mp reads
    have same : reference.text = text := cut.joined.symm
    exact ⟨cut, same, same ▸ reads, cut.location, cut.mapset⟩

/-- The layer of a reference keeps its dots, also two in a row and one at its end. -/
theorem dottedLayer_read :
    read "LL.sentinel.strds.S2A..B04." = .ok ⟨"LL", "sentinel", .strds, "S2A..B04."⟩ ∧
    Reference.text ⟨"LL", "sentinel", .strds, "S2A..B04."⟩ = "LL.sentinel.strds.S2A..B04." ∧
    '.' ∉ "LL".toList ∧ '.' ∉ "sentinel".toList := by
  have reads : read "LL.sentinel.strds.S2A..B04." = .ok ⟨"LL", "sentinel", .strds, "S2A..B04."⟩ :=
    rfl
  obtain ⟨-, written, -, location, mapset⟩ := read_language.2.1 _ _ reads
  exact ⟨reads, written, location, mapset⟩

example : read "nc..cell.elevation" = .error .shape := rfl

example : read "nc.PERMANENT.Raster.elevation" = .error (.datatype "Raster") := rfl

end Reference

end GeoChain
