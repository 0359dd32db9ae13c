import GeoChain.Backend.Client
import GeoChain.Proofs.Outcome
import GeoChain.Proofs.Url.Join

/-!
# Where chains are posted

The endpoint of a location keeps the scheme, the host and the port of the settings, and has neither
a query nor a fragment. It stands below `locations`, with the name as one segment, exactly if the
name is one segment: the check of names lets dot segments pass that are written with `%2e`,
backslashes, and characters that a reference ignores. Since a `%` is not encoded, only names without
it are known to have endpoints of their own.
-/

namespace GeoChain

namespace Client

variable {client : Client} {location : String}

/-- The name of an accepted location has no mark that would cut a reference. -/
theorem notMem_of_isLocationName (accepted : isLocationName location) :
    '/' ∉ location.toList ∧ '?' ∉ location.toList ∧ '#' ∉ location.toList := by
  rw [isLocationName, Bool.and_eq_true] at accepted
  have each := List.all_eq_true.mp accepted.2
  refine ⟨fun member => ?_, fun member => ?_, fun member => ?_⟩
  · exact absurd (each _ member) (by decide)
  · exact absurd (each _ member) (by decide)
  · exact absurd (each _ member) (by decide)

theorem toList_reference (location : String) :
    ("locations/" ++ location ++ "/processing_async_export").toList =
      Url.between "locations".toList location.toList "processing_async_export".toList := by
  have first : "locations/".toList = "locations".toList ++ ['/'] := by simp
  have last : "/processing_async_export".toList =
      '/' :: "processing_async_export".toList := by simp
  rw [String.toList_append, String.toList_append, first, last]
  generalize "locations".toList = first
  generalize "processing_async_export".toList = last
  simp [Url.between]

theorem scheme_of_canSendTo {url : Url} (web : canSendTo url) :
    url.scheme ≠ "file" ∧ Url.isSpecial url.scheme := by
  rw [canSendTo, Bool.or_eq_true, decide_eq_true_eq, decide_eq_true_eq] at web
  rcases web with http | https
  · rw [http]
    decide
  · rw [https]
    decide

/-- Where the endpoint of an accepted location is: its name is walked through below `locations`. -/
theorem processingEndpoint_eq (web : canSendTo client.settings.url)
    (based : client.settings.url.canBeBase) (accepted : isLocationName location) :
    client.processingEndpoint location = .ok { client.settings.url with
      path := .segments (Url.walk (client.settings.base.lead ++ ["locations".toList])
        (Url.splitSlashes client.settings.url.scheme (Url.heeded location.toList)) ++
          ["processing_async_export".toList]),
      query := none, fragment := none } := by
  obtain ⟨notFile, -⟩ := scheme_of_canSendTo web
  obtain ⟨-, noQuery, noFragment⟩ := notMem_of_isLocationName accepted
  have based : client.settings.base.canBeBase := by
    rw [Settings.base, Url.canBeBase, (Url.directory_path notFile based).2]
  have words : Url.IsWord "locations".toList ∧ Url.IsWord "processing_async_export".toList := by
    decide
  have notFileBase : client.settings.base.scheme ≠ "file" := notFile
  rw [processingEndpoint, if_pos accepted, endpoint, Url.join?_between notFileBase based
    (toList_reference location) words.1 words.2 noQuery noFragment]
  rfl

/-- The name of an accepted location becomes a segment below `locations` exactly if it is one. -/
theorem processingEndpoint_path (web : canSendTo client.settings.url)
    (based : client.settings.url.canBeBase) (accepted : isLocationName location) :
    ∃ path, client.processingEndpoint location = .ok { client.settings.url with
        path := .segments path, query := none, fragment := none } ∧
      (path = client.settings.base.lead ++ ["locations".toList,
        Url.encode Url.inPath location.toList, "processing_async_export".toList] ↔
          Url.IsOneSegment location.toList) := by
  refine ⟨_, processingEndpoint_eq web based accepted, ?_⟩
  have shape : client.settings.base.lead ++ ["locations".toList,
      Url.encode Url.inPath location.toList, "processing_async_export".toList] =
      (client.settings.base.lead ++ ["locations".toList]) ++
        [Url.encode Url.inPath location.toList] ++ ["processing_async_export".toList] := by
    simp only [List.append_assoc, List.cons_append, List.nil_append]
  rw [shape, List.append_cancel_right_eq]
  exact Url.walk_name (scheme_of_canSendTo web).2 (notMem_of_isLocationName accepted).1

/-- The endpoint of an accepted location is the URL of the settings with another path. The path
leads below `locations`, with the name as one segment, exactly if the name is one. Two such names
without `%` have different endpoints. -/
theorem processingEndpoint_below (client : Client) (web : canSendTo client.settings.url)
    (based : client.settings.url.canBeBase) : ∃ above : List (List Char),
      (client.settings.url.path = .segments above ∧ above.getLast? ≠ some [] ∨
        client.settings.url.path = .segments (above ++ [[]])) ∧
      (∀ location, ¬ isLocationName location →
        client.processingEndpoint location = .error (locationRefused location)) ∧
      (∀ location, isLocationName location → ∃ path,
        client.processingEndpoint location = .ok { client.settings.url with
          path := .segments path, query := none, fragment := none } ∧
        (path = above ++ ["locations".toList, Url.encode Url.inPath location.toList,
          "processing_async_export".toList] ↔ Url.IsOneSegment location.toList)) ∧
      ∀ first second, isLocationName first → isLocationName second →
        Url.IsOneSegment first.toList → Url.IsOneSegment second.toList →
        '%' ∉ first.toList → '%' ∉ second.toList →
        client.processingEndpoint first = client.processingEndpoint second → first = second := by
  obtain ⟨notFile, -⟩ := scheme_of_canSendTo web
  have below := fun location (accepted : isLocationName location) =>
    processingEndpoint_path web based accepted
  refine ⟨client.settings.base.lead, (Url.directory_path notFile based).1, ?_, below, ?_⟩
  · intro location refused
    rw [processingEndpoint, if_neg refused]
  · intro first second accepted alsoAccepted one other plain alsoPlain same
    obtain ⟨path, here, named⟩ := below first accepted
    obtain ⟨otherPath, there, otherNamed⟩ := below second alsoAccepted
    rw [here, there, named.mpr one, otherNamed.mpr other] at same
    have paths := Url.Path.segments.inj (congrArg Url.path (Except.ok.inj same))
    have names := (List.cons.inj (List.cons.inj (List.append_cancel_left paths)).2).1
    exact String.toList_inj.mp (Url.encode_inj plain alsoPlain names)

/-- The endpoint of a location on this machine. -/
theorem standard_processingEndpoint :
    Url.read? "http://127.0.0.1:8088/api/v3/" = some Settings.standard.url ∧
    canSendTo Settings.standard.url ∧ Settings.standard.url.canBeBase ∧
    isLocationName "nc" ∧ Url.IsOneSegment "nc".toList ∧
    (⟨.standard⟩ : Client).processingEndpoint "nc" = .ok { Settings.standardUrl with
      path := .segments ["api".toList, "v3".toList, "locations".toList, "nc".toList,
        "processing_async_export".toList] } := by
  have read : Url.read? "http://127.0.0.1:8088/api/v3/" = some Settings.standard.url := by
    decide +kernel
  have web : canSendTo Settings.standard.url := by decide
  have based : Settings.standard.url.canBeBase :=
    Url.read?_canBeBase read (scheme_of_canSendTo web).2
  have accepted : isLocationName "nc" := by decide
  have one : Url.IsOneSegment "nc".toList := by decide
  refine ⟨read, web, based, accepted, one, ?_⟩
  obtain ⟨above, closed, -, below, -⟩ := processingEndpoint_below ⟨.standard⟩ web based
  obtain ⟨path, endpoint, named⟩ := below "nc" accepted
  have lead : above = ["api".toList, "v3".toList] := by
    rcases closed with ⟨whole, noSlash⟩ | slash
    · rw [← Url.Path.segments.inj whole] at noSlash
      exact absurd rfl noSlash
    · exact (List.append_inj' (Url.Path.segments.inj slash).symm rfl).1
  rw [endpoint, named.mpr one, lead]
  rfl

/-- An accepted name that leads out of the locations, and two accepted names with one endpoint. -/
theorem encodedDots_leave :
    isLocationName "%2e%2e" ∧ (⟨.standard⟩ : Client).processingEndpoint "%2e%2e" =
      .ok { Settings.standardUrl with
        path := .segments ["api".toList, "v3".toList, "processing_async_export".toList] } ∧
    isLocationName "a b" ∧ isLocationName "a%20b" ∧
    (⟨.standard⟩ : Client).processingEndpoint "a b" =
      (⟨.standard⟩ : Client).processingEndpoint "a%20b" := by
  have web : canSendTo Settings.standard.url := by decide
  have based : Settings.standard.url.canBeBase := by decide
  have endpoint := fun name (accepted : isLocationName name) =>
    @processingEndpoint_eq ⟨.standard⟩ name web based accepted
  have dots : isLocationName "%2e%2e" := by decide
  have blank : isLocationName "a b" := by decide
  have encoded : isLocationName "a%20b" := by decide
  refine ⟨dots, (endpoint _ dots).trans ?_, blank, encoded, ?_⟩
  · rfl
  · refine (endpoint _ blank).trans (.trans ?_ (endpoint _ encoded).symm)
    rfl

end Client

end GeoChain
