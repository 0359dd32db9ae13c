import GeoChain.Proofs.Calendar.Stamp
import GeoChain.Proofs.Compile.MainInput
import GeoChain.Proofs.Process.Stage

/-!
# The condition of a range of time

The bounds of a range are texts of the client that are put into a condition between quotes. A bound
that is accepted is a stamp, and stamps have no quotes, so the condition has the quotes that it is
written with and no others. Blanks around the bounds are trimmed off and change nothing.
-/

namespace GeoChain

namespace Process

namespace FilterDaterange

/-- The quote that stands around the bounds in a condition. -/
def quote : Char := '\x27'

theorem quote_not_stamped : ¬ Calendar.IsStamped quote := by decide

variable {arguments other : Arguments} {made : Draft}

theorem quote_notMem_bound {text : String} (proper : Calendar.Stamp.isBound text.toList) :
    quote ∉ text.toList :=
  fun member => quote_not_stamped (Calendar.Stamp.isBound_stamped proper quote member)

/-- Marks in a text that is put together from three fixed parts and two others. -/
theorem count_between {mark : Char} {opening middle closing : String}
    (first : opening.toList.count mark = 1) (second : middle.toList.count mark = 2)
    (last : closing.toList.count mark = 1) (start stop : String) :
    (opening ++ start ++ middle ++ stop ++ closing).toList.count mark =
      start.toList.count mark + stop.toList.count mark + 4 := by
  simp only [String.toList_append, List.count_append, first, second, last]
  omega

/-- A condition has four quotes of its own. -/
theorem count_condition (start stop : String) : (condition start stop).toList.count quote =
    start.toList.count quote + stop.toList.count quote + 4 :=
  count_between (by decide +kernel) (by decide +kernel) (by decide +kernel) start stop

/-- The other call differs in the blanks around its bounds at most, and in arguments that are not
looked at. -/
structure Respaced (arguments other : Arguments) : Prop where
  main : Arguments.AgreeOn [Arguments.mainName, Arguments.fallbackName] arguments other
  bounds : ∀ name ∈ ["from", "to"],
    (arguments.text? name).map Text.trim = (other.text? name).map Text.trim

theorem Respaced.bound_ok (respaced : Respaced arguments other) {name found : String}
    (bounds : name ∈ ["from", "to"]) (accepted : bound name arguments = .ok found) :
    bound name other = .ok found := by
  obtain ⟨text, held, proper, rfl⟩ := FilterDaterange.bound_ok.mp accepted
  have same := respaced.bounds name bounds
  rw [held] at same
  obtain ⟨otherText, otherHeld, trimmed⟩ := Option.map_eq_some_iff.mp same.symm
  exact FilterDaterange.bound_ok.mpr ⟨otherText, otherHeld, trimmed.symm ▸ proper, trimmed.symm⟩

theorem Respaced.draft_ok (respaced : Respaced arguments other)
    (drafted : draft arguments = .ok made) : draft other = .ok made := by
  simp only [draft, Outcome.bind_eq_ok] at drafted ⊢
  obtain ⟨input, main, start, startBound, stop, stopBound, rest⟩ := drafted
  have sameMain := Arguments.primarySingle_congr respaced.main List.mem_cons_self
    (List.mem_cons_of_mem _ List.mem_cons_self)
  exact ⟨input, sameMain ▸ main, start, respaced.bound_ok (by decide) startBound, stop,
    respaced.bound_ok (by decide) stopBound, rest⟩

/-- A call that succeeds runs one command, whose condition has the trimmed bounds between its four
quotes and no other quote. Blanks around the bounds change nothing but the id of the command. -/
theorem emit_quotes {context after : Context} {product : Product}
    (called : (emit arguments).execute context = (.ok product, after)) :
    ∃ start stop dataset command condition,
      arguments.text? "from" = some start ∧ arguments.text? "to" = some stop ∧
      product = ⟨[dataset], [command]⟩ ∧
      command.inputs.map (·.param) = ["input", "where"] ∧
      command.input? "where" = some condition ∧
      condition = "start_time >= '" ++ Text.trim start ++ "' AND end_time <= '" ++
        Text.trim stop ++ "'" ∧
      quote ∉ (Text.trim start).toList ∧ quote ∉ (Text.trim stop).toList ∧
      condition.toList.count quote = 4 ∧
      ∀ other later, Respaced arguments other →
        ∃ id left, (emit other).execute later =
          (.ok ⟨[dataset], [{ command with id := id }]⟩, left) := by
  obtain ⟨made, drafted, rfl, -⟩ := emit_follows.made called
  have unpacked := drafted
  simp only [draft, Outcome.bind_eq_ok, Outcome.pure_eq, Except.ok.injEq] at unpacked
  obtain ⟨input, -, start, startBound, stop, stopBound, rfl⟩ := unpacked
  obtain ⟨first, firstHeld, firstProper, rfl⟩ := bound_ok.mp startBound
  obtain ⟨last, lastHeld, lastProper, rfl⟩ := bound_ok.mp stopBound
  have firstClean := quote_notMem_bound firstProper
  have lastClean := quote_notMem_bound lastProper
  refine ⟨first, last, _, _, _, firstHeld, lastHeld, rfl, rfl, rfl, rfl, firstClean, lastClean,
    ?_, ?_⟩
  · rw [count_condition, List.count_eq_zero.mpr firstClean, List.count_eq_zero.mpr lastClean]
  · intro other later respaced
    exact ⟨_, _, emit_follows.does later (respaced.draft_ok drafted)⟩

/-- A call whose bounds have an offset, annotations, and blanks around them. -/
def annotatedRange : Arguments := ⟨.sanitize name, [
  ("from", .literal (.string " 2001-01-01T00:00+01:00[Europe/Berlin][u-ca=gregory]\n")),
  ("imagery", .data ["rain@climate"]),
  ("to", .literal (.string "\t2005-01-01"))]⟩

/-- The same call without the blanks. -/
def trimmedRange : Arguments := ⟨.sanitize name, [
  ("from", .literal (.string "2001-01-01T00:00+01:00[Europe/Berlin][u-ca=gregory]")),
  ("imagery", .data ["rain@climate"]),
  ("to", .literal (.string "2005-01-01"))]⟩

theorem annotatedRange_respaced : Respaced annotatedRange trimmedRange :=
  ⟨⟨rfl, by decide⟩, by decide +kernel⟩

theorem annotatedRange_quotes :
    ∃ product after, (emit annotatedRange).execute (.new (.sequential 1)) = (.ok product, after) ∧
      Respaced annotatedRange trimmedRange ∧
      ∃ dataset command, product = ⟨[dataset], [command]⟩ ∧
        command.input? "where" = some ("start_time >= '" ++
          "2001-01-01T00:00+01:00[Europe/Berlin][u-ca=gregory]" ++ "' AND end_time <= '" ++
          "2005-01-01" ++ "'") ∧
        ∃ id left, (emit trimmedRange).execute (.new (.sequential 7)) =
          (.ok ⟨[dataset], [{ command with id := id }]⟩, left) := by
  have main : annotatedRange.primarySingle = .ok "rain@climate" := rfl
  have first : bound "from" annotatedRange =
      .ok "2001-01-01T00:00+01:00[Europe/Berlin][u-ca=gregory]" :=
    bound_ok.mpr ⟨_, rfl, by decide +kernel, by decide +kernel⟩
  have last : bound "to" annotatedRange = .ok "2005-01-01" :=
    bound_ok.mpr ⟨_, rfl, by decide +kernel, by decide +kernel⟩
  have drafted : ∃ made, draft annotatedRange = .ok made := by
    rw [draft, main, first, last]
    exact ⟨_, rfl⟩
  obtain ⟨made, drafted⟩ := drafted
  have called := emit_follows.does (.new (.sequential 1)) drafted
  obtain ⟨start, stop, dataset, command, _, firstHeld, lastHeld, same, -, written, rfl, -, -, -,
    respaced⟩ := emit_quotes called
  cases firstHeld
  cases lastHeld
  refine ⟨_, _, called, annotatedRange_respaced, dataset, command, same, ?_,
    respaced trimmedRange _ annotatedRange_respaced⟩
  have trimmed : Text.trim " 2001-01-01T00:00+01:00[Europe/Berlin][u-ca=gregory]\n" =
      "2001-01-01T00:00+01:00[Europe/Berlin][u-ca=gregory]" := by decide +kernel
  have trimmedLast : Text.trim "\t2005-01-01" = "2005-01-01" := by decide +kernel
  rw [written, trimmed, trimmedLast]

end FilterDaterange

end Process

end GeoChain
