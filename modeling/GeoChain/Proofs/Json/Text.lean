import GeoChain.Proofs.Json.Numerals
import GeoChain.Proofs.Json.Quoted
import GeoChain.Proofs.Json.Tidy

/-!
# Reading what was written

The compact text of a value is read back as the value in key order if its nesting is within the
bound of the reader, and refused if it is not. Whatever stops a value may follow it. This asks of
the value that its integers have 64 bits and that its floating-point numbers are read back from
their own texts.
-/

namespace GeoChain

namespace Json

open Reader

/-- The start of a value: no blank, and nothing that closes an array or an object. -/
def Opens (chars : List Char) : Prop :=
  ∃ c tail, chars = c :: tail ∧ ¬ isBlank c ∧ c ≠ ']' ∧ c ≠ '\x7d'

theorem Opens.ne_nil {chars : List Char} (opens : Opens chars) : chars ≠ [] := by
  obtain ⟨c, tail, rfl, -⟩ := opens
  exact List.cons_ne_nil c tail

section

variable {α β : Type} {text : β → List Char} {close : Char}
  {item? : List Char → Option (α × List Char)} {pieces : List β}

theorem items?_joined (fits : β → Bool) (content : β → α) (closes : close = ']' ∨ close = '\x7d')
    (reads : ∀ piece ∈ pieces, ∀ rest, Stops rest → item? (text piece ++ rest) =
      if fits piece then some (content piece, rest) else none)
    (nonempty : pieces ≠ []) {bound : Nat} (enough : pieces.length ≤ bound) (rest : List Char) :
    items? close item? bound ([','].intercalate (pieces.map text) ++ close :: rest) =
      if pieces.all fits then some (pieces.map content, rest) else none := by
  induction pieces generalizing bound with
  | nil => exact absurd rfl nonempty
  | cons piece others ih =>
    obtain ⟨bound, rfl⟩ : ∃ less, bound = less + 1 := ⟨bound - 1, by simp at enough; omega⟩
    obtain ⟨readPiece, readOthers⟩ := List.forall_mem_cons.mp reads
    cases others with
    | nil =>
      have stops : Stops (close :: rest) := stops_cons.mpr (.inr closes)
      have shown : skipBlanks (close :: rest) = close :: rest := by
        rcases closes with rfl | rfl <;> rfl
      have noComma : close ≠ ',' := by
        rcases closes with rfl | rfl <;> decide
      rw [List.map_singleton, List.intercalate_singleton, items?, readPiece _ stops]
      by_cases fit : fits piece
      · simp [fit, shown, noComma]
      · simp [fit]
    | cons next others =>
      have tail := ih readOthers (List.cons_ne_nil _ _) (Nat.le_of_succ_le_succ enough)
      rw [List.map_cons] at tail
      rw [List.map_cons, List.map_cons, List.intercalate_cons_cons, List.append_assoc,
        List.append_assoc, items?, List.singleton_append,
        readPiece _ (stops_cons.mpr (.inl rfl))]
      have shown : ∀ chars, skipBlanks (',' :: chars) = ',' :: chars := fun _ => rfl
      by_cases fit : fits piece
      · simp only [fit, if_true, shown, tail, List.all_cons, Bool.true_and]
        by_cases others : fits next && others.all fits
        · simp [others]
        · simp [others]
      · simp [fit]

theorem length_le_of_opens (opens : ∀ piece ∈ pieces, Opens (text piece)) :
    pieces.length ≤ ([','].intercalate (pieces.map text)).length := by
  induction pieces with
  | nil => exact Nat.zero_le _
  | cons piece others ih =>
    obtain ⟨here, later⟩ := List.forall_mem_cons.mp opens
    have positive := List.length_pos_iff.mpr here.ne_nil
    have rest := ih later
    cases others with
    | nil =>
      rw [List.map_singleton, List.intercalate_singleton, List.length_singleton]
      exact positive
    | cons next others =>
      rw [List.map_cons] at rest
      rw [List.map_cons, List.map_cons, List.intercalate_cons_cons, List.length_append,
        List.length_append, List.length_cons]
      omega

/-- A sequence is read if each of its items is. -/
theorem sequence?_joined (fits : β → Bool) (content : β → α) (closes : close = ']' ∨ close = '\x7d')
    (reads : ∀ piece ∈ pieces, ∀ rest, Stops rest → item? (text piece ++ rest) =
      if fits piece then some (content piece, rest) else none)
    (opens : ∀ piece ∈ pieces, Opens (text piece)) (rest : List Char) :
    sequence? close item? ([','].intercalate (pieces.map text) ++ close :: rest) =
      if pieces.all fits then some (pieces.map content, rest) else none := by
  have nonblank : skipBlanks (close :: rest) = close :: rest := by
    rcases closes with rfl | rfl <;> rfl
  cases pieces with
  | nil => simp [sequence?, nonblank]
  | cons piece others =>
    have long := length_le_of_opens opens
    obtain ⟨c, tail, chars, shown, noBracket, noBrace⟩ := opens piece List.mem_cons_self
    have noClose : c ≠ close := by
      rcases closes with rfl | rfl
      · exact noBracket
      · exact noBrace
    obtain ⟨more, joined⟩ : ∃ more, [','].intercalate ((piece :: others).map text) = c :: more := by
      rw [List.map_cons, chars, List.intercalate_cons_cons_left]
      exact ⟨_, rfl⟩
    have enough : (piece :: others).length ≤ (c :: (more ++ close :: rest)).length := by
      rw [joined] at long
      simp only [List.length_cons, List.length_append] at long ⊢
      omega
    have read := items?_joined fits content closes reads (List.cons_ne_nil _ _) enough rest
    rw [joined] at read ⊢
    rw [sequence?, List.cons_append, skipBlanks_cons shown]
    dsimp only
    rw [if_neg noClose, ← List.cons_append]
    exact read

end

/-- Integers of 64 bits, and numbers that are read back from their own texts. -/
def Printable : Json → Prop
  | int n => isExact n
  | float x => Json.read? x.jsonText = some (float x)
  | null | bool _ | string _ | array _ | object _ => True

theorem opens_of_isNumeric {chars : List Char} (nonempty : chars ≠ [])
    (numeric : ∀ c ∈ chars, isNumeric c) : Opens chars := by
  obtain ⟨c, tail, rfl⟩ := List.exists_cons_of_ne_nil nonempty
  have first : isNumeric c := numeric c List.mem_cons_self
  exact ⟨c, tail, rfl, not_isBlank_of_isNumeric first, ne_of_isNumeric first (by decide),
    ne_of_isNumeric first (by decide)⟩

theorem compactItems_eq (items : List Json) : compactItems items = items.map compact := by
  induction items with
  | nil => rfl
  | cons item rest ih => rw [compactItems, ih, List.map_cons]

/-- The text of a member of an object. -/
def memberText (entry : String × Json) : List Char :=
  (quote entry.1).toList ++ ':' :: entry.2.compact.toList

theorem toList_compact_array (items : List Json) : (array items).compact.toList =
    '[' :: ([','].intercalate (items.map fun item => item.compact.toList) ++ [']']) := by
  rw [compact, compactItems_eq, String.toList_append, String.toList_append,
    String.toList_intercalate, List.map_map]
  rfl

theorem toList_compact_object (members : List (String × Json)) : (object members).compact.toList =
    '\x7b' :: ([','].intercalate (members.map memberText) ++ ['\x7d']) := by
  have each : (compactMembers members).map String.toList = members.map memberText := by
    induction members with
    | nil => rfl
    | cons entry rest ih =>
      obtain ⟨key, value⟩ := entry
      rw [compactMembers, List.map_cons, List.map_cons, ih, String.toList_append,
        String.toList_append, List.append_assoc]
      rfl
  rw [compact, String.toList_append, String.toList_append, String.toList_intercalate, each]
  rfl

theorem opens_quote (text : String) (rest : List Char) : Opens ((quote text).toList ++ rest) := by
  rw [toList_quote]
  exact ⟨_, _, rfl, by decide, by decide, by decide⟩

theorem opens_memberText (entry : String × Json) : Opens (memberText entry) :=
  opens_quote entry.1 _

theorem opens_compact {value : Json} (printable : Printable value) : Opens value.compact.toList := by
  cases value with
  | null => exact ⟨_, _, rfl, by decide, by decide, by decide⟩
  | bool value =>
    cases value with
    | false => exact ⟨_, _, rfl, by decide, by decide, by decide⟩
    | true => exact ⟨_, _, rfl, by decide, by decide, by decide⟩
  | int n => exact opens_of_isNumeric (toString_ne_nil n) (isNumeric_toString n)
  | float x => exact opens_of_isNumeric (ne_nil_of_read printable) (isNumeric_jsonText x)
  | string text =>
    have opens := opens_quote text []
    rwa [List.append_nil] at opens
  | array items =>
    rw [toList_compact_array]
    exact ⟨_, _, rfl, by decide, by decide, by decide⟩
  | object members =>
    rw [toList_compact_object]
    exact ⟨_, _, rfl, by decide, by decide, by decide⟩

theorem member?_memberText {depth : Nat} {entry : String × Json}
    (read : ∀ rest, Stops rest → value? depth (entry.2.compact.toList ++ rest) =
      if entry.2.nesting ≤ depth then some (entry.2.inKeyOrder, rest) else none)
    (rest : List Char) (stops : Stops rest) :
    member? (value? depth) (memberText entry ++ rest) =
      if entry.2.nesting ≤ depth then some ((entry.1, entry.2.inKeyOrder), rest) else none := by
  obtain ⟨key, value⟩ := entry
  obtain ⟨inner, quoted, readKey⟩ := string?_quote key (':' :: (value.compact.toList ++ rest))
  have chars : memberText (key, value) ++ rest =
      '"' :: (inner ++ ':' :: (value.compact.toList ++ rest)) := by
    simp [memberText, quoted]
  have shown : ∀ chars, skipBlanks ('"' :: chars) = '"' :: chars := fun _ => rfl
  have colon : ∀ chars, skipBlanks (':' :: chars) = ':' :: chars := fun _ => rfl
  rw [chars, member?, shown]
  simp only [readKey, colon, read rest stops]
  split
  · simp
  · rfl

theorem value?_array (depth : Nat) {items : List Json} (opens : ∀ item ∈ items, Printable item)
    (read : ∀ item ∈ items, ∀ rest, Stops rest → value? depth (item.compact.toList ++ rest) =
      if item.nesting ≤ depth then some (item.inKeyOrder, rest) else none) (rest : List Char) :
    value? (depth + 1) ((array items).compact.toList ++ rest) =
      if (array items).nesting ≤ depth + 1 then some ((array items).inKeyOrder, rest) else none := by
  have within : (array items).nesting ≤ depth + 1 ↔
      items.all fun item => decide (item.nesting ≤ depth) := by
    simp [nesting, nestingItems_le]
  have joined := sequence?_joined (fun item => decide (item.nesting ≤ depth)) inKeyOrder (.inl rfl)
    (by simpa using read) (fun item member => opens_compact (opens item member)) rest
  have shown : ∀ chars, skipBlanks ('[' :: chars) = '[' :: chars := fun _ => rfl
  rw [toList_compact_array, List.cons_append, List.append_assoc, List.singleton_append, value?,
    shown]
  simp only [joined, within, inKeyOrder_array]
  split <;> rfl

theorem value?_object (depth : Nat) {members : List (String × Json)}
    (read : ∀ entry ∈ members, ∀ rest, Stops rest →
      value? depth (entry.2.compact.toList ++ rest) =
        if entry.2.nesting ≤ depth then some (entry.2.inKeyOrder, rest) else none)
    (rest : List Char) : value? (depth + 1) ((object members).compact.toList ++ rest) =
      if (object members).nesting ≤ depth + 1 then some ((object members).inKeyOrder, rest)
      else none := by
  have within : (object members).nesting ≤ depth + 1 ↔
      members.all fun entry => decide (entry.2.nesting ≤ depth) := by
    simp [nesting, nestingMembers_le]
  have each : ∀ entry ∈ members, ∀ rest, Stops rest →
      member? (value? depth) (memberText entry ++ rest) =
        if decide (entry.2.nesting ≤ depth) then some ((entry.1, entry.2.inKeyOrder), rest)
        else none := by
    intro entry member rest stops
    rw [member?_memberText (read entry member) rest stops]
    simp only [decide_eq_true_eq]
  have joined := sequence?_joined (fun entry => decide (entry.2.nesting ≤ depth))
    (fun entry => (entry.1, entry.2.inKeyOrder)) (.inr rfl) each
    (fun entry _ => opens_memberText entry) rest
  have shown : ∀ chars, skipBlanks ('\x7b' :: chars) = '\x7b' :: chars := fun _ => rfl
  rw [toList_compact_object, List.cons_append, List.append_assoc, List.singleton_append, value?,
    shown]
  simp only [joined, within, inKeyOrder_object]
  split <;> rfl

theorem value?_flat {value : Json} {depth : Nat} {rest : List Char} (flat : value.nesting = 0)
    (same : value.inKeyOrder = value)
    (read : value? depth (value.compact.toList ++ rest) = some (value, rest)) :
    value? depth (value.compact.toList ++ rest) =
      if value.nesting ≤ depth then some (value.inKeyOrder, rest) else none := by
  rw [flat, if_pos (Nat.zero_le depth), same, read]

/-- The text of a value is read back as the value in key order, as far as the bound allows. -/
theorem value?_compact {value : Json} (printable : Throughout Printable value) (depth : Nat)
    (rest : List Char) (stops : Stops rest) : value? depth (value.compact.toList ++ rest) =
      if value.nesting ≤ depth then some (value.inKeyOrder, rest) else none := by
  -- Every array and object takes one from the bound, so the induction is for all bounds.
  induction value using nesting_induction generalizing depth rest with
  | step value ih =>
    obtain ⟨here, each⟩ := throughout_iff.mp printable
    cases value with
    | null => exact value?_flat rfl rfl (value?_scalar depth (by decide) (by decide) (by decide) _)
    | bool value =>
      cases value with
      | false =>
        exact value?_flat rfl rfl (value?_scalar depth (by decide) (by decide) (by decide) _)
      | true =>
        exact value?_flat rfl rfl (value?_scalar depth (by decide) (by decide) (by decide) _)
    | int n => exact value?_flat rfl rfl (value?_toString depth here stops)
    | float x => exact value?_flat rfl rfl (value?_of_read depth (isNumeric_jsonText x) here stops)
    | string text =>
      obtain ⟨inner, chars, read⟩ := string?_quote text rest
      refine value?_flat rfl rfl ?_
      rw [compact, chars, List.cons_append,
        value?_scalar depth (by decide) (by decide) (by decide), scalar?, read]
      simp
    | array items =>
      cases depth with
      | zero =>
        rw [toList_compact_array, nesting, if_neg (Nat.not_succ_le_zero _)]
        rfl
      | succ depth =>
        exact value?_array depth (fun item member => (throughout_iff.mp (each item member)).1)
          (fun item member => ih item (nesting_item member) (each item member) depth) rest
    | object members =>
      have inner := (throughout_object.mp printable).2
      cases depth with
      | zero =>
        rw [toList_compact_object, nesting, if_neg (Nat.not_succ_le_zero _)]
        rfl
      | succ depth =>
        exact value?_object depth
          (fun entry member => ih entry.2 (nesting_member member) (inner entry member) depth) rest

/-- A value is read back from its text, in key order, unless it is nested too deeply. -/
theorem read?_compact {value : Json} (printable : Throughout Printable value) :
    Json.read? value.compact =
      if value.nesting ≤ maxNesting then some value.inKeyOrder else none := by
  have read := value?_compact printable maxNesting [] stops_nil
  rw [List.append_nil] at read
  rw [Json.read?, read]
  by_cases within : value.nesting ≤ maxNesting
  · simp [within, skipBlanks]
  · simp [within]

end Json

end GeoChain
