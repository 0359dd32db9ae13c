import GeoChain.Json.Printer
import GeoChain.Json.Reader
import Mathlib.Data.List.TakeWhile
import Mathlib.Tactic.SplitIfs

/-!
# Written numbers

What is read of a number does not depend on what follows it, if that is a comma or a closing
bracket. An integer is written in decimal digits without a leading zero, so it is read back.
-/

namespace GeoChain

namespace Json

open Reader

/-- What may follow a value: nothing, a comma or a closing bracket. -/
def Stops (rest : List Char) : Prop := ∀ c ∈ rest.head?, c = ',' ∨ c = ']' ∨ c = '\x7d'

theorem stops_nil : Stops [] := nofun

theorem stops_cons {c : Char} {rest : List Char} :
    Stops (c :: rest) ↔ c = ',' ∨ c = ']' ∨ c = '\x7d' := by
  simp [Stops]

variable {rest : List Char}

@[elab_as_elim]
theorem Stops.elim {motive : List Char → Prop} (stops : Stops rest) (nil : motive [])
    (comma : ∀ tail, motive (',' :: tail)) (bracket : ∀ tail, motive (']' :: tail))
    (brace : ∀ tail, motive ('\x7d' :: tail)) : motive rest := by
  cases rest with
  | nil => exact nil
  | cons c tail =>
    rcases stops_cons.mp stops with rfl | rfl | rfl
    · exact comma tail
    · exact bracket tail
    · exact brace tail

theorem digits_append (stops : Stops rest) (chars : List Char) :
    digits (chars ++ rest) = ((digits chars).1, (digits chars).2 ++ rest) := by
  induction chars with
  | nil => exact stops.elim rfl (fun _ => rfl) (fun _ => rfl) (fun _ => rfl)
  | cons c chars ih =>
    by_cases digit : c.isDigit
    · simp only [digits, List.cons_append, List.takeWhile_cons_of_pos digit,
        List.dropWhile_cons_of_pos digit, List.map_cons, Prod.mk.injEq] at ih ⊢
      exact ⟨congrArg _ ih.1, ih.2⟩
    · simp [digits, digit]

/-- The sign of an exponent, and what follows it. -/
def exponentSign : List Char → Bool × List Char
  | '-' :: rest => (true, rest)
  | '+' :: rest => (false, rest)
  | rest => (false, rest)

def exponentPlaces? (negative : Bool) (chars : List Char) : Option (Option Int × List Char) :=
  if (digits chars).1.isEmpty then none
  else
    let size : Nat := (digits chars).1.foldl (fun value digit => 10 * value + digit) 0
    some (some (if negative then -(size : Int) else size), (digits chars).2)

theorem exponent?_cons (mark : Char) (chars : List Char) : exponent? (mark :: chars) =
    if mark = 'e' ∨ mark = 'E' then
      exponentPlaces? (exponentSign chars).1 (exponentSign chars).2
    else some (none, mark :: chars) := by
  rw [exponent?.eq_def]
  by_cases marked : mark = 'e' ∨ mark = 'E'
  · simp only [if_pos marked]
    rfl
  · simp only [if_neg marked]

theorem signed_append (stops : Stops rest) (chars : List Char) :
    exponentSign (chars ++ rest) = ((exponentSign chars).1, (exponentSign chars).2 ++ rest) := by
  cases chars with
  | nil => exact stops.elim rfl (fun _ => rfl) (fun _ => rfl) (fun _ => rfl)
  | cons c chars =>
    by_cases minus : c = '-'
    · rw [minus]
      rfl
    · by_cases plus : c = '+'
      · rw [plus]
        rfl
      · simp [exponentSign, minus, plus]

theorem fraction?_append (stops : Stops rest) (chars : List Char) :
    fraction? (chars ++ rest) =
      (fraction? chars).map fun (places, after) => (places, after ++ rest) := by
  cases chars with
  | nil => exact stops.elim rfl (fun _ => rfl) (fun _ => rfl) (fun _ => rfl)
  | cons c chars =>
    by_cases point : c = '.'
    · subst point
      rw [List.cons_append, fraction?, fraction?, digits_append stops]
      by_cases none : (digits chars).1.isEmpty <;> simp [none]
    · rw [List.cons_append, fraction?, fraction?]
      · rfl
      · simpa using point
      · simpa using point

/-- The digits of an exponent, after its mark and its sign. -/
theorem places_append (stops : Stops rest) (negative : Bool) (chars : List Char) :
    exponentPlaces? negative (chars ++ rest) =
      (exponentPlaces? negative chars).map fun (size, after) => (size, after ++ rest) := by
  rw [exponentPlaces?, exponentPlaces?, digits_append stops]
  by_cases none : (digits chars).1.isEmpty <;> simp [none]

theorem exponent?_append (stops : Stops rest) (chars : List Char) :
    exponent? (chars ++ rest) =
      (exponent? chars).map fun (size, after) => (size, after ++ rest) := by
  cases chars with
  | nil => exact stops.elim rfl (fun _ => rfl) (fun _ => rfl) (fun _ => rfl)
  | cons c chars =>
    rw [List.cons_append, exponent?_cons, exponent?_cons]
    by_cases mark : c = 'e' ∨ c = 'E'
    · rw [if_pos mark, if_pos mark, signed_append stops]
      exact places_append stops _ _
    · rw [if_neg mark, if_neg mark]
      rfl

/-- The sign of a number, and what follows it. -/
def numeralSign : List Char → Bool × List Char
  | '-' :: rest => (true, rest)
  | rest => (false, rest)

/-- A number after its sign. -/
def unsigned? (negative : Bool) (chars : List Char) : Option (Numeral × List Char) := do
  let whole := (digits chars).1
  guard (¬ whole.isEmpty ∧ ¬ (whole.head? = some 0 ∧ 1 < whole.length))
  let (fraction, chars) ← fraction? (digits chars).2
  let (exponent, chars) ← exponent? chars
  return (⟨negative, whole, fraction, exponent⟩, chars)

theorem numeral?_eq (chars : List Char) :
    numeral? chars = unsigned? (numeralSign chars).1 (numeralSign chars).2 := rfl

theorem numeralSign_append (stops : Stops rest) (chars : List Char) :
    numeralSign (chars ++ rest) = ((numeralSign chars).1, (numeralSign chars).2 ++ rest) := by
  cases chars with
  | nil => exact stops.elim rfl (fun _ => rfl) (fun _ => rfl) (fun _ => rfl)
  | cons c chars =>
    by_cases minus : c = '-'
    · rw [minus]
      rfl
    · simp [numeralSign, minus]

theorem unsigned?_append (stops : Stops rest) (negative : Bool) (chars : List Char) :
    unsigned? negative (chars ++ rest) =
      (unsigned? negative chars).map fun (n, after) => (n, after ++ rest) := by
  have lead : (digits (chars ++ rest)).1 = (digits chars).1 := by rw [digits_append stops]
  have tail : (digits (chars ++ rest)).2 = (digits chars).2 ++ rest := by
    rw [digits_append stops]
  rw [unsigned?, unsigned?, lead, tail, fraction?_append stops]
  generalize (guard (¬ (digits chars).1.isEmpty ∧ ¬ ((digits chars).1.head? = some 0 ∧
    1 < (digits chars).1.length)) : Option Unit) = accepted
  cases fraction? (digits chars).2 with
  | none => simp
  | some fraction =>
    obtain ⟨places, after⟩ := fraction
    simp only [Option.map_some, Option.bind_eq_bind, Option.bind_some, exponent?_append stops]
    cases exponent? after with
    | none => simp
    | some exponent =>
      cases accepted with
      | none => rfl
      | some => rfl

/-- What is read of a number does not depend on what follows it. -/
theorem numeral?_append (stops : Stops rest) (chars : List Char) :
    numeral? (chars ++ rest) =
      (numeral? chars).map fun (n, after) => (n, after ++ rest) := by
  rw [numeral?_eq, numeral?_eq, numeralSign_append stops]
  exact unsigned?_append stops _ _

theorem mem_of_digits {c : Char} {chars : List Char} (member : c ∈ (digits chars).2) :
    c ∈ chars :=
  (List.dropWhile_suffix _).subset member

theorem mem_of_fraction? {chars after : List Char} {places : Option (List Nat)}
    (read : fraction? chars = some (places, after)) {c : Char} (member : c ∈ after) :
    c ∈ chars := by
  rw [fraction?.eq_def] at read
  split at read
  · rename_i inner
    dsimp only at read
    split at read
    · cases read
    · cases read
      exact List.mem_cons_of_mem _ (mem_of_digits member)
  · cases read
    exact member

theorem mem_of_exponentSign {c : Char} {chars : List Char}
    (member : c ∈ (exponentSign chars).2) : c ∈ chars := by
  rw [exponentSign.eq_def] at member
  split at member
  · exact List.mem_cons_of_mem _ member
  · exact List.mem_cons_of_mem _ member
  · exact member

theorem mem_of_exponent? {chars after : List Char} {size : Option Int}
    (read : exponent? chars = some (size, after)) {c : Char} (member : c ∈ after) :
    c ∈ chars := by
  cases chars with
  | nil =>
    cases read
    exact member
  | cons mark chars =>
    rw [exponent?_cons, exponentPlaces?] at read
    split at read
    · split at read
      · cases read
      · cases read
        exact List.mem_cons_of_mem _ (mem_of_exponentSign (mem_of_digits member))
    · cases read
      exact member

/-- What follows a number is the end of what it was read from. -/
theorem mem_of_numeral? {chars after : List Char} {n : Numeral}
    (read : numeral? chars = some (n, after)) {c : Char} (member : c ∈ after) : c ∈ chars := by
  have signed : ∀ {c : Char}, c ∈ (numeralSign chars).2 → c ∈ chars := by
    intro c member
    rw [numeralSign.eq_def] at member
    split at member
    · exact List.mem_cons_of_mem _ member
    · exact member
  rw [numeral?_eq, unsigned?] at read
  obtain ⟨-, -, read⟩ := Option.bind_eq_some_iff.mp read
  obtain ⟨⟨places, middle⟩, fraction, read⟩ := Option.bind_eq_some_iff.mp read
  obtain ⟨⟨size, last⟩, exponent, read⟩ := Option.bind_eq_some_iff.mp read
  cases read
  exact signed (mem_of_digits (mem_of_fraction? fraction (mem_of_exponent? exponent member)))

/-- The characters that numbers are written with. -/
def isNumeric (c : Char) : Bool := c.isDigit || c = '-' || c = '+' || c = '.' || c = 'e'

theorem skipBlanks_cons {c : Char} (shown : ¬ isBlank c) (chars : List Char) :
    skipBlanks (c :: chars) = c :: chars :=
  List.dropWhile_cons_of_neg shown

/-- Only arrays and objects are read by their depth. -/
theorem value?_scalar (depth : Nat) {c : Char} (shown : ¬ isBlank c) (list : c ≠ '[')
    (object : c ≠ '\x7b') (chars : List Char) :
    value? depth (c :: chars) = scalar? (c :: chars) := by
  cases depth with
  | zero => rw [value?, skipBlanks_cons shown]
  | succ depth =>
    rw [value?, skipBlanks_cons shown]
    split
    · rename_i same
      exact absurd (List.cons.inj same).1 list
    · rename_i same
      exact absurd (List.cons.inj same).1 object
    · rfl

theorem ne_of_isNumeric {c d : Char} (numeric : isNumeric c) (odd : ¬ isNumeric d) : c ≠ d := by
  rintro rfl
  exact odd numeric

theorem not_isBlank_of_isNumeric {c : Char} (numeric : isNumeric c) : ¬ isBlank c := by
  have notSpace : c ≠ ' ' := ne_of_isNumeric numeric (by decide)
  have notLine : c ≠ '\n' := ne_of_isNumeric numeric (by decide)
  have notTab : c ≠ '\t' := ne_of_isNumeric numeric (by decide)
  have notReturn : c ≠ '\r' := ne_of_isNumeric numeric (by decide)
  simp [isBlank, notSpace, notLine, notTab, notReturn]

theorem scalar?_numeral {c : Char} (numeric : isNumeric c) (chars : List Char) :
    scalar? (c :: chars) = (numeral? (c :: chars)).bind fun (n, after) =>
      n.value?.map fun value => (value, after) := by
  have notNull : c ≠ 'n' := ne_of_isNumeric numeric (by decide)
  have notTrue : c ≠ 't' := ne_of_isNumeric numeric (by decide)
  have notFalse : c ≠ 'f' := ne_of_isNumeric numeric (by decide)
  have notQuote : c ≠ '"' := ne_of_isNumeric numeric (by decide)
  rw [scalar?] <;> simp [notNull, notTrue, notFalse, notQuote]

theorem value?_numeral (depth : Nat) {c : Char} (numeric : isNumeric c) (chars : List Char) :
    value? depth (c :: chars) = (numeral? (c :: chars)).bind fun (n, after) =>
      n.value?.map fun value => (value, after) := by
  rw [value?_scalar depth (not_isBlank_of_isNumeric numeric)
    (ne_of_isNumeric numeric (by decide)) (ne_of_isNumeric numeric (by decide)),
    scalar?_numeral numeric]

theorem ne_nil_of_read {text : String} {value : Json} (read : Json.read? text = some value) :
    text.toList ≠ [] := by
  intro empty
  have nothing : value? maxNesting [] = none := rfl
  rw [Json.read?, empty, nothing] at read
  cases read

/-- A number that is read from a text is read from it within a longer text, too. -/
theorem value?_of_read (depth : Nat) {text : String} {value : Json}
    (numeric : ∀ c ∈ text.toList, isNumeric c) (read : Json.read? text = some value)
    (stops : Stops rest) : value? depth (text.toList ++ rest) = some (value, rest) := by
  obtain ⟨c, tail, chars⟩ := List.exists_cons_of_ne_nil (ne_nil_of_read read)
  rw [chars] at numeric
  have first : isNumeric c := numeric c List.mem_cons_self
  rw [Json.read?, chars, value?_numeral _ first] at read
  rw [chars, List.cons_append, value?_numeral depth first, ← List.cons_append,
    numeral?_append stops]
  cases parsed : numeral? (c :: tail) with
  | none => simp [parsed] at read
  | some found =>
    obtain ⟨n, after⟩ := found
    rw [parsed, Option.bind_some] at read
    cases settled : n.value? with
    | none => simp [settled] at read
    | some number =>
      simp only [settled, Option.map_some] at read
      split at read
      -- Only blanks may follow the number in its text, which has none, so nothing follows it.
      · rename_i blank
        cases read
        cases after with
        | nil => simp [settled]
        | cons d after =>
          have numericAfter : isNumeric d := numeric d (mem_of_numeral? parsed List.mem_cons_self)
          rw [skipBlanks_cons (not_isBlank_of_isNumeric numericAfter)] at blank
          cases blank
      · cases read

def digitValues (n : Nat) : List Nat :=
  (Nat.toDigits 10 n).map fun c => c.toNat - '0'.toNat

theorem digitValues_eq (n : Nat) :
    digitValues n = if n < 10 then [n] else digitValues (n / 10) ++ [n % 10] := by
  have single : ∀ digit < 10, (Nat.digitChar digit).toNat - '0'.toNat = digit := by decide
  rw [digitValues, Nat.toDigits_eq_if (by decide)]
  split
  · rename_i small
    rw [List.map_singleton, single n small]
  · rw [List.map_append, List.map_singleton, single _ (Nat.mod_lt n (by decide)), digitValues]

theorem digitValues_ne_nil (n : Nat) : digitValues n ≠ [] := by
  simp [digitValues]

/-- Only zero has a leading zero. -/
theorem eq_zero_of_head_digitValues (n : Nat) (zero : (digitValues n).head? = some 0) :
    n = 0 := by
  induction n using Nat.strongRecOn with
  | ind n ih =>
    rw [digitValues_eq] at zero
    split at zero
    · exact Option.some.inj zero
    · obtain ⟨lead, tail, digits⟩ := List.exists_cons_of_ne_nil (digitValues_ne_nil (n / 10))
      rw [digits] at zero
      have none : n / 10 = 0 := ih (n / 10) (by omega) (by rw [digits]; exact zero)
      omega

theorem foldl_digitValues (n : Nat) :
    (digitValues n).foldl (fun value digit => 10 * value + digit) 0 = n := by
  rw [digitValues, List.foldl_map, ← Nat.ofDigitChars_eq_foldl, Nat.ofDigitChars_ten_toDigits]

theorem digits_toDigits (n : Nat) : digits (Nat.toDigits 10 n) = (digitValues n, []) := by
  have all : ∀ c ∈ Nat.toDigits 10 n, c.isDigit := fun c member =>
    Nat.isDigit_of_mem_toDigits (by decide) (by decide) member
  rw [digits, List.takeWhile_eq_self_iff.mpr all, List.dropWhile_eq_nil_iff.mpr all, digitValues]

theorem unsigned?_toDigits (negative : Bool) (n : Nat) :
    unsigned? negative (Nat.toDigits 10 n) = some (⟨negative, digitValues n, none, none⟩, []) := by
  have proper : ¬ (digitValues n).isEmpty ∧
      ¬ ((digitValues n).head? = some 0 ∧ 1 < (digitValues n).length) := by
    refine ⟨by simpa using digitValues_ne_nil n, ?_⟩
    rintro ⟨head, long⟩
    rw [eq_zero_of_head_digitValues n head] at long
    exact absurd long (by decide)
  have accepted : (guard (¬ (digitValues n).isEmpty ∧
      ¬ ((digitValues n).head? = some 0 ∧ 1 < (digitValues n).length)) : Option Unit) = some () :=
    if_pos proper
  have whole : (digits (Nat.toDigits 10 n)).1 = digitValues n := by rw [digits_toDigits]
  have nothing : (digits (Nat.toDigits 10 n)).2 = [] := by rw [digits_toDigits]
  rw [unsigned?, whole, nothing, accepted]
  rfl

/-- The value of the digits of an integer. -/
theorem value?_digitValues {n : Int} (exact : isExact n) :
    (⟨n < 0, digitValues n.natAbs, none, none⟩ : Numeral).value? = some (.int n) := by
  have signed : (if n < 0 then -(n.natAbs : Int) else n.natAbs) = n := by
    split <;> omega
  have proper : ¬ (n < 0 ∧ n = 0) := by omega
  simp only [Numeral.value?, foldl_digitValues, decide_eq_true_eq, signed]
  rw [if_pos ⟨rfl, rfl, exact, proper⟩]

theorem toList_toString (n : Int) : (toString n).toList =
    if n < 0 then '-' :: Nat.toDigits 10 n.natAbs else Nat.toDigits 10 n.natAbs := by
  cases n with
  | ofNat m =>
    have text : toString (Int.ofNat m) = String.ofList (Nat.toDigits 10 m) :=
      Nat.repr_eq_ofList_toDigits
    rw [text, if_neg (by simp), String.toList_ofList]
    rfl
  | negSucc m =>
    have text : toString (Int.negSucc m) = "-" ++ (m + 1).repr := rfl
    rw [text, if_pos (Int.negSucc_lt_zero m), String.toList_append,
      Nat.repr_eq_ofList_toDigits, String.toList_ofList, String.toList_ofList]
    rfl

theorem numeralSign_toDigits (n : Nat) :
    numeralSign (Nat.toDigits 10 n) = (false, Nat.toDigits 10 n) := by
  obtain ⟨c, tail, chars⟩ := List.exists_cons_of_ne_nil (Nat.toDigits_ne_nil (n := n) (b := 10))
  have digit : c.isDigit := Nat.isDigit_of_mem_toDigits (b := 10) (n := n) (by decide) (by decide)
    (by rw [chars]; exact List.mem_cons_self)
  have notMinus : c ≠ '-' := by
    rintro rfl
    cases digit
  rw [chars, numeralSign]
  simpa using notMinus

theorem numeral?_toString (n : Int) : numeral? (toString n).toList =
    some (⟨n < 0, digitValues n.natAbs, none, none⟩, []) := by
  rw [numeral?_eq, toList_toString]
  by_cases negative : n < 0
  · rw [if_pos negative, decide_eq_true negative]
    exact unsigned?_toDigits true n.natAbs
  · rw [if_neg negative, decide_eq_false negative, numeralSign_toDigits]
    exact unsigned?_toDigits false n.natAbs

theorem isNumeric_of_isDigit {c : Char} (digit : c.isDigit) : isNumeric c := by
  simp [isNumeric, digit]

theorem isNumeric_toString (n : Int) : ∀ c ∈ (toString n).toList, isNumeric c := by
  have places : ∀ c ∈ Nat.toDigits 10 n.natAbs, isNumeric c := fun c member =>
    isNumeric_of_isDigit (Nat.isDigit_of_mem_toDigits (by decide) (by decide) member)
  rw [toList_toString]
  split
  · exact List.forall_mem_cons.mpr ⟨rfl, places⟩
  · exact places

theorem toString_ne_nil (n : Int) : (toString n).toList ≠ [] := by
  rw [toList_toString]
  split
  · exact List.cons_ne_nil _ _
  · exact Nat.toDigits_ne_nil

/-- An integer of 64 bits is read back. -/
theorem value?_toString (depth : Nat) {n : Int} (exact : isExact n) (stops : Stops rest) :
    value? depth ((toString n).toList ++ rest) = some (.int n, rest) := by
  obtain ⟨c, tail, chars⟩ := List.exists_cons_of_ne_nil (toString_ne_nil n)
  have first : isNumeric c := isNumeric_toString n c (by rw [chars]; exact List.mem_cons_self)
  rw [chars, List.cons_append, value?_numeral depth first, ← List.cons_append, ← chars,
    numeral?_append stops, numeral?_toString]
  simp [value?_digitValues exact]

theorem isNumeric_toDigits (n : Nat) : ∀ c ∈ Nat.toDigits 10 n, isNumeric c := fun c member =>
  isNumeric_of_isDigit (Nat.isDigit_of_mem_toDigits (by decide) (by decide) member)

theorem isNumeric_point : ∀ c ∈ ['.', '0'], isNumeric c :=
  List.forall_mem_cons.mpr ⟨rfl, List.forall_mem_singleton.mpr rfl⟩

theorem isNumeric_positional (d : Decimal) : ∀ c ∈ d.positional ['.', '0'], isNumeric c := by
  have digits : ∀ c ∈ d.digitChars, isNumeric c := isNumeric_toDigits d.digits
  have zeros : ∀ n, ∀ c ∈ List.replicate n '0', isNumeric c := by
    intro n c member
    rw [List.eq_of_mem_replicate member]
    rfl
  rw [Decimal.positional]
  split_ifs
  · exact List.forall_mem_append.mpr
      ⟨List.forall_mem_cons.mpr ⟨rfl, List.forall_mem_cons.mpr ⟨rfl, zeros _⟩⟩, digits⟩
  · exact List.forall_mem_append.mpr
      ⟨List.forall_mem_append.mpr ⟨digits, zeros _⟩, isNumeric_point⟩
  · exact List.forall_mem_append.mpr ⟨fun c member => digits c (List.mem_of_mem_take member),
      List.forall_mem_cons.mpr ⟨rfl, fun c member => digits c (List.mem_of_mem_drop member)⟩⟩

theorem isNumeric_scientific (d : Decimal) : ∀ c ∈ d.scientific, isNumeric c := by
  have digits : ∀ c ∈ d.digitChars, isNumeric c := isNumeric_toDigits d.digits
  have sign : ∀ n : Int, isNumeric (if 0 ≤ n then '+' else '-') := by
    intro n
    split <;> rfl
  refine List.forall_mem_append.mpr ⟨?_, List.forall_mem_cons.mpr ⟨rfl,
    List.forall_mem_cons.mpr ⟨sign _, isNumeric_toDigits _⟩⟩⟩
  cases chars : d.digitChars with
  | nil => simp
  | cons lead tail =>
    rw [chars] at digits
    obtain ⟨first, others⟩ := List.forall_mem_cons.mp digits
    dsimp only
    split
    · exact List.forall_mem_singleton.mpr first
    · exact List.forall_mem_cons.mpr ⟨first, List.forall_mem_cons.mpr ⟨rfl, others⟩⟩

theorem isNumeric_jsonText (x : Double) : ∀ c ∈ x.jsonText.toList, isNumeric c := by
  have signed : ∀ magnitude : List Char, (∀ c ∈ magnitude, isNumeric c) →
      ∀ c ∈ (x.signed magnitude).toList, isNumeric c := by
    intro magnitude numeric
    rw [Double.signed, String.toList_ofList]
    split
    · exact List.forall_mem_cons.mpr ⟨rfl, numeric⟩
    · exact numeric
  refine signed _ ?_
  dsimp only
  split_ifs
  · exact List.forall_mem_cons.mpr ⟨rfl, isNumeric_point⟩
  · exact isNumeric_positional _
  · exact isNumeric_scientific _

end Json

end GeoChain
