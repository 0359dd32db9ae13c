import GeoChain.Text.Split

/-!
# Tables of characters

A table gives a value to some of the characters. Each row names the first and the last code point
that it holds; rows come in increasing order and do not overlap, so that a look-up halves the rows
that are left. A table is written as words with blanks or line ends between them: `2d` is a row for
one code point, `300-314` a row for several, and what follows a colon is the value of the row.
-/

namespace GeoChain

namespace Text

structure Row (α : Type) where
  first : Nat
  last : Nat
  value : α

abbrev Table (α : Type) := Array (Row α)

namespace Table

variable {α : Type}

/-- The row that holds a code point, from `low` on and before `high`. -/
def rowBetween? (table : Table α) (code low high : Nat) : Option (Row α) :=
  if low < high then
    let middle := (low + high) / 2
    match table[middle]? with
    | some row =>
      if code < row.first then rowBetween? table code low middle
      else if row.last < code then rowBetween? table code (middle + 1) high
      else some row
    | none => none
  else none
termination_by high - low
decreasing_by all_goals omega

/-- A row that is found holds the code point. -/
theorem holds_of_rowBetween? (table : Table α) (code low high : Nat) (row : Row α)
    (found : table.rowBetween? code low high = some row) : row.first ≤ code ∧ code ≤ row.last := by
  fun_induction rowBetween? table code low high with
  | case1 _ _ _ _ _ _ _ ih => exact ih found
  | case2 _ _ _ _ _ _ _ _ ih => exact ih found
  | case3 _ _ _ _ _ _ notBefore notAfter =>
    obtain rfl := Option.some.inj found
    omega
  | case4 => cases found
  | case5 => cases found

def row? (table : Table α) (c : Char) : Option (Row α) := table.rowBetween? c.toNat 0 table.size

def has (table : Table α) (c : Char) : Bool := (table.row? c).isSome

def value? (table : Table α) (c : Char) : Option α := (table.row? c).map Row.value

end Table

/-! ## Written tables -/

/-- The value of a hexadecimal digit with small letters. -/
def hexDigit (c : Char) : Nat :=
  if c.isDigit then c.toNat - '0'.toNat else c.toNat - 'a'.toNat + 10

def hexNumber (digits : List Char) : Nat :=
  digits.foldl (fun value c => 16 * value + hexDigit c) 0

def isGap (c : Char) : Bool := c = ' ' || c = '\n'

def closeWord (word : List Char) (words : List (List Char)) : List (List Char) :=
  if word.isEmpty then words else word :: words

/-- The words of a text, between gaps. -/
def words (text : String) : List (List Char) :=
  let (word, words) := text.toList.foldr
    (fun c (word, words) => if isGap c then ([], closeWord word words) else (c :: word, words))
    ([], [])
  closeWord word words

/-- A row as it is written. -/
def Row.ofWord {α : Type} (value : List Char → α) (word : List Char) : Row α :=
  let (range, label) := cutAt ':' word
  let (first, last) := cutAt '-' range
  ⟨hexNumber first, hexNumber (last.getD first), value (label.getD [])⟩

/-- A table with a value in each row. -/
def Table.ofText {α : Type} (value : List Char → α) (text : String) : Table α :=
  ((words text).map (Row.ofWord value)).toArray

/-- A table that only says which characters it holds. -/
abbrev Charset := Table Unit

def Charset.ofText (text : String) : Charset := Table.ofText (fun _ => ()) text

end Text

end GeoChain
