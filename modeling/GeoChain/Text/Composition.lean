import GeoChain.Text.Combining
import GeoChain.Text.Composite

/-!
# Composed text

Two texts that mean the same may differ in which characters are composed and in the order of marks.
The composed form is one for all of them: every character is taken apart, the marks behind each
character are put in the order of their classes, and then each character is composed with the marks
that reach it. A mark reaches the character if no other of its own class, or of a later one, stands
between.

Characters that only repeat another one are not settled here; names of domains replace them before.
-/

namespace GeoChain

namespace Text

/-- The characters that a composite stands for, taken apart `depth` times at most. -/
def takenApart : (depth : Nat) → Char → List Char
  | 0, c => [c]
  | depth + 1, c =>
    match parts? c with
    | some parts => takenApart depth parts.first ++ [parts.second]
    | none => [c]

/-- The characters that a composite stands for; none is composed more than three times. -/
def decomposed (c : Char) : List Char := takenApart 3 c

/-- A character behind a text whose last character comes first; a mark goes before the marks of
later classes. -/
def placed (c : Char) : List Char → List Char
  | [] => [c]
  | last :: rest =>
    if combiningClass c ≠ 0 ∧ combiningClass c < combiningClass last then last :: placed c rest
    else c :: last :: rest

/-- The text with the marks behind each character in order. -/
def ordered (chars : List Char) : List Char :=
  (chars.foldl (fun done c => placed c done) []).reverse

/-- A text that is being composed; the last character comes first in both lists. -/
structure Composing where
  before : List Char
  starter : Option Char
  marks : List Char

namespace Composing

/-- Whether a character with a class reaches the one that started last. -/
def reaches (composing : Composing) (c : Char) : Bool :=
  match composing.marks.head? with
  | some mark => combiningClass mark < combiningClass c
  | none => true

/-- What a character composes to with the one that started last. -/
def join? (composing : Composing) (c : Char) : Option Char :=
  match composing.starter with
  | some starter => if composing.reaches c then composite? ⟨starter, c⟩ else none
  | none => none

def done (composing : Composing) : List Char :=
  composing.marks ++ composing.starter.toList ++ composing.before

def add (composing : Composing) (c : Char) : Composing :=
  match composing.join? c with
  | some composite => { composing with starter := some composite }
  | none =>
    if combiningClass c = 0 then ⟨composing.done, some c, []⟩
    else { composing with marks := c :: composing.marks }

end Composing

/-- The composed form of a text. -/
def composed (chars : List Char) : List Char :=
  ((ordered (chars.flatMap decomposed)).foldl Composing.add ⟨[], none, []⟩).done.reverse

end Text

end GeoChain
