import GeoChain.Json.Printer
import GeoChain.Json.Reader
import Mathlib.Tactic.SplitIfs

/-!
# Quoted texts

A quoted text is read back as the text, whatever follows it: each character is read back from its
written form.
-/

namespace GeoChain

namespace Json

open Reader

/-- Characters below a space are written with four hexadecimal digits. -/
theorem codeUnit?_hexDigits : ∀ n < 32,
    codeUnit? '0' '0' (hexDigit (n / 16)) (hexDigit n) = some n := by
  decide

theorem string?_escapeChar (c : Char) (rest : List Char) :
    string? (escapeChar c ++ rest) =
      (string? rest).map fun (text, after) => (c :: text, after) := by
  rw [escapeChar]
  split_ifs with mark backslash back feed line ret tab control
  · rw [mark]
    rfl
  · rw [backslash]
    rfl
  · rw [back]
    rfl
  · rw [feed]
    rfl
  · rw [line]
    rfl
  · rw [ret]
    rfl
  · rw [tab]
    rfl
  · have small : c.toNat < 32 := control
    have plain : c.toNat < 0xd800 ∨ 0xdfff < c.toNat := by omega
    simp only [List.cons_append, List.nil_append]
    rw [string?, codeUnit?_hexDigits c.toNat small]
    dsimp only
    rw [if_pos plain, Char.ofNat_toNat]
  · have shown : ¬ (c < ' ' ∨ c = '\\') := by simp [control, backslash]
    rw [List.cons_append, List.nil_append, string?, if_neg shown]
    -- What is left is that none of the patterns before the last one fits.
    all_goals simp_all

theorem string?_quoted (text rest : List Char) :
    string? (text.flatMap escapeChar ++ '"' :: rest) = some (text, rest) := by
  induction text with
  | nil => rfl
  | cons c text ih =>
    rw [List.flatMap_cons, List.append_assoc, string?_escapeChar, ih]
    rfl

theorem toList_quote (text : String) :
    (quote text).toList = '"' :: (text.toList.flatMap escapeChar ++ ['"']) := by
  simp [quote]

/-- A quoted text after its opening quote. -/
theorem string?_quote (text : String) (rest : List Char) :
    ∃ inner, (quote text).toList = '"' :: inner ∧
      string? (inner ++ rest) = some (text.toList, rest) := by
  refine ⟨text.toList.flatMap escapeChar ++ ['"'], toList_quote text, ?_⟩
  rw [List.append_assoc]
  exact string?_quoted text.toList rest

end Json

end GeoChain
