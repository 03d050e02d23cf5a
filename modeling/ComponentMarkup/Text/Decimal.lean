/-
  ComponentMarkup.Text.Decimal
  ────────────────────────────────
  **Decimal numbers.**

  `decimal` writes a natural number in ASCII digits without leading zeros; `readDigits?` reads a
  run of digits, leading zeros allowed.  Main statement: what is written is read back
  (`readDigits?_decimal`).
-/

namespace ComponentMarkup.Text

/-- The number in decimal digits. -/
def decimal (n : Nat) : List Char := Nat.toDigits 10 n

/-- The value of a text that consists of digits alone, and has at least one. -/
def readDigits? (text : List Char) : Option Nat :=
  if text ≠ [] ∧ text.all Char.isDigit then some (Nat.ofDigitChars 10 text 0) else none

theorem decimal_ne_nil (n : Nat) : decimal n ≠ [] := Nat.toDigits_ne_nil

theorem isDigit_of_mem_decimal {n : Nat} {c : Char} (h : c ∈ decimal n) : c.isDigit :=
  Nat.isDigit_of_mem_toDigits (by decide) (by decide) h

theorem readDigits?_decimal (n : Nat) : readDigits? (decimal n) = some n := by
  have digits : (decimal n).all Char.isDigit = true :=
    List.all_eq_true.mpr fun _ h => isDigit_of_mem_decimal h
  rw [readDigits?, if_pos ⟨decimal_ne_nil n, digits⟩, decimal, Nat.ofDigitChars_ten_toDigits]

end ComponentMarkup.Text
