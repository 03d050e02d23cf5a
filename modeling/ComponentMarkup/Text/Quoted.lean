/-
  ComponentMarkup.Text.Quoted
  ────────────────────────────────
  **Text in double quotes.**

  `quote` writes a text between double quotes so that it stays on one line and every character
  can be told apart: quotes and backslashes are escaped, the usual controls have short escapes,
  and any other character that is not printable is written as its code point in braces.
-/
import ComponentMarkup.Text.Printable

namespace ComponentMarkup.Text

/-- An escape that names the code point in lower-case hexadecimal digits. -/
def codePointEscape (c : Char) : List Char :=
  ['\\', 'u', '\x7b'] ++ Nat.toDigits 16 c.toNat ++ ['\x7d']

/-- How one character is written between double quotes. -/
def quoteChar (c : Char) : List Char :=
  match c with
  | '"' => ['\\', '"']
  | '\\' => ['\\', '\\']
  | '\n' => ['\\', 'n']
  | '\r' => ['\\', 'r']
  | '\t' => ['\\', 't']
  | '\x00' => ['\\', '0']
  | c => if isPrintable c then [c] else codePointEscape c

/-- The text between double quotes. -/
def quote (text : String) : String :=
  String.ofList ('"' :: text.toList.flatMap quoteChar ++ ['"'])

end ComponentMarkup.Text
