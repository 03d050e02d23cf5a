/-
  ComponentMarkup.Json.Value
  ────────────────────────────────
  **JSON values and how they are written.**

  A value keeps what the text says: numbers as they are spelt, members of an object in order and
  with repeated keys.  A string literal whose escapes name half of a surrogate pair stands for no
  text; such a literal is `none`.  `render` writes a value without any white space.
-/
import ComponentMarkup.Text.Decimal

namespace ComponentMarkup

/-- A JSON value. -/
inductive Json where
  | null
  | bool (value : Bool)
  /-- A number, as it is spelt. -/
  | number (literal : List Char)
  /-- A string literal, with the text it stands for if there is one. -/
  | string (content : Option String)
  | array (items : List Json)
  | object (members : List (Option String × Json))
deriving BEq, Repr, Inhabited

namespace Json

/-- A text as a value. -/
def ofText (content : String) : Json := .string (some content)

/-- A natural number as a value. -/
def ofNat (n : Nat) : Json := .number (Text.decimal n)

/-- A text that may be missing as a value. -/
def ofText? (content : Option String) : Json :=
  match content with
  | some content => ofText content
  | none => .null

/-- A natural number that may be missing as a value. -/
def ofNat? (n : Option Nat) : Json :=
  match n with
  | some n => ofNat n
  | none => .null

/-- Texts as a list. -/
def ofTexts (texts : List String) : Json := .array (texts.map ofText)

/-- An object with the given members. -/
def ofMembers (members : List (String × Json)) : Json :=
  .object (members.map fun member => (some member.1, member.2))

/-! ## Writing. -/

/-- The digits of an escape that names a code unit by four hexadecimal digits. -/
def hexDigits4 (n : Nat) : List Char :=
  [Nat.digitChar (n / 4096 % 16), Nat.digitChar (n / 256 % 16), Nat.digitChar (n / 16 % 16),
   Nat.digitChar (n % 16)]

/-- How a character stands in a string literal. -/
def escapeChar (c : Char) : List Char :=
  match c with
  | '"' => ['\\', '"']
  | '\\' => ['\\', '\\']
  | '\x08' => ['\\', 'b']
  | '\x0c' => ['\\', 'f']
  | '\n' => ['\\', 'n']
  | '\r' => ['\\', 'r']
  | '\t' => ['\\', 't']
  | c => if c.toNat < 0x20 then '\\' :: 'u' :: hexDigits4 c.toNat else [c]

/-- A string literal; one that stands for no text is written as half of a surrogate pair. -/
def renderText : Option String → List Char
  | some content => '"' :: content.toList.flatMap escapeChar ++ ['"']
  | none => ['"', '\\', 'u', 'd', '8', '0', '0', '"']

mutual

/-- The value as JSON text. -/
def render : Json → List Char
  | .null => ['n', 'u', 'l', 'l']
  | .bool true => ['t', 'r', 'u', 'e']
  | .bool false => ['f', 'a', 'l', 's', 'e']
  | .number literal => literal
  | .string content => renderText content
  | .array items => '[' :: renderItems items ++ [']']
  | .object members => '\x7b' :: renderMembers members ++ ['\x7d']

/-- Items with commas between them. -/
def renderItems : List Json → List Char
  | [] => []
  | [item] => render item
  | item :: rest => render item ++ ',' :: renderItems rest

/-- Members with commas between them. -/
def renderMembers : List (Option String × Json) → List Char
  | [] => []
  | [(key, value)] => renderText key ++ ':' :: render value
  | (key, value) :: rest => renderText key ++ ':' :: render value ++ ',' :: renderMembers rest

end

/-- The value as a string of JSON text. -/
def toText (value : Json) : String := String.ofList value.render

end Json

end ComponentMarkup
