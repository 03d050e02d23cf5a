/-
  ComponentMarkup.Json.Record
  ────────────────────────────────
  **Typed values from JSON.**

  A record is an object whose known keys occur at most once, or an array of the fields in their
  order.  `fields?` gives the value of each field; the other functions read one field.  All of
  them answer `none` when the value does not fit.
-/
import ComponentMarkup.Json.Value

namespace ComponentMarkup.Json

/-! ## §1. Records. -/

/-- The value of a key, which may be missing but must not occur twice. -/
def member? (members : List (Option String × Json)) (key : String) : Option (Option Json) :=
  match members.filter (fun member => member.1 == some key) with
  | [] => some none
  | [member] => some (some member.2)
  | _ => none

/-- The values of a record's fields, in the order of the given keys.  Keys that are not given are
skipped, but every key must be a text. -/
def fields? (keys : List String) : Json → Option (List (Option Json))
  | .object members =>
    if members.all (·.1.isSome) then keys.mapM (member? members) else none
  | .array items =>
    if items.length ≤ keys.length then
      some (items.map some ++ List.replicate (keys.length - items.length) none)
    else none
  | _ => none

/-! ## §2. Fields. -/

/-- A field that must be there. -/
def required {α : Type} (read : Json → Option α) (field : Option Json) : Option α :=
  field.bind read

/-- A field that has a value of its own when it is missing. -/
def withDefault {α : Type} (value : α) (read : Json → Option α) : Option Json → Option α
  | none => some value
  | some field => read field

/-- A field that may be missing or null. -/
def optional {α : Type} (read : Json → Option α) : Option Json → Option (Option α)
  | none | some .null => some none
  | some field => (read field).map some

/-! ## §3. Values. -/

/-- A text. -/
def text? : Json → Option String
  | .string content => content
  | _ => none

/-- A truth value. -/
def bool? : Json → Option Bool
  | .bool value => some value
  | _ => none

/-- A natural number below `2 ^ 64`, in digits alone. -/
def word64? : Json → Option UInt64
  | .number literal =>
    match Text.readDigits? literal with
    | some n => if n < UInt64.size then some (UInt64.ofNat n) else none
    | none => none
  | _ => none

/-- A list. -/
def list? {α : Type} (read : Json → Option α) : Json → Option (List α)
  | .array items => items.mapM read
  | _ => none

/-- One of several named values: its name, or an object with that key alone and nothing there. -/
def choice? {α : Type} (ofName? : String → Option α) : Json → Option α
  | .string (some name) => ofName? name
  | .object [(some name, .null)] => ofName? name
  | _ => none

/-- A list of keys with texts. -/
def textEntries? : Json → Option (List (String × String))
  | .object members => members.mapM fun (key, value) =>
    match key, text? value with
    | some key, some value => some (key, value)
    | _, _ => none
  | _ => none

end ComponentMarkup.Json
