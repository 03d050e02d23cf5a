/-
  ComponentMarkup.DisplayName
  ────────────────────────────────
  **How bound attributes and parameters are called in messages.**

  A name that nobody chose is made of the property's type, the owner's type and the property; if
  one of them is unknown, the attribute's own name has to do.  Well-known primitive types appear
  under their short names.
-/

namespace ComponentMarkup

/-- What a bound attribute has to know of the tag helper it belongs to. -/
structure Owner where
  displayName : String := ""
  typeName : Option String := none
deriving DecidableEq, Repr, Inhabited

namespace DisplayName

/-- The primitive types, each with its short name. -/
def primitiveTypes : List (String × String) :=
  [("System.Byte", "byte"), ("System.SByte", "sbyte"), ("System.Int32", "int"),
   ("System.UInt32", "uint"), ("System.Int16", "short"), ("System.UInt16", "ushort"),
   ("System.Int64", "long"), ("System.UInt64", "ulong"), ("System.Single", "float"),
   ("System.Double", "double"), ("System.Char", "char"), ("System.Boolean", "bool"),
   ("System.Object", "object"), ("System.String", "string"), ("System.Decimal", "decimal")]

/-- The short name of a primitive type; any other type keeps its name. -/
def friendlyType (typeName : String) : String :=
  (primitiveTypes.lookup typeName).getD typeName

/-- The name of an attribute or a parameter for which none was chosen. -/
def compute (typeName ownerType property name : Option String) : Option String :=
  match typeName, ownerType, property with
  | some typeName, some owner, some property =>
    some (friendlyType typeName ++ " " ++ owner ++ "." ++ property)
  | _, _, _ => name

/-- Whether the type is the primitive string type, under either name. -/
def isStringType (typeName : Option String) : Bool :=
  typeName == some "System.String" || typeName == some "string"

/-- Whether the type is the primitive truth-value type, under either name. -/
def isBooleanType (typeName : Option String) : Bool :=
  typeName == some "System.Boolean" || typeName == some "bool"

end DisplayName

end ComponentMarkup
