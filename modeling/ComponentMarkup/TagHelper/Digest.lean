/-
  ComponentMarkup.TagHelper.Digest
  ────────────────────────────────
  **Digests of descriptors.**

  The digest of a descriptor covers its kind and its name and nothing else, under the casing of
  the comparison that it goes with.  Rules have no kind, and their tag name counts as the name.
  `hashedBytes` gives the bytes that are digested: equal descriptors have the same bytes.
-/
import ComponentMarkup.Digest.XxHash3
import ComponentMarkup.TagHelper.Equality

namespace ComponentMarkup

/-! ## §1. Bytes of kinds and names. -/

/-- The byte that ends a text; no UTF-8 text contains it. -/
def textEnd : UInt8 := 0xFF

/-- The bytes of a text and their end. -/
def textBytes (text : String) : List UInt8 := Text.utf8 text.toList ++ [textEnd]

/-- A code point in four bytes, the lowest first. -/
def codePointBytes (c : Char) : List UInt8 :=
  [.ofNat c.toNat, .ofNat (c.toNat / 256), .ofNat (c.toNat / 65536), .ofNat (c.toNat / 16777216)]

/-- The bytes of a name, after a byte that tells whether there is one.  Exact names count by their
UTF-8 bytes, folded names by their code points. -/
def NameCasing.nameBytes (casing : NameCasing) : Option String → List UInt8
  | none => [0]
  | some name =>
    1 :: match casing with
      | .exact => textBytes name
      | .ignoringCase => (Text.lowerEach name.toList).flatMap codePointBytes ++ [textEnd]

/-! ## §2. Descriptors. -/

/-- The bytes of a parameter that are digested. -/
def AttributeParameter.hashedBytes (casing : NameCasing) (parameter : AttributeParameter) :
    List UInt8 :=
  textBytes parameter.kind ++ casing.nameBytes parameter.name

/-- The bytes of a bound attribute that are digested. -/
def BoundAttribute.hashedBytes (casing : NameCasing) (bound : BoundAttribute) : List UInt8 :=
  textBytes bound.kind ++ casing.nameBytes bound.name

/-- The bytes of a required attribute that are digested. -/
def RequiredAttribute.hashedBytes (casing : NameCasing) (required : RequiredAttribute) :
    List UInt8 :=
  casing.nameBytes required.name

/-- The bytes of a rule that are digested. -/
def ElementRule.hashedBytes (casing : NameCasing) (rule : ElementRule) : List UInt8 :=
  casing.nameBytes rule.tagName

/-- The bytes of a tag helper that are digested. -/
def TagHelper.hashedBytes (casing : NameCasing) (helper : TagHelper) : List UInt8 :=
  textBytes helper.kind ++ casing.nameBytes (some helper.name)

/-- The digest of a parameter. -/
def AttributeParameter.digest (casing : NameCasing) (parameter : AttributeParameter) : UInt64 :=
  Digest.digest (parameter.hashedBytes casing)

/-- The digest of a bound attribute. -/
def BoundAttribute.digest (casing : NameCasing) (bound : BoundAttribute) : UInt64 :=
  Digest.digest (bound.hashedBytes casing)

/-- The digest of a required attribute. -/
def RequiredAttribute.digest (casing : NameCasing) (required : RequiredAttribute) : UInt64 :=
  Digest.digest (required.hashedBytes casing)

/-- The digest of a rule. -/
def ElementRule.digest (casing : NameCasing) (rule : ElementRule) : UInt64 :=
  Digest.digest (rule.hashedBytes casing)

/-- The digest of a tag helper. -/
def TagHelper.digest (casing : NameCasing) (helper : TagHelper) : UInt64 :=
  Digest.digest (helper.hashedBytes casing)

/-- A digest in sixteen hexadecimal digits. -/
def digestText (digest : UInt64) : String :=
  String.ofList ((List.range 16).map fun i => Nat.digitChar ((digest.toNat >>> (60 - 4 * i)) % 16))

end ComponentMarkup
