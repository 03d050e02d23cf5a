/-
  ComponentMarkup.Metadata
  ────────────────────────────────
  **Extra facts about a descriptor.**

  Metadata maps keys to texts.  It keeps the order in which keys were first written, a key that
  is written again keeps its place, and `agrees` compares two maps without regard to order.
  Main statement: `get?_insert` gives the value of every key after a write.
-/

namespace ComponentMarkup

/-- A map from keys to texts that remembers the order of its keys. -/
structure Metadata where
  entries : List (String × String)
  nodup : (entries.map Prod.fst).Nodup
deriving DecidableEq

namespace Metadata

/-! ## §1. Reading and writing. -/

/-- The map without entries. -/
def empty : Metadata := ⟨[], List.nodup_nil⟩

instance : Inhabited Metadata := ⟨empty⟩

instance : EmptyCollection Metadata := ⟨empty⟩

/-- The value of a key. -/
def get? (m : Metadata) (key : String) : Option String := m.entries.lookup key

/-- Whether the map has a key. -/
def contains (m : Metadata) (key : String) : Bool := (m.get? key).isSome

/-- The entries with a key set to a value: in its place if the key is there, else at the end. -/
def write (key value : String) : List (String × String) → List (String × String)
  | [] => [(key, value)]
  | entry :: rest => if entry.1 = key then (key, value) :: rest else entry :: write key value rest

theorem mem_keys_write {key value k : String} {entries : List (String × String)}
    (h : k ∈ (write key value entries).map Prod.fst) : k = key ∨ k ∈ entries.map Prod.fst := by
  induction entries with
  | nil => simpa [write] using h
  | cons entry rest ih =>
    rw [write] at h
    split at h
    · next same => simp only [List.map_cons, List.mem_cons] at h ⊢; grind
    · simp only [List.map_cons, List.mem_cons] at h ⊢; grind

theorem nodup_keys_write {key value : String} {entries : List (String × String)}
    (h : (entries.map Prod.fst).Nodup) : ((write key value entries).map Prod.fst).Nodup := by
  induction entries with
  | nil => simp [write]
  | cons entry rest ih =>
    rw [List.map_cons, List.nodup_cons] at h
    rw [write]
    split
    · next same => rw [List.map_cons, List.nodup_cons]; exact same ▸ h
    · next other =>
      rw [List.map_cons, List.nodup_cons]
      refine ⟨fun mem => ?_, ih h.2⟩
      rcases mem_keys_write mem with same | mem
      · exact other same
      · exact h.1 mem

/-- The map with a key set to a value. -/
def insert (m : Metadata) (key value : String) : Metadata :=
  ⟨write key value m.entries, nodup_keys_write m.nodup⟩

/-- The map that a list of entries writes, from first to last. -/
def ofList (entries : List (String × String)) : Metadata :=
  entries.foldl (fun m entry => m.insert entry.1 entry.2) empty

@[simp] theorem get?_empty (key : String) : empty.get? key = none := rfl

theorem lookup_write (key value k : String) (entries : List (String × String)) :
    (write key value entries).lookup k = if k = key then some value else entries.lookup k := by
  induction entries with
  | nil =>
    by_cases h : k = key
    · simp [write, h]
    · simp [write, List.lookup_cons, beq_eq_false_iff_ne.mpr h, h]
  | cons entry rest ih =>
    obtain ⟨first, text⟩ := entry
    rw [write]
    by_cases same : first = key
    · subst same
      by_cases h : k = first
      · simp [h]
      · simp [List.lookup_cons, beq_eq_false_iff_ne.mpr h, h]
    · by_cases h : k = first
      · subst h; simp [same]
      · simp [List.lookup_cons, same, beq_eq_false_iff_ne.mpr h, ih]

@[simp] theorem get?_insert (m : Metadata) (key value k : String) :
    (m.insert key value).get? k = if k = key then some value else m.get? k :=
  lookup_write key value k m.entries

/-! ## §2. Agreement. -/

/-- Whether two maps have the same keys with the same values, in whatever order. -/
def agrees (x y : Metadata) : Bool :=
  x.entries.length == y.entries.length
    && x.entries.all fun entry => y.get? entry.1 == some entry.2

/-! ## §3. Keys with a meaning. -/

/-- The value of a flag that is set. -/
def trueText : String := "True"

/-- Key of the full name of the type that implements a tag helper. -/
def typeNameKey : String := "Common.TypeName"

/-- Key of the property that a bound attribute or a parameter writes to. -/
def propertyNameKey : String := "Common.PropertyName"

/-- Key of the flag that makes a bound attribute a directive attribute. -/
def directiveAttributeKey : String := "Common.DirectiveAttribute"

/-- Key that tells which feature of the component model a tag helper stands for. -/
def featureKey : String := "Components.IsSpecialKind"

/-- Key of the flag that marks a generic component. -/
def genericKey : String := "Components.GenericTyped"

/-- Whether a flag is set. -/
def isSet (m : Metadata) (key : String) : Bool := m.get? key == some trueText

end Metadata

end ComponentMarkup
