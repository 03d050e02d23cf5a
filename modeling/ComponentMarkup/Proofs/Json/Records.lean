/-
  ComponentMarkup.Proofs.Json.Records
  ────────────────────────────────
  **Records are read back field by field.**

  An object whose keys are those of a record, each of them once, gives every field the value that
  was written for it.  A text, a natural number or a name of one of several values is read from
  what is written for it, and so is a text that may be missing.

  So a place in source text is read back as it was.  Settings are read back with their file kind
  and their catalog, and with the version that their language version is shown as.

  Main statements: `Json.fields?_ofMembers`, `SourceSpan.ofJsonText?_toText`,
  `Settings.ofJsonText_toText` and `written_records_read_back`.
-/
import ComponentMarkup.Proofs.Json.RoundTrip
import ComponentMarkup.Proofs.Versions.Spellings
import ComponentMarkup.Settings
import ComponentMarkup.SourceSpan.Json

namespace ComponentMarkup

namespace Json

/-! ## §1. What is written for a field. -/

/-- A number in decimal digits starts with no zero, unless it is zero. -/
theorem head?_decimal {n : Nat} (positive : 0 < n) : (Text.decimal n).head? ≠ some '0' := by
  unfold Text.decimal
  induction n using Nat.strongRecOn with
  | ind n ih =>
    by_cases small : n < 10
    · have no_zero : ∀ digit < 10, 0 < digit → Nat.digitChar digit ≠ '0' := by decide
      rw [Nat.toDigits_of_lt_base small]
      simpa using no_zero n small positive
    · -- All digits but the last are those of a tenth, which is not zero either.
      have earlier : Nat.toDigits 10 (n / 10) ≠ [] := Nat.toDigits_ne_nil
      rw [Nat.toDigits_of_base_le (by decide) (by omega), List.head?_append_of_ne_nil _ earlier]
      exact ih (n / 10) (by omega) (by omega)

theorem isNumber_decimal (n : Nat) : IsNumber (Text.decimal n) := by
  have is_whole : IsWhole (Text.decimal n) := by
    by_cases zero : n = 0
    · subst zero
      exact Or.inl rfl
    · have digits : IsDigits (Text.decimal n) :=
        ⟨Text.decimal_ne_nil n, fun _ mem => Text.isDigit_of_mem_decimal mem⟩
      exact Or.inr ⟨digits, head?_decimal (by omega)⟩
  have number := IsNumber.plain is_whole (Or.inl rfl) (Or.inl rfl)
  simpa using number

@[simp] theorem wellSpelt_ofNat (n : Nat) : WellSpelt (ofNat n) := .number (isNumber_decimal n)

@[simp] theorem wellSpelt_ofText (text : String) : WellSpelt (ofText text) := .string (some text)

@[simp] theorem wellSpelt_ofText? (text : Option String) : WellSpelt (ofText? text) := by
  cases text with
  | none => exact .null
  | some text => exact wellSpelt_ofText text

theorem wellSpelt_ofMembers {members : List (String × Json)}
    (each : ∀ member ∈ members, WellSpelt member.2) : WellSpelt (ofMembers members) := by
  apply WellSpelt.object
  intro member mem
  obtain ⟨source, among, same⟩ := List.mem_map.mp mem
  rw [← same]
  exact each source among

/-! ## §2. What is read from a field. -/

@[simp] theorem text?_ofText (text : String) : text? (ofText text) = some text := rfl

@[simp] theorem optional_ofText? (text : Option String) :
    optional text? (some (ofText? text)) = some text := by
  cases text <;> rfl

@[simp] theorem word64?_ofNat (n : UInt64) : word64? (ofNat n.toNat) = some n := by
  have small : n.toNat < UInt64.size := n.toNat_lt_size
  simp only [ofNat, word64?, Text.readDigits?_decimal, if_pos small, UInt64.ofNat_toNat]

@[simp] theorem choice?_ofText {α : Type} (ofName? : String → Option α) (name : String) :
    choice? ofName? (ofText name) = ofName? name := rfl

/-! ## §3. Fields. -/

/-- The member of an object with a given key, where no key occurs twice. -/
theorem filter_key {members : List (String × Json)} (once : (members.map Prod.fst).Nodup)
    {key : String} {value : Json} (mem : (key, value) ∈ members) :
    (members.map fun member => (some member.1, member.2)).filter
      (fun member => member.1 == some key) = [(some key, value)] := by
  induction members with
  | nil => cases mem
  | cons first rest ih =>
    rw [List.map_cons, List.nodup_cons] at once
    rw [List.map_cons, List.filter_cons]
    rcases List.mem_cons.mp mem with same | later
    · -- The key is not used again, so nothing else is found.
      subst same
      have none_later : (rest.map fun member => (some member.1, member.2)).filter
          (fun member => member.1 == some key) = [] := by
        rw [List.filter_eq_nil_iff]
        intro other among
        obtain ⟨source, source_mem, rfl⟩ := List.mem_map.mp among
        have different : source.1 ≠ key := by
          intro same
          exact once.1 (List.mem_map.mpr ⟨source, source_mem, same⟩)
        simpa using different
      simp [none_later]
    · have different : first.1 ≠ key := by
        intro same
        exact once.1 (List.mem_map.mpr ⟨(key, value), later, same.symm⟩)
      rw [if_neg (by simpa using different)]
      exact ih once.2 later

/-- **A record is read back field by field**, if it was written with its keys in order and none of
them twice. -/
theorem fields?_ofMembers {members : List (String × Json)} (once : (members.map Prod.fst).Nodup) :
    fields? (members.map Prod.fst) (ofMembers members)
      = some (members.map fun member => some member.2) := by
  have keys : (members.map fun member => (some member.1, member.2)).all (·.1.isSome) = true := by
    simp
  have found : ∀ member ∈ members,
      member? (members.map fun member => (some member.1, member.2)) member.1
        = some (some member.2) := by
    intro member mem
    unfold member?
    rw [filter_key once mem]
  unfold ofMembers fields?
  simp only [keys, if_true]
  -- Each key is looked up in the whole object, so the object stays fixed in the induction.
  generalize members.map (fun member => (some member.1, member.2)) = object at found
  clear once keys
  induction members with
  | nil => rfl
  | cons first rest ih =>
    obtain ⟨here, later⟩ := List.forall_mem_cons.mp found
    rw [List.map_cons, List.mapM_cons, here, ih later]
    rfl

end Json

/-! ## §4. Places and settings. -/

/-- **A place in source text is read back** from the text that is written for it. -/
theorem SourceSpan.ofJsonText?_toText (span : SourceSpan) :
    ofJsonText? span.toJson.toText = some span := by
  have spelt : span.toJson.WellSpelt := by
    apply Json.wellSpelt_ofMembers
    simp
  have once : jsonKeys.Nodup := by decide
  have fields : Json.fields? jsonKeys span.toJson = some [_, _, _, _, _] :=
    Json.fields?_ofMembers once
  unfold ofJsonText?
  rw [Json.parse?_toText spelt]
  show ofJson? span.toJson = some span
  unfold ofJson?
  rw [fields]
  simp [Json.required]

/-- **Settings are read back** from the text that is written for them, with the language version
that they are shown with. -/
theorem Settings.ofJsonText_toText (settings : Settings) :
    ofJsonText settings.toJson.toText
      = .ok { settings with languageVersion := min settings.languageVersion .experimental } := by
  have spelt : settings.toJson.WellSpelt := by
    apply Json.wellSpelt_ofMembers
    simp
  have once : jsonKeys.Nodup := by decide
  have fields : Json.fields? jsonKeys settings.toJson = some [_, _, _] :=
    Json.fields?_ofMembers once
  have version : versionOfJson? (.ofText settings.languageVersion.display)
      = some (min settings.languageVersion .experimental) := by
    unfold versionOfJson?
    rw [Json.text?_ofText, Option.bind_some, LanguageVersion.ofText_display]
    rfl
  have read : ofJson? settings.toJson
      = some { settings with languageVersion := min settings.languageVersion .experimental } := by
    unfold ofJson?
    rw [fields]
    simp [Json.withDefault, version]
  unfold ofJsonText
  rw [Json.parse?_toText spelt, Option.bind_some, read]
  rfl

/-- **Written records are read back**: places in source text as they were, and settings with the
lower one of their language version and the experimental one. -/
theorem written_records_read_back :
    (∀ span : SourceSpan, SourceSpan.ofJsonText? span.toJson.toText = some span)
      ∧ ∀ settings : Settings, Settings.ofJsonText settings.toJson.toText
        = .ok { settings with languageVersion := min settings.languageVersion .experimental } :=
  ⟨SourceSpan.ofJsonText?_toText, Settings.ofJsonText_toText⟩

end ComponentMarkup
