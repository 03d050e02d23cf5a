/-
  ComponentMarkup.Proofs.Descriptors.Digest
  ────────────────────────────────
  **What the digest of a descriptor sees.**

  The bytes that are digested can be read back.  A kind ends at the first byte `0xFF`, which no
  UTF-8 text contains; the byte after it says whether there is a name; and the name stands last,
  in UTF-8 or in four bytes for each character of its lower case, so that a character whose four
  bytes include `0xFF` ends nothing.  Two descriptors are therefore digested from the same bytes
  exactly if they have the same kind and the same name, and whatever else they are made of does
  not count.

  Main statements: `textBytes_append_inj`, `NameCasing.nameBytes_eq_iff`, `CoversKindAndName` and
  `descriptors_coverKindAndName`.
-/
import ComponentMarkup.Proofs.Text.Utf8
import ComponentMarkup.TagHelper.Digest

namespace ComponentMarkup

/-! ## §1. Texts. -/

/-- Lists that go on after the first occurrence of an element agree before it and after it. -/
theorem append_end_inj {α : Type} {stop : α} {x y rest others : List α} (x_free : stop ∉ x)
    (y_free : stop ∉ y) (eq : x ++ stop :: rest = y ++ stop :: others) : x = y ∧ rest = others := by
  induction x generalizing y with
  | nil =>
    cases y with
    | nil => exact ⟨rfl, (List.cons.inj eq).2⟩
    | cons b y => exact absurd ((List.cons.inj eq).1 ▸ List.mem_cons_self) y_free
  | cons a x ih =>
    cases y with
    | nil => exact absurd ((List.cons.inj eq).1 ▸ List.mem_cons_self) x_free
    | cons b y =>
      obtain ⟨rfl, tails⟩ := List.cons.inj eq
      obtain ⟨rfl, same⟩ := ih (fun mem => x_free (List.mem_cons_of_mem _ mem))
        (fun mem => y_free (List.mem_cons_of_mem _ mem)) tails
      exact ⟨rfl, same⟩

/-- **A text is read back from the bytes that start with it**, and so is what follows. -/
theorem textBytes_append_inj {x y : String} {rest others : List UInt8} :
    textBytes x ++ rest = textBytes y ++ others ↔ x = y ∧ rest = others := by
  constructor
  · intro eq
    unfold textBytes at eq
    rw [List.append_assoc, List.append_assoc] at eq
    obtain ⟨bytes, same⟩ := append_end_inj (Text.not_mem_utf8_of_all_ones x.toList)
      (Text.not_mem_utf8_of_all_ones y.toList) eq
    exact ⟨String.toList_injective (Text.utf8_injective bytes), same⟩
  · rintro ⟨rfl, rfl⟩
    rfl

theorem textBytes_eq_iff {x y : String} : textBytes x = textBytes y ↔ x = y := by
  have framed := @textBytes_append_inj x y [] []
  rwa [List.append_nil, List.append_nil, and_iff_left rfl] at framed

/-! ## §2. Code points. -/

/-- Four bytes are enough for every code point. -/
theorem codePointBytes_injective {c d : Char} (eq : codePointBytes c = codePointBytes d) :
    c = d := by
  have bound (e : Char) : e.toNat < 0x110000 := by
    have valid : e.toNat.isValidChar := e.valid
    unfold Nat.isValidChar at valid
    omega
  have c_bound := bound c
  have d_bound := bound d
  unfold codePointBytes at eq
  simp only [List.cons.injEq, ← UInt8.toNat_inj, UInt8.toNat_ofNat', and_true] at eq
  apply Char.toNat_inj.mp
  omega

/-- A text is read back from its code points, four bytes at a time. -/
theorem flatMap_codePointBytes_injective {x y : List Char}
    (eq : x.flatMap codePointBytes = y.flatMap codePointBytes) : x = y := by
  induction x generalizing y with
  | nil =>
    cases y with
    | nil => rfl
    | cons d y => exact absurd eq (by simp [codePointBytes])
  | cons c x ih =>
    cases y with
    | nil => exact absurd eq (by simp [codePointBytes])
    | cons d y =>
      rw [List.flatMap_cons, List.flatMap_cons] at eq
      obtain ⟨heads, tails⟩ := List.append_inj eq rfl
      rw [codePointBytes_injective heads, ih tails]

/-! ## §3. Names. -/

/-- **The bytes of two names are the same exactly if the names are the same**, or both missing,
under the casing. -/
theorem NameCasing.nameBytes_eq_iff (casing : NameCasing) (x y : Option String) :
    casing.nameBytes x = casing.nameBytes y ↔ casing.sameName x y = true := by
  rw [sameName_iff]
  cases x with
  | none =>
    cases y with
    | none => simp
    | some y => simp [nameBytes]
  | some x =>
    cases y with
    | none => simp [nameBytes]
    | some y =>
      simp only [nameBytes, List.cons.injEq, true_and, Option.map_some, Option.some.injEq]
      cases casing with
      | exact =>
        rw [fold_exact, fold_exact, String.toList_inj]
        exact textBytes_eq_iff
      | ignoringCase =>
        rw [fold_ignoringCase, fold_ignoringCase]
        show _ ++ [textEnd] = _ ++ [textEnd] ↔ _
        rw [List.append_left_inj]
        exact ⟨flatMap_codePointBytes_injective, fun eq => eq ▸ rfl⟩

/-- The bytes of a kind and a name. -/
theorem kind_name_bytes_eq_iff (casing : NameCasing) (kind kind' : String)
    (name name' : Option String) :
    textBytes kind ++ casing.nameBytes name = textBytes kind' ++ casing.nameBytes name'
      ↔ kind = kind' ∧ casing.sameName name name' = true := by
  rw [textBytes_append_inj, NameCasing.nameBytes_eq_iff]

/-! ## §4. Descriptors. -/

/-- **A digest covers exactly kind and name**: the bytes that are digested tell these two and
nothing else.  So descriptors that are the same have the same digest, and so have descriptors that
differ elsewhere. -/
structure CoversKindAndName {α : Type} (kind : α → Option String) (name : α → Option String)
    (same : NameCasing → α → α → Bool) (hashedBytes : NameCasing → α → List UInt8)
    (digest : NameCasing → α → UInt64) : Prop where
  bytes_eq_iff : ∀ casing x y, hashedBytes casing x = hashedBytes casing y
    ↔ kind x = kind y ∧ casing.sameName (name x) (name y) = true
  digest_eq_of_same : ∀ casing x y, same casing x y = true → digest casing x = digest casing y
  digest_eq_of_kind_name : ∀ casing x y, kind x = kind y → name x = name y →
    digest casing x = digest casing y

/-- It is enough to know the bytes, and that descriptors that are the same have the same kind and
the same name. -/
theorem CoversKindAndName.of_bytes {α : Type} {kind : α → Option String} {name : α → Option String}
    {same : NameCasing → α → α → Bool} {hashedBytes : NameCasing → α → List UInt8}
    (bytes_eq_iff : ∀ casing x y, hashedBytes casing x = hashedBytes casing y
      ↔ kind x = kind y ∧ casing.sameName (name x) (name y) = true)
    (of_same : ∀ casing x y, same casing x y = true →
      kind x = kind y ∧ casing.sameName (name x) (name y) = true) :
    CoversKindAndName kind name same hashedBytes
      (fun casing x => Digest.digest (hashedBytes casing x)) where
  bytes_eq_iff := bytes_eq_iff
  digest_eq_of_same casing x y same_xy :=
    congrArg Digest.digest ((bytes_eq_iff casing x y).mpr (of_same casing x y same_xy))
  digest_eq_of_kind_name casing x y kinds names := by
    have same_name : casing.sameName (name x) (name y) = true := by
      rw [NameCasing.sameName_iff, names]
    exact congrArg Digest.digest ((bytes_eq_iff casing x y).mpr ⟨kinds, same_name⟩)

/-- **The digest of each of the five kinds of descriptors covers exactly kind and name**, under
both casings.  Required attributes and rules have no kind, and a rule goes by its tag name. -/
theorem descriptors_coverKindAndName :
    CoversKindAndName (fun x => some x.kind) AttributeParameter.name AttributeParameter.same
        AttributeParameter.hashedBytes AttributeParameter.digest
      ∧ CoversKindAndName (fun x => some x.kind) BoundAttribute.name BoundAttribute.same
        BoundAttribute.hashedBytes BoundAttribute.digest
      ∧ CoversKindAndName (fun _ => none) RequiredAttribute.name RequiredAttribute.same
        RequiredAttribute.hashedBytes RequiredAttribute.digest
      ∧ CoversKindAndName (fun _ => none) ElementRule.tagName ElementRule.same
        ElementRule.hashedBytes ElementRule.digest
      ∧ CoversKindAndName (fun x => some x.kind) (fun x => some x.name) TagHelper.same
        TagHelper.hashedBytes TagHelper.digest := by
  -- The named goals: descriptors that are the same agree in kind and name.
  refine ⟨.of_bytes ?_ ?parameter, .of_bytes ?_ ?bound, .of_bytes ?_ ?required,
    .of_bytes ?_ ?rule, .of_bytes ?_ ?helper⟩
  case parameter =>
    intro casing x y same
    simp only [AttributeParameter.same, Bool.and_eq_true, beq_iff_eq] at same
    exact ⟨congrArg some same.1.1.1.1.1.1, same.1.1.1.1.2⟩
  case bound =>
    intro casing x y same
    simp only [BoundAttribute.same, Bool.and_eq_true, beq_iff_eq, and_assoc] at same
    exact ⟨congrArg some same.1, same.2.2.1⟩
  case required =>
    intro casing x y same
    simp only [RequiredAttribute.same, Bool.and_eq_true] at same
    exact ⟨rfl, same.1.2⟩
  case rule =>
    intro casing x y same
    simp only [ElementRule.same, Bool.and_eq_true] at same
    exact ⟨rfl, same.1.1⟩
  case helper =>
    intro casing x y same
    simp only [TagHelper.same, Bool.and_eq_true, beq_iff_eq, and_assoc] at same
    exact ⟨congrArg some same.1, same.2.1⟩
  -- The bytes.
  all_goals intro casing x y
  · rw [Option.some.injEq]
    exact kind_name_bytes_eq_iff casing x.kind y.kind x.name y.name
  · rw [Option.some.injEq]
    exact kind_name_bytes_eq_iff casing x.kind y.kind x.name y.name
  · rw [and_iff_right rfl]
    exact NameCasing.nameBytes_eq_iff casing x.name y.name
  · rw [and_iff_right rfl]
    exact NameCasing.nameBytes_eq_iff casing x.tagName y.tagName
  · rw [Option.some.injEq]
    exact kind_name_bytes_eq_iff casing x.kind y.kind (some x.name) (some y.name)

end ComponentMarkup
