import PackageDoc.Proofs.FrontMatter.Partition
import PackageDoc.Proofs.Toml.Reading
import PackageDoc.Proofs.Yaml.Values

/-!
# Faults of front matter

A block of front matter that cannot be read is a problem of parsing if the library that reads it
says that it is malformed, or gives something else than a mapping. A library can also end in another
way, for a scalar that has no value or for depth, and a mapping can have a key that is too long to
be shown. These are exactly the faults that are no problem:

    Raised o s fault ↔ extract o s = .error fault ∧ fault.problem? = none

With the readers of this project there is something in the block that has no value behind each of
them:

    Raises f raw fault → BlockValueless f raw fault                   (valueless_of_raises)
-/

namespace PackageDoc.FrontMatter

variable {f : Format} {s raw rest : List Char} {o : Markdown.Options} {fault : Fault}
  {fields : Fields}

/-- A text starts with a block, and front matter is wanted. -/
structure HasBlock (o : Markdown.Options) (s : List Char) (f : Format) (raw rest : List Char) :
    Prop where
  wanted : o.frontMatter = true
  split : split f s = some (raw, rest)

/-- A fault that is told as a problem of parsing front matter. -/
def Fault.IsParsing (fault : Fault) : Prop :=
  ∃ text, fault.problem? = some (.parsing text (some "frontmatter"))

theorem isParsing_malformed (f : Format) : (Fault.malformed f).IsParsing :=
  ⟨_, rfl⟩

theorem isParsing_of_fieldsOf {v : Value} (h : fieldsOf v = .error fault) : fault.IsParsing := by
  unfold fieldsOf at h
  split at h
  · cases h
  · cases h
  · obtain rfl := Except.error.inj h
    exact ⟨_, rfl⟩

/-- Only numbers can be too long to be shown. -/
theorem exists_long_of_not_isShown {key : Scalar} (h : ¬ isShown key = true) :
    ∃ i, key = .int i ∧ Nat.pow 10 Text.maxDigits ≤ i.natAbs := by
  cases key with
  | int i =>
    rw [isShown, decide_eq_true_eq] at h
    exact ⟨i, rfl, Nat.le_of_not_lt h⟩
  | _ => exact absurd rfl h

section Host

variable [Host]

/-! ## What libraries end with -/

/-- The library gives a block these fields: those of a mapping, or none for nothing. -/
inductive Gives : Format → List Char → Fields → Prop
  | yaml {raw : List Char} {fields : Fields} (h : Host.yaml raw = .ok (.map fields)) :
    Gives .yaml raw fields
  | nothing {raw : List Char} (h : Host.yaml raw = .ok (.scalar .null)) : Gives .yaml raw []
  | toml {raw : List Char} {fields : Fields} (h : Host.toml raw = .ok fields) :
    Gives .toml raw fields

/-- What ends the reading of a block otherwise than with fields or a problem: the library ends in
another way than by finding it malformed, or there is a key of too many digits. -/
inductive Raises : Format → List Char → Fault → Prop
  | yaml {raw : List Char} {f : Yaml.Fault} (h : Host.yaml raw = .error f) (hf : f ≠ .malformed) :
    Raises .yaml raw (.yaml f)
  | toml {raw : List Char} {f : Toml.Fault} (h : Host.toml raw = .error f) (hf : f ≠ .malformed) :
    Raises .toml raw (.toml f)
  | key {f : Format} {raw : List Char} {fields : Fields} {i : Int} {v : Value}
    (h : Gives f raw fields) (hi : (.int i, v) ∈ fields)
    (hlong : Nat.pow 10 Text.maxDigits ≤ i.natAbs) : Raises f raw .unshownKey

/-- The block that a text starts with ends the reading so. -/
def Raised (o : Markdown.Options) (s : List Char) (fault : Fault) : Prop :=
  ∃ f raw rest, HasBlock o s f raw rest ∧ Raises f raw fault

/-! ## Loading -/

theorem load_eq_ok_iff : load f raw = .ok fields ↔ Gives f raw fields := by
  constructor
  · intro h
    cases f with
    | yaml =>
      unfold load at h
      dsimp only at h
      split at h
      · rename_i v hv
        unfold fieldsOf at h
        split at h
        · obtain rfl := Except.ok.inj h
          exact .yaml hv
        · obtain rfl := Except.ok.inj h
          exact .nothing hv
        · cases h
      · cases h
      · cases h
    | toml =>
      unfold load at h
      dsimp only at h
      split at h
      · rename_i fields hfields
        obtain rfl := Except.ok.inj h
        exact .toml hfields
      · cases h
      · cases h
  · intro h
    cases h with
    | yaml h => simp only [load, h, fieldsOf]
    | nothing h => simp only [load, h, fieldsOf]
    | toml h => simp only [load, h]

/-- Loading a block goes wrong by a problem of parsing, or by what the library ended with. -/
theorem isParsing_or_raises_of_load (h : load f raw = .error fault) :
    fault.IsParsing ∨ Raises f raw fault := by
  cases f with
  | yaml =>
    unfold load at h
    dsimp only at h
    split at h
    · exact .inl (isParsing_of_fieldsOf h)
    · obtain rfl := Except.error.inj h
      exact .inl (isParsing_malformed .yaml)
    · rename_i g hg hload
      obtain rfl := Except.error.inj h
      exact .inr (.yaml hload hg)
  | toml =>
    unfold load at h
    dsimp only at h
    split at h
    · cases h
    · obtain rfl := Except.error.inj h
      exact .inl (isParsing_malformed .toml)
    · rename_i g hg hload
      obtain rfl := Except.error.inj h
      exact .inr (.toml hload hg)

theorem shownFields_eq : shownFields f raw = (load f raw).bind fun fields =>
    if fields.all fun field => isShown field.1 then .ok fields else .error .unshownKey := rfl

theorem isParsing_or_raises_of_shownFields (h : shownFields f raw = .error fault) :
    fault.IsParsing ∨ Raises f raw fault := by
  rw [shownFields_eq] at h
  cases hload : load f raw with
  | error g =>
    rw [hload] at h
    obtain rfl := Except.error.inj h
    exact isParsing_or_raises_of_load hload
  | ok fields =>
    rw [hload] at h
    dsimp only [Except.bind] at h
    split at h
    · cases h
    · rename_i hall
      obtain rfl := Except.error.inj h
      obtain ⟨⟨key, v⟩, hmem, hkey⟩ : ∃ field ∈ fields, ¬ isShown field.1 = true := by
        simpa using hall
      obtain ⟨i, rfl, hlong⟩ := exists_long_of_not_isShown hkey
      exact .inr (.key (load_eq_ok_iff.1 hload) hmem hlong)

theorem shownFields_of_raises (h : Raises f raw fault) : shownFields f raw = .error fault := by
  rw [shownFields_eq]
  cases h with
  | yaml h hf =>
    rename_i g
    cases g <;> simp_all [load, Except.bind]
  | toml h hf =>
    rename_i g
    cases g <;> simp_all [load, Except.bind]
  | key h hi hlong =>
    rw [load_eq_ok_iff.2 h]
    refine if_neg fun hall => ?_
    have hshown := List.all_eq_true.1 hall _ hi
    rw [isShown, decide_eq_true_eq] at hshown
    exact absurd hshown (Nat.not_lt.2 hlong)

theorem problem?_of_raises (h : Raises f raw fault) : fault.problem? = none := by
  cases h <;> rfl

/-! ## Texts -/

/-- The block that a text starts with is read, and the rest is left. -/
theorem extract_of_hasBlock (h : HasBlock o s f raw rest) :
    extract o s = (shownFields f raw).map (⟨·, rest, true⟩) := by
  have hwanted : ¬ (!o.frontMatter) = true := by simp [h.wanted]
  rw [extract, if_neg hwanted]
  cases f with
  | yaml => rw [h.split]
  | toml =>
    have hyaml : split .yaml s = none := by
      refine (split_yaml_or_toml s).resolve_right fun hnone => ?_
      rw [h.split] at hnone
      cases hnone
    rw [hyaml, h.split]

/-- A text goes wrong only with the block that it starts with. -/
theorem hasBlock_of_extract_error (h : extract o s = .error fault) :
    ∃ f raw rest, HasBlock o s f raw rest := by
  cases hwanted : o.frontMatter with
  | false =>
    rw [extract_of_split_eq_none (.inl hwanted)] at h
    cases h
  | true =>
    cases hyaml : split .yaml s with
    | some found => exact ⟨.yaml, found.1, found.2, hwanted, hyaml⟩
    | none =>
      cases htoml : split .toml s with
      | some found => exact ⟨.toml, found.1, found.2, hwanted, htoml⟩
      | none =>
        rw [extract_of_split_eq_none (.inr ⟨hyaml, htoml⟩)] at h
        cases h

theorem extract_of_raised (h : Raised o s fault) : extract o s = .error fault := by
  obtain ⟨f, raw, rest, hblock, hraises⟩ := h
  rw [extract_of_hasBlock hblock, shownFields_of_raises hraises]
  rfl

theorem isParsing_or_raised (h : extract o s = .error fault) :
    fault.IsParsing ∨ Raised o s fault := by
  obtain ⟨f, raw, rest, hblock⟩ := hasBlock_of_extract_error h
  rw [extract_of_hasBlock hblock] at h
  cases hfields : shownFields f raw with
  | ok fields =>
    rw [hfields] at h
    cases h
  | error g =>
    rw [hfields] at h
    obtain rfl := Except.error.inj h
    exact (isParsing_or_raises_of_shownFields hfields).imp_right fun hraises =>
      ⟨f, raw, rest, hblock, hraises⟩

theorem problem?_of_raised (h : Raised o s fault) : fault.problem? = none := by
  obtain ⟨_, _, _, -, hraises⟩ := h
  exact problem?_of_raises hraises

/-- **Bad front matter is a problem of parsing** with the stage of front matter, whatever the
library is that reads it, unless the library ends in another way than by finding it malformed or a
key is a number of too many digits. Exactly then the fault is no problem that is told about. -/
theorem extract_parsing_or_raised (o : Markdown.Options) (s : List Char) :
    (∀ fault, extract o s = .error fault →
      (∃ text, fault.problem? = some (.parsing text (some "frontmatter"))) ∨
        (fault.problem? = none ∧ Raised o s fault)) ∧
    ∀ fault, Raised o s fault ↔ extract o s = .error fault ∧ fault.problem? = none := by
  refine ⟨fun fault h => ?_, fun fault => ⟨fun h => ?_, fun h => ?_⟩⟩
  · exact (isParsing_or_raised h).imp_right fun hraised => ⟨problem?_of_raised hraised, hraised⟩
  · exact ⟨extract_of_raised h, problem?_of_raised h⟩
  · refine (isParsing_or_raised h.1).resolve_left ?_
    rintro ⟨text, htext⟩
    rw [h.2] at htext
    cases htext

end Host

/-- A month that the calendar does not have. -/
def impossibleDate : List Char :=
  "---\na: 2020-13-45\n---\n".toList

theorem extract_impossibleDate : extract {} impossibleDate = .error (.yaml (.moment .month)) :=
  ends_eq_error_iff.1 (by decide +kernel)

theorem extract_parsing_or_raised_impossibleDate :
    extract {} impossibleDate = .error (.yaml (.moment .month)) ∧
      Raised {} impossibleDate (.yaml (.moment .month)) :=
  ⟨extract_impossibleDate,
    ((extract_parsing_or_raised {} impossibleDate).2 _).2 ⟨extract_impossibleDate, rfl⟩⟩

/-- Not all bad front matter is a problem of parsing. -/
theorem exists_front_matter_without_problem :
    ¬ ∀ (o : Markdown.Options) (s : List Char) (fault : Fault), extract o s = .error fault →
      ∃ text, fault.problem? = some (.parsing text (some "frontmatter")) := by
  intro h
  obtain ⟨text, htext⟩ := h {} impossibleDate _ extract_impossibleDate
  cases htext

/-! ## What is behind a fault -/

/-- The content of a block holds something without a value, or a key that cannot be shown. -/
inductive BlockValueless : Format → List Char → Fault → Prop
  | yaml {raw : List Char} {f : Yaml.Fault} (h : Yaml.Valueless raw f) :
    BlockValueless .yaml raw (.yaml f)
  | toml {raw : List Char} {f : Toml.Fault} (h : Toml.Valueless raw f) :
    BlockValueless .toml raw (.toml f)
  | key {f : Format} {raw : List Char} : BlockValueless f raw .unshownKey

/-- With the readers of this project, something in the block has no value. -/
theorem valueless_of_raises (h : Raises f raw fault) : BlockValueless f raw fault := by
  cases h with
  | yaml h hf => exact .yaml ((Yaml.valueless_of_load h).resolve_left hf)
  | toml h hf => exact .toml ((Toml.valueless_of_load h).resolve_left hf)
  | key => exact .key

end PackageDoc.FrontMatter
