import Mathlib.Logic.Basic
import PackageDoc.PackageName

/-!
# Which package names are accepted

A name is accepted exactly if it is an identifier and no keyword, and it is returned as it is. Any
other name is refused with the first fault in it. Go asks for one thing more: the blank identifier
names nothing, so no package can be called so. It is the only name that is accepted wrongly.

    validate s = .ok r ↔ r = s ∧ IsIdentifier s ∧ s ∉ keywords                (validate_eq_ok_iff)
    validate s = .error f ↔ Faulty s f                                     (validate_eq_error_iff)
    validate s = .ok r ↔ r = s ∧ (NamesPackage s ∨ s = blank)                     (validate_exact)
-/

namespace PackageDoc.PackageName

/-! ## Identifiers -/

/-- The characters that can begin an identifier. -/
def Begins (c : Char) : Prop :=
  c = '_' ∨ Unicode.isLetter c = true

/-- The characters that can stand further on in an identifier. -/
def Continues (c : Char) : Prop :=
  Begins c ∨ Unicode.isDecimalDigit c = true

/-- A letter or underscore, and letters, decimal digits and underscores after it. -/
def IsIdentifier (s : String) : Prop :=
  ∃ c rest, s.toList = c :: rest ∧ Begins c ∧ ∀ d ∈ rest, Continues d

/-- The identifier that names nothing. -/
def blank : String := "_"

/-- The names that a package can have in Go. -/
def NamesPackage (s : String) : Prop :=
  IsIdentifier s ∧ s ∉ keywords ∧ s ≠ blank

/-- What is wrong with a name: the first fault of it from left to right, and then as a whole. -/
inductive Faulty (s : String) : Fault → Prop
  | empty (h : s.toList = []) : Faulty s (.notText (.text s))
  | badStart {c : Char} {rest : List Char} (h : s.toList = c :: rest) (hc : ¬ Begins c) :
      Faulty s (.badStart s)
  | badCharacter {c bad : Char} {before after : List Char}
      (h : s.toList = c :: (before ++ bad :: after)) (hc : Begins c)
      (hbefore : ∀ d ∈ before, Continues d) (hbad : ¬ Continues bad) :
      Faulty s (.badCharacter s bad)
  | keyword (h : IsIdentifier s) (hk : s ∈ keywords) : Faulty s (.keyword s)

theorem not_isStart_iff (c : Char) : (!isStart c) = true ↔ ¬ Begins c := by
  simp [isStart, Begins]

theorem not_isPart_iff (c : Char) : (!isPart c) = true ↔ ¬ Continues c := by
  rw [isPart, Bool.not_or, Bool.and_eq_true, not_isStart_iff, Continues, not_or]
  simp

/-- The search of a name after its first character finds nothing, or the first fault. -/
theorem find?_not_isPart_eq_none {rest : List Char} :
    rest.find? (fun c => !isPart c) = none ↔ ∀ d ∈ rest, Continues d := by
  simp only [List.find?_eq_none, not_isPart_iff, not_not]

theorem find?_not_isPart_eq_some {rest : List Char} {bad : Char} :
    rest.find? (fun c => !isPart c) = some bad ↔
      ¬ Continues bad ∧ ∃ before after, rest = before ++ bad :: after ∧
        ∀ d ∈ before, Continues d := by
  have hpart (d : Char) : (!(!isPart d)) = true ↔ Continues d := by
    rw [Bool.not_eq_true', ← Bool.not_eq_true, not_isPart_iff, not_not]
  simp only [List.find?_eq_some_iff_append, not_isPart_iff, hpart]

/-! ## The check -/

variable {s r : String} {f : Fault}

/-- After a first character that is fine, the rest decides. -/
theorem validate_of_begins {c : Char} {rest : List Char} (h : s.toList = c :: rest)
    (hc : Begins c) : validate s =
      match rest.find? fun c => !isPart c with
      | some bad => .error (.badCharacter s bad)
      | none => if keywords.contains s then .error (.keyword s) else .ok s := by
  have hstart : ¬ (!isStart c) = true := fun hbad => (not_isStart_iff c).1 hbad hc
  rw [validate, h]
  exact if_neg hstart

theorem validate_of_faulty (h : Faulty s f) : validate s = .error f := by
  cases h with
  | empty h => rw [validate, h]
  | badStart h hc =>
    rw [validate, h]
    exact if_pos ((not_isStart_iff _).2 hc)
  | @badCharacter c bad before after h hc hbefore hbad =>
    have hfind := find?_not_isPart_eq_some.2 ⟨hbad, before, after, rfl, hbefore⟩
    rw [validate_of_begins h hc, hfind]
  | keyword h hk =>
    obtain ⟨c, rest, hs, hc, hrest⟩ := h
    rw [validate_of_begins hs hc, find?_not_isPart_eq_none.2 hrest]
    exact if_pos (by simpa using hk)

theorem validate_of_isIdentifier (h : IsIdentifier s) (hk : s ∉ keywords) :
    validate s = .ok s := by
  obtain ⟨c, rest, hs, hc, hrest⟩ := h
  rw [validate_of_begins hs hc, find?_not_isPart_eq_none.2 hrest]
  exact if_neg (by simpa using hk)

/-- A name has a fault, or it is an identifier and no keyword. -/
theorem faulty_or_isIdentifier (s : String) :
    (∃ f, Faulty s f) ∨ IsIdentifier s ∧ s ∉ keywords := by
  cases hs : s.toList with
  | nil => exact .inl ⟨_, .empty hs⟩
  | cons c rest =>
    by_cases hc : Begins c
    · cases hfind : rest.find? fun c => !isPart c with
      | some bad =>
        obtain ⟨hbad, before, after, rfl, hbefore⟩ := find?_not_isPart_eq_some.1 hfind
        exact .inl ⟨_, .badCharacter hs hc hbefore hbad⟩
      | none =>
        have h : IsIdentifier s := ⟨c, rest, hs, hc, find?_not_isPart_eq_none.1 hfind⟩
        by_cases hk : s ∈ keywords
        · exact .inl ⟨_, .keyword h hk⟩
        · exact .inr ⟨h, hk⟩
    · exact .inl ⟨_, .badStart hs hc⟩

theorem validate_eq_error_iff : validate s = .error f ↔ Faulty s f := by
  refine ⟨fun h => ?_, validate_of_faulty⟩
  rcases faulty_or_isIdentifier s with ⟨g, hg⟩ | ⟨hs, hk⟩
  · obtain rfl := Except.error.inj (h.symm.trans (validate_of_faulty hg))
    exact hg
  · cases h.symm.trans (validate_of_isIdentifier hs hk)

theorem validate_eq_ok_iff : validate s = .ok r ↔ r = s ∧ IsIdentifier s ∧ s ∉ keywords := by
  constructor
  · intro h
    rcases faulty_or_isIdentifier s with ⟨g, hg⟩ | hs
    · cases h.symm.trans (validate_of_faulty hg)
    · exact ⟨eq_of_validate h, hs⟩
  · rintro ⟨rfl, hs, hk⟩
    exact validate_of_isIdentifier hs hk

/-- A fault is told as a problem with a package name that carries the name. -/
theorem Faulty.problem_eq (h : Faulty s f) : f.problem = .packageName f.message (.text s) := by
  cases h <;> rfl

/-- Whatever is not accepted is refused, with a problem that carries it. -/
theorem not_accepted_iff : ¬ (IsIdentifier s ∧ s ∉ keywords) ↔
    ∃ f, validate s = .error f ∧ f.problem = .packageName f.message (.text s) := by
  constructor
  · intro h
    obtain ⟨f, hf⟩ := (faulty_or_isIdentifier s).resolve_right h
    exact ⟨f, validate_of_faulty hf, hf.problem_eq⟩
  · rintro ⟨f, hf, -⟩ ⟨hs, hk⟩
    cases hf.symm.trans (validate_of_isIdentifier hs hk)

/-! ## Names of packages -/

theorem isIdentifier_blank : IsIdentifier blank :=
  ⟨'_', [], rfl, .inl rfl, by simp⟩

/-- **Names are accepted as Go accepts them, but for the blank identifier.** A name is accepted, and
returned as it is, if and only if a package can have it in Go or it is the blank identifier. Any
other name is refused with the first fault in it, as a problem that carries the name. -/
theorem validate_exact (s : String) :
    (∀ r, validate s = .ok r ↔ r = s ∧ (NamesPackage s ∨ s = blank)) ∧
      (∀ f, validate s = .error f ↔ Faulty s f) ∧
      (¬ (NamesPackage s ∨ s = blank) ↔
        ∃ f, validate s = .error f ∧ f.problem = .packageName f.message (.text s)) ∧
      keywords.length = 25 ∧ keywords.Nodup := by
  have haccepted : NamesPackage s ∨ s = blank ↔ IsIdentifier s ∧ s ∉ keywords := by
    by_cases hs : s = blank
    · subst hs
      exact ⟨fun _ => ⟨isIdentifier_blank, by decide⟩, fun _ => .inr rfl⟩
    · simp only [NamesPackage, hs, or_false, ne_eq, not_false_eq_true, and_true]
  simp only [haccepted]
  exact ⟨fun r => validate_eq_ok_iff, fun f => validate_eq_error_iff, not_accepted_iff, rfl,
    by decide⟩

/-- The blank identifier is accepted, although no package can have it. -/
theorem exists_accepted_wrongly :
    ¬ ∀ s r, validate s = .ok r ↔ r = s ∧ NamesPackage s := by
  intro h
  have hblank : validate blank = .ok blank := rfl
  exact ((h blank blank).1 hblank).2.2.2 rfl

end PackageDoc.PackageName
