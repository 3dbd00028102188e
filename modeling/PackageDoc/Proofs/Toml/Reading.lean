import Mathlib.Data.List.Infix
import PackageDoc.Proofs.Outcome
import PackageDoc.Toml.Document

/-!
# Faults of reading TOML

Every reader passes on a part at the end of the text that it was given. So what goes wrong anywhere
goes wrong in the text as a whole: it is malformed, or a decimal numeral in it has more digits than
an integer may have.

    load s = .error f → f = .malformed ∨ Valueless s f                       (valueless_of_load)
-/

namespace PackageDoc.Toml

variable {whole s t : List Char} {n : Nat}

/-- A text holds a decimal numeral of so many digits, maybe with underscores between them, which are
more than an integer may have. -/
def LongNumeral (s : List Char) (n : Nat) : Prop :=
  ∃ numeral, numeral <:+: s ∧ (∀ c ∈ numeral, Text.isDigit c = true ∨ c = '_') ∧
    numeral.countP Text.isDigit = n ∧ Text.maxDigits < n

/-- The faults that reading a text can come upon. -/
inductive Fault.OfText (whole : List Char) : Fault → Prop
  | malformed : OfText whole .malformed
  | tooManyDigits {n : Nat} (h : LongNumeral whole n) : OfText whole (.tooManyDigits n)

attribute [simp] Fault.OfText.malformed

/-- A reader passes on a part at the end of the whole text, or goes wrong by a fault of it. -/
abbrev Reads {α : Type} (whole : List Char) (x : Parsed α) : Prop :=
  Ends x (fun r => r.2 <:+ whole) (Fault.OfText whole)

/-- A step over a part of the text leaves a part at its end, or goes wrong by a fault of it. -/
abbrev Skips (whole : List Char) (x : Except Fault (List Char)) : Prop :=
  Ends x (· <:+ whole) (Fault.OfText whole)

theorem suffix_skipSpaces (h : s <:+ whole) : skipSpaces s <:+ whole :=
  suffix_dropWhile h _

theorem suffix_skipBlanks (h : s <:+ whole) : skipBlanks s <:+ whole :=
  suffix_dropWhile h _

/-! ## Strings -/

theorem skips_skipComment (h : s <:+ whole) : Skips whole (skipComment s) := by
  unfold skipComment
  split
  · refine ends_ite (fun _ => .malformed) fun _ => ?_
    exact suffix_drop (suffix_of_cons h) _
  · exact h

theorem reads_namedCharacter {length : Nat} (h : s <:+ whole) :
    Reads whole (namedCharacter length s) :=
  ends_ite (fun _ => suffix_drop h _) fun _ => .malformed

theorem reads_escape {multiline : Bool} (h : s <:+ whole) : Reads whole (escape multiline s) := by
  unfold escape
  split
  · exact .malformed
  · rename_i c t
    have ht := suffix_of_cons h
    refine ends_ite (fun _ => suffix_skipBlanks ht) fun _ => ends_ite (fun _ => ?_) fun _ => ?_
    · have hspaces := suffix_skipSpaces ht
      split
      · exact List.nil_suffix
      · rename_i u hu
        exact suffix_skipBlanks (suffix_of_cons (hu ▸ hspaces))
      · exact .malformed
    · refine ends_ite (fun _ => reads_namedCharacter ht) fun _ =>
        ends_ite (fun _ => reads_namedCharacter ht) fun _ => ?_
      split
      · exact ht
      · exact .malformed

theorem reads_basicWithin {multiline : Bool} (h : s <:+ whole) :
    Reads whole (basicWithin multiline n s) := by
  fun_induction basicWithin multiline n s with
  | case1 | case2 => exact .malformed
  | case3 n s => exact suffix_of_cons h
  | case4 n t => exact suffix_of_cons (suffix_of_cons (suffix_of_cons h))
  | case5 n s _ _ ih => exact ends_map.2 (ih (suffix_of_cons h))
  | case6 n s _ ih =>
    exact (reads_escape (suffix_of_cons h)).bind fun r hr => ends_map.2 (ih r.2 hr)
  | case7 => exact .malformed
  | case8 n c s _ _ _ ih => exact ends_map.2 (ih (suffix_of_cons h))

theorem reads_literal {multiline : Bool} (h : s <:+ whole) : Reads whole (literal multiline s) := by
  induction s with
  | nil => exact .malformed
  | cons c s ih =>
    have hs := suffix_of_cons h
    refine ends_ite (fun _ => ?_) fun _ => ends_ite (fun _ => .malformed) fun _ => ?_
    · show (if multiline then s.drop 2 else s) <:+ whole
      split
      · exact suffix_drop hs 2
      · exact hs
    · exact ends_map.2 (ih hs)

theorem reads_multilineString {quote : Char} (h : s <:+ whole) :
    Reads whole (multilineString quote s) := by
  unfold multilineString
  dsimp only
  split
  · refine (reads_basicWithin ?_).bind fun _ hr => suffix_drop hr _
    split
    · exact suffix_of_cons h
    · exact h
  · refine (reads_literal ?_).bind fun _ hr => suffix_drop hr _
    split
    · exact suffix_of_cons h
    · exact h

theorem reads_lineString {quote : Char} (h : s <:+ whole) : Reads whole (lineString quote s) :=
  ends_ite (fun _ => reads_basicWithin h) fun _ => reads_literal h

theorem reads_string {quote : Char} (h : s <:+ whole) : Reads whole (string quote s) := by
  unfold string
  split
  · exact ends_ite (fun _ => reads_multilineString (suffix_of_cons (suffix_of_cons h)))
      fun _ => reads_lineString h
  · exact reads_lineString h

/-! ## Numbers -/

/-- What a run of digits is read from: these digits and underscores. -/
theorem digitRun_spec {isDigit : Char → Bool} (hu : isDigit '_' = false) (s : List Char) :
    ∃ run, s = run ++ (digitRun isDigit s).2 ∧ (∀ c ∈ run, isDigit c = true ∨ c = '_') ∧
      run.countP isDigit = (digitRun isDigit s).1.length := by
  fun_induction digitRun isDigit s with
  | case1 => exact ⟨[], rfl, by simp, rfl⟩
  | case2 c hc => exact ⟨[c], rfl, by simp [hc], by simp [hc]⟩
  | case3 c hc => exact ⟨[], rfl, by simp, rfl⟩
  | case4 => exact ⟨[], rfl, by simp, rfl⟩
  | case5 c hc e s he ds rest _ ih =>
    obtain ⟨run, hs, hrun, hcount⟩ := ih
    have hc : isDigit c = true := by simpa using hc
    exact ⟨c :: '_' :: run, by rw [List.cons_append, List.cons_append, ← hs],
      by simpa [hc] using hrun, by simp [hc, hu, hcount]⟩
  | case6 c hc | case7 c hc =>
    have hc : isDigit c = true := by simpa using hc
    exact ⟨[c], rfl, by simp [hc], by simp [hc]⟩
  | case8 c d s hc _ ds rest hrest ih =>
    obtain ⟨run, hs, hrun, hcount⟩ := ih
    have hc : isDigit c = true := by simpa using hc
    rw [hrest] at hs hcount
    exact ⟨c :: run, by rw [List.cons_append, ← hs], by simpa [hc] using hrun,
      by simp [hc, hcount]⟩

theorem suffix_digitRun {isDigit : Char → Bool} (hu : isDigit '_' = false) (h : s <:+ whole) :
    (digitRun isDigit s).2 <:+ whole := by
  obtain ⟨run, hs, -⟩ := digitRun_spec hu s
  exact (List.IsSuffix.trans ⟨run, hs.symm⟩ h)

theorem suffix_sign (h : s <:+ whole) : (sign s).2 <:+ whole := by
  unfold sign
  split
  · exact suffix_of_cons h
  · exact suffix_of_cons h
  · exact h

/-- What the whole part of a number is read from, like a run of digits. -/
theorem wholePart?_spec {ds : List Char} (h : wholePart? s = some (ds, t)) :
    ∃ run, s = run ++ t ∧ (∀ c ∈ run, Text.isDigit c = true ∨ c = '_') ∧
      run.countP Text.isDigit = ds.length := by
  unfold wholePart? at h
  split at h
  · obtain ⟨rfl, rfl⟩ := Prod.mk.inj (Option.some.inj h)
    exact ⟨['0'], rfl, fun c hc => .inl (by rw [List.mem_singleton.1 hc]; rfl), rfl⟩
  · dsimp only at h
    split at h
    · simp at h
    · obtain ⟨rfl, rfl⟩ := Prod.mk.inj (Option.some.inj h)
      exact digitRun_spec (by decide) s

theorem suffix_fraction (h : s <:+ whole) : (fraction s).2 <:+ whole := by
  unfold fraction
  split
  · dsimp only
    split
    · exact h
    · exact suffix_digitRun (by decide) (suffix_of_cons h)
  · exact h

theorem suffix_exponent? {e : Int} (h : s <:+ whole) (he : exponent? s = some (e, t)) :
    t <:+ whole := by
  unfold exponent? at he
  split at he
  · split at he
    · dsimp only at he
      split at he
      · simp at he
      · obtain ⟨-, rfl⟩ := Prod.mk.inj (Option.some.inj he)
        exact suffix_digitRun (by decide) (suffix_sign (suffix_of_cons h))
    · simp at he
  · simp at he

theorem suffix_basedInteger? {v : Int} (h : s <:+ whole) (hv : basedInteger? s = some (v, t)) :
    t <:+ whole := by
  unfold basedInteger? at hv
  split at hv
  · split at hv
    · rename_i base hbase
      dsimp only at hv
      split at hv
      · simp at hv
      · obtain ⟨-, rfl⟩ := Prod.mk.inj (Option.some.inj hv)
        exact suffix_digitRun (by simp [isDigitIn, show Text.hexDigit? '_' = none by decide])
          (suffix_of_cons (suffix_of_cons h))
    · simp at hv
  · simp at hv

theorem suffix_word? {v : Scalar} (h : s <:+ whole) (hv : word? s = some (v, t)) :
    t <:+ whole := by
  obtain ⟨w, -, hw⟩ := Option.map_eq_some_iff.1 hv
  obtain ⟨-, rfl⟩ := Prod.mk.inj hw
  exact suffix_drop h _

/-- A decimal number goes wrong only by having too many digits. -/
theorem reads_decimal? {r : Parsed Scalar} (h : s <:+ whole) (hr : decimal? s = some r) :
    Reads whole r := by
  unfold decimal? at hr
  obtain ⟨⟨ds, u⟩, hwhole, hr⟩ := Option.bind_eq_some_iff.1 hr
  obtain ⟨numeral, hs, hdigits, hcount⟩ := wholePart?_spec hwhole
  have hsign : (sign s).2 <:+ whole := suffix_sign h
  have hu : u <:+ whole := List.IsSuffix.trans ⟨numeral, hs.symm⟩ hsign
  dsimp only at hr
  split at hr
  · rename_i e rest he
    obtain rfl := Option.some.inj hr
    exact suffix_exponent? (suffix_fraction hu) he
  · split at hr
    · obtain rfl := Option.some.inj hr
      exact suffix_fraction hu
    · split at hr
      · rename_i hlong
        obtain rfl := Option.some.inj hr
        refine .tooManyDigits ⟨numeral, ?_, hdigits, hcount, hlong⟩
        exact (List.IsPrefix.isInfix ⟨u, hs.symm⟩).trans hsign.isInfix
      · obtain rfl := Option.some.inj hr
        exact suffix_fraction hu

/-! ## Dates and times -/

theorem suffix_part? {width least most : Nat} (h : s <:+ whole)
    (hn : part? width least most s = some (n, t)) : t <:+ whole := by
  unfold part? at hn
  dsimp only at hn
  split at hn
  · obtain ⟨-, rfl⟩ := Prod.mk.inj (Option.some.inj hn)
    exact suffix_drop h _
  · simp at hn

theorem suffix_after? {c : Char} (h : s <:+ whole) (ht : after? c s = some t) : t <:+ whole := by
  unfold after? at ht
  split at ht
  · split at ht
    · obtain rfl := Option.some.inj ht
      exact suffix_of_cons h
    · simp at ht
  · simp at ht

theorem suffix_microseconds (h : s <:+ whole) : (microseconds s).2 <:+ whole := by
  unfold microseconds
  split
  · dsimp only
    split
    · exact h
    · exact suffix_drop (suffix_of_cons h) _
  · exact h

theorem suffix_time? {v : TimeOfDay} (h : s <:+ whole) (hv : time? s = some (v, t)) :
    t <:+ whole := by
  unfold time? at hv
  obtain ⟨⟨hour, s₁⟩, h₁, hv⟩ := Option.bind_eq_some_iff.1 hv
  obtain ⟨s₂, h₂, hv⟩ := Option.bind_eq_some_iff.1 hv
  obtain ⟨⟨minute, s₃⟩, h₃, hv⟩ := Option.bind_eq_some_iff.1 hv
  obtain ⟨s₄, h₄, hv⟩ := Option.bind_eq_some_iff.1 hv
  obtain ⟨⟨second, s₅⟩, h₅, hv⟩ := Option.bind_eq_some_iff.1 hv
  obtain ⟨-, rfl⟩ := Prod.mk.inj (Option.some.inj hv)
  have hs₂ := suffix_after? (suffix_part? h h₁) h₂
  have hs₄ := suffix_after? (suffix_part? hs₂ h₃) h₄
  exact suffix_microseconds (suffix_part? hs₄ h₅)

theorem suffix_offset (h : s <:+ whole) : (offset s).2 <:+ whole := by
  unfold offset
  split
  · rename_i c t
    have ht := suffix_of_cons h
    split
    · exact ht
    · split
      · dsimp only
        split
        · rename_i m u hwritten
          obtain ⟨⟨hours, s₁⟩, h₁, hwritten⟩ := Option.bind_eq_some_iff.1 hwritten
          obtain ⟨s₂, h₂, hwritten⟩ := Option.bind_eq_some_iff.1 hwritten
          obtain ⟨⟨minutes, s₃⟩, h₃, hwritten⟩ := Option.bind_eq_some_iff.1 hwritten
          obtain ⟨-, rfl⟩ := Prod.mk.inj (Option.some.inj hwritten)
          exact suffix_part? (suffix_after? (suffix_part? ht h₁) h₂) h₃
        · exact h
      · exact h
  · exact h

theorem reads_moment? {r : Parsed Scalar} (h : s <:+ whole) (hr : moment? s = some r) :
    Reads whole r := by
  unfold moment? at hr
  obtain ⟨⟨year, s₁⟩, h₁, hr⟩ := Option.bind_eq_some_iff.1 hr
  obtain ⟨s₂, h₂, hr⟩ := Option.bind_eq_some_iff.1 hr
  obtain ⟨⟨month, s₃⟩, h₃, hr⟩ := Option.bind_eq_some_iff.1 hr
  obtain ⟨s₄, h₄, hr⟩ := Option.bind_eq_some_iff.1 hr
  obtain ⟨⟨day, u⟩, h₅, hr⟩ := Option.bind_eq_some_iff.1 hr
  have hs₂ := suffix_after? (suffix_part? h h₁) h₂
  have hs₄ := suffix_after? (suffix_part? hs₂ h₃) h₄
  have hu : u <:+ whole := suffix_part? hs₄ h₅
  -- a date that the calendar does not have is malformed
  have hvalid {v : Scalar} {rest : List Char} (hrest : rest <:+ whole) : Reads whole
      (if (Date.fault? ⟨year, month, day⟩).isSome then .error .malformed else .ok (v, rest)) :=
    ends_ite (fun _ => .malformed) fun _ => hrest
  dsimp only at hr
  split at hr
  · rename_i time rest htime
    obtain rfl := Option.some.inj hr
    refine hvalid (suffix_offset ?_)
    split at htime
    · split at htime
      · exact suffix_time? (suffix_of_cons hu) htime
      · simp at htime
    · simp at htime
  · obtain rfl := Option.some.inj hr
    exact hvalid hu

/-! ## Scalars -/

theorem reads_scalar (h : s <:+ whole) : Reads whole (scalar s) := by
  refine ends_ite (fun _ => suffix_drop h 4) fun _ => ?_
  refine ends_ite (fun _ => suffix_drop h 5) fun _ => ?_
  split
  · exact reads_moment? h ‹_›
  · split
    · exact suffix_time? h ‹_›
    · split
      · exact suffix_basedInteger? h ‹_›
      · split
        · exact reads_decimal? h ‹_›
        · split
          · exact suffix_word? h ‹_›
          · exact .malformed

/-! ## Keys and values -/

theorem reads_keyPart (h : s <:+ whole) : Reads whole (keyPart s) := by
  unfold keyPart
  split
  · exact .malformed
  · refine ends_ite (fun _ => suffix_drop h _) fun _ => ends_ite (fun _ => ?_) fun _ => .malformed
    exact ends_map.2 (reads_lineString (suffix_of_cons h))

theorem reads_keyWithin (h : s <:+ whole) : Reads whole (keyWithin n s) := by
  induction n generalizing s with
  | zero => exact .malformed
  | succ n ih =>
    unfold keyWithin
    refine (reads_keyPart h).bind fun (part, rest) hrest => ?_
    have hspaces := suffix_skipSpaces hrest
    dsimp only
    split
    · rename_i t ht
      exact (ih (suffix_skipSpaces (suffix_of_cons (ht ▸ hspaces)))).bind fun _ hr => hr
    · exact hspaces

theorem reads_key (h : s <:+ whole) : Reads whole (key s) :=
  reads_keyWithin h

theorem skips_skipGaps (h : s <:+ whole) : Skips whole (skipGaps n s) := by
  induction n generalizing s with
  | zero => exact h
  | succ n ih =>
    unfold skipGaps
    exact (skips_skipComment (suffix_skipBlanks h)).bind fun t ht =>
      ends_ite (fun _ => h) fun _ => ih ht

/-- Adding a field goes wrong only where the table is malformed. -/
theorem ends_add {table : Inline} {k : Key} {v : Value} :
    Ends (table.add k v) (fun _ => True) (Fault.OfText whole) := by
  refine ends_ite (fun _ => .malformed) fun _ => ?_
  split
  · exact .malformed
  · exact trivial

/-- The readers of values and of what collections hold, with so many steps left. -/
structure ReadsValues (whole : List Char) (n : Nat) : Prop where
  value {s : List Char} (h : s <:+ whole) : Reads whole (value n s)
  elements {s : List Char} (h : s <:+ whole) : Reads whole (elements n s)
  inlineFields {s : List Char} (table : Inline) (h : s <:+ whole) :
    Reads whole (inlineFields n table s)
  keyValue {s : List Char} (h : s <:+ whole) :
    Ends (keyValue n s) (fun r => r.2.2 <:+ whole) (Fault.OfText whole)

namespace ReadsValues

theorem zero : ReadsValues whole 0 where
  value _ := .malformed
  elements _ := .malformed
  inlineFields _ _ := .malformed
  keyValue _ := .malformed

theorem succ_value (ih : ReadsValues whole n) (h : s <:+ whole) :
    Reads whole (Toml.value (n + 1) s) := by
  unfold Toml.value
  split
  · exact .malformed
  · rename_i c t
    have ht := suffix_of_cons h
    refine ends_ite (fun _ => ends_map.2 (reads_string ht)) fun _ =>
      ends_ite (fun _ => ?_) fun _ => ends_ite (fun _ => ?_) fun _ => ends_map.2 (reads_scalar h)
    · exact (skips_skipGaps ht).bind fun t ht => (ih.elements ht).bind fun r hr => hr
    · have hspaces := suffix_skipSpaces ht
      split
      · rename_i rest hrest
        exact suffix_of_cons (hrest ▸ hspaces)
      · exact ih.inlineFields _ hspaces

theorem succ_elements (ih : ReadsValues whole n) (h : s <:+ whole) :
    Reads whole (Toml.elements (n + 1) s) := by
  unfold Toml.elements
  split
  · exact suffix_of_cons h
  · refine (ih.value h).bind fun r hr => (skips_skipGaps hr).bind fun t ht => ?_
    split
    · exact suffix_of_cons ht
    · refine (skips_skipGaps (suffix_of_cons ht)).bind fun u hu => ?_
      exact (ih.elements hu).bind fun _ hr => hr
    · exact .malformed

theorem succ_inlineFields (ih : ReadsValues whole n) (table : Inline) (h : s <:+ whole) :
    Reads whole (Toml.inlineFields (n + 1) table s) := by
  unfold Toml.inlineFields
  refine (ih.keyValue h).bind fun r hr => ends_add.bind fun table _ => ?_
  have hspaces := suffix_skipSpaces hr
  split
  · rename_i rest hrest
    exact suffix_of_cons (hrest ▸ hspaces)
  · rename_i u hu
    exact ih.inlineFields _ (suffix_skipSpaces (suffix_of_cons (hu ▸ hspaces)))
  · exact .malformed

theorem succ_keyValue (ih : ReadsValues whole n) (h : s <:+ whole) :
    Ends (Toml.keyValue (n + 1) s) (fun r => r.2.2 <:+ whole) (Fault.OfText whole) := by
  unfold Toml.keyValue
  refine (reads_key h).bind fun (k, t) ht => ?_
  dsimp only
  split
  · exact (ih.value (suffix_skipSpaces (suffix_of_cons ht))).bind fun _ hr => hr
  · exact .malformed

theorem succ (ih : ReadsValues whole n) : ReadsValues whole (n + 1) where
  value := ih.succ_value
  elements := ih.succ_elements
  inlineFields := ih.succ_inlineFields
  keyValue := ih.succ_keyValue

end ReadsValues

theorem readsValues (n : Nat) : ReadsValues whole n := by
  induction n with
  | zero => exact .zero
  | succ n ih => exact ih.succ

/-! ## Documents -/

namespace Draft

/-- Changing a draft goes wrong only where it is malformed. -/
abbrev Changes (whole : List Char) (x : Except Fault Draft) : Prop :=
  Ends x (fun _ => True) (Fault.OfText whole)

variable {d : Draft} {k : Key} {v : Value}

theorem changes_openTable : Changes whole (d.openTable k) := by
  refine ends_ite (fun _ => .malformed) fun _ => ?_
  split
  · exact .malformed
  · exact trivial

theorem changes_openElement : Changes whole (d.openElement k) := by
  refine ends_ite (fun _ => .malformed) fun _ => ?_
  split
  · exact .malformed
  · exact trivial

theorem changes_define : Changes whole (d.define k v) := by
  refine ends_ite (fun _ => .malformed) fun _ => ?_
  split
  · exact .malformed
  · exact trivial

theorem reads_statement (h : s <:+ whole) :
    Ends (d.statement s) (fun r => r.2 <:+ whole) (Fault.OfText whole) := by
  unfold statement
  split
  · refine (reads_key (suffix_skipSpaces (suffix_of_cons (suffix_of_cons h)))).bind
      fun (k, t) ht => changes_openElement.bind fun d _ => ?_
    split
    · exact suffix_of_cons (suffix_of_cons ht)
    · exact .malformed
  · refine (reads_key (suffix_skipSpaces (suffix_of_cons h))).bind
      fun (k, t) ht => changes_openTable.bind fun d _ => ?_
    split
    · exact suffix_of_cons ht
    · exact .malformed
  · refine ends_ite (fun _ => ?_) fun _ => ends_ite (fun _ => h) fun _ => .malformed
    exact ((readsValues _).keyValue h).bind fun r hr => changes_define.bind fun _ _ => hr
  · exact h

theorem changes_readWithin (h : s <:+ whole) : Changes whole (readWithin n d s) := by
  induction n generalizing d s with
  | zero => exact trivial
  | succ n ih =>
    unfold readWithin
    have hspaces := suffix_skipSpaces h
    split
    · exact trivial
    · rename_i t ht
      exact ih (suffix_of_cons (ht ▸ hspaces))
    · refine (reads_statement hspaces).bind fun (d, rest) hrest => ?_
      refine (skips_skipComment (suffix_skipSpaces hrest)).bind fun u hu => ?_
      split
      · exact trivial
      · exact ih (suffix_of_cons hu)
      · exact .malformed

end Draft

theorem prefix_of_unifyLines {l : List Char} (hl : '\n' ∉ l) (h : l <+: unifyLines s) :
    l <+: s := by
  fun_induction unifyLines s generalizing l with
  | case1 => exact h
  | case2 s ih =>
    rcases List.prefix_cons_iff.1 h with rfl | ⟨t, rfl, -⟩
    · exact List.nil_prefix
    · exact absurd List.mem_cons_self hl
  | case3 c s _ ih =>
    rcases List.prefix_cons_iff.1 h with rfl | ⟨t, rfl, ht⟩
    · exact List.nil_prefix
    · exact List.cons_prefix_cons.2 ⟨rfl, ih (List.not_mem_of_not_mem_cons hl) ht⟩

/-- Unifying the ends of lines leaves everything between them as it is. -/
theorem infix_of_unifyLines {l : List Char} (hl : '\n' ∉ l) (h : l <:+: unifyLines s) :
    l <:+: s := by
  fun_induction unifyLines s with
  | case1 => exact h
  | case2 s ih =>
    rcases List.infix_cons_iff.1 h with h | h
    · rcases List.prefix_cons_iff.1 h with rfl | ⟨t, rfl, -⟩
      · exact List.nil_infix
      · exact absurd List.mem_cons_self hl
    · exact (ih h).trans (List.suffix_append ['\r', '\n'] s).isInfix
  | case3 c s _ ih =>
    rcases List.infix_cons_iff.1 h with h | h
    · rcases List.prefix_cons_iff.1 h with rfl | ⟨t, rfl, ht⟩
      · exact List.nil_infix
      · have ht := prefix_of_unifyLines (List.not_mem_of_not_mem_cons hl) ht
        exact (List.cons_prefix_cons.2 ⟨rfl, ht⟩).isInfix
    · exact (ih h).trans (List.suffix_cons c s).isInfix

/-- A text that is well formed but for a numeral of too many digits. -/
inductive Valueless (s : List Char) (f : Fault) : Prop
  | numeral {n : Nat} (h : LongNumeral s n) (hf : f = .tooManyDigits n)

theorem valueless_of_load {f : Fault} (h : load s = .error f) :
    f = .malformed ∨ Valueless s f := by
  have hends : Draft.Changes (unifyLines s) _ :=
    Draft.changes_readWithin (n := (unifyLines s).length + 1) (d := {}) List.suffix_rfl
  have hf := (ends_map (f := Draft.fields) (Q := fun _ => True)).2 hends |>.error h
  cases hf with
  | malformed => exact .inl rfl
  | tooManyDigits hlong =>
    obtain ⟨numeral, hin, hdigits, hcount, hn⟩ := hlong
    refine .inr (.numeral ⟨numeral, infix_of_unifyLines ?_ hin, hdigits, hcount, hn⟩ rfl)
    exact fun hmem => absurd (hdigits _ hmem) (by decide)

end PackageDoc.Toml
