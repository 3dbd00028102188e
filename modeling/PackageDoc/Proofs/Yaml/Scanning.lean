import Mathlib.Algebra.Group.Nat.Defs
import Mathlib.Data.List.Infix
import PackageDoc.Proofs.Outcome
import PackageDoc.Yaml.Token

/-!
# Faults of scanning

Cutting a text into tokens goes wrong in three ways: the text is not well formed, an escape between
double quotes names a number beyond the last code point, or a version has a number of too many
digits. The readers pass on a part at the end of the text that they were given, so such an escape or
number stands in the text as a whole.

    broken f ∈ tokens s → f.OfScan s                                        (ofScan_of_mem_tokens)
-/

namespace PackageDoc.Yaml

/-- A text names a number by eight hexadecimal digits behind a backslash and a letter, and the
number is beyond the last code point. -/
def NamesBeyond (s : List Char) (n : Nat) : Prop :=
  ∃ ds, '\\' :: 'U' :: ds <:+: s ∧ ds.length = 8 ∧ ds.all Text.isHexDigit = true ∧
    Text.ofHexadecimal ds = n ∧ 0x10FFFF < n

/-- A text has more digits in a row than a number may have. -/
def WritesLong (s : List Char) (count : Nat) : Prop :=
  ∃ ds, ds <:+: s ∧ ds.all Text.isDigit = true ∧ ds.length = count ∧ Text.maxDigits < count

/-- The faults that scanning a text can come upon. -/
inductive Fault.OfScan (whole : List Char) : Fault → Prop
  | malformed : OfScan whole .malformed
  | beyond {n : Nat} (h : NamesBeyond whole n) : OfScan whole (.codePoint n)
  | long {count : Nat} (h : WritesLong whole count) : OfScan whole (.tooManyDigits count)

variable {whole s t : List Char}

attribute [simp] Fault.OfScan.malformed

/-! ## Escapes -/

theorem ofHexadecimal_lt (ds : List Char) : Text.ofHexadecimal ds < 16 ^ ds.length := by
  have key (n : Nat) : ds.foldl (fun n c => n * 16 + (Text.hexDigit? c).getD 0) n + 1
      ≤ (n + 1) * 16 ^ ds.length := by
    induction ds generalizing n with
    | nil => simp
    | cons c ds ih =>
      have hc : (Text.hexDigit? c).getD 0 < 16 := by
        cases h : Text.hexDigit? c with
        | none => simp
        | some d => simpa using Text.lt_of_hexDigit? h
      calc _ ≤ (n * 16 + (Text.hexDigit? c).getD 0 + 1) * 16 ^ ds.length := ih _
        _ ≤ ((n + 1) * 16) * 16 ^ ds.length := Nat.mul_le_mul_right _ (by omega)
        _ = (n + 1) * 16 ^ (c :: ds).length := by
          rw [Nat.mul_assoc, List.length_cons, Nat.pow_succ']
  have hzero := key 0
  rw [Nat.zero_add, Nat.one_mul] at hzero
  exact hzero

/-- Only the letter before eight digits leaves room for a number beyond the last code point. -/
theorem namesBeyond_of_lookup {c : Char} {ds : List Char}
    (hc : numericEscapes.lookup c = some ds.length) (hds : ds.all Text.isHexDigit = true)
    (hn : 0x10FFFF < Text.ofHexadecimal ds) (h : '\\' :: c :: ds <:+: s) :
    NamesBeyond s (Text.ofHexadecimal ds) := by
  have hlt := ofHexadecimal_lt ds
  have hU : c = 'U' ∧ ds.length = 8 := by
    simp only [numericEscapes, List.lookup_cons] at hc
    split at hc
    · rw [← Option.some.inj hc] at hlt
      omega
    · split at hc
      · rw [← Option.some.inj hc] at hlt
        omega
      · split at hc
        · rename_i hU
          exact ⟨by simpa using hU, (Option.some.inj hc).symm⟩
        · simp at hc
  obtain ⟨rfl, h8⟩ := hU
  exact ⟨ds, h, h8, hds, rfl, hn⟩

/-! ## Scalars -/

theorem suffix_of_lineBreak? {b : List Char} (h : lineBreak? s = some (b, t)) : t <:+ s := by
  unfold lineBreak? at h
  split at h
  · obtain ⟨-, rfl⟩ := Prod.mk.inj (Option.some.inj h)
    exact ⟨['\r', '\n'], rfl⟩
  · split at h
    · obtain ⟨-, rfl⟩ := Prod.mk.inj (Option.some.inj h)
      exact List.suffix_cons _ _
    · split at h
      · obtain ⟨-, rfl⟩ := Prod.mk.inj (Option.some.inj h)
        exact List.suffix_cons _ _
      · simp at h
  · simp at h

/-- A reader of scalars ends with a part at the end of the whole text, or with a fault of it. -/
abbrev ScansTo (whole : List Char) (x : Except Fault Scanned) : Prop :=
  Ends x (fun r => r.rest <:+ whole) (Fault.OfScan whole)

theorem scansTo_quotedBreaks {n : Nat} (h : s <:+ whole) : ScansTo whole (quotedBreaks n s) := by
  induction n generalizing s with
  | zero => simp [quotedBreaks]
  | succ n ih =>
    unfold quotedBreaks
    have ht : s.dropWhile (fun c => c == ' ' || c == '\t') <:+ whole := suffix_dropWhile h _
    split
    · simp
    · dsimp only
      split
      · rename_i b t hb
        exact ends_map.2 (ih ((suffix_of_lineBreak? hb).trans ht))
      · exact ht

theorem scansTo_quotedGap {bound : Nat} (h : s <:+ whole) :
    ScansTo whole (quotedGap bound s) := by
  unfold quotedGap
  have ht := suffix_drop h (s.takeWhile fun c => c == ' ' || c == '\t').length
  dsimp only
  split
  · rename_i first t hb
    exact ends_map.2 (scansTo_quotedBreaks ((suffix_of_lineBreak? hb).trans ht))
  · split
    · simp
    · exact ht

theorem scansTo_escape {bound : Nat} (h : '\\' :: s <:+ whole) :
    ScansTo whole (escape bound s) := by
  have hs : s <:+ whole := suffix_of_cons h
  unfold escape
  split
  · simp
  · rename_i c t
    have ht : t <:+ whole := suffix_of_cons hs
    split
    · exact ht
    · rename_i length _ hlookup
      dsimp only
      split
      · rename_i hds
        rw [Bool.and_eq_true, decide_eq_true_eq] at hds
        have hmade : '\\' :: c :: t.take length <:+: whole :=
          (List.IsPrefix.isInfix ⟨t.drop length, by simp⟩).trans h.isInfix
        refine ends_map.2 ?_
        unfold characterOf
        split
        · rename_i hn
          exact .beyond (namesBeyond_of_lookup (by rw [hds.1, hlookup]) hds.2 hn hmade)
        · split <;> exact suffix_drop ht _
      · simp
    · split
      · rename_i b t hb
        exact scansTo_quotedBreaks ((suffix_of_lineBreak? hb).trans hs)
      · simp

theorem scansTo_quotedWithin {quote : Char} {n : Nat} (h : s <:+ whole) :
    ScansTo whole (quotedWithin quote n s) := by
  fun_induction quotedWithin quote n s with
  | case1 => simp
  | case2 => simp
  | case3 n d t hq ih =>
    exact ends_map.2 (ih (suffix_of_cons (suffix_of_cons h)))
  | case4 n d t hq => exact suffix_of_cons h
  | case5 n => simp
  | case6 n c s hc hslash ih =>
    obtain ⟨-, rfl⟩ : quote = '"' ∧ c = '\\' := by simpa using hslash
    exact (scansTo_escape h).bind fun r hr => ends_map.2 (ih r hr)
  | case7 n c s hc hslash hgap ih =>
    exact (scansTo_quotedGap h).bind fun r hr => ends_map.2 (ih r hr)
  | case8 n c s hc hslash hgap ih =>
    exact ends_map.2 (ih (suffix_of_cons h))

/-- A reader goes wrong by faults of the whole text alone. -/
abbrev Scans {α : Type} (whole : List Char) (x : Except Fault α) : Prop :=
  Ends x (fun _ => True) (Fault.OfScan whole)

theorem scansTo_quoted {quote : Char} (h : s <:+ whole) : ScansTo whole (quoted quote s) :=
  scansTo_quotedWithin h

theorem scans_blockMarks : Scans whole (blockMarks s) := by
  unfold blockMarks
  dsimp only
  repeat' split
  all_goals simp

theorem scans_skipLine : Scans whole (skipLine s) := by
  unfold skipLine
  dsimp only
  repeat' split
  all_goals simp

theorem scans_block {fold : Bool} {outer : Int} : Scans whole (block fold outer s) := by
  refine scans_blockMarks.bind fun _ _ => scans_skipLine.bind fun _ _ => ?_
  split <;> exact trivial

/-! ## Directives, anchors and tags -/

theorem ends_number (h : s <:+ whole) :
    Ends (Scanner.number s) (fun r => r.2 <:+ whole) (Fault.OfScan whole) := by
  unfold Scanner.number
  dsimp only
  split
  · simp
  · split
    · rename_i hlong
      have hprefix : s.takeWhile Text.isDigit <:+: whole :=
        (List.takeWhile_prefix _).isInfix.trans h.isInfix
      exact .long ⟨_, hprefix, List.all_takeWhile, rfl, hlong⟩
    · exact suffix_drop h _

theorem scans_tagHandle : Scans whole (Scanner.tagHandle s) := by
  unfold Scanner.tagHandle
  dsimp only
  split
  · split
    · simp
    · split <;> simp
  · simp

theorem scans_uriBytes : Scans whole (Scanner.uriBytes s) := by
  fun_induction Scanner.uriBytes s with
  | case1 a b s x y hx hy ih => exact ends_map.2 ih
  | case2 => simp
  | case3 => simp
  | case4 => simp

theorem scans_uriWithin {n : Nat} : Scans whole (Scanner.uriWithin n s) := by
  fun_induction Scanner.uriWithin n s with
  | case1 => simp
  | case2 => simp
  | case3 n t ih =>
    refine scans_uriBytes.bind fun ⟨bs, rest⟩ _ => ?_
    dsimp only
    split
    · exact ends_map.2 (ih rest)
    · simp
  | case4 n c t hc hpart ih => exact ends_map.2 ih
  | case5 => simp

theorem scans_uri : Scans whole (Scanner.uri s) := by
  refine scans_uriWithin.bind fun r _ => ?_
  split <;> simp

theorem scans_anchorName : Scans whole (Scanner.anchorName s) := by
  unfold Scanner.anchorName
  dsimp only
  repeat' split
  all_goals simp

/-- A token that is not a fault. -/
def Token.Sound : Token → Prop
  | .broken _ => False
  | _ => True

/-- A reader of a token gives one that is no fault, or goes wrong by a fault of the whole text. -/
abbrev ScansToken (whole : List Char) (x : Except Fault (Token × List Char)) : Prop :=
  Ends x (fun r => r.1.Sound) (Fault.OfScan whole)

theorem scansToken_version (h : s <:+ whole) : ScansToken whole (Scanner.version s) := by
  refine (ends_number (suffix_dropWhile h _)).bind fun ⟨major, s⟩ hs => ?_
  dsimp only at hs ⊢
  split
  · refine (ends_number (suffix_of_cons hs)).bind fun _ _ => ?_
    split <;> simp [Token.Sound]
  · simp

theorem scansToken_tagDirective : ScansToken whole (Scanner.tagDirective s) := by
  refine scans_tagHandle.bind fun r _ => ?_
  dsimp only
  split
  · simp
  · refine scans_uri.bind fun r _ => ?_
    split <;> simp [Token.Sound]

theorem scansToken_directive (h : s <:+ whole) : ScansToken whole (Scanner.directive s) := by
  have hend {r : Token × List Char} (hr : r.1.Sound) : ScansToken whole (do
      let rest ← Scanner.endDirective r.2
      return (r.1, rest)) :=
    scans_skipLine.bind fun _ _ => ends_pure.2 hr
  unfold Scanner.directive
  dsimp only
  split
  · simp
  · split
    · exact (scansToken_version (suffix_drop h _)).bind fun _ hr => hend hr
    · split
      · exact scansToken_tagDirective.bind fun _ hr => hend hr
      · exact hend (by simp [Token.Sound])

theorem scansToken_tag : ScansToken whole (Scanner.tag s) := by
  have hend {r : Token × List Char} (hr : r.1.Sound) : ScansToken whole
      (if startsSpace r.2 then .ok (r.1, r.2) else .error .malformed) :=
    ends_ite (fun _ => hr) fun _ => .malformed
  unfold Scanner.tag
  dsimp only
  split
  · refine scans_uri.bind fun r _ => ?_
    split
    · exact hend (by simp [Token.Sound])
    · exact .malformed
  · split
    · exact hend (by simp [Token.Sound])
    · split
      · refine scans_tagHandle.bind fun _ _ => scans_uri.bind fun _ _ => ?_
        exact hend (by simp [Token.Sound])
      · refine scans_uri.bind fun _ _ => ?_
        exact hend (by simp [Token.Sound])

/-! ## Steps of the scanner -/

namespace Scanner

/-- A scanner stands in a text, and none of its tokens is a fault. -/
structure Sound (whole : List Char) (s : Scanner) : Prop where
  rest : s.rest <:+ whole
  tokens : ∀ t ∈ s.tokens, t.Sound

/-- A step gives a sound scanner, or goes wrong by a fault of the text. -/
abbrev Steps (whole : List Char) (x : Except Fault Scanner) : Prop :=
  Ends x (Sound whole) (Fault.OfScan whole)

variable {s : Scanner} {t : Token}

/-- Nothing but the place in the text and the tokens matters. -/
theorem Sound.update {s' : Scanner} (h : Sound whole s) (hr : s'.rest = s.rest)
    (ht : s'.tokens = s.tokens) : Sound whole s' :=
  ⟨hr ▸ h.rest, ht ▸ h.tokens⟩

theorem Sound.emit (h : Sound whole s) (t : Token) (ht : t.Sound) :
    Sound whole (s.emit t) :=
  ⟨h.rest, List.forall_mem_cons.2 ⟨ht, h.tokens⟩⟩

theorem mem_insertAfter {u : Token} {count : Nat} (h : u ∈ (s.insertAfter count t).tokens) :
    u = t ∨ u ∈ s.tokens := by
  rcases List.mem_append.1 h with hu | hu
  · exact .inr (List.mem_of_mem_take hu)
  · exact (List.mem_cons.1 hu).imp_right List.mem_of_mem_drop

theorem Sound.insertAfter (h : Sound whole s) (count : Nat) (t : Token)
    (ht : t.Sound) : Sound whole (s.insertAfter count t) := by
  refine ⟨h.rest, fun u hu => ?_⟩
  rcases mem_insertAfter hu with rfl | hu
  · exact ht
  · exact h.tokens u hu

theorem Sound.advance (h : Sound whole s) (n : Nat) : Sound whole (s.advance n) := by
  induction n generalizing s with
  | zero => exact h
  | succ n ih =>
    unfold Scanner.advance
    split
    · exact h
    · rename_i c rest hrest
      exact ih ⟨suffix_of_cons (hrest ▸ h.rest), h.tokens⟩

theorem Sound.goTo (h : Sound whole s) (rest : List Char) : Sound whole (s.goTo rest) :=
  h.advance _

theorem Sound.unwindWithin (h : Sound whole s) (column : Int) (n : Nat) :
    Sound whole (unwindWithin column n s) := by
  induction n generalizing s with
  | zero => exact h
  | succ n ih =>
    unfold Scanner.unwindWithin
    split
    · exact h
    · have hs : Sound whole
          { s with indent := s.indents.headD (-1), indents := s.indents.tail } := h.update rfl rfl
      exact ih (hs.emit .blockEnd trivial)

theorem Sound.unwind (h : Sound whole s) (column : Int) : Sound whole (s.unwind column) := by
  unfold Scanner.unwind
  split
  · exact h.unwindWithin _ _
  · exact h

theorem Sound.toNextToken (h : Sound whole s) (n : Nat) : Sound whole (s.toNextToken n) := by
  induction n generalizing s with
  | zero => exact h
  | succ n ih =>
    unfold Scanner.toNextToken
    have hs := h.advance (s.rest.takeWhile (· == ' ')).length
    dsimp only
    generalize s.advance (s.rest.takeWhile (· == ' ')).length = s at hs
    have ht : Sound whole (if s.rest.head? == some '#' then
        s.advance (s.rest.takeWhile fun c => !isBreak c).length else s) := by
      split
      · exact hs.advance _
      · exact hs
    split
    · exact ih ((ht.goTo _).update rfl rfl)
    · exact ht

theorem Sound.pushIndent (h : Sound whole s) (column : Nat) :
    Sound whole (s.pushIndent column) :=
  h.update rfl rfl

theorem Sound.dropKey (h : Sound whole s) : Steps whole s.dropKey := by
  unfold Scanner.dropKey
  split
  · split
    · simp
    · exact h.update rfl rfl
  · exact h

theorem Sound.saveKey (h : Sound whole s) : Steps whole s.saveKey := by
  unfold Scanner.saveKey
  split
  · exact h.dropKey.bind fun s hs => hs.update rfl rfl
  · exact h

theorem Sound.dropStaleKeys (h : Sound whole s) : Steps whole s.dropStaleKeys := by
  unfold Scanner.dropStaleKeys
  split
  · simp
  · exact h.update rfl rfl

theorem Sound.startBlock (h : Sound whole s) (t : Token) (ht : t.Sound) :
    Steps whole (s.startBlock t) := by
  unfold Scanner.startBlock
  split
  · exact h
  · split
    · simp
    · split
      · exact (h.pushIndent _).emit t ht
      · exact h

/-! ## Tokens -/

theorem Sound.fetchNode (h : Sound whole s) (rest : List Char) (t : Token)
    (ht : t.Sound) : Steps whole (s.fetchNode t rest) :=
  h.saveKey.bind fun _ hs => ((hs.goTo rest).emit t ht).update rfl rfl

theorem Sound.fetchMarker (h : Sound whole s) (t : Token) (ht : t.Sound) :
    Steps whole (s.fetchMarker t) :=
  (h.unwind (-1)).dropKey.bind fun _ hs => ((hs.advance 3).emit t ht).update rfl rfl

theorem Sound.fetchDirective (h : Sound whole s) : Steps whole s.fetchDirective :=
  (h.unwind (-1)).dropKey.bind fun _ hs =>
    (scansToken_directive (suffix_drop hs.rest 1)).bind fun r hr =>
      ((hs.goTo r.2).emit r.1 hr).update rfl rfl

theorem Sound.fetchOpen (h : Sound whole s) (t : Token) (ht : t.Sound) :
    Steps whole (s.fetchOpen t) :=
  h.saveKey.bind fun _ hs => ((hs.advance 1).emit t ht).update rfl rfl

theorem Sound.fetchClose (h : Sound whole s) (t : Token) (ht : t.Sound) :
    Steps whole (s.fetchClose t) :=
  h.dropKey.bind fun _ hs =>
    ends_ite (fun _ => .malformed) fun _ => ((hs.advance 1).emit t ht).update rfl rfl

theorem Sound.fetchFlowEntry (h : Sound whole s) : Steps whole s.fetchFlowEntry :=
  h.dropKey.bind fun _ hs => ((hs.advance 1).emit .flowEntry trivial).update rfl rfl

theorem Sound.fetchBlockEntry (h : Sound whole s) : Steps whole s.fetchBlockEntry :=
  (h.startBlock .blockSequence trivial).bind fun _ hs => hs.dropKey.bind fun _ hs =>
    ((hs.advance 1).emit .blockEntry trivial).update rfl rfl

theorem Sound.fetchKey (h : Sound whole s) : Steps whole s.fetchKey :=
  (h.startBlock .blockMapping trivial).bind fun _ hs => hs.dropKey.bind fun _ hs =>
    ((hs.advance 1).emit .key trivial).update rfl rfl

theorem Sound.fetchValue (h : Sound whole s) : Steps whole s.fetchValue := by
  unfold Scanner.fetchValue
  split
  · rename_i k _
    dsimp only
    have hs : Sound whole
        { s with keys := s.keys.filter (·.1 != s.depth), keyAllowed := false } := h.update rfl rfl
    have hkey := hs.insertAfter k.tokens .key trivial
    split
    · have hstart := (hkey.pushIndent k.column).insertAfter k.tokens .blockMapping trivial
      exact (hstart.advance 1).emit .value trivial
    · exact (hkey.advance 1).emit .value trivial
  · exact (h.startBlock .blockMapping trivial).bind fun _ hs => hs.dropKey.bind fun _ hs =>
      ((hs.advance 1).emit .value trivial).update rfl rfl

theorem Sound.fetchBlockScalar (h : Sound whole s) (fold : Bool) :
    Steps whole (s.fetchBlockScalar fold) :=
  h.dropKey.bind fun _ hs => scans_block.bind fun r _ =>
    ((hs.goTo r.rest).emit (.scalar r.content false) trivial).update rfl rfl

theorem Sound.fetchQuoted (h : Sound whole s) (quote : Char) :
    Steps whole (s.fetchQuoted quote) :=
  h.saveKey.bind fun _ hs =>
    (scansTo_quoted (suffix_drop hs.rest 1)).bind fun r _ =>
      ((hs.goTo r.rest).emit (.scalar r.content false) trivial).update rfl rfl

theorem Sound.fetchPlain (h : Sound whole s) : Steps whole s.fetchPlain :=
  (h.fetchNode _ (.scalar _ true) trivial).bind fun _ hs => hs.update rfl rfl

/-- One step of the scanner: it stays sound, or comes upon a fault of the text. -/
theorem Sound.fetch (h : Sound whole s) : Steps whole s.fetch := by
  unfold Scanner.fetch
  split
  · exact (h.unwind (-1)).dropKey.bind fun _ hs => hs.emit .finish trivial
  · dsimp only
    refine ends_ite (fun _ => h.fetchDirective) fun _ => ?_
    refine ends_ite (fun _ => h.fetchMarker .documentStart trivial) fun _ => ?_
    refine ends_ite (fun _ => h.fetchMarker .documentEnd trivial) fun _ => ?_
    refine ends_ite (fun _ => h.fetchOpen .flowSequence trivial) fun _ => ?_
    refine ends_ite (fun _ => h.fetchOpen .flowMapping trivial) fun _ => ?_
    refine ends_ite (fun _ => h.fetchClose .flowSequenceEnd trivial) fun _ => ?_
    refine ends_ite (fun _ => h.fetchClose .flowMappingEnd trivial) fun _ => ?_
    refine ends_ite (fun _ => h.fetchFlowEntry) fun _ => ?_
    refine ends_ite (fun _ => h.fetchBlockEntry) fun _ => ?_
    refine ends_ite (fun _ => h.fetchKey) fun _ => ?_
    refine ends_ite (fun _ => h.fetchValue) fun _ => ?_
    refine ends_ite (fun _ =>
      scans_anchorName.bind fun r _ => h.fetchNode r.2 (.alias r.1) trivial) fun _ => ?_
    refine ends_ite (fun _ =>
      scans_anchorName.bind fun r _ => h.fetchNode r.2 (.anchor r.1) trivial) fun _ => ?_
    refine ends_ite (fun _ => scansToken_tag.bind fun r hr => h.fetchNode r.2 r.1 hr) fun _ => ?_
    refine ends_ite (fun _ => h.fetchBlockScalar false) fun _ => ?_
    refine ends_ite (fun _ => h.fetchBlockScalar true) fun _ => ?_
    refine ends_ite (fun _ => h.fetchQuoted _) fun _ => ?_
    exact ends_ite (fun _ => h.fetchPlain) fun _ => .malformed

/-- A run ends with sound tokens, and maybe a fault of the text. -/
theorem Sound.run (h : Sound whole s) (n : Nat) :
    ∀ f, .broken f ∈ s.run n → f.OfScan whole := by
  induction n generalizing s with
  | zero => exact fun f hf => (h.tokens _ hf).elim
  | succ n ih =>
    intro f hf
    unfold Scanner.run at hf
    have hs := h.toNextToken (s.rest.length + 1)
    dsimp only at hf
    generalize s.toNextToken (s.rest.length + 1) = next at hs hf
    have hstep : Steps whole (do (((← next.dropStaleKeys).unwind next.column)).fetch) :=
      hs.dropStaleKeys.bind fun _ hs => (hs.unwind _).fetch
    split at hf
    · rename_i g hg
      rcases mem_insertAfter hf with hf | hf
      · obtain rfl := Token.broken.inj hf
        exact hstep.error hg
      · exact (h.tokens _ hf).elim
    · rename_i next hnext
      have hn := hstep.ok hnext
      split at hf
      · exact (hn.tokens _ hf).elim
      · exact ih hn f hf

end Scanner

theorem withoutMark_suffix (s : List Char) : withoutMark s <:+ s := by
  unfold withoutMark
  split
  · exact List.suffix_cons _ _
  · exact List.suffix_refl _

/-- Every fault among the tokens of a text is one of scanning it. -/
theorem ofScan_of_mem_tokens {f : Fault} (h : .broken f ∈ tokens s) : f.OfScan s := by
  unfold tokens at h
  split at h
  · have hstart : Scanner.Sound s { rest := withoutMark s } :=
      ⟨withoutMark_suffix s, by simp⟩
    exact hstart.run _ f (List.mem_reverse.1 h)
  · obtain rfl := Token.broken.inj (List.mem_singleton.1 h)
    exact .malformed

end PackageDoc.Yaml
