import Mathlib.Data.List.Infix
import Mathlib.Data.List.TakeWhile
import PackageDoc.CommandLine.Arguments

/-!
# How an option is spelled and which value counts

Arguments that are accepted are options, each alone, with a value attached to it, or with a value
behind it; they take effect one after another. So the value that is given to an option last is the
one that counts. The option for the output is spelled in six ways, the beginnings of its name that
no other option has.

    effects ps stray a = .convert b → stray = false ∧ Takes ps a b                (takes_of_effects)
    classify arg = some (.option "--output" v) ↔ SpellsOutput arg v         (classify_eq_output_iff)
    parse args = .convert a → GivesOutput x args → a.output = x           (output_of_givesOutput)
    if no argument spells the option, the output is the default           (output_given_or_default)
-/

namespace PackageDoc.CommandLine

variable {ps before rest : List Piece} {a a' b : Arguments} {name : String}
  {attached : Option String} {action : Action} {stray : Bool}

/-! ## Arguments that are accepted -/

/-- Pieces take effect one after another, from the arguments so far to those in the end. -/
inductive Takes : List Piece → Arguments → Arguments → Prop
  | nil (a : Arguments) : Takes [] a a
  | attached {name value : String} {action : Action} {a a' b : Arguments} {ps : List Piece}
    (hoption : options.lookup name = some action)
    (heffect : action.runWith value a = .ok a') (hrest : Takes ps a' b) :
    Takes (.option name (some value) :: ps) a b
  | cluster {letters : List Char} {actions : List Action} {a a' b : Arguments} {ps : List Piece}
    (hletters : cluster? letters = some (actions, false))
    (heffect : actions.foldlM Action.run a = .ok a') (hrest : Takes ps a' b) :
    Takes (.cluster letters :: ps) a b
  | behind {name value : String} {f : String → Arguments → Option Arguments} {a a' b : Arguments}
    {ps : List Piece} (hoption : options.lookup name = some (.take f))
    (heffect : f value a = some a') (hrest : Takes ps a' b) :
    Takes (.option name none :: .value value :: ps) a b
  | alone {name : String} {action : Action} {a a' b : Arguments} {ps : List Piece}
    (hoption : options.lookup name = some action) (heffect : action.run a = .ok a')
    (hrest : Takes ps a' b) : Takes (.option name none :: ps) a b

/-- An action does not end the arguments as accepted. -/
theorem Action.run_ne_convert (action : Action) (a b : Arguments) :
    action.run a ≠ .error (.convert b) := by
  cases action <;> nofun

theorem foldlM_run_ne_convert (actions : List Action) (a b : Arguments) :
    actions.foldlM Action.run a ≠ .error (.convert b) := by
  induction actions generalizing a with
  | nil => nofun
  | cons action actions ih =>
    rw [List.foldlM_cons]
    cases h : action.run a with
    | ok a' => exact ih a'
    | error r =>
      intro hr
      obtain rfl : r = .convert b := Except.error.inj hr
      exact action.run_ne_convert a b h

theorem Action.runWith_ne_convert (action : Action) (value : String) (a b : Arguments) :
    action.runWith value a ≠ .error (.convert b) := by
  cases action with
  | take f =>
    rw [Action.runWith]
    split <;> nofun
  | _ => nofun

/-- Arguments that are accepted take effect to the last piece, and none is stray. -/
theorem takes_of_effects (h : effects ps stray a = .convert b) : stray = false ∧ Takes ps a b := by
  fun_induction effects ps stray a with
  | case2 stray a hstray =>
    obtain rfl := Request.convert.inj h
    exact ⟨Bool.eq_false_iff.2 hstray, .nil a⟩
  | case3 s ps stray a ih => exact absurd (ih h).1 (by decide)
  | case4 ps stray a ih => exact absurd (ih h).1 (by decide)
  | case6 letters ps stray a actions unknown hletters a' heffect ih =>
    obtain ⟨hstray, hunknown⟩ := Bool.or_eq_false_iff.1 (ih h).1
    subst hunknown
    exact ⟨hstray, .cluster hletters heffect (ih h).2⟩
  | case7 letters ps stray a actions unknown hletters r heffect =>
    subst h
    exact absurd heffect (foldlM_run_ne_convert actions a b)
  | case9 name ps stray a action value hoption a' heffect ih =>
    exact ⟨(ih h).1, .attached hoption heffect (ih h).2⟩
  | case10 name ps stray a action value hoption r heffect =>
    subst h
    exact absurd heffect (action.runWith_ne_convert value a b)
  | case11 name stray a f hoption v ps a' heffect ih =>
    exact ⟨(ih h).1, .behind hoption heffect (ih h).2⟩
  | case14 name ps stray a action hset hoption a' heffect ih =>
    exact ⟨(ih h).1, .alone hoption heffect (ih h).2⟩
  | case15 name ps stray a action hset hoption r heffect =>
    subst h
    exact absurd heffect (action.run_ne_convert a b)
  | _ => cases h

/-- No piece of accepted arguments is stray. -/
theorem Takes.stray_not_mem (h : Takes ps a b) : Piece.stray ∉ ps := by
  induction h with
  | nil => simp
  | attached _ _ _ ih => simpa using ih
  | cluster _ _ _ ih => simpa using ih
  | behind _ _ _ ih => simpa using ih
  | alone _ _ _ ih => simpa using ih

/-- The pieces from an option on take effect in their turn: an option is no value of another one. -/
theorem Takes.from_option (h : Takes (before ++ .option name attached :: rest) a b) :
    ∃ a', Takes (.option name attached :: rest) a' b := by
  generalize hps : before ++ .option name attached :: rest = ps at h
  induction h generalizing before with
  | nil => simp at hps
  | @attached _ _ _ a _ _ _ hoption heffect hrest ih =>
    cases before with
    | nil =>
      rw [List.nil_append] at hps
      exact ⟨a, hps ▸ .attached hoption heffect hrest⟩
    | cons p before => exact ih (List.cons.inj hps).2
  | cluster _ _ _ ih =>
    cases before with
    | nil => cases (List.cons.inj hps).1
    | cons p before => exact ih (List.cons.inj hps).2
  | @behind _ _ _ a _ _ _ hoption heffect hrest ih =>
    match before with
    | [] =>
      rw [List.nil_append] at hps
      exact ⟨a, hps ▸ .behind hoption heffect hrest⟩
    | [p] =>
      -- the option would be the value of the one before it
      cases (List.cons.inj (List.cons.inj hps).2).1
    | p :: q :: before => exact ih (List.cons.inj (List.cons.inj hps).2).2
  | @alone _ _ a _ _ _ hoption heffect hrest ih =>
    cases before with
    | nil =>
      rw [List.nil_append] at hps
      exact ⟨a, hps ▸ .alone hoption heffect hrest⟩
    | cons p before => exact ih (List.cons.inj hps).2

/-! ## The output -/

/-- The option that chooses the output. -/
def outputOption : String := "--output"

/-- What an action takes or sets does not change the output. -/
def Action.KeepsOutput : Action → Prop
  | .set f => ∀ a, (f a).output = a.output
  | .take f => ∀ s a a', f s a = some a' → a'.output = a.output
  | .help => True
  | .version => True

theorem lookup_outputOption : options.lookup outputOption =
    some (.take fun s a => some { a with output := s }) := rfl

theorem output_of_takeLevel {s : String} (h : takeLevel s a = some a') : a'.output = a.output := by
  unfold takeLevel at h
  dsimp only at h
  split at h <;> cases h
  rfl

/-- Every other option keeps the output. -/
theorem keepsOutput_of_mem : ∀ o ∈ options, o.1 ≠ outputOption → o.2.KeepsOutput := by
  have hlevel : (Action.take takeLevel).KeepsOutput := fun _ _ _ => output_of_takeLevel
  simpa [options, Action.KeepsOutput, takeLicenseFile, outputOption] using hlevel

theorem keepsOutput_of_lookup (h : options.lookup name = some action)
    (hname : name ≠ outputOption) : action.KeepsOutput := by
  obtain ⟨l₁, l₂, hl, -⟩ := List.lookup_eq_some_iff.1 h
  exact keepsOutput_of_mem (name, action) (by rw [hl]; simp) hname

theorem Action.KeepsOutput.run (h : action.KeepsOutput) (hrun : action.run a = .ok a') :
    a'.output = a.output := by
  cases action with
  | set f =>
    cases hrun
    exact h a
  | take f => cases hrun
  | help => cases hrun
  | version => cases hrun

theorem output_of_foldlM {actions : List Action} (h : ∀ x ∈ actions, x.KeepsOutput)
    (hrun : actions.foldlM Action.run a = .ok a') : a'.output = a.output := by
  induction actions generalizing a with
  | nil =>
    cases hrun
    rfl
  | cons action actions ih =>
    obtain ⟨hfirst, hmore⟩ := List.forall_mem_cons.1 h
    rw [List.foldlM_cons] at hrun
    cases hone : action.run a with
    | error r =>
      rw [hone] at hrun
      cases hrun
    | ok a₁ =>
      rw [hone] at hrun
      exact (ih hmore hrun).trans (hfirst.run hone)

/-- Short options that are run together keep the output. -/
theorem keepsOutput_of_cluster? {letters : List Char} {actions : List Action} {unknown : Bool}
    (h : cluster? letters = some (actions, unknown)) : ∀ x ∈ actions, x.KeepsOutput := by
  induction letters generalizing actions with
  | nil =>
    cases h
    simp
  | cons c letters ih =>
    rw [cluster?] at h
    split at h
    · cases h
      simp
    · rename_i action hoption
      split at h
      · cases h
      obtain ⟨⟨more, unknown'⟩, hmore, heq⟩ := Option.map_eq_some_iff.1 h
      cases heq
      have hshort : String.ofList ['-', c] ≠ outputOption := by
        simp [outputOption, ← String.toList_inj]
      exact List.forall_mem_cons.2 ⟨keepsOutput_of_lookup hoption hshort, ih hmore⟩

theorem Action.KeepsOutput.runWith {value : String} (h : action.KeepsOutput)
    (hrun : action.runWith value a = .ok a') : a'.output = a.output := by
  cases action with
  | take f =>
    rw [Action.runWith] at hrun
    split at hrun
    · rename_i a₁ ha₁
      cases hrun
      exact h value a a' ha₁
    · cases hrun
  | set f => cases hrun
  | help => cases hrun
  | version => cases hrun

/-- The option for the output is not among some pieces. -/
def NoOutput (ps : List Piece) : Prop :=
  ∀ attached, Piece.option outputOption attached ∉ ps

theorem NoOutput.keepsOutput (h : NoOutput (.option name attached :: ps))
    (hoption : options.lookup name = some action) : action.KeepsOutput := by
  refine keepsOutput_of_lookup hoption ?_
  rintro rfl
  exact h attached List.mem_cons_self

theorem NoOutput.of_cons {p : Piece} (h : NoOutput (p :: ps)) : NoOutput ps :=
  fun attached hmem => h attached (List.mem_cons_of_mem p hmem)

/-- Pieces without the option for the output keep it. -/
theorem Takes.output_eq (h : Takes ps a b) (hps : NoOutput ps) : b.output = a.output := by
  induction h with
  | nil => rfl
  | attached hoption heffect _ ih =>
    exact (ih hps.of_cons).trans ((hps.keepsOutput hoption).runWith heffect)
  | cluster hletters heffect _ ih =>
    exact (ih hps.of_cons).trans (output_of_foldlM (keepsOutput_of_cluster? hletters) heffect)
  | behind hoption heffect _ ih =>
    exact (ih hps.of_cons.of_cons).trans (hps.keepsOutput hoption _ _ _ heffect)
  | alone hoption heffect _ ih =>
    exact (ih hps.of_cons).trans ((hps.keepsOutput hoption).run heffect)

/-- A value attached to the option for the output is the output if the option does not come
again. -/
theorem Takes.output_attached {x : String}
    (h : Takes (before ++ .option outputOption (some x) :: rest) a b) (hrest : NoOutput rest) :
    b.output = x := by
  obtain ⟨a', h⟩ := h.from_option
  cases h with
  | attached hoption heffect h =>
    obtain rfl := Option.some.inj (lookup_outputOption.symm.trans hoption)
    cases heffect
    exact h.output_eq hrest

/-- What is behind the option for the output is a value, and is the output if the option does not
come again. -/
theorem Takes.output_behind {p : Piece}
    (h : Takes (before ++ .option outputOption none :: p :: rest) a b) (hrest : NoOutput rest) :
    p = .value b.output := by
  obtain ⟨a', h⟩ := h.from_option
  cases h with
  | behind hoption heffect h =>
    obtain rfl := Action.take.inj (Option.some.inj (lookup_outputOption.symm.trans hoption))
    cases heffect
    rw [h.output_eq hrest]
  | alone hoption heffect h =>
    obtain rfl := Option.some.inj (lookup_outputOption.symm.trans hoption)
    cases heffect

theorem not_takes_output_alone : ¬ Takes (before ++ [.option outputOption none]) a b := by
  intro h
  obtain ⟨a', h⟩ := h.from_option
  cases h with
  | alone hoption heffect h =>
    obtain rfl := Option.some.inj (lookup_outputOption.symm.trans hoption)
    cases heffect

/-! ## Spellings -/

/-- A text is cut at its first equals sign, which goes with neither part. -/
theorem cutAtEquals_append {l : List Char} (h : '=' ∉ l) (r : List Char) :
    cutAtEquals (l ++ '=' :: r) = (l, some r) := by
  have hl : ∀ c ∈ l, (c != '=') = true := by
    intro c hc
    have hne : c ≠ '=' := fun he => h (he ▸ hc)
    simpa using hne
  rw [cutAtEquals, List.dropWhile_append_of_pos hl, List.takeWhile_append_of_pos hl]
  simp

theorem cutAtEquals_of_not_mem {l : List Char} (h : '=' ∉ l) : cutAtEquals l = (l, none) := by
  have hl : l.dropWhile (· != '=') = [] := by
    rw [List.dropWhile_eq_nil_iff]
    intro c hc
    have hne : c ≠ '=' := fun he => h (he ▸ hc)
    simpa using hne
  rw [cutAtEquals, hl]

/-- The ways in which the option for the output is spelled: the beginnings of its name that no other
option has. -/
def outputNames : List String :=
  ["--o", "--ou", "--out", "--outp", "--outpu", "--output"]

/-- An argument spells the option for the output, alone or with a value attached to it. -/
inductive SpellsOutput : String → Option String → Prop
  | alone {name : String} (h : name ∈ outputNames) : SpellsOutput name none
  | attached {name : String} (h : name ∈ outputNames) (value : String) :
    SpellsOutput (name ++ "=" ++ value) (some value)

/-- No option has an equals sign in its name. -/
theorem equals_not_mem_of_isOption {s : List Char} (h : isOption s = true) : '=' ∉ s := by
  obtain ⟨o, ho, hs⟩ := List.lookup_isSome_iff.1 h
  have hnames : ∀ o ∈ options, '=' ∉ o.1.toList := by decide
  have ho := hnames o ho
  rwa [← beq_iff_eq.1 hs, String.toList_ofList] at ho

/-- A beginning of an option's name that only the option for the output has stands for it, with
what is attached. -/
theorem classify_attached {name : String} (h : name ∈ outputNames) (value : String) :
    classify (name ++ "=" ++ value) = some (.option outputOption (some value)) := by
  have hlist : (name ++ "=" ++ value).toList = name.toList ++ '=' :: value.toList := by
    simp [String.toList_append]
  have hplain : ∀ name ∈ outputNames, '=' ∉ name.toList := by decide
  have hcut := cutAtEquals_append (hplain name h) value.toList
  have hoption : isOption (name.toList ++ '=' :: value.toList) = false := by
    refine Bool.eq_false_iff.2 fun hoption => ?_
    exact equals_not_mem_of_isOption hoption (by simp)
  have hlong : longCandidates (name.toList ++ '=' :: value.toList) =
      (options.filter fun o => name.toList.isPrefixOf o.1.toList).map fun o =>
        .option o.1 (some value) := by
    simp only [longCandidates, hcut, Option.map_some, String.ofList_toList]
  unfold classify
  dsimp only
  rw [hlist, hcut, hoption, hlong]
  simp only [Option.map_some, String.ofList_toList]
  simp only [outputNames, List.mem_cons, List.not_mem_nil, or_false] at h
  rcases h with rfl | rfl | rfl | rfl | rfl | rfl
  all_goals rfl

theorem classify_of_spellsOutput {arg : String} (h : SpellsOutput arg attached) :
    classify arg = some (.option outputOption attached) := by
  cases h with
  | attached h value => exact classify_attached h value
  | alone h =>
    simp only [outputNames, List.mem_cons, List.not_mem_nil, or_false] at h
    rcases h with rfl | rfl | rfl | rfl | rfl | rfl <;> rfl

/-- A text is what it was cut into, put together again. -/
theorem exists_cutAtEquals (s : List Char) : ∃ l value, cutAtEquals s = (l, value) ∧ '=' ∉ l ∧
    s = l ++ (value.map ('=' :: ·)).getD [] := by
  by_cases h : '=' ∈ s
  · obtain ⟨l, r, rfl, hl⟩ := List.eq_append_cons_of_mem h
    exact ⟨l, some r, cutAtEquals_append hl r, hl, rfl⟩
  · exact ⟨s, none, cutAtEquals_of_not_mem h, h, (List.append_nil s).symm⟩

theorem spellsOutput_of_cut {arg : String} {l : List Char} {value : Option (List Char)}
    (hs : arg.toList = l ++ (value.map ('=' :: ·)).getD []) (hl : String.ofList l ∈ outputNames) :
    SpellsOutput arg (value.map String.ofList) := by
  cases value with
  | none =>
    obtain rfl : arg = String.ofList l := by
      rw [← String.toList_inj, hs]
      simp
    exact .alone hl
  | some r =>
    obtain rfl : arg = String.ofList l ++ "=" ++ String.ofList r := by
      rw [← String.toList_inj, hs]
      simp
    exact .attached hl (String.ofList r)

/-- A beginning of the option for the output is a spelling of it, unless it is the two minuses with
which all long options begin. -/
theorem mem_outputNames_of_beginning {l : List Char} (h : l <+: outputOption.toList)
    (hlong : 2 ≤ l.length) (hone : l ≠ ['-', '-']) : String.ofList l ∈ outputNames := by
  have hinits : ∀ l ∈ outputOption.toList.inits, 2 ≤ l.length → l ≠ ['-', '-'] →
      String.ofList l ∈ outputNames := by decide
  exact hinits l ((List.mem_inits _ _).2 h) hlong hone

/-- A long option that is shortened to the one for the output and to no other is spelled so. -/
theorem mem_outputNames_of_longCandidates {s l : List Char} {value : Option (List Char)}
    (hcut : cutAtEquals ('-' :: '-' :: s) = (l, value))
    (hs : '-' :: '-' :: s = l ++ (value.map ('=' :: ·)).getD [])
    (h : longCandidates ('-' :: '-' :: s) = [.option outputOption attached]) :
    String.ofList l ∈ outputNames ∧ attached = value.map String.ofList := by
  rw [longCandidates, hcut] at h
  dsimp only at h
  have hlong : 2 ≤ l.length := by
    match l, hs with
    | [], hs => cases value <;> simp at hs
    | [c], hs => cases value <;> simp at hs
    | _ :: _ :: _, _ => simp
  have hone : l ≠ ['-', '-'] := by
    rintro rfl
    have hmany : 1 < (options.filter fun o => ['-', '-'].isPrefixOf o.1.toList).length := by decide
    have hlength := congrArg List.length h
    rw [List.length_map, List.length_singleton] at hlength
    omega
  obtain ⟨o, ho, hp⟩ := List.mem_map.1 (h ▸ List.mem_singleton_self _)
  obtain ⟨hname, rfl⟩ := Piece.option.inj hp
  have hprefix : l <+: outputOption.toList :=
    hname ▸ List.isPrefixOf_iff_prefix.1 (List.mem_filter.1 ho).2
  exact ⟨mem_outputNames_of_beginning hprefix hlong hone, rfl⟩

/-- An argument with a single minus does not stand for the output. -/
theorem output_not_mem_shortCandidates {second : Char} (hsecond : second ≠ '-') (s : List Char) :
    .option outputOption attached ∉ shortCandidates ('-' :: second :: s) := by
  intro h
  obtain ⟨o, -, hp⟩ := List.mem_filterMap.1 h
  split at hp
  · cases hp
  · split at hp
    · rename_i hprefix
      obtain ⟨hname, -⟩ := Piece.option.inj (Option.some.inj hp)
      rw [hname] at hprefix
      simp [outputOption, hsecond] at hprefix
    · cases hp

theorem spellsOutput_of_classify {arg : String}
    (h : classify arg = some (.option outputOption attached)) : SpellsOutput arg attached := by
  obtain ⟨l, value, hcut, hl, hs⟩ := exists_cutAtEquals arg.toList
  unfold classify at h
  dsimp only at h
  rw [hcut] at h
  split at h
  · rename_i second tail harg
    -- the whole argument is a name, what is before the equals sign is one, or it is shortened
    split at h
    · cases h
      exact .alone (by decide)
    split at h
    · obtain ⟨hname, rfl⟩ := Piece.option.inj (Option.some.inj h)
      exact spellsOutput_of_cut hs (by rw [hname]; decide)
    split at h
    · rename_i p hp
      obtain rfl := Option.some.inj h
      rw [harg] at hp hcut
      split at hp
      · rename_i hsecond
        subst hsecond
        obtain ⟨hname, rfl⟩ := mem_outputNames_of_longCandidates hcut (harg.symm.trans hs) hp
        exact spellsOutput_of_cut hs hname
      · rename_i hsecond
        exact absurd (hp ▸ List.mem_singleton_self _) (output_not_mem_shortCandidates hsecond tail)
    · cases h
    · split at h <;> cases h
  · cases h

/-- An argument is taken for the option for the output exactly if it spells it. -/
theorem classify_eq_output_iff {arg : String} :
    classify arg = some (.option outputOption attached) ↔ SpellsOutput arg attached :=
  ⟨spellsOutput_of_classify, classify_of_spellsOutput⟩

/-- Whether a piece is the option for the output. -/
def Piece.isOutput : Piece → Bool
  | .option name _ => name == outputOption
  | _ => false

theorem exists_spellsOutput_iff {arg : String} :
    (∃ attached, SpellsOutput arg attached) ↔ (classify arg).any Piece.isOutput = true := by
  simp only [← classify_eq_output_iff, Option.any_eq_true]
  constructor
  · rintro ⟨attached, h⟩
    exact ⟨_, h, rfl⟩
  · rintro ⟨p, h, hp⟩
    cases p with
    | option name attached => exact ⟨attached, by rw [h, beq_iff_eq.1 hp]⟩
    | value s => cases hp
    | cluster letters => cases hp
    | stray => cases hp

instance (arg : String) : Decidable (∃ attached, SpellsOutput arg attached) :=
  decidable_of_iff _ exists_spellsOutput_iff.symm

/-! ## The value that counts -/

theorem value_not_mem_longCandidates {v : String} (s : List Char) :
    .value v ∉ longCandidates s := by
  simp [longCandidates]

theorem value_not_mem_shortCandidates {v : String} (s : List Char) :
    .value v ∉ shortCandidates s := by
  intro h
  obtain ⟨o, -, hp⟩ := List.mem_filterMap.1 h
  split at hp
  · cases hp
  · split at hp <;> cases hp

/-- An argument that is a value is so as it is. -/
theorem eq_of_classify_eq_value {arg v : String} (h : classify arg = some (.value v)) :
    v = arg := by
  unfold classify at h
  dsimp only at h
  split at h
  · split at h
    · cases h
    split at h
    · cases h
    split at h
    · rename_i p hp
      obtain rfl := Option.some.inj h
      split at hp
      · exact absurd (hp ▸ List.mem_singleton_self _) (value_not_mem_longCandidates _)
      · exact absurd (hp ▸ List.mem_singleton_self _) (value_not_mem_shortCandidates _)
    · cases h
    · split at h <;> cases h
      rfl
  · cases h
    rfl

variable {args more : List String} {x : String}

/-- Arguments of which none is stray are told apart one by one. -/
theorem classifyAll_cons {arg : String} (h : classifyAll (arg :: args) = some ps)
    (hps : .stray ∉ ps) : ∃ p rest, classify arg = some p ∧ classifyAll args = some rest ∧
      ps = p :: rest := by
  rw [classifyAll] at h
  split at h
  · obtain rfl := Option.some.inj h
    exact absurd List.mem_cons_self hps
  · obtain ⟨p, hp, h⟩ := Option.bind_eq_some_iff.1 h
    obtain ⟨rest, hrest, rfl⟩ := Option.map_eq_some_iff.1 h
    exact ⟨p, rest, hp, hrest, rfl⟩

theorem classifyAll_append (h : classifyAll (args ++ more) = some ps) (hps : .stray ∉ ps) :
    ∃ before rest, classifyAll more = some rest ∧ ps = before ++ rest := by
  induction args generalizing ps with
  | nil => exact ⟨[], ps, h, rfl⟩
  | cons arg args ih =>
    obtain ⟨p, later, -, hlater, rfl⟩ := classifyAll_cons h hps
    obtain ⟨before, rest, hrest, rfl⟩ := ih hlater (List.not_mem_of_not_mem_cons hps)
    exact ⟨p :: before, rest, hrest, rfl⟩

/-- Arguments of which none spells the option for the output do not hold it. -/
theorem noOutput_of_classifyAll (h : classifyAll args = some ps) (hps : .stray ∉ ps)
    (hargs : ∀ arg ∈ args, ¬ ∃ attached, SpellsOutput arg attached) : NoOutput ps := by
  induction args generalizing ps with
  | nil =>
    cases h
    simp [NoOutput]
  | cons arg args ih =>
    obtain ⟨p, rest, hp, hrest, rfl⟩ := classifyAll_cons h hps
    obtain ⟨harg, hmore⟩ := List.forall_mem_cons.1 hargs
    intro attached hmem
    rcases List.mem_cons.1 hmem with rfl | hmem
    · exact harg ⟨attached, classify_eq_output_iff.1 hp⟩
    · exact ih hrest (List.not_mem_of_not_mem_cons hps) hmore attached hmem

theorem exists_takes_of_parse (h : parse args = .convert b) :
    ∃ ps, classifyAll args = some ps ∧ Takes ps {} b := by
  rw [parse] at h
  split at h
  · cases h
  · rename_i ps hps
    exact ⟨ps, hps, (takes_of_effects h).2⟩

/-- Arguments that are accepted take effect, and those behind an option are told apart on their
own. -/
theorem takes_of_parse_append {arg : String} (h : parse (args ++ arg :: more) = .convert b)
    (harg : classify arg = some (.option name attached)) :
    ∃ before rest, classifyAll more = some rest ∧ .stray ∉ rest ∧
      Takes (before ++ .option name attached :: rest) {} b := by
  obtain ⟨ps, hps, htakes⟩ := exists_takes_of_parse h
  have hstray := htakes.stray_not_mem
  obtain ⟨before, later, hlater, rfl⟩ := classifyAll_append hps hstray
  have hstray := mt (List.mem_append_right before) hstray
  obtain ⟨p, rest, hp, hrest, rfl⟩ := classifyAll_cons hlater hstray
  obtain rfl := Option.some.inj (hp.symm.trans harg)
  exact ⟨before, rest, hrest, List.not_mem_of_not_mem_cons hstray, htakes⟩

/-- A list with an element that satisfies a predicate has a last one. -/
theorem exists_last {α : Type} {l : List α} {P : α → Prop} (h : ∃ x ∈ l, P x) :
    ∃ before x after, l = before ++ x :: after ∧ P x ∧ ∀ y ∈ after, ¬ P y := by
  induction l with
  | nil => simp at h
  | cons y l ih =>
    by_cases hl : ∃ x ∈ l, P x
    · obtain ⟨before, x, after, rfl, hx, hafter⟩ := ih hl
      exact ⟨y :: before, x, after, rfl, hx, hafter⟩
    · obtain ⟨x, hmem, hx⟩ := h
      rcases List.mem_cons.1 hmem with rfl | hmem
      · exact ⟨[], x, l, rfl, hx, fun z hz hpz => hl ⟨z, hz, hpz⟩⟩
      · exact absurd ⟨x, hmem, hx⟩ hl

/-- Arguments that give the output, in any spelling. If they do so more than once, the last one
counts. -/
inductive GivesOutput (x : String) : List String → Prop
  | behind (before : List String) {arg : String} (after : List String)
    (h : SpellsOutput arg none) (hlast : ∀ arg ∈ after, ¬ ∃ attached, SpellsOutput arg attached) :
    GivesOutput x (before ++ arg :: x :: after)
  | attached (before : List String) {arg : String} (after : List String)
    (h : SpellsOutput arg (some x))
    (hlast : ∀ arg ∈ after, ¬ ∃ attached, SpellsOutput arg attached) :
    GivesOutput x (before ++ arg :: after)

/-- **The output is the one that the arguments give.** -/
theorem output_of_givesOutput (h : parse args = .convert b) (hx : GivesOutput x args) :
    b.output = x := by
  cases hx with
  | behind before after harg hlast =>
    obtain ⟨front, later, hlater, hstray, htakes⟩ :=
      takes_of_parse_append h (classify_of_spellsOutput harg)
    obtain ⟨p, rest, hp, hrest, rfl⟩ := classifyAll_cons hlater hstray
    have hquiet := noOutput_of_classifyAll hrest (List.not_mem_of_not_mem_cons hstray) hlast
    obtain rfl := htakes.output_behind hquiet
    exact eq_of_classify_eq_value hp
  | attached before after harg hlast =>
    obtain ⟨front, rest, hrest, hstray, htakes⟩ :=
      takes_of_parse_append h (classify_of_spellsOutput harg)
    exact htakes.output_attached (noOutput_of_classifyAll hrest hstray hlast)

/-- Arguments of which one spells the option for the output give an output. -/
theorem exists_givesOutput (h : parse args = .convert b)
    (hsome : ∃ arg ∈ args, ∃ attached, SpellsOutput arg attached) : ∃ x, GivesOutput x args := by
  obtain ⟨before, arg, after, rfl, ⟨attached, harg⟩, hlast⟩ := exists_last hsome
  cases attached with
  | some x => exact ⟨x, .attached before after harg hlast⟩
  | none =>
    obtain ⟨front, rest, hrest, hstray, htakes⟩ :=
      takes_of_parse_append h (classify_of_spellsOutput harg)
    cases after with
    | cons x after =>
      exact ⟨x, .behind before after harg fun arg hmem => hlast arg (List.mem_cons_of_mem x hmem)⟩
    | nil =>
      cases hrest
      exact absurd htakes not_takes_output_alone

/-- Arguments give the output, or none of them spells the option for it and the output is the one
that they begin with. -/
theorem output_given_or_default (h : parse args = .convert b) : GivesOutput b.output args ∨
    (∀ arg ∈ args, ¬ ∃ attached, SpellsOutput arg attached) ∧
      b.output = ({} : Arguments).output := by
  by_cases hsome : ∃ arg ∈ args, ∃ attached, SpellsOutput arg attached
  · obtain ⟨x, hx⟩ := exists_givesOutput h hsome
    rw [output_of_givesOutput h hx]
    exact .inl hx
  · have hnone : ∀ arg ∈ args, ¬ ∃ attached, SpellsOutput arg attached :=
      fun arg hmem hspells => hsome ⟨arg, hmem, hspells⟩
    obtain ⟨ps, hps, htakes⟩ := exists_takes_of_parse h
    have hquiet := noOutput_of_classifyAll hps htakes.stray_not_mem hnone
    exact .inr ⟨hnone, htakes.output_eq hquiet⟩

end PackageDoc.CommandLine
