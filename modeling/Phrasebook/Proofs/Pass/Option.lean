import Phrasebook.Proofs.Pass.Namespace

/-!
# Options on their own

Each option is read from a property of its own, and what becomes of one option does not change what
becomes of another.  The answers to all questions may differ, also those about the same property:

* `ClassOption.Takes`, `parse_eq_ok_iff_takes` — the values that an option takes;
* `ClassOption.value?`, `warningsOf`, `readOption_given` — what one option comes to by itself;
* `resolved`, `resolved_spec` — all options together come to what each of them does;
* `reportsAbout`, `reportsAbout_resolved` — the warning about one option among all that is reported;
* `value?_of_parse`, `warningsOf_of_takes` — a legal value comes back without a warning;
* `ClassOption.fallback`, `of_eq_fallback` — what stands in for an option otherwise;
* `options_on_their_own` — options are legal, and they do not influence each other.
-/

namespace Phrasebook

open Phrasebook.CSharp Phrasebook.Text

/-! ### One option -/

/-- The values that an option takes: a legal namespace, a plain identifier that is no keyword, and
different words that are modifiers. -/
def ClassOption.Takes : ClassOption → String → Prop
  | .namespaceName, value => LegalNamespace value
  | .className, value => isPlainIdentifier value = true ∧ isKeyword value = false
  | .modifiers, value => (∀ word ∈ words value, word ∈ classModifiers) ∧ (words value).Nodup

theorem parse_eq_ok_iff_takes {o : ClassOption} {value : String} :
    (∃ result, o.parse value = .ok result) ↔ o.Takes value := by
  cases o with
  | namespaceName =>
    simp only [ClassOption.parse, parseDotted_eq_ok_iff, exists_eq_left, ClassOption.Takes]
  | className =>
    simp only [ClassOption.parse, parseIdentifier_eq_ok_iff, exists_eq_left, ClassOption.Takes]
  | modifiers =>
    simp only [ClassOption.parse, parseModifiers_eq_ok_iff, ← and_assoc, exists_eq_right,
      ClassOption.Takes]

section

variable (given : Purpose → Option String)

/-- The value that an option takes from its property, if any. -/
def ClassOption.value? (o : ClassOption) : Option String :=
  (nonBlank? (given (.value o))).bind fun raw => (o.parse raw).toOption

/-- The warning about an option, if there is one. -/
def warningsOf (o : ClassOption) : List Diagnostic :=
  match nonBlank? (given (.value o)) with
  | none => []
  | some raw =>
    match o.parse raw with
    | .ok _ => []
    | .error defect =>
      [⟨.invalidOption, [given (.report o), some o.name, some (o.explain raw defect)]⟩]

/-- **What reading one option comes to.** -/
theorem readOption_given (o : ClassOption) :
    (readOption (fun purpose => .ok (given purpose)) o).ending = .ok (o.value? given) ∧
      (readOption (fun purpose => .ok (given purpose)) o).diagnostics = warningsOf given o := by
  have hread : (consult (fun purpose => .ok (given purpose)) (.value o)).ending =
      .ok (given (.value o)) := rfl
  rw [readOption, Step.bind_of_ok hread, ClassOption.value?, warningsOf]
  cases nonBlank? (given (.value o)) with
  | none => exact ⟨rfl, rfl⟩
  | some raw =>
    dsimp only [Option.bind_some]
    cases o.parse raw with
    | ok value => exact ⟨rfl, rfl⟩
    | error defect => exact ⟨rfl, rfl⟩

end

/-! ### All options -/

/-- The options that the answers give. -/
def resolved (given : Purpose → Option String) : Step ClassOptions :=
  resolveWith fun purpose => .ok (given purpose)

/-- What stands in for a namespace is not reported. -/
theorem diagnostics_fallbackNamespace (given : Purpose → Option String) :
    (fallbackNamespace fun purpose => .ok (given purpose)).diagnostics = [] := by
  have hread : (consult (fun purpose => .ok (given purpose)) .rootNamespace).ending =
      .ok (given .rootNamespace) := rfl
  rw [fallbackNamespace, Step.bind_of_ok hread]
  cases nonBlank? (given .rootNamespace) <;> rfl

/-- The namespace is reported as its option is. -/
theorem diagnostics_resolveNamespace (given : Purpose → Option String) :
    (resolveNamespace fun purpose => .ok (given purpose)).diagnostics =
      warningsOf given .namespaceName := by
  obtain ⟨hending, hdiagnostics⟩ := readOption_given given .namespaceName
  rw [resolveNamespace, Step.bind_of_ok hending]
  cases ClassOption.namespaceName.value? given with
  | some value =>
    rw [hdiagnostics]
    exact List.append_nil _
  | none =>
    show _ ++ (fallbackNamespace fun purpose => .ok (given purpose)).diagnostics = _
    rw [hdiagnostics, diagnostics_fallbackNamespace, List.append_nil]

/-- **All options together come to what each of them does.** -/
theorem resolved_spec (given : Purpose → Option String) :
    ∃ o, (resolved given).ending = .ok o ∧
      o.namespaceName =
        ((optionNamespace given).or (projectNamespace given)).getD defaultNamespace ∧
      o.className = (ClassOption.className.value? given).getD defaultClassName ∧
      o.modifiers = (ClassOption.modifiers.value? given).getD defaultModifiers ∧
      (resolved given).diagnostics =
        [.namespaceName, .className, .modifiers].flatMap (warningsOf given) := by
  obtain ⟨o, ho⟩ := exists_resolveWith_eq_ok given
  have hnamespace := namespaceName_of_resolveWith ho
  refine ⟨o, ho, hnamespace, ?_⟩
  rw [resolved]
  rw [resolveWith] at ho ⊢
  obtain ⟨name, hname, ho⟩ := Step.ending_bind_eq_ok.mp ho
  obtain ⟨hclass, hclassWarnings⟩ := readOption_given given .className
  obtain ⟨hmodifiers, hmodifiersWarnings⟩ := readOption_given given .modifiers
  rw [Step.ending_bind_of_ok hclass, Step.ending_bind_of_ok hmodifiers, Step.ending_pure,
    Except.ok.injEq] at ho
  rw [Step.bind_of_ok hname, Step.bind_of_ok hclass, Step.bind_of_ok hmodifiers, ← ho]
  refine ⟨rfl, rfl, ?_⟩
  rw [diagnostics_resolveNamespace, hclassWarnings, hmodifiersWarnings]
  rfl

/-! ### Warnings -/

section

variable {given other : Purpose → Option String} {o : ClassOption}

/-- An option without a value, or with one that it takes, is not warned about. -/
theorem warningsOf_of_takes
    (h : ∀ raw, nonBlank? (given (.value o)) = some raw → o.Takes raw) :
    warningsOf given o = [] := by
  unfold warningsOf
  split
  · rfl
  · rename_i raw hraw
    obtain ⟨value, hvalue⟩ := parse_eq_ok_iff_takes.mpr (h raw hraw)
    rw [hvalue]

/-- A value that the option does not take is warned about once. -/
theorem warningsOf_of_not_takes {raw : String} (hraw : nonBlank? (given (.value o)) = some raw)
    (h : ¬ o.Takes raw) : ∃ defect, o.parse raw = .error defect ∧
      warningsOf given o =
        [⟨.invalidOption, [given (.report o), some o.name, some (o.explain raw defect)]⟩] := by
  cases hparse : o.parse raw with
  | ok value => exact absurd (parse_eq_ok_iff_takes.mp ⟨value, hparse⟩) h
  | error defect =>
    refine ⟨defect, rfl, ?_⟩
    simp only [warningsOf, hraw, hparse]

/-- What is reported about an option: it is the second argument. -/
def reportsAbout (o : ClassOption) (ds : List Diagnostic) : List Diagnostic :=
  ds.filter fun d => d.arguments[1]? == some (some (ofString o.name))

theorem reportsAbout_warningsOf (given : Purpose → Option String) (o about : ClassOption) :
    reportsAbout about (warningsOf given o) = if about = o then warningsOf given o else [] := by
  have hname : (ofString o.name == ofString about.name) = decide (about = o) := by
    cases o <;> cases about <;> decide
  unfold warningsOf
  split
  · exact (ite_self _).symm
  · split
    · exact (ite_self _).symm
    · simp only [reportsAbout, List.filter_cons, List.filter_nil, List.getElem?_cons_succ,
        List.getElem?_cons_zero, Option.some_beq_some, hname, decide_eq_true_eq]

/-- **What is reported about an option** is the warning that its own reading gives. -/
theorem reportsAbout_resolved (given : Purpose → Option String) (o : ClassOption) :
    reportsAbout o (resolved given).diagnostics = warningsOf given o := by
  obtain ⟨_, -, -, -, -, hdiagnostics⟩ := resolved_spec given
  have happend : ∀ ds es, reportsAbout o (ds ++ es) = reportsAbout o ds ++ reportsAbout o es :=
    fun ds es => List.filter_append ds es
  rw [hdiagnostics, List.flatMap_cons, List.flatMap_cons, List.flatMap_cons, happend, happend,
    happend, reportsAbout_warningsOf, reportsAbout_warningsOf, reportsAbout_warningsOf]
  cases o <;> simp [reportsAbout]

/-! ### What stands in for a value -/

/-- What an option comes to among the options of a class. -/
def ClassOption.of (options : ClassOptions) : ClassOption → String
  | .namespaceName => options.namespaceName
  | .className => options.className
  | .modifiers => options.modifiers

/-- What stands in for an option without a value that it takes. -/
def ClassOption.fallback (given : Purpose → Option String) : ClassOption → String
  | .namespaceName => (projectNamespace given).getD defaultNamespace
  | .className => defaultClassName
  | .modifiers => defaultModifiers

theorem value?_eq_none (h : ∀ raw, nonBlank? (given (.value o)) = some raw → ¬ o.Takes raw) :
    o.value? given = none := by
  rw [ClassOption.value?]
  cases hraw : nonBlank? (given (.value o)) with
  | none => rfl
  | some raw =>
    rw [Option.bind_some]
    cases hparse : o.parse raw with
    | ok value => exact absurd (parse_eq_ok_iff_takes.mp ⟨value, hparse⟩) (h raw hraw)
    | error defect => rfl

/-- **An option without a value that it takes** is what stands in for it. -/
theorem of_eq_fallback {options : ClassOptions} (hoptions : (resolved given).ending = .ok options)
    (h : ∀ raw, nonBlank? (given (.value o)) = some raw → ¬ o.Takes raw) :
    o.of options = o.fallback given := by
  obtain ⟨options', hoptions', hnamespace, hclass, hmodifiers, -⟩ := resolved_spec given
  obtain rfl := Except.ok.inj (hoptions.symm.trans hoptions')
  cases o with
  | namespaceName =>
    have hnone : optionNamespace given = none := by
      rw [optionNamespace, Option.filter_eq_none_iff]
      intro raw hraw hlegal
      have hlegal : LegalNamespace raw := of_decide_eq_true hlegal
      exact h raw hraw hlegal
    rw [ClassOption.of, ClassOption.fallback, hnamespace, hnone, Option.none_or]
  | className =>
    rw [ClassOption.of, ClassOption.fallback, hclass, value?_eq_none h, Option.getD_none]
  | modifiers =>
    rw [ClassOption.of, ClassOption.fallback, hmodifiers, value?_eq_none h, Option.getD_none]

/-! ### Nothing else counts -/

theorem value?_congr (h : given (.value o) = other (.value o)) : o.value? given = o.value? other := by
  rw [ClassOption.value?, ClassOption.value?, h]

theorem warningsOf_congr (hvalue : given (.value o) = other (.value o))
    (hreport : given (.report o) = other (.report o)) : warningsOf given o = warningsOf other o := by
  rw [warningsOf, warningsOf, hvalue, hreport]

/-! ### Values given back -/

/-- **A value that is taken as it is comes back without a warning.** -/
theorem value?_of_parse {value : String} (hgiven : given (.value o) = some value)
    (htrimmed : Trimmed value.toList) (hparse : o.parse value = .ok value) :
    o.value? given = some value ∧ warningsOf given o = [] := by
  have hne : value ≠ "" := fun hempty => htrimmed.ne_nil (String.toList_eq_nil_iff.mpr hempty)
  have hraw : nonBlank? (given (.value o)) = some value := by
    rw [hgiven, nonBlank?, Option.map_some, trim_of_trimmed htrimmed, Option.filter_some,
      if_pos (decide_eq_true hne)]
  refine ⟨?_, warningsOf_of_takes fun raw heq => ?_⟩
  · rw [ClassOption.value?, hraw, Option.bind_some, hparse]
    rfl
  · rw [hraw, Option.some.injEq] at heq
    rw [← heq]
    exact parse_eq_ok_iff_takes.mp ⟨value, hparse⟩

end

/-- There is no blank in a plain identifier. -/
theorem trimmed_of_isPlainIdentifier {s : String} (h : isPlainIdentifier s = true) :
    Trimmed s.toList := by
  have hplain : ∀ n < 128, ((Char.ofNat n).isAlphanum || Char.ofNat n == '_') = true →
      isBlank (Char.ofNat n) = false := by decide +kernel
  refine trimmed_of_word (fun hnil => ?_) fun c hc => ?_
  · rw [isPlainIdentifier, hnil] at h
    exact absurd h Bool.false_ne_true
  · have hchar := mem_of_isPlainIdentifier h c hc
    have hblank := hplain c.toNat (toNat_lt_of_isAlphanum hchar)
    rw [Char.ofNat_toNat] at hblank
    exact hblank hchar

/-- There is no blank in a modifier. -/
theorem classModifiers_not_blank :
    ∀ word ∈ classModifiers, word ≠ "" ∧ ∀ c ∈ word.toList, isBlank c = false := by
  have hall : ∀ word ∈ classModifiers, word ≠ "" ∧ word.toList.all (!isBlank ·) = true := by decide
  exact fun word hword => ⟨(hall word hword).1, forall_mem_of_all (hall word hword).2⟩

/-- Modifiers with single spaces between them are taken as they are. -/
theorem parseModifiers_join {list : List String} (hne : list ≠ []) (hdistinct : list.Nodup)
    (hknown : ∀ word ∈ list, word ∈ classModifiers) :
    Trimmed (join " " list).toList ∧ parseModifiers (join " " list) = .ok (join " " list) := by
  have hwords : ∀ word ∈ list, word ≠ "" ∧ ∀ c ∈ word.toList, isBlank c = false :=
    fun word hword => classModifiers_not_blank word (hknown word hword)
  refine ⟨trimmed_join hne hwords, parseModifiers_eq_ok_iff.mpr ?_⟩
  rw [words_join hwords]
  exact ⟨hknown, hdistinct, rfl⟩

/-- **Options are always legal, and do not influence each other.**  For answers that never fail,
whatever they are:

* The class name is a plain identifier and no keyword, and the modifiers are different ones, at least
  one, with single spaces between them.
* Where both are given as options, they are taken as they are and without a warning.
* There is exactly one warning for each option whose value is not blank and which does not take it,
  in the order of the options and with the name of the assembly, and nothing else is reported.
* The value of an option and the warning about it are the same for any other answers that agree on
  what is asked for them, whatever else these are. -/
theorem options_on_their_own (given : Purpose → Option String) :
    ∃ o, (resolved given).ending = .ok o ∧
      (isPlainIdentifier o.className = true ∧ isKeyword o.className = false) ∧
      (∃ list : List String, list ≠ [] ∧ list.Nodup ∧ (∀ word ∈ list, word ∈ classModifiers) ∧
        o.modifiers = join " " list) ∧
      (∀ fed : Purpose → Option String, fed (.value .className) = some o.className →
        fed (.value .modifiers) = some o.modifiers →
        ∃ again, (resolved fed).ending = .ok again ∧ again.className = o.className ∧
          again.modifiers = o.modifiers ∧
          (resolved fed).diagnostics = reportsAbout .namespaceName (resolved fed).diagnostics ∧
          (fed (.value .namespaceName) = none → (resolved fed).diagnostics = [])) ∧
      (resolved given).diagnostics = [.namespaceName, .className, .modifiers].flatMap
        (fun option => reportsAbout option (resolved given).diagnostics) ∧
      (∀ option,
        ((∀ raw, nonBlank? (given (.value option)) = some raw → option.Takes raw) →
          reportsAbout option (resolved given).diagnostics = []) ∧
        ∀ raw, nonBlank? (given (.value option)) = some raw → ¬ option.Takes raw →
          ∃ defect, option.parse raw = .error defect ∧
            reportsAbout option (resolved given).diagnostics =
              [⟨.invalidOption,
                [given (.report option), some option.name, some (option.explain raw defect)]⟩]) ∧
      ∀ other : Purpose → Option String, ∃ o', (resolved other).ending = .ok o' ∧
        (given (.value .namespaceName) = other (.value .namespaceName) →
          given .rootNamespace = other .rootNamespace →
          given .assemblyName = other .assemblyName → o.namespaceName = o'.namespaceName) ∧
        (given (.value .className) = other (.value .className) → o.className = o'.className) ∧
        (given (.value .modifiers) = other (.value .modifiers) → o.modifiers = o'.modifiers) ∧
        ∀ option, given (.value option) = other (.value option) →
          given (.report option) = other (.report option) →
          reportsAbout option (resolved given).diagnostics =
            reportsAbout option (resolved other).diagnostics := by
  simp only [reportsAbout_resolved]
  obtain ⟨o, ho, hnamespace, hclass, hmodifiers, hdiagnostics⟩ := resolved_spec given
  have hlegal := isPlainIdentifier_of_readOption (readOption_given given .className).1
  obtain ⟨list, hne, hdistinct, hknown, hjoin⟩ :=
    exists_modifiers_of_readOption (readOption_given given .modifiers).1
  rw [← hclass] at hlegal
  rw [← hmodifiers] at hjoin
  refine ⟨o, ho, hlegal, ⟨list, hne, hdistinct, hknown, hjoin⟩, ?_, hdiagnostics,
    fun option => ⟨warningsOf_of_takes, fun raw hraw => warningsOf_of_not_takes hraw⟩, ?_⟩
  · intro fed hfedClass hfedModifiers
    obtain ⟨again, hagain, -, hagainClass, hagainModifiers, hagainDiagnostics⟩ := resolved_spec fed
    obtain ⟨hvalueClass, hwarnClass⟩ :=
      value?_of_parse hfedClass (trimmed_of_isPlainIdentifier hlegal.1)
        (parseIdentifier_eq_ok_iff.mpr ⟨rfl, hlegal⟩)
    obtain ⟨htrimmed, hparse⟩ := parseModifiers_join hne hdistinct hknown
    rw [← hjoin] at htrimmed hparse
    obtain ⟨hvalueModifiers, hwarnModifiers⟩ := value?_of_parse hfedModifiers htrimmed hparse
    have hall : (resolved fed).diagnostics = warningsOf fed .namespaceName := by
      rw [hagainDiagnostics, List.flatMap_cons, List.flatMap_cons, List.flatMap_singleton,
        hwarnClass, hwarnModifiers, List.append_nil, List.append_nil]
    refine ⟨again, hagain, ?_, ?_, hall, fun hnone => ?_⟩
    · rw [hagainClass, hvalueClass, Option.getD_some]
    · rw [hagainModifiers, hvalueModifiers, Option.getD_some]
    · rw [hall]
      refine warningsOf_of_takes fun raw hraw => ?_
      rw [hnone] at hraw
      exact absurd hraw (by simp [nonBlank?])
  · intro other
    obtain ⟨o', ho', hnamespace', hclass', hmodifiers', -⟩ := resolved_spec other
    refine ⟨o', ho', fun hvalue hroot hassembly => ?_, fun hvalue => ?_, fun hvalue => ?_,
      fun option => warningsOf_congr⟩
    · rw [hnamespace, hnamespace', optionNamespace, optionNamespace, projectNamespace,
        projectNamespace, hvalue, hroot, hassembly]
    · rw [hclass, hclass', value?_congr hvalue]
    · rw [hmodifiers, hmodifiers', value?_congr hvalue]

/-- A project with a namespace that is none, and other options among blanks. -/
def paddedProject : Purpose → Option String
  | .value .namespaceName => some "A..B"
  | .value .className => some " Texts "
  | .value .modifiers => some "public \t static"
  | .rootNamespace => none
  | .assemblyName | .report _ => some " Mod "

/-- The options of this project: only the namespace is warned about, and its class is the same in a
project that gives nothing else. -/
theorem options_on_their_own_padded :
    (resolved paddedProject).ending = .ok ⟨"Mod", "Texts", "public static"⟩ ∧
      reportsAbout .namespaceName (resolved paddedProject).diagnostics =
        [⟨.invalidOption, [some " Mod ", some "Namespace",
          some (ClassOption.namespaceName.explain "A..B" (.form dottedPattern))]⟩] ∧
      reportsAbout .className (resolved paddedProject).diagnostics = [] ∧
      ∃ again, (resolved fun purpose =>
          if purpose = .value .className then some "Texts"
          else if purpose = .value .modifiers then some "public static" else none).ending =
        .ok again ∧ again.className = "Texts" ∧ again.modifiers = "public static" := by
  have hending : (resolved paddedProject).ending = .ok ⟨"Mod", "Texts", "public static"⟩ := by
    decide +kernel
  have hillegal : ¬ LegalNamespace "A..B" := by decide +kernel
  obtain ⟨o, ho, -, -, hfed, -, hreports, -⟩ := options_on_their_own paddedProject
  obtain rfl := Except.ok.inj (hending.symm.trans ho)
  refine ⟨hending, ?_, ?_, ?_⟩
  · obtain ⟨defect, hdefect, hreport⟩ :=
      (hreports .namespaceName).2 "A..B" (by decide) hillegal
    have hform : defect = .form dottedPattern := by
      have hparse : ClassOption.namespaceName.parse "A..B" = .error (.form dottedPattern) := by
        decide +kernel
      exact Except.error.inj (hdefect.symm.trans hparse)
    rw [hreport, hform]
    rfl
  · refine (hreports .className).1 fun raw hraw => ?_
    have htexts : nonBlank? (paddedProject (.value .className)) = some "Texts" := by decide
    rw [htexts, Option.some.injEq] at hraw
    rw [← hraw]
    exact ⟨by decide, by decide +kernel⟩
  · obtain ⟨again, hagain, hclass, hmodifiers, -⟩ := hfed (fun purpose =>
      if purpose = .value .className then some "Texts"
      else if purpose = .value .modifiers then some "public static" else none) rfl rfl
    exact ⟨again, hagain, hclass, hmodifiers⟩

end Phrasebook
