import Phrasebook.ClassOptions
import Phrasebook.Proofs.CSharp.Word
import Phrasebook.Proofs.Pass.Step
import Phrasebook.Proofs.Text.Fields
import Phrasebook.Proofs.Text.Lines

/-!
# What resolved options satisfy

An option is the value that a build property gives, if it takes it, and otherwise its default:

* `parseIdentifier_eq_ok_iff`, `parseModifiers_eq_ok_iff` — the values that an option takes;
* `readOption_eq_ok`, `readOption_ok` — what reading an option gives, and that the option takes it;
* `ClassOptions.Resolved`, `resolveWith_ok` — the class name is a plain identifier and no
  keyword, and the modifiers are some of the known ones with spaces between them;
* `ClassOptions.OneLine`, `ClassOptions.Resolved.oneLine` — options whose texts stay on one line.
-/

namespace Phrasebook

open Phrasebook.CSharp Phrasebook.Text

/-! ### Values that an option takes -/

/-- **The option takes the plain identifiers that are no keywords**, as they are. -/
theorem parseIdentifier_eq_ok_iff {value result : String} :
    parseIdentifier value = .ok result ↔
      result = value ∧ isPlainIdentifier value = true ∧ isKeyword value = false := by
  unfold parseIdentifier
  cases isPlainIdentifier value <;> cases isKeyword value <;> simp [eq_comm]

theorem allDistinct_iff {list : List String} : allDistinct list = true ↔ list.Nodup := by
  induction list with
  | nil => exact iff_of_true rfl List.nodup_nil
  | cons word rest ih =>
    rw [allDistinct, Bool.and_eq_true, Bool.not_eq_true', ← Bool.not_eq_true,
      List.contains_iff_mem, List.nodup_cons, ih]

/-- **The option takes different words that are modifiers**, and puts single spaces between them. -/
theorem parseModifiers_eq_ok_iff {value result : String} :
    parseModifiers value = .ok result ↔
      (∀ word ∈ words value, word ∈ classModifiers) ∧ (words value).Nodup ∧
        result = join " " (words value) := by
  have hknown : ((words value).filter (!classModifiers.contains ·)).isEmpty = true ↔
      ∀ word ∈ words value, word ∈ classModifiers := by
    rw [List.isEmpty_iff, List.filter_eq_nil_iff]
    refine forall₂_congr fun word _ => ?_
    rw [Bool.not_eq_true, Bool.not_eq_false', List.contains_iff_mem]
  simp only [parseModifiers]
  rw [← hknown, ← allDistinct_iff]
  cases ((words value).filter (!classModifiers.contains ·)).isEmpty <;>
    cases allDistinct (words value) <;> simp [eq_comm]

/-- **What reading an option gives**: the value that the option takes from the property, if any. -/
theorem readOption_eq_ok {answers : Answers} {o : ClassOption} {result : Option String}
    (h : (readOption answers o).ending = .ok result) :
    ∃ given, answers (.value o) = .ok given ∧
      result = (nonBlank? given).bind fun raw => (o.parse raw).toOption := by
  rw [readOption] at h
  obtain ⟨given, hgiven, h⟩ := Step.ending_bind_eq_ok.mp h
  refine ⟨given, hgiven, ?_⟩
  split at h
  · rename_i hblank
    rw [Step.ending_pure, Except.ok.injEq] at h
    rw [← h, hblank, Option.bind_none]
  · rename_i raw hraw
    rw [hraw, Option.bind_some]
    split at h
    · rename_i parsed hparsed
      rw [Step.ending_pure, Except.ok.injEq] at h
      rw [← h, hparsed, Except.toOption]
    · -- a value that is refused is reported, and none is read
      rename_i defect hdefect
      rw [Step.ending_log_bind] at h
      obtain ⟨_, -, h⟩ := Step.ending_bind_eq_ok.mp h
      obtain ⟨_, -, h⟩ := Step.ending_bind_eq_ok.mp h
      rw [Step.ending_pure, Except.ok.injEq] at h
      rw [← h, hdefect, Except.toOption]

/-- **A value that is read is one that the option takes**, from a property that is not blank. -/
theorem readOption_ok {answers : Answers} {o : ClassOption} {result : Option String}
    (h : (readOption answers o).ending = .ok result) :
    ∀ value ∈ result, ∃ given raw, nonBlank? given = some raw ∧ o.parse raw = .ok value := by
  obtain ⟨given, -, rfl⟩ := readOption_eq_ok h
  intro value hvalue
  obtain ⟨raw, hraw, hvalue⟩ := Option.bind_eq_some_iff.mp hvalue
  refine ⟨given, raw, hraw, ?_⟩
  cases hparse : o.parse raw with
  | error defect => exact absurd hvalue (by simp [hparse, Except.toOption])
  | ok parsed =>
    rw [hparse, Except.toOption, Option.some.injEq] at hvalue
    rw [hvalue]

/-! ### Resolved options -/

/-- What the class name and the modifiers of resolved options satisfy. -/
structure ClassOptions.Resolved (o : ClassOptions) : Prop where
  className_plain : isPlainIdentifier o.className = true
  className_free : isKeyword o.className = false
  modifiers : ∃ list : List String, list ≠ [] ∧
    (∀ word ∈ list, word ∈ classModifiers) ∧ o.modifiers = join " " list

theorem isPlainIdentifier_of_readOption {answers : Answers} {className : Option String}
    (h : (readOption answers .className).ending = .ok className) :
    isPlainIdentifier (className.getD defaultClassName) = true ∧
      isKeyword (className.getD defaultClassName) = false := by
  cases className with
  | none => exact ⟨by decide +kernel, by decide +kernel⟩
  | some value =>
    obtain ⟨_, raw, -, hraw⟩ := readOption_ok h value rfl
    obtain ⟨rfl, hplain, hfree⟩ := parseIdentifier_eq_ok_iff.mp hraw
    exact ⟨hplain, hfree⟩

/-- There is always a modifier: the value of an option is not blank.  None is listed twice. -/
theorem exists_modifiers_of_readOption {answers : Answers} {modifiers : Option String}
    (h : (readOption answers .modifiers).ending = .ok modifiers) :
    ∃ list : List String, list ≠ [] ∧ list.Nodup ∧ (∀ word ∈ list, word ∈ classModifiers) ∧
      modifiers.getD defaultModifiers = join " " list := by
  cases modifiers with
  | none => exact ⟨["internal", "static"], List.cons_ne_nil _ _, by decide, by decide, rfl⟩
  | some value =>
    obtain ⟨given, raw, hraw, hparse⟩ := readOption_ok h value rfl
    obtain ⟨hknown, hdistinct, hjoin⟩ := parseModifiers_eq_ok_iff.mp hparse
    refine ⟨words raw, ?_, hdistinct, hknown, hjoin⟩
    rw [nonBlank?, Option.filter_eq_some_iff, Option.map_eq_some_iff] at hraw
    obtain ⟨⟨written, -, rfl⟩, hne⟩ := hraw
    exact words_trim_ne_nil (of_decide_eq_true hne)

/-- **What resolved options satisfy**, whatever the answers are. -/
theorem resolveWith_ok {answers : Answers} {o : ClassOptions}
    (h : (resolveWith answers).ending = .ok o) : o.Resolved := by
  rw [resolveWith] at h
  obtain ⟨namespaceName, -, h⟩ := Step.ending_bind_eq_ok.mp h
  obtain ⟨className, hname, h⟩ := Step.ending_bind_eq_ok.mp h
  obtain ⟨modifiers, hmodifiers, h⟩ := Step.ending_bind_eq_ok.mp h
  rw [Step.ending_pure, Except.ok.injEq] at h
  subst h
  obtain ⟨hplain, hfree⟩ := isPlainIdentifier_of_readOption hname
  obtain ⟨list, hne, -, hknown, hjoin⟩ := exists_modifiers_of_readOption hmodifiers
  exact ⟨hplain, hfree, list, hne, hknown, hjoin⟩

/-! ### Options on one line -/

/-- The texts of the options have no line end in them. -/
structure ClassOptions.OneLine (o : ClassOptions) : Prop where
  namespaceName : Unbroken o.namespaceName
  className : Unbroken o.className
  modifiers : Unbroken o.modifiers

/-- A plain identifier has letters, digits and underscores of ASCII only. -/
theorem mem_of_isPlainIdentifier {s : String} (h : isPlainIdentifier s = true) :
    ∀ c ∈ s.toList, (c.isAlphanum || c == '_') = true := by
  unfold isPlainIdentifier at h
  split at h
  · exact absurd h Bool.false_ne_true
  · rename_i c rest hs
    rw [Bool.and_eq_true, Bool.or_eq_true, List.all_eq_true] at h
    rw [hs, List.forall_mem_cons]
    refine ⟨?_, h.2⟩
    rw [Bool.or_eq_true, Char.isAlphanum, Bool.or_eq_true]
    exact h.1.imp_left Or.inl

theorem toNat_lt_of_isAlphanum {c : Char} (h : (c.isAlphanum || c == '_') = true) :
    c.toNat < 128 := by
  -- what letters and digits are, as intervals
  replace h : (((decide ('A'.val ≤ c.val ∧ c.val ≤ 'Z'.val) || ('a'.val ≤ c.val && c.val ≤ 'z'.val))
    || ('0'.val ≤ c.val && c.val ≤ '9'.val)) || c == '_') = true := h
  simp only [Bool.or_eq_true, Bool.and_eq_true, decide_eq_true_eq, beq_iff_eq,
    UInt32.le_iff_toNat_le] at h
  obtain (((⟨_, h⟩ | ⟨_, h⟩) | ⟨_, h⟩) | rfl) := h
  · exact Nat.lt_of_le_of_lt h (by decide)
  · exact Nat.lt_of_le_of_lt h (by decide)
  · exact Nat.lt_of_le_of_lt h (by decide)
  · decide

/-- A plain identifier is a word of C#. -/
theorem isWord_of_isPlainIdentifier {s : String} (h : isPlainIdentifier s = true) :
    isWord s.toList = true := by
  -- only ASCII characters occur, so finitely many comparisons decide
  have hstart : ∀ n < 128, ((Char.ofNat n).isAlpha || Char.ofNat n == '_') = true →
      isWordStart (Char.ofNat n) = true := by decide +kernel
  have hpart : ∀ n < 128, ((Char.ofNat n).isAlphanum || Char.ofNat n == '_') = true →
      isWordPart (Char.ofNat n) = true := by decide +kernel
  have hascii := fun c hc => toNat_lt_of_isAlphanum (mem_of_isPlainIdentifier h c hc)
  unfold isPlainIdentifier at h
  split at h
  · exact absurd h Bool.false_ne_true
  · rename_i c rest hs
    rw [hs] at hascii ⊢
    rw [List.forall_mem_cons] at hascii
    rw [Bool.and_eq_true, List.all_eq_true] at h
    rw [isWord, Bool.and_eq_true, List.all_eq_true]
    refine ⟨?_, fun d hd => ?_⟩
    · have hc := hstart c.toNat hascii.1
      rw [Char.ofNat_toNat] at hc
      exact hc h.1
    · have hd' := hpart d.toNat (hascii.2 d hd)
      rw [Char.ofNat_toNat] at hd'
      exact hd' (h.2 d hd)

theorem unbroken_of_isPlainIdentifier {s : String} (h : isPlainIdentifier s = true) :
    Unbroken (ofString s) := by
  have hends : ∀ d ∈ ['\r', '\n', '\u0085', '\u2028', '\u2029'],
      (d.isAlphanum || d == '_') = false :=
    forall_mem_of_all (by decide)
  rw [unbroken_ofString]
  intro c hc
  rw [← Bool.not_eq_true]
  intro hl
  have hplain := mem_of_isPlainIdentifier h c hc
  rw [hends c (mem_of_isLineEnd hl)] at hplain
  exact absurd hplain Bool.false_ne_true

theorem unbroken_of_mem_classModifiers : ∀ word ∈ classModifiers, Unbroken (ofString word) := by
  simp only [classModifiers, List.forall_mem_cons]
  and_intros
  all_goals first | exact unbroken_ofList (by decide) | exact List.forall_mem_nil _

/-- **Only the namespace of resolved options can leave its line.** -/
theorem ClassOptions.Resolved.oneLine {o : ClassOptions} (h : o.Resolved)
    (hn : Unbroken o.namespaceName) : o.OneLine := by
  refine ⟨hn, unbroken_of_isPlainIdentifier h.className_plain, ?_⟩
  obtain ⟨list, -, hlist, heq⟩ := h.modifiers
  rw [heq]
  exact unbroken_join (unbroken_ofList (by decide))
    fun word hword => unbroken_of_mem_classModifiers word (hlist word hword)

end Phrasebook
