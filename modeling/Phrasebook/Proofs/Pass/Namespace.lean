import Phrasebook.Proofs.ClassSource.Depth
import Phrasebook.Proofs.Pass.Fault
import Phrasebook.Proofs.Pass.Generation

/-!
# The namespace of a class

A namespace is legal if it has identifiers of ASCII with dots between them, none of them a keyword.
The option is checked for this, and what stands in for it is not:

* `LegalNamespace`, `parseDotted_eq_ok_iff` — the values that the option takes are the legal ones;
* `namespaceName_of_resolveWith` — the four sources of a namespace;
* `readNamespace`, `readNamespace_of_legal` — a legal namespace is declared with its parts;
* `namespacesOf_source` — it is the only one that a source declares;
* `namespace_of_properties` — all of this for a pass, and `assembly_name_with_space`, an assembly
  whose name is no namespace.
-/

namespace Phrasebook

open Phrasebook.CSharp Phrasebook.Text
open Phrasebook.ClassSource

/-! ### Legal namespaces -/

/-- The parts of a legal namespace. -/
structure LegalParts (parts : List String) : Prop where
  nonempty : parts ≠ []
  plain : ∀ part ∈ parts, isPlainIdentifier part = true
  free : ∀ part ∈ parts, isKeyword part = false

/-- A namespace of such parts with dots between them. -/
def LegalNamespace (name : String) : Prop :=
  ∃ parts, LegalParts parts ∧ name = join "." parts

/-- There is no dot in a part, so they are what stands between the dots. -/
theorem LegalParts.fields_join {parts : List String} (h : LegalParts parts) :
    fields '.' (join "." parts) = parts := by
  refine Text.fields_join h.nonempty fun part hpart hdot => ?_
  have hplain := mem_of_isPlainIdentifier (h.plain part hpart) '.' hdot
  exact absurd hplain (by decide)

/-- **The option takes the legal namespaces**, as they are. -/
theorem parseDotted_eq_ok_iff {value result : String} :
    parseDotted value = .ok result ↔ result = value ∧ LegalNamespace value := by
  unfold parseDotted
  constructor
  · intro h
    simp only at h
    split at h
    · exact absurd h (by simp)
    · rename_i hplain
      rw [Bool.not_eq_true', Bool.not_eq_false, List.all_eq_true] at hplain
      split at h
      · exact absurd h (by simp)
      · rename_i hfree
        rw [Except.ok.injEq] at h
        refine ⟨h.symm, fields '.' value, ⟨?_, hplain, fun part hpart => ?_⟩, ?_⟩
        · rw [fields, fieldsOf_eq_splitOn, ne_eq, List.map_eq_nil_iff]
          exact List.splitOn_ne_nil _ _
        · rw [← Bool.not_eq_true]
          exact List.find?_eq_none.mp hfree part hpart
        · exact (join_fields '.' value).symm
  · rintro ⟨rfl, parts, h, rfl⟩
    have hplain : parts.all isPlainIdentifier = true := List.all_eq_true.mpr h.plain
    have hfree : parts.find? isKeyword = none :=
      List.find?_eq_none.mpr fun part hpart => by rw [h.free part hpart]; exact Bool.false_ne_true
    simp only [h.fields_join, hplain, hfree, Bool.not_true, Bool.false_eq_true, if_false]

theorem isOk_parseDotted_iff {value : String} :
    (parseDotted value).isOk = true ↔ LegalNamespace value := by
  cases h : parseDotted value with
  | error defect =>
    refine iff_of_false Bool.false_ne_true fun hlegal => ?_
    exact absurd (h.symm.trans (parseDotted_eq_ok_iff.mpr ⟨rfl, hlegal⟩)) (by simp)
  | ok result => exact iff_of_true rfl (parseDotted_eq_ok_iff.mp h).2

instance : DecidablePred LegalNamespace := fun _ =>
  decidable_of_iff _ isOk_parseDotted_iff

/-! ### The sources of a namespace -/

/-- The namespace that the option gives, if it is legal. -/
def optionNamespace (given : Purpose → Option String) : Option String :=
  (nonBlank? (given (.value .namespaceName))).filter (LegalNamespace ·)

/-- What stands in for it: that of the project, or else the name of its assembly. -/
def projectNamespace (given : Purpose → Option String) : Option String :=
  (nonBlank? (given .rootNamespace)).or (nonBlank? (given .assemblyName))

theorem parse_namespaceName (raw : String) :
    (ClassOption.namespaceName.parse raw).toOption =
      if LegalNamespace raw then some raw else none := by
  split
  · rename_i hlegal
    rw [ClassOption.parse, parseDotted_eq_ok_iff.mpr ⟨rfl, hlegal⟩]
    rfl
  · rename_i hlegal
    cases h : parseDotted raw with
    | error defect =>
      rw [ClassOption.parse, h]
      rfl
    | ok result => exact absurd (parseDotted_eq_ok_iff.mp h).2 hlegal

/-- **Where a namespace comes from**: the option, what stands in for it, or the default. -/
theorem namespaceName_of_resolveWith {given : Purpose → Option String} {o : ClassOptions}
    (h : (resolveWith fun purpose => .ok (given purpose)).ending = .ok o) :
    o.namespaceName =
      ((optionNamespace given).or (projectNamespace given)).getD defaultNamespace := by
  rw [resolveWith] at h
  obtain ⟨name, hname, h⟩ := Step.ending_bind_eq_ok.mp h
  obtain ⟨className, -, h⟩ := Step.ending_bind_eq_ok.mp h
  obtain ⟨modifiers, -, h⟩ := Step.ending_bind_eq_ok.mp h
  rw [Step.ending_pure, Except.ok.injEq] at h
  subst h
  show name = _
  rw [resolveNamespace] at hname
  obtain ⟨value, hvalue, hname⟩ := Step.ending_bind_eq_ok.mp hname
  obtain ⟨written, hwritten, hvalue⟩ := readOption_eq_ok hvalue
  rw [Except.ok.injEq] at hwritten
  have hoption : value = optionNamespace given := by
    rw [hvalue, ← hwritten, optionNamespace]
    cases nonBlank? (given (.value .namespaceName)) with
    | none => rfl
    | some raw =>
      rw [Option.bind_some, parse_namespaceName, Option.filter_some]
      simp only [decide_eq_true_eq]
  rw [← hoption]
  cases value with
  | some value => exact (Except.ok.inj hname).symm
  | none =>
    rw [Option.none_or, projectNamespace]
    simp only [fallbackNamespace] at hname
    obtain ⟨root, hroot, hname⟩ := Step.ending_bind_eq_ok.mp hname
    rw [consult, Step.ending_ask, Except.ok.injEq] at hroot
    rw [hroot]
    cases hblank : nonBlank? root with
    | some value =>
      rw [hblank] at hname
      exact (Except.ok.inj hname).symm
    | none =>
      rw [hblank] at hname
      obtain ⟨assembly, hassembly, hname⟩ := Step.ending_bind_eq_ok.mp hname
      rw [consult, Step.ending_ask, Except.ok.injEq] at hassembly
      rw [hassembly, Option.none_or]
      exact (Except.ok.inj hname).symm

/-! ### The declaration -/

/-- The parts of a name with dots. -/
def readDotted : List Lexeme → Option (List String)
  | [.identifier name] => some [name]
  | .identifier name :: .sign '.' :: rest => (readDotted rest).map (name :: ·)
  | _ => none

/-- A line that declares a namespace: the parts of its name.  The end of the line ends a word. -/
def readNamespace (line : Text) : Option (List String) :=
  match lexemes? (line ++ ofString " ") with
  | some (.keyword "namespace" :: name) => readDotted name
  | _ => none

theorem readDotted_intercalate {parts : List String} (hne : parts ≠ []) :
    readDotted ([Lexeme.sign '.'].intercalate (parts.map fun part => [.identifier part])) =
      some parts := by
  induction parts with
  | nil => exact absurd rfl hne
  | cons part rest ih =>
    cases rest with
    | nil =>
      rw [List.map_singleton, List.intercalate_singleton]
      rfl
    | cons next rest =>
      rw [List.map_cons, List.map_cons, List.intercalate_cons_cons]
      show readDotted (.identifier part :: .sign '.' ::
        [Lexeme.sign '.'].intercalate ((next :: rest).map fun part => [.identifier part])) = _
      rw [readDotted, ih (List.cons_ne_nil _ _)]
      rfl

/-- **A legal namespace is declared with its parts.** -/
theorem readNamespace_of_legal {parts : List String} (h : LegalParts parts) :
    readNamespace (namespaceLine (join "." parts)) = some parts := by
  have hopening : Spells (ofString "namespace ") [.keyword "namespace"] :=
    spells_ofList (by decide)
  have hspace : Spells (ofString " ") [] := spells_ofList (by decide)
  have hdot : Spells (ofString ".") [.sign '.'] := spells_ofList (by decide)
  have hname : SpellsOpen (joinTexts (ofString ".") (plain parts))
      ([Lexeme.sign '.'].intercalate (parts.map fun part => [.identifier part])) :=
    spellsOpen_separated (by decide) hdot fun part hpart =>
      spellsOpen_identifier (isWord_of_isPlainIdentifier (h.plain part hpart)) (h.free part hpart)
  have hline := (hopening.append_open hname).append (by decide) hspace
  rw [readNamespace, namespaceLine, ofString_append, ofString_join, hline.lexemes?_eq]
  rw [List.append_nil, List.singleton_append]
  exact readDotted_intercalate h.nonempty

/-- The namespaces that some lines declare. -/
def namespacesOf (lines : List Text) : List (Option (List String)) :=
  (lines.filter (ofString "namespace ").isPrefixOf).map readNamespace

/-- No directive looks like a namespace. -/
theorem not_namespace_headerLines (entries : List Entry) :
    ∀ line ∈ plain (headerLines entries), ¬ ofString "namespace " <+: line := by
  have hdirective : ∀ {t : List Char}, clash "namespace ".toList t = true →
      ¬ ofString "namespace " <+: ofString (String.ofList t) := by
    intro t h
    have hline := not_prefix_of_clash h []
    rwa [List.append_nil] at hline
  rw [plain, List.forall_mem_map, headerLines, List.forall_mem_append, List.forall_mem_append]
  refine ⟨⟨?_, ?_⟩, ?_⟩
  · simp only [List.forall_mem_cons]
    and_intros
    all_goals first | exact hdirective (by decide) | exact List.forall_mem_nil _
  · split
    · rw [List.forall_mem_singleton]
      exact hdirective (by decide)
    · exact List.forall_mem_nil _
  · simp only [List.forall_mem_cons]
    exact ⟨hdirective (by decide), hdirective (by decide), by decide, List.forall_mem_nil _⟩

/-- Behind the namespace nothing is declared at its depth. -/
theorem not_namespace_bodyLines {o : ClassOptions} (ho : o.Resolved) (entries : List Entry) :
    ∀ line ∈ bodyLines o entries, ¬ ofString "namespace " <+: line := by
  rintro line hline ⟨rest, rfl⟩
  have hopens : opensAt 0 (ofString "namespace " ++ rest) = true :=
    opensAt_of_settled (by decide) rest
  have hdeclared := mem_declarations hline (by decide) hopens
  rw [declarations_bodyLines ho] at hdeclared
  simp at hdeclared

/-- **A source declares its namespace, and no other one**, if it is on one line. -/
theorem namespacesOf_source {o : ClassOptions} (ho : o.Resolved) (hn : Unbroken o.namespaceName)
    {entries : List Entry} (h : ∀ e ∈ entries, e.Sound) :
    namespacesOf ((source o entries).splitOn (.char '\n')) =
      [readNamespace (namespaceLine o.namespaceName)] := by
  have hnone : ∀ {lines : List Text}, (∀ line ∈ lines, ¬ ofString "namespace " <+: line) →
      lines.filter (ofString "namespace ").isPrefixOf = [] := by
    intro lines hlines
    exact List.filter_eq_nil_iff.mpr fun line hline hprefix =>
      hlines line hline (List.isPrefixOf_iff_prefix.mp hprefix)
  have hline : (ofString "namespace ").isPrefixOf (namespaceLine o.namespaceName) = true := by
    rw [List.isPrefixOf_iff_prefix, namespaceLine, ofString_append]
    exact List.prefix_append _ _
  rw [splitOn_source (ho.oneLine hn) h, lines_eq_namespace, namespacesOf, List.append_assoc,
    List.filter_append, hnone (not_namespace_headerLines entries), List.nil_append,
    List.cons_append, List.filter_cons_of_pos hline, List.filter_append,
    hnone (not_namespace_bodyLines ho entries)]
  rfl

/-! ### The namespace of a pass -/

theorem unbroken_of_legal {name : String} (h : LegalNamespace name) : Unbroken (ofString name) := by
  obtain ⟨parts, hparts, rfl⟩ := h
  exact unbroken_join (unbroken_ofList (by decide)) fun part hpart =>
    unbroken_of_isPlainIdentifier (hparts.plain part hpart)

theorem legal_defaultNamespace : LegalNamespace defaultNamespace := by
  decide

theorem legal_of_optionNamespace {given : Purpose → Option String} {name : String}
    (h : optionNamespace given = some name) : LegalNamespace name :=
  of_decide_eq_true (Option.filter_eq_some_iff.mp h).2

/-- **The namespace that properties give**, if none of them fails.

* There are options, and their namespace is the value of the option, if this is legal; or else what
  stands in for it, as it is without blanks at its ends; or else the default.
* The namespace is legal exactly when the option gives one or what stands in for it is legal.
* It stands in any source that a pass over these properties gives, on a line of its own, behind the
  directives and in front of the class.  If it is legal, the source declares this namespace, with
  its parts, and no other one. -/
theorem namespace_of_properties (given : Purpose → Option String) :
    ∃ o, (resolveWith fun purpose => .ok (given purpose)).ending = .ok o ∧
      o.namespaceName =
        ((optionNamespace given).or (projectNamespace given)).getD defaultNamespace ∧
      (LegalNamespace o.namespaceName ↔
        (optionNamespace given).isSome = true ∨
          ∀ name ∈ projectNamespace given, LegalNamespace name) ∧
      ∀ load files out,
        (generateIn ⟨fun purpose => .ok (given purpose), load⟩ files).output = some out →
        (∃ entries, out = unlines (plain (headerLines entries)) ++ namespaceLine o.namespaceName
          ++ .char '\n' :: unlines (bodyLines o entries)) ∧
        ∀ parts, LegalParts parts → o.namespaceName = join "." parts →
          namespacesOf (out.splitOn (.char '\n')) = [some parts] := by
  obtain ⟨o, ho⟩ := exists_resolveWith_eq_ok given
  have hname := namespaceName_of_resolveWith ho
  refine ⟨o, ho, hname, ?_, ?_⟩
  · rw [hname]
    cases hoption : optionNamespace given with
    | some name => exact iff_of_true (legal_of_optionNamespace hoption) (.inl rfl)
    | none =>
      cases hproject : projectNamespace given with
      | some name => simp
      | none => simp [legal_defaultNamespace]
  · intro load files out hout
    obtain ⟨o', catalog, ho', hread, rfl⟩ := generateIn_output hout
    obtain rfl := Except.ok.inj (ho.symm.trans ho')
    refine ⟨⟨catalog.entries, source_eq o catalog.entries⟩, fun parts hparts hjoin => ?_⟩
    have hlegal : LegalNamespace o.namespaceName := ⟨parts, hparts, hjoin⟩
    rw [namespacesOf_source (resolveWith_ok ho) (unbroken_of_legal hlegal)
      (Catalog.readInTurn_sound hread), hjoin, readNamespace_of_legal hparts]

/-- A project with a root namespace. -/
def rootedProject : Purpose → Option String
  | .rootNamespace => some " Author.Mod "
  | _ => none

/-- Its root namespace is what its source declares. -/
theorem namespace_of_properties_root :
    ∃ out, (generateIn ⟨fun purpose => .ok (rootedProject purpose), fun _ => oneKeyLoader⟩
        ["i18n/default.json"]).output = some out ∧
      LegalParts ["Author", "Mod"] ∧
      namespacesOf (out.splitOn (.char '\n')) = [some ["Author", "Mod"]] := by
  have hparts : LegalParts ["Author", "Mod"] := ⟨by decide, by decide, by decide⟩
  have hoptions : (resolveWith fun purpose => .ok (rootedProject purpose)).ending =
      .ok ⟨"Author.Mod", defaultClassName, defaultModifiers⟩ := by decide
  have hout := generateIn_of_catalog
    (s := ⟨fun purpose => .ok (rootedProject purpose), fun _ => oneKeyLoader⟩) hoptions
    (read_oneKeyLoader defaultClassName List.mem_cons_self)
  obtain ⟨o, ho, -, -, hpass⟩ := namespace_of_properties rootedProject
  obtain rfl := Except.ok.inj (ho.symm.trans hoptions)
  exact ⟨_, hout, hparts, (hpass _ _ _ hout).2 _ hparts rfl⟩

/-- A project whose assembly has a name with a space in it. -/
def spacedAssembly : Properties := fun name =>
  .ok (if name = assemblyNameProperty then some "My Mod" else none)

/-- **An assembly whose name is no namespace** gives one, and its source declares none that can be
read. -/
theorem assembly_name_with_space :
    ∃ o out, (resolveOptions spacedAssembly).ending = .ok o ∧ o.namespaceName = "My Mod" ∧
      ¬ LegalNamespace o.namespaceName ∧
      (generate spacedAssembly oneKeyLoader ["i18n/default.json"]).output = some out ∧
      namespacesOf (out.splitOn (.char '\n')) = [none] := by
  have ho : (resolveOptions spacedAssembly).ending =
      .ok ⟨"My Mod", defaultClassName, defaultModifiers⟩ := by decide
  have hread := read_oneKeyLoader defaultClassName List.mem_cons_self
  refine ⟨_, _, ho, rfl, by decide, generate_of_catalog ho hread, ?_⟩
  rw [namespacesOf_source (resolveWith_ok ho) (unbroken_ofList (by decide))
    (Catalog.read_sound hread)]
  decide

end Phrasebook
