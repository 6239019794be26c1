import Phrasebook.ClassSource.Section
import Phrasebook.Proofs.CSharp.DocComment
import Phrasebook.Proofs.CSharp.Literal
import Phrasebook.Proofs.ClassOptions
import Phrasebook.Proofs.Entry

/-!
# The lines of a generated class

Every section is written as a list of lines.  The fixed lines have no line end in them; the others
show names, which are words, or free text, which is encoded for a comment or for a literal.  So
the lines that are written are the lines that C# reads:

* `Entry.Sound.unbroken_bundle` — the expression of an entry does not leave its line;
* `unbroken_headerLines` … `unbroken_closeLines` — the sections, one after the other;
* `ClassSource.physicalLines_source`, `ClassSource.physicalLines_of_reading` — the source of sound
  entries, and of those of a reading.
-/

namespace Phrasebook

open Phrasebook.CSharp Phrasebook.Text

/-! ### Expressions and lists of parameters -/

theorem Placeholder.Sound.unbroken_anonymousMember {p : Placeholder} (h : p.Sound) :
    Unbroken (anonymousMember p) := by
  unfold anonymousMember
  split
  · exact h.unbroken_parameter
  · rw [unbroken_append, unbroken_append, verbatim]
    refine ⟨⟨?_, unbroken_ofList (by decide)⟩, h.unbroken_parameter⟩
    split
    · rw [unbroken_ofString_append]
      exact ⟨unbroken_ofList (by decide), h.unbroken_key⟩
    · exact h.unbroken_key

theorem Placeholder.Sound.unbroken_dictionaryItem {p : Placeholder} (h : p.Sound) :
    Unbroken (dictionaryItem p) := by
  unfold dictionaryItem
  rw [unbroken_append, unbroken_append, unbroken_append]
  exact ⟨⟨⟨unbroken_ofList (by decide), StringLiteral.unbroken_encode _⟩,
    unbroken_ofList (by decide)⟩, h.unbroken_parameter⟩

/-- **The expression of a sound entry stays on its line.** -/
theorem Entry.Sound.unbroken_bundle {e : Entry} (h : e.Sound) :
    ∀ bundle ∈ e.bundle?, Unbroken bundle := by
  intro bundle hbundle
  rw [Entry.bundle?, Option.mem_def] at hbundle
  cases hstyle : e.style with
  | none =>
    rw [hstyle] at hbundle
    exact absurd hbundle (by simp)
  | anonymousObject =>
    rw [hstyle, Option.some.injEq] at hbundle
    rw [← hbundle, unbroken_append, unbroken_append]
    refine ⟨⟨unbroken_ofList (by decide), ?_⟩, unbroken_ofList (by decide)⟩
    refine unbroken_joinTexts (unbroken_ofList (by decide)) ?_
    rw [List.forall_mem_map]
    exact fun p hp => (h.placeholders p hp).unbroken_anonymousMember
  | dictionary =>
    rw [hstyle, Option.some.injEq] at hbundle
    rw [← hbundle, unbroken_append, unbroken_append]
    refine ⟨⟨unbroken_ofList (by decide), ?_⟩, unbroken_ofList (by decide)⟩
    refine unbroken_joinTexts (unbroken_ofList (by decide)) ?_
    rw [List.forall_mem_map]
    exact fun p hp => (h.placeholders p hp).unbroken_dictionaryItem

namespace ClassSource

theorem unbroken_parameterList {placeholders : List Placeholder}
    (h : ∀ p ∈ placeholders, p.Sound) : Unbroken (ofString (parameterList placeholders)) := by
  rw [parameterList]
  refine unbroken_join (unbroken_ofList (by decide)) ?_
  rw [List.forall_mem_map]
  intro p hp
  rw [unbroken_ofString_append]
  exact ⟨unbroken_ofList (by decide), (h p hp).unbroken_parameter⟩

theorem unbroken_parameterLine {p : Placeholder} (h : p.Sound) :
    Unbroken (ofString (parameterLine p)) := by
  obtain ⟨name, hname, hp⟩ := h.parameter
  unfold parameterLine
  rw [hp, unescaped_verbatim hname]
  simp only [unbroken_ofString_append]
  and_intros
  · exact unbroken_ofList (by decide)
  · exact unbroken_of_isWord hname
  · exact unbroken_ofList (by decide)
  · exact h.unbroken_key
  · exact unbroken_ofList (by decide)

/-! ### Sections -/

theorem unbroken_headerLines (entries : List Entry) :
    ∀ line ∈ plain (headerLines entries), Unbroken line := by
  rw [plain, List.forall_mem_map, headerLines, List.forall_mem_append, List.forall_mem_append]
  refine ⟨⟨?_, ?_⟩, ?_⟩
  · simp only [List.forall_mem_cons]
    and_intros
    · exact unbroken_ofList (by decide)
    · exact unbroken_ofList (by decide)
    · exact unbroken_ofList (by decide)
    · exact List.forall_mem_nil _
  · split
    · rw [List.forall_mem_singleton]
      exact unbroken_ofList (by decide)
    · exact List.forall_mem_nil _
  · simp only [List.forall_mem_cons]
    and_intros
    · exact unbroken_ofList (by decide)
    · exact unbroken_ofList (by decide)
    · exact unbroken_nil
    · exact List.forall_mem_nil _

theorem unbroken_keyConstantLines {e : Entry} (he : e.Sound) :
    ∀ line ∈ keyConstantLines e, Unbroken line := by
  simp only [keyConstantLines, List.forall_mem_cons, unbroken_append]
  and_intros
  · exact unbroken_ofList (by decide)
  · exact DocComment.unbroken_encode e.text
  · exact unbroken_ofList (by decide)
  · exact unbroken_ofList (by decide)
  · exact he.unbroken_method
  · exact unbroken_ofList (by decide)
  · exact StringLiteral.unbroken_encode e.key
  · exact unbroken_ofList (by decide)
  · exact List.forall_mem_nil _

theorem unbroken_keyConstantsLines {entries : List Entry} (h : ∀ e ∈ entries, e.Sound) :
    ∀ line ∈ keyConstantsLines entries, Unbroken line := by
  fun_induction keyConstantsLines entries with
  | case1 => exact List.forall_mem_nil _
  | case2 e => exact unbroken_keyConstantLines (h e List.mem_cons_self)
  | case3 e rest _ ih =>
    rw [List.forall_mem_cons] at h
    rw [List.forall_mem_append, List.forall_mem_cons]
    exact ⟨unbroken_keyConstantLines h.1, unbroken_nil, ih h.2⟩

theorem unbroken_keyLines {entries : List Entry} (h : ∀ e ∈ entries, e.Sound) :
    ∀ line ∈ keyLines entries, Unbroken line := by
  rw [keyLines, List.forall_mem_append, List.forall_mem_append]
  refine ⟨⟨?_, unbroken_keyConstantsLines h⟩, ?_⟩
  · rw [plain, List.forall_mem_map]
    simp only [List.forall_mem_cons, unbroken_ofString_append]
    and_intros
    all_goals first | exact unbroken_ofList (by decide) | exact List.forall_mem_nil _
  · rw [plain, List.forall_mem_map]
    simp only [List.forall_mem_cons]
    and_intros
    · exact unbroken_ofList (by decide)
    · exact unbroken_nil
    · exact unbroken_nil
    · exact List.forall_mem_nil _

variable {o : ClassOptions}

theorem unbroken_openLines (ho : o.OneLine) : ∀ line ∈ plain (openLines o), Unbroken line := by
  rw [plain, List.forall_mem_map, openLines]
  simp only [List.forall_mem_cons, unbroken_ofString_append, ho.namespaceName, ho.className,
    ho.modifiers, and_true]
  and_intros
  all_goals first | exact unbroken_ofList (by decide) | exact List.forall_mem_nil _

theorem unbroken_initLines (ho : o.OneLine) : ∀ line ∈ plain (initLines o), Unbroken line := by
  rw [plain, List.forall_mem_map, initLines]
  simp only [List.forall_mem_cons, unbroken_ofString_append, ho.className, and_true]
  and_intros
  all_goals first | exact unbroken_ofList (by decide) | exact List.forall_mem_nil _

theorem unbroken_callLine (ho : o.OneLine) {e : Entry} (he : e.Sound) :
    Unbroken (callLine o e) := by
  have hbundle : Unbroken (e.bundle?.elim [] ((", " : Text) ++ ·)) := by
    cases hb : e.bundle? with
    | none => exact unbroken_nil
    | some bundle =>
      rw [Option.elim_some, unbroken_append]
      exact ⟨unbroken_ofList (by decide), he.unbroken_bundle bundle hb⟩
  simp only [callLine, unbroken_append]
  and_intros
  · exact unbroken_ofList (by decide)
  · exact ho.className
  · exact unbroken_ofList (by decide)
  · exact he.unbroken_method
  · exact hbundle
  · exact unbroken_ofList (by decide)

/-- **The method of a sound entry** takes the lines that are written for it. -/
theorem unbroken_accessorLines (ho : o.OneLine) {e : Entry} (he : e.Sound) :
    ∀ line ∈ accessorLines o e, Unbroken line := by
  rw [accessorLines, List.forall_mem_append, List.forall_mem_append]
  refine ⟨⟨?_, ?_⟩, ?_⟩
  · simp only [List.forall_mem_cons, summaryLine, unbroken_append]
    and_intros
    · exact unbroken_nil
    · exact unbroken_ofList (by decide)
    · exact DocComment.unbroken_encode e.text
    · exact unbroken_ofList (by decide)
    · exact List.forall_mem_nil _
  · rw [plain, List.forall_mem_map, List.forall_mem_append, List.forall_mem_map]
    refine ⟨fun p hp => unbroken_parameterLine (he.placeholders p hp), ?_⟩
    simp only [List.forall_mem_cons, unbroken_ofString_append]
    and_intros
    · exact unbroken_ofList (by decide)
    · exact he.unbroken_method
    · exact unbroken_ofList (by decide)
    · exact unbroken_parameterList he.placeholders
    · exact unbroken_ofList (by decide)
    · exact unbroken_ofList (by decide)
    · exact List.forall_mem_nil _
  · simp only [List.forall_mem_cons]
    exact ⟨unbroken_callLine ho he, unbroken_ofList (by decide), List.forall_mem_nil _⟩

theorem example?_mem {entries : List Entry} {e : Entry} (h : example? entries = some e) :
    e ∈ entries := by
  rw [example?, Option.or_eq_some_iff] at h
  rcases h with h | ⟨-, h⟩
  · exact List.mem_of_find?_eq_some h
  · exact List.mem_of_head? h

theorem unbroken_lookupLines (ho : o.OneLine) {entries : List Entry} (h : ∀ e ∈ entries, e.Sound) :
    ∀ line ∈ plain (lookupLines o entries), Unbroken line := by
  rw [plain, List.forall_mem_map, lookupLines, List.forall_mem_append, List.forall_mem_append]
  refine ⟨⟨?_, ?_⟩, ?_⟩
  · simp only [List.forall_mem_cons, unbroken_ofString_append]
    and_intros
    all_goals first | exact unbroken_ofList (by decide) | exact List.forall_mem_nil _
  · cases hexample : example? entries with
    | none => exact List.forall_mem_nil _
    | some e =>
      rw [Option.map_some, Option.toList_some, List.forall_mem_singleton]
      simp only [unbroken_ofString_append]
      refine ⟨⟨unbroken_ofList (by decide), ?_⟩, unbroken_ofList (by decide)⟩
      exact (h e (example?_mem hexample)).unbroken_method
  · simp only [List.forall_mem_cons, unbroken_ofString_append, ho.className, and_true]
    and_intros
    all_goals first | exact unbroken_ofList (by decide) | exact List.forall_mem_nil _

theorem unbroken_closeLines : ∀ line ∈ plain closeLines, Unbroken line := by
  rw [plain, List.forall_mem_map, closeLines]
  simp only [List.forall_mem_cons]
  exact ⟨unbroken_ofList (by decide), unbroken_ofList (by decide), List.forall_mem_nil _⟩

/-! ### The whole source -/

/-- The sections of a class, one after the other. -/
theorem lines_eq (o : ClassOptions) (entries : List Entry) :
    lines o entries = plain (headerLines entries) ++ plain (openLines o) ++ keyLines entries
      ++ plain (initLines o) ++ entries.flatMap (accessorLines o)
      ++ plain (lookupLines o entries) ++ plain closeLines := by
  simp only [lines, plain_append, List.append_assoc]

/-- **No line of a source of sound entries has a line end in it.** -/
theorem unbroken_lines (ho : o.OneLine) {entries : List Entry} (h : ∀ e ∈ entries, e.Sound) :
    ∀ line ∈ lines o entries, Unbroken line := by
  rw [lines_eq]
  simp only [List.forall_mem_append]
  refine ⟨⟨⟨⟨⟨⟨unbroken_headerLines entries, unbroken_openLines ho⟩, unbroken_keyLines h⟩,
    unbroken_initLines ho⟩, ?_⟩, unbroken_lookupLines ho h⟩, unbroken_closeLines⟩
  intro line hline
  obtain ⟨e, he, hline⟩ := List.mem_flatMap.mp hline
  exact unbroken_accessorLines ho (h e he) line hline

/-- **The lines that are written are the lines that C# reads**, with an empty tail. -/
theorem physicalLines_source (ho : o.OneLine) {entries : List Entry} (h : ∀ e ∈ entries, e.Sound) :
    physicalLines (source o entries) = lines o entries ++ [[]] :=
  physicalLines_unlines (unbroken_lines ho h)

/-- **The lines that are written are the lines that a reader of LF sees**, with an empty tail. -/
theorem splitOn_source (ho : o.OneLine) {entries : List Entry} (h : ∀ e ∈ entries, e.Sound) :
    (source o entries).splitOn (.char '\n') = lines o entries ++ [[]] :=
  splitOn_unlines (unbroken_lines ho h)

theorem mem_keyConstantsLines {entries : List Entry} {e : Entry} (he : e ∈ entries) :
    ∀ line ∈ keyConstantLines e, line ∈ keyConstantsLines entries := by
  fun_induction keyConstantsLines entries with
  | case1 => exact absurd he List.not_mem_nil
  | case2 d =>
    rw [List.mem_singleton.mp he]
    exact fun line hline => hline
  | case3 d rest _ ih =>
    intro line hline
    rcases List.mem_cons.mp he with rfl | he
    · exact List.mem_append_left _ hline
    · exact List.mem_append_right _ (List.mem_cons_of_mem _ (ih he line hline))

/-- The lines of an entry are among the lines of the class. -/
theorem mem_lines_of_entry (o : ClassOptions) {entries : List Entry} {e : Entry} (he : e ∈ entries) :
    ∀ line ∈ keyConstantLines e ++ accessorLines o e, line ∈ lines o entries := by
  intro line hline
  rw [lines_eq]
  rcases List.mem_append.mp hline with hline | hline
  · have hkeys : line ∈ keyLines entries :=
      List.mem_append_left _ (List.mem_append_right _ (mem_keyConstantsLines he line hline))
    simp only [List.mem_append, hkeys, or_true, true_or]
  · have hmethods : line ∈ entries.flatMap (accessorLines o) :=
      List.mem_flatMap.mpr ⟨e, he, hline⟩
    simp only [List.mem_append, hmethods, or_true, true_or]

/-- **No free text leaves its line.**  C# reads the source of a reading line by line as it was
written, section by section, with an empty tail.  So every text stays in the line of its comment,
and every key stays in its literal, which stands for that key. -/
theorem physicalLines_of_reading {reserved : List String} {load : Loader} {files : List String}
    {catalog : Catalog} (h : (Catalog.read reserved load files).ending = .ok (.ok catalog))
    {o : ClassOptions} (ho : o.OneLine) :
    physicalLines (source o catalog.entries) =
        plain (headerLines catalog.entries) ++ plain (openLines o) ++ keyLines catalog.entries
          ++ plain (initLines o) ++ catalog.entries.flatMap (accessorLines o)
          ++ plain (lookupLines o catalog.entries) ++ plain closeLines ++ [[]] ∧
      (∀ line ∈ physicalLines (source o catalog.entries), physicalLines line = [line]) ∧
      ∀ e ∈ catalog.entries,
        (∀ line ∈ keyConstantLines e ++ accessorLines o e,
          line ∈ physicalLines (source o catalog.entries)) ∧
        StringLiteral.decode (StringLiteral.encode e.key) = some e.key := by
  have hsound := Catalog.read_sound h
  rw [physicalLines_source ho hsound]
  refine ⟨by rw [lines_eq], ?_, ?_⟩
  · intro line hline
    apply physicalLines_of_unbroken
    rcases List.mem_append.mp hline with hline | hline
    · exact unbroken_lines ho hsound line hline
    · rw [List.mem_singleton.mp hline]
      exact unbroken_nil
  · intro e he
    refine ⟨fun line hline => ?_, StringLiteral.decode_encode e.key⟩
    exact List.mem_append_left _ (mem_lines_of_entry o he line hline)

/-- A file whose key and text hold every line end, a quote and markup. -/
def breakingLoader : Loader := fun _ =>
  .ok "\x7b'a\\r\\n\\u2028\\\"': '</summary>\\r\\n\\u0085\\u2029\x7b\x7bx\x7d\x7d'\x7d"

/-- The options that stand in when none are given. -/
def plainOptions : ClassOptions := ⟨defaultNamespace, defaultClassName, defaultModifiers⟩

theorem oneLine_plainOptions : plainOptions.OneLine where
  namespaceName := unbroken_ofList (by decide)
  className := unbroken_ofList (by decide)
  modifiers := unbroken_ofList (by decide)

/-- A key and a text full of line ends leave the lines as they are written. -/
theorem physicalLines_of_reading_breaking :
    ∃ catalog, (Catalog.read ["I18n"] breakingLoader ["i18n/default.json"]).ending
        = .ok (.ok catalog) ∧
      catalog.entries.map (·.key) = [ofChars ['a', '\r', '\n', '\u2028', '"']] ∧
      ∀ line ∈ physicalLines (source plainOptions catalog.entries), physicalLines line = [line] := by
  obtain ⟨catalog, hread, hkeys⟩ : ∃ catalog,
      (Catalog.read ["I18n"] breakingLoader ["i18n/default.json"]).ending = .ok (.ok catalog) ∧
      catalog.entries.map (·.key) = [ofChars ['a', '\r', '\n', '\u2028', '"']] :=
    ⟨⟨[⟨"a\r\n\u2028\"", "A", "</summary>\r\n\u0085\u2029\x7b\x7bx\x7d\x7d", [⟨"x", "x"⟩]⟩], []⟩,
      by decide +kernel, by decide⟩
  have hlines := physicalLines_of_reading hread oneLine_plainOptions
  exact ⟨catalog, hread, hkeys, hlines.2.1⟩

end ClassSource

end Phrasebook
