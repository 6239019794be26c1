import Phrasebook.Proofs.ClassOptions
import Phrasebook.Proofs.ClassSource.Accessor
import Phrasebook.Proofs.ClassSource.Unbroken

/-!
# The lines that declare something

Constants, methods and the remark that refers to a method each begin in a way of their own.  Every
other line of a class, whatever text it shows, begins in a way that clashes with all three:

* `Mark`, `Mark.opening` — the three ways to begin;
* `Unmarked`, `unmarked_of_clash` — the other lines;
* `unmarked_openLines`, `unmarked_initLines` — those that begin with an option;
* `filter_lines` — the lines of a class with a mark are those of its entries, in order;
* `methodsOf_lines` — the methods among them, with their bodies.
-/

namespace Phrasebook

open Phrasebook.CSharp Phrasebook.Text

namespace ClassSource

/-- What the lines that count are for. -/
inductive Mark where
  | constant
  | method
  | remark
  deriving DecidableEq, Repr

namespace Mark

/-- How such a line begins. -/
def opening : Mark → Text
  | .constant => constantOpening
  | .method => methodOpening
  | .remark => remarkOpening

/-- As much of it as no other line begins with. -/
def head : Mark → List Char
  | .constant => List.replicate 12 ' ' ++ ['p', 'u', 'b', 'l', 'i', 'c', ' ']
  | .method =>
    List.replicate 8 ' ' ++ ['p', 'u', 'b', 'l', 'i', 'c', ' ', 's', 't', 'a', 't', 'i', 'c', ' ', 's']
  | .remark => List.replicate 8 ' ' ++ ['/', '/', '/', ' ', '<', 'r']

theorem opening_begins (m : Mark) : ofChars m.head <+: m.opening := by
  have hprefix : ofChars m.head <+: m.opening ++ [] := by
    cases m with
    | constant => exact prefix_of_isPrefixOf (by decide) []
    | method => exact prefix_of_isPrefixOf (by decide) []
    | remark => exact prefix_of_isPrefixOf (by decide) []
  rwa [List.append_nil] at hprefix

end Mark

/-- A text that begins like no mark. -/
def clashes (t : List Char) : Bool :=
  clash (Mark.head .constant) t && clash (Mark.head .method) t && clash (Mark.head .remark) t

/-- A line without a mark. -/
def Unmarked (line : Text) : Prop :=
  ∀ m : Mark, ¬ m.opening <+: line

theorem clash_of_clashes {t : List Char} (h : clashes t = true) (m : Mark) :
    clash m.head t = true := by
  rw [clashes, Bool.and_eq_true, Bool.and_eq_true] at h
  cases m with
  | constant => exact h.1.1
  | method => exact h.1.2
  | remark => exact h.2

/-- **What begins like no mark is unmarked**, however it goes on. -/
theorem unmarked_of_clash {t : List Char} (h : clashes t = true) (rest : Text) :
    Unmarked (ofString (String.ofList t) ++ rest) := by
  intro m hm
  exact not_prefix_of_clash (clash_of_clashes h m) rest (m.opening_begins.trans hm)

theorem unmarked_ofList {t : List Char} (h : clashes t = true) :
    Unmarked (ofString (String.ofList t)) := by
  have hline := unmarked_of_clash h []
  rwa [List.append_nil] at hline

theorem unmarked_nil : Unmarked [] := by
  intro m hm
  have hhead := m.opening_begins.trans hm
  rw [List.prefix_nil] at hhead
  cases m with
  | constant => exact absurd hhead (by decide)
  | method => exact absurd hhead (by decide)
  | remark => exact absurd hhead (by decide)

/-! ### Sections without marks -/

theorem unmarked_headerLines (entries : List Entry) :
    ∀ line ∈ plain (headerLines entries), Unmarked line := by
  rw [plain, List.forall_mem_map, headerLines, List.forall_mem_append, List.forall_mem_append]
  refine ⟨⟨?_, ?_⟩, ?_⟩
  · simp only [List.forall_mem_cons]
    and_intros
    all_goals first | exact unmarked_ofList (by decide) | exact List.forall_mem_nil _
  · split
    · rw [List.forall_mem_singleton]
      exact unmarked_ofList (by decide)
    · exact List.forall_mem_nil _
  · simp only [List.forall_mem_cons]
    and_intros
    all_goals first
      | exact unmarked_ofList (by decide) | exact unmarked_nil | exact List.forall_mem_nil _

/-- The line that opens the class begins with one of the known modifiers. -/
theorem unmarked_classLine {o : ClassOptions} (ho : o.Resolved) (rest : Text) :
    Unmarked (ofString "    " ++ (ofString o.modifiers ++ (ofString " class " ++ rest))) := by
  have hwords : ∀ word ∈ classModifiers, clashes ("    ".toList ++ word.toList) = true := by
    decide +kernel
  obtain ⟨list, hne, hlist, heq⟩ := ho.modifiers
  rw [heq]
  cases list with
  | nil => exact absurd rfl hne
  | cons word others =>
    obtain ⟨tail, htail⟩ := join_cons " " word others
    have hline := unmarked_of_clash (hwords word (hlist word List.mem_cons_self))
      (ofString tail ++ (ofString " class " ++ rest))
    rw [htail, ofString_append, List.append_assoc, ← List.append_assoc, ← ofString_append]
    rw [String.ofList_append, String.ofList_toList, String.ofList_toList] at hline
    exact hline

theorem unmarked_openLines {o : ClassOptions} (ho : o.Resolved) :
    ∀ line ∈ plain (openLines o), Unmarked line := by
  rw [plain, List.forall_mem_map, openLines]
  simp only [List.forall_mem_cons, ofString_append, List.append_assoc]
  and_intros
  all_goals first
    | exact unmarked_of_clash (by decide) _ | exact unmarked_ofList (by decide)
    | exact unmarked_classLine ho _ | exact unmarked_nil | exact List.forall_mem_nil _

/-- The line that begins with the class name does not go on with a space. -/
theorem unmarked_translationsLine {o : ClassOptions} (ho : o.Resolved) (rest : Text) :
    Unmarked (ofString "            " ++ (ofString o.className ++ .char '.' :: rest)) := by
  intro m hm
  have hhead := m.opening_begins.trans hm
  cases m with
  | constant =>
    -- behind the class name stands a dot, but behind `public` a space
    have hpublic : ofChars ['p', 'u', 'b', 'l', 'i', 'c', ' '] <+:
        ofString o.className ++ .char '.' :: rest :=
      (List.prefix_append_right_inj (ofString "            ")).mp hhead
    have hname := prefix_of_prefix_append_cons (by decide) hpublic
    have hspace : Point.char ' ' ∈ ofString o.className := hname.subset (by decide)
    obtain ⟨c, hc, hspace⟩ := List.mem_map.mp hspace
    have hplain := mem_of_isPlainIdentifier ho.className_plain c hc
    rw [Point.char.inj hspace] at hplain
    exact absurd hplain (by decide)
  | method => exact not_prefix_of_clash (by decide) _ hhead
  | remark => exact not_prefix_of_clash (by decide) _ hhead

theorem unmarked_initLines {o : ClassOptions} (ho : o.Resolved) :
    ∀ line ∈ plain (initLines o), Unmarked line := by
  rw [plain, List.forall_mem_map, initLines]
  simp only [List.forall_mem_cons, ofString_append, List.append_assoc]
  and_intros
  all_goals first
    | exact unmarked_ofList (by decide) | exact unmarked_translationsLine ho _
    | exact List.forall_mem_nil _

theorem unmarked_closeLines : ∀ line ∈ plain closeLines, Unmarked line := by
  rw [plain, List.forall_mem_map, closeLines]
  simp only [List.forall_mem_cons]
  exact ⟨unmarked_ofList (by decide), unmarked_ofList (by decide), List.forall_mem_nil _⟩

/-! ### The lines of an entry -/

/-- The line that declares the constant of an entry. -/
def constantLine (e : Entry) : Text :=
  constantOpening ++ ofString e.method ++ ofString " = " ++ StringLiteral.encode e.key
    ++ ofString ";"

/-- The line that refers to the method of an entry. -/
def remarkLine (e : Entry) : Text :=
  remarkOpening ++ ofString e.method ++ remarkClosing

/-- A line with a mark has no other one. -/
theorem prefix_opening_iff (m n : Mark) (rest : Text) : m.opening <+: n.opening ++ rest ↔ m = n := by
  constructor
  · intro h
    have hhead := m.opening_begins.trans h
    cases m with
    | constant =>
      cases n with
      | constant => rfl
      | method => exact absurd hhead (not_prefix_of_clash (by decide) rest)
      | remark => exact absurd hhead (not_prefix_of_clash (by decide) rest)
    | method =>
      cases n with
      | constant => exact absurd hhead (not_prefix_of_clash (by decide) rest)
      | method => rfl
      | remark => exact absurd hhead (not_prefix_of_clash (by decide) rest)
    | remark =>
      cases n with
      | constant => exact absurd hhead (not_prefix_of_clash (by decide) rest)
      | method => exact absurd hhead (not_prefix_of_clash (by decide) rest)
      | remark => rfl
  · rintro rfl
    exact List.prefix_append _ _

theorem filter_unmarked {lines : List Text} (h : ∀ line ∈ lines, Unmarked line) (m : Mark) :
    lines.filter m.opening.isPrefixOf = [] := by
  rw [List.filter_eq_nil_iff]
  intro line hline hm
  exact h line hline m (List.isPrefixOf_iff_prefix.mp hm)

theorem filter_marked (m n : Mark) (rest : Text) :
    [n.opening ++ rest].filter m.opening.isPrefixOf = if m = n then [n.opening ++ rest] else [] := by
  by_cases h : m = n
  · have hp : m.opening.isPrefixOf (n.opening ++ rest) = true :=
      List.isPrefixOf_iff_prefix.mpr ((prefix_opening_iff m n rest).mpr h)
    rw [if_pos h, List.filter_cons_of_pos hp, List.filter_nil]
  · have hp : ¬ m.opening.isPrefixOf (n.opening ++ rest) = true :=
      fun hp => h ((prefix_opening_iff m n rest).mp (List.isPrefixOf_iff_prefix.mp hp))
    rw [if_neg h, List.filter_cons_of_neg hp, List.filter_nil]

/-! ### Sections with marks -/

theorem keyConstantLines_eq (e : Entry) :
    ∃ comment, Unmarked comment ∧ keyConstantLines e = [comment, constantLine e] := by
  refine ⟨_, ?_, rfl⟩
  rw [List.append_assoc]
  exact unmarked_of_clash (by decide) _

theorem constantLine_eq (e : Entry) : ∃ rest, constantLine e = Mark.constant.opening ++ rest := by
  unfold constantLine
  rw [List.append_assoc, List.append_assoc, List.append_assoc]
  exact ⟨_, rfl⟩

theorem filter_keyConstantLines (e : Entry) (m : Mark) :
    (keyConstantLines e).filter m.opening.isPrefixOf =
      if m = .constant then [constantLine e] else [] := by
  obtain ⟨comment, hcomment, hlines⟩ := keyConstantLines_eq e
  obtain ⟨rest, hrest⟩ := constantLine_eq e
  have hnone := filter_unmarked (List.forall_mem_singleton.mpr hcomment) m
  rw [hlines, hrest, ← List.singleton_append, List.filter_append, hnone, filter_marked,
    List.nil_append]

/-- **The constants of a class** are the ones of its entries. -/
theorem filter_keyConstantsLines (entries : List Entry) (m : Mark) :
    (keyConstantsLines entries).filter m.opening.isPrefixOf =
      if m = .constant then entries.map constantLine else [] := by
  fun_induction keyConstantsLines entries with
  | case1 => simp only [List.filter_nil, List.map_nil, ite_self]
  | case2 e => rw [filter_keyConstantLines, List.map_singleton]
  | case3 e rest _ ih =>
    have hempty := filter_unmarked (List.forall_mem_singleton.mpr unmarked_nil) m
    rw [← List.singleton_append, List.filter_append, List.filter_append, filter_keyConstantLines,
      hempty, List.nil_append, ih, List.map_cons]
    split
    · rfl
    · rfl

theorem filter_keyLines (entries : List Entry) (m : Mark) :
    (keyLines entries).filter m.opening.isPrefixOf =
      if m = .constant then entries.map constantLine else [] := by
  rw [keyLines, List.filter_append, List.filter_append, filter_keyConstantsLines,
    filter_unmarked ?_ m, filter_unmarked ?_ m, List.nil_append, List.append_nil]
  · rw [plain, List.forall_mem_map]
    simp only [List.forall_mem_cons]
    exact ⟨unmarked_ofList (by decide), unmarked_nil, unmarked_nil, List.forall_mem_nil _⟩
  · rw [plain, List.forall_mem_map]
    simp only [List.forall_mem_cons, ofString_append]
    and_intros
    all_goals first
      | exact unmarked_of_clash (by decide) _ | exact unmarked_ofList (by decide)
      | exact List.forall_mem_nil _

/-- The comments of a method are unmarked, whatever text they show. -/
theorem unmarked_comments (e : Entry) :
    ∀ line ∈ [] :: summaryLine e :: plain (e.placeholders.map parameterLine), Unmarked line := by
  rw [List.forall_mem_cons, List.forall_mem_cons, plain, List.forall_mem_map, List.forall_mem_map]
  refine ⟨unmarked_nil, ?_, fun p _ => ?_⟩
  · rw [summaryLine, List.append_assoc]
    exact unmarked_of_clash (by decide) _
  · unfold parameterLine
    simp only [ofString_append, List.append_assoc]
    exact unmarked_of_clash (by decide) _

/-- The body of a method is unmarked. -/
theorem unmarked_body (o : ClassOptions) (e : Entry) :
    ∀ line ∈ [ofString "        \x7b", callLine o e, ofString "        \x7d"], Unmarked line := by
  have hcall : Unmarked (callLine o e) := by
    simp only [callLine, List.append_assoc]
    exact unmarked_of_clash (by decide) _
  simp only [List.forall_mem_cons]
  exact ⟨unmarked_ofList (by decide), hcall, unmarked_ofList (by decide), List.forall_mem_nil _⟩

theorem declarationLine_eq (e : Entry) :
    ∃ rest, ofString (declarationLine e) = Mark.method.opening ++ rest := by
  unfold declarationLine
  simp only [ofString_append, List.append_assoc]
  exact ⟨_, rfl⟩

theorem filter_accessorLines (o : ClassOptions) (e : Entry) (m : Mark) :
    (accessorLines o e).filter m.opening.isPrefixOf =
      if m = .method then [ofString (declarationLine e)] else [] := by
  obtain ⟨rest, hrest⟩ := declarationLine_eq e
  rw [accessorLines_eq, List.filter_append, filter_unmarked (unmarked_comments e) m,
    ← List.singleton_append, List.filter_append, filter_unmarked (unmarked_body o e) m, hrest,
    filter_marked, List.nil_append, List.append_nil]

/-- **The methods of a class** are the ones of its entries. -/
theorem filter_methods (o : ClassOptions) (entries : List Entry) (m : Mark) :
    (entries.flatMap (accessorLines o)).filter m.opening.isPrefixOf =
      if m = .method then entries.map fun e => ofString (declarationLine e) else [] := by
  induction entries with
  | nil => simp only [List.flatMap_nil, List.filter_nil, List.map_nil, ite_self]
  | cons e rest ih =>
    rw [List.flatMap_cons, List.filter_append, filter_accessorLines, ih, List.map_cons]
    split
    · rfl
    · rfl

theorem filter_lookupLines (o : ClassOptions) (entries : List Entry) (m : Mark) :
    (plain (lookupLines o entries)).filter m.opening.isPrefixOf =
      if m = .remark then ((example? entries).map remarkLine).toList else [] := by
  have hremark : (plain ((example? entries).map fun e =>
      "        /// <remarks>You should usually use a strongly-typed method like <see cref=\""
        ++ e.method ++ "\" /> instead.</remarks>").toList).filter m.opening.isPrefixOf =
      if m = .remark then ((example? entries).map remarkLine).toList else [] := by
    cases example? entries with
    | none => simp only [plain, Option.map_none, Option.toList_none, List.map_nil, List.filter_nil,
        ite_self]
    | some e =>
      simp only [plain, Option.map_some, Option.toList_some, List.map_singleton, ofString_append,
        List.append_assoc, remarkLine]
      exact filter_marked m .remark _
  rw [lookupLines, plain_append, plain_append, List.filter_append, List.filter_append, hremark,
    filter_unmarked ?_ m, filter_unmarked ?_ m, List.nil_append, List.append_nil]
  · rw [plain, List.forall_mem_map]
    simp only [List.forall_mem_cons, ofString_append, List.append_assoc]
    and_intros
    all_goals first
      | exact unmarked_of_clash (by decide) _ | exact unmarked_ofList (by decide)
      | exact unmarked_nil | exact List.forall_mem_nil _
  · rw [plain, List.forall_mem_map]
    simp only [List.forall_mem_cons, ofString_append, List.append_assoc]
    and_intros
    all_goals first
      | exact unmarked_of_clash (by decide) _ | exact unmarked_ofList (by decide)
      | exact unmarked_nil | exact List.forall_mem_nil _

/-- **Nothing else in a class looks like a constant, a method or the remark.**  The lines with a
mark are those of its entries, in order, whatever keys and texts these have. -/
theorem filter_lines {o : ClassOptions} (ho : o.Resolved) (entries : List Entry) (m : Mark) :
    (lines o entries).filter m.opening.isPrefixOf =
      match m with
      | .constant => entries.map constantLine
      | .method => entries.map fun e => ofString (declarationLine e)
      | .remark => ((example? entries).map remarkLine).toList := by
  -- only the sections of the keys, the methods and the lookup method have lines with a mark
  simp only [lines_eq, List.filter_append]
  rw [filter_unmarked (unmarked_headerLines entries) m, filter_unmarked (unmarked_openLines ho) m,
    filter_keyLines, filter_unmarked (unmarked_initLines ho) m, filter_methods, filter_lookupLines,
    filter_unmarked unmarked_closeLines m]
  cases m with
  | constant => simp
  | method => simp
  | remark => simp

/-! ### Methods with their bodies -/

theorem not_prefix_of_filter {lines : List Text} {m : Mark}
    (h : lines.filter m.opening.isPrefixOf = []) : ∀ line ∈ lines, ¬ m.opening <+: line := by
  intro line hline hp
  exact List.filter_eq_nil_iff.mp h line hline (List.isPrefixOf_iff_prefix.mpr hp)

theorem methodsOf_append (o : ClassOptions) {before : List Text}
    (h : ∀ line ∈ before, ¬ methodOpening <+: line) (rest : List Text) :
    methodsOf o (before ++ rest) = methodsOf o rest := by
  induction before with
  | nil => rfl
  | cons line before ih =>
    rw [List.forall_mem_cons] at h
    have hline : ¬ methodOpening.isPrefixOf line = true :=
      fun hp => h.1 (List.isPrefixOf_iff_prefix.mp hp)
    rw [List.cons_append, methodsOf, if_neg hline]
    exact ih h.2

theorem methodsOf_accessorLines (o : ClassOptions) {e : Entry} (h : e.Sound) (rest : List Text) :
    methodsOf o (accessorLines o e ++ rest) = some (methodOf e) :: methodsOf o rest := by
  obtain ⟨tail, htail⟩ := declarationLine_eq e
  have hmarked : methodOpening.isPrefixOf (ofString (declarationLine e)) = true := by
    rw [List.isPrefixOf_iff_prefix, htail]
    exact List.prefix_append _ _
  rw [accessorLines_eq, List.append_assoc,
    methodsOf_append o (fun line hline => unmarked_comments e line hline .method)]
  rw [List.cons_append, methodsOf, if_pos hmarked,
    methodsOf_append o (fun line hline => unmarked_body o e line hline .method)]
  exact congrArg (· :: methodsOf o rest) (readBody_eq o h)

theorem methodsOf_flatMap (o : ClassOptions) {entries : List Entry} (h : ∀ e ∈ entries, e.Sound)
    (rest : List Text) : methodsOf o (entries.flatMap (accessorLines o) ++ rest) =
      entries.map (fun e => some (methodOf e)) ++ methodsOf o rest := by
  induction entries with
  | nil => rfl
  | cons e others ih =>
    rw [List.forall_mem_cons] at h
    rw [List.flatMap_cons, List.append_assoc, methodsOf_accessorLines o h.1, ih h.2, List.map_cons,
      List.cons_append]

/-- **The methods that a class declares** are those of its entries, in order. -/
theorem methodsOf_lines {o : ClassOptions} (ho : o.Resolved) {entries : List Entry}
    (h : ∀ e ∈ entries, e.Sound) :
    methodsOf o (lines o entries ++ [[]]) = entries.map fun e => some (methodOf e) := by
  have hkeys := not_prefix_of_filter (filter_keyLines entries .method)
  have hlookup := not_prefix_of_filter (filter_lookupLines o entries .method)
  simp only [lines_eq, List.append_assoc]
  rw [methodsOf_append o fun line hline => unmarked_headerLines entries line hline .method,
    methodsOf_append o fun line hline => unmarked_openLines ho line hline .method,
    methodsOf_append o hkeys,
    methodsOf_append o fun line hline => unmarked_initLines ho line hline .method,
    methodsOf_flatMap o h, methodsOf_append o hlookup,
    methodsOf_append o fun line hline => unmarked_closeLines line hline .method]
  exact List.append_nil _

/-! ### Constants and the remark -/

/-- **The constant of an entry holds its key.** -/
theorem readConstant_constantLine {e : Entry} (h : e.Sound) :
    readConstant (constantLine e) = some (e.method, e.key) := by
  have hequals : Spells (ofString " = ") [.sign '='] := spells_ofList (by decide +kernel)
  have hend : Spells (ofString ";") [.sign ';'] := spells_ofList (by decide +kernel)
  have hname := h.spellsOpen_method.append (by decide) hequals
  have hline : Spells (ofString e.method ++ ofString " = " ++ StringLiteral.encode e.key
      ++ ofString ";") [.identifier e.method, .sign '=', .literal e.key, .sign ';'] :=
    (hname.append (spells_encode e.key)).append hend
  have htext : constantLine e = constantOpening ++ (ofString e.method ++ ofString " = "
      ++ StringLiteral.encode e.key ++ ofString ";") ++ [] := by
    simp only [constantLine, List.append_assoc, List.append_nil]
  rw [readConstant, htext, enclosed?_append, Option.bind_some, hline.lexemes?_eq]
  rfl

/-- A line that is empty has no mark, so the tail behind the last line end does not count. -/
theorem filter_tail (lines : List Text) (m : Mark) :
    (lines ++ [[]]).filter m.opening.isPrefixOf = lines.filter m.opening.isPrefixOf := by
  rw [List.filter_append, filter_unmarked (List.forall_mem_singleton.mpr unmarked_nil) m,
    List.append_nil]

/-- **The constants that a class declares** hold the keys of its entries, in order. -/
theorem constantsOf_lines {o : ClassOptions} (ho : o.Resolved) {entries : List Entry}
    (h : ∀ e ∈ entries, e.Sound) :
    constantsOf (lines o entries ++ [[]]) = entries.map fun e => some (e.method, e.key) := by
  have hfilter := (filter_tail (lines o entries) .constant).trans (filter_lines ho entries .constant)
  rw [constantsOf, show constantOpening = Mark.constant.opening from rfl, hfilter, List.map_map]
  exact List.map_congr_left fun e he => readConstant_constantLine (h e he)

/-- **The remark of a class** refers to the method of one of its entries. -/
theorem remarksOf_lines {o : ClassOptions} (ho : o.Resolved) (entries : List Entry) :
    remarksOf (lines o entries ++ [[]]) =
      ((example? entries).map fun e => some (ofString e.method)).toList := by
  have hfilter := (filter_tail (lines o entries) .remark).trans (filter_lines ho entries .remark)
  rw [remarksOf, show remarkOpening = Mark.remark.opening from rfl, hfilter]
  cases example? entries with
  | none => rfl
  | some e =>
    have hread : enclosed? remarkOpening remarkClosing (remarkLine e) = some (ofString e.method) :=
      enclosed?_append _ _ _
    simp only [Option.map_some, Option.toList_some, List.map_singleton]
    exact congrArg (fun read => [read]) hread

end ClassSource

end Phrasebook
