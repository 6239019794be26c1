import Phrasebook.Proofs.ClassSource.Marked

/-!
# What is declared at which depth

In a generated class what is declared directly in a namespace or in a class is indented by the same
number of spaces, and its line begins with a small letter.  Comments, braces and attributes do not
begin so, and the lines of bodies are indented more:

* `bodyLines`, `source_eq` — the lines behind the one that names the namespace;
* `methodsOf_bodyLines` — the methods among these lines;
* `opensAt`, `declarations` — the lines that declare something, with their depths;
* `Quiet`, `declarations_of_quiet`, `declarations_declaring` — the other lines, and these;
* `declarations_bodyLines` — **all that a class declares** at these depths.
-/

namespace Phrasebook

open Phrasebook.CSharp Phrasebook.Text

namespace ClassSource

/-! ### Behind the namespace -/

/-- The line that names the namespace. -/
def namespaceLine (name : String) : Text :=
  ofString ("namespace " ++ name)

/-- The lines behind it. -/
def bodyLines (o : ClassOptions) (entries : List Entry) : List Text :=
  plain (openLines o).tail ++ keyLines entries ++ plain (initLines o)
    ++ entries.flatMap (accessorLines o) ++ plain (lookupLines o entries) ++ plain closeLines

theorem lines_eq_namespace (o : ClassOptions) (entries : List Entry) :
    lines o entries =
      plain (headerLines entries) ++ namespaceLine o.namespaceName :: bodyLines o entries := by
  rw [lines_eq, bodyLines]
  simp only [List.append_assoc]
  rfl

/-- **The namespace stands between two parts** of a source that it has no part in. -/
theorem source_eq (o : ClassOptions) (entries : List Entry) :
    source o entries = unlines (plain (headerLines entries)) ++ namespaceLine o.namespaceName
      ++ .char '\n' :: unlines (bodyLines o entries) := by
  rw [source, lines_eq_namespace, unlines, List.flatMap_append, List.flatMap_cons,
    List.append_assoc, List.append_assoc]
  rfl

variable {o : ClassOptions}

/-- **The methods of a class** stand behind the namespace. -/
theorem methodsOf_bodyLines (ho : o.Resolved) {entries : List Entry}
    (h : ∀ e ∈ entries, e.Sound) :
    methodsOf o (bodyLines o entries ++ [[]]) = entries.map fun e => some (methodOf e) := by
  have hline : Unmarked (namespaceLine o.namespaceName) :=
    unmarked_openLines ho _ (List.mem_cons_self)
  have hbefore : ∀ line ∈ plain (headerLines entries) ++ [namespaceLine o.namespaceName],
      Unmarked line :=
    List.forall_mem_append.mpr
      ⟨unmarked_headerLines entries, List.forall_mem_singleton.mpr hline⟩
  have hlines : lines o entries = plain (headerLines entries) ++ [namespaceLine o.namespaceName]
      ++ bodyLines o entries := by
    rw [lines_eq_namespace, List.append_cons]
  rw [← methodsOf_lines ho h, hlines, List.append_assoc]
  exact (methodsOf_append o (fun line hmem => hbefore line hmem .method) _).symm

/-- The lines behind the namespace come back, whatever the namespace is. -/
theorem splitOn_bodyLines (ho : o.Resolved) {entries : List Entry} (h : ∀ e ∈ entries, e.Sound) :
    (unlines (bodyLines o entries)).splitOn (.char '\n') = bodyLines o entries ++ [[]] := by
  -- they are the same with another namespace, which is on one line
  have hother : ClassOptions.Resolved { o with namespaceName := defaultNamespace } :=
    ⟨ho.className_plain, ho.className_free, ho.modifiers⟩
  refine splitOn_unlines fun line hline => ?_
  refine unbroken_lines (hother.oneLine (unbroken_ofList (by decide))) h line ?_
  rw [lines_eq_namespace]
  exact List.mem_append_right _ (List.mem_cons_of_mem _ hline)

/-! ### Lines that declare something -/

/-- Whether a line is indented by a number of spaces and goes on with a small ASCII letter. -/
def opensAt : Nat → Text → Bool
  | 0, .char c :: _ => c.isLower
  | depth + 1, p :: rest => p == .char ' ' && opensAt depth rest
  | _, _ => false

/-- The depths of namespaces, of classes and of their members. -/
def depths : List Nat := [0, 4, 8]

/-- The lines that declare something at these depths, each with its depth. -/
def declarations (lines : List Text) : List (Nat × Text) :=
  lines.flatMap fun line => (depths.filter (opensAt · line)).map (·, line)

theorem declarations_append (lines others : List Text) :
    declarations (lines ++ others) = declarations lines ++ declarations others :=
  List.flatMap_append

theorem mem_declarations {lines : List Text} {line : Text} {depth : Nat} (hline : line ∈ lines)
    (hdepth : depth ∈ depths) (hopens : opensAt depth line = true) :
    (depth, line) ∈ declarations lines :=
  List.mem_flatMap.mpr ⟨line, hline, List.mem_map_of_mem (List.mem_filter.mpr ⟨hdepth, hopens⟩)⟩

/-- Whether a line opens at a depth, as far as its beginning settles this. -/
def settled : Nat → List Char → Option Bool
  | 0, c :: _ => some c.isLower
  | depth + 1, c :: rest => if c = ' ' then settled depth rest else some false
  | _, [] => none

theorem opensAt_of_settled {t : List Char} {opens : Bool} :
    ∀ {depth : Nat}, settled depth t = some opens → ∀ rest : Text,
      opensAt depth (ofString (String.ofList t) ++ rest) = opens := by
  rw [ofString, String.toList_ofList]
  induction t with
  | nil =>
    intro depth h
    cases depth <;> exact absurd h (by simp [settled])
  | cons c tail ih =>
    intro depth h rest
    cases depth with
    | zero => exact Option.some.inj h
    | succ depth =>
      show (Point.char c == .char ' ' && opensAt depth (ofChars tail ++ rest)) = opens
      rw [settled] at h
      split at h
      · rename_i hspace
        rw [hspace, ih h rest]
        rfl
      · rename_i hspace
        rw [Option.some.injEq] at h
        rw [← h, beq_false_of_ne fun heq => hspace (Point.char.inj heq), Bool.false_and]

/-- A line that declares nothing at these depths. -/
def Quiet (line : Text) : Prop :=
  ∀ depth ∈ depths, opensAt depth line = false

theorem quiet_nil : Quiet [] := by
  intro depth _
  cases depth <;> rfl

/-- What its beginning settles about a line does not depend on how it goes on. -/
theorem quiet_of_settled {t : List Char} (h : ∀ depth ∈ depths, settled depth t = some false)
    (rest : Text) : Quiet (ofString (String.ofList t) ++ rest) :=
  fun depth hdepth => opensAt_of_settled (h depth hdepth) rest

theorem quiet_ofList {t : List Char} (h : ∀ depth ∈ depths, settled depth t = some false) :
    Quiet (ofString (String.ofList t)) := by
  have hline := quiet_of_settled h []
  rwa [List.append_nil] at hline

theorem declarations_of_quiet {lines : List Text} (h : ∀ line ∈ lines, Quiet line) :
    declarations lines = [] := by
  rw [declarations, List.flatMap_eq_nil_iff]
  intro line hline
  rw [List.map_eq_nil_iff, List.filter_eq_nil_iff]
  intro depth hdepth
  rw [h line hline depth hdepth]
  exact Bool.false_ne_true

/-- A line that opens at one of the depths and at no other one. -/
theorem declarations_declaring {t : List Char} {depth : Nat}
    (hdepth : depths.filter (· == depth) = [depth])
    (h : ∀ d ∈ depths, settled d t = some (d == depth)) (rest : Text) :
    declarations [ofString (String.ofList t) ++ rest] =
      [(depth, ofString (String.ofList t) ++ rest)] := by
  have hopens : depths.filter (opensAt · (ofString (String.ofList t) ++ rest)) = [depth] := by
    rw [← hdepth]
    exact List.filter_congr fun d hd => opensAt_of_settled (h d hd) rest
  rw [declarations, List.flatMap_singleton, hopens]
  rfl

theorem declarations_ofList {t : List Char} {depth : Nat}
    (hdepth : depths.filter (· == depth) = [depth])
    (h : ∀ d ∈ depths, settled d t = some (d == depth)) :
    declarations [ofString (String.ofList t)] = [(depth, ofString (String.ofList t))] := by
  have hline := declarations_declaring hdepth h []
  rwa [List.append_nil] at hline

/-- Lines of which one declares something. -/
theorem declarations_between {before after : List Text} {line : Text} {depth : Nat}
    (hbefore : ∀ l ∈ before, Quiet l) (hline : declarations [line] = [(depth, line)])
    (hafter : ∀ l ∈ after, Quiet l) :
    declarations (before ++ line :: after) = [(depth, line)] := by
  rw [← List.singleton_append, declarations_append, declarations_append,
    declarations_of_quiet hbefore, hline, declarations_of_quiet hafter]
  rfl

/-! ### The sections -/

/-- The line that declares the class. -/
def classLine (o : ClassOptions) : Text :=
  ofString ("    " ++ o.modifiers ++ " class " ++ o.className)

/-- The line that declares the field for the helper. -/
def fieldLine : Text :=
  ofString "        private static ITranslationHelper? Translations;"

/-- The line that declares the nested class of the keys. -/
def keysLine : Text :=
  ofString "        public static class Keys"

/-- The line that declares the method that takes the helper. -/
def initLine : Text :=
  ofString "        public static void Init(ITranslationHelper translations)"

/-- The line that declares the lookup method. -/
def lookupLine : Text :=
  ofString "        public static Translation GetByKey(string key, object? tokens = null)"

/-- A class begins with one of the known modifiers, which begin with a small letter. -/
theorem declarations_classLine (ho : o.Resolved) :
    declarations [classLine o] = [(4, classLine o)] := by
  have hwords : ∀ word ∈ classModifiers, ∀ d ∈ depths,
      settled d ("    ".toList ++ word.toList) = some (d == 4) := by
    decide
  obtain ⟨list, hne, hlist, heq⟩ := ho.modifiers
  cases list with
  | nil => exact absurd rfl hne
  | cons word others =>
    obtain ⟨tail, htail⟩ := join_cons " " word others
    have hline := declarations_declaring (by decide) (hwords word (hlist word List.mem_cons_self))
      (ofString tail ++ (ofString " class " ++ ofString o.className))
    rw [String.ofList_append, String.ofList_toList, String.ofList_toList] at hline
    rw [classLine, heq, htail]
    simp only [ofString_append, List.append_assoc] at hline ⊢
    exact hline

theorem declarations_openLines (ho : o.Resolved) :
    declarations (plain (openLines o).tail) = [(4, classLine o), (8, fieldLine)] := by
  have hattributes : ∀ line ∈ plain ((openLines o).tail.take 5), Quiet line := by
    rw [plain, List.forall_mem_map, openLines]
    simp only [List.tail_cons, List.take_succ_cons, List.take_zero, List.forall_mem_cons,
      ofString_append]
    and_intros
    all_goals first
      | exact quiet_of_settled (by decide) _ | exact quiet_ofList (by decide)
      | exact List.forall_mem_nil _
  have hfields : ∀ line ∈ plain (((openLines o).tail.drop 6).take 5), Quiet line := by
    rw [plain, List.forall_mem_map, openLines]
    simp only [List.tail_cons, List.drop_succ_cons, List.drop_zero, List.take_succ_cons,
      List.take_zero, List.forall_mem_cons]
    and_intros
    all_goals first | exact quiet_ofList (by decide) | exact List.forall_mem_nil _
  have hend : ∀ line ∈ ([[], []] : List Text), Quiet line := by
    simp only [List.forall_mem_cons]
    exact ⟨quiet_nil, quiet_nil, List.forall_mem_nil _⟩
  have hclass := declarations_between hattributes (declarations_classLine ho)
    (List.forall_mem_nil Quiet)
  have hfield : declarations [fieldLine] = [(8, fieldLine)] :=
    declarations_ofList (by decide) (by decide)
  have hsplit : plain (openLines o).tail = plain ((openLines o).tail.take 5) ++ [classLine o]
      ++ (plain (((openLines o).tail.drop 6).take 5) ++ fieldLine :: [[], []]) := rfl
  rw [hsplit, declarations_append, hclass, declarations_between hfields hfield hend]
  rfl

/-- The constants are declared in the nested class, and so at another depth. -/
theorem quiet_keyConstantsLines (entries : List Entry) :
    ∀ line ∈ keyConstantsLines entries, Quiet line := by
  have hconstant : ∀ e, ∀ line ∈ keyConstantLines e, Quiet line := by
    intro e
    rw [keyConstantLines]
    simp only [List.forall_mem_cons, List.append_assoc]
    exact ⟨quiet_of_settled (by decide) _, quiet_of_settled (by decide) _, List.forall_mem_nil _⟩
  fun_induction keyConstantsLines entries with
  | case1 => exact List.forall_mem_nil _
  | case2 e => exact hconstant e
  | case3 e rest _ ih =>
    exact List.forall_mem_append.mpr
      ⟨hconstant e, List.forall_mem_cons.mpr ⟨quiet_nil, ih⟩⟩

theorem declarations_keyLines (entries : List Entry) :
    declarations (keyLines entries) = [(8, keysLine)] := by
  have hbefore : ∀ line ∈ (keyLines entries).take 5, Quiet line := by
    show ∀ line ∈ plain [_, _, _, _, _], Quiet line
    rw [plain, List.forall_mem_map]
    simp only [List.forall_mem_cons, ofString_append]
    and_intros
    all_goals first
      | exact quiet_of_settled (by decide) _ | exact quiet_ofList (by decide)
      | exact List.forall_mem_nil _
  have hafter : ∀ line ∈ ofString "        \x7b" :: (keyConstantsLines entries ++
      plain ["        \x7d", "", ""]), Quiet line := by
    rw [List.forall_mem_cons, List.forall_mem_append, plain, List.forall_mem_map]
    simp only [List.forall_mem_cons]
    exact ⟨quiet_ofList (by decide), quiet_keyConstantsLines entries, quiet_ofList (by decide),
      quiet_nil, quiet_nil, List.forall_mem_nil _⟩
  have hsplit : keyLines entries = (keyLines entries).take 5 ++ keysLine ::
      ofString "        \x7b" :: (keyConstantsLines entries ++ plain ["        \x7d", "", ""]) := by
    rw [keyLines, List.append_assoc]
    rfl
  rw [hsplit]
  exact declarations_between hbefore (declarations_ofList (by decide) (by decide)) hafter

theorem declarations_initLines (o : ClassOptions) :
    declarations (plain (initLines o)) = [(8, initLine)] := by
  have hcomments : ∀ line ∈ plain ((initLines o).take 5), Quiet line := by
    rw [plain, List.forall_mem_map, initLines]
    simp only [List.take_succ_cons, List.take_zero, List.forall_mem_cons]
    and_intros
    all_goals first | exact quiet_ofList (by decide) | exact List.forall_mem_nil _
  have hbody : ∀ line ∈ plain ((initLines o).drop 6), Quiet line := by
    rw [plain, List.forall_mem_map, initLines]
    simp only [List.drop_succ_cons, List.drop_zero, List.forall_mem_cons, ofString_append,
      List.append_assoc]
    and_intros
    all_goals first
      | exact quiet_of_settled (by decide) _ | exact quiet_ofList (by decide)
      | exact List.forall_mem_nil _
  exact declarations_between hcomments (declarations_ofList (by decide) (by decide)) hbody

/-- The method of an entry declares its name, whatever text its comments show. -/
theorem declarations_accessorLines (o : ClassOptions) (e : Entry) :
    declarations (accessorLines o e) = [(8, ofString (declarationLine e))] := by
  have hcomments : ∀ line ∈ [] :: summaryLine e :: plain (e.placeholders.map parameterLine),
      Quiet line := by
    rw [List.forall_mem_cons, List.forall_mem_cons, plain, List.forall_mem_map, List.forall_mem_map]
    refine ⟨quiet_nil, ?_, fun p _ => ?_⟩
    · rw [summaryLine, List.append_assoc]
      exact quiet_of_settled (by decide) _
    · unfold parameterLine
      simp only [ofString_append, List.append_assoc]
      exact quiet_of_settled (by decide) _
  have hbody : ∀ line ∈ [ofString "        \x7b", callLine o e, ofString "        \x7d"],
      Quiet line := by
    simp only [callLine, List.forall_mem_cons, List.append_assoc]
    exact ⟨quiet_ofList (by decide), quiet_of_settled (by decide) _, quiet_ofList (by decide),
      List.forall_mem_nil _⟩
  have hdeclaration : declarations [ofString (declarationLine e)] =
      [(8, ofString (declarationLine e))] := by
    unfold declarationLine
    simp only [ofString_append, List.append_assoc]
    exact declarations_declaring (by decide) (by decide) _
  rw [accessorLines_eq]
  exact declarations_between hcomments hdeclaration hbody

theorem declarations_lookupLines (o : ClassOptions) (entries : List Entry) :
    declarations (plain (lookupLines o entries)) = [(8, lookupLine)] := by
  have hremark : ∀ line ∈ plain ((example? entries).map fun e =>
      "        /// <remarks>You should usually use a strongly-typed method like <see cref=\""
        ++ e.method ++ "\" /> instead.</remarks>").toList, Quiet line := by
    cases example? entries with
    | none => exact List.forall_mem_nil _
    | some e =>
      refine List.forall_mem_singleton.mpr ?_
      rw [ofString_append, ofString_append, List.append_assoc]
      exact quiet_of_settled (by decide) _
  rw [lookupLines, plain_append, plain_append]
  refine declarations_between (List.forall_mem_append.mpr ⟨?_, hremark⟩)
    (declarations_ofList (by decide) (by decide)) ?_
  · rw [plain, List.forall_mem_map]
    simp only [List.forall_mem_cons, ofString_append, List.append_assoc]
    and_intros
    all_goals first
      | exact quiet_of_settled (by decide) _ | exact quiet_ofList (by decide)
      | exact quiet_nil | exact List.forall_mem_nil _
  · rw [List.forall_mem_map]
    simp only [List.forall_mem_cons, ofString_append, List.append_assoc]
    and_intros
    all_goals first
      | exact quiet_of_settled (by decide) _ | exact quiet_ofList (by decide)
      | exact quiet_nil | exact List.forall_mem_nil _

theorem quiet_closeLines : ∀ line ∈ plain closeLines, Quiet line := by
  rw [plain, List.forall_mem_map, closeLines]
  simp only [List.forall_mem_cons]
  exact ⟨quiet_ofList (by decide), quiet_ofList (by decide), List.forall_mem_nil _⟩

/-- **What a class declares**, and at which depths: itself, its field, the class of its keys, the
method that takes the helper, the methods of its entries in order, and the lookup method.  No key
and no text adds anything to this. -/
theorem declarations_bodyLines (ho : o.Resolved) (entries : List Entry) :
    declarations (bodyLines o entries) =
      [(4, classLine o), (8, fieldLine), (8, keysLine), (8, initLine)]
        ++ entries.map (fun e => (8, ofString (declarationLine e))) ++ [(8, lookupLine)] := by
  have hmethods : declarations (entries.flatMap (accessorLines o)) =
      entries.map fun e => (8, ofString (declarationLine e)) := by
    induction entries with
    | nil => rfl
    | cons e rest ih =>
      rw [List.flatMap_cons, declarations_append, declarations_accessorLines, ih]
      rfl
  simp only [bodyLines, declarations_append, declarations_openLines ho, declarations_keyLines,
    declarations_initLines, hmethods, declarations_lookupLines,
    declarations_of_quiet quiet_closeLines, List.append_nil]
  rfl

end ClassSource

end Phrasebook
