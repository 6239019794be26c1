import Phrasebook.Proofs.ClassSource.Reader
import Phrasebook.Proofs.Entry

/-!
# Methods hand their values on

The parameter of a placeholder may have another name than the placeholder, so the expression that
hands the values on says for each name which parameter it takes its value from.  Reading the method
back gives exactly the placeholders with their parameters, in order:

* `memberLexemes`, `itemLexemes`, `parameterLexemes` — what is written for one placeholder;
* `mapM_commaItems` — a list that is read item by item;
* `Entry.Sound.reads_bundle`, `readDeclaration_declarationLine`, `readCall_callLine` — the parts of
  a method, and `readMethod_accessorLines` — the whole method;
* `accessor_passes_placeholders` — the method of any text, and the directive for dictionaries.
-/

namespace Phrasebook

open Phrasebook.CSharp Phrasebook.Naming Phrasebook.Text

namespace ClassSource

/-! ### One placeholder -/

/-- The lexemes of a member of an anonymous object. -/
def memberLexemes (p : Placeholder) : List Lexeme :=
  if unescaped p.parameter = p.key then [.identifier p.parameter]
  else [.identifier (verbatim p.key), .sign '=', .identifier p.parameter]

/-- The lexemes of an item of a dictionary. -/
def itemLexemes (p : Placeholder) : List Lexeme :=
  [.sign '[', .literal p.key, .sign ']', .sign '=', .identifier p.parameter]

/-- The lexemes of a parameter. -/
def parameterLexemes (p : Placeholder) : List Lexeme :=
  [.keyword "object", .sign '?', .identifier p.parameter]

theorem spellsOpen_parameter {p : Placeholder} (h : p.Sound) :
    SpellsOpen (ofString p.parameter) [.identifier p.parameter] := by
  obtain ⟨name, hname, hp⟩ := h.parameter
  rw [hp]
  exact spellsOpen_verbatim hname

theorem spellsOpen_anonymousMember {p : Placeholder} (h : p.Sound)
    (hkey : isBareName p.key = true) : SpellsOpen (anonymousMember p) (memberLexemes p) := by
  unfold anonymousMember memberLexemes
  split
  · exact spellsOpen_parameter h
  · have hequals : Spells (ofString " = ") [.sign '='] := spells_ofList (by decide +kernel)
    have hname := spellsOpen_verbatim (isWord_of_isBareName hkey)
    exact (hname.append (by decide) hequals).append_open
      (spellsOpen_parameter h)

theorem spellsOpen_dictionaryItem {p : Placeholder} (h : p.Sound) :
    SpellsOpen (dictionaryItem p) (itemLexemes p) := by
  have hopen : Spells (ofString "[") [.sign '['] := spells_ofList (by decide +kernel)
  have hclose : Spells (ofString "] = ") [.sign ']', .sign '='] := spells_ofList (by decide +kernel)
  exact ((hopen.append (spells_encode p.key)).append hclose).append_open (spellsOpen_parameter h)

theorem spellsOpen_object {p : Placeholder} (h : p.Sound) :
    SpellsOpen (ofString ("object? " ++ p.parameter)) (parameterLexemes p) := by
  have hobject : Spells (ofString "object? ") [.keyword "object", .sign '?'] :=
    spells_ofList (by decide +kernel)
  rw [ofString_append]
  exact hobject.append_open (spellsOpen_parameter h)

/-- **A member is read as the placeholder's name and its parameter**, whether its own name is
written or it is called like the parameter. -/
theorem readMember_memberLexemes {p : Placeholder} (hkey : isBareName p.key = true) :
    readMember (memberLexemes p) = some (ofString p.key, p.parameter) := by
  unfold memberLexemes
  split
  · rename_i heq
    rw [readMember, heq]
  · rw [readMember, unescaped_verbatim (isWord_of_isBareName hkey)]

/-- **An item is read as the placeholder's name and its parameter.** -/
theorem readItem_itemLexemes (p : Placeholder) :
    readItem (itemLexemes p) = some (ofString p.key, p.parameter) := rfl

theorem readParameter_parameterLexemes (p : Placeholder) :
    readParameter (parameterLexemes p) = some p.parameter := rfl

/-! ### Lists -/

/-- A list is read when its items are read and have no comma in them. -/
theorem mapM_commaItems {α β : Type} {items : List α} {lexemes : α → List Lexeme}
    {read : List Lexeme → Option β} {value : α → β}
    (hitem : ∀ a ∈ items, lexemes a ≠ [] ∧ Lexeme.sign ',' ∉ lexemes a)
    (hread : ∀ a ∈ items, read (lexemes a) = some (value a)) :
    (commaItems ([Lexeme.sign ','].intercalate (items.map lexemes))).mapM read =
      some (items.map value) := by
  rw [commaItems_intercalate (List.forall_mem_map.mpr hitem)]
  induction items with
  | nil => rfl
  | cons a rest ih =>
    rw [List.forall_mem_cons] at hitem hread
    rw [List.map_cons, List.mapM_cons, hread.1, ih hitem.2 hread.2]
    rfl

theorem memberLexemes_item (p : Placeholder) :
    memberLexemes p ≠ [] ∧ Lexeme.sign ',' ∉ memberLexemes p := by
  unfold memberLexemes
  split
  · simp
  · simp

theorem itemLexemes_item (p : Placeholder) :
    itemLexemes p ≠ [] ∧ Lexeme.sign ',' ∉ itemLexemes p := by
  simp [itemLexemes]

theorem parameterLexemes_item (p : Placeholder) :
    parameterLexemes p ≠ [] ∧ Lexeme.sign ',' ∉ parameterLexemes p := by
  simp [parameterLexemes]

/-- A dictionary is no anonymous object. -/
theorem enclosed?_objectOpening_dictionary (l : List Lexeme) :
    enclosed? objectOpening [.sign '\x7d'] (dictionaryOpening ++ l) = none := by
  rw [← Option.not_isSome_iff_eq_none, Option.isSome_iff_exists]
  rintro ⟨inner, h⟩
  have heq := enclosed?_eq_some h
  simp [objectOpening, dictionaryOpening] at heq

end ClassSource

/-! ### The expression of an entry -/

namespace Entry

open ClassSource

/-- The names of the placeholders with their parameters. -/
def pairs (e : Entry) : List (Text × String) :=
  e.placeholders.map fun p => (ofString p.key, p.parameter)

theorem bundle?_eq_none_iff {e : Entry} : e.bundle? = none ↔ e.placeholders = [] := by
  rw [← style_eq_none_iff, bundle?]
  cases e.style with
  | none => exact ⟨fun _ => rfl, fun _ => rfl⟩
  | anonymousObject => exact ⟨fun h => absurd h (by simp), fun h => absurd h (by decide)⟩
  | dictionary => exact ⟨fun h => absurd h (by simp), fun h => absurd h (by decide)⟩

theorem isBareName_of_style {e : Entry} (h : e.style = .anonymousObject) :
    ∀ p ∈ e.placeholders, isBareName p.key = true := by
  intro p hp
  rw [← Bool.not_eq_false]
  intro hbare
  rw [style_eq_dictionary_iff.mpr ⟨p, hp, hbare⟩] at h
  exact absurd h (by decide)

/-- **The expression of a sound entry** hands every name on with its own parameter. -/
theorem Sound.reads_bundle {e : Entry} (h : e.Sound) :
    ∀ bundle ∈ e.bundle?, ∃ l, Spells bundle l ∧ readArguments l = some (e.style, e.pairs) := by
  intro bundle hbundle
  have hend : Spells (ofString " \x7d") [.sign '\x7d'] := spells_ofList (by decide +kernel)
  rw [bundle?, Option.mem_def] at hbundle
  cases hstyle : e.style with
  | none =>
    rw [hstyle] at hbundle
    exact absurd hbundle (by simp)
  | anonymousObject =>
    rw [hstyle, Option.some.injEq] at hbundle
    have hbare := isBareName_of_style hstyle
    have hopening : Spells (ofString "new \x7b ") objectOpening := spells_ofList (by decide +kernel)
    have hmembers := spellsOpen_joinTexts fun p hp =>
      spellsOpen_anonymousMember (h.placeholders p hp) (hbare p hp)
    rw [← hbundle]
    refine ⟨_, (hopening.append_open hmembers).append (by decide) hend, ?_⟩
    rw [readArguments, enclosed?_append]
    simp only
    rw [mapM_commaItems (fun p _ => memberLexemes_item p)
      fun p hp => readMember_memberLexemes (hbare p hp)]
    rfl
  | dictionary =>
    rw [hstyle, Option.some.injEq] at hbundle
    have hopening : Spells (ofString "new Dictionary<string, object?> \x7b ") dictionaryOpening :=
      spells_ofList (by decide +kernel)
    have hitems := spellsOpen_joinTexts fun p hp =>
      spellsOpen_dictionaryItem (h.placeholders p hp)
    rw [← hbundle]
    refine ⟨_, (hopening.append_open hitems).append (by decide) hend, ?_⟩
    rw [readArguments, List.append_assoc, enclosed?_objectOpening_dictionary, ← List.append_assoc,
      enclosed?_append]
    simp only
    rw [mapM_commaItems (fun p _ => itemLexemes_item p) fun p _ => readItem_itemLexemes p]
    rfl

theorem Sound.spellsOpen_method {e : Entry} (h : e.Sound) :
    SpellsOpen (ofString e.method) [.identifier e.method] :=
  spellsOpen_identifier (isWord_of_isMemberName h.method) (not_isKeyword_of_isMemberName h.method)

end Entry

namespace ClassSource

/-! ### The lines of a method -/

/-- The line that declares the method of an entry. -/
def declarationLine (e : Entry) : String :=
  "        public static string " ++ e.method ++ "(" ++ parameterList e.placeholders ++ ")"

theorem accessorLines_eq (o : ClassOptions) (e : Entry) :
    accessorLines o e = ([] :: summaryLine e :: plain (e.placeholders.map parameterLine)) ++
      [ofString (declarationLine e), ofString "        \x7b", callLine o e,
        ofString "        \x7d"] := by
  simp only [accessorLines, plain, List.map_append, List.append_assoc]
  rfl

theorem ofString_parameterList (placeholders : List Placeholder) :
    ofString (parameterList placeholders) =
      joinTexts ", " (placeholders.map fun p => ofString ("object? " ++ p.parameter)) := by
  rw [parameterList, ofString_join, plain, List.map_map]
  rfl

theorem spells_declarationLine {e : Entry} (h : e.Sound) :
    Spells (ofString (declarationLine e))
      ([.keyword "public", .keyword "static", .keyword "string"] ++
        (.identifier e.method :: .sign '(' ::
          [Lexeme.sign ','].intercalate (e.placeholders.map parameterLexemes)) ++
        [.sign ')']) := by
  have htext : ofString (declarationLine e) = ofString "        public static string "
      ++ ofString e.method ++ ofString "(" ++ ofString (parameterList e.placeholders)
      ++ ofString ")" := by
    unfold declarationLine
    simp only [ofString_append]
  have hstatic : Spells (ofString "        public static string ")
      [.keyword "public", .keyword "static", .keyword "string"] := spells_ofList (by decide +kernel)
  have hopen : Spells (ofString "(") [.sign '('] := spells_ofList (by decide +kernel)
  have hclose : Spells (ofString ")") [.sign ')'] := spells_ofList (by decide +kernel)
  have hname := (hstatic.append_open h.spellsOpen_method).append (by decide) hopen
  have hlist := spellsOpen_joinTexts fun p hp => spellsOpen_object (h.placeholders p hp)
  rw [← ofString_parameterList] at hlist
  rw [htext]
  exact (hname.append_open hlist).append (by decide) hclose

/-- **The declaration** has one parameter for each placeholder, in order. -/
theorem readDeclaration_declarationLine {e : Entry} (h : e.Sound) :
    readDeclaration (ofString (declarationLine e)) =
      some (e.method, e.placeholders.map (·.parameter)) := by
  rw [readDeclaration, (spells_declarationLine h).lexemes?_eq, Option.bind_some, enclosed?_append]
  simp only
  rw [mapM_commaItems (fun p _ => parameterLexemes_item p)
    fun p _ => readParameter_parameterLexemes p]
  rfl

/-- **The call** names the constant of the entry and hands on the placeholders, if there are any. -/
theorem readCall_callLine (o : ClassOptions) {e : Entry} (h : e.Sound) :
    readCall o (callLine o e) =
      some (e.method, if e.placeholders = [] then none else some (e.style, e.pairs)) := by
  have hkeys : Spells (ofString "Keys.") [.identifier "Keys", .sign '.'] :=
    spells_ofList (by decide +kernel)
  have hend : Spells (ofString ");") [.sign ')', .sign ';'] := spells_ofList (by decide +kernel)
  have hmethod := hkeys.append_open h.spellsOpen_method
  have hline : callLine o e = callOpening o ++ (ofString "Keys." ++ ofString e.method
      ++ (e.bundle?.elim [] ((", " : Text) ++ ·)) ++ ofString ");") ++ [] := by
    simp only [callLine, callOpening, List.append_assoc, List.append_nil]
    rw [show (".GetByKey(Keys." : String) = ".GetByKey(" ++ "Keys." from rfl, ofString_append,
      List.append_assoc]
  rw [readCall, hline, enclosed?_append, Option.bind_some]
  cases hb : e.bundle? with
  | none =>
    have hcall : Spells (ofString "Keys." ++ ofString e.method ++ ofString ");")
        ([.identifier "Keys", .sign '.'] ++ [.identifier e.method] ++ [.sign ')', .sign ';']) :=
      hmethod.append (by decide) hend
    rw [Option.elim_none, List.append_nil, hcall.lexemes?_eq, Option.bind_some, enclosed?_append,
      if_pos (Entry.bundle?_eq_none_iff.mp hb)]
  | some bundle =>
    obtain ⟨l, hl, hread⟩ := h.reads_bundle bundle hb
    have hcomma : Spells (ofString ", ") [.sign ','] := spells_ofList (by decide +kernel)
    have hcall : Spells (ofString "Keys." ++ ofString e.method ++ (ofString ", " ++ bundle)
        ++ ofString ");")
        ([.identifier "Keys", .sign '.'] ++ (.identifier e.method :: .sign ',' :: l)
          ++ [.sign ')', .sign ';']) := by
      have hname := hmethod.append (by decide) hcomma
      rw [← List.append_assoc (_ ++ _)]
      exact (hname.append hl).append hend
    have hsome : e.placeholders ≠ [] := by
      intro hnil
      rw [Entry.bundle?_eq_none_iff.mpr hnil] at hb
      exact absurd hb (by simp)
    rw [Option.elim_some, hcall.lexemes?_eq, Option.bind_some, enclosed?_append, if_neg hsome]
    simp only
    rw [hread]
    rfl

/-! ### The whole method -/

theorem not_isCommentLine {t : List Char} (h : clash "        ///".toList t = true) (rest : Text) :
    isCommentLine (ofString (String.ofList t) ++ rest) = false := by
  rw [isCommentLine, Bool.or_eq_false_iff]
  constructor
  · cases t with
    | nil => exact absurd h (by decide)
    | cons c t => rw [ofString, String.toList_ofList]; rfl
  · rw [← Bool.not_eq_true, List.isPrefixOf_iff_prefix]
    exact not_prefix_of_clash h rest

theorem isCommentLine_append {t : List Char} (h : "        ///".toList.isPrefixOf t = true)
    (rest : Text) : isCommentLine (ofString (String.ofList t) ++ rest) = true := by
  have hprefix : ofString "        ///" <+: ofString (String.ofList t) ++ rest :=
    prefix_of_isPrefixOf h rest
  rw [isCommentLine, List.isPrefixOf_iff_prefix.mpr hprefix, Bool.or_true]

/-- What the method of an entry declares and does. -/
def methodOf (e : Entry) : ReadMethod where
  name := e.method
  parameters := e.placeholders.map (·.parameter)
  constant := e.method
  arguments := if e.placeholders = [] then none else some (e.style, e.pairs)

theorem readBody_eq (o : ClassOptions) {e : Entry} (h : e.Sound) :
    readBody o (ofString (declarationLine e)) (ofString "        \x7b") (callLine o e)
      (ofString "        \x7d") = some (methodOf e) := by
  rw [readBody, if_pos ⟨rfl, rfl⟩, readDeclaration_declarationLine h, Option.bind_some,
    readCall_callLine o h, Option.map_some]
  rfl

/-- **A method is read as what its entry says**: its name and its parameters, the constant that it
names, and the placeholders with their parameters. -/
theorem readMethod_accessorLines (o : ClassOptions) {e : Entry} (h : e.Sound) :
    readMethod o (accessorLines o e) = some (methodOf e) := by
  have hcomments : ∀ line ∈ [] :: summaryLine e :: plain (e.placeholders.map parameterLine),
      isCommentLine line = true := by
    rw [List.forall_mem_cons, List.forall_mem_cons, plain, List.forall_mem_map, List.forall_mem_map]
    refine ⟨rfl, ?_, fun p _ => ?_⟩
    · rw [summaryLine, List.append_assoc]
      exact isCommentLine_append (by decide) _
    · unfold parameterLine
      simp only [ofString_append, List.append_assoc]
      exact isCommentLine_append (by decide) _
  have hdeclaration : isCommentLine (ofString (declarationLine e)) = false := by
    unfold declarationLine
    simp only [ofString_append, List.append_assoc]
    exact not_isCommentLine (by decide) _
  rw [readMethod, accessorLines_eq, List.dropWhile_append_of_pos hcomments,
    List.dropWhile_cons_of_neg (by rw [hdeclaration]; exact Bool.false_ne_true)]
  exact readBody_eq o h

/-! ### The directive for dictionaries -/

/-- The style shows in the expression: only a dictionary is written like one. -/
theorem style_eq_dictionary_iff_opening (e : Entry) :
    e.style = .dictionary ↔ ∃ bundle ∈ e.bundle?, ofString "new Dictionary<" <+: bundle := by
  rw [Entry.bundle?]
  cases e.style with
  | none => exact ⟨fun h => absurd h (by decide), fun ⟨_, h, _⟩ => absurd h (by simp)⟩
  | anonymousObject =>
    refine ⟨fun h => absurd h (by decide), ?_⟩
    rintro ⟨bundle, hbundle, hprefix⟩
    rw [Option.mem_def, Option.some.injEq] at hbundle
    rw [← hbundle, List.append_assoc] at hprefix
    exact absurd hprefix (not_prefix_of_clash (by decide) _)
  | dictionary =>
    refine ⟨fun _ => ⟨_, rfl, ?_⟩, fun _ => rfl⟩
    rw [List.append_assoc, show ("new Dictionary<string, object?> \x7b " : String) =
      "new Dictionary<" ++ "string, object?> \x7b " from rfl, ofString_append, List.append_assoc]
    exact List.prefix_append _ _

/-- The directive for dictionaries is there exactly when some entry takes one. -/
theorem mem_headerLines_iff (entries : List Entry) :
    "using System.Collections.Generic;" ∈ headerLines entries ↔
      ∃ e ∈ entries, e.style = .dictionary := by
  rw [headerLines, List.mem_append, List.mem_append]
  have hbefore : "using System.Collections.Generic;" ∉
      ["#nullable enable", "using System;", "using System.CodeDom.Compiler;"] := by
    decide
  have hafter : "using System.Collections.Generic;" ∉
      ["using System.Diagnostics.CodeAnalysis;", "using StardewModdingAPI;", ""] := by
    decide
  simp only [hbefore, hafter, false_or, or_false]
  split
  · rename_i hany
    obtain ⟨e, he, hstyle⟩ := List.any_eq_true.mp hany
    exact ⟨fun _ => ⟨e, he, beq_iff_eq.mp hstyle⟩, fun _ => List.mem_singleton_self _⟩
  · rename_i hany
    refine ⟨fun h => absurd h List.not_mem_nil, ?_⟩
    rintro ⟨e, he, hstyle⟩
    refine absurd ?_ hany
    rw [List.any_eq_true]
    exact ⟨e, he, beq_iff_eq.mpr hstyle⟩

/-- **Every method hands every value on under the name of its own placeholder.**  Read back, the
method of a key and a text has the parameters of the text's placeholders, in order, and what it
hands on are their names with these parameters, in the same order.  It hands nothing on exactly
when there are no placeholders, and a dictionary exactly when some name can name no member; and a
source has the directive for dictionaries exactly when some method hands one on. -/
theorem accessor_passes_placeholders (reserved : List String) (text : Text) :
    (∀ (o : ClassOptions) (used : List String) (key : Text),
      readMethod o (accessorLines o (Entry.ofText reserved used key text)) = some
        { name := methodName used key.legible
          parameters := (placeholdersOf reserved text.legible).map (·.parameter)
          constant := methodName used key.legible
          arguments :=
            if placeholdersOf reserved text.legible = [] then none
            else some ((Entry.ofText reserved used key text).style,
              (placeholdersOf reserved text.legible).map fun p =>
                (ofString p.key, p.parameter)) }) ∧
    (∀ (used : List String) (key : Text),
      ((Entry.ofText reserved used key text).bundle? = none ↔
        placeholdersOf reserved text.legible = []) ∧
      ((Entry.ofText reserved used key text).style = .dictionary ↔
        ∃ p ∈ placeholdersOf reserved text.legible, isBareName p.key = false)) ∧
    ∀ entries : List Entry,
      "using System.Collections.Generic;" ∈ headerLines entries ↔
        ∃ e ∈ entries, ∃ bundle ∈ e.bundle?, ofString "new Dictionary<" <+: bundle := by
  refine ⟨fun o used key => ?_, fun used key => ⟨?_, ?_⟩, fun entries => ?_⟩
  · exact readMethod_accessorLines o (Entry.sound_ofText reserved used key text)
  · exact Entry.bundle?_eq_none_iff
  · exact Entry.style_eq_dictionary_iff
  · rw [mem_headerLines_iff]
    constructor
    · rintro ⟨e, he, hstyle⟩
      exact ⟨e, he, (style_eq_dictionary_iff_opening e).mp hstyle⟩
    · rintro ⟨e, he, hprefix⟩
      exact ⟨e, he, (style_eq_dictionary_iff_opening e).mpr hprefix⟩

end ClassSource

end Phrasebook
