import Phrasebook.Proofs.ClassSource.Depth
import Phrasebook.Proofs.Pass.Generation

/-!
# The members of a class

C# refuses a class that declares two members of one name, or a member with the name of the class.
The names that a source declares are read from its lines:

* `declaredName`, `namesAt` — the name that a line declares, and the names at a depth;
* `declaredName_classLine`, `declaredName_declarationLine` — what the lines of a class declare;
* `namesAt_bodyLines` — the name of the class and those of its members;
* `members_of_output` — the members have different names, and none is that of the class unless it
  is one that every class has; `class_called_keys`, a class with the name of such a member.
-/

namespace Phrasebook

open Phrasebook.CSharp Phrasebook.Naming Phrasebook.Text

namespace ClassSource

/-! ### Reading a declaration -/

/-- Whether a lexeme ends the part of a declaration that has the name at its end. -/
def endsName (l : Lexeme) : Bool :=
  l == .sign '(' || l == .sign ';'

/-- The name that a line declares: the last word in front of a list of parameters, a semicolon or
the end. -/
def declaredName (line : Text) : Option String :=
  (lexemes? (line ++ ofString " ")).bind fun lexemes =>
    match (lexemes.takeWhile (!endsName ·)).getLast? with
    | some (.identifier name) => some name
    | _ => none

/-- The names that some lines declare at a depth. -/
def namesAt (depth : Nat) (lines : List Text) : List (Option String) :=
  ((declarations lines).filter (·.1 == depth)).map (declaredName ·.2)

/-- A name stands behind lexemes that end nothing, and in front of one that does or of nothing. -/
theorem declaredName_eq {line : Text} {before after : List Lexeme} {name : String}
    (hline : SpellsOpen line (before ++ .identifier name :: after))
    (hbefore : ∀ l ∈ before, endsName l = false) (hafter : ∀ l ∈ after.head?, endsName l = true) :
    declaredName line = some name := by
  have hspace : Spells (ofString " ") [] := spells_ofList (by decide)
  have hread : lexemes? (line ++ ofString " ") =
      some (before ++ Lexeme.identifier name :: after ++ []) :=
    (hline.append (by decide) hspace).lexemes?_eq
  have hrest : after.takeWhile (!endsName ·) = [] := by
    cases after with
    | nil => rfl
    | cons l rest =>
      rw [List.takeWhile_cons, hafter l rfl]
      rfl
  have hname : (before ++ Lexeme.identifier name :: after).takeWhile (!endsName ·) =
      before ++ [Lexeme.identifier name] := by
    rw [List.takeWhile_append_of_pos fun l hl => by rw [hbefore l hl]; rfl, List.takeWhile_cons,
      hrest]
    rfl
  rw [declaredName, hread, Option.bind_some, List.append_nil, hname, List.getLast?_concat]

/-- For a line that is written out, reading it decides. -/
theorem declaredName_ofList {t : List Char} {name : String}
    (h : declaredName (ofChars t) = some name) :
    declaredName (ofString (String.ofList t)) = some name := by
  rw [ofString, String.toList_ofList]
  exact h

/-! ### What the lines of a class declare -/

/-- A modifier is a word, so it is read as a keyword or as an identifier. -/
theorem endsName_wordLexeme (escaped : Bool) (read : List Char) :
    endsName (wordLexeme escaped read) = false := by
  unfold wordLexeme
  split
  · rfl
  · split
    · rfl
    · rfl

/-- **The line of the class declares its name**, whatever its modifiers are. -/
theorem declaredName_classLine {o : ClassOptions} (ho : o.Resolved) :
    declaredName (classLine o) = some o.className := by
  obtain ⟨list, -, hlist, heq⟩ := ho.modifiers
  have hword : ∀ word ∈ classModifiers, isWord word.toList = true := by decide
  have hspace : Spells (ofString " ") [] := spells_ofList (by decide)
  have hindent : Spells (ofString "    ") [] := spells_ofList (by decide)
  have hclass : Spells (ofString " class ") [.keyword "class"] := spells_ofList (by decide)
  have hmodifiers : SpellsOpen (joinTexts (ofString " ") (plain list))
      (([] : List Lexeme).intercalate (list.map fun word => [wordLexeme false word.toList])) :=
    spellsOpen_separated (by decide) hspace fun word hmem =>
      spellsOpen_word (hword word (hlist word hmem))
  have hname := spellsOpen_identifier (isWord_of_isPlainIdentifier ho.className_plain)
    ho.className_free
  have hline := ((hindent.append_open hmodifiers).append (by decide) hclass).append_open hname
  rw [classLine, heq, ofString_append, ofString_append, ofString_append, ofString_join]
  refine declaredName_eq hline (List.forall_mem_append.mpr ⟨?_, by decide⟩) (by simp)
  exact forall_mem_intercalate (List.forall_mem_nil _) (List.forall_mem_map.mpr fun word _ =>
    List.forall_mem_singleton.mpr (endsName_wordLexeme false word.toList))

/-- **The line of a method declares its name.** -/
theorem declaredName_declarationLine {e : Entry} (h : e.Sound) :
    declaredName (ofString (declarationLine e)) = some e.method := by
  have hline := (spells_declarationLine h).append_open spellsOpen_nil
  rw [List.append_nil, List.append_nil, List.append_assoc] at hline
  refine declaredName_eq hline (by decide) fun l hl => ?_
  rw [← Option.some.inj hl]
  rfl

/-- The names of the members of a class. -/
def membersOf (entries : List Entry) : List String :=
  ["Translations", "Keys", "Init"] ++ entries.map (·.method) ++ ["GetByKey"]

/-- **A class declares its name, and those of its members**, at the depths for these. -/
theorem namesAt_bodyLines {o : ClassOptions} (ho : o.Resolved) {entries : List Entry}
    (h : ∀ e ∈ entries, e.Sound) :
    namesAt 4 (bodyLines o entries ++ [[]]) = [some o.className] ∧
      namesAt 8 (bodyLines o entries ++ [[]]) = (membersOf entries).map some := by
  have hfield : declaredName fieldLine = some "Translations" := declaredName_ofList (by decide)
  have hkeys : declaredName keysLine = some "Keys" := declaredName_ofList (by decide)
  have hinit : declaredName initLine = some "Init" := declaredName_ofList (by decide)
  have hlookup : declaredName lookupLine = some "GetByKey" := declaredName_ofList (by decide)
  have hmethods : entries.map (fun e => declaredName (ofString (declarationLine e))) =
      entries.map fun e => some e.method :=
    List.map_congr_left fun e he => declaredName_declarationLine (h e he)
  have htail : declarations [[]] = [] :=
    declarations_of_quiet (List.forall_mem_singleton.mpr quiet_nil)
  -- only the class is at the depth of classes, and only it is not at that of members
  constructor
  · rw [namesAt, declarations_append, declarations_bodyLines ho, htail]
    simp [declaredName_classLine ho]
  · rw [namesAt, declarations_append, declarations_bodyLines ho, htail]
    simp [hmethods, hfield, hkeys, hinit, hlookup, membersOf, List.filter_map, Function.comp_def]

end ClassSource

open ClassSource

/-! ### The members of a source -/

/-- The members are those that every class has, and the methods of the entries. -/
theorem perm_membersOf (entries : List Entry) :
    (membersOf entries).Perm (memberNames ++ entries.map (·.method)) := by
  have hfixed : ("GetByKey" :: ["Translations", "Keys", "Init"]).Perm memberNames := by decide
  have hall := hfixed.append_right (entries.map (·.method))
  rw [List.cons_append] at hall
  exact (List.perm_append_singleton _ _).trans hall

/-- No method is reserved, and so the members of a class have different names. -/
theorem nodup_membersOf {reserved : List String} {triples : List (String × Text × Text)}
    {entries : List Entry} (h : Records reserved triples entries)
    (hreserved : ∀ name ∈ memberNames, name ∈ reserved) : (membersOf entries).Nodup := by
  rw [(perm_membersOf entries).nodup_iff, List.nodup_append, h.methods]
  refine ⟨by decide, methodNames_nodup _ _, ?_⟩
  rintro name hname method hmethod rfl
  exact methodNames_not_mem hmethod (hreserved name hname)

/-- **The members of a class.**  A pass that gives a source has resolved its options and has read
its files.  The lines behind the namespace declare, at the depth of classes, one class with the name
that was resolved, and at the depth of members the field, the class of the keys, the method that
takes the helper, one method for each entry and the lookup method.

* All these members have different names.
* No method of an entry has the name of the class.
* So the class declares a member with its own name exactly when it has the name of a member that
  every class has. -/
theorem members_of_output {s : Surroundings} {files : List String} {out : Text}
    (hout : (generateIn s files).output = some out) :
    ∃ o catalog tail, (resolveWith s.property).ending = .ok o ∧
      (Catalog.readInTurn (reservedNames o.className) s.file files).ending = .ok (.ok catalog) ∧
      out = unlines (plain (headerLines catalog.entries)) ++ namespaceLine o.namespaceName
        ++ .char '\n' :: tail ∧
      namesAt 4 (tail.splitOn (.char '\n')) = [some o.className] ∧
      namesAt 8 (tail.splitOn (.char '\n')) = (membersOf catalog.entries).map some ∧
      (membersOf catalog.entries).Nodup ∧
      (∀ e ∈ catalog.entries, e.method ≠ o.className) ∧
      (o.className ∈ membersOf catalog.entries ↔ o.className ∈ memberNames) := by
  obtain ⟨o, catalog, ho, hread, rfl⟩ := generateIn_output hout
  have hrecords := Catalog.readInTurn_records hread
  have hsound := Catalog.readInTurn_sound hread
  obtain ⟨hclass, hmembers⟩ := namesAt_bodyLines (resolveWith_ok ho) hsound
  have hmethod : o.className ∉ catalog.entries.map (·.method) := by
    rw [hrecords.methods]
    exact fun hmem => methodNames_not_mem hmem List.mem_cons_self
  refine ⟨o, catalog, unlines (bodyLines o catalog.entries), ho, hread,
    source_eq o catalog.entries, ?_, ?_, nodup_membersOf hrecords fun name hname =>
      List.mem_cons_of_mem _ hname, fun e he heq => hmethod (heq ▸ List.mem_map_of_mem he), ?_⟩
  · rw [splitOn_bodyLines (resolveWith_ok ho) hsound]
    exact hclass
  · rw [splitOn_bodyLines (resolveWith_ok ho) hsound]
    exact hmembers
  · rw [(perm_membersOf catalog.entries).mem_iff, List.mem_append]
    exact or_iff_left hmethod

/-- A project that gives the class a name. -/
def namedProject : Properties := fun property =>
  .ok (if property = ClassOption.className.property then some "Text" else none)

/-- A file with keys that ask for the name of the class, for those of the members that every class
has, and twice for the same name. -/
def clashingLoader : Loader := fun _ =>
  .ok ("\x7b'text': '', 'translations': '', 'keys': '', 'init': '', 'getByKey': '', "
    ++ "'a b': '', 'aB': ''\x7d")

/-- The entries of this file. -/
def clashingEntries : List Entry :=
  [⟨"text", "_Text", "", []⟩, ⟨"translations", "_Translations", "", []⟩,
    ⟨"keys", "_Keys", "", []⟩, ⟨"init", "_Init", "", []⟩, ⟨"getByKey", "_GetByKey", "", []⟩,
    ⟨"a b", "AB", "", []⟩, ⟨"aB", "_AB", "", []⟩]

/-- Keys that collide with the name of the class, with its members and with each other: all of them
have methods of their own. -/
theorem members_of_output_colliding :
    ∃ out before tail,
      (generate namedProject clashingLoader ["i18n/default.json"]).output = some out ∧
      out = before ++ .char '\n' :: tail ∧
      namesAt 4 (tail.splitOn (.char '\n')) = [some "Text"] ∧
      namesAt 8 (tail.splitOn (.char '\n')) =
        [some "Translations", some "Keys", some "Init", some "_Text", some "_Translations",
          some "_Keys", some "_Init", some "_GetByKey", some "AB", some "_AB", some "GetByKey"] ∧
      "Text" ∉ membersOf clashingEntries ∧ (membersOf clashingEntries).Nodup := by
  have hoptions : (resolveOptions namedProject).ending =
      .ok ⟨defaultNamespace, "Text", defaultModifiers⟩ := by decide
  have hentries : (Catalog.read (reservedNames "Text") clashingLoader
      ["i18n/default.json"]).ending = .ok (.ok ⟨clashingEntries, []⟩) := by
    decide +kernel
  have hout := generate_of_catalog hoptions hentries
  obtain ⟨o, catalog, tail, ho, hread, heq, hclass, hmembers, hnodup, -, hclash⟩ :=
    members_of_output (s := .steady namedProject clashingLoader) hout
  obtain rfl := Except.ok.inj (ho.symm.trans hoptions)
  obtain rfl := Except.ok.inj (Except.ok.inj (hread.symm.trans hentries))
  exact ⟨_, _, tail, hout, heq, hclass, hmembers, fun h => absurd (hclash.mp h) (by decide), hnodup⟩

/-- A project that gives the class the name of its nested class. -/
def keysProject : Properties := fun property =>
  .ok (if property = ClassOption.className.property then some "Keys" else none)

/-- **A class with the name of its nested class**: the option takes this name, and the class
declares a member with its own name. -/
theorem class_called_keys :
    ∃ out before tail,
      (generate keysProject oneKeyLoader ["i18n/default.json"]).output = some out ∧
      out = before ++ .char '\n' :: tail ∧
      namesAt 4 (tail.splitOn (.char '\n')) = [some "Keys"] ∧
      some "Keys" ∈ namesAt 8 (tail.splitOn (.char '\n')) := by
  have ho : (resolveOptions keysProject).ending =
      .ok ⟨defaultNamespace, "Keys", defaultModifiers⟩ := by decide
  have hread := read_oneKeyLoader "Keys" (by decide)
  have hsound := Catalog.read_sound hread
  obtain ⟨hclass, hmembers⟩ := namesAt_bodyLines (resolveWith_ok ho) hsound
  refine ⟨_, _, _, generate_of_catalog ho hread, source_eq _ [oneEntry], ?_, ?_⟩
  · rw [splitOn_bodyLines (resolveWith_ok ho) hsound]
    exact hclass
  · rw [splitOn_bodyLines (resolveWith_ok ho) hsound, hmembers]
    exact List.mem_map_of_mem (by simp [membersOf])

end Phrasebook
