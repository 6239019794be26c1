import Phrasebook.Proofs.Bindings
import Phrasebook.Proofs.Command.Run
import Phrasebook.Proofs.Pass.Option

/-!
# Build properties in layers

A build property comes from the command line, if it is given there, and otherwise from the settings.
This is so for each property on its own: the layer that has it decides, even where its value is no
good:

* `nameOf`, `valueOf`, `nameless` — an argument up to its first `=` and behind it, and the arguments
  that give no name a value;
* `overridePairs_eq`, `overrides_eq_error_iff` — the first of these is what is wrong with a list;
* `get?_toBindings` — the properties of the settings, by name;
* `layers`, `get?_mergedProperties`, `layers_of_named` — the properties of a run, by name;
* `resolvedBy`, `resolvedBy_congr` — the options of a run, which see a few properties only;
* `Settles` — a command line that gets as far as its properties;
* `properties_in_layers` — all of it.
-/

namespace Phrasebook.Command

open Phrasebook.Text

/-! ### One argument -/

/-- What stands before the first `=`, without the blanks at its ends. -/
def nameOf (argument : String) : String :=
  trim (String.ofList (argument.toList.takeWhile (· ≠ '=')))

/-- What stands behind the first `=`, as it is. -/
def valueOf (argument : String) : String :=
  String.ofList ((argument.toList.dropWhile (· ≠ '=')).drop 1)

/-- Whether the argument gives no name a value: it has no `=`, or only blanks before the first
one. -/
def nameless (argument : String) : Bool :=
  !argument.toList.contains '=' || (argument.toList.takeWhile (· ≠ '=')).all isBlank

/-- A text is cut at the first separator, if there is one. -/
theorem cutAt?_eq (sep : Char) (s : List Char) :
    cutAt? sep s =
      if sep ∈ s then some (s.takeWhile (· ≠ sep), (s.dropWhile (· ≠ sep)).drop 1) else none := by
  induction s with
  | nil => rfl
  | cons c rest ih =>
    by_cases hc : c = sep
    · subst hc
      simp [cutAt?]
    · have hmem : sep ∈ c :: rest ↔ sep ∈ rest := by
        rw [List.mem_cons, or_iff_right fun heq => hc heq.symm]
      rw [cutAt?, if_neg hc, ih]
      by_cases hrest : sep ∈ rest
      · rw [if_pos hrest, if_pos (hmem.mpr hrest), List.takeWhile_cons, List.dropWhile_cons]
        simp [hc]
      · rw [if_neg hrest, if_neg fun h => hrest (hmem.mp h)]
        rfl

/-- Trimming leaves nothing of a text exactly when it has blanks only. -/
theorem trimChars_eq_nil_iff {s : List Char} : trimChars s = [] ↔ s.all isBlank = true := by
  rw [trimChars, trimEndChars, List.reverse_eq_nil_iff, List.dropWhile_eq_nil_iff,
    List.all_eq_true]
  constructor
  · intro h c hc
    rw [← List.takeWhile_append_dropWhile (p := isBlank) (l := s), List.mem_append] at hc
    rcases hc with hc | hc
    · exact List.mem_takeWhile_imp hc
    · exact h c (List.mem_reverse.mpr hc)
  · intro h c hc
    rw [List.dropWhile_eq_nil_iff.mpr h] at hc
    exact absurd hc List.not_mem_nil

/-- **What an argument gives**: its name and its value, unless it is nameless. -/
theorem override?_eq (argument : String) :
    override? argument =
      if nameless argument then none else some (nameOf argument, valueOf argument) := by
  have hchars : nameOf argument = String.ofList (trimChars (argument.toList.takeWhile (· ≠ '='))) := by
    rw [nameOf, trim, String.toList_ofList]
  have hname : nameOf argument = "" ↔
      (argument.toList.takeWhile (· ≠ '=')).all isBlank = true := by
    rw [← trimChars_eq_nil_iff, hchars, String.ofList_eq_empty_iff]
  rw [override?, cutAt?_eq]
  by_cases hmem : '=' ∈ argument.toList
  · have hcontains : argument.toList.contains '=' = true := List.contains_iff_mem.mpr hmem
    rw [if_pos hmem, nameless, hcontains, Bool.not_true, Bool.false_or]
    dsimp only
    rw [← hchars, ← valueOf]
    by_cases hblank : nameOf argument = ""
    · rw [if_pos hblank, if_pos (hname.mp hblank)]
    · rw [if_neg hblank, if_neg fun h => hblank (hname.mpr h)]
  · have hcontains : argument.toList.contains '=' = false :=
      Bool.eq_false_iff.mpr fun h => hmem (List.contains_iff_mem.mp h)
    rw [if_neg hmem, nameless, hcontains, Bool.not_false, Bool.true_or, if_pos rfl]

/-! ### Several arguments -/

/-- **A list of arguments** gives the names and values of all of them, unless one is nameless; then
the first such one is what is wrong. -/
theorem overridePairs_eq (arguments : List String) :
    overridePairs arguments =
      match arguments.find? nameless with
      | some argument => .error argument
      | none => .ok (arguments.map fun argument => (nameOf argument, valueOf argument)) := by
  induction arguments with
  | nil => rfl
  | cons argument rest ih =>
    rw [overridePairs, override?_eq, List.find?_cons]
    cases hnameless : nameless argument with
    | true => rfl
    | false =>
      simp only [Bool.false_eq_true, if_false, ih]
      cases rest.find? nameless <;> rfl

theorem overrides_eq_error_iff {arguments : List String} {argument : String} :
    overrides arguments = .error argument ↔ arguments.find? nameless = some argument := by
  rw [overrides, overridePairs_eq]
  cases arguments.find? nameless <;> simp [Except.map]

/-- What arguments with names give, by name: the value of the last one with the name. -/
theorem exists_overrides {arguments : List String} (h : arguments.find? nameless = none) :
    ∃ onCommandLine, overrides arguments = .ok onCommandLine ∧ ∀ name,
      onCommandLine.get? name = ((arguments.filter (nameOf · = name)).getLast?).map valueOf := by
  refine ⟨_, by rw [overrides, overridePairs_eq, h]; rfl, fun name => ?_⟩
  rw [Bindings.ofList, Bindings.get?_override, Bindings.get?_empty, Option.or_none,
    List.getLast?_filter, ← List.map_reverse]
  induction arguments.reverse with
  | nil => rfl
  | cons argument rest ih =>
    rw [List.map_cons, List.lookup_cons, List.find?_cons]
    by_cases hname : nameOf argument = name
    · simp [hname]
    · have hb : (name == nameOf argument) = false := beq_false_of_ne fun heq => hname heq.symm
      rw [hb, decide_eq_false hname]
      exact ih

/-! ### The settings below the command line -/

/-- The names of the build properties that shape the class. -/
def propertyNames : List String :=
  [ClassOption.property .namespaceName, ClassOption.property .className,
    ClassOption.property .modifiers, rootNamespaceProperty, assemblyNameProperty]

theorem nodup_propertyNames (settings : BuildProperties) :
    (settings.toList.map Prod.fst).Nodup := by
  show propertyNames.Nodup
  decide

/-- The names with a value are some of the names. -/
theorem sublist_filterMap {κ α : Type} (l : List (κ × Option α)) :
    ((l.filterMap fun q => q.2.map (q.1, ·)).map Prod.fst).Sublist (l.map Prod.fst) := by
  induction l with
  | nil => exact .slnil
  | cons q rest ih =>
    obtain ⟨name, value⟩ := q
    cases value with
    | none => exact ih.cons name
    | some value => exact ih.cons_cons name

/-- **The properties of the settings, by name**: those that are set are the ones with a value. -/
theorem get?_toBindings (settings : BuildProperties) (name : String) :
    settings.toBindings.get? name = settings.get? name := by
  have hnames := nodup_propertyNames settings
  unfold BuildProperties.toBindings BuildProperties.get?
  refine Option.ext fun value => ?_
  rw [Bindings.get?_eq_some_iff, Bindings.toList_ofList (hnames.sublist (sublist_filterMap _)),
    List.mem_filterMap, Option.join_eq_some_iff, Bindings.lookup_eq_some_iff_mem name _ hnames]
  constructor
  · rintro ⟨⟨other, given⟩, hmem, hgiven⟩
    obtain ⟨written, rfl, heq⟩ := Option.map_eq_some_iff.mp hgiven
    obtain ⟨rfl, rfl⟩ := Prod.mk.inj heq
    exact hmem
  · intro hmem
    exact ⟨(name, some value), hmem, rfl⟩

/-- The properties of a run by name: what is behind the first `=` of the last argument with the
name, and otherwise what the settings have. -/
def layers (settings : BuildProperties) (arguments : List String) (name : String) :
    Option String :=
  (((arguments.filter (nameOf · = name)).getLast?).map valueOf).or (settings.get? name)

/-- **The properties of a run** are these, by every name. -/
theorem get?_mergedProperties {settings : BuildProperties} {arguments : List String}
    {onCommandLine : Bindings String String}
    (h : ∀ name, onCommandLine.get? name =
      ((arguments.filter (nameOf · = name)).getLast?).map valueOf) (name : String) :
    (mergedProperties settings onCommandLine).get? name = layers settings arguments name := by
  rw [mergedProperties, Bindings.get?_override_toList, h, get?_toBindings, layers]

/-! ### Options of a run -/

/-- What the options come to for properties that are known by name. -/
def resolvedBy (properties : String → Option String) : Step ClassOptions :=
  resolveOptions fun name => .ok (properties name)

/-- The options of a class as they are read from properties by name. -/
theorem resolvedBy_eq (properties : String → Option String) :
    resolvedBy properties = resolved fun purpose => properties purpose.property := rfl

/-- Only properties that shape the class are read. -/
theorem resolvedBy_congr {properties others : String → Option String}
    (h : ∀ name ∈ propertyNames, properties name = others name) :
    resolvedBy properties = resolvedBy others := by
  have hread : ∀ purpose : Purpose, purpose.property ∈ propertyNames := by
    intro purpose
    cases purpose with
    | value o => cases o <;> simp [Purpose.property, propertyNames]
    | report o => simp [Purpose.property, propertyNames]
    | rootNamespace => simp [Purpose.property, propertyNames]
    | assemblyName => simp [Purpose.property, propertyNames]
  rw [resolvedBy_eq, resolvedBy_eq]
  exact congrArg resolved (funext fun purpose => h _ (hread purpose))

/-! ### The layers of a run -/

variable {settings : BuildProperties} {arguments : List String}

/-- Of a name on the command line the settings do not count. -/
theorem layers_of_named {name : String} (h : ∃ argument ∈ arguments, nameOf argument = name)
    (others : BuildProperties) : layers others arguments name = layers settings arguments name := by
  obtain ⟨argument, hargument, hname⟩ := h
  have hmem : argument ∈ arguments.filter (nameOf · = name) :=
    List.mem_filter.mpr ⟨hargument, decide_eq_true hname⟩
  have hlast := List.getLast?_eq_some_getLast (List.ne_nil_of_mem hmem)
  rw [layers, layers, hlast, Option.map_some, Option.some_or, Option.some_or]

/-- Other names on the command line do not count. -/
theorem layers_filter (settings : BuildProperties) (arguments : List String) {name : String}
    (h : name ∈ propertyNames) :
    layers settings (arguments.filter (nameOf · ∈ propertyNames)) name =
      layers settings arguments name := by
  have hfilter : (arguments.filter (nameOf · ∈ propertyNames)).filter (nameOf · = name) =
      arguments.filter (nameOf · = name) := by
    rw [List.filter_filter]
    refine List.filter_congr fun argument _ => ?_
    by_cases hname : nameOf argument = name
    · rw [hname, decide_eq_true h, Bool.and_true]
    · rw [decide_eq_false hname, Bool.false_and]
  rw [layers, layers, hfilter]

/-- A run that gets as far as its settings: it has one project, which is a folder, and its output is
no file. -/
structure Settles (h : Host) (r : GenerateRequest) (place : Place) (loaded : Settings) : Prop where
  project : ∃ written, r.project = .ok written ∧ projectPlace h (.ofString written) = .ok place
  output : ∀ written ∈ r.output, ∀ content, h.stat (.ofString written) ≠ some (.file content)
  settled : loadSettings h = .ok loaded

/-- **A run that gets as far as its settings** is refused for what is wrong with its properties, and
for nothing else. -/
theorem Settles.runGenerate_eq_badProperty_iff {h : Host} {r : GenerateRequest} {place : Place}
    {loaded : Settings} (hsettles : Settles h r place loaded) {argument : String} :
    runGenerate h r = .error (.badProperty argument) ↔ overrides r.properties = .error argument := by
  obtain ⟨written, hproject, hfound⟩ := hsettles.project
  rw [runGenerate_of_output hproject hfound hsettles.output, fromSettings, hsettles.settled]
  cases overrides r.properties <;> simp

/-- **Build properties are layered name by name.**  For any settings and any arguments of the command
line that set properties:

* The arguments are refused exactly when one of them has no `=`, or only blanks before its first one,
  and the first of these is named; a run that gets as far as its settings is refused then, and no
  other one is for this reason.
* Otherwise the properties of the run give what `layers` gives: the same options and reports, and the
  same log.
* A name that is on the command line is decided there: the settings may have anything for it.  Where
  what is given there is blank, or the option does not take it, the option is what stands in for it.
* Names other than those of the properties that shape the class may as well be left out. -/
theorem properties_in_layers (settings : BuildProperties) (arguments : List String) :
    (∀ argument,
      (overrides arguments = .error argument ↔ arguments.find? nameless = some argument) ∧
      ∀ (h : Host) (r : GenerateRequest) place loaded, Settles h r place loaded →
        r.properties = arguments →
        (runGenerate h r = .error (.badProperty argument) ↔
          arguments.find? nameless = some argument)) ∧
    ((∀ argument ∈ arguments, nameless argument = false) →
      ∃ onCommandLine, overrides arguments = .ok onCommandLine ∧
        resolvedBy (mergedProperties settings onCommandLine).get? =
          resolvedBy (layers settings arguments)) ∧
    (∀ name, (∃ argument ∈ arguments, nameOf argument = name) → ∀ others : BuildProperties,
      (∀ other, other ≠ name → others.get? other = settings.get? other) →
      resolvedBy (layers others arguments) = resolvedBy (layers settings arguments)) ∧
    (∀ (option : ClassOption) argument,
      (arguments.filter (nameOf · = option.property)).getLast? = some argument →
      (∀ raw, nonBlank? (some (valueOf argument)) = some raw → ¬ option.Takes raw) →
      ∃ options, (resolvedBy (layers settings arguments)).ending = .ok options ∧
        option.of options =
          option.fallback fun purpose => layers settings arguments purpose.property) ∧
    resolvedBy (layers settings (arguments.filter (nameOf · ∈ propertyNames))) =
      resolvedBy (layers settings arguments) := by
  refine ⟨fun argument => ⟨overrides_eq_error_iff, ?_⟩, fun hnamed => ?_, ?_, ?_, ?_⟩
  · rintro h r place loaded hsettles rfl
    rw [hsettles.runGenerate_eq_badProperty_iff, overrides_eq_error_iff]
  · have hnone : arguments.find? nameless = none :=
      List.find?_eq_none.mpr fun argument hargument => by
        rw [hnamed argument hargument]
        exact Bool.false_ne_true
    obtain ⟨onCommandLine, hoverrides, hget⟩ := exists_overrides hnone
    refine ⟨onCommandLine, hoverrides, ?_⟩
    exact resolvedBy_congr fun name _ => get?_mergedProperties hget name
  · intro name hgiven others hothers
    refine resolvedBy_congr fun other _ => ?_
    by_cases hother : other = name
    · rw [hother]
      exact layers_of_named hgiven others
    · rw [layers, layers, hothers other hother]
  · intro option argument hlast hrefused
    obtain ⟨options, hoptions, -⟩ :=
      resolved_spec fun purpose => layers settings arguments purpose.property
    have hvalue : layers settings arguments option.property = some (valueOf argument) := by
      rw [layers, hlast, Option.map_some, Option.some_or]
    refine ⟨options, hoptions, of_eq_fallback hoptions fun raw hraw => hrefused raw ?_⟩
    rw [← hvalue]
    exact hraw
  · exact resolvedBy_congr fun name hname => layers_filter settings arguments hname

/-- Settings that give the class a name. -/
def namedSettings : BuildProperties := ⟨some "My.Mod", some "Texts", none, none, some "Mod"⟩

/-- Arguments of which the last one for the name of the class is blank. -/
def blankArguments : List String :=
  ["TranslationClassBuilder_ClassName=A", "Other==1", " TranslationClassBuilder_ClassName =  ",
    "AssemblyName=a=b"]

/-- A blank name on the command line: the class has its default name, whatever the settings have for
it.  And a list of arguments that is refused for the second of them. -/
theorem properties_in_layers_blank :
    (∃ onCommandLine, overrides blankArguments = .ok onCommandLine ∧
      resolvedBy (mergedProperties namedSettings onCommandLine).get? =
        resolvedBy (layers namedSettings blankArguments)) ∧
    resolvedBy (layers { namedSettings with className := none } blankArguments) =
      resolvedBy (layers namedSettings blankArguments) ∧
    (∃ options, (resolvedBy (layers namedSettings blankArguments)).ending = .ok options ∧
      options.className = "I18n") ∧
    runGenerate redHost ⟨["p"], none, ["A=1", " =x", "y"], false, true⟩ =
      .error (.badProperty " =x") := by
  obtain ⟨-, hlayers, hdecided, hfallback, -⟩ := properties_in_layers namedSettings blankArguments
  refine ⟨hlayers (forall_mem_of_all (by decide)), ?_, ?_, ?_⟩
  · refine hdecided (ClassOption.property .className)
      ⟨" TranslationClassBuilder_ClassName =  ", by decide, by decide⟩ _ fun other hother => ?_
    have hb : (other == ClassOption.property .className) = false := beq_false_of_ne hother
    simp only [BuildProperties.get?, BuildProperties.toList, List.lookup_cons, hb]
  · refine hfallback .className " TranslationClassBuilder_ClassName =  " (by decide) ?_
    intro raw hraw
    have hblank : nonBlank? (some (valueOf " TranslationClassBuilder_ClassName =  ")) = none := by
      decide
    exact absurd (hblank.symm.trans hraw) (by simp)
  · -- the host of another run gets as far as its settings here, too
    have hstarts := starts_redHost (r := ⟨["p"], none, [], false, true⟩) rfl
      (fun written hwritten => absurd hwritten (by simp)) rfl
    obtain ⟨loaded, _, hloaded, -⟩ := hstarts.settled
    obtain ⟨hrefused, -⟩ := properties_in_layers default ["A=1", " =x", "y"]
    refine ((hrefused " =x").2 redHost _ ["p"] loaded ⟨⟨"p", rfl, hstarts.found⟩, ?_, hloaded⟩
      rfl).mpr (by decide)
    exact fun written hwritten => absurd hwritten (by simp)

end Phrasebook.Command
