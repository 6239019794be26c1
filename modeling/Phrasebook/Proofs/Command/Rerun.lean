import Phrasebook.Proofs.Command.Lasting

/-!
# A run that is done again

A run that ends as it should leaves its host so that the same command line does the same again:

* `mem_outOfReach_iff`, `new_of_mem_outOfReach` — what lies so deep that it cannot be looked at;
* `Outgrown`, `outgrown_of_lasting` — a run has put its class there;
* `prepared_again`, `runPass_again`, `runGenerate_again` — the same run again, part by part;
* `Asks`, `Alike`, `run_again` — the same command line again;
* `roundabout`, `longPath`, `run_again_beyond` — a project under a long path.
-/

namespace Phrasebook.Command

open Phrasebook.Log Phrasebook.Text

/-! ### What is out of reach -/

theorem mem_outOfReach_iff {t : FileTree} {project : Path} {place : Place} {p : Path} :
    p ∈ outOfReach t project place ↔
      ∃ relative, place ++ relative ∈ t.nodes.names ∧ p = project.append relative ∧
        p.isLong = true := by
  unfold outOfReach
  rw [List.mem_filter, List.mem_map]
  constructor
  · rintro ⟨⟨relative, hmem, rfl⟩, hlong⟩
    obtain ⟨q, hq, hway⟩ := List.mem_filterMap.mp hmem
    obtain rfl := relativeTo_eq_some_iff.mp hway
    exact ⟨relative, hq, rfl, hlong⟩
  · rintro ⟨relative, hq, rfl, hlong⟩
    exact ⟨⟨relative, List.mem_filterMap.mpr ⟨_, hq, relativeTo_eq_some_iff.mpr rfl⟩, rfl⟩, hlong⟩

variable {h : Host} {name : String} {g : Generation} {r : GenerateRequest} {project : Path}
  {place : Place} {properties : Bindings String String}

/-- Where nothing was out of reach, only what is new can be. -/
theorem new_of_mem_outOfReach {after : FileTree} {p : Path}
    (hfound : projectPlace h project = .ok place) (hreach : outOfReach h.tree project place = [])
    (hp : p ∈ outOfReach after project place) :
    ∃ relative, p = project.append relative ∧ p.isLong = true ∧
      h.tree.find? (place ++ relative) = none ∧ after.find? (place ++ relative) ≠ none := by
  obtain ⟨relative, hmem, rfl, hlong⟩ := mem_outOfReach_iff.mp hp
  have hroot : place ++ relative ≠ [] := by
    intro hnil
    rw [(List.append_eq_nil_iff.mp hnil).2, Path.append, List.append_nil,
      (isFolder_of_projectPlace hfound).1] at hlong
    exact absurd hlong (by decide)
  refine ⟨relative, rfl, hlong, ?_, (FileTree.mem_names_iff hroot).mp hmem⟩
  by_contra hthere
  have hbefore : project.append relative ∈ outOfReach h.tree project place :=
    mem_outOfReach_iff.mpr ⟨relative, (FileTree.mem_names_iff hroot).mpr hthere, rfl, hlong⟩
  rw [hreach] at hbefore
  exact absurd hbefore List.not_mem_nil

/-- What a run has made for its class lies so deep in the project that it cannot be looked at.  The
class was written, to an output folder that was given. -/
structure Outgrown (h after : Host) (r : GenerateRequest) (project : Path) (place : Place) : Prop
    where
  written : r.toStdout = false
  given : r.output ≠ none
  new : ∀ p ∈ outOfReach after.tree project place,
    ∃ relative, p = project.append relative ∧ h.tree.find? (place ++ relative) = none

/-- **What is out of reach after a run was made by it**, and not in the project folder itself. -/
theorem outgrown_of_lasting {d : Delivery} (hfound : projectPlace h project = .ok place)
    (hreach : outOfReach h.tree project place = [])
    (hlasting : Lasting h (targetOf r project) r.toStdout name g d)
    (hbeyond : outOfReach (h.changed d.changes).tree project place ≠ []) :
    Outgrown h (h.changed d.changes) r project place := by
  obtain ⟨p, hp⟩ := List.exists_mem_of_ne_nil _ hbeyond
  obtain ⟨relative, rfl, hlong, hnone, hsome⟩ := new_of_mem_outOfReach hfound hreach hp
  obtain ⟨hmode, hwrite, hmade⟩ := hlasting.new _ hnone hsome
  refine ⟨hmode, ?_, fun q hq => ?_⟩
  · intro houtput
    have htarget : targetOf r project = project := by
      rw [targetOf, houtput]
      rfl
    rw [htarget] at hwrite hmade
    obtain ⟨-, hresolve, hfolder⟩ := isFolder_of_projectPlace hfound
    have hmissing : h.missing project = [] :=
      FileTree.missingFolders_of_resolve? hfolder hresolve
    rw [hmissing, ← Host.resolve?_eq_placeOf hresolve] at hmade
    have hrelative : relative = [name] :=
      List.append_cancel_left (hmade.resolve_left List.not_mem_nil)
    rw [hrelative] at hlong
    exact absurd (hlong.symm.trans hwrite.shortPath) (by decide)
  · obtain ⟨way, heq, -, hbefore, -⟩ := new_of_mem_outOfReach hfound hreach hq
    exact ⟨way, heq, hbefore⟩

/-! ### A run that is done again -/

/-- A run that was prepared is so again. -/
theorem prepared_again {d : Delivery} {o : ClassOptions}
    (hprepared : Prepared h r project place properties)
    (hlasting : Lasting h (targetOf r project) r.toStdout o.hintName g d) :
    Prepared (h.changed d.changes) r project place properties := by
  refine
    { given := hprepared.given
      found := projectPlace_changed hlasting.refreshed hprepared.found
      output := ?_
      settled := ?_ }
  · intro written hwritten
    have htarget : targetOf r project = .ofString written := by
      rw [targetOf, Option.mem_def.mp hwritten]
      rfl
    rw [← htarget]
    apply hlasting.noFile
    rw [htarget]
    exact hprepared.output written hwritten
  · rw [loadSettings_changed hlasting.refreshed]
    exact hprepared.settled

/-- Two runs show the same: their diagnostics, what they print, and their exit code. -/
structure Alike (o again : Outcome) : Prop where
  escape : again.escape = none
  diagnostics : again.diagnostics = o.diagnostics
  output : again.output = o.output
  exitCode : again.exitCode = o.exitCode

/-- The arguments ask for the class of this project. -/
structure Asks (h : Host) (arguments : List String) (r : GenerateRequest) (project : Path)
    (place : Place) : Prop where
  request : Requests arguments r
  given : r.project.map Path.ofString = .ok project
  found : projectPlace h project = .ok place

/-- No more than one class is asked for. -/
theorem Asks.unique {arguments : List String} {other : GenerateRequest} {otherProject : Path}
    {otherPlace : Place} (hasks : Asks h arguments r project place)
    (hother : Asks h arguments other otherProject otherPlace) :
    other = r ∧ otherProject = project ∧ otherPlace = place := by
  obtain rfl := hasks.request.unique hother.request
  obtain rfl := Except.ok.inj (hasks.given.symm.trans hother.given)
  exact ⟨rfl, rfl, Except.ok.inj (hother.found.symm.trans hasks.found)⟩

/-- The pass of a run, delivered to the host that the run has left: it shows the same and leaves
everything as it is. -/
theorem runPass_again (hwell : h.tree.WellFormed) {o : ClassOptions} {d : Delivery}
    (hdeliver : deliver h (targetOf r project) r.toStdout (passOf h place properties) = d)
    (hlasting : Lasting h (targetOf r project) r.toStdout o.hintName (passOf h place properties) d)
    (hescape : d.escape = none) :
    Alike (runPass h r project place properties (discover h.tree place))
        (runPass (h.changed d.changes) r project place properties
          (discover (h.changed d.changes).tree place)) ∧
      ∀ q, ((h.changed d.changes).after (runPass (h.changed d.changes) r project place properties
        (discover (h.changed d.changes).tree place))).tree.find? q =
          (h.changed d.changes).tree.find? q := by
  have hpass : passOf (h.changed d.changes) place properties = passOf h place properties :=
    passOf_changed hwell hlasting.refreshed properties
  have hagain : deliver (h.changed d.changes) (targetOf r project) r.toStdout
      (passOf (h.changed d.changes) place properties) =
        deliver (h.changed d.changes) (targetOf r project) r.toStdout
          (passOf h place properties) := by rw [hpass]
  refine ⟨⟨?_, ?_, ?_, ?_⟩, ?_⟩
  · exact (congrArg Delivery.escape hagain).trans hlasting.escape
  · exact congrArg Generation.diagnostics hpass
  · show (deliver (h.changed d.changes) (targetOf r project) r.toStdout
        (passOf (h.changed d.changes) place properties)).output =
      (deliver h (targetOf r project) r.toStdout (passOf h place properties)).output
    rw [hagain, hlasting.output, hdeliver]
  · show (if (deliver (h.changed d.changes) (targetOf r project) r.toStdout
          (passOf (h.changed d.changes) place properties)).escape.isSome ||
        (r.failOnError && !(passOf (h.changed d.changes) place properties).errors.isEmpty)
          then 1 else 0) =
      if (deliver h (targetOf r project) r.toStdout (passOf h place properties)).escape.isSome ||
        (r.failOnError && !(passOf h place properties).errors.isEmpty) then 1 else 0
    rw [hagain, hlasting.escape, hdeliver, hescape, hpass]
  · intro q
    show ((h.changed d.changes).changed (deliver (h.changed d.changes) (targetOf r project)
      r.toStdout (passOf (h.changed d.changes) place properties)).changes).tree.find? q = _
    rw [hagain]
    exact hlasting.unchanged q

/-- **A run for a class, done again**, once it is known what is asked. -/
theorem runGenerate_again (hsound : h.Sound) {o : Outcome} (hrun : runGenerate h r = .ok o)
    (hended : o.escape = none) :
    ∃ project place again, r.project.map Path.ofString = .ok project ∧
      projectPlace h project = .ok place ∧ runGenerate (h.after o) r = .ok again ∧
      (∀ q, ((h.after o).after again).tree.find? q = (h.after o).tree.find? q) ∧
      (outOfReach (h.after o).tree project place = [] → Alike o again) ∧
      (outOfReach (h.after o).tree project place ≠ [] →
        again = .escaped .nameTooLong ∧ Outgrown h (h.after o) r project place) := by
  obtain ⟨project, place, properties, hstarts⟩ := starts_of_runGenerate hrun hended
  obtain rfl := Except.ok.inj (hrun.symm.trans (runGenerate_of_starts hstarts))
  obtain ⟨options, -, hname⟩ := exists_hintName h place properties
  obtain ⟨d, hdeliver⟩ :
      ∃ d, deliver h (targetOf r project) r.toStdout (passOf h place properties) = d := ⟨_, rfl⟩
  have hescape : d.escape = none := hdeliver ▸ hended
  have hlasting : Lasting h (targetOf r project) r.toStdout options.hintName
      (passOf h place properties) d :=
    hdeliver ▸ lasting_deliver hsound (hintName_ne_up options) hname (hdeliver ▸ hescape)
  have hafter : h.after (runPass h r project place properties (discover h.tree place)) =
      h.changed d.changes := congrArg (fun d : Delivery => h.changed d.changes) hdeliver
  rw [hafter]
  refine ⟨project, place, _, hstarts.given, hstarts.found,
    runGenerate_of_prepared (prepared_again hstarts.prepared hlasting), ?_⟩
  obtain ⟨halike, hkept⟩ := runPass_again hsound.wellFormed hdeliver hlasting hescape
  by_cases hreach : outOfReach (h.changed d.changes).tree project place = []
  · rw [if_pos hreach]
    exact ⟨hkept, fun _ => halike, fun hbeyond => absurd hreach hbeyond⟩
  · rw [if_neg hreach]
    exact ⟨fun _ => rfl, fun hnone => absurd hnone hreach, fun _ =>
      ⟨rfl, outgrown_of_lasting hstarts.found hstarts.reach hlasting hreach⟩⟩

section

variable {defaultLevel : String} {arguments : List String} {o : Outcome}

/-- **A run that is done again.**  Let a run end with no usage error and with nothing that ends it
early, in a host whose tree is that of a file system.  The same command line in the host that it has
left makes a run without a usage error, which leaves everything as it is; and

* it shows the same diagnostics, prints the same and has the same exit code, if nothing in the
  project lies so deep now that it cannot be looked at;
* it ends early otherwise.  Then what lies so deep was made by the first run, which wrote its class to
  an output folder that was given. -/
theorem run_again (hsound : h.Sound) (hrun : run h defaultLevel arguments = .ok o)
    (hended : o.escape = none) :
    ∃ again, run (h.after o) defaultLevel arguments = .ok again ∧
      (∀ q, ((h.after o).after again).tree.find? q = (h.after o).tree.find? q) ∧
      ((∀ r project place, Asks h arguments r project place →
        outOfReach (h.after o).tree project place = []) → Alike o again) ∧
      (∀ r project place, Asks h arguments r project place →
        outOfReach (h.after o).tree project place ≠ [] →
          again = .escaped .nameTooLong ∧ Outgrown h (h.after o) r project place) := by
  obtain ⟨hchanges, hsame, hnone⟩ | ⟨r, level, hrequests, hall⟩ := run_cases hrun hended
  · have hafter : h.after o = h := by
      rw [Host.after, hchanges]
      rfl
    refine ⟨o, hsame _, fun q => by rw [hafter, hafter], fun _ => ⟨hended, rfl, rfl, rfl⟩, ?_⟩
    intro r project place hasks
    exact absurd hasks.request (hnone r)
  · rw [hall h] at hrun
    cases hgenerate : runGenerate h r with
    | error e =>
      rw [hgenerate] at hrun
      exact absurd hrun (by simp [Except.map])
    | ok first =>
      rw [hgenerate, Except.map, Except.ok.injEq] at hrun
      subst hrun
      obtain ⟨project, place, again, hgiven, hfound, hagain, hkept, halike, houtgrown⟩ :=
        runGenerate_again hsound hgenerate hended
      -- the level only cuts the records, which nothing here is about
      refine ⟨{ again with records := kept level again.records },
        (hall _).trans (congrArg (Except.map _) hagain), hkept, fun hnone => ?_, ?_⟩
      · obtain ⟨hescape, hdiagnostics, houtput, hexitCode⟩ :=
          halike (hnone r project place ⟨hrequests, hgiven, hfound⟩)
        exact ⟨hescape, hdiagnostics, houtput, hexitCode⟩
      · intro r' project' place' hasks hbeyond
        obtain ⟨rfl, rfl, rfl⟩ := Asks.unique ⟨hrequests, hgiven, hfound⟩ hasks
        obtain ⟨rfl, hnew⟩ := houtgrown hbeyond
        exact ⟨rfl, hnew⟩

end

/-! ### A project with one text, done again -/

/-- The class of this project is written where it can be. -/
theorem runGenerate_redHost (hstarts : Starts redHost r project ["p"] (mergedProperties default ∅))
    (hmode : r.toStdout = false) (hlenient : r.failOnError = false)
    (hwrite : CanWrite redHost (targetOf r project) "I18n.generated.cs") :
    ∃ o s, runGenerate redHost r = .ok o ∧ o.escape = none ∧ o.exitCode = 0 ∧
      redHost.after o =
        redHost.changed (writeChanges redHost (targetOf r project) "I18n.generated.cs" s) := by
  obtain ⟨s, hs, -⟩ := exists_output_redHost
  have hdeliver : deliver redHost (targetOf r project) r.toStdout
      (passOf redHost ["p"] (mergedProperties default ∅)) = ⟨"",
        writeChanges redHost (targetOf r project) "I18n.generated.cs" s,
        [.sourceWritten ((targetOf r project).child "I18n.generated.cs").toString], none⟩ := by
    rw [hmode, deliver_of_output hintName_redHost hs, writeSource_of_canWrite hwrite]
  refine ⟨_, s, runGenerate_of_starts hstarts, congrArg Delivery.escape hdeliver, ?_, ?_⟩
  · show (if (deliver redHost (targetOf r project) r.toStdout
        (passOf redHost ["p"] (mergedProperties default ∅))).escape.isSome ||
          (r.failOnError && _) then 1 else 0) = 0
    rw [hdeliver, hlenient]
    rfl
  · exact congrArg (fun d : Delivery => redHost.changed d.changes) hdeliver

/-- Where this project is, its class is written into a folder inside that of its locale files, and
the same run does the same again. -/
theorem run_again_inside :
    ∃ o again, run redHost "INFO" ["generate", "p", "-o", "p/i18n/out"] = .ok o ∧
      o.escape = none ∧ o.exitCode = 0 ∧
      (redHost.after o).tree.isFile ["p", "i18n", "out", "I18n.generated.cs"] = true ∧
      run (redHost.after o) "INFO" ["generate", "p", "-o", "p/i18n/out"] = .ok again ∧
      (∀ q, ((redHost.after o).after again).tree.find? q = (redHost.after o).tree.find? q) ∧
      Alike o again := by
  have hrequest : Request.ofArguments ["generate", "p", "-o", "p/i18n/out"] =
      .ok (.generate none ["p", "-o", "p/i18n/out"]) := by decide +kernel
  have harguments : GenerateRequest.ofArguments ["p", "-o", "p/i18n/out"] =
      .ok (some ⟨["p"], some "p/i18n/out", [], false, false⟩) := by decide +kernel
  have hproject : Path.ofString "p" = ⟨false, ["p"]⟩ := by decide +kernel
  have htarget : Path.ofString "p/i18n/out" = ⟨false, ["p", "i18n", "out"]⟩ := by decide +kernel
  have hwrite : CanWrite redHost (.ofString "p/i18n/out") "I18n.generated.cs" := by
    decide +kernel
  have hstarts : Starts redHost ⟨["p"], some "p/i18n/out", [], false, false⟩ (.ofString "p") ["p"]
      (mergedProperties default ∅) := starts_redHost rfl (by decide +kernel) rfl
  obtain ⟨o, s, hgenerate, hescape, hexitCode, hafter⟩ :=
    runGenerate_redHost hstarts rfl rfl hwrite
  rw [show targetOf ⟨["p"], some "p/i18n/out", [], false, false⟩ (.ofString "p") =
    ⟨false, ["p", "i18n", "out"]⟩ from htarget] at hafter
  have hrun := run_of_request redHost hrequest (show threshold none "INFO" = .ok 20 by decide)
    harguments
  rw [hgenerate] at hrun
  obtain ⟨again, hagain, hkept, halike, -⟩ := run_again sound_redHost hrun hescape
  refine ⟨_, again, hrun, hescape, hexitCode, ?_, hagain, hkept, halike ?_⟩
  · show (redHost.after o).tree.isFile _ = true
    rw [hafter, FileTree.isFile, find?_writeChanges]
    rfl
  · intro r project place hasks
    obtain ⟨rfl, rfl, rfl⟩ :=
      Asks.unique ⟨⟨_, _, hrequest, harguments⟩, hstarts.given, hstarts.found⟩ hasks
    show outOfReach (redHost.after o).tree _ _ = []
    rw [hafter, List.eq_nil_iff_forall_not_mem]
    intro p hp
    obtain ⟨relative, rfl, hlong, hnone, hsome⟩ :=
      new_of_mem_outOfReach hstarts.found hstarts.reach hp
    have hways : relative ∈ [["i18n", "out"], ["i18n", "out", "I18n.generated.cs"]] := by
      have hmissing : redHost.missing ⟨false, ["p", "i18n", "out"]⟩ = [["p", "i18n", "out"]] := rfl
      have hnew := new_of_writeChanges s hnone hsome
      rw [hmissing, List.mem_singleton] at hnew
      rw [List.mem_cons, List.mem_singleton]
      exact hnew.imp List.append_cancel_left List.append_cancel_left
    have hshort : ∀ relative ∈ [["i18n", "out"], ["i18n", "out", "I18n.generated.cs"]],
        ((⟨false, ["p"]⟩ : Path).append relative).isLong = false := by decide +kernel
    rw [hproject, hshort relative hways] at hlong
    exact absurd hlong (by decide)

/-! ### A project under a long path -/

/-- The way into a folder, and then out of it and in again, this many times. -/
def roundabout : Nat → List String
  | 0 => ["p"]
  | n + 1 => "p" :: ".." :: roundabout n

/-- The path of this way. -/
def longPath (n : Nat) : String := join "/" (roundabout n)

theorem roundabout_eq_cons (n : Nat) : ∃ rest, roundabout n = "p" :: rest := by
  cases n with
  | zero => exact ⟨_, rfl⟩
  | succ n => exact ⟨_, rfl⟩

theorem part_of_roundabout (n : Nat) : ∀ part ∈ roundabout n, part = "p" ∨ part = ".." := by
  induction n with
  | zero =>
    intro part hpart
    exact .inl (List.mem_singleton.mp hpart)
  | succ n ih =>
    rw [roundabout, List.forall_mem_cons, List.forall_mem_cons]
    exact ⟨.inl rfl, .inr rfl, ih⟩

/-- Every time around adds five bytes. -/
theorem byteSize_roundabout (relative : List String) (n : Nat) :
    (join "/" (roundabout n ++ relative)).utf8ByteSize =
      5 * n + (join "/" ("p" :: relative)).utf8ByteSize := by
  induction n with
  | zero => exact (Nat.zero_add _).symm
  | succ n ih =>
    obtain ⟨rest, hrest⟩ := roundabout_eq_cons n
    have hjoin : join "/" (roundabout (n + 1) ++ relative) =
        "p" ++ "/" ++ (".." ++ "/" ++ join "/" (roundabout n ++ relative)) := by
      rw [roundabout, hrest]
      rfl
    rw [hjoin]
    simp only [String.utf8ByteSize_append, ih]
    show 1 + 1 + (2 + 1 + _) = _
    omega

theorem longPath_eq_append (n : Nat) : ∃ tail, longPath n = "p" ++ tail := by
  obtain ⟨rest, hrest⟩ := roundabout_eq_cons n
  rw [longPath, hrest]
  exact join_cons "/" "p" rest

/-- The path has these parts. -/
theorem ofString_longPath (n : Nat) : Path.ofString (longPath n) = ⟨false, roundabout n⟩ := by
  obtain ⟨tail, htail⟩ := longPath_eq_append n
  have hrooted : (longPath n).startsWith "/" = false := by
    rw [← Bool.not_eq_true, String.startsWith_string_iff, htail, String.toList_append]
    exact fun hslash => absurd (List.cons_prefix_cons.mp hslash).1 (by decide)
  have hfields : fields '/' (longPath n) = roundabout n := by
    obtain ⟨rest, hrest⟩ := roundabout_eq_cons n
    refine fields_join (by rw [hrest]; exact List.cons_ne_nil _ _) fun part hpart => ?_
    obtain rfl | rfl := part_of_roundabout n part hpart
    · decide
    · decide
  have hparts : pathParts (longPath n) = roundabout n := by
    rw [pathParts, hfields, List.filter_eq_self]
    intro part hpart
    obtain rfl | rfl := part_of_roundabout n part hpart
    · decide
    · decide
  rw [Path.ofString, hrooted, hparts]

/-- Whether a path further inside is too long hangs on its end alone. -/
theorem isLong_roundabout (n : Nat) (relative : List String) :
    ((⟨false, roundabout n⟩ : Path).append relative).isLong = true ↔
      4095 < 5 * n + (join "/" ("p" :: relative)).utf8ByteSize := by
  have hstring : ((⟨false, roundabout n⟩ : Path).append relative).toString =
      join "/" (roundabout n ++ relative) := by
    obtain ⟨rest, hrest⟩ := roundabout_eq_cons n
    rw [Path.append, hrest]
    rfl
  rw [Path.isLong, isLongPath, hstring, byteSize_roundabout, decide_eq_true_iff]
  rfl

/-- The path is an argument of its own. -/
theorem not_looksLikeOption_longPath (n : Nat) :
    longPath n ≠ "--" ∧ looksLikeOption (longPath n) = false := by
  obtain ⟨tail, htail⟩ := longPath_eq_append n
  have hdash : (longPath n).startsWith "-" = false := by
    rw [← Bool.not_eq_true, String.startsWith_string_iff, htail, String.toList_append]
    exact fun hslash => absurd (List.cons_prefix_cons.mp hslash).1 (by decide)
  refine ⟨fun heq => ?_, by rw [looksLikeOption, hdash, Bool.false_and]⟩
  rw [heq] at hdash
  exact absurd hdash (by decide +kernel)

/-- A project under the long path, and an output folder under a short one. -/
def longArguments (n : Nat) : List String := ["generate", longPath n, "-o", "p/out"]

/-- What these arguments ask for. -/
def longRequest (n : Nat) : GenerateRequest := ⟨[longPath n], some "p/out", [], false, false⟩

theorem ofArguments_longArguments (n : Nat) :
    Request.ofArguments (longArguments n) = .ok (.generate none [longPath n, "-o", "p/out"]) := by
  have hoperand : looksLikeOption "generate" = false := by decide +kernel
  rw [Request.ofArguments, longArguments, scan, if_neg (by decide), hoperand]
  rfl

/-- An argument that is no option is one operand more. -/
theorem ofArguments_operand {argument : String} (hend : argument ≠ "--")
    (hoperand : looksLikeOption argument = false) (rest : List String) :
    GenerateRequest.ofArguments (argument :: rest) =
      (GenerateRequest.ofArguments rest).map
        (Option.map fun r => { r with operands := argument :: r.operands }) := by
  rw [GenerateRequest.ofArguments, GenerateRequest.ofArguments, scan, if_neg hend, hoperand]
  cases hscan : scan generateOptions true rest with
  | error e => rfl
  | ok s =>
    simp only [bind, Except.bind, Except.map, Bool.false_eq_true, if_false, if_true]
    by_cases hhelp : s.options.any (·.1 = .help) = true
    · rw [if_pos hhelp, if_pos hhelp]
      rfl
    · rw [if_neg hhelp, if_neg hhelp]
      rfl

theorem ofArguments_longRequest (n : Nat) :
    GenerateRequest.ofArguments [longPath n, "-o", "p/out"] = .ok (some (longRequest n)) := by
  obtain ⟨hend, hoperand⟩ := not_looksLikeOption_longPath n
  have hrest : GenerateRequest.ofArguments ["-o", "p/out"] =
      .ok (some ⟨[], some "p/out", [], false, false⟩) := by decide +kernel
  rw [ofArguments_operand hend hoperand, hrest]
  rfl

theorem resolve?_roundabout (n : Nat) :
    redHost.resolve? ⟨false, roundabout n⟩ = some ["p"] := by
  show redHost.tree.resolve? [] (roundabout n) = some ["p"]
  induction n with
  | zero => rfl
  | succ n ih =>
    show redHost.tree.resolve? [] (roundabout n) = some ["p"]
    exact ih

/-- Nothing in the project is out of reach by its long path yet. -/
theorem starts_longRequest {n : Nat} (hn : 5 * n + 19 ≤ 4095) :
    Starts redHost (longRequest n) ⟨false, roundabout n⟩ ["p"] (mergedProperties default ∅) := by
  have hnames : ∀ q ∈ redHost.tree.nodes.names, (join "/" q).utf8ByteSize ≤ 19 := by
    decide +kernel
  have hshort : (⟨false, roundabout n⟩ : Path).isLong = false := by
    have hroot := isLong_roundabout n []
    rw [Path.append, List.append_nil] at hroot
    rw [← Bool.not_eq_true, hroot, show (join "/" ["p"]).utf8ByteSize = 1 from rfl]
    omega
  refine
    { given := congrArg Except.ok (ofString_longPath n)
      found := projectPlace_eq_ok_iff.mpr ⟨?_, resolve?_roundabout n⟩
      output := ?_
      settled := (starts_redHost (r := ⟨["p"], none, [], false, true⟩) rfl (by decide) rfl).settled
      reach := ?_ }
  · rw [Host.stat, hshort, if_neg (by decide), resolve?_roundabout]
    rfl
  · intro written hwritten content hstat
    rw [← Option.some.inj hwritten] at hstat
    have hnone : (redHost.stat (.ofString "p/out")).isNone = true := by decide +kernel
    rw [hstat] at hnone
    exact absurd hnone (by simp)
  · rw [List.eq_nil_iff_forall_not_mem]
    intro p hp
    obtain ⟨relative, hmem, rfl, hlong⟩ := mem_outOfReach_iff.mp hp
    have hbytes := (isLong_roundabout n relative).mp hlong
    have hname := hnames _ hmem
    rw [List.singleton_append] at hname
    omega

/-- **Where a run may not do the same again.**  With a project under a path that is nearly too long,
and an output folder inside it that is given by a short path, a run writes the class to a place that
is out of reach from the project.  The same run again ends early. -/
theorem run_again_beyond :
    ∃ o again, run redHost "INFO" (longArguments 815) = .ok o ∧ o.escape = none ∧ o.exitCode = 0 ∧
      run (redHost.after o) "INFO" (longArguments 815) = .ok again ∧
      again.escape = some .nameTooLong ∧ again.exitCode = 1 := by
  have htarget : Path.ofString "p/out" = ⟨false, ["p", "out"]⟩ := by decide +kernel
  have hwrite : CanWrite redHost (.ofString "p/out") "I18n.generated.cs" := by decide +kernel
  have hstarts := starts_longRequest (show 5 * 815 + 19 ≤ 4095 by decide)
  obtain ⟨o, s, hgenerate, hescape, hexitCode, hafter⟩ :=
    runGenerate_redHost hstarts rfl rfl hwrite
  have hlevel : threshold none "INFO" = .ok 20 := by decide
  have hall := fun other => run_of_request other (ofArguments_longArguments 815) hlevel
    (ofArguments_longRequest 815)
  obtain ⟨project, place, again, hgiven, hfound, hagain, -, -, hbeyond⟩ :=
    runGenerate_again sound_redHost hgenerate hescape
  obtain rfl := Except.ok.inj (hstarts.given.symm.trans hgiven)
  obtain rfl := Except.ok.inj (hstarts.found.symm.trans hfound)
  rw [show targetOf (longRequest 815) ⟨false, roundabout 815⟩ = ⟨false, ["p", "out"]⟩
    from htarget] at hafter
  have hlong : (⟨false, roundabout 815⟩ : Path).append ["out", "I18n.generated.cs"] ∈
      outOfReach (redHost.after o).tree ⟨false, roundabout 815⟩ ["p"] := by
    refine mem_outOfReach_iff.mpr ⟨_, (FileTree.mem_names_iff (by decide)).mpr ?_, rfl, ?_⟩
    · rw [hafter, find?_writeChanges, if_pos (by decide)]
      exact Option.some_ne_none _
    · rw [isLong_roundabout,
        show (join "/" ["p", "out", "I18n.generated.cs"]).utf8ByteSize = 23 by decide +kernel]
      decide
  obtain ⟨rfl, -⟩ := hbeyond (List.ne_nil_of_mem hlong)
  exact ⟨{ o with records := kept 20 o.records }, _,
    (hall _).trans (congrArg (Except.map _) hgenerate), hescape, hexitCode,
    (hall _).trans (congrArg (Except.map _) hagain), rfl, rfl⟩

end Phrasebook.Command
