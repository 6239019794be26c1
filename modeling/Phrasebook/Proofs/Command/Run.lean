import Phrasebook.Proofs.ClassSource.Printed
import Phrasebook.Proofs.Command.Delivery
import Phrasebook.Proofs.Pass.Generation
import Phrasebook.Proofs.Pass.Shape

/-!
# What a run does

* `passOf`, `targetOf` — the pass of a run, and the folder that its class belongs in;
* `exists_hintName` — in a run there is always a name for the file of the class;
* `runGenerate_eq` — a run in the order in which things are asked of it;
* `Starts`, `runGenerate_of_starts`, `run_of_starts` — a run gets as far as its pass;
* `Prepared`, `runGenerate_of_prepared`, `starts_of_runGenerate` — when it does so, and when not;
* `Requests`, `run_of_request`, `run_cases` — what a command line that runs to its end has asked for;
* `Deliverable`, `Effects`, `effects_runPass` — what it does from there on;
* `exists_outcome`, `run_effects` — what a run does;
* `run_prints_otherwise` — a class that is printed otherwise than it is written.
-/

namespace Phrasebook.Command

open Phrasebook.Log Phrasebook.Text

/-- The pass of a run. -/
def passOf (h : Host) (place : Place) (properties : Bindings String String) : Generation :=
  generate (fun name => .ok (properties.get? name)) (h.loader place) (discover h.tree place)

/-- The folder that the class of a project belongs in. -/
def targetOf (r : GenerateRequest) (project : Path) : Path :=
  (r.output.map Path.ofString).getD project

variable {h : Host} {r : GenerateRequest} {project : Path} {place : Place}
  {properties : Bindings String String}

/-! ### The name of the file -/

/-- The name of the file of a class is too long to be `..`. -/
theorem hintName_ne_up (o : ClassOptions) : o.hintName ≠ ".." := by
  intro heq
  have hlength := congrArg String.length heq
  rw [ClassOptions.hintName, String.length_append, show ".generated.cs".length = 13 from rfl,
    show "..".length = 2 from rfl] at hlength
  omega

/-- **In a run there is always a name for the file of the class**: properties that are bound to
names do not fail. -/
theorem exists_hintName (h : Host) (place : Place) (properties : Bindings String String) :
    ∃ o : ClassOptions, (resolveOptions fun name => .ok (properties.get? name)).ending = .ok o ∧
      (passOf h place properties).hintName = some o.hintName := by
  obtain ⟨o, ho⟩ := exists_resolveWith_eq_ok fun purpose => properties.get? purpose.property
  refine ⟨o, ho, generateIn_hintName.trans ?_⟩
  show (resolveOptions fun name => .ok (properties.get? name)).ending.toOption.map _ = _
  rw [show (resolveOptions fun name => .ok (properties.get? name)).ending = .ok o from ho]
  rfl

/-! ### Up to the pass -/

/-- A run gets as far as its pass: it has one project, which is a folder, its output is no file,
its settings load, what it sets on the command line is well-formed, and nothing lies so deep in
the project that it cannot be looked at. -/
structure Starts (h : Host) (r : GenerateRequest) (project : Path) (place : Place)
    (properties : Bindings String String) : Prop where
  given : r.project.map Path.ofString = .ok project
  found : projectPlace h project = .ok place
  output : ∀ written ∈ r.output, ∀ content, h.stat (.ofString written) ≠ some (.file content)
  settled : ∃ settings onCommandLine, loadSettings h = .ok settings ∧
    overrides r.properties = .ok onCommandLine ∧
    properties = mergedProperties settings.build onCommandLine
  reach : outOfReach h.tree project place = []

/-- Steps that may fail end well only if each of them does. -/
theorem exists_of_bind_eq_ok {ε α β : Type} {first : Except ε α} {next : α → Except ε β} {b : β}
    (hall : first.bind next = .ok b) : ∃ a, first = .ok a ∧ next a = .ok b := by
  cases first with
  | error e => exact absurd hall (by simp [Except.bind])
  | ok a => exact ⟨a, rfl, hall⟩

/-- The rest of a run, from its settings on. -/
def fromSettings (h : Host) (r : GenerateRequest) (project : Path) (place : Place) :
    Except UsageError Outcome :=
  match loadSettings h with
  | .error e => .ok (.escaped e)
  | .ok settings =>
    match overrides r.properties with
    | .error argument => .error (.badProperty argument)
    | .ok onCommandLine =>
      .ok (if outOfReach h.tree project place = [] then
        runPass h r project place (mergedProperties settings.build onCommandLine)
          (discover h.tree place)
      else .escaped .nameTooLong)

/-- **A run whose project is there** goes on from its settings unless its output is a file. -/
theorem runGenerate_eq {written : String} (hproject : r.project = .ok written)
    (hfound : projectPlace h (.ofString written) = .ok place) :
    runGenerate h r =
      match r.output.map fun out => (out, h.stat (.ofString out)) with
      | some (out, some (.file _)) => .error (.outputIsFile out)
      | _ => fromSettings h r (.ofString written) place := by
  have hreach : ∀ properties,
      (if !(outOfReach h.tree (.ofString written) place).isEmpty then
        (.ok (.escaped .nameTooLong) : Except UsageError Outcome)
      else .ok (runPass h r (.ofString written) place properties (discover h.tree place))) =
      .ok (if outOfReach h.tree (.ofString written) place = [] then
        runPass h r (.ofString written) place properties (discover h.tree place)
      else .escaped .nameTooLong) := by
    intro properties
    cases outOfReach h.tree (.ofString written) place with
    | nil => rfl
    | cons p others => rfl
  unfold runGenerate
  rw [hproject]
  show (projectPlace h (.ofString written) >>= fun place => _) = _
  rw [hfound]
  simp only [bind, Except.bind, pure, Except.pure, throw, throwThe, MonadExceptOf.throw, hreach]
  cases r.output with
  | none => rfl
  | some out =>
    rw [Option.map_some]
    cases hstat : h.stat (.ofString out) with
    | none =>
      simp only [hstat]
      rfl
    | some node =>
      cases node with
      | folder =>
        simp only [hstat]
        rfl
      | file content => simp only [hstat]

/-- Such a run whose output is no file. -/
theorem runGenerate_of_output {written : String} (hproject : r.project = .ok written)
    (hfound : projectPlace h (.ofString written) = .ok place)
    (houtput : ∀ out ∈ r.output, ∀ content, h.stat (.ofString out) ≠ some (.file content)) :
    runGenerate h r = fromSettings h r (.ofString written) place := by
  rw [runGenerate_eq hproject hfound]
  split
  · rename_i out content heq
    obtain ⟨written, hwritten, heq⟩ := Option.map_eq_some_iff.mp heq
    obtain ⟨rfl, hstat⟩ := Prod.mk.inj heq
    exact absurd hstat (houtput written hwritten content)
  · rfl

/-- A run whose project is there ends well only if its output is no file. -/
theorem runGenerate_of_project {written : String} {outcome : Outcome}
    (hproject : r.project = .ok written)
    (hfound : projectPlace h (.ofString written) = .ok place) :
    runGenerate h r = .ok outcome ↔
      (∀ out ∈ r.output, ∀ content, h.stat (.ofString out) ≠ some (.file content)) ∧
      fromSettings h r (.ofString written) place = .ok outcome := by
  constructor
  · intro hrun
    have houtput : ∀ out ∈ r.output, ∀ content, h.stat (.ofString out) ≠ some (.file content) := by
      intro out hout content hstat
      rw [runGenerate_eq hproject hfound, hout] at hrun
      simp only [Option.map_some, hstat] at hrun
      exact absurd hrun (by simp)
    exact ⟨houtput, runGenerate_of_output hproject hfound houtput ▸ hrun⟩
  · rintro ⟨houtput, hrest⟩
    rw [runGenerate_of_output hproject hfound houtput, hrest]

/-- What a run has settled before it looks into its project. -/
structure Prepared (h : Host) (r : GenerateRequest) (project : Path) (place : Place)
    (properties : Bindings String String) : Prop where
  given : r.project.map Path.ofString = .ok project
  found : projectPlace h project = .ok place
  output : ∀ written ∈ r.output, ∀ content, h.stat (.ofString written) ≠ some (.file content)
  settled : ∃ settings onCommandLine, loadSettings h = .ok settings ∧
    overrides r.properties = .ok onCommandLine ∧
    properties = mergedProperties settings.build onCommandLine

theorem Starts.prepared (hstarts : Starts h r project place properties) :
    Prepared h r project place properties :=
  ⟨hstarts.given, hstarts.found, hstarts.output, hstarts.settled⟩

/-- **A run that is prepared** goes on to its pass, or ends because something lies too deep. -/
theorem runGenerate_of_prepared (hprepared : Prepared h r project place properties) :
    runGenerate h r = .ok (if outOfReach h.tree project place = [] then
      runPass h r project place properties (discover h.tree place) else .escaped .nameTooLong) := by
  obtain ⟨settings, onCommandLine, hsettings, hoverrides, rfl⟩ := hprepared.settled
  cases hproject : r.project with
  | error e => exact absurd (hproject ▸ hprepared.given) (by simp [Except.map])
  | ok written =>
    obtain rfl : Path.ofString written = project := Except.ok.inj (hproject ▸ hprepared.given)
    refine (runGenerate_of_project hproject hprepared.found).mpr ⟨hprepared.output, ?_⟩
    rw [fromSettings, hsettings]
    simp only [hoverrides]

theorem runGenerate_of_starts (hstarts : Starts h r project place properties) :
    runGenerate h r = .ok (runPass h r project place properties (discover h.tree place)) := by
  rw [runGenerate_of_prepared hstarts.prepared, if_pos hstarts.reach]

/-- **A run that nothing ends early has got as far as its pass.** -/
theorem starts_of_runGenerate {outcome : Outcome} (hrun : runGenerate h r = .ok outcome)
    (hended : outcome.escape = none) :
    ∃ project place properties, Starts h r project place properties := by
  obtain ⟨written, hproject, hplaced⟩ := exists_of_bind_eq_ok hrun
  obtain ⟨place, hfound, -⟩ := exists_of_bind_eq_ok hplaced
  obtain ⟨houtput, hrest⟩ := (runGenerate_of_project hproject hfound).mp hrun
  unfold fromSettings at hrest
  cases hsettings : loadSettings h with
  | error e =>
    simp only [hsettings, Except.ok.injEq] at hrest
    rw [← hrest] at hended
    exact absurd hended (by simp [Outcome.escaped])
  | ok settings =>
    cases hoverrides : overrides r.properties with
    | error argument =>
      simp only [hsettings, hoverrides] at hrest
      exact absurd hrest (by simp)
    | ok onCommandLine =>
      simp only [hsettings, hoverrides, Except.ok.injEq] at hrest
      by_cases hreach : outOfReach h.tree (.ofString written) place = []
      · exact ⟨.ofString written, place, _,
          { given := by rw [hproject]; rfl
            found := hfound
            output := houtput
            settled := ⟨settings, onCommandLine, hsettings, hoverrides, rfl⟩
            reach := hreach }⟩
      · rw [if_neg hreach] at hrest
        rw [← hrest] at hended
        exact absurd hended (by simp [Outcome.escaped])

/-- The arguments ask for a class. -/
def Requests (arguments : List String) (r : GenerateRequest) : Prop :=
  ∃ logLevel rest, Request.ofArguments arguments = .ok (.generate logLevel rest) ∧
    GenerateRequest.ofArguments rest = .ok (some r)

theorem Requests.unique {arguments : List String} {other : GenerateRequest}
    (h : Requests arguments r) (hother : Requests arguments other) : other = r := by
  obtain ⟨logLevel, rest, hrequest, harguments⟩ := h
  obtain ⟨logLevel', rest', hrequest', harguments'⟩ := hother
  obtain ⟨-, rfl⟩ := Request.generate.inj (Except.ok.inj (hrequest.symm.trans hrequest'))
  exact Option.some.inj (Except.ok.inj (harguments'.symm.trans harguments))

section

variable {defaultLevel : String} {arguments rest : List String} {logLevel : Option String}
  {level : Nat}

/-- A command line that asks for a class does what is asked, with the records of its log cut to the
level. -/
theorem run_of_request (h : Host)
    (hrequest : Request.ofArguments arguments = .ok (.generate logLevel rest))
    (hlevel : threshold logLevel defaultLevel = .ok level)
    (harguments : GenerateRequest.ofArguments rest = .ok (some r)) :
    run h defaultLevel arguments =
      (runGenerate h r).map fun o => { o with records := kept level o.records } := by
  rw [run, hrequest]
  show runRequest h defaultLevel (.generate logLevel rest) = _
  rw [runRequest, hlevel]
  show runCommand h level rest = _
  rw [runCommand, harguments]
  show (runGenerate h r >>= fun o => _) = _
  cases runGenerate h r with
  | error e => rfl
  | ok o => rfl

/-- The same for a run that gets as far as its pass. -/
theorem run_of_starts
    (hrequest : Request.ofArguments arguments = .ok (.generate logLevel rest))
    (hlevel : threshold logLevel defaultLevel = .ok level)
    (harguments : GenerateRequest.ofArguments rest = .ok (some r))
    (hstarts : Starts h r project place properties) :
    run h defaultLevel arguments =
      .ok { runPass h r project place properties (discover h.tree place) with
        records := kept level
          (runPass h r project place properties (discover h.tree place)).records } := by
  rw [run_of_request h hrequest hlevel harguments, runGenerate_of_starts hstarts]
  rfl

/-- **A run that nothing ends early** shows something, whatever there is in its host, or does what is
asked. -/
theorem run_cases {outcome : Outcome} (hrun : run h defaultLevel arguments = .ok outcome)
    (hended : outcome.escape = none) :
    (outcome.changes = [] ∧ (∀ other, run other defaultLevel arguments = .ok outcome) ∧
      ∀ r, ¬ Requests arguments r) ∨
    ∃ r level, Requests arguments r ∧ ∀ other, run other defaultLevel arguments =
      (runGenerate other r).map fun o => { o with records := kept level o.records } := by
  obtain ⟨request, hrequest, hrequested⟩ := exists_of_bind_eq_ok hrun
  have hsame : (∀ other, runRequest other defaultLevel request = .ok outcome) →
      ∀ other, run other defaultLevel arguments = .ok outcome := by
    intro hall other
    rw [run, hrequest]
    exact hall other
  have hasked : ∀ r, Requests arguments r → ∃ logLevel rest, request = .generate logLevel rest ∧
      GenerateRequest.ofArguments rest = .ok (some r) := by
    intro r hrequests
    obtain ⟨logLevel, rest, hother, harguments⟩ := hrequests
    exact ⟨logLevel, rest, Except.ok.inj (hrequest.symm.trans hother), harguments⟩
  cases request with
  | showVersion =>
    refine .inl ⟨?_, hsame fun _ => hrequested, fun r hrequests => ?_⟩
    · rw [← Except.ok.inj hrequested]
      rfl
    · obtain ⟨_, _, heq, -⟩ := hasked r hrequests
      exact absurd heq (by simp)
  | showHelp =>
    refine .inl ⟨?_, hsame fun _ => hrequested, fun r hrequests => ?_⟩
    · rw [← Except.ok.inj hrequested]
      rfl
    · obtain ⟨_, _, heq, -⟩ := hasked r hrequests
      exact absurd heq (by simp)
  | generate logLevel rest =>
    cases hlevel : threshold logLevel defaultLevel with
    | error name =>
      rw [runRequest, hlevel] at hrequested
      rw [← Except.ok.inj hrequested] at hended
      exact absurd hended (by simp [Outcome.escaped])
    | ok level =>
      have hcommand : ∀ other, runRequest other defaultLevel (.generate logLevel rest) =
          runCommand other level rest := by
        intro other
        rw [runRequest, hlevel]
      rw [hcommand] at hrequested
      obtain ⟨asked, harguments, hdone⟩ := exists_of_bind_eq_ok hrequested
      cases asked with
      | none =>
        refine .inl ⟨?_, hsame fun other => ?_, fun r hrequests => ?_⟩
        · rw [← Except.ok.inj hdone]
          rfl
        · rw [hcommand, runCommand, harguments]
          exact hdone
        · obtain ⟨_, _, heq, hother⟩ := hasked r hrequests
          obtain ⟨-, rfl⟩ := Request.generate.inj heq
          exact absurd (harguments.symm.trans hother) (by simp)
      | some r =>
        exact .inr ⟨r, level, ⟨logLevel, rest, hrequest, harguments⟩, fun other =>
          run_of_request other hrequest hlevel harguments⟩

end

/-! ### From the pass on -/

/-- The outcome of a pass can be delivered: a source can be encoded; where it is written, this can
be done; and where a file may have to be removed, it can be looked for. -/
structure Deliverable (h : Host) (toStdout : Bool) (target : Path) (name : String)
    (g : Generation) : Prop where
  encodable : ∀ source, g.output = some source → ∃ s, source = ofString s
  writable : toStdout = false → g.isSuccess = true → CanWrite h target name
  removable : toStdout = false → g.isSuccess = false → h.meetsLong (target.child name) = false

variable {target : Path} {name : String} {g : Generation}

/-- The source is printed, as far as a text is printed, and nothing else happens. -/
structure Printed (g : Generation) (d : Delivery) : Prop where
  escape : d.escape = none
  changes : d.changes = []
  output : ofString d.output = printed (g.output.getD [])

theorem deliver_printed (hname : g.hintName = some name)
    (hencodable : ∀ source, g.output = some source → ∃ s, source = ofString s) :
    Printed g (deliver h target true g) := by
  unfold deliver
  rw [hname]
  cases houtput : g.output with
  | none =>
    refine ⟨rfl, rfl, ?_⟩
    rw [houtput, Option.getD_none, printed]
    rfl
  | some source =>
    obtain ⟨s, rfl⟩ := hencodable source houtput
    obtain ⟨output, heq, hprinted⟩ := printSource_ofString s
    simp only [if_true]
    rw [heq]
    refine ⟨rfl, rfl, ?_⟩
    rw [houtput]
    exact hprinted

/-- The source is in its file, or there is no file, and nothing else happens. -/
structure Filed (h : Host) (target : Path) (name : String) (g : Generation) (d : Delivery) :
    Prop where
  escape : d.escape = none
  output : d.output = ""
  written : ∀ s, g.output = some (ofString s) → d.changes = writeChanges h target name s
  removed : g.output = none → Removes h (target.child name) d.changes

theorem deliver_filed (hname : g.hintName = some name)
    (hdeliverable : Deliverable h false target name g) :
    Filed h target name g (deliver h target false g) := by
  cases houtput : g.output with
  | none =>
    have hfailed : g.isSuccess = false := by rw [Generation.isSuccess, houtput, Option.isSome_none]
    obtain ⟨changes, events, heq, hremoves⟩ :=
      removeStale_removes (hdeliverable.removable rfl hfailed)
    rw [deliver_of_failure hname houtput, heq]
    refine ⟨rfl, rfl, fun s hs => ?_, fun _ => hremoves⟩
    rw [houtput] at hs
    exact absurd hs (by simp)
  | some source =>
    obtain ⟨s, rfl⟩ := hdeliverable.encodable source houtput
    have hsuccess : g.isSuccess = true := by rw [Generation.isSuccess, houtput, Option.isSome_some]
    rw [deliver_of_output hname houtput,
      writeSource_of_canWrite (hdeliverable.writable rfl hsuccess)]
    refine ⟨rfl, rfl, fun other hother => ?_, fun hnone => ?_⟩
    · rw [houtput, Option.some.injEq] at hother
      rw [ofString_injective hother]
    · rw [houtput] at hnone
      exact absurd hnone (by simp)

/-- What a run does, from its pass on.  Its class belongs in the file of this name in the target
folder.

* No failure of the surroundings ends it.  It shows the diagnostics of the pass, each with its
  line, in their order, and ends with the exit code 1 exactly when there is no source and this was
  to count as a failure.
* A run that is to print the source changes nothing.  What it prints is the source without its
  control sequences, and nothing where there is no source; so it prints the source itself exactly
  when no control sequence starts in it.
* Any other run prints nothing.  If there is a source, the file is there afterwards and holds it in
  UTF-8; else is as it was, but for folders on the way to the file that were missing.
* If there is no source, there is no such file afterwards; all else is as it was, and no folder is
  made. -/
structure Effects (h : Host) (r : GenerateRequest) (target : Path) (name : String) (g : Generation)
    (o : Outcome) : Prop where
  escape : o.escape = none
  diagnostics : o.diagnostics = g.diagnostics
  lines : List.Forall₂ (fun d line => ∃ text, d.render = .ok text ∧ line = shown text)
    g.diagnostics o.diagnosticLines
  exitCode : o.exitCode = if r.failOnError && !g.isSuccess then 1 else 0
  unchanged : r.toStdout = true → (h.after o).tree = h.tree
  printed : r.toStdout = true → ofString o.output = printed (g.output.getD [])
  exact : r.toStdout = true → ∀ source, g.output = some source →
    (ofString o.output = source ↔ Uncontrolled source)
  silent : r.toStdout = false → o.output = ""
  written : r.toStdout = false → ∀ s, g.output = some (ofString s) →
    (h.after o).stat (target.child name) = some (.file s.toUTF8) ∧
    ∀ q ≠ h.placeOf (target.child name),
      (h.after o).tree.find? q = h.tree.find? q ∨
      h.tree.find? q = none ∧ (h.after o).tree.find? q = some .folder ∧
      ∃ n ≤ target.parts.length, q = placeFrom (h.startOf target) (target.parts.take n)
  removed : r.toStdout = false → g.output = none →
    (∀ content, (h.after o).stat (target.child name) ≠ some (.file content)) ∧
    (∀ q ≠ h.placeOf (target.child name), (h.after o).tree.find? q = h.tree.find? q) ∧
    ∀ q, (h.after o).tree.isFolder q = h.tree.isFolder q

/-- Every diagnostic that has a line is shown with it, in order. -/
theorem forall₂_diagnosticLines {ds : List Diagnostic}
    (h : ∀ d ∈ ds, ∃ line, d.render = .ok line) :
    List.Forall₂ (fun d line => ∃ text, d.render = .ok text ∧ line = shown text) ds
      (ds.filterMap fun d => d.render.toOption.map shown) := by
  induction ds with
  | nil => exact .nil
  | cons d rest ih =>
    obtain ⟨text, hrender⟩ := h d List.mem_cons_self
    rw [List.filterMap_cons, hrender]
    exact .cons ⟨text, hrender, rfl⟩ (ih fun e he => h e (List.mem_cons_of_mem _ he))

/-- **From its pass on a run has these effects**, whichever records of its log are kept. -/
theorem effects_runPass (hsound : h.Sound) (hup : name ≠ "..")
    (hname : (passOf h place properties).hintName = some name)
    (hdeliverable : Deliverable h r.toStdout (targetOf r project) name (passOf h place properties))
    (records : List Record) :
    Effects h r (targetOf r project) name (passOf h place properties)
      { runPass h r project place properties (discover h.tree place) with records := records } := by
  have hprinted : r.toStdout = true → Printed (passOf h place properties)
      (deliver h (targetOf r project) r.toStdout (passOf h place properties)) := by
    intro hmode
    rw [hmode]
    exact deliver_printed hname hdeliverable.encodable
  have hfiled : r.toStdout = false → Filed h (targetOf r project) name (passOf h place properties)
      (deliver h (targetOf r project) r.toStdout (passOf h place properties)) := by
    intro hmode
    rw [hmode] at hdeliverable ⊢
    exact deliver_filed hname hdeliverable
  have hescape : (deliver h (targetOf r project) r.toStdout (passOf h place properties)).escape =
      none := by
    cases hmode : r.toStdout with
    | true => exact hmode ▸ (hprinted hmode).escape
    | false => exact hmode ▸ (hfiled hmode).escape
  refine
    { escape := hescape
      diagnostics := rfl
      lines := forall₂_diagnosticLines fun d hd => exists_render_of_mem_diagnostics hd
      exitCode := ?_
      unchanged := ?_
      printed := fun hmode => (hprinted hmode).output
      exact := ?_
      silent := fun hmode => (hfiled hmode).output
      written := ?_
      removed := ?_ }
  · show (if (deliver h (targetOf r project) r.toStdout
          (passOf h place properties)).escape.isSome ||
        (r.failOnError && !(passOf h place properties).errors.isEmpty) then 1 else 0) = _
    have herrors : (passOf h place properties).errors.isEmpty =
        (passOf h place properties).isSuccess :=
      Bool.eq_iff_iff.mpr (List.isEmpty_iff.trans output_isSome_iff.symm)
    rw [hescape, herrors]
    rfl
  · intro hmode
    show h.tree.applyAll
      (deliver h (targetOf r project) r.toStdout (passOf h place properties)).changes = _
    rw [(hprinted hmode).changes]
    rfl
  · intro hmode source hsource
    have houtput := (hprinted hmode).output
    rw [hsource, Option.getD_some] at houtput
    rw [← printed_eq_self_iff, ← houtput]
    rfl
  · intro hmode s hs
    have hchanges := (hfiled hmode).written s hs
    have hsuccess : (passOf h place properties).isSuccess = true := by
      rw [Generation.isSuccess, hs, Option.isSome_some]
    have hafter : h.after { runPass h r project place properties (discover h.tree place) with
        records := records } = h.changed (writeChanges h (targetOf r project) name s) :=
      congrArg h.changed hchanges
    rw [hafter, Host.placeOf_child h _ hup]
    exact ⟨stat_writeChanges hsound (hdeliverable.writable hmode hsuccess) hup s,
      fun q hq => frame_writeChanges s hq⟩
  · intro hmode hnone
    obtain ⟨hgone, hothers, hfolders⟩ := (hfiled hmode).removed hnone
    exact ⟨hgone, hothers, hfolders⟩

section

variable {defaultLevel : String} {arguments rest : List String} {logLevel : Option String}
  {level : Nat}

/-- A command line that asks for a class has these effects. -/
theorem exists_outcome (hsound : h.Sound)
    (hrequest : Request.ofArguments arguments = .ok (.generate logLevel rest))
    (hlevel : threshold logLevel defaultLevel = .ok level)
    (harguments : GenerateRequest.ofArguments rest = .ok (some r))
    (hstarts : Starts h r project place properties) (hup : name ≠ "..")
    (hname : (passOf h place properties).hintName = some name)
    (hdeliverable :
      Deliverable h r.toStdout (targetOf r project) name (passOf h place properties)) :
    ∃ outcome, run h defaultLevel arguments = .ok outcome ∧
      Effects h r (targetOf r project) name (passOf h place properties) outcome :=
  ⟨_, run_of_starts hrequest hlevel harguments hstarts,
    effects_runPass hsound hup hname hdeliverable _⟩

/-- **What a run does.**  Let a command line ask for a class, in a host whose tree is that of a file
system, and get as far as its pass.  Then there is a name for the file of the class, and if the
outcome of the pass can be delivered, the run has the effects that it should have. -/
theorem run_effects (hsound : h.Sound)
    (hrequest : Request.ofArguments arguments = .ok (.generate logLevel rest))
    (hlevel : threshold logLevel defaultLevel = .ok level)
    (harguments : GenerateRequest.ofArguments rest = .ok (some r))
    (hstarts : Starts h r project place properties) :
    ∃ o : ClassOptions,
      (resolveOptions fun name => .ok (properties.get? name)).ending = .ok o ∧
      (passOf h place properties).hintName = some o.hintName ∧
      (Deliverable h r.toStdout (targetOf r project) o.hintName (passOf h place properties) →
        ∃ outcome, run h defaultLevel arguments = .ok outcome ∧
          Effects h r (targetOf r project) o.hintName (passOf h place properties) outcome) := by
  obtain ⟨o, hoptions, hname⟩ := exists_hintName h place properties
  exact ⟨o, hoptions, hname,
    exists_outcome hsound hrequest hlevel harguments hstarts (hintName_ne_up o) hname⟩

end

/-! ### A text with a control sequence -/

/-- A project whose only text starts with a control sequence. -/
def redHost : Host where
  tree := FileTree.empty.add ["p", "i18n", "default.json"]
    (.file "\x7b\"k\":\"\x1b[31mred\"\x7d".toUTF8)
  workingFolder := []
  environment _ := none

theorem sound_redHost : redHost.Sound :=
  ⟨⟨by decide, by decide⟩, by decide⟩

/-- A run over this project gets as far as its pass. -/
theorem starts_redHost {r : GenerateRequest} (hoperands : r.operands = ["p"])
    (houtput : ∀ written ∈ r.output, (redHost.stat (.ofString written)).isNone = true)
    (hproperties : r.properties = []) :
    Starts redHost r (.ofString "p") ["p"] (mergedProperties default ∅) where
  given := by rw [GenerateRequest.project, hoperands]; rfl
  found := by decide +kernel
  output := by
    intro written hwritten content hstat
    have hnone := houtput written hwritten
    rw [hstat] at hnone
    exact absurd hnone Bool.false_ne_true
  settled := ⟨⟨"INFO", .console, default⟩, ∅, by decide +kernel, by rw [hproperties]; rfl, rfl⟩
  reach := by decide +kernel

/-- The entry of its text. -/
def redEntry : Entry := ⟨"k", "K", "\x1b[31mred", []⟩

/-- No option is given for it. -/
theorem options_redHost :
    (resolveOptions fun name => .ok ((mergedProperties default ∅).get? name)).ending =
      .ok ClassSource.plainOptions := by
  decide

/-- Its source is that of this entry. -/
theorem output_redHost :
    (passOf redHost ["p"] (mergedProperties default ∅)).output =
      some (ClassSource.source ClassSource.plainOptions [redEntry]) := by
  have hread : (Catalog.read (Naming.reservedNames ClassSource.plainOptions.className)
      (redHost.loader ["p"]) (discover redHost.tree ["p"])).ending =
        .ok (.ok ⟨[redEntry], []⟩) := by decide +kernel
  rw [passOf, generate_of_catalog options_redHost hread]

/-- There is no half in it, and the control sequence of the text starts in it. -/
theorem exists_output_redHost :
    ∃ s, (passOf redHost ["p"] (mergedProperties default ∅)).output = some (ofString s) ∧
      ¬ Uncontrolled (ofString s) := by
  obtain ⟨s, hs⟩ := whole_iff.mp (ClassSource.whole_source (o := ClassSource.plainOptions)
    (List.forall_mem_singleton.mpr ⟨whole_ofString "k", whole_ofString "\x1b[31mred"⟩ :
      ∀ e ∈ [redEntry], Whole e.key ∧ Whole e.text))
  rw [output_redHost, hs]
  refine ⟨s, rfl, fun h => ?_⟩
  rw [← hs] at h
  exact absurd (ClassSource.uncontrolled_docText h redEntry List.mem_cons_self) (by decide)

theorem hintName_redHost :
    (passOf redHost ["p"] (mergedProperties default ∅)).hintName = some "I18n.generated.cs" := by
  obtain ⟨o, ho, hname⟩ := exists_hintName redHost ["p"] (mergedProperties default ∅)
  obtain rfl := Except.ok.inj (ho.symm.trans options_redHost)
  exact hname

/-- The class of this project is written to a folder that is made for it. -/
theorem run_effects_red :
    ∃ outcome s, run redHost "INFO" ["generate", "p", "-o", "out"] = .ok outcome ∧
      (passOf redHost ["p"] (mergedProperties default ∅)).output = some (ofString s) ∧
      (redHost.after outcome).stat ((Path.ofString "out").child "I18n.generated.cs") =
        some (.file s.toUTF8) ∧
      outcome.exitCode = 0 := by
  obtain ⟨s, hs, -⟩ := exists_output_redHost
  have hsuccess : (passOf redHost ["p"] (mergedProperties default ∅)).isSuccess = true := by
    rw [Generation.isSuccess, hs, Option.isSome_some]
  have hrequest : Request.ofArguments ["generate", "p", "-o", "out"] =
      .ok (.generate none ["p", "-o", "out"]) := by decide +kernel
  have hlevel : threshold none "INFO" = .ok 20 := by decide
  have harguments : GenerateRequest.ofArguments ["p", "-o", "out"] =
      .ok (some ⟨["p"], some "out", [], false, false⟩) := by decide +kernel
  obtain ⟨o, -, hname, hrun⟩ := run_effects sound_redHost hrequest hlevel harguments
    (starts_redHost rfl (by decide +kernel) rfl)
  rw [hintName_redHost, Option.some.injEq] at hname
  obtain ⟨outcome, hok, heffects⟩ := hrun
    { encodable := fun source hsource =>
        ⟨s, (Option.some.inj (hs.symm.trans hsource)).symm⟩
      writable := fun _ _ => hname ▸ ⟨by decide +kernel, by decide +kernel, by decide +kernel,
        by decide +kernel, by decide +kernel, by decide +kernel⟩
      removable := fun _ hfailed => absurd (hsuccess.symm.trans hfailed) (by decide) }
  refine ⟨outcome, s, hok, hs, ?_, ?_⟩
  · rw [hname]
    exact (heffects.written rfl s hs).1
  · rw [heffects.exitCode, hsuccess]
    rfl

/-- **Printed, the class of this project is another one**: its text has lost its control
sequence. -/
theorem run_prints_otherwise :
    ∃ outcome source, run redHost "INFO" ["generate", "p", "--stdout"] = .ok outcome ∧
      outcome.escape = none ∧ outcome.exitCode = 0 ∧
      (passOf redHost ["p"] (mergedProperties default ∅)).output = some source ∧
      ofString outcome.output ≠ source := by
  obtain ⟨s, hs, hcontrolled⟩ := exists_output_redHost
  have hrequest : Request.ofArguments ["generate", "p", "--stdout"] =
      .ok (.generate none ["p", "--stdout"]) := by decide +kernel
  have hlevel : threshold none "INFO" = .ok 20 := by decide
  have harguments : GenerateRequest.ofArguments ["p", "--stdout"] =
      .ok (some ⟨["p"], none, [], false, true⟩) := by decide +kernel
  have hdeliverable : Deliverable redHost true (.ofString "p") "I18n.generated.cs"
      (passOf redHost ["p"] (mergedProperties default ∅)) :=
    { encodable := fun source hsource =>
        ⟨s, (Option.some.inj (hs.symm.trans hsource)).symm⟩
      writable := fun hmode => absurd hmode (by decide)
      removable := fun hmode => absurd hmode (by decide) }
  obtain ⟨outcome, hrun, heffects⟩ := exists_outcome sound_redHost hrequest hlevel harguments
    (starts_redHost rfl (by decide) rfl) (by decide) hintName_redHost hdeliverable
  refine ⟨outcome, _, hrun, heffects.escape, ?_, hs, fun heq => ?_⟩
  · rw [heffects.exitCode]
    rfl
  · exact hcontrolled ((heffects.exact rfl _ hs).mp heq)

end Phrasebook.Command
