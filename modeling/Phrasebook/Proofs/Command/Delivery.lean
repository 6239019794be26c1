import Phrasebook.Command.Run
import Phrasebook.Proofs.Files.Tree
import Phrasebook.Proofs.Text.Terminal

/-!
# What a delivery does to the files

The source of a class is printed or written to its file, and where there is none, the file of an
earlier run is removed:

* `Host.placeOf` — the place of a path, as its parts say;
* `CanWrite`, `writeSource_of_canWrite`, `canWrite_of_writeSource` — when the file is written, and
  with which changes;
* `stat_writeChanges`, `frame_writeChanges`, `new_of_writeChanges` — its path leads to it, and nothing
  else changes but for folders that were missing;
* `removeStale_cases`, `Removes`, `removeStale_removes` — there is no file afterwards, and nothing
  else changes;
* `printSource_ofString` — what is printed;
* `deliver_of_output`, `deliver_of_failure` — which of them is done.
-/

namespace Phrasebook.Command

open Phrasebook.Text

/-- The place that the parts of a path say. -/
def Host.placeOf (h : Host) (p : Path) : Place :=
  placeFrom (h.startOf p) p.parts

/-- The host after some changes. -/
def Host.changed (h : Host) (changes : List Change) : Host :=
  { h with tree := h.tree.applyAll changes }

/-- The tree of the host is that of a file system, and the host is in a folder of it. -/
structure Host.Sound (h : Host) : Prop where
  wellFormed : h.tree.WellFormed
  working : h.tree.isFolder h.workingFolder = true

variable {h : Host} {target : Path} {name : String}

/-- A path starts in a folder. -/
theorem Host.Sound.rooted_startOf (hsound : h.Sound) (p : Path) : h.tree.Rooted (h.startOf p) := by
  refine hsound.wellFormed.rooted ?_
  unfold Host.startOf
  split
  · rfl
  · exact hsound.working

/-- The place of a file is in the folder of its path. -/
theorem Host.placeOf_child (h : Host) (target : Path) (hname : name ≠ "..") :
    h.placeOf (target.child name) = h.placeOf target ++ [name] := by
  show placeFrom (h.startOf target) (target.parts ++ [name]) = _
  rw [placeFrom, List.foldl_append, List.foldl_cons, if_neg hname]
  rfl

theorem Host.resolve?_eq_placeOf {p : Path} {place : Place} (hplace : h.resolve? p = some place) :
    place = h.placeOf p :=
  FileTree.resolve?_eq_placeFrom hplace

/-! ### Writing -/

/-- The folders that have to be made for a target. -/
def Host.missing (h : Host) (target : Path) : List Place :=
  (h.tree.missingFolders (h.startOf target) target.parts).1

/-- The target folder is there or can be made, and a file of this name can be written in it: no
path or name is too long, and no folder is in the place of the file. -/
structure CanWrite (h : Host) (target : Path) (name : String) : Prop where
  noNul : hasNul target.toString = false
  short : target.isLong = false
  reached : (h.tree.missingFolders (h.startOf target) target.parts).2 = .ok (h.placeOf target)
  shortName : isLongName name = false
  shortPath : (target.child name).isLong = false
  free : (h.changed ((h.missing target).map .makeFolder)).tree.isFolder
    (h.placeOf target ++ [name]) = false

instance : Decidable (CanWrite h target name) :=
  decidable_of_iff
    (hasNul target.toString = false ∧ target.isLong = false ∧
      (h.tree.missingFolders (h.startOf target) target.parts).2 = .ok (h.placeOf target) ∧
      isLongName name = false ∧ (target.child name).isLong = false ∧
      (h.changed ((h.missing target).map .makeFolder)).tree.isFolder
        (h.placeOf target ++ [name]) = false)
    ⟨fun ⟨hnul, hshort, hreached, hname, hpath, hfree⟩ =>
        ⟨hnul, hshort, hreached, hname, hpath, hfree⟩,
      fun hwrite => ⟨hwrite.noNul, hwrite.short, hwrite.reached, hwrite.shortName, hwrite.shortPath,
        hwrite.free⟩⟩

/-- The changes of a delivery that writes a file. -/
def writeChanges (h : Host) (target : Path) (name s : String) : List Change :=
  (h.missing target).map .makeFolder ++ [.write (h.placeOf target ++ [name]) s.toUTF8]

theorem writeSource_of_canWrite (hwrite : CanWrite h target name) (s : String) :
    writeSource h target name (ofString s) = ⟨"", writeChanges h target name s,
      [.sourceWritten (target.child name).toString], none⟩ := by
  have hfree : (h.tree.applyAll (((h.tree.missingFolders (h.startOf target) target.parts).1).map
      Change.makeFolder)).isFolder (h.placeOf target ++ [name]) = false := hwrite.free
  rw [writeSource, hwrite.noNul, hwrite.short]
  simp only [hwrite.reached, writeFile, hwrite.shortName, hwrite.shortPath, hfree,
    toString?_ofString]
  rfl

/-- **A source is written to the end only if its file can be written and it has an encoding.** -/
theorem canWrite_of_writeSource {source : Text}
    (hescape : (writeSource h target name source).escape = none) :
    CanWrite h target name ∧ ∃ s, source = ofString s := by
  unfold writeSource at hescape
  by_cases hnul : hasNul target.toString = true
  · rw [if_pos hnul] at hescape
    exact absurd hescape (by simp [Delivery.broken])
  rw [if_neg hnul] at hescape
  by_cases hlong : target.isLong = true
  · rw [if_pos hlong] at hescape
    exact absurd hescape (by simp [Delivery.broken])
  rw [if_neg hlong] at hescape
  cases hreached : (h.tree.missingFolders (h.startOf target) target.parts).2 with
  | error obstacle =>
    simp only [hreached] at hescape
    exact absurd hescape (by simp [Delivery.broken])
  | ok folder =>
    have hfolder : folder = h.placeOf target := FileTree.missingFolders_eq_placeFrom hreached
    simp only [hreached] at hescape
    unfold writeFile at hescape
    by_cases hname : (isLongName name || (target.child name).isLong) = true
    · simp only [hname] at hescape
      exact absurd hescape (by simp [Delivery.broken])
    rw [Bool.not_eq_true, Bool.or_eq_false_iff] at hname
    simp only [hname.1, hname.2, Bool.or_self, Bool.false_eq_true, if_false] at hescape
    split at hescape
    · exact absurd hescape (by simp [Delivery.broken])
    · rename_i hfree
      cases hsource : source.toString? with
      | none =>
        simp only [hsource] at hescape
        exact absurd hescape (by simp [Delivery.broken])
      | some s =>
        refine ⟨?_, s, eq_ofString_of_toString? hsource⟩
        exact
          { noNul := Bool.eq_false_iff.mpr hnul
            short := Bool.eq_false_iff.mpr hlong
            reached := hfolder ▸ hreached
            shortName := hname.1
            shortPath := hname.2
            free := hfolder ▸ Bool.eq_false_iff.mpr hfree }

/-- What is at a place after a file was written with its folders. -/
theorem find?_writeChanges (s : String) (q : Place) :
    (h.changed (writeChanges h target name s)).tree.find? q =
      if q = h.placeOf target ++ [name] then some (.file s.toUTF8)
      else if q ∈ h.missing target ∧ h.tree.find? q = none then some .folder
      else h.tree.find? q := by
  have hne : h.placeOf target ++ [name] ≠ [] :=
    List.append_ne_nil_of_right_ne_nil _ (List.cons_ne_nil name [])
  show ((h.tree.applyAll ((h.missing target).map .makeFolder ++ [.write _ s.toUTF8])).find? q) = _
  rw [FileTree.applyAll, List.foldl_append]
  show ((h.tree.applyAll ((h.missing target).map .makeFolder)).put _ (.file s.toUTF8)).find? q = _
  rw [FileTree.find?_put hne, FileTree.find?_makeFolders]

/-- Folders stay where a file is written. -/
theorem isFolder_writeChanges (hwrite : CanWrite h target name) (s : String) {q : Place}
    (hq : h.tree.isFolder q = true ∨ q ∈ h.missing target) :
    (h.changed (writeChanges h target name s)).tree.isFolder q = true := by
  have hmade : (h.changed ((h.missing target).map .makeFolder)).tree.isFolder q = true := by
    rw [FileTree.isFolder_iff]
    show (h.tree.applyAll ((h.missing target).map .makeFolder)).find? q = _
    rw [FileTree.find?_makeFolders]
    rcases hq with hq | hq
    · rw [FileTree.isFolder_iff] at hq
      rw [hq]
      simp
    · rw [if_pos ⟨hq, (FileTree.mem_missingFolders hq).1⟩]
  have hne : q ≠ h.placeOf target ++ [name] := by
    rintro rfl
    rw [hwrite.free] at hmade
    exact absurd hmade (by decide)
  rw [FileTree.isFolder_iff] at hmade ⊢
  rw [find?_writeChanges, if_neg hne, ← FileTree.find?_makeFolders]
  exact hmade

/-- **The file is written**, and its path leads to it. -/
theorem stat_writeChanges (hsound : h.Sound) (hwrite : CanWrite h target name) (hname : name ≠ "..")
    (s : String) :
    (h.changed (writeChanges h target name s)).stat (target.child name) =
      some (.file s.toUTF8) := by
  have hresolve : (h.changed (writeChanges h target name s)).resolve? (target.child name) =
      some (h.placeOf target ++ [name]) :=
    FileTree.resolve?_of_missingFolders hname
      (fun q hq => isFolder_writeChanges hwrite s (.inl hq))
      ((hsound.rooted_startOf target).mono fun q hq => isFolder_writeChanges hwrite s (.inl hq))
      hwrite.reached (fun q hq => isFolder_writeChanges hwrite s (.inr hq))
  rw [Host.stat, hwrite.shortPath, if_neg (by decide), hresolve, Option.bind_some,
    find?_writeChanges, if_pos rfl]

/-- **Nothing else changes**, but for the folders on the way to the file that were missing. -/
theorem frame_writeChanges (s : String) {q : Place} (hq : q ≠ h.placeOf target ++ [name]) :
    (h.changed (writeChanges h target name s)).tree.find? q = h.tree.find? q ∨
      h.tree.find? q = none ∧
      (h.changed (writeChanges h target name s)).tree.find? q = some .folder ∧
      ∃ n ≤ target.parts.length, q = placeFrom (h.startOf target) (target.parts.take n) := by
  rw [find?_writeChanges, if_neg hq]
  split
  · rename_i hmissing
    exact .inr ⟨hmissing.2, rfl, (FileTree.mem_missingFolders hmissing.1).2⟩
  · exact .inl rfl

/-- What is new where a file was written is this file and the folders that were missing. -/
theorem new_of_writeChanges (s : String) {q : Place} (hnone : h.tree.find? q = none)
    (hsome : (h.changed (writeChanges h target name s)).tree.find? q ≠ none) :
    q ∈ h.missing target ∨ q = h.placeOf target ++ [name] := by
  by_cases hq : q = h.placeOf target ++ [name]
  · exact .inr hq
  · refine .inl ?_
    by_contra hout
    rw [find?_writeChanges, if_neg hq, if_neg fun hmem => hout hmem.1] at hsome
    exact hsome hnone

/-! ### Removing -/

/-- What a path leads to is at the place that its parts say. -/
theorem Host.find?_of_stat {p : Path} {node : Node} (hstat : h.stat p = some node) :
    h.tree.find? (h.placeOf p) = some node := by
  rw [Host.stat] at hstat
  split at hstat
  · exact absurd hstat (by simp)
  · obtain ⟨place, hresolve, hnode⟩ := Option.bind_eq_some_iff.mp hstat
    rwa [Host.resolve?_eq_placeOf hresolve] at hnode

/-- What removing comes to: the path leads to no file and nothing is done, or it leads to the file
and this is removed. -/
theorem removeStale_cases (hreach : h.meetsLong (target.child name) = false) :
    (removeStale h target name = ⟨"", [], [], none⟩ ∧
      ∀ content, h.stat (target.child name) ≠ some (.file content)) ∨
    (∃ content events, h.stat (target.child name) = some (.file content) ∧
      removeStale h target name =
        ⟨"", [.remove (h.placeOf (target.child name))], events, none⟩) := by
  have hshort : (target.child name).isLong = false := by
    rw [Host.meetsLong, Bool.or_eq_false_iff] at hreach
    exact hreach.1
  rw [Host.stat, hshort, if_neg (by decide), removeStale]
  simp only [hreach]
  cases hresolve : h.resolve? (target.child name) with
  | none => exact .inl ⟨rfl, fun content hstat => absurd hstat (by simp)⟩
  | some place =>
    rw [← Host.resolve?_eq_placeOf hresolve, Option.bind_some]
    cases hfile : h.tree.isFile place with
    | true =>
      obtain ⟨content, hcontent⟩ := FileTree.isFile_iff.mp hfile
      exact .inr ⟨content, _, hcontent, by simp only [hfile]; rfl⟩
    | false =>
      refine .inl ⟨by simp only [hfile]; rfl, fun content hstat => ?_⟩
      rw [FileTree.isFile_iff.mpr ⟨content, hstat⟩] at hfile
      exact absurd hfile (by decide)

section

variable {place : Place} {content : ByteArray} (hfile : h.tree.find? place = some (.file content))

include hfile

/-- What is at a place after a file was removed. -/
theorem find?_removed (q : Place) :
    (h.changed [.remove place]).tree.find? q = if q = place then none else h.tree.find? q := by
  apply FileTree.find?_remove
  intro hroot
  rw [hroot, FileTree.find?_root] at hfile
  exact absurd hfile (by simp)

/-- Where a file is removed the same folders are there. -/
theorem isFolder_removed (q : Place) :
    (h.changed [.remove place]).tree.isFolder q = h.tree.isFolder q := by
  unfold FileTree.isFolder
  by_cases hq : q = place
  · rw [find?_removed hfile, if_pos hq, hq, hfile]
  · rw [find?_removed hfile, if_neg hq]

end

/-- No file is at the end of a path, all else is as it was, and no folder is made. -/
structure Removes (h : Host) (file : Path) (changes : List Change) : Prop where
  gone : ∀ content, (h.changed changes).stat file ≠ some (.file content)
  others : ∀ q ≠ h.placeOf file, (h.changed changes).tree.find? q = h.tree.find? q
  folders : ∀ q, (h.changed changes).tree.isFolder q = h.tree.isFolder q

/-- **The file of an earlier run is removed**, and nothing else changes. -/
theorem removeStale_removes (hreach : h.meetsLong (target.child name) = false) :
    ∃ changes events, removeStale h target name = ⟨"", changes, events, none⟩ ∧
      Removes h (target.child name) changes := by
  obtain ⟨heq, hnone⟩ | ⟨content, events, hstat, heq⟩ := removeStale_cases hreach
  · exact ⟨[], [], heq, hnone, fun _ _ => rfl, fun _ => rfl⟩
  · have hfile := Host.find?_of_stat hstat
    refine ⟨_, events, heq, fun other hother => ?_, fun q hq => ?_, isFolder_removed hfile⟩
    · -- wherever the path leads now, it is the place where the file was
      have hgone := find?_removed hfile (h.placeOf (target.child name))
      rw [if_pos rfl] at hgone
      exact absurd (hgone.symm.trans (Host.find?_of_stat hother)) (by simp)
    · rw [find?_removed hfile, if_neg hq]

/-! ### Printing -/

theorem printSource_ofString (s : String) :
    ∃ output, printSource (ofString s) = ⟨output, [], [], none⟩ ∧
      ofString output = printed (ofString s) := by
  obtain ⟨output, houtput⟩ := exists_ofString_printed s
  refine ⟨output, ?_, houtput.symm⟩
  rw [printSource, houtput, toString?_ofString]

/-! ### Which of them is done -/

variable {g : Generation}

theorem deliver_of_output {source : Text} (hname : g.hintName = some name)
    (houtput : g.output = some source) :
    deliver h target false g = writeSource h target name source := by
  unfold deliver
  rw [hname, houtput]
  rfl

theorem deliver_of_failure (hname : g.hintName = some name) (houtput : g.output = none) :
    deliver h target false g = removeStale h target name := by
  unfold deliver
  rw [hname, houtput]
  rfl

end Phrasebook.Command
