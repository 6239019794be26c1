import Phrasebook.Proofs.Command.Refresh

/-!
# A delivery that is done again

What a run has delivered is there, and to deliver the same again changes nothing:

* `Lasting` — a delivery after which this is so, and what else holds of what it leaves;
* `changes_of_toStdout`, `lasting_of_changes_eq_nil` — the source was printed, or nothing was to do;
* `canWrite_writeChanges`, `lasting_of_written` — the file of the class was written;
* `stat_of_removed`, `removeStale_removed`, `lasting_of_failure` — the file was removed, or there was
  none;
* `lasting_deliver` — every delivery that nothing ends early.
-/

namespace Phrasebook.Command

open Phrasebook.Log Phrasebook.Text

variable {h : Host} {target : Path} {name : String} {g : Generation} {toStdout : Bool}

/-! ### A delivery that is done again -/

/-- Nothing is changed where a source is printed. -/
theorem changes_of_toStdout (h : Host) (target : Path) (g : Generation) :
    (deliver h target true g).changes = [] := by
  unfold deliver
  cases g.output with
  | none => cases g.hintName <;> rfl
  | some source =>
    show (printSource source).changes = []
    unfold printSource
    cases (printed source).toString? <;> rfl

/-- **A delivery that lasts**: the same delivery, done again, delivers the same and changes nothing.

* It has changed only what belongs to the file of the class.
* Where it was to go there is no file now unless there was one before.
* What is new in the tree is the file of the class and the folders that it needed. -/
structure Lasting (h : Host) (target : Path) (toStdout : Bool) (name : String) (g : Generation)
    (d : Delivery) : Prop where
  refreshed : FileTree.Refreshed name h.tree (h.changed d.changes).tree
  escape : (deliver (h.changed d.changes) target toStdout g).escape = none
  output : (deliver (h.changed d.changes) target toStdout g).output = d.output
  unchanged : ∀ q, ((h.changed d.changes).changed
      (deliver (h.changed d.changes) target toStdout g).changes).tree.find? q =
    (h.changed d.changes).tree.find? q
  noFile : (∀ content, h.stat target ≠ some (.file content)) →
    ∀ content, (h.changed d.changes).stat target ≠ some (.file content)
  new : ∀ q, h.tree.find? q = none → (h.changed d.changes).tree.find? q ≠ none →
    toStdout = false ∧ CanWrite h target name ∧
      (q ∈ h.missing target ∨ q = h.placeOf target ++ [name])

/-- A delivery that changes nothing lasts. -/
theorem lasting_of_changes_eq_nil (hchanges : (deliver h target toStdout g).changes = [])
    (hescape : (deliver h target toStdout g).escape = none) :
    Lasting h target toStdout name g (deliver h target toStdout g) := by
  have hsame : h.changed (deliver h target toStdout g).changes = h := by
    rw [hchanges]
    rfl
  refine
    { refreshed := ?_, escape := ?_, output := ?_, unchanged := ?_, noFile := ?_, new := ?_ }
  · rw [hsame]
    exact .refl name h.tree
  · rw [hsame]
    exact hescape
  · rw [hsame]
  · intro q
    rw [hsame, hsame]
  · rw [hsame]
    exact id
  · intro q hnone hsome
    rw [hsame] at hsome
    exact absurd hnone hsome

section

variable (hsound : h.Sound) (hwrite : CanWrite h target name) (s : String)

include hsound hwrite

/-- Once the file of a class is there, no folder is missing for it. -/
theorem missingFolders_writeChanges :
    (h.changed (writeChanges h target name s)).tree.missingFolders (h.startOf target) target.parts =
        ([], .ok (h.placeOf target)) ∧
      (h.changed (writeChanges h target name s)).tree.isFolder (h.placeOf target) = true :=
  FileTree.missingFolders_again (fun _ hq => isFolder_writeChanges hwrite s (.inl hq))
    ((hsound.rooted_startOf target).mono fun _ hq => isFolder_writeChanges hwrite s (.inl hq))
    hwrite.reached fun _ hq => isFolder_writeChanges hwrite s (.inr hq)

/-- Where the file of a class was written it can be written again. -/
theorem canWrite_writeChanges :
    CanWrite (h.changed (writeChanges h target name s)) target name ∧
      (h.changed (writeChanges h target name s)).missing target = [] := by
  obtain ⟨hnone, -⟩ := missingFolders_writeChanges hsound hwrite s
  have hmissing : (h.changed (writeChanges h target name s)).missing target = [] :=
    congrArg Prod.fst hnone
  refine ⟨?_, hmissing⟩
  exact
    { noNul := hwrite.noNul
      short := hwrite.short
      reached := congrArg Prod.snd hnone
      shortName := hwrite.shortName
      shortPath := hwrite.shortPath
      free := by
        rw [hmissing]
        show (h.changed (writeChanges h target name s)).tree.isFolder
          (h.placeOf target ++ [name]) = false
        rw [FileTree.isFolder, find?_writeChanges, if_pos rfl] }

/-- **A class that has been written lasts.** -/
theorem lasting_of_written (hname : g.hintName = some name)
    (houtput : g.output = some (ofString s)) :
    Lasting h target false name g (deliver h target false g) := by
  obtain ⟨hagain, hmissing⟩ := canWrite_writeChanges hsound hwrite s
  rw [deliver_of_output hname houtput, writeSource_of_canWrite hwrite]
  refine
    { refreshed := ⟨fun q hq => isFolder_writeChanges hwrite s (.inl hq), ?_⟩
      escape := ?_, output := ?_, unchanged := ?_, noFile := ?_, new := ?_ }
  · intro q hq
    obtain hsame | ⟨hnone, hfolder, -⟩ :=
      frame_writeChanges s (FileTree.ne_concat_of_getLast? hq)
    · exact .inl hsame
    · exact .inr ⟨hnone, hfolder⟩
  · rw [deliver_of_output hname houtput, writeSource_of_canWrite hagain]
  · rw [deliver_of_output hname houtput, writeSource_of_canWrite hagain]
  · intro q
    rw [deliver_of_output hname houtput, writeSource_of_canWrite hagain]
    show ((h.changed (writeChanges h target name s)).changed
      (writeChanges (h.changed (writeChanges h target name s)) target name s)).tree.find? q = _
    rw [find?_writeChanges s q]
    by_cases hq : q = h.placeOf target ++ [name]
    · rw [if_pos (show q = (h.changed (writeChanges h target name s)).placeOf target ++ [name]
        from hq)]
      show _ = (h.changed (writeChanges h target name s)).tree.find? q
      rw [find?_writeChanges s q, if_pos hq]
    · rw [if_neg (show q ≠ (h.changed (writeChanges h target name s)).placeOf target ++ [name]
        from hq), hmissing, if_neg fun hmem => List.not_mem_nil hmem.1]
  · intro _ content hstat
    have hfile := Host.find?_of_stat hstat
    have hfolder := FileTree.isFolder_iff.mp (missingFolders_writeChanges hsound hwrite s).2
    exact absurd (hfolder.symm.trans hfile) (by simp)
  · exact fun q hnone hsome => ⟨rfl, hwrite, new_of_writeChanges s hnone hsome⟩

end

section

variable {content : ByteArray} (hstat : h.stat (target.child name) = some (.file content))

include hstat

/-- Once the file of a class is removed, a path leads to nothing that it did not lead to. -/
theorem stat_of_removed {p : Path} {node : Node}
    (hafter : (h.changed [.remove (h.placeOf (target.child name))]).stat p = some node) :
    h.stat p = some node := by
  have hfile := Host.find?_of_stat hstat
  have hthere : (h.changed [.remove (h.placeOf (target.child name))]).tree.find? (h.placeOf p) =
      some node := Host.find?_of_stat hafter
  rw [find?_removed hfile, Option.ite_none_left_eq_some] at hthere
  rw [Host.stat] at hafter ⊢
  by_cases hlong : p.isLong = true
  · rw [if_pos hlong] at hafter
    exact absurd hafter (by simp)
  · rw [if_neg hlong] at hafter ⊢
    obtain ⟨place, hresolve, -⟩ := Option.bind_eq_some_iff.mp hafter
    have hbefore : h.resolve? p = some place :=
      FileTree.resolve?_mono (fun q hq => (isFolder_removed hfile q).symm.trans hq) hresolve
    rw [hbefore, Host.resolve?_eq_placeOf hbefore]
    exact hthere.2

/-- Once the file of a class is removed, there is nothing to remove. -/
theorem removeStale_removed (hreach : h.meetsLong (target.child name) = false) :
    removeStale (h.changed [.remove (h.placeOf (target.child name))]) target name =
      ⟨"", [], [], none⟩ := by
  have hfile := Host.find?_of_stat hstat
  have hreach' : (h.changed [.remove (h.placeOf (target.child name))]).meetsLong
      (target.child name) = false := by
    rw [← hreach, Host.meetsLong, Host.meetsLong]
    exact congrArg _ (FileTree.meetsLongName_congr (isFolder_removed hfile) _)
  obtain ⟨hnothing, -⟩ | ⟨other, _, hother, -⟩ := removeStale_cases hreach'
  · exact hnothing
  · have hgone := find?_removed hfile (h.placeOf (target.child name))
    rw [if_pos rfl] at hgone
    exact absurd (hgone.symm.trans (Host.find?_of_stat hother)) (by simp)

end

/-- **A class that has been removed stays so.** -/
theorem lasting_of_failure (hup : name ≠ "..") (hname : g.hintName = some name)
    (houtput : g.output = none) (hescape : (deliver h target false g).escape = none) :
    Lasting h target false name g (deliver h target false g) := by
  have hreach : h.meetsLong (target.child name) = false := by
    rw [deliver_of_failure hname houtput, removeStale] at hescape
    rw [← Bool.not_eq_true]
    intro hlong
    rw [if_pos hlong] at hescape
    exact absurd hescape (by simp [Delivery.broken])
  obtain ⟨heq, -⟩ | ⟨content, events, hstat, heq⟩ := removeStale_cases hreach
  · apply lasting_of_changes_eq_nil _ hescape
    rw [deliver_of_failure hname houtput, heq]
  · have hfile := Host.find?_of_stat hstat
    have hagain := (deliver_of_failure hname houtput).trans (removeStale_removed hstat hreach)
    rw [deliver_of_failure hname houtput, heq]
    refine
      { refreshed := ⟨fun q hq => (isFolder_removed hfile q).trans hq, fun q hq => .inl ?_⟩
        escape := ?_, output := ?_, unchanged := ?_
        noFile := fun hnone content hafter => hnone content (stat_of_removed hstat hafter)
        new := ?_ }
    · rw [find?_removed hfile, if_neg]
      rw [Host.placeOf_child h target hup]
      exact FileTree.ne_concat_of_getLast? hq
    · rw [hagain]
    · rw [hagain]
    · intro q
      rw [hagain]
      rfl
    · intro q hnone hsome
      apply absurd _ hsome
      show (h.changed [.remove (h.placeOf (target.child name))]).tree.find? q = none
      rw [find?_removed hfile, hnone, ite_self]

/-- **A delivery that nothing ends early lasts.** -/
theorem lasting_deliver (hsound : h.Sound) (hup : name ≠ "..") (hname : g.hintName = some name)
    (hescape : (deliver h target toStdout g).escape = none) :
    Lasting h target toStdout name g (deliver h target toStdout g) := by
  cases toStdout with
  | true => exact lasting_of_changes_eq_nil (changes_of_toStdout h target g) hescape
  | false =>
    cases houtput : g.output with
    | none => exact lasting_of_failure hup hname houtput hescape
    | some source =>
      rw [deliver_of_output hname houtput] at hescape
      obtain ⟨hwrite, s, rfl⟩ := canWrite_of_writeSource hescape
      exact lasting_of_written hsound hwrite s hname houtput

end Phrasebook.Command
