import SpecGrammar.Proofs.Run
import SpecGrammar.Proofs.Tree

/-!
# Replacing a copy

* `Files.Clash`: what stands at the destination is removed although the artifact cannot be copied there
  afterwards;
* `Files.copy_of_discard`, `Files.clash_of_copy_error`: the copy is made once the destination is gone,
  unless there is a clash;
* `replaceCopy_ends`: the copy is made, or every file is as before, or there is a clash and all but the
  file at the destination is as before.
-/

namespace SpecGrammar

namespace Files

variable {files : Files} {artifact destination p : Path} {place : Location} {content : ByteArray}

/-- A file stands at the destination, and the artifact is a directory or that very file. -/
structure Clash (files : Files) (artifact destination : Path) : Prop where
  there : ∃ content, files.read destination = .ok content
  barred : files.entryAt artifact = .ok .directory ∨
    files.locate artifact = files.locate destination

theorem entryAt_eq_ok {entry : Entry} :
    files.entryAt p = .ok entry ↔
      files.locate p = .ok (files.placeOf p) ∧ files.find? (files.placeOf p) = some entry := by
  unfold entryAt
  constructor
  · intro h
    obtain ⟨place, hplace, h⟩ := bind_eq_ok_iff.1 h
    obtain rfl := locate_eq_ok hplace
    split at h
    · next hfind =>
      cases h
      exact ⟨hplace, hfind⟩
    · cases h
  · rintro ⟨hplace, hfind⟩
    refine bind_eq_ok_iff.2 ⟨_, hplace, ?_⟩
    rw [hfind]

theorem read_eq_ok_iff : files.read p = .ok content ↔ files.entryAt p = .ok (.file content) := by
  constructor
  · intro h
    exact entryAt_eq_ok.2 (read_eq_ok h)
  · intro h
    exact bind_eq_ok_iff.2 ⟨_, h, rfl⟩

theorem exists?_eq_true_iff : files.exists? p = .ok true ↔ ∃ entry, files.entryAt p = .ok entry := by
  unfold exists?
  cases files.entryAt p with
  | ok entry => simp
  | error e => cases e <;> simp

/-- Once the destination is gone, an artifact that is another file is copied there. -/
theorem copy_of_discard {old : ByteArray} (hdestination : files.read destination = .ok old)
    (hartifact : files.read artifact = .ok content)
    (hne : files.placeOf artifact ≠ files.placeOf destination) :
    (files.discard (files.placeOf destination)).copy artifact destination =
      .ok ((files.discard (files.placeOf destination)).put (files.placeOf destination)
        (.file content)) := by
  obtain ⟨hdest, hold⟩ := read_eq_ok hdestination
  obtain ⟨hart, hfile⟩ := read_eq_ok hartifact
  have hnot : files.find? (files.placeOf destination) ≠ some .directory := by simp [hold]
  have hnone : (files.discard (files.placeOf destination)).find? (files.placeOf destination) = none :=
    find?_discard_same (ne_nil_of_not_directory hnot)
  have hart := locate_of_discard hnot hart
  have hdest := locate_of_discard hnot hdest
  have hread : (files.discard (files.placeOf destination)).read artifact = .ok content := by
    refine read_eq_ok_iff.2 (entryAt_eq_ok.2 ⟨hart, ?_⟩)
    exact (find?_discard_of_ne hne).trans hfile
  have hwrite : (files.discard (files.placeOf destination)).write destination content =
      .ok ((files.discard (files.placeOf destination)).put (files.placeOf destination)
        (.file content)) := by
    simp only [write, hdest, bind, Except.bind, hnone]
    rfl
  simp only [copy, hart, hdest, hread, bind, Except.bind, beq_false_of_ne hne, Bool.false_and,
    Bool.false_eq_true, if_false, hwrite]

/-- In a clash both paths lead to something, and what is at the destination can be removed. -/
theorem Clash.removable (h : files.Clash artifact destination) :
    files.exists? artifact = .ok true ∧ files.exists? destination = .ok true ∧
      ∃ files', files.remove destination = .ok files' := by
  obtain ⟨⟨old, hold⟩, hbarred⟩ := h
  have hentry := read_eq_ok_iff.1 hold
  obtain ⟨hplace, hfile⟩ := entryAt_eq_ok.1 hentry
  refine ⟨?_, exists?_eq_true_iff.2 ⟨_, hentry⟩, ?_⟩
  · rcases hbarred with hdir | hsame
    · exact exists?_eq_true_iff.2 ⟨_, hdir⟩
    · rw [exists?_eq_true_iff, entryAt, hsame]
      exact ⟨_, hentry⟩
  · refine ⟨files.discard (files.placeOf destination), bind_eq_ok_iff.2 ⟨_, hplace, ?_⟩⟩
    rw [hfile]

/-- If an artifact that was there cannot be copied once the destination is gone, there is a clash. -/
theorem clash_of_copy_error {old : ByteArray} {e : FileError}
    (hdestination : files.read destination = .ok old) (hfound : files.exists? artifact = .ok true)
    (hcopy : (files.discard (files.placeOf destination)).copy artifact destination = .error e) :
    files.Clash artifact destination := by
  refine ⟨⟨old, hdestination⟩, ?_⟩
  obtain ⟨entry, hentry⟩ := exists?_eq_true_iff.1 hfound
  cases entry with
  | directory => exact .inl hentry
  | file content =>
    refine .inr ?_
    by_contra hne
    have hplaces : files.placeOf artifact ≠ files.placeOf destination := by
      intro heq
      refine hne ?_
      rw [(entryAt_eq_ok.1 hentry).1, (read_eq_ok hdestination).1, heq]
    rw [copy_of_discard hdestination (read_eq_ok_iff.2 hentry) hplaces] at hcopy
    cases hcopy

end Files

/-! ### The steps of replacing -/

variable {w w' : Workspace} {artifact destination : Path}

theorem run_placeCopy (artifact destination : Path) (w : Workspace) :
    (placeCopy artifact destination).run w =
      match w.files.makeDirectories destination.parent with
      | (.error e, made) => (.error (.file e), w.withFiles made)
      | (.ok (), made) =>
        match made.copy artifact destination with
        | .ok files => (.ok destination, w.withFiles files)
        | .error e => (.error (.file e), w.withFiles made) := by
  rw [placeCopy, Job.run_bind, Job.run_makeDirectories]
  rcases w.files.makeDirectories destination.parent with ⟨_ | ⟨⟩, made⟩
  · rfl
  · have hfiles : (w.withFiles made).files = made := rfl
    dsimp only [Except.mapError]
    rw [Job.run_bind, Job.run_change, hfiles]
    cases made.copy artifact destination <;> rfl

theorem run_replaceCopy (artifact destination : Path) (w : Workspace) :
    (replaceCopy artifact destination).run w =
      match w.files.exists? artifact with
      | .error e => (.error (.file e), w)
      | .ok false => (.error (.noArtifact artifact), w)
      | .ok true =>
        match w.files.exists? destination with
        | .error e => (.error (.file e), w)
        | .ok false => (placeCopy artifact destination).run w
        | .ok true =>
          let reported := w.reporting [⟨.info, .artifact,
            "Removing previous downstream copy at ".toList ++ destination.toText⟩]
          match w.files.remove destination with
          | .error e => (.error (.file e), reported)
          | .ok files => (placeCopy artifact destination).run (reported.withFiles files) := by
  unfold replaceCopy
  rw [Job.run_bind, Job.run_look]
  cases w.files.exists? artifact with
  | error e => rfl
  | ok found =>
    cases found with
    | false => rfl
    | true =>
      dsimp only [Except.mapError]
      simp only [if_true]
      rw [Job.run_bind, Job.run_look]
      cases w.files.exists? destination with
      | error e => rfl
      | ok there =>
        cases there with
        | false => rfl
        | true =>
          dsimp only [Except.mapError]
          simp only [if_true]
          rw [Job.run_bind, Job.run_report]
          dsimp only
          rw [Job.run_bind, Job.run_change, Workspace.reporting_files]
          cases w.files.remove destination <;> rfl

/-! ### What comes of replacing -/

/-- What can come of replacing a copy. -/
inductive ReplaceEnds (w : Workspace) (artifact destination : Path) :
    Except RunError Path → Workspace → Prop
  /-- The destination holds what the artifact held and still holds, and all else is as before. -/
  | replaced {w' : Workspace} {content : ByteArray} (hclear : ¬ w.files.Clash artifact destination)
      (hsource : w.files.find? (w.files.placeOf artifact) = some (.file content))
      (hkept : w'.files.find? (w.files.placeOf artifact) = some (.file content))
      (hcopied : w'.files.find? (w.files.placeOf destination) = some (.file content))
      (hkeeps : Files.Keeps [w.files.placeOf destination] w.files w'.files) :
      ReplaceEnds w artifact destination (.ok destination) w'
  /-- Every file is as before; there may be some more directories. -/
  | refused {e : RunError} {w' : Workspace} (hclear : ¬ w.files.Clash artifact destination)
      (hkeeps : Files.Keeps [] w.files w'.files) :
      ReplaceEnds w artifact destination (.error e) w'
  /-- The file at the destination is gone, and all else is as before. -/
  | lost {e : RunError} {w' : Workspace} (hclash : w.files.Clash artifact destination)
      (hlost : w'.files.find? (w.files.placeOf destination) = none)
      (hkeeps : Files.Keeps [w.files.placeOf destination] w.files w'.files) :
      ReplaceEnds w artifact destination (.error e) w'

/-- There is no clash when a copy is made. -/
theorem replaceEnds_of_eq_ok {p : Path} (h : (replaceCopy artifact destination).run w = (.ok p, w')) :
    ReplaceEnds w artifact destination (.ok p) w' := by
  obtain ⟨rfl, hne, ⟨content, hsource, hcopied⟩, hkeeps⟩ := replaceCopy_eq_ok h
  refine .replaced (fun hclash => ?_) hsource ((hkeeps.file_iff (by simpa using hne)).2 hsource)
    hcopied hkeeps
  obtain ⟨old, hold⟩ := hclash.there
  rcases hclash.barred with hdir | hsame
  · rw [(Files.entryAt_eq_ok.1 hdir).2] at hsource
    cases hsource
  · exact hne (Files.locate_eq_ok (hsame.trans (Files.read_eq_ok hold).1)).symm

theorem keeps_of_placeCopy_error {e : RunError}
    (h : (placeCopy artifact destination).run w = (.error e, w')) :
    Files.Keeps [] w.files w'.files := by
  have hkeeps := w.files.makeDirectories_keeps destination.parent
  rw [run_placeCopy] at h
  rcases hmade : w.files.makeDirectories destination.parent with ⟨_ | ⟨⟩, made⟩
  all_goals rw [hmade] at h hkeeps
  · cases h
    exact hkeeps
  · dsimp only at h
    split at h
    · cases h
    · cases h
      exact hkeeps

/-- Where the file at the destination was removed, the copy is made unless there is a clash. -/
theorem replaceEnds_of_removed {e : RunError} {records : List Record} {old : ByteArray}
    (htree : w.files.IsTree) (hfound : w.files.exists? artifact = .ok true)
    (hold : w.files.read destination = .ok old)
    (h : (placeCopy artifact destination).run ((w.reporting records).withFiles
      (w.files.discard (w.files.placeOf destination))) = (.error e, w')) :
    ReplaceEnds w artifact destination (.error e) w' := by
  obtain ⟨hplace, hfile⟩ := Files.read_eq_ok hold
  rw [run_placeCopy, Workspace.withFiles_files, htree.makeDirectories_of_discard hplace hfile] at h
  dsimp only at h
  split at h
  · cases h
  · next hcopy =>
    cases h
    have hnot : w.files.find? (w.files.placeOf destination) ≠ some .directory := by simp [hfile]
    exact .lost (Files.clash_of_copy_error hold hfound hcopy)
      (Files.find?_discard_same (Files.ne_nil_of_not_directory hnot)) (Files.keeps_discard _ _)

theorem replaceEnds_of_eq_error {e : RunError} (htree : w.files.IsTree)
    (h : (replaceCopy artifact destination).run w = (.error e, w')) :
    ReplaceEnds w artifact destination (.error e) w' := by
  rw [run_replaceCopy] at h
  split at h
  case h_1 hfound =>
    cases h
    exact .refused (fun hclash => by simp [hclash.removable.1] at hfound) (.refl _ _)
  case h_2 hfound =>
    cases h
    exact .refused (fun hclash => by simp [hclash.removable.1] at hfound) (.refl _ _)
  case h_3 hfound =>
    split at h
    case h_1 hthere =>
      cases h
      exact .refused (fun hclash => by simp [hclash.removable.2.1] at hthere) (.refl _ _)
    case h_2 hthere =>
      exact .refused (fun hclash => by simp [hclash.removable.2.1] at hthere)
        (keeps_of_placeCopy_error h)
    case h_3 =>
      dsimp only at h
      split at h
      case h_1 hremove =>
        cases h
        refine .refused (fun hclash => ?_) (.refl _ _)
        obtain ⟨files, hremoved⟩ := hclash.removable.2.2
        rw [hremoved] at hremove
        cases hremove
      case h_2 hremove =>
        obtain ⟨hplace, ⟨old, hfile⟩, rfl⟩ := Files.remove_eq_ok hremove
        have hold : w.files.read destination = .ok old :=
          Files.read_eq_ok_iff.2 (Files.entryAt_eq_ok.2 ⟨hplace, hfile⟩)
        exact replaceEnds_of_removed htree hfound hold h

/-- Whatever comes of replacing a copy, the files form a tree again. -/
theorem isTree_of_replaceCopy (htree : w.files.IsTree) :
    ((replaceCopy artifact destination).run w).2.files.IsTree := by
  have hplace : ∀ w : Workspace, w.files.IsTree →
      ((placeCopy artifact destination).run w).2.files.IsTree := by
    intro w h
    have hmade := h.makeDirectories destination.parent
    rw [run_placeCopy]
    rcases hrun : w.files.makeDirectories destination.parent with ⟨_ | ⟨⟩, made⟩
    all_goals rw [hrun] at hmade
    · exact hmade
    · dsimp only
      split
      · next hcopy => exact hmade.copy hcopy
      · exact hmade
  rw [run_replaceCopy]
  split
  · exact htree
  · exact htree
  · split
    · exact htree
    · exact hplace w htree
    · dsimp only
      split
      · exact htree
      · next hremove => exact hplace _ (htree.remove hremove)

/-- Replacing a copy is all or nothing, unless the artifact is a directory or the very file that is to be
replaced: then that file is lost. -/
theorem replaceCopy_ends (artifact destination : Path) (htree : w.files.IsTree) :
    ReplaceEnds w artifact destination ((replaceCopy artifact destination).run w).1
      ((replaceCopy artifact destination).run w).2 ∧
    ((replaceCopy artifact destination).run w).2.files.IsTree := by
  refine ⟨?_, isTree_of_replaceCopy htree⟩
  rcases hrun : (replaceCopy artifact destination).run w with ⟨e | p, w'⟩
  · exact replaceEnds_of_eq_error htree hrun
  · exact replaceEnds_of_eq_ok hrun

/-- A workspace with one file. -/
def oneFile : Workspace :=
  { files := (⟨[], []⟩ : Files).put ["a.json".toList] (.file (Files.encode ['x'])) }

/-- A file that is replaced by a copy of itself is lost. -/
theorem replaceCopy_ends_oneFile :
    oneFile.files.IsTree ∧
    oneFile.files.find? ["a.json".toList] = some (.file (Files.encode ['x'])) ∧
    ReplaceEnds oneFile (.ofText "a.json".toList) (.ofText "a.json".toList)
      ((replaceCopy (.ofText "a.json".toList) (.ofText "a.json".toList)).run oneFile).1
      ((replaceCopy (.ofText "a.json".toList) (.ofText "a.json".toList)).run oneFile).2 ∧
    ((replaceCopy (.ofText "a.json".toList) (.ofText "a.json".toList)).run oneFile).1 =
      .error (.file .notFound) ∧
    ((replaceCopy (.ofText "a.json".toList) (.ofText "a.json".toList)).run oneFile).2.files.find?
      ["a.json".toList] = none := by
  have htree : oneFile.files.IsTree := Files.isTree_root.put rfl (by simp [Files.find?])
  exact ⟨htree, rfl, (replaceCopy_ends _ _ htree).1, by rfl, by rfl⟩

end SpecGrammar
