import SpecGrammar.Proofs.Specification
import SpecGrammar.Run

/-!
# What a run leaves behind

* `replaceCopy_eq_ok`: a copy that was made holds what the artifact holds, and only its place changed;
* `Settings.run_outputs`: a run that cannot fetch the specification leaves all files as they are, one
  that cannot extract the document leaves all but the cache, and one that succeeds writes just the
  document.
-/

namespace SpecGrammar

variable {w w' : Workspace} {artifact destination p : Path}

/-! ### Copying the artifact -/

/-- The end of replacing a copy, when nothing is at its place any more. -/
def placeCopy (artifact destination : Path) : Job Path := do
  Job.makeDirectories destination.parent
  Job.change (·.copy artifact destination)
  return destination

theorem placeCopy_eq_ok (h : (placeCopy artifact destination).run w = (.ok p, w')) :
    p = destination ∧ w.files.placeOf artifact ≠ w.files.placeOf destination ∧
      (∃ content, w.files.find? (w.files.placeOf artifact) = some (.file content) ∧
        w'.files.find? (w.files.placeOf destination) = some (.file content)) ∧
      Files.Keeps [w.files.placeOf destination] w.files w'.files := by
  obtain ⟨⟨⟩, w₁, hmade, h⟩ := Job.bind_eq_ok h
  obtain ⟨⟨⟩, w₂, hcopied, h⟩ := Job.bind_eq_ok h
  cases h
  have hkeeps := Job.keeps_of_makeDirectories hmade
  obtain ⟨hne, content, hread, hwrite⟩ := Files.copy_eq_ok (Job.change_eq_ok hcopied)
  obtain ⟨-, hsource⟩ := Files.read_eq_ok hread
  have hwritten := Files.find?_of_write hwrite
  have hrest := Files.keeps_of_write hwrite
  rw [hkeeps.placeOf] at hne hsource hwritten hrest
  rw [hkeeps.placeOf] at hne
  refine ⟨rfl, hne, ⟨content, ?_, hwritten⟩, (hkeeps.mono (by simp)).trans hrest⟩
  exact (hkeeps.file_iff (by simp)).1 hsource

theorem replaceCopy_eq_ok (h : (replaceCopy artifact destination).run w = (.ok p, w')) :
    p = destination ∧ w.files.placeOf artifact ≠ w.files.placeOf destination ∧
      (∃ content, w.files.find? (w.files.placeOf artifact) = some (.file content) ∧
        w'.files.find? (w.files.placeOf destination) = some (.file content)) ∧
      Files.Keeps [w.files.placeOf destination] w.files w'.files := by
  obtain ⟨found, w₁, hfound, h⟩ := Job.bind_eq_ok h
  obtain ⟨-, rfl⟩ := Job.look_eq_ok hfound
  cases found with
  | false =>
    obtain ⟨_, _, hthrow, -⟩ := Job.bind_eq_ok h
    cases hthrow
  | true =>
    obtain ⟨there, w₂, hthere, h⟩ := Job.bind_eq_ok h
    obtain ⟨-, rfl⟩ := Job.look_eq_ok hthere
    cases there with
    | false => exact placeCopy_eq_ok h
    | true =>
      -- what stood at the destination is removed first
      obtain ⟨⟨⟩, w₃, hreport, h⟩ := Job.bind_eq_ok h
      cases hreport
      obtain ⟨⟨⟩, w₄, hremoved, h⟩ := Job.bind_eq_ok h
      have hkeeps := Files.keeps_of_remove (Job.change_eq_ok hremoved)
      obtain ⟨rfl, hne, ⟨content, hsource, hcopied⟩, hrest⟩ := placeCopy_eq_ok h
      rw [hkeeps.placeOf] at hne hsource hcopied hrest
      rw [hkeeps.placeOf] at hne
      refine ⟨rfl, hne, ⟨content, ?_, hcopied⟩, hkeeps.trans hrest⟩
      exact (hkeeps.file_iff (by simpa using hne)).1 hsource

/-! ### Publishing a document -/

/-- An error of the files, or an artifact that is missing when it is to be copied. -/
def RunError.OfOutput (e : RunError) : Prop := (∃ cause, e = .file cause) ∨ ∃ p, e = .noArtifact p

theorem raises_save (p : Path) (text : List Char) :
    Job.Raises (fun e => ∃ cause, e = .file cause) (Job.save p text) :=
  (Job.raises_makeDirectories (fun cause => ⟨cause, rfl⟩) _).bind fun _ =>
    Job.raises_change (fun cause => ⟨cause, rfl⟩) _

theorem raises_replaceCopy (artifact destination : Path) :
    Job.Raises RunError.OfOutput (replaceCopy artifact destination) := by
  have hfile : ∀ cause, RunError.OfOutput (.file cause) := fun cause => .inl ⟨cause, rfl⟩
  have hplace : Job.Raises RunError.OfOutput (placeCopy artifact destination) :=
    (Job.raises_makeDirectories hfile _).bind fun _ =>
      (Job.raises_change hfile _).bind fun _ => Job.raises_pure _
  refine (Job.raises_look hfile _).bind fun found => ?_
  cases found with
  | false => exact Job.raises_throw_bind (.inr ⟨artifact, rfl⟩)
  | true =>
    refine (Job.raises_look hfile _).bind fun there => ?_
    cases there with
    | false => exact hplace
    | true =>
      exact (Job.raises_report _).bind fun _ => (Job.raises_change hfile _).bind fun _ => hplace

namespace Settings

variable {settings : Settings} {session : Session} {refresh : Bool} {document : Document}
  {paths : List Path} {text : List Char}

/-- The paths that a run writes to. -/
def outputs (settings : Settings) : List Path := settings.artifact :: settings.downstream.toList

/-- The end of a run, when the document is there. -/
def publish (settings : Settings) (document : Document) : Job (List Path) := do
  let artifact ← writeArtifact document settings.artifact
  match settings.downstream with
  | none => return [artifact]
  | some destination => return [artifact, ← replaceCopy artifact destination]

theorem run_eq (settings : Settings) (session : Session) (refresh : Bool) :
    settings.run session refresh =
      ((settings.fetcher session).fetch refresh >>= fun text =>
        settings.extract text >>= settings.publish) := rfl

theorem raises_publish (settings : Settings) (document : Document) :
    Job.Raises RunError.OfOutput (settings.publish document) := by
  have hwrite : Job.Raises RunError.OfOutput (writeArtifact document settings.artifact) := by
    refine Job.Raises.bind (fun w e w' h => ?_) fun _ => Job.raises_pure _
    exact .inl (raises_save _ _ w e w' h)
  refine hwrite.bind fun artifact => ?_
  cases settings.downstream with
  | none => exact Job.raises_pure _
  | some destination => exact (raises_replaceCopy _ _).bind fun _ => Job.raises_pure _

theorem writeArtifact_eq_ok {p q : Path} (h : (writeArtifact document p).run w = (.ok q, w')) :
    q = p ∧ w.files.Saves p document.write w'.files := by
  obtain ⟨⟨⟩, w₁, hsave, h⟩ := Job.bind_eq_ok h
  cases h
  exact ⟨rfl, Job.saves_of_save hsave⟩

theorem publish_eq_ok (h : (settings.publish document).run w = (.ok paths, w')) :
    paths = settings.outputs ∧
      (∀ p ∈ settings.outputs, w'.files.find? (w.files.placeOf p) =
        some (.file (Files.encode document.write))) ∧
      Files.Keeps (settings.outputs.map w.files.placeOf) w.files w'.files := by
  unfold outputs
  obtain ⟨artifact, w₁, hwrite, h⟩ := Job.bind_eq_ok h
  obtain ⟨rfl, hsaves⟩ := writeArtifact_eq_ok hwrite
  have hkeeps := hsaves.keeps
  cases hdownstream : settings.downstream with
  | none =>
    rw [hdownstream] at h
    cases h
    exact ⟨rfl, by simpa using hsaves.find?, by simpa using hkeeps⟩
  | some destination =>
    rw [hdownstream] at h
    obtain ⟨copied, w₂, hcopy, h⟩ := Job.bind_eq_ok h
    cases h
    obtain ⟨rfl, hne, ⟨content, hsource, hcopied⟩, hrest⟩ := replaceCopy_eq_ok hcopy
    rw [hkeeps.placeOf] at hne hsource hcopied hrest
    rw [hkeeps.placeOf] at hne
    cases hsaves.find?.symm.trans hsource
    have hartifact : w'.files.find? (w.files.placeOf settings.artifact) =
        some (.file (Files.encode document.write)) :=
      (hrest.file_iff (by simpa using hne)).2 hsaves.find?
    refine ⟨rfl, by simp [hartifact, hcopied], ?_⟩
    exact (hkeeps.mono (by simp)).trans (hrest.mono (by simp))

/-! ### Runs -/

theorem run_extract (settings : Settings) (text : List Char) (w : Workspace) :
    (settings.extract text).run w =
      ((extractDocument settings.selection text).1.mapError .extraction,
        w.reporting (extractDocument settings.selection text).2) := by
  unfold extract
  rcases extractDocument settings.selection text with ⟨e | document, records⟩ <;> rfl

/-- What holds of a run. -/
structure RunHolds (settings : Settings) (session : Session) (refresh : Bool) (w : Workspace)
    (result : Except RunError (List Path)) (w' : Workspace) : Prop where
  /-- It fails to fetch the specification if the fetcher does. -/
  unfetched_iff : ∀ url cause, result = .error (.fetch url cause) ↔
    (((settings.fetcher session).fetch refresh).run w).1 = .error (.fetch url cause)
  /-- Then all files are as before. -/
  unfetched : ∀ url cause, result = .error (.fetch url cause) → w'.files = w.files
  /-- It fails to extract the document if the text that the fetcher returns has none. -/
  unextracted_iff : ∀ e, result = .error (.extraction e) ↔
    ∃ text, (((settings.fetcher session).fetch refresh).run w).1 = .ok text ∧
      (extractDocument settings.selection text).1 = .error e
  /-- Then all but the cache is as before, up to new directories. -/
  unextracted : ∀ e, result = .error (.extraction e) →
    Files.Keeps [w.files.placeOf settings.cachePath] w.files w'.files
  /-- So the outputs are kept with what they hold, and missing ones are still missing. -/
  outputs_kept : ∀ e, result = .error (.extraction e) → ∀ p ∈ settings.outputs,
    w.files.placeOf settings.cachePath ≠ w.files.placeOf p → ∀ content,
      (w'.files.find? (w.files.placeOf p) = some (.file content) ↔
        w.files.find? (w.files.placeOf p) = some (.file content))
  /-- If it returns, it returns the outputs, which hold the document of the text that the fetcher
  returned, and all but them and the cache is as before. -/
  published : ∀ paths, result = .ok paths → paths = settings.outputs ∧
    ∃ text document, (((settings.fetcher session).fetch refresh).run w).1 = .ok text ∧
      (extractDocument settings.selection text).1 = .ok document ∧
      (∀ p ∈ settings.outputs, w'.files.find? (w.files.placeOf p) =
        some (.file (Files.encode document.write))) ∧
      Files.Keeps (w.files.placeOf settings.cachePath :: settings.outputs.map w.files.placeOf)
        w.files w'.files

/-- The place of the cache is the only one that fetching changes. -/
theorem keeps_of_fetch {outcome : Except RunError (List Char)}
    (h : ((settings.fetcher session).fetch refresh).run w = (outcome, w')) :
    Files.Keeps [w.files.placeOf settings.cachePath] w.files w'.files := by
  have hends := (settings.fetcher session).fetch_ends refresh w
  rw [h] at hends
  cases hends with
  | read => exact .refl _ _
  | failed => exact .refl _ _
  | stored _ _ hsaves => exact hsaves.keeps
  | unstored _ _ _ hkeeps => exact hkeeps.mono (by simp)

theorem runHolds_unfetched {e : RunError}
    (hfetch : ((settings.fetcher session).fetch refresh).run w = (.error e, w')) :
    RunHolds settings session refresh w (.error e) w' := by
  have hends := (settings.fetcher session).fetch_ends refresh w
  rw [hfetch] at hends
  have hcause : (∃ cause, e = .file cause) ∨
      (∃ cause, e = .fetch settings.url cause) ∧ w'.files = w.files := by
    cases hends with
    | read _ hread =>
      obtain ⟨cause, -, rfl⟩ := mapError_eq_error_iff.1 hread.symm
      exact .inl ⟨cause, rfl⟩
    | failed => exact .inr ⟨⟨_, rfl⟩, rfl⟩
    | unstored => exact .inl ⟨_, rfl⟩
  rcases hcause with ⟨cause, rfl⟩ | ⟨⟨cause, rfl⟩, hfiles⟩
  · exact ⟨by simp [hfetch], by simp, by simp [hfetch], by simp, by simp, by simp⟩
  · exact ⟨by simp [hfetch], fun _ _ _ => hfiles, by simp [hfetch], by simp, by simp, by simp⟩

theorem runHolds_unextracted {fetched : Workspace} {e : ExtractionError}
    (hfetch : ((settings.fetcher session).fetch refresh).run w = (.ok text, fetched))
    (he : (extractDocument settings.selection text).1 = .error e) (hfiles : w'.files = fetched.files) :
    RunHolds settings session refresh w (.error (.extraction e)) w' := by
  have hkeeps := keeps_of_fetch hfetch
  rw [← hfiles] at hkeeps
  refine ⟨by simp [hfetch], by simp, ?_, fun _ _ => hkeeps, ?_, by simp⟩
  · simp [hfetch, he]
  · intro _ _ p _ hne content
    exact hkeeps.file_iff (by simpa using hne.symm)

theorem runHolds_published {fetched : Workspace} {records : List Record}
    {result : Except RunError (List Path)}
    (hfetch : ((settings.fetcher session).fetch refresh).run w = (.ok text, fetched))
    (hdocument : (extractDocument settings.selection text).1 = .ok document)
    (h : (settings.publish document).run (fetched.reporting records) = (result, w')) :
    RunHolds settings session refresh w result w' := by
  have hkeeps := keeps_of_fetch hfetch
  cases result with
  | error e =>
    -- only the files can stop a run here
    rcases settings.raises_publish document _ _ _ h with ⟨cause, rfl⟩ | ⟨p, rfl⟩
    all_goals
      refine ⟨by simp [hfetch], by simp, ?_, by simp, by simp, by simp⟩
      simp [hfetch, hdocument]
  | ok paths =>
    obtain ⟨rfl, houtputs, hrest⟩ := publish_eq_ok h
    refine ⟨by simp [hfetch], by simp, by simp [hfetch, hdocument], by simp, by simp, ?_⟩
    intro paths hpaths
    cases hpaths
    have hplace : (fetched.reporting records).files.placeOf = w.files.placeOf :=
      funext hkeeps.placeOf
    rw [hplace] at houtputs hrest
    refine ⟨rfl, text, document, by rw [hfetch], hdocument, houtputs, ?_⟩
    exact (hkeeps.mono (by simp)).trans (hrest.mono (by simp))

/-- Without the specification a run changes no file, without a document none but the cache, and else it
writes the document to its outputs and changes no other file. -/
theorem run_outputs (settings : Settings) (session : Session) (refresh : Bool) (w : Workspace) :
    RunHolds settings session refresh w ((settings.run session refresh).run w).1
      ((settings.run session refresh).run w).2 := by
  rw [run_eq, Job.run_bind]
  rcases hfetch : ((settings.fetcher session).fetch refresh).run w with ⟨e | text, fetched⟩
  · exact runHolds_unfetched hfetch
  · dsimp only
    rw [Job.run_bind, run_extract]
    cases hextract : (extractDocument settings.selection text).1 with
    | error e => exact runHolds_unextracted hfetch hextract rfl
    | ok document => exact runHolds_published hfetch hextract rfl

end Settings

end SpecGrammar
