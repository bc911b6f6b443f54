import Mathlib.Tactic.Simps.Basic
import SpecGrammar.Proofs.Files
import SpecGrammar.Workspace

/-!
# What jobs do to a workspace

One equation for each of the steps that jobs are made of (`run_bind`, `run_look`, `run_change`, ...),
what it means that such a step succeeds, and

* `Job.Raises`: which errors a job can end with, from those of its steps;
* `Job.save_ends`: a text is saved and all else is as before, or the files report an error and there may
  be some more directories.
-/

namespace SpecGrammar

/-- The same workspace with other files. -/
@[simps]
def Workspace.withFiles (w : Workspace) (files : Files) : Workspace := { w with files := files }

/-- The same workspace after some more reports. -/
@[simps]
def Workspace.reporting (w : Workspace) (rs : List Record) : Workspace :=
  { w with records := w.records ++ rs }

namespace Job

variable {α β : Type} {w w' : Workspace}

/-! ### Single steps -/

@[simp] theorem run_throw (e : RunError) (w : Workspace) :
    (throw e : Job α).run w = (.error e, w) := rfl

theorem run_bind (x : Job α) (f : α → Job β) (w : Workspace) :
    (x >>= f).run w =
      match x.run w with
      | (.ok a, w) => (f a).run w
      | (.error e, w) => (.error e, w) := by
  show ((x >>= f : Job β) : Workspace → _) w = _
  simp only [bind, ExceptT.bind, ExceptT.mk, StateT.bind, ExceptT.run]
  rcases x w with ⟨a | e, w⟩ <;> rfl

@[simp] theorem run_report (r : Record) (w : Workspace) :
    (report r).run w = (.ok (), w.reporting [r]) := rfl

theorem run_look (f : Files → Except FileError α) (w : Workspace) :
    (look f).run w = ((f w.files).mapError RunError.file, w) := by
  have hget : (get : Job Workspace).run w = (.ok w, w) := rfl
  rw [look, run_bind, hget]
  dsimp only
  cases f w.files <;> rfl

theorem run_change (f : Files → Except FileError Files) (w : Workspace) :
    (change f).run w =
      match f w.files with
      | .ok files => (.ok (), w.withFiles files)
      | .error e => (.error (.file e), w) := by
  rw [change, run_bind, run_look]
  cases f w.files <;> rfl

theorem run_makeDirectories (p : Path) (w : Workspace) :
    (makeDirectories p).run w =
      ((w.files.makeDirectories p).1.mapError RunError.file,
        w.withFiles (w.files.makeDirectories p).2) := by
  have hget : (get : Job Workspace).run w = (.ok w, w) := rfl
  rw [makeDirectories, run_bind, hget]
  dsimp only
  rcases w.files.makeDirectories p with ⟨e | u, files⟩ <;> rfl

/-! ### Steps that succeed -/

variable {x : Job α} {k : α → Job β} {a : α} {b : β} {p : Path} {u : Unit}

theorem bind_eq_ok (h : (x >>= k).run w = (.ok b, w')) :
    ∃ a middle, x.run w = (.ok a, middle) ∧ (k a).run middle = (.ok b, w') := by
  rw [run_bind] at h
  rcases hrun : x.run w with ⟨e | a, middle⟩
  · rw [hrun] at h
    cases h
  · rw [hrun] at h
    exact ⟨a, middle, rfl, h⟩

theorem look_eq_ok {f : Files → Except FileError α} (h : (look f).run w = (.ok a, w')) :
    f w.files = .ok a ∧ w' = w := by
  rw [run_look] at h
  cases hf : f w.files with
  | error e =>
    rw [hf] at h
    cases h
  | ok found =>
    rw [hf] at h
    cases h
    exact ⟨rfl, rfl⟩

theorem change_eq_ok {f : Files → Except FileError Files} (h : (change f).run w = (.ok u, w')) :
    f w.files = .ok w'.files := by
  rw [run_change] at h
  split at h
  · next hf =>
    cases h
    exact hf
  · cases h

theorem keeps_of_makeDirectories {r : Except RunError Unit}
    (h : (makeDirectories p).run w = (r, w')) : Files.Keeps [] w.files w'.files := by
  rw [run_makeDirectories] at h
  cases h
  exact w.files.makeDirectories_keeps p

/-! ### Errors -/

/-- Every error of a job is one of some errors. -/
def Raises (P : RunError → Prop) (x : Job α) : Prop :=
  ∀ w e w', x.run w = (.error e, w') → P e

section Errors

variable {P : RunError → Prop}

theorem Raises.bind (hx : Raises P x) (hk : ∀ a, Raises P (k a)) : Raises P (x >>= k) := by
  intro w e w' h
  rw [run_bind] at h
  cases hrun : x.run w with
  | mk r middle =>
    rw [hrun] at h
    cases r with
    | error raised =>
      cases h
      exact hx w e w' hrun
    | ok a => exact hk a middle e w' h

theorem raises_pure (a : α) : Raises P (pure a) := by
  intro w e w' h
  cases h

theorem raises_throw_bind {e : RunError} (he : P e) : Raises P ((throw e : Job α) >>= k) := by
  intro w e' w' h
  rw [run_bind, run_throw] at h
  cases h
  exact he

theorem raises_report (r : Record) : Raises P (report r) := by
  intro w e w' h
  cases h

variable (hfile : ∀ e, P (.file e))
include hfile

theorem raises_look (f : Files → Except FileError α) : Raises P (look f) := by
  intro w e w' h
  rw [run_look] at h
  obtain ⟨cause, -, rfl⟩ := mapError_eq_error_iff.1 (Prod.mk.inj h).1
  exact hfile cause

theorem raises_change (f : Files → Except FileError Files) : Raises P (change f) := by
  intro w e w' h
  rw [run_change] at h
  split at h
  · cases h
  · cases h
    exact hfile _

theorem raises_makeDirectories (p : Path) : Raises P (makeDirectories p) := by
  intro w e w' h
  rw [run_makeDirectories] at h
  obtain ⟨cause, -, rfl⟩ := mapError_eq_error_iff.1 (Prod.mk.inj h).1
  exact hfile cause

end Errors

/-! ### Saving -/

/-- What can come of saving a text. -/
inductive SaveEnds (w : Workspace) (p : Path) (text : List Char) :
    Except RunError Unit → Workspace → Prop
  | saved {files : Files} (h : w.files.Saves p text files) :
      SaveEnds w p text (.ok ()) (w.withFiles files)
  | refused {e : FileError} {files : Files} (h : ∀ files, ¬ w.files.Saves p text files)
      (hkeeps : Files.Keeps [] w.files files) :
      SaveEnds w p text (.error (.file e)) (w.withFiles files)

theorem run_save (p : Path) (text : List Char) (w : Workspace) :
    (save p text).run w =
      match w.files.makeDirectories p.parent with
      | (.error e, made) => (.error (.file e), w.withFiles made)
      | (.ok (), made) =>
        match made.writeText p text with
        | .ok files => (.ok (), w.withFiles files)
        | .error e => (.error (.file e), w.withFiles made) := by
  rw [save, run_bind, run_makeDirectories]
  rcases w.files.makeDirectories p.parent with ⟨_ | ⟨⟩, made⟩
  · rfl
  · exact run_change _ _

theorem save_ends (w : Workspace) (p : Path) (text : List Char) :
    SaveEnds w p text ((save p text).run w).1 ((save p text).run w).2 := by
  rw [run_save]
  have hkeeps := w.files.makeDirectories_keeps p.parent
  rcases hmade : w.files.makeDirectories p.parent with ⟨_ | ⟨⟩, made⟩
  all_goals rw [hmade] at hkeeps
  · refine .refused (fun files h => ?_) hkeeps
    obtain ⟨_, h, -⟩ := h
    simp [hmade] at h
  · dsimp only
    cases hwrite : made.writeText p text with
    | ok files => exact .saved ⟨made, hmade, hwrite⟩
    | error e =>
      refine .refused (fun files h => ?_) hkeeps
      obtain ⟨other, h, hother⟩ := h
      cases hmade.symm.trans h
      cases hwrite.symm.trans hother

theorem saves_of_save {text : List Char} (h : (save p text).run w = (.ok u, w')) :
    w.files.Saves p text w'.files := by
  have hends := save_ends w p text
  rw [h] at hends
  cases hends with
  | saved hsaves => exact hsaves

end Job

end SpecGrammar
