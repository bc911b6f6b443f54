import SpecGrammar.Files
import SpecGrammar.Proofs.Traversal

/-!
# What is left as it was

* `Files.placeOf`: the place that a path names, whatever is stored on the way to it; a path that leads
  anywhere leads there (`locate_eq_ok`);
* `Files.Keeps`: two states of the files that agree outside some places, up to new directories;
* `makeDirectories_keeps`, `keeps_of_write`, `keeps_of_remove`: what each operation leaves as it was;
* `Files.Saves.entryAt`: a text that was saved at a path is found there.
-/

namespace SpecGrammar.Files

variable {files files' before middle after : Files} {p source destination : Path}
  {start place other : Location} {names : List (List Char)} {content : ByteArray} {entry : Entry}

/-! ### Places that paths name -/

/-- The place that names lead to from a place, whatever is stored on the way. -/
def resolve : Location → List (List Char) → Location
  | place, [] => place
  | place, name :: names =>
    if name = ['.', '.'] then resolve place.dropLast names else resolve (place ++ [name]) names

/-- The place that a path names. -/
def placeOf (files : Files) (p : Path) : Location :=
  resolve (if p.origin == .current then files.current else []) p.names

theorem follow_cons_eq_ok {name : List Char}
    (h : files.follow start (name :: names) = .ok place) :
    files.find? start = some .directory ∧
      (name = ['.', '.'] ∧ files.follow start.dropLast names = .ok place ∨
        name ≠ ['.', '.'] ∧ (encode name).size ≤ longestName ∧
          files.follow (start ++ [name]) names = .ok place) := by
  rw [follow] at h
  split at h
  · cases h
  · cases h
  · next hdir =>
    refine ⟨hdir, ?_⟩
    by_cases hdots : name = ['.', '.']
    · rw [if_pos (by simpa using hdots)] at h
      exact .inl ⟨hdots, h⟩
    · rw [if_neg (by simpa using hdots)] at h
      split at h
      · cases h
      · next hlong => exact .inr ⟨hdots, by omega, h⟩

theorem follow_eq_ok (h : files.follow start names = .ok place) : place = resolve start names := by
  induction names generalizing start with
  | nil =>
    cases h
    rfl
  | cons name names ih =>
    rcases follow_cons_eq_ok h with ⟨-, ⟨hdots, h⟩ | ⟨hdots, -, h⟩⟩
    · rw [resolve, if_pos hdots]
      exact ih h
    · rw [resolve, if_neg hdots]
      exact ih h

theorem follow_of_locate (h : files.locate p = .ok place) :
    files.follow (if p.origin == .current then files.current else []) p.names = .ok place := by
  unfold locate at h
  split at h
  · cases h
  · split at h
    · cases h
    · exact h

/-- A path that leads to a place leads to the one it names. -/
theorem locate_eq_ok (h : files.locate p = .ok place) : place = files.placeOf p :=
  follow_eq_ok (follow_of_locate h)

/-- A way goes through directories only, so it stays open as long as these stay. -/
theorem follow_of_directories
    (hdirs : ∀ q, files.find? q = some .directory → files'.find? q = some .directory)
    (h : files.follow start names = .ok place) : files'.follow start names = .ok place := by
  induction names generalizing start with
  | nil => exact h
  | cons name names ih =>
    obtain ⟨hdir, hrest⟩ := follow_cons_eq_ok h
    rw [follow, hdirs start hdir]
    rcases hrest with ⟨hdots, h⟩ | ⟨hdots, hlong, h⟩
    · simpa [hdots] using ih h
    · simpa [hdots, Nat.not_lt.2 hlong] using ih h

theorem locate_of_directories (h : files.locate p = .ok place)
    (hcurrent : files'.current = files.current)
    (hdirs : ∀ q, files.find? q = some .directory → files'.find? q = some .directory) :
    files'.locate p = .ok place := by
  unfold locate at h ⊢
  split at h
  · cases h
  · next hnull =>
    rw [if_neg hnull]
    split at h
    · cases h
    · next hlong =>
      rw [if_neg hlong, hcurrent]
      exact follow_of_directories hdirs h

/-- What is put at the end of a way does not bar it, unless a directory stood there. -/
theorem locate_put (h : files.locate p = .ok place) (hplace : files.find? place ≠ some .directory) :
    (files.put place entry).locate p = .ok place := by
  refine locate_of_directories h rfl fun q hq => ?_
  have hne : q ≠ place := by
    rintro rfl
    exact hplace hq
  rwa [find?_put_of_ne hne]

/-! ### Keeping -/

/-- Everything outside some places is as before, except that directories may have been made where
nothing was. -/
structure Keeps (places : List Location) (before after : Files) : Prop where
  current : after.current = before.current
  entries : ∀ place ∉ places, after.find? place = before.find? place ∨
    before.find? place = none ∧ after.find? place = some .directory

theorem Keeps.refl (places : List Location) (files : Files) : Keeps places files files :=
  ⟨rfl, fun _ _ => .inl rfl⟩

theorem Keeps.trans {places : List Location} (h : Keeps places before middle)
    (h' : Keeps places middle after) : Keeps places before after := by
  refine ⟨h'.current.trans h.current, fun place hplace => ?_⟩
  rcases h.entries place hplace with heq | ⟨hnone, hdir⟩
  · rw [← heq]
    exact h'.entries place hplace
  · rcases h'.entries place hplace with heq | ⟨hnone', -⟩
    · exact .inr ⟨hnone, heq.trans hdir⟩
    · rw [hdir] at hnone'
      cases hnone'

theorem Keeps.mono {places more : List Location} (h : Keeps places before after)
    (hsub : places ⊆ more) : Keeps more before after :=
  ⟨h.current, fun place hplace => h.entries place fun hmem => hplace (hsub hmem)⟩

theorem Keeps.placeOf {places : List Location} (h : Keeps places before after) (p : Path) :
    after.placeOf p = before.placeOf p := by
  rw [Files.placeOf, h.current]
  rfl

/-- A file is kept with its content, and where there was none there is none. -/
theorem Keeps.file_iff {places : List Location} (h : Keeps places before after)
    (hplace : place ∉ places) :
    after.find? place = some (.file content) ↔ before.find? place = some (.file content) := by
  rcases h.entries place hplace with heq | ⟨hnone, hdir⟩
  · rw [heq]
  · simp [hnone, hdir]

theorem keeps_put (files : Files) (place : Location) (entry : Entry) :
    Keeps [place] files (files.put place entry) :=
  ⟨rfl, fun _ hne => .inl (find?_put_of_ne (by simpa using hne))⟩

theorem keeps_discard (files : Files) (place : Location) :
    Keeps [place] files (files.discard place) :=
  ⟨rfl, fun _ hne => .inl (find?_discard_of_ne (by simpa using hne))⟩

/-! ### Making directories -/

theorem keeps_of_makeOne (h : files.makeOne p = .ok files') : Keeps [] files files' := by
  obtain ⟨place, -, h⟩ := bind_eq_ok_iff.1 h
  split at h
  · cases h
  · next hnone =>
    cases h
    rw [Bool.not_eq_true, Option.isSome_eq_false_iff, Option.isNone_iff_eq_none] at hnone
    have hne : place ≠ [] := by
      rintro rfl
      cases hnone
    refine ⟨rfl, fun other _ => ?_⟩
    by_cases heq : other = place
    · subst heq
      exact .inr ⟨hnone, find?_put_same hne⟩
    · exact .inl (find?_put_of_ne heq)

theorem keeps_of_makeSure (h : files.makeSure p = .ok files') : Keeps [] files files' := by
  unfold makeSure at h
  split at h
  · cases h
  · split at h
    · cases h
      exact .refl _ _
    · cases h
  · next hone =>
    cases h
    exact keeps_of_makeOne hone

/-- What holds between the files before and after each directory that is made holds between those before
and after all of them, whether or not the last could be made. -/
theorem makeUpTo_of_makeSure {R : Files → Files → Prop} (hrefl : ∀ files, R files files)
    (htrans : ∀ files middle after, R files middle → R middle after → R files after)
    (hstep : ∀ files p files', files.makeSure p = .ok files' → R files files')
    (depth : Nat) (files : Files) (p : Path) : R files (makeUpTo depth files p).2 := by
  induction depth generalizing files p with
  | zero =>
    rw [makeUpTo]
    split
    · next h => exact hstep _ _ _ h
    · exact hrefl _
    · exact hrefl _
  | succ depth ih =>
    rw [makeUpTo]
    split
    · next h => exact hstep _ _ _ h
    · have hparent := ih files p.parent
      split
      · next h =>
        rw [h] at hparent
        exact hparent
      · next h =>
        rw [h] at hparent
        split
        · next h => exact htrans _ _ _ hparent (hstep _ _ _ h)
        · exact hparent
    · exact hrefl _

theorem makeDirectories_keeps (files : Files) (p : Path) :
    Keeps [] files (files.makeDirectories p).2 :=
  makeUpTo_of_makeSure (.refl []) (fun _ _ _ => .trans) (fun _ _ _ => keeps_of_makeSure) _ _ _

/-! ### Single files -/

theorem read_eq_ok (h : files.read p = .ok content) :
    files.locate p = .ok (files.placeOf p) ∧
      files.find? (files.placeOf p) = some (.file content) := by
  obtain ⟨entry, hentry, h⟩ := bind_eq_ok_iff.1 h
  obtain ⟨place, hplace, hfind⟩ := bind_eq_ok_iff.1 hentry
  obtain rfl := locate_eq_ok hplace
  refine ⟨hplace, ?_⟩
  cases entry with
  | directory => cases h
  | file found =>
    cases h
    split at hfind
    · next hfound =>
      cases hfind
      exact hfound
    · cases hfind

/-- Nothing can be read at a path that cannot be looked up. -/
theorem readText_of_exists?_error {e : FileError} (h : files.exists? p = .error e) :
    files.readText p = .error e := by
  unfold exists? at h
  split at h
  · cases h
  · next hentry =>
    cases h
    rw [readText, read, hentry]
    rfl
  · cases h

theorem write_eq_ok (h : files.write p content = .ok files') :
    files.locate p = .ok (files.placeOf p) ∧
      files.find? (files.placeOf p) ≠ some .directory ∧
        files' = files.put (files.placeOf p) (.file content) := by
  obtain ⟨place, hplace, h⟩ := bind_eq_ok_iff.1 h
  obtain rfl := locate_eq_ok hplace
  split at h
  · cases h
  · next hdir =>
    cases h
    refine ⟨hplace, fun heq => hdir ?_, rfl⟩
    rw [heq]
    rfl

/-- Only a directory is at the root, so no file is written there. -/
theorem ne_nil_of_not_directory (h : files.find? place ≠ some .directory) : place ≠ [] := by
  rintro rfl
  exact h rfl

theorem keeps_of_write (h : files.write p content = .ok files') :
    Keeps [files.placeOf p] files files' := by
  obtain ⟨-, -, rfl⟩ := write_eq_ok h
  exact keeps_put _ _ _

theorem find?_of_write (h : files.write p content = .ok files') :
    files'.find? (files.placeOf p) = some (.file content) := by
  obtain ⟨-, hdir, rfl⟩ := write_eq_ok h
  exact find?_put_same (ne_nil_of_not_directory hdir)

/-- What was written at a path is found there. -/
theorem entryAt_of_write (h : files.write p content = .ok files') :
    files'.entryAt p = .ok (.file content) := by
  have hfind := find?_of_write h
  obtain ⟨hplace, hdir, rfl⟩ := write_eq_ok h
  refine bind_eq_ok_iff.2 ⟨_, locate_put hplace hdir, ?_⟩
  rw [hfind]

/-- A file is removed by taking it away from its place. -/
theorem remove_eq_ok (h : files.remove p = .ok files') :
    files.locate p = .ok (files.placeOf p) ∧
      (∃ content, files.find? (files.placeOf p) = some (.file content)) ∧
        files' = files.discard (files.placeOf p) := by
  obtain ⟨place, hplace, h⟩ := bind_eq_ok_iff.1 h
  obtain rfl := locate_eq_ok hplace
  split at h
  · cases h
  · next content hfile =>
    cases h
    exact ⟨hplace, ⟨content, hfile⟩, rfl⟩
  · cases h

theorem keeps_of_remove (h : files.remove p = .ok files') :
    Keeps [files.placeOf p] files files' := by
  obtain ⟨-, -, rfl⟩ := remove_eq_ok h
  exact keeps_discard _ _

/-- A copy is made from a file that is there to another place. -/
theorem copy_eq_ok (h : files.copy source destination = .ok files') :
    files.placeOf source ≠ files.placeOf destination ∧
      ∃ content, files.read source = .ok content ∧ files.write destination content = .ok files' := by
  have hread : ∃ content, files.read source = .ok content ∧
      files.write destination content = .ok files' := by
    unfold copy at h
    rcases ite_eq_iff.1 h with ⟨-, h⟩ | ⟨-, h⟩
    · cases h
    · exact bind_eq_ok_iff.1 h
  refine ⟨fun heq => ?_, hread⟩
  obtain ⟨content, hread, hwrite⟩ := hread
  obtain ⟨hsource, hfile⟩ := read_eq_ok hread
  obtain ⟨hdestination, -, -⟩ := write_eq_ok hwrite
  simp [copy, hsource, hdestination, ← heq, hfile] at h

/-- A text can be read where its bytes are found, with all its lines ended by line feeds. -/
theorem readText_of_entryAt {text : List Char} (h : files.entryAt p = .ok (.file (encode text))) :
    files.exists? p = .ok true ∧ files.readText p = .ok (Text.unifyNewlines text) := by
  refine ⟨by rw [exists?, h], ?_⟩
  refine bind_eq_ok_iff.2 ⟨encode text, bind_eq_ok_iff.2 ⟨_, h, rfl⟩, ?_⟩
  rw [decode?_encode]

/-! ### Saving -/

/-- The files after a text was saved at a path: the directories around it made, then the file
written. -/
def Saves (files : Files) (p : Path) (text : List Char) (files' : Files) : Prop :=
  ∃ made, files.makeDirectories p.parent = (.ok (), made) ∧ made.writeText p text = .ok files'

variable {text : List Char}

theorem Saves.keeps (h : files.Saves p text files') : Keeps [files.placeOf p] files files' := by
  obtain ⟨made, hmade, hwrite⟩ := h
  have hkeeps := files.makeDirectories_keeps p.parent
  rw [hmade] at hkeeps
  have hwritten := keeps_of_write hwrite
  rw [hkeeps.placeOf] at hwritten
  exact (hkeeps.mono (by simp)).trans hwritten

theorem Saves.entryAt (h : files.Saves p text files') :
    files'.entryAt p = .ok (.file (encode text)) := by
  obtain ⟨made, -, hwrite⟩ := h
  exact entryAt_of_write hwrite

theorem Saves.find? (h : files.Saves p text files') :
    files'.find? (files.placeOf p) = some (.file (encode text)) := by
  obtain ⟨made, hmade, hwrite⟩ := h
  have hkeeps := files.makeDirectories_keeps p.parent
  rw [hmade] at hkeeps
  rw [← hkeeps.placeOf]
  exact find?_of_write hwrite

/-- Whether a text can be saved is found out by saving it. -/
theorem exists_saves_iff :
    (∃ files', files.Saves p text files') ↔
      (files.makeDirectories p.parent).1 = .ok () ∧
        ((files.makeDirectories p.parent).2.writeText p text).isOk = true := by
  constructor
  · rintro ⟨files', made, hmade, hwrite⟩
    rw [hmade, hwrite]
    exact ⟨rfl, rfl⟩
  · rintro ⟨hmade, hwrite⟩
    cases h : (files.makeDirectories p.parent).2.writeText p text with
    | error e =>
      rw [h] at hwrite
      cases hwrite
    | ok files' => exact ⟨files', _, Prod.ext hmade rfl, h⟩

instance (files : Files) (p : Path) (text : List Char) :
    Decidable (∃ files', files.Saves p text files') := decidable_of_iff _ exists_saves_iff.symm

end SpecGrammar.Files
