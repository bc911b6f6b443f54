import SpecGrammar.Proofs.Files
import SpecGrammar.Proofs.Text.Blank

/-!
# The files form a tree

* `Files.IsTree`: whatever is stored stands in a directory, and so does the current directory;
* `IsTree.directory_of_locate`: a path leads only to places in a directory;
* `IsTree.makeDirectories`, `IsTree.write`, `IsTree.remove`, `IsTree.copy`: every operation leaves a
  tree;
* `IsTree.makeDirectories_of_discard`: around a file that was there all directories are there.
-/

namespace SpecGrammar.Files

/-- Everything that is stored stands in a directory. -/
structure IsTree (files : Files) : Prop where
  current : files.find? files.current = some .directory
  parent : ∀ place entry, files.find? place = some entry →
    files.find? place.dropLast = some .directory

variable {files files' : Files} {p source destination : Path} {start place : Location}
  {names : List (List Char)} {content : ByteArray} {entry : Entry}

/-! ### Where paths lead -/

theorem IsTree.directory_of_follow (h : files.IsTree)
    (hstart : files.find? start.dropLast = some .directory)
    (hplace : files.follow start names = .ok place) :
    files.find? place.dropLast = some .directory := by
  induction names generalizing start with
  | nil =>
    cases hplace
    exact hstart
  | cons name names ih =>
    obtain ⟨hdir, hrest⟩ := follow_cons_eq_ok hplace
    rcases hrest with ⟨-, hrest⟩ | ⟨-, -, hrest⟩
    · exact ih (h.parent _ _ hstart) hrest
    · exact ih (by rwa [List.dropLast_concat]) hrest

/-- The place where a path begins is a directory. -/
theorem IsTree.origin (h : files.IsTree) (p : Path) :
    files.find? (if p.origin == .current then files.current else []) = some .directory := by
  split
  · exact h.current
  · rfl

/-- A path leads only to places in a directory. -/
theorem IsTree.directory_of_locate (h : files.IsTree) (hplace : files.locate p = .ok place) :
    files.find? place.dropLast = some .directory :=
  h.directory_of_follow (h.parent _ _ (h.origin p)) (follow_of_locate hplace)

/-! ### What operations leave -/

theorem isTree_root : (⟨[], []⟩ : Files).IsTree := by
  refine ⟨rfl, fun place entry h => ?_⟩
  cases place with
  | nil => rfl
  | cons name place => cases h

/-- A tree to which only places in its directories are added is one, if no directory goes. -/
theorem IsTree.of_directories (h : files.IsTree) (hcurrent : files'.current = files.current)
    (hdirs : ∀ q, files.find? q = some .directory → files'.find? q = some .directory)
    (hnew : ∀ q, (files'.find? q).isSome = true → (files.find? q).isSome = true ∨
      files.find? q.dropLast = some .directory) : files'.IsTree := by
  refine ⟨hcurrent ▸ hdirs _ h.current, fun q entry hq => hdirs _ ?_⟩
  rcases hnew q (by rw [hq]; rfl) with hold | hparent
  · obtain ⟨old, hold⟩ := Option.isSome_iff_exists.1 hold
    exact h.parent q old hold
  · exact hparent

theorem IsTree.put (h : files.IsTree) (hparent : files.find? place.dropLast = some .directory)
    (hplace : files.find? place ≠ some .directory) : (files.put place entry).IsTree := by
  refine h.of_directories rfl (fun q hq => ?_) fun q hq => ?_
  · have hne : q ≠ place := by
      rintro rfl
      exact hplace hq
    rwa [find?_put_of_ne hne]
  · by_cases heq : q = place
    · exact .inr (heq ▸ hparent)
    · rw [find?_put_of_ne heq] at hq
      exact .inl hq

/-- What is no directory can be taken away. -/
theorem directory_of_discard (hplace : files.find? place ≠ some .directory) {q : Location}
    (hq : files.find? q = some .directory) : (files.discard place).find? q = some .directory := by
  have hne : q ≠ place := by
    rintro rfl
    exact hplace hq
  rwa [find?_discard_of_ne hne]

/-- All paths lead where they led. -/
theorem locate_of_discard {q : Location} (hplace : files.find? place ≠ some .directory)
    (h : files.locate p = .ok q) : (files.discard place).locate p = .ok q :=
  locate_of_directories h rfl fun _ => directory_of_discard hplace

theorem IsTree.discard (h : files.IsTree) (hplace : files.find? place ≠ some .directory) :
    (files.discard place).IsTree := by
  refine h.of_directories rfl (fun q => directory_of_discard hplace) fun q hq => ?_
  by_cases heq : q = place
  · rw [heq, find?_discard_same (ne_nil_of_not_directory hplace)] at hq
    cases hq
  · rw [find?_discard_of_ne heq] at hq
    exact .inl hq

theorem IsTree.makeOne (h : files.IsTree) (hmade : files.makeOne p = .ok files') :
    files'.IsTree := by
  obtain ⟨place, hplace, hmade⟩ := bind_eq_ok_iff.1 hmade
  split at hmade
  · cases hmade
  · next hnone =>
    cases hmade
    refine h.put (h.directory_of_locate hplace) ?_
    rintro hdir
    rw [hdir] at hnone
    exact hnone rfl

theorem IsTree.makeSure (h : files.IsTree) (hmade : files.makeSure p = .ok files') :
    files'.IsTree := by
  unfold Files.makeSure at hmade
  split at hmade
  · cases hmade
  · split at hmade
    · cases hmade
      exact h
    · cases hmade
  · next hone =>
    cases hmade
    exact h.makeOne hone

theorem IsTree.makeDirectories (h : files.IsTree) (p : Path) :
    (files.makeDirectories p).2.IsTree :=
  makeUpTo_of_makeSure (R := fun before after => before.IsTree → after.IsTree) (fun _ => id)
    (fun _ _ _ h h' => h' ∘ h) (fun _ _ _ hmade h => h.makeSure hmade) _ _ _ h

theorem IsTree.write (h : files.IsTree) (hwrite : files.write p content = .ok files') :
    files'.IsTree := by
  obtain ⟨hplace, hdir, rfl⟩ := write_eq_ok hwrite
  exact h.put (h.directory_of_locate hplace) hdir

theorem IsTree.copy (h : files.IsTree) (hcopy : files.copy source destination = .ok files') :
    files'.IsTree := by
  obtain ⟨-, content, -, hwrite⟩ := copy_eq_ok hcopy
  exact h.write hwrite

theorem IsTree.remove (h : files.IsTree) (hremove : files.remove p = .ok files') :
    files'.IsTree := by
  obtain ⟨-, ⟨content, hfile⟩, rfl⟩ := remove_eq_ok hremove
  exact h.discard (by simp [hfile])

/-! ### The directories around a file -/

theorem size_encode_le_append (s t : List Char) : (encode s).size ≤ (encode (s ++ t)).size := by
  have hsize : (encode (s ++ t)).size = (encode s).size + (encode t).size := by
    simp [encode, String.ofList_append]
  omega

theorem joinWith_concat (separator : List Char) (names : List (List Char)) (name : List Char) :
    ∃ more, Text.joinWith separator (names ++ [name]) = Text.joinWith separator names ++ more := by
  induction names with
  | nil => exact ⟨name, rfl⟩
  | cons first names ih =>
    obtain ⟨more, ih⟩ := ih
    rw [List.cons_append, Text.joinWith_cons (by simp), ih]
    cases names with
    | nil => exact ⟨separator ++ more, by simp [Text.joinWith]⟩
    | cons second names =>
      have hcons : Text.joinWith separator (first :: second :: names) =
          first ++ separator ++ Text.joinWith separator (second :: names) :=
        Text.joinWith_cons (List.cons_ne_nil second names)
      exact ⟨more, by rw [hcons]; simp⟩

/-- What is not too long for a path is not too long for the path around it. -/
theorem size_encode_parent_le (h : (encode p.toText).size ≤ longestPath) :
    (encode p.parent.toText).size ≤ longestPath := by
  obtain ⟨origin, names⟩ := p
  rcases List.eq_nil_or_concat names with rfl | ⟨names, name, rfl⟩
  · exact h
  rw [List.concat_eq_append] at h ⊢
  have hparent : Path.parent ⟨origin, names ++ [name]⟩ = ⟨origin, names⟩ := by simp [Path.parent]
  obtain ⟨more, hmore⟩ := joinWith_concat ['/'] names name
  rw [hparent]
  have hlonger : ∀ slashes : List Char, (encode (slashes ++ Text.joinWith ['/'] names)).size ≤
      (encode (slashes ++ Text.joinWith ['/'] (names ++ [name]))).size := by
    intro slashes
    rw [hmore, ← List.append_assoc]
    exact size_encode_le_append _ _
  cases origin with
  | current =>
    cases names with
    | nil => decide
    | cons first names => exact (hlonger []).trans h
  | root => exact (hlonger ['/']).trans h
  | doubleRoot => exact (hlonger ['/', '/']).trans h

theorem follow_append {more : List (List Char)} (h : files.follow start (names ++ more) = .ok place) :
    ∃ q, files.follow start names = .ok q ∧ files.follow q more = .ok place := by
  induction names generalizing start with
  | nil => exact ⟨start, rfl, h⟩
  | cons name names ih =>
    obtain ⟨hdir, hrest⟩ := follow_cons_eq_ok h
    rw [follow, hdir]
    rcases hrest with ⟨hdots, h⟩ | ⟨hdots, hlong, h⟩
    · obtain ⟨q, hq, hplace⟩ := ih h
      exact ⟨q, by simpa [hdots] using hq, hplace⟩
    · obtain ⟨q, hq, hplace⟩ := ih h
      exact ⟨q, by simpa [hdots, Nat.not_lt.2 hlong] using hq, hplace⟩

/-- Around a place to which a path leads there is a directory. -/
theorem locate_parent (hplace : files.locate p = .ok place) (hnames : p.names ≠ []) :
    ∃ q, files.locate p.parent = .ok q ∧ files.find? q = some .directory := by
  obtain ⟨names, name, hconcat⟩ := (List.eq_nil_or_concat p.names).resolve_left hnames
  rw [List.concat_eq_append] at hconcat
  have hparent : p.parent.names = names := by simp [Path.parent, hconcat]
  have hfollow := follow_of_locate hplace
  rw [hconcat] at hfollow
  obtain ⟨q, hq, hlast⟩ := follow_append hfollow
  refine ⟨q, ?_, (follow_cons_eq_ok hlast).1⟩
  unfold locate at hplace ⊢
  split at hplace
  · cases hplace
  next hnull =>
  split at hplace
  · cases hplace
  next hlong =>
  have hnull' : ¬ p.parent.names.any (·.contains '\x00') = true := by
    rw [hparent]
    rw [hconcat, List.any_append] at hnull
    simp_all
  rw [if_neg hnull', if_neg (by have := size_encode_parent_le (p := p); omega), hparent]
  exact hq

/-- A directory that is there need not be made. -/
theorem makeDirectories_of_directory (hplace : files.locate p = .ok place)
    (hdir : files.find? place = some .directory) : files.makeDirectories p = (.ok (), files) := by
  have hone : files.makeOne p = .error .alreadyExists := by
    simp [makeOne, hplace, hdir, bind, Except.bind]
  have hthere : files.isDirectory p = true := by
    simp [isDirectory, entryAt, hplace, hdir, bind, Except.bind]
    rfl
  have hsure : files.makeSure p = .ok files := by
    rw [makeSure, hone]
    exact if_pos hthere
  unfold makeDirectories
  cases p.names.length <;> rw [makeUpTo, hsure]

/-- In a tree the directories around a file are there, and need not be made once it is gone. -/
theorem IsTree.makeDirectories_of_discard (h : files.IsTree) (hplace : files.locate p = .ok place)
    (hfile : files.find? place = some (.file content)) :
    (files.discard place).makeDirectories p.parent = (.ok (), files.discard place) := by
  have hnot : files.find? place ≠ some .directory := by simp [hfile]
  have hnames : p.names ≠ [] := by
    intro hnil
    have hfollow := follow_of_locate hplace
    rw [hnil] at hfollow
    cases hfollow
    exact hnot (h.origin p)
  obtain ⟨q, hq, hdir⟩ := locate_parent hplace hnames
  exact makeDirectories_of_directory (locate_of_discard hnot hq) (directory_of_discard hnot hdir)

end SpecGrammar.Files
