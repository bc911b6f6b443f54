import Mathlib.Data.List.DropRight
import SpecGrammar.Text.Blank
import SpecGrammar.Text.Word

/-!
# Trimming and cutting

* `trim_padded`: white space around a text does not change what trimming leaves of it;
* `exists_eq_trim_padded`: a text is what trimming leaves of it with white space around;
* `isBlank_head_of_trim`: a trimmed text begins with something else than white space;
* `exists_trim_eq_cons`: the first character that trimming leaves;
* `joinWith_splitWhen`, `splitWhen_joinWith`: cutting at a character and joining with it undo each
  other, the second on pieces that do not hold the character;
* `isBlank_of_isWord`: no word character is white space;
* `takeWhile_append_of_head`, `dropWhile_append_of_head`: where a beginning in a class ends.
-/

namespace SpecGrammar.Text

/-- Nothing but white space. -/
def Blank (s : List Char) : Prop := ∀ c ∈ s, isBlank c = true

variable {s t a b : List Char} {c : Char}

/-! ### Beginnings in a class -/

section Beginnings

variable {p : Char → Bool} {r : List Char}

theorem takeWhile_append_of_head (ht : ∀ c ∈ t, p c = true) (hr : ∀ c ∈ r.head?, p c = false) :
    (t ++ r).takeWhile p = t := by
  rw [List.takeWhile_append_of_pos ht]
  cases r with
  | nil => simp
  | cons c r => rw [List.takeWhile_cons_of_neg (by simp [hr c rfl]), List.append_nil]

theorem dropWhile_append_of_head (ht : ∀ c ∈ t, p c = true) (hr : ∀ c ∈ r.head?, p c = false) :
    (t ++ r).dropWhile p = r := by
  rw [List.dropWhile_append_of_pos ht]
  cases r with
  | nil => rfl
  | cons c r => rw [List.dropWhile_cons_of_neg (by simp [hr c rfl])]

theorem take_length_takeWhile (p : Char → Bool) (s : List Char) :
    s.take (s.takeWhile p).length = s.takeWhile p :=
  (List.prefix_iff_eq_take.1 (List.takeWhile_prefix p)).symm

theorem drop_length_takeWhile (p : Char → Bool) (s : List Char) :
    s.drop (s.takeWhile p).length = s.dropWhile p := by
  have hs := List.take_append_drop (s.takeWhile p).length s
  rw [take_length_takeWhile] at hs
  exact List.append_cancel_left (hs.trans List.takeWhile_append_dropWhile.symm)

end Beginnings

/-! ### Trimming -/

theorem Blank.append (ha : Blank a) (hb : Blank b) : Blank (a ++ b) :=
  fun c hc => (List.mem_append.1 hc).elim (ha c) (hb c)

theorem trimStart_append (ha : Blank a) : trimStart (a ++ s) = trimStart s :=
  List.dropWhile_append_of_pos ha

theorem trimEnd_concat (s : List Char) (c : Char) :
    trimEnd (s ++ [c]) = if isBlank c then trimEnd s else s ++ [c] := by
  induction s with
  | nil => simp [trimEnd]
  | cons d r ih =>
    cases hc : isBlank c with
    | true =>
      rw [hc, if_pos rfl] at ih
      rw [if_pos rfl, List.cons_append, trimEnd, trimEnd, ih]
    | false =>
      rw [hc, if_neg (by simp)] at ih
      rw [if_neg (by simp), List.cons_append, trimEnd, ih]
      cases r <;> rfl

theorem trimEnd_eq_rdropWhile (s : List Char) : trimEnd s = s.rdropWhile isBlank := by
  induction s using List.reverseRecOn with
  | nil => rfl
  | append_singleton s c ih => rw [trimEnd_concat, List.rdropWhile_concat, ih]

theorem trimEnd_append (hb : Blank b) : trimEnd (s ++ b) = trimEnd s := by
  induction b using List.reverseRecOn with
  | nil => rw [List.append_nil]
  | append_singleton b c ih =>
    have hc : isBlank c = true := hb c (by simp)
    rw [← List.append_assoc, trimEnd_concat, if_pos hc]
    exact ih fun d hd => hb d (by simp [hd])

theorem exists_eq_trimStart (s : List Char) : ∃ a, Blank a ∧ s = a ++ trimStart s :=
  ⟨s.takeWhile isBlank, fun _ hc => List.mem_takeWhile_imp hc, List.takeWhile_append_dropWhile.symm⟩

theorem exists_eq_trimEnd (s : List Char) : ∃ b, Blank b ∧ s = trimEnd s ++ b := by
  refine ⟨s.rtakeWhile isBlank, fun c hc => List.mem_rtakeWhile_imp hc, ?_⟩
  rw [trimEnd_eq_rdropWhile, List.rdropWhile_append_rtakeWhile]

/-- A text is what trimming leaves of it, with white space around. -/
theorem exists_eq_trim_padded (s : List Char) :
    ∃ a b, Blank a ∧ Blank b ∧ s = a ++ trim s ++ b := by
  obtain ⟨a, ha, hs⟩ := exists_eq_trimStart s
  obtain ⟨b, hb, ht⟩ := exists_eq_trimEnd (trimStart s)
  refine ⟨a, b, ha, hb, ?_⟩
  rw [List.append_assoc, trim, ← ht, ← hs]

/-- The text of its first character that is not white space onwards begins with one that is not. -/
theorem isBlank_head_trimStart {r : List Char} (h : trimStart s = c :: r) : isBlank c = false := by
  have := List.head?_dropWhile_not isBlank s
  rw [show s.dropWhile isBlank = c :: r from h] at this
  simpa using this

theorem trim_padded (ha : Blank a) (hb : Blank b) : trim (a ++ s ++ b) = trim s := by
  rw [List.append_assoc, trim, trimStart_append ha, trim]
  obtain ⟨d, hd, hs⟩ := exists_eq_trimStart s
  cases h : trimStart s with
  | nil =>
    have hsb : Blank (s ++ b) := by
      rw [hs, h, List.append_nil]
      exact hd.append hb
    rw [← List.append_nil (s ++ b), trimStart_append hsb]
    rfl
  | cons c r =>
    have hc := isBlank_head_trimStart h
    rw [hs, h, List.append_assoc, trimStart_append hd, trimStart, List.cons_append,
      List.dropWhile_cons_of_neg (by simp [hc]), ← List.cons_append, trimEnd_append hb]

theorem trim_trim (s : List Char) : trim (trim s) = trim s := by
  obtain ⟨a, b, ha, hb, hs⟩ := exists_eq_trim_padded s
  conv_rhs => rw [hs, trim_padded ha hb]

/-- White space in front of a text does not change what trimming leaves of it. -/
theorem trim_append (h : Blank a) (s : List Char) : trim (a ++ s) = trim s := by
  have htrim := trim_padded (s := s) h (b := []) (by simp [Blank])
  rwa [List.append_nil] at htrim

theorem trim_of_blank (h : Blank s) : trim s = [] := by
  have htrim := trim_append h []
  rwa [List.append_nil] at htrim

/-- Trimming leaves nothing of white space only. -/
theorem blank_of_trim (h : trim s = []) : Blank s := by
  obtain ⟨a, b, ha, hb, hs⟩ := exists_eq_trim_padded s
  rw [hs, h, List.append_nil]
  exact ha.append hb

theorem trim_isInfix (s : List Char) : trim s <:+: s := by
  obtain ⟨a, b, -, -, hs⟩ := exists_eq_trim_padded s
  exact ⟨a, b, hs.symm⟩

/-- A text that is not shortened by trimming begins with something else than white space. -/
theorem isBlank_head_of_trim (h : trim s = s) : ∀ c ∈ s.head?, isBlank c = false := by
  intro c hc
  obtain ⟨r, rfl⟩ := List.head?_eq_some_iff.1 hc
  by_contra hblank
  have hstart : trimStart (c :: r) = r.dropWhile isBlank :=
    List.dropWhile_cons_of_pos (by simpa using hblank)
  have hle : (trim (c :: r)).length ≤ r.length := by
    rw [trim, hstart]
    exact (length_trimEnd_le _).trans (List.length_dropWhile_le _ _)
  rw [h, List.length_cons] at hle
  omega

/-- What trimming leaves of a text begins with its first character that is not white space. -/
theorem exists_trim_eq_cons {r : List Char} (ha : Blank a) (hc : isBlank c = false) :
    ∃ q, trim (a ++ c :: r) = c :: q := by
  have hstart : trimStart (c :: r) = c :: r := List.dropWhile_cons_of_neg (by simp [hc])
  rw [trim, trimStart_append ha, hstart, trimEnd]
  cases trimEnd r with
  | nil => exact ⟨[], by simp [hc]⟩
  | cons d q => exact ⟨d :: q, rfl⟩

/-- Trimming changes no text that begins and ends with something else than white space. -/
theorem trim_of_ends {r : List Char} (hc : isBlank c = false) {d : Char} (hd : isBlank d = false)
    (h : s = c :: r) (h' : ∃ q, s = q ++ [d]) : trim s = s := by
  obtain ⟨q, hq⟩ := h'
  have hstart : trimStart s = s := by
    rw [h, trimStart, List.dropWhile_cons_of_neg (by simp [hc])]
  rw [trim, hstart, hq, trimEnd_concat, if_neg (by simp [hd])]

/-- A text that is not shortened by trimming ends with something else than white space. -/
theorem isBlank_last_of_trim (h : trim (s ++ [c]) = s ++ [c]) : isBlank c = false := by
  by_contra hblank
  have hc : Blank [c] := List.forall_mem_singleton.2 (by simpa using hblank)
  have hle : (trim s).length ≤ s.length :=
    (length_trimEnd_le _).trans (List.length_dropWhile_le _ _)
  have hpadded := trim_padded (a := []) (s := s) (by simp [Blank]) hc
  rw [List.nil_append, h] at hpadded
  rw [← hpadded, List.length_append, List.length_singleton] at hle
  omega

/-- Nothing is trimmed from a text between two that are trimmed. -/
theorem trim_between (hs : trim s = s) (ht : trim t = t) (hs' : s ≠ []) (ht' : t ≠ [])
    (u : List Char) : trim (s ++ u ++ t) = s ++ u ++ t := by
  obtain ⟨c, s, rfl⟩ := List.exists_cons_of_ne_nil hs'
  obtain ⟨q, d, rfl⟩ := (List.eq_nil_or_concat' t).resolve_left ht'
  exact trim_of_ends (isBlank_head_of_trim hs c rfl) (isBlank_last_of_trim ht) rfl
    ⟨c :: s ++ u ++ q, by simp⟩

theorem trim_of_not_isBlank (h : ∀ c ∈ s, isBlank c = false) : trim s = s := by
  rcases List.eq_nil_or_concat s with rfl | ⟨q, d, rfl⟩
  · rfl
  · cases q with
    | nil => exact trim_of_ends (h d (by simp)) (h d (by simp)) rfl ⟨[], rfl⟩
    | cons c q => exact trim_of_ends (h c (by simp)) (h d (by simp)) rfl ⟨c :: q, by simp⟩

/-! ### Cutting and joining -/

variable {p : Char → Bool} {sep : Char}

theorem splitWhen_of_not (h : ∀ c ∈ s, p c = false) : splitWhen p s = [s] := by
  induction s with
  | nil => rfl
  | cons c r ih =>
    rw [splitWhen, ih fun d hd => h d (by simp [hd])]
    simp [h c]

/-- Cutting at a character of the class leaves the pieces on both sides as they are. -/
theorem splitWhen_append (hc : p c = true) (s t : List Char) :
    splitWhen p (s ++ c :: t) = splitWhen p s ++ splitWhen p t := by
  induction s with
  | nil => simp [splitWhen, hc]
  | cons d r ih =>
    rw [List.cons_append, splitWhen, splitWhen, ih]
    split
    · rfl
    · cases h : splitWhen p r with
      | nil => exact absurd h (splitWhen_ne_nil p r)
      | cons piece pieces => rfl

theorem splitWhen_append_cons (h : ∀ c ∈ s, p c = false) (hc : p c = true) :
    splitWhen p (s ++ c :: t) = s :: splitWhen p t := by
  rw [splitWhen_append hc, splitWhen_of_not h]
  rfl

theorem splitWhen_joinWith {pieces : List (List Char)} (hne : pieces ≠ [])
    (h : ∀ piece ∈ pieces, sep ∉ piece) : splitWhen (· == sep) (joinWith [sep] pieces) = pieces := by
  induction pieces with
  | nil => exact absurd rfl hne
  | cons piece r ih =>
    have hp : ∀ c ∈ piece, (c == sep) = false := by
      intro c hc
      simp only [beq_eq_false_iff_ne]
      rintro rfl
      exact h piece (by simp) hc
    cases r with
    | nil => rw [joinWith, splitWhen_of_not hp]
    | cons q r =>
      rw [joinWith, List.append_assoc, List.singleton_append, splitWhen_append_cons hp (by simp),
        ih (by simp) fun piece hm => h piece (by simp [hm])]
      simp

theorem splitWhen_cons_of_not (hc : p c = false) :
    ∃ piece pieces, splitWhen p s = piece :: pieces ∧
      splitWhen p (c :: s) = (c :: piece) :: pieces := by
  cases h : splitWhen p s with
  | nil => exact absurd h (splitWhen_ne_nil p s)
  | cons piece pieces => exact ⟨piece, pieces, rfl, by simp [splitWhen, hc, h]⟩

/-- Every character of a piece is one of the text, and none is one that the text was cut at. -/
theorem mem_of_mem_splitWhen {piece : List Char} (h : piece ∈ splitWhen p s) (hc : c ∈ piece) :
    c ∈ s ∧ p c = false := by
  induction s generalizing piece with
  | nil =>
    obtain rfl : piece = [] := by simpa [splitWhen] using h
    exact absurd hc (by simp)
  | cons d r ih =>
    cases hd : p d with
    | true =>
      rw [splitWhen, hd, if_pos rfl] at h
      rcases List.mem_cons.1 h with rfl | h
      · exact absurd hc (by simp)
      · exact (ih h hc).imp_left (List.mem_cons_of_mem d)
    | false =>
      obtain ⟨first, rest, hr, hdr⟩ := splitWhen_cons_of_not (s := r) hd
      rw [hdr] at h
      rw [hr] at ih
      rcases List.mem_cons.1 h with rfl | h
      · rcases List.mem_cons.1 hc with rfl | hc
        · exact ⟨by simp, hd⟩
        · exact (ih (by simp) hc).imp_left (List.mem_cons_of_mem d)
      · exact (ih (by simp [h]) hc).imp_left (List.mem_cons_of_mem d)

theorem joinWith_cons {separator : List Char} {pieces : List (List Char)} (h : pieces ≠ []) :
    joinWith separator (s :: pieces) = s ++ separator ++ joinWith separator pieces := by
  cases pieces with
  | nil => exact absurd rfl h
  | cons q r => rw [joinWith]; simp

theorem not_mem_joinWith {separator : List Char} {pieces : List (List Char)} (hsep : c ∉ separator)
    (h : ∀ piece ∈ pieces, c ∉ piece) : c ∉ joinWith separator pieces := by
  induction pieces with
  | nil => simp [joinWith]
  | cons piece r ih =>
    cases r with
    | nil => exact h piece (by simp)
    | cons q r =>
      rw [joinWith_cons (by simp)]
      simp only [List.mem_append, not_or]
      exact ⟨⟨h piece (by simp), hsep⟩, ih fun p hm => h p (List.mem_cons_of_mem _ hm)⟩

theorem trim_joinWith {pieces : List (List Char)} (hne : pieces ≠ [])
    (h : ∀ piece ∈ pieces, trim piece = piece ∧ piece ≠ []) (separator : List Char) :
    trim (joinWith separator pieces) = joinWith separator pieces ∧
      joinWith separator pieces ≠ [] := by
  induction pieces with
  | nil => exact absurd rfl hne
  | cons piece pieces ih =>
    obtain ⟨⟨htrim, hpiece⟩, hpieces⟩ := List.forall_mem_cons.1 h
    by_cases hlast : pieces = []
    · subst hlast
      exact ⟨htrim, hpiece⟩
    · obtain ⟨hjoined, hjoined'⟩ := ih hlast hpieces
      rw [joinWith_cons hlast]
      exact ⟨trim_between htrim hjoined hpiece hjoined' separator, by simp [hpiece]⟩

theorem joinWith_splitWhen (s : List Char) : joinWith [sep] (splitWhen (· == sep) s) = s := by
  induction s with
  | nil => rfl
  | cons c r ih =>
    by_cases hc : c = sep
    · subst hc
      rw [splitWhen, if_pos (by simp), joinWith_cons (splitWhen_ne_nil _ r), ih]
      rfl
    · obtain ⟨piece, pieces, hr, hcr⟩ := splitWhen_cons_of_not (s := r) (p := (· == sep))
        (c := c) (by simp [hc])
      rw [hr] at ih
      rw [hcr, ← ih]
      cases pieces <;> simp [joinWith]

/-! ### Kinds of character -/

/-- The code points of white space. -/
def blankPoints : List Nat :=
  [9, 10, 11, 12, 13, 28, 29, 30, 31, 32, 0x85, 0xa0, 0x1680, 0x2000, 0x2001, 0x2002, 0x2003,
    0x2004, 0x2005, 0x2006, 0x2007, 0x2008, 0x2009, 0x200a, 0x2028, 0x2029, 0x202f, 0x205f, 0x3000]

theorem toNat_mem_blankPoints (h : isBlank c = true) : c.toNat ∈ blankPoints := by
  simp only [isBlank, Bool.or_eq_true, Bool.and_eq_true, decide_eq_true_eq, beq_iff_eq] at h
  simp only [blankPoints, List.mem_cons, List.not_mem_nil, or_false]
  omega

theorem isWord_eq_false_of_mem_blankPoints :
    ∀ n ∈ blankPoints, isWord (Char.ofNat n) = false := by
  decide +kernel

theorem isBlank_of_isWord (h : isWord c = true) : isBlank c = false := by
  by_contra hc
  have := isWord_eq_false_of_mem_blankPoints c.toNat (toNat_mem_blankPoints (by simpa using hc))
  rw [Char.ofNat_toNat, h] at this
  exact Bool.noConfusion this

end SpecGrammar.Text
