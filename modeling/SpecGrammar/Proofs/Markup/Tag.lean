import SpecGrammar.Proofs.Markup.Written
import SpecGrammar.Proofs.Text.Blank
import SpecGrammar.Proofs.Traversal

/-!
# Reading the tags that are written

* `attributesFrom_write`: the attributes of a start tag as they are written;
* `startTag_write`: a start tag is read with its name and its decoded attributes;
* `plainEndTag?_write`: an end tag is read with its name.
-/

namespace SpecGrammar.Markup

open Text (isBlank trimStart takeWhile_append_of_head dropWhile_append_of_head)
open Reference (escape)

variable {c : Char} {rest : List Char}

/-! ### Characters of names -/

theorem isLower_iff : c.isLower = true ↔ 97 ≤ c.toNat ∧ c.toNat ≤ 122 := by
  show (decide (97 ≤ c.val) && decide (c.val ≤ 122)) = true ↔ _
  rw [Bool.and_eq_true, decide_eq_true_eq, decide_eq_true_eq, UInt32.le_iff_toNat_le,
    UInt32.le_iff_toNat_le]
  rfl

theorem isAlpha_of_isLower (h : c.isLower = true) : c.isAlpha = true := by
  show (c.isUpper || c.isLower) = true
  rw [h, Bool.or_true]

theorem toNat_of_isNameCharacter (h : isNameCharacter c = true) :
    c.toNat = 45 ∨ (48 ≤ c.toNat ∧ c.toNat ≤ 57) ∨ (97 ≤ c.toNat ∧ c.toNat ≤ 122) := by
  simp only [isNameCharacter, Bool.or_eq_true, beq_iff_eq, Char.isDigit, Bool.and_eq_true,
    decide_eq_true_eq, UInt32.le_iff_toNat_le, ← Char.toNat_val] at h ⊢
  rcases h with (h | h) | rfl
  · exact .inr (.inr (isLower_iff.1 h))
  · exact .inr (.inl h)
  · exact .inl rfl

theorem ne_of_isNameCharacter {x : Char} (h : isNameCharacter c = true)
    (hx : isNameCharacter x = false) : c ≠ x := by
  rintro rfl
  exact Bool.noConfusion (h.symm.trans hx)

theorem forall_ne_of_isNameCharacter (h : isNameCharacter c = true) {l : List Char}
    (hl : l.all (!isNameCharacter ·) = true) : ∀ x ∈ l, c ≠ x := by
  intro x hx
  exact ne_of_isNameCharacter h (by simpa using List.all_eq_true.1 hl x hx)

theorem isBlank_of_isNameCharacter (h : isNameCharacter c = true) : isBlank c = false := by
  have := toNat_of_isNameCharacter h
  simp only [isBlank, Bool.or_eq_false_iff, Bool.and_eq_false_iff, decide_eq_false_iff_not,
    beq_eq_false_iff_ne, ne_eq]
  omega

theorem isTagCharacter_of_isNameCharacter (h : isNameCharacter c = true) :
    isTagCharacter c = true := by
  have hne : ∀ x ∈ ['\t', '\n', '\r', '\x0c', ' ', '/', '>', '\x00'], c ≠ x :=
    forall_ne_of_isNameCharacter h (by decide)
  simp only [List.forall_mem_cons] at hne
  simp [isTagCharacter, hne]

theorem isAttributeCharacter_of_isNameCharacter (h : isNameCharacter c = true) :
    isAttributeCharacter c = true := by
  have hne : ∀ x ∈ ['/', '=', '>'], c ≠ x := forall_ne_of_isNameCharacter h (by decide)
  simp only [List.forall_mem_cons] at hne
  simp [isAttributeCharacter, isBlank_of_isNameCharacter h, hne]

theorem isEndTagCharacter_of_isNameCharacter (h : isNameCharacter c = true) :
    isEndTagCharacter c = true := by
  simp only [isNameCharacter, Bool.or_eq_true] at h
  rcases h with (h | h) | h
  · simp [isEndTagCharacter, Char.isAlphanum, isAlpha_of_isLower h]
  · simp [isEndTagCharacter, Char.isAlphanum, h]
  · simp [isEndTagCharacter, h]

theorem toLower_of_isNameCharacter (h : isNameCharacter c = true) : c.toLower = c := by
  have hc := toNat_of_isNameCharacter h
  refine dif_neg fun hupper => ?_
  have hA : 65 ≤ c.toNat := UInt32.le_iff_toNat_le.1 hupper.1
  have hZ : c.toNat ≤ 90 := UInt32.le_iff_toNat_le.1 hupper.2
  omega

/-- A name is its own lower-case form. -/
theorem lowerFrom_of_isNameCharacter {s : List Char} (h : ∀ c ∈ s, isNameCharacter c = true)
    (before : List Char) : Text.lowerFrom before s = s := by
  induction s generalizing before with
  | nil => rfl
  | cons c r ih =>
    obtain ⟨hc, hr⟩ := List.forall_mem_cons.1 h
    have hsigma : c ≠ 'Σ' := ne_of_isNameCharacter hc (by decide)
    have hlow : c.toNat < 0x80 := by
      have := toNat_of_isNameCharacter hc
      omega
    simp [Text.lowerFrom, hsigma, Text.lower, hlow, toLower_of_isNameCharacter hc, ih hr]

namespace Name

variable (name : Name)

theorem regular_mem : ∀ c ∈ name.letters, isNameCharacter c = true :=
  List.all_eq_true.1 name.regular

theorem exists_cons :
    ∃ c r, name.letters = c :: r ∧ c.isLower = true ∧ isNameCharacter c = true := by
  have h := name.starts
  cases hname : name.letters with
  | nil => simp [hname] at h
  | cons c r => exact ⟨c, r, rfl, by simpa [hname] using h, name.regular_mem c (by simp [hname])⟩

theorem lowerText_letters : Text.lowerText name.letters = name.letters :=
  lowerFrom_of_isNameCharacter name.regular_mem []

/-- A name is read up to the first character that cannot belong to it. -/
theorem takeWhile_letters {p : Char → Bool} (hp : ∀ {c}, isNameCharacter c = true → p c = true)
    (hc : p c = false) (rest : List Char) :
    (name.letters ++ c :: rest).takeWhile p = name.letters :=
  takeWhile_append_of_head (fun d hd => hp (name.regular_mem d hd)) (by simpa using hc)

theorem dropWhile_letters {p : Char → Bool} (hp : ∀ {c}, isNameCharacter c = true → p c = true)
    (hc : p c = false) (rest : List Char) :
    (name.letters ++ c :: rest).dropWhile p = c :: rest :=
  dropWhile_append_of_head (fun d hd => hp (name.regular_mem d hd)) (by simpa using hc)

theorem getLast?_letters {p : Char → Bool} (hp : ∀ {c}, isNameCharacter c = true → p c = false) :
    name.letters.getLast?.any p = false := by
  cases hlast : name.letters.getLast? with
  | none => rfl
  | some c => exact hp (name.regular_mem c (List.mem_of_getLast? hlast))

end Name

/-! ### Attributes -/

/-- An attribute as it is read before its value is decoded. -/
def rawAttribute (entry : Name × Option (List Char)) : Attribute :=
  ⟨entry.1.letters, escape (entry.2.getD [])⟩

/-- An attribute begins at a name; what comes of it depends on the value after the name. -/
theorem attributesFrom_letters (name : Name) {after : List Char}
    (hc : isAttributeCharacter c = false) :
    attributesFrom true (name.letters ++ c :: after) =
      match value? (c :: after) with
      | some (value, left) =>
        (⟨name.letters, value⟩ :: (attributesFrom true (skipSeparators left)).1,
          (attributesFrom true (skipSeparators left)).2)
      | none =>
        let rest := skipSeparators (c :: after)
        let found := attributesFrom (rest.length < (c :: after).length) rest
        (⟨name.letters, []⟩ :: found.1, found.2) := by
  have htake := name.takeWhile_letters isAttributeCharacter_of_isNameCharacter hc after
  have hdrop := name.dropWhile_letters isAttributeCharacter_of_isNameCharacter hc after
  have hlower := name.lowerText_letters
  have hlast : name.letters.getLast?.any isQuote = false := by
    refine name.getLast?_letters fun {d} hd => ?_
    simp [isQuote, ne_of_isNameCharacter hd (x := '\'') (by decide),
      ne_of_isNameCharacter hd (x := '"') (by decide)]
  obtain ⟨d, r, hname, -, hd⟩ := name.exists_cons
  have hbegin : (isBlank d || d == '/' || d == '>') = false := by
    simp [isBlank_of_isNameCharacter hd, ne_of_isNameCharacter hd (x := '/') (by decide),
      ne_of_isNameCharacter hd (x := '>') (by decide)]
  rw [hname] at htake hdrop hlower hlast ⊢
  rw [List.cons_append, List.takeWhile_cons_of_pos (isAttributeCharacter_of_isNameCharacter hd),
    List.cons.injEq] at htake
  rw [List.cons_append,
    List.dropWhile_cons_of_pos (isAttributeCharacter_of_isNameCharacter hd)] at hdrop
  rw [List.cons_append, attributesFrom]
  simp only [hbegin, Bool.not_false, Bool.and_self, if_true, htake.2, hdrop, hlower, hlast,
    Bool.or_false]
  split <;> rename_i heq <;> rw [hdrop] at heq <;> simp only [heq]

theorem search_quote {s : List Char} (h : '"' ∉ s) :
    search (char? '"') (s ++ '"' :: rest) = some (s, rest) := by
  induction s with
  | nil => simp [search, char?]
  | cons c r ih =>
    rw [List.mem_cons, not_or] at h
    simp [search, char?, Ne.symm h.1, ih h.2]

theorem value?_quoted (value : List Char) :
    value? ('=' :: '"' :: (escape value ++ '"' :: rest)) = some (escape value, rest) := by
  have hquoted : quotedValue? ('"' :: (escape value ++ '"' :: rest)) = some (escape value, rest) :=
    search_quote (Reference.quote_not_mem_escape value)
  have htrim : ∀ {d : Char} {s : List Char}, isBlank d = false → trimStart (d :: s) = d :: s :=
    fun hd => List.dropWhile_cons_of_neg (by simp [hd])
  rw [value?, htrim (by decide)]
  simp [htrim, hquoted, show isBlank '"' = false by decide]

theorem skipSeparators_letters (name : Name) (s : List Char) :
    skipSeparators (name.letters ++ s) = name.letters ++ s := by
  obtain ⟨c, r, hname, -, hc⟩ := name.exists_cons
  have hslash : c ≠ '/' := ne_of_isNameCharacter hc (by decide)
  rw [hname, List.cons_append, skipSeparators, if_neg (by simp [isBlank_of_isNameCharacter hc]),
    if_neg (by simp [hslash])]

/-- After an attribute without a value stands a space before another one or the end of the tag. -/
theorem exists_trailing (entries : List (Name × Option (List Char))) (rest : List Char) :
    ∃ c after, entries.flatMap writeAttribute ++ '>' :: rest = c :: after ∧
      (c = ' ' ∨ c = '>') ∧ value? (c :: after) = none ∧
      (entries ≠ [] → (skipSeparators (c :: after)).length < (c :: after).length) := by
  cases entries with
  | nil => exact ⟨'>', rest, rfl, .inr rfl, by simp [value?, trimStart, isBlank], by simp⟩
  | cons entry entries =>
    obtain ⟨name, value⟩ := entry
    obtain ⟨after, hafter⟩ :
        ∃ after, writeAttribute (name, value) = ' ' :: (name.letters ++ after) := by
      cases value with
      | none => exact ⟨[], by simp [writeAttribute]⟩
      | some value => exact ⟨_, rfl⟩
    obtain ⟨c, r, hname, -, hc⟩ := name.exists_cons
    have hequals : c ≠ '=' := ne_of_isNameCharacter hc (by decide)
    refine ⟨' ', name.letters ++ (after ++ (entries.flatMap writeAttribute ++ '>' :: rest)), ?_,
      .inl rfl, ?_, fun _ => ?_⟩
    · simp [hafter]
    · rw [value?, trimStart, List.dropWhile_cons_of_pos (by decide), hname, List.cons_append,
        List.dropWhile_cons_of_neg (by simp [isBlank_of_isNameCharacter hc])]
      split
      · next heq => exact absurd (List.cons.inj heq).1 hequals
      · rfl
    · rw [skipSeparators, if_pos (by decide), skipSeparators_letters]
      simp

/-- The attributes of a start tag are read up to its end. -/
theorem attributesFrom_write (entries : List (Name × Option (List Char))) (rest : List Char)
    (ready : Bool) (hready : entries ≠ [] → ready = true) :
    attributesFrom ready (skipSeparators (entries.flatMap writeAttribute ++ '>' :: rest)) =
      (entries.map rawAttribute, '>' :: rest) := by
  induction entries generalizing ready with
  | nil =>
    show attributesFrom ready (skipSeparators ('>' :: rest)) = ([], '>' :: rest)
    rw [skipSeparators, if_neg (by decide), if_neg (by simp), attributesFrom, if_neg (by simp)]
  | cons entry entries ih =>
    obtain rfl : ready = true := hready (by simp)
    obtain ⟨name, value⟩ := entry
    rw [List.flatMap_cons, List.append_assoc]
    cases value with
    | none =>
      obtain ⟨c, after, htrail, hc, hnone, hshort⟩ := exists_trailing entries rest
      show attributesFrom true (skipSeparators (' ' :: (name.letters ++ _))) = _
      rw [skipSeparators, if_pos (by decide), skipSeparators_letters, htrail,
        attributesFrom_letters name (by rcases hc with rfl | rfl <;> decide), hnone]
      rw [htrail] at ih
      simp only
      rw [ih _ fun hne => decide_eq_true (hshort hne)]
      rfl
    | some value =>
      have hwrite :
          writeAttribute (name, some value) ++ (entries.flatMap writeAttribute ++ '>' :: rest) =
            ' ' :: (name.letters ++ '=' :: '"' :: (escape value ++
              '"' :: (entries.flatMap writeAttribute ++ '>' :: rest))) := by
        simp [writeAttribute]
      rw [hwrite, skipSeparators, if_pos (by decide), skipSeparators_letters,
        attributesFrom_letters name (by decide), value?_quoted]
      simp only
      rw [ih true fun _ => rfl]
      rfl

/-! ### Tags -/

/-- The attributes of an element as they are read. -/
def Attributes.read (attributes : Attributes) : List Attribute :=
  attributes.entries.map fun entry => ⟨entry.1.letters, entry.2.getD []⟩

theorem Attributes.decode_raw (attributes : Attributes) :
    (attributes.entries.map rawAttribute).mapM Attribute.decode = .ok attributes.read := by
  rw [mapM_eq_ok_iff, Attributes.read, List.forall₂_map_left_iff, List.forall₂_map_right_iff,
    List.forall₂_same]
  intro entry _
  rw [Attribute.decode, rawAttribute, Reference.tryDecode_escape]
  rfl

theorem startTag_write (name : Name) (attributes : Attributes) (rest : List Char) :
    startTag (name.letters ++ (attributes.write ++ '>' :: rest)) =
      .tag name.letters attributes.read false rest := by
  obtain ⟨c, after, htrail, hc, -, hshort⟩ := exists_trailing attributes.entries rest
  have hend : isTagCharacter c = false := by rcases hc with rfl | rfl <;> decide
  have hattributes := attributesFrom_write attributes.entries rest
  rw [Attributes.write]
  rw [htrail] at hattributes ⊢
  have hwritten := hattributes
    (decide ((skipSeparators (c :: after)).length < (c :: after).length) ||
      name.letters.getLast?.any opensAttribute)
    fun hne => by rw [decide_eq_true (hshort hne), Bool.true_or]
  simp only [startTag, name.takeWhile_letters isTagCharacter_of_isNameCharacter hend,
    name.dropWhile_letters isTagCharacter_of_isNameCharacter hend, hwritten, attributes.decode_raw,
    name.lowerText_letters]

theorem plainEndTag?_write (name : Name) (rest : List Char) :
    plainEndTag? (name.letters ++ '>' :: rest) = some (name.letters, rest) := by
  have hend : isEndTagCharacter '>' = false := by decide
  have htake := name.takeWhile_letters isEndTagCharacter_of_isNameCharacter hend rest
  have hdrop := name.dropWhile_letters isEndTagCharacter_of_isNameCharacter hend rest
  have hclose : spacedChar? '>' ('>' :: rest) = some rest := by
    simp [spacedChar?, trimStart, isBlank, char?]
  obtain ⟨c, r, hname, hlower, hc⟩ := name.exists_cons
  have htrim : trimStart (name.letters ++ '>' :: rest) = name.letters ++ '>' :: rest := by
    rw [hname, List.cons_append, trimStart,
      List.dropWhile_cons_of_neg (by simp [isBlank_of_isNameCharacter hc])]
  have halpha : (name.letters ++ '>' :: rest).head?.any Char.isAlpha = true := by
    simp [hname, isAlpha_of_isLower hlower]
  simp only [plainEndTag?, htrim, halpha, if_true, hdrop, hclose, htake, name.lowerText_letters,
    Option.map_some]

end SpecGrammar.Markup
