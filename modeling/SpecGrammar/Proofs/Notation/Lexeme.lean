import Mathlib.Data.List.Forall2
import SpecGrammar.Notation.Reading
import SpecGrammar.Proofs.Reference.Decode
import SpecGrammar.Proofs.Text.Blank

/-!
# What the tokens of a kind may be written as

* `Lexeme kind text`: the text is written as tokens of the kind are, said without looking at how
  tokens are found;
* `match?_sound`, `match?_complete`: the token found at the start of a text is the lexeme of its kind
  that stands there and cannot run on;
* `parameters_of_lists`: the entries of a bracketed list are those it was written with;
* `decode_character`, `decode_comparison`: what names of characters and comparisons stand for,
  whichever way they are spelled.
-/

namespace SpecGrammar.Notation

open Text (Blank takeWhile_append_of_head)

/-! ### Texts of tokens -/

/-- An optional sigil, a capital, and word characters. -/
inductive Parameter : List Char → Prop
  | plain {c : Char} {r : List Char} (hc : isCapital c = true)
      (hr : ∀ d ∈ r, Text.isWord d = true) : Parameter (c :: r)
  | sigil {g c : Char} {r : List Char} (hg : g = '?' ∨ g = '+' ∨ g = '~') (hc : isCapital c = true)
      (hr : ∀ d ∈ r, Text.isWord d = true) : Parameter (g :: c :: r)

/-- The text of an entry with white space around. -/
def Padded (piece entry : List Char) : Prop :=
  ∃ a b, Blank a ∧ Blank b ∧ piece = a ++ entry ++ b

/-- A bracketed list of one or more parameters with commas between them. -/
inductive Lists : List Char → List (List Char) → Prop
  | mk {pieces entries : List (List Char)} (hne : entries ≠ []) (hp : ∀ e ∈ entries, Parameter e)
      (hpad : List.Forall₂ Padded pieces entries) :
      Lists ('[' :: Text.joinWith [','] pieces ++ [']']) entries

/-- A capital, then ASCII letters, digits and underscores. -/
inductive Name : List Char → Prop
  | mk {c : Char} {r : List Char} (hc : isCapital c = true) (hr : ∀ d ∈ r, isAsciiWord d = true) :
      Name (c :: r)

/-- A capital, then capitals and digits. -/
inductive CharacterName : List Char → Prop
  | mk {c : Char} {r : List Char} (hc : isCapital c = true)
      (hr : ∀ d ∈ r, (isCapital d || d.isDigit) = true) : CharacterName (c :: r)

/-- The ways to put the name of a character into angle brackets. -/
inductive CharacterSpelling : List Char → List Char → Prop
  | plain {name : List Char} (h : CharacterName name) :
      CharacterSpelling (['<'] ++ name ++ ['>']) name
  | reference {name : List Char} (h : CharacterName name) :
      CharacterSpelling ("&lt;".toList ++ name ++ "&gt;".toList) name

/-- A single backtick, or characters that are neither backticks nor white space. -/
def Literal (s : List Char) : Prop :=
  s = ['`'] ∨ s ≠ [] ∧ ∀ c ∈ s, c ≠ '`' ∧ Text.isBlank c = false

instance (s : List Char) : Decidable (Literal s) :=
  decidable_of_iff (s = ['`'] ∨ s ≠ [] ∧ s.all (fun c => c != '`' && !Text.isBlank c) = true)
    (by simp [Literal])

/-- One or more word characters and hyphens. -/
def LabelText (s : List Char) : Prop := s ≠ [] ∧ ∀ c ∈ s, Text.isWord c = true ∨ c = '-'

/-- The comparisons of a lookahead restriction: how each may be spelled, and what it stands for. -/
def comparisons : List (List Char × List Char) :=
  [("==", "=="), ("!=", "!="), ("=", "="), ("≠", "≠"), ("∈", "∈"), ("∉", "∉"), ("&ne;", "≠"),
    ("&isin;", "∈"), ("&notin;", "∉"), ("<-", "<-"), ("<!", "<!")].map
    fun spelled => (spelled.1.toList, spelled.2.toList)

/-- The text of the tokens of a kind that has one text only. -/
def Kind.word? : Kind → Option (List Char)
  | .lookahead => some "lookahead".toList
  | .empty => some "empty".toList
  | .here => some "here".toList
  | .but => some "but".toList
  | .not => some "not".toList
  | .one => some "one".toList
  | .no => some "no".toList
  | .of => some "of".toList
  | .or => some "or".toList
  | .comma => some [',']
  | .leftBrace => some ['\x7b']
  | .leftBracket => some ['[']
  | .question => some ['?']
  | .rightBrace => some ['\x7d']
  | .rightBracket => some [']']
  | _ => none

/-- A text is written as tokens of a kind are. -/
inductive Lexeme : Kind → List Char → Prop
  | params {text : List Char} {entries : List (List Char)} (h : Lists text entries) :
      Lexeme .params text
  | namedCharacter {text name : List Char} (h : CharacterSpelling text name) :
      Lexeme .namedCharacter text
  | nonterminal {text : List Char} (h : Name text) : Lexeme .nonterminal text
  | prose {opening text : List Char} (ho : opening = ['>'] ∨ opening = "&gt;".toList)
      (ht : '\n' ∉ text) : Lexeme .prose (opening ++ text)
  | terminal {text : List Char} (h : Literal text) : Lexeme .terminal ('`' :: text ++ ['`'])
  | label {text : List Char} (h : LabelText text) : Lexeme .label ('#' :: text)
  | operator {text op : List Char} (h : (text, op) ∈ comparisons) : Lexeme .operator text
  | word {kind : Kind} {text : List Char} (h : kind.word? = some text) : Lexeme kind text

/-- Whether a token would be a longer one if the character came directly after it. -/
def Token.runsOn (t : Token) (c : Char) : Bool :=
  match t.kind with
  | .nonterminal => isAsciiWord c
  | .label => Text.isWord c || c == '-'
  | .prose => c != '\n'
  | .operator => t.text == ['='] && c == '='
  | _ => false

variable {s t r text name : List Char} {entries : List (List Char)} {kind : Kind}

/-! ### Prefixes -/

theorem exists_eq_append_of_isPrefixOf {w : List Char} (h : w.isPrefixOf s = true) :
    ∃ r, s = w ++ r :=
  (List.isPrefixOf_iff_prefix.1 h).imp fun _ hr => hr.symm

theorem isPrefixOf_append (w r : List Char) : w.isPrefixOf (w ++ r) = true :=
  List.isPrefixOf_iff_prefix.2 (List.prefix_append w r)

theorem word?_eq_some_iff {w : List Char} : word? w s = some t ↔ t = w ∧ ∃ r, s = w ++ r := by
  unfold word?
  split
  case isTrue h =>
    have := exists_eq_append_of_isPrefixOf h
    simp [this, eq_comm]
  case isFalse h =>
    simp only [reduceCtorEq, false_iff, not_and, not_exists]
    rintro - r rfl
    exact h (isPrefixOf_append w r)

/-- A text falls into its longest beginning in a class and a rest that does not go on with it. -/
theorem takeWhile_append_drop (p : Char → Bool) (s : List Char) :
    s = s.takeWhile p ++ s.drop (s.takeWhile p).length ∧
      (∀ c ∈ s.takeWhile p, p c = true) ∧
      ∀ c ∈ (s.drop (s.takeWhile p).length).head?, p c = false := by
  have hs : s = s.takeWhile p ++ s.dropWhile p := List.takeWhile_append_dropWhile.symm
  have hd := Text.drop_length_takeWhile p s
  refine ⟨by rw [hd]; exact hs, fun c hc => List.mem_takeWhile_imp hc, ?_⟩
  intro c hc
  rw [hd] at hc
  have := List.head?_dropWhile_not p s
  rw [Option.mem_def.1 hc] at this
  simpa using this

/-! ### Capitals -/

/-- The capitals. -/
def capitals : List Char := "ABCDEFGHIJKLMNOPQRSTUVWXYZ".toList

theorem mem_capitals {c : Char} (h : isCapital c = true) : c ∈ capitals := by
  simp only [isCapital, Bool.and_eq_true, decide_eq_true_eq, Char.le_def, UInt32.le_iff_toNat_le] at h
  have key : ∀ n ∈ List.range' 65 26, Char.ofNat n ∈ capitals := by decide
  have hn : c.toNat ∈ List.range' 65 26 := by
    have h1 : ('A' : Char).val.toNat = 65 := rfl
    have h2 : ('Z' : Char).val.toNat = 90 := rfl
    simp only [List.mem_range'_1, Char.toNat]
    omega
  rw [← Char.ofNat_toNat c]
  exact key _ hn

/-! ### Bracketed lists of parameters -/

theorem isParameter_iff : isParameter s = true ↔ Parameter s := by
  constructor
  · intro h
    cases s with
    | nil => simp [isParameter] at h
    | cons c r =>
      simp only [isParameter] at h
      split at h
      case h_1 c' r' heq =>
        simp only [Bool.and_eq_true, List.all_eq_true] at h
        split at heq
        case isTrue hg =>
          subst heq
          exact .sigil (by simpa [or_assoc] using hg) h.1 h.2
        case isFalse hg =>
          obtain ⟨rfl, rfl⟩ := List.cons.inj heq
          exact .plain h.1 h.2
      case h_2 => exact absurd h (by simp)
  · intro h
    cases h with
    | @plain c r hc hr =>
      have hg : ¬ (c == '?' || c == '+' || c == '~') = true := by
        intro hg
        simp only [Bool.or_eq_true, beq_iff_eq] at hg
        rcases hg with (rfl | rfl) | rfl <;> exact absurd hc (by decide)
      simp only [isParameter, hg, Bool.false_eq_true, if_false, hc, Bool.true_and]
      exact List.all_eq_true.2 hr
    | @sigil g c r hg hc hr =>
      have hg : (g == '?' || g == '+' || g == '~') = true := by simpa [or_assoc] using hg
      simp only [isParameter, hg, if_true, hc, Bool.true_and]
      exact List.all_eq_true.2 hr

theorem isWord_of_isCapital {c : Char} (h : isCapital c = true) : Text.isWord c = true := by
  have key : capitals.all Text.isWord = true := by decide
  exact List.all_eq_true.1 key c (mem_capitals h)

/-- The characters of a parameter are none of those that can stand around it in a list. -/
theorem Parameter.not_blank (h : Parameter s) :
    ∀ c ∈ s, Text.isBlank c = false ∧ c ≠ ',' ∧ c ≠ ']' := by
  have key : ∀ c, Text.isWord c = true → Text.isBlank c = false ∧ c ≠ ',' ∧ c ≠ ']' := by
    intro c hc
    refine ⟨Text.isBlank_of_isWord hc, ?_, ?_⟩ <;> rintro rfl <;> exact absurd hc (by decide)
  have hword : ∀ {c : Char} {r : List Char}, isCapital c = true → (∀ d ∈ r, Text.isWord d = true) →
      ∀ d ∈ c :: r, Text.isBlank d = false ∧ d ≠ ',' ∧ d ≠ ']' := by
    intro c r hc hr d hd
    rcases List.mem_cons.1 hd with rfl | hd
    · exact key d (isWord_of_isCapital hc)
    · exact key d (hr d hd)
  cases h with
  | plain hc hr => exact hword hc hr
  | @sigil g c r hg hc hr =>
    intro d hd
    rcases List.mem_cons.1 hd with rfl | hd
    · rcases hg with rfl | rfl | rfl <;> decide
    · exact hword hc hr d hd

theorem Parameter.ne_nil (h : Parameter s) : s ≠ [] := by
  cases h <;> simp

theorem Padded.trim {piece entry : List Char} (h : Padded piece entry) (he : Parameter entry) :
    Text.trim piece = entry := by
  obtain ⟨a, b, ha, hb, rfl⟩ := h
  rw [Text.trim_padded ha hb, Text.trim_of_not_isBlank fun c hc => (he.not_blank c hc).1]

/-- A piece of a bracketed list holds neither a comma nor a closing bracket. -/
theorem Padded.not_mem {piece entry : List Char} (h : Padded piece entry) (he : Parameter entry) :
    ',' ∉ piece ∧ ']' ∉ piece := by
  obtain ⟨a, b, ha, hb, rfl⟩ := h
  have hblank : ∀ {d : List Char} {c : Char}, Blank d → Text.isBlank c = false → c ∉ d := by
    intro d c hd hc hm
    rw [hd c hm] at hc
    exact Bool.noConfusion hc
  constructor
  · simp only [List.mem_append, not_or]
    exact ⟨⟨hblank ha (by decide), fun hm => (he.not_blank _ hm).2.1 rfl⟩, hblank hb (by decide)⟩
  · simp only [List.mem_append, not_or]
    exact ⟨⟨hblank ha (by decide), fun hm => (he.not_blank _ hm).2.2 rfl⟩, hblank hb (by decide)⟩

theorem forall_piece {pieces : List (List Char)} {P : List Char → Prop}
    (h : List.Forall₂ Padded pieces entries) (hp : ∀ e ∈ entries, Parameter e)
    (key : ∀ piece entry, Padded piece entry → Parameter entry → P piece) :
    ∀ piece ∈ pieces, P piece := by
  induction h with
  | nil => simp
  | cons hpad _ ih =>
    intro piece hm
    rcases List.mem_cons.1 hm with rfl | hm
    · exact key _ _ hpad (hp _ (by simp))
    · exact ih (fun e he => hp e (by simp [he])) piece hm

theorem map_trim_pieces {pieces : List (List Char)} (h : List.Forall₂ Padded pieces entries)
    (hp : ∀ e ∈ entries, Parameter e) : pieces.map Text.trim = entries := by
  induction h with
  | nil => rfl
  | cons hpad _ ih =>
    rw [List.map_cons, hpad.trim (hp _ (by simp)), ih fun e he => hp e (by simp [he])]

/-- The entries of a bracketed list are those it was written with. -/
theorem parameters_of_lists (h : Lists t entries) : parameters t = entries := by
  obtain @⟨pieces, _, hne, hp, hpad⟩ := h
  have htrim : Text.trim ('[' :: Text.joinWith [','] pieces ++ [']']) =
      '[' :: Text.joinWith [','] pieces ++ [']'] :=
    Text.trim_of_ends (by decide) (by decide) rfl ⟨_, rfl⟩
  have hpieces : pieces ≠ [] := by
    rintro rfl
    exact hne (List.forall₂_nil_left_iff.1 hpad)
  rw [parameters, htrim, List.cons_append, List.drop_one, List.tail_cons, List.dropLast_concat,
    Text.splitWhen_joinWith hpieces (forall_piece hpad hp fun _ _ h he => (h.not_mem he).1),
    map_trim_pieces hpad hp]
  exact List.filter_eq_self.2 fun e he => by simpa using (hp e he).ne_nil

theorem params?_sound (h : params? s = some t) : (∃ es, Lists t es) ∧ ∃ r, s = t ++ r := by
  cases s with
  | nil => simp [params?] at h
  | cons c r =>
    by_cases hc : c = '['
    case neg =>
      unfold params? at h
      split at h
      · rename_i heq
        exact absurd (List.cons.inj heq).1 hc
      · exact absurd h (by simp)
    subst hc
    simp only [params?] at h
    split at h
    · exact absurd h (by simp)
    rename_i hclosed
    split at h
    case isFalse => exact absurd h (by simp)
    rename_i hall
    obtain ⟨hr, -, hstop⟩ := takeWhile_append_drop (· != ']') r
    set inner := r.takeWhile (· != ']') with hinner
    cases hd : r.drop inner.length with
    | nil => exact absurd hd (by simpa using hclosed)
    | cons d rest =>
      obtain rfl : d = ']' := by
        have := hstop d (by rw [hd]; rfl)
        simpa using this
      obtain rfl := Option.some.inj h
      have hp : ∀ piece ∈ Text.splitWhen (· == ',') inner, Parameter (Text.trim piece) :=
        fun piece hm => isParameter_iff.1 (List.all_eq_true.1 hall piece hm)
      have hlist : Lists ('[' :: Text.joinWith [','] (Text.splitWhen (· == ',') inner) ++ [']'])
          ((Text.splitWhen (· == ',') inner).map Text.trim) := by
        refine .mk (by simpa using Text.splitWhen_ne_nil _ inner) (by simpa using hp) ?_
        rw [List.forall₂_map_right_iff]
        refine List.forall₂_same.2 fun piece _ => ?_
        obtain ⟨a, b, ha, hb, hpiece⟩ := Text.exists_eq_trim_padded piece
        exact ⟨a, b, ha, hb, hpiece⟩
      rw [Text.joinWith_splitWhen] at hlist
      refine ⟨⟨_, hlist⟩, rest, ?_⟩
      rw [hr, hd]
      simp

theorem params?_complete (h : Lists t entries) (r : List Char) : params? (t ++ r) = some t := by
  obtain @⟨pieces, _, hne, hp, hpad⟩ := h
  have hpieces : pieces ≠ [] := by
    rintro rfl
    exact hne (List.forall₂_nil_left_iff.1 hpad)
  have hclose : ']' ∉ Text.joinWith [','] pieces :=
    Text.not_mem_joinWith (by decide) (forall_piece hpad hp fun _ _ h he => (h.not_mem he).2)
  have hinner : (Text.joinWith [','] pieces ++ ']' :: r).takeWhile (· != ']') =
      Text.joinWith [','] pieces := by
    refine takeWhile_append_of_head (fun c hc => ?_) (by simp)
    simp only [bne_iff_ne]
    rintro rfl
    exact hclose hc
  have hall : (Text.splitWhen (· == ',') (Text.joinWith [','] pieces)).all
      (fun piece => isParameter (Text.trim piece)) = true := by
    rw [Text.splitWhen_joinWith hpieces (forall_piece hpad hp fun _ _ h he => (h.not_mem he).1)]
    refine List.all_eq_true.2 (forall_piece hpad hp fun piece entry h he => ?_)
    rw [h.trim he]
    exact isParameter_iff.2 he
  simp only [List.cons_append, List.append_assoc, List.nil_append, params?, hinner,
    List.drop_left, hall, List.isEmpty_cons, Bool.false_eq_true, if_false, if_true]

/-! ### Names -/

theorem nonterminal?_sound (h : nonterminal? s = some t) :
    Name t ∧ ∃ r, s = t ++ r ∧ ∀ c ∈ r.head?, isAsciiWord c = false := by
  cases s with
  | nil => simp [nonterminal?] at h
  | cons c r =>
    simp only [nonterminal?, Option.ite_none_right_eq_some, Option.some.injEq] at h
    obtain ⟨hc, rfl⟩ := h
    obtain ⟨hr, hall, hstop⟩ := takeWhile_append_drop isAsciiWord r
    refine ⟨.mk hc hall, _, ?_, hstop⟩
    rw [List.cons_append, ← hr]

theorem nonterminal?_complete (h : Name t) (hr : ∀ c ∈ r.head?, isAsciiWord c = false) :
    nonterminal? (t ++ r) = some t := by
  obtain ⟨hc, htail⟩ := h
  rw [List.cons_append, nonterminal?, if_pos hc, takeWhile_append_of_head htail hr]

/-- What closes a name of a character is no part of it. -/
def Closing (closing : List Char) : Prop :=
  ∃ c r, closing = c :: r ∧ (isCapital c || c.isDigit) = false

theorem namedBetween?_eq_some_iff (opening : List Char) {closing : List Char}
    (hcl : Closing closing) :
    namedBetween? opening closing s = some t ↔
      ∃ name r, CharacterName name ∧ t = opening ++ name ++ closing ∧ s = t ++ r := by
  constructor
  · intro h
    unfold namedBetween? at h
    split at h
    case isFalse => exact absurd h (by simp)
    rename_i hpre
    obtain ⟨r, rfl⟩ := exists_eq_append_of_isPrefixOf hpre
    rw [List.drop_left] at h
    cases r with
    | nil => exact absurd h (by simp)
    | cons c r =>
      obtain ⟨hr, hall, -⟩ := takeWhile_append_drop (fun c => isCapital c || c.isDigit) r
      simp only [Option.ite_none_right_eq_some, Bool.and_eq_true, Option.some.injEq] at h
      obtain ⟨⟨hc, hclosing⟩, rfl⟩ := h
      obtain ⟨rest, hrest⟩ := exists_eq_append_of_isPrefixOf hclosing
      refine ⟨_, rest, .mk hc hall, by simp, ?_⟩
      conv_lhs => rw [hr, hrest]
      simp
  · rintro ⟨name, r, ⟨hc, hall⟩, rfl, rfl⟩
    rename_i c name
    obtain ⟨d, q, rfl, hd⟩ := hcl
    have htake : (name ++ d :: (q ++ r)).takeWhile (fun c => isCapital c || c.isDigit) = name :=
      takeWhile_append_of_head hall (by simpa using hd)
    have hpre : (d :: q).isPrefixOf (d :: (q ++ r)) = true := isPrefixOf_append (d :: q) r
    simp only [List.append_assoc, List.cons_append, namedBetween?, isPrefixOf_append, if_true,
      List.drop_left, htake, hc, hpre, Bool.and_self]

theorem closing_angle : Closing ['>'] := ⟨_, _, rfl, by decide⟩

theorem closing_reference : Closing "&gt;".toList := ⟨_, _, rfl, by decide⟩

theorem namedCharacter?_sound (h : namedCharacter? s = some t) :
    (∃ name, CharacterSpelling t name) ∧ ∃ r, s = t ++ r := by
  rcases Option.or_eq_some_iff.1 h with h | ⟨-, h⟩
  · obtain ⟨name, r, hn, rfl, hs⟩ := (namedBetween?_eq_some_iff _ closing_angle).1 h
    exact ⟨⟨name, .plain hn⟩, r, hs⟩
  · obtain ⟨name, r, hn, rfl, hs⟩ := (namedBetween?_eq_some_iff _ closing_reference).1 h
    exact ⟨⟨name, .reference hn⟩, r, hs⟩

theorem namedCharacter?_complete (h : CharacterSpelling t name) (r : List Char) :
    namedCharacter? (t ++ r) = some t := by
  cases h with
  | plain hn =>
    have := (namedBetween?_eq_some_iff ['<'] closing_angle).2 ⟨_, r, hn, rfl, rfl⟩
    rw [namedCharacter?, this, Option.some_or]
  | reference hn =>
    have := (namedBetween?_eq_some_iff "&lt;".toList closing_reference).2
      ⟨_, r, hn, rfl, rfl⟩
    rw [namedCharacter?, this]
    rfl

/-! ### Prose, literals and labels -/

theorem takeWhile_opening {opening : List Char} (ho : opening = ['>'] ∨ opening = "&gt;".toList)
    (r : List Char) : (opening ++ r).takeWhile (· != '\n') = opening ++ r.takeWhile (· != '\n') :=
  List.takeWhile_append_of_pos (List.all_eq_true.1 (by rcases ho with rfl | rfl <;> decide))

theorem prose?_sound (h : prose? s = some t) :
    Lexeme .prose t ∧ ∃ r, s = t ++ r ∧ ∀ c ∈ r.head?, (c != '\n') = false := by
  simp only [prose?, Option.ite_none_right_eq_some, Bool.or_eq_true, Option.some.injEq] at h
  obtain ⟨hpre, rfl⟩ := h
  obtain ⟨hs, hall, hstop⟩ := takeWhile_append_drop (· != '\n') s
  refine ⟨?_, _, hs, hstop⟩
  have hopen : ∃ opening r, (opening = ['>'] ∨ opening = "&gt;".toList) ∧ s = opening ++ r := by
    rcases hpre with hpre | hpre
    · exact (exists_eq_append_of_isPrefixOf hpre).imp' (fun _ => ['>']) fun r hr => ⟨r, .inl rfl, hr⟩
    · exact ⟨_, (exists_eq_append_of_isPrefixOf hpre).imp fun r hr => ⟨.inr rfl, hr⟩⟩
  obtain ⟨opening, r, ho, rfl⟩ := hopen
  rw [takeWhile_opening ho]
  refine .prose ho fun hm => ?_
  have := List.mem_takeWhile_imp hm
  simp at this

theorem label?_sound (h : label? s = some t) :
    Lexeme .label t ∧ ∃ r, s = t ++ r ∧ ∀ c ∈ r.head?, (Text.isWord c || c == '-') = false := by
  unfold label? at h
  split at h
  case h_2 => exact absurd h (by simp)
  rename_i r
  simp only [ne_eq, Option.ite_none_right_eq_some, Option.some.injEq] at h
  obtain ⟨hne, rfl⟩ := h
  obtain ⟨hr, hall, hstop⟩ := takeWhile_append_drop (fun c => Text.isWord c || c == '-') r
  refine ⟨.label ⟨hne, fun c hc => by simpa using hall c hc⟩, _, ?_, hstop⟩
  rw [List.cons_append, ← hr]

theorem label?_complete {text : List Char} (h : LabelText text)
    (hr : ∀ c ∈ r.head?, (Text.isWord c || c == '-') = false) :
    label? ('#' :: text ++ r) = some ('#' :: text) := by
  have htake : (text ++ r).takeWhile (fun c => Text.isWord c || c == '-') = text :=
    takeWhile_append_of_head (fun c hc => by simpa using h.2 c hc) hr
  simp only [List.cons_append, label?, htake, ne_eq, h.1, not_false_eq_true, if_true]

theorem isTerminalCharacter_iff {c : Char} :
    isTerminalCharacter c = true ↔ c ≠ '`' ∧ Text.isBlank c = false := by
  simp [isTerminalCharacter]

theorem terminal?_sound (h : terminal? s = some t) :
    (∃ text, Literal text ∧ t = '`' :: text ++ ['`']) ∧ ∃ r, s = t ++ r := by
  unfold terminal? at h
  split at h
  case h_2 => exact absurd h (by simp)
  rename_i r
  obtain ⟨hr, hall, -⟩ := takeWhile_append_drop isTerminalCharacter r
  simp only [ne_eq] at h
  split at h
  case isTrue hne =>
    simp only [Option.ite_none_right_eq_some, Option.some.injEq] at h
    obtain ⟨hpre, rfl⟩ := h
    obtain ⟨rest, hrest⟩ := exists_eq_append_of_isPrefixOf hpre
    refine ⟨⟨_, .inr ⟨hne, fun c hc => isTerminalCharacter_iff.1 (hall c hc)⟩, rfl⟩, rest, ?_⟩
    conv_lhs => rw [hr, hrest]
    simp
  case isFalse =>
    simp only [Option.ite_none_right_eq_some, Option.some.injEq] at h
    obtain ⟨hpre, rfl⟩ := h
    obtain ⟨rest, rfl⟩ := exists_eq_append_of_isPrefixOf hpre
    exact ⟨⟨['`'], .inl rfl, rfl⟩, rest, rfl⟩

theorem terminal?_complete {text : List Char} (h : Literal text) (r : List Char) :
    terminal? ('`' :: text ++ ['`'] ++ r) = some ('`' :: text ++ ['`']) := by
  rcases h with rfl | ⟨hne, hall⟩
  · rfl
  · have htake : (text ++ '`' :: r).takeWhile isTerminalCharacter = text :=
      takeWhile_append_of_head (fun c hc => isTerminalCharacter_iff.2 (hall c hc)) (by
        simp [isTerminalCharacter])
    have hpre : ['`'].isPrefixOf ('`' :: r) = true := isPrefixOf_append ['`'] r
    simp only [List.cons_append, List.append_assoc, List.nil_append, terminal?, htake, ne_eq, hne,
      not_false_eq_true, if_true, List.drop_left, hpre]

/-! ### Comparisons and fixed words -/

theorem operators_eq : operators = comparisons.map (·.1) := rfl

theorem operator?_sound (h : operators.findSome? (word? · s) = some t) :
    (∃ op, (t, op) ∈ comparisons) ∧
      ∃ r, s = t ++ r ∧ ∀ c ∈ r.head?, (t == ['='] && c == '=') = false := by
  obtain ⟨w, hw, hm⟩ := List.exists_of_findSome?_eq_some h
  obtain ⟨rfl, r, rfl⟩ := word?_eq_some_iff.1 hm
  rw [operators_eq] at hw
  refine ⟨by simpa using hw, r, rfl, fun c hc => ?_⟩
  by_contra hrun
  simp only [Bool.not_eq_false, Bool.and_eq_true, beq_iff_eq] at hrun
  obtain ⟨rfl, rfl⟩ := hrun
  obtain ⟨q, rfl⟩ : ∃ q, r = '=' :: q := List.head?_eq_some_iff.1 hc
  -- the double sign is tried before the single one
  have : operators.findSome? (word? · (['='] ++ '=' :: q)) = some ['=', '='] := rfl
  rw [this] at h
  exact absurd h (by decide)

theorem operator?_complete {op : List Char} (h : (t, op) ∈ comparisons)
    (hr : ∀ c ∈ r.head?, (t == ['='] && c == '=') = false) :
    operators.findSome? (word? · (t ++ r)) = some t := by
  have hmem : t ∈ operators := by
    rw [operators_eq]
    exact List.mem_map_of_mem h
  simp only [operators, List.map_cons, List.map_nil, List.mem_cons, List.not_mem_nil,
    or_false] at hmem
  rcases hmem with rfl | rfl | rfl | rfl | rfl | rfl | rfl | rfl | rfl | rfl | rfl
  case inr.inr.inl =>
    cases r with
    | nil => rfl
    | cons c q =>
      have hc : ¬ '=' = c := by
        rintro rfl
        exact absurd (hr '=' rfl) (by decide)
      simp [operators, word?, hc]
  all_goals rfl

theorem match?_of_word (h : kind.word? = some t) (s : List Char) : kind.match? s = word? t s := by
  cases kind <;> simp only [Kind.word?, Option.some.injEq, reduceCtorEq] at h <;> subst h <;> rfl

/-! ### What spellings stand for -/

theorem CharacterName.not_mem (h : CharacterName name) : '&' ∉ name := by
  obtain ⟨hc, hr⟩ := h
  rename_i c r
  intro hm
  rcases List.mem_cons.1 hm with rfl | hm
  · exact absurd hc (by decide)
  · exact absurd (hr _ hm) (by decide)

/-- The name of a character stands for itself in angle brackets, whichever way it is spelled. -/
theorem decode_character (h : CharacterSpelling t name) :
    Reference.decode t = '<' :: name ++ ['>'] := by
  cases h with
  | plain hn =>
    refine Reference.decode_of_not_mem fun hm => ?_
    simp only [List.cons_append, List.nil_append, List.mem_cons, List.mem_append, List.not_mem_nil,
      or_false] at hm
    rcases hm with hm | hm | hm
    · exact absurd hm (by decide)
    · exact hn.not_mem hm
    · exact absurd hm (by decide)
  | reference hn =>
    calc Reference.decode ("&lt;".toList ++ name ++ "&gt;".toList)
        = Reference.decode ('&' :: ("lt".toList ++ ';' :: (name ++ "&gt;".toList))) := rfl
      _ = ['<'] ++ Reference.decode (name ++ '&' :: ("gt".toList ++ ';' :: [])) :=
        Reference.decode_reference "lt" "<" (by decide) _
      _ = ['<'] ++ (name ++ (['>'] ++ Reference.decode [])) := by
        rw [Reference.decode_append_of_not_mem hn.not_mem,
          Reference.decode_reference "gt" ">" (by decide)]
        rfl
      _ = '<' :: name ++ ['>'] := by rw [Reference.decode_nil]; rfl

theorem decode_comparison {op : List Char} (h : (t, op) ∈ comparisons) :
    Reference.decode t = op := by
  have href : ∀ n u : String, (n, u) ∈ Reference.notationNames →
      Reference.decode ('&' :: (n.toList ++ ';' :: [])) = u.toList := by
    intro n u hm
    rw [Reference.decode_reference n u hm, Reference.decode_nil, List.append_nil]
  simp only [comparisons, List.map_cons, List.map_nil, List.mem_cons, List.not_mem_nil, or_false,
    Prod.mk.injEq] at h
  rcases h with ⟨rfl, rfl⟩ | ⟨rfl, rfl⟩ | ⟨rfl, rfl⟩ | ⟨rfl, rfl⟩ | ⟨rfl, rfl⟩ | ⟨rfl, rfl⟩ |
    ⟨rfl, rfl⟩ | ⟨rfl, rfl⟩ | ⟨rfl, rfl⟩ | ⟨rfl, rfl⟩ | ⟨rfl, rfl⟩
  case inr.inr.inr.inr.inr.inr.inl => exact href "ne" "≠" (by decide)
  case inr.inr.inr.inr.inr.inr.inr.inl => exact href "isin" "∈" (by decide)
  case inr.inr.inr.inr.inr.inr.inr.inr.inl => exact href "notin" "∉" (by decide)
  all_goals exact Reference.decode_of_not_mem (by decide)

/-! ### The token of a kind at the start of a text -/

/-- The token found at the start of a text is a lexeme of its kind, and cannot run on. -/
theorem match?_sound (h : kind.match? s = some t) :
    Lexeme kind t ∧ ∃ r, s = t ++ r ∧ ∀ c ∈ r.head?, Token.runsOn ⟨kind, t⟩ c = false := by
  cases hk : kind.word? with
  | some w =>
    rw [match?_of_word hk] at h
    obtain ⟨rfl, r, rfl⟩ := word?_eq_some_iff.1 h
    refine ⟨.word hk, r, rfl, fun c _ => ?_⟩
    cases kind <;> first | rfl | simp [Kind.word?] at hk
  | none =>
    cases kind with
    | params =>
      obtain ⟨⟨es, hes⟩, r, hr⟩ := params?_sound h
      exact ⟨.params hes, r, hr, fun _ _ => rfl⟩
    | namedCharacter =>
      obtain ⟨⟨name, hn⟩, r, hr⟩ := namedCharacter?_sound h
      exact ⟨.namedCharacter hn, r, hr, fun _ _ => rfl⟩
    | nonterminal =>
      obtain ⟨hn, r, hr, hstop⟩ := nonterminal?_sound h
      exact ⟨.nonterminal hn, r, hr, hstop⟩
    | prose => exact prose?_sound h
    | terminal =>
      obtain ⟨⟨text, ht, rfl⟩, r, hr⟩ := terminal?_sound h
      exact ⟨.terminal ht, r, hr, fun _ _ => rfl⟩
    | label => exact label?_sound h
    | operator =>
      obtain ⟨⟨op, ho⟩, r, hr, hstop⟩ := operator?_sound h
      exact ⟨.operator ho, r, hr, hstop⟩
    | _ => simp [Kind.word?] at hk

/-- A lexeme that does not run on is found, whatever comes after it. -/
theorem match?_complete (h : Lexeme kind t) (hk : kind ≠ .prose)
    (hr : ∀ c ∈ r.head?, Token.runsOn ⟨kind, t⟩ c = false) : kind.match? (t ++ r) = some t := by
  cases h with
  | params h => exact params?_complete h r
  | namedCharacter h => exact namedCharacter?_complete h r
  | nonterminal h => exact nonterminal?_complete h hr
  | prose => exact absurd rfl hk
  | terminal h => exact terminal?_complete h r
  | label h => exact label?_complete h hr
  | operator h => exact operator?_complete h hr
  | word h =>
    rw [match?_of_word h]
    exact word?_eq_some_iff.2 ⟨rfl, r, rfl⟩

/-! ### First characters -/

/-- The characters that tokens of a kind may begin with. -/
def Kind.leads : Kind → List Char
  | .params => ['[']
  | .namedCharacter => ['<', '&']
  | .nonterminal => capitals
  | .prose => ['>', '&']
  | .terminal => ['`']
  | .label => ['#']
  | .operator => ['=', '!', '≠', '∈', '∉', '&', '<']
  | kind => (kind.word?.getD []).take 1

theorem Lexeme.lead (h : Lexeme kind t) : ∃ c r, t = c :: r ∧ c ∈ kind.leads := by
  cases h with
  | params h =>
    obtain ⟨-, -, -⟩ := h
    exact ⟨_, _, rfl, by decide⟩
  | namedCharacter h =>
    cases h with
    | plain => exact ⟨_, _, rfl, by decide⟩
    | reference => exact ⟨_, _, rfl, by decide⟩
  | nonterminal h =>
    obtain ⟨hc, -⟩ := h
    exact ⟨_, _, rfl, mem_capitals hc⟩
  | prose ho =>
    rcases ho with rfl | rfl
    · exact ⟨_, _, rfl, by decide⟩
    · exact ⟨_, _, rfl, by decide⟩
  | terminal => exact ⟨_, _, rfl, by decide⟩
  | label => exact ⟨_, _, rfl, by decide⟩
  | operator h =>
    have key : ∀ spelled ∈ comparisons,
        spelled.1.head?.any (Kind.leads .operator).contains = true := by decide
    obtain ⟨c, hhead, hc⟩ := Option.any_eq_true _ _ |>.1 (key _ h)
    obtain ⟨r, hr⟩ := List.head?_eq_some_iff.1 hhead
    exact ⟨c, r, hr, List.contains_iff_mem.1 hc⟩
  | word h =>
    cases kind <;> simp only [Kind.word?, Option.some.injEq, reduceCtorEq] at h <;> subst h <;>
      exact ⟨_, _, rfl, by decide⟩

theorem Lexeme.ne_nil (h : Lexeme kind t) : t ≠ [] := by
  obtain ⟨c, r, rfl, -⟩ := h.lead
  simp

/-- A token that a kind has at the start of a text begins as tokens of the kind do. -/
theorem mem_leads_of_match? {c : Char} (h : kind.match? (c :: s) = some t) : c ∈ kind.leads := by
  obtain ⟨hl, r, hr, -⟩ := match?_sound h
  obtain ⟨d, q, rfl, hd⟩ := hl.lead
  rw [List.cons_append] at hr
  rwa [(List.cons.inj hr).1]

theorem isGap_of_mem_leads {c : Char} (h : c ∈ kind.leads) : isGap c = false := by
  have key : kind.leads.all (fun d => !isGap d) = true := by cases kind <;> decide
  simpa using List.all_eq_true.1 key c h

theorem isBlank_of_isGap {c : Char} (h : isGap c = true) : Text.isBlank c = true := by
  simp only [isGap, Bool.or_eq_true, beq_iff_eq] at h
  rcases h with (rfl | rfl) | rfl <;> decide

end SpecGrammar.Notation
