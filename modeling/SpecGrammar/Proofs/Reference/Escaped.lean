import SpecGrammar.Proofs.Reference.Decode

/-!
# Escaped texts

A text is escaped to be written into a document: the characters that have a meaning in markup are
written as references, the apostrophe by its number and the others by name.

* `escapeCharacter_cases`: how a character is written;
* `tryDecode_escape`: an escaped text stands for the text, and none of its numbers is too long;
* `quote_not_mem_escape`: it can stand between quotes.
-/

namespace SpecGrammar.Reference

/-- The characters that are written by name. -/
def escapeNames : List (Char × String) :=
  [('&', "amp"), ('<', "lt"), ('>', "gt"), ('"', "quot")]

def escapeCharacter (c : Char) : List Char :=
  if c = '\'' then "&#x27;".toList
  else
    match escapeNames.lookup c with
    | some name => '&' :: (name.toList ++ [';'])
    | none => [c]

def escape (s : List Char) : List Char := s.flatMap escapeCharacter

theorem escape_nil : escape [] = [] := rfl

theorem escape_cons (c : Char) (s : List Char) : escape (c :: s) = escapeCharacter c ++ escape s :=
  List.flatMap_cons

/-- A character is the apostrophe, has a name or stands for itself. -/
theorem escapeCharacter_cases (c : Char) :
    (c = '\'' ∧ escapeCharacter c = "&#x27;".toList) ∨
      (∃ name, (c, name) ∈ escapeNames ∧ escapeCharacter c = '&' :: (name.toList ++ [';'])) ∨
      (c ≠ '\'' ∧ (∀ e ∈ escapeNames, c ≠ e.1) ∧ escapeCharacter c = [c]) := by
  by_cases happ : c = '\''
  · exact .inl ⟨happ, if_pos happ⟩
  · rw [escapeCharacter, if_neg happ]
    cases hname : escapeNames.lookup c with
    | some name =>
      obtain ⟨l, r, hl, -⟩ := List.lookup_eq_some_iff.1 hname
      exact .inr (.inl ⟨name, by simp [hl], rfl⟩)
    | none =>
      have hne := List.lookup_eq_none_iff.1 hname
      exact .inr (.inr ⟨happ, fun e he => bne_iff_ne.1 (hne e he), rfl⟩)

/-! ### Decoding -/

/-- The names are in the table of names. -/
theorem named?_of_mem_escapeNames {c : Char} {name : String} (h : (c, name) ∈ escapeNames) :
    named? (name.toList ++ [';']) = some [c] := by
  have key : ∀ e ∈ escapeNames, groups.findSome? (lookup (e.2 ++ ";")) = some e.1.toString := by
    decide +kernel
  have := named?_eq_lookup (name ++ ";")
  rw [key _ h, String.toList_append] at this
  simpa using this

/-- An escaped character is one piece, which stands for the character. -/
theorem pieces_escapeCharacter (c : Char) (rest : List Char) :
    ∃ piece : Piece, pieces (escapeCharacter c ++ rest) = piece :: pieces rest ∧
      piece.text = [c] ∧ piece.excess? = none := by
  rcases escapeCharacter_cases c with ⟨rfl, hc⟩ | ⟨name, hmem, hc⟩ | ⟨-, hne, hc⟩
  · refine ⟨.number 16 ['2', '7'], ?_, by decide, rfl⟩
    have hread : reference? ('#' :: 'x' :: '2' :: '7' :: ';' :: rest) =
        some (5, .number 16 ['2', '7']) := by
      simp [reference?, isDigit, digitValue?, semicolonLength]
    rw [hc]
    show pieces ('&' :: '#' :: 'x' :: '2' :: '7' :: ';' :: rest) = _
    rw [pieces]
    simp [hread]
  · have key : ∀ e ∈ escapeNames, e.2.toList ≠ [] ∧ e.2.toList.length < longestName ∧
        e.2.toList.all isNameCharacter = true := by
      decide
    obtain ⟨hne, hl, hn⟩ := key _ hmem
    refine ⟨.name (name.toList ++ [';']), ?_, ?_, rfl⟩
    · rw [hc]
      simpa using pieces_name hne hl (List.all_eq_true.1 hn) rest
    · simp [Piece.text, expandName, named?_of_mem_escapeNames hmem]
  · have hamp : c ≠ '&' := hne ('&', "amp") (by decide)
    exact ⟨.character c, by simp [hc, pieces, hamp], rfl, rfl⟩

theorem decode_escape (s : List Char) : decode (escape s) = s ∧ excess? (escape s) = none := by
  induction s with
  | nil => exact ⟨decode_nil, by rw [escape_nil, excess?, pieces]; rfl⟩
  | cons c r ih =>
    obtain ⟨piece, hpieces, htext, hexcess⟩ := pieces_escapeCharacter c (escape r)
    rw [decode, excess?] at ih ⊢
    rw [escape_cons, hpieces, List.flatMap_cons, htext, ih.1, List.findSome?_cons, hexcess, ih.2]
    exact ⟨rfl, rfl⟩

/-- An escaped text stands for the text. -/
theorem tryDecode_escape (s : List Char) : tryDecode (escape s) = .ok s := by
  obtain ⟨hdecode, hexcess⟩ := decode_escape s
  rw [tryDecode, hexcess, hdecode]

/-! ### Quoting -/

/-- An escaped text can stand between double quotes. -/
theorem quote_not_mem_escape (s : List Char) : '"' ∉ escape s := by
  intro h
  obtain ⟨c, -, hc⟩ := List.mem_flatMap.1 h
  rcases escapeCharacter_cases c with ⟨-, heq⟩ | ⟨name, hmem, heq⟩ | ⟨-, hne, heq⟩
  · rw [heq] at hc
    exact absurd hc (by decide)
  · have key : ∀ e ∈ escapeNames, '"' ∉ '&' :: (e.2.toList ++ [';']) := by
      decide
    rw [heq] at hc
    exact key _ hmem hc
  · rw [heq, List.mem_singleton] at hc
    exact hne ('"', "quot") (by decide) hc.symm

end SpecGrammar.Reference
