import Mathlib.Data.List.Forall2
import Mathlib.Data.List.TakeWhile
import SpecGrammar.Document.Json
import SpecGrammar.Text.CodePoint

/-!
# JSON texts

Which texts are JSON, and the value that each stands for. White space may stand around every value, key
and mark; in strings characters may be escaped in several ways. What is written for a document is one
text out of many for the same value.

* `Spells`: the characters of values, of the items of an array and of the members of an object;
* `Denotes`: a text that is a value with white space around it;
* `Spells.opens`: no part of a text is empty or begins with a closing bracket;
* `Spells.value_head`: a value begins with no white space.
-/

namespace SpecGrammar.Json

/-- What a JSON text stands for. A number stays as it is written, and the members of an object in their
order. -/
inductive Value
  | null
  | bool (value : Bool)
  | number (text : List Char)
  | string (text : List Char)
  | array (items : List Value)
  | object (members : List (List Char × Value))

/-! ### White space and numbers -/

def isSpace (c : Char) : Bool := c == ' ' || c == '\t' || c == '\n' || c == '\r'

/-- Nothing but white space. -/
def Space (s : List Char) : Prop := ∀ c ∈ s, isSpace c = true

/-- One digit or more, and nothing else. -/
def isDigits (s : List Char) : Bool := !s.isEmpty && s.all Char.isDigit

/-- What stands after a sign, if there is one. -/
def afterSign : List Char → List Char
  | '+' :: r => r
  | '-' :: r => r
  | r => r

/-- Nothing, or the mark of an exponent with its digits, which may have a sign. -/
def isExponent : List Char → Bool
  | [] => true
  | mark :: r => (mark == 'e' || mark == 'E') && isDigits (afterSign r)

/-- Nothing or a point with digits, and then an exponent. -/
def isFraction : List Char → Bool
  | '.' :: r => isDigits (r.takeWhile Char.isDigit) && isExponent (r.dropWhile Char.isDigit)
  | s => isExponent s

/-- A number without sign; a zero in front has no digits after it. -/
def isMagnitude : List Char → Bool
  | [] => false
  | c :: r => c.isDigit && isFraction (if c = '0' then r else r.dropWhile Char.isDigit)

def isNumber : List Char → Bool
  | '-' :: r => isMagnitude r
  | s => isMagnitude s

/-! ### Strings -/

/-- The character that a backslash and one letter or sign stand for. -/
def short? : Char → Option Char
  | '"' => some '"'
  | '\\' => some '\\'
  | '/' => some '/'
  | 'b' => some '\x08'
  | 'f' => some '\x0c'
  | 'n' => some '\n'
  | 'r' => some '\r'
  | 't' => some '\t'
  | _ => none

def hexValue? (c : Char) : Option Nat :=
  if '0' ≤ c ∧ c ≤ '9' then some (c.toNat - 48)
  else if 'a' ≤ c ∧ c ≤ 'f' then some (c.toNat - 87)
  else if 'A' ≤ c ∧ c ≤ 'F' then some (c.toNat - 55)
  else none

/-- The code point of a number in hexadecimal digits. -/
def unit? (digits : List Char) : Option Text.CodePoint :=
  (digits.foldlM (fun n c => (hexValue? c).map (16 * n + ·)) 0).bind Text.CodePoint.ofNat?

/-- How a code point may stand in a string. -/
inductive Escaped : List Char → Text.CodePoint → Prop
  | plain {c : Char} (hc : 0x20 ≤ c.toNat) (hquote : c ≠ '"') (hslash : c ≠ '\\') :
      Escaped [c] (.char c)
  | short {letter c : Char} (h : short? letter = some c) : Escaped ['\\', letter] (.char c)
  | unit {a b c d : Char} {p : Text.CodePoint} (h : unit? [a, b, c, d] = some p) :
      Escaped ['\\', 'u', a, b, c, d] p

/-- What is written of a string and the text that it stands for: two halves of a surrogate pair that are
escaped one after the other are one character. -/
inductive SpellsString : List Char → List Char → Prop
  | mk {parts : List (List Char)} {ps : List Text.CodePoint} (h : List.Forall₂ Escaped parts ps) :
      SpellsString ('"' :: parts.flatten ++ ['"']) (Text.joinPairs ps)

/-! ### Values -/

/-- What a part of a text stands for. -/
inductive Phrase
  | value (v : Value)
  /-- A value with white space around it. -/
  | element (v : Value)
  | items (vs : List Value)
  | member (m : List Char × Value)
  | members (ms : List (List Char × Value))

/-- The characters of a part of a text. -/
inductive Spells : List Char → Phrase → Prop
  | nullWord : Spells ['n', 'u', 'l', 'l'] (.value .null)
  | trueWord : Spells ['t', 'r', 'u', 'e'] (.value (.bool true))
  | falseWord : Spells ['f', 'a', 'l', 's', 'e'] (.value (.bool false))
  | number {s : List Char} (h : isNumber s = true) : Spells s (.value (.number s))
  | string {s text : List Char} (h : SpellsString s text) : Spells s (.value (.string text))
  | emptyArray {w : List Char} (hw : Space w) : Spells ('[' :: w ++ [']']) (.value (.array []))
  | array {s : List Char} {vs : List Value} (h : Spells s (.items vs)) :
      Spells ('[' :: s ++ [']']) (.value (.array vs))
  | emptyObject {w : List Char} (hw : Space w) : Spells ('\x7b' :: w ++ ['\x7d']) (.value (.object []))
  | object {s : List Char} {ms : List (List Char × Value)} (h : Spells s (.members ms)) :
      Spells ('\x7b' :: s ++ ['\x7d']) (.value (.object ms))
  | element {w s w' : List Char} {v : Value} (hw : Space w) (h : Spells s (.value v))
      (hw' : Space w') : Spells (w ++ s ++ w') (.element v)
  | lastItem {s : List Char} {v : Value} (h : Spells s (.element v)) : Spells s (.items [v])
  | item {s r : List Char} {v : Value} {vs : List Value} (h : Spells s (.element v))
      (hr : Spells r (.items vs)) : Spells (s ++ ',' :: r) (.items (v :: vs))
  | member {w k w' s key : List Char} {v : Value} (hw : Space w) (hk : SpellsString k key)
      (hw' : Space w') (h : Spells s (.element v)) :
      Spells (w ++ k ++ w' ++ ':' :: s) (.member (key, v))
  | lastMember {s : List Char} {m : List Char × Value} (h : Spells s (.member m)) :
      Spells s (.members [m])
  | members {s r : List Char} {m : List Char × Value} {ms : List (List Char × Value)}
      (h : Spells s (.member m)) (hr : Spells r (.members ms)) :
      Spells (s ++ ',' :: r) (.members (m :: ms))

/-- A JSON text for a value. -/
def Denotes (s : List Char) (v : Value) : Prop := Spells s (.element v)

/-! ### The characters of numbers -/

/-- A character that may stand in a number. -/
def isNumeric (c : Char) : Bool :=
  c.isDigit || c == '-' || c == '+' || c == '.' || c == 'e' || c == 'E'

section Numbers

variable {s : List Char}

theorem isNumeric_of_isDigit {c : Char} (h : c.isDigit = true) : isNumeric c = true := by
  simp [isNumeric, h]

theorem isNumeric_of_isDigits (h : isDigits s = true) : ∀ c ∈ s, isNumeric c = true := fun c hc =>
  isNumeric_of_isDigit (List.all_eq_true.1 (Bool.and_eq_true_iff.1 h).2 c hc)

theorem isNumeric_of_afterSign (h : ∀ c ∈ afterSign s, isNumeric c = true) :
    ∀ c ∈ s, isNumeric c = true := by
  unfold afterSign at h
  split at h
  case h_3 => exact h
  all_goals exact List.forall_mem_cons.2 ⟨rfl, h⟩

theorem isNumeric_of_isExponent (h : isExponent s = true) : ∀ c ∈ s, isNumeric c = true := by
  cases s with
  | nil => simp
  | cons mark r =>
    obtain ⟨hmark, hr⟩ := Bool.and_eq_true_iff.1 h
    refine List.forall_mem_cons.2 ⟨?_, isNumeric_of_afterSign (isNumeric_of_isDigits hr)⟩
    simp only [Bool.or_eq_true, beq_iff_eq] at hmark
    rcases hmark with rfl | rfl <;> rfl

/-- A run of digits, and then something of characters that may stand in a number. -/
theorem isNumeric_of_dropWhile (h : ∀ c ∈ s.dropWhile Char.isDigit, isNumeric c = true) :
    ∀ c ∈ s, isNumeric c = true := by
  intro c hc
  rw [← List.takeWhile_append_dropWhile (p := Char.isDigit) (l := s), List.mem_append] at hc
  rcases hc with hc | hc
  · exact isNumeric_of_isDigit (List.mem_takeWhile_imp hc)
  · exact h c hc

theorem isNumeric_of_isFraction (h : isFraction s = true) : ∀ c ∈ s, isNumeric c = true := by
  unfold isFraction at h
  split at h
  · have hr := isNumeric_of_isExponent (Bool.and_eq_true_iff.1 h).2
    exact List.forall_mem_cons.2 ⟨rfl, isNumeric_of_dropWhile hr⟩
  · exact isNumeric_of_isExponent h

theorem isNumeric_of_isMagnitude (h : isMagnitude s = true) : ∀ c ∈ s, isNumeric c = true := by
  cases s with
  | nil => simp
  | cons c r =>
    obtain ⟨hc, hr⟩ := Bool.and_eq_true_iff.1 h
    refine List.forall_mem_cons.2 ⟨isNumeric_of_isDigit hc, ?_⟩
    split at hr
    · exact isNumeric_of_isFraction hr
    · exact isNumeric_of_dropWhile (isNumeric_of_isFraction hr)

theorem isNumeric_of_isNumber (h : isNumber s = true) : ∀ c ∈ s, isNumeric c = true := by
  unfold isNumber at h
  split at h
  · exact List.forall_mem_cons.2 ⟨rfl, isNumeric_of_isMagnitude h⟩
  · exact isNumeric_of_isMagnitude h

end Numbers

/-! ### How the parts of a text begin -/

/-- Neither white space nor a closing bracket. -/
def isOpening (c : Char) : Bool := !isSpace c && c != ']' && c != '\x7d'

/-- The first character that is not white space is there and is no closing bracket. -/
def Opens (s : List Char) : Prop := ∃ w c r, s = w ++ c :: r ∧ Space w ∧ isOpening c = true

variable {s t w : List Char} {c : Char}

theorem isNumeric_of_isSpace (h : isSpace c = true) : isNumeric c = false := by
  simp only [isSpace, Bool.or_eq_true, beq_iff_eq] at h
  rcases h with ((rfl | rfl) | rfl) | rfl <;> rfl

theorem isSpace_of_isOpening (h : isOpening c = true) : isSpace c = false := by
  simp only [isOpening, Bool.and_eq_true, Bool.not_eq_true'] at h
  exact h.1.1

theorem isOpening_of_isNumeric (h : isNumeric c = true) : isOpening c = true := by
  have hspace : isSpace c = false := by
    by_contra hc
    rw [isNumeric_of_isSpace (by simpa using hc)] at h
    exact Bool.noConfusion h
  have harray : c ≠ ']' := by
    rintro rfl
    exact absurd h (by decide)
  have hobject : c ≠ '\x7d' := by
    rintro rfl
    exact absurd h (by decide)
  simp [isOpening, hspace, harray, hobject]

theorem Opens.append (h : Opens s) (t : List Char) : Opens (s ++ t) := by
  obtain ⟨w, c, r, rfl, hw, hc⟩ := h
  exact ⟨w, c, r ++ t, by simp, hw, hc⟩

theorem Opens.prepend (hw : Space w) (h : Opens s) : Opens (w ++ s) := by
  obtain ⟨w', c, r, rfl, hw', hc⟩ := h
  refine ⟨w ++ w', c, r, by simp, fun d hd => ?_, hc⟩
  exact (List.mem_append.1 hd).elim (hw d) (hw' d)

theorem SpellsString.head {key : List Char} (h : SpellsString s key) : ∃ r, s = '"' :: r := by
  cases h
  exact ⟨_, rfl⟩

/-- A value begins with neither white space nor a closing bracket. -/
theorem Spells.value_head {v : Value} (h : Spells s (.value v)) :
    ∃ c r, s = c :: r ∧ isOpening c = true := by
  cases h with
  | nullWord => exact ⟨_, _, rfl, rfl⟩
  | trueWord => exact ⟨_, _, rfl, rfl⟩
  | falseWord => exact ⟨_, _, rfl, rfl⟩
  | number h =>
    cases s with
    | nil => exact absurd h (by decide)
    | cons c r =>
      exact ⟨c, r, rfl, isOpening_of_isNumeric (isNumeric_of_isNumber h c (by simp))⟩
  | string h =>
    obtain ⟨r, rfl⟩ := h.head
    exact ⟨_, _, rfl, rfl⟩
  | emptyArray => exact ⟨_, _, rfl, rfl⟩
  | array => exact ⟨_, _, rfl, rfl⟩
  | emptyObject => exact ⟨_, _, rfl, rfl⟩
  | object => exact ⟨_, _, rfl, rfl⟩

theorem Spells.value_opens {v : Value} (h : Spells s (.value v)) : Opens s := by
  obtain ⟨c, r, rfl, hc⟩ := h.value_head
  exact ⟨[], c, r, rfl, by simp [Space], hc⟩

/-- No part of a text is empty or begins with a closing bracket. -/
theorem Spells.opens {p : Phrase} (h : Spells s p) : Opens s := by
  induction h with
  | nullWord => exact Spells.nullWord.value_opens
  | trueWord => exact Spells.trueWord.value_opens
  | falseWord => exact Spells.falseWord.value_opens
  | number h => exact (Spells.number h).value_opens
  | string h => exact (Spells.string h).value_opens
  | emptyArray hw => exact (Spells.emptyArray hw).value_opens
  | array h => exact (Spells.array h).value_opens
  | emptyObject hw => exact (Spells.emptyObject hw).value_opens
  | object h => exact (Spells.object h).value_opens
  | element hw _ _ ih =>
    rw [List.append_assoc]
    exact .prepend hw (ih.append _)
  | lastItem _ ih => exact ih
  | item _ _ ih _ => exact ih.append _
  | member hw hk _ _ _ =>
    obtain ⟨r, rfl⟩ := hk.head
    simp only [List.append_assoc]
    exact .prepend hw ⟨[], _, _, rfl, by simp [Space], rfl⟩
  | lastMember _ ih => exact ih
  | members _ _ ih _ => exact ih.append _

theorem Spells.length_pos {p : Phrase} (h : Spells s p) : 0 < s.length := by
  obtain ⟨w, c, r, rfl, -⟩ := h.opens
  rw [List.length_append, List.length_cons]
  omega

end SpecGrammar.Json
