/-!
# White space

Which characters count as white space, trimming a text at its ends, and cutting a text at the
characters of a class.

* `splitWhen_ne_nil`: cutting gives at least one piece;
* `length_trimEnd_le`: trimming makes no text longer.
-/

namespace SpecGrammar.Text

/-- White space is the controls from tab to carriage return, the four separator controls before the
space, the space itself, and the spaces and line breaks beyond ASCII. -/
def isBlank (c : Char) : Bool :=
  let n := c.toNat
  (9 ≤ n && n ≤ 13) || (28 ≤ n && n ≤ 32) || n == 0x85 || n == 0xa0 || n == 0x1680
    || (0x2000 ≤ n && n ≤ 0x200a) || n == 0x2028 || n == 0x2029 || n == 0x202f || n == 0x205f
    || n == 0x3000

/-- White space of the plain markup kind: space, tab, line feed, form feed, carriage return. -/
def isAsciiBlank (c : Char) : Bool :=
  c == ' ' || c == '\n' || c == '\t' || c == '\x0c' || c == '\r'

/-- The text from its first character that is not white space. -/
def trimStart (s : List Char) : List Char := s.dropWhile isBlank

/-- The text up to its last character that is not white space. -/
def trimEnd : List Char → List Char
  | [] => []
  | c :: r =>
    match trimEnd r with
    | [] => if isBlank c then [] else [c]
    | t => c :: t

def trim (s : List Char) : List Char := trimEnd (trimStart s)

/-- Cuts a text at every character of a class; the cut characters are dropped. -/
def splitWhen (p : Char → Bool) : List Char → List (List Char)
  | [] => [[]]
  | c :: r =>
    if p c then [] :: splitWhen p r
    else
      match splitWhen p r with
      | [] => [[c]]
      | piece :: pieces => (c :: piece) :: pieces

/-- The maximal runs of characters that are not white space. -/
def words (s : List Char) : List (List Char) :=
  (splitWhen isBlank s).filter (· ≠ [])

/-- Puts a separator between texts. -/
def joinWith (separator : List Char) : List (List Char) → List Char
  | [] => []
  | [s] => s
  | s :: r => s ++ separator ++ joinWith separator r

/-! ### Small facts -/

theorem splitWhen_ne_nil (p : Char → Bool) (s : List Char) : splitWhen p s ≠ [] := by
  cases s with
  | nil => simp [splitWhen]
  | cons c r =>
    unfold splitWhen
    split
    · simp
    · split <;> simp

theorem length_trimEnd_le (s : List Char) : (trimEnd s).length ≤ s.length := by
  induction s with
  | nil => simp [trimEnd]
  | cons c r ih =>
    unfold trimEnd
    split
    · split <;> simp
    · simp only [List.length_cons]
      omega

end SpecGrammar.Text
