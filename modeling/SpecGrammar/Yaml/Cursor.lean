/-!
# Reading a YAML text

What every stage of reading shares: the versions of the format, the reasons why a text gives no value,
and the places in a text.

A text may name the version whose rules it follows. Two versions differ: the older one, and the usual one,
which also holds where no version is named.

A place has its line and column, and there are classes of character that end lines and words. Every line
break ends a line of content, but only a line feed begins a new line for line numbers and columns.
-/

namespace SpecGrammar.Yaml

/-! ### Versions -/

structure Version where
  major : Nat
  minor : Nat
  deriving DecidableEq, Repr

namespace Version

def older : Version := ⟨1, 1⟩

def usual : Version := ⟨1, 2⟩

/-- Whether a version comes after the older one. -/
def isNewer (v : Version) : Bool := 1 < v.major || (v.major == 1 && 1 < v.minor)

/-- Whether a document may name this version. -/
def isSupported (v : Version) : Bool := v == older || v == usual

end Version

/-! ### Faults -/

/-- Why a text gives no value. -/
inductive Fault
  /-- The text breaks the rules of the format. -/
  | malformed
  | unsupportedVersion
  /-- A plain scalar under a version that has no rules for them. -/
  | unruledVersion
  | unreadableVersion
  /-- A character beyond the last one; `escapeTooGreat` if its number fills more than 31 bits. -/
  | impossibleCharacter
  | escapeTooGreat
  | unreadableTag
  | unreadableNumber
  | emptyNumber
  | numberTooGreat
  | unknownTruth
  | impossibleDate
  | dateOutOfRange
  | unhashableKey
  | repeatedKey
  /-- A number of too many digits in a message. -/
  | unwritableNumber
  deriving DecidableEq, Repr

/-! ### Positions -/

/-- The characters that a text may hold. -/
def isAllowed (c : Char) : Bool :=
  let n := c.toNat
  n == 0x09 || n == 0x0a || n == 0x0d || (0x20 ≤ n && n ≤ 0x7e) || n == 0x85
    || (0xa0 ≤ n && n ≤ 0xd7ff) || (0xe000 ≤ n && n ≤ 0xfffd) || 0x10000 ≤ n

/-- The byte order mark, which takes no column. -/
def byteOrderMark : Char := '\ufeff'

def isBreak (c : Char) : Bool := c == '\n' || c == '\x85' || c == '\u2028' || c == '\u2029'

/-- A place in a text: what follows it, how many characters precede it, and its line and column. -/
structure Cursor where
  rest : List Char
  index : Nat := 0
  line : Nat := 0
  column : Nat := 0
  deriving Repr

namespace Cursor

def next? (c : Cursor) : Option Char := c.rest.head?

/-- The character a number of places further on. -/
def ahead? (c : Cursor) (n : Nat) : Option Char := c.rest[n]?

/-- The place one character further on. -/
def advance (c : Cursor) : Cursor :=
  match c.rest with
  | [] => c
  | x :: r =>
    if x == '\n' then ⟨r, c.index + 1, c.line + 1, 0⟩
    else ⟨r, c.index + 1, c.line, if x == byteOrderMark then c.column else c.column + 1⟩

def skip (c : Cursor) : Nat → Cursor
  | 0 => c
  | n + 1 => c.advance.skip n

/-- The longest run of characters of a class, and the place after it. -/
def run (c : Cursor) (p : Char → Bool) : List Char × Cursor :=
  let taken := c.rest.takeWhile p
  (taken, c.skip taken.length)

def skipWhile (c : Cursor) (p : Char → Bool) : Cursor := (c.run p).2

/-- The line break at this place: two of them are kept as they are, the others count as a line
feed. -/
def lineBreak? (c : Cursor) : Option (Char × Cursor) :=
  match c.next? with
  | some x => if isBreak x then some (if x == '\x85' then '\n' else x, c.advance) else none
  | none => none

end Cursor

/-! ### What may follow -/

/-- Whether a line ends here. -/
def endsLine : Option Char → Bool
  | none => true
  | some c => isBreak c

/-- Whether a word ends here. -/
def endsWord (c : Option Char) : Bool := endsLine c || c == some ' ' || c == some '\t'

/-- Whether the header of something ends here: at a space, at any line break or at the end. -/
def endsHeader (c : Option Char) : Bool := endsLine c || c == some ' '

namespace Cursor

/-- Skips a comment up to the end of its line. -/
def skipComment (c : Cursor) : Cursor :=
  if c.next? == some '#' then c.skipWhile fun x => !isBreak x else c

/-- Whether a document marker, `---` or `...`, stands at this place. -/
def atMarker (c : Cursor) (mark : Char) : Bool :=
  c.rest.take 3 == [mark, mark, mark] && endsWord (c.ahead? 3)

def atAnyMarker (c : Cursor) : Bool := c.atMarker '-' || c.atMarker '.'

end Cursor

end SpecGrammar.Yaml
