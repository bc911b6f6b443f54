import SpecGrammar.Notation.Reading

/-!
# Alternatives and lists of terminals

The text of an alternative is read from left to right: gaps are skipped, the next token is looked for
among the kinds the reader accepts, and the reader goes on with it. Where no accepted kind has a token,
the error names the token that any kind would have there, or the character at fault if none has one.
The words of an alternative are decoded when the text ends.
-/

namespace SpecGrammar.Notation

/-- Why a text is no alternative, with the offset at which this shows. -/
inductive Misreading
  | token (token : Token) (offset : Nat)
  /-- The text ends too early; the offset is that of its last token. -/
  | ending (offset : Nat)
  | character (character : Char) (offset : Nat)
  /-- The words of an alternative hold a number of too many digits. -/
  | excess (excess : Decimal.Excess)
  deriving DecidableEq, Repr

/-- The line and the column of an offset into a text, both counted from one. -/
def position (s : List Char) (offset : Nat) : Nat × Nat :=
  let before := s.take offset
  (before.count '\n' + 1, (before.reverse.takeWhile (· != '\n')).length + 1)

/-- A reader: the kinds of token a state looks for, and the state after a token if it may stand
there. -/
structure Reader (σ : Type) where
  kinds : σ → List Kind
  read? : σ → Token → Option σ

/-- Reads a text from an offset on. Gives the state at its end with the offset of the last token, which
is `last` if there is no more. -/
def Reader.run {σ : Type} (reader : Reader σ) (state : σ) (last offset : Nat) (s : List Char) :
    Except Misreading (σ × Nat) :=
  match s with
  | [] => .ok (state, last)
  | c :: r =>
    if isGap c then reader.run state last (offset + 1) r
    else
      match first? (reader.kinds state) (c :: r) with
      | some token =>
        match reader.read? state token with
        | some next =>
          reader.run next offset (offset + token.text.length) (r.drop (token.text.length - 1))
        | none => .error (.token token offset)
      | none =>
        match first? Kind.all (c :: r) with
        | some token => .error (.token token offset)
        | none => .error (.character c offset)
termination_by s.length
decreasing_by all_goals simp only [List.length_cons, List.length_drop]; omega

/-- The state of a reader after the whole text, with the offset of the last token. -/
def Reader.readAll {σ : Type} (reader : Reader σ) (state : σ) (s : List Char) :
    Except Misreading (σ × Nat) :=
  reader.run state 0 0 s

/-! ### Alternatives -/

def alternativeReader : Reader Reading := ⟨Reading.kinds, Reading.read?⟩

def parseAlternative (s : List Char) : Except Misreading Alternative := do
  let (reading, last) ← alternativeReader.readAll {} s
  match reading.excess?, reading.finish? s with
  | some excess, _ => .error (.excess excess)
  | none, some alternative => .ok alternative
  | none, none => .error (.ending last)

/-! ### Lists of terminals -/

/-- A reader of terminals holds the texts read so far. -/
def terminalReader : Reader (List (List Char)) where
  kinds texts := if texts = [] then [.terminal] else kindsAfter (.terminal [])
  read? texts token :=
    match token.kind, token.symbol? with
    | .terminal, some (.terminal text) => some (texts ++ [text])
    | _, _ => none

/-- The texts of a list of one or more terminals. -/
def parseTerminals (s : List Char) : Except Misreading (List (List Char)) := do
  let (texts, last) ← terminalReader.readAll [] s
  if texts = [] then .error (.ending last) else .ok texts

end SpecGrammar.Notation
