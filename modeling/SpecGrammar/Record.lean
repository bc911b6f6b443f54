/-!
# Log records

What a run reports while it works: a level, the part of the program that speaks, and a message.
-/

namespace SpecGrammar

inductive Level
  | debug | info | warning | error | critical
  deriving DecidableEq, Repr

namespace Level

/-- The rank of a level; a record passes a threshold if its rank is not below it. -/
def rank : Level → Nat
  | debug => 10
  | info => 20
  | warning => 30
  | error => 40
  | critical => 50

end Level

/-- The parts of the program that report. -/
inductive Reporter
  | assembly | selection | extraction | specification | artifact | commandLine
  deriving DecidableEq, Repr

structure Record where
  level : Level
  reporter : Reporter
  message : List Char
  deriving DecidableEq, Repr

/-- A number in decimal, for messages. -/
def showNat (n : Nat) : List Char := Nat.toDigits 10 n

def showInt (n : Int) : List Char := (if n < 0 then ['-'] else []) ++ showNat n.natAbs

end SpecGrammar
