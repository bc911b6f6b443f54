import SpecGrammar.Decimal.Binary64

/-!
# Retrying requests

How often a request is repeated, and after which answers: the methods that only read are repeated when
the server reports a passing error.
-/

namespace SpecGrammar

structure RetryPolicy where
  total : Nat := 5
  read : Nat := 5
  connect : Nat := 3
  /-- The factor of the pauses between the attempts. -/
  backoff : Decimal.Binary64 := .ofDecimal false 5 (-1)
  statuses : List Nat := [500, 502, 503, 504]
  methods : List (List Char) := [['G', 'E', 'T'], ['H', 'E', 'A', 'D']]

namespace RetryPolicy

/-- Whether a request is repeated after a status. The case of the method does not matter. -/
def retries (policy : RetryPolicy) (method : List Char) (status : Nat) : Bool :=
  policy.methods.contains (method.map Char.toUpper) && policy.statuses.contains status

/-- The policy for an address; only the addresses of the web have one. -/
def forUrl? (url : List Char) : Option RetryPolicy :=
  let lower := url.map Char.toLower
  if "http://".toList.isPrefixOf lower || "https://".toList.isPrefixOf lower then some {} else none

end RetryPolicy

end SpecGrammar
