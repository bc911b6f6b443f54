import SpecGrammar.Workspace

/-!
# Fetching the specification

The specification is read from the cache if there is one, and downloaded into it otherwise, or when a
fresh copy is asked for. Nothing is written when the download fails.
-/

namespace SpecGrammar

/-- Whether requests go through a session of the caller, or through one opened for each of them and
closed after it. -/
inductive Session
  | given | opened
  deriving DecidableEq, Repr

structure Fetcher where
  url : List Char
  cachePath : Path
  timeout : Seconds := .binary (.ofDecimal false 30 0)
  session : Session := .opened

/-- What is wrong with a status: those from 400 are the client's errors, those from 500 the
server's. -/
def statusError? (url : List Char) (status : Nat) (reason : List Char) : Option (List Char) :=
  let error (side : String) : List Char :=
    showNat status ++ side.toList ++ reason ++ " for url: ".toList ++ url
  if 400 ≤ status && status < 500 then some (error " Client Error: ")
  else if 500 ≤ status && status < 600 then some (error " Server Error: ")
  else none

/-- The text of an answer, or why it has none. -/
def Answer.text (url : List Char) : Answer → Except (List Char) (List Char)
  | .failure message => .error message
  | .response status reason text =>
    match statusError? url status reason with
    | some message => .error message
    | none => .ok text

/-- The answer to a request when the server has none left to give. -/
def noAnswer : Answer := .failure "no response left".toList

namespace Fetcher

/-- Sends one request and takes the next answer. -/
def request (f : Fetcher) : Job Answer :=
  modifyGet fun w =>
    (w.answers.headD noAnswer,
      { w with
        requests := w.requests ++ [⟨f.url, f.timeout⟩]
        answers := w.answers.drop 1
        closedSessions := w.closedSessions + if f.session = .opened then 1 else 0 })

def download (f : Fetcher) : Job (List Char) := do
  match (← f.request).text f.url with
  | .ok text => return text
  | .error cause => throw (.fetch f.url cause)

def fetch (f : Fetcher) (refresh : Bool) : Job (List Char) := do
  let isCached ← if refresh then pure false else Job.look (·.exists? f.cachePath)
  if isCached then
    Job.report
      ⟨.info, .specification, "Using cached specification at ".toList ++ f.cachePath.toText⟩
    Job.look (·.readText f.cachePath)
  else
    Job.report ⟨.info, .specification, "Downloading specification from ".toList ++ f.url⟩
    let text ← f.download
    Job.save f.cachePath text
    return text

end Fetcher

end SpecGrammar
