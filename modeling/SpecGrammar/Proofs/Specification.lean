import SpecGrammar.Proofs.Workspace
import SpecGrammar.Specification

/-!
# What can come of fetching the specification

* `Answer.body?`: the text that an answer brings, said apart from the messages of those without one;
* `Fetcher.FetchEnds`, `Fetcher.fetch_ends`: everything that can come of a call, and when.
-/

namespace SpecGrammar

/-! ### Answers -/

/-- The text of a response whose status is no error. -/
def Answer.body? : Answer → Option (List Char)
  | .failure _ => none
  | .response status _ text => if 400 ≤ status ∧ status < 600 then none else some text

theorem statusError?_eq_none_iff (url reason : List Char) (status : Nat) :
    statusError? url status reason = none ↔ ¬ (400 ≤ status ∧ status < 600) := by
  unfold statusError?
  split
  case isTrue h =>
    simp only [Bool.and_eq_true, decide_eq_true_eq] at h
    simp only [reduceCtorEq, false_iff, not_not]
    omega
  case isFalse h =>
    simp only [Bool.and_eq_true, decide_eq_true_eq] at h
    split
    case isTrue h' =>
      simp only [Bool.and_eq_true, decide_eq_true_eq] at h'
      simp only [reduceCtorEq, false_iff, not_not]
      omega
    case isFalse h' =>
      simp only [Bool.and_eq_true, decide_eq_true_eq] at h'
      simp only [true_iff]
      omega

theorem Answer.text_eq_ok_iff {a : Answer} {url text : List Char} :
    a.text url = .ok text ↔ a.body? = some text := by
  cases a with
  | failure message => simp [Answer.text, body?]
  | response status reason t =>
    have hstatus := statusError?_eq_none_iff url reason status
    rw [Answer.text, body?]
    cases herror : statusError? url status reason with
    | none => simp [hstatus.1 herror]
    | some message =>
      rw [herror] at hstatus
      simp only [reduceCtorEq, false_iff, not_not] at hstatus
      simp [hstatus]

theorem Answer.text_eq_error {a : Answer} {url cause : List Char} (h : a.text url = .error cause) :
    a.body? = none := by
  cases hbody : a.body? with
  | none => rfl
  | some text => cases h.symm.trans (text_eq_ok_iff.2 hbody)

/-- The answer that the next request gets. -/
def Workspace.nextAnswer (w : Workspace) : Answer := w.answers.headD noAnswer

namespace Fetcher

variable {f : Fetcher} {w : Workspace} {refresh : Bool} {text : List Char} {files : Files}

/-! ### Single calls -/

/-- A call makes a request if it is asked for a fresh copy or there is no cache file. -/
def Requests (f : Fetcher) (refresh : Bool) (files : Files) : Prop :=
  refresh = true ∨ files.exists? f.cachePath = .ok false

instance (f : Fetcher) (refresh : Bool) (files : Files) : Decidable (f.Requests refresh files) := by
  unfold Requests
  infer_instance

def cacheRecord (f : Fetcher) : Record :=
  ⟨.info, .specification, "Using cached specification at ".toList ++ f.cachePath.toText⟩

def downloadRecord (f : Fetcher) : Record :=
  ⟨.info, .specification, "Downloading specification from ".toList ++ f.url⟩

/-- The workspace after a request. -/
@[simps]
def requested (f : Fetcher) (w : Workspace) : Workspace :=
  { w with
    records := w.records ++ [f.downloadRecord]
    requests := w.requests ++ [⟨f.url, f.timeout⟩]
    answers := w.answers.drop 1
    closedSessions := w.closedSessions + if f.session = .opened then 1 else 0 }

theorem run_request (f : Fetcher) (w : Workspace) :
    f.request.run (w.reporting [f.downloadRecord]) = (.ok w.nextAnswer, f.requested w) := rfl

theorem run_download (f : Fetcher) (w : Workspace) :
    f.download.run (w.reporting [f.downloadRecord]) =
      ((w.nextAnswer.text f.url).mapError (.fetch f.url), f.requested w) := by
  rw [download, Job.run_bind, run_request]
  dsimp only
  cases w.nextAnswer.text f.url <;> rfl

/-- What comes of a request and of saving what it brings. -/
def refreshed (f : Fetcher) (w : Workspace) : Except RunError (List Char) × Workspace :=
  match w.nextAnswer.text f.url with
  | .error cause => (.error (.fetch f.url cause), f.requested w)
  | .ok text =>
    match (Job.save f.cachePath text).run (f.requested w) with
    | (.ok (), w) => (.ok text, w)
    | (.error e, w) => (.error e, w)

theorem run_refresh (f : Fetcher) (w : Workspace) :
    (do Job.report f.downloadRecord
        let text ← f.download
        Job.save f.cachePath text
        return text : Job (List Char)).run w = f.refreshed w := by
  rw [Job.run_bind, Job.run_report]
  dsimp only
  rw [Job.run_bind, run_download, refreshed]
  cases w.nextAnswer.text f.url with
  | error cause => rfl
  | ok text =>
    simp only [Except.mapError]
    rw [Job.run_bind]
    rcases (Job.save f.cachePath text).run (f.requested w) with ⟨_ | ⟨⟩, _⟩ <;> rfl

theorem run_cached (f : Fetcher) (w : Workspace) :
    (do Job.report f.cacheRecord
        Job.look (·.readText f.cachePath) : Job (List Char)).run w =
      ((w.files.readText f.cachePath).mapError .file, w.reporting [f.cacheRecord]) :=
  (Job.run_bind _ _ _).trans (Job.run_look _ _)

theorem run_fetch (f : Fetcher) (refresh : Bool) (w : Workspace) :
    (f.fetch refresh).run w =
      match if refresh then .ok false else w.files.exists? f.cachePath with
      | .error e => (.error (.file e), w)
      | .ok true =>
        ((w.files.readText f.cachePath).mapError .file, w.reporting [f.cacheRecord])
      | .ok false => f.refreshed w := by
  cases refresh with
  | true => exact f.run_refresh w
  | false =>
    rw [fetch, if_neg (by simp), if_neg (by simp), Job.run_bind, Job.run_look]
    rcases w.files.exists? f.cachePath with e | _ | _
    · rfl
    · exact f.run_refresh w
    · exact f.run_cached w

/-- What can come of a call. -/
inductive FetchEnds (f : Fetcher) (refresh : Bool) (w : Workspace) :
    Except RunError (List Char) → Workspace → Prop
  | read {outcome : Except RunError (List Char)} {rs : List Record}
      (h : ¬ f.Requests refresh w.files)
      (hread : outcome = (w.files.readText f.cachePath).mapError .file) :
      FetchEnds f refresh w outcome (w.reporting rs)
  | failed {cause : List Char} (h : f.Requests refresh w.files)
      (hanswer : w.nextAnswer.text f.url = .error cause) :
      FetchEnds f refresh w (.error (.fetch f.url cause)) (f.requested w)
  | stored {text : List Char} {files : Files} (h : f.Requests refresh w.files)
      (hanswer : w.nextAnswer.body? = some text) (hsaves : w.files.Saves f.cachePath text files) :
      FetchEnds f refresh w (.ok text) ((f.requested w).withFiles files)
  | unstored {text : List Char} {e : FileError} {files : Files} (h : f.Requests refresh w.files)
      (hanswer : w.nextAnswer.body? = some text)
      (hsaves : ∀ files, ¬ w.files.Saves f.cachePath text files)
      (hkeeps : Files.Keeps [] w.files files) :
      FetchEnds f refresh w (.error (.file e)) ((f.requested w).withFiles files)

theorem refreshed_ends (h : f.Requests refresh w.files) :
    FetchEnds f refresh w (f.refreshed w).1 (f.refreshed w).2 := by
  rw [refreshed]
  cases hanswer : w.nextAnswer.text f.url with
  | error cause => exact .failed h hanswer
  | ok text =>
    have hbody := Answer.text_eq_ok_iff.1 hanswer
    have hsave := Job.save_ends (f.requested w) f.cachePath text
    dsimp only
    generalize (Job.save f.cachePath text).run (f.requested w) = result at hsave
    rcases result with ⟨r, w'⟩
    cases hsave with
    | saved hsaves => exact .stored h hbody hsaves
    | refused hsaves hkeeps => exact .unstored h hbody hsaves hkeeps

theorem fetch_ends (f : Fetcher) (refresh : Bool) (w : Workspace) :
    FetchEnds f refresh w ((f.fetch refresh).run w).1 ((f.fetch refresh).run w).2 := by
  rw [run_fetch]
  cases refresh with
  | true => exact refreshed_ends (.inl rfl)
  | false =>
    rw [if_neg (by simp)]
    rcases hexists : w.files.exists? f.cachePath with e | _ | _
    · have hno : ¬ f.Requests false w.files := by simp [Requests, hexists]
      have hread := Files.readText_of_exists?_error hexists
      have hends : FetchEnds f false w _ (w.reporting []) := .read hno rfl
      rwa [hread, Workspace.reporting, List.append_nil] at hends
    · exact refreshed_ends (.inr hexists)
    · exact .read (by simp [Requests, hexists]) rfl

end Fetcher

end SpecGrammar
