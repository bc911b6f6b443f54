import SpecGrammar.Proofs.Specification
import SpecGrammar.Proofs.Text.Line

/-!
# The cache over sequences of calls

Calls of one fetcher, one after the other, where a call that fails keeps no later one from being made.

* `Fetcher.calls_hold`: what holds of every call, and what is in the cache after it;
* `Fetcher.fetch_again`: what later calls read from the cache that a call filled. The lines of what they
  read end in line feeds, whatever ended them in the answer, so it is the same text only without carriage
  returns.
-/

namespace SpecGrammar.Fetcher

/-- A call, with the workspaces before and after it. -/
structure Call where
  refresh : Bool
  before : Workspace
  outcome : Except RunError (List Char)
  after : Workspace

/-- The calls made from a workspace on, each with or without refreshing. -/
def calls (f : Fetcher) (w : Workspace) : List Bool → List Call
  | [] => []
  | refresh :: r =>
    ⟨refresh, w, ((f.fetch refresh).run w).1, ((f.fetch refresh).run w).2⟩ ::
      f.calls ((f.fetch refresh).run w).2 r

variable {f : Fetcher} {w : Workspace} {flags : List Bool} {c : Call} {text : List Char}
  {earlier later : List Call}

/-- The first of some calls starts where they start, and the others start where it ends. -/
theorem calls_eq_cons (h : f.calls w flags = c :: later) :
    w = c.before ∧ FetchEnds f c.refresh c.before c.outcome c.after ∧
      ∃ rest, f.calls c.after rest = later := by
  cases flags with
  | nil => cases h
  | cons refresh r =>
    obtain ⟨rfl, hrest⟩ := List.cons.inj h
    exact ⟨rfl, f.fetch_ends refresh w, r, hrest⟩

theorem ends_of_mem (h : c ∈ f.calls w flags) :
    FetchEnds f c.refresh c.before c.outcome c.after := by
  induction flags generalizing w with
  | nil => cases h
  | cons refresh r ih =>
    rw [calls, List.mem_cons] at h
    rcases h with rfl | h
    · exact f.fetch_ends refresh w
    · exact ih h

namespace Call

/-- Whether a call makes a request. -/
def Requests (f : Fetcher) (c : Call) : Prop := f.Requests c.refresh c.before.files

instance (f : Fetcher) (c : Call) : Decidable (c.Requests f) := by
  unfold Requests
  infer_instance

/-- The text that a call downloads. -/
def download? (f : Fetcher) (c : Call) : Option (List Char) :=
  if c.Requests f then c.before.nextAnswer.body? else none

/-- Whether a call fails to fetch the specification. -/
def Fails (c : Call) : Prop := ∃ url cause, c.outcome = .error (.fetch url cause)

/-- What holds of a call. -/
structure Regular (f : Fetcher) (c : Call) : Prop where
  /-- There is one request if it is asked for a fresh copy or there is no cache file, else none. -/
  requests : c.after.requests =
    c.before.requests ++ if c.Requests f then [⟨f.url, f.timeout⟩] else []
  /-- The request takes the next answer. -/
  answers : c.after.answers = c.before.answers.drop (if c.Requests f then 1 else 0)
  /-- A session opened for the request is closed, a session of the caller is not. -/
  closed : c.after.closedSessions =
    c.before.closedSessions + if c.Requests f ∧ f.session = .opened then 1 else 0
  /-- It fails if its request does. -/
  fails : c.Fails ↔ c.Requests f ∧ c.before.nextAnswer.body? = none
  /-- If it fails, every file and every directory is as before. -/
  unchanged : c.Fails → c.after.files = c.before.files
  /-- It returns the text that its request brings. -/
  returns : ∀ text ∈ c.download? f, c.outcome = .ok text
  /-- Without a request it reads the cache. -/
  reads : ¬ c.Requests f →
    c.outcome = (c.before.files.readText f.cachePath).mapError .file

end Call

open Call

/-! ### Single calls -/

theorem Call.download?_of_requests (h : c.Requests f) :
    c.download? f = c.before.nextAnswer.body? := if_pos h

theorem Call.download?_of_not_requests (h : ¬ c.Requests f) : c.download? f = none := if_neg h

theorem regular_of_ends (h : FetchEnds f c.refresh c.before c.outcome c.after)
    (hsaves : ∀ text ∈ c.download? f, ∃ files, c.before.files.Saves f.cachePath text files) :
    c.Regular f := by
  by_cases hr : c.Requests f
  case neg =>
    have hdownload := download?_of_not_requests hr
    obtain ⟨refresh, w, outcome, w'⟩ := c
    dsimp only at h
    cases h with
    | @read _ rs hno hread =>
      refine ⟨by simp [hr], by simp [hr], by simp [hr], ?_, fun _ => rfl, by simp [hdownload],
        fun _ => hread⟩
      simp only [hr, false_and, iff_false]
      rintro ⟨url, cause, hfetch⟩
      obtain ⟨_, -, hcause⟩ := mapError_eq_error_iff.1 (hread.symm.trans hfetch)
      cases hcause
    | failed hyes => exact absurd hyes hr
    | stored hyes => exact absurd hyes hr
    | unstored hyes => exact absurd hyes hr
  case pos =>
    have hdownload := download?_of_requests hr
    obtain ⟨refresh, w, outcome, w'⟩ := c
    dsimp only at h
    cases h with
    | read hno => exact absurd hr hno
    | failed _ hanswer =>
      have hbody := Answer.text_eq_error hanswer
      refine ⟨by simp [hr], by simp [hr], by simp [hr], ?_, fun _ => rfl,
        by simp [hdownload, hbody], fun hno => absurd hr hno⟩
      exact iff_of_true ⟨_, _, rfl⟩ ⟨hr, hbody⟩
    | stored _ hanswer _ =>
      refine ⟨by simp [hr], by simp [hr], by simp [hr], by simp [Call.Fails, hanswer], ?_,
        by simp [hdownload, hanswer], fun hno => absurd hr hno⟩
      rintro ⟨url, cause, hfetch⟩
      cases hfetch
    | @unstored text _ _ _ hanswer hnone =>
      obtain ⟨saved, hsaved⟩ := hsaves text (hdownload.trans hanswer)
      exact absurd hsaved (hnone saved)

/-- A call that downloads nothing leaves the files as they are. -/
theorem files_of_download?_none (h : FetchEnds f c.refresh c.before c.outcome c.after)
    (hnone : c.download? f = none) : c.after.files = c.before.files := by
  have hbody : c.Requests f → c.before.nextAnswer.body? = none := fun hr =>
    (download?_of_requests hr).symm.trans hnone
  obtain ⟨refresh, w, outcome, w'⟩ := c
  dsimp only at h
  cases h with
  | read => rfl
  | failed => rfl
  | stored hr hanswer => cases (hbody hr).symm.trans hanswer
  | unstored hr hanswer => cases (hbody hr).symm.trans hanswer

/-- What a call downloads is in the cache after it, if it can be saved. -/
theorem entryAt_of_download? (h : FetchEnds f c.refresh c.before c.outcome c.after)
    (hdownload : c.download? f = some text)
    (hsaves : ∃ files, c.before.files.Saves f.cachePath text files) :
    c.after.files.entryAt f.cachePath = .ok (.file (Files.encode text)) := by
  have hr : c.Requests f := by
    by_contra hno
    cases (download?_of_not_requests hno).symm.trans hdownload
  rw [download?_of_requests hr] at hdownload
  obtain ⟨refresh, w, outcome, w'⟩ := c
  dsimp only at h
  cases h with
  | read hno => exact absurd hr hno
  | failed _ hanswer => cases (Answer.text_eq_error hanswer).symm.trans hdownload
  | stored _ hanswer hstored =>
    cases hanswer.symm.trans hdownload
    exact hstored.entryAt
  | unstored _ hanswer hnone =>
    cases hanswer.symm.trans hdownload
    obtain ⟨files, hfiles⟩ := hsaves
    exact absurd hfiles (hnone files)

/-! ### Sequences of calls -/

/-- The text of the last download among some calls. -/
def lastDownload? (f : Fetcher) (cs : List Call) : Option (List Char) :=
  (cs.filterMap (·.download? f)).getLast?

/-- The files after some calls: with the last download in the cache, and as they were if there was
none. -/
def CacheAfter (f : Fetcher) (files : Files) (cs : List Call) (files' : Files) : Prop :=
  match f.lastDownload? cs with
  | some text => files'.entryAt f.cachePath = .ok (.file (Files.encode text))
  | none => files' = files

theorem lastDownload?_cons (c : Call) (cs : List Call) :
    f.lastDownload? (c :: cs) = (f.lastDownload? cs).or (c.download? f) := by
  rw [lastDownload?, lastDownload?, List.filterMap_cons]
  cases c.download? f with
  | none => simp
  | some text =>
    rw [List.getLast?_cons]
    cases (cs.filterMap (·.download? f)).getLast? <;> rfl

/-- One more call before some others. -/
theorem CacheAfter.cons {files' : Files} {cs : List Call}
    (hends : FetchEnds f c.refresh c.before c.outcome c.after)
    (hsaves : ∀ text ∈ c.download? f, ∃ files, c.before.files.Saves f.cachePath text files)
    (h : f.CacheAfter c.after.files cs files') : f.CacheAfter c.before.files (c :: cs) files' := by
  unfold CacheAfter at h ⊢
  rw [lastDownload?_cons]
  cases hlast : f.lastDownload? cs with
  | some text =>
    rw [hlast] at h
    exact h
  | none =>
    rw [hlast] at h
    dsimp only at h
    rw [h, Option.none_or]
    cases hdownload : c.download? f with
    | none => exact files_of_download?_none hends hdownload
    | some text => exact entryAt_of_download? hends hdownload (hsaves text hdownload)

theorem cacheAfter_calls (h : f.calls w flags = earlier ++ c :: later)
    (hsaves : ∀ c ∈ f.calls w flags, ∀ text ∈ c.download? f,
      ∃ files, c.before.files.Saves f.cachePath text files) :
    f.CacheAfter w.files (earlier ++ [c]) c.after.files := by
  -- on the calls before `c`; the rest of the sequence starts where the first of them ends
  induction earlier generalizing w flags with
  | nil =>
    rw [h] at hsaves
    obtain ⟨rfl, hends, -⟩ := calls_eq_cons h
    exact CacheAfter.cons hends (hsaves c List.mem_cons_self) rfl
  | cons d earlier ih =>
    rw [h] at hsaves
    obtain ⟨rfl, hends, rest, hrest⟩ := calls_eq_cons h
    refine .cons hends (hsaves d List.mem_cons_self) (ih hrest fun c hc => ?_)
    exact hsaves c (List.mem_cons_of_mem d (hrest ▸ hc))

/-- In a sequence of calls whose downloads can be saved, every call is regular, and after every call the
cache holds the text of the last download so far, or all files are as they were if there was none. -/
theorem calls_hold (f : Fetcher) (w : Workspace) (flags : List Bool)
    (hsaves : ∀ c ∈ f.calls w flags, ∀ text ∈ c.download? f,
      ∃ files, c.before.files.Saves f.cachePath text files) :
    (∀ c ∈ f.calls w flags, c.Regular f) ∧
      ∀ earlier c later, f.calls w flags = earlier ++ c :: later →
        f.CacheAfter w.files (earlier ++ [c]) c.after.files := by
  refine ⟨fun c hc => regular_of_ends (ends_of_mem hc) (hsaves c hc), ?_⟩
  intro earlier c later h
  exact cacheAfter_calls h hsaves

/-- A fetcher whose cache is in a directory that has to be made. -/
def sampleFetcher : Fetcher := { url := ['u'], cachePath := ⟨.current, [['d'], ['c']]⟩ }

/-- No files at all, and answers of every kind. -/
def mixedWorkspace : Workspace :=
  { files := ⟨[], []⟩
    answers := [.failure [], .response 200 [] ['a'], .response 503 [] ['x'], .response 200 [] ['b']] }

/-- A failure, a download, a reading, a failure to refresh and a refresh. -/
def mixedCalls : List Call := sampleFetcher.calls mixedWorkspace [false, false, false, true, true]

theorem calls_hold_mixed :
    (∀ c ∈ mixedCalls, ∀ text ∈ c.download? sampleFetcher,
        ∃ files, c.before.files.Saves sampleFetcher.cachePath text files) ∧
      (∀ c ∈ mixedCalls, c.Regular sampleFetcher) ∧
      ∀ earlier c, mixedCalls = earlier ++ [c] →
        c.after.files.entryAt sampleFetcher.cachePath = .ok (.file (Files.encode ['b'])) := by
  have hsaves : ∀ c ∈ mixedCalls, ∀ text ∈ c.download? sampleFetcher,
      ∃ files, c.before.files.Saves sampleFetcher.cachePath text files := by decide +kernel
  have hlast : sampleFetcher.lastDownload? mixedCalls = some ['b'] := by decide +kernel
  obtain ⟨hregular, hcache⟩ := calls_hold sampleFetcher mixedWorkspace _ hsaves
  refine ⟨hsaves, hregular, fun earlier c h => ?_⟩
  have hc := hcache earlier c [] h
  rw [CacheAfter, ← h, hlast] at hc
  exact hc

/-! ### Reading what was downloaded -/

theorem before_of_lastDownload?_none (h : f.calls w flags = earlier ++ c :: later)
    (hnone : f.lastDownload? earlier = none) : c.before.files = w.files := by
  induction earlier generalizing w flags with
  | nil =>
    obtain ⟨rfl, -⟩ := calls_eq_cons h
    rfl
  | cons d earlier ih =>
    obtain ⟨rfl, hends, rest, hrest⟩ := calls_eq_cons h
    rw [lastDownload?_cons, Option.or_eq_none_iff] at hnone
    exact (ih hrest hnone.1).trans (files_of_download?_none hends hnone.2)

/-- A call that finds no cache file returns the text of the answer, and as long as nothing else is
downloaded, every later call that does not refresh returns it with all lines ended by line feeds. That
is the same text just if it holds no carriage return. -/
theorem fetch_again (f : Fetcher) (w : Workspace) {text : List Char} {files : Files}
    (habsent : w.files.exists? f.cachePath = .ok false)
    (hanswer : w.nextAnswer.body? = some text) (hsaves : w.files.Saves f.cachePath text files) :
    ∃ w', (f.fetch false).run w = (.ok text, w') ∧
      (∀ flags earlier c later, f.calls w' flags = earlier ++ c :: later →
        f.lastDownload? earlier = none → c.refresh = false →
          c.outcome = .ok (Text.unifyNewlines text)) ∧
      (Text.unifyNewlines text = text ↔ '\r' ∉ text) := by
  have hends := f.fetch_ends false w
  generalize (f.fetch false).run w = result at hends ⊢
  obtain ⟨outcome, w'⟩ := result
  cases hends with
  | read hno => exact absurd (.inr habsent) hno
  | failed _ hfails => cases (Answer.text_eq_error hfails).symm.trans hanswer
  | unstored _ hbody hnone =>
    cases hbody.symm.trans hanswer
    exact absurd hsaves (hnone files)
  | @stored _ cached _ hbody hcached =>
    cases hbody.symm.trans hanswer
    refine ⟨_, rfl, ?_, Text.unifyNewlines_eq_self_iff⟩
    intro flags earlier c later h hnone hrefresh
    have hfiles : c.before.files = cached := before_of_lastDownload?_none h hnone
    obtain ⟨hexists, hread⟩ := Files.readText_of_entryAt hcached.entryAt
    have hno : ¬ c.Requests f := by
      rw [Call.Requests, Requests, hfiles, hexists, hrefresh]
      simp
    have hregular : c.Regular f := by
      refine regular_of_ends (ends_of_mem (by rw [h]; simp)) fun text htext => ?_
      rw [download?_of_not_requests hno] at htext
      cases htext
    rw [hregular.reads hno, hfiles, hread]
    rfl

/-- No files at all, and an answer of two lines that carriage returns end. -/
def returnsWorkspace : Workspace :=
  { files := ⟨[], []⟩, answers := [.response 200 [] ['a', '\r', '\n', 'b', '\r']] }

theorem fetch_again_returns :
    returnsWorkspace.files.exists? sampleFetcher.cachePath = .ok false ∧
      returnsWorkspace.nextAnswer.body? = some ['a', '\r', '\n', 'b', '\r'] ∧
      (∃ files,
        returnsWorkspace.files.Saves sampleFetcher.cachePath ['a', '\r', '\n', 'b', '\r'] files) ∧
      ∃ w', (sampleFetcher.fetch false).run returnsWorkspace =
          (.ok ['a', '\r', '\n', 'b', '\r'], w') ∧
        ((sampleFetcher.fetch false).run w').1 = .ok ['a', '\n', 'b', '\n'] := by
  have habsent : returnsWorkspace.files.exists? sampleFetcher.cachePath = .ok false := by
    decide +kernel
  have hsaves : ∃ files, returnsWorkspace.files.Saves sampleFetcher.cachePath
      ['a', '\r', '\n', 'b', '\r'] files := by decide +kernel
  obtain ⟨files, hfiles⟩ := hsaves
  obtain ⟨w', hfirst, hlater, -⟩ := fetch_again sampleFetcher returnsWorkspace habsent rfl hfiles
  exact ⟨habsent, rfl, ⟨files, hfiles⟩, w', hfirst, hlater [false] [] _ [] rfl rfl rfl⟩

end SpecGrammar.Fetcher
