import SpecGrammar.Notation.Alternative
import SpecGrammar.Proofs.Notation.Lexeme

/-!
# Texts laid out as tokens

* `Laid ts s`: the text is the tokens in their order, with gaps before, between and after them;
* `Reader.laid_of_run`: what a reader gets through is so laid out, each token a lexeme, and it ends in
  the state to which the tokens lead one by one;
* `Reader.run_token`: a reader goes on with the token that stands next if its state looks for no other
  kind of token there.
-/

namespace SpecGrammar.Notation

/-- Nothing but what separates tokens. -/
def Gap (s : List Char) : Prop := ∀ c ∈ s, isGap c = true

/-- The text is the tokens in order with gaps around them, and none of them runs on into the text after
it. -/
inductive Laid : List Token → List Char → Prop
  | nil {g : List Char} (hg : Gap g) : Laid [] g
  | cons {g s : List Char} {t : Token} {ts : List Token} (hg : Gap g)
      (hs : ∀ c ∈ s.head?, t.runsOn c = false) (h : Laid ts s) : Laid (t :: ts) (g ++ t.text ++ s)

variable {s g : List Char} {t : Token} {ts : List Token} {accepted : List Kind}

theorem Laid.gap {c : Char} (hc : isGap c = true) (h : Laid ts s) : Laid ts (c :: s) := by
  cases h with
  | nil hg => exact .nil (by simpa [Gap] using ⟨hc, hg⟩)
  | @cons g s t ts hg hs h =>
    have hg' : Gap (c :: g) := by simpa [Gap] using ⟨hc, hg⟩
    exact .cons hg' hs h

theorem Laid.gaps (hg : Gap g) (h : Laid ts s) : Laid ts (g ++ s) := by
  induction g with
  | nil => exact h
  | cons c g ih =>
    obtain ⟨hc, hg⟩ := List.forall_mem_cons.1 hg
    exact (ih hg).gap hc

/-- Only words run on into a space. -/
theorem Token.runsOn_space (h : t.kind ≠ .prose) : t.runsOn ' ' = false := by
  obtain ⟨kind, text⟩ := t
  cases kind
  case prose => exact absurd rfl h
  all_goals simp [Token.runsOn] <;> decide

/-- Two texts with a space between them are laid out as the tokens of both. -/
theorem Laid.append {us : List Token} {u : List Char} (h : Laid ts s) (hu : Laid us u)
    (hwordless : ∀ t ∈ ts, t.kind ≠ .prose) : Laid (ts ++ us) (s ++ ' ' :: u) := by
  have hspaced : Laid us (' ' :: u) := hu.gap (by decide)
  induction h with
  | nil hg => exact hspaced.gaps hg
  | @cons g s t ts hg hs _ ih =>
    obtain ⟨ht, hts⟩ := List.forall_mem_cons.1 hwordless
    rw [List.cons_append, List.append_assoc]
    refine .cons hg ?_ (ih hts)
    intro c hc
    cases s with
    | nil =>
      obtain rfl : ' ' = c := by simpa using hc
      exact Token.runsOn_space ht
    | cons d s => exact hs c hc

/-! ### The first token of an accepted kind -/

theorem first?_sound (h : first? accepted s = some t) :
    t.kind ∈ accepted ∧ t.kind.match? s = some t.text := by
  obtain ⟨kind, hk, hm⟩ := List.exists_of_findSome?_eq_some h
  obtain ⟨text, htext, rfl⟩ := Option.map_eq_some_iff.1 hm
  rw [List.mem_filter, List.contains_iff_mem] at hk
  exact ⟨hk.2, htext⟩

theorem Kind.mem_all (kind : Kind) : kind ∈ Kind.all := by
  cases kind <;> decide

/-- A token is found if no other accepted kind has one in its place. -/
theorem first?_complete (hk : t.kind ∈ accepted) (hm : t.kind.match? s = some t.text)
    (hother : ∀ kind ∈ accepted, kind ≠ t.kind → kind.match? s = none) :
    first? accepted s = some t := by
  cases h : first? accepted s with
  | none =>
    have := List.findSome?_eq_none_iff.1 h t.kind (by simp [Kind.mem_all, hk])
    simp [hm] at this
  | some u =>
    obtain ⟨hu, hmu⟩ := first?_sound h
    by_cases heq : u.kind = t.kind
    · rw [heq, hm] at hmu
      obtain ⟨k, text⟩ := t
      obtain ⟨k', text'⟩ := u
      simp_all
    · rw [hother u.kind hu heq] at hmu
      exact absurd hmu (by simp)

/-! ### Readers -/

section Reader

variable {σ : Type} {reader : Reader σ} {state next state' : σ} {last offset last' : Nat}

/-- The state to which tokens lead one by one. -/
def Reader.reads? (reader : Reader σ) (state : σ) (ts : List Token) : Option σ :=
  ts.foldlM reader.read? state

theorem Reader.reads?_cons (reader : Reader σ) (state : σ) (t : Token) (ts : List Token) :
    reader.reads? state (t :: ts) = (reader.read? state t).bind (reader.reads? · ts) :=
  List.foldlM_cons

/-- What a reader gets through is laid out as tokens that lead to the state it ends in. -/
theorem Reader.laid_of_run (h : reader.run state last offset s = .ok (state', last')) :
    ∃ ts, Laid ts s ∧ reader.reads? state ts = some state' ∧ ∀ t ∈ ts, Lexeme t.kind t.text := by
  fun_induction Reader.run reader state last offset s with
  | case1 state last offset =>
    simp only [Except.ok.injEq, Prod.mk.injEq] at h
    exact ⟨[], .nil (by simp [Gap]), by rw [h.1]; rfl, by simp⟩
  | case2 state last offset c r hc ih =>
    obtain ⟨ts, hl, hr, hlex⟩ := ih h
    exact ⟨ts, hl.gap hc, hr, hlex⟩
  | case3 state last offset c r hc token hfirst next hread ih =>
    obtain ⟨ts, hl, hr, hlex⟩ := ih h
    obtain ⟨-, hm⟩ := first?_sound hfirst
    obtain ⟨htoken, rest, hs, hstop⟩ := match?_sound hm
    obtain ⟨d, q, htext⟩ := List.exists_cons_of_ne_nil htoken.ne_nil
    have hrest : r.drop (token.text.length - 1) = rest := by
      rw [htext, List.cons_append] at hs
      rw [(List.cons.inj hs).2, htext, List.length_cons, Nat.add_sub_cancel, List.drop_left]
    rw [hrest] at hl
    refine ⟨token :: ts, ?_, ?_, ?_⟩
    · rw [hs]
      exact .cons (g := []) (by simp [Gap]) hstop hl
    · rw [Reader.reads?_cons, hread, Option.bind_some, hr]
    · intro t ht
      rcases List.mem_cons.1 ht with rfl | ht
      · exact htoken
      · exact hlex t ht
  | case4 => exact absurd h (by simp)
  | case5 => exact absurd h (by simp)
  | case6 => exact absurd h (by simp)

/-- Gaps do not matter to a reader. -/
theorem Reader.run_gap (hg : Gap g) (s : List Char) :
    reader.run state last offset (g ++ s) = reader.run state last (offset + g.length) s := by
  induction g generalizing offset with
  | nil => rfl
  | cons c g ih =>
    rw [List.cons_append, Reader.run, if_pos (hg c (by simp)), ih fun d hd => hg d (by simp [hd]),
      List.length_cons, Nat.add_assoc, Nat.add_comm 1]

theorem Reader.run_of_gap (hg : Gap g) : reader.run state last offset g = .ok (state, last) := by
  have hskip : reader.run state last offset (g ++ []) =
      reader.run state last (offset + g.length) [] := Reader.run_gap hg []
  rwa [List.append_nil, Reader.run] at hskip

/-- A reader goes on with the token that it finds. -/
theorem Reader.run_token (hl : Lexeme t.kind t.text)
    (hfirst : first? (reader.kinds state) (t.text ++ s) = some t)
    (hread : reader.read? state t = some next) :
    reader.run state last offset (t.text ++ s) =
      reader.run next offset (offset + t.text.length) s := by
  obtain ⟨c, q, htext, hc⟩ := hl.lead
  have hgap : ¬ isGap c = true := by rw [isGap_of_mem_leads hc]; exact Bool.false_ne_true
  have hs : t.text ++ s = c :: (q ++ s) := by rw [htext, List.cons_append]
  have hdrop : (q ++ s).drop (t.text.length - 1) = s := by
    rw [htext, List.length_cons, Nat.add_sub_cancel, List.drop_left]
  rw [hs] at hfirst
  rw [hs, Reader.run, if_neg hgap, hfirst]
  simp only [hread, hdrop]

end Reader

end SpecGrammar.Notation
