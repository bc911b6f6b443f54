import SpecGrammar.Proofs.Notation.Layout

/-!
# Lists of terminals

* `Token.literal`: the token that a literal is written as;
* `parseTerminals_eq_ok_iff`: literals are read from exactly the texts that are laid out as their tokens.
-/

namespace SpecGrammar.Notation

/-- A literal between backticks. -/
def Token.literal (text : List Char) : Token := ⟨.terminal, '`' :: text ++ ['`']⟩

variable {s text : List Char} {texts texts' : List (List Char)} {t : Token} {ts : List Token}

/-! ### Single tokens -/

theorem lexeme_literal (h : Literal text) : Lexeme (Token.literal text).kind (Token.literal text).text :=
  .terminal h

theorem read?_literal (texts : List (List Char)) (text : List Char) :
    terminalReader.read? texts (.literal text) = some (texts ++ [text]) := by
  simp [terminalReader, Token.literal, Token.symbol?]

/-- Only literals are read. -/
theorem exists_literal_of_read? (hl : Lexeme t.kind t.text)
    (h : terminalReader.read? texts t = some texts') :
    ∃ text, Literal text ∧ t = .literal text ∧ texts' = texts ++ [text] := by
  obtain ⟨kind, written⟩ := t
  have hkind : kind = .terminal := by
    by_contra hne
    cases kind <;> first | exact hne rfl | cases h
  subst hkind
  cases hl with
  | @terminal text htext =>
    have hread := read?_literal texts text
    exact ⟨text, htext, rfl, (Option.some.inj (hread.symm.trans h)).symm⟩
  | word hword => cases hword

/-- Wherever a list of terminals goes on, the token of a literal is found. -/
theorem first?_literal (h : Literal text) (texts : List (List Char)) (r : List Char) :
    first? (terminalReader.kinds texts) ((Token.literal text).text ++ r) = some (.literal text) := by
  have hmem : Kind.terminal ∈ terminalReader.kinds texts := by
    unfold terminalReader
    dsimp only
    split <;> decide
  refine first?_complete hmem (match?_complete (lexeme_literal h) nofun fun _ _ => rfl) ?_
  -- no other kind of token begins with a backtick
  intro kind _ hne
  have hleads : '`' ∈ kind.leads → kind = .terminal := by
    cases kind <;> decide
  cases hm : kind.match? ((Token.literal text).text ++ r) with
  | none => rfl
  | some found => exact absurd (hleads (mem_leads_of_match? hm)) hne

/-! ### Lists -/

theorem reads?_literals_of_eq_some (hl : ∀ t ∈ ts, Lexeme t.kind t.text)
    (h : terminalReader.reads? texts ts = some texts') :
    ∃ more, texts' = texts ++ more ∧ ts = more.map Token.literal ∧ ∀ text ∈ more, Literal text := by
  induction ts generalizing texts with
  | nil =>
    obtain rfl := Option.some.inj h
    exact ⟨[], by simp⟩
  | cons t ts ih =>
    rw [Reader.reads?_cons, Option.bind_eq_some_iff] at h
    obtain ⟨middle, hread, h⟩ := h
    obtain ⟨text, htext, rfl, rfl⟩ := exists_literal_of_read? (hl _ (by simp)) hread
    obtain ⟨more, rfl, rfl, hmore⟩ := ih (fun t ht => hl t (List.mem_cons_of_mem _ ht)) h
    exact ⟨text :: more, by simp, rfl, List.forall_mem_cons.2 ⟨htext, hmore⟩⟩

theorem run_literals (hl : ∀ text ∈ texts, Literal text) (h : Laid (texts.map Token.literal) s)
    (before : List (List Char)) (last offset : Nat) :
    ∃ last', terminalReader.run before last offset s = .ok (before ++ texts, last') := by
  induction texts generalizing s before last offset with
  | nil =>
    cases h with
    | nil hg => exact ⟨last, by rw [Reader.run_of_gap hg, List.append_nil]⟩
  | cons text texts ih =>
    obtain ⟨htext, hrest⟩ := List.forall_mem_cons.1 hl
    rw [List.map_cons] at h
    cases h with
    | @cons g s _ _ hg _ h =>
      obtain ⟨last', hrun⟩ := ih hrest h (before ++ [text]) (offset + g.length)
        (offset + g.length + (Token.literal text).text.length)
      refine ⟨last', ?_⟩
      rw [List.append_assoc, Reader.run_gap hg, Reader.run_token (lexeme_literal htext)
        (first?_literal htext before s) (read?_literal before text), hrun, List.append_assoc,
        List.singleton_append]

/-- Literals are read from exactly the texts that are laid out as one or more of them. -/
theorem parseTerminals_eq_ok_iff :
    parseTerminals s = .ok texts ↔
      texts ≠ [] ∧ (∀ text ∈ texts, Literal text) ∧ Laid (texts.map Token.literal) s := by
  unfold parseTerminals Reader.readAll
  constructor
  · intro h
    cases hrun : terminalReader.run [] 0 0 s with
    | error e =>
      rw [hrun] at h
      cases h
    | ok state =>
      obtain ⟨read, last⟩ := state
      obtain ⟨ts, hlaid, hreads, hl⟩ := Reader.laid_of_run hrun
      obtain ⟨more, rfl, rfl, hmore⟩ := reads?_literals_of_eq_some hl hreads
      rw [hrun] at h
      simp only [bind, Except.bind] at h
      split at h
      · cases h
      · next hne =>
        obtain rfl := Except.ok.inj h
        exact ⟨hne, hmore, hlaid⟩
  · rintro ⟨hne, hl, hlaid⟩
    obtain ⟨last, hrun⟩ := run_literals hl hlaid [] 0 0
    rw [hrun]
    simp [bind, Except.bind, hne]

end SpecGrammar.Notation
