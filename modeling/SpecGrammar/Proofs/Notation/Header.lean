import SpecGrammar.Notation.Header
import SpecGrammar.Proofs.Notation.Lexeme

/-!
# How headers are written

* `Header.Written`: the lines that a header may be written as, said without looking at how they are read;
* `Header.parse?_eq_some_iff`: a line is read as a header just if it is one of the ways to write it, so
  there is no other way to read it.
-/

namespace SpecGrammar.Notation

open Text (Blank)

/-- A part between brackets that holds no closing bracket, which may be left out. -/
inductive Bracketed : List Char → Option (List Char) → Prop
  | absent : Bracketed [] none
  | present {inner : List Char} (h : ']' ∉ inner) :
      Bracketed ('[' :: inner ++ [']']) (some ('[' :: inner ++ [']']))

/-- What may come after the colons: white space, or a text on one line that is set off by white space
before it. -/
inductive Remainder : List Char → Option (List Char) → Prop
  | absent {s : List Char} (h : Blank s) : Remainder s none
  | present {a s b : List Char} (ha : Blank a) (hne : a ≠ []) (hb : Blank b) (hs : s ≠ [])
      (htrim : Text.trim s = s) (hline : '\n' ∉ s) : Remainder (a ++ s ++ b) (some s)

/-- A line that a header is written as. -/
inductive Header.Written : Header → List Char → Prop
  | mk {c : Char} {r brackets gap tail : List Char} {bracketed rest : Option (List Char)} {colons : Nat}
      (hc : Header.isNameStart c = true) (hr : ∀ d ∈ r, Text.isWord d = true)
      (hb : Bracketed brackets bracketed) (hgap : Blank gap) (hcolons : 1 ≤ colons ∧ colons ≤ 3)
      (ht : Remainder tail rest) :
      Header.Written ⟨c :: r, bracketed, colons, rest⟩
        (c :: r ++ (brackets ++ (gap ++ (List.replicate colons ':' ++ tail))))

variable {s tail after line : List Char} {bracketed rest : Option (List Char)} {header : Header}

/-! ### The rest -/

theorem Remainder.isBlank_head (h : Remainder tail rest) :
    ∀ c ∈ tail.head?, Text.isBlank c = true := by
  cases h with
  | absent h => exact fun c hc => h c (List.mem_of_mem_head? hc)
  | @present a s b ha hne =>
    obtain ⟨d, a, rfl⟩ := List.exists_cons_of_ne_nil hne
    intro c hc
    obtain rfl : d = c := by simpa using hc
    exact ha d (by simp)

theorem Remainder.head_ne_colon (h : Remainder tail rest) :
    ∀ c ∈ tail.head?, (c == ':') = false := by
  intro c hc
  have hblank := h.isBlank_head c hc
  simp only [beq_eq_false_iff_ne]
  rintro rfl
  exact absurd hblank (by decide)

theorem Header.rest?_eq_some_iff : Header.rest? s = some rest ↔ Remainder s rest := by
  constructor
  · intro h
    obtain ⟨a, b, ha, hb, hs⟩ := Text.exists_eq_trim_padded s
    unfold Header.rest? at h
    split at h
    · next hnil =>
      cases h
      exact .absent (Text.blank_of_trim hnil)
    · next hne =>
      split at h
      · next hcond =>
        cases h
        simp only [Bool.and_eq_true, Bool.not_eq_true', List.contains_eq_mem,
          decide_eq_false_iff_not] at hcond
        rw [hs, Text.trim_padded ha hb, Text.trim_trim]
        refine .present ha ?_ hb hne (Text.trim_trim s) hcond.2
        -- the trimmed text does not begin with white space, the whole one does
        rintro rfl
        obtain ⟨c, r, htrim⟩ := List.exists_cons_of_ne_nil hne
        have hc : Text.isBlank c = false :=
          Text.isBlank_head_of_trim (Text.trim_trim s) c (by rw [htrim]; rfl)
        rw [hs, htrim] at hcond
        simp [hc] at hcond
      · cases h
  · intro h
    unfold Header.rest?
    cases h with
    | absent h => rw [Text.trim_of_blank h]
    | @present a t b ha hne hb ht htrim hline =>
      rw [Text.trim_padded ha hb, htrim]
      obtain ⟨d, a, rfl⟩ := List.exists_cons_of_ne_nil hne
      have hd : Text.isBlank d = true := ha d (by simp)
      split
      · exact absurd rfl ht
      · simp [hd, hline]

/-! ### The bracketed part -/

theorem Header.splitBracketed?_of_bracketed (h : Bracketed s bracketed)
    (hafter : bracketed = none → ∀ c ∈ after.head?, c ≠ '[') :
    Header.splitBracketed? (s ++ after) = some (bracketed, after) := by
  cases h with
  | absent =>
    have hne := hafter rfl
    rw [List.nil_append]
    unfold Header.splitBracketed?
    split
    · exact absurd rfl (hne '[' rfl)
    · rfl
  | @present inner h =>
    have hinner : (inner ++ ']' :: after).takeWhile (· != ']') = inner := by
      refine Text.takeWhile_append_of_head (fun c hc => ?_) (by simp)
      simp only [bne_iff_ne]
      rintro rfl
      exact h hc
    simp [Header.splitBracketed?, hinner]

theorem Header.bracketed_of_splitBracketed? (h : Header.splitBracketed? s = some (bracketed, after)) :
    ∃ brackets, Bracketed brackets bracketed ∧ s = brackets ++ after := by
  unfold Header.splitBracketed? at h
  split at h
  · next r =>
    obtain ⟨hr, hinner, hclosing⟩ := takeWhile_append_drop (· != ']') r
    dsimp only at h
    split at h
    · cases h
    · next c after hdrop =>
      cases h
      rw [hdrop] at hr hclosing
      obtain rfl : c = ']' := by simpa using hclosing c rfl
      refine ⟨_, .present fun hmem => ?_, by simpa using hr⟩
      simpa using hinner ']' hmem
  · cases h
    exact ⟨[], .absent, rfl⟩

/-! ### Headers -/

theorem Header.written_of_parse? (h : Header.parse? line = some header) : header.Written line := by
  unfold Header.parse? at h
  split at h
  · cases h
  next c r =>
    split at h
    case isFalse => cases h
    case isTrue hc =>
      simp only [Option.bind_eq_bind, Option.bind_eq_some_iff, Prod.exists] at h
      obtain ⟨bracketed, after, hsplit, h⟩ := h
      split at h
      case isFalse => cases h
      case isTrue hcolons =>
        obtain ⟨rest, hrest, h⟩ := Option.bind_eq_some_iff.1 h
        cases h
        obtain ⟨brackets, hbrackets, hafter⟩ := bracketed_of_splitBracketed? hsplit
        obtain ⟨gap, hgap, hgapped⟩ := Text.exists_eq_trimStart after
        obtain ⟨hrun, hall, -⟩ := takeWhile_append_drop (· == ':') (Text.trimStart after)
        have hreplicate : (Text.trimStart after).takeWhile (· == ':') =
            List.replicate ((Text.trimStart after).takeWhile (· == ':')).length ':' :=
          List.eq_replicate_iff.2 ⟨rfl, fun d hd => by simpa using hall d hd⟩
        have hline : c :: r = c :: r.takeWhile Text.isWord ++ (brackets ++ (gap ++
            (List.replicate ((Text.trimStart after).takeWhile (· == ':')).length ':' ++
              (Text.trimStart after).drop
                ((Text.trimStart after).takeWhile (· == ':')).length))) := by
          rw [← hreplicate, ← hrun, ← hgapped, ← hafter, List.cons_append,
            List.takeWhile_append_dropWhile]
        rw [hline]
        refine .mk hc (fun d hd => List.mem_takeWhile_imp hd) hbrackets hgap ?_
          (rest?_eq_some_iff.1 hrest)
        simpa using hcolons

section Written

variable {gap brackets : List Char} {colons : Nat}

theorem head?_colons (hcolons : 1 ≤ colons) (tail : List Char) :
    (List.replicate colons ':' ++ tail).head? = some ':' := by
  obtain ⟨n, rfl⟩ := Nat.exists_eq_add_of_le' hcolons
  rfl

/-- What ends the name and the bracketed part: white space or the first colon. -/
theorem isBlank_or_colon_of_head? (hgap : Blank gap) (hcolons : 1 ≤ colons) (tail : List Char) :
    ∀ d ∈ (gap ++ (List.replicate colons ':' ++ tail)).head?, Text.isBlank d = true ∨ d = ':' := by
  intro d hd
  cases gap with
  | nil =>
    rw [List.nil_append, head?_colons hcolons] at hd
    exact .inr (Option.some.inj hd).symm
  | cons b gap =>
    obtain rfl : b = d := by simpa using hd
    exact .inl (hgap b (by simp))

/-- The name ends where the bracketed part begins, or without one where white space or a colon does. -/
theorem Bracketed.isWord_head? (hb : Bracketed brackets bracketed)
    (hs : ∀ d ∈ s.head?, Text.isBlank d = true ∨ d = ':') :
    ∀ d ∈ (brackets ++ s).head?, Text.isWord d = false := by
  intro d hd
  cases hb with
  | absent =>
    rcases hs d hd with hblank | rfl
    · by_contra hd'
      rw [Text.isBlank_of_isWord (by simpa using hd')] at hblank
      cases hblank
    · decide
  | present =>
    obtain rfl : '[' = d := by simpa using hd
    decide

theorem trimStart_gap (hgap : Blank gap) (hcolons : 1 ≤ colons) :
    Text.trimStart (gap ++ (List.replicate colons ':' ++ tail)) =
      List.replicate colons ':' ++ tail := by
  refine Text.dropWhile_append_of_head hgap fun d hd => ?_
  rw [head?_colons hcolons] at hd
  obtain rfl := Option.some.inj hd
  decide

theorem Remainder.takeWhile_colons (ht : Remainder tail rest) :
    (List.replicate colons ':' ++ tail).takeWhile (· == ':') = List.replicate colons ':' :=
  Text.takeWhile_append_of_head (fun d hd => by simpa using (List.mem_replicate.1 hd).2)
    ht.head_ne_colon

end Written

theorem Header.parse?_of_written (h : header.Written line) : Header.parse? line = some header := by
  cases h with
  | @mk c r brackets gap tail bracketed rest colons hc hr hb hgap hcolons ht =>
    have hgapped := isBlank_or_colon_of_head? hgap hcolons.1 tail
    have hword := hb.isWord_head? hgapped
    have hbracket : ∀ d ∈ (gap ++ (List.replicate colons ':' ++ tail)).head?, d ≠ '[' := by
      rintro d hd rfl
      exact absurd (hgapped '[' hd) (by decide)
    have hdrop : (List.replicate colons ':' ++ tail).drop colons = tail :=
      List.drop_left' List.length_replicate
    rw [List.cons_append]
    unfold Header.parse?
    simp only [hc, if_true, Text.dropWhile_append_of_head hr hword,
      Text.takeWhile_append_of_head hr hword, splitBracketed?_of_bracketed hb fun _ => hbracket,
      Option.bind_eq_bind, Option.bind_some, trimStart_gap hgap hcolons.1, ht.takeWhile_colons,
      List.length_replicate, hdrop, rest?_eq_some_iff.2 ht, hcolons, decide_true, Bool.and_self]
    rfl

/-- Headers are read from exactly the lines that they are written as. -/
theorem Header.parse?_eq_some_iff : Header.parse? line = some header ↔ header.Written line :=
  ⟨written_of_parse?, parse?_of_written⟩

/-- The colons of a header are followed by white space if by anything. -/
theorem Header.Written.colon (h : header.Written line) :
    ∃ p q, line = p ++ ':' :: q ∧ ∀ c ∈ q.head?, Text.isBlank c = true := by
  cases h with
  | @mk c r brackets gap tail bracketed rest colons _ _ _ _ hcolons ht =>
    obtain ⟨n, rfl⟩ : ∃ n, colons = n + 1 := ⟨colons - 1, by omega⟩
    refine ⟨c :: r ++ (brackets ++ (gap ++ List.replicate n ':')), tail, ?_, ht.isBlank_head⟩
    simp [List.replicate_succ']

theorem Header.isBlank_of_isNameStart {c : Char} (h : isNameStart c = true) :
    Text.isBlank c = false := by
  have key : ∀ n ∈ Text.blankPoints, isNameStart (Char.ofNat n) = false := by decide
  by_contra hc
  have hpoint := key c.toNat (Text.toNat_mem_blankPoints (by simpa using hc))
  rw [Char.ofNat_toNat, h] at hpoint
  cases hpoint

/-- A header begins with a letter or an underscore. -/
theorem Header.Written.head (h : header.Written line) :
    ∃ c r, line = c :: r ∧ Header.isNameStart c = true := by
  cases h with
  | mk hc => exact ⟨_, _, rfl, hc⟩

end SpecGrammar.Notation
