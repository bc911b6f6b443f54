import SpecGrammar.Notation.Grammar
import SpecGrammar.Proofs.Traversal

/-!
# What becomes of the lines of a piece of grammar notation

* `snd_blocks`: the blocks stand for the lines at column zero, each with the indented lines right after
  it;
* `lines_eq_flatMap`: together they are all lines, each once and in order;
* `Block.read_iff`: what a block is read as, said as a relation between its lines and an element;
* `Orderly`: what is demanded of the lines, said of each position on its own;
* `parse_accounts`: a text is read just if its lines are orderly, and then its elements are those of
  the lines at column zero, one for each.
-/

namespace SpecGrammar.Notation

variable {lines : List Line} {line : Line}

/-! ### Lines and blocks -/

/-- The indented lines that come right after a position. -/
def linesBelow (lines : List Line) (i : Nat) : List Line :=
  (lines.drop (i + 1)).takeWhile (·.indented)

/-- Their texts. -/
def bodyAt (lines : List Line) (i : Nat) : List (List Char) :=
  (linesBelow lines i).map (·.text)

/-- The positions of the lines at column zero. -/
def heads (lines : List Line) : List (Fin lines.length) :=
  positions fun i => (lines.get i).indented = false

theorem map_heads_cons {α : Type} (line : Line) (lines : List Line)
    (f : Fin (lines.length + 1) → α) :
    (heads (line :: lines)).map f =
      (if line.indented = false then [f 0] else []) ++ (heads lines).map fun i => f i.succ := by
  have hcons : heads (line :: lines) =
      (if line.indented = false then [0] else []) ++ (heads lines).map Fin.succ :=
    positions_succ fun i : Fin (lines.length + 1) => ((line :: lines).get i).indented = false
  rw [hcons, List.map_append, List.map_map]
  split <;> rfl

theorem fst_blocks (lines : List Line) :
    (blocks lines).1 = (lines.takeWhile (·.indented)).map (·.text) := by
  induction lines with
  | nil => rfl
  | cons line lines ih =>
    rw [blocks, List.takeWhile_cons]
    cases hi : line.indented with
    | true => simp [← ih]
    | false => simp

/-- The blocks stand for the lines at column zero, in order. -/
theorem snd_blocks (lines : List Line) :
    (blocks lines).2 = (heads lines).map fun i => ⟨(lines.get i).text, bodyAt lines i⟩ := by
  induction lines with
  | nil => rfl
  | cons line lines ih =>
    have hrest : (fun i : Fin lines.length =>
        (⟨((line :: lines).get i.succ).text, bodyAt (line :: lines) i.succ⟩ : Block)) =
        fun i => ⟨(lines.get i).text, bodyAt lines i⟩ := by
      funext i
      simp [bodyAt, linesBelow]
    refine Eq.trans ?_ (map_heads_cons line lines _).symm
    rw [hrest, ← ih, blocks]
    cases hi : line.indented with
    | true => simp
    | false => simp [fst_blocks, bodyAt, linesBelow]

/-- The indented lines before the first line at column zero, and the lines at column zero each with the
indented lines right after it, are all lines in their order. -/
theorem lines_eq_flatMap (lines : List Line) :
    lines = lines.takeWhile (·.indented) ++
      (heads lines).flatMap fun i => lines.get i :: linesBelow lines i := by
  induction lines with
  | nil => rfl
  | cons line lines ih =>
    have hrest : (fun i : Fin lines.length =>
        (line :: lines).get i.succ :: linesBelow (line :: lines) i.succ) =
        fun i => lines.get i :: linesBelow lines i := by
      funext i
      simp [linesBelow]
    have hheads := map_heads_cons line lines fun i =>
      (line :: lines).get i :: linesBelow (line :: lines) i
    rw [hrest] at hheads
    refine Eq.trans ?_ (congrArg (_ ++ List.flatten ·) hheads.symm)
    rw [List.takeWhile_cons, List.flatten_append, ← List.flatMap_def]
    cases hi : line.indented with
    | true => simpa using ih
    | false => simpa [linesBelow] using ih

/-! ### Bodies -/

theorem readAlternative_eq_ok_iff {s : List Char} {a : Alternative} :
    readAlternative s = .ok a ↔ parseAlternative s = .ok a := by
  unfold readAlternative
  cases parseAlternative s <;> simp [Except.mapError]

theorem readTerminals_eq_ok_iff {s : List Char} {texts : List (List Char)} :
    readTerminals s = .ok texts ↔ parseTerminals s = .ok texts := by
  unfold readTerminals
  cases parseTerminals s <;> simp [Except.mapError]

theorem mapM_readAlternative_eq_ok_iff {body : List (List Char)} {as : List Alternative} :
    body.mapM readAlternative = .ok as ↔
      List.Forall₂ (fun s a => parseAlternative s = .ok a) body as := by
  simp only [mapM_eq_ok_iff, readAlternative_eq_ok_iff]

theorem mapM_readTerminals_eq_ok_iff {body : List (List Char)} {texts : List (List (List Char))} :
    body.mapM readTerminals = .ok texts ↔
      List.Forall₂ (fun s ts => parseTerminals s = .ok ts) body texts := by
  simp only [mapM_eq_ok_iff, readTerminals_eq_ok_iff]

/-- What the rest of a header and the indented lines below it say of the body of a production. -/
inductive HasBody (header : Header) : List (List Char) → Option Body → Prop
  | absent (h : header.rest = none) : HasBody header [] none
  | alternatives {body : List (List Char)} {as : List Alternative} (h : header.rest = none)
      (hne : body ≠ []) (hb : List.Forall₂ (fun s a => parseAlternative s = .ok a) body as) :
      HasBody header body (some (.alternatives as))
  | oneOf {body : List (List Char)} {texts : List (List (List Char))}
      (h : header.rest = some oneOfMark)
      (hb : List.Forall₂ (fun s ts => parseTerminals s = .ok ts) body texts) :
      HasBody header body (some (.oneOf texts.flatten))
  | inlineOneOf {rest : List Char} {texts : List (List Char)} (h : header.rest = some rest)
      (hmark : (oneOfMark ++ [' ']).isPrefixOf rest = true)
      (hb : parseTerminals (rest.drop oneOfMark.length) = .ok texts) :
      HasBody header [] (some (.oneOf texts))
  | inline {rest : List Char} {a : Alternative} (h : header.rest = some rest)
      (hne : rest ≠ oneOfMark) (hmark : (oneOfMark ++ [' ']).isPrefixOf rest = false)
      (hb : parseAlternative rest = .ok a) : HasBody header [] (some (.alternatives [a]))

theorem ne_oneOfMark {rest : List Char} (h : (oneOfMark ++ [' ']).isPrefixOf rest = true) :
    rest ≠ oneOfMark := by
  rintro rfl
  exact absurd h (by decide)

theorem readBody_iff {header : Header} {body : List (List Char)} {b : Option Body} :
    readBody header body = .ok b ↔ HasBody header body b := by
  constructor
  · intro h
    unfold readBody at h
    split at h
    case h_1 rest hrest =>
      split at h
      case isTrue hone =>
        subst hone
        obtain ⟨texts, ht, rfl⟩ := bind_pure_eq_ok_iff.1 h
        exact .oneOf hrest (mapM_readTerminals_eq_ok_iff.1 ht)
      case isFalse hone =>
        split at h
        case isTrue => exact absurd h (by simp)
        case isFalse hbody =>
          obtain rfl := not_not.1 hbody
          split at h
          case isTrue hmark =>
            obtain ⟨texts, ht, rfl⟩ := bind_pure_eq_ok_iff.1 h
            exact .inlineOneOf hrest hmark (readTerminals_eq_ok_iff.1 ht)
          case isFalse hmark =>
            obtain ⟨a, ha, rfl⟩ := bind_pure_eq_ok_iff.1 h
            exact .inline hrest hone (Bool.not_eq_true _ ▸ hmark) (readAlternative_eq_ok_iff.1 ha)
    case h_2 hrest =>
      split at h
      case isTrue hbody =>
        subst hbody
        obtain rfl := Except.ok.inj h
        exact .absent hrest
      case isFalse hbody =>
        obtain ⟨as, ha, rfl⟩ := bind_pure_eq_ok_iff.1 h
        exact .alternatives hrest hbody (mapM_readAlternative_eq_ok_iff.1 ha)
  · intro h
    unfold readBody
    cases h with
    | absent h => simp [h, pure, Except.pure]
    | alternatives h hne hb =>
      simp only [h, hne, if_false]
      exact bind_pure_eq_ok_iff.2 ⟨_, mapM_readAlternative_eq_ok_iff.2 hb, rfl⟩
    | oneOf h hb =>
      simp only [h, if_true]
      exact bind_pure_eq_ok_iff.2 ⟨_, mapM_readTerminals_eq_ok_iff.2 hb, rfl⟩
    | inlineOneOf h hmark hb =>
      simp only [h, ne_oneOfMark hmark, hmark, ne_eq, not_true_eq_false, if_true, if_false]
      exact bind_pure_eq_ok_iff.2 ⟨_, readTerminals_eq_ok_iff.2 hb, rfl⟩
    | inline h hne hmark hb =>
      simp only [h, hne, hmark, ne_eq, not_true_eq_false, if_false, Bool.false_eq_true]
      exact bind_pure_eq_ok_iff.2 ⟨_, readAlternative_eq_ok_iff.2 hb, rfl⟩

/-- The lines that may be a body are accepted as the header requires. -/
def BodyAccepted (header : Header) (body : List (List Char)) : Prop :=
  match header.rest with
  | none => ∀ s ∈ body, ∃ a, parseAlternative s = .ok a
  | some rest =>
    if rest = oneOfMark then ∀ s ∈ body, ∃ texts, parseTerminals s = .ok texts
    else if (oneOfMark ++ [' ']).isPrefixOf rest = true then
      ∃ texts, parseTerminals (rest.drop oneOfMark.length) = .ok texts
    else ∃ a, parseAlternative rest = .ok a

/-- There is a body just if the lines are accepted and are not in the way of an inline body. -/
theorem exists_hasBody_iff {header : Header} {body : List (List Char)} :
    (∃ b, HasBody header body b) ↔
      (∀ rest, header.rest = some rest → rest ≠ oneOfMark → body = []) ∧
        BodyAccepted header body := by
  constructor
  · rintro ⟨b, h⟩
    unfold BodyAccepted
    cases h with
    | absent h => simp [h]
    | alternatives h hne hb => simpa [h] using exists_forall₂.1 ⟨_, hb⟩
    | oneOf h hb => simpa [h] using exists_forall₂.1 ⟨_, hb⟩
    | inlineOneOf h hmark hb => simpa [h, hmark, ne_oneOfMark hmark] using ⟨_, hb⟩
    | inline h hne hmark hb => simpa [h, hmark, hne] using ⟨_, hb⟩
  · rintro ⟨hbody, h⟩
    unfold BodyAccepted at h
    cases hrest : header.rest with
    | none =>
      rw [hrest] at h
      by_cases hne : body = []
      · subst hne
        exact ⟨_, .absent hrest⟩
      · obtain ⟨as, ha⟩ := exists_forall₂.2 h
        exact ⟨_, .alternatives hrest hne ha⟩
    | some rest =>
      rw [hrest] at h
      by_cases hone : rest = oneOfMark
      · subst hone
        simp only [if_true] at h
        obtain ⟨texts, ht⟩ := exists_forall₂.2 h
        exact ⟨_, .oneOf hrest ht⟩
      · obtain rfl := hbody rest hrest hone
        simp only [hone, if_false] at h
        split at h
        case isTrue hmark =>
          obtain ⟨texts, ht⟩ := h
          exact ⟨_, .inlineOneOf hrest hmark ht⟩
        case isFalse hmark =>
          obtain ⟨a, ha⟩ := h
          exact ⟨_, .inline hrest hone (Bool.not_eq_true _ ▸ hmark) ha⟩

/-! ### Elements -/

/-- What a line at column zero and the indented lines below it stand for. -/
inductive Reads (head : List Char) (body : List (List Char)) : Element → Prop
  | directive (h : directiveMark.isPrefixOf head = true) (hb : body = []) :
      Reads head body (.directive head)
  | production {header : Header} {b : Option Body} (h : Header.parse? head = some header)
      (hb : HasBody header body b) :
      Reads head body (.production
        { name := header.name
          parameters := (header.bracketed.map parameters).getD []
          colons := header.colons
          body := b })

/-- No header begins as a directive does. -/
theorem Header.not_directive {s : List Char} {header : Header} (h : Header.parse? s = some header) :
    ¬ directiveMark.isPrefixOf s = true := by
  intro hmark
  cases s with
  | nil => exact Bool.noConfusion hmark
  | cons c r =>
    obtain rfl : '@' = c := by simpa [directiveMark] using hmark
    exact absurd h (by simp [Header.parse?, Header.isNameStart])

theorem Block.read_iff {block : Block} {e : Element} :
    block.read = .ok e ↔ Reads block.head block.body e := by
  obtain ⟨head, body⟩ := block
  constructor
  · intro h
    unfold Block.read at h
    split at h
    case isTrue hmark =>
      split at h
      case h_1 hbody =>
        obtain rfl := Except.ok.inj h
        exact .directive hmark hbody
      case h_2 => exact absurd h (by simp)
    case isFalse hmark =>
      split at h
      case h_1 => exact absurd h (by simp)
      case h_2 header hheader =>
        obtain ⟨p, hp, rfl⟩ := bind_pure_eq_ok_iff.1 h
        obtain ⟨b, hbody, rfl⟩ := bind_pure_eq_ok_iff.1 hp
        exact .production hheader (readBody_iff.1 hbody)
  · intro h
    unfold Block.read
    cases h with
    | directive hmark hbody =>
      simp only at hbody
      simp [hmark, hbody, pure, Except.pure]
    | @production header b hheader hbody =>
      simp only at hheader
      simp [Header.not_directive hheader, hheader, readProduction, readBody_iff.2 hbody, bind,
        Except.bind, pure, Except.pure]

/-! ### Texts that are read -/

/-- The line at column zero that comes last before a position. -/
structure Nearest (lines : List Line) (j i : Fin lines.length) : Prop where
  before : j < i
  flush : (lines.get j).indented = false
  between : ∀ k, j < k → k < i → (lines.get k).indented = true

/-- What is demanded of lines for them to be read. -/
structure Orderly (lines : List Line) : Prop where
  /-- An indented line belongs to a header. -/
  owned : ∀ i, (lines.get i).indented = true →
    ∃ j header, Nearest lines j i ∧ Header.parse? (lines.get j).text = some header
  /-- A line at column zero is a directive or a header. -/
  flush : ∀ i, (lines.get i).indented = false →
    directiveMark.isPrefixOf (lines.get i).text = true ∨
      ∃ header, Header.parse? (lines.get i).text = some header
  /-- A header with a body of its own has no indented lines. -/
  oneBody : ∀ i header rest, (lines.get i).indented = false →
    Header.parse? (lines.get i).text = some header → header.rest = some rest → rest ≠ oneOfMark →
      bodyAt lines i = []
  bodies : ∀ i header, (lines.get i).indented = false →
    Header.parse? (lines.get i).text = some header → BodyAccepted header (bodyAt lines i)

variable {i j : Fin lines.length}

/-- If the lines begin at column zero, each indented line comes below a line at column zero. -/
theorem exists_nearest (h : lines.takeWhile (·.indented) = []) :
    ∀ n (hn : n < lines.length), (lines.get ⟨n, hn⟩).indented = true →
      ∃ j, Nearest lines j ⟨n, hn⟩ := by
  intro n
  induction n with
  | zero =>
    intro hn hi
    cases lines with
    | nil => exact absurd hn (by simp)
    | cons line lines =>
      have hline : line.indented = true := hi
      simp [hline] at h
  | succ n ih =>
    intro hn hi
    have hn' : n < lines.length := by omega
    cases hprev : (lines.get ⟨n, hn'⟩).indented with
    | false =>
      refine ⟨⟨n, hn'⟩, Nat.lt_succ_self n, hprev, fun k hjk hki => ?_⟩
      exact absurd (Nat.lt_succ_iff.1 hki) (not_le.2 hjk)
    | true =>
      obtain ⟨j, hbefore, hflush, hbetween⟩ := ih hn' hprev
      refine ⟨j, Nat.lt_succ_of_lt hbefore, hflush, fun k hjk hki => ?_⟩
      rcases Nat.lt_succ_iff_lt_or_eq.1 hki with hlt | heq
      · exact hbetween k hjk hlt
      · obtain rfl : k = ⟨n, hn'⟩ := Fin.ext heq
        exact hprev

theorem bodyAt_eq_nil_iff {n : Nat} :
    bodyAt lines n = [] ↔ ∀ hn : n + 1 < lines.length, (lines.get ⟨n + 1, hn⟩).indented = false := by
  rw [bodyAt, List.map_eq_nil_iff, linesBelow]
  constructor
  · intro h hn
    rw [List.drop_eq_getElem_cons hn] at h
    cases hi : (lines.get ⟨n + 1, hn⟩).indented with
    | false => rfl
    | true =>
      have hpos : lines[n + 1].indented = true := hi
      rw [List.takeWhile_cons_of_pos hpos] at h
      exact absurd h (by simp)
  · intro h
    by_cases hn : n + 1 < lines.length
    · rw [List.drop_eq_getElem_cons hn, List.takeWhile_cons_of_neg]
      simpa using h hn
    · rw [List.drop_eq_nil_of_le (by omega)]
      rfl

/-- The line that an indented line belongs to has a body. -/
theorem Nearest.bodyAt_ne_nil (h : Nearest lines j i) (hi : (lines.get i).indented = true) :
    bodyAt lines j ≠ [] := by
  intro hbody
  have hlt : j.val + 1 ≤ i.val := h.before
  have hn : j.val + 1 < lines.length := by omega
  have hflush := bodyAt_eq_nil_iff.1 hbody hn
  rcases Nat.eq_or_lt_of_le hlt with heq | hlt
  · obtain rfl : (⟨j + 1, hn⟩ : Fin lines.length) = i := Fin.ext heq
    rw [hi] at hflush
    exact Bool.noConfusion hflush
  · have := h.between ⟨j + 1, hn⟩ (Nat.lt_succ_self _) hlt
    rw [this] at hflush
    exact Bool.noConfusion hflush

/-- A line at column zero that has a body is the one that a line belongs to. -/
theorem exists_nearest_of_bodyAt (hflush : (lines.get j).indented = false)
    (hbody : bodyAt lines j ≠ []) :
    ∃ i, (lines.get i).indented = true ∧ ∀ k, Nearest lines k i → k = j := by
  have hex : ∃ hn : j.val + 1 < lines.length, (lines.get ⟨j + 1, hn⟩).indented = true := by
    by_contra hno
    refine hbody (bodyAt_eq_nil_iff.2 fun hn => ?_)
    by_contra hi
    exact hno ⟨hn, Bool.not_eq_false _ ▸ hi⟩
  obtain ⟨hn, hi⟩ := hex
  refine ⟨⟨j + 1, hn⟩, hi, fun k hk => ?_⟩
  rcases Nat.lt_succ_iff_lt_or_eq.1 hk.before with hlt | heq
  · have := hk.between j hlt (Nat.lt_succ_self _)
    rw [this] at hflush
    exact Bool.noConfusion hflush
  · exact Fin.ext heq

/-- Lines are orderly just if they begin at column zero and each line there, with the indented lines
below it, stands for an element. -/
theorem orderly_iff :
    Orderly lines ↔ lines.takeWhile (·.indented) = [] ∧
      ∀ i ∈ heads lines, ∃ e, Reads (lines.get i).text (bodyAt lines i) e := by
  simp only [heads, mem_positions]
  constructor
  · intro h
    refine ⟨?_, fun j hflush => ?_⟩
    · cases lines with
      | nil => rfl
      | cons line lines =>
        rw [List.takeWhile_cons_of_neg]
        intro hi
        obtain ⟨j, _, hj, _⟩ := h.owned ⟨0, by simp⟩ hi
        exact absurd hj.before (Nat.not_lt_zero _)
    · rcases h.flush j hflush with hmark | ⟨header, hheader⟩
      · refine ⟨_, .directive hmark ?_⟩
        by_contra hbody
        obtain ⟨i, hi, hunique⟩ := exists_nearest_of_bodyAt hflush hbody
        obtain ⟨k, header, hk, hheader⟩ := h.owned i hi
        obtain rfl := hunique k hk
        exact Header.not_directive hheader hmark
      · have hone := fun rest => h.oneBody j header rest hflush hheader
        obtain ⟨b, hb⟩ := exists_hasBody_iff.2 ⟨hone, h.bodies j header hflush hheader⟩
        exact ⟨_, .production hheader hb⟩
  · rintro ⟨hstart, h⟩
    have hbody : ∀ j header, (lines.get j).indented = false →
        Header.parse? (lines.get j).text = some header →
        ∃ b, HasBody header (bodyAt lines j) b := by
      intro j header hflush hheader
      obtain ⟨e, he⟩ := h j hflush
      cases he with
      | directive hmark => exact absurd hmark (Header.not_directive hheader)
      | production hheader' hb =>
        rw [hheader] at hheader'
        obtain rfl := Option.some.inj hheader'
        exact ⟨_, hb⟩
    refine ⟨fun i hi => ?_, fun j hflush => ?_, ?_, ?_⟩
    · obtain ⟨j, hj⟩ := exists_nearest hstart i.val i.isLt hi
      obtain ⟨e, he⟩ := h j hj.flush
      cases he with
      | directive _ hnil => exact absurd hnil (hj.bodyAt_ne_nil hi)
      | production hheader => exact ⟨j, _, hj, hheader⟩
    · obtain ⟨e, he⟩ := h j hflush
      cases he with
      | directive hmark => exact .inl hmark
      | production hheader => exact .inr ⟨_, hheader⟩
    · intro j header rest hflush hheader
      exact (exists_hasBody_iff.1 (hbody j header hflush hheader)).1 rest
    · intro j header hflush hheader
      exact (exists_hasBody_iff.1 (hbody j header hflush hheader)).2

theorem Grammar.parse_eq_ok_iff {text : List Char} {g : Grammar} :
    Grammar.parse text = .ok g ↔ g.text = text ∧ parseElements text = .ok g.elements := by
  obtain ⟨source, elements⟩ := g
  unfold Grammar.parse
  rw [bind_pure_eq_ok_iff]
  simp [eq_comm, and_comm]

/-- The elements that are read are those of the blocks, where no indented line comes before them. -/
theorem parseElements_eq_ok_iff_blocks {text : List Char} {es : List Element} :
    parseElements text = .ok es ↔
      (blocks (significantLines text)).1 = [] ∧
        (blocks (significantLines text)).2.mapM Block.read = .ok es := by
  unfold parseElements
  cases blocks (significantLines text) with
  | mk outside bs => cases outside <;> simp

/-- The elements that are read are those of the lines at column zero. -/
theorem parseElements_eq_ok_iff {text : List Char} {es : List Element} :
    parseElements text = .ok es ↔
      (significantLines text).takeWhile (·.indented) = [] ∧
        List.Forall₂ (fun i e => Reads ((significantLines text).get i).text
          (bodyAt (significantLines text) i) e) (heads (significantLines text)) es := by
  rw [parseElements_eq_ok_iff_blocks, fst_blocks, snd_blocks, List.map_eq_nil_iff, mapM_eq_ok_iff,
    List.forall₂_map_left_iff]
  simp only [Block.read_iff]

/-- A text is read just if its lines are orderly. Its elements are then, one for one and in order, those
of its lines at column zero, and these with the lines below them are all lines. -/
theorem parse_accounts (text : List Char) :
    ((∃ g, Grammar.parse text = .ok g) ↔ Orderly (significantLines text)) ∧
      ∀ g, Grammar.parse text = .ok g →
        g.text = text ∧
        List.Forall₂ (fun i e => Reads ((significantLines text).get i).text
          (bodyAt (significantLines text) i) e) (heads (significantLines text)) g.elements ∧
        significantLines text = (heads (significantLines text)).flatMap fun i =>
          (significantLines text).get i :: linesBelow (significantLines text) i := by
  constructor
  · rw [orderly_iff, ← exists_forall₂, ← exists_and_left]
    simp only [Grammar.parse_eq_ok_iff, parseElements_eq_ok_iff]
    constructor
    · rintro ⟨g, -, h⟩
      exact ⟨g.elements, h⟩
    · rintro ⟨es, h⟩
      exact ⟨⟨text, es⟩, rfl, h⟩
  · intro g hg
    obtain ⟨htext, hes⟩ := Grammar.parse_eq_ok_iff.1 hg
    obtain ⟨hstart, hreads⟩ := parseElements_eq_ok_iff.1 hes
    refine ⟨htext, hreads, ?_⟩
    have := lines_eq_flatMap (significantLines text)
    rwa [hstart, List.nil_append] at this

end SpecGrammar.Notation
