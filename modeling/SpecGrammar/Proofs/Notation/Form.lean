import SpecGrammar.Proofs.Joining
import SpecGrammar.Proofs.Notation.Disjoint

/-!
# The forms of a production

A production has its body as alternatives or as a list of terminals, each of them in the header line or
on the lines below it.

* `HasForm`: the body that lines have in a form;
* `WrittenAs form name lines block`: the block is a production of that name and form with its body on the
  lines;
* `read_of_writtenAs`: the production that is read from such a block;
* `parseAlternative_of_literals`, `parseTerminals_of_literals`: what is read from a line of literals;
* `blocks_of_rows`: a text that is a header with rows below it is one block.
-/

namespace SpecGrammar.Notation

inductive Form
  | alternative
  | oneOf

/-- What comes after the colons of the header, given the line of the body if it stands there. -/
def Form.rest? : Form → Option (List Char) → Option (List Char)
  | .alternative, line? => line?
  | .oneOf, none => some oneOfMark
  | .oneOf, some line => some (oneOfMark ++ ' ' :: line)

/-- The body that lines have in a form. -/
inductive HasForm : Form → List (List Char) → Body → Prop
  | alternatives {lines : List (List Char)} {as : List Alternative} (hne : lines ≠ [])
      (h : List.Forall₂ (fun s a => parseAlternative s = .ok a) lines as) :
      HasForm .alternative lines (.alternatives as)
  | oneOf {lines : List (List Char)} {rows : List (List (List Char))}
      (h : List.Forall₂ (fun s ts => parseTerminals s = .ok ts) lines rows) :
      HasForm .oneOf lines (.oneOf rows.flatten)

/-- The blocks of a production that has its body on some lines. -/
inductive WrittenAs (form : Form) (name : List Char) : List (List Char) → Block → Prop
  | inline {bracketed : Option (List Char)} {colons : Nat} {head line : List Char}
      (h : Header.Written ⟨name, bracketed, colons, form.rest? (some line)⟩ head) :
      WrittenAs form name [line] ⟨head, []⟩
  | below {bracketed : Option (List Char)} {colons : Nat} {head : List Char}
      {lines : List (List Char)}
      (h : Header.Written ⟨name, bracketed, colons, form.rest? none⟩ head) :
      WrittenAs form name lines ⟨head, lines⟩

variable {form : Form} {name line head row : List Char} {lines rows texts : List (List Char)}
  {body : Body} {block : Block} {header : Header}

/-! ### Bodies -/

theorem hasBody_below {bracketed : Option (List Char)} {colons : Nat} (h : HasForm form lines body) :
    HasBody ⟨name, bracketed, colons, form.rest? none⟩ lines (some body) := by
  cases h with
  | alternatives hne h => exact .alternatives rfl hne h
  | oneOf h => exact .oneOf rfl h

/-- A single line may stand in the header if it does not begin as a list does. -/
theorem hasBody_inline {bracketed : Option (List Char)} {colons : Nat}
    (h : HasForm form [line] body) (hmark : line.head? ≠ oneOfMark.head?) :
    HasBody ⟨name, bracketed, colons, form.rest? (some line)⟩ [] (some body) := by
  cases h with
  | alternatives hne h =>
    obtain ⟨a, _, ha, ⟨⟩, rfl⟩ := List.forall₂_cons_left_iff.1 h
    refine .inline rfl (fun heq => hmark (heq ▸ rfl)) ?_ ha
    rw [Bool.eq_false_iff]
    intro hprefix
    obtain ⟨r, rfl⟩ := exists_eq_append_of_isPrefixOf hprefix
    exact hmark rfl
  | oneOf h =>
    obtain ⟨ts, _, hts, ⟨⟩, rfl⟩ := List.forall₂_cons_left_iff.1 h
    obtain ⟨hne, hl, hlaid⟩ := parseTerminals_eq_ok_iff.1 hts
    rw [List.flatten_singleton]
    exact .inlineOneOf rfl (isPrefixOf_append (oneOfMark ++ [' ']) line)
      (parseTerminals_eq_ok_iff.2 ⟨hne, hl, hlaid.gap (by decide)⟩)

/-- The production that is read from a block in which it is written. -/
theorem read_of_writtenAs (h : WrittenAs form name lines block) (hbody : HasForm form lines body)
    (hmark : ∀ line, lines = [line] → line.head? ≠ oneOfMark.head?) :
    ∃ parameters colons,
      block.read = .ok (.production ⟨name, parameters, colons, some body⟩) := by
  cases h with
  | @inline bracketed colons head line h =>
    exact ⟨_, colons, Block.read_iff.2
      (.production (Header.parse?_of_written h) (hasBody_inline hbody (hmark line rfl)))⟩
  | @below bracketed colons head lines h =>
    exact ⟨_, colons, Block.read_iff.2
      (.production (Header.parse?_of_written h) (hasBody_below hbody))⟩

/-! ### Lines of literals -/

/-- An alternative of literals is read from the texts that are laid out as their tokens. -/
theorem parseAlternative_of_literals (hne : texts ≠ []) (htexts : ∀ t ∈ texts, Literal t)
    (hlaid : Laid (texts.map Token.literal) line) :
    parseAlternative line = .ok ⟨line, [], texts.map .terminal, none⟩ := by
  have hitem : ∀ x ∈ texts.map Symbol.terminal, Item x.tokens x := by
    intro x hx
    obtain ⟨t, ht, rfl⟩ := List.mem_map.1 hx
    exact .primary (.single (.terminal (htexts t ht)))
  have htokens : (texts.map Symbol.terminal).flatMap Symbol.tokens = texts.map Token.literal := by
    rw [List.flatMap_map, List.map_eq_flatMap]
    rfl
  have hitems := Repeated.flatMap (by simpa using hne) hitem
  rw [htokens] at hitems
  have hderives : Derives (texts.map Token.literal) ⟨[], [], texts.map .terminal, none⟩ := by
    simpa using Derives.items .absent hitems .absent
  exact parseAlternative_of_laid hderives hlaid (by simp)

theorem parseTerminals_of_literals (hne : texts ≠ []) (htexts : ∀ t ∈ texts, Literal t)
    (hlaid : Laid (texts.map Token.literal) line) : parseTerminals line = .ok texts :=
  parseTerminals_eq_ok_iff.2 ⟨hne, htexts, hlaid⟩

/-- A line of literals begins with a gap or a backtick. -/
theorem head?_ne_of_literals (hne : texts ≠ []) (hlaid : Laid (texts.map Token.literal) line) :
    line.head? ≠ oneOfMark.head? := by
  have hmark : oneOfMark.head? = some 'o' := by decide
  obtain ⟨text, texts, rfl⟩ := List.exists_cons_of_ne_nil hne
  rw [hmark]
  cases hlaid with
  | @cons g s t ts hg =>
    cases g with
    | nil => simp [Token.literal]
    | cons c g =>
      have hc := hg c (by simp)
      intro heq
      obtain rfl : c = 'o' := by simpa using heq
      exact absurd hc (by decide)

/-! ### Rows -/

theorem ofText?_of_header (h : header.Written head) (htrim : Text.trim head = head) :
    Line.ofText? head = some ⟨false, head⟩ := by
  obtain ⟨c, r, rfl, hc⟩ := h.head
  have hblank : Text.isBlank c = false := Header.isBlank_of_isNameStart hc
  have hmark : ¬ commentMark.isPrefixOf (c :: r) = true := by
    intro hmark
    obtain rfl := eq_slash_of_isComment hmark
    exact absurd hc (by decide)
  simp [Line.ofText?, htrim, hmark, hblank]

theorem ofText?_of_accepted (hindent : row.head?.any Text.isBlank = true)
    (h : Accepted (Text.trim row)) : Line.ofText? row = some ⟨true, Text.trim row⟩ := by
  have hmark := h.not_comment
  obtain ⟨kind, c, r, htrim, -⟩ := h.lead
  rw [Text.trim_trim] at hmark htrim
  simp only [Line.ofText?, htrim] at hmark ⊢
  simp [hmark, hindent]

/-- Lines at column zero with indented lines below them are blocks. -/
theorem blocks_of_lines (head : List Char) (lines : List (List Char)) :
    blocks (⟨false, head⟩ :: lines.map (⟨true, ·⟩)) = ([], [⟨head, lines⟩]) := by
  have hbelow : blocks (lines.map (⟨true, ·⟩)) = (lines, []) := by
    induction lines with
    | nil => rfl
    | cons line lines ih => simp [blocks, ih]
  simp [blocks, hbelow]

/-- A text of a header and indented rows that can be read is one block. -/
theorem blocks_of_rows (h : header.Written head) (htrim : Text.trim head = head)
    (hplain : Text.Plain (Text.joinWith ['\n'] (head :: rows)))
    (hfeed : ∀ row ∈ head :: rows, '\n' ∉ row)
    (hrows : ∀ row ∈ rows, row.head?.any Text.isBlank = true ∧ Accepted (Text.trim row)) :
    blocks (significantLines (Text.joinWith ['\n'] (head :: rows))) =
      ([], [⟨head, rows.map Text.trim⟩]) := by
  have hpieces : Text.rows (Text.joinWith ['\n'] (head :: rows)) = head :: rows :=
    Text.splitWhen_joinWith (by simp) hfeed
  have hbelow : rows.filterMap Line.ofText? = (rows.map Text.trim).map (⟨true, ·⟩) := by
    have hread : ∀ row ∈ rows, Line.ofText? row = some ⟨true, Text.trim row⟩ :=
      fun row hrow => ofText?_of_accepted (hrows row hrow).1 (hrows row hrow).2
    rw [List.filterMap_congr hread, List.filterMap_eq_map', List.map_map]
    rfl
  have hlines : (Text.rows (Text.joinWith ['\n'] (head :: rows))).filterMap Line.ofText? =
      ⟨false, head⟩ :: (rows.map Text.trim).map (⟨true, ·⟩) := by
    rw [hpieces, List.filterMap_cons_some (ofText?_of_header h htrim), hbelow]
  have hflush : Flush (Text.joinWith ['\n'] (head :: rows)) := ⟨hplain, by rw [hlines]; rfl⟩
  rw [hflush.significantLines_eq, hlines, blocks_of_lines]

end SpecGrammar.Notation
