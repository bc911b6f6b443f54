import SpecGrammar.Proofs.Json.Grammar

/-!
# Reading JSON texts

A reader of JSON texts and proof that it is right: it reads the texts that the grammar has, and gives the
value that each stands for.

* `Spells.isRead`: what is spelled is read, if what comes after it does not go on with it;
* `spells_of_readValue`: what is read is spelled;
* `read?_eq_some_iff`: the two together;
* `Denotes.unique`: so a text stands for one value at most.
-/

namespace SpecGrammar.Json

open Text (CodePoint joinPairs)

variable {α : Type}

/-! ### The reader -/

/-- The text from its first character that is not white space. -/
def skip (s : List Char) : List Char := s.dropWhile isSpace

/-- Reads the characters of a string after the opening quote, and the closing one. -/
def readPoints : List Char → Option (List CodePoint × List Char)
  | [] => none
  | '"' :: r => some ([], r)
  | '\\' :: 'u' :: a :: b :: c :: d :: r =>
    match unit? [a, b, c, d], readPoints r with
    | some p, some (ps, rest) => some (p :: ps, rest)
    | _, _ => none
  | '\\' :: letter :: r =>
    match short? letter, readPoints r with
    | some c, some (ps, rest) => some (.char c :: ps, rest)
    | _, _ => none
  | c :: r =>
    if c.toNat < 0x20 || c == '\\' then none
    else (readPoints r).map fun (ps, rest) => (.char c :: ps, rest)

/-- Reads a string after the opening quote. -/
def readString (s : List Char) : Option (List Char × List Char) :=
  (readPoints s).map fun (ps, rest) => (joinPairs ps, rest)

/-- Reads the rest of a word. -/
def readWord (rest : List Char) (v : Value) (s : List Char) : Option (Value × List Char) :=
  if rest.isPrefixOf s then some (v, s.drop rest.length) else none

/-- Reads a number up to the first character that cannot stand in one. -/
def readNumber (s : List Char) : Option (Value × List Char) :=
  if isNumber (s.takeWhile isNumeric) then
    some (.number (s.takeWhile isNumeric), s.dropWhile isNumeric)
  else none

/-- Reads something with white space around it. -/
def spaced (read : List Char → Option (α × List Char)) (s : List Char) : Option (α × List Char) :=
  (read (skip s)).map fun (x, rest) => (x, skip rest)

/-- Reads a key, a colon and something. -/
def keyed (read : List Char → Option (α × List Char)) (s : List Char) :
    Option ((List Char × α) × List Char) :=
  match skip s with
  | '"' :: r =>
    match readString r with
    | some (key, r) =>
      match skip r with
      | ':' :: r => (read r).map fun (x, rest) => ((key, x), rest)
      | _ => none
    | none => none
  | _ => none

/-- Reads some things with commas between them, at most as many as the first argument says. -/
def separated (read : List Char → Option (α × List Char)) :
    Nat → List Char → Option (List α × List Char)
  | 0, _ => none
  | n + 1, s =>
    match read s with
    | some (x, ',' :: r) => (separated read n r).map fun (xs, rest) => (x :: xs, rest)
    | some (x, r) => some ([x], r)
    | none => none

/-- Reads what stands after an opening bracket, and the closing one: nothing, or things with commas
between them. -/
def enclosed (close : Char) (read : List Char → Option (α × List Char)) (s : List Char) :
    Option (List α × List Char) :=
  if (skip s).head? = some close then some ([], (skip s).tail)
  else
    match separated read s.length s with
    | some (xs, c :: r) => if c = close then some (xs, r) else none
    | _ => none

/-- Reads a value that is nested at most as deep as the first argument says. -/
def readValue : Nat → List Char → Option (Value × List Char)
  | 0, _ => none
  | _ + 1, [] => none
  | depth + 1, c :: r =>
    if c = '"' then (readString r).map fun (text, rest) => (.string text, rest)
    else if c = '[' then
      (enclosed ']' (spaced (readValue depth)) r).map fun (vs, rest) => (.array vs, rest)
    else if c = '\x7b' then
      (enclosed '\x7d' (keyed (spaced (readValue depth))) r).map fun (ms, rest) => (.object ms, rest)
    else if c = 'n' then readWord ['u', 'l', 'l'] .null r
    else if c = 't' then readWord ['r', 'u', 'e'] (.bool true) r
    else if c = 'f' then readWord ['a', 'l', 's', 'e'] (.bool false) r
    else readNumber (c :: r)

/-- The value of a JSON text; nothing if it is none. -/
def read? (s : List Char) : Option Value :=
  match spaced (readValue s.length) s with
  | some (v, []) => some v
  | _ => none

/-! ### What is spelled is read -/

section Complete

variable {s t r w w' : List Char} {c : Char}

theorem skip_append (hw : Space w) (hr : ∀ c ∈ r.head?, isSpace c = false) : skip (w ++ r) = r := by
  rw [skip, List.dropWhile_append_of_pos hw]
  cases r with
  | nil => rfl
  | cons c r => rw [List.dropWhile_cons_of_neg (by simpa using hr c (by simp))]

theorem readPoints_of_escaped {parts : List (List Char)} {ps : List CodePoint}
    (h : List.Forall₂ Escaped parts ps) (r : List Char) :
    readPoints (parts.flatten ++ '"' :: r) = some (ps, r) := by
  induction h with
  | nil => simp [readPoints]
  | cons hp _ ih =>
    cases hp with
    | @plain c hc hquote hslash =>
      have hcontrol : ¬ c.toNat < 0x20 := by omega
      simp [readPoints, ih, hcontrol, hslash]
    | @short letter c h =>
      have hletter : letter ≠ 'u' := by
        rintro rfl
        exact absurd h (by simp [short?])
      simp [readPoints, ih, h, hletter]
    | unit h => simp [readPoints, ih, h]

theorem readString_of_spells {key : List Char} (h : SpellsString ('"' :: s) key) (r : List Char) :
    readString (s ++ r) = some (key, r) := by
  generalize hs : '"' :: s = t at h
  cases h with
  | @mk parts ps h =>
    obtain rfl : s = parts.flatten ++ ['"'] := by simpa using hs
    rw [readString, List.append_assoc, List.singleton_append, readPoints_of_escaped h]
    rfl

theorem readWord_append (rest : List Char) (v : Value) (r : List Char) :
    readWord rest v (rest ++ r) = some (v, r) := by
  simp [readWord]

theorem readNumber_append (h : isNumber s = true) (hr : ∀ c ∈ r.head?, isNumeric c = false) :
    readNumber (s ++ r) = some (.number s, r) := by
  have hs := isNumeric_of_isNumber h
  have hrest : r.takeWhile isNumeric = [] ∧ r.dropWhile isNumeric = r := by
    cases r with
    | nil => exact ⟨rfl, rfl⟩
    | cons c r => simp [hr c (by simp)]
  rw [readNumber, List.takeWhile_append_of_pos hs, List.dropWhile_append_of_pos hs, hrest.1,
    hrest.2, List.append_nil, h, if_pos rfl]

variable {read : List Char → Option (α × List Char)} {x : α} {xs : List α} {close : Char} {n : Nat}

/-- The last thing, with a closing bracket or nothing after it. -/
theorem separated_last (hn : 0 < n) (h : read s = some (x, r))
    (hr : ∀ c ∈ r.head?, c ∈ [']', '\x7d']) : separated read n s = some ([x], r) := by
  obtain ⟨m, rfl⟩ := Nat.exists_eq_succ_of_ne_zero hn.ne'
  rw [separated, h]
  cases r with
  | nil => rfl
  | cons c r =>
    have hc : c ≠ ',' := by
      rintro rfl
      exact absurd (hr ',' (by simp)) (by decide)
    split
    case h_1 heq => exact absurd (List.cons.inj (Prod.mk.inj (Option.some.inj heq)).2).1 hc
    case h_2 heq =>
      obtain ⟨rfl, rfl⟩ := Prod.mk.inj (Option.some.inj heq)
      rfl
    case h_3 heq => exact absurd heq (by simp)

/-- A thing with a comma after it, and then others. -/
theorem separated_cons (hn : t.length < n) (h : read s = some (x, ',' :: r))
    (hr : ∀ m, t.length ≤ m → separated read m r = some (xs, w)) :
    separated read n s = some (x :: xs, w) := by
  obtain ⟨m, rfl⟩ := Nat.exists_eq_succ_of_ne_zero (Nat.ne_zero_of_lt hn)
  rw [separated, h]
  simp [hr m (by omega)]

theorem enclosed_nil (hw : Space w) (close : Char) (hclose : isSpace close = false) (r : List Char) :
    enclosed close read (w ++ close :: r) = some ([], r) := by
  have hskip := skip_append hw (r := close :: r) (by simpa using hclose)
  rw [enclosed, hskip]
  simp

/-- Things between brackets, if they are read wherever there is text enough for them. -/
theorem enclosed_append (hs : Opens s) (hclose : isOpening close = false)
    (h : ∀ n, s.length ≤ n → separated read n (s ++ close :: r) = some (xs, close :: r)) :
    enclosed close read (s ++ close :: r) = some (xs, r) := by
  have hall := h (s ++ close :: r).length (by simp)
  obtain ⟨w, c, t, hst, hw, hc⟩ := hs.append (close :: r)
  rw [hst] at hall ⊢
  have hspace := isSpace_of_isOpening hc
  have hne : c ≠ close := by
    rintro rfl
    exact Bool.noConfusion (hc.symm.trans hclose)
  rw [enclosed, skip_append hw (by simpa using hspace), hall]
  simp [hne]

/-- What stands after an element is neither a part of a number nor white space. -/
theorem not_isNumeric_isSpace_of_closing (hc : c ∈ [',', ']', '\x7d']) :
    isNumeric c = false ∧ isSpace c = false := by
  revert c
  simp [isNumeric, isSpace, Char.isDigit]

/-- What is read with white space around it. -/
theorem spaced_append (hw : Space w) (hw' : Space w') (hs : ∀ c ∈ s.head?, isSpace c = false)
    (hne : s ≠ []) (hr : ∀ c ∈ r.head?, isSpace c = false)
    (h : read (s ++ (w' ++ r)) = some (x, w' ++ r)) :
    spaced read (w ++ s ++ w' ++ r) = some (x, r) := by
  have hstart : skip (w ++ (s ++ (w' ++ r))) = s ++ (w' ++ r) := by
    refine skip_append hw ?_
    rwa [List.head?_append_of_ne_nil s hne]
  rw [spaced, List.append_assoc, List.append_assoc, hstart, h]
  simp [skip_append hw' hr]

/-- What is read after a key and a colon. -/
theorem keyed_append {k key : List Char} (hw : Space w) (hk : SpellsString k key) (hw' : Space w')
    (h : read (s ++ r) = some (x, r)) :
    keyed read (w ++ k ++ w' ++ ':' :: s ++ r) = some ((key, x), r) := by
  obtain ⟨t, rfl⟩ := hk.head
  have hkey := skip_append hw (r := '"' :: t ++ (w' ++ ':' :: (s ++ r))) (by simp [isSpace])
  have hcolon := skip_append hw' (r := ':' :: (s ++ r)) (by simp [isSpace])
  have hstring := readString_of_spells hk (w' ++ ':' :: (s ++ r))
  simp only [List.append_assoc, List.cons_append] at hkey ⊢
  rw [keyed, hkey]
  simp [hstring, hcolon, h]

/-- A part of a text is read with some depth, if what comes after it does not go on with it. -/
def IsRead (depth : Nat) (s r : List Char) : Phrase → Prop
  | .value v => (∀ c ∈ r.head?, isNumeric c = false) → readValue depth (s ++ r) = some (v, r)
  | .element v =>
    (∀ c ∈ r.head?, c ∈ [',', ']', '\x7d']) → spaced (readValue depth) (s ++ r) = some (v, r)
  | .items vs =>
    (∀ c ∈ r.head?, c ∈ [']', '\x7d']) → ∀ n, s.length ≤ n →
      separated (spaced (readValue depth)) n (s ++ r) = some (vs, r)
  | .member m =>
    (∀ c ∈ r.head?, c ∈ [',', ']', '\x7d']) →
      keyed (spaced (readValue depth)) (s ++ r) = some (m, r)
  | .members ms =>
    (∀ c ∈ r.head?, c ∈ [']', '\x7d']) → ∀ n, s.length ≤ n →
      separated (keyed (spaced (readValue depth))) n (s ++ r) = some (ms, r)

theorem readValue_number {depth : Nat} (h : isNumber s = true) :
    readValue (depth + 1) (s ++ r) = readNumber (s ++ r) := by
  cases s with
  | nil => exact absurd h (by decide)
  | cons c s =>
    have hc := isNumeric_of_isNumber h c (by simp)
    have hne : ∀ d, isNumeric d = false → c ≠ d := by
      rintro d hd rfl
      exact Bool.noConfusion (hc.symm.trans hd)
    rw [List.cons_append, readValue, if_neg (hne _ rfl), if_neg (hne _ rfl), if_neg (hne _ rfl),
      if_neg (hne _ rfl), if_neg (hne _ rfl), if_neg (hne _ rfl)]

/-- What is spelled is read, if what comes after it does not go on with it. -/
theorem Spells.isRead {p : Phrase} (h : Spells s p) :
    ∀ depth r, s.length ≤ depth + 1 → IsRead (depth + 1) s r p := by
  -- each level of nesting takes two brackets, so the length bounds the depth that is needed
  induction h with
  | nullWord =>
    intro depth r _ _
    exact readWord_append ['u', 'l', 'l'] .null r
  | trueWord =>
    intro depth r _ _
    exact readWord_append ['r', 'u', 'e'] (.bool true) r
  | falseWord =>
    intro depth r _ _
    exact readWord_append ['a', 'l', 's', 'e'] (.bool false) r
  | number h =>
    intro depth r _ hr
    rw [readValue_number h, readNumber_append h hr]
  | string h =>
    intro depth r _ _
    obtain ⟨t, rfl⟩ := h.head
    simp [readValue, readString_of_spells h]
  | emptyArray hw =>
    intro depth r _ _
    simp [readValue, enclosed_nil hw ']' rfl r]
  | @array s vs h ih =>
    intro depth r hdepth _
    have hlength : s.length + 2 ≤ depth + 1 := by simpa using hdepth
    obtain ⟨d, rfl⟩ := Nat.exists_eq_succ_of_ne_zero (n := depth) (by omega)
    have hitems := ih d (']' :: r) (by omega) (by simp)
    simp [readValue, enclosed_append h.opens rfl hitems]
  | emptyObject hw =>
    intro depth r _ _
    simp [readValue, enclosed_nil hw '\x7d' rfl r]
  | @object s ms h ih =>
    intro depth r hdepth _
    have hlength : s.length + 2 ≤ depth + 1 := by simpa using hdepth
    obtain ⟨d, rfl⟩ := Nat.exists_eq_succ_of_ne_zero (n := depth) (by omega)
    have hmembers := ih d ('\x7d' :: r) (by omega) (by simp)
    simp [readValue, enclosed_append h.opens rfl hmembers]
  | @element w s w' v hw h hw' ih =>
    intro depth r hdepth hr
    have hvalue := ih depth (w' ++ r) (by simp at hdepth; omega) fun c hc => by
      cases w' with
      | nil => exact (not_isNumeric_isSpace_of_closing (hr c hc)).1
      | cons d w' =>
        obtain rfl : d = c := by simpa using hc
        exact isNumeric_of_isSpace (hw' d (by simp))
    obtain ⟨c, t, rfl, hc⟩ := h.value_head
    exact spaced_append hw hw' (by simpa using isSpace_of_isOpening hc) (List.cons_ne_nil c t)
      (fun c hc => (not_isNumeric_isSpace_of_closing (hr c hc)).2) hvalue
  | lastItem h ih =>
    intro depth r hdepth hr n hn
    have hv := ih depth r hdepth fun c hc => List.mem_cons_of_mem _ (hr c hc)
    exact separated_last (by have := h.length_pos; omega) hv hr
  | @item s t v vs h ht ih iht =>
    intro depth r hdepth hr n hn
    simp only [List.length_append, List.length_cons] at hdepth hn
    have hv := ih depth (',' :: (t ++ r)) (by omega) (by simp)
    have hvs := iht depth r (by omega) hr
    rw [List.append_assoc, List.cons_append]
    exact separated_cons (by omega) hv hvs
  | member hw hk hw' h ih =>
    intro depth r hdepth hr
    exact keyed_append hw hk hw' (ih depth r (by simp at hdepth; omega) hr)
  | lastMember h ih =>
    intro depth r hdepth hr n hn
    have hm := ih depth r hdepth fun c hc => List.mem_cons_of_mem _ (hr c hc)
    exact separated_last (by have := h.length_pos; omega) hm hr
  | @members s t m ms h ht ih iht =>
    intro depth r hdepth hr n hn
    simp only [List.length_append, List.length_cons] at hdepth hn
    have hm := ih depth (',' :: (t ++ r)) (by omega) (by simp)
    have hms := iht depth r (by omega) hr
    rw [List.append_assoc, List.cons_append]
    exact separated_cons (by omega) hm hms

end Complete

/-! ### What is read is spelled -/

/-- What a reader takes off the front of a text has a property together with what it makes of it. -/
def Reads (read : List Char → Option (α × List Char)) (P : List Char → α → Prop) : Prop :=
  ∀ s x r, read s = some (x, r) → ∃ t, s = t ++ r ∧ P t x

section Sound

variable {s t r : List Char} {read : List Char → Option (α × List Char)} {P : List Char → α → Prop}

/-- What is made of what is read, where the rest stays as it is. -/
theorem map_eq_some_pair {β : Type} {made : Option (α × List Char)} {make : α → β} {y : β}
    (h : (made.map fun (x, rest) => (make x, rest)) = some (y, r)) :
    ∃ x, made = some (x, r) ∧ make x = y := by
  obtain ⟨⟨x, rest⟩, hx, heq⟩ := Option.map_eq_some_iff.1 h
  obtain ⟨hy, rfl⟩ := Prod.mk.inj heq
  exact ⟨x, hx, hy⟩

theorem exists_space_append_skip (s : List Char) : ∃ w, Space w ∧ s = w ++ skip s :=
  ⟨s.takeWhile isSpace, fun _ hc => List.mem_takeWhile_imp hc, List.takeWhile_append_dropWhile.symm⟩

theorem escaped_of_readPoints {ps : List CodePoint} (h : readPoints s = some (ps, r)) :
    ∃ parts, List.Forall₂ Escaped parts ps ∧ s = parts.flatten ++ '"' :: r := by
  fun_induction readPoints s generalizing ps r with
  | case1 => exact absurd h (by simp)
  | case2 t =>
    obtain ⟨rfl, rfl⟩ := Prod.mk.inj (Option.some.inj h)
    exact ⟨[], .nil, rfl⟩
  | case3 a b c d t p qs rest hrest hp ih =>
    obtain ⟨rfl, rfl⟩ := Prod.mk.inj (Option.some.inj h)
    obtain ⟨parts, hparts, rfl⟩ := ih hrest
    exact ⟨_, .cons (.unit hp) hparts, rfl⟩
  | case4 => exact absurd h (by simp)
  | case5 letter t _ c qs rest hrest hc ih =>
    obtain ⟨rfl, rfl⟩ := Prod.mk.inj (Option.some.inj h)
    obtain ⟨parts, hparts, rfl⟩ := ih hrest
    exact ⟨_, .cons (.short hc) hparts, rfl⟩
  | case6 => exact absurd h (by simp)
  | case7 => exact absurd h (by simp)
  | case8 c t hquote _ _ hc ih =>
    obtain ⟨qs, hrest, rfl⟩ := map_eq_some_pair h
    obtain ⟨parts, hparts, rfl⟩ := ih hrest
    simp only [Bool.or_eq_true, decide_eq_true_eq, beq_iff_eq, not_or, not_lt] at hc
    exact ⟨_, .cons (.plain hc.1 hquote hc.2) hparts, rfl⟩

theorem spells_of_readString {key : List Char} (h : readString s = some (key, r)) :
    ∃ t, s = t ++ r ∧ SpellsString ('"' :: t) key := by
  obtain ⟨ps, hps, rfl⟩ := map_eq_some_pair h
  obtain ⟨parts, hparts, rfl⟩ := escaped_of_readPoints hps
  exact ⟨parts.flatten ++ ['"'], by simp, .mk hparts⟩

theorem eq_of_readWord {rest : List Char} {v v' : Value} (h : readWord rest v s = some (v', r)) :
    s = rest ++ r ∧ v' = v := by
  unfold readWord at h
  split at h
  case isTrue hrest =>
    obtain ⟨rfl, rfl⟩ := Prod.mk.inj (Option.some.inj h)
    obtain ⟨t, rfl⟩ := List.isPrefixOf_iff_prefix.1 hrest
    simp
  case isFalse => exact absurd h (by simp)

theorem spells_of_readNumber {v : Value} (h : readNumber s = some (v, r)) :
    ∃ t, s = t ++ r ∧ Spells t (.value v) := by
  unfold readNumber at h
  split at h
  case isTrue hnumber =>
    obtain ⟨rfl, rfl⟩ := Prod.mk.inj (Option.some.inj h)
    exact ⟨_, List.takeWhile_append_dropWhile.symm, .number hnumber⟩
  case isFalse => exact absurd h (by simp)

theorem reads_spaced {read : List Char → Option (Value × List Char)}
    (h : Reads read fun s v => Spells s (.value v)) :
    Reads (spaced read) fun s v => Spells s (.element v) := by
  intro s v r hv
  obtain ⟨⟨v, rest⟩, hvalue, heq⟩ := Option.map_eq_some_iff.1 hv
  obtain ⟨rfl, rfl⟩ := Prod.mk.inj heq
  obtain ⟨t, ht, hspells⟩ := h _ _ _ hvalue
  obtain ⟨w, hw, hs⟩ := exists_space_append_skip s
  obtain ⟨w', hw', hrest⟩ := exists_space_append_skip rest
  refine ⟨w ++ t ++ w', ?_, .element hw hspells hw'⟩
  rw [List.append_assoc, ← hrest, List.append_assoc, ← ht, ← hs]

theorem reads_keyed {read : List Char → Option (Value × List Char)}
    (h : Reads read fun s v => Spells s (.element v)) :
    Reads (keyed read) fun s m => Spells s (.member m) := by
  intro s m r hm
  unfold keyed at hm
  split at hm
  case h_2 => exact absurd hm (by simp)
  case h_1 t hquote =>
    split at hm
    case h_2 => exact absurd hm (by simp)
    case h_1 key t' hkey =>
      split at hm
      case h_2 => exact absurd hm (by simp)
      case h_1 u hcolon =>
        obtain ⟨v, hv, rfl⟩ := map_eq_some_pair hm
        obtain ⟨k, rfl, hk⟩ := spells_of_readString hkey
        obtain ⟨e, rfl, he⟩ := h _ _ _ hv
        obtain ⟨w, hw, hs⟩ := exists_space_append_skip s
        obtain ⟨w', hw', ht'⟩ := exists_space_append_skip t'
        refine ⟨w ++ '"' :: k ++ w' ++ ':' :: e, ?_, .member hw hk hw' he⟩
        rw [hs, hquote, ht', hcolon]
        simp

/-- What holds of one thing, and of a thing and a comma before others of which it holds, holds of all that
are read. -/
theorem reads_separated {Q : List Char → List α → Prop} (h : Reads read P)
    (hone : ∀ s x, P s x → Q s [x])
    (hmore : ∀ s x t xs, P s x → Q t xs → Q (s ++ ',' :: t) (x :: xs)) (n : Nat) :
    Reads (separated read n) Q := by
  induction n with
  | zero =>
    intro s xs r hxs
    exact absurd hxs (by simp [separated])
  | succ n ih =>
    intro s xs r hxs
    unfold separated at hxs
    split at hxs
    case h_1 x t hx =>
      obtain ⟨ys, hys, rfl⟩ := map_eq_some_pair hxs
      obtain ⟨u, rfl, hu⟩ := h _ _ _ hx
      obtain ⟨u', rfl, hu'⟩ := ih _ _ _ hys
      exact ⟨u ++ ',' :: u', by simp, hmore _ _ _ _ hu hu'⟩
    case h_2 x t _ hx =>
      obtain ⟨rfl, rfl⟩ := Prod.mk.inj (Option.some.inj hxs)
      obtain ⟨u, rfl, hu⟩ := h _ _ _ hx
      exact ⟨u, rfl, hone _ _ hu⟩
    case h_3 => exact absurd hxs (by simp)

/-- What stands between brackets is white space or what is read there. -/
theorem reads_enclosed {Q : List Char → List α → Prop} {close : Char}
    (h : ∀ n, Reads (separated read n) Q) :
    Reads (enclosed close read) fun s xs =>
      ∃ t, s = t ++ [close] ∧ (Space t ∧ xs = [] ∨ Q t xs) := by
  intro s xs r hxs
  unfold enclosed at hxs
  split at hxs
  case isTrue hclose =>
    obtain ⟨rfl, rfl⟩ := Prod.mk.inj (Option.some.inj hxs)
    obtain ⟨w, hw, hs⟩ := exists_space_append_skip s
    obtain ⟨t, ht⟩ := List.head?_eq_some_iff.1 hclose
    refine ⟨w ++ [close], ?_, w, rfl, .inl ⟨hw, rfl⟩⟩
    rw [ht] at hs ⊢
    simpa using hs
  case isFalse =>
    split at hxs
    case h_2 => exact absurd hxs (by simp)
    case h_1 ys c t hys =>
      split at hxs
      case isFalse => exact absurd hxs (by simp)
      case isTrue hc =>
        obtain ⟨rfl, rfl⟩ := Prod.mk.inj (Option.some.inj hxs)
        obtain ⟨u, rfl, hu⟩ := h _ _ _ _ hys
        exact ⟨u ++ [close], by simp [hc], u, rfl, .inr hu⟩

/-- What is read is spelled. -/
theorem spells_of_readValue (depth : Nat) :
    Reads (readValue depth) fun s v => Spells s (.value v) := by
  induction depth with
  | zero =>
    intro s v r hv
    exact absurd hv (by simp [readValue])
  | succ depth ih =>
    have hitems : ∀ n, Reads (separated (spaced (readValue depth)) n) fun s vs =>
        Spells s (.items vs) :=
      reads_separated (reads_spaced ih) (fun _ _ => .lastItem) fun _ _ _ _ => .item
    have hmembers : ∀ n, Reads (separated (keyed (spaced (readValue depth))) n) fun s ms =>
        Spells s (.members ms) :=
      reads_separated (reads_keyed (reads_spaced ih)) (fun _ _ => .lastMember) fun _ _ _ _ => .members
    intro s v r hv
    cases s with
    | nil => exact absurd hv (by simp [readValue])
    | cons c s =>
      rw [readValue] at hv
      split_ifs at hv with hquote harray hobject hn ht hf
      · obtain ⟨text, htext, rfl⟩ := map_eq_some_pair hv
        obtain ⟨t, rfl, hspells⟩ := spells_of_readString htext
        exact ⟨c :: t, rfl, .string (hquote ▸ hspells)⟩
      · obtain ⟨vs, hvs, rfl⟩ := map_eq_some_pair hv
        obtain ⟨_, rfl, t, rfl, ⟨ht, rfl⟩ | ht⟩ := reads_enclosed hitems _ _ _ hvs
        · exact ⟨c :: (t ++ [']']), rfl, harray ▸ .emptyArray ht⟩
        · exact ⟨c :: (t ++ [']']), rfl, harray ▸ .array ht⟩
      · obtain ⟨ms, hms, rfl⟩ := map_eq_some_pair hv
        obtain ⟨_, rfl, t, rfl, ⟨ht, rfl⟩ | ht⟩ := reads_enclosed hmembers _ _ _ hms
        · exact ⟨c :: (t ++ ['\x7d']), rfl, hobject ▸ .emptyObject ht⟩
        · exact ⟨c :: (t ++ ['\x7d']), rfl, hobject ▸ .object ht⟩
      · obtain ⟨rfl, rfl⟩ := eq_of_readWord hv
        exact ⟨_, congrArg (· :: _) hn, .nullWord⟩
      · obtain ⟨rfl, rfl⟩ := eq_of_readWord hv
        exact ⟨_, congrArg (· :: _) ht, .trueWord⟩
      · obtain ⟨rfl, rfl⟩ := eq_of_readWord hv
        exact ⟨_, congrArg (· :: _) hf, .falseWord⟩
      · exact spells_of_readNumber hv

end Sound

/-! ### The reader and the grammar -/

variable {s : List Char} {v v' : Value}

/-- The reader gives the value that a text stands for, and nothing for what is no JSON text. -/
theorem read?_eq_some_iff : read? s = some v ↔ Denotes s v := by
  unfold read?
  constructor
  · intro h
    split at h
    case h_1 v' hv =>
      obtain rfl := Option.some.inj h
      obtain ⟨t, hst, ht⟩ := reads_spaced (spells_of_readValue s.length) _ _ _ hv
      rw [List.append_nil] at hst
      exact hst ▸ ht
    case h_2 => exact absurd h (by simp)
  · intro h
    obtain ⟨d, hd⟩ := Nat.exists_eq_succ_of_ne_zero h.length_pos.ne'
    have hread := Spells.isRead h d [] hd.le (by simp)
    rw [List.append_nil] at hread
    rw [hd, hread]

example : read? "[1e2 , \"\\u0041\\/\"]".toList =
    some (.array [.number ['1', 'e', '2'], .string ['A', '/']]) := by rfl

/-- A text stands for one value at most. -/
theorem Denotes.unique (h : Denotes s v) (h' : Denotes s v') : v = v' :=
  Option.some.inj ((read?_eq_some_iff.2 h).symm.trans (read?_eq_some_iff.2 h'))

end SpecGrammar.Json
