import SpecGrammar.Proofs.Text.Blank

/-!
# Patterns with backtracking

A pattern is matched from left to right. Where it can go on in more than one way, the ways are tried in
a fixed order, and the first one that gets to the end of the pattern counts.

* `Pattern.ways`: all the ways through a pattern, in the order in which they are tried;
* `Pattern.ways_seq_of_settles`: where what follows a run cannot begin with a character of its class,
  only the longest run leads on, so nothing is left to backtracking;
* `Pattern.first?_seq`: the ways that do not lead on are passed over.
-/

namespace SpecGrammar.Text

/-- A pattern for the beginning of a text, with named groups. -/
inductive Pattern (ι : Type)
  /-- Characters of a class, at least `least` and, if that is given, at most `most` of them. The more are
  tried first, or the fewer if the run is reluctant. -/
  | run (p : Char → Bool) (least : Nat) (most : Option Nat) (reluctant : Bool)
  | group (name : ι) (inner : Pattern ι)
  /-- Leaving the pattern out is tried last. -/
  | optional (inner : Pattern ι)
  | seq (first second : Pattern ι)
  /-- The end of the text, where a line feed may still stand. -/
  | ending

/-- A way through a pattern: the texts of its groups, the text that was read and the text that is left. -/
structure Way (ι : Type) where
  groups : List (ι × List Char) := []
  read : List Char
  left : List Char

variable {ι : Type}

/-- One way and after it another one, on the text that the first one left. -/
def Way.andThen (w v : Way ι) : Way ι where
  groups := w.groups ++ v.groups
  read := w.read ++ v.read
  left := v.left

/-- Names what was read. -/
def Way.named (name : ι) (w : Way ι) : Way ι :=
  { w with groups := w.groups ++ [(name, w.read)] }

namespace Pattern

/-- The length of the longest run at the start of a text. -/
def longest (p : Char → Bool) (most : Option Nat) (s : List Char) : Nat :=
  most.elim (s.takeWhile p).length (min (s.takeWhile p).length)

/-- The way through a run that reads a number of characters. -/
def taking (s : List Char) (n : Nat) : Way ι where
  read := s.take n
  left := s.drop n

/-- The ways through a pattern, in the order in which they are tried. -/
def ways : Pattern ι → List Char → List (Way ι)
  | run p least most reluctant, s =>
    let lengths := List.range' least (longest p most s + 1 - least)
    (if reluctant then lengths else lengths.reverse).map (taking s)
  | group name a, s => (a.ways s).map (Way.named name)
  | optional a, s => a.ways s ++ [taking s 0]
  | seq a b, s => (a.ways s).flatMap fun w => (b.ways w.left).map w.andThen
  | ending, s => if s = [] ∨ s = ['\n'] then [taking s 0] else []

/-- The way that counts. -/
def first? (a : Pattern ι) (s : List Char) : Option (Way ι) := (a.ways s).head?

/-- A character of a class. -/
def one (p : Char → Bool) : Pattern ι := run p 1 (some 1) false

/-- Any number of characters of a class, as many as possible. -/
def many (p : Char → Bool) : Pattern ι := run p 0 none false

variable {a b : Pattern ι} {p q : Char → Bool} {s r : List Char} {c : Char} {least n : Nat}
  {most : Option Nat} {reluctant : Bool} {name : ι} {w v : Way ι}

/-! ### Runs -/

theorem longest_cons_of_neg (h : p c = false) : longest p most (c :: r) = 0 := by
  unfold longest
  rw [List.takeWhile_cons_of_neg (by simp [h])]
  cases most <;> simp

theorem longest_le (p : Char → Bool) (most : Option Nat) (s : List Char) :
    longest p most s ≤ (s.takeWhile p).length := by
  cases most with
  | none => exact le_rfl
  | some m => exact Nat.min_le_left _ _

theorem mem_ways_run : w ∈ (run p least most reluctant : Pattern ι).ways s ↔
    ∃ n, least ≤ n ∧ n ≤ longest p most s ∧ w = taking s n := by
  have hrange : ∀ n, n ∈ List.range' least (longest p most s + 1 - least) ↔
      least ≤ n ∧ n ≤ longest p most s := fun n => by
    rw [List.mem_range'_1]
    omega
  cases reluctant <;> simp [ways, hrange, and_assoc, eq_comm]

theorem ways_run_of_lt (h : longest p most s < least) :
    (run p least most reluctant : Pattern ι).ways s = [] := by
  refine List.eq_nil_iff_forall_not_mem.2 fun w hw => ?_
  obtain ⟨n, hleast, hn, -⟩ := mem_ways_run.1 hw
  omega

@[simp] theorem ways_one_nil : (one p : Pattern ι).ways [] = [] := by
  refine ways_run_of_lt ?_
  simp [longest]

theorem ways_one_of_pos (h : p c = true) : (one p : Pattern ι).ways (c :: r) = [taking (c :: r) 1] := by
  have hlongest : longest p (some 1) (c :: r) = 1 := by
    simp [longest, List.takeWhile_cons_of_pos h]
  simp [one, ways, hlongest]

/-- A character within the longest run. -/
theorem head_drop_of_lt (h : n < (s.takeWhile p).length) : ∃ c r, s.drop n = c :: r ∧ p c = true := by
  have hs : s.drop n = (s.takeWhile p).drop n ++ s.dropWhile p := by
    conv_lhs => rw [← List.takeWhile_append_dropWhile (p := p) (l := s)]
    exact List.drop_append_of_le_length h.le
  rw [List.drop_eq_getElem_cons h] at hs
  exact ⟨_, _, hs, List.mem_takeWhile_imp (List.getElem_mem h)⟩

/-! ### One part after another -/

theorem flatMap_andThen_eq_nil {ways : List (Way ι)} (h : ∀ v ∈ ways, b.ways v.left = []) :
    ways.flatMap (fun v => (b.ways v.left).map v.andThen) = [] :=
  List.flatMap_eq_nil_iff.2 fun v hv => by rw [h v hv, List.map_nil]

theorem ways_seq_eq_nil (h : ∀ v ∈ a.ways s, b.ways v.left = []) : (seq a b).ways s = [] :=
  flatMap_andThen_eq_nil h

theorem ways_seq_of_ways_eq_nil (h : a.ways s = []) : (seq a b).ways s = [] :=
  ways_seq_eq_nil (by simp [h])

theorem ways_one_seq (h : p c = true) :
    (seq (one p) a).ways (c :: r) = (a.ways r).map (taking (c :: r) 1).andThen := by
  simp [ways, ways_one_of_pos h, taking]

theorem ways_optional_seq :
    (seq (optional a) b).ways s = (seq a b).ways s ++ b.ways s := by
  have hnothing : (taking s 0 : Way ι).andThen = id := rfl
  simp [ways, hnothing, show (taking s 0 : Way ι).left = s from rfl]

/-- The ways that do not lead on are passed over. -/
theorem first?_seq {skipped others : List (Way ι)} (ha : a.ways s = skipped ++ w :: others)
    (hskipped : ∀ v ∈ skipped, b.ways v.left = []) (hb : b.first? w.left = some v) :
    (seq a b).first? s = some (w.andThen v) := by
  have hhead : (b.ways w.left).head? = some v := hb
  simp [first?, ways, ha, flatMap_andThen_eq_nil hskipped, hhead]

/-! ### Refusing a character, settling for a way -/

/-- There is no way through the pattern from a character of the class. -/
def Refuses (a : Pattern ι) (p : Char → Bool) : Prop :=
  ∀ c r, p c = true → a.ways (c :: r) = []

/-- The first way through the pattern; every other one leaves a text that begins with a character of the
class. -/
def Settles (a : Pattern ι) (p : Char → Bool) (s : List Char) (w : Way ι) : Prop :=
  ∃ others, a.ways s = w :: others ∧ ∀ v ∈ others, ∃ c r, v.left = c :: r ∧ p c = true

theorem of_beq {P : Char → Prop} {d : Char} (h : P d) (c : Char) (hc : (c == d) = true) : P c := by
  rwa [beq_iff_eq.1 hc]

theorem beq_eq_false_of_neg {d : Char} (h : p d = false) (c : Char) (hc : p c = true) :
    (c == d) = false := by
  refine beq_eq_false_iff_ne.2 ?_
  rintro rfl
  rw [h] at hc
  cases hc

theorem refuses_run (h : 0 < least) (hq : ∀ c, p c = true → q c = false) :
    (run q least most reluctant : Pattern ι).Refuses p := by
  intro c r hc
  refine ways_run_of_lt ?_
  rwa [longest_cons_of_neg (hq c hc)]

theorem Refuses.group (h : a.Refuses p) : (group name a).Refuses p := by
  intro c r hc
  simp [ways, h c r hc]

theorem Refuses.seq (h : a.Refuses p) : (seq a b).Refuses p := fun c r hc =>
  ways_seq_of_ways_eq_nil (h c r hc)

theorem Refuses.optional_seq (ha : a.Refuses p) (hb : b.Refuses p) :
    (Pattern.seq (optional a) b).Refuses p := by
  intro c r hc
  rw [ways_optional_seq, ha.seq c r hc, hb c r hc, List.append_nil]

/-- Where a run cannot begin, it is passed over. -/
theorem Refuses.many_seq (hq : ∀ c, p c = true → q c = false) (h : b.Refuses p) :
    (Pattern.seq (many q) b).Refuses p := by
  intro c r hc
  have hlongest : longest q none (c :: r) = 0 := longest_cons_of_neg (hq c hc)
  simp [many, ways, hlongest, taking, h c r hc]

theorem settles_run (h : least ≤ longest p most s) :
    (run p least most false : Pattern ι).Settles p s (taking s (longest p most s)) := by
  have hrange : List.range' least (longest p most s + 1 - least) =
      List.range' least (longest p most s - least) ++ [longest p most s] := by
    rw [Nat.sub_add_comm h, List.range'_1_concat, Nat.add_sub_cancel' h]
  refine ⟨(List.range' least (longest p most s - least)).reverse.map (taking s), ?_, fun v hv => ?_⟩
  · simp [ways, hrange]
  · obtain ⟨n, hn, rfl⟩ := List.mem_map.1 hv
    rw [List.mem_reverse, List.mem_range'_1] at hn
    exact head_drop_of_lt (by have := longest_le p most s; omega)

theorem settles_many : (many p : Pattern ι).Settles p s ⟨[], s.takeWhile p, s.dropWhile p⟩ := by
  have h : (many p : Pattern ι).Settles p s (taking s (s.takeWhile p).length) :=
    settles_run (Nat.zero_le _)
  rwa [taking, take_length_takeWhile, drop_length_takeWhile] at h

theorem Settles.group (h : a.Settles p s w) : (group name a).Settles p s (w.named name) := by
  obtain ⟨others, hways, hothers⟩ := h
  refine ⟨others.map (Way.named name), by simp [ways, hways], fun v hv => ?_⟩
  obtain ⟨u, hu, rfl⟩ := List.mem_map.1 hv
  exact hothers u hu

theorem Settles.one_seq (hc : q c = true) (h : a.Settles p r w) :
    (seq (one q) a).Settles p (c :: r) ((taking (c :: r) 1).andThen w) := by
  obtain ⟨others, hways, hothers⟩ := h
  refine ⟨others.map (taking (c :: r) 1).andThen, ?_, fun v hv => ?_⟩
  · rw [ways_one_seq hc, hways, List.map_cons]
  · obtain ⟨u, hu, rfl⟩ := List.mem_map.1 hv
    exact hothers u hu

/-- Only the first way leads on if what follows refuses the characters that the other ways leave. -/
theorem ways_seq_of_settles (ha : a.Settles p s w) (hb : b.Refuses p) :
    (seq a b).ways s = (b.ways w.left).map w.andThen := by
  obtain ⟨others, hways, hothers⟩ := ha
  have hrefused : ∀ v ∈ others, b.ways v.left = [] := by
    intro v hv
    obtain ⟨c, r, hleft, hc⟩ := hothers v hv
    rw [hleft, hb c r hc]
  simp [ways, hways, flatMap_andThen_eq_nil hrefused]

end Pattern

end SpecGrammar.Text
