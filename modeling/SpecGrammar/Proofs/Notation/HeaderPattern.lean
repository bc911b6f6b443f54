import SpecGrammar.Proofs.Notation.Header
import SpecGrammar.Proofs.Text.Pattern

/-!
# Headers as a pattern

A header is also the text of a pattern with greedy, optional and reluctant parts.

* `Header.pattern`: the pattern, with a group for each part of a header;
* `Header.match?_eq_parse?`: whatever the line, the groups of the first way through the pattern are the
  header that is read from the line, and if there is no way, none is read.

The name, the bracketed part, the white space and the colons are runs that what follows them cannot
continue, so only the longest ones lead on. The rest is the one part that is found by trying: it grows
until nothing but white space is left.
-/

namespace SpecGrammar.Notation.Header

open Text (Blank Pattern Way)
open Text.Pattern

/-- The groups of the pattern. -/
inductive Group
  | name | bracketed | colons | rest
  deriving DecidableEq, Repr

def nameGroup : Pattern Group := .group .name (.seq (.one isNameStart) (.many Text.isWord))

def bracketedGroup : Pattern Group :=
  .group .bracketed (.seq (.one (· == '[')) (.seq (.many (· != ']')) (.one (· == ']'))))

def colonsGroup : Pattern Group := .group .colons (.run (· == ':') 1 (some 3) false)

def restGroup : Pattern Group :=
  .group .rest (.seq (.one fun c => !Text.isBlank c) (.run (· != '\n') 0 none true))

def endPattern : Pattern Group := .seq (.many Text.isBlank) .ending

def spacedRest : Pattern Group := .seq (.run Text.isBlank 1 none false) restGroup

def tailPattern : Pattern Group := .seq (.optional spacedRest) endPattern

def colonsPattern : Pattern Group := .seq colonsGroup tailPattern

def gapPattern : Pattern Group := .seq (.many Text.isBlank) colonsPattern

/-- A name, a bracketed part, white space, colons, and a rest behind white space. -/
def pattern : Pattern Group := .seq nameGroup (.seq (.optional bracketedGroup) gapPattern)

/-- The header that groups make up. -/
def ofGroups? (groups : List (Group × List Char)) : Option Header := do
  let name ← groups.lookup .name
  let colons ← groups.lookup .colons
  return { name, bracketed := groups.lookup .bracketed, colons := colons.length,
           rest := groups.lookup .rest }

/-- The groups that the pattern finds at the start of a text. -/
def groups? (x : Pattern Group) (s : List Char) : Option (List (Group × List Char)) :=
  (x.first? s).map Way.groups

/-- The header that the pattern finds in a line. -/
def match? (line : List Char) : Option Header :=
  (groups? pattern line).bind ofGroups?

variable {x y : Pattern Group} {w : Way Group} {a b s t r q : List Char} {c : Char} {n : Nat}

theorem groups?_eq_none (h : x.ways s = []) : groups? x s = none := by
  simp [groups?, Pattern.first?, h]

theorem groups?_congr (h : x.ways s = y.ways t) : groups? x s = groups? y t := by
  simp only [groups?, Pattern.first?, h]

theorem groups?_eq_map (h : x.ways s = (y.ways t).map w.andThen) :
    groups? x s = (groups? y t).map (w.groups ++ ·) := by
  simp only [groups?, Pattern.first?, h, List.head?_map, Option.map_map]
  rfl

/-! ### What cannot be gone on with -/

theorem refuses_colonsPattern {p : Char → Bool} (h : ∀ c, p c = true → (c == ':') = false) :
    colonsPattern.Refuses p :=
  (refuses_run (by decide) h).group.seq

theorem refuses_gapPattern {p : Char → Bool} (hblank : ∀ c, p c = true → Text.isBlank c = false)
    (hcolon : ∀ c, p c = true → (c == ':') = false) : gapPattern.Refuses p :=
  .many_seq hblank (refuses_colonsPattern hcolon)

theorem refuses_restGroup : restGroup.Refuses Text.isBlank :=
  (refuses_run (by decide) fun c hc => by simp [hc]).seq.group

theorem refuses_tailPattern : tailPattern.Refuses (· == ':') := by
  have hblank : ∀ c : Char, (c == ':') = true → Text.isBlank c = false := of_beq (by decide)
  have hending : (ending : Pattern Group).Refuses (· == ':') := fun c r hc => by
    simp [ways, beq_iff_eq.1 hc]
  exact .optional_seq (refuses_run (by decide) hblank).seq (.many_seq hblank hending)

/-! ### The end and the rest -/

theorem ways_endPattern (h : ¬ Blank s) : endPattern.ways s = [] := by
  refine ways_seq_eq_nil fun w hw => ?_
  obtain ⟨n, -, hn, rfl⟩ := mem_ways_run.1 hw
  have hread : Blank (s.take n) := by
    intro c hc
    have hbeginning : s.take n <+: s.takeWhile Text.isBlank := by
      rw [List.prefix_iff_eq_take.1 (List.takeWhile_prefix Text.isBlank)]
      exact List.take_prefix_take_left hn
    exact List.mem_takeWhile_imp (hbeginning.subset hc)
  refine if_neg fun hleft => h ?_
  have hblank : Blank (s.drop n) := by
    change s.drop n = [] ∨ s.drop n = ['\n'] at hleft
    rcases hleft with hnil | hfeed
    · simp [hnil, Blank]
    · rw [hfeed]
      exact List.forall_mem_singleton.2 (by decide)
  exact List.take_append_drop n s ▸ hread.append hblank

theorem first?_endPattern (h : Blank s) : endPattern.first? s = some ⟨[], s, []⟩ := by
  obtain ⟨others, hways, -⟩ : (many Text.isBlank : Pattern Group).Settles Text.isBlank s _ :=
    settles_many
  rw [List.takeWhile_eq_self_iff.2 h, List.dropWhile_eq_nil_iff.2 h, ← List.nil_append (_ :: _)]
    at hways
  have hnil : (ending : Pattern Group).first? [] = some (taking [] 0) := by
    simp [Pattern.first?, ways]
  have hfirst := first?_seq hways (by simp) hnil
  rwa [show (Way.andThen ⟨[], s, []⟩ (taking [] 0) : Way Group) = ⟨[], s, []⟩ by
    simp [Way.andThen, taking]] at hfirst

theorem ways_restGroup (h : Blank s) : restGroup.ways s = [] := by
  cases s with
  | nil => simp [restGroup, ways]
  | cons c r => exact refuses_restGroup c r (h c (by simp))

/-- The rest ends after each of the characters behind its first one on the same line, the fewer the
earlier. -/
theorem ways_spacedRest (ha : Blank a) (hne : a ≠ []) (hc : Text.isBlank c = false) :
    spacedRest.ways (a ++ c :: r) =
      (List.range ((r.takeWhile (· != '\n')).length + 1)).map fun n =>
        ⟨[(.rest, c :: r.take n)], a ++ c :: r.take n, r.drop n⟩ := by
  have hlongest : longest Text.isBlank none (a ++ c :: r) = a.length := by
    show ((a ++ c :: r).takeWhile Text.isBlank).length = a.length
    rw [Text.takeWhile_append_of_head ha (by simpa using hc)]
  have hsettles : (run Text.isBlank 1 none false : Pattern Group).Settles Text.isBlank (a ++ c :: r)
      (taking (a ++ c :: r) (longest Text.isBlank none (a ++ c :: r))) :=
    settles_run (by rw [hlongest]; exact List.length_pos_of_ne_nil hne)
  have hone : (one fun c => !Text.isBlank c : Pattern Group).ways (c :: r) = [taking (c :: r) 1] :=
    ways_one_of_pos (by simp [hc])
  rw [spacedRest, ways_seq_of_settles hsettles refuses_restGroup, hlongest]
  simp [restGroup, ways, hone, taking, longest, Way.andThen, Way.named, List.range_eq_range',
    Function.comp_def]

/-- The end of a text is not reached where a part of it that does not end in white space goes on. -/
theorem not_blank_drop (h : Text.trim (c :: q) = c :: q) (hn : n < q.length) :
    ¬ Blank (q.drop n ++ b) := by
  intro hblank
  obtain ⟨q, d, rfl⟩ := (List.eq_nil_or_concat' q).resolve_left (by rintro rfl; simp at hn)
  have hd : d ∈ (q ++ [d]).drop n := by
    rw [List.drop_append_of_le_length (by simp at hn; omega)]
    simp
  have hlast : Text.isBlank d = false := Text.isBlank_last_of_trim (s := c :: q) h
  rw [hblank d (by simp [hd])] at hlast
  cases hlast

theorem ways_spacedRest_of_blank (h : Blank s) : spacedRest.ways s = [] := by
  refine ways_seq_eq_nil fun w hw => ?_
  obtain ⟨n, -, -, rfl⟩ := mem_ways_run.1 hw
  exact ways_restGroup fun c hc => h c (List.mem_of_mem_drop hc)

theorem ways_spacedRest_of_head (h : Text.isBlank c = false) : spacedRest.ways (c :: r) = [] :=
  (refuses_run (p := fun c => !Text.isBlank c) (by decide) (by simp)).seq c r (by simp [h])

theorem groups?_tailPattern_of_blank (h : Blank s) : groups? tailPattern s = some [] := by
  have hways : tailPattern.ways s = endPattern.ways s := by
    rw [tailPattern, ways_optional_seq, ways_seq_of_ways_eq_nil (ways_spacedRest_of_blank h),
      List.nil_append]
  rw [groups?_congr hways, groups?, first?_endPattern h, Option.map_some]

theorem ways_tailPattern_of_mem (hc : Text.isBlank c = false) (h : c ∈ s) :
    tailPattern.ways s = (Pattern.seq spacedRest endPattern).ways s := by
  have hend : endPattern.ways s = [] := ways_endPattern fun hblank => by
    rw [hblank c h] at hc
    cases hc
  rw [tailPattern, ways_optional_seq, hend, List.append_nil]

theorem groups?_tailPattern_of_head (hc : Text.isBlank c = false) :
    groups? tailPattern (c :: r) = none := by
  rw [groups?_congr (ways_tailPattern_of_mem hc (by simp))]
  exact groups?_eq_none (ways_seq_of_ways_eq_nil (ways_spacedRest_of_head hc))

/-- The rest is tried from its first character on until only white space is left. -/
theorem groups?_tailPattern_of_text (ha : Blank a) (hne : a ≠ []) (hb : Blank b)
    (htrim : Text.trim (c :: q) = c :: q) :
    groups? tailPattern (a ++ c :: (q ++ b)) =
      if '\n' ∈ q then none else some [(.rest, c :: q)] := by
  have hc : Text.isBlank c = false := Text.isBlank_head_of_trim htrim c rfl
  have hearly : ∀ n < q.length, endPattern.ways ((q ++ b).drop n) = [] := by
    intro n hn
    rw [List.drop_append_of_le_length hn.le]
    exact ways_endPattern (not_blank_drop htrim hn)
  rw [groups?_congr (ways_tailPattern_of_mem hc (by simp))]
  have hspaced := ways_spacedRest (r := q ++ b) ha hne hc
  split
  case isTrue hline =>
    -- no way gets past the line feed, so each of them leaves more than white space
    obtain ⟨u, v, rfl, hu⟩ := List.eq_append_cons_of_mem hline
    have hrun : ((u ++ '\n' :: v ++ b).takeWhile (· != '\n')).length = u.length := by
      rw [List.append_assoc, Text.takeWhile_append_of_head (fun d hd => ?_) (by simp)]
      rw [bne_iff_ne]
      rintro rfl
      exact hu hd
    refine groups?_eq_none (ways_seq_eq_nil fun w hw => ?_)
    rw [hspaced, hrun] at hw
    obtain ⟨n, hn, rfl⟩ := List.mem_map.1 hw
    exact hearly n (by simp at hn ⊢; omega)
  case isFalse hline =>
    have hrun : (q ++ b).takeWhile (· != '\n') = q ++ b.takeWhile (· != '\n') := by
      refine List.takeWhile_append_of_pos fun d hd => ?_
      rw [bne_iff_ne]
      rintro rfl
      exact hline hd
    -- the ways before the one that takes just `q` do not lead on, and that one does
    rw [hrun, List.length_append, Nat.add_assoc, List.range_add, List.range_succ_eq_map,
      List.map_cons, List.map_append, List.map_cons] at hspaced
    have hfirst := first?_seq hspaced (fun w hw => ?_) (b := endPattern) (v := ⟨[], b, []⟩) ?_
    · rw [groups?, hfirst]
      simp [Way.andThen]
    · obtain ⟨n, hn, rfl⟩ := List.mem_map.1 hw
      exact hearly n (List.mem_range.1 hn)
    · rw [Nat.add_zero, List.drop_left]
      exact first?_endPattern hb

theorem groups?_tailPattern (s : List Char) :
    groups? tailPattern s = (rest? s).map fun rest => rest.toList.map (Group.rest, ·) := by
  obtain ⟨a, b, ha, hb, hs⟩ := Text.exists_eq_trim_padded s
  cases htrim : Text.trim s with
  | nil =>
    have hblank : Blank s := Text.blank_of_trim htrim
    rw [groups?_tailPattern_of_blank hblank, rest?_eq_some_iff.2 (.absent hblank)]
    rfl
  | cons c q =>
    have htext : Text.trim (c :: q) = c :: q := htrim ▸ Text.trim_trim s
    have hc : Text.isBlank c = false := Text.isBlank_head_of_trim htext c rfl
    have hfeed : '\n' ≠ c := by
      rintro rfl
      exact absurd hc (by decide)
    rw [htrim, List.append_assoc, List.cons_append] at hs
    unfold rest?
    rw [htrim]
    by_cases hne : a = []
    · subst hne
      rw [hs, List.nil_append, groups?_tailPattern_of_head hc]
      simp [hc]
    · have hhead : s.head?.any Text.isBlank = true := by
        obtain ⟨d, a, rfl⟩ := List.exists_cons_of_ne_nil hne
        simp [hs, ha d]
      rw [hhead, hs, groups?_tailPattern_of_text ha hne hb htext]
      by_cases hline : '\n' ∈ q <;> simp [hline, hfeed]

/-! ### The parts before the rest -/

theorem groups?_colonsPattern (s : List Char) :
    groups? colonsPattern s =
      if 1 ≤ (s.takeWhile (· == ':')).length ∧ (s.takeWhile (· == ':')).length ≤ 3 then
        (groups? tailPattern (s.drop (s.takeWhile (· == ':')).length)).map
          ((.colons, s.takeWhile (· == ':')) :: ·)
      else none := by
  have hlongest : longest (· == ':') (some 3) s = min (s.takeWhile (· == ':')).length 3 := rfl
  split
  case isTrue h =>
    rw [min_eq_left h.2] at hlongest
    have hsettles : colonsGroup.Settles (· == ':') s
        ((taking s (s.takeWhile (· == ':')).length).named .colons) :=
      hlongest ▸ (settles_run (by omega)).group
    rw [colonsPattern, groups?_eq_map (ways_seq_of_settles hsettles refuses_tailPattern)]
    simp [Way.named, taking, Text.take_length_takeWhile]
  case isFalse h =>
    refine groups?_eq_none ?_
    by_cases hnone : (s.takeWhile (· == ':')).length < 1
    · have hrun : colonsGroup.ways s = [] := by
        rw [colonsGroup, Pattern.ways, ways_run_of_lt (by omega), List.map_nil]
      exact ways_seq_of_ways_eq_nil hrun
    · -- a fourth colon stands where only white space could
      rw [min_eq_right (by omega)] at hlongest
      have hsettles : colonsGroup.Settles (· == ':') s ((taking s 3).named .colons) :=
        hlongest ▸ (settles_run (by omega)).group
      obtain ⟨c, r, hleft, hc⟩ := head_drop_of_lt (p := (· == ':')) (s := s) (n := 3) (by omega)
      rw [colonsPattern, ways_seq_of_settles hsettles refuses_tailPattern]
      show (tailPattern.ways (s.drop 3)).map _ = []
      rw [hleft, refuses_tailPattern c r hc, List.map_nil]

theorem groups?_gapPattern (s : List Char) :
    groups? gapPattern s = groups? colonsPattern (Text.trimStart s) := by
  have hrefuses : colonsPattern.Refuses Text.isBlank :=
    refuses_colonsPattern (beq_eq_false_of_neg (by decide))
  rw [gapPattern, groups?_eq_map (ways_seq_of_settles settles_many hrefuses)]
  exact congrFun Option.map_id _

theorem ways_bracketedGroup (r : List Char) :
    bracketedGroup.ways ('[' :: r) =
      match r.dropWhile (· != ']') with
      | [] => []
      | _ :: after =>
        [⟨[(.bracketed, '[' :: r.takeWhile (· != ']') ++ [']'])],
          '[' :: r.takeWhile (· != ']') ++ [']'], after⟩] := by
  have hclosing : (one (· == ']') : Pattern Group).Refuses (· != ']') :=
    refuses_run (by decide) fun c hc => by simpa using hc
  rw [bracketedGroup, Pattern.ways, ways_one_seq (by decide),
    ways_seq_of_settles settles_many hclosing]
  cases hafter : r.dropWhile (· != ']') with
  | nil => simp
  | cons c after =>
    obtain rfl : c = ']' := by
      have hhead := List.head?_dropWhile_not (· != ']') r
      rw [hafter] at hhead
      simpa using hhead
    rw [ways_one_of_pos (by decide)]
    simp [taking, Way.andThen, Way.named]

theorem groups?_bracketed (s : List Char) :
    groups? (.seq (.optional bracketedGroup) gapPattern) s =
      (splitBracketed? s).bind fun (bracketed, after) =>
        (groups? gapPattern after).map (bracketed.toList.map (Group.bracketed, ·) ++ ·) := by
  unfold splitBracketed?
  split
  case h_1 r =>
    have hgap : gapPattern.ways ('[' :: r) = [] :=
      refuses_gapPattern (p := (· == '[')) (of_beq (by decide)) (of_beq (by decide)) '[' r rfl
    have hways : (Pattern.seq (.optional bracketedGroup) gapPattern).ways ('[' :: r) =
        (Pattern.seq bracketedGroup gapPattern).ways ('[' :: r) := by
      rw [ways_optional_seq, hgap, List.append_nil]
    dsimp only
    rw [Text.drop_length_takeWhile]
    split
    case h_1 hafter =>
      rw [groups?_congr hways]
      exact groups?_eq_none (ways_seq_of_ways_eq_nil (by rw [ways_bracketedGroup, hafter]))
    case h_2 after hafter =>
      refine groups?_eq_map (w := ⟨_, '[' :: r.takeWhile (· != ']') ++ [']'], after⟩) ?_
      rw [hways, Pattern.ways, ways_bracketedGroup, hafter, List.flatMap_singleton]
      rfl
  case h_2 hs =>
    have hnone : bracketedGroup.ways s = [] := by
      cases s with
      | nil => simp [bracketedGroup, ways]
      | cons c r =>
        refine (refuses_run (p := (· != '[')) (by decide) fun c hc => ?_).seq.group c r ?_
        · simpa using hc
        · rw [bne_iff_ne]
          rintro rfl
          exact hs r rfl
    have hways : (Pattern.seq (.optional bracketedGroup) gapPattern).ways s = gapPattern.ways s := by
      rw [ways_optional_seq, ways_seq_of_ways_eq_nil hnone, List.nil_append]
    rw [groups?_congr hways]
    exact (congrFun Option.map_id _).symm

theorem groups?_pattern (c : Char) (r : List Char) :
    groups? pattern (c :: r) =
      if isNameStart c then
        (groups? (.seq (.optional bracketedGroup) gapPattern) (r.dropWhile Text.isWord)).map
          ((.name, c :: r.takeWhile Text.isWord) :: ·)
      else none := by
  have hrefuses : (Pattern.seq (.optional bracketedGroup) gapPattern).Refuses Text.isWord :=
    .optional_seq (refuses_run (by decide) (beq_eq_false_of_neg (by decide))).seq.group
      (refuses_gapPattern (fun _ => Text.isBlank_of_isWord) (beq_eq_false_of_neg (by decide)))
  split
  case isTrue hc =>
    have hsettles : nameGroup.Settles Text.isWord (c :: r) _ := (settles_many.one_seq hc).group
    exact groups?_eq_map (ways_seq_of_settles hsettles hrefuses)
  case isFalse hc =>
    have hname : nameGroup.Refuses fun c => !isNameStart c :=
      (refuses_run (by decide) (by simp)).seq.group
    exact groups?_eq_none (hname.seq c r (by simpa using hc))

theorem ofGroups?_parts (name colons : List Char) (bracketed rest : Option (List Char)) :
    ofGroups? ((.name, name) :: (bracketed.toList.map (Group.bracketed, ·) ++
      (.colons, colons) :: rest.toList.map (Group.rest, ·))) =
      some ⟨name, bracketed, colons.length, rest⟩ := by
  cases bracketed <;> cases rest <;> rfl

/-- The first way through the pattern finds the header that is read, and there is none if none is. -/
theorem match?_eq_parse? (line : List Char) : match? line = parse? line := by
  cases line with
  | nil =>
    have hname : nameGroup.ways [] = [] := by simp [nameGroup, ways]
    rw [match?, pattern, groups?_eq_none (ways_seq_of_ways_eq_nil hname)]
    rfl
  | cons c r =>
    rw [match?, groups?_pattern, parse?]
    split
    case isFalse => rfl
    case isTrue =>
      rw [groups?_bracketed]
      cases splitBracketed? (r.dropWhile Text.isWord) with
      | none => rfl
      | some found =>
        obtain ⟨bracketed, after⟩ := found
        simp only [Option.bind_some, Option.bind_eq_bind, groups?_gapPattern, groups?_colonsPattern,
          groups?_tailPattern, Bool.and_eq_true, decide_eq_true_eq]
        split
        case isFalse => rfl
        case isTrue =>
          cases rest? ((Text.trimStart after).drop ((Text.trimStart after).takeWhile (· == ':')).length) with
          | none => rfl
          | some rest => exact ofGroups?_parts _ _ _ _

/-- However many of four colons are tried, one of them is left. -/
example : match? "A ::::".toList = none := by decide

end SpecGrammar.Notation.Header
