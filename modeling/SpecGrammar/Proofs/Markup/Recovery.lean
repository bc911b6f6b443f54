import SpecGrammar.Proofs.Markup.Scanning

/-!
# Recovering the grammar elements of a document

The tree that is built for a document that is written out holds its grammar elements, in order and
within the elements that they stand in.

* `Attributes.attribute?_read`: what is read of an element has the values of its attributes;
* `Builder.closeTag_push`: an element that is opened and closed again is one node;
* `Builder.add_selfClosing`, `Builder.add_void`, `Builder.not_mem_voidElements_of_open`: elements that
  end at once, and that nothing is ever put into those that cannot have content;
* `build_adds`, `buildAll_adds`: the nodes that contents add to the innermost open element, and the
  fragments in them;
* `extractFragments_of_showsAll`, `extractFragments_writeAll`: the fragments of a document.
-/

namespace SpecGrammar.Markup

/-! ### Attributes -/

/-- Of attributes without two of the same name, the last with a name is the first. -/
theorem find?_reverse_of_nodup {entries : List (Name × Option (List Char))} (name : List Char)
    (h : (entries.map (·.1)).Nodup) :
    entries.reverse.find? (·.1.letters == name) = entries.find? (·.1.letters == name) := by
  induction entries with
  | nil => rfl
  | cons entry entries ih =>
    rw [List.map_cons, List.nodup_cons] at h
    rw [List.reverse_cons, List.find?_append, ih h.2]
    cases hname : entry.1.letters == name with
    | false => simp [hname]
    | true =>
      have hnone : entries.find? (·.1.letters == name) = none := by
        rw [List.find?_eq_none]
        intro other hother heq
        refine h.1 (List.mem_map.2 ⟨other, hother, Name.ext ?_⟩)
        exact (eq_of_beq heq).trans (eq_of_beq hname).symm
      simp [hname, hnone]

namespace Attributes

theorem attribute?_read (attributes : Attributes) (name : String) :
    attribute? attributes.read name.toList = attributes.value? name := by
  rw [attribute?, read, value?, ← List.map_reverse, List.find?_map, Option.map_map]
  exact congrArg _ (find?_reverse_of_nodup name.toList attributes.distinct)

theorem identifier?_read (attributes : Attributes) :
    Markup.identifier? attributes.read = attributes.identifier? := by
  rw [Markup.identifier?, attribute?_read, identifier?]

end Attributes

/-! ### Nodes -/

theorem fragmentsWithin_append (around : List (Option (List Char))) (l r : List Node) :
    fragmentsWithin around (l ++ r) = fragmentsWithin around l ++ fragmentsWithin around r := by
  induction l with
  | nil => rfl
  | cons node l ih => rw [List.cons_append, fragmentsWithin, fragmentsWithin, ih, List.append_assoc]

namespace Builder

variable {b b' : Builder} {nodes before after : List Node}

/-- The tree without the run of text being read. -/
def settled (b : Builder) : Builder := { b with run := none }

/-- Puts nodes, one after the other, at the end of the innermost open element. -/
def appendAll (b : Builder) (nodes : List Node) : Builder := nodes.foldl append b

theorem appendAll_append (b : Builder) (l r : List Node) :
    b.appendAll (l ++ r) = (b.appendAll l).appendAll r := List.foldl_append

theorem appendAll_frames {frame : Frame} {frames : List Frame} (h : b.frames = frame :: frames) :
    b.appendAll nodes =
      { b with frames := { frame with children := frame.children ++ nodes } :: frames } := by
  induction nodes generalizing b frame with
  | nil => simp [appendAll, ← h]
  | cons node nodes ih =>
    have hone : b.append node =
        { b with frames := { frame with children := frame.children ++ [node] } :: frames } := by
      simp [append, h]
    show (b.append node).appendAll nodes = _
    rw [ih (b := b.append node) (by rw [hone]), hone]
    simp

theorem appendAll_top (h : b.frames = []) :
    b.appendAll nodes = { b with top := b.top ++ nodes } := by
  induction nodes generalizing b with
  | nil => simp [appendAll]
  | cons node nodes ih =>
    have hone : b.append node = { b with top := b.top ++ [node] } := by simp [append, h]
    show (b.append node).appendAll nodes = _
    rw [ih (b := b.append node) (by rw [hone]; exact h), hone]
    simp

theorem settled_appendAll (b : Builder) (nodes : List Node) :
    (b.appendAll nodes).settled = b.settled.appendAll nodes := by
  cases h : b.frames with
  | nil => rw [appendAll_top h, appendAll_top (b := b.settled) h]; rfl
  | cons frame frames => rw [appendAll_frames h, appendAll_frames (b := b.settled) h]; rfl

theorem settled_appendAll_settled (b : Builder) (nodes : List Node) :
    (b.settled.appendAll nodes).settled = b.settled.appendAll nodes :=
  settled_appendAll b.settled nodes

theorem appendAll_passed (b : Builder) (nodes : List Node) :
    (b.appendAll nodes).passed = b.passed := by
  cases h : b.frames with
  | nil => rw [appendAll_top h]
  | cons frame frames => rw [appendAll_frames h]

theorem appendAll_within (b : Builder) (nodes : List Node) (names : List (List Char)) :
    (b.appendAll nodes).within names = b.within names := by
  cases h : b.frames with
  | nil => rw [appendAll_top h]; rfl
  | cons frame frames => rw [appendAll_frames h]; simp [within, h]

/-! ### Runs of text -/

theorem addEach_of_ne_nil (b : Builder) {s : List Char} (h : s ≠ []) :
    b.addEach s = b.addText s := by
  induction s generalizing b with
  | nil => exact absurd rfl h
  | cons c r ih =>
    cases r with
    | nil => rfl
    | cons d r =>
      show (b.addText [c]).addEach (d :: r) = _
      rw [ih _ (by simp), addText_addText]
      rfl

theorem flush_run (b : Builder) : b.flush.run = none := by
  unfold flush
  split
  · assumption
  · unfold append
    split <;> rfl

theorem settled_addEach (b : Builder) (s : List Char) : (b.addEach s).settled = b.settled := by
  cases s with
  | nil => rfl
  | cons c r => rw [addEach_of_ne_nil b (by simp)]; rfl

/-- Ending the run of text adds no fragments. -/
theorem flush_eq (b : Builder) :
    ∃ texts, b.flush = b.settled.appendAll texts ∧
      ∀ around, fragmentsWithin around texts = [] := by
  cases h : b.run with
  | none =>
    have hsettled : b.settled = b := by rw [settled, ← h]
    exact ⟨[], by rw [flush, h, hsettled]; rfl, fun _ => rfl⟩
  | some run => exact ⟨[_], by simp only [flush, h]; rfl, fun _ => rfl⟩

/-- A run that is not made of plain white space only is kept as it is. -/
theorem flush_addEach (hrun : b.run = none) (hshown : b.within hiddenElements = false)
    (text : VisibleText) :
    (b.addEach text.text).flush = (b.addEach text.text).settled.appendAll [.text true text.text] := by
  have hne : text.text ≠ [] := by
    intro h
    have := text.visible
    simp [h] at this
  have hadded : (b.addText text.text).run = some text.text := by simp [addText, hrun]
  have hkept : (b.addText text.text).kept text.text = text.text := by
    simp [kept, text.visible]
  have hwithin : (b.addText text.text).within hiddenElements = false := hshown
  rw [addEach_of_ne_nil b hne, flush, hadded]
  simp only [hkept, hwithin, Bool.not_false]
  rfl

/-- No end tag is to be passed over, and the text is shown. -/
structure Ready (b : Builder) : Prop where
  passed : b.passed = []
  shown : b.within hiddenElements = false

theorem Ready.of_settled (h : b.Ready) (heq : b'.settled = b.settled.appendAll nodes) : b'.Ready where
  passed := by
    have := congrArg Builder.passed heq
    rw [appendAll_passed] at this
    exact this.trans h.passed
  shown := by
    have := congrArg (Builder.within · hiddenElements) heq
    simp only [appendAll_within] at this
    exact this.trans h.shown

theorem Ready.push (h : b.Ready) {name : List Char} (hname : name ∉ hiddenElements)
    (attributes : List Attribute) : (b.push name attributes).Ready := by
  obtain ⟨texts, hflush, -⟩ := b.flush_eq
  have hready : b.flush.Ready := h.of_settled (by rw [hflush, settled_appendAll_settled])
  have hwithin : (b.push name attributes).within hiddenElements =
      (hiddenElements.contains name || b.flush.within hiddenElements) := rfl
  exact ⟨hready.passed, by simpa [hwithin, hready.shown] using hname⟩

/-- An element that is opened and, after its contents, closed again is one node, with the runs of text
that its tags end before it and at its end. -/
theorem closeTag_push {name : List Char} {attributes : List Attribute} (hpassed : b'.passed = [])
    (hbefore : b.flush = b.settled.appendAll before)
    (hinner : b'.settled = (b.push name attributes).settled.appendAll nodes)
    (hafter : b'.flush = b'.settled.appendAll after) :
    b'.closeTag name =
      b.settled.appendAll (before ++ [.element name attributes (nodes ++ after)]) := by
  have hsettled : b.flush.settled = b.settled.appendAll before := by
    rw [hbefore, settled_appendAll_settled]
  have hflush : b'.flush = { b.flush.settled with
      frames := ⟨name, attributes, nodes ++ after⟩ :: b.flush.frames } := by
    have hframes : (b.push name attributes).settled.frames =
        ⟨name, attributes, []⟩ :: b.flush.frames := rfl
    rw [hafter, hinner, ← appendAll_append, appendAll_frames hframes]
    rfl
  -- the element is the innermost one again, so it is the first of its name
  have hclose : b'.closeTag name =
      b.flush.settled.append (.element name attributes (nodes ++ after)) := by
    rw [closeTag, hpassed, close, hflush]
    simp [List.findIdx?_cons, Nat.repeat, pop, settled]
  rw [hclose, hsettled, appendAll_append]
  rfl

/-! ### Elements that end at once -/

theorem flush_passed (b : Builder) : b.flush.passed = b.passed := by
  obtain ⟨texts, hflush, -⟩ := b.flush_eq
  rw [hflush, appendAll_passed]
  rfl

/-- An element that is ended with nothing in between is a node without children. -/
theorem close_push (b : Builder) (name : List Char) (attributes : List Attribute) :
    (b.push name attributes).close name = b.flush.append (.element name attributes []) := by
  have hrun : (b.push name attributes).run = none := b.flush_run
  have hflush : (b.push name attributes).flush = b.push name attributes := by simp only [flush, hrun]
  rw [close, hflush]
  simp [push, List.findIdx?_cons, Nat.repeat, pop]

theorem add_selfClosing (b : Builder) (name : List Char) (attributes : List Attribute) :
    b.add (.opening name attributes true) = b.flush.append (.element name attributes []) :=
  b.close_push name attributes

/-- A tag of an element that cannot have content does what one that closes itself does, and an end tag
of its name is passed over later. -/
theorem add_void (b : Builder) {name : List Char} (h : name ∈ voidElements)
    (attributes : List Attribute) :
    b.add (.opening name attributes false) =
      { b.add (.opening name attributes true) with passed := b.passed ++ [name] } := by
  have hcontains : voidElements.contains name = true := List.contains_iff_mem.2 h
  have hpassed : (b.flush.append (.element name attributes [])).passed = b.passed :=
    (appendAll_passed b.flush [_]).trans b.flush_passed
  simp only [add, hcontains, if_true, close_push, hpassed]

/-- The names of the open elements, the innermost first. -/
def openNames (b : Builder) : List (List Char) := b.frames.map (·.name)

theorem openNames_append (b : Builder) (node : Node) :
    (b.append node).openNames = b.openNames := by
  unfold append openNames
  split
  · rfl
  · rename_i h
    rw [h]
    rfl

theorem openNames_flush (b : Builder) : b.flush.openNames = b.openNames := by
  unfold flush
  split
  · rfl
  · exact openNames_append _ _

theorem openNames_pop (b : Builder) : b.pop.openNames = b.openNames.tail := by
  unfold pop
  split
  · rename_i h
    simp [openNames, h]
  · rename_i frame r h
    rw [openNames_append]
    simp [openNames, h]

theorem openNames_repeat_pop (b : Builder) (n : Nat) :
    (n.repeat pop b).openNames = b.openNames.drop n := by
  induction n with
  | zero => rfl
  | succ n ih =>
    show (n.repeat pop b).pop.openNames = _
    rw [openNames_pop, ih, List.tail_drop]

theorem openNames_close (b : Builder) (name : List Char) :
    (b.close name).openNames <:+ b.openNames := by
  unfold close
  dsimp only
  split
  · rw [openNames_flush]
  · rw [openNames_repeat_pop, openNames_flush]
    exact List.drop_suffix _ _

/-- A token ends some of the innermost elements, or it opens one that can have content. -/
theorem openNames_add (b : Builder) (token : Token) :
    (b.add token).openNames <:+ b.openNames ∨
      ∃ name ∉ voidElements, (b.add token).openNames = name :: b.openNames := by
  have hended (name : List Char) (attributes : List Attribute) :
      (b.add (.opening name attributes true)).openNames = b.openNames := by
    rw [add_selfClosing, openNames_append, openNames_flush]
  cases token with
  | text text => exact .inl List.suffix_rfl
  | opening name attributes closed =>
    cases closed with
    | true => exact .inl (by rw [hended])
    | false =>
      by_cases h : name ∈ voidElements
      · rw [add_void b h]
        exact .inl (hended name attributes ▸ List.suffix_rfl)
      · have hcontains : voidElements.contains name = false := by simpa using h
        refine .inr ⟨name, h, ?_⟩
        simp only [add, hcontains]
        show name :: b.flush.openNames = _
        rw [openNames_flush]
  | closing name =>
    show (b.closeTag name).openNames <:+ _ ∨ _
    unfold closeTag
    split
    · exact .inl List.suffix_rfl
    · exact .inl (b.openNames_close name)
  | remark => exact .inl (b.openNames_flush ▸ List.suffix_rfl)
  | verbatim text =>
    refine .inl ?_
    show (b.flush.append _).openNames <:+ _
    rw [openNames_append, openNames_flush]

/-- Whatever is read, no element that cannot have content is ever open, so that none of them holds
anything. -/
theorem not_mem_voidElements_of_open (tokens : List Token) {name : List Char}
    (h : name ∈ (tokens.foldl add {}).openNames) : name ∉ voidElements := by
  induction tokens using List.reverseRecOn generalizing name with
  | nil => simp [openNames] at h
  | append_singleton tokens token ih =>
    rw [List.foldl_append] at h
    obtain hkept | ⟨opened, hopened, hadded⟩ := openNames_add (tokens.foldl add {}) token
    · exact ih (hkept.subset h)
    · simp only [List.foldl_cons, List.foldl_nil, hadded, List.mem_cons] at h
      obtain rfl | h := h
      · exact hopened
      · exact ih h

end Builder

-- the end tag of the first `br` is still to be passed over when the second one closes itself
example :
    (extractFragments "<div id=q><br>x<br/><emu-grammar>z</emu-grammar></div>".toList).toOption.map
      (·.map (·.sectionIds)) = some [[some "q".toList]] := by
  decide +kernel

/-! ### Contents -/

/-- The fragment of a grammar element that holds one text. -/
theorem fragmentOf_read (leaf : Leaf) :
    fragmentOf (leaf.around.map Attributes.identifier?) leaf.attributes.read
      [.text true leaf.text] = leaf.fragment 0 := by
  simp only [fragmentOf, Leaf.fragment, Attributes.attribute?_read, shownTexts, Node.shownText,
    if_true, List.append_nil]
  rfl

/-- From one tree to another, nodes are added to the innermost open element that hold the grammar
elements of some contents. -/
def Adds (b b' : Builder) (contents : List Content) : Prop :=
  ∃ nodes, b'.settled = b.settled.appendAll nodes ∧
    ∀ around, fragmentsWithin (around.map Attributes.identifier?) nodes =
      (leavesAll around contents).map (·.fragment 0)

-- By induction on the contents. Runs of text are left out on both sides: which node a run ends up in
-- depends on what stands before it, but none of the fragments does.
mutual

theorem build_adds (content : Content) {b : Builder} (h : b.Ready) :
    Adds b (content.build b) [content] := by
  cases content with
  | text text =>
    refine ⟨[], by rw [Content.build, b.settled_addEach]; rfl, fun around => ?_⟩
    simp [fragmentsWithin, leavesAll, Content.leaves]
  | grammar attributes text =>
    obtain ⟨before, hbefore, hnone⟩ := b.flush_eq
    have hready := h.push (by decide : grammarElement ∉ hiddenElements) attributes.read
    have hinner : ((b.push grammarElement attributes.read).addEach text.text).settled =
        (b.push grammarElement attributes.read).settled.appendAll [] :=
      Builder.settled_addEach _ text.text
    have hclose := Builder.closeTag_push (hready.of_settled hinner).passed hbefore hinner
      (Builder.flush_addEach (b := b.push grammarElement attributes.read) b.flush_run hready.shown
        text)
    refine ⟨_, by rw [Content.build, hclose, Builder.settled_appendAll_settled], fun around => ?_⟩
    rw [fragmentsWithin_append, hnone]
    simp [fragmentsWithin, Node.fragments, leavesAll, Content.leaves,
      fragmentOf_read ⟨around, attributes, text.text⟩]
  | element name attributes children =>
    obtain ⟨before, hbefore, hnone⟩ := b.flush_eq
    have hready := h.push name.not_mem_hiddenElements attributes.read
    obtain ⟨nodes, hinner, hfragments⟩ := buildAll_adds children hready
    obtain ⟨after, hafter, hnone'⟩ :=
      (buildAll children (b.push name.letters attributes.read)).flush_eq
    have hclose :=
      Builder.closeTag_push (hready.of_settled hinner).passed hbefore hinner hafter
    refine ⟨_, by rw [Content.build, hclose, Builder.settled_appendAll_settled], fun around => ?_⟩
    have hinside := hfragments (attributes :: around)
    rw [List.map_cons] at hinside
    rw [fragmentsWithin_append, hnone]
    simp [fragmentsWithin, Node.fragments, leavesAll, Content.leaves, name.ne_grammarElement,
      fragmentsWithin_append, hnone', attributes.identifier?_read, hinside]

theorem buildAll_adds (contents : List Content) {b : Builder} (h : b.Ready) :
    Adds b (buildAll contents b) contents := by
  cases contents with
  | nil => exact ⟨[], rfl, fun around => rfl⟩
  | cons content r =>
    obtain ⟨nodes, heq, hfragments⟩ := build_adds content h
    obtain ⟨nodes', heq', hfragments'⟩ := buildAll_adds r (h.of_settled heq)
    refine ⟨nodes ++ nodes', ?_, fun around => ?_⟩
    · rw [buildAll, heq', heq, Builder.appendAll_append]
    · rw [fragmentsWithin_append, hfragments, hfragments']
      simp [leavesAll]

end

/-- The fragments of a document are its grammar elements, whichever way its texts are written. -/
theorem extractFragments_of_showsAll {contents : List Content} {html : List Char}
    (h : ShowsAll contents html) :
    extractFragments html =
      .ok ((leavesAll [] contents).mapIdx fun index leaf => leaf.fragment index) := by
  obtain ⟨tokens, htokens, hbuilt⟩ := (hasEffect_of_showsAll h).nodes_eq
  obtain ⟨nodes, heq, hfragments⟩ := buildAll_adds contents (b := {}) ⟨rfl, rfl⟩
  obtain ⟨after, hafter, hnone⟩ := (buildAll contents {}).flush_eq
  have hfinish : (buildAll contents {}).finish = nodes ++ after := by
    rw [Builder.finish, hafter, heq, ← Builder.appendAll_append, Builder.appendAll_top rfl]
    rfl
  have hfound : fragmentsWithin [] (Markup.nodes tokens) =
      (leavesAll [] contents).map (·.fragment 0) := by
    rw [hbuilt, hfinish, fragmentsWithin_append, hnone, List.append_nil]
    exact hfragments []
  rw [extractFragments, htokens]
  show Except.ok ((fragmentsWithin [] (Markup.nodes tokens)).mapIdx _) = _
  rw [hfound]
  exact congrArg Except.ok (List.ext_getElem (by simp) fun i _ _ => by simp [Leaf.fragment])

/-- The fragments of a document are its grammar elements, numbered in order, each with its text, its
attributes and the identifiers of the elements around it. -/
theorem extractFragments_writeAll (contents : List Content) :
    extractFragments (writeAll contents) =
      .ok ((leavesAll [] contents).mapIdx fun index leaf => leaf.fragment index) :=
  extractFragments_of_showsAll (showsAll_writeAll contents)

example :
    writeAll
      [.element ⟨⟨"section".toList, by decide, by decide⟩, by decide⟩
        ⟨[(⟨"id".toList, by decide, by decide⟩, some "outer".toList)], by decide⟩
        [.text "R&D".toList,
          .grammar ⟨[(⟨"example".toList, by decide, by decide⟩, none)], by decide⟩
            ⟨"A : `b`".toList, by decide⟩]] =
      "<section id=\"outer\">R&amp;D<emu-grammar example>A : `b`</emu-grammar></section>".toList := by
  cbv

end SpecGrammar.Markup
