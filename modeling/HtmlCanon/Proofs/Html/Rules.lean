import HtmlCanon.Html.Insertion
import HtmlCanon.Proofs.Html.Body

/-!
# The rules for the body

What a start tag, an end tag and a text do in the body, when the start tag fits and the end tag is
that of the innermost element.

* `InBody.start_run`, `InBody.void_run` : **a start tag opens its element**, or only puts it there.
* `InBody.stop_run` : **the end tag of the innermost element** closes it.
* `InBody.text_run` : a text goes to the end of the innermost element.
-/

namespace HtmlCanon.Html

open Build Builder Insertion

/-! ### Which rule applies -/

section Names

variable {n m : String} {k l : List String}

theorem beq_false_of_mem (h : n ∈ l) (hm : m ∉ l) : (n == m) = false := by
  rw [beq_eq_false_iff_ne]
  rintro rfl
  exact hm h

theorem beq_false_of_not_mem (h : n ∉ l) (hm : m ∈ l) : (n == m) = false := by
  rw [beq_eq_false_iff_ne]
  rintro rfl
  exact h hm

theorem not_mem_of_mem (h : n ∈ l) (hl : ∀ m ∈ l, m ∉ k) : n ∉ k := hl n h

theorem not_mem_of_not_mem (h : n ∉ l) (hl : ∀ m ∈ k, m ∈ l) : n ∉ k := fun hm => h (hl n hm)

end Names

/-! ### The rules for start tags -/

section StartRules

variable {t : StartTag}

theorem startInBody_block (h : t.name ∈ blockNames) (b : Builder) :
    (startInBody t).run b = (do closeParagraphInScope; insertFor t; done : Build Next).run b := by
  unfold startInBody
  simp (disch := decide) only [beq_false_of_mem h, not_mem_of_mem h, h, if_true, if_false,
    Bool.false_eq_true]
  rfl

theorem startInBody_heading (h : t.name ∈ headingNames) (b : Builder) :
    (startInBody t).run b = (do
      closeParagraphInScope
      if (← get).currentIs Tag.isHeading then pop
      insertFor t
      done : Build Next).run b := by
  unfold startInBody
  rw [headingNames] at h
  simp (disch := decide) only [beq_false_of_mem h, not_mem_of_mem h, h, if_true, if_false,
    Bool.false_eq_true]
  rfl

theorem startInBody_item (h : t.name ∈ itemNames) (b : Builder) :
    (startInBody t).run b = (do
      noFrameset
      closeItem (if t.name == "li" then ["li"] else ["dd", "dt"])
      closeParagraphInScope
      insertFor t
      done : Build Next).run b := by
  unfold startInBody
  rw [itemNames] at h
  simp (disch := decide) only [beq_false_of_mem h, not_mem_of_mem h, h, if_true, if_false,
    Bool.false_eq_true]
  rfl

theorem startInBody_formatting (h : t.name ∈ formattingNames) (b : Builder) :
    (startInBody t).run b = (do reopenFormatting; insertFormatting t; done : Build Next).run b := by
  unfold startInBody
  simp (disch := decide) only [beq_false_of_mem h, not_mem_of_mem h, h, if_true, if_false,
    Bool.false_eq_true]
  rfl

theorem startInBody_anchor (h : t.name = "a") (b : Builder) :
    (startInBody t).run b =
      (do closeAnchor; reopenFormatting; insertFormatting t; done : Build Next).run b := by
  have hm : t.name ∈ ["a"] := by simp [h]
  have he : (t.name == "a") = true := by simp [h]
  unfold startInBody
  simp (disch := decide) only [beq_false_of_mem hm, not_mem_of_mem hm, he, if_true, if_false,
    Bool.false_eq_true]
  rfl

theorem startInBody_nobr (h : t.name = "nobr") (b : Builder) :
    (startInBody t).run b = (do
      reopenFormatting
      if (← get).inScopeNamed Tag.boundsScope "nobr" then
        closeFormatting "nobr"
        reopenFormatting
      insertFormatting t
      done : Build Next).run b := by
  have hm : t.name ∈ ["nobr"] := by simp [h]
  have he : (t.name == "nobr") = true := by simp [h]
  unfold startInBody
  simp (disch := decide) only [beq_false_of_mem hm, not_mem_of_mem hm, he, if_true, if_false,
    Bool.false_eq_true]
  rfl

theorem startInBody_empty (h : t.name ∈ ["area", "br", "embed", "img", "wbr", "input"])
    (b : Builder) : (startInBody t).run b = (do
      reopenFormatting
      insertVoid t
      if !(t.name == "input" && isHidden t) then noFrameset
      done : Build Next).run b := by
  have hm : t.name ∈ ["area", "br", "embed", "img", "keygen", "wbr", "input"] := by
    simp only [List.mem_cons, List.not_mem_nil, or_false] at h ⊢
    tauto
  unfold startInBody
  simp (disch := decide) only [beq_false_of_mem h, not_mem_of_mem h, hm, if_true, if_false,
    Bool.false_eq_true]
  rfl

theorem startInBody_source (h : t.name ∈ ["param", "source", "track"]) (b : Builder) :
    (startInBody t).run b = (do insertVoid t; done : Build Next).run b := by
  unfold startInBody
  simp (disch := decide) only [beq_false_of_mem h, not_mem_of_mem h, h, if_true, if_false,
    Bool.false_eq_true]
  rfl

theorem startInBody_rule (h : t.name = "hr") (b : Builder) :
    (startInBody t).run b =
      (do closeParagraphInScope; insertVoid t; noFrameset; done : Build Next).run b := by
  have hm : t.name ∈ ["hr"] := by simp [h]
  have he : (t.name == "hr") = true := by simp [h]
  unfold startInBody
  simp (disch := decide) only [beq_false_of_mem hm, not_mem_of_mem hm, he, if_true, if_false,
    Bool.false_eq_true]
  rfl

theorem startInBody_other (h : t.name ∉ knownNames) (b : Builder) :
    (startInBody t).run b = (do reopenFormatting; insertFor t; done : Build Next).run b := by
  -- one hypothesis for each known name answers every test of the rules at once
  simp only [knownNames, headNames, blockNames, closableNames, headingNames, itemNames,
    allFormattingNames, formattingNames, emptyNames, List.mem_append, List.mem_cons,
    List.not_mem_nil, or_false, not_or] at h
  unfold startInBody
  simp only [headNames, blockNames, formattingNames, beq_iff_eq, List.mem_cons, List.not_mem_nil,
    or_false, h, if_false]
  rfl

end StartRules

theorem run_seq {α : Type} {x : Build Unit} {y : Build α} {b b' : Builder}
    (h : x.run b = ((), b')) : (do x; y).run b = y.run b' := by
  show (y.run (x.run b).2) = _
  rw [h]

/-! ### The innermost element -/

theorem splitOnce_innermost {b : Builder} {n : String} {i : NodeId} {u : StartTag}
    (hfind : (b.recentFormatting.find? fun (_, u) => u.name == n) = some (i, u))
    (hmem : b.stack.contains i = true) (hscope : b.inScope Tag.boundsScope (· == i) = true)
    (habove : b.stack.takeWhile (· != i) = []) :
    (splitOnce n).run b =
      (false, forget i { b with stack := (b.stack.dropWhile (· != i)).tail }) := by
  unfold splitOnce
  rw [StateT.run_bind, StateT.run_get, pure_bind]
  simp only [hfind, hmem, hscope, habove, Bool.not_true, if_false, List.filter_nil,
    List.getLast?_nil, Bool.false_eq_true]
  rfl

theorem closeFormatting_innermost {b b' : Builder} {n : String}
    (hcur : (b.currentNamed n && b.current?.any fun i => (b.formattingTag? i).isNone) = false)
    (hb : (splitOnce n).run b = (false, b')) : (closeFormatting n).run b = ((), b') := by
  unfold closeFormatting
  rw [StateT.run_bind, StateT.run_get, pure_bind]
  simp only [hcur, if_false, Bool.false_eq_true]
  unfold splitRounds
  rw [StateT.run_bind, hb]
  rfl

theorem closeNamed_innermost {b : Builder} {n : String} {i : NodeId}
    (hfind : (b.stack.find? (b.hasTag fun t => t.isHtml [n] || t.isSpecial)) = some i)
    (hn : b.hasTag (·.isHtml [n]) i = true) (hc : (closeImpliedBut n).run b = ((), b)) :
    (closeNamed n).run b = ((), { b with stack := (b.stack.dropWhile (· != i)).tail }) := by
  unfold closeNamed
  rw [StateT.run_bind, StateT.run_get, pure_bind]
  simp only [hfind, hn, if_true]
  rw [StateT.run_bind, hc]
  rfl

namespace InBody

variable {b : Builder} {tags : List Tag} {fs : List Frame} {f : Frame} {t : Tag}

/-! ### Start tags -/

theorem ne_of_flow (h : t.isFlow = true) {n : String} (hn : isFlowName n = false) : t.name ≠ n := by
  rintro rfl
  simp [Tag.isFlow, hn] at h

theorem not_template (h : t.isFlow = true) : t.isTemplate = false := by
  simp [Tag.isTemplate, ne_of_flow h (n := "template") (by decide)]

theorem insertFor_run (h : InBody b tags (f :: fs)) (hf : t.isFlow = true)
    (hr : t.isReadable = true) : (insertFor t.start).run b = ((), b.opened f.id t) := by
  have hi := h.insert_run (not_template hf)
  show ((), ((insert (htmlTag t.start)).run b).2) = _
  rw [htmlTag_start hr, hi]

theorem insertVoid_run (h : InBody b tags (f :: fs)) (hf : t.isFlow = true)
    (hr : t.isReadable = true) : (insertVoid t.start).run b = ((), b.placed f.id t) := by
  have hi := h.insertClosed_run (not_template hf)
  show ((), ((insertClosed (htmlTag t.start)).run b).2) = _
  rw [htmlTag_start hr, hi]

/-- A frameset is of no concern. -/
theorem noFrameset (h : InBody b tags fs) : InBody { b with framesetOk := false } tags fs :=
  h.congr rfl rfl rfl rfl rfl rfl rfl rfl

theorem noFrameset_run (b : Builder) :
    Build.noFrameset.run b = ((), { b with framesetOk := false }) := rfl

/-- The formatting elements that are the same as a new one are among the open ones of its name. -/
theorem alike_le (h : InBody b tags fs) (hf : t.isFlow = true) (hr : t.isReadable = true) :
    (b.recentFormatting.filter fun (_, u) => htmlTag t.start == htmlTag u).length ≤
      (tags.filter (·.name == t.name)).length := by
  -- neither the body nor the page counts
  have hends : [Tag.plain "body", Tag.plain "html"].countP (·.name == t.name) = 0 := by
    have hbody := ne_of_flow hf (n := "body") (by decide)
    have hhtml := ne_of_flow hf (n := "html") (by decide)
    simp [Tag.plain, hbody.symm, hhtml.symm]
  have hopen : fs.countP (fun g => g.tag.name == t.name) = tags.countP (·.name == t.name) := by
    have hm := congrArg (List.countP fun u : Tag => u.name == t.name) h.frames
    rw [List.countP_map, List.countP_append, hends, Nat.add_zero] at hm
    exact hm
  rw [← List.countP_eq_length_filter, ← List.countP_eq_length_filter, ← hopen, h.recentFormatting,
    List.countP_map, List.countP_filter]
  refine List.countP_mono_left fun g hg => ?_
  intro he
  simp only [Function.comp, Bool.and_eq_true, beq_iff_eq, decide_eq_true_eq] at he
  obtain ⟨hsame, hname⟩ := he
  rcases h.tag_cases hg with hm | hm | hm
  · rw [htmlTag_start hr, htmlTag_start (h.flow _ hm).2] at hsame
    simp [hsame]
  · rw [hm] at hname; exact absurd hname (by decide)
  · rw [hm] at hname; exact absurd hname (by decide)

/-- A formatting element that is one of at most three is opened and noted down. -/
theorem insertFormatting_run (h : InBody b tags (f :: fs)) (hf : t.isFlow = true)
    (hr : t.isReadable = true) (hlt : (tags.filter (·.name == t.name)).length < 3) :
    (insertFormatting t.start).run b = ((), { b.opened f.id t with
      formatting := .element b.arena.cells.size t.start :: b.formatting }) := by
  -- so the rule that forgets the earliest of three alike does not apply
  have hfew : ¬3 ≤ (b.recentFormatting.filter fun (_, u) => htmlTag t.start == htmlTag u).length := by
    have := h.alike_le hf hr
    omega
  have hi := h.insert_run (not_template hf)
  have hrest : (insertFormatting t.start).run b =
      ((), { ((insert (htmlTag t.start)).run b).2 with
        formatting := .element ((insert (htmlTag t.start)).run b).1 t.start ::
          ((insert (htmlTag t.start)).run b).2.formatting }) := by
    change (if 3 ≤ (b.recentFormatting.filter fun (_, u) => htmlTag t.start == htmlTag u).length then
      _ else _ : Build Unit).run b = _
    rw [if_neg hfew]
    rfl
  rw [hrest, htmlTag_start hr, hi]
  rfl

/-- No item is closed if none is open before a special element. -/
theorem closeItem_run (h : InBody b tags fs) {names : List String}
    (hb : endsItem names (Tag.plain "body") = true ∧ (Tag.plain "body").isHtml names = false)
    (hn : (tags.find? (endsItem names)).any (·.name ∈ names) = false) :
    (closeItem names).run b = ((), b) := by
  have hfind : (b.stack.find? (b.hasTag (endsItem names))).bind b.tag? =
      (tags.find? (endsItem names)).or (some (Tag.plain "body")) := by
    -- the search ends at the body at the latest
    have hm : (fs.map Frame.tag).find? (endsItem names) =
        (tags.find? (endsItem names)).or (some (Tag.plain "body")) := by
      rw [h.frames, List.find?_append, List.find?_cons_of_pos hb.1]
    rw [List.find?_map] at hm
    rw [h.find?, ← hm]
    show ((fs.find? (endsItem names ∘ Frame.tag)).map Frame.id).bind b.tag? = _
    cases hg : fs.find? (endsItem names ∘ Frame.tag) with
    | none => rfl
    | some g => exact h.spine.tag? (List.mem_of_find?_eq_some hg)
  have hnot : ∀ t, (tags.find? (endsItem names)).or (some (Tag.plain "body")) = some t →
      t.isHtml names = false := by
    intro t ht
    cases hg : tags.find? (endsItem names) with
    | none =>
      rw [hg] at ht
      obtain rfl := Option.some.inj ht
      exact hb.2
    | some u =>
      rw [hg] at ht hn
      obtain rfl := Option.some.inj ht
      simpa [Tag.isHtml] using fun _ => by simpa using hn
  unfold closeItem
  rw [StateT.run_bind, StateT.run_get, pure_bind]
  dsimp only
  split
  · rename_i t ht
    rw [hnot t (hfind.symm.trans ht)]
    rfl
  · rfl

/-- A step that opens the element of a tag. -/
def Opens (x : Build Next) (b : Builder) (t : Tag) (tags : List Tag) (fs : List Frame) : Prop :=
  ∃ b' i, x.run b = (.done, b') ∧ InBody b' (t :: tags) (⟨i, t, []⟩ :: fs)

theorem insertFor_opens (h : InBody b tags (f :: fs)) (hf : t.isFlow = true)
    (hr : t.isReadable = true) (hn : t.name ∉ allFormattingNames) :
    Opens (do insertFor t.start; done) b t tags (f :: fs) := by
  have hl : (b.opened f.id t).formatting = formattingOf (⟨b.arena.cells.size, t, []⟩ :: f :: fs) := by
    rw [formattingOf, List.filter_cons_of_neg (by simpa using hn)]
    exact h.formatting
  refine ⟨_, b.arena.cells.size, run_seq (h.insertFor_run hf hr), ?_⟩
  exact h.opened hf hr hl

theorem insertFormatting_opens (h : InBody b tags (f :: fs)) (hf : t.isFlow = true)
    (hr : t.isReadable = true) (hn : t.name ∈ allFormattingNames)
    (hlt : (tags.filter (·.name == t.name)).length < 3) :
    Opens (do insertFormatting t.start; done) b t tags (f :: fs) := by
  refine ⟨_, b.arena.cells.size, run_seq (h.insertFormatting_run hf hr hlt), h.opened hf hr ?_⟩
  rw [formattingOf, List.filter_cons_of_pos (by simpa using hn), h.formatting]
  rfl

/-- A step that does nothing may come before. -/
theorem Opens.after {x : Build Unit} {y : Build Next} {b' : Builder} (h : Opens y b' t tags fs)
    (hx : x.run b = ((), b')) : Opens (do x; y) b t tags fs := by
  obtain ⟨c, i, hc, hi⟩ := h
  exact ⟨c, i, (run_seq hx).trans hc, hi⟩

theorem Opens.of_run {x y : Build Next} (h : Opens y b t tags fs) (hx : x.run b = y.run b) :
    Opens x b t tags fs := by
  obtain ⟨c, i, hc, hi⟩ := h
  exact ⟨c, i, hx.trans hc, hi⟩

/-- A step that is not asked for may come before. -/
theorem Opens.skip {c : Builder → Bool} {y z : Build Next} (h : Opens y b t tags fs)
    (hc : c b = false) : Opens (do if c (← get) then z else y) b t tags fs := by
  refine h.of_run ?_
  show (if c b then z else y).run b = _
  rw [hc]
  rfl

theorem block_run (h : InBody b tags (f :: fs)) (hf : t.isFlow = true) (hr : t.isReadable = true)
    (hn : t.name ∈ blockNames) (hp : tags.any (·.name == "p") = false) :
    Opens (startInBody t.start) b t tags (f :: fs) :=
  ((h.insertFor_opens hf hr (not_mem_of_mem hn (by decide))).after
    (h.closeParagraphInScope_run hp)).of_run (startInBody_block hn b)

theorem heading_run (h : InBody b tags (f :: fs)) (hf : t.isFlow = true) (hr : t.isReadable = true)
    (hn : t.name ∈ headingNames) (hp : tags.any (·.name == "p") = false)
    (hc : tags.head?.any (·.name ∈ headingNames) = false) :
    Opens (startInBody t.start) b t tags (f :: fs) := by
  have hnot : b.currentIs Tag.isHeading = false := by
    have hcur : b.currentIs Tag.isHeading = f.tag.isHeading := by
      simp [currentIs, h.current, h.hasTag List.mem_cons_self]
    rw [hcur]
    cases tags with
    | nil =>
      have he : f.tag = Tag.plain "body" := by simpa using congrArg List.head? h.frames
      rw [he]
      decide
    | cons u us =>
      have he : f.tag = u := by simpa using congrArg List.head? h.frames
      have hu : u.name ∉ headingNames := by simpa using hc
      rw [he, Tag.isHeading, Tag.isHtml]
      simpa using fun _ => by simpa [headingNames] using hu
  have ho := h.insertFor_opens hf hr (not_mem_of_mem hn (by decide))
  refine Opens.of_run (Opens.after ?_ (h.closeParagraphInScope_run hp)) (startInBody_heading hn b)
  exact ho.skip (c := fun b => b.currentIs Tag.isHeading) hnot

theorem item_run (h : InBody b tags (f :: fs)) (hf : t.isFlow = true) (hr : t.isReadable = true)
    (hn : t.name ∈ itemNames) (hp : tags.any (·.name == "p") = false)
    (hc : (tags.find? (endsItem (if t.name == "li" then ["li"] else ["dd", "dt"]))).any
      (·.name ∈ if t.name == "li" then ["li"] else ["dd", "dt"]) = false) :
    Opens (startInBody t.start) b t tags (f :: fs) := by
  have ho := h.noFrameset.insertFor_opens hf hr (not_mem_of_mem hn (by decide))
  have hb : ∀ names ∈ [["li"], ["dd", "dt"]], endsItem names (Tag.plain "body") = true ∧
      (Tag.plain "body").isHtml names = false := by decide
  have hclose := h.noFrameset.closeItem_run (hb _ (by split <;> simp)) hc
  exact (((ho.after (h.noFrameset.closeParagraphInScope_run hp)).after hclose).after
    (noFrameset_run b)).of_run (startInBody_item hn b)

theorem formatting_run (h : InBody b tags (f :: fs)) (hf : t.isFlow = true)
    (hr : t.isReadable = true) (hn : t.name ∈ formattingNames)
    (hc : (tags.filter (·.name == t.name)).length < 3) :
    Opens (startInBody t.start) b t tags (f :: fs) :=
  ((h.insertFormatting_opens hf hr (by simp [allFormattingNames, hn]) hc).after
    h.reopenFormatting_run).of_run (startInBody_formatting hn b)

/-- An `a` or `nobr` element that is not open already. -/
theorem single_run (h : InBody b tags (f :: fs)) (hf : t.isFlow = true)
    (hr : t.isReadable = true) (hn : t.name = "a" ∨ t.name = "nobr")
    (hc : tags.any (·.name == t.name) = false) :
    Opens (startInBody t.start) b t tags (f :: fs) := by
  have hnone : tags.filter (·.name == t.name) = [] := by
    rw [List.filter_eq_nil_iff]
    exact List.any_eq_false.1 hc
  have hm : t.name ∈ allFormattingNames := by
    rcases hn with hn | hn <;> rw [hn] <;> decide
  have ho := h.insertFormatting_opens hf hr hm (by rw [hnone]; decide)
  rcases hn with hn | hn
  · have hskip : closeAnchor.run b = ((), b) := by
      have hfind : (b.recentFormatting.find? fun e => b.hasTag (·.isHtml ["a"]) e.1) = none := by
        rw [h.recentFormatting, List.find?_map, Option.map_eq_none_iff, List.find?_eq_none]
        intro g hg
        have hg' := (List.mem_filter.1 hg).1
        simp only [Function.comp, h.hasTag hg']
        rcases h.tag_cases hg' with hm | hm | hm
        · have := List.any_eq_false.1 hc _ hm
          rw [hn] at this
          simp only [Tag.isHtml, Bool.and_eq_true, not_and, List.mem_singleton, decide_eq_true_eq]
          exact fun _ he => this (by simp [he])
        · rw [hm]; decide
        · rw [hm]; decide
      unfold closeAnchor
      rw [StateT.run_bind, StateT.run_get, pure_bind]
      split
      · rfl
      · rename_i i u hopen
        cases hfind.symm.trans hopen
    exact ((ho.after h.reopenFormatting_run).after hskip).of_run (startInBody_anchor hn b)
  · have hs := h.inScopeNamed_of_not_mem (n := "nobr") (by decide) (hn ▸ hc) Tag.boundsScope
    refine Opens.of_run (Opens.after ?_ h.reopenFormatting_run) (startInBody_nobr hn b)
    exact ho.skip (c := fun b => b.inScopeNamed Tag.boundsScope "nobr") hs

theorem other_run (h : InBody b tags (f :: fs)) (hf : t.isFlow = true) (hr : t.isReadable = true)
    (hn : t.name ∉ knownNames) : Opens (startInBody t.start) b t tags (f :: fs) :=
  ((h.insertFor_opens hf hr (not_mem_of_not_mem hn (by decide +kernel))).after
    h.reopenFormatting_run).of_run (startInBody_other hn b)

/-- **A start tag that fits opens its element.** -/
theorem start_run (h : InBody b tags (f :: fs)) (hf : t.isFlow = true) (hr : t.isReadable = true)
    (hfit : fits tags t.name = true) (hv : t.name ∉ Page.voidNames) :
    Opens (startInBody t.start) b t tags (f :: fs) := by
  have hkind := hf
  simp only [Tag.isFlow, isFlowName, Bool.and_eq_true, Bool.or_eq_true, decide_eq_true_eq,
    beq_iff_eq] at hkind
  obtain ⟨-, (((((hn | hn) | hn) | hn) | hn) | hn) | hn⟩ := hkind
  · simp only [fits, hn, decide_true, Bool.true_or, if_true, Bool.not_eq_true'] at hfit
    exact h.block_run hf hr hn hfit
  · simp (disch := decide) only [fits, hn, not_mem_of_mem hn, beq_false_of_mem hn, decide_false,
      Bool.or_self, Bool.false_eq_true, if_true, if_false, Bool.and_eq_true,
      Bool.not_eq_true'] at hfit
    exact h.heading_run hf hr hn hfit.1 hfit.2
  · simp (disch := decide) only [fits, hn, not_mem_of_mem hn, beq_false_of_mem hn, decide_false,
      Bool.or_self, Bool.false_eq_true, if_true, if_false, Bool.and_eq_true,
      Bool.not_eq_true'] at hfit
    exact h.item_run hf hr hn hfit.1 hfit.2
  · rw [allFormattingNames, List.mem_cons, List.mem_cons] at hn
    rcases hn with hn | hn | hn
    · have hfit' : (!tags.any (·.name == t.name)) = true := by
        simpa [fits, hn, blockNames, headingNames, itemNames] using hfit
      exact h.single_run hf hr (.inl hn) (by simpa using hfit')
    · have hfit' : (!tags.any (·.name == t.name)) = true := by
        simpa [fits, hn, blockNames, headingNames, itemNames] using hfit
      exact h.single_run hf hr (.inr hn) (by simpa using hfit')
    · simp (disch := decide) only [fits, hn, not_mem_of_mem hn, beq_false_of_mem hn, decide_false,
        Bool.or_self, Bool.false_eq_true, if_true, if_false, decide_eq_true_eq] at hfit
      exact h.formatting_run hf hr hn hfit
  · have hall : ∀ n ∈ emptyNames, n ∈ Page.voidNames := by decide
    exact absurd (hall _ hn) hv
  · exact absurd hv (by rw [hn]; decide)
  · exact h.other_run hf hr hn

/-- **A start tag of an element without content** puts it there. -/
theorem void_run (h : InBody b tags (f :: fs)) (hf : t.isFlow = true) (hr : t.isReadable = true)
    (hfit : fits tags t.name = true) (hv : t.name ∈ Page.voidNames) :
    ∃ b', (startInBody t.start).run b = (.done, b') ∧
      InBody b' tags (f.add (.element t [] []) :: fs) := by
  have hkind : ∀ n ∈ Page.voidNames, isFlowName n = true → n = "hr" ∨
      n ∈ ["area", "br", "embed", "img", "wbr", "input"] ∨ n ∈ ["param", "source", "track"] := by
    decide
  have hflow := hf
  simp only [Tag.isFlow, Bool.and_eq_true] at hflow
  rcases hkind _ hv hflow.2 with hn | hn | hn
  · have hp : tags.any (·.name == "p") = false := by simpa [fits, hn] using hfit
    have hrun : (do closeParagraphInScope; insertVoid t.start; Build.noFrameset; done : Build Next).run b =
        (.done, { b.placed f.id t with framesetOk := false }) := by
      rw [run_seq (h.closeParagraphInScope_run hp), run_seq (h.insertVoid_run hf hr)]
      rfl
    exact ⟨_, (startInBody_rule hn b).trans hrun, (h.placed t).noFrameset⟩
  · -- only a field that is not shown leaves the frameset possible
    obtain ⟨b', hb, hin⟩ : ∃ b', (do
        if !(t.start.name == "input" && isHidden t.start) then Build.noFrameset
        done : Build Next).run (b.placed f.id t) = (.done, b') ∧
          InBody b' tags (f.add (.element t [] []) :: fs) := by
      cases hc : !(t.start.name == "input" && isHidden t.start) with
      | true => exact ⟨_, rfl, (h.placed t).noFrameset⟩
      | false => exact ⟨_, rfl, h.placed t⟩
    refine ⟨b', (startInBody_empty hn b).trans ?_, hin⟩
    rw [run_seq h.reopenFormatting_run, run_seq (h.insertVoid_run hf hr)]
    exact hb
  · refine ⟨_, (startInBody_source hn b).trans ?_, h.placed t⟩
    rw [run_seq (h.insertVoid_run hf hr)]
    rfl

/-! ### End tags -/

section Stop

variable {g : Frame}

theorem popTo_run (h : InBody b tags (f :: fs)) {p : Tag → Bool} (hp : p f.tag = true) :
    (popTo p).run b = ((), b) := by
  have hs : (b.stack.dropWhile fun i => !b.hasTag p i) = b.stack := by
    rw [h.stack, List.map_cons, List.dropWhile_cons_of_neg]
    simp [h.hasTag List.mem_cons_self, hp]
  show ((), { b with stack := b.stack.dropWhile fun i => !b.hasTag p i }) = _
  rw [hs]

/-- An element that is searched for and is innermost is the only one to be closed. -/
theorem popThrough_run (h : InBody b tags (f :: fs)) {p : Tag → Bool} (hp : p f.tag = true) :
    (popThrough p).run b = ((), { b with stack := b.stack.tail }) := by
  unfold popThrough
  rw [run_seq (h.popTo_run hp)]
  rfl

theorem closeImplied_run (h : InBody b tags (f :: fs)) {p : Tag → Bool} (hp : p f.tag = false) :
    (closeImplied p).run b = ((), b) := h.popTo_run (by simp [hp])

/-- The end of the innermost element, if it is no formatting element. -/
theorem closed_plain (h : InBody b (t :: tags) (f :: g :: fs)) (hn : t.name ∉ allFormattingNames) :
    InBody { b with stack := b.stack.tail } tags (g.add f.node :: fs) := by
  have ht : f.tag = t := by simpa using congrArg List.head? h.frames
  refine h.closed (l := b.formatting) ?_
  rw [h.formatting, formattingOf, List.filter_cons_of_neg (by simpa [ht] using hn)]
  rfl

/-- A step that closes the innermost element. -/
def Closes (x : Build Next) (b : Builder) (tags : List Tag) (f g : Frame) (fs : List Frame) : Prop :=
  ∃ b', x.run b = (.done, b') ∧ InBody b' tags (g.add f.node :: fs)

theorem stopInBody_closable {n : String} (h : n ∈ closableNames) (b : Builder) :
    (stopInBody n).run b = (do
      if (← get).inScopeNamed Tag.boundsScope n then
        closeImplied Tag.isImplied
        popThroughNamed n
      done : Build Next).run b := by
  unfold stopInBody
  simp (disch := decide) only [beq_false_of_mem h, h, if_true, if_false, Bool.false_eq_true]

theorem stopInBody_item {n : String} (h : n ∈ itemNames) (b : Builder) :
    (stopInBody n).run b = (do
      if (← get).inScopeNamed (if n == "li" then Tag.boundsListScope else Tag.boundsScope) n then
        closeImpliedBut n
        popThroughNamed n
      done : Build Next).run b := by
  unfold stopInBody
  rw [itemNames] at h
  simp (disch := decide) only [beq_false_of_mem h, not_mem_of_mem h, h, if_true, if_false,
    Bool.false_eq_true]

theorem stopInBody_heading {n : String} (h : n ∈ headingNames) (b : Builder) :
    (stopInBody n).run b = (do
      if (← get).inScope Tag.boundsScope (b.hasTag Tag.isHeading) then
        closeImplied Tag.isImplied
        popThrough Tag.isHeading
      done : Build Next).run b := by
  unfold stopInBody
  rw [headingNames] at h
  simp (disch := decide) only [beq_false_of_mem h, not_mem_of_mem h, h, if_true, if_false,
    Bool.false_eq_true]
  rfl

theorem stopInBody_formatting {n : String} (h : n ∈ allFormattingNames) (b : Builder) :
    (stopInBody n).run b = (do closeFormatting n; done : Build Next).run b := by
  unfold stopInBody
  rw [allFormattingNames] at h
  simp (disch := decide) only [beq_false_of_mem h, not_mem_of_mem h, h, if_true, if_false,
    Bool.false_eq_true]
  rfl

theorem stopInBody_other {n : String} (h : n ∉ knownNames) (b : Builder) :
    (stopInBody n).run b = (do closeNamed n; done : Build Next).run b := by
  unfold stopInBody
  simp (disch := decide +kernel) only [beq_false_of_not_mem h, not_mem_of_not_mem h, if_false,
    Bool.false_eq_true]
  rfl

theorem stopInBody_paragraph {n : String} (h : n = "p") (b : Builder) :
    (stopInBody n).run b = (do
      if !(← get).inScopeNamed Tag.boundsButtonScope "p" then insertImplied "p"
      closeParagraph
      done : Build Next).run b := by
  have hm : n ∈ ["p"] := by simp [h]
  have he : (n == "p") = true := by simp [h]
  unfold stopInBody
  simp (disch := decide) only [beq_false_of_mem hm, not_mem_of_mem hm, he, if_true, if_false,
    Bool.false_eq_true]

/-- The rules that close the innermost element after a look at what is in scope. -/
theorem closes_of_scope (h : InBody b (t :: tags) (f :: g :: fs)) (hn : t.name ∉ allFormattingNames)
    {x : Build Unit} {y : Build Next} {c : Builder → Bool} (hc : c b = true)
    (hx : x.run b = ((), b)) {p : Tag → Bool} (hp : p f.tag = true) {n : String}
    (hr : (stopInBody n).run b =
      (do if c (← get) then do x; popThrough p; done else y : Build Next).run b) :
    Closes (stopInBody n) b tags f g fs := by
  refine ⟨_, ?_, h.closed_plain hn⟩
  rw [hr]
  show (if c b then (do x; popThrough p; done) else y : Build Next).run b = _
  rw [hc, if_pos rfl, run_seq hx, run_seq (h.popThrough_run hp)]
  rfl

/-- The ids of open elements differ. -/
theorem id_ne (h : InBody b tags (f :: fs)) (hg : g ∈ fs) : g.id ≠ f.id :=
  Nat.ne_of_lt (h.spine.2.id_lt hg)

/-- **A formatting element that is innermost** is closed and not kept for reopening. -/
theorem closeFormatting_run (h : InBody b (t :: tags) (f :: g :: fs))
    (hn : t.name ∈ allFormattingNames) :
    (closeFormatting t.name).run b = ((), { b with
      stack := b.stack.tail
      formatting := formattingOf (g :: fs) }) := by
  have ht : f.tag = t := by simpa using congrArg List.head? h.frames
  have hlist : b.formatting = .element f.id t.start :: formattingOf (g :: fs) := by
    rw [h.formatting, formattingOf, List.filter_cons_of_pos (by simpa [ht] using hn), ← ht]
    rfl
  have hrecent : (b.recentFormatting.find? fun (_, u) => u.name == t.name) = some (f.id, t.start) := by
    rw [h.recentFormatting, List.filter_cons_of_pos (by simpa [ht] using hn), List.map_cons, ht,
      List.find?_cons_of_pos (by simp [Tag.start])]
  -- no other entry has the number of the innermost element
  have hforget : (formattingOf (g :: fs)).filter (!isEntryOf f.id ·) = formattingOf (g :: fs) := by
    rw [List.filter_eq_self]
    intro e he
    obtain ⟨k, hk, rfl⟩ := List.mem_map.1 he
    have := h.id_ne (List.mem_filter.1 hk).1
    simp [isEntryOf, this.symm]
  -- it is still in the list, so the short way out is not taken
  have hkept : (b.currentNamed t.name && b.current?.any fun i => (b.formattingTag? i).isNone) = false := by
    simp [h.current, formattingTag?, hlist]
  have hstack : b.stack = f.id :: (g :: fs).map Frame.id := h.stack
  have honce := splitOnce_innermost hrecent (by simp [hstack])
    (h.inScope_current Tag.boundsScope (by simp)) (by simp [hstack])
  have hbelow : b.stack.dropWhile (· != f.id) = b.stack := by simp [hstack]
  have hlater : b.formatting.filter (!isEntryOf f.id ·) = formattingOf (g :: fs) := by
    rw [hlist, List.filter_cons_of_neg (by simp [isEntryOf]), hforget]
  rw [closeFormatting_innermost hkept honce, hbelow]
  show ((), { b with stack := b.stack.tail, formatting := b.formatting.filter (!isEntryOf f.id ·) }) = _
  rw [hlater]

/-- **The end tag of the innermost element closes it.** -/
theorem stop_run (h : InBody b (t :: tags) (f :: g :: fs)) (hv : t.name ∉ Page.voidNames) :
    Closes (stopInBody t.name) b tags f g fs := by
  have ht : f.tag = t := by simpa using congrArg List.head? h.frames
  have hspace : f.tag.space = .html := h.space List.mem_cons_self
  have hname : f.tag.isHtml [t.name] = true := by simp [Tag.isHtml, hspace, ← ht]
  have hbut : (f.tag.isImplied && f.tag.name != t.name) = false := by simp [ht]
  have hscope : ∀ bounds, b.inScopeNamed bounds t.name = true := fun bounds =>
    h.inScope_current bounds ((h.hasTag List.mem_cons_self _).trans hname)
  have himplied : ∀ l : List String, t.name ∈ l →
      (∀ n ∈ l, n ∉ ["dd", "dt", "li", "option", "optgroup", "p", "rb", "rp", "rt", "rtc"]) →
      f.tag.isImplied = false := by
    intro l hl hd
    simp [Tag.isImplied, Tag.isHtml, ht, hd _ hl]
  have hkind := (h.flow t List.mem_cons_self).1
  simp only [Tag.isFlow, isFlowName, Bool.and_eq_true, Bool.or_eq_true, decide_eq_true_eq,
    beq_iff_eq] at hkind
  obtain ⟨-, (((((hn | hn) | hn) | hn) | hn) | hn) | hn⟩ := hkind
  · have hblock : ∀ n ∈ blockNames, n = "p" ∨ n ∈ closableNames := by decide
    have hplain := not_mem_of_mem (k := allFormattingNames) hn (by decide)
    rcases hblock _ hn with hp | hc
    · refine ⟨_, ?_, h.closed_plain hplain⟩
      have hpar : closeParagraph.run b = ((), { b with stack := b.stack.tail }) := by
        have himp : (closeImpliedBut "p").run b = ((), b) := h.closeImplied_run (hp ▸ hbut)
        exact (run_seq himp).trans (h.popThrough_run (hp ▸ hname))
      rw [stopInBody_paragraph hp]
      show (if !b.inScopeNamed Tag.boundsButtonScope "p" then (do insertImplied "p"; closeParagraph; done)
        else (do closeParagraph; done) : Build Next).run b = _
      rw [← hp, hscope, if_neg (by decide), run_seq hpar]
      rfl
    · exact h.closes_of_scope hplain (c := fun b => b.inScopeNamed Tag.boundsScope t.name) (hscope _)
        (h.closeImplied_run (himplied _ hc (by decide))) hname (stopInBody_closable hc b)
  · have hheading : f.tag.isHeading = true := by
      rw [Tag.isHeading, Tag.isHtml, hspace, ht]
      simpa [headingNames] using hn
    exact h.closes_of_scope (not_mem_of_mem hn (by decide))
      (c := fun b' => b'.inScope Tag.boundsScope (b.hasTag Tag.isHeading))
      (h.inScope_current _ ((h.hasTag List.mem_cons_self _).trans hheading))
      (h.closeImplied_run (himplied _ hn (by decide))) hheading (stopInBody_heading hn b)
  · exact h.closes_of_scope (not_mem_of_mem hn (by decide))
      (c := fun b => b.inScopeNamed (if t.name == "li" then Tag.boundsListScope else Tag.boundsScope)
        t.name) (hscope _)
      (h.closeImplied_run hbut) hname (stopInBody_item hn b)
  · refine ⟨_, ?_, h.closed rfl⟩
    rw [stopInBody_formatting hn, run_seq (h.closeFormatting_run hn)]
    rfl
  · have hall : ∀ n ∈ emptyNames, n ∈ Page.voidNames := by decide
    exact absurd (hall _ hn) hv
  · exact absurd (by rw [hn]; decide) hv
  · refine ⟨_, ?_, h.closed_plain (not_mem_of_not_mem hn (by decide +kernel))⟩
    have hstack : b.stack = f.id :: (g :: fs).map Frame.id := h.stack
    have hfind : b.stack.find? (b.hasTag fun u => u.isHtml [t.name] || u.isSpecial) = some f.id := by
      rw [hstack, List.find?_cons_of_pos]
      rw [h.hasTag List.mem_cons_self, hname, Bool.true_or]
    have hbelow : b.stack.dropWhile (· != f.id) = b.stack := by simp [hstack]
    rw [stopInBody_other hn, run_seq (closeNamed_innermost hfind
      ((h.hasTag List.mem_cons_self _).trans hname) (h.closeImplied_run hbut)), hbelow]
    rfl

end Stop

/-! ### Texts -/

/-- **A text goes to the end of the innermost element.** -/
theorem text_run (h : InBody b tags (f :: fs)) (u : Text) :
    ∃ b', (inBody (.text u)).run b = (.done, b') ∧ InBody b' tags (f.write u :: fs) := by
  have htext : ∀ {c : Builder}, InBody c tags (f :: fs) →
      (text u).run c = ((), { c with arena := c.arena.appendText f.id u }) := by
    intro c hc
    show ((), { c with arena := c.arena.putText c.place u }) = _
    rw [hc.place]
    rfl
  cases hs : isSpaces u with
  | true =>
    refine ⟨_, ?_, h.written u⟩
    show (do
      reopenFormatting
      if !isSpaces u then Build.noFrameset
      text u
      done : Build Next).run b = _
    rw [hs]
    exact (run_seq h.reopenFormatting_run).trans (run_seq (htext h))
  | false =>
    refine ⟨_, ?_, h.noFrameset.written u⟩
    show (do
      reopenFormatting
      if !isSpaces u then Build.noFrameset
      text u
      done : Build Next).run b = _
    rw [hs]
    exact (run_seq h.reopenFormatting_run).trans ((run_seq (noFrameset_run b)).trans
      (run_seq (htext h.noFrameset)))

end InBody

end HtmlCanon.Html
