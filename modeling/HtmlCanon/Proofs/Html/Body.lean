import HtmlCanon.Html.Insertion
import HtmlCanon.Proofs.Html.Arena
import HtmlCanon.Proofs.Html.Lexeme

/-!
# Building the body

What the builder makes of the tags and texts of a page in canonical form, as long as no start tag
closes anything: elements are opened and closed one inside the other, and texts go to the innermost
of them.

* `InBody` : the state between two tokens, with the elements that are open.
* `InBody.opened`, `InBody.closed`, `InBody.written` : **what becomes of it** when an element is
  opened, when the innermost one is closed, and when a text is added.
-/

namespace HtmlCanon.Html

open Build Builder Insertion

/-! ### Elements of the body -/

/-- Headings. -/
def headingNames : List String := ["h1", "h2", "h3", "h4", "h5", "h6"]

/-- Items of lists. -/
def itemNames : List String := ["li", "dd", "dt"]

/-- The formatting elements. -/
def allFormattingNames : List String := "a" :: "nobr" :: formattingNames

/-- The elements without content that may stand anywhere. -/
def emptyNames : List String :=
  ["area", "br", "embed", "img", "wbr", "input", "param", "source", "track"]

/-- The names that the rules for the body know. -/
def knownNames : List String :=
  headNames ++ blockNames ++ closableNames ++ headingNames ++ itemNames ++ allFormattingNames ++
    emptyNames ++
    ["html", "body", "frameset", "pre", "form", "plaintext", "applet", "marquee", "object", "table",
      "keygen", "hr", "image", "textarea", "xmp", "iframe", "noembed", "noscript", "select",
      "optgroup", "option", "rb", "rtc", "rp", "rt", "math", "svg", "caption", "col", "colgroup",
      "frame", "head", "tbody", "td", "tfoot", "th", "thead", "tr"]

/-- The elements of the body that this theory covers: those that are opened and closed by rules of
their own, but without a mode of their own, and those that the rules do not know. -/
def isFlowName (n : String) : Bool :=
  n ∈ blockNames || n ∈ headingNames || n ∈ itemNames || n ∈ allFormattingNames ||
    n ∈ emptyNames || n == "hr" || n ∉ knownNames

/-- Whether a tag is one of HTML with such a name. -/
def Tag.isFlow (t : Tag) : Bool := t.space == .html && isFlowName t.name

/-- Whether an open element ends the search for an item to close. -/
def endsItem (names : List String) (t : Tag) : Bool :=
  t.isHtml names || (t.isSpecial && !t.isHtml ["address", "div", "p"])

/-- Whether a start tag opens its element below the open ones, innermost first, and closes none of
them. -/
def fits (tags : List Tag) (n : String) : Bool :=
  if n ∈ blockNames || n == "hr" then !tags.any (·.name == "p")
  else if n ∈ headingNames then
    !tags.any (·.name == "p") && !tags.head?.any (·.name ∈ headingNames)
  else if n ∈ itemNames then
    let names := if n == "li" then ["li"] else ["dd", "dt"]
    !tags.any (·.name == "p") && !(tags.find? (endsItem names)).any (·.name ∈ names)
  else if n == "a" || n == "nobr" then !tags.any (·.name == n)
  else if n ∈ formattingNames then (tags.filter (·.name == n)).length < 3
  else n ∈ emptyNames || n ∉ knownNames

/-- A token is read by the rules of the mode. -/
theorem settle_again {n : Nat} {b b' : Builder} {tok : Token} {next : Next} (hf : isForeign b tok = false)
    (hr : (rules b.mode tok).run b = (next, b')) :
    (settle (n + 1) (.again tok)).run b = (settle n next).run b' := by
  have hs : (settle (n + 1) (.again tok)).run b =
      (settle n ((if isForeign b tok then inForeign tok else rules b.mode tok).run b).1).run
        ((if isForeign b tok then inForeign tok else rules b.mode tok).run b).2 := by
    cases hc : isForeign b tok <;>
    · show (do settle n (← if isForeign b tok then inForeign tok else rules b.mode tok) :
        Build Unit).run b = _
      rw [hc]
      rfl
  rw [hs, hf, if_neg (by decide), hr]

/-! ### The state in the body -/

/-- The formatting elements among open ones. -/
def formattingOf (fs : List Frame) : List Formatting :=
  (fs.filter fun f => f.tag.name ∈ allFormattingNames).map fun f => .element f.id f.tag.start

/-- The builder between two tokens in the body, with the elements of `fs` open, innermost first.
`tags` are the tags of those below the body. -/
structure InBody (b : Builder) (tags : List Tag) (fs : List Frame) : Prop where
  mode : b.mode = .inBody
  templateModes : b.templateModes = []
  reading : b.reading = .markup
  skipNewline : b.skipNewline = false
  fostering : b.fostering = false
  stack : b.stack = fs.map Frame.id
  spine : b.arena.Spine [] b.arena.cells.size [] fs
  formatting : b.formatting = formattingOf fs
  frames : fs.map Frame.tag = tags ++ [Tag.plain "body", Tag.plain "html"]
  flow : ∀ t ∈ tags, t.isFlow = true ∧ t.isReadable = true

namespace Builder

/-- The builder with a new element at the end of another. -/
def placed (b : Builder) (i : NodeId) (t : Tag) : Builder :=
  { b with arena := (b.arena.add (.element t none)).1.append i b.arena.cells.size }

/-- The builder that has opened a new element at the end of another. -/
def opened (b : Builder) (i : NodeId) (t : Tag) : Builder :=
  { b.placed i t with stack := b.arena.cells.size :: b.stack }

end Builder

namespace InBody

variable {b : Builder} {tags : List Tag} {fs : List Frame} {f : Frame}

theorem hasTag (h : InBody b tags fs) (hf : f ∈ fs) (p : Tag → Bool) : b.hasTag p f.id = p f.tag := by
  simp [Builder.hasTag, Builder.tag?, h.spine.tag? hf]

/-- Searching the open elements is searching their tags. -/
theorem find? (h : InBody b tags fs) (p : Tag → Bool) :
    b.stack.find? (b.hasTag p) = (fs.find? fun f => p f.tag).map Frame.id := by
  -- the induction is on a part of the frames, all of which are open
  have hp : ∀ gs : List Frame, (∀ f ∈ gs, f ∈ fs) →
      (gs.map Frame.id).find? (b.hasTag p) = (gs.find? fun f => p f.tag).map Frame.id := by
    intro gs hg
    induction gs with
    | nil => rfl
    | cons g gs ih =>
      have hgs := ih fun f hf => hg f (List.mem_cons_of_mem _ hf)
      rw [List.map_cons, List.find?_cons, List.find?_cons, h.hasTag (hg g List.mem_cons_self)]
      cases p g.tag <;> simp [hgs]
  rw [h.stack]
  exact hp fs fun f hf => hf

theorem current (h : InBody b tags (f :: fs)) : b.current? = some f.id := by
  simp [Builder.current?, h.stack]

theorem space (h : InBody b tags fs) (hf : f ∈ fs) : f.tag.space = .html := by
  have hm : f.tag ∈ tags ++ [Tag.plain "body", Tag.plain "html"] :=
    h.frames ▸ List.mem_map_of_mem hf
  rcases List.mem_append.1 hm with ht | ht
  · have := (h.flow _ ht).1
    simp only [Tag.isFlow, Bool.and_eq_true, beq_iff_eq] at this
    exact this.1
  · simp only [List.mem_cons, List.not_mem_nil, or_false] at ht
    rcases ht with ht | ht <;> rw [ht] <;> rfl

/-- In the body no token is read by the rules of SVG and MathML. -/
theorem not_foreign (h : InBody b tags (f :: fs)) (tok : Token) : isForeign b tok = false := by
  have ht : b.current?.bind b.tag? = some f.tag := by
    simp [h.current, Builder.tag?, h.spine.tag? List.mem_cons_self]
  have hs := h.space List.mem_cons_self
  unfold isForeign
  split
  · rfl
  · rfl
  · rename_i t _ he
    rw [ht] at he
    obtain rfl := Option.some.inj he
    simp [hs]

theorem settle_done (n : Nat) (b : Builder) : (settle n .done).run b = ((), b) := by
  cases n <;> rfl

/-- **A token is settled by one step** of the rules for the body. -/
theorem settle_run (h : InBody b tags (f :: fs)) {tok : Token} {b' : Builder}
    (hr : (inBody tok).run b = (.done, b')) (n : Nat) :
    (settle (n + 1) (.again tok)).run b = ((), b') := by
  have hrules : (rules b.mode tok).run b = (.done, b') := by rw [h.mode]; exact hr
  rw [settle_again (h.not_foreign tok) hrules]
  exact settle_done n b'

theorem settleToken_run (h : InBody b tags (f :: fs)) {tok : Token} {b' : Builder}
    (hr : (inBody tok).run b = (.done, b')) : (settleToken tok).run b = ((), b') :=
  h.settle_run hr (8 * (b.stack.length + b.templateModes.length) + 31)

/-- Fields that no rule of the body asks for may change. -/
theorem congr {b' : Builder} (h : InBody b tags fs) (hmode : b'.mode = b.mode)
    (hmodes : b'.templateModes = b.templateModes) (hreading : b'.reading = b.reading)
    (hskip : b'.skipNewline = b.skipNewline) (hfoster : b'.fostering = b.fostering)
    (hstack : b'.stack = b.stack) (harena : b'.arena = b.arena)
    (hformatting : b'.formatting = b.formatting) : InBody b' tags fs :=
  ⟨hmode.trans h.mode, hmodes.trans h.templateModes, hreading.trans h.reading,
    hskip.trans h.skipNewline, hfoster.trans h.fostering, hstack.trans h.stack, harena ▸ h.spine,
    hformatting.trans h.formatting, h.frames, h.flow⟩

/-- Tags of the body have a frame, and so have the body and the page. -/
theorem tag_cases (h : InBody b tags fs) (hf : f ∈ fs) :
    f.tag ∈ tags ∨ f.tag = Tag.plain "body" ∨ f.tag = Tag.plain "html" := by
  have hm : f.tag ∈ tags ++ [Tag.plain "body", Tag.plain "html"] :=
    h.frames ▸ List.mem_map_of_mem hf
  simpa using hm

/-- The place for new nodes is the end of the innermost element. -/
theorem place (h : InBody b tags (f :: fs)) : b.place = .last f.id := by
  have hc : b.arena.content? f.id = none := h.spine.content? List.mem_cons_self
  simp [Builder.place, Builder.placeBelow, h.current, h.fostering, hc]

/-- What stands in an element is of no concern to the formatting elements. -/
theorem formattingOf_congr (f g : Frame) (hid : g.id = f.id) (ht : g.tag = f.tag) (fs : List Frame) :
    formattingOf (g :: fs) = formattingOf (f :: fs) := by
  simp only [formattingOf, List.filter_cons, ht]
  split <;> simp [hid, ht]

/-! ### Opening and closing -/

/-- **An element that is put there and not opened** is a node more in the innermost element. -/
theorem placed (h : InBody b tags (f :: fs)) (t : Tag) :
    InBody (b.placed f.id t) tags (f.add (.element t [] []) :: fs) :=
  ⟨h.mode, h.templateModes, h.reading, h.skipNewline, h.fostering, h.stack,
    (h.spine.open_ t).close, h.formatting.trans (formattingOf_congr f (f.add _) rfl rfl fs).symm,
    h.frames, h.flow⟩

/-- **An element that is opened** is innermost and empty. -/
theorem opened (h : InBody b tags (f :: fs)) {t : Tag} (hf : t.isFlow = true)
    (hr : t.isReadable = true) {l : List Formatting}
    (hl : l = formattingOf (⟨b.arena.cells.size, t, []⟩ :: f :: fs)) :
    InBody { b.opened f.id t with formatting := l } (t :: tags)
      (⟨b.arena.cells.size, t, []⟩ :: f :: fs) := by
  refine ⟨h.mode, h.templateModes, h.reading, h.skipNewline, h.fostering, ?_, h.spine.open_ t, hl,
    ?_, ?_⟩
  · simp [Builder.opened, h.stack]
  · rw [List.map_cons, h.frames, List.cons_append]
  · intro u hu
    rcases List.mem_cons.1 hu with rfl | hu
    · exact ⟨hf, hr⟩
    · exact h.flow u hu

/-- **The innermost element, when it is closed**, is a node more in the next one. -/
theorem closed {t : Tag} {g : Frame} (h : InBody b (t :: tags) (f :: g :: fs))
    {l : List Formatting} (hl : l = formattingOf (g :: fs)) :
    InBody { b with stack := b.stack.tail, formatting := l } tags (g.add f.node :: fs) := by
  refine ⟨h.mode, h.templateModes, h.reading, h.skipNewline, h.fostering, ?_, h.spine.close, ?_, ?_, ?_⟩
  · simp [h.stack, Frame.add]
  · exact hl.trans (formattingOf_congr g (g.add _) rfl rfl fs).symm
  · have := h.frames
    rw [List.cons_append, List.map_cons] at this
    exact (List.cons.inj this).2
  · exact fun u hu => h.flow u (List.mem_cons_of_mem _ hu)

/-- **Characters** go to the end of the innermost element. -/
theorem written (h : InBody b tags (f :: fs)) (t : Text) :
    InBody { b with arena := b.arena.appendText f.id t } tags (f.write t :: fs) :=
  ⟨h.mode, h.templateModes, h.reading, h.skipNewline, h.fostering, h.stack, h.spine.addText t,
    h.formatting.trans (formattingOf_congr f (f.write t) rfl rfl fs).symm, h.frames, h.flow⟩

theorem insertClosed_run (h : InBody b tags (f :: fs)) {t : Tag} (ht : t.isTemplate = false) :
    (insertClosed t).run b = (b.arena.cells.size, b.placed f.id t) := by
  have ha : b.arena.addElement t = b.arena.add (.element t none) := by simp [Arena.addElement, ht]
  have hp := h.place
  show ((b.arena.addElement t).2,
    { b with arena := (b.arena.addElement t).1.put b.place (b.arena.addElement t).2 }) = _
  rw [ha, hp]
  rfl

theorem insert_run (h : InBody b tags (f :: fs)) {t : Tag} (ht : t.isTemplate = false) :
    (insert t).run b = (b.arena.cells.size, b.opened f.id t) := by
  have hi := h.insertClosed_run ht
  show (((insertClosed t).run b).1,
    { ((insertClosed t).run b).2 with
      stack := ((insertClosed t).run b).1 :: ((insertClosed t).run b).2.stack }) = _
  rw [hi]
  rfl

/-! ### What rules ask for -/

/-- Nothing is in scope that is not open. -/
theorem inScopeNamed_of_not_mem (h : InBody b tags fs) {n : String}
    (hn : n ≠ "body" ∧ n ≠ "html") (ht : tags.any (·.name == n) = false) (bounds : Tag → Bool) :
    b.inScopeNamed bounds n = false := by
  unfold inScopeNamed inScope
  split
  · rename_i i hi
    have hmem := List.mem_of_find?_eq_some hi
    rw [h.stack] at hmem
    obtain ⟨g, hg, rfl⟩ := List.mem_map.1 hmem
    rw [h.hasTag hg, Tag.isHtml]
    -- it is one of the tags, or the body, or the page
    rcases h.tag_cases hg with hm | hm | hm
    · have : (g.tag.name == n) = false := by
        simpa using List.any_eq_false.1 ht _ hm
      simpa using fun _ => by simpa using this
    · simpa [hm, Tag.plain] using hn.1.symm
    · simpa [hm, Tag.plain] using hn.2.symm
  · rfl

/-- The innermost element is in every scope. -/
theorem inScope_current (h : InBody b tags (f :: fs)) (bounds : Tag → Bool) {p : NodeId → Bool}
    (hp : p f.id = true) : b.inScope bounds p = true := by
  simp [inScope, h.stack, hp]

/-- Every formatting element that is open is in the list, the innermost first. -/
theorem recentFormatting (h : InBody b tags fs) :
    b.recentFormatting =
      (fs.filter fun f => f.tag.name ∈ allFormattingNames).map fun f => (f.id, f.tag.start) := by
  unfold Builder.recentFormatting
  rw [h.formatting, formattingOf]
  generalize fs.filter _ = gs
  induction gs with
  | nil => rfl
  | cons g gs ih => simpa using ih

/-- **Nothing has to be reopened** as long as no formatting element was left open. -/
theorem reopenFormatting_run (h : InBody b tags fs) : reopenFormatting.run b = ((), b) := by
  have hclosed : (b.recentFormatting.takeWhile fun e => !b.stack.contains e.1) = [] := by
    rw [h.recentFormatting, h.stack]
    -- the first entry of the list is open, so none before it is to be reopened
    cases hg : fs.filter fun f => f.tag.name ∈ allFormattingNames with
    | nil => rfl
    | cons g gs =>
      have hm : g ∈ fs := (List.mem_filter.1 (hg ▸ List.mem_cons_self)).1
      have hc : (fs.map Frame.id).contains g.id = true := by
        simpa using ⟨g, hm, rfl⟩
      rw [List.map_cons, List.takeWhile_cons_of_neg (by
        show ¬(!(fs.map Frame.id).contains g.id) = true
        rw [hc]
        decide)]
  show (reopenAll (b.recentFormatting.takeWhile fun e => !b.stack.contains e.1).reverse).run b = _
  rw [hclosed]
  rfl

/-- Without an open paragraph none is closed. -/
theorem closeParagraphInScope_run (h : InBody b tags fs) (hp : tags.any (·.name == "p") = false) :
    closeParagraphInScope.run b = ((), b) := by
  have hs := h.inScopeNamed_of_not_mem (by decide) hp Tag.boundsButtonScope
  show (if b.inScopeNamed Tag.boundsButtonScope "p" then closeParagraph else pure ()).run b = _
  rw [hs]
  rfl

end InBody

end HtmlCanon.Html
