import HtmlCanon.Html.Parser
import HtmlCanon.Proofs.Html.Rules

/-!
# Taking in tokens

What the builder makes of the tokens that a page in canonical form is cut into: those of its body,
and the first one, which has the `html`, `head` and `body` elements made before it.

* `settle_begin` : **the first token** finds the body open.
* `Ready.accept_start`, `InBody.accept_stop`, `Ready.accept_text` : **every token takes the builder
  from one state in the body to the next**.
-/

namespace HtmlCanon.Html

open Build Builder Insertion

/-! ### The first token -/

namespace Builder

/-- The builder before the `html` element. -/
def started : Builder := { start with legacy := true, mode := .beforeHtml }

/-- The builder in the `html` element. -/
def rooted : Builder :=
  { started with
    arena := ⟨#[⟨.root, none, [1]⟩, ⟨.element (Tag.plain "html") none, some 0, []⟩]⟩
    mode := .beforeHead
    stack := [1] }

/-- The builder in the `head` element. -/
def headed : Builder :=
  { rooted with
    arena := ⟨#[⟨.root, none, [1]⟩, ⟨.element (Tag.plain "html") none, some 0, [2]⟩,
      ⟨.element (Tag.plain "head") none, some 1, []⟩]⟩
    mode := .inHead
    stack := [2, 1]
    head := some 2 }

/-- The builder after the `head` element. -/
def beheaded : Builder := { headed with mode := .afterHead, stack := [1] }

/-- The builder in the body. -/
def begun : Builder :=
  { headed with
    arena := ⟨#[⟨.root, none, [1]⟩, ⟨.element (Tag.plain "html") none, some 0, [2, 3]⟩,
      ⟨.element (Tag.plain "head") none, some 1, []⟩,
      ⟨.element (Tag.plain "body") none, some 1, []⟩]⟩
    mode := .inBody
    stack := [3, 1] }

end Builder

/-- The names that have rules of their own before the body. -/
def earlyNames : List String := ["html", "head", "body", "frameset", "noscript"] ++ headNames

/-- Whether the rules before the body leave a token to the body. -/
def Token.entersBody : Token → Bool
  | .text t => !isSpaces t
  | .start t => t.name ∉ earlyNames
  | .finish => true
  | _ => false

section Begin

variable {tok : Token}

theorem initial_run (h : tok.entersBody = true) :
    (initial tok).run Builder.start = (.again tok, started) := by
  cases tok with
  | text t =>
    have hs : isSpaces t = false := by simpa [Token.entersBody] using h
    simp only [initial, hs, if_false, Bool.false_eq_true]
    rfl
  | start t => rfl
  | finish => rfl
  | _ => cases h

theorem beforeHtml_run (h : tok.entersBody = true) :
    (beforeHtml tok).run started = (.again tok, rooted) := by
  cases tok with
  | text t =>
    have hs : isSpaces t = false := by simpa [Token.entersBody] using h
    simp only [beforeHtml, hs, if_false, Bool.false_eq_true]
    rfl
  | start t =>
    have hn : t.name ∉ earlyNames := by simpa [Token.entersBody] using h
    simp (disch := decide) only [beforeHtml, beq_false_of_not_mem hn, if_false, Bool.false_eq_true]
    rfl
  | finish => rfl
  | _ => cases h

theorem beforeHead_run (h : tok.entersBody = true) :
    (beforeHead tok).run rooted = (.again tok, headed) := by
  cases tok with
  | text t =>
    have hs : isSpaces t = false := by simpa [Token.entersBody] using h
    simp only [beforeHead, hs, if_false, Bool.false_eq_true]
    rfl
  | start t =>
    have hn : t.name ∉ earlyNames := by simpa [Token.entersBody] using h
    simp (disch := decide) only [beforeHead, starts, beq_false_of_not_mem hn,
      not_mem_of_not_mem hn, decide_false, if_false, Bool.false_eq_true]
    rfl
  | finish => rfl
  | _ => cases h

theorem inHead_run (h : tok.entersBody = true) :
    (inHead tok).run headed = (.again tok, beheaded) := by
  cases tok with
  | text t =>
    have hs : isSpaces t = false := by simpa [Token.entersBody] using h
    simp only [inHead, hs, if_false, Bool.false_eq_true]
    rfl
  | start t =>
    have hn : t.name ∉ earlyNames := by simpa [Token.entersBody] using h
    simp (disch := decide) only [inHead, beq_false_of_not_mem hn, not_mem_of_not_mem hn,
      if_false, Bool.false_eq_true]
    rfl
  | finish => rfl
  | _ => cases h

theorem afterHead_run (h : tok.entersBody = true) :
    (afterHead tok).run beheaded = (.again tok, begun) := by
  cases tok with
  | text t =>
    have hs : isSpaces t = false := by simpa [Token.entersBody] using h
    simp only [afterHead, hs, if_false, Bool.false_eq_true]
    rfl
  | start t =>
    have hn : t.name ∉ earlyNames := by simpa [Token.entersBody] using h
    simp (disch := decide) only [afterHead, beq_false_of_not_mem hn, not_mem_of_not_mem hn,
      if_false, Bool.false_eq_true]
    rfl
  | finish => rfl
  | _ => cases h

/-- **The first token finds the body open**: the elements around the body are made before it. -/
theorem settle_begin (h : tok.entersBody = true) (n : Nat) :
    (settle (n + 5) (.again tok)).run Builder.start = (settle n (.again tok)).run begun := by
  -- none of the five states has an element of SVG or MathML open
  have hf : ∀ b ∈ [Builder.start, started, rooted, headed, beheaded], isForeign b tok = false := by
    intro b hb
    simp only [List.mem_cons, List.not_mem_nil, or_false] at hb
    rcases hb with rfl | rfl | rfl | rfl | rfl <;> cases tok <;> rfl
  rw [settle_again (b := Builder.start) (hf _ (by simp)) (initial_run h),
    settle_again (b := started) (hf _ (by simp)) (beforeHtml_run h),
    settle_again (b := rooted) (hf _ (by simp)) (beforeHead_run h),
    settle_again (b := headed) (hf _ (by simp)) (inHead_run h),
    settle_again (b := beheaded) (hf _ (by simp)) (afterHead_run h)]

end Begin

/-- The open elements of a page that has just begun. -/
def beginFrames : List Frame :=
  [⟨3, Tag.plain "body", []⟩, ⟨1, Tag.plain "html", [.element (Tag.plain "head") [] []]⟩]

theorem inBody_begun : InBody begun [] beginFrames where
  mode := rfl
  templateModes := rfl
  reading := rfl
  skipNewline := rfl
  fostering := rfl
  stack := rfl
  spine := by
    -- node 1 is the page, node 2 the closed head, node 3 the body
    refine ⟨⟨some 1, [], rfl, .nil (by decide)⟩, ⟨some 0, [2], rfl, ?_⟩, ?_⟩
    · exact .element (p := some 1) (k := 2) (by decide) rfl (.nil (by decide)) (.nil (Nat.le_refl _))
    · exact ⟨none, [], rfl, .nil (by decide)⟩
  formatting := rfl
  frames := rfl
  flow := by simp

/-! ### Tokens -/

/-- The builder in the body, or before the first token. -/
def Ready (b : Builder) (tags : List Tag) (fs : List Frame) : Prop :=
  InBody b tags fs ∨ b = Builder.start ∧ tags = [] ∧ fs = beginFrames

variable {b : Builder} {tags : List Tag} {fs : List Frame} {f g : Frame} {t : Tag}

theorem Ready.reading (h : Ready b tags fs) : b.reading = .markup := by
  rcases h with h | ⟨rfl, -, -⟩
  · exact h.reading
  · rfl

/-- A token that is no text is settled in the body. -/
theorem Ready.settleToken_run (h : Ready b tags (f :: fs)) {tok : Token}
    (ht : tok.entersBody = true) {P : Builder → Prop}
    (hr : ∀ c, InBody c tags (f :: fs) → ∃ b', (inBody tok).run c = (.done, b') ∧ P b') :
    ∃ b', (settleToken tok).run b = ((), b') ∧ P b' := by
  rcases h with h | ⟨rfl, rfl, hfs⟩
  · obtain ⟨b', hb, hp⟩ := hr b h
    exact ⟨b', h.settleToken_run hb, hp⟩
  · have hbegun : InBody begun [] (f :: fs) := hfs ▸ inBody_begun
    obtain ⟨b', hb, hp⟩ := hr begun hbegun
    exact ⟨b', (settle_begin ht 27).trans (hbegun.settle_run hb 26), hp⟩

/-- A line feed is not dropped. -/
theorem Ready.skip_eq (h : Ready b tags fs) : { b with skipNewline := false } = b := by
  have hs : b.skipNewline = false := by
    rcases h with h | ⟨rfl, -, -⟩
    · exact h.skipNewline
    · rfl
  rw [← hs]

theorem entersBody_start (hf : t.isFlow = true) : (Token.start t.start).entersBody = true := by
  have hall : ∀ n ∈ earlyNames, isFlowName n = false := by decide +kernel
  simp only [Token.entersBody, decide_eq_true_eq]
  intro hm
  exact InBody.ne_of_flow hf (hall _ hm) rfl

/-- Taking in a start tag is settling it. -/
theorem Ready.accept_run (h : Ready b tags fs) (s : StartTag) :
    (accept (.start s)).run b = (settleToken (.start s)).run b := by
  show (settleToken (.start s)).run { b with skipNewline := false } = _
  rw [h.skip_eq]

/-- **A start tag that fits opens its element.** -/
theorem Ready.accept_start (h : Ready b tags (f :: fs)) (hf : t.isFlow = true)
    (hr : t.isReadable = true) (hfit : fits tags t.name = true) (hv : t.name ∉ Page.voidNames) :
    ∃ b' i, (accept (.start t.start)).run b = ((), b') ∧
      InBody b' (t :: tags) (⟨i, t, []⟩ :: f :: fs) := by
  obtain ⟨b', hb, i, hi⟩ := h.settleToken_run (entersBody_start hf)
    (P := fun b' => ∃ i, InBody b' (t :: tags) (⟨i, t, []⟩ :: f :: fs)) fun c hc => by
      obtain ⟨b', i, hb, hi⟩ := hc.start_run hf hr hfit hv
      exact ⟨b', hb, i, hi⟩
  exact ⟨b', i, (h.accept_run t.start).trans hb, hi⟩

/-- **A start tag of an element without content** puts it there. -/
theorem Ready.accept_void (h : Ready b tags (f :: fs)) (hf : t.isFlow = true)
    (hr : t.isReadable = true) (hfit : fits tags t.name = true) (hv : t.name ∈ Page.voidNames) :
    ∃ b', (accept (.start t.start)).run b = ((), b') ∧
      InBody b' tags (f.add (.element t [] []) :: fs) := by
  obtain ⟨b', hb, hi⟩ := h.settleToken_run (entersBody_start hf) fun c hc =>
    hc.void_run hf hr hfit hv
  exact ⟨b', (h.accept_run t.start).trans hb, hi⟩

/-- **The end tag of the innermost element closes it.** -/
theorem InBody.accept_stop (h : InBody b (t :: tags) (f :: g :: fs)) (hv : t.name ∉ Page.voidNames) :
    ∃ b', (accept (.stop t.name)).run b = ((), b') ∧ InBody b' tags (g.add f.node :: fs) := by
  have hb : { b with skipNewline := false, reading := .markup } = b := by
    rw [← h.skipNewline, ← h.reading]
  have hrun : (accept (.stop t.name)).run b = (settleToken (.stop t.name)).run b := by
    show (settleToken (.stop t.name)).run { b with skipNewline := false, reading := .markup } = _
    rw [hb]
  obtain ⟨b', hr, hi⟩ := h.stop_run hv
  exact ⟨b', hrun.trans (h.settleToken_run hr), hi⟩

/-- The end of the page changes nothing. -/
theorem Ready.accept_finish (h : Ready b tags (f :: fs)) :
    InBody ((accept .finish).run b).2 tags (f :: fs) := by
  have hrun : (accept .finish).run b = (settleToken .finish).run b := by
    show (settleToken .finish).run { b with skipNewline := false } = _
    rw [h.skip_eq]
  obtain ⟨b', hb, hi⟩ := h.settleToken_run (show Token.entersBody .finish = true from rfl)
    (P := fun b' => InBody b' tags (f :: fs)) fun c hc => by
    -- without templates nothing is left to do
    refine ⟨c, ?_, hc⟩
    show (if c.templateModes.isEmpty then done else return .rulesOf .inTemplate .finish :
      Build Next).run c = _
    rw [hc.templateModes]
    rfl
  rw [hrun, hb]
  exact hi

theorem InBody.settleText_run (h : InBody b tags (f :: fs)) {u : Text} (hu : u ≠ []) :
    ∃ b', (settleText u).run b = ((), b') ∧ InBody b' tags (f.write u :: fs) := by
  obtain ⟨b', hr, hi⟩ := h.text_run u
  refine ⟨b', ?_, hi⟩
  obtain ⟨c, r, rfl⟩ := List.exists_cons_of_ne_nil hu
  rw [settleText]
  show (if splitsText b.mode && !isForeign b (.text (c :: r)) then _ else settleToken (.text (c :: r)) :
    Build Unit).run b = _
  rw [h.mode]
  exact h.settleToken_run hr

/-- **A text goes to the end of the innermost element.** The first one on a page must not begin with
white space, which is dropped there. -/
theorem Ready.accept_text (h : Ready b tags (f :: fs)) {u : Text} (hu : u ≠ [])
    (hs : b.mode = .initial → u.head?.all (!isMarkupSpace ·) = true) :
    ∃ b', (accept (.text u)).run b = ((), b') ∧ InBody b' tags (f.write u :: fs) := by
  have hrun : (accept (.text u)).run b = (settleText u).run b := by
    have hskip : b.skipNewline = false := by rw [← h.skip_eq]
    show (settleText (if b.skipNewline then Token.dropNewline u else u)).run
      { b with skipNewline := false } = _
    rw [h.skip_eq, hskip]
    rfl
  rw [hrun]
  rcases h with h | ⟨rfl, rfl, hfs⟩
  · exact h.settleText_run hu
  · obtain ⟨c, r, rfl⟩ := List.exists_cons_of_ne_nil hu
    have hc : isMarkupSpace c = false := by simpa using hs rfl
    -- the characters up to the first white space make the body, the others follow there
    let like := fun d => isMarkupSpace d == isMarkupSpace c
    have hsplit : (settleText (c :: r)).run Builder.start =
        (do settleToken (.text (c :: r.takeWhile like)); settleText (r.dropWhile like) :
          Build Unit).run Builder.start := by
      rw [settleText]
      rfl
    have henters : Token.entersBody (.text (c :: r.takeWhile like)) = true := by
      simp [Token.entersBody, isSpaces, hc]
    have hready : Ready Builder.start [] (f :: fs) := .inr ⟨rfl, rfl, hfs⟩
    obtain ⟨b₁, hb₁, hi₁⟩ := hready.settleToken_run henters
      (P := fun b' => InBody b' [] (f.write (c :: r.takeWhile like) :: fs)) fun d hd => hd.text_run _
    rw [hsplit, run_seq hb₁]
    by_cases hrest : r.dropWhile like = []
    · have hall : r.takeWhile like = r := by
        conv_rhs => rw [← List.takeWhile_append_dropWhile (p := like) (l := r), hrest, List.append_nil]
      rw [hrest]
      rw [hall] at hi₁
      exact ⟨b₁, by rw [settleText]; rfl, hi₁⟩
    · obtain ⟨b₂, hb₂, hi₂⟩ := hi₁.settleText_run hrest
      rw [Frame.write_write, List.cons_append, List.takeWhile_append_dropWhile] at hi₂
      exact ⟨b₂, hb₂, hi₂⟩

end HtmlCanon.Html
