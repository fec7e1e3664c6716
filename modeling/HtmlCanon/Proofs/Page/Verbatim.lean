import HtmlCanon.Proofs.Page.SetOut

/-!
# Content that is laid out as it is

The layout writes some elements as one block, whatever line feeds there are in it. The clean-up does
not know of blocks and takes the lines of one for lines of the layout: those after its first one are
set out, blank ones among them are dropped, and returns at the ends of lines are stripped off.

* `IsLaidOut.lines` : the block stands in the layout.
* `cleanBlock` : what becomes of it.
* `cleanBlock_eq_iff` : **a block stays as it is** exactly when its lines do.
* `canonical_verbatim` : **the block in the canonical form**, for every page.
-/

namespace HtmlCanon.Page

open Html

/-! ### The block in the layout -/

/-- Whether a node is an element whose content is laid out as it is. -/
def isVerbatim : Node → Bool
  | .element t _ _ => t.name ∈ verbatimNames
  | _ => false

/-- Whether a node stands in a forest below no element that is laid out as it is or without
content. -/
inductive IsLaidOut (n : Node) : List Node → Prop
  | among {ns : List Node} (h : n ∈ ns) : IsLaidOut n ns
  | within {ns : List Node} {t : Tag} {c cs : List Node} (h : Node.element t c cs ∈ ns)
      (hverbatim : t.name ∉ verbatimNames) (hvoid : t.name ∉ voidNames) (hn : IsLaidOut n cs) :
      IsLaidOut n ns

theorem IsLaidOut.mono {n : Node} {ns ms : List Node} (h : IsLaidOut n ns) (hsub : ns ⊆ ms) :
    IsLaidOut n ms := by
  cases h with
  | among h => exact .among (hsub h)
  | within h hverbatim hvoid hn => exact .within (hsub h) hverbatim hvoid hn

theorem forestLines_append (isTop : Bool) (depth : Nat) (ns ms : List Node) :
    forestLines isTop depth (ns ++ ms) = forestLines isTop depth ns ++ forestLines isTop depth ms := by
  induction ns with
  | nil => rfl
  | cons n ns ih => rw [List.cons_append, forestLines, forestLines, ih, List.append_assoc]

theorem forestLines_split {n : Node} {ns : List Node} (h : n ∈ ns) (isTop : Bool) (depth : Nat) :
    ∃ before after, forestLines isTop depth ns = before ++ nodeLines isTop depth n ++ after := by
  obtain ⟨ms, ks, rfl⟩ := List.append_of_mem h
  refine ⟨forestLines isTop depth ms, forestLines isTop depth ks, ?_⟩
  rw [forestLines_append, forestLines, List.append_assoc]

/-- An element that is laid out as it is takes one line of the layout. -/
theorem nodeLines_verbatim {n : Node} (h : isVerbatim n = true) (isTop : Bool) (depth : Nat) :
    nodeLines isTop depth n = [indent depth ++ n.markup] := by
  cases n with
  | element t c ns => rw [nodeLines, if_pos (by simpa [isVerbatim] using h)]
  | _ => cases h

/-- An element with an element in it is not laid out on one line. -/
theorem inlineText?_of_mem {n : Node} {ns : List Node} (hn : n.isElement = true) (h : n ∈ ns) :
    inlineText? ns = none := by
  have hshown : isSignificant n = true ∧ n.isText = false := by
    cases n with
    | element t c cs => exact ⟨rfl, rfl⟩
    | _ => cases hn
  have hall : (ns.filter isSignificant).all Node.isText = false := by
    rw [List.all_eq_false]
    exact ⟨n, List.mem_filter.2 ⟨h, hshown.1⟩, by simp [hshown.2]⟩
  simp [inlineText?, hall]

/-- What is laid out of an element is more than one line of text, if an element is below it. -/
theorem inlineText?_of_laidOut {n : Node} {ns : List Node} (hv : isVerbatim n = true)
    (h : IsLaidOut n ns) : inlineText? ns = none := by
  cases h with
  | among h =>
    refine inlineText?_of_mem ?_ h
    cases n with
    | element t c cs => rfl
    | _ => cases hv
  | within h => exact inlineText?_of_mem rfl h

/-- **The block stands in the layout**, on a line of its own. -/
theorem IsLaidOut.lines {n : Node} {ns : List Node} (hv : isVerbatim n = true) (h : IsLaidOut n ns)
    (isTop : Bool) (depth : Nat) :
    ∃ before d after, forestLines isTop depth ns = before ++ (indent d ++ n.markup) :: after := by
  induction h generalizing isTop depth with
  | among h =>
    obtain ⟨before, after, hns⟩ := forestLines_split h isTop depth
    exact ⟨before, depth, after, by rw [hns, nodeLines_verbatim hv]; simp⟩
  | @within ns t c cs h hverbatim hvoid hn ih =>
    obtain ⟨before, after, hns⟩ := forestLines_split h isTop depth
    obtain ⟨first, d, last, hcs⟩ := ih false (depth + 1)
    have helement : nodeLines isTop depth (.element t c cs) =
        (indent depth ++ opening t) :: forestLines false (depth + 1) cs ++
          [indent depth ++ closing t.name] := by
      rw [nodeLines, if_neg hverbatim, if_neg hvoid, inlineText?_of_laidOut hv hn]
    refine ⟨before ++ (indent depth ++ opening t) :: first, d,
      last ++ (indent depth ++ closing t.name) :: after, ?_⟩
    rw [hns, helement, hcs]
    simp

/-! ### The block among the inner lines -/

theorem markup_element (t : Tag) (c ns : List Node) :
    (Node.element t c ns).markup =
      if t.isUnclosed then t.markup ++ Node.markupsIn ⟨t.holdsRawText, t.isUnclosed⟩ ns
      else t.markup ++ Node.markupsIn ⟨t.holdsRawText, t.isUnclosed⟩ ns ++ t.closing :=
  rfl

theorem verbatimName_head {name : String} (h : name ∈ verbatimNames) :
    ∃ x r, name.toList = x :: r ∧ x ≠ '\n' ∧ x ≠ '?' := by
  have hnames : ∀ m ∈ verbatimNames, (m.toList.head?.any fun x => x != '\n' && x != '?') = true := by
    decide
  have hhead := hnames name h
  cases hname : name.toList with
  | nil => simp [hname] at hhead
  | cons x r => exact ⟨x, r, rfl, by simpa [hname] using hhead⟩

/-- The markup of such an element starts with a tag, and a tag is no declaration. -/
theorem markup_head {n : Node} (h : isVerbatim n = true) :
    ∃ x r, n.markup = '<' :: x :: r ∧ x ≠ '\n' ∧ x ≠ '?' := by
  cases n with
  | element t c ns =>
    have hv : t.name ∈ verbatimNames := by simpa [isVerbatim] using h
    obtain ⟨x, u, hu, hx⟩ := verbatimName_head hv
    have htag : ∀ r, t.markup ++ r = '<' :: x :: (u ++ (t.attrs.flatMap Attr.markup ++ '>' :: r)) := by
      simp [Tag.markup, hu]
    rw [markup_element]
    split
    · exact ⟨x, _, htag _, hx⟩
    · exact ⟨x, _, by rw [List.append_assoc, htag], hx⟩
  | _ => cases h

/-- The first line of such an element, and those after it. -/
theorem splitLines_markup {n : Node} (h : isVerbatim n = true) :
    ∃ x l ls, splitLines n.markup = ('<' :: x :: l) :: ls ∧ x ≠ '?' := by
  obtain ⟨x, r, hm, hn, hq⟩ := markup_head h
  obtain ⟨l, ls, hr⟩ := List.exists_cons_of_ne_nil (splitLines_ne_nil r)
  exact ⟨x, l, ls, by rw [hm]; exact splitLines_cons (by decide) (splitLines_cons hn hr), hq⟩

theorem splitLines_indent (depth : Nat) {t l : Text} {ls : List Text} (h : splitLines t = l :: ls) :
    splitLines (indent depth ++ t) = (indent depth ++ l) :: ls :=
  splitLines_append_left (fun hm => absurd (List.eq_of_mem_replicate hm) (by decide)) h

theorem isXmlDeclaration_indent (depth : Nat) {x : Char} (hx : x ≠ '?') (l : Text) :
    isXmlDeclaration (indent depth ++ '<' :: x :: l) = false := by
  have hblank : ¬isBlank '<' = true := by decide
  have hbang : ('?' == x) = false := beq_false_of_ne (Ne.symm hx)
  rw [isXmlDeclaration, List.dropWhile_append_of_pos (isBlankText_iff.1 (isBlankText_indent depth)),
    List.dropWhile_cons_of_neg hblank]
  simp [after?, hbang]

/-- The block stands in the layout once it is repaired, if its characters can be held. -/
theorem repairedLines_block {n : Node} (hm : n.markup.all isRepresentable = true) (d : Nat)
    (before after : List Text) :
    repairedLines (before ++ (indent d ++ n.markup) :: after) =
      repairedLines before ++ (splitLines (indent d ++ n.markup) ++ repairedLines after) := by
  have hblock : repairText (indent d ++ n.markup) = indent d ++ n.markup := by
    rw [repairText_append, repairText_indent, repairText_eq_self_iff.2 hm]
  rw [repairedLines_append]
  simp only [repairedLines, List.flatMap_cons, hblock]

/-- **The block stands among the inner lines** of a page of either shape. -/
theorem innerLines_block {p : Page} {n : Node} (h : IsLaidOut n p.nodes) (hv : isVerbatim n = true)
    (hm : n.markup.all isRepresentable = true) :
    ∃ before d after, p.innerLines = before ++ (splitLines (indent d ++ n.markup) ++ after) := by
  cases hshape : p.shape with
  | fragment =>
    obtain ⟨before, d, after, hlines⟩ := h.lines hv true 1
    exact ⟨repairedLines before, d, repairedLines after, by
      rw [innerLines_fragment hshape, hlines, repairedLines_block hm]⟩
  | document =>
    obtain ⟨before, d, after, hlines⟩ := h.lines hv true 0
    obtain ⟨x, l, ls, hsplit, hx⟩ := splitLines_markup hv
    have hblock := splitLines_indent d hsplit
    rw [innerLines_document hshape, hlines, repairedLines_block hm, List.append_assoc,
      List.append_assoc, hblock]
    by_cases hbefore : repairedLines before = []
    · -- the block comes first, and is no declaration
      refine ⟨[], d, repairedLines after ++ [[]], ?_⟩
      rw [hbefore, List.nil_append, List.nil_append, List.cons_append, dropFirstIf,
        isXmlDeclaration_indent d hx, if_neg (by decide), hblock]
      rfl
    · exact ⟨dropFirstIf isXmlDeclaration (repairedLines before), d, repairedLines after ++ [[]], by
        rw [dropFirstIf_append hbefore, hblock]⟩

/-! ### The block once it is clean -/

/-- What becomes of a block: its first line keeps where it starts, and its other lines are taken for
lines of the layout. -/
def cleanBlock (width : Nat) (m : Text) : Text :=
  match splitLines m with
  | [] => []
  | l :: ls => joinLines (stripReturns l :: setOut width ls)

/-- Whether a block stays as it is. -/
def isSteadyBlock (width : Nat) (m : Text) : Bool :=
  match splitLines m with
  | [] => true
  | l :: ls => !endsInReturn l && ls.all (isSteadyLine width)

theorem cleanBlock_of_lines (w : Nat) {m l : Text} {ls : List Text} (h : splitLines m = l :: ls) :
    cleanBlock w m = joinLines (stripReturns l :: setOut w ls) := by
  rw [cleanBlock, h]

theorem cleanBlock_sublist (w : Nat) (m : Text) : (cleanBlock w m).Sublist m := by
  obtain ⟨l, ls, hm⟩ := List.exists_cons_of_ne_nil (splitLines_ne_nil m)
  have hself : m = joinLines (l :: ls) := by rw [← hm, join_splitLines]
  rw [cleanBlock_of_lines w hm, hself, joinLines_eq_append, joinLines_eq_append]
  exact (stripReturns_isPrefix l).sublist.append (setOut_sublist w ls)

theorem newline_not_mem_setOut {w : Nat} {ls : List Text} (h : ∀ l ∈ ls, '\n' ∉ l) :
    ∀ l ∈ setOut w ls, '\n' ∉ l := by
  intro l hl
  obtain ⟨m, hm, rfl⟩ := List.mem_map.1 hl
  obtain ⟨k, hk, rfl⟩ := List.mem_map.1 (List.mem_filter.1 hm).1
  exact fun hn => h k hk ((dedent_suffix w k).subset ((stripReturns_isPrefix _).subset hn))

/-- **A block stays as it is** exactly when each of its lines does. -/
theorem cleanBlock_eq_iff (w : Nat) (m : Text) : cleanBlock w m = m ↔ isSteadyBlock w m = true := by
  obtain ⟨l, ls, hm⟩ := List.exists_cons_of_ne_nil (splitLines_ne_nil m)
  have hlines : ∀ k ∈ l :: ls, '\n' ∉ k := fun k hk => not_mem_of_mem_splitLines (hm ▸ hk)
  have hclean : ∀ k ∈ stripReturns l :: setOut w ls, '\n' ∉ k := by
    intro k hk
    rcases List.mem_cons.1 hk with rfl | hk
    · exact fun hn => hlines l List.mem_cons_self ((stripReturns_isPrefix l).subset hn)
    · exact newline_not_mem_setOut (fun j hj => hlines j (List.mem_cons_of_mem l hj)) k hk
  have hself : m = joinLines (l :: ls) := by rw [← hm, join_splitLines]
  rw [cleanBlock_of_lines w hm, isSteadyBlock, hm]
  conv_lhs => rhs; rw [hself]
  rw [joinLines_inj (List.cons_ne_nil _ _) (List.cons_ne_nil _ _) hclean hlines, List.cons.injEq,
    stripReturns_eq_self_iff, setOut_eq_self_iff]
  simp

/-- Of a block that is set out among other lines, the clean block is left, and what is left of its
indentation. -/
theorem setOut_angle (w d : Nat) (r : Text) :
    setOut w (splitLines (indent d ++ '<' :: r)) ≠ [] ∧
      joinLines (setOut w (splitLines (indent d ++ '<' :: r))) =
        dedent w (indent d) ++ cleanBlock w ('<' :: r) := by
  obtain ⟨l, ls, hr⟩ := List.exists_cons_of_ne_nil (splitLines_ne_nil r)
  have hm : splitLines ('<' :: r) = ('<' :: l) :: ls := splitLines_cons (by decide) hr
  have hshown : isBlankText (indent d ++ '<' :: l) = false := by
    have : isBlank '<' = false := by decide
    simp [this]
  have hfirst : stripReturns (dedent w (indent d ++ '<' :: l)) =
      dedent w (indent d) ++ stripReturns ('<' :: l) := by
    rw [dedent_append_cons w _ (by decide), stripReturns_append_cons (by decide)]
  rw [splitLines_indent d hm, setOut_cons, hshown, if_neg (by decide), hfirst]
  refine ⟨List.cons_ne_nil _ _, ?_⟩
  rw [cleanBlock_of_lines w hm, joinLines_eq_append, joinLines_eq_append, List.append_assoc]

theorem setOut_block {n : Node} (hv : isVerbatim n = true) (w d : Nat) :
    setOut w (splitLines (indent d ++ n.markup)) ≠ [] ∧
      joinLines (setOut w (splitLines (indent d ++ n.markup))) =
        dedent w (indent d) ++ cleanBlock w n.markup := by
  obtain ⟨x, r, hm, -⟩ := markup_head hv
  rw [hm]
  exact setOut_angle w d (x :: r)

theorem joinLines_isInfix (ls ms ks : List Text) (h : ms ≠ []) :
    joinLines ms <:+: joinLines (ls ++ (ms ++ ks)) := by
  have hright : joinLines ms <:+: joinLines (ms ++ ks) := by
    by_cases hks : ks = []
    · simp [hks]
    · rw [joinLines_append h hks]
      exact (List.prefix_append _ _).isInfix
  by_cases hls : ls = []
  · rwa [hls, List.nil_append]
  · rw [joinLines_append hls (by simp [h])]
    exact hright.trans ((List.suffix_cons '\n' _).trans (List.suffix_append _ _)).isInfix

/-! ### The block in the canonical form -/

/-- **The clean block stands in the canonical form.** -/
theorem cleanBlock_isInfix {p : Page} {n : Node} (h : IsLaidOut n p.nodes) (hv : isVerbatim n = true)
    (hm : n.markup.all isRepresentable = true) : cleanBlock p.width n.markup <:+: p.canonical := by
  obtain ⟨before, d, after, hlines⟩ := innerLines_block h hv hm
  obtain ⟨hne, hblock⟩ := setOut_block hv p.width d
  rw [canonical_eq_setOut, hlines, setOut_append, setOut_append]
  refine List.IsInfix.trans ?_ (joinLines_isInfix _ _ _ hne)
  rw [hblock]
  exact (List.suffix_append _ _).isInfix

/-- A node that takes one line of the layout is, on its own, that line as a clean block. -/
theorem canonical_angle {n : Node} {m r : Text} (hlines : nodeLines true 1 n = [indent 1 ++ m])
    (hm : repairText m = '<' :: r) : (fragment [n]).canonical = cleanBlock 2 ('<' :: r) := by
  have hinner : (fragment [n]).innerLines = splitLines (indent 1 ++ '<' :: r) := by
    rw [innerLines_fragment rfl]
    simp [fragment, forestLines, hlines, repairedLines, repairText_append, repairText_indent, hm]
  have hwidth : (fragment [n]).width = 2 := by
    obtain ⟨l, ls, hr⟩ := List.exists_cons_of_ne_nil (splitLines_ne_nil r)
    rw [width, hinner, splitLines_indent 1 (splitLines_cons (by decide) hr)]
    rfl
  have hset : dedent 2 (indent 1) = [] := rfl
  rw [canonical_eq_setOut, hwidth, hinner, (setOut_angle 2 1 r).2, hset, List.nil_append]

/-- The canonical form of the element alone is its clean block. -/
theorem canonical_alone {n : Node} (hv : isVerbatim n = true)
    (hm : n.markup.all isRepresentable = true) :
    (fragment [n]).canonical = cleanBlock 2 n.markup := by
  obtain ⟨x, r, hhead, -⟩ := markup_head hv
  rw [canonical_angle (nodeLines_verbatim hv true 1) ((repairText_eq_self_iff.2 hm).trans hhead), hhead]

/-- **Content that is laid out as it is, in the canonical form.** Take an element of any page that is
laid out as it is and whose characters can all be held. Its clean block stands in the canonical form,
so its markup stands there if the block stays as it is. On its own, where its lines are set out by one
step, the element keeps its markup exactly then. -/
theorem canonical_verbatim {p : Page} {n : Node} (h : IsLaidOut n p.nodes) (hv : isVerbatim n = true)
    (hm : n.markup.all isRepresentable = true) :
    cleanBlock p.width n.markup <:+: p.canonical ∧
      (isSteadyBlock p.width n.markup = true → n.markup <:+: p.canonical) ∧
      (n.markup <:+: (fragment [n]).canonical ↔ isSteadyBlock 2 n.markup = true) := by
  have hblock := cleanBlock_isInfix h hv hm
  refine ⟨hblock, fun hsteady => ?_, ?_⟩
  · rwa [(cleanBlock_eq_iff _ _).2 hsteady] at hblock
  · rw [canonical_alone hv hm, ← cleanBlock_eq_iff]
    constructor
    · intro hin
      exact (hin.eq_of_length_le (cleanBlock_sublist 2 n.markup).length_le).symm
    · intro heq
      simp [heq]

/-- Two lines that are laid out as they are. -/
def twoLines : Node := .element (Tag.plain "pre") [] [.text "a\nb".toList]

/-- The lines are steady, so they stay together below a division. -/
theorem canonical_verbatim_twoLines :
    twoLines.markup <:+: (fragment [.element (Tag.plain "div") [] [twoLines]]).canonical := by
  have hlaid : IsLaidOut twoLines [.element (Tag.plain "div") [] [twoLines]] :=
    .within List.mem_cons_self (by decide) (by decide) (.among List.mem_cons_self)
  have hsteady : isSteadyBlock (fragment [.element (Tag.plain "div") [] [twoLines]]).width
      twoLines.markup = true := by decide
  exact (canonical_verbatim hlaid rfl (by decide)).2.1 hsteady

/-- Two lines with a blank one between them, all three laid out as they are. -/
def gappedLines : Text := "<pre>a\n\nb</pre>".toList

/-- The blank line goes, though it is content. -/
theorem canonical_gappedLines :
    ∃ n, IsLaidOut n (parse gappedLines).nodes ∧ isVerbatim n = true ∧
      n.markup.all isRepresentable = true ∧ ¬n.markup <:+: (parse gappedLines).canonical := by
  have hgone : ∃ n ∈ (parse gappedLines).nodes, isVerbatim n = true ∧
      n.markup.all isRepresentable = true ∧ ¬n.markup <:+: (parse gappedLines).canonical := by
    decide +kernel
  obtain ⟨n, hn, hrest⟩ := hgone
  exact ⟨n, .among hn, hrest⟩

end HtmlCanon.Page
