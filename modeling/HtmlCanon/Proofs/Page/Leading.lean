import HtmlCanon.Proofs.Page.Repaired

/-!
# What the canonical form begins with

An XML declaration is dropped if it is all that stands on the first line of the layout. In a fragment
that line is the tag of the element around it, so declarations stay there, and in a document they stay
unless they end on the line that they begin on. What the canonical form begins with can then be told
from the nodes at the top of the page.

* `isLed_joinLines` : the text of lines that are set out, and the first of them that shows.
* `isLed_forest` : **the first line that shows** is that of the first node that shows.
* `firstLine_declared_iff` : **the pages whose canonical form begins like a declaration**.
-/

namespace HtmlCanon.Page

open Html

variable {w depth : Nat}

/-! ### The first line that shows -/

/-- How an XML declaration begins. -/
def declarationMark : Text := "<?xml".toList

/-- The first line of the canonical form. -/
def firstLine (p : Page) : Text := (splitLines p.canonical).headD []

/-- Whether the first of some lines that shows begins like a declaration when it is set out by a
width. -/
def isLed (w : Nat) (ls : List Text) : Bool :=
  (ls.find? (!isBlankText ·)).any fun l => declarationMark.isPrefixOf (dedent w l)

theorem isLed_cons (w : Nat) (l : Text) (ls : List Text) :
    isLed w (l :: ls) =
      if isBlankText l then isLed w ls else declarationMark.isPrefixOf (dedent w l) := by
  rw [isLed, List.find?_cons]
  cases isBlankText l <;> rfl

/-- Blank lines do not count. -/
theorem isLed_append_of_blank {ls : List Text} (h : ls.all isBlankText = true) (ms : List Text) :
    isLed w (ls ++ ms) = isLed w ms := by
  induction ls with
  | nil => rfl
  | cons l ls ih =>
    rw [List.all_cons, Bool.and_eq_true] at h
    rw [List.cons_append, isLed_cons, if_pos h.1, ih h.2]

theorem isLed_of_blank {ls : List Text} (h : ls.all isBlankText = true) : isLed w ls = false := by
  rw [← List.append_nil ls, isLed_append_of_blank h]
  rfl

/-- Behind a line that shows nothing counts. -/
theorem isLed_append_of_shown {ls : List Text} (h : ls.all isBlankText = false) (ms : List Text) :
    isLed w (ls ++ ms) = isLed w ls := by
  induction ls with
  | nil => cases h
  | cons l ls ih =>
    rw [List.cons_append, isLed_cons, isLed_cons]
    cases hl : isBlankText l with
    | true =>
      rw [List.all_cons, hl, Bool.true_and] at h
      rw [if_pos rfl, if_pos rfl, ih h]
    | false => rfl

/-- What a text begins with stands on its first line. -/
theorem isPrefix_headD {m t : Text} (hm : '\n' ∉ m) : m <+: (splitLines t).headD [] ↔ m <+: t := by
  obtain ⟨l, ls, hl⟩ := List.exists_cons_of_ne_nil (splitLines_ne_nil t)
  have ht : t = l ++ ls.flatMap ('\n' :: ·) := by
    rw [← joinLines_eq_append, ← hl, join_splitLines]
  rw [hl, List.headD_cons]
  refine ⟨fun h => ?_, fun h => ?_⟩
  · rw [ht]
    exact h.trans (List.prefix_append l _)
  · rw [ht] at h
    cases ls with
    | nil => simpa using h
    | cons k ks => exact isPrefix_of_not_mem hm h

/-- Returns at the end of a line are no part of what it begins with. -/
theorem isPrefix_stripReturns {l : Text} :
    declarationMark <+: stripReturns l ↔ declarationMark <+: l := by
  refine ⟨fun h => h.trans (stripReturns_isPrefix l), ?_⟩
  rintro ⟨r, rfl⟩
  -- the last letter of the mark is in no return, so nothing goes before it
  have hl : ∀ x ∈ returns, 'l' ∉ x := by decide
  exact ⟨stripReturns r, (stripReturns_keeps hl "<?xm".toList r).symm⟩

/-- **The text of lines that are set out** begins with the first of them that shows. -/
theorem isLed_joinLines (w : Nat) (ls : List Text) :
    declarationMark <+: joinLines (setOut w ls) ↔ isLed w ls = true := by
  induction ls with
  | nil => simp [setOut, joinLines, isLed, declarationMark]
  | cons l ls ih =>
    rw [setOut_cons, isLed_cons]
    cases isBlankText l with
    | true => exact ih
    | false =>
      rw [if_neg (by decide), if_neg (by decide), List.isPrefixOf_iff_prefix, joinLines_eq_append,
        ← isPrefix_stripReturns (l := dedent w l)]
      refine ⟨fun h => ?_, fun h => h.trans (List.prefix_append _ _)⟩
      cases hrest : setOut w ls with
      | nil => simpa [hrest] using h
      | cons m ms =>
        rw [hrest] at h
        exact isPrefix_of_not_mem (by decide) h

/-! ### The first node that shows -/

/-- Whether a node begins like a declaration: a comment that is written as one, or an element with
such a name. -/
def opensDeclared : Node → Bool
  | .comment t => isDeclaration t
  | .element t _ _ => isDeclaration (repairText t.name.toList)
  | _ => false

/-- Whether a node at the top of a page shows: any but a text of which only blanks are left. -/
def showsOnTop : Node → Bool
  | .text t => !isBlankText (repairText t)
  | _ => true

/-- Whether the first of some nodes that shows begins like a declaration. -/
def leaderDeclared (ns : List Node) : Bool := (ns.find? showsOnTop).any opensDeclared

theorem isDeclaration_iff {t : Text} : isDeclaration t = true ↔ "?xml".toList <+: t := by
  have hall : ∀ p t : Text, (after? p t).isSome = true ↔ p <+: t := by
    intro p t
    fun_induction after? p t with
    | case1 t => simp
    | case2 a p => simp
    | case3 a p b t hab ih =>
      rw [ih, List.cons_prefix_cons, and_iff_right (eq_of_beq hab)]
    | case4 a p b t hab =>
      simp only [beq_iff_eq] at hab
      simp [hab]
  exact hall _ t

/-- A name that begins like a declaration does so without what stands after it. -/
theorem isDeclaration_append {c : Char} (hc : c ∉ "?xml".toList) (u x : Text) :
    isDeclaration (u ++ c :: x) = isDeclaration u := by
  rw [Bool.eq_iff_iff, isDeclaration_iff, isDeclaration_iff]
  exact ⟨isPrefix_of_not_mem hc, fun h => h.trans (List.prefix_append u _)⟩

theorem declarationMark_isPrefixOf (l : Text) :
    declarationMark.isPrefixOf ('<' :: l) = isDeclaration l := by
  rw [Bool.eq_iff_iff, isDeclaration_iff, List.isPrefixOf_iff_prefix]
  exact List.cons_prefix_cons.trans (and_iff_right rfl)

/-- What stands behind the name in a tag. -/
theorem flatMap_head {g : Attr → Text} (hg : ∀ a, ∃ x, g a = ' ' :: x) (as : List Attr) (y : Text) :
    ∃ e x, as.flatMap g ++ '>' :: y = e :: x ∧ (e = ' ' ∨ e = '>') := by
  cases as with
  | nil => exact ⟨'>', y, rfl, .inr rfl⟩
  | cons a as =>
    obtain ⟨x, hx⟩ := hg a
    rw [List.flatMap_cons, hx]
    exact ⟨' ', _, rfl, .inl rfl⟩

/-- The first line of an element has the name of the element behind the `<`. -/
theorem nodeLines_element (t : Tag) (c ns : List Node) (isTop : Bool) (depth : Nat) :
    ∃ e x ms, nodeLines isTop depth (.element t c ns) =
      (indent depth ++ '<' :: (t.name.toList ++ e :: x)) :: ms ∧ (e = ' ' ∨ e = '>') := by
  have hopening : ∀ y, ∃ e x, opening t ++ y = '<' :: (t.name.toList ++ e :: x) ∧
      (e = ' ' ∨ e = '>') := by
    intro y
    obtain ⟨e, x, hx, he⟩ := flatMap_head (g := attr) (fun a => ⟨_, rfl⟩) t.attrs y
    exact ⟨e, x, by simp [opening, ← hx], he⟩
  rw [nodeLines]
  by_cases hverbatim : t.name ∈ verbatimNames
  · have hmarkup : ∃ y, (Node.element t c ns).markup = t.markup ++ y := by
      rw [markup_element]
      split
      · exact ⟨_, rfl⟩
      · exact ⟨_, List.append_assoc _ _ _⟩
    obtain ⟨y, hy⟩ := hmarkup
    obtain ⟨e, x, hx, he⟩ := flatMap_head (g := Attr.markup) (fun a => ⟨_, rfl⟩) t.attrs y
    rw [if_pos hverbatim, hy]
    exact ⟨e, x, [], by simp [Tag.markup, ← hx], he⟩
  rw [if_neg hverbatim]
  split
  · obtain ⟨e, x, hx, he⟩ := hopening []
    rw [List.append_nil] at hx
    exact ⟨e, x, [], by rw [hx], he⟩
  · split
    · rename_i u hu
      obtain ⟨e, x, hx, he⟩ := hopening (escapeText u ++ closing t.name)
      exact ⟨e, x, [], by rw [← hx]; simp, he⟩
    · obtain ⟨e, x, hx, he⟩ := hopening []
      rw [List.append_nil] at hx
      exact ⟨e, x, _, by rw [hx]; rfl, he⟩

/-- A comment is written like a declaration exactly when it is one. -/
theorem repairText_commentText_head (t : Text) :
    ∃ r, repairText (commentText t) = '<' :: r ∧ isDeclaration r = isDeclaration t := by
  rw [repairText_commentText]
  cases ht : isDeclaration t with
  | true =>
    obtain ⟨r, rfl⟩ := isDeclaration_iff.1 ht
    have hkeep : repairText ("?xml".toList ++ r) = "?xml".toList ++ repairText r := by
      rw [repairText_append]
      rfl
    refine ⟨repairText ("?xml".toList ++ r) ++ ['>'], rfl, isDeclaration_iff.2 ?_⟩
    rw [hkeep, List.append_assoc]
    exact List.prefix_append _ _
  | false => exact ⟨"!--".toList ++ repairText t ++ "-->".toList, rfl, rfl⟩

/-- **The first line of a node that is no text** begins like a declaration if the node does. -/
theorem repairedLines_shown {n : Node} (hn : n.isText = false) (depth : Nat) :
    ∃ l ls, repairedLines (nodeLines true depth n) = (indent depth ++ '<' :: l) :: ls ∧
      isDeclaration l = opensDeclared n := by
  have hmarkup : ∃ m r ms, nodeLines true depth n = (indent depth ++ m) :: ms ∧
      repairText m = '<' :: r ∧ isDeclaration r = opensDeclared n := by
    cases n with
    | text d => cases hn
    | comment d =>
      obtain ⟨r, hr, hd⟩ := repairText_commentText_head d
      exact ⟨commentText d, r, [], by rw [nodeLines], hr, hd⟩
    | doctype d => exact ⟨doctypeText d, _, [], by rw [nodeLines, if_pos rfl], rfl, rfl⟩
    | element t c ns =>
      obtain ⟨e, x, ms, hlines, he⟩ := nodeLines_element t c ns true depth
      -- what stands behind the name can be held, so it keeps its place when the line is repaired
      have hname : repairText (t.name.toList ++ e :: x) =
          repairText t.name.toList ++ e :: repairText x := by
        rw [repairText_append]
        rcases he with rfl | rfl <;> rfl
      refine ⟨_, repairText (t.name.toList ++ e :: x), ms, hlines, rfl, ?_⟩
      rw [hname, isDeclaration_append (by rcases he with rfl | rfl <;> decide), opensDeclared]
  obtain ⟨m, r, ms, hlines, hm, hr⟩ := hmarkup
  obtain ⟨l, ls, hl⟩ := List.exists_cons_of_ne_nil (splitLines_ne_nil r)
  have hfirst := splitLines_indent depth (splitLines_cons (c := '<') (by decide) hl)
  refine ⟨l, ls ++ repairedLines ms, ?_, ?_⟩
  · rw [hlines, ← List.singleton_append, repairedLines_append, repairedLines_singleton, hm, hfirst]
    rfl
  · rw [← hr, Bool.eq_iff_iff, isDeclaration_iff, isDeclaration_iff,
      ← isPrefix_headD (t := r) (by decide), hl]
    rfl

/-- Indentation is set out by its own width. -/
theorem dedent_indent_eq_nil (hw : 2 * depth ≤ w) : dedent w (indent depth) = [] := by
  have hall : ∀ k w, k ≤ w → dedent w (List.replicate k ' ') = [] := by
    intro k
    induction k with
    | zero => intro w _; cases w <;> rfl
    | succ k ih =>
      intro w hkw
      obtain ⟨v, rfl⟩ := Nat.exists_eq_add_of_le' (Nat.one_le_of_lt hkw)
      rw [List.replicate_succ, dedent, if_pos (by decide), ih v (by omega)]
  exact hall _ w hw

/-- No text begins like a declaration, for it is escaped. -/
theorem isLed_text (d : Text) (depth : Nat) :
    isLed w (repairedLines (nodeLines true depth (.text d))) = false := by
  refine Bool.eq_false_iff.2 fun hled => ?_
  obtain ⟨l, hl, hmark⟩ := (Option.any_eq_true _ _).1 hled
  have hmem : '<' ∈ dedent w l := (List.isPrefixOf_iff_prefix.1 hmark).mem (by decide)
  exact lt_not_mem_textLine (List.mem_of_find?_eq_some hl) ((dedent_suffix w l).subset hmem)

/-- Of a text all lines are blank if it is blank once it is repaired. -/
theorem all_isBlankText_text (d : Text) (depth : Nat) :
    (repairedLines (nodeLines true depth (.text d))).all isBlankText = isBlankText (repairText d) := by
  have hline : ∀ l : Text, isBlankText (indent depth ++ escapeText (repairText l)) =
      (trim (repairText l)).isEmpty := by
    intro l
    rw [isBlankText_append, isBlankText_indent, Bool.true_and, isBlankText_escapeText,
      Bool.eq_iff_iff, List.isEmpty_iff, trim_eq_nil_iff]
  rw [repairedLines_text, Bool.eq_iff_iff, ← textLines_eq_nil_iff, textLines_repairText,
    List.filter_eq_nil_iff]
  simp [hline]

/-- **The first line that shows** among those of some nodes is that of the first node that shows. -/
theorem isLed_forest (hw : 2 * depth ≤ w) (ns : List Node) {ms : List Text}
    (hms : ms.all isBlankText = true) :
    isLed w (repairedLines (forestLines true depth ns) ++ ms) = leaderDeclared ns := by
  induction ns with
  | nil => exact isLed_of_blank hms
  | cons n ns ih =>
    rw [forestLines, repairedLines_append, List.append_assoc, leaderDeclared, List.find?_cons]
    cases hn : n.isText with
    | true =>
      obtain ⟨d, rfl⟩ := exists_text hn
      have hblank := all_isBlankText_text d depth
      rw [showsOnTop]
      cases hd : isBlankText (repairText d) with
      | true => rw [isLed_append_of_blank (hblank.trans hd), ih]; rfl
      | false => rw [isLed_append_of_shown (hblank.trans hd), isLed_text]; rfl
    | false =>
      obtain ⟨l, ls, hlines, hl⟩ := repairedLines_shown hn depth
      have hshown : isBlankText (indent depth ++ '<' :: l) = false := by
        have : isBlank '<' = false := by decide
        simp [this]
      have hleads : showsOnTop n = true := by
        cases n with
        | text d => cases hn
        | _ => rfl
      rw [hlines, List.cons_append, isLed_cons, hshown, if_neg (by decide),
        dedent_append_cons w _ (by decide), dedent_indent_eq_nil hw, List.nil_append,
        declarationMark_isPrefixOf, hl, hleads]
      rfl

/-! ### Pages -/

/-- Every line at the top of a forest that begins a node is set in. -/
theorem head_repairedLines (ns : List Node) (depth : Nat) :
    ∀ l ∈ (repairedLines (forestLines true depth ns)).head?, ∃ x, l = indent depth ++ x := by
  induction ns with
  | nil => nofun
  | cons n ns ih =>
    intro l hl
    rw [forestLines, repairedLines_append] at hl
    cases hn : n.isText with
    | true =>
      obtain ⟨d, rfl⟩ := exists_text hn
      rw [repairedLines_text] at hl
      cases hd : textLines d with
      | nil =>
        rw [hd] at hl
        exact ih l hl
      | cons m ms =>
        rw [hd] at hl
        exact ⟨_, (Option.some.inj hl).symm⟩
    | false =>
      obtain ⟨x, ls, hlines, -⟩ := repairedLines_shown hn depth
      rw [hlines] at hl
      exact ⟨_, (Option.some.inj hl).symm⟩

/-- The lines of a fragment are set out by one step at least. -/
theorem le_firstWidth {ns : List Node} (h : repairedLines (forestLines true depth ns) ≠ []) :
    2 * depth ≤ firstWidth (repairedLines (forestLines true depth ns)) := by
  obtain ⟨l, ls, hlines⟩ := List.exists_cons_of_ne_nil h
  obtain ⟨x, rfl⟩ := head_repairedLines ns depth l (by rw [hlines]; rfl)
  have hindent : ∀ c ∈ indent depth, isIndent c = true := fun c hc => by
    rw [List.eq_of_mem_replicate hc]
    rfl
  rw [hlines, firstWidth, List.takeWhile_append_of_pos hindent, List.length_append, indent,
    List.length_replicate]
  exact Nat.le_add_right _ _

/-- Whether a document begins like a declaration. If the first line of it is a declaration and
nothing else, that line is dropped, and the next one counts. -/
def leadsDocument : List Node → Bool
  | [] => false
  | n :: ns =>
    match repairedLines (nodeLines true 0 n) with
    -- a blank text has no lines
    | [] => leadsDocument ns
    | l :: ls =>
      if isXmlDeclaration l then
        if ls.all isBlankText then leaderDeclared ns else isLed (firstWidth ls) ls
      else leaderDeclared (n :: ns)

/-- Whether a page begins like a declaration. -/
def leadsDeclared (p : Page) : Bool :=
  match p.shape with
  | .document => leadsDocument p.nodes
  | .fragment => leaderDeclared p.nodes

/-- The inner lines of a document. -/
theorem isLed_document (ns : List Node) :
    isLed (firstWidth (dropFirstIf isXmlDeclaration (repairedLines (forestLines true 0 ns) ++ [[]])))
        (dropFirstIf isXmlDeclaration (repairedLines (forestLines true 0 ns) ++ [[]])) =
      leadsDocument ns := by
  have hend : [[]].all isBlankText = true := rfl
  induction ns with
  | nil => rfl
  | cons n ns ih =>
    have hall : ∀ w, isLed w (repairedLines (forestLines true 0 (n :: ns)) ++ [[]]) =
        leaderDeclared (n :: ns) := fun w => isLed_forest (Nat.zero_le w) (n :: ns) hend
    rw [forestLines, repairedLines_append, List.append_assoc] at hall ⊢
    rw [leadsDocument]
    cases hlines : repairedLines (nodeLines true 0 n) with
    | nil => exact ih
    | cons l ls =>
      rw [hlines] at hall
      rw [List.cons_append, dropFirstIf]
      dsimp only
      cases hl : isXmlDeclaration l with
      | false => exact hall _
      | true =>
        -- the first line goes, and the width is that of the next one, whether it shows or not
        rw [if_pos rfl, if_pos rfl]
        cases hls : ls.all isBlankText with
        | true => rw [isLed_append_of_blank hls, isLed_forest (Nat.zero_le _) ns hend]; rfl
        | false =>
          have hne : ls ≠ [] := by
            rintro rfl
            cases hls
          rw [isLed_append_of_shown hls, firstWidth_append hne]
          rfl

/-! ### The canonical form -/

/-- **Which pages are led by a declaration.** The canonical form begins like one exactly if the page
does: if the first node that shows is a comment that is written as a declaration or an element with such
a name, or if in a document such a thing comes next after a line that is dropped. -/
theorem firstLine_declared_iff (p : Page) :
    declarationMark <+: p.firstLine ↔ p.leadsDeclared = true := by
  rw [firstLine, isPrefix_headD (by decide), canonical_eq_setOut, isLed_joinLines, leadsDeclared, width]
  cases hshape : p.shape with
  | document => rw [innerLines_document hshape, isLed_document]
  | fragment =>
    have hnone : ([] : List Text).all isBlankText = true := rfl
    have hforest : ∀ w, 2 * 1 ≤ w → isLed w (repairedLines (forestLines true 1 p.nodes)) =
        leaderDeclared p.nodes := fun w hw => by
      rw [← isLed_forest hw p.nodes hnone, List.append_nil]
    rw [innerLines_fragment hshape]
    -- without lines the width is zero, but then no line is led at any width
    by_cases hnil : repairedLines (forestLines true 1 p.nodes) = []
    · rw [← hforest 2 (Nat.le_refl 2), hnil]
      rfl
    · rw [hforest _ (le_firstWidth hnil)]

/-- A declaration that stands at the start of the body. -/
def declaredBody : Text := "<body><?xml version=\"1.0\"?><p>x</p>".toList

/-- It stays, for the page is a fragment. -/
theorem firstLine_declaredBody : declarationMark <+: (parse declaredBody).firstLine := by
  decide +kernel

end HtmlCanon.Page
