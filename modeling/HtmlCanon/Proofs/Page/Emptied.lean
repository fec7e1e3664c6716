import HtmlCanon.Proofs.Page.Leading

/-!
# Lines that are emptied

Blank lines go before returns are stripped off the ends of lines. A line that shows only because it
holds a reference to a carriage return is there when blank lines go, and nothing is left of it then.
Text is escaped, so there are no such lines in it; markup may have some.

* `isEmptied_iff` : **which lines are emptied**.
* `isEmptied_escapeText` : no line of an escaped text is.
* `writtenOf_forest` : the emptied lines of a layout are those of its pieces of markup, and after each of
  them a line follows that stays.
* `canonical_gapless_iff` : **the pages whose canonical form has no blank lines**.
-/

namespace HtmlCanon.Page

open Html

variable {l : Text} {c : Char}

/-! ### Emptied lines -/

/-- Whether something is left of a line when returns are stripped off it. -/
def isSolid (l : Text) : Bool := !isBlankText (stripReturns l)

/-- Whether a line shows and nothing is left of it when returns are stripped off. -/
def isEmptied (l : Text) : Bool := !isBlankText l && !isSolid l

/-- Something is left of a line with a mark on it. -/
theorem isSolid_of_mem (hc : IsMark [c]) (h : c ∈ l) : isSolid l = true := by
  obtain ⟨a, b, rfl⟩ := List.append_of_mem h
  have hkeep := stripReturns_keeps (hc.2 c List.mem_cons_self).2 a b
  rw [isSolid, hkeep, isBlankText_append, isBlankText_cons, (hc.2 c List.mem_cons_self).1]
  simp

theorem isEmptied_of_mem (hc : IsMark [c]) (h : c ∈ l) : isEmptied l = false := by
  rw [isEmptied, isSolid_of_mem hc h]
  simp

theorem isBlankText_stripReturns_cons (hc : isIndent c = true) (l : Text) :
    isBlankText (stripReturns (c :: l)) = isBlankText (stripReturns l) := by
  have hkeeps : ∀ x ∈ returns, c ∉ x := by
    simp only [isIndent, Bool.or_eq_true, beq_iff_eq] at hc
    rcases hc with rfl | rfl <;> decide
  have hkeep : stripReturns (c :: l) = c :: stripReturns l := stripReturns_keeps hkeeps [] l
  rw [hkeep, isBlankText_cons, isBlank_of_isIndent hc, Bool.true_and]

/-- Whether something is left of a line does not depend on how far it is set out. -/
theorem isSolid_dedent (w : Nat) (l : Text) : isSolid (dedent w l) = isSolid l := by
  induction w, l using dedent.induct with
  | case1 l => rfl
  | case2 n h => cases n <;> rfl
  | case3 n c l hc ih => rw [dedent, if_pos hc, ih, isSolid, isSolid, isBlankText_stripReturns_cons hc]
  | case4 n c l hc => rw [dedent, if_neg hc]

/-- A row of returns at the end of a line is stripped off. -/
theorem stripReturns_append_row {xs : List Text} (hxs : ∀ x ∈ xs, x ∈ returns) (l : Text) :
    stripReturns (l ++ xs.flatten) = stripReturns l := by
  induction xs using List.reverseRecOn with
  | nil => rw [List.flatten_nil, List.append_nil]
  | append_singleton xs x ih =>
    rw [List.flatten_concat, ← List.append_assoc, stripReturns, List.reverse_append,
      dropReturns_return (hxs x (by simp)), ← stripReturns]
    exact ih fun y hy => hxs y (List.mem_append_left _ hy)

/-- What is stripped off a line is a row of returns. -/
theorem stripReturns_split (l : Text) :
    ∃ xs : List Text, (∀ x ∈ xs, x ∈ returns) ∧ l = stripReturns l ++ xs.flatten := by
  have hdrop : ∀ r : Text, ∃ xs : List Text, (∀ x ∈ xs, x ∈ returns) ∧
      r = xs.flatten.reverse ++ dropReturns r := by
    intro r
    have hmore : ∀ {r s : Text} {x : Text}, x ∈ returns → (∃ xs : List Text, (∀ x ∈ xs, x ∈ returns) ∧
        r = xs.flatten.reverse ++ s) → ∃ xs : List Text, (∀ x ∈ xs, x ∈ returns) ∧
        x.reverse ++ r = xs.flatten.reverse ++ s := by
      rintro r s x hx ⟨xs, hxs, rfl⟩
      refine ⟨xs ++ [x], fun y hy => ?_, by simp⟩
      rcases List.mem_append.1 hy with hy | hy
      · exact hxs y hy
      · rwa [List.mem_singleton.1 hy]
    fun_induction dropReturns r with
    | case1 r ih => exact hmore (x := "\r".toList) (by decide) ih
    | case2 r ih => exact hmore (x := "&#13;".toList) (by decide) ih
    | case3 r ih => exact hmore (x := "&#xD;".toList) (by decide) ih
    | case4 r ih => exact hmore (x := "&#xd;".toList) (by decide) ih
    | case5 r => exact ⟨[], List.forall_mem_nil _, rfl⟩
  obtain ⟨xs, hxs, hl⟩ := hdrop l.reverse
  refine ⟨xs, hxs, ?_⟩
  rw [stripReturns, ← List.reverse_inj, List.reverse_append, List.reverse_reverse, ← hl]

/-- **Which lines are emptied**: those that show though they hold nothing but blanks and, at the end,
returns. -/
theorem isEmptied_iff : isEmptied l = true ↔ isBlankText l = false ∧ ∃ (b : Text) (xs : List Text),
    isBlankText b = true ∧ (∀ x ∈ xs, x ∈ returns) ∧ l = b ++ xs.flatten := by
  rw [isEmptied, isSolid, Bool.not_not, Bool.and_eq_true, Bool.not_eq_true']
  refine and_congr_right fun _ => ⟨fun h => ?_, ?_⟩
  · obtain ⟨xs, hxs, hl⟩ := stripReturns_split l
    exact ⟨stripReturns l, xs, h, hxs, hl⟩
  · rintro ⟨b, xs, hb, hxs, rfl⟩
    rw [stripReturns_append_row hxs]
    exact isBlankText_iff.2 fun c hc => isBlankText_iff.1 hb c ((stripReturns_isPrefix b).subset hc)

/-- A line that is emptied holds the start of a reference to a character. -/
theorem isInfix_of_isEmptied (h : isEmptied l = true) : ['&', '#'] <:+: l := by
  obtain ⟨hshown, b, xs, hb, hxs, rfl⟩ := isEmptied_iff.1 h
  have hreference : ∃ x ∈ xs, isBlankText x = false := by
    by_contra hnone
    push Not at hnone
    have hblank : isBlankText xs.flatten = true := isBlankText_iff.2 fun c hc => by
      obtain ⟨x, hx, hcx⟩ := List.mem_flatten.1 hc
      exact isBlankText_iff.1 (Bool.eq_true_of_not_eq_false (hnone x hx)) c hcx
    rw [isBlankText_append, hb, hblank] at hshown
    cases hshown
  obtain ⟨x, hx, hshows⟩ := hreference
  have hstart : ∀ y ∈ returns, isBlankText y = false → ['&', '#'] <+: y := by decide
  have hin : x <:+: xs.flatten := by
    obtain ⟨ys, zs, rfl⟩ := List.append_of_mem hx
    exact ⟨ys.flatten, zs.flatten, by simp⟩
  exact ((hstart x (hxs x hx) hshows).isInfix.trans hin).trans (List.suffix_append b _).isInfix

/-! ### Escaped texts -/

/-- What stands for a character in a text that is escaped: the character, or a reference by name. -/
theorem textChar_cases (c : Char) : (textChar c = [c] ∧ c ≠ '&') ∨
    ∃ d r, textChar c = '&' :: d :: r ∧ '&' ∉ d :: r ∧ '#' ∉ d :: r := by
  unfold textChar
  split
  · exact .inr ⟨_, _, rfl, by decide, by decide⟩
  · exact .inr ⟨_, _, rfl, by decide, by decide⟩
  · exact .inr ⟨_, _, rfl, by decide, by decide⟩
  · exact .inl ⟨rfl, by assumption⟩

/-- Nothing that is escaped holds the start of a reference to a character. -/
theorem not_isInfix_escapeText (u : Text) : ¬['&', '#'] <:+: escapeText u := by
  induction u with
  | nil => exact fun h => absurd (List.infix_nil.1 h) (by decide)
  | cons c u ih =>
    rw [escapeText, List.flatMap_cons]
    intro hin
    rcases textChar_cases c with ⟨hc, hne⟩ | ⟨d, r, hc, hand, hhash⟩
    · rw [hc, List.singleton_append] at hin
      rcases List.infix_cons_iff.1 hin with h | h
      · exact hne (List.cons_prefix_cons.1 h).1.symm
      · exact ih h
    · -- the name holds neither of the two characters
      have hfree : ∀ e ∈ d :: r, e ∉ ['&', '#'] := by
        intro e he hmem
        simp only [List.mem_cons, List.not_mem_nil, or_false] at hmem
        rcases hmem with rfl | rfl
        · exact hand he
        · exact hhash he
      rw [hc, List.cons_append] at hin
      rcases List.infix_cons_iff.1 hin with h | h
      · obtain rfl : '#' = d := (List.cons_prefix_cons.1 (List.cons_prefix_cons.1 h).2).1
        exact hhash List.mem_cons_self
      · exact ih (isInfix_of_forall_not_mem (by decide) hfree h)

/-- **No line of an escaped text is emptied**, wherever it stands. -/
theorem isEmptied_escapeText (depth : Nat) (u : Text) :
    isEmptied (indent depth ++ escapeText u) = false := by
  refine Bool.eq_false_iff.2 fun h => not_isInfix_escapeText u ?_
  refine isInfix_of_forall_not_mem (by decide) (fun c hc => ?_) (isInfix_of_isEmptied h)
  rw [List.eq_of_mem_replicate hc]
  decide

/-! ### Pieces of markup -/

/-- Whether a line of some markup is emptied. -/
def isGapped (m : Text) : Bool := (splitLines (repairText m)).any isEmptied

mutual

/-- The pieces of markup that a node is written with: its tags, or all of it if it is a comment, a
doctype at the top or an element that is laid out as it is. -/
def piecesOf (isTop : Bool) : Node → List Text
  | .text _ => []
  | .comment t => [commentText t]
  | .doctype d => if isTop then [doctypeText d] else []
  | .element t c ns =>
    if t.name ∈ verbatimNames then [(Node.element t c ns).markup]
    else if t.name ∈ voidNames then [opening t]
    else [opening t, closing t.name] ++ if (inlineText? ns).isSome then [] else allPieces false ns

/-- The pieces of markup that siblings are written with. -/
def allPieces (isTop : Bool) : List Node → List Text
  | [] => []
  | n :: ns => piecesOf isTop n ++ allPieces isTop ns

end

/-- Between two marks a line goes on. -/
theorem any_isEmptied_glue (hc : IsMark [c]) (x y : Text) :
    (splitLines (x ++ c :: y)).any isEmptied =
      ((splitLines (x ++ [c])).any isEmptied || (splitLines (c :: y)).any isEmptied) := by
  have hfeed : c ≠ '\n' := by
    rintro rfl
    exact absurd (hc.2 _ List.mem_cons_self).1 (by decide)
  induction x using line_induction with
  | last x hx =>
    obtain ⟨l, ls, hl⟩ := List.exists_cons_of_ne_nil (splitLines_ne_nil y)
    have hleft : '\n' ∉ x ++ [c] := by simp [hx, Ne.symm hfeed]
    have hright := splitLines_cons hfeed hl
    have hboth := splitLines_append_left hx hright
    rw [hboth, hright, splitLines_of_not_mem hleft]
    simp only [List.any_cons, List.any_nil]
    rw [isEmptied_of_mem hc (l := x ++ c :: l) (by simp), isEmptied_of_mem hc (l := x ++ [c]) (by simp),
      isEmptied_of_mem hc (l := c :: l) (by simp)]
    simp
  | more a b ha ih =>
    rw [List.append_assoc, List.cons_append, splitLines_append, List.append_assoc, List.cons_append,
      splitLines_append, List.any_append, List.any_append, ih, Bool.or_assoc]

/-- A line with a mark on it is not emptied. -/
theorem any_isEmptied_line (hc : IsMark [c]) (hmem : c ∈ l) (hn : '\n' ∉ l) :
    (splitLines l).any isEmptied = false := by
  rw [splitLines_of_not_mem hn, List.any_cons, isEmptied_of_mem hc hmem]
  rfl

/-- No line is emptied of what holds no start of a reference to a character. -/
theorem any_isEmptied_of_not_isInfix {x : Text} (h : ¬['&', '#'] <:+: x) :
    (splitLines x).any isEmptied = false := by
  refine Bool.eq_false_iff.2 fun hany => ?_
  obtain ⟨l, hl, hempty⟩ := List.any_eq_true.1 hany
  exact h ((isInfix_of_isEmptied hempty).trans (infix_of_mem_splitLines hl))

/-- No line is emptied of an escaped text between two marks. -/
theorem any_isEmptied_between {d : Char} (hc : c ∉ ['&', '#']) (hd : d ∉ ['&', '#']) (u : Text) :
    (splitLines (c :: escapeText u ++ [d])).any isEmptied = false := by
  -- the marks may be next to a line feed, so this is not told line by line
  refine any_isEmptied_of_not_isInfix fun h => not_isInfix_escapeText u ?_
  rcases isInfix_of_not_mem hd h with h | h
  · exact isInfix_of_forall_not_mem (by decide) (fun e he => by rwa [List.mem_singleton.1 he])
      (t := [c]) h
  · exact absurd (List.infix_nil.1 h) (by decide)

/-! ### Lines of nodes -/

/-- Whether after each line that is emptied a line follows of which something is left. -/
def closes : List Text → Bool
  | [] => true
  | l :: ls => (!isEmptied l || ls.any isSolid) && closes ls

/-- Lines that pieces of markup are written on: one of them is emptied if a line of the pieces is, and
it is not the last one. -/
structure WrittenOf (ms ls : List Text) : Prop where
  gaps : ls.any isEmptied = ms.any isGapped
  ends : closes ls = true

variable {ls ms ls' ms' : List Text}

theorem closes_append (h : closes ls = true) (h' : closes ms = true) : closes (ls ++ ms) = true := by
  induction ls with
  | nil => exact h'
  | cons l ls ih =>
    rw [closes, Bool.and_eq_true] at h
    rw [List.cons_append, closes, ih h.2, Bool.and_true, List.any_append]
    rcases Bool.or_eq_true_iff.1 h.1 with hl | hl <;> rw [hl] <;> simp

theorem closes_of_none (h : ls.any isEmptied = false) : closes ls = true := by
  induction ls with
  | nil => rfl
  | cons l ls ih =>
    rw [List.any_cons, Bool.or_eq_false_iff] at h
    rw [closes, h.1, ih h.2]
    rfl

theorem closes_concat {z : Text} (hz : isSolid z = true) (ls : List Text) :
    closes (ls ++ [z]) = true := by
  induction ls with
  | nil =>
    rw [List.nil_append, closes, isEmptied, hz]
    simp [closes]
  | cons l ls ih =>
    rw [List.cons_append, closes, ih, List.any_append]
    simp [hz]

namespace WrittenOf

theorem nil : WrittenOf [] [] := ⟨rfl, rfl⟩

theorem append (h : WrittenOf ms ls) (h' : WrittenOf ms' ls') :
    WrittenOf (ms ++ ms') (ls ++ ls') where
  gaps := by rw [List.any_append, List.any_append, h.gaps, h'.gaps]
  ends := closes_append h.ends h'.ends

end WrittenOf

theorem splitLines_concat {t : Text} (hc : c ≠ '\n') :
    ∃ ls z, splitLines (t ++ [c]) = ls ++ [z ++ [c]] := by
  induction t using line_induction with
  | last t ht =>
    exact ⟨[], t, splitLines_of_not_mem (by simp [ht, Ne.symm hc])⟩
  | more a b ha ih =>
    obtain ⟨ls, z, hz⟩ := ih
    refine ⟨splitLines a ++ ls, z, ?_⟩
    rw [List.append_assoc, List.cons_append, splitLines_append, hz, List.append_assoc]

/-- **Markup on a line of its own.** What is written last on it is a mark. -/
theorem writtenOf_piece (depth : Nat) {m x : Text} (hm : m = '<' :: x ++ ['>']) :
    WrittenOf [m] (repairedLines [indent depth ++ m]) := by
  have hrepair : repairText m = '<' :: (repairText x ++ ['>']) := by
    rw [hm, repairText_append]
    rfl
  have hlines : repairedLines [indent depth ++ m] =
      splitLines (indent depth ++ '<' :: (repairText x ++ ['>'])) := by
    rw [repairedLines_singleton, hrepair]
  have hmark : IsMark ['<'] := by decide
  have hindent : '\n' ∉ indent depth ++ ['<'] := by simp [indent]
  rw [hlines]
  refine ⟨?_, ?_⟩
  · rw [any_isEmptied_glue hmark, any_isEmptied_line hmark (by simp) hindent, Bool.false_or,
      List.any_cons, List.any_nil, Bool.or_false, isGapped, hrepair]
  · obtain ⟨ls, z, hz⟩ := splitLines_concat (t := indent depth ++ '<' :: repairText x) (c := '>')
      (by decide)
    rw [← List.cons_append, ← List.append_assoc, hz]
    exact closes_concat (isSolid_of_mem (c := '>') (by decide) (by simp)) ls

theorem writtenOf_text (d : Text) (isTop : Bool) (depth : Nat) :
    WrittenOf [] (repairedLines (nodeLines isTop depth (.text d))) := by
  have hnone : (repairedLines (nodeLines isTop depth (.text d))).any isEmptied = false := by
    rw [repairedLines_text, List.any_map]
    refine List.any_eq_false.2 fun l _ => ?_
    rw [Function.comp_apply, isEmptied_escapeText]
    decide
  exact ⟨hnone, closes_of_none hnone⟩

/-- Text between two tags leaves their lines as they are. -/
theorem isGapped_inline (t : Tag) (u : Text) :
    isGapped (opening t ++ escapeText u ++ closing t.name) =
      (isGapped (opening t) || isGapped (closing t.name)) := by
  obtain ⟨x, hx⟩ : ∃ x, repairText (opening t) = x ++ ['>'] := ⟨_, repairText_append _ _⟩
  obtain ⟨y, hy⟩ : ∃ y, repairText (closing t.name) = '<' :: y := ⟨_, rfl⟩
  have htext : (splitLines ('>' :: escapeText (repairText u) ++ ['<'])).any isEmptied = false :=
    any_isEmptied_between (by decide) (by decide) _
  have hall : repairText (opening t ++ escapeText u ++ closing t.name) =
      x ++ '>' :: (escapeText (repairText u) ++ '<' :: y) := by
    rw [repairText_append, repairText_append, repairText_escapeText, hx, hy]
    simp
  rw [isGapped, isGapped, isGapped, hall, hx, hy, any_isEmptied_glue (c := '>') (by decide),
    ← List.cons_append, any_isEmptied_glue (c := '<') (by decide), htext, Bool.false_or]

theorem writtenOf_inline (t : Tag) (u : Text) (depth : Nat) :
    WrittenOf [opening t, closing t.name]
      (repairedLines [indent depth ++ opening t ++ escapeText u ++ closing t.name]) := by
  have hline : WrittenOf [opening t ++ escapeText u ++ closing t.name]
      (repairedLines [indent depth ++ (opening t ++ escapeText u ++ closing t.name)]) :=
    writtenOf_piece depth (x := t.name.toList ++ t.attrs.flatMap attr ++ ['>'] ++ escapeText u ++
      ("</".toList ++ t.name.toList)) (by simp [opening, closing])
  rw [← List.append_assoc, ← List.append_assoc] at hline
  refine ⟨hline.gaps.trans ?_, hline.ends⟩
  rw [List.any_cons, List.any_nil, Bool.or_false, isGapped_inline, List.any_cons, List.any_cons,
    List.any_nil, Bool.or_false]

/-- An element that is laid out as it is ends with a tag. -/
theorem markup_ends {t : Tag} (h : t.name ∈ verbatimNames) (c ns : List Node) :
    ∃ x, (Node.element t c ns).markup = '<' :: x ++ ['>'] := by
  have hclosed : t.isUnclosed = false := by
    have hnames : ∀ m ∈ verbatimNames, m ∉ unclosedNames := by decide
    simp [Tag.isUnclosed, hnames t.name h]
  rw [markup_element, if_neg (by rw [hclosed]; decide)]
  exact ⟨t.name.toList ++ t.attrs.flatMap Attr.markup ++ ['>'] ++
    Node.markupsIn ⟨t.holdsRawText, t.isUnclosed⟩ ns ++ ("</".toList ++ t.name.toList),
    by simp [Tag.markup, Tag.closing]⟩

mutual

theorem writtenOf_node (isTop : Bool) (depth : Nat) (n : Node) :
    WrittenOf (piecesOf isTop n) (repairedLines (nodeLines isTop depth n)) := by
  cases n with
  | text d => exact writtenOf_text d isTop depth
  | comment d =>
    have hends : ∃ x, commentText d = '<' :: x ++ ['>'] := by
      rw [commentText]
      split
      · exact ⟨d, rfl⟩
      · exact ⟨"!--".toList ++ d ++ "--".toList, by simp⟩
    obtain ⟨x, hx⟩ := hends
    rw [nodeLines, piecesOf]
    exact writtenOf_piece depth hx
  | doctype d =>
    rw [nodeLines, piecesOf]
    cases isTop with
    | false => exact .nil
    | true => exact writtenOf_piece depth rfl
  | element t c ns =>
    rw [piecesOf]
    by_cases hverbatim : t.name ∈ verbatimNames
    · obtain ⟨x, hx⟩ := markup_ends hverbatim c ns
      rw [nodeLines, if_pos hverbatim, if_pos hverbatim]
      exact writtenOf_piece depth hx
    rw [if_neg hverbatim]
    by_cases hvoid : t.name ∈ voidNames
    · rw [nodeLines, if_neg hverbatim, if_pos hvoid, if_pos hvoid]
      exact writtenOf_piece depth rfl
    rw [if_neg hvoid]
    cases hi : inlineText? ns with
    | some u =>
      rw [nodeLines, if_neg hverbatim, if_neg hvoid, hi]
      exact writtenOf_inline t u depth
    | none =>
      have hopen : WrittenOf [opening t] (repairedLines [indent depth ++ opening t]) :=
        writtenOf_piece depth rfl
      have hclose : WrittenOf [closing t.name] (repairedLines [indent depth ++ closing t.name]) :=
        writtenOf_piece depth rfl
      have hbelow := writtenOf_forest false (depth + 1) ns
      rw [repairedLines_element hverbatim hvoid hi]
      have hall := hopen.append (hbelow.append hclose)
      refine ⟨hall.gaps.trans ?_, hall.ends⟩
      simp [Bool.or_comm]
termination_by structural n

/-- **The lines of nodes** are emptied in their pieces of markup. -/
theorem writtenOf_forest (isTop : Bool) (depth : Nat) (ns : List Node) :
    WrittenOf (allPieces isTop ns) (repairedLines (forestLines isTop depth ns)) := by
  cases ns with
  | nil => exact .nil
  | cons n ns =>
    rw [allPieces, forestLines, repairedLines_append]
    exact (writtenOf_node isTop depth n).append (writtenOf_forest isTop depth ns)
termination_by structural ns

end

/-! ### The canonical form -/

/-- The pieces of markup that a page is written with. -/
def pieces (p : Page) : List Text := allPieces true p.nodes

/-- The inner lines of a page are emptied in its pieces of markup: the lines that are dropped before
are not emptied. -/
theorem writtenOf_innerLines (p : Page) : WrittenOf p.pieces p.innerLines := by
  cases hshape : p.shape with
  | fragment =>
    rw [innerLines_fragment hshape]
    exact writtenOf_forest true 1 p.nodes
  | document =>
    have hall : WrittenOf p.pieces (repairedLines (forestLines true 0 p.nodes) ++ [[]]) := by
      have hend : WrittenOf [] [[]] := ⟨rfl, rfl⟩
      have happend := (writtenOf_forest true 0 p.nodes).append hend
      rwa [List.append_nil] at happend
    rw [innerLines_document hshape]
    generalize repairedLines (forestLines true 0 p.nodes) ++ [[]] = ls at hall
    cases ls with
    | nil => exact hall
    | cons l ls =>
      rw [dropFirstIf]
      split
      · -- a declaration is dropped, which shows and keeps its mark
        rename_i hl
        have hmark : '<' ∈ l := by
          by_contra hnot
          rw [isXmlDeclaration_of_not_mem hnot] at hl
          cases hl
        have hfirst := isEmptied_of_mem (c := '<') (by decide) hmark
        have hgaps := hall.gaps
        have hends := hall.ends
        rw [List.any_cons, hfirst, Bool.false_or] at hgaps
        rw [closes, Bool.and_eq_true] at hends
        exact ⟨hgaps, hends.2⟩
      · exact hall

theorem isBlankText_cleaned (w : Nat) (l : Text) :
    isBlankText (stripReturns (dedent w l)) = !isSolid l := by
  rw [← isSolid_dedent w l, isSolid, Bool.not_not]

/-- The blank lines among lines that are set out are those that were emptied. -/
theorem any_isBlankText_setOut (w : Nat) (ls : List Text) :
    (setOut w ls).any isBlankText = ls.any isEmptied := by
  induction ls with
  | nil => rfl
  | cons l ls ih =>
    rw [setOut_cons, List.any_cons, isEmptied]
    cases isBlankText l with
    | true => rw [if_pos rfl, ih]; rfl
    | false => rw [if_neg (by decide), List.any_cons, isBlankText_cleaned, ih]; rfl

/-- The other lines are those of which something was left. -/
theorem any_shown_setOut (w : Nat) (ls : List Text) :
    ((setOut w ls).any fun l => !isBlankText l) = ls.any isSolid := by
  induction ls with
  | nil => rfl
  | cons l ls ih =>
    rw [setOut_cons, List.any_cons]
    cases hl : isBlankText l with
    | true =>
      have hnone : isSolid l = false := by
        rw [isSolid, Bool.not_eq_false', isBlankText_iff]
        exact fun c hc => isBlankText_iff.1 hl c ((stripReturns_isPrefix l).subset hc)
      rw [if_pos rfl, ih, hnone, Bool.false_or]
    | false => rw [if_neg (by decide), List.any_cons, isBlankText_cleaned, ih, Bool.not_not]

theorem any_isSolid_of_closes (h : closes ls = true) (hany : ls.any isEmptied = true) :
    ls.any isSolid = true := by
  induction ls with
  | nil => cases hany
  | cons l ls ih =>
    rw [closes, Bool.and_eq_true, Bool.or_eq_true_iff] at h
    rw [List.any_cons, Bool.or_eq_true_iff] at hany ⊢
    rcases h.1 with hl | hrest
    · rw [Bool.not_eq_true'] at hl
      exact .inr (ih h.2 (hany.resolve_left (by rw [hl]; decide)))
    · exact .inr hrest

theorem newline_not_mem_innerLines (p : Page) : ∀ l ∈ p.innerLines, '\n' ∉ l := by
  have hlines : ∀ ls : List Text, ∀ l ∈ repairedLines ls, '\n' ∉ l := fun ls l hl => by
    obtain ⟨m, -, hm⟩ := List.mem_flatMap.1 hl
    exact not_mem_of_mem_splitLines hm
  intro l hl
  cases hshape : p.shape with
  | fragment =>
    rw [innerLines_fragment hshape] at hl
    exact hlines _ l hl
  | document =>
    rw [innerLines_document hshape] at hl
    have hmem := (dropFirstIf_suffix _ _).mem hl
    rcases List.mem_append.1 hmem with hmem | hmem
    · exact hlines _ l hmem
    · rw [List.mem_singleton.1 hmem]
      exact List.not_mem_nil

/-- **Which pages have no blank lines** in their canonical form: those in whose pieces of markup no
line is emptied. -/
theorem canonical_gapless_iff (p : Page) :
    (p.canonical = [] ∨ ∀ l ∈ splitLines p.canonical, isBlankText l = false) ↔
      ∀ m ∈ p.pieces, ∀ l ∈ splitLines (repairText m), isEmptied l = false := by
  have hwritten := writtenOf_innerLines p
  have hgaps : (∀ m ∈ p.pieces, ∀ l ∈ splitLines (repairText m), isEmptied l = false) ↔
      (setOut p.width p.innerLines).any isBlankText = false := by
    rw [any_isBlankText_setOut, hwritten.gaps]
    simp [isGapped]
  have hends : (setOut p.width p.innerLines).any isBlankText = true →
      ((setOut p.width p.innerLines).any fun l => !isBlankText l) = true := by
    rw [any_isBlankText_setOut, any_shown_setOut]
    exact any_isSolid_of_closes hwritten.ends
  have hfree := newline_not_mem_setOut (w := p.width) (newline_not_mem_innerLines p)
  rw [hgaps, canonical_eq_setOut]
  generalize setOut p.width p.innerLines = ls at hends hfree
  by_cases hnil : ls = []
  · simp [hnil, joinLines]
  have hlines : splitLines (joinLines ls) = ls := splitLines_joined hnil hfree
  rw [hlines]
  refine ⟨fun h => Bool.eq_false_iff.2 fun hany => ?_, fun h => .inr fun l hl => ?_⟩
  · rcases h with hempty | hnone
    · -- the one line of an empty text is blank, and something else would be left
      rw [hempty] at hlines
      obtain rfl : [[]] = ls := hlines
      exact absurd (hends hany) (by decide)
    · obtain ⟨l, hl, hblank⟩ := List.any_eq_true.1 hany
      rw [hnone l hl] at hblank
      cases hblank
  · exact Bool.eq_false_iff.2 fun hblank => by
      rw [List.any_eq_true.2 ⟨l, hl, hblank⟩] at h
      cases h

/-- A style sheet with a reference to a carriage return on a line of its own. -/
def returnedStyle : Text := "<style>\n&#13;\n</style>".toList

/-- The line is emptied, and stays. -/
theorem canonical_returnedStyle :
    (parse returnedStyle).canonical ≠ [] ∧
      ∃ l ∈ splitLines (parse returnedStyle).canonical, isBlankText l = true := by
  decide +kernel

end HtmlCanon.Page
