import HtmlCanon.Proofs.Page.Alike
import HtmlCanon.Proofs.Page.Emptied

/-!
# The element around a fragment

A fragment is laid out inside an element, and the clean-up looks for the two lines of that element and
for the indentation of the first line between them. It knows nothing of the tree. Nevertheless, if no
name, attribute value, comment, doctype or verbatim markup holds a line feed and all characters are
representable, the canonical form has just the lines of the nodes of the fragment.

* `forestLines_succ` : **lines one level deeper** are the same lines, set in by one more step.
* `Written.forest` : what the lines of such nodes have in common.
* `canonical_fragment` : **the canonical form of a fragment**.
-/

namespace HtmlCanon.Page

open Html

/-! ### Lines one level deeper -/

theorem indent_add (depth : Nat) : indent (depth + 1) = indent 1 ++ indent depth := by
  rw [indent_succ]
  rfl

mutual

theorem nodeLines_succ (isTop : Bool) (depth : Nat) (n : Node) :
    nodeLines isTop (depth + 1) n = (nodeLines isTop depth n).map (indent 1 ++ ·) := by
  cases n with
  | text d =>
    rw [nodeLines, nodeLines, List.map_map]
    refine List.map_congr_left fun l _ => ?_
    rw [indent_add, List.append_assoc]
    rfl
  | comment d =>
    rw [nodeLines, nodeLines, indent_add, List.append_assoc]
    rfl
  | doctype d =>
    rw [nodeLines, nodeLines, indent_add, List.append_assoc]
    cases isTop <;> rfl
  | element t c ns =>
    have hbelow := forestLines_succ false (depth + 1) ns
    rw [nodeLines, nodeLines]
    by_cases hverbatim : t.name ∈ verbatimNames
    · rw [if_pos hverbatim, if_pos hverbatim, indent_add, List.append_assoc]
      rfl
    rw [if_neg hverbatim, if_neg hverbatim]
    by_cases hvoid : t.name ∈ voidNames
    · rw [if_pos hvoid, if_pos hvoid, indent_add, List.append_assoc]
      rfl
    rw [if_neg hvoid, if_neg hvoid]
    cases inlineText? ns with
    | some u =>
      simp only [indent_add depth, List.append_assoc]
      rfl
    | none =>
      simp only [hbelow, indent_add depth, List.append_assoc, List.map_append, List.map_cons,
        List.map_nil]
termination_by structural n

/-- **Lines one level deeper** are the same lines, set in by one more step. -/
theorem forestLines_succ (isTop : Bool) (depth : Nat) (ns : List Node) :
    forestLines isTop (depth + 1) ns = (forestLines isTop depth ns).map (indent 1 ++ ·) := by
  cases ns with
  | nil => rfl
  | cons n ns =>
    rw [forestLines, forestLines, nodeLines_succ isTop depth n, forestLines_succ isTop depth ns,
      List.map_append]
termination_by structural ns

end

/-! ### Markup on one line -/

/-- Whether a text has no line feed and only representable characters. -/
def isOneLine (t : Text) : Bool := !t.contains '\n' && t.all isRepresentable

theorem isOneLine_iff {t : Text} : isOneLine t = true ↔ '\n' ∉ t ∧ repairText t = t := by
  rw [isOneLine, Bool.and_eq_true, repairText_eq_self_iff]
  simp

@[simp] theorem isOneLine_append (t u : Text) :
    isOneLine (t ++ u) = (isOneLine t && isOneLine u) := by
  rw [Bool.eq_iff_iff, Bool.and_eq_true]
  simp only [isOneLine, Bool.and_eq_true, Bool.not_eq_true', List.contains_eq_mem,
    decide_eq_false_iff_not, List.mem_append, not_or, List.all_append]
  exact and_and_and_comm

theorem isOneLine_flatMap {α : Type} {f : α → Text} {as : List α}
    (h : ∀ a ∈ as, isOneLine (f a) = true) : isOneLine (as.flatMap f) = true := by
  induction as with
  | nil => rfl
  | cons a as ih =>
    rw [List.flatMap_cons, isOneLine_append, h a List.mem_cons_self,
      ih fun b hb => h b (List.mem_cons_of_mem a hb)]
    rfl

theorem isOneLine_escapeText {t : Text} (h : isOneLine t = true) : isOneLine (escapeText t) = true := by
  obtain ⟨hn, hr⟩ := isOneLine_iff.1 h
  refine isOneLine_iff.2 ⟨newline_not_mem_escape (fun _ hc => newline_not_mem_textChar hc) hn, ?_⟩
  rw [repairText_escapeText, hr]

theorem isOneLine_escapeValue {t : Text} (h : isOneLine t = true) :
    isOneLine (t.flatMap valueChar) = true := by
  obtain ⟨hn, hr⟩ := isOneLine_iff.1 h
  refine isOneLine_iff.2 ⟨newline_not_mem_escape (fun _ hc => newline_not_mem_valueChar hc) hn, ?_⟩
  rw [repairText_flatMap repairText_valueChar, hr]

/-- Whether the name of a tag and the names and values of its attributes are on one line each. -/
def isUnbrokenTag (t : Tag) : Bool :=
  isOneLine t.name.toList && t.attrs.all fun a => isOneLine a.name.toList && isOneLine a.value

mutual

/-- Whether no name, attribute value, comment, doctype or verbatim markup of a node or of one below it
holds a line feed, and all its characters are representable. What is not laid out does not count. -/
def isUnbroken : Node → Bool
  | .text d => d.all isRepresentable
  | .comment d => isOneLine d
  | .doctype d => isOneLine d.name && isOneLine d.publicId && isOneLine d.systemId
  | .element t c ns =>
    if t.name ∈ verbatimNames then isOneLine (Node.element t c ns).markup
    else isUnbrokenTag t && (t.name ∈ voidNames || areUnbroken ns)

/-- Whether this holds of all nodes of a forest. -/
def areUnbroken : List Node → Bool
  | [] => true
  | n :: ns => isUnbroken n && areUnbroken ns

end

theorem isOneLine_attr {a : Attr} (hname : isOneLine a.name.toList = true)
    (hvalue : isOneLine a.value = true) : isOneLine (attr a) = true := by
  have hlabel : isOneLine a.label.toList = true := by
    unfold Attr.label
    cases hq : a.qualifier? with
    | none => exact hname
    | some q =>
      have hqualifier : isOneLine q.toList = true := by
        revert hq
        unfold Attr.qualifier?
        cases a.space <;> simp only [reduceCtorEq, Option.some.injEq, false_implies]
        · rintro rfl
          decide
        · split <;> rintro rfl <;> decide
        · rintro rfl
          decide
      have hcolon : isOneLine (":" : String).toList = true := by decide
      simp only [String.toList_append, isOneLine_append, hqualifier, hcolon, hname, Bool.and_self]
  have hquote : isOneLine "=\"".toList = true := by decide
  have hspace : isOneLine (' ' :: a.label.toList) = true := by
    rw [← List.singleton_append, isOneLine_append, hlabel]
    rfl
  have hend : isOneLine ['"'] = true := by decide
  rw [attr, isOneLine_append, isOneLine_append, isOneLine_append, hspace, hquote,
    isOneLine_escapeValue hvalue, hend]
  rfl

theorem isOneLine_opening {t : Tag} (h : isUnbrokenTag t = true) : isOneLine (opening t) = true := by
  rw [isUnbrokenTag, Bool.and_eq_true, List.all_eq_true] at h
  have hattrs : isOneLine (t.attrs.flatMap attr) = true := isOneLine_flatMap fun a ha => by
    have hboth := h.2 a ha
    rw [Bool.and_eq_true] at hboth
    exact isOneLine_attr hboth.1 hboth.2
  have hstart : isOneLine ('<' :: t.name.toList) = true := by
    rw [← List.singleton_append, isOneLine_append, h.1]
    rfl
  have hend : isOneLine ['>'] = true := by decide
  rw [opening, isOneLine_append, isOneLine_append, hstart, hattrs, hend]
  rfl

theorem isOneLine_closing {t : Tag} (h : isUnbrokenTag t = true) : isOneLine (closing t.name) = true := by
  rw [isUnbrokenTag, Bool.and_eq_true] at h
  have hstart : isOneLine "</".toList = true := by decide
  have hend : isOneLine ['>'] = true := by decide
  rw [closing, isOneLine_append, isOneLine_append, hstart, h.1, hend]
  rfl

theorem isOneLine_doctypeText {d : Doctype} (hname : isOneLine d.name = true)
    (hpublic : isOneLine d.publicId = true) (hsystem : isOneLine d.systemId = true) :
    isOneLine (doctypeText d) = true := by
  have hid : ∀ start x : Text, isOneLine start = true → isOneLine x = true →
      isOneLine (if x.isEmpty then [] else start ++ x ++ ['"']) = true := by
    intro start x hstart hx
    split
    · rfl
    · rw [isOneLine_append, isOneLine_append, hstart, hx]
      rfl
  have hstart : isOneLine "<!DOCTYPE ".toList = true := by decide
  have hend : isOneLine ['>'] = true := by decide
  have hp := hid " PUBLIC \"".toList d.publicId (by decide) hpublic
  have hs := hid " \"".toList d.systemId (by decide) hsystem
  unfold doctypeText
  rw [isOneLine_append, isOneLine_append, isOneLine_append, isOneLine_append, hstart, hname, hp, hs, hend]
  rfl

/-! ### Lines that last -/

/-- Lines that are left as they are, by the repair of the layout and when they are cleaned without being
set out, and that start at a depth. -/
structure Lasting (depth : Nat) (ls : List Text) : Prop where
  repaired : repairedLines ls = ls
  steady : ls.all (isSteadyLine 0) = true
  starts : StartsAt depth ls

namespace Lasting

variable {depth : Nat} {ls ms : List Text}

theorem nil : Lasting depth [] := ⟨rfl, rfl, nofun⟩

theorem append (h : Lasting depth ls) (h' : Lasting depth ms) : Lasting depth (ls ++ ms) where
  repaired := by rw [repairedLines_append, h.repaired, h'.repaired]
  steady := by rw [List.all_append, h.steady, h'.steady]; rfl
  starts := h.starts.append h'.starts

/-- Lines with a line before them and one after them. -/
theorem around {l r : Text} (hl : Lasting depth [l]) (h : Lasting (depth + 1) ls)
    (hr : Lasting depth [r]) : Lasting depth (l :: ls ++ [r]) where
  repaired := by
    rw [← List.singleton_append, repairedLines_append, repairedLines_append, hl.repaired, h.repaired,
      hr.repaired]
  steady := by
    rw [← List.singleton_append, List.all_append, List.all_append, hl.steady, h.steady, hr.steady]
    rfl
  starts := hl.starts.head (List.cons_ne_nil l []) (ls ++ [r])

/-- Markup on a line of its own. -/
theorem piece (depth : Nat) {m x : Text} (hm : m = '<' :: x ++ ['>']) (h : isOneLine m = true) :
    Lasting depth [indent depth ++ m] := by
  obtain ⟨hn, hr⟩ := isOneLine_iff.1 h
  have hline : '\n' ∉ indent depth ++ m := by simp [indent, hn]
  have hmark : IsMark ['>'] := by decide
  have hends : indent depth ++ m = (indent depth ++ '<' :: x) ++ ['>'] := by
    rw [hm, List.append_assoc]
  have hshown : isBlankText (indent depth ++ m) = false := by
    rw [hends, hmark.isBlankText_append]
  have hreturn : endsInReturn (indent depth ++ m) = false := by
    rw [hends]
    exact stripReturns_eq_self_iff.1 (hmark.stripReturns_end _)
  refine ⟨?_, ?_, startsAt_cons (fun c hc => ?_) []⟩
  · rw [repairedLines_singleton, hr, splitLines_of_not_mem hline]
  · rw [List.all_cons, List.all_nil, Bool.and_true, isSteadyLine, hshown, hreturn]
    rfl
  · rw [hm] at hc
    obtain rfl := Option.some.inj hc
    decide

end Lasting

/-- An escaped line of a text ends in no return. -/
theorem endsInReturn_escapeText {l : Text} (ht : trim l = l) (hne : l ≠ []) (depth : Nat) :
    endsInReturn (indent depth ++ escapeText l) = false := by
  refine Bool.eq_false_iff.2 fun h => ?_
  obtain ⟨x, hx, hsuffix⟩ := endsInReturn_iff.1 h
  have hreturns : ∀ y ∈ returns, y = ['\r'] ∨ ['&', '#'] <+: y := by decide
  rcases hreturns x hx with rfl | hreference
  · -- the last character is not blank, and escaping puts a semicolon in its place or leaves it
    obtain ⟨r, c, rfl⟩ := (List.eq_nil_or_concat' l).resolve_left hne
    have hc : isBlank c = false := isBlank_of_trim_concat ht
    have hlast : ∃ y d, textChar c = y ++ [d] ∧ d ≠ '\r' := by
      unfold textChar
      split
      · exact ⟨"&amp".toList, ';', rfl, by decide⟩
      · exact ⟨"&lt".toList, ';', rfl, by decide⟩
      · exact ⟨"&gt".toList, ';', rfl, by decide⟩
      · exact ⟨[], c, rfl, (char_ne (p := isBlank) rfl hc).symm⟩
    obtain ⟨y, d, hd, hne⟩ := hlast
    have hend : indent depth ++ escapeText (r ++ [c]) = (indent depth ++ escapeText r ++ y) ++ [d] := by
      simp [escapeText, hd]
    obtain ⟨z, hz⟩ := hsuffix
    rw [hend] at hz
    exact hne (List.cons.inj (List.append_inj' hz rfl).2).1.symm
  · have hin := hreference.isInfix.trans hsuffix.isInfix
    refine not_isInfix_escapeText l
      (isInfix_of_forall_not_mem (by decide) (fun c hc => ?_) hin)
    rw [List.eq_of_mem_replicate hc]
    decide

theorem lasting_text {d : Text} (h : d.all isRepresentable = true) (isTop : Bool) (depth : Nat) :
    Lasting depth (nodeLines isTop depth (.text d)) := by
  have hrepair : ∀ l ∈ textLines d, repairText l = l := by
    intro l hl
    obtain ⟨x, hx, rfl⟩ := List.mem_map.1 (List.mem_filter.1 hl).1
    refine repairText_eq_self_iff.2 (List.all_eq_true.2 fun c hc => ?_)
    exact List.all_eq_true.1 h c ((infix_of_mem_splitLines hx).subset ((trim_isInfix x).subset hc))
  refine ⟨?_, ?_, ?_⟩
  · rw [repairedLines_text, nodeLines]
    exact List.map_congr_left fun l hl => by rw [hrepair l hl]
  · rw [nodeLines, List.all_map, List.all_eq_true]
    intro l hl
    obtain ⟨ht, hne, -⟩ := mem_textLines hl
    have hshown : isBlankText (indent depth ++ escapeText l) = false := by
      have hl : isBlankText l = false := by
        rw [Bool.eq_false_iff, ne_eq, ← trim_eq_nil_iff, ht]
        exact hne
      rw [isBlankText_append, isBlankText_escapeText, hl, Bool.and_false]
    rw [Function.comp_apply, isSteadyLine, hshown, endsInReturn_escapeText ht hne]
    rfl
  · rw [nodeLines]
    cases hls : textLines d with
    | nil => exact fun hne => absurd rfl hne
    | cons l ls =>
      obtain ⟨ht, hne, -⟩ := mem_textLines (t := d) (l := l) (by rw [hls]; exact List.mem_cons_self)
      obtain ⟨c, r, hc, -, hb⟩ := escapeText_head ht hne
      refine startsAt_cons (fun e he => ?_) _
      rw [hc] at he
      obtain rfl := Option.some.inj he
      exact isIndent_eq_false hb

/-! ### The lines of nodes -/

theorem isUnbroken_of_mem {n : Node} {ns : List Node} (h : areUnbroken ns = true) (hn : n ∈ ns) :
    isUnbroken n = true := by
  induction ns with
  | nil => cases hn
  | cons m ms ih =>
    rw [areUnbroken, Bool.and_eq_true] at h
    rcases List.mem_cons.1 hn with rfl | hn
    · exact h.1
    · exact ih h.2 hn

theorem isOneLine_inlineText {ns : List Node} {u : Text} (h : areUnbroken ns = true)
    (hi : inlineText? ns = some u) : isOneLine u = true := by
  unfold inlineText? at hi
  simp only [Option.ite_none_right_eq_some, Bool.and_eq_true, Option.some.injEq] at hi
  obtain ⟨⟨-, hn⟩, rfl⟩ := hi
  rw [isOneLine, hn, Bool.true_and, List.all_eq_true]
  intro c hc
  obtain ⟨t, ht, hct⟩ := List.mem_flatten.1 ((trim_isInfix _).subset hc)
  obtain ⟨n, hn, hnt⟩ := List.mem_filterMap.1 ht
  have hunbroken := isUnbroken_of_mem h (List.mem_filter.1 hn).1
  cases n with
  | text d =>
    obtain rfl := Option.some.inj hnt
    exact List.all_eq_true.1 hunbroken c hct
  | _ => cases hnt

mutual

theorem lasting_node {n : Node} (h : isUnbroken n = true) (isTop : Bool) (depth : Nat) :
    Lasting depth (nodeLines isTop depth n) := by
  cases n with
  | text d => exact lasting_text h isTop depth
  | comment d =>
    rw [isUnbroken] at h
    rw [nodeLines, commentText]
    split
    · refine .piece depth rfl ?_
      rw [← List.singleton_append, isOneLine_append, isOneLine_append, h]
      decide
    · refine .piece depth (x := "!--".toList ++ d ++ "--".toList) (by simp) ?_
      rw [isOneLine_append, isOneLine_append, h]
      decide
  | doctype d =>
    rw [isUnbroken, Bool.and_eq_true, Bool.and_eq_true] at h
    obtain ⟨⟨hname, hpublic⟩, hsystem⟩ := h
    rw [nodeLines]
    cases isTop with
    | false => exact .nil
    | true =>
      exact .piece depth rfl (isOneLine_doctypeText hname hpublic hsystem)
  | element t c ns =>
    rw [isUnbroken] at h
    by_cases hverbatim : t.name ∈ verbatimNames
    · obtain ⟨x, hx⟩ := markup_ends hverbatim c ns
      rw [if_pos hverbatim] at h
      rw [nodeLines, if_pos hverbatim]
      exact .piece depth hx h
    rw [if_neg hverbatim, Bool.and_eq_true] at h
    have hopen := isOneLine_opening h.1
    have hclose := isOneLine_closing h.1
    by_cases hvoid : t.name ∈ voidNames
    · rw [nodeLines, if_neg hverbatim, if_pos hvoid]
      exact .piece depth rfl hopen
    have hns : areUnbroken ns = true := by simpa [hvoid] using h.2
    cases hi : inlineText? ns with
    | some u =>
      have hline : isOneLine (opening t ++ escapeText u ++ closing t.name) = true := by
        rw [isOneLine_append, isOneLine_append, hopen, hclose,
          isOneLine_escapeText (isOneLine_inlineText hns hi)]
        rfl
      have hlast := Lasting.piece depth (x := t.name.toList ++ t.attrs.flatMap attr ++ ['>'] ++
        escapeText u ++ ("</".toList ++ t.name.toList)) (by simp [opening, closing]) hline
      rw [nodeLines, if_neg hverbatim, if_neg hvoid, hi]
      rwa [← List.append_assoc, ← List.append_assoc] at hlast
    | none =>
      have hbelow := lasting_forest hns false (depth + 1)
      rw [nodeLines, if_neg hverbatim, if_neg hvoid, hi]
      exact (Lasting.piece depth rfl hopen).around hbelow (.piece depth rfl hclose)

theorem lasting_forest {ns : List Node} (h : areUnbroken ns = true) (isTop : Bool) (depth : Nat) :
    Lasting depth (forestLines isTop depth ns) := by
  cases ns with
  | nil => exact .nil
  | cons n ns =>
    rw [areUnbroken, Bool.and_eq_true] at h
    rw [forestLines]
    exact (lasting_node h.1 isTop depth).append (lasting_forest h.2 isTop depth)

end

/-! ### The canonical form -/

/-- Lines that are set in by one step and set out again. -/
theorem setOut_setIn (ls : List Text) : setOut 2 (ls.map (indent 1 ++ ·)) = setOut 0 ls := by
  have hline : dedent 2 ∘ (indent 1 ++ ·) = dedent 0 := by
    funext l
    exact dedent_indent 0 l
  rw [setOut, setOut, List.map_map, hline]

/-- **The canonical form of a fragment** with all its markup on one line and all its characters
representable is made of the lines of its nodes. In the layout these are set in by one step more and
stand between the two lines of the element around the fragment; nothing else is lost. -/
theorem canonical_fragment {p : Page} (hshape : p.shape = .fragment) (h : areUnbroken p.nodes = true) :
    let ls := forestLines true 0 p.nodes
    p.lines = opening (Tag.plain wrapperName) :: ls.map (indent 1 ++ ·) ++ [closing wrapperName] ∧
      p.canonical = joinLines ls ∧ (ls ≠ [] → splitLines p.canonical = ls) ∧
      (p.nodes = [] → p.canonical = []) := by
  intro ls
  have hset : forestLines true 1 p.nodes = ls.map (indent 1 ++ ·) := forestLines_succ true 0 p.nodes
  have hlasting : Lasting 1 (ls.map (indent 1 ++ ·)) := hset ▸ lasting_forest h true 1
  have hinner : p.innerLines = ls.map (indent 1 ++ ·) := by
    rw [innerLines_fragment hshape, hset, hlasting.repaired]
  have hsteady : setOut 0 ls = ls := (setOut_eq_self_iff 0 ls).2 (lasting_forest h true 0).steady
  have hcanonical : p.canonical = joinLines ls := by
    rw [canonical_eq_setOut, width, hinner]
    by_cases hls : ls = []
    · rw [hls]
      rfl
    · -- the first line is set in by one step, so all lines are set out by one step
      have hwidth : firstWidth (ls.map (indent 1 ++ ·)) = 2 := hlasting.starts (by simpa using hls)
      rw [hwidth, setOut_setIn, hsteady]
  have hfeed : ∀ l ∈ ls, '\n' ∉ l := by
    intro l hl hmem
    refine newline_not_mem_innerLines p (indent 1 ++ l) ?_ (List.mem_append_right _ hmem)
    rw [hinner]
    exact List.mem_map_of_mem hl
  refine ⟨?_, hcanonical, fun hne => ?_, fun hnone => ?_⟩
  · rw [Page.lines, hshape]
    dsimp only
    rw [hset]
  · rw [hcanonical, splitLines_joined hne hfeed]
  · have hls : ls = [] := congrArg (forestLines true 0) hnone
    rw [hcanonical, hls]
    rfl

/-- An element in a fragment that is named like the one around it stays. -/
theorem canonical_fragment_sameName :
    (fragment [.wrapper "html" [.wrapper "p" [.text ['a']], .comment ['b']],
        .wrapper "pre" [.text [' ', 'c']]]).canonical =
      "<html>\n  <p>a</p>\n  <!--b-->\n</html>\n<pre> c</pre>".toList := by
  have h : areUnbroken [.wrapper "html" [.wrapper "p" [.text ['a']], .comment ['b']],
      .wrapper "pre" [.text [' ', 'c']]] = true := by
    decide +kernel
  exact (canonical_fragment rfl h).2.1.trans (by decide +kernel)

end HtmlCanon.Page
