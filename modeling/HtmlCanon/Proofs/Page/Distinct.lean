import HtmlCanon.Proofs.Page.Escape
import HtmlCanon.Proofs.Page.Trimmed

/-!
# The layout tells pages apart

A page of plain elements and texts can be read back from its layout, once it is trimmed, save for
what its templates keep apart. Layouts are compared from the front: what stands first, white space
aside, tells a text, a start tag and an end tag apart, and each of them can be cancelled.

* `startOf_written` : what stands first in the layout of a plain forest.
* `element_cancel`, `forest_cancel` : an element can be cancelled, and siblings before an end tag.
* `outlines_eq_of_layout` : pages of one shape with the same layout have the same outline.
* `layout_eq_iff` : **pages of one shape have the same layout exactly if they are alike once trimmed**,
  save for what templates keep apart.
* `layout_template` : what templates keep apart does not show, so pages that differ there only have the
  same layout.
-/

namespace HtmlCanon.Page

open Html

/-! ### Plain forests -/

mutual

/-- Whether a node is a text or a plain element: one with plain names that is not kept as it is and,
if it has no end tag, has nothing below it. What a template keeps apart may be anything. -/
def isPlain : Node → Bool
  | .text _ => true
  | .comment _ => false
  | .doctype _ => false
  | .element t _ ns =>
    t.isPlain && !verbatimNames.contains t.name && (!voidNames.contains t.name || ns.isEmpty) &&
      textsApart ns && arePlain ns

/-- Whether all nodes of a forest are plain. -/
def arePlain : List Node → Bool
  | [] => true
  | n :: ns => isPlain n && arePlain ns

end

/-- Whether all nodes of a forest are plain and no two texts stand next to each other. -/
def isPlainForest (ns : List Node) : Bool := textsApart ns && arePlain ns

namespace Outline

/-- A text. -/
def isText : Outline → Bool
  | text _ => true
  | _ => false

mutual

/-- The outline of a plain node. -/
def Plain : Outline → Prop
  | text ls => ls ≠ [] ∧ ∀ l ∈ ls, trim l = l ∧ l ≠ [] ∧ '\n' ∉ l
  | element t os => t.isPlain = true ∧ (t.name ∈ voidNames → os = []) ∧ PlainForest os
  | _ => False

/-- The outline of plain siblings, in which no text follows a text. -/
def PlainForest : List Outline → Prop
  | [] => True
  | o :: os => Plain o ∧ (o.isText = true → os.head?.any isText = false) ∧ PlainForest os

end

end Outline

/-- A plain node is a blank text, or it has one outline, which is a text if the node is. -/
theorem outline_of_plain {n : Node} (h : isPlain n = true) :
    outline n = [] ∨ ∃ o, outline n = [o] ∧ o.isText = n.isText := by
  cases n with
  | text t =>
    by_cases hb : isBlankText t = true
    · exact .inl (by simp [outline, hb])
    · exact .inr ⟨_, by simp [outline, hb]; rfl, rfl⟩
  | comment t => simp [isPlain] at h
  | doctype d => simp [isPlain] at h
  | element t c ns =>
    by_cases hv : t.name ∈ verbatimNames
    · exact .inr ⟨_, by simp [outline, hv]; rfl, rfl⟩
    · exact .inr ⟨_, by simp [outline, hv]; rfl, rfl⟩

/-- The outline of a plain forest does not begin with a text unless the forest does. -/
theorem head_outlines {n : Node} (ns : List Node) (hn : isPlain n = true) (ht : n.isText = false) :
    (outlines (n :: ns)).head?.any Outline.isText = false := by
  rcases outline_of_plain hn with h | ⟨o, h, ho⟩
  · cases n with
    | text t => simp [Node.isText] at ht
    | comment t => simp [outline] at h
    | doctype d => simp [outline] at h
    | element t c ms => by_cases hv : t.name ∈ verbatimNames <;> simp [outline, hv] at h
  · simp [outlines, h, ho, ht]

mutual

theorem plain_outline {n : Node} (h : isPlain n = true) : ∀ o ∈ outline n, o.Plain := by
  intro o ho
  cases n with
  | text t =>
    by_cases hb : isBlankText t = true
    · simp [outline, hb] at ho
    · have hne : textLines t ≠ [] := by rwa [ne_eq, textLines_eq_nil_iff]
      rw [outline, if_neg hb, List.mem_singleton] at ho
      subst ho
      exact ⟨hne, fun l hl => mem_textLines hl⟩
  | comment t => simp [isPlain] at h
  | doctype d => simp [isPlain] at h
  | element t c ns =>
    simp only [isPlain, Bool.and_eq_true, Bool.or_eq_true, Bool.not_eq_true', List.contains_eq_mem,
      decide_eq_false_iff_not, List.isEmpty_iff] at h
    obtain ⟨⟨⟨⟨ht, hv⟩, hw⟩, ha⟩, hp⟩ := h
    rw [outline, if_neg hv, List.mem_singleton] at ho
    subst ho
    refine ⟨ht, fun hm => ?_, plainForest_outlines ha hp⟩
    rw [hw.resolve_left (fun h => h hm)]; rfl

/-- The outline of a plain forest is one of plain siblings. -/
theorem plainForest_outlines {ns : List Node} (ha : textsApart ns = true) (hp : arePlain ns = true) :
    Outline.PlainForest (outlines ns) := by
  cases ns with
  | nil => trivial
  | cons n ns =>
    simp only [arePlain, Bool.and_eq_true] at hp
    have hrest : textsApart ns = true := by
      cases ns with
      | nil => rfl
      | cons m ms => simp only [textsApart, Bool.and_eq_true] at ha; exact ha.2
    have ih := plainForest_outlines hrest hp.2
    have hn := plain_outline hp.1
    rw [outlines]
    rcases outline_of_plain hp.1 with h | ⟨o, h, ho⟩
    · rw [h]; exact ih
    · rw [h] at hn ⊢
      refine ⟨hn o List.mem_cons_self, fun hot => ?_, ih⟩
      cases ns with
      | nil => rfl
      | cons m ms =>
        simp only [arePlain, Bool.and_eq_true] at hp
        rw [ho] at hot
        simp only [textsApart, hot, Bool.true_and, Bool.and_eq_true, Bool.not_eq_true'] at ha
        exact head_outlines ms hp.2.1 ha.1

end

theorem isPlain_of_mem {n : Node} {ns : List Node} (h : arePlain ns = true) (hn : n ∈ ns) :
    isPlain n = true := by
  induction ns with
  | nil => cases hn
  | cons m ms ih =>
    simp only [arePlain, Bool.and_eq_true] at h
    rcases List.mem_cons.1 hn with rfl | hn
    · exact h.1
    · exact ih h.2 hn

mutual

theorem textsAlone_of_plain {n : Node} (h : isPlain n = true) : textsAlone n = true := by
  cases n with
  | text t => rfl
  | comment t => rfl
  | doctype d => rfl
  | element t c ns =>
    simp only [isPlain, Bool.and_eq_true] at h
    have hlone : isLoneText ns = true :=
      isLoneText_of_apart h.1.2 fun d hd => by simpa [isPlain] using isPlain_of_mem h.2 hd
    simp [textsAlone, hlone, allTextsAlone_of_plain h.2]

/-- Texts stand alone in a plain forest. -/
theorem allTextsAlone_of_plain {ns : List Node} (h : arePlain ns = true) :
    allTextsAlone ns = true := by
  cases ns with
  | nil => rfl
  | cons n ns =>
    simp only [arePlain, Bool.and_eq_true] at h
    simp [allTextsAlone, textsAlone_of_plain h.1, allTextsAlone_of_plain h.2]

end

/-! ### What stands first -/

/-- What a layout can begin with, white space aside. -/
inductive Start where
  | nothing | text | opening | closing
  deriving DecidableEq

/-- What a layout begins with. -/
def startOf (x : Text) : Start :=
  match x.dropWhile (· == ' ') with
  | [] => .nothing
  | '<' :: '/' :: _ => .closing
  | '<' :: _ => .opening
  | _ => .text

theorem startOf_indent (depth : Nat) (x : Text) : startOf (indent depth ++ x) = startOf x := by
  unfold startOf indent
  rw [List.dropWhile_append_of_pos (by simp)]

theorem startOf_closing (name : String) (x : Text) : startOf (closing name ++ x) = .closing := rfl

theorem startOf_opening {t : Tag} (ht : t.isPlain = true) (x : Text) :
    startOf (opening t ++ x) = .opening := by
  simp only [Tag.isPlain, Bool.and_eq_true] at ht
  obtain ⟨c, r, hc, hn⟩ := isPlainName_cons ht.1.2
  have hne : c ≠ '/' := by rintro rfl; revert hn; decide
  simp only [startOf, opening, hc, List.cons_append]
  rw [List.dropWhile_cons_of_neg (by decide)]
  split
  · simp_all
  · simp_all
  · rfl
  · simp_all

/-- A line of a text begins neither with a tag nor with a line feed. -/
theorem escapeText_head {l : Text} (ht : trim l = l) (hne : l ≠ []) :
    ∃ d r, escapeText l = d :: r ∧ d ≠ '<' ∧ isBlank d = false := by
  obtain ⟨c, r, rfl⟩ := List.exists_cons_of_ne_nil hne
  have hb := isBlank_of_trim_cons ht
  obtain ⟨d, q, hd, rfl | ⟨rfl, -, -, hlt, -⟩⟩ := textChar_head c
  · exact ⟨_, _, by rw [escapeText, List.flatMap_cons, hd]; rfl, by decide, by decide⟩
  · exact ⟨_, _, by rw [escapeText, List.flatMap_cons, hd]; rfl, hlt, hb⟩

theorem startOf_line {l : Text} (ht : trim l = l) (hne : l ≠ []) (x : Text) :
    startOf (escapeText l ++ x) = .text := by
  obtain ⟨d, r, h, hlt, hb⟩ := escapeText_head ht hne
  have hs : (d == ' ') = false := by
    rw [beq_eq_false_iff_ne]; rintro rfl; revert hb; decide
  unfold startOf
  rw [h, List.cons_append, List.dropWhile_cons_of_neg (by simp [hs])]
  split <;> simp_all


/-! ### Layouts -/

namespace Outline

/-- The layout of siblings, every line with a line feed after it. -/
def written (isTop : Bool) (depth : Nat) (os : List Outline) : Text :=
  (linesOf isTop depth os).flatMap (· ++ ['\n'])

/-- The lines of a text, each set in. -/
def textLayout (depth : Nat) (ls : List Text) : Text :=
  ls.flatMap fun l => indent depth ++ (escapeText l ++ ['\n'])

/-- What stands after the start tag of an element. -/
def tail (depth : Nat) (t : Tag) (os : List Outline) : Text :=
  if t.name ∈ voidNames then ['\n']
  else match inline? os with
    | some l => escapeText l ++ (closing t.name ++ ['\n'])
    | none => '\n' :: (written false (depth + 1) os ++ (indent depth ++ (closing t.name ++ ['\n'])))

theorem written_text (isTop : Bool) (depth : Nat) (ls : List Text) (os : List Outline) :
    written isTop depth (text ls :: os) = textLayout depth ls ++ written isTop depth os := by
  simp [written, linesOf, lines, textLayout, List.flatMap_map]

theorem written_element (isTop : Bool) (depth : Nat) (t : Tag) (is os : List Outline) :
    written isTop depth (element t is :: os) =
      indent depth ++ (opening t ++ (tail depth t is ++ written isTop depth os)) := by
  unfold written tail
  by_cases hw : t.name ∈ voidNames
  · simp [linesOf, lines, hw]
  · cases hi : inline? is with
    | some l => simp [linesOf, lines, hw, hi]
    | none => simp [linesOf, lines, hw, hi, written]

end Outline

/-! ### Reading a layout back -/

open Outline

/-- What a plain forest begins with shows in its layout. -/
theorem startOf_written {os : List Outline} (h : PlainForest os) (isTop : Bool) (depth : Nat)
    (x : Text) : startOf (written isTop depth os ++ x) =
      match os with
      | [] => startOf x
      | o :: _ => if o.isText then .text else .opening := by
  cases os with
  | nil => rfl
  | cons o os =>
    have ho := h.1
    cases o with
    | text ls =>
      obtain ⟨l, ms, rfl⟩ := List.exists_cons_of_ne_nil ho.1
      obtain ⟨ht, hne, -⟩ := ho.2 l List.mem_cons_self
      rw [written_text, textLayout, List.flatMap_cons]
      simp only [List.append_assoc]
      rw [startOf_indent, startOf_line ht hne]
      rfl
    | element t is =>
      rw [written_element]
      simp only [List.append_assoc]
      rw [startOf_indent, startOf_opening ho.1]
      rfl
    | comment t => exact ho.elim
    | doctype d => exact ho.elim
    | verbatim m => exact ho.elim

/-- After a text of a plain forest no text stands. -/
theorem startOf_after_text {ls : List Text} {os : List Outline} (h : PlainForest (text ls :: os))
    {isTop : Bool} {depth : Nat} {x : Text} (hx : startOf x = .nothing ∨ startOf x = .closing) :
    startOf (written isTop depth os ++ x) ≠ .text := by
  rw [startOf_written h.2.2]
  cases os with
  | nil => rcases hx with hx | hx <;> simp [hx]
  | cons o os =>
    have ho : o.isText = false := by simpa using h.2.1 rfl
    simp [ho]

/-- **The lines of a text can be cancelled** before something that is not a text. -/
theorem textLayout_cancel {depth : Nat} {ls ms : List Text} {x y : Text}
    (hl : ∀ l ∈ ls, trim l = l ∧ l ≠ [] ∧ '\n' ∉ l) (hm : ∀ m ∈ ms, trim m = m ∧ m ≠ [] ∧ '\n' ∉ m)
    (hx : startOf x ≠ .text) (hy : startOf y ≠ .text)
    (h : textLayout depth ls ++ x = textLayout depth ms ++ y) : ls = ms ∧ x = y := by
  have start : ∀ {l : Text} {ns : List Text} {z : Text}, (trim l = l ∧ l ≠ [] ∧ '\n' ∉ l) →
      startOf (textLayout depth (l :: ns) ++ z) = .text := by
    intro l ns z ⟨ht, hne, _⟩
    rw [textLayout, List.flatMap_cons]
    simp only [List.append_assoc]
    rw [startOf_indent, startOf_line ht hne]
  induction ls generalizing ms with
  | nil =>
    cases ms with
    | nil => exact ⟨rfl, h⟩
    | cons m ms => exact absurd (congrArg startOf h ▸ start (hm m List.mem_cons_self)) hx
  | cons l ls ih =>
    cases ms with
    | nil => exact absurd (congrArg startOf h ▸ start (hl l List.mem_cons_self)) hy
    | cons m ms =>
      simp only [textLayout, List.flatMap_cons, List.append_assoc, List.cons_append,
        List.nil_append] at h
      obtain ⟨rfl, hrest⟩ := escapeText_cancel (fun _ => (hl l List.mem_cons_self).2.2)
        (fun _ => (hm m List.mem_cons_self).2.2) (by decide) (List.append_cancel_left h)
      obtain ⟨rfl, hxy⟩ := ih (fun l hl' => hl l (List.mem_cons_of_mem _ hl'))
        (fun m hm' => hm m (List.mem_cons_of_mem _ hm')) hrest
      exact ⟨rfl, hxy⟩

theorem plain_of_mem {os : List Outline} (h : PlainForest os) {o : Outline} (ho : o ∈ os) :
    o.Plain := by
  induction os with
  | nil => cases ho
  | cons u us ih =>
    rcases List.mem_cons.1 ho with rfl | ho
    · exact h.1
    · exact ih h.2.2 ho

/-- Plain content on one line is that line. -/
theorem eq_of_inline? {os : List Outline} (h : PlainForest os) {l : Text} (hi : inline? os = some l) :
    (l = [] ∧ os = []) ∨ (trim l = l ∧ l ≠ [] ∧ os = [text [l]]) := by
  have hs : os.filter isShown = os := by
    rw [List.filter_eq_self]
    intro o ho
    cases o with
    | doctype d => exact (plain_of_mem h ho).elim
    | _ => rfl
  unfold inline? at hi
  rw [hs] at hi
  split at hi
  · exact .inl ⟨(Option.some.inj hi).symm, rfl⟩
  · obtain rfl := Option.some.inj hi
    obtain ⟨ht, hne, -⟩ := h.1.2 _ List.mem_cons_self
    exact .inr ⟨ht, hne, rfl⟩
  · cases hi

/-- An element on one line is not one on several. -/
theorem startLine_ne {os : List Outline} (h : PlainForest os) {l : Text} (hi : inline? os = some l)
    (name : String) (x y : Text) : escapeText l ++ (closing name ++ x) ≠ '\n' :: y := by
  intro he
  rcases eq_of_inline? h hi with ⟨rfl, -⟩ | ⟨ht, hne, -⟩
  · cases he
  · obtain ⟨d, r, hd, -, hb⟩ := escapeText_head ht hne
    rw [hd] at he
    obtain rfl := (List.cons.inj he).1
    revert hb; decide

/-- **An element can be cancelled**, whatever stands after it, if what is in it can be cancelled
before an end tag. -/
theorem element_cancel {t u : Tag} {is js : List Outline} {depth : Nat} {x y : Text}
    (ht : (element t is).Plain) (hu : (element u js).Plain)
    (inner : ∀ v w, startOf v = .closing → startOf w = .closing →
      written false (depth + 1) is ++ v = written false (depth + 1) js ++ w → is = js ∧ v = w)
    (h : opening t ++ (tail depth t is ++ x) = opening u ++ (tail depth u js ++ y)) :
    element t is = element u js ∧ x = y := by
  obtain ⟨rfl, h⟩ := opening_cancel ht.1 hu.1 h
  unfold tail at h
  by_cases hw : t.name ∈ voidNames
  · rw [if_pos hw, if_pos hw] at h
    exact ⟨by rw [ht.2.1 hw, hu.2.1 hw], List.append_cancel_left h⟩
  rw [if_neg hw, if_neg hw] at h
  cases hi : inline? is with
  | some l =>
    cases hj : inline? js with
    | some m =>
      simp only [hi, hj, List.append_assoc] at h
      have hlt : escapeText l ++ '<' :: ('/' :: (t.name.toList ++ ['>'] ++ ('\n' :: x))) =
          escapeText m ++ '<' :: ('/' :: (t.name.toList ++ ['>'] ++ ('\n' :: y))) := h
      obtain ⟨rfl, h⟩ := escapeText_cancel (by simp) (by simp) (by decide) hlt
      refine ⟨?_, by simpa using h⟩
      rcases eq_of_inline? ht.2.2 hi with ⟨rfl, rfl⟩ | ⟨-, hne, rfl⟩
      · rcases eq_of_inline? hu.2.2 hj with ⟨-, rfl⟩ | ⟨-, hne, -⟩
        · rfl
        · exact absurd rfl hne
      · rcases eq_of_inline? hu.2.2 hj with ⟨rfl, -⟩ | ⟨-, -, rfl⟩
        · exact absurd rfl hne
        · rfl
    | none =>
      simp only [hi, hj, List.append_assoc, List.cons_append] at h
      exact absurd h (startLine_ne ht.2.2 hi _ _ _)
  | none =>
    cases hj : inline? js with
    | some m =>
      simp only [hi, hj, List.append_assoc, List.cons_append] at h
      exact absurd h.symm (startLine_ne hu.2.2 hj _ _ _)
    | none =>
      simp only [hi, hj, List.append_assoc, List.cons_append, List.cons.injEq, true_and] at h
      have after : ∀ z, startOf (indent depth ++ (closing t.name ++ z)) = .closing := fun z => by
        rw [startOf_indent, startOf_closing]
      obtain ⟨rfl, hrest⟩ := inner _ _ (after _) (after _) h
      exact ⟨rfl, by simpa using hrest⟩

/-- **Siblings can be cancelled** before an end tag or at the end. -/
theorem forest_cancel {os us : List Outline} {isTop : Bool} {depth : Nat} {x y : Text}
    (ho : PlainForest os) (hu : PlainForest us)
    (hx : startOf x = .nothing ∨ startOf x = .closing)
    (hy : startOf y = .nothing ∨ startOf y = .closing)
    (h : written isTop depth os ++ x = written isTop depth us ++ y) : os = us ∧ x = y := by
  have hs := congrArg startOf h
  rw [startOf_written ho, startOf_written hu] at hs
  match os, us with
  | [], [] => exact ⟨rfl, h⟩
  | [], u :: us => cases hut : u.isText <;> simp [hut] at hs <;> simp [hs] at hx
  | o :: os, [] => cases hot : o.isText <;> simp [hot] at hs <;> simp [← hs] at hy
  | .text ls :: os, .text ms :: us =>
    rw [written_text, written_text, List.append_assoc, List.append_assoc] at h
    obtain ⟨rfl, hrest⟩ := textLayout_cancel ho.1.2 hu.1.2 (startOf_after_text ho hx)
      (startOf_after_text hu hy) h
    obtain ⟨rfl, hxy⟩ := forest_cancel ho.2.2 hu.2.2 hx hy hrest
    exact ⟨rfl, hxy⟩
  | .element t is :: os, .element u js :: us =>
    rw [written_element, written_element] at h
    simp only [List.append_assoc] at h
    obtain ⟨he, hrest⟩ := element_cancel ho.1 hu.1 (fun v w hv hw hvw =>
      forest_cancel ho.1.2.2 hu.1.2.2 (.inr hv) (.inr hw) hvw) (List.append_cancel_left h)
    obtain ⟨rfl, hxy⟩ := forest_cancel ho.2.2 hu.2.2 hx hy hrest
    exact ⟨by rw [he], hxy⟩
  | .text ls :: os, .element u js :: us => cases hs
  | .element t is :: os, .text ms :: us => cases hs
  | .comment _ :: _, _ :: _ => exact ho.1.elim
  | .doctype _ :: _, _ :: _ => exact ho.1.elim
  | .verbatim _ :: _, _ :: _ => exact ho.1.elim
  | _ :: _, .comment _ :: _ => exact hu.1.elim
  | _ :: _, .doctype _ :: _ => exact hu.1.elim
  | _ :: _, .verbatim _ :: _ => exact hu.1.elim
termination_by sizeOf os
decreasing_by all_goals simp only [List.cons.sizeOf_spec, Outline.element.sizeOf_spec]; omega

/-! ### Pages -/

/-- The layout of a page from its outline, where texts stand alone. -/
theorem layout_eq_written {p : Page} (h : allTextsAlone p.nodes = true) :
    p.layout = match p.shape with
      | .document => written true 0 (outlines p.nodes)
      | .fragment => opening (Tag.plain wrapperName) ++ '\n' ::
          (written true 1 (outlines p.nodes) ++ (closing wrapperName ++ ['\n'])) := by
  unfold layout lines written
  rw [← forestLines_eq true 0 p.nodes h, ← forestLines_eq true 1 p.nodes h]
  cases p.shape with
  | document => rfl
  | fragment => simp

/-- Plain pages of one shape that are laid out alike have the same outline. -/
theorem outlines_eq_of_layout {p q : Page} (hshape : p.shape = q.shape)
    (hp : isPlainForest p.nodes = true) (hq : isPlainForest q.nodes = true)
    (h : p.layout = q.layout) : outlines p.nodes = outlines q.nodes := by
  simp only [isPlainForest, Bool.and_eq_true] at hp hq
  have hpo := plainForest_outlines hp.1 hp.2
  have hqo := plainForest_outlines hq.1 hq.2
  rw [layout_eq_written (allTextsAlone_of_plain hp.2),
    layout_eq_written (allTextsAlone_of_plain hq.2), ← hshape] at h
  cases hs : p.shape with
  | document =>
    simp only [hs] at h
    have h' : written true 0 (outlines p.nodes) ++ [] = written true 0 (outlines q.nodes) ++ [] := by
      simpa using h
    exact (forest_cancel hpo hqo (.inl rfl) (.inl rfl) h').1
  | fragment =>
    simp only [hs] at h
    have hend : startOf (closing wrapperName ++ ['\n']) = .closing := startOf_closing _ _
    exact (forest_cancel hpo hqo (.inr hend) (.inr hend)
      (List.cons.inj (List.append_cancel_left h)).2).1

namespace Outline

mutual

/-- What an outline tells of trimmed nodes. Of an element that is kept as it is it tells none. -/
def told : Outline → List Node
  | text ls => [.text (joinLines ls)]
  | comment t => [.comment t]
  | doctype d => [.doctype d]
  | verbatim _ => []
  | element t os => [.element t [] (toldOf os)]

/-- What the outlines of siblings tell of them. -/
def toldOf : List Outline → List Node
  | [] => []
  | o :: os => told o ++ toldOf os

end

theorem toldOf_append (os us : List Outline) : toldOf (os ++ us) = toldOf os ++ toldOf us := by
  induction os with
  | nil => rfl
  | cons o os ih => simp [toldOf, ih]

end Outline

mutual

theorem trimmed_bare {n : Node} (h : isPlain n = true) : trimmed (bare n) = toldOf (outline n) := by
  cases n with
  | text t => by_cases hb : isBlankText t = true <;> simp [bare, trimmed, outline, hb, toldOf, told]
  | comment t => simp [isPlain] at h
  | doctype d => simp [isPlain] at h
  | element t c ns =>
    simp only [isPlain, Bool.and_eq_true, Bool.not_eq_true', List.contains_eq_mem,
      decide_eq_false_iff_not] at h
    obtain ⟨⟨⟨⟨-, hv⟩, -⟩, -⟩, hp⟩ := h
    simp [bare, trimmed, outline, hv, toldOf, told, allTrimmed, allTrimmed_bares hp]

/-- The outline of a plain forest tells all of it but for what templates keep apart. -/
theorem allTrimmed_bares {ns : List Node} (h : arePlain ns = true) :
    allTrimmed (bares ns) = toldOf (outlines ns) := by
  cases ns with
  | nil => rfl
  | cons n ns =>
    simp only [arePlain, Bool.and_eq_true] at h
    rw [bares, allTrimmed, trimmed_bare h.1, allTrimmed_bares h.2, outlines, toldOf_append]

end

/-- **Plain pages of one shape are laid out alike exactly if they are alike once trimmed**, save for
what templates keep apart: they have the same elements with the same attributes and values, and at
each place the same lines of text. -/
theorem layout_eq_iff {p q : Page} (hshape : p.shape = q.shape)
    (hp : isPlainForest p.nodes = true) (hq : isPlainForest q.nodes = true) :
    p.layout = q.layout ↔ allTrimmed (bares p.nodes) = allTrimmed (bares q.nodes) := by
  have hplain := Bool.and_eq_true_iff.1 hp
  have hplain' := Bool.and_eq_true_iff.1 hq
  constructor
  · intro h
    rw [allTrimmed_bares hplain.2, allTrimmed_bares hplain'.2,
      outlines_eq_of_layout hshape hp hq h]
  · intro h
    -- what differs once the templates are bare is noise, and outlines do not tell of that
    have hout : outlines p.nodes = outlines q.nodes := by
      rw [← outlines_bares p.nodes, outlines_of_respaced (respaced_iff.2 h), outlines_bares]
    unfold layout
    rw [lines_eq_of_outlines hshape (allTextsAlone_of_plain hplain.2)
      (allTextsAlone_of_plain hplain'.2) hout]

/-- A list item with a title of two lines that holds a text, a template, a bold text and a line
break. -/
def listItem (text kept bold : String) : Page :=
  ⟨.fragment, [.element ⟨.html, "li", [⟨.plain, "title", "a\n  \"<b>\"".toList⟩]⟩ []
    [.text text.toList, .element (.plain "template") [.text kept.toList] [],
      .element (.plain "b") [] [.text bold.toList], .element (.plain "br") [] []]]⟩

/-- An item with the white space of its source and one without, with different templates. -/
theorem layout_eq_iff_listItem :
    isPlainForest (listItem "\n  one\n two" "x" "three").nodes = true ∧
      isPlainForest (listItem "one \n\n\ttwo " "y" "\n three ").nodes = true ∧
      (listItem "\n  one\n two" "x" "three").layout =
        (listItem "one \n\n\ttwo " "y" "\n three ").layout ∧
      allTrimmed (bares (listItem "\n  one\n two" "x" "three").nodes) =
        allTrimmed (bares (listItem "one \n\n\ttwo " "y" "\n three ").nodes) := by
  have hs : (listItem "\n  one\n two" "x" "three").shape =
      (listItem "one \n\n\ttwo " "y" "\n three ").shape := rfl
  have hp : isPlainForest (listItem "\n  one\n two" "x" "three").nodes = true := by decide +kernel
  have hq : isPlainForest (listItem "one \n\n\ttwo " "y" "\n three ").nodes = true := by
    decide +kernel
  have h : (listItem "\n  one\n two" "x" "three").layout =
      (listItem "one \n\n\ttwo " "y" "\n three ").layout := by decide +kernel
  exact ⟨hp, hq, h, (layout_eq_iff hs hp hq).1 h⟩

/-- What the nodes of a forest keep apart. -/
def kept (ns : List Node) : List Node :=
  ns.flatMap fun
    | .element _ c _ => c
    | _ => []

/-- What a template keeps apart does not show: with a paragraph or an emphasis there, its page is
laid out alike. -/
theorem layout_template :
    let p := Page.parse "<template><p>a</p></template>".toList
    let q := Page.parse "<template><i>b</i></template>".toList
    p.shape = q.shape ∧ isPlainForest p.nodes = true ∧ isPlainForest (kept p.nodes) = true ∧
      isPlainForest q.nodes = true ∧ isPlainForest (kept q.nodes) = true ∧
      p.layout = q.layout ∧ allTrimmed p.nodes ≠ allTrimmed q.nodes := by
  intro p q
  -- all that is computed is put together, so that each page is read once
  have hall : (p.shape = q.shape ∧ isPlainForest p.nodes = true ∧ isPlainForest (kept p.nodes) = true ∧
      isPlainForest q.nodes = true ∧ isPlainForest (kept q.nodes) = true ∧ p.layout = q.layout) ∧
      (kept (allTrimmed p.nodes)).map Node.tag? ≠ (kept (allTrimmed q.nodes)).map Node.tag? := by
    decide +kernel
  obtain ⟨⟨hshape, hp, hkept, hq, hkept', hlayout⟩, htags⟩ := hall
  have hne : allTrimmed p.nodes ≠ allTrimmed q.nodes := fun h =>
    htags (congrArg (fun ns => (kept ns).map Node.tag?) h)
  exact ⟨hshape, hp, hkept, hq, hkept', hlayout, hne⟩

end HtmlCanon.Page
