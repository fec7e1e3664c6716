import HtmlCanon.Edit.Transform
import HtmlCanon.Proofs.Fault
import HtmlCanon.Proofs.Page.Distinct
import HtmlCanon.Proofs.Page.Seams
import HtmlCanon.Proofs.Page.Verbatim

/-!
# Text in several nodes

Edits leave texts side by side that were apart. An element that holds nothing but texts is laid out as
if it held one, with the blank texts left out. So blanks between two words go when they are a text of
their own, and the texts of an element on several lines do not flow together.

* `Place` : a tree with a place for a node.
* `exists_place` : every node that is laid out stands in such a place.
* `Place.lines` : what is around it is laid out alike.
* `layout_joined_iff` : **when text in several nodes is laid out like the same text in one**.
-/

namespace HtmlCanon.Page

open Html Outline

/-! ### A tree around a node -/

/-- A place in a forest: among the nodes of the forest, or below an element of it. -/
inductive Place where
  | among (before after : List Node)
  | within (before : List Node) (tag : Tag) (content : List Node) (below : Place) (after : List Node)

namespace Place

/-- The forest with a node put in its place. -/
def fill (n : Node) : Place → List Node
  | among before after => before ++ n :: after
  | within before t c below after => before ++ .element t c (fill n below) :: after

/-- Whether a place is below no element that is laid out as it is or without content. -/
def isLaidOut : Place → Bool
  | among _ _ => true
  | within _ t _ below _ => t.name ∉ verbatimNames && t.name ∉ voidNames && isLaidOut below

end Place

/-- Every node that is laid out stands in such a place. -/
theorem exists_place {n : Node} {ns : List Node} :
    IsLaidOut n ns ↔ ∃ place : Place, place.isLaidOut = true ∧ place.fill n = ns := by
  constructor
  · intro h
    induction h with
    | among h =>
      obtain ⟨before, after, rfl⟩ := List.append_of_mem h
      exact ⟨.among before after, rfl, rfl⟩
    | @within _ t c _ h hverbatim hvoid _ ih =>
      obtain ⟨place, hplace, rfl⟩ := ih
      obtain ⟨before, after, rfl⟩ := List.append_of_mem h
      refine ⟨.within before t c place after, ?_, rfl⟩
      simp [Place.isLaidOut, hverbatim, hvoid, hplace]
  · rintro ⟨place, hplace, rfl⟩
    induction place with
    | among before after => exact .among (by simp [Place.fill])
    | within before t c below after ih =>
      simp only [Place.isLaidOut, Bool.and_eq_true, decide_eq_true_eq] at hplace
      exact .within (List.mem_append_right _ List.mem_cons_self) hplace.1.1 hplace.1.2 (ih hplace.2)

/-- **What is around a place** is laid out alike, whichever element stands there. -/
theorem Place.lines {place : Place} (h : place.isLaidOut = true) (isTop : Bool) (depth : Nat) :
    ∃ before isTop' depth' after, ∀ n : Node, n.isElement = true →
      forestLines isTop depth (place.fill n) = before ++ nodeLines isTop' depth' n ++ after := by
  induction place generalizing isTop depth with
  | among before after =>
    refine ⟨forestLines isTop depth before, isTop, depth, forestLines isTop depth after, fun n _ => ?_⟩
    rw [fill, forestLines_append, forestLines, List.append_assoc]
  | within before t c below after ih =>
    simp only [isLaidOut, Bool.and_eq_true, decide_eq_true_eq] at h
    obtain ⟨⟨hverbatim, hvoid⟩, hbelow⟩ := h
    obtain ⟨first, isTop', depth', last, hlines⟩ := ih hbelow false (depth + 1)
    refine ⟨forestLines isTop depth before ++ (indent depth ++ opening t) :: first, isTop', depth',
      last ++ (indent depth ++ closing t.name) :: forestLines isTop depth after, fun n hn => ?_⟩
    have hnone : inlineText? (below.fill n) = none := by
      cases below with
      | among before' after' => exact inlineText?_of_mem hn (List.mem_append_right _ List.mem_cons_self)
      | within before' t' c' below' after' =>
        exact inlineText?_of_mem (n := .element t' c' (below'.fill n)) rfl
          (List.mem_append_right _ List.mem_cons_self)
    rw [fill, forestLines_append, forestLines, nodeLines, if_neg hverbatim, if_neg hvoid, hnone]
    simp only [hlines n hn, List.append_assoc, List.cons_append, List.nil_append]

/-- The same for the layout of a page. -/
theorem Place.layout_fill {place : Place} (h : place.isLaidOut = true) (shape : Shape) :
    ∃ before isTop depth after, ∀ n : Node, n.isElement = true →
      Page.layout ⟨shape, place.fill n⟩ =
        before ++ ((nodeLines isTop depth n).flatMap (· ++ ['\n']) ++ after) := by
  cases shape with
  | document =>
    obtain ⟨before, isTop, depth, after, hlines⟩ := Place.lines h true 0
    refine ⟨before.flatMap (· ++ ['\n']), isTop, depth, after.flatMap (· ++ ['\n']), fun n hn => ?_⟩
    rw [layout, Page.lines]
    dsimp only
    rw [hlines n hn, List.flatMap_append, List.flatMap_append, List.append_assoc]
  | fragment =>
    obtain ⟨before, isTop, depth, after, hlines⟩ := Place.lines h true 1
    refine ⟨(opening (Tag.plain wrapperName) :: before).flatMap (· ++ ['\n']), isTop, depth,
      (after ++ [closing wrapperName]).flatMap (· ++ ['\n']), fun n hn => ?_⟩
    rw [layout, Page.lines]
    dsimp only
    rw [hlines n hn]
    simp only [List.flatMap_append, List.flatMap_cons, List.append_assoc, List.cons_append]

/-! ### An element with texts -/

/-- Whether texts are laid out in an element like one text: if that text is laid out on one line, no blank
stands in a text of its own between two that show; if it is laid out on several, those that show have a
line feed between what shows of them, and one stands in what is left without the blank texts. -/
def flowTogether (ts : List Text) : Bool :=
  if '\n' ∈ trim ts.flatten then '\n' ∈ trim (shown ts).flatten && atSeams isBroken ts
  else atSeams isTight ts

theorem inlineText?_texts (ts : List Text) : inlineText? (ts.map .text) =
    if '\n' ∈ trim (shown ts).flatten then none else some (trim (shown ts).flatten) := by
  have hshown : (ts.map Node.text).filter isSignificant = (shown ts).map .text := by
    rw [List.filter_map]
    rfl
  have htexts : ((shown ts).map Node.text).all Node.isText = true := by
    rw [List.all_map]
    exact List.all_eq_true.2 fun _ _ => rfl
  have hjoined : ((shown ts).map Node.text).filterMap Node.text? = shown ts := by
    rw [List.filterMap_map]
    exact List.filterMap_some
  unfold inlineText?
  simp only [hshown, htexts, hjoined, Bool.true_and, List.contains_eq_mem, Bool.not_eq_true',
    decide_eq_false_iff_not]
  by_cases h : '\n' ∈ trim (shown ts).flatten
  · rw [if_neg (not_not.2 h), if_pos h]
  · rw [if_pos h, if_neg h]

theorem forestLines_texts (isTop : Bool) (depth : Nat) (ts : List Text) :
    forestLines isTop depth (ts.map .text) =
      (ts.flatMap textLines).map fun l => indent depth ++ escapeText l := by
  induction ts with
  | nil => rfl
  | cons t ts ih => rw [List.map_cons, forestLines, nodeLines, ih, List.flatMap_cons, List.map_append]

/-- What stands after the start tag of an element with texts. -/
def textsTail (depth : Nat) (name : String) (ts : List Text) : Text :=
  if '\n' ∈ trim (shown ts).flatten then
    '\n' :: (textLayout (depth + 1) (ts.flatMap textLines) ++ (indent depth ++ (closing name ++ ['\n'])))
  else escapeText (trim (shown ts).flatten) ++ (closing name ++ ['\n'])

theorem written_texts {t : Tag} (hverbatim : t.name ∉ verbatimNames) (hvoid : t.name ∉ voidNames)
    (c : List Node) (ts : List Text) (isTop : Bool) (depth : Nat) :
    (nodeLines isTop depth (.element t c (ts.map .text))).flatMap (· ++ ['\n']) =
      indent depth ++ (opening t ++ textsTail depth t.name ts) := by
  rw [nodeLines, if_neg hverbatim, if_neg hvoid, inlineText?_texts, textsTail]
  by_cases h : '\n' ∈ trim (shown ts).flatten
  · rw [if_pos h, if_pos h, forestLines_texts]
    simp [textLayout, List.flatMap_map]
  · rw [if_neg h, if_neg h]
    simp

/-- One text is laid out like its trimmed form. -/
theorem trim_shown_singleton (t : Text) : trim (shown [t]).flatten = trim t := by
  cases h : isBlankText t with
  | true => rw [shown_cons_blank h, trim_eq_nil_iff.2 h]; rfl
  | false => rw [shown_cons h, List.flatten_cons]; exact congrArg trim (List.append_nil t)

theorem textsTail_eq_iff (depth : Nat) (name : String) (ts : List Text) :
    textsTail depth name ts = textsTail depth name [ts.flatten] ↔ flowTogether ts = true := by
  have hone : [ts.flatten].flatMap textLines = textLines ts.flatten := List.flatMap_singleton _ _
  have hclosing : closing name = '<' :: '/' :: (name.toList ++ ['>']) := rfl
  have hsub := trim_shown_sublist ts
  rw [textsTail, textsTail, trim_shown_singleton, hone, flowTogether]
  by_cases hall : '\n' ∈ trim ts.flatten
  · rw [if_pos hall, if_pos hall]
    by_cases hfew : '\n' ∈ trim (shown ts).flatten
    · -- both are laid out on several lines
      rw [if_pos hfew, decide_eq_true hfew, Bool.true_and, ← (flatMap_textLines ts).2]
      have hlines : ∀ l ∈ ts.flatMap textLines, trim l = l ∧ l ≠ [] ∧ '\n' ∉ l := fun l hl => by
        obtain ⟨t, _, hl⟩ := List.mem_flatMap.1 hl
        exact mem_textLines hl
      have hend : startOf (indent depth ++ (closing name ++ ['\n'])) ≠ .text := by
        rw [startOf_indent, startOf_closing]
        decide
      constructor
      · intro h
        exact (textLayout_cancel hlines (fun l hl => mem_textLines hl) hend hend (List.cons.inj h).2).1
      · intro h
        rw [h]
    · -- one is laid out on one line, and the other is not
      rw [if_neg hfew, decide_eq_false hfew, Bool.false_and]
      refine ⟨fun h => absurd h ?_, fun h => absurd h (by decide)⟩
      by_cases hnil : trim (shown ts).flatten = []
      · rw [hnil, hclosing]
        exact fun h => absurd (List.cons.inj h).1 (by decide)
      · obtain ⟨d, r, hd, -, hb⟩ := escapeText_head (trim_trim _) hnil
        rw [hd]
        intro h
        rw [(List.cons.inj h).1] at hb
        cases hb
  · have hfew : '\n' ∉ trim (shown ts).flatten := fun h => hall (hsub.subset h)
    rw [if_neg hall, if_neg hall, if_neg hfew, ← trim_shown_eq_iff, hclosing]
    constructor
    · intro h
      exact (escapeText_cancel (fun h => absurd rfl h) (fun h => absurd rfl h) (by decide) h).1
    · intro h
      rw [h]

/-! ### The layout -/

/-- **When text in several nodes is laid out like the same text in one.** This holds for every element
that is laid out with its content and holds nothing but texts, wherever it stands. -/
theorem layout_joined_iff {place : Place} (hplace : place.isLaidOut = true) {t : Tag}
    (hverbatim : t.name ∉ verbatimNames) (hvoid : t.name ∉ voidNames) (shape : Shape) (c : List Node)
    (ts : List Text) :
    Page.layout ⟨shape, place.fill (.element t c (ts.map .text))⟩ =
        Page.layout ⟨shape, place.fill (.element t c [.text ts.flatten])⟩ ↔
      flowTogether ts = true := by
  obtain ⟨before, isTop, depth, after, hlayout⟩ := Place.layout_fill hplace shape
  have hone := written_texts hverbatim hvoid c [ts.flatten] isTop depth
  rw [List.map_singleton] at hone
  rw [hlayout _ rfl, hlayout _ rfl, List.append_cancel_left_eq, List.append_cancel_right_eq,
    written_texts hverbatim hvoid, hone, List.append_cancel_left_eq, List.append_cancel_left_eq,
    textsTail_eq_iff]

/-- Two words, with the blank between them in the text of one of them. -/
theorem layout_joined_words :
    Page.layout (fragment [.wrapper "p" [.text ['a', ' '], .text ['b']]]) =
      Page.layout (fragment [.wrapper "p" [.text ['a', ' ', 'b']]]) :=
  (layout_joined_iff (show (Place.among [] []).isLaidOut = true from rfl) (t := Tag.plain "p") (by decide)
    (by decide) .fragment [] [['a', ' '], ['b']]).2 (by decide)

/-- Two words with a bold blank between them, which is taken out of its element. -/
theorem layout_strippedBlank :
    let place : Place := .among [] []
    let ts : List Text := [['a'], [' '], ['b']]
    (fragment [.wrapper "p" [.text ['a'], .wrapper "b" [.text [' ']], .text ['b']]]).transform (.strip "b") =
        .ok ⟨.fragment, place.fill (.wrapper "p" (ts.map .text))⟩ ∧
      place.isLaidOut = true ∧ "p" ∉ verbatimNames ∧ "p" ∉ voidNames ∧
      Page.layout ⟨.fragment, place.fill (.wrapper "p" (ts.map .text))⟩ ≠
        Page.layout ⟨.fragment, place.fill (.wrapper "p" [.text ts.flatten])⟩ := by
  intro place ts
  have hselects : (compileSelector "b").toOption.map (·.select
      [.wrapper "p" [.text ['a'], .wrapper "b" [.text [' ']], .text ['b']]]) = some [[0, 1]] := by
    decide +kernel
  obtain ⟨c, hc, hselect⟩ := Option.map_eq_some_iff.1 hselects
  refine ⟨bind_eq_ok.2 ⟨c, eq_ok_of_toOption hc, ?_⟩, rfl, by decide, by decide, by decide +kernel⟩
  have hstrip : Forest.replaceAll (Transform.strip "b").replacement [[0, 1]]
      [.wrapper "p" [.text ['a'], .wrapper "b" [.text [' ']], .text ['b']]] =
        [.wrapper "p" [.text ['a'], .text [' '], .text ['b']]] := by
    simp [Forest.replaceAll, Forest.replaceAt, Node.wrapper, Transform.replacement, Node.children]
  dsimp only [fragment, transformAt]
  rw [hselect, hstrip]
  rfl

end HtmlCanon.Page
