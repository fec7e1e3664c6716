import HtmlCanon.Proofs.Page.TextLines

/-!
# The outline of a page

The outline of a page is what its layout can show: a text is the list of its trimmed lines, a blank
text is nothing, and an element that is kept as it is counts by its markup. What a template keeps
apart is a part of the page that no layout shows, and the outline leaves it out.

* `lines_eq_of_outlines` : where texts stand alone, **the layout is a function of the outline**.
* `isLoneText_of_apart` : texts stand alone when no two of them are neighbours and no doctype stands
  among them.
-/

namespace HtmlCanon.Page

open Html

/-! ### Outlines -/

/-- A node as far as it can show. -/
inductive Outline where
  /-- The trimmed lines of a text that is not blank. -/
  | text (ls : List Text)
  | comment (t : Text)
  | doctype (d : Doctype)
  /-- The markup of an element that is kept as it is. -/
  | verbatim (markup : Text)
  | element (t : Tag) (inner : List Outline)

mutual

/-- The outline of a node, which is empty for a blank text. -/
def outline : Node → List Outline
  | .text t => if isBlankText t then [] else [.text (textLines t)]
  | .comment t => [.comment t]
  | .doctype d => [.doctype d]
  | .element t c ns =>
    if t.name ∈ verbatimNames then [.verbatim (Node.element t c ns).markup]
    else [.element t (outlines ns)]

/-- The outline of a forest. -/
def outlines : List Node → List Outline
  | [] => []
  | n :: ns => outline n ++ outlines ns

end

namespace Outline

/-- Whether an outline shows below an element, where a doctype does not. -/
def isShown : Outline → Bool
  | doctype _ => false
  | _ => true

/-- The line between the tags of an element that stays on one line. -/
def inline? (os : List Outline) : Option Text :=
  match os.filter isShown with
  | [] => some []
  | [text [l]] => some l
  | _ => none

mutual

/-- The lines of a node, from its outline. -/
def lines (isTop : Bool) (depth : Nat) : Outline → List Text
  | text ls => ls.map fun l => indent depth ++ escapeText l
  | comment t => [indent depth ++ commentText t]
  | doctype d => if isTop then [indent depth ++ doctypeText d] else []
  | verbatim m => [indent depth ++ m]
  | element t os =>
    if t.name ∈ voidNames then [indent depth ++ opening t]
    else match inline? os with
      | some l => [indent depth ++ opening t ++ escapeText l ++ closing t.name]
      | none =>
        (indent depth ++ opening t) :: linesOf false (depth + 1) os ++
          [indent depth ++ closing t.name]

/-- The lines of siblings, from their outlines. -/
def linesOf (isTop : Bool) (depth : Nat) : List Outline → List Text
  | [] => []
  | o :: os => lines isTop depth o ++ linesOf isTop depth os

end

theorem linesOf_append (isTop : Bool) (depth : Nat) (os us : List Outline) :
    linesOf isTop depth (os ++ us) = linesOf isTop depth os ++ linesOf isTop depth us := by
  induction os with
  | nil => rfl
  | cons o os ih => simp [linesOf, ih]

theorem inline?_shown (os : List Outline) : inline? os = inline? (os.filter isShown) := by
  simp [inline?, List.filter_filter]

end Outline

theorem outlines_append (ns ms : List Node) : outlines (ns ++ ms) = outlines ns ++ outlines ms := by
  induction ns with
  | nil => rfl
  | cons n ns ih => simp [outlines, ih]

/-! ### Texts that stand alone -/

/-- At most one text shows among siblings that show nothing but texts. -/
def isLoneText (ns : List Node) : Bool :=
  let shown := ns.filter isSignificant
  !shown.all Node.isText || shown.length ≤ 1

/-- Whether no two texts stand next to each other among siblings. -/
def textsApart : List Node → Bool
  | n :: m :: ns => !(n.isText && m.isText) && textsApart (m :: ns)
  | _ => true

mutual

/-- Whether at most one text shows in every element, at or below a node, whose lines show nothing
but texts. -/
def textsAlone : Node → Bool
  | .text _ => true
  | .comment _ => true
  | .doctype _ => true
  | .element t _ ns =>
    t.name ∈ verbatimNames || t.name ∈ voidNames || (isLoneText ns && allTextsAlone ns)

/-- Whether the same holds for every node of a forest. -/
def allTextsAlone : List Node → Bool
  | [] => true
  | n :: ns => textsAlone n && allTextsAlone ns

end

theorem isLoneText_of_apart {ns : List Node} (h : textsApart ns = true)
    (hd : ∀ d, Node.doctype d ∉ ns) : isLoneText ns = true := by
  by_cases ha : (ns.filter isSignificant).all Node.isText = true
  · have htext : ∀ n ∈ ns, n.isText = true := by
      intro n hn
      cases n with
      | text t => rfl
      | comment t => exact List.all_eq_true.1 ha _ (List.mem_filter.2 ⟨hn, rfl⟩)
      | doctype d => exact absurd hn (hd d)
      | element t c ms => exact List.all_eq_true.1 ha _ (List.mem_filter.2 ⟨hn, rfl⟩)
    have hlen : ns.length ≤ 1 := by
      match ns, h with
      | [], _ => simp
      | [_], _ => simp
      | n :: m :: ns, h => simp [textsApart, htext n, htext m] at h
    have := (List.length_filter_le isSignificant ns).trans hlen
    simp [isLoneText, this]
  · simp [isLoneText, ha]

/-! ### The layout of an outline -/

/-- What shows below an element is the outline of the nodes that show. -/
theorem shown_outlines (ns : List Node) :
    (outlines ns).filter Outline.isShown = (ns.filter isSignificant).flatMap outline := by
  induction ns with
  | nil => rfl
  | cons n ns ih =>
    have hn : (outline n).filter Outline.isShown = if isSignificant n then outline n else [] := by
      cases n with
      | text t =>
        by_cases hb : isBlankText t = true <;> simp [outline, isSignificant, hb, Outline.isShown]
      | comment t => rfl
      | doctype d => rfl
      | element t c ns => by_cases hv : t.name ∈ verbatimNames <;>
          simp [outline, isSignificant, hv, Outline.isShown]
    rw [outlines, List.filter_append, hn, ih, List.filter_cons]
    by_cases hs : isSignificant n = true <;> simp [hs]

/-- An element with a single text that shows stays on one line exactly when the text does. -/
theorem inline?_text {t : Text} (hb : isBlankText t = false) :
    Outline.inline? [.text (textLines t)] = if (trim t).contains '\n' then none else some (trim t) := by
  by_cases hn : '\n' ∈ trim t
  · have h2 := textLines_of_newline hn
    rw [if_pos (List.contains_iff_mem.2 hn)]
    match textLines t, h2 with
    | _ :: _ :: _, _ => rfl
  · rw [if_neg (by rwa [List.contains_iff_mem]), textLines_of_inline hb hn]; rfl

/-- Something other than a text takes an element to several lines. -/
theorem inline?_eq_none {ns : List Node} (h : (ns.filter isSignificant).all Node.isText = false) :
    Outline.inline? (outlines ns) = none := by
  obtain ⟨n, hn, ht⟩ := List.all_eq_false.1 h
  have hs : isSignificant n = true := (List.mem_filter.1 hn).2
  obtain ⟨o, ho, hno⟩ : ∃ o ∈ (outlines ns).filter Outline.isShown, ∀ ls, o ≠ .text ls := by
    rw [shown_outlines]
    cases n with
    | text t => exact absurd rfl ht
    | comment t => exact ⟨.comment t, List.mem_flatMap.2 ⟨_, hn, by simp [outline]⟩, by simp⟩
    | doctype d => exact absurd hs (by simp [isSignificant])
    | element t c ms =>
      by_cases hv : t.name ∈ verbatimNames
      · exact ⟨.verbatim _, List.mem_flatMap.2 ⟨_, hn, by simp [outline, hv]; rfl⟩, by simp⟩
      · exact ⟨.element t (outlines ms), List.mem_flatMap.2 ⟨_, hn, by simp [outline, hv]⟩, by simp⟩
  unfold Outline.inline?
  split
  · rename_i he; simp [he] at ho
  · rename_i l he
    rw [he, List.mem_singleton] at ho
    exact absurd ho (hno _)
  · rfl

/-- **Where texts stand alone the outline decides what stays on one line.** -/
theorem inlineText?_eq {ns : List Node} (h : isLoneText ns = true) :
    inlineText? ns = Outline.inline? (outlines ns) := by
  by_cases ha : (ns.filter isSignificant).all Node.isText = true
  · have hlen : (ns.filter isSignificant).length ≤ 1 := by simpa [isLoneText, ha] using h
    rw [Outline.inline?_shown, shown_outlines]
    simp only [inlineText?, ha, Bool.true_and]
    match hs : ns.filter isSignificant, hlen with
    | [], _ => rfl
    | [.text t], _ =>
      have hn : isSignificant (.text t) = true :=
        (List.mem_filter.1 (hs ▸ List.mem_singleton_self (Node.text t))).2
      have hb : isBlankText t = false := by simpa [isSignificant] using hn
      have ho : [Node.text t].flatMap outline = [.text (textLines t)] := by simp [outline, hb]
      rw [ho, inline?_text hb]
      simp [Node.text?]
    | [.comment _], _ => simp [hs, Node.isText] at ha
    | [.doctype _], _ => simp [hs, Node.isText] at ha
    | [.element _ _ _], _ => simp [hs, Node.isText] at ha
  · rw [Bool.not_eq_true] at ha
    rw [inline?_eq_none ha]
    simp [inlineText?, ha]

mutual

theorem nodeLines_eq (isTop : Bool) (depth : Nat) (n : Node) (h : textsAlone n = true) :
    nodeLines isTop depth n = Outline.linesOf isTop depth (outline n) := by
  cases n with
  | text t =>
    by_cases hb : isBlankText t = true
    · simp [nodeLines, outline, hb, textLines_eq_nil_iff.2 hb, Outline.linesOf]
    · simp [nodeLines, outline, hb, Outline.linesOf, Outline.lines]
  | comment t => simp [nodeLines, outline, Outline.linesOf, Outline.lines]
  | doctype d => simp [nodeLines, outline, Outline.linesOf, Outline.lines]
  | element t c ns =>
    by_cases hv : t.name ∈ verbatimNames
    · simp [nodeLines, outline, hv, Outline.linesOf, Outline.lines]
    by_cases hw : t.name ∈ voidNames
    · simp [nodeLines, outline, hv, hw, Outline.linesOf, Outline.lines]
    simp only [textsAlone, hv, hw, decide_false, Bool.false_or, Bool.and_eq_true] at h
    have hi := inlineText?_eq h.1
    have ih := forestLines_eq false (depth + 1) ns h.2
    cases ho : Outline.inline? (outlines ns) with
    | some l =>
      rw [ho] at hi
      simp [nodeLines, outline, hv, hw, Outline.linesOf, Outline.lines, hi, ho]
    | none =>
      rw [ho] at hi
      simp [nodeLines, outline, hv, hw, Outline.linesOf, Outline.lines, hi, ho, ih]

/-- **The layout is a function of the outline** where texts stand alone. -/
theorem forestLines_eq (isTop : Bool) (depth : Nat) (ns : List Node)
    (h : allTextsAlone ns = true) :
    forestLines isTop depth ns = Outline.linesOf isTop depth (outlines ns) := by
  cases ns with
  | nil => rfl
  | cons n ns =>
    simp only [allTextsAlone, Bool.and_eq_true] at h
    rw [forestLines, outlines, Outline.linesOf_append, nodeLines_eq isTop depth n h.1,
      forestLines_eq isTop depth ns h.2]

end

/-- Pages of one shape whose texts stand alone and that have the same outline have the same lines. -/
theorem lines_eq_of_outlines {p q : Page} (hs : p.shape = q.shape)
    (hp : allTextsAlone p.nodes = true) (hq : allTextsAlone q.nodes = true)
    (h : outlines p.nodes = outlines q.nodes) : p.lines = q.lines := by
  unfold lines
  rw [← hs]
  cases p.shape with
  | document => simp only [forestLines_eq _ _ _ hp, forestLines_eq _ _ _ hq, h]
  | fragment => simp only [forestLines_eq _ _ _ hp, forestLines_eq _ _ _ hq, h]

end HtmlCanon.Page
