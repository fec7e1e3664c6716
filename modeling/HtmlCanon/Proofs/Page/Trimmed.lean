import HtmlCanon.Proofs.Page.Respace

/-!
# Trimmed pages

What a template keeps apart is a part of its page like all the rest: noise may fall there, it is
repaired, and pages that differ there are different pages. The layout and the markup leave it out,
so it is taken away before pages are compared by what they show.

A page is trimmed by dropping its blank texts and the blanks around the lines of the others, in what
templates keep apart too. Elements that are kept as they are stay as they are.

* `layout_bare`, `markups_bares`, `outlines_bares` : layout, markup and outline **leave out what
  templates keep apart**, and nothing else changes in them.
* `respaced_iff` : **forests differ by noise exactly if they are alike once trimmed**.
-/

namespace HtmlCanon.Page

open Html

/-! ### What templates keep apart -/

mutual

/-- A node without what the templates at or below it keep apart. -/
def bare : Node → Node
  | .text t => .text t
  | .comment t => .comment t
  | .doctype d => .doctype d
  | .element t _ ns => .element t [] (bares ns)

/-- A forest without what its templates keep apart. -/
def bares : List Node → List Node
  | [] => []
  | n :: ns => bare n :: bares ns

end

@[simp] theorem isSignificant_bare (n : Node) : isSignificant (bare n) = isSignificant n := by
  cases n <;> rfl

@[simp] theorem isText_bare (n : Node) : (bare n).isText = n.isText := by cases n <;> rfl

@[simp] theorem text?_bare (n : Node) : (bare n).text? = n.text? := by cases n <;> rfl

theorem bares_eq_map (ns : List Node) : bares ns = ns.map bare := by
  induction ns with
  | nil => rfl
  | cons n ns ih => rw [bares, ih, List.map_cons]

/-- What stays on one line is read off the children of an element, not off what it keeps apart. -/
theorem inlineText?_bares (ns : List Node) : inlineText? (bares ns) = inlineText? ns := by
  have hshown : (bares ns).filter isSignificant = (ns.filter isSignificant).map bare := by
    rw [bares_eq_map, List.filter_map]
    exact congrArg _ (List.filter_congr fun n _ => isSignificant_bare n)
  have htexts : ∀ ms : List Node, (ms.map bare).all Node.isText = ms.all Node.isText ∧
      (ms.map bare).filterMap Node.text? = ms.filterMap Node.text? := by
    intro ms
    rw [List.all_map, List.filterMap_map]
    exact ⟨List.all_congr rfl fun n => isText_bare n,
      List.filterMap_congr fun n _ => text?_bare n⟩
  simp only [inlineText?, hshown, htexts]

mutual

theorem markupIn_bare (n : Node) (s : Surroundings) : (bare n).markupIn s = n.markupIn s := by
  cases n with
  | text t => rfl
  | comment t => rfl
  | doctype d => rfl
  | element t c ns =>
    have hbody := markupsIn_bares ns ⟨t.holdsRawText, s.silent || t.isUnclosed⟩
    -- written out, for the equations of `markupIn` take long to derive
    show (if s.silent then Node.markupsIn _ (bares ns)
        else if t.isUnclosed then t.markup ++ Node.markupsIn _ (bares ns)
        else t.markup ++ Node.markupsIn _ (bares ns) ++ t.closing) =
      if s.silent then Node.markupsIn _ ns
        else if t.isUnclosed then t.markup ++ Node.markupsIn _ ns
        else t.markup ++ Node.markupsIn _ ns ++ t.closing
    rw [hbody]
termination_by structural n

theorem markupsIn_bares (ns : List Node) (s : Surroundings) :
    Node.markupsIn s (bares ns) = Node.markupsIn s ns := by
  cases ns with
  | nil => rfl
  | cons n ns =>
    show (bare n).markupIn s ++ Node.markupsIn s (bares ns) = n.markupIn s ++ Node.markupsIn s ns
    rw [markupIn_bare n s, markupsIn_bares ns s]
termination_by structural ns

end

theorem markup_bare (n : Node) : (bare n).markup = n.markup := markupIn_bare n _

/-- **The markup of a forest** leaves out what templates keep apart. -/
theorem markups_bares (ns : List Node) : Node.markups (bares ns) = Node.markups ns :=
  markupsIn_bares ns _

mutual

theorem nodeLines_bare (isTop : Bool) (depth : Nat) (n : Node) :
    nodeLines isTop depth (bare n) = nodeLines isTop depth n := by
  cases n with
  | text t => rfl
  | comment t => rfl
  | doctype d => rfl
  | element t c ns =>
    have hmarkup : (Node.element t [] (bares ns)).markup = (Node.element t c ns).markup :=
      markup_bare (.element t c ns)
    simp only [bare, nodeLines, hmarkup, inlineText?_bares,
      forestLines_bares false (depth + 1) ns]

theorem forestLines_bares (isTop : Bool) (depth : Nat) (ns : List Node) :
    forestLines isTop depth (bares ns) = forestLines isTop depth ns := by
  cases ns with
  | nil => rfl
  | cons n ns =>
    rw [bares, forestLines, nodeLines_bare isTop depth n, forestLines_bares isTop depth ns,
      forestLines]

end

/-- **The layout leaves out what templates keep apart.** -/
theorem layout_bare (p : Page) : Page.layout ⟨p.shape, bares p.nodes⟩ = p.layout := by
  obtain ⟨shape, ns⟩ := p
  unfold layout lines
  cases shape <;> simp only [forestLines_bares]

mutual

theorem outline_bare (n : Node) : outline (bare n) = outline n := by
  cases n with
  | text t => rfl
  | comment t => rfl
  | doctype d => rfl
  | element t c ns =>
    have hmarkup : (Node.element t [] (bares ns)).markup = (Node.element t c ns).markup :=
      markup_bare (.element t c ns)
    simp only [bare, outline, hmarkup, outlines_bares ns]

/-- **The outline leaves out what templates keep apart.** -/
theorem outlines_bares (ns : List Node) : outlines (bares ns) = outlines ns := by
  cases ns with
  | nil => rfl
  | cons n ns => rw [bares, outlines, outline_bare n, outlines_bares ns, outlines]

end

/-! ### Trimmed forests -/

mutual

/-- A node with its blank texts dropped and the blanks around the lines of the others, which is
nothing for a blank text. -/
def trimmed : Node → List Node
  | .text t => if isBlankText t then [] else [.text (joinLines (textLines t))]
  | .comment t => [.comment t]
  | .doctype d => [.doctype d]
  | .element t c ns =>
    if t.name ∈ verbatimNames then [.element t c ns]
    else [.element t (allTrimmed c) (allTrimmed ns)]

/-- A forest with its blank texts dropped and the blanks around the lines of the others. -/
def allTrimmed : List Node → List Node
  | [] => []
  | n :: ns => trimmed n ++ allTrimmed ns

end

theorem allTrimmed_append (ns ms : List Node) :
    allTrimmed (ns ++ ms) = allTrimmed ns ++ allTrimmed ms := by
  induction ns with
  | nil => rfl
  | cons n ns ih => simp [allTrimmed, ih]

/-- A step of noise is lost when the forest is trimmed. -/
theorem allTrimmed_of_noise {ns ms : List Node} (h : Noise ns ms) :
    allTrimmed ns = allTrimmed ms := by
  induction h with
  | insert ns ms hb => simp [allTrimmed_append, allTrimmed, trimmed, hb]
  | retext ns ms hl => simp [allTrimmed_append, allTrimmed, trimmed, isBlankText_congr hl, hl]
  | children ns ms ht _ ih => simp [allTrimmed_append, allTrimmed, trimmed, ht, ih]
  | content ns ms ht _ ih => simp [allTrimmed_append, allTrimmed, trimmed, ht, ih]

/-- Noise stays noise in surroundings that a step of it can fall in. -/
theorem Respaced.lift {f : List Node → List Node}
    (hf : ∀ {ns ms : List Node}, Noise ns ms → Noise (f ns) (f ms)) {ns ms : List Node}
    (h : Respaced ns ms) : Respaced (f ns) (f ms) := by
  induction h with
  | rel _ _ h => exact .rel _ _ (hf h)
  | refl _ => exact .refl _
  | symm _ _ _ ih => exact .symm _ _ ih
  | trans _ _ _ _ _ ih₁ ih₂ => exact .trans _ _ _ ih₁ ih₂

/-- A step of noise may have nodes on both sides. -/
theorem Noise.between (as bs : List Node) {ns ms : List Node} (h : Noise ns ms) :
    Noise (as ++ ns ++ bs) (as ++ ms ++ bs) := by
  cases h with
  | insert ns ms hb => simpa using Noise.insert (as ++ ns) (ms ++ bs) hb
  | retext ns ms hl => simpa using Noise.retext (as ++ ns) (ms ++ bs) hl
  | children ns ms ht h => simpa using Noise.children (as ++ ns) (ms ++ bs) ht h
  | content ns ms ht h => simpa using Noise.content (as ++ ns) (ms ++ bs) ht h

theorem Respaced.append {ns ms ks ls : List Node} (h : Respaced ns ms) (hk : Respaced ks ls) :
    Respaced (ns ++ ks) (ms ++ ls) := by
  have hleft : Respaced ([] ++ ns ++ ks) ([] ++ ms ++ ks) := h.lift (Noise.between [] ks)
  have hright : Respaced (ms ++ ks ++ []) (ms ++ ls ++ []) := hk.lift (Noise.between ms [])
  rw [List.append_nil, List.append_nil] at hright
  exact .trans _ _ _ hleft hright

mutual

theorem respaced_trimmed (n : Node) : Respaced [n] (trimmed n) := by
  cases n with
  | text t =>
    by_cases hb : isBlankText t = true
    · rw [trimmed, if_pos hb]
      exact .symm _ _ (.rel _ _ (.insert [] [] hb))
    · rw [trimmed, if_neg hb]
      exact .rel _ _ (.retext [] [] (textLines_joinLines fun l hl => mem_textLines hl).symm)
  | comment t => exact .refl _
  | doctype d => exact .refl _
  | element t c ns =>
    by_cases hv : t.name ∈ verbatimNames
    · rw [trimmed, if_pos hv]
      exact .refl _
    · rw [trimmed, if_neg hv]
      have hkept : Respaced [.element t c ns] [.element t (allTrimmed c) ns] :=
        (respaced_allTrimmed c).lift (f := fun d => [.element t d ns]) (.content [] [] hv)
      have hbelow : Respaced [.element t (allTrimmed c) ns]
          [.element t (allTrimmed c) (allTrimmed ns)] :=
        (respaced_allTrimmed ns).lift (f := fun ks => [.element t (allTrimmed c) ks])
          (.children [] [] hv)
      exact .trans _ _ _ hkept hbelow

/-- Trimming is noise. -/
theorem respaced_allTrimmed (ns : List Node) : Respaced ns (allTrimmed ns) := by
  cases ns with
  | nil => exact .refl _
  | cons n ns => exact (respaced_trimmed n).append (respaced_allTrimmed ns)

end

/-- **Forests differ by noise exactly if they are alike once trimmed.** -/
theorem respaced_iff {ns ms : List Node} : Respaced ns ms ↔ allTrimmed ns = allTrimmed ms := by
  constructor
  · intro h
    induction h with
    | rel _ _ h => exact allTrimmed_of_noise h
    | refl _ => rfl
    | symm _ _ _ ih => exact ih.symm
    | trans _ _ _ _ _ ih₁ ih₂ => exact ih₁.trans ih₂
  · intro h
    -- each forest is a few steps of noise away from what both are once trimmed
    have hback : Respaced (allTrimmed ns) ms := h ▸ .symm _ _ (respaced_allTrimmed ms)
    exact .trans _ _ _ (respaced_allTrimmed ns) hback

end HtmlCanon.Page
