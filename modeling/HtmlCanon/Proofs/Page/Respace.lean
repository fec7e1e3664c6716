import HtmlCanon.Page.Canonical
import HtmlCanon.Proofs.Page.Outline
import Mathlib.Logic.Relation

/-!
# White space in texts does not show

White-space noise comes and goes: a blank text is put between two nodes, or the characters of a text
change while its trimmed lines stay. It may do so anywhere outside the elements that are kept as
they are, in what a template keeps apart too.

* `outlines_of_respaced` : **noise leaves the outline alone**, wherever it falls.
* `canonical_of_respaced` : where texts stand alone, it reaches neither the layout nor the canonical
  form.
* `allTextsAlone_of_apart` : texts stand alone when no two of them are neighbours and no doctype
  stands below an element.
-/

namespace HtmlCanon.Page

open Html

/-! ### Noise -/

/-- One step of noise among siblings: a blank text appears, a text changes but for its lines, or the
step falls below an element or in what it keeps apart. -/
inductive Noise : List Node → List Node → Prop where
  | insert (ns ms : List Node) {t : Text} (h : isBlankText t = true) :
      Noise (ns ++ ms) (ns ++ .text t :: ms)
  | retext (ns ms : List Node) {t u : Text} (h : textLines t = textLines u) :
      Noise (ns ++ .text t :: ms) (ns ++ .text u :: ms)
  | children (ns ms : List Node) {t : Tag} {c ks ls : List Node} (ht : t.name ∉ verbatimNames)
      (h : Noise ks ls) : Noise (ns ++ .element t c ks :: ms) (ns ++ .element t c ls :: ms)
  | content (ns ms : List Node) {t : Tag} {c d ks : List Node} (ht : t.name ∉ verbatimNames)
      (h : Noise c d) : Noise (ns ++ .element t c ks :: ms) (ns ++ .element t d ks :: ms)

/-- Forests that differ by noise, in any number of steps back and forth. -/
def Respaced : List Node → List Node → Prop := Relation.EqvGen Noise

/-- A step of noise keeps the outline. -/
theorem outlines_of_noise {ns ms : List Node} (h : Noise ns ms) : outlines ns = outlines ms := by
  induction h with
  | insert ns ms hb => simp [outlines_append, outlines, outline, hb]
  | retext ns ms hl => simp [outlines_append, outlines, outline, isBlankText_congr hl, hl]
  | children ns ms ht _ ih => simp [outlines_append, outlines, outline, ht, ih]
  | content ns ms ht _ _ => simp [outlines_append, outlines, outline, ht]

/-- **Noise keeps the outline**, in any number of steps. -/
theorem outlines_of_respaced {ns ms : List Node} (h : Respaced ns ms) : outlines ns = outlines ms := by
  induction h with
  | rel _ _ h => exact outlines_of_noise h
  | refl _ => rfl
  | symm _ _ _ ih => exact ih.symm
  | trans _ _ _ _ _ ih₁ ih₂ => exact ih₁.trans ih₂

/-! ### Texts that are no neighbours -/

mutual

/-- Whether no two texts are neighbours below a node, what a template keeps apart included. -/
def apartBelow : Node → Bool
  | .element _ c ns => textsApart c && textsApart ns && allApartBelow c && allApartBelow ns
  | _ => true

/-- Whether the same holds for every node of a forest. -/
def allApartBelow : List Node → Bool
  | [] => true
  | n :: ns => apartBelow n && allApartBelow ns

end

/-- Whether no two texts of a forest are neighbours. -/
def allTextsApart (ns : List Node) : Bool := textsApart ns && allApartBelow ns

mutual

/-- Whether no doctype stands below a node. -/
def undeclaredBelow : Node → Bool
  | .element _ _ ns => ns.all (fun n => !n matches .doctype _) && allUndeclaredBelow ns
  | _ => true

/-- Whether no doctype stands below a node of a forest. -/
def allUndeclaredBelow : List Node → Bool
  | [] => true
  | n :: ns => undeclaredBelow n && allUndeclaredBelow ns

end

mutual

theorem textsAlone_of_apart {n : Node} (ha : apartBelow n = true) (hd : undeclaredBelow n = true) :
    textsAlone n = true := by
  cases n with
  | text t => rfl
  | comment t => rfl
  | doctype d => rfl
  | element t c ns =>
    simp only [apartBelow, undeclaredBelow, Bool.and_eq_true, List.all_eq_true] at ha hd
    have hlone : isLoneText ns = true :=
      isLoneText_of_apart ha.1.1.2 fun d hm => by simpa using hd.1 _ hm
    simp [textsAlone, hlone, allTextsAlone_of_apart ha.2 hd.2]

/-- **Texts stand alone** below elements that hold no doctype and no two texts in a row. -/
theorem allTextsAlone_of_apart {ns : List Node} (ha : allApartBelow ns = true)
    (hd : allUndeclaredBelow ns = true) : allTextsAlone ns = true := by
  cases ns with
  | nil => rfl
  | cons n ns =>
    simp only [allApartBelow, allUndeclaredBelow, Bool.and_eq_true] at ha hd
    simp [allTextsAlone, textsAlone_of_apart ha.1 hd.1, allTextsAlone_of_apart ha.2 hd.2]

end

/-! ### Pages -/

/-- **White-space noise never reaches the canonical form** of a page whose texts stand alone. -/
theorem canonical_of_respaced {p q : Page} (hshape : p.shape = q.shape)
    (hp : allTextsAlone p.nodes = true) (hq : allTextsAlone q.nodes = true)
    (h : Respaced p.nodes q.nodes) : p.layout = q.layout ∧ p.canonical = q.canonical := by
  have hlayout : p.layout = q.layout := by
    unfold layout
    rw [lines_eq_of_outlines hshape hp hq (outlines_of_respaced h)]
  refine ⟨hlayout, ?_⟩
  unfold canonical
  rw [hshape, hlayout]

/-- A division that holds a text, a bold text and a line break. -/
def division (text bold : String) : Node :=
  .element (.plain "div") [] [.text text.toList, .element (.plain "b") [] [.text bold.toList],
    .element (.plain "br") [] []]

/-- A division with the line feeds, tabs and carriage returns of its source, and one without. -/
theorem canonical_of_respaced_division :
    let p : Page := ⟨.fragment, [.text ['\n'], division "\n  one\r\n\ttwo" "three"]⟩
    let q : Page := ⟨.fragment, [division "one\ntwo" "\u00a0three\n"]⟩
    Respaced p.nodes q.nodes ∧ p.layout = q.layout ∧ p.canonical = q.canonical := by
  intro p q
  have hdrop : Noise q.nodes [.text ['\n'], division "one\ntwo" "\u00a0three\n"] :=
    .insert [] _ (by decide)
  have htext : Noise p.nodes [.text ['\n'], division "one\ntwo" "three"] :=
    .children [.text ['\n']] [] (by decide) (.retext [] _ (by decide +kernel))
  have hbold : Noise [.text ['\n'], division "one\ntwo" "three"]
      [.text ['\n'], division "one\ntwo" "\u00a0three\n"] :=
    .children [.text ['\n']] [] (by decide) (.children [_] [_] (by decide)
      (.retext [] [] (by decide +kernel)))
  have h : Respaced p.nodes q.nodes :=
    .trans _ _ _ (.rel _ _ htext) (.trans _ _ _ (.rel _ _ hbold) (.symm _ _ (.rel _ _ hdrop)))
  have hs : p.shape = q.shape := rfl
  have hp : allTextsAlone p.nodes = true := by decide +kernel
  have hq : allTextsAlone q.nodes = true := by decide +kernel
  exact ⟨h, canonical_of_respaced hs hp hq h⟩

/-- A page in which a doctype stands between two texts. -/
def declaredDivision (first second : String) : Page :=
  ⟨.fragment, [.element (.plain "div") [] [.text first.toList, .doctype ⟨"html".toList, [], []⟩,
    .text second.toList]]⟩

/-- A doctype keeps two texts from being neighbours, but below an element it does not show: there
the white space between the texts does. -/
theorem canonical_declaredDivision :
    let p := declaredDivision "a " "b"
    let q := declaredDivision "a" "b"
    p.shape = q.shape ∧ allTextsApart p.nodes = true ∧ allTextsApart q.nodes = true ∧
      Respaced p.nodes q.nodes ∧ p.layout ≠ q.layout ∧ p.canonical ≠ q.canonical := by
  intro p q
  have hr : Noise p.nodes q.nodes :=
    .children [] [] (by decide) (.retext [] _ (by decide +kernel))
  refine ⟨rfl, by decide +kernel, by decide +kernel, .rel _ _ hr, ?_, ?_⟩
  · decide +kernel
  · decide +kernel

end HtmlCanon.Page
