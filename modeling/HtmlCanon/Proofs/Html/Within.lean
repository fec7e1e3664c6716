import HtmlCanon.Html.Address
import HtmlCanon.Page

/-!
# Nodes at any depth

Many facts about a page are facts about each of its nodes, wherever it stands: at the top, below an
element, or in the content of a template. Such a fact survives the edits at addresses if it does not
depend on what an element holds, but for whether it holds anything.

* `Node.withinAll` : the nodes of a forest at any depth.
* `Forest.extract_keeps` : what is so of nodes that are taken out one by one.
* `Everywhere` : all nodes of a forest have a property.
* `Everywhere.replaceAll`, `Everywhere.extract`, `Everywhere.mapTexts` : **what an edit leaves**.
-/

namespace HtmlCanon.Html

namespace Node

mutual

/-- A node, the nodes below it and those in the content of templates. -/
def within : Node → List Node
  | text d => [text d]
  | comment d => [comment d]
  | doctype d => [doctype d]
  | element t c ns => element t c ns :: (withinAll c ++ withinAll ns)

/-- The nodes of a forest at any depth, in the content of templates too. -/
def withinAll : List Node → List Node
  | [] => []
  | n :: ns => within n ++ withinAll ns

end

/-- A doctype. -/
def IsDoctype (n : Node) : Prop := ∃ d, n = doctype d

end Node

open Node

/-! ### Taking nodes out -/

namespace Forest

theorem extract_nil (ns : List Node) : extract [] ns = ([], ns) := rfl

theorem extract_cons (a : Address) (as : List Address) (ns : List Node) :
    extract (a :: as) ns =
      match get? a (extract as ns).2 with
      | some n => (n :: (extract as ns).1, replaceAt (fun _ => []) a (extract as ns).2)
      | none => extract as ns := rfl

/-- **What one taking out preserves**, all of them preserve; and what is so of each node that is found
is so of all that are taken out. -/
theorem extract_keeps {P : List Node → Prop} {Q : Node → Prop} (as : List Address)
    (hget : ∀ a ∈ as, ∀ ns n, P ns → get? a ns = some n → Q n)
    (hleave : ∀ a ∈ as, ∀ ns, P ns → P (replaceAt (fun _ => []) a ns)) {ns : List Node} (h : P ns) :
    (∀ n ∈ (extract as ns).1, Q n) ∧ P (extract as ns).2 := by
  induction as with
  | nil => exact ⟨List.forall_mem_nil Q, h⟩
  | cons a as ih =>
    obtain ⟨hout, hrest⟩ := ih (fun b hb => hget b (List.mem_cons_of_mem a hb))
      fun b hb => hleave b (List.mem_cons_of_mem a hb)
    have ha := List.mem_cons_self (a := a) (l := as)
    rw [extract_cons]
    split
    · rename_i n hn
      exact ⟨List.forall_mem_cons.2 ⟨hget a ha _ n hrest hn, hout⟩, hleave a ha _ hrest⟩
    · exact ⟨hout, hrest⟩

end Forest

/-! ### A property of all nodes -/

/-- All nodes of a forest, at any depth, have a property. -/
def Everywhere (p : Node → Prop) (ns : List Node) : Prop := ∀ n ∈ withinAll ns, p n

/-- A property of nodes that texts have, and that an element does not lose with what it holds, as
long as nothing is put into an empty one. -/
structure Hereditary (p : Node → Prop) : Prop where
  text : ∀ d, p (.text d)
  refill : ∀ {t : Tag} {c ns ns' : List Node}, p (.element t c ns) → (ns = [] → ns' = []) →
    p (.element t c ns')

namespace Everywhere

variable {p : Node → Prop} {ns ms : List Node} {n : Node} {t : Tag} {c : List Node}

@[simp] theorem nil : Everywhere p [] := List.forall_mem_nil p

theorem cons_iff : Everywhere p (n :: ns) ↔ (∀ m ∈ within n, p m) ∧ Everywhere p ns := by
  simp only [Everywhere, withinAll, List.forall_mem_append]

theorem cons (h : Everywhere p [n]) (hs : Everywhere p ns) : Everywhere p (n :: ns) :=
  cons_iff.2 ⟨(cons_iff.1 h).1, hs⟩

theorem head (h : Everywhere p (n :: ns)) : Everywhere p [n] := cons_iff.2 ⟨(cons_iff.1 h).1, nil⟩

theorem tail (h : Everywhere p (n :: ns)) : Everywhere p ns := (cons_iff.1 h).2

theorem append (h : Everywhere p ns) (h' : Everywhere p ms) : Everywhere p (ns ++ ms) := by
  induction ns with
  | nil => exact h'
  | cons n ns ih => exact h.head.cons (ih h.tail)

theorem mem (h : Everywhere p ns) (hn : n ∈ ns) : Everywhere p [n] := by
  induction ns with
  | nil => cases hn
  | cons m ms ih =>
    rcases List.mem_cons.1 hn with rfl | hn
    · exact h.head
    · exact ih h.tail hn

/-- A property that every top-level node has with all that is below it. -/
theorem of_mem (h : ∀ n ∈ ns, Everywhere p [n]) : Everywhere p ns := by
  induction ns with
  | nil => exact nil
  | cons n ns ih =>
    exact (h n List.mem_cons_self).cons (ih fun m hm => h m (List.mem_cons_of_mem n hm))

theorem self (h : Everywhere p [n]) : p n := by
  refine h n ?_
  cases n <;> simp [withinAll, within]

theorem text {d : Text} (hp : p (.text d)) : Everywhere p [.text d] := by
  intro m hm
  obtain rfl : m = .text d := by simpa [withinAll, within] using hm
  exact hp

theorem comment {d : Text} (hp : p (.comment d)) : Everywhere p [.comment d] := by
  intro m hm
  obtain rfl : m = .comment d := by simpa [withinAll, within] using hm
  exact hp

theorem doctype {d : Doctype} (hp : p (.doctype d)) : Everywhere p [.doctype d] := by
  intro m hm
  obtain rfl : m = .doctype d := by simpa [withinAll, within] using hm
  exact hp

theorem element (hp : p (.element t c ns)) (hc : Everywhere p c) (hns : Everywhere p ns) :
    Everywhere p [.element t c ns] := by
  intro m hm
  simp only [withinAll, within, List.append_nil, List.mem_cons, List.mem_append] at hm
  rcases hm with rfl | hm | hm
  · exact hp
  · exact hc m hm
  · exact hns m hm

theorem content (h : Everywhere p [.element t c ns]) : Everywhere p c := fun m hm =>
  h m (by simp [withinAll, within, hm])

theorem children (h : Everywhere p [n]) : Everywhere p n.children := by
  cases n with
  | element t c ns => exact fun m hm => h m (by simp [withinAll, within, show m ∈ withinAll ns from hm])
  | _ => exact nil

/-! ### Parts of a page -/

mutual

theorem findIn {name : String} {n e : Node} (h : Everywhere p [n]) (he : Page.findIn name n = some e) :
    Everywhere p [e] := by
  cases n with
  | element t c cs =>
    rw [Page.findIn] at he
    split at he
    · obtain rfl := Option.some.inj he
      exact h
    · exact findAmong h.children he
  | _ => cases he
termination_by structural n

/-- What is found in a forest has all properties that its nodes have. -/
theorem findAmong {name : String} {ns : List Node} {e : Node} (h : Everywhere p ns)
    (he : Page.findAmong name ns = some e) :
    Everywhere p [e] := by
  cases ns with
  | nil => cases he
  | cons n ns =>
    rcases Option.or_eq_some_iff.1 he with he | ⟨-, he⟩
    · exact findIn h.head he
    · exact findAmong h.tail he
termination_by structural ns

end

/-- What an element of a page holds has the properties of the page. -/
theorem contentOf (h : Everywhere p ns) (name : String) : Everywhere p (Page.contentOf name ns) := by
  unfold Page.contentOf
  cases hf : Page.findAmong name ns with
  | none => exact nil
  | some e => exact (h.findAmong hf).children

/-- **A page that is read** has the properties of the nodes that are read. -/
theorem pageParse {s : Text} (h : Everywhere p (Html.parse s).nodes) :
    Everywhere p (Page.parse s).nodes := by
  unfold Page.parse Page.parseCounting
  dsimp only
  split
  · exact h
  · exact (h.contentOf "head").append (h.contentOf "body")

/-! ### Edits -/

/-- The node at an address. -/
theorem get? {a : Address} (h : Everywhere p ns) (hg : Forest.get? a ns = some n) :
    Everywhere p [n] := by
  fun_induction Forest.get? a ns with
  | case1 => cases hg
  | case2 => cases hg
  | case3 m ms =>
    obtain rfl := Option.some.inj hg
    exact h.head
  | case4 i a m ms ih => exact ih h.head.children hg
  | case5 k a m ms ih => exact ih h.tail hg

/-- **Nodes in place of another.** -/
theorem replaceAt (hp : Hereditary p) {f : Node → List Node}
    (hf : ∀ n, Everywhere p [n] → Everywhere p (f n)) {a : Address} (h : Everywhere p ns) :
    Everywhere p (Forest.replaceAt f a ns) := by
  fun_induction Forest.replaceAt f a ns with
  | case1 => exact h
  | case2 => exact h
  | case3 n ns => exact (hf n h.head).append h.tail
  | case4 i a t c cs ns ih =>
    have hcs : Everywhere p cs := h.head.children
    -- no address leads into an element that is empty
    have hempty : cs = [] → Forest.replaceAt f (i :: a) cs = [] := by
      rintro rfl
      rw [Forest.replaceAt]
      exact List.cons_ne_nil i a
    exact (element (hp.refill h.head.self hempty) h.head.content (ih hcs)).cons h.tail
  | case5 => exact h
  | case6 k a n ns ih => exact h.head.cons (ih h.tail)

/-- Nodes in place of several others. -/
theorem replaceAll (hp : Hereditary p) {f : Node → List Node}
    (hf : ∀ n, Everywhere p [n] → Everywhere p (f n)) (as : List Address) (h : Everywhere p ns) :
    Everywhere p (Forest.replaceAll f as ns) := by
  induction as with
  | nil => exact h
  | cons a as ih => exact replaceAt hp hf ih

/-- **Nodes that are taken out, and what is left.** -/
theorem extract (hp : Hereditary p) (as : List Address) (h : Everywhere p ns) :
    Everywhere p (Forest.extract as ns).1 ∧ Everywhere p (Forest.extract as ns).2 := by
  obtain ⟨hout, hleft⟩ := Forest.extract_keeps (P := Everywhere p)
    (Q := fun n => Everywhere p [n]) as (fun _ _ _ _ hns hg => hns.get? hg)
    (fun _ _ _ hns => hns.replaceAt hp fun _ _ => nil) h
  exact ⟨.of_mem hout, hleft⟩

mutual

theorem mapText (hp : Hereditary p) (f : Text → Text) {n : Node} (h : Everywhere p [n]) :
    Everywhere p [n.mapText f] := by
  cases n with
  | text d => exact .text (hp.text _)
  | comment d => exact h
  | doctype d => exact h
  | element t c ns =>
    have hempty : ns = [] → Node.mapTexts f ns = [] := by
      rintro rfl
      rfl
    exact .element (hp.refill h.self hempty) h.content (mapTexts hp f h.children)
termination_by structural n

/-- **Texts that are changed.** -/
theorem mapTexts (hp : Hereditary p) (f : Text → Text) {ns : List Node} (h : Everywhere p ns) :
    Everywhere p (Node.mapTexts f ns) := by
  cases ns with
  | nil => exact nil
  | cons n ns => exact (mapText hp f h.head).cons (mapTexts hp f h.tail)
termination_by structural ns

end

end Everywhere

end HtmlCanon.Html
