import HtmlCanon.Html.Arena
import Mathlib.Data.List.Basic

/-!
# Arenas that grow at one end

While a page is read in order, new nodes go below the innermost open element, after all that stands
there. Numbers are given in order, so a closed part of the page keeps to an interval of numbers that
later steps leave alone.

* `Shows` : some nodes show a forest, with numbers from an interval only.
* `Spine` : an arena consists of open elements, each with closed nodes before the next of them.
* `Spine.open_`, `Spine.close`, `Spine.addText` : what opening, closing and writing do to it.
* `Spine.document` : **the finished document**.
-/

namespace HtmlCanon.Html

namespace Arena

variable {a a' : Arena} {lo mid hi k : Nat} {ks ls : List NodeId} {ns ms : List Node}

/-! ### Closed nodes -/

/-- Nodes that show a forest. The numbers of all nodes of it lie in an interval. -/
inductive Shows (a : Arena) : (lo hi : Nat) → List NodeId → List Node → Prop where
  | nil {lo hi : Nat} (h : lo ≤ hi) : Shows a lo hi [] []
  | doctype {lo hi k : Nat} {ks : List NodeId} {d : Doctype} {p : Option NodeId} {ns : List Node}
      (hk : lo ≤ k) (hc : a.cells[k]? = some ⟨.doctype d, p, []⟩) (hs : Shows a (k + 1) hi ks ns) :
      Shows a lo hi (k :: ks) (.doctype d :: ns)
  | text {lo hi k : Nat} {ks : List NodeId} {t : Text} {p : Option NodeId} {ns : List Node}
      (hk : lo ≤ k) (hc : a.cells[k]? = some ⟨.text t, p, []⟩) (hs : Shows a (k + 1) hi ks ns) :
      Shows a lo hi (k :: ks) (.text t :: ns)
  | comment {lo hi k : Nat} {ks : List NodeId} {t : Text} {p : Option NodeId} {ns : List Node}
      (hk : lo ≤ k) (hc : a.cells[k]? = some ⟨.comment t, p, []⟩) (hs : Shows a (k + 1) hi ks ns) :
      Shows a lo hi (k :: ks) (.comment t :: ns)
  | element {lo mid hi k : Nat} {ks ls : List NodeId} {t : Tag} {p : Option NodeId}
      {ns ms : List Node} (hk : lo ≤ k) (hc : a.cells[k]? = some ⟨.element t none, p, ls⟩)
      (hb : Shows a (k + 1) mid ls ms) (hs : Shows a mid hi ks ns) :
      Shows a lo hi (k :: ks) (.element t [] ms :: ns)

namespace Shows

theorem le (h : Shows a lo hi ks ns) : lo ≤ hi := by
  induction h with
  | nil h => exact h
  | doctype hk _ _ ih => omega
  | text hk _ _ ih => omega
  | comment hk _ _ ih => omega
  | element hk _ _ _ ih₁ ih₂ => omega

/-- The interval may reach further up. -/
theorem mono_right {hi' : Nat} (h : Shows a lo hi ks ns) (hh : hi ≤ hi') : Shows a lo hi' ks ns := by
  induction h with
  | nil h => exact .nil (Nat.le_trans h hh)
  | doctype hk hc _ ih => exact .doctype hk hc (ih hh)
  | text hk hc _ ih => exact .text hk hc (ih hh)
  | comment hk hc _ ih => exact .comment hk hc (ih hh)
  | element hk hc hb _ _ ih => exact .element hk hc hb (ih hh)

/-- **Closed nodes depend on their interval only.** -/
theorem congr (h : Shows a lo hi ks ns)
    (hc : ∀ k, lo ≤ k → k < hi → a'.cells[k]? = a.cells[k]?) : Shows a' lo hi ks ns := by
  induction h with
  | nil h => exact .nil h
  | doctype hk hd hs ih =>
    have := hs.le
    exact .doctype hk ((hc _ hk (by omega)).trans hd) (ih fun k h1 h2 => hc k (by omega) h2)
  | text hk ht hs ih =>
    have := hs.le
    exact .text hk ((hc _ hk (by omega)).trans ht) (ih fun k h1 h2 => hc k (by omega) h2)
  | comment hk ht hs ih =>
    have := hs.le
    exact .comment hk ((hc _ hk (by omega)).trans ht) (ih fun k h1 h2 => hc k (by omega) h2)
  | element hk he hb hs ih₁ ih₂ =>
    have := hb.le
    have := hs.le
    exact .element hk ((hc _ hk (by omega)).trans he) (ih₁ fun k h1 h2 => hc k (by omega) (by omega))
      (ih₂ fun k h1 h2 => hc k (by omega) h2)

theorem append (h : Shows a lo mid ks ns) (h' : Shows a mid hi ls ms) :
    Shows a lo hi (ks ++ ls) (ns ++ ms) := by
  induction h with
  | nil h =>
    cases h' with
    | nil h' => exact .nil (Nat.le_trans h h')
    | doctype hk hc hs => exact .doctype (Nat.le_trans h hk) hc hs
    | text hk hc hs => exact .text (Nat.le_trans h hk) hc hs
    | comment hk hc hs => exact .comment (Nat.le_trans h hk) hc hs
    | element hk hc hb hs => exact .element (Nat.le_trans h hk) hc hb hs
  | doctype hk hc _ ih => exact .doctype hk hc (ih h')
  | text hk hc _ ih => exact .text hk hc (ih h')
  | comment hk hc _ ih => exact .comment hk hc (ih h')
  | element hk hc hb _ _ ih => exact .element hk hc hb (ih h')

/-- Nodes can be divided, and their numbers with them. -/
theorem split (h : Shows a lo hi (ks ++ ls) ns) :
    ∃ mid us vs, ns = us ++ vs ∧ Shows a lo mid ks us ∧ Shows a mid hi ls vs := by
  induction ks generalizing lo ns with
  | nil => exact ⟨lo, [], ns, rfl, .nil (Nat.le_refl lo), h⟩
  | cons k ks ih =>
    cases h with
    | doctype hk hc hs =>
      obtain ⟨mid, us, vs, rfl, hu, hv⟩ := ih hs
      exact ⟨mid, _ :: us, vs, rfl, .doctype hk hc hu, hv⟩
    | text hk hc hs =>
      obtain ⟨mid, us, vs, rfl, hu, hv⟩ := ih hs
      exact ⟨mid, _ :: us, vs, rfl, .text hk hc hu, hv⟩
    | comment hk hc hs =>
      obtain ⟨mid, us, vs, rfl, hu, hv⟩ := ih hs
      exact ⟨mid, _ :: us, vs, rfl, .comment hk hc hu, hv⟩
    | element hk hc hb hs =>
      obtain ⟨mid, us, vs, rfl, hu, hv⟩ := ih hs
      exact ⟨mid, _ :: us, vs, rfl, .element hk hc hb hu, hv⟩

end Shows

/-! ### The finished forest -/

/-- The node that a number stands for, to a depth of `n` levels below it. -/
def nodeOf (a : Arena) (n : Nat) (k : NodeId) : Option Node :=
  match a.cells[k]?.map Cell.payload with
  | some (.text t) => some (.text t)
  | some (.comment t) => some (.comment t)
  | some (.doctype d) => some (.doctype d)
  | some (.element t c) => some (.element t (c.elim [] (forest a n)) (forest a n k))
  | _ => none

theorem forest_succ (a : Arena) (n : Nat) (i : NodeId) :
    a.forest (n + 1) i = (a.kids i).filterMap (a.nodeOf n) := rfl

/-- The forest that some nodes show is the one that is read off them at the end. -/
theorem Shows.filterMap_nodeOf (h : Shows a lo hi ks ns) {n : Nat} (hn : hi ≤ lo + n) :
    ks.filterMap (a.nodeOf n) = ns := by
  induction h generalizing n with
  | nil _ => rfl
  | doctype hk hc _ ih => simp [nodeOf, hc, ih (n := n) (by omega)]
  | text hk hc _ ih => simp [nodeOf, hc, ih (n := n) (by omega)]
  | comment hk hc _ ih => simp [nodeOf, hc, ih (n := n) (by omega)]
  | @element lo mid hi k ks ls t p ns ms hk hc hb hs ih₁ ih₂ =>
    have := hb.le
    have := hs.le
    -- the interval of an element is longer than those of its children, so the depth suffices
    obtain ⟨m, rfl⟩ : ∃ m, n = m + 1 := ⟨n - 1, by omega⟩
    have hkids : a.kids k = ls := by simp [kids, hc]
    have hbelow : a.forest (m + 1) k = ms := by
      rw [forest_succ, hkids, ih₁ (n := m) (by omega)]
    have hnode : a.nodeOf (m + 1) k = some (.element t [] ms) := by simp [nodeOf, hc, hbelow]
    rw [List.filterMap_cons_some hnode, ih₂ (n := m + 1) (by omega)]

end Arena

/-! ### Open elements -/

/-- An open element, with the nodes that stand in it before the next open element. -/
structure Frame where
  id : Nat
  tag : Tag
  done : List Node

/-- Puts characters after some nodes. -/
def addText (ns : List Node) (t : Text) : List Node :=
  match ns.getLast? with
  | some (.text u) => ns.dropLast ++ [.text (u ++ t)]
  | _ => ns ++ [.text t]

/-- An open element with one node more in it. -/
def Frame.add (f : Frame) (n : Node) : Frame := { f with done := f.done ++ [n] }

/-- An open element with characters more in it. -/
def Frame.write (f : Frame) (t : Text) : Frame := { f with done := addText f.done t }

/-- The element that an open element becomes once it is closed. -/
def Frame.node (f : Frame) : Node := .element f.tag [] f.done

theorem addText_addText (ns : List Node) (t u : Text) :
    addText (addText ns t) u = addText ns (t ++ u) := by
  unfold addText
  cases h : ns.getLast? with
  | none => simp
  | some n => cases n <;> simp

theorem Frame.write_write (f : Frame) (t u : Text) : (f.write t).write u = f.write (t ++ u) := by
  simp [Frame.write, addText_addText]

namespace Arena

/-- An arena in which `ds` stands at the top and the elements of `fs`, innermost first, are open.
The innermost of them has the children `above` besides, with numbers from `hi` on. -/
def Spine (a : Arena) (ds : List Node) : (hi : Nat) → (above : List NodeId) → List Frame → Prop
  | hi, above, [] => ∃ p ks, a.cells[0]? = some ⟨.root, p, ks ++ above⟩ ∧ a.Shows 1 hi ks ds
  | hi, above, f :: fs =>
    (∃ p ks, a.cells[f.id]? = some ⟨.element f.tag none, p, ks ++ above⟩ ∧
      a.Shows (f.id + 1) hi ks f.done) ∧ Spine a ds f.id [f.id] fs

variable {ds : List Node} {above : List NodeId} {f g : Frame} {fs : List Frame}

namespace Spine

theorem id_lt (h : Spine a ds hi above fs) (hf : f ∈ fs) : f.id < hi := by
  induction fs generalizing hi above with
  | nil => cases hf
  | cons g gs ih =>
    obtain ⟨⟨_, _, _, hs⟩, hrest⟩ := h
    have := hs.le
    rcases List.mem_cons.1 hf with rfl | hf
    · omega
    · have := ih hrest hf; omega

/-- **The open part depends on the numbers below its bound only.** -/
theorem congr (h : Spine a ds hi above fs) (hc : ∀ k < hi, a'.cells[k]? = a.cells[k]?) :
    Spine a' ds hi above fs := by
  induction fs generalizing hi above with
  | nil =>
    obtain ⟨p, ks, h0, hs⟩ := h
    exact ⟨p, ks, (hc 0 hs.le).trans h0, hs.congr fun k _ hk => hc k hk⟩
  | cons f fs ih =>
    obtain ⟨⟨p, ks, hf, hs⟩, hrest⟩ := h
    have := hs.le
    exact ⟨⟨p, ks, (hc _ (by omega)).trans hf, hs.congr fun k _ hk => hc k hk⟩,
      ih hrest fun k hk => hc k (by omega)⟩

/-- Every open element is found by its number. -/
theorem cell (h : Spine a ds hi above fs) (hf : f ∈ fs) :
    ∃ p ks, a.cells[f.id]? = some ⟨.element f.tag none, p, ks⟩ := by
  induction fs generalizing hi above with
  | nil => cases hf
  | cons g gs ih =>
    rcases List.mem_cons.1 hf with rfl | hf
    · obtain ⟨⟨p, ks, hc, _⟩, _⟩ := h
      exact ⟨p, _, hc⟩
    · exact ih h.2 hf

theorem tag? (h : Spine a ds hi above fs) (hf : f ∈ fs) : a.tag? f.id = some f.tag := by
  obtain ⟨p, ks, hc⟩ := h.cell hf
  simp [Arena.tag?, hc]

theorem content? (h : Spine a ds hi above fs) (hf : f ∈ fs) : a.content? f.id = none := by
  obtain ⟨p, ks, hc⟩ := h.cell hf
  simp [Arena.content?, hc]

/-- **Closing the innermost element** makes it the last node of the next one. -/
theorem close (h : Spine a ds hi [] (f :: g :: fs)) : Spine a ds hi [] (g.add f.node :: fs) := by
  obtain ⟨⟨p, ks, hf, hs⟩, ⟨q, ls, hg, hs'⟩, hrest⟩ := h
  rw [List.append_nil] at hf
  refine ⟨⟨q, ls ++ [f.id], by rw [List.append_nil]; exact hg, hs'.append ?_⟩, hrest⟩
  exact .element (Nat.le_refl _) hf hs (.nil (Nat.le_refl _))

end Spine

/-! ### Steps -/

/-- The cells after a new node has become the last child of another. -/
theorem cells_append_add (a : Arena) (pl : Payload) {i : Nat} (hi : i < a.cells.size) (k : Nat) :
    ((a.add pl).1.append i a.cells.size).cells[k]? =
      if k = a.cells.size then some ⟨pl, some i, []⟩
      else if k = i then a.cells[k]?.map fun c => { c with kids := c.kids ++ [a.cells.size] }
      else a.cells[k]? := by
  have hp : (a.add pl).1.parent? a.cells.size = none := by simp [add, parent?]
  have hd : (a.add pl).1.detach a.cells.size = (a.add pl).1 := by simp [detach, hp]
  rw [append, hd]
  by_cases h1 : k = a.cells.size
  · subst h1
    simp only [modify, add, Array.getElem?_modify, Array.getElem?_push, if_true, Nat.ne_of_lt hi,
      if_false]
    rfl
  · by_cases h2 : k = i
    · subst h2
      simp [modify, add, Array.getElem?_modify, Array.getElem?_push, h1, Ne.symm h1]
    · simp [modify, add, Array.getElem?_modify, Array.getElem?_push, h1, h2, Ne.symm h1, Ne.symm h2]

theorem size_append_add (a : Arena) (pl : Payload) (i : Nat) :
    ((a.add pl).1.append i a.cells.size).cells.size = a.cells.size + 1 := by
  have hp : (a.add pl).1.parent? a.cells.size = none := by simp [add, parent?]
  have hd : (a.add pl).1.detach a.cells.size = (a.add pl).1 := by simp [detach, hp]
  rw [append, hd]
  simp [modify, add]

/-- The arena with a new node below the innermost open element, and all else as it was. -/
theorem Spine.below_add (h : Spine a ds a.cells.size [] (f :: fs)) (pl : Payload) :
    let a' := (a.add pl).1.append f.id a.cells.size
    a'.cells[a.cells.size]? = some ⟨pl, some f.id, []⟩ ∧
      ∃ p ks, a'.cells[f.id]? = some ⟨.element f.tag none, p, ks ++ [a.cells.size]⟩ ∧
        a'.Shows (f.id + 1) a.cells.size ks f.done ∧ Spine a' ds f.id [f.id] fs := by
  intro a'
  have hlt : f.id < a.cells.size := h.id_lt List.mem_cons_self
  have hcells := cells_append_add a pl hlt
  obtain ⟨⟨p, ks, hf, hs⟩, hrest⟩ := h
  rw [List.append_nil] at hf
  refine ⟨by rw [hcells, if_pos rfl], p, ks, ?_, hs.congr fun k hk hk' => ?_, hrest.congr fun k hk => ?_⟩
  · rw [hcells, if_neg (Nat.ne_of_lt hlt), if_pos rfl, hf]; rfl
  · rw [hcells, if_neg (by omega), if_neg (by omega)]
  · rw [hcells, if_neg (by omega), if_neg (by omega)]

/-- **Opening an element** below the innermost one. -/
theorem Spine.open_ (h : Spine a ds a.cells.size [] (f :: fs)) (t : Tag) :
    let a' := (a.add (.element t none)).1.append f.id a.cells.size
    Spine a' ds a'.cells.size [] (⟨a.cells.size, t, []⟩ :: f :: fs) := by
  intro a'
  obtain ⟨hnew, p, ks, hf, hs, hrest⟩ := h.below_add (.element t none)
  rw [show a'.cells.size = a.cells.size + 1 from size_append_add a _ f.id]
  exact ⟨⟨some f.id, [], hnew, .nil (Nat.le_refl _)⟩, ⟨p, ks, hf, hs⟩, hrest⟩

/-- A new text below the innermost element. -/
theorem Spine.add_text (h : Spine a ds a.cells.size [] (f :: fs)) (t : Text) :
    let a' := (a.add (.text t)).1.append f.id a.cells.size
    Spine a' ds a'.cells.size [] (f.add (.text t) :: fs) := by
  intro a'
  obtain ⟨hnew, p, ks, hf, hs, hrest⟩ := h.below_add (.text t)
  rw [show a'.cells.size = a.cells.size + 1 from size_append_add a _ f.id]
  refine ⟨⟨p, ks ++ [a.cells.size], by rw [List.append_nil]; exact hf, hs.append ?_⟩, hrest⟩
  exact .text (Nat.le_refl _) hnew (.nil (Nat.le_refl _))

/-- **A new comment** below the innermost element. -/
theorem Spine.add_comment (h : Spine a ds a.cells.size [] (f :: fs)) (t : Text) :
    let a' := (a.add (.comment t)).1.append f.id a.cells.size
    Spine a' ds a'.cells.size [] (f.add (.comment t) :: fs) := by
  intro a'
  obtain ⟨hnew, p, ks, hf, hs, hrest⟩ := h.below_add (.comment t)
  rw [show a'.cells.size = a.cells.size + 1 from size_append_add a _ f.id]
  refine ⟨⟨p, ks ++ [a.cells.size], by rw [List.append_nil]; exact hf, hs.append ?_⟩, hrest⟩
  exact .comment (Nat.le_refl _) hnew (.nil (Nat.le_refl _))

/-- What the last child of the innermost element is to further characters. -/
theorem Shows.extendText? (h : Shows a lo hi ks ns) (t : Text) :
    (a.extendText? ks.getLast? t = none ∧ ∀ u, ns.getLast? ≠ some (.text u)) ∨
      ∃ k ls ms u p, ks = ls ++ [k] ∧ ns = ms ++ [.text u] ∧ lo ≤ k ∧ k < hi ∧
        a.cells[k]? = some ⟨.text u, p, []⟩ ∧ Shows a lo k ls ms ∧
        a.extendText? ks.getLast? t = some (a.modify k fun c => { c with payload := .text (u ++ t) }) := by
  rcases List.eq_nil_or_concat ks with rfl | ⟨ls, k, rfl⟩
  · cases h
    exact .inl ⟨rfl, by simp⟩
  · rw [List.concat_eq_append] at h
    obtain ⟨mid, us, vs, rfl, hu, hv⟩ := h.split
    have hlo := hu.le
    cases hv with
    | doctype hk hc hs =>
      cases hs
      exact .inl ⟨by simp [Arena.extendText?, hc], by simp⟩
    | @text _ _ _ _ u p _ hk hc hs =>
      have := hs.le
      cases hs
      refine .inr ⟨k, ls, us, u, p, by simp, rfl, by omega, by omega, hc, hu.mono_right hk, ?_⟩
      simp [Arena.extendText?, hc]
    | comment hk hc hs =>
      cases hs
      exact .inl ⟨by simp [Arena.extendText?, hc], by simp⟩
    | element hk hc hb hs =>
      cases hs
      exact .inl ⟨by simp [Arena.extendText?, hc], by simp⟩

/-- **Writing characters** below the innermost element. -/
theorem Spine.addText (h : Spine a ds a.cells.size [] (f :: fs)) (t : Text) :
    Spine (a.appendText f.id t) ds (a.appendText f.id t).cells.size [] (f.write t :: fs) := by
  have hlt : f.id < a.cells.size := h.id_lt List.mem_cons_self
  obtain ⟨⟨p, ks, hf, hs⟩, hrest⟩ := id h
  rw [List.append_nil] at hf
  have hkids : a.kids f.id = ks := by simp [kids, hf]
  rcases hs.extendText? t with ⟨hnone, hlast⟩ | ⟨k, ls, ms, u, q, hks, hdone, hk, hk', hc, hms, hsome⟩
  · -- the last child is no text: a new one is made
    have hw : f.write t = f.add (.text t) := by
      unfold Frame.write Frame.add Html.addText
      split
      · rename_i u hu; exact absurd hu (hlast u)
      · rfl
    unfold appendText
    rw [hkids, hnone, hw]
    exact h.add_text t
  · -- the last child is a text: its cell is the only one that changes
    have hw : f.write t = { f with done := ms ++ [.text (u ++ t)] } := by
      simp [Frame.write, Html.addText, hdone]
    have hne : f.id ≠ k := by omega
    unfold appendText
    rw [hkids, hsome, hw]
    have hcells : ∀ j, j ≠ k →
        (a.modify k fun c => { c with payload := .text (u ++ t) }).cells[j]? = a.cells[j]? := by
      intro j hj
      simp [modify, Array.getElem?_modify, Ne.symm hj]
    refine ⟨⟨p, ks, ?_, ?_⟩, hrest.congr fun j hj => hcells j (by omega)⟩
    · rw [hcells _ hne, hf, List.append_nil]
    · have hsize : (a.modify k fun c => { c with payload := .text (u ++ t) }).cells.size =
          a.cells.size := by simp [modify]
      rw [hks, hsize]
      refine (hms.congr fun j _ hj => hcells j (by omega)).append ?_
      exact .text (p := q) (Nat.le_refl _) (by simp [modify, Array.getElem?_modify, hc]) (.nil hk')

/-- **The finished document** of an arena in which only one element is open. -/
theorem Spine.document (h : Spine a ds a.cells.size [] [f]) : a.document = ds ++ [f.node] := by
  obtain ⟨⟨p, ks, hf, hs⟩, q, ls, h0, hds⟩ := h
  rw [List.append_nil] at hf
  have hall : a.Shows 1 a.cells.size (ls ++ [f.id]) (ds ++ [f.node]) :=
    hds.append (.element (Nat.le_refl _) hf hs (.nil (Nat.le_refl _)))
  have hle := hall.le
  obtain ⟨n, hn⟩ : ∃ n, a.cells.size = n + 1 := ⟨a.cells.size - 1, by omega⟩
  have hkids : a.kids 0 = ls ++ [f.id] := by simp [kids, h0]
  rw [Arena.document, hn, forest_succ, hkids]
  exact hall.filterMap_nodeOf (by omega)

end Arena

end HtmlCanon.Html
