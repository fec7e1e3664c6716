import HtmlCanon.Edit.Region
import HtmlCanon.Proofs.Html.Within
import Mathlib.Data.List.Basic

/-!
# Finding nodes and taking them out

A selector that looks at elements alone describes an element by its tag, wherever it stands. The
addresses that it gives are then found by going down the forest, and what is taken out at such
addresses is found in the same way.

* `Css.Selector.select_own` : a selector that looks at elements alone gives the addresses of elements
  with certain tags.
* `Html.Forest.extract_append` : addresses that come later are taken out first.
* `Html.Forest.extract_next`, `Html.Forest.extract_below` : taking out touches one branch only.
* `Html.Forest.get?_of_mem_hits`, `Html.Forest.isTagged_extract` : **whatever the selector, elements
  are found and taken out**.
-/

namespace HtmlCanon

namespace Html

/-- Whether a node is an element with a tag of some sort. -/
def Node.isTagged (f : Tag → Bool) (n : Node) : Bool := n.tag?.any f

namespace Forest

/-! ### Addresses, branch by branch -/

mutual

/-- The addresses of the elements of some sort at or below a node with the given number. -/
def hitsAt (f : Tag → Bool) (k : Nat) : Node → List Address
  | .element t _ ns => (if f t then [[k]] else []) ++ (hits f 0 ns).map (k :: ·)
  | _ => []

/-- The addresses of the elements of some sort in a forest whose nodes are counted from `k` on. -/
def hits (f : Tag → Bool) (k : Nat) : List Node → List Address
  | [] => []
  | n :: ns => hitsAt f k n ++ hits f (k + 1) ns

end

/-- The address of the same node when one more node stands before it. -/
def next : Address → Address
  | [] => []
  | k :: a => (k + 1) :: a

variable {f : Tag → Bool}

theorem length_next (a : Address) : (next a).length = a.length := by cases a <;> rfl

theorem hitsAt_succ (k : Nat) (n : Node) : hitsAt f (k + 1) n = (hitsAt f k n).map next := by
  cases n with
  | element t c ns =>
    rw [hitsAt, hitsAt, List.map_append, List.map_map]
    congr 1
    split <;> rfl
  | _ => rfl

theorem hits_succ (k : Nat) (ns : List Node) : hits f (k + 1) ns = (hits f k ns).map next := by
  induction ns generalizing k with
  | nil => rfl
  | cons n ns ih => rw [hits, hits, List.map_append, hitsAt_succ, ih]

/-- The addresses at or below a node begin with its number. -/
theorem head_of_mem_hitsAt {k : Nat} {n : Node} {a : Address} (h : a ∈ hitsAt f k n) :
    ∃ b, a = k :: b := by
  cases n with
  | element t c ns =>
    rcases List.mem_append.1 h with h | h
    · split at h
      · exact ⟨[], List.mem_singleton.1 h⟩
      · cases h
    · obtain ⟨b, _, rfl⟩ := List.mem_map.1 h
      exact ⟨b, rfl⟩
  | _ => cases h

theorem head_of_mem_hits {k : Nat} {ns : List Node} {a : Address} (h : a ∈ hits f k ns) :
    ∃ j b, k ≤ j ∧ a = j :: b := by
  induction ns generalizing k with
  | nil => cases h
  | cons n ns ih =>
    rcases List.mem_append.1 h with h | h
    · obtain ⟨b, rfl⟩ := head_of_mem_hitsAt h
      exact ⟨k, b, Nat.le_refl k, rfl⟩
    · obtain ⟨j, b, hj, rfl⟩ := ih h
      exact ⟨j, b, Nat.le_of_succ_le hj, rfl⟩

theorem ne_nil_of_mem_hits {k : Nat} {ns : List Node} {a : Address} (h : a ∈ hits f k ns) : a ≠ [] := by
  obtain ⟨j, b, _, rfl⟩ := head_of_mem_hits h
  exact List.cons_ne_nil j b

/-! ### The node at an address -/

theorem get?_zero (n : Node) (ns : List Node) : get? [0] (n :: ns) = some n := by rw [get?]

theorem get?_next {a : Address} (ha : a ≠ []) (n : Node) (ns : List Node) :
    get? (next a) (n :: ns) = get? a ns := by
  cases a with
  | nil => exact absurd rfl ha
  | cons k a => rw [next, get?]

theorem get?_below {a : Address} (ha : a ≠ []) (n : Node) (ns : List Node) :
    get? (0 :: a) (n :: ns) = get? a n.children := by
  cases a with
  | nil => exact absurd rfl ha
  | cons i a => rw [get?]

/-- What is at or below the first node does not depend on the nodes behind it. -/
theorem get?_first (a : Address) (n : Node) (ns ms : List Node) :
    get? (0 :: a) (n :: ns) = get? (0 :: a) (n :: ms) := by
  cases a with
  | nil => rw [get?_zero, get?_zero]
  | cons i a => rw [get?_below (List.cons_ne_nil i a), get?_below (List.cons_ne_nil i a)]

theorem replaceAt_zero (g : Node → List Node) (n : Node) (ns : List Node) :
    replaceAt g [0] (n :: ns) = g n ++ ns := by rw [replaceAt]

theorem replaceAt_next (g : Node → List Node) {a : Address} (ha : a ≠ []) (n : Node)
    (ns : List Node) : replaceAt g (next a) (n :: ns) = n :: replaceAt g a ns := by
  cases a with
  | nil => exact absurd rfl ha
  | cons k a => rw [next, replaceAt]

theorem replaceAt_below (g : Node → List Node) {a : Address} (ha : a ≠ []) (t : Tag)
    (c cs ns : List Node) :
    replaceAt g (0 :: a) (.element t c cs :: ns) = .element t c (replaceAt g a cs) :: ns := by
  cases a with
  | nil => exact absurd rfl ha
  | cons i a => rw [replaceAt]

/-! ### Taking nodes out -/

/-- **Addresses that come later are taken out first.** -/
theorem extract_append (as bs : List Address) (ns : List Node) :
    extract (as ++ bs) ns =
      ((extract as (extract bs ns).2).1 ++ (extract bs ns).1, (extract as (extract bs ns).2).2) := by
  induction as with
  | nil => rfl
  | cons a as ih =>
    rw [List.cons_append, extract_cons, extract_cons, ih]
    dsimp only
    cases get? a (extract as (extract bs ns).2).2 <;> rfl

/-- Taking out among the nodes behind the first one leaves the first one alone. -/
theorem extract_next {as : List Address} (h : ∀ a ∈ as, a ≠ []) (n : Node) (ns : List Node) :
    extract (as.map next) (n :: ns) = ((extract as ns).1, n :: (extract as ns).2) := by
  induction as with
  | nil => rfl
  | cons a as ih =>
    have ha := h a List.mem_cons_self
    rw [List.map_cons, extract_cons, extract_cons, ih fun b hb => h b (List.mem_cons_of_mem _ hb)]
    dsimp only
    rw [get?_next ha, replaceAt_next _ ha]
    cases get? a (extract as ns).2 <;> rfl

/-- Taking out below the first node leaves the others alone. -/
theorem extract_below {as : List Address} (h : ∀ a ∈ as, a ≠ []) (t : Tag) (c cs ns : List Node) :
    extract (as.map (0 :: ·)) (.element t c cs :: ns) =
      ((extract as cs).1, .element t c (extract as cs).2 :: ns) := by
  induction as with
  | nil => rfl
  | cons a as ih =>
    have ha := h a List.mem_cons_self
    rw [List.map_cons, extract_cons, extract_cons, ih fun b hb => h b (List.mem_cons_of_mem _ hb)]
    dsimp only
    rw [get?_below ha, replaceAt_below _ ha, Node.children]
    cases get? a (extract as cs).2 <;> rfl

end Forest

end Html

/-! ### Selectors that look at elements alone -/

namespace Css

open Html

/-- Whether a condition looks at the tag of an element and at nothing around it. -/
def Condition.isOwn : Condition → Bool
  | .type _ => true
  | .universal => true
  | .noNamespace => true
  | .id _ => true
  | .classToken _ => true
  | .attribute .. => true
  | _ => false

/-- Whether a selector is a list of alternatives without combinators, each of conditions that look at
tags. -/
def Selector.isOwn (s : Selector) : Bool :=
  s.all fun c => c.before.isEmpty && c.conditions.all Condition.isOwn

/-- Whether a selector that looks at tags describes the elements with a tag. -/
def Selector.fitsTag (s : Selector) (t : Tag) : Bool :=
  s.any fun c => Condition.allHold [] t c.conditions

theorem Condition.holds_own {c : Condition} (h : c.isOwn = true) (u v : Trail) (t : Tag) :
    c.holds u t = c.holds v t := by
  cases c <;> first | rfl | cases h

theorem Condition.allHold_own {cs : List Condition} (h : cs.all Condition.isOwn = true)
    (u v : Trail) (t : Tag) : Condition.allHold u t cs = Condition.allHold v t cs := by
  induction cs with
  | nil => rfl
  | cons c cs ih =>
    rw [List.all_cons, Bool.and_eq_true] at h
    rw [allHold, allHold, holds_own h.1 u v, ih h.2]

/-- **A selector that looks at tags** does not care where an element stands. -/
theorem Selector.describes_own {s : Selector} (h : s.isOwn = true) (l : Level) (up : Trail) :
    s.describes (l :: up) = l.here.isTagged s.fitsTag := by
  have halt : ∀ c ∈ s, c.describes (l :: up) =
      l.here.tag?.any fun t => Condition.allHold [] t c.conditions := by
    intro c hc
    have hown := List.all_eq_true.1 h c hc
    rw [Bool.and_eq_true] at hown
    obtain ⟨hbefore, hconds⟩ := hown
    have hnone : fitsBefore (l :: up) c.before = true := by
      rw [List.isEmpty_iff.1 hbefore, fitsBefore]
    rw [Complex.describes, hnone, Bool.and_true, fits, Trail.tag?]
    cases l.here.tag? with
    | none => rfl
    | some t => exact Condition.allHold_own hconds _ _ t
  -- alternatives are compared one by one, since the equation holds for those of the selector only
  have hany : s.describes (l :: up) =
      s.any fun c => l.here.tag?.any fun t => Condition.allHold [] t c.conditions := by
    rw [Selector.describes, Bool.eq_iff_iff, List.any_eq_true, List.any_eq_true]
    constructor
    · rintro ⟨c, hc, hd⟩
      exact ⟨c, hc, halt c hc ▸ hd⟩
    · rintro ⟨c, hc, hd⟩
      exact ⟨c, hc, (halt c hc).trans hd⟩
  rw [hany, Node.isTagged]
  cases l.here.tag? with
  | none => simp
  | some t => rfl

end Css

namespace Html.Forest

open Css

theorem address_cons (l : Level) (up : Trail) :
    Trail.address (l :: up) = up.address ++ [l.before.length] := by
  simp [Trail.address]

variable {s : Selector}

mutual

theorem trailsAt_own (h : s.isOwn = true) (up : Trail) (before : List Node) (n : Node)
    (after : List Node) :
    ((trailsAt up before n after).filter s.describes).map Trail.address =
      (hitsAt s.fitsTag before.length n).map (up.address ++ ·) := by
  have hhere := Selector.describes_own h ⟨before, n, after⟩ up
  cases n with
  | element t c ns =>
    have hbelow := trailsFrom_own h (⟨before, .element t c ns, after⟩ :: up) [] ns
    rw [address_cons] at hbelow
    simp only [List.length_nil, List.append_assoc, List.singleton_append] at hbelow
    rw [trailsAt, List.filter_cons, hitsAt, hhere]
    show (List.map Trail.address (if s.fitsTag t = true then _ else _)) = _
    split <;> simp [address_cons, hbelow, Function.comp_def]
  | text d => simp [trailsAt, hitsAt, hhere, Node.isTagged, Node.tag?]
  | comment d => simp [trailsAt, hitsAt, hhere, Node.isTagged, Node.tag?]
  | doctype d => simp [trailsAt, hitsAt, hhere, Node.isTagged, Node.tag?]

theorem trailsFrom_own (h : s.isOwn = true) (up : Trail) (before ns : List Node) :
    ((trailsFrom up before ns).filter s.describes).map Trail.address =
      (hits s.fitsTag before.length ns).map (up.address ++ ·) := by
  cases ns with
  | nil => rfl
  | cons n ns =>
    rw [trailsFrom, List.filter_append, List.map_append, hits, List.map_append,
      trailsAt_own h up before n ns, trailsFrom_own h up (n :: before) ns, List.length_cons]

end

/-- **A selector that looks at tags** gives the addresses of the elements with such tags. -/
theorem select_own (h : s.isOwn = true) (ns : List Node) : s.select ns = hits s.fitsTag 0 ns := by
  have hall := trailsFrom_own h [] [] ns
  simp only [Trail.address, List.map_nil, List.reverse_nil, List.nil_append, List.map_id'] at hall
  exact hall

/-! ### Any selector -/

/-- The selector of all elements. -/
def anyElement : Selector := [⟨[.universal], []⟩]

theorem describes_anyElement (h : Trail) : anyElement.describes h = h.tag?.isSome := by
  rw [anyElement, Selector.describes, List.any_cons, List.any_nil, Bool.or_false,
    Complex.describes, fitsBefore, Bool.and_true, Css.fits]
  cases h.tag? <;> rfl

/-- **A selector gives addresses of elements** in document order. -/
theorem select_sublist (s : Selector) (ns : List Node) :
    (s.select ns).Sublist (hits (fun _ => true) 0 ns) := by
  have hall : anyElement.select ns = hits (fun _ => true) 0 ns := select_own rfl ns
  rw [← hall]
  refine List.Sublist.map _ (List.monotone_filter_right _ fun here hs => ?_)
  -- what a selector describes has a tag
  obtain ⟨c, -, hc⟩ := List.any_eq_true.1 hs
  rw [describes_anyElement]
  rw [Complex.describes, Css.fits] at hc
  cases ht : here.tag? with
  | some t => rfl
  | none => simp [ht] at hc

mutual

theorem get?_of_mem_hitsAt {a : Address} {n : Node} (h : a ∈ hitsAt f 0 n) (ns : List Node) :
    ∃ m, get? a (n :: ns) = some m ∧ m.isTagged f = true := by
  cases n with
  | element t c cs =>
    rcases List.mem_append.1 h with h | h
    · split at h
      · rename_i ht
        obtain rfl := List.mem_singleton.1 h
        exact ⟨_, get?_zero _ ns, ht⟩
      · cases h
    · obtain ⟨b, hb, rfl⟩ := List.mem_map.1 h
      rw [get?_below (ne_nil_of_mem_hits hb)]
      exact get?_of_mem_hits hb
  | _ => cases h
termination_by structural n

/-- **What stands at the address of an element** is an element. -/
theorem get?_of_mem_hits {a : Address} {ns : List Node} (h : a ∈ hits f 0 ns) :
    ∃ m, get? a ns = some m ∧ m.isTagged f = true := by
  cases ns with
  | nil => cases h
  | cons n ns =>
    rcases List.mem_append.1 h with h | h
    · exact get?_of_mem_hitsAt h ns
    · rw [hits_succ] at h
      obtain ⟨b, hb, rfl⟩ := List.mem_map.1 h
      rw [get?_next (ne_nil_of_mem_hits hb)]
      exact get?_of_mem_hits hb
termination_by structural ns

end

mutual

theorem isTagged_extractAt {as : List Address} {n : Node} (h : as.Sublist (hitsAt f 0 n))
    (ns : List Node) : ∀ m ∈ (extract as (n :: ns)).1, m.isTagged f = true := by
  cases n with
  | element t c cs =>
    obtain ⟨as₁, as₂, rfl, h₁, h₂⟩ := List.sublist_append_iff.1 h
    obtain ⟨bs, hbs, rfl⟩ := List.sublist_map_iff.1 h₂
    have hne : ∀ a ∈ bs, a ≠ [] := fun a ha => ne_nil_of_mem_hits (hbs.mem ha)
    intro m hm
    rw [extract_append, extract_below hne] at hm
    rcases List.mem_append.1 hm with hm | hm
    · -- the element itself, after what lies below it
      split at h₁
      · rename_i ht
        rcases List.sublist_singleton.1 h₁ with rfl | rfl
        · cases hm
        · rw [extract_cons, extract_nil, get?_zero] at hm
          obtain rfl := List.mem_singleton.1 hm
          exact ht
      · rw [List.sublist_nil.1 h₁] at hm
        cases hm
    · exact isTagged_extract hbs m hm
  | _ =>
    rw [show as = [] from List.sublist_nil.1 h]
    nofun
termination_by structural n

/-- **What is taken out at addresses of elements** are elements. -/
theorem isTagged_extract {as : List Address} {ns : List Node} (h : as.Sublist (hits f 0 ns)) :
    ∀ m ∈ (extract as ns).1, m.isTagged f = true := by
  cases ns with
  | nil =>
    rw [show as = [] from List.sublist_nil.1 h]
    nofun
  | cons n ns =>
    obtain ⟨as₁, as₂, rfl, h₁, h₂⟩ := List.sublist_append_iff.1 h
    rw [hits_succ] at h₂
    obtain ⟨bs, hbs, rfl⟩ := List.sublist_map_iff.1 h₂
    intro m hm
    rw [extract_append, extract_next fun a ha => ne_nil_of_mem_hits (hbs.mem ha)] at hm
    rcases List.mem_append.1 hm with hm | hm
    · exact isTagged_extractAt h₁ _ m hm
    · exact isTagged_extract hbs m hm
termination_by structural ns

end

/-- Addresses that lie below no other one were there before. -/
theorem mem_of_mem_outermost {a : Address} {as : List Address} (h : a ∈ outermost as) : a ∈ as := by
  have hall : ∀ bs kept : List Address,
      a ∈ bs.foldl (fun kept b => if kept.any (·.isPrefixOf b) then kept else b :: kept) kept →
        a ∈ kept ∨ a ∈ bs := by
    intro bs
    induction bs with
    | nil => exact fun kept h => .inl h
    | cons b bs ih =>
      intro kept hm
      rcases ih _ hm with hm | hm
      · dsimp only at hm
        split at hm
        · exact .inl hm
        · rcases List.mem_cons.1 hm with rfl | hm
          · exact .inr List.mem_cons_self
          · exact .inl hm
      · exact .inr (List.mem_cons_of_mem b hm)
  exact (hall as [] (List.mem_reverse.1 h)).resolve_left nofun

theorem isElement_of_isTagged {n : Node} (h : n.isTagged f = true) : n.isElement = true := by
  cases n with
  | element t c ns => rfl
  | _ => cases h

end Html.Forest

end HtmlCanon
