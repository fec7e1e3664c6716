import HtmlCanon.Proofs.Edit.Origin
import Mathlib.Data.List.Infix

/-!
# Edits at addresses are a pass

The nodes at some addresses are edited one after the other, the last one first. Whatever the edit is,
this is one pass over the forest, which edits an element after what is below it.

* `Forest.eq_filter_hits` : addresses in document order are told by which of them are there.
* `Forest.replaceAll_editFrom` : edits of marked elements, branch by branch.
* `Forest.replaceAll_eq_editFrom` : **edits at addresses of elements are a pass**.
-/

namespace HtmlCanon.Html

open Forest

namespace Placed

/-- The address of the same node when `k` more nodes stand before it. -/
def shift (k : Nat) : Address → Address
  | [] => []
  | j :: b => (k + j) :: b

theorem shift_next (k : Nat) (a : Address) : shift k (next a) = shift (k + 1) a := by
  cases a with
  | nil => rfl
  | cons j b =>
    show (k + (j + 1)) :: b = (k + 1 + j) :: b
    rw [Nat.add_right_comm, Nat.add_assoc]

theorem shift_zero (a : Address) : shift 0 a = a := by
  cases a with
  | nil => rfl
  | cons j b => rw [shift, Nat.zero_add]

theorem replaceAll_append (f : Node → List Node) (as bs : List Address) (ns : List Node) :
    replaceAll f (as ++ bs) ns = replaceAll f as (replaceAll f bs ns) :=
  List.foldr_append

/-- Edits among the nodes behind the first one leave the first one alone. -/
theorem replaceAll_next (f : Node → List Node) {as : List Address} (h : ∀ a ∈ as, a ≠ []) (n : Node)
    (ns : List Node) : replaceAll f (as.map next) (n :: ns) = n :: replaceAll f as ns := by
  induction as with
  | nil => rfl
  | cons a as ih =>
    show replaceAt f (next a) (replaceAll f (as.map next) (n :: ns)) = _
    rw [ih fun b hb => h b (List.mem_cons_of_mem a hb), replaceAt_next f (h a List.mem_cons_self)]
    rfl

/-- Edits below the first node leave the others alone. -/
theorem replaceAll_below (f : Node → List Node) {as : List Address} (h : ∀ a ∈ as, a ≠ []) (t : Tag)
    (c cs ns : List Node) :
    replaceAll f (as.map (0 :: ·)) (.element t c cs :: ns) =
      .element t c (replaceAll f as cs) :: ns := by
  induction as with
  | nil => rfl
  | cons a as ih =>
    show replaceAt f (0 :: a) (replaceAll f (as.map (0 :: ·)) (.element t c cs :: ns)) = _
    rw [ih fun b hb => h b (List.mem_cons_of_mem a hb), replaceAt_below f (h a List.mem_cons_self)]
    rfl

end Placed

namespace Forest

open Placed

/-- A list of addresses in document order is told by which of them are in it. -/
theorem eq_filter_hits {as : List Address} {ns : List Node}
    (h : as.Sublist (hits (fun _ => true) 0 ns)) :
    (hits (fun _ => true) 0 ns).filter as.contains = as := by
  have hnodup : (hits (fun _ => true) 0 ns).Nodup := by
    have hall := hits_eq (f := fun _ => true) [] 0 ns
    simp only [List.nil_append, List.map_id'] at hall
    rw [← hall]
    exact (nodup_sources [] 0 ns).sublist (List.filter_sublist.map _)
  have hself : as.filter as.contains = as :=
    List.filter_eq_self.2 fun a ha => List.contains_iff_mem.2 ha
  -- both have the same members, each once
  have hsub : as.Sublist ((hits (fun _ => true) 0 ns).filter as.contains) := by
    have hfilter := h.filter as.contains
    rwa [hself] at hfilter
  have hmem : (hits (fun _ => true) 0 ns).filter as.contains ⊆ as :=
    fun a ha => List.contains_iff_mem.1 (List.mem_filter.1 ha).2
  exact (hsub.eq_of_length_le (List.subperm_of_subset (hnodup.filter _) hmem).length_le).symm

/-! ### One pass -/

variable (g : Node → List Node) (m : Address → Bool)

mutual

/-- What stands in place of a node when the marked elements at or below it are edited; an element is
edited after what is below it. -/
def editAt (a : Address) : Node → List Node
  | .element t c ns =>
    if m a then g (.element t c (editFrom a 0 ns)) else [.element t c (editFrom a 0 ns)]
  | n => [n]

/-- A forest below an address, counted from `k` on, with its marked elements edited. -/
def editFrom (up : Address) (k : Nat) : List Node → List Node
  | [] => []
  | n :: ns => editAt (up ++ [k]) n ++ editFrom up (k + 1) ns

end

mutual

theorem replaceAll_editAt (up : Address) (k : Nat) (n : Node) (ns : List Node) :
    replaceAll g ((hitsAt (fun _ => true) 0 n).filter fun a => m (up ++ shift k a)) (n :: ns) =
      editAt g m (up ++ [k]) n ++ ns := by
  cases n with
  | element t c cs =>
    -- the edits below come last in the list, so they are made first
    have hcs := replaceAll_editFrom (up ++ [k]) 0 cs
    have hne : ∀ a ∈ (hits (fun _ => true) 0 cs).filter fun a => m (up ++ [k] ++ shift 0 a), a ≠ [] :=
      fun a ha => ne_nil_of_mem_hits (List.mem_filter.1 ha).1
    have hbelow : ((fun a => m (up ++ shift k a)) ∘ (0 :: ·)) =
        fun a => m (up ++ [k] ++ shift 0 a) := by
      funext a
      rw [Function.comp_apply, shift, shift_zero, List.append_assoc, List.singleton_append, Nat.add_zero]
    rw [hitsAt, if_pos rfl, List.filter_append, List.filter_map, hbelow, replaceAll_append,
      replaceAll_below _ hne, hcs, List.filter_singleton, shift, Nat.add_zero, editAt]
    cases m (up ++ [k]) with
    | true => exact replaceAt_zero g _ ns
    | false => rfl
  | _ => rfl

/-- **Edits of marked elements**, those that are marked by where they stand. -/
theorem replaceAll_editFrom (up : Address) (k : Nat) (ns : List Node) :
    replaceAll g ((hits (fun _ => true) 0 ns).filter fun a => m (up ++ shift k a)) ns =
      editFrom g m up k ns := by
  cases ns with
  | nil => rfl
  | cons n ns =>
    have hns := replaceAll_editFrom up (k + 1) ns
    have hne : ∀ a ∈ (hits (fun _ => true) 0 ns).filter fun a => m (up ++ shift (k + 1) a), a ≠ [] :=
      fun a ha => ne_nil_of_mem_hits (List.mem_filter.1 ha).1
    have hbehind : ((fun a => m (up ++ shift k a)) ∘ next) = fun a => m (up ++ shift (k + 1) a) := by
      funext a
      rw [Function.comp_apply, shift_next]
    rw [hits, hits_succ, List.filter_append, List.filter_map, hbehind, replaceAll_append,
      replaceAll_next _ hne, hns, editFrom]
    exact replaceAll_editAt up k n _

end

/-- **Edits at addresses of elements are a pass.** -/
theorem replaceAll_eq_editFrom {as : List Address} {ns : List Node}
    (h : as.Sublist (hits (fun _ => true) 0 ns)) :
    replaceAll g as ns = editFrom g as.contains [] 0 ns := by
  have hmarks : (fun a => as.contains ([] ++ shift 0 a)) = as.contains := by
    funext a
    rw [List.nil_append, shift_zero]
  have hpass := replaceAll_editFrom g as.contains [] 0 ns
  rwa [hmarks, eq_filter_hits h] at hpass

end Forest

end HtmlCanon.Html
