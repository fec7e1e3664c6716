import HtmlCanon.Proofs.Edit.Lift
import Mathlib.Data.List.Nodup

/-!
# What a selector keeps of a page

An excerpt of a page holds the elements that a selector describes. One that lies below another stays
in it, so only those that lie below no other one come to the top. The test for this looks at the
elements that have been kept so far, which is enough since elements come in document order.

* `Placed.mem_ancestors` : what is above an address.
* `Forest.pairwise_hits` : in document order no element comes before one that it lies below.
* `Forest.outermost_eq` : **elements that lie below no other one**, told by what each of them is below.
* `Placed.nodesAll_tops` : what they hold together.
* `Page.excerpt_tops` : **the excerpt of a page.**
-/

namespace HtmlCanon

open Html Html.Forest

namespace Html

/-! ### What is above an address -/

namespace Placed

/-- The addresses of the nodes above an address, the nearest first. -/
def ancestors (a : Address) : List Address := a.inits.tail.dropLast.reverse

theorem tail_inits_concat (up : Address) (k : Nat) :
    (up ++ [k]).inits.tail = up.inits.tail ++ [up ++ [k]] := by
  cases up with
  | nil => rfl
  | cons j up => simp [List.inits_append]

theorem mem_tail_inits {a b : Address} : b ∈ a.inits.tail ↔ b ≠ [] ∧ b <+: a := by
  cases a with
  | nil => simp
  | cons k a =>
    rw [List.inits_cons, List.tail_cons, List.mem_map]
    constructor
    · rintro ⟨c, hc, rfl⟩
      exact ⟨List.cons_ne_nil k c, List.cons_prefix_cons.2 ⟨rfl, (List.mem_inits c a).1 hc⟩⟩
    · rintro ⟨hne, hb⟩
      obtain ⟨j, c, rfl⟩ := List.exists_cons_of_ne_nil hne
      obtain ⟨rfl, hc⟩ := List.cons_prefix_cons.1 hb
      exact ⟨c, (List.mem_inits c a).2 hc, rfl⟩

theorem ancestors_concat (up : Address) (k : Nat) :
    ancestors (up ++ [k]) = up.inits.tail.reverse := by
  rw [ancestors, tail_inits_concat, List.dropLast_concat]

/-- **What is above an address** are the addresses that it goes through. -/
theorem mem_ancestors {a b : Address} : b ∈ ancestors a ↔ b ≠ [] ∧ b <+: a ∧ b ≠ a := by
  rcases List.eq_nil_or_concat a with rfl | ⟨up, k, rfl⟩
  · have hnone : ancestors [] = [] := rfl
    rw [hnone]
    simp
  · rw [List.concat_eq_append, ancestors_concat, List.mem_reverse, mem_tail_inits,
      List.prefix_concat_iff]
    refine and_congr_right fun _ => ⟨fun h => ⟨.inr h, ?_⟩, fun h => h.1.resolve_left h.2⟩
    rintro rfl
    have hlen := h.length_le
    rw [List.length_append, List.length_singleton] at hlen
    omega

/-! ### Marked addresses -/

/-- Whether an address lies below a marked one. -/
def isCovered (m : Address → Bool) (a : Address) : Bool := (ancestors a).any m

/-- Whether an address is a marked one that lies below no other. -/
def isTop (m : Address → Bool) (a : Address) : Bool := m a && !isCovered m a

/-- Whether an address is a marked one or lies below one. -/
def isWithin (m : Address → Bool) (a : Address) : Bool := a.inits.tail.any m

variable {m : Address → Bool}

theorem isCovered_iff {a : Address} :
    isCovered m a = true ↔ ∃ b ≠ [], b <+: a ∧ b ≠ a ∧ m b = true := by
  simp only [isCovered, List.any_eq_true, mem_ancestors, ne_eq, and_assoc]

theorem isWithin_iff {a : Address} : isWithin m a = true ↔ ∃ b ≠ [], b <+: a ∧ m b = true := by
  simp only [isWithin, List.any_eq_true, mem_tail_inits, ne_eq, and_assoc]

theorem isCovered_concat (up : Address) (k : Nat) : isCovered m (up ++ [k]) = isWithin m up := by
  rw [isCovered, ancestors_concat, List.any_reverse, isWithin]

theorem isWithin_concat (up : Address) (k : Nat) :
    isWithin m (up ++ [k]) = (isWithin m up || m (up ++ [k])) := by
  rw [isWithin, tail_inits_concat, List.any_append, List.any_cons, List.any_nil, Bool.or_false,
    isWithin]

/-- What is below something that is marked or below a marked one is itself below a marked one. -/
theorem isWithin.below {a : Address} (h : isWithin m a = true) (j : Nat) (b : Address) :
    isCovered m (a ++ j :: b) = true ∧ isWithin m (a ++ j :: b) = true := by
  obtain ⟨c, hne, hca, hc⟩ := isWithin_iff.1 h
  have hbelow : c <+: a ++ j :: b := hca.trans (List.prefix_append a (j :: b))
  have hother : c ≠ a ++ j :: b := by
    rintro rfl
    have hlen := hca.length_le
    rw [List.length_append, List.length_cons] at hlen
    omega
  exact ⟨isCovered_iff.2 ⟨c, hne, hbelow, hother, hc⟩, isWithin_iff.2 ⟨c, hne, hbelow, hc⟩⟩

end Placed

open Placed

namespace Forest

variable {f : Tag → Bool}

/-! ### Elements that lie below no other one -/

mutual

theorem pairwise_hitsAt (k : Nat) (n : Node) :
    (hitsAt f k n).Pairwise fun a b => ¬b <+: a := by
  cases n with
  | element t c ns =>
    have hns := pairwise_hits 0 ns
    rw [hitsAt, List.pairwise_append]
    refine ⟨?_, ?_, ?_⟩
    · split
      · exact List.pairwise_singleton _ _
      · exact List.Pairwise.nil
    · rw [List.pairwise_map]
      refine hns.imp fun {a b} hab h => hab ?_
      exact (List.cons_prefix_cons.1 h).2
    · -- the element itself has the shortest address
      intro a ha b hb h
      obtain ⟨c, hc, rfl⟩ := List.mem_map.1 hb
      split at ha
      · obtain rfl := List.mem_singleton.1 ha
        have hlen := h.length_le
        have hpos := List.length_pos_of_ne_nil (ne_nil_of_mem_hits hc)
        simp only [List.length_cons, List.length_nil] at hlen
        omega
      · cases ha
  | _ => exact List.Pairwise.nil

/-- In document order no element comes before one that it lies below. -/
theorem pairwise_hits (k : Nat) (ns : List Node) : (hits f k ns).Pairwise fun a b => ¬b <+: a := by
  cases ns with
  | nil => exact List.Pairwise.nil
  | cons n ns =>
    have hn := pairwise_hitsAt k n
    have hns := pairwise_hits (k + 1) ns
    rw [hits, List.pairwise_append]
    refine ⟨hn, hns, fun a ha b hb h => ?_⟩
    obtain ⟨c, rfl⟩ := head_of_mem_hitsAt ha
    obtain ⟨j, d, hj, rfl⟩ := head_of_mem_hits hb
    have hkj : j = k := (List.cons_prefix_cons.1 h).1
    omega

end

theorem outermost_concat (as : List Address) (a : Address) :
    outermost (as ++ [a]) =
      if (outermost as).any (·.isPrefixOf a) then outermost as else outermost as ++ [a] := by
  unfold outermost
  rw [List.foldl_append, List.foldl_cons, List.foldl_nil, List.any_reverse]
  split
  · rfl
  · rw [List.reverse_cons]

/-- Every address is one of those that lie below no other one, or lies below such a one. -/
theorem exists_outermost {as : List Address} {b : Address} (hb : b ∈ as) :
    ∃ a ∈ outermost as, a <+: b := by
  induction as using List.reverseRecOn with
  | nil => cases hb
  | append_singleton as a ih =>
    have hkept : ∀ c ∈ outermost as, c ∈ outermost (as ++ [a]) := by
      intro c hc
      rw [outermost_concat]
      split
      · exact hc
      · exact List.mem_append_left _ hc
    rcases List.mem_append.1 hb with hb | hb
    · obtain ⟨c, hc, hcb⟩ := ih hb
      exact ⟨c, hkept c hc, hcb⟩
    · obtain rfl := List.mem_singleton.1 hb
      by_cases hany : (outermost as).any (·.isPrefixOf b) = true
      · obtain ⟨c, hc, hcb⟩ := List.any_eq_true.1 hany
        exact ⟨c, hkept c hc, List.isPrefixOf_iff_prefix.1 hcb⟩
      · refine ⟨b, ?_, List.prefix_refl b⟩
        rw [outermost_concat, if_neg hany]
        exact List.mem_append_right _ (List.mem_singleton_self b)

/-- **Elements that lie below no other one** of some that are given in document order. -/
theorem outermost_eq {as : List Address} (hne : ∀ a ∈ as, a ≠ [])
    (h : as.Pairwise fun a b => ¬b <+: a) :
    outermost as = as.filter fun a => !isCovered as.contains a := by
  induction as using List.reverseRecOn with
  | nil => rfl
  | append_singleton as a ih =>
    obtain ⟨has, -, hlast⟩ := List.pairwise_append.1 h
    have hlast : ∀ b ∈ as, ¬a <+: b := fun b hb => hlast b hb a (List.mem_singleton_self a)
    have hfirst := ih (fun b hb => hne b (List.mem_append_left _ hb)) has
    -- one more address at the end lies above none of those before it
    have hbefore : as.filter (fun b => !isCovered (as ++ [a]).contains b) = outermost as := by
      rw [hfirst]
      refine List.filter_congr fun b hb => congrArg (!·) (Bool.eq_iff_iff.2 ?_)
      rw [isCovered_iff, isCovered_iff]
      refine exists_congr fun c => and_congr_right fun _ => and_congr_right fun hcb => ?_
      have hca : c ≠ a := by
        rintro rfl
        exact hlast b hb hcb
      simp [hca]
    have hself : isCovered (as ++ [a]).contains a = (outermost as).any (·.isPrefixOf a) := by
      rw [Bool.eq_iff_iff, isCovered_iff, List.any_eq_true]
      constructor
      · rintro ⟨b, -, hba, hother, hb⟩
        have hmem : b ∈ as := by simpa [hother] using hb
        obtain ⟨c, hc, hcb⟩ := exists_outermost hmem
        exact ⟨c, hc, List.isPrefixOf_iff_prefix.2 (hcb.trans hba)⟩
      · rintro ⟨b, hb, hba⟩
        have hmem := mem_of_mem_outermost hb
        have hother : b ≠ a := by
          rintro rfl
          exact hlast b hmem (List.prefix_refl b)
        exact ⟨b, hne b (List.mem_append_left _ hmem), List.isPrefixOf_iff_prefix.1 hba, hother,
          List.contains_iff_mem.2 (List.mem_append_left _ hmem)⟩
    rw [outermost_concat, List.filter_append, hbefore, List.filter_singleton, hself]
    cases (outermost as).any (·.isPrefixOf a) with
    | true => simp
    | false => rfl

/-- What is kept of the elements that a selector describes. -/
theorem outermost_select (c : Css.Selector) (ns : List Node) : outermost (c.select ns) =
    (c.select ns).filter fun a => !isCovered (c.select ns).contains a := by
  have hsub := select_sublist c ns
  exact outermost_eq (fun a ha => ne_nil_of_mem_hits (hsub.mem ha)) ((pairwise_hits 0 ns).sublist hsub)

end Forest

namespace Placed

/-! ### Marked nodes and what is below them -/

variable {m : Address → Bool}

theorem within_below {a : Address} (h : isWithin m a = true) (ns : List Node) :
    ∀ q ∈ nodesAll (ofForest a 0 ns), isCovered m q.source = true ∧ isWithin m q.source = true := by
  intro q hq
  obtain ⟨j, b, -, hsource⟩ := source_of_mem hq
  rw [hsource]
  exact isWithin.below h j b

mutual

theorem nodesAll_topsAt {up : Address} (hup : isWithin m up = false) (k : Nat) (n : Node) :
    nodesAll ((nodes (ofNode (up ++ [k]) n)).filter fun q => isTop m q.source) =
      (nodes (ofNode (up ++ [k]) n)).filter fun q => isWithin m q.source := by
  have hwithin : isWithin m (up ++ [k]) = m (up ++ [k]) := by
    rw [isWithin_concat, hup, Bool.false_or]
  have htop : isTop m (up ++ [k]) = m (up ++ [k]) := by
    rw [isTop, isCovered_concat, hup]
    exact Bool.and_true _
  rw [nodes_eq, List.filter_cons, List.filter_cons, source_ofNode, htop, hwithin, children_ofNode]
  cases hk : m (up ++ [k]) with
  | true =>
    -- a marked node comes with all that is below it
    have hbelow := within_below (hwithin.trans hk) n.children
    have hnone : (nodesAll (ofForest (up ++ [k]) 0 n.children)).filter
        (fun q => isTop m q.source) = [] := by
      refine List.filter_eq_nil_iff.2 fun q hq => ?_
      rw [isTop, (hbelow q hq).1, Bool.not_true, Bool.and_false]
      decide
    have hevery := List.filter_eq_self.2 fun q hq => (hbelow q hq).2
    rw [if_pos rfl, if_pos rfl, hnone, hevery, nodesAll, nodesAll, List.append_nil, nodes_eq,
      children_ofNode]
  | false =>
    rw [if_neg (by decide), if_neg (by decide)]
    cases n with
    | element t c ns => exact nodesAll_tops (hwithin.trans hk) 0 ns
    | _ => rfl

/-- **What the tops hold** is what is marked and what is below marked nodes, in document order. -/
theorem nodesAll_tops {up : Address} (hup : isWithin m up = false) (k : Nat) (ns : List Node) :
    nodesAll ((nodesAll (ofForest up k ns)).filter fun q => isTop m q.source) =
      (nodesAll (ofForest up k ns)).filter fun q => isWithin m q.source := by
  cases ns with
  | nil => rfl
  | cons n ns =>
    have hn := nodesAll_topsAt hup k n
    have hns := nodesAll_tops hup (k + 1) ns
    rw [ofForest, nodesAll, List.filter_append, List.filter_append, nodesAll_append, hn, hns]

end

/-! ### Nodes that are put together in a forest -/

mutual

theorem map_here_nodes (a b : Address) (n : Node) :
    (nodes (ofNode a n)).map here = (nodes (ofNode b n)).map here := by
  have hbelow : (nodesAll (ofForest a 0 n.children)).map here =
      (nodesAll (ofForest b 0 n.children)).map here := by
    cases n with
    | element t c ns => exact map_here_nodesAll a b 0 0 ns
    | _ => rfl
  rw [nodes_eq, nodes_eq, List.map_cons, List.map_cons, here_ofNode, here_ofNode, children_ofNode,
    children_ofNode, hbelow]

/-- The nodes of a forest are the same wherever it stands. -/
theorem map_here_nodesAll (up up' : Address) (k k' : Nat) (ns : List Node) :
    (nodesAll (ofForest up k ns)).map here = (nodesAll (ofForest up' k' ns)).map here := by
  cases ns with
  | nil => rfl
  | cons n ns =>
    rw [ofForest, ofForest, nodesAll, nodesAll, List.map_append, List.map_append,
      map_here_nodes (up ++ [k]) (up' ++ [k']) n, map_here_nodesAll up up' (k + 1) (k' + 1) ns]

end

/-- Nodes that are as they were, put together in a forest, with all that is below them. -/
theorem map_here_collected {ps : List Placed} (h : ∀ q ∈ ps, q = ofNode q.source q.here)
    (up : Address) (k : Nat) :
    (nodesAll (ofForest up k (ps.map here))).map here = (nodesAll ps).map here := by
  induction ps generalizing k with
  | nil => rfl
  | cons p ps ih =>
    have hp : (nodes (ofNode (up ++ [k]) p.here)).map here = (nodes p).map here := by
      rw [map_here_nodes (up ++ [k]) p.source, ← h p List.mem_cons_self]
    rw [List.map_cons, ofForest, nodesAll, nodesAll, List.map_append, List.map_append, hp,
      ih fun q hq => h q (List.mem_cons_of_mem p hq)]

/-! ### Elements in document order -/

/-- Some elements of a forest, in document order, found again among its nodes. -/
theorem sources_of_sublist {as : List Address} {ns : List Node}
    (h : as.Sublist (hits (fun _ => true) 0 ns)) :
    ((nodesAll (origin ns)).filter fun q => as.contains q.source).map source = as := by
  have hhits : ((nodesAll (origin ns)).filter (picks fun _ => true)).map source =
      hits (fun _ => true) 0 ns := by
    rw [origin, hits_eq]
    exact List.map_id' _
  -- only elements are given
  have hpicks : (nodesAll (origin ns)).filter (fun q => as.contains q.source && q.picks fun _ => true) =
      (nodesAll (origin ns)).filter fun q => as.contains q.source := by
    refine List.filter_congr fun q hq => ?_
    obtain ⟨a, n, hn, rfl⟩ := mem_nodesAll_origin.1 hq
    rw [source_ofNode, picks_ofNode]
    cases ha : as.contains a with
    | false => rfl
    | true =>
      rw [isTagged_of_mem_hits (h.mem (List.contains_iff_mem.1 ha)) hn]
      rfl
  have hfilter := List.filter_map (p := as.contains) (f := source)
    (l := (nodesAll (origin ns)).filter (picks fun _ => true))
  rw [hhits, eq_filter_hits h, List.filter_filter] at hfilter
  exact (congrArg (List.map source) hpicks).symm.trans hfilter.symm

end Placed

end Html

/-! ### The excerpt of a page -/

open Html.Placed

/-- **The excerpt of a page.** On top of it are the elements that the selector describes and that lie
below no other such element, in document order, each as it is in the page with all that is below it.
The nodes of the excerpt are thus the described elements and what is below them, in document order;
each described element is among them once. -/
theorem Page.excerpt_tops {p : Page} {s : String} {c : Css.Selector} (hc : compileSelector s = .ok c) :
    let described : Address → Bool := (c.select p.nodes).contains
    let nodes := nodesAll (origin p.nodes)
    let tops := nodes.filter fun q => isTop described q.source
    p.excerpt s = .ok (fragment (tops.map here)) ∧
      (∀ q ∈ tops, get? q.source p.nodes = some q.here) ∧
      c.select p.nodes = (nodes.filter fun q => described q.source).map source ∧
      nodesAll tops = (nodes.filter fun q => isWithin described q.source) ∧
      (nodesAll (origin (tops.map here))).map here = (nodesAll tops).map here ∧
      ∀ a ∈ c.select p.nodes, ((nodesAll tops).map source).count a = 1 := by
  intro described nodes tops
  have hsub := select_sublist c p.nodes
  have hselect : (nodes.filter fun q => described q.source).map source = c.select p.nodes :=
    sources_of_sublist hsub
  have htops : ∀ q ∈ tops, get? q.source p.nodes = some q.here ∧ q = ofNode q.source q.here := by
    intro q hq
    obtain ⟨a, n, hn, rfl⟩ := mem_nodesAll_origin.1 (List.mem_filter.1 hq).1
    rw [source_ofNode, here_ofNode]
    exact ⟨hn, rfl⟩
  have hall : nodesAll tops = nodes.filter fun q => isWithin described q.source :=
    nodesAll_tops (show isWithin described [] = false from rfl) 0 p.nodes
  -- what is kept while the elements come one by one are the tops
  have hkept : outermost (c.select p.nodes) = tops.map source := by
    have hfilter := List.filter_map (p := fun a => !isCovered described a) (f := source)
      (l := nodes.filter fun q => described q.source)
    rw [hselect, List.filter_filter] at hfilter
    have htop : (nodes.filter fun q => !isCovered described q.source && described q.source) = tops :=
      List.filter_congr fun q _ => Bool.and_comm _ _
    exact (outermost_select c p.nodes).trans (hfilter.trans (congrArg (List.map source) htop))
  have hfragment : (outermost (c.select p.nodes)).filterMap (get? · p.nodes) = tops.map here := by
    rw [hkept, List.filterMap_map, ← List.filterMap_eq_map]
    exact List.filterMap_congr fun q hq => (htops q hq).1
  refine ⟨bind_eq_ok.2 ⟨c, hc, ?_⟩, fun q hq => (htops q hq).1, hselect.symm, hall,
    map_here_collected (fun q hq => (htops q hq).2) [] 0, fun a ha => ?_⟩
  · rw [excerptAt, hfragment]
    rfl
  · have hnodup : ((nodesAll tops).map source).Nodup := by
      rw [hall]
      exact (nodup_sources [] 0 p.nodes).sublist (List.filter_sublist.map _)
    refine List.count_eq_one_of_mem hnodup ?_
    have hmarked := ha
    rw [← hselect] at ha
    obtain ⟨q, hq, rfl⟩ := List.mem_map.1 ha
    have hwithin : isWithin described q.source = true := isWithin_iff.2
      ⟨q.source, ne_nil_of_mem_hits (hsub.mem hmarked), List.prefix_refl _, (List.mem_filter.1 hq).2⟩
    rw [hall]
    exact List.mem_map_of_mem (List.mem_filter.2 ⟨(List.mem_filter.1 hq).1, hwithin⟩)

/-- Bold text in bold text comes once, and what stands around it does not come. -/
theorem Page.excerpt_tops_nestedBold :
    (fragment [.text ['a'], .wrapper "b" [.text ['b'], .wrapper "b" [.text ['c']]],
        .wrapper "i" [.wrapper "b" []]]).excerpt "b" =
      .ok (fragment [.wrapper "b" [.text ['b'], .wrapper "b" [.text ['c']]], .wrapper "b" []]) := by
  have hselects : (compileSelector "b").toOption.map (·.select
      [.text ['a'], .wrapper "b" [.text ['b'], .wrapper "b" [.text ['c']]],
        .wrapper "i" [.wrapper "b" []]]) = some [[1], [1, 1], [2, 0]] := by
    decide +kernel
  obtain ⟨c, hc, hselect⟩ := Option.map_eq_some_iff.1 hselects
  refine (excerpt_tops (eq_ok_of_toOption hc)).1.trans ?_
  dsimp only [fragment]
  rw [hselect]
  rfl

end HtmlCanon
