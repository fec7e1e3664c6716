import HtmlCanon.Proofs.Edit.Compose
import HtmlCanon.Proofs.Edit.Excerpt
import Mathlib.Data.List.Lex
import Mathlib.Data.List.Pairwise

/-!
# The order of what regions hold

A region takes its elements from what is left of the page and then from the regions before it. What has
been taken once is therefore behind what has not, and elements come to a region in the order in which
they stand by then, which is not always document order.

* `Placed.nearest_keptAll` : a cut leaves nothing below what it takes.
* `Placed.pairwise_cut` : how a cut moves nodes past each other.
* `Page.precedes` : which of two nodes stands first after some claims.
* `Page.compose_ordered` : **the order of what regions hold**, and when it is document order.
* `Page.compose_overtaken` : a region with an element before another one that it stood behind.
-/

namespace HtmlCanon

open Html Html.Forest Html.Placed Css

namespace Html.Placed

variable {f : Tag → Bool} {m : Address → Bool}

/-! ### Nodes of a forest after a cut -/

mutual

theorem sources_prune (p : Placed) :
    ((nodes (p.prune f)).map source).Sublist ((nodes p).map source) := by
  cases p with
  | node a n ps => exact (sources_keptAll ps).cons_cons a

/-- What a cut leaves stays in order. -/
theorem sources_keptAll (ps : List Placed) :
    ((nodesAll (keptAll f ps)).map source).Sublist ((nodesAll ps).map source) := by
  cases ps with
  | nil => exact .slnil
  | cons p ps =>
    have hp := sources_prune p
    have hps := sources_keptAll ps
    rw [keptAll, nodesAll, List.map_append]
    split
    · exact hps.trans (List.sublist_append_right _ _)
    · rw [nodesAll, List.map_append]
      exact hp.append hps

end

mutual

theorem nodes_sublistAt {p q : Placed} (h : q ∈ nodes p) : (nodes q).Sublist (nodes p) := by
  cases p with
  | node a n ps =>
    rcases List.mem_cons.1 h with rfl | h
    · exact List.Sublist.refl _
    · exact (nodes_sublist h).trans (List.sublist_cons_self _ _)

/-- What is at or below a node of a forest is in the forest. -/
theorem nodes_sublist {ps : List Placed} {q : Placed} (h : q ∈ nodesAll ps) :
    (nodes q).Sublist (nodesAll ps) := by
  cases ps with
  | nil => cases h
  | cons p ps =>
    rcases List.mem_append.1 h with h | h
    · exact (nodes_sublistAt h).trans (List.sublist_append_left _ _)
    · exact (nodes_sublist h).trans (List.sublist_append_right _ _)

end

/-! ### The nearest marked address -/

/-- The nearest marked address at or above an address. -/
def nearest (m : Address → Bool) (a : Address) : Option Address := a.inits.tail.reverse.find? m

theorem nearest_concat (up : Address) (k : Nat) :
    nearest m (up ++ [k]) = if m (up ++ [k]) then some (up ++ [k]) else nearest m up := by
  rw [nearest, tail_inits_concat, List.reverse_append]
  cases h : m (up ++ [k]) with
  | true => exact List.find?_cons_of_pos h
  | false => exact List.find?_cons_of_neg (by rw [h]; decide)

mutual

theorem nearest_prune {q : Placed} (up : Address) (k : Nat) (n : Node)
    (hm : ∀ p ∈ nodes (ofNode (up ++ [k]) n), m p.source = p.picks f)
    (hq : q ∈ nodes ((ofNode (up ++ [k]) n).prune f)) : nearest m q.source = nearest m (up ++ [k]) := by
  rw [nodes_eq, children_prune, children_ofNode, List.mem_cons] at hq
  rcases hq with rfl | hq
  · rw [source_prune, source_ofNode]
  · cases n with
    | element t c ns =>
      exact nearest_keptAll (up ++ [k]) 0 ns (fun p hp => hm p (List.mem_cons_of_mem _ hp)) hq
    | _ => cases hq

/-- **A cut leaves nothing below what it takes.** If the elements that are taken are marked, what stays
has the same marked elements above it as the forest has. -/
theorem nearest_keptAll {q : Placed} (up : Address) (k : Nat) (ns : List Node)
    (hm : ∀ p ∈ nodesAll (ofForest up k ns), m p.source = p.picks f)
    (hq : q ∈ nodesAll (keptAll f (ofForest up k ns))) : nearest m q.source = nearest m up := by
  cases ns with
  | nil => cases hq
  | cons n ns =>
    have hn := nearest_prune (q := q) up k n fun p hp => hm p (List.mem_append_left _ hp)
    have hns := nearest_keptAll (q := q) up (k + 1) ns fun p hp => hm p (List.mem_append_right _ hp)
    have hself := hm (ofNode (up ++ [k]) n)
      (List.mem_append_left _ (by rw [nodes_eq]; exact List.mem_cons_self))
    rw [ofForest, keptAll] at hq
    split at hq
    · exact hns hq
    · rename_i hpicks
      rcases List.mem_append.1 hq with hq | hq
      · rw [source_ofNode] at hself
        rw [hn hq, nearest_concat, hself, if_neg hpicks]
      · exact hns hq

end

/-! ### How a cut moves nodes past each other -/

/-- Which of two nodes stands first after a cut: what stays is before what is taken, and what is taken
goes along with the element that is taken. -/
def moved (carrier : Address → Option Address) (R : Address → Address → Prop) (a b : Address) : Prop :=
  match carrier a, carrier b with
  | none, none => R a b
  | none, some _ => True
  | some _, none => False
  | some x, some y => if x = y then R a b else R x y

theorem moved_asymm {carrier : Address → Option Address} {R : Address → Address → Prop}
    (hR : ∀ a b, R a b → ¬R b a) (a b : Address) (h : moved carrier R a b) : ¬moved carrier R b a := by
  unfold moved at h ⊢
  cases ha : carrier a with
  | none =>
    cases hb : carrier b with
    | none =>
      simp only [ha, hb] at h ⊢
      exact hR a b h
    | some y => simp
  | some x =>
    cases hb : carrier b with
    | none => simp [ha, hb] at h
    | some y =>
      simp only [ha, hb] at h ⊢
      by_cases hxy : x = y
      · rw [if_pos hxy] at h
        rw [if_pos hxy.symm]
        exact hR a b h
      · rw [if_neg hxy] at h
        rw [if_neg (Ne.symm hxy)]
        exact hR x y h

/-- **A cut** moves nodes past each other as told. -/
theorem pairwise_cut {carrier : Address → Option Address} {R : Address → Address → Prop}
    {ps : List Placed} (h : ((nodesAll ps).map source).Pairwise R) (hR : ∀ a, ¬R a a)
    (hkept : ∀ q ∈ nodesAll (keptAll f ps), carrier q.source = none)
    (htaken : ∀ p ∈ nodesAll ps, p.picks f = true → ∀ q ∈ nodes (p.prune f),
      carrier q.source = some p.source) :
    ((nodesAll (keptAll f ps ++ takenAll f ps)).map source).Pairwise (moved carrier R) := by
  have hall : nodesAll (takenAll f ps) =
      ((nodesAll ps).filter (picks f)).flatMap fun p => nodes (p.prune f) := by
    rw [takenAll, nodesAll_flatMap, List.flatMap_map]
  -- what stays and what is taken are each a part of the forest, the second one element by element
  rw [nodesAll_append, List.map_append, List.pairwise_append]
  refine ⟨?_, ?_, ?_⟩
  · refine (h.sublist (sources_keptAll ps)).imp_of_mem fun {a b} ha hb hab => ?_
    obtain ⟨p, hp, rfl⟩ := List.mem_map.1 ha
    obtain ⟨q, hq, rfl⟩ := List.mem_map.1 hb
    rw [moved, hkept p hp, hkept q hq]
    exact hab
  · rw [hall, List.map_flatMap, List.pairwise_flatMap]
    constructor
    · intro p hp
      obtain ⟨hmem, hpicks⟩ := List.mem_filter.1 hp
      have hbelow := (sources_prune (f := f) p).trans ((nodes_sublist hmem).map source)
      refine (h.sublist hbelow).imp_of_mem fun {a b} ha hb hab => ?_
      obtain ⟨q, hq, rfl⟩ := List.mem_map.1 ha
      obtain ⟨r, hr, rfl⟩ := List.mem_map.1 hb
      rw [moved, htaken p hmem hpicks q hq, htaken p hmem hpicks r hr]
      exact (if_pos rfl).mpr hab
    · -- nodes that go along with different elements stand as these did
      have hpicked := (List.pairwise_map.1 h).sublist (List.filter_sublist (p := picks f))
      refine hpicked.imp_of_mem fun {p p'} hp hp' hpp a ha b hb => ?_
      obtain ⟨hmem, hpicks⟩ := List.mem_filter.1 hp
      obtain ⟨hmem', hpicks'⟩ := List.mem_filter.1 hp'
      obtain ⟨q, hq, rfl⟩ := List.mem_map.1 ha
      obtain ⟨r, hr, rfl⟩ := List.mem_map.1 hb
      have hother : p.source ≠ p'.source := by
        intro hsame
        rw [hsame] at hpp
        exact hR _ hpp
      rw [moved, htaken p hmem hpicks q hq, htaken p' hmem' hpicks' r hr]
      exact (if_neg hother).mpr hpp
  · intro a ha b hb
    obtain ⟨q, hq, rfl⟩ := List.mem_map.1 ha
    obtain ⟨r, hr, rfl⟩ := List.mem_map.1 hb
    rw [hall] at hr
    obtain ⟨p, hp, hrp⟩ := List.mem_flatMap.1 hr
    obtain ⟨hmem, hpicks⟩ := List.mem_filter.1 hp
    rw [moved, hkept q hq, htaken p hmem hpicks r hrp]
    trivial

end Html.Placed

namespace Page

/-! ### Which of two nodes stands first -/

/-- Whether an address is among those of some claims. -/
def isClaimed (claims : List (List Address)) (a : Address) : Bool := claims.any (·.contains a)

/-- The element that a node goes along with when elements are claimed after earlier claims: the nearest
claimed one at or above it, if it is claimed now. Where that one was claimed before and is not claimed
now, the node has left what is further up, and stays. -/
def carrier (as : List Address) (claims : List (List Address)) (a : Address) : Option Address :=
  (nearest (isClaimed (as :: claims)) a).filter as.contains

/-- Which of two nodes stands first after some claims, the last claim given first. Before all claims
that is told by their addresses, in document order; each claim then moves what it takes behind
everything else. -/
def precedes : List (List Address) → Address → Address → Prop
  | [] => fun a b => a < b
  | as :: claims => moved (carrier as claims) (precedes claims)

theorem precedes_asymm (claims : List (List Address)) (a b : Address) (h : precedes claims a b) :
    ¬precedes claims b a := by
  induction claims generalizing a b with
  | nil => exact List.lt_asymm h
  | cons as claims ih => exact moved_asymm ih a b h

theorem precedes_irrefl (claims : List (List Address)) (a : Address) : ¬precedes claims a a :=
  fun h => precedes_asymm claims a a h h

theorem carrier_of_apart {as : List Address} {claims : List (List Address)} {a : Address}
    (h : ∀ bs ∈ as :: claims, ∀ x ∈ bs, ¬x <+: a) : carrier as claims a = none := by
  have hnearest : nearest (isClaimed (as :: claims)) a = none := by
    refine List.find?_eq_none.2 fun x hx hany => ?_
    obtain ⟨bs, hbs, hmem⟩ := List.any_eq_true.1 hany
    exact h bs hbs x (List.contains_iff_mem.1 hmem) (mem_tail_inits.1 (List.mem_reverse.1 hx)).2
  rw [carrier, hnearest]
  rfl

/-- What lies at or below nothing that was claimed stands in document order. -/
theorem precedes_of_apart {claims : List (List Address)} {a b : Address}
    (ha : ∀ as ∈ claims, ∀ x ∈ as, ¬x <+: a) (hb : ∀ as ∈ claims, ∀ x ∈ as, ¬x <+: b) :
    precedes claims a b ↔ a < b := by
  induction claims with
  | nil => exact Iff.rfl
  | cons as claims ih =>
    rw [precedes, moved, carrier_of_apart ha, carrier_of_apart hb]
    exact ih (fun bs hbs => ha bs (List.mem_cons_of_mem _ hbs))
      fun bs hbs => hb bs (List.mem_cons_of_mem _ hbs)

/-- A list in one order is also in another one if and only if the two agree on its members. -/
theorem pairwise_lt_iff {R : Address → Address → Prop} (hR : ∀ a b, R a b → ¬R b a) {l : List Address}
    (h : l.Pairwise R) : l.Pairwise (· < ·) ↔ ∀ a ∈ l, ∀ b ∈ l, a < b → R a b := by
  constructor
  · intro hlt a ha b hb hab
    have hboth : l.Pairwise fun a b => (a < b → R a b) ∧ (b < a → R b a) :=
      (h.and hlt).imp fun {a b} hab => ⟨fun _ => hab.1, fun hba => absurd hba (List.lt_asymm hab.2)⟩
    have : Std.Symm fun a b => (a < b → R a b) ∧ (b < a → R b a) := ⟨fun _ _ => And.symm⟩
    exact (hboth.forall_of_forall (fun a _ => ⟨fun h => absurd h (List.lt_irrefl a),
      fun h => absurd h (List.lt_irrefl a)⟩) ha hb).1 hab
  · intro hagree
    refine h.imp_of_mem fun {a b} ha hb hab => ?_
    rcases lt_trichotomy a b with hlt | rfl | hlt
    · exact hlt
    · exact absurd hab (hR a a hab)
    · exact absurd (hagree b hb a ha hlt) (hR a b hab)

/-! ### What regions hold, in order -/

variable {page : List Node} {fs : List (Tag → Bool)} {c : Traced}

/-- The elements of some sorts, told by their addresses. -/
def claimsOf (page : List Node) (fs : List (Tag → Bool)) : List (List Address) :=
  fs.map fun f => hits f 0 page

/-- All that is left of a page and that its regions hold, the page first, stands as told by the claims;
and each region holds its elements as they stood when it claimed them. -/
structure Ordered (page : List Node) (fs : List (Tag → Bool)) (c : Traced) : Prop where
  whole : ((nodesAll (c.source ++ c.held)).map source).Pairwise (precedes (claimsOf page fs).reverse)
  regions : ∀ (i : Nat) (r : Holding), c.regions[i]? = some r →
    (r.nodes.map source).Pairwise (precedes ((claimsOf page fs).take i).reverse)

theorem ordered_start (page : List Node) : Ordered page [] ⟨origin page, []⟩ where
  whole := by
    show ((nodesAll (origin page ++ [])).map source).Pairwise (· < ·)
    rw [List.append_nil]
    exact pairwise_sources [] 0 page
  regions i r h := by cases h

namespace Accounted

/-- Every node there is comes from the page. -/
theorem mem_whole {q : Placed} (h : Accounted (origin page) fs c)
    (hq : q ∈ nodesAll (c.source ++ c.held)) :
    ∃ a m, get? a page = some m ∧ (ofNode a m).prune (anyOf fs) = q := by
  rw [nodesAll_append, List.mem_append] at hq
  rcases hq with hq | hq
  · rw [h.source_eq] at hq
    obtain ⟨p, hp, rfl⟩ := mem_nodesAll_keptAll _ hq
    obtain ⟨a, m, hm, rfl⟩ := mem_nodesAll_origin.1 hp
    exact ⟨a, m, hm, rfl⟩
  · exact h.mem_held hq

end Accounted

/-- The claims tell which elements of a page are of some sorts. -/
theorem isClaimed_eq (page : List Node) (fs : List (Tag → Bool)) (g : Tag → Bool) :
    ∀ p ∈ nodesAll (origin page),
      isClaimed (hits g 0 page :: (claimsOf page fs).reverse) p.source =
        p.picks (anyOf (fs ++ [g])) := by
  intro p hp
  obtain ⟨a, m, hm, rfl⟩ := mem_nodesAll_origin.1 hp
  rw [source_ofNode, Bool.eq_iff_iff, picks_anyOf_iff hm, isClaimed, List.any_eq_true]
  simp only [List.contains_iff_mem, claimsOf, List.mem_cons, List.mem_reverse, List.map_append,
    List.map_cons, List.map_nil, List.mem_append, List.not_mem_nil, or_false]
  refine exists_congr fun as => and_congr_left fun _ => or_comm

/-- What is at or below an element that was claimed, when the claimed elements below it are gone, goes
along with it if it is claimed now, and stays otherwise. -/
theorem carrier_prune {g : Tag → Bool} {a : Address} {n : Node} {q : Placed}
    (hn : get? a page = some n) (hpicks : (ofNode a n).picks (anyOf (fs ++ [g])) = true)
    (hq : q ∈ Placed.nodes ((ofNode a n).prune (anyOf (fs ++ [g])))) :
    carrier (hits g 0 page) (claimsOf page fs).reverse q.source =
      if n.isTagged g then some a else none := by
  have hmem : ofNode a n ∈ nodesAll (origin page) := mem_nodesAll_origin.2 ⟨a, n, hn, rfl⟩
  have hmarks := isClaimed_eq page fs g
  have hself := hmarks _ hmem
  rw [hpicks, source_ofNode] at hself
  have hnearest : nearest (isClaimed (hits g 0 page :: (claimsOf page fs).reverse)) q.source =
      some a := by
    rcases List.eq_nil_or_concat a with rfl | ⟨up, k, rfl⟩
    · rw [get?] at hn
      cases hn
    · rw [List.concat_eq_append] at hq hself hmem ⊢
      rw [nearest_prune up k n (fun p hp => hmarks p ((nodes_sublist hmem).mem hp)) hq, nearest_concat,
        if_pos hself]
  have hnow : (hits g 0 page).contains a = n.isTagged g := by
    rw [Bool.eq_iff_iff, List.contains_iff_mem, ← picks_iff hn, picks_ofNode]
  rw [carrier, hnearest, Option.filter_some, hnow]

/-- **One more region** keeps the order. -/
theorem Ordered.claim (h : Ordered page fs c) (ha : Accounted (origin page) fs c) (name : String)
    (g : Tag → Bool) : Ordered page (fs ++ [g]) (c.claim name g) := by
  have hclaims : claimsOf page (fs ++ [g]) = claimsOf page fs ++ [hits g 0 page] := List.map_append
  have hlen : c.regions.length = (claimsOf page fs).length := by
    rw [ha.length_eq, claimsOf, List.length_map]
  -- the claims tell what the cut does: what stays goes along with nothing
  have hkept : ∀ q ∈ nodesAll (keptAll g (c.source ++ c.held)),
      carrier (hits g 0 page) (claimsOf page fs).reverse q.source = none := by
    intro q hq
    rw [keptAll_append, nodesAll_append, List.mem_append] at hq
    rcases hq with hq | hq
    · -- what is still left of the page lies at or below nothing that was claimed
      rw [ha.source_eq, keptAll_keptAll, ← anyOf_snoc] at hq
      rw [carrier, nearest_keptAll [] 0 page (isClaimed_eq page fs g) hq]
      rfl
    · -- what stays in a region is below an element that this claim does not take
      have hperm := keptAll_perm g ha.held_perm
      rw [keptAll_takenAll, ← anyOf_snoc] at hperm
      obtain ⟨t, ht, hqt⟩ := mem_nodesAll.1 ((nodesAll_perm hperm).mem_iff.1 hq)
      obtain ⟨ht, hnot⟩ := List.mem_filter.1 ht
      obtain ⟨a, n, hn, hpicks, rfl⟩ := mem_takenAll_origin.1 ht
      rw [picks_prune, picks_ofNode, Bool.not_eq_true'] at hnot
      rw [carrier_prune hn hpicks hqt, hnot, if_neg Bool.false_ne_true]
  have htaken : ∀ p ∈ nodesAll (c.source ++ c.held), p.picks g = true →
      ∀ q ∈ Placed.nodes (p.prune g),
        carrier (hits g 0 page) (claimsOf page fs).reverse q.source = some p.source := by
    intro p hp hpicks q hq
    obtain ⟨a, n, hn, rfl⟩ := ha.mem_whole hp
    rw [picks_prune, picks_ofNode] at hpicks
    have hany : (ofNode a n).picks (anyOf (fs ++ [g])) = true := by
      rw [anyOf_snoc, picks_either, picks_ofNode, picks_ofNode, hpicks, Bool.or_true]
    rw [prune_prune, ← anyOf_snoc] at hq
    rw [carrier_prune hn hany hq, if_pos hpicks, source_prune, source_ofNode]
  refine ⟨?_, fun i r hr => ?_⟩
  · -- the new region comes last, so that all there is has been cut as one forest
    have hwhole : (c.claim name g).source ++ (c.claim name g).held =
        keptAll g (c.source ++ c.held) ++ takenAll g (c.source ++ c.held) := by
      rw [Traced.held_claim, keptAll_append, takenAll_append, List.append_assoc]
      rfl
    rw [hwhole, hclaims, List.reverse_append]
    exact pairwise_cut h.whole (precedes_irrefl _) hkept htaken
  · rcases Traced.getElem?_claim.1 hr with ⟨r', hr', rfl⟩ | ⟨rfl, rfl⟩
    · have hi : i < (claimsOf page fs).length := hlen ▸ (List.getElem?_eq_some_iff.1 hr').1
      rw [hclaims, List.take_append_of_le_length (Nat.le_of_lt hi)]
      refine (h.regions i r' hr').sublist ?_
      rw [Holding.keep, keptAll_eq, List.map_map, source_comp_prune]
      exact List.filter_sublist.map source
    · rw [hclaims, hlen, List.take_left, ← takenAll_append, takenAll, List.map_map, source_comp_prune]
      exact h.whole.sublist (List.filter_sublist.map source)

/-- **The order of what regions hold.** If selectors look at tags alone, a region holds its elements in
the order in which they stand after the claims of the regions before it. That is document order if and
only if these claims have moved none of the elements past another one; it is so if no element of the
region lies at or below one that an earlier region claims. -/
theorem compose_ordered (p : Page) {plan : List Region} {ss : List Selector}
    (hss : List.Forall₂ (fun r s => compileSelector r.selector = .ok s) plan ss)
    (hown : ∀ s ∈ ss, s.isOwn = true) :
    let claims := ss.map fun s => s.select p.nodes
    ∃ regions : List Holding,
      p.compose plan = .ok (fragment (regions.map Holding.wrapped)) ∧
      Rearranged p.nodes claims regions ∧
      ∀ (i : Nat) (r : Holding), regions[i]? = some r →
        (r.nodes.map source).Pairwise (precedes (claims.take i).reverse) ∧
        ((r.nodes.map source).Pairwise (· < ·) ↔
          ∀ a ∈ r.nodes.map source, ∀ b ∈ r.nodes.map source, a < b →
            precedes (claims.take i).reverse a b) ∧
        ((∀ a ∈ r.nodes.map source, ∀ as ∈ claims.take i, ∀ b ∈ as, ¬b <+: a) →
          (r.nodes.map source).Pairwise (· < ·)) := by
  intro claims
  have hstart : (Traced.mk (origin p.nodes) []).erase = ⟨p.nodes, []⟩ := by
    rw [Traced.erase, origin, eraseAll_ofForest]
    rfl
  obtain ⟨rs, rfl, rfl, hrs⟩ := exists_compiled hss hown
  obtain ⟨haccount, hordered⟩ := Traced.claimAll_preserves
    (P := fun fs c => Accounted (origin p.nodes) fs c ∧ Ordered p.nodes fs c)
    (fun _ _ name g h => ⟨h.1.claim name g, h.2.claim h.1 name g⟩) rs
    ⟨accounted_start (origin p.nodes), ordered_start p.nodes⟩
  have hclaims : claims = claimsOf p.nodes ([] ++ rs.map fun r => r.2.fitsTag) := by
    rw [List.nil_append, claimsOf, List.map_map]
    exact (List.map_map).trans (List.map_congr_left fun r hr => select_own (hrs r hr).2 p.nodes)
  refine ⟨((Traced.mk (origin p.nodes) []).claimAll rs).regions, ?_, ?_, fun i r hr => ?_⟩
  · have hrun := foldlM_addRegion_eq hrs (sound_origin p.nodes) (accounted_start (origin p.nodes))
    rw [hstart] at hrun
    rw [compose, hrun]
    rfl
  · rw [hclaims]
    exact haccount.rearranged
  · have horder := hordered.regions i r hr
    rw [← hclaims] at horder
    have hiff := pairwise_lt_iff (precedes_asymm _) horder
    refine ⟨horder, hiff, fun hapart => hiff.2 fun a ha b hb hab => ?_⟩
    refine (precedes_of_apart (fun as has => ?_) fun as has => ?_).2 hab
    · exact hapart a ha as (List.mem_reverse.1 has)
    · exact hapart b hb as (List.mem_reverse.1 has)

theorem compose_ordered_boxed :
    ∃ regions : List Holding,
      boxed.compose boxedPlan = .ok (fragment (regions.map Holding.wrapped)) ∧
      ∀ r, regions[1]? = some r → (r.nodes.map source).Pairwise (precedes [[[0]]]) := by
  have hss : List.Forall₂ (fun r s => compileSelector r.selector = .ok s) boxedPlan
      [[⟨[.classToken "top".toList], []⟩],
        [⟨[.type "header".toList], []⟩, ⟨[.type "b".toList], []⟩],
        [⟨[.classToken "top".toList], []⟩]] := .cons rfl (.cons rfl (.cons rfl .nil))
  obtain ⟨regions, hrun, -, horder⟩ := compose_ordered boxed hss (by decide)
  exact ⟨regions, hrun, fun r hr => (horder 1 r hr).1⟩

/-- The block that no region held comes first, though it stood behind the other one. -/
theorem compose_overtaken :
    (fragment [Node.wrapper "p" [.text ['1']], Node.wrapper "b" [.text ['2']]]).compose
        [⟨"x", "p"⟩, ⟨"y", "*"⟩] =
      .ok (fragment [Node.wrapper "x" [],
        Node.wrapper "y" [Node.wrapper "b" [.text ['2']], Node.wrapper "p" [.text ['1']]]]) := by
  have hrs : ∀ r ∈ ([(⟨"x", "p"⟩, [⟨[.type ['p']], []⟩]), (⟨"y", "*"⟩, [⟨[.universal], []⟩])] :
      List (Region × Selector)), compileSelector r.1.selector = .ok r.2 ∧ r.2.isOwn = true := by
    simp only [List.forall_mem_cons, List.not_mem_nil]
    exact ⟨⟨rfl, rfl⟩, ⟨rfl, rfl⟩, nofun⟩
  have hrun := foldlM_addRegion_eq hrs (sound_origin _) (accounted_start
    (origin [Node.wrapper "p" [.text ['1']], Node.wrapper "b" [.text ['2']]]))
  exact bind_eq_ok.2 ⟨_, hrun, rfl⟩

end Page

end HtmlCanon
