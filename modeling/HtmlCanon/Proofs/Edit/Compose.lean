import HtmlCanon.Proofs.Edit.Claim
import HtmlCanon.Proofs.Edit.Origin

/-!
# Regions hold what they claim

Who holds what after a page has been put together from regions, told by the addresses that the nodes
had in the page that was read.

* `Page.Accounted.mem_region_iff` : the last claim wins.
* `Page.Accounted.mem_held_iff` : what is held was claimed or was below something that was.
* `Page.Accounted.map_source_children` : what is not claimed keeps its place.
* `Page.compose_rearranged` : **regions move elements and copy none, and the last claim wins.**
-/

namespace HtmlCanon

open Html Html.Forest Html.Placed Css

namespace Page

/-- How regions hold the nodes of a page when each claims elements of it by their addresses. -/
structure Rearranged (page : List Node) (claims : List (List Address)) (regions : List Holding) :
    Prop where
  /-- A node that is there is the one that the page has at its address. -/
  same : ∀ q ∈ nodesAll (regions.flatMap Holding.nodes), get? q.source page = some q.here
  /-- No node is there twice. -/
  once : ((nodesAll (regions.flatMap Holding.nodes)).map source).Nodup
  /-- A region holds the elements that it claims and no later one does, and nothing else. -/
  claimed : ∀ (i : Nat) (r : Holding), regions[i]? = some r → ∀ a, a ∈ r.nodes.map source ↔
    (∃ as, claims[i]? = some as ∧ a ∈ as) ∧ ∀ j as, i < j → claims[j]? = some as → a ∉ as
  /-- What is there are the claimed elements and all that was below one of them. -/
  present : ∀ a n, get? a page = some n →
    (a ∈ (nodesAll (regions.flatMap Holding.nodes)).map source ↔ ∃ as ∈ claims, ∃ b ∈ as, b <+: a)
  /-- Below a node are those of its children, in order, that no region claims. -/
  below : ∀ q ∈ nodesAll (regions.flatMap Holding.nodes),
    q.children.map source = ((List.range q.here.children.length).map fun i => q.source ++ [i]).filter
      fun a => decide (∀ as ∈ claims, a ∉ as)

variable {page : List Node} {a : Address} {m : Node} {fs : List (Tag → Bool)} {c : Traced}

theorem picks_iff {f : Tag → Bool} (hm : get? a page = some m) :
    (ofNode a m).picks f = true ↔ a ∈ hits f 0 page := by
  rw [mem_hits, picks_ofNode]
  constructor
  · exact fun h => ⟨m, hm, h⟩
  · rintro ⟨m', hm', h⟩
    rw [hm, Option.some.injEq] at hm'
    rwa [hm']

theorem picks_anyOf_iff (hm : get? a page = some m) :
    (ofNode a m).picks (anyOf fs) = true ↔ ∃ as ∈ fs.map fun f => hits f 0 page, a ∈ as := by
  rw [picks_anyOf, List.any_eq_true]
  constructor
  · rintro ⟨f, hf, hpicks⟩
    exact ⟨_, List.mem_map_of_mem hf, (picks_iff hm).1 hpicks⟩
  · rintro ⟨_, has, ha⟩
    obtain ⟨f, hf, rfl⟩ := List.mem_map.1 has
    exact ⟨f, hf, (picks_iff hm).2 ha⟩

theorem lastOf_iff {i : Nat} (hm : get? a page = some m) :
    lastOf fs i (ofNode a m) = true ↔
      (∃ as, (fs.map fun f => hits f 0 page)[i]? = some as ∧ a ∈ as) ∧
        ∀ j as, i < j → (fs.map fun f => hits f 0 page)[j]? = some as → a ∉ as := by
  rw [lastOf, Bool.and_eq_true]
  refine and_congr ?_ ?_
  · rw [List.getElem?_map]
    cases fs[i]? with
    | none => simp
    | some f => simpa using picks_iff hm
  · rw [List.all_eq_true]
    constructor
    · intro h j as hj has ha
      rw [List.getElem?_map] at has
      obtain ⟨f, hf, rfl⟩ := Option.map_eq_some_iff.1 has
      have hdrop : f ∈ fs.drop (i + 1) := by
        refine List.mem_iff_getElem?.2 ⟨j - (i + 1), ?_⟩
        rw [List.getElem?_drop, Nat.add_sub_cancel' hj, hf]
      have hnot := h f hdrop
      rw [(picks_iff hm).2 ha] at hnot
      cases hnot
    · intro h f hf
      obtain ⟨j, hj⟩ := List.mem_iff_getElem?.1 hf
      rw [List.getElem?_drop] at hj
      have hnot := h (i + 1 + j) (hits f 0 page) (by omega) (by rw [List.getElem?_map, hj]; rfl)
      rw [← picks_iff hm, Bool.not_eq_true] at hnot
      rw [hnot]
      rfl

theorem picks_of_lastOf {i : Nat} {p : Placed} (h : lastOf fs i p = true) :
    p.picks (anyOf fs) = true := by
  rw [lastOf, Bool.and_eq_true] at h
  rw [picks_anyOf, List.any_eq_true]
  cases hf : fs[i]? with
  | none =>
    rw [hf] at h
    cases h.1
  | some f =>
    rw [hf] at h
    exact ⟨f, List.mem_of_getElem? hf, h.1⟩

/-- What was taken out of a page are its elements of some sort. -/
theorem mem_takenAll_origin {f : Tag → Bool} {q : Placed} :
    q ∈ takenAll f (origin page) ↔
      ∃ a m, get? a page = some m ∧ (ofNode a m).picks f = true ∧ (ofNode a m).prune f = q := by
  rw [takenAll, List.mem_map]
  constructor
  · rintro ⟨p, hp, rfl⟩
    obtain ⟨hmem, hpicks⟩ := List.mem_filter.1 hp
    obtain ⟨a, m, hm, rfl⟩ := mem_nodesAll_origin.1 hmem
    exact ⟨a, m, hm, hpicks, rfl⟩
  · rintro ⟨a, m, hm, hpicks, rfl⟩
    exact ⟨_, List.mem_filter.2 ⟨mem_nodesAll_origin.2 ⟨a, m, hm, rfl⟩, hpicks⟩, rfl⟩

namespace Accounted

theorem mem_held {q : Placed} (h : Accounted (origin page) fs c) (hq : q ∈ nodesAll c.held) :
    ∃ a m, get? a page = some m ∧ (ofNode a m).prune (anyOf fs) = q := by
  obtain ⟨p, hp, rfl⟩ := mem_nodesAll_takenAll _ ((nodesAll_perm h.held_perm).mem_iff.1 hq)
  obtain ⟨a, m, hm, rfl⟩ := mem_nodesAll_origin.1 hp
  exact ⟨a, m, hm, rfl⟩

/-- **No node is held twice.** -/
theorem nodup_held (h : Accounted (origin page) fs c) : ((nodesAll c.held).map source).Nodup := by
  have hboth := (nodesAll_cut (anyOf fs) (origin page)).map source
  rw [List.map_map, source_comp_prune, List.map_append] at hboth
  have hparts := List.nodup_append.1 (hboth.nodup_iff.2 (nodup_sources [] 0 page))
  exact ((nodesAll_perm h.held_perm).map source).nodup_iff.2 hparts.2.1

/-- **The last claim wins.** -/
theorem mem_region_iff {i : Nat} {r : Holding} (h : Accounted (origin page) fs c)
    (hr : c.regions[i]? = some r) :
    a ∈ r.nodes.map source ↔
      (∃ as, (fs.map fun f => hits f 0 page)[i]? = some as ∧ a ∈ as) ∧
        ∀ j as, i < j → (fs.map fun f => hits f 0 page)[j]? = some as → a ∉ as := by
  rw [((h.region_perm i r hr).map source).mem_iff, List.mem_map]
  constructor
  · rintro ⟨q, hq, rfl⟩
    obtain ⟨hq, hlast⟩ := List.mem_filter.1 hq
    obtain ⟨a, m, hm, _, rfl⟩ := mem_takenAll_origin.1 hq
    rw [lastOf_prune] at hlast
    rw [source_prune, source_ofNode]
    exact (lastOf_iff hm).1 hlast
  · intro hclaims
    obtain ⟨m, hm⟩ : ∃ m, get? a page = some m := by
      obtain ⟨as, has, ha⟩ := hclaims.1
      rw [List.getElem?_map] at has
      obtain ⟨f, _, rfl⟩ := Option.map_eq_some_iff.1 has
      obtain ⟨m, hm, _⟩ := mem_hits.1 ha
      exact ⟨m, hm⟩
    have hlast := (lastOf_iff hm).2 hclaims
    have htaken : (ofNode a m).prune (anyOf fs) ∈ takenAll (anyOf fs) (origin page) :=
      mem_takenAll_origin.2 ⟨a, m, hm, picks_of_lastOf hlast, rfl⟩
    refine ⟨_, List.mem_filter.2 ⟨htaken, ?_⟩, ?_⟩
    · rwa [lastOf_prune]
    · rw [source_prune, source_ofNode]

/-- What is held are the claimed elements and all that was below one of them. -/
theorem mem_held_iff {n : Node} (h : Accounted (origin page) fs c) (hn : get? a page = some n) :
    a ∈ (nodesAll c.held).map source ↔
      ∃ as ∈ fs.map fun f => hits f 0 page, ∃ b ∈ as, b <+: a := by
  rw [((nodesAll_perm h.held_perm).map source).mem_iff, List.mem_map]
  constructor
  · rintro ⟨q, hq, rfl⟩
    obtain ⟨t, ht, hqt⟩ := mem_nodesAll.1 hq
    obtain ⟨b, m, hm, hpicks, rfl⟩ := mem_takenAll_origin.1 ht
    obtain ⟨as, has, hb⟩ := (picks_anyOf_iff hm).1 hpicks
    exact ⟨as, has, b, hb, source_of_mem_prune hqt⟩
  · rintro ⟨as, has, b, hb, hba⟩
    have hmem : (ofNode a n).prune (anyOf fs) ∈ (nodesAll (origin page)).map (prune (anyOf fs)) :=
      List.mem_map_of_mem (mem_nodesAll_origin.2 ⟨a, n, hn, rfl⟩)
    have hsource : ((ofNode a n).prune (anyOf fs)).source = a := by rw [source_prune, source_ofNode]
    -- the node went one way or the other, and what stays lies below no claimed element
    rcases List.mem_append.1 ((nodesAll_cut _ _).mem_iff.2 hmem) with hkept | htaken
    · obtain ⟨f, hf, rfl⟩ := List.mem_map.1 has
      obtain ⟨m, hm, _⟩ := mem_hits.1 hb
      have hany := (picks_iff hm).1 ((picks_anyOf_iff hm).2 ⟨_, has, hb⟩)
      refine absurd ?_ (not_below_of_kept [] 0 page hkept b hany)
      rwa [hsource, List.nil_append]
    · exact ⟨_, htaken, hsource⟩

/-- Below a node that is held are those of its children, in order, that nobody claims. -/
theorem map_source_children {q : Placed} (h : Accounted (origin page) fs c)
    (hq : q ∈ nodesAll c.held) :
    q.children.map source =
      ((List.range q.here.children.length).map fun i => q.source ++ [i]).filter
        fun a => decide (∀ as ∈ fs.map fun f => hits f 0 page, a ∉ as) := by
  obtain ⟨a, m, hm, rfl⟩ := h.mem_held hq
  have hchildren : (List.range m.children.length).map (fun i => a ++ [i]) =
      (ofForest a 0 m.children).map source := by
    rw [map_source_ofForest, List.range_eq_range']
  rw [children_prune, children_ofNode, source_prune, here_prune, source_ofNode, here_ofNode,
    hchildren, keptAll_eq, List.map_map, List.filter_map, source_comp_prune]
  refine congrArg _ (List.filter_congr fun p hp => ?_)
  -- a child has an address in the page too, so whether it was taken shows in the claims
  have hchild : p ∈ nodesAll (origin page) :=
    mem_nodesAll_child (mem_nodesAll_origin.2 ⟨a, m, hm, rfl⟩) (by rwa [children_ofNode])
  obtain ⟨b, m', hm', rfl⟩ := mem_nodesAll_origin.1 hchild
  rw [Function.comp_apply, source_ofNode, Bool.eq_iff_iff, Bool.not_eq_true', ← Bool.not_eq_true,
    picks_anyOf_iff hm', decide_eq_true_eq]
  exact ⟨fun hno as has ha => hno ⟨as, has, ha⟩, fun hno ⟨as, has, ha⟩ => hno as has ha⟩

/-- When all is accounted for, regions hold what they claim. -/
theorem rearranged (h : Accounted (origin page) fs c) :
    Rearranged page (fs.map fun f => hits f 0 page) c.regions where
  same q hq := by
    obtain ⟨a, m, hm, rfl⟩ := h.mem_held hq
    rwa [source_prune, here_prune, source_ofNode, here_ofNode]
  once := h.nodup_held
  claimed _ _ hr _ := h.mem_region_iff hr
  present _ _ hn := h.mem_held_iff hn
  below _ hq := h.map_source_children hq

end Accounted

/-- **Regions move elements and copy none, and the last claim wins.** If selectors look at tags alone,
the page that is put together from regions has one element for each of them, in order and with its name,
and an element that selectors describe is in the region of the last of them. -/
theorem compose_rearranged (p : Page) {plan : List Region} {ss : List Selector}
    (hss : List.Forall₂ (fun r s => compileSelector r.selector = .ok s) plan ss)
    (hown : ∀ s ∈ ss, s.isOwn = true) :
    ∃ regions : List Holding,
      p.compose plan = .ok (fragment (regions.map Holding.wrapped)) ∧
      regions.map Holding.name = plan.map Region.name ∧
      Rearranged p.nodes (ss.map fun s => s.select p.nodes) regions := by
  have hstart : (Traced.mk (origin p.nodes) []).erase = ⟨p.nodes, []⟩ := by
    rw [Traced.erase, origin, eraseAll_ofForest]
    rfl
  obtain ⟨c, hrun, hnames, haccount⟩ :=
    foldlM_addRegion hss hown (sound_origin p.nodes) (accounted_start (origin p.nodes))
  refine ⟨c.regions, ?_, hnames, ?_⟩
  · rw [compose, ← hstart, hrun]
    rfl
  · have hclaims : (ss.map fun s => s.select p.nodes) =
        ([] ++ ss.map Selector.fitsTag).map fun f => hits f 0 p.nodes := by
      rw [List.nil_append, List.map_map]
      exact List.map_congr_left fun s hs => select_own (hown s hs) p.nodes
    rw [hclaims]
    exact haccount.rearranged

/-- A page with elements inside of one another. -/
def boxed : Page :=
  fragment [.element ⟨.html, "div", [⟨.plain, "class", "top".toList⟩]⟩ []
      [.text "T".toList, Node.wrapper "b" [.text "x".toList]],
    Node.wrapper "header" [.text "H".toList, Node.wrapper "b" [.text "y".toList]],
    Node.wrapper "p" [.text "z".toList]]

/-- Regions one of which comes twice and has the name of an element that another one asks for. -/
def boxedPlan : List Region := [⟨"header", ".top"⟩, ⟨"all", "header, b"⟩, ⟨"header", ".top"⟩]

theorem compose_rearranged_boxed :
    ∃ regions : List Holding,
      boxed.compose boxedPlan = .ok (fragment (regions.map Holding.wrapped)) ∧
      regions.map Holding.name = ["header", "all", "header"] ∧
      Rearranged boxed.nodes [[[0]], [[0, 1], [1], [1, 1]], [[0]]] regions := by
  have hss : List.Forall₂ (fun r s => compileSelector r.selector = .ok s) boxedPlan
      [[⟨[.classToken "top".toList], []⟩],
        [⟨[.type "header".toList], []⟩, ⟨[.type "b".toList], []⟩],
        [⟨[.classToken "top".toList], []⟩]] := .cons rfl (.cons rfl (.cons rfl .nil))
  exact compose_rearranged boxed hss (by decide)

end Page

end HtmlCanon
