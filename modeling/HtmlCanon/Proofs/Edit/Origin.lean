import HtmlCanon.Proofs.Edit.Placed

/-!
# Nodes where they were read

Before anything is moved, every node of a page stands at its own address. What a cut takes and what it
leaves can then be told by addresses alone.

* `Placed.mem_nodesAll_origin` : the nodes of a page are the nodes at its addresses.
* `Placed.pairwise_sources` : **addresses come in order**, so no two nodes have one address.
* `Placed.hits_eq` : the addresses of the elements of some sort are those of the nodes that are cut.
* `Placed.not_below_of_kept` : **nothing that stays lies below an element that is cut out.**
-/

namespace HtmlCanon.Html.Placed

open Forest

mutual

/-- A node at an address, with all that is below it. -/
def ofNode (a : Address) : Node → Placed
  | .element t c ns => node a (.element t c ns) (ofForest a 0 ns)
  | n => node a n []

/-- The nodes below an address, counted from `k` on, with all that is below them. -/
def ofForest (up : Address) (k : Nat) : List Node → List Placed
  | [] => []
  | n :: ns => ofNode (up ++ [k]) n :: ofForest up (k + 1) ns

end

/-- The nodes of a page where they were read. -/
def origin (ns : List Node) : List Placed := ofForest [] 0 ns

variable {f : Tag → Bool}

@[simp] theorem source_ofNode (a : Address) (n : Node) : (ofNode a n).source = a := by cases n <;> rfl

@[simp] theorem here_ofNode (a : Address) (n : Node) : (ofNode a n).here = n := by cases n <;> rfl

@[simp] theorem children_ofNode (a : Address) (n : Node) :
    (ofNode a n).children = ofForest a 0 n.children := by cases n <;> rfl

@[simp] theorem picks_ofNode (a : Address) (n : Node) : (ofNode a n).picks f = n.isTagged f := by
  rw [picks, here_ofNode]

mutual

theorem erase_ofNode (a : Address) (n : Node) : (ofNode a n).erase = n := by
  cases n with
  | element t c ns => rw [ofNode, erase, eraseAll_ofForest a 0 ns]
  | _ => rfl

/-- Without the addresses it is the same forest. -/
theorem eraseAll_ofForest (up : Address) (k : Nat) (ns : List Node) :
    eraseAll (ofForest up k ns) = ns := by
  cases ns with
  | nil => rfl
  | cons n ns => rw [ofForest, eraseAll, erase_ofNode _ n, eraseAll_ofForest up (k + 1) ns]

end

theorem map_source_ofForest (up : Address) (k : Nat) (ns : List Node) :
    (ofForest up k ns).map source = (List.range' k ns.length).map fun i => up ++ [i] := by
  induction ns generalizing k with
  | nil => rfl
  | cons n ns ih =>
    rw [ofForest, List.map_cons, ih, source_ofNode, List.length_cons, List.range'_succ, List.map_cons]

/-! ### The nodes of a page and their addresses -/

mutual

theorem mem_nodes_ofNode {q : Placed} (up : Address) (k : Nat) (n : Node) :
    q ∈ nodes (ofNode (up ++ [k]) n) ↔
      ∃ b m, get? (0 :: b) [n] = some m ∧ q = ofNode (up ++ k :: b) m := by
  -- below an element the count starts again, and its own number joins the way down
  have hbelow : q ∈ nodesAll (ofForest (up ++ [k]) 0 n.children) ↔
      ∃ j b m, get? (j :: b) n.children = some m ∧ q = ofNode (up ++ k :: j :: b) m := by
    cases n with
    | element t c ns =>
      have h := mem_nodesAll_ofForest (q := q) (up ++ [k]) 0 ns
      simp only [Nat.zero_add, List.append_assoc, List.singleton_append] at h
      exact h
    | _ => simp [Node.children, ofForest, nodesAll, get?]
  rw [nodes_eq, children_ofNode, List.mem_cons, hbelow]
  constructor
  · rintro (rfl | ⟨j, b, m, hm, rfl⟩)
    · exact ⟨[], n, get?_zero n [], rfl⟩
    · exact ⟨j :: b, m, (get?_below (List.cons_ne_nil _ _) n []).trans hm, rfl⟩
  · rintro ⟨b, m, hm, rfl⟩
    cases b with
    | nil =>
      rw [get?_zero, Option.some.injEq] at hm
      exact .inl (by rw [hm])
    | cons j b =>
      rw [get?_below (List.cons_ne_nil _ _)] at hm
      exact .inr ⟨j, b, m, hm, rfl⟩

theorem mem_nodesAll_ofForest {q : Placed} (up : Address) (k : Nat) (ns : List Node) :
    q ∈ nodesAll (ofForest up k ns) ↔
      ∃ j b m, get? (j :: b) ns = some m ∧ q = ofNode (up ++ (k + j) :: b) m := by
  cases ns with
  | nil => simp [ofForest, nodesAll, get?]
  | cons n ns =>
    have hn := mem_nodes_ofNode (q := q) up k n
    have hns := mem_nodesAll_ofForest (q := q) up (k + 1) ns
    rw [ofForest, nodesAll, List.mem_append, hn, hns]
    constructor
    · rintro (⟨b, m, hm, rfl⟩ | ⟨j, b, m, hm, rfl⟩)
      · exact ⟨0, b, m, (get?_first b n ns []).trans hm, rfl⟩
      · refine ⟨j + 1, b, m, (get?_next (List.cons_ne_nil _ _) n ns).trans hm, ?_⟩
        rw [Nat.add_right_comm, Nat.add_assoc]
    · rintro ⟨j, b, m, hm, rfl⟩
      cases j with
      | zero => exact .inl ⟨b, m, (get?_first b n [] ns).trans hm, rfl⟩
      | succ j =>
        refine .inr ⟨j, b, m, (get?_next (List.cons_ne_nil _ _) n ns).symm.trans hm, ?_⟩
        rw [Nat.add_right_comm, Nat.add_assoc]

end

/-- The nodes of a page are the nodes at its addresses. -/
theorem mem_nodesAll_origin {q : Placed} {ns : List Node} :
    q ∈ nodesAll (origin ns) ↔ ∃ a m, get? a ns = some m ∧ q = ofNode a m := by
  rw [origin, mem_nodesAll_ofForest]
  constructor
  · rintro ⟨j, b, m, hm, rfl⟩
    exact ⟨j :: b, m, hm, by rw [List.nil_append, Nat.zero_add]⟩
  · rintro ⟨a, m, hm, rfl⟩
    cases a with
    | nil => rw [get?] at hm; cases hm
    | cons j b => exact ⟨j, b, m, hm, by rw [List.nil_append, Nat.zero_add]⟩

theorem sound_origin (ns : List Node) : Sound (origin ns) := by
  intro q hq he
  obtain ⟨a, m, _, rfl⟩ := mem_nodesAll_origin.1 hq
  rw [here_ofNode] at he
  cases m with
  | element t c ms => cases he
  | _ => rfl

/-- A node of a list of siblings or below one has an address that goes through one of them. -/
theorem source_of_mem {q : Placed} {up : Address} {k : Nat} {ns : List Node}
    (h : q ∈ nodesAll (ofForest up k ns)) : ∃ j b, k ≤ j ∧ q.source = up ++ j :: b := by
  obtain ⟨j, b, m, _, rfl⟩ := (mem_nodesAll_ofForest up k ns).1 h
  exact ⟨k + j, b, Nat.le_add_right k j, source_ofNode _ _⟩

mutual

theorem pairwise_sourcesAt (a : Address) (n : Node) :
    ((nodes (ofNode a n)).map source).Pairwise (· < ·) := by
  have hbelow : ((nodesAll (ofForest a 0 n.children)).map source).Pairwise (· < ·) := by
    cases n with
    | element t c ns => exact pairwise_sources a 0 ns
    | _ => exact .nil
  rw [nodes_eq, children_ofNode, List.map_cons, source_ofNode, List.pairwise_cons]
  refine ⟨fun b hb => ?_, hbelow⟩
  obtain ⟨q, hq, rfl⟩ := List.mem_map.1 hb
  obtain ⟨j, b, _, hsource⟩ := source_of_mem hq
  have hlonger : a ++ [] < a ++ j :: b := List.append_left_lt (List.nil_lt_cons j b)
  rwa [hsource, ← List.append_nil a, List.append_assoc]

/-- **Addresses come in order**, number by number, in document order. -/
theorem pairwise_sources (up : Address) (k : Nat) (ns : List Node) :
    ((nodesAll (ofForest up k ns)).map source).Pairwise (· < ·) := by
  cases ns with
  | nil => exact .nil
  | cons n ns =>
    -- addresses at or below the first node go on with `k`, the others with a larger number
    have hn := pairwise_sourcesAt (up ++ [k]) n
    have hns := pairwise_sources up (k + 1) ns
    rw [ofForest, nodesAll, List.map_append, List.pairwise_append]
    refine ⟨hn, hns, fun a hleft a' hright => ?_⟩
    obtain ⟨p, hp, rfl⟩ := List.mem_map.1 hleft
    obtain ⟨q, hq, rfl⟩ := List.mem_map.1 hright
    obtain ⟨b, m, _, rfl⟩ := (mem_nodes_ofNode up k n).1 hp
    obtain ⟨j, c, hj, hsource⟩ := source_of_mem hq
    rw [source_ofNode, hsource]
    exact List.append_left_lt (List.cons_lt_cons_iff.2 (.inl hj))

end

/-- **No two nodes have one address.** -/
theorem nodup_sources (up : Address) (k : Nat) (ns : List Node) :
    ((nodesAll (ofForest up k ns)).map source).Nodup := by
  refine List.nodup_iff_pairwise_ne.2 ((pairwise_sources up k ns).imp ?_)
  rintro a _ hlt rfl
  exact List.lt_irrefl a hlt

/-! ### Cuts by addresses -/

mutual

theorem hitsAt_eq (up : Address) (k : Nat) (n : Node) :
    ((nodes (ofNode (up ++ [k]) n)).filter (picks f)).map source = (hitsAt f k n).map (up ++ ·) := by
  cases n with
  | element t c ns =>
    have hbelow := hits_eq (up ++ [k]) 0 ns
    have hhere : (ofNode (up ++ [k]) (.element t c ns)).picks f = f t := picks_ofNode _ _
    rw [nodes_eq, List.filter_cons, hhere, children_ofNode, hitsAt]
    split <;> simp [Node.children, hbelow, Function.comp_def]
  | _ => rfl

/-- The addresses of the elements of some sort are those of the nodes that are cut out. -/
theorem hits_eq (up : Address) (k : Nat) (ns : List Node) :
    ((nodesAll (ofForest up k ns)).filter (picks f)).map source = (hits f k ns).map (up ++ ·) := by
  cases ns with
  | nil => rfl
  | cons n ns =>
    rw [ofForest, nodesAll, List.filter_append, List.map_append, hitsAt_eq up k n,
      hits_eq up (k + 1) ns, hits, List.map_append]

end

theorem mem_hits {a : Address} {ns : List Node} :
    a ∈ hits f 0 ns ↔ ∃ m, get? a ns = some m ∧ m.isTagged f = true := by
  have hall := hits_eq (f := f) [] 0 ns
  simp only [List.nil_append, List.map_id'] at hall
  rw [← hall, List.mem_map]
  constructor
  · rintro ⟨q, hq, rfl⟩
    obtain ⟨hmem, hpicks⟩ := List.mem_filter.1 hq
    obtain ⟨b, m, hm, rfl⟩ := mem_nodesAll_origin.1 hmem
    exact ⟨m, by rwa [source_ofNode], by rwa [picks_ofNode] at hpicks⟩
  · rintro ⟨m, hm, htag⟩
    refine ⟨ofNode a m, List.mem_filter.2 ⟨mem_nodesAll_origin.2 ⟨a, m, hm, rfl⟩, ?_⟩,
      source_ofNode a m⟩
    rw [picks_ofNode, htag]

/-- What stands at the address of an element of some sort is one. -/
theorem isTagged_of_mem_hits {a : Address} {ns : List Node} {n : Node} (ha : a ∈ hits f 0 ns)
    (hn : get? a ns = some n) : n.isTagged f = true := by
  obtain ⟨n', hn', htag⟩ := mem_hits.1 ha
  obtain rfl : n' = n := Option.some.inj (hn'.symm.trans hn)
  exact htag

/-- What is left of a node, or was taken from below it, is still below its address. -/
theorem source_of_mem_prune {q : Placed} {a : Address} {n : Node}
    (h : q ∈ nodes ((ofNode a n).prune f)) : a <+: q.source := by
  rw [nodes_eq, children_prune, children_ofNode, List.mem_cons] at h
  rcases h with rfl | h
  · exact ⟨[], by rw [List.append_nil, source_prune, source_ofNode]⟩
  · obtain ⟨p, hp, rfl⟩ := mem_nodesAll_keptAll f h
    obtain ⟨j, b, _, hsource⟩ := source_of_mem hp
    rw [source_prune, hsource]
    exact List.prefix_append _ _

mutual

theorem not_below_of_keptAt {q : Placed} (up : Address) (k : Nat) (n : Node)
    (hn : n.isTagged f = false) (hq : q ∈ nodes ((ofNode (up ++ [k]) n).prune f)) :
    ∀ a ∈ hitsAt f k n, ¬ up ++ a <+: q.source := by
  cases n with
  | element t c ns =>
    intro a ha hbelow
    have ht : f t = false := hn
    rw [hitsAt, if_neg (by rw [ht]; decide), List.nil_append] at ha
    obtain ⟨b, hb, rfl⟩ := List.mem_map.1 ha
    rw [nodes_eq, children_prune, children_ofNode, List.mem_cons] at hq
    rcases hq with rfl | hq
    · -- an address below a node is longer than its own
      have hlen := hbelow.length_le
      have hpos := List.length_pos_of_ne_nil (ne_nil_of_mem_hits hb)
      simp only [source_prune, source_ofNode, List.length_append, List.length_cons,
        List.length_nil] at hlen
      omega
    · refine not_below_of_kept (up ++ [k]) 0 ns hq b hb ?_
      rwa [List.append_assoc, List.singleton_append]
  | _ => intro a ha; cases ha

/-- **Nothing that stays lies below an element that is cut out.** -/
theorem not_below_of_kept {q : Placed} (up : Address) (k : Nat) (ns : List Node)
    (hq : q ∈ nodesAll (keptAll f (ofForest up k ns))) :
    ∀ a ∈ hits f k ns, ¬ up ++ a <+: q.source := by
  cases ns with
  | nil => intro a ha; cases ha
  | cons n ns =>
    have hnode := not_below_of_keptAt (q := q) up k n
    have hrest := not_below_of_kept (q := q) up (k + 1) ns
    intro a ha hbelow
    rw [ofForest, keptAll, picks_ofNode] at hq
    -- a node behind the first one and an address at or below it, or the other way round, part at once
    have hbehind : q ∈ nodesAll (keptAll f (ofForest up (k + 1) ns)) → False := by
      intro hq
      rcases List.mem_append.1 ha with ha | ha
      · obtain ⟨b, rfl⟩ := head_of_mem_hitsAt ha
        obtain ⟨p, hp, rfl⟩ := mem_nodesAll_keptAll f hq
        obtain ⟨j, c, hj, hsource⟩ := source_of_mem hp
        rw [source_prune, hsource, List.prefix_append_right_inj, List.cons_prefix_cons] at hbelow
        omega
      · exact hrest hq a ha hbelow
    cases hn : n.isTagged f with
    | true =>
      rw [hn, if_pos rfl] at hq
      exact hbehind hq
    | false =>
      rw [hn, if_neg (by decide), nodesAll, List.mem_append] at hq
      rcases hq with hq | hq
      · rcases List.mem_append.1 ha with ha | ha
        · exact hnode hn hq a ha hbelow
        · obtain ⟨j, b, hj, rfl⟩ := head_of_mem_hits ha
          obtain ⟨c, hc⟩ := source_of_mem_prune hq
          rw [← hc, List.append_assoc, List.prefix_append_right_inj, List.singleton_append,
            List.cons_prefix_cons] at hbelow
          omega
      · exact hbehind hq

end

end HtmlCanon.Html.Placed
