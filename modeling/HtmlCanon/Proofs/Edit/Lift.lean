import HtmlCanon.Proofs.Edit.Pass
import HtmlCanon.Proofs.Fault

/-!
# Taking elements out of a page at once

A transform may take elements away, with what they hold or without it. They are edited one after the
other, and by the time one of them has its turn it may have been moved or taken away with another.
What comes out is nevertheless what a single pass over the page makes of it.

* `Placed.liftAll` : one pass, which takes all marked nodes away.
* `Placed.liftAll_liftAll` : **two passes come to one**, so the order of edits does not count.
* `Placed.standingsAll_liftAll` : all other nodes stay as they are, in order, below the same nodes.
* `Placed.replaceAll_hits` : the edits of a page, made at addresses, are such a pass.
* `Page.transform_atOnce` : **transforms act on all elements at once.**
-/

namespace HtmlCanon

open Html Html.Forest

/-- A node by itself: its data, or its tag and content, without the nodes below it. -/
def Html.Node.own : Node → Node
  | .element t c _ => .element t c []
  | n => n

namespace Html.Placed

/-! ### Passes -/

mutual

/-- What stands in place of a node when the marked ones are taken away; what is below a marked node
stays in its place or goes with it. -/
def lift (keeps : Bool) (m : Address → Bool) : Placed → List Placed
  | node a n ps =>
    if m a then (if keeps then liftAll keeps m ps else [])
    else [node a n (liftAll keeps m ps)]

/-- A forest without its marked nodes. -/
def liftAll (keeps : Bool) (m : Address → Bool) : List Placed → List Placed
  | [] => []
  | p :: ps => lift keeps m p ++ liftAll keeps m ps

end

variable {keeps : Bool} {m m' : Address → Bool}

theorem liftAll_append (ps qs : List Placed) :
    liftAll keeps m (ps ++ qs) = liftAll keeps m ps ++ liftAll keeps m qs := by
  induction ps with
  | nil => rfl
  | cons p ps ih => rw [List.cons_append, liftAll, liftAll, ih, List.append_assoc]

mutual

theorem lift_none (p : Placed) : lift keeps (fun _ => false) p = [p] := by
  cases p with
  | node a n ps => rw [lift, if_neg (by decide), liftAll_none ps]

/-- Without marks everything stays. -/
theorem liftAll_none (ps : List Placed) : liftAll keeps (fun _ => false) ps = ps := by
  cases ps with
  | nil => rfl
  | cons p ps => rw [liftAll, lift_none p, liftAll_none ps, List.singleton_append]

end

mutual

theorem liftAll_lift (p : Placed) :
    liftAll keeps m' (lift keeps m p) = lift keeps (fun a => m a || m' a) p := by
  cases p with
  | node a n ps =>
    have hps := liftAll_liftAll ps
    rw [lift, lift]
    cases hm : m a with
    | true =>
      rw [if_pos rfl, Bool.true_or, if_pos rfl]
      cases keeps with
      | true => exact hps
      | false => rfl
    | false =>
      rw [if_neg (by decide), Bool.false_or, liftAll, liftAll, List.append_nil, lift, hps]

/-- **Two passes come to one**: what is marked in either is taken away. -/
theorem liftAll_liftAll (ps : List Placed) :
    liftAll keeps m' (liftAll keeps m ps) = liftAll keeps (fun a => m a || m' a) ps := by
  cases ps with
  | nil => rfl
  | cons p ps => rw [liftAll, liftAll_append, liftAll_lift p, liftAll_liftAll ps, liftAll]

end

/-- Nodes taken away one by one. A node that is no longer there when its turn comes is passed over. -/
def liftEach (keeps : Bool) (as : List Address) (ps : List Placed) : List Placed :=
  as.foldl (fun ps a => liftAll keeps (· == a) ps) ps

/-- **One by one is at once.** -/
theorem liftEach_eq (as : List Address) (ps : List Placed) :
    liftEach keeps as ps = liftAll keeps (as.contains ·) ps := by
  induction as generalizing ps with
  | nil => exact (liftAll_none ps).symm
  | cons a as ih =>
    have hmarks : (fun b => b == a || as.contains b) = ((a :: as).contains ·) := by
      funext b
      rw [List.contains_cons]
    rw [liftEach, List.foldl_cons, ← liftEach, ih, liftAll_liftAll, hmarks]

/-! ### What stays -/

/-- A node of a page and where it stands: the addresses of the nodes above it, the nearest first. -/
structure Standing where
  source : Address
  here : Node
  above : List Address

mutual

/-- A node and all below it, in document order, with where they stand. -/
def standings (up : List Address) : Placed → List Standing
  | node a n ps => ⟨a, n, up⟩ :: standingsAll (a :: up) ps

/-- The nodes of a forest, in document order, with where they stand. -/
def standingsAll (up : List Address) : List Placed → List Standing
  | [] => []
  | p :: ps => standings up p ++ standingsAll up ps

end

namespace Standing

/-- Whether a node stays when the marked ones are taken away. -/
def stays (keeps : Bool) (m : Address → Bool) (s : Standing) : Bool :=
  !m s.source && (keeps || s.above.all (!m ·))

/-- Where a node stands when the marked ones are gone. -/
def without (m : Address → Bool) (s : Standing) : Standing :=
  { s with above := s.above.filter (!m ·) }

end Standing

mutual

theorem above_of_mem_standings {s : Standing} {up : List Address} {p : Placed}
    (h : s ∈ standings up p) : up <:+ s.above := by
  cases p with
  | node a n ps =>
    rcases List.mem_cons.1 h with rfl | h
    · exact List.suffix_refl up
    · exact (List.suffix_cons a up).trans (above_of_mem_standingsAll h)

/-- What a forest stands below is above each of its nodes. -/
theorem above_of_mem_standingsAll {s : Standing} {up : List Address} {ps : List Placed}
    (h : s ∈ standingsAll up ps) : up <:+ s.above := by
  cases ps with
  | nil => cases h
  | cons p ps =>
    rcases List.mem_append.1 h with h | h
    · exact above_of_mem_standings h
    · exact above_of_mem_standingsAll h

end

/-- Nothing stays below a marked node that is taken away with what it holds. -/
theorem filter_stays_eq_nil {a : Address} (ha : m a = true) (up : List Address) (ps : List Placed) :
    (standingsAll (a :: up) ps).filter (Standing.stays false m) = [] := by
  refine List.filter_eq_nil_iff.2 fun s hs hstays => ?_
  simp only [Standing.stays, Bool.and_eq_true, Bool.false_or, List.all_eq_true] at hstays
  have hnot := hstays.2 a ((above_of_mem_standingsAll hs).subset List.mem_cons_self)
  rw [ha] at hnot
  cases hnot

theorem standingsAll_append (up : List Address) (ps qs : List Placed) :
    standingsAll up (ps ++ qs) = standingsAll up ps ++ standingsAll up qs := by
  induction ps with
  | nil => rfl
  | cons p ps ih => rw [List.cons_append, standingsAll, standingsAll, ih, List.append_assoc]

mutual

theorem standingsAll_lift {up : List Address} (hup : (keeps || up.all (!m ·)) = true) (p : Placed) :
    standingsAll (up.filter (!m ·)) (lift keeps m p) =
      ((standings up p).filter (Standing.stays keeps m)).map (Standing.without m) := by
  cases p with
  | node a n ps =>
    rw [lift, standings, List.filter_cons, Standing.stays, hup, Bool.and_true]
    cases ha : m a with
    | true =>
      rcases Bool.eq_false_or_eq_true keeps with hk | hk
      · have hbelow : (keeps || (a :: up).all (!m ·)) = true := by rw [hk]; rfl
        have hps := standingsAll_liftAll hbelow ps
        rw [List.filter_cons, ha] at hps
        rw [hk] at hps ⊢
        exact hps
      · rw [hk, filter_stays_eq_nil ha]
        rfl
    | false =>
      have hbelow : (keeps || (a :: up).all (!m ·)) = true := by rw [List.all_cons, ha]; exact hup
      have hps := standingsAll_liftAll hbelow ps
      rw [List.filter_cons, ha] at hps
      show standingsAll _ [node a n (liftAll keeps m ps)] = _ :: _
      rw [standingsAll, standings, standingsAll, List.append_nil, ← hps]
      rfl

/-- **What stays.** All nodes stay that are not marked, and, if nothing is kept of what marked nodes
hold, not below a marked one. They are as they were, in the same order, and below the same nodes but
for the marked ones. -/
theorem standingsAll_liftAll {up : List Address} (hup : (keeps || up.all (!m ·)) = true)
    (ps : List Placed) :
    standingsAll (up.filter (!m ·)) (liftAll keeps m ps) =
      ((standingsAll up ps).filter (Standing.stays keeps m)).map (Standing.without m) := by
  cases ps with
  | nil => rfl
  | cons p ps =>
    rw [liftAll, standingsAll_append, standingsAll_lift hup p, standingsAll_liftAll hup ps,
      standingsAll, List.filter_append, List.map_append]

end

/-! ### The nodes of a page -/

mutual

theorem standings_map (up : List Address) (p : Placed) :
    (standings up p).map (fun s => (s.source, s.here)) = (nodes p).map fun q => (q.source, q.here) := by
  cases p with
  | node a n ps => exact congrArg _ (standingsAll_map (a :: up) ps)

/-- Standings are those of all nodes, in document order. -/
theorem standingsAll_map (up : List Address) (ps : List Placed) :
    (standingsAll up ps).map (fun s => (s.source, s.here)) =
      (nodesAll ps).map fun q => (q.source, q.here) := by
  cases ps with
  | nil => rfl
  | cons p ps =>
    rw [standingsAll, nodesAll, List.map_append, List.map_append, standings_map up p,
      standingsAll_map up ps]

end

/-! ### What nodes hold -/

theorem Sound.append {ps qs : List Placed} (hps : Sound ps) (hqs : Sound qs) : Sound (ps ++ qs) := by
  intro q hq
  rw [nodesAll_append] at hq
  rcases List.mem_append.1 hq with hq | hq
  · exact hps q hq
  · exact hqs q hq

theorem Sound.self {p : Placed} {ps : List Placed} (h : Sound (p :: ps)) :
    p.here.isElement = false → p.children = [] :=
  h p (by rw [nodesAll, nodes_eq]; exact List.mem_append_left _ List.mem_cons_self)

mutual

theorem sound_lift (p : Placed) (h : p.here.isElement = false → p.children = [])
    (hps : Sound p.children) : Sound (lift keeps m p) := by
  cases p with
  | node a n ps =>
    have hbelow : Sound (liftAll keeps m ps) := sound_liftAll ps hps
    rw [lift]
    split
    · split
      · exact hbelow
      · exact fun q hq => absurd hq List.not_mem_nil
    · intro q hq
      rw [nodesAll, nodesAll, List.append_nil, nodes, List.mem_cons] at hq
      rcases hq with rfl | hq
      · intro hn
        show liftAll keeps m ps = []
        rw [show ps = [] from h hn, liftAll]
      · exact hbelow q hq

/-- Only elements have nodes below them, also when nodes are taken away. -/
theorem sound_liftAll (ps : List Placed) (h : Sound ps) : Sound (liftAll keeps m ps) := by
  cases ps with
  | nil => exact fun q hq => absurd hq List.not_mem_nil
  | cons p ps => exact (sound_lift p h.self h.children).append (sound_liftAll ps h.tail)

end

mutual

theorem own_erase (p : Placed) (h : p.here.isElement = false → p.children = [])
    (hps : Sound p.children) (up : Address) (k : Nat) :
    (nodes (ofNode (up ++ [k]) p.erase)).map (·.here.own) = (nodes p).map (·.here.own) := by
  cases p with
  | node a n ps =>
    cases n with
    | element t c ms => exact congrArg (_ :: ·) (own_eraseAll ps hps (up ++ [k]) 0)
    | _ => rw [show ps = [] from h rfl]; rfl

/-- The nodes of a forest, as they are now, have the data that they had where they come from. -/
theorem own_eraseAll (ps : List Placed) (h : Sound ps) (up : Address) (k : Nat) :
    (nodesAll (ofForest up k (eraseAll ps))).map (·.here.own) = (nodesAll ps).map (·.here.own) := by
  cases ps with
  | nil => rfl
  | cons p ps =>
    rw [eraseAll, ofForest, nodesAll, nodesAll, List.map_append, List.map_append,
      own_erase p h.self h.children, own_eraseAll ps h.tail]

end

/-! ### Edits at addresses -/

/-- What an element leaves behind. -/
def remains (keeps : Bool) (n : Node) : List Node := if keeps then n.children else []

/-- A node that is no element is edited nowhere. -/
theorem lift_leaf {a : Address} {n : Node} (hn : n.isElement = false) (hm : m a = false) :
    eraseAll (lift keeps m (ofNode a n)) = [n] := by
  cases n with
  | element t c cs => cases hn
  | _ => rw [ofNode, lift, hm, if_neg (by decide), eraseAll, erase, eraseAll] <;> nofun

mutual

theorem editAt_remains (up : Address) (k : Nat) (n : Node)
    (hm : ∀ q ∈ nodes (ofNode (up ++ [k]) n), m q.source = true → q.here.isElement = true) :
    editAt (remains keeps) m (up ++ [k]) n = eraseAll (lift keeps m (ofNode (up ++ [k]) n)) := by
  have hleaf : n.isElement = false → m (up ++ [k]) = false := by
    intro hn
    have hhere := hm (ofNode (up ++ [k]) n) (by rw [nodes_eq]; exact List.mem_cons_self)
    rw [source_ofNode, here_ofNode, hn] at hhere
    exact Bool.eq_false_iff.2 fun h => absurd (hhere h) (by decide)
  cases n with
  | element t c cs =>
    rw [editAt, editFrom_remains (up ++ [k]) 0 cs fun q hq => hm q (List.mem_cons_of_mem _ hq), ofNode,
      lift]
    split
    · cases keeps <;> rfl
    · rfl
  | text d => exact (lift_leaf rfl (hleaf rfl)).symm
  | comment d => exact (lift_leaf rfl (hleaf rfl)).symm
  | doctype d => exact (lift_leaf rfl (hleaf rfl)).symm

/-- Edits that leave nothing of marked elements, or only what they hold, take them away. -/
theorem editFrom_remains (up : Address) (k : Nat) (ns : List Node)
    (hm : ∀ q ∈ nodesAll (ofForest up k ns), m q.source = true → q.here.isElement = true) :
    editFrom (remains keeps) m up k ns = eraseAll (liftAll keeps m (ofForest up k ns)) := by
  cases ns with
  | nil => rfl
  | cons n ns =>
    rw [editFrom, editAt_remains up k n fun q hq => hm q (List.mem_append_left _ hq),
      editFrom_remains up (k + 1) ns fun q hq => hm q (List.mem_append_right _ hq), ofForest,
      liftAll, eraseAll_append]

end

/-- **Edits at the addresses of marked elements** take them away in one pass. -/
theorem replaceAll_hits (up : Address) (k : Nat) (ns : List Node)
    (hm : ∀ q ∈ nodesAll (ofForest up k ns), m q.source = true → q.here.isElement = true) :
    replaceAll (remains keeps) ((hits (fun _ => true) 0 ns).filter fun a => m (up ++ shift k a)) ns =
      eraseAll (liftAll keeps m (ofForest up k ns)) :=
  (replaceAll_editFrom (remains keeps) m up k ns).trans (editFrom_remains up k ns hm)

end Html.Placed

/-! ### Transforms that take elements away -/

/-- Whether a transform takes elements away and, if so, whether it keeps what they hold. -/
def Transform.lifts? : Transform → Option Bool
  | remove _ => some false
  | strip _ => some true
  | unwrap _ => some true
  | unwrapRoot _ => none
  | removeClass _ _ => none

open Html.Placed

theorem Page.transformAt_lift {t : Transform} {keeps : Bool} (ht : t.lifts? = some keeps) (p : Page)
    (c : Css.Selector) :
    p.transformAt t c = ⟨p.shape, replaceAll (remains keeps) (c.select p.nodes) p.nodes⟩ := by
  cases t with
  | unwrapRoot s => cases ht
  | removeClass s d => cases ht
  | _ => cases ht; rfl

/-- **Transforms act on all elements at once.** What is left of a page is what one pass makes of it,
which puts what is left of the nodes below an element in its place, or nothing at all. It is also what
comes out when the elements are taken away one by one, in any order and any number of times. All other
nodes stay, in order and below the same nodes but for those that were taken away, with their data. -/
theorem Page.transform_atOnce {p : Page} {t : Transform} {keeps : Bool} {c : Css.Selector}
    (ht : t.lifts? = some keeps) (hc : compileSelector t.selector = .ok c) :
    let m : Address → Bool := (c.select p.nodes).contains
    let left := liftAll keeps m (origin p.nodes)
    p.transform t = .ok ⟨p.shape, eraseAll left⟩ ∧
      (∀ as, (∀ a, a ∈ as ↔ a ∈ c.select p.nodes) → liftEach keeps as (origin p.nodes) = left) ∧
      standingsAll [] left =
        ((standingsAll [] (origin p.nodes)).filter (Standing.stays keeps m)).map (Standing.without m) ∧
      (nodesAll (origin (eraseAll left))).map (·.here.own) =
        ((standingsAll [] (origin p.nodes)).filter (Standing.stays keeps m)).map (·.here.own) := by
  intro m left
  have hsub := select_sublist c p.nodes
  -- only elements are marked
  have hm : ∀ q ∈ nodesAll (origin p.nodes), m q.source = true → q.here.isElement = true := by
    intro q hq hmarked
    obtain ⟨a, n, hn, rfl⟩ := mem_nodesAll_origin.1 hq
    rw [source_ofNode] at hmarked
    obtain ⟨n', hn', htag⟩ := mem_hits.1 (hsub.mem (List.contains_iff_mem.1 hmarked))
    obtain rfl : n' = n := Option.some.inj (hn'.symm.trans hn)
    rw [here_ofNode]
    cases n' with
    | element t c ns => rfl
    | _ => cases htag
  have hpass : replaceAll (remains keeps) (c.select p.nodes) p.nodes = eraseAll left := by
    have hmarks : (fun a => m ([] ++ shift 0 a)) = (c.select p.nodes).contains := by
      funext a
      rw [List.nil_append, shift_zero]
    have hhits : _ = eraseAll left := replaceAll_hits [] 0 p.nodes hm
    rwa [hmarks, eq_filter_hits hsub] at hhits
  have hstand : standingsAll [] left =
      ((standingsAll [] (origin p.nodes)).filter (Standing.stays keeps m)).map (Standing.without m) :=
    standingsAll_liftAll (show (keeps || [].all (!m ·)) = true from Bool.or_true keeps) (origin p.nodes)
  refine ⟨bind_eq_ok.2 ⟨c, hc, ?_⟩, fun as has => ?_, hstand, ?_⟩
  · rw [transformAt_lift ht, hpass]
    rfl
  · have hmarks : as.contains = m := by
      funext a
      rw [Bool.eq_iff_iff, List.contains_iff_mem, List.contains_iff_mem]
      exact has a
    rw [liftEach_eq, hmarks]
  · have hown : (standingsAll [] left).map (·.here.own) = (nodesAll left).map (·.here.own) := by
      have hall := congrArg (List.map fun x : Address × Node => x.2.own) (standingsAll_map [] left)
      rwa [List.map_map, List.map_map] at hall
    rw [origin, own_eraseAll left (sound_liftAll _ (sound_origin p.nodes)), ← hown, hstand, List.map_map]
    rfl

/-- Bold text in bold text, both of which are put away for what they hold. -/
theorem Page.transform_atOnce_nestedBold :
    (fragment [.wrapper "b" [.text ['a'], .wrapper "b" [.text ['b']]], .text ['c']]).transform
        (.strip "b") =
      .ok (fragment [.text ['a'], .text ['b'], .text ['c']]) := by
  have hselects : (compileSelector "b").toOption.map (·.select
      [.wrapper "b" [.text ['a'], .wrapper "b" [.text ['b']]], .text ['c']]) = some [[0], [0, 1]] := by
    decide +kernel
  obtain ⟨c, hc, hselect⟩ := Option.map_eq_some_iff.1 hselects
  refine (transform_atOnce (t := .strip "b") rfl (eq_ok_of_toOption hc)).1.trans ?_
  dsimp only [fragment]
  rw [hselect]
  rfl

end HtmlCanon
