import HtmlCanon.Proofs.Edit.Extract
import Mathlib.Data.List.Perm.Basic

/-!
# Nodes that remember where they came from

When elements are moved about, a node is told from others that look alike by its address in the page
it comes from. A forest of such nodes is cut along the elements of some sort: these come out, each
without the ones below it, and the rest stays.

* `Placed.nodesAll_cut` : **cutting moves nodes and copies none**.
* `Placed.keptAll_keptAll`, `Placed.keptAll_takenAll`, `Placed.takenAll_cut` : two cuts in a row
  come to one.
* `Placed.extract_hits` : taking out the addresses of the elements of some sort is a cut.
-/

namespace HtmlCanon.Html

/-- A node of a page, its address there, and the nodes that are below it now. -/
inductive Placed where
  | node (source : Address) (here : Node) (children : List Placed)

namespace Placed

/-- The address that a node had in the page it comes from. -/
def source : Placed → Address
  | node a _ _ => a

/-- A node as it was in the page it comes from. -/
def here : Placed → Node
  | node _ n _ => n

/-- The nodes directly below. -/
def children : Placed → List Placed
  | node _ _ ps => ps

/-- Whether a node is an element with a tag of some sort. -/
def picks (f : Tag → Bool) (p : Placed) : Bool := p.here.isTagged f

mutual

/-- A node as it is now. -/
def erase : Placed → Node
  | node _ (.element t c _) ps => .element t c (eraseAll ps)
  | node _ n _ => n

/-- The nodes of a forest as they are now. -/
def eraseAll : List Placed → List Node
  | [] => []
  | p :: ps => erase p :: eraseAll ps

end

mutual

/-- All nodes at or below a node, in document order. -/
def nodes : Placed → List Placed
  | node a n ps => node a n ps :: nodesAll ps

/-- All nodes of a forest, in document order. -/
def nodesAll : List Placed → List Placed
  | [] => []
  | p :: ps => nodes p ++ nodesAll ps

end

mutual

/-- A node without the elements of some sort below it. -/
def prune (f : Tag → Bool) : Placed → Placed
  | node a n ps => node a n (keptAll f ps)

/-- What is left of a forest without the elements of some sort. -/
def keptAll (f : Tag → Bool) : List Placed → List Placed
  | [] => []
  | p :: ps => if p.picks f then keptAll f ps else prune f p :: keptAll f ps

end

/-- The elements of some sort in a forest, each without those below it, in document order. -/
def takenAll (f : Tag → Bool) (ps : List Placed) : List Placed :=
  ((nodesAll ps).filter (picks f)).map (prune f)

variable (f g : Tag → Bool)

/-! ### Small facts -/

@[simp] theorem source_prune (p : Placed) : (p.prune f).source = p.source := by cases p; rfl

theorem source_comp_prune : source ∘ prune f = source := funext (source_prune f)

@[simp] theorem here_prune (p : Placed) : (p.prune f).here = p.here := by cases p; rfl

@[simp] theorem children_prune (p : Placed) : (p.prune f).children = keptAll f p.children := by cases p; rfl

@[simp] theorem picks_prune (p : Placed) : (p.prune f).picks g = p.picks g := by
  rw [picks, here_prune, picks]

theorem nodes_eq (p : Placed) : p.nodes = p :: nodesAll p.children := by cases p; rfl

theorem nodesAll_append (ps qs : List Placed) : nodesAll (ps ++ qs) = nodesAll ps ++ nodesAll qs := by
  induction ps with
  | nil => rfl
  | cons p ps ih => rw [List.cons_append, nodesAll, nodesAll, ih, List.append_assoc]

theorem nodesAll_flatMap (ps : List Placed) : nodesAll ps = ps.flatMap nodes := by
  induction ps with
  | nil => rfl
  | cons p ps ih => rw [nodesAll, ih, List.flatMap_cons]

theorem keptAll_eq (ps : List Placed) :
    keptAll f ps = (ps.filter fun p => !p.picks f).map (prune f) := by
  induction ps with
  | nil => rfl
  | cons p ps ih => cases h : p.picks f <;> simp [keptAll, h, ih]

theorem eraseAll_eq (ps : List Placed) : eraseAll ps = ps.map erase := by
  induction ps with
  | nil => rfl
  | cons p ps ih => rw [eraseAll, ih, List.map_cons]

theorem takenAll_append (ps qs : List Placed) :
    takenAll f (ps ++ qs) = takenAll f ps ++ takenAll f qs := by
  rw [takenAll, nodesAll_append, List.filter_append, List.map_append, takenAll, takenAll]

theorem takenAll_cons (p : Placed) (ps : List Placed) :
    takenAll f (p :: ps) =
      (if p.picks f then [p.prune f] else []) ++ takenAll f p.children ++ takenAll f ps := by
  rw [takenAll, nodesAll, nodes_eq, List.filter_append, List.map_append, List.filter_cons]
  split <;> rfl

theorem keptAll_append (ps qs : List Placed) :
    keptAll f (ps ++ qs) = keptAll f ps ++ keptAll f qs := by
  rw [keptAll_eq, keptAll_eq, keptAll_eq, List.filter_append, List.map_append]

theorem mem_nodesAll {q : Placed} {ps : List Placed} : q ∈ nodesAll ps ↔ ∃ p ∈ ps, q ∈ p.nodes := by
  rw [nodesAll_flatMap, List.mem_flatMap]

mutual

theorem mem_nodes_child {p q r : Placed} (h : q ∈ nodes p) (hr : r ∈ q.children) : r ∈ nodes p := by
  cases p with
  | node a n ps =>
    rcases List.mem_cons.1 h with rfl | h
    · exact List.mem_cons_of_mem _ (mem_nodesAll.2 ⟨r, hr, by rw [nodes_eq]; exact List.mem_cons_self⟩)
    · exact List.mem_cons_of_mem _ (mem_nodesAll_child h hr)

/-- A node directly below one of a forest is a node of the forest. -/
theorem mem_nodesAll_child {ps : List Placed} {q r : Placed} (h : q ∈ nodesAll ps)
    (hr : r ∈ q.children) : r ∈ nodesAll ps := by
  cases ps with
  | nil => cases h
  | cons p ps =>
    rcases List.mem_append.1 h with h | h
    · exact List.mem_append_left _ (mem_nodes_child h hr)
    · exact List.mem_append_right _ (mem_nodesAll_child h hr)

end

theorem nodesAll_perm {ps qs : List Placed} (h : ps.Perm qs) : (nodesAll ps).Perm (nodesAll qs) := by
  rw [nodesAll_flatMap, nodesAll_flatMap]
  exact h.flatMap_right nodes

theorem takenAll_perm {ps qs : List Placed} (h : ps.Perm qs) :
    (takenAll f ps).Perm (takenAll f qs) := ((nodesAll_perm h).filter _).map _

theorem keptAll_perm {ps qs : List Placed} (h : ps.Perm qs) : (keptAll f ps).Perm (keptAll f qs) := by
  rw [keptAll_eq, keptAll_eq]
  exact (h.filter _).map _

/-! ### One cut -/

mutual

theorem nodes_cut (p : Placed) :
    (nodesAll (keptAll f p.children) ++ nodesAll (takenAll f p.children)).Perm
      ((nodesAll p.children).map (prune f)) := by
  cases p with
  | node a n ps => exact nodesAll_cut ps

/-- **Cutting moves nodes and copies none**: every node of a forest is afterwards in what is left or
in what was taken out, once, without the nodes below it that were taken out. -/
theorem nodesAll_cut (ps : List Placed) :
    (nodesAll (keptAll f ps) ++ nodesAll (takenAll f ps)).Perm ((nodesAll ps).map (prune f)) := by
  cases ps with
  | nil => exact .nil
  | cons p ps =>
    have hp := nodes_cut p
    have hps := nodesAll_cut ps
    have hsplit : ((nodesAll (p :: ps)).map (prune f)) =
        p.prune f :: ((nodesAll p.children).map (prune f) ++ (nodesAll ps).map (prune f)) := by
      rw [nodesAll, nodes_eq, List.map_append, List.map_cons, List.cons_append]
    have hnode : nodes (p.prune f) = p.prune f :: nodesAll (keptAll f p.children) := by
      rw [nodes_eq, children_prune]
    -- name the four parts, and move the nodes left behind the first one past those taken from it
    rw [hsplit, takenAll_cons, keptAll, nodesAll_append, nodesAll_append]
    refine List.Perm.trans ?_ ((hp.append hps).cons _)
    cases p.picks f with
    | true =>
      rw [if_pos rfl, if_pos rfl, nodesAll, nodesAll, List.append_nil, hnode]
      refine (List.perm_append_comm_assoc _ (_ :: _ ++ _) _).trans ?_
      simp only [List.cons_append, List.append_assoc, List.Perm.refl]
    | false =>
      rw [if_neg (by decide), if_neg (by decide), nodesAll, nodesAll, List.nil_append, hnode]
      simp only [List.cons_append, List.append_assoc]
      exact ((List.perm_append_comm_assoc _ _ _).append_left _).cons _

end

/-- What comes out of a cut or stays behind is a node of the forest, pruned. -/
theorem mem_nodesAll_takenAll {ps : List Placed} {q : Placed} (h : q ∈ nodesAll (takenAll f ps)) :
    ∃ p ∈ nodesAll ps, p.prune f = q :=
  List.mem_map.1 ((nodesAll_cut f ps).mem_iff.1 (List.mem_append_right _ h))

theorem mem_nodesAll_keptAll {ps : List Placed} {q : Placed} (h : q ∈ nodesAll (keptAll f ps)) :
    ∃ p ∈ nodesAll ps, p.prune f = q :=
  List.mem_map.1 ((nodesAll_cut f ps).mem_iff.1 (List.mem_append_left _ h))

mutual

theorem prune_none (h : ∀ p : Placed, p.picks f = false) (p : Placed) : p.prune f = p := by
  cases p with
  | node a n ps => rw [prune, keptAll_none h ps]

/-- A cut along no elements leaves everything. -/
theorem keptAll_none (h : ∀ p : Placed, p.picks f = false) (ps : List Placed) : keptAll f ps = ps := by
  cases ps with
  | nil => rfl
  | cons p ps => rw [keptAll, h, if_neg (by decide), prune_none h p, keptAll_none h ps]

end

theorem takenAll_none (h : ∀ p : Placed, p.picks f = false) (ps : List Placed) :
    takenAll f ps = [] := by
  rw [takenAll, List.filter_eq_nil_iff.2 fun p _ => by rw [h]; decide, List.map_nil]

/-! ### Two cuts in a row -/

/-- The tags of either sort. -/
def either (t : Tag) : Bool := f t || g t

theorem picks_either (p : Placed) : p.picks (either f g) = (p.picks f || p.picks g) := by
  unfold picks Node.isTagged
  cases p.here.tag? <;> rfl

mutual

theorem prune_prune (p : Placed) : (p.prune f).prune g = p.prune (either f g) := by
  cases p with
  | node a n ps => rw [prune, prune, prune, keptAll_keptAll ps]

/-- What two cuts leave is what is in neither. -/
theorem keptAll_keptAll (ps : List Placed) : keptAll g (keptAll f ps) = keptAll (either f g) ps := by
  cases ps with
  | nil => rfl
  | cons p ps =>
    have hp := prune_prune p
    have hps := keptAll_keptAll ps
    rw [keptAll, keptAll, picks_either]
    cases hf : p.picks f with
    | true => exact hps
    | false =>
      rw [if_neg (by decide), keptAll, picks_prune, Bool.false_or, hp, hps]

end

theorem prune_comp_prune : prune g ∘ prune f = prune (either f g) := funext (prune_prune f g)

theorem keptAll_filter (q : Placed → Bool) (h : ∀ p, q (p.prune f) = q p) (ps : List Placed) :
    keptAll f (ps.filter q) = (keptAll f ps).filter q := by
  have hcomp : (q ∘ prune f) = q := funext h
  rw [keptAll_eq, keptAll_eq, List.filter_map, hcomp, List.filter_filter, List.filter_filter]
  exact congrArg _ (List.filter_congr fun p _ => Bool.and_comm _ _)

/-- A second cut leaves, of what the first one took, all that it does not take itself. -/
theorem keptAll_takenAll (ps : List Placed) :
    keptAll g (takenAll f ps) = (takenAll (either f g) ps).filter fun p => !p.picks g := by
  rw [keptAll_eq, takenAll, takenAll, List.filter_map, List.filter_map, List.map_map, prune_comp_prune,
    List.filter_filter, List.filter_filter]
  refine congrArg _ (List.filter_congr fun p _ => ?_)
  simp only [Function.comp_apply, picks_prune, picks_either]
  cases p.picks f <;> cases p.picks g <;> rfl

/-- **A second cut takes** from what the first one left and from what it took. -/
theorem takenAll_cut (ps : List Placed) :
    (takenAll g (keptAll f ps) ++ takenAll g (takenAll f ps)).Perm
      ((takenAll (either f g) ps).filter (picks g)) := by
  have hall : (takenAll (either f g) ps).filter (picks g) =
      (((nodesAll ps).map (prune f)).filter (picks g)).map (prune g) := by
    rw [takenAll, List.filter_map, List.filter_map, List.map_map, prune_comp_prune,
      List.filter_filter]
    refine congrArg _ (List.filter_congr fun p _ => ?_)
    simp only [Function.comp_apply, picks_prune, picks_either]
    cases p.picks f <;> cases p.picks g <;> rfl
  -- both parts are searched in one list, which holds every node of the forest, pruned
  have hboth : takenAll g (keptAll f ps) ++ takenAll g (takenAll f ps) =
      ((nodesAll (keptAll f ps) ++ nodesAll (takenAll f ps)).filter (picks g)).map (prune g) := by
    rw [List.filter_append, List.map_append, takenAll, takenAll]
  rw [hall, hboth]
  exact ((nodesAll_cut f ps).filter _).map _

/-! ### Cutting a forest at addresses -/

/-- Whether only elements have nodes below. -/
def Sound (ps : List Placed) : Prop :=
  ∀ q ∈ nodesAll ps, q.here.isElement = false → q.children = []

theorem Sound.of_prune {ps qs : List Placed} (h : Sound ps)
    (hqs : ∀ q ∈ nodesAll qs, ∃ p ∈ nodesAll ps, p.prune f = q) : Sound qs := by
  intro q hq he
  obtain ⟨p, hp, rfl⟩ := hqs q hq
  rw [here_prune] at he
  rw [children_prune, h p hp he]
  rfl

theorem Sound.children {p : Placed} {ps : List Placed} (h : Sound (p :: ps)) : Sound p.children := by
  intro q hq
  refine h q ?_
  rw [nodesAll, nodes_eq]
  exact List.mem_append_left _ (List.mem_cons_of_mem _ hq)

theorem Sound.tail {p : Placed} {ps : List Placed} (h : Sound (p :: ps)) : Sound ps :=
  fun q hq => h q (List.mem_append_right _ hq)

theorem eraseAll_append (ps qs : List Placed) : eraseAll (ps ++ qs) = eraseAll ps ++ eraseAll qs := by
  rw [eraseAll_eq, eraseAll_eq, eraseAll_eq, List.map_append]

open Forest

mutual

theorem extract_hitsAt (p : Placed) (h : p.here.isElement = false → p.children = [])
    (hps : Sound p.children) (ns : List Node) :
    extract (hitsAt f 0 p.erase) (p.erase :: ns) =
      (eraseAll ((if p.picks f then [p.prune f] else []) ++ takenAll f p.children),
        (if p.picks f then [] else [(p.prune f).erase]) ++ ns) := by
  cases p with
  | node a n ps =>
    -- the last addresses come first: what is below leaves the element before the element is taken
    have hbelow := extract_hits ps hps
    cases n with
    | element t c ms =>
      rw [erase, hitsAt, extract_append, extract_below fun b hb => ne_nil_of_mem_hits hb, hbelow,
        eraseAll_append]
      show _ = (eraseAll (if f t = true then _ else _) ++ _, (if f t = true then _ else _) ++ ns)
      by_cases ht : f t = true
      · simp only [if_pos ht, extract_cons, extract_nil, get?_zero, replaceAt_zero]
        rfl
      · simp only [if_neg ht, extract_nil]
        rfl
    | text d => rw [show ps = [] from h rfl]; rfl
    | comment d => rw [show ps = [] from h rfl]; rfl
    | doctype d => rw [show ps = [] from h rfl]; rfl

/-- **Taking out the elements of some sort is a cut.** -/
theorem extract_hits (ps : List Placed) (h : Sound ps) :
    extract (hits f 0 (eraseAll ps)) (eraseAll ps) =
      (eraseAll (takenAll f ps), eraseAll (keptAll f ps)) := by
  cases ps with
  | nil => rfl
  | cons p ps =>
    have hself : p.here.isElement = false → p.children = [] :=
      h p (by rw [nodesAll, nodes_eq]; exact List.mem_append_left _ List.mem_cons_self)
    have hp := extract_hitsAt p hself h.children
    have hps := extract_hits ps h.tail
    rw [eraseAll, hits, hits_succ, extract_append, extract_next fun b hb => ne_nil_of_mem_hits hb, hps]
    dsimp only
    rw [hp, takenAll_cons, keptAll, eraseAll_append _ (takenAll f ps)]
    split <;> rfl

end

end Placed

end HtmlCanon.Html
