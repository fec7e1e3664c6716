import HtmlCanon.Edit.TextRule
import HtmlCanon.Proofs.Edit.Excerpt

/-!
# Rules for the texts below some elements

A rule for some elements goes through those of them that lie below no other one, and changes all that
they hold. A text may lie below several elements that the rule is for; it is changed once, whichever
of them the rule goes through. The elements are looked up anew for each rule, in the page as the
rules before have left it.

* `Placed.nodesAll_mapTextsFrom` : only texts change, each as told by where it stands.
* `Forest.editFrom_tops` : **going through the tops** changes every text that is covered, once.
* `Page.mapTextsAt_eq` : one rule.
* `Page.applyRules_eq` : **all rules, one after the other.**
-/

namespace HtmlCanon

open Html Html.Forest

namespace Html

namespace Node

mutual

/-- Changes every text at or below a node, which stands at the given address, depending on where it
stands; template content is left alone. -/
def mapTextAt (g : Address → Text → Text) (a : Address) : Node → Node
  | text d => text (g a d)
  | comment d => comment d
  | doctype d => doctype d
  | element t c ns => element t c (mapTextsFrom g a 0 ns)

/-- Changes every text of a forest below an address, counted from `k` on, depending on where it
stands. -/
def mapTextsFrom (g : Address → Text → Text) (up : Address) (k : Nat) : List Node → List Node
  | [] => []
  | n :: ns => mapTextAt g (up ++ [k]) n :: mapTextsFrom g up (k + 1) ns

end

end Node

open Node Placed

/-! ### What a change of texts leaves alone -/

namespace Placed

variable (g : Address → Text → Text)

mutual

theorem nodes_mapTextAt (a : Address) (n : Node) :
    (nodes (ofNode a (mapTextAt g a n))).map (fun q => (q.source, q.here.own)) =
      (nodes (ofNode a n)).map fun q => (q.source, q.here.own.mapTextAt g q.source) := by
  cases n with
  | element t c ns => exact congrArg (_ :: ·) (nodesAll_mapTextsFrom a 0 ns)
  | _ => rfl

/-- **Only texts change.** All nodes stay where they are, and a node that is no text keeps its data or
its tag and content. -/
theorem nodesAll_mapTextsFrom (up : Address) (k : Nat) (ns : List Node) :
    (nodesAll (ofForest up k (mapTextsFrom g up k ns))).map (fun q => (q.source, q.here.own)) =
      (nodesAll (ofForest up k ns)).map fun q => (q.source, q.here.own.mapTextAt g q.source) := by
  cases ns with
  | nil => rfl
  | cons n ns =>
    have hn := nodes_mapTextAt (up ++ [k]) n
    have hns := nodesAll_mapTextsFrom up (k + 1) ns
    rw [mapTextsFrom, ofForest, ofForest, nodesAll, nodesAll, List.map_append, List.map_append, hn, hns]

end

end Placed

namespace Forest

variable (f : Text → Text) {g : Node → List Node} {m : Address → Bool}

/-- The change of a text that is made below marked addresses only. -/
def whenCovered (m : Address → Bool) (a : Address) (d : Text) : Text :=
  if isCovered m a then f d else d

/-! ### Below a marked element -/

mutual

theorem editAt_within {up : Address} (h : isWithin m up = true) (k : Nat) (n : Node) :
    editAt g (isTop m) (up ++ [k]) n = [n] := by
  have hwithin : isWithin m (up ++ [k]) = true := by rw [isWithin_concat, h, Bool.true_or]
  have htop : isTop m (up ++ [k]) = false := by
    rw [isTop, isCovered_concat, h, Bool.not_true, Bool.and_false]
  cases n with
  | element t c ns => rw [editAt, htop, if_neg (by decide), editFrom_within hwithin 0 ns]
  | _ => rfl

/-- No element below a marked one is a top, so nothing is edited there. -/
theorem editFrom_within {up : Address} (h : isWithin m up = true) (k : Nat) (ns : List Node) :
    editFrom g (isTop m) up k ns = ns := by
  cases ns with
  | nil => rfl
  | cons n ns => rw [editFrom, editAt_within h k n, editFrom_within h (k + 1) ns, List.singleton_append]

end

mutual

theorem mapTextAt_within {up : Address} (h : isWithin m up = true) (k : Nat) (n : Node) :
    mapTextAt (whenCovered f m) (up ++ [k]) n = mapText f n := by
  have hwithin : isWithin m (up ++ [k]) = true := by rw [isWithin_concat, h, Bool.true_or]
  cases n with
  | text d => rw [mapTextAt, mapText, whenCovered, isCovered_concat, h, if_pos rfl]
  | element t c ns => rw [mapTextAt, mapText, mapTextsFrom_within hwithin 0 ns]
  | _ => rfl

/-- Every text below a marked element is covered. -/
theorem mapTextsFrom_within {up : Address} (h : isWithin m up = true) (k : Nat) (ns : List Node) :
    mapTextsFrom (whenCovered f m) up k ns = mapTexts f ns := by
  cases ns with
  | nil => rfl
  | cons n ns =>
    rw [mapTextsFrom, mapTexts, mapTextAt_within h k n, mapTextsFrom_within h (k + 1) ns]

end

/-! ### Going through the tops -/

mutual

theorem editAt_tops {up : Address} (h : isWithin m up = false) (k : Nat) (n : Node) :
    editAt (fun n => [n.mapText f]) (isTop m) (up ++ [k]) n =
      [mapTextAt (whenCovered f m) (up ++ [k]) n] := by
  have hwithin : isWithin m (up ++ [k]) = m (up ++ [k]) := by
    rw [isWithin_concat, h, Bool.false_or]
  have htop : isTop m (up ++ [k]) = m (up ++ [k]) := by
    rw [isTop, isCovered_concat, h]
    exact Bool.and_true _
  cases n with
  | text d =>
    have htext : whenCovered f m (up ++ [k]) d = d := by
      rw [whenCovered, isCovered_concat, h, if_neg (by decide)]
    rw [mapTextAt, htext]
    rfl
  | element t c ns =>
    rw [editAt, mapTextAt, htop]
    cases hk : m (up ++ [k]) with
    | true =>
      -- what is below is edited by this element and by no other one
      rw [if_pos rfl, mapText, editFrom_within (hwithin.trans hk), mapTextsFrom_within f (hwithin.trans hk)]
    | false => rw [if_neg (by decide), editFrom_tops (hwithin.trans hk) 0 ns]
  | _ => rfl

/-- **Going through the tops**, all they hold is changed, which is every text below a marked element. -/
theorem editFrom_tops {up : Address} (h : isWithin m up = false) (k : Nat) (ns : List Node) :
    editFrom (fun n => [n.mapText f]) (isTop m) up k ns = mapTextsFrom (whenCovered f m) up k ns := by
  cases ns with
  | nil => rfl
  | cons n ns =>
    rw [editFrom, mapTextsFrom, editAt_tops h k n, editFrom_tops h (k + 1) ns, List.singleton_append]

end

end Forest

end Html

/-! ### Rules -/

open Html.Placed

/-- The page with every text changed that lies below one of some elements. -/
def Page.rewriteCovered (p : Page) (f : Text → Text) (as : List Address) : Page :=
  { p with nodes := Node.mapTextsFrom (whenCovered f as.contains) [] 0 p.nodes }

/-- **One rule** changes every text that lies below an element that the selector describes, once. -/
theorem Page.mapTextsAt_eq (p : Page) (f : Text → Text) (c : Css.Selector) :
    p.mapTextsAt f c = p.rewriteCovered f (c.select p.nodes) := by
  have houter := outermost_select c p.nodes
  have htops : (outermost (c.select p.nodes)).contains = isTop (c.select p.nodes).contains := by
    funext a
    rw [houter, Bool.eq_iff_iff, List.contains_iff_mem, List.mem_filter, isTop, Bool.and_eq_true,
      List.contains_iff_mem]
  have hfew : (outermost (c.select p.nodes)).Sublist (hits (fun _ => true) 0 p.nodes) := by
    rw [houter]
    exact List.filter_sublist.trans (select_sublist c p.nodes)
  have hpass : replaceAll (fun n => [n.mapText f]) (outermost (c.select p.nodes)) p.nodes =
      Node.mapTextsFrom (whenCovered f (c.select p.nodes).contains) [] 0 p.nodes := by
    rw [replaceAll_eq_editFrom _ hfew, htops, editFrom_tops f rfl]
  rw [mapTextsAt, rewriteCovered, hpass]

/-- **All rules, one after the other.** Each one is made on the page as those before it have left it:
what its selector describes there tells which texts are covered, and each of them is replaced once by
what the rule makes of it. The shape of the page, where its nodes stand, all other texts, and comments,
doctypes, tags and template contents stay. -/
theorem Page.applyRules_eq {rs : List TextRule} {cs : List Css.Selector}
    (h : List.Forall₂ (fun r c => ∃ s, r.selector = some s ∧ compileSelector s = .ok c) rs cs)
    (p : Page) :
    p.applyRules rs =
        .ok ((rs.zip cs).foldl (fun q rc => q.rewriteCovered rc.1.apply (rc.2.select q.nodes)) p) ∧
      ∀ (q : Page) (f : Text → Text) (as : List Address),
        (q.rewriteCovered f as).shape = q.shape ∧
          (nodesAll (origin (q.rewriteCovered f as).nodes)).map (fun n => (n.source, n.here.own)) =
            (nodesAll (origin q.nodes)).map fun n =>
              (n.source, if isCovered as.contains n.source then n.here.own.mapText f else n.here.own) := by
  refine ⟨?_, fun q f as => ⟨rfl, ?_⟩⟩
  · induction h generalizing p with
    | nil => rfl
    | @cons r c rs cs hr _ ih =>
      obtain ⟨s, hs, hc⟩ := hr
      have hrule : p.applyRule r = .ok (p.rewriteCovered r.apply (c.select p.nodes)) := by
        rw [applyRule, hs, ← mapTextsAt_eq]
        exact bind_eq_ok.2 ⟨c, hc, rfl⟩
      rw [applyRules, List.foldlM_cons, List.zip_cons_cons, List.foldl_cons]
      exact bind_eq_ok.2 ⟨_, hrule, ih _⟩
  · have hown : ∀ (a : Address) (n : Node), n.own.mapTextAt (whenCovered f as.contains) a =
        if isCovered as.contains a then n.own.mapText f else n.own := by
      intro a n
      cases n with
      | text d =>
        show Node.text (if isCovered as.contains a then f d else d) =
          if isCovered as.contains a then Node.text (f d) else Node.text d
        split <;> rfl
      | _ => exact (ite_self _).symm
    refine (nodesAll_mapTextsFrom _ [] 0 q.nodes).trans (List.map_congr_left fun n _ => ?_)
    rw [hown]

/-- A page with a text and a paragraph in two nested blocks, and a paragraph beside them. -/
def Page.nestedBlocks (block paragraph : Text) : Page :=
  fragment [.wrapper "div" [.wrapper "div" [.text block, .wrapper "p" [.text paragraph]]],
    .wrapper "p" [.text ['a', 'b']]]

/-- Text in two nested elements is changed once, and a paragraph that the first rule empties is one
for the second rule. -/
theorem Page.applyRules_eq_nestedBlocks :
    ∃ r r' : TextRule, TextRule.ofPair (some "div") ("ab", "") = .ok r ∧
      TextRule.ofPair (some "p:empty") ("^", "y") = .ok r' ∧
      (nestedBlocks ['a', 'a', 'b', 'b'] ['a', 'b']).applyRules [r, r'] =
        .ok (nestedBlocks ['a', 'b'] ['y']) := by
  have hfirst : (TextRule.ofPair (some "div") ("ab", "")).toOption.map
      (fun r => (r.selector, r.apply ['a', 'a', 'b', 'b'], r.apply ['a', 'b'])) =
        some (some "div", ['a', 'b'], []) := by
    decide +kernel
  have hsecond : (TextRule.ofPair (some "p:empty") ("^", "y")).toOption.map
      (fun r => (r.selector, r.apply [])) = some (some "p:empty", ['y']) := by
    decide +kernel
  have hdivs : (compileSelector "div").toOption.map
      (·.select (nestedBlocks ['a', 'a', 'b', 'b'] ['a', 'b']).nodes) = some [[0], [0, 0]] := by
    decide +kernel
  have hempty : (compileSelector "p:empty").toOption.map (·.select (nestedBlocks ['a', 'b'] []).nodes) =
      some [[0, 0, 1]] := by
    decide +kernel
  obtain ⟨r, hr, happly⟩ := Option.map_eq_some_iff.1 hfirst
  obtain ⟨r', hr', happly'⟩ := Option.map_eq_some_iff.1 hsecond
  obtain ⟨c, hc, hselect⟩ := Option.map_eq_some_iff.1 hdivs
  obtain ⟨c', hc', hselect'⟩ := Option.map_eq_some_iff.1 hempty
  simp only [Prod.mk.injEq] at happly happly'
  obtain ⟨hselector, hblock, hparagraph⟩ := happly
  obtain ⟨hselector', hblank⟩ := happly'
  -- what the first rule leaves is what the second selector is asked about
  have hmid : (nestedBlocks ['a', 'a', 'b', 'b'] ['a', 'b']).rewriteCovered r.apply [[0], [0, 0]] =
      nestedBlocks ['a', 'b'] [] := by
    show nestedBlocks (r.apply ['a', 'a', 'b', 'b']) (r.apply ['a', 'b']) = _
    rw [hblock, hparagraph]
  have hlast : (nestedBlocks ['a', 'b'] []).rewriteCovered r'.apply [[0, 0, 1]] =
      nestedBlocks ['a', 'b'] ['y'] := by
    show nestedBlocks ['a', 'b'] (r'.apply []) = _
    rw [hblank]
  have hrun := (applyRules_eq (.cons ⟨_, hselector, eq_ok_of_toOption hc⟩
    (.cons ⟨_, hselector', eq_ok_of_toOption hc'⟩ .nil))
    (nestedBlocks ['a', 'a', 'b', 'b'] ['a', 'b'])).1
  refine ⟨r, r', eq_ok_of_toOption hr, eq_ok_of_toOption hr', hrun.trans (congrArg Except.ok ?_)⟩
  rw [List.zip_cons_cons, List.zip_cons_cons, List.zip_nil_left, List.foldl_cons, List.foldl_cons,
    List.foldl_nil, hselect, hmid, hselect', hlast]

end HtmlCanon
