import HtmlCanon.Proofs.Edit.Lift
import HtmlCanon.Proofs.Text

/-!
# Taking a class away

An element has the classes that stand between the white space of its `class` attribute. To take one of
them away the attribute is cut at blanks, which are more than the white space of markup, and what is
left is joined by spaces. A class with a blank in it comes out in pieces, and each piece is a class
then.

* `Tag.WithoutClass` : what becomes of a tag.
* `Tag.WithoutClass.keeps_iff` : when the other classes stay.
* `Placed.nodesAll_editFrom_mapTag` : a change of tags is made at marked addresses only.
* `Page.transform_removeClass` : **taking a class away**, and when no other class comes or goes.
* `Page.transform_brokenName` : a class that an element gets as another one is taken away.
-/

namespace HtmlCanon

open Html Html.Forest Html.Placed Css

/-! ### Attributes -/

namespace Html.Tag

/-- Whether an attribute is the one in no namespace with a name. -/
def isNamed (name : String) (a : Attr) : Bool := a.space == .plain && a.name == name

theorem attr?_eraseAttr (t : Tag) (name : String) : (t.eraseAttr name).attr? name = none := by
  have hnone : (t.attrs.filter fun a => !isNamed name a).find? (isNamed name) = none :=
    List.find?_eq_none.2 fun a ha => by simpa using (List.mem_filter.1 ha).2
  exact congrArg (Option.map Attr.value) hnone

theorem attr?_setAttr {t : Tag} {name : String} (h : (t.attr? name).isSome = true) (value : Text) :
    (t.setAttr name value).attr? name = some value := by
  have hsame : (isNamed name) ∘ (fun a : Attr => if isNamed name a then { a with value } else a) =
      isNamed name := by
    funext a
    rw [Function.comp_apply]
    split <;> rfl
  obtain ⟨v, hv⟩ := Option.isSome_iff_exists.1 h
  obtain ⟨a, ha, -⟩ := Option.map_eq_some_iff.1 hv
  have hfound : (t.attrs.map fun a => if isNamed name a then { a with value } else a).find?
      (isNamed name) = some { a with value } := by
    rw [List.find?_map, hsame, show t.attrs.find? (isNamed name) = some a from ha]
    have hnamed : isNamed name a = true := List.find?_some ha
    rw [Option.map_some, if_pos hnamed]
  exact congrArg (Option.map Attr.value) hfound

/-- A new value leaves the other attributes as they are. -/
theorem filter_setAttr (t : Tag) (name : String) (value : Text) :
    (t.setAttr name value).attrs.filter (!isNamed name ·) = t.attrs.filter (!isNamed name ·) := by
  show (t.attrs.map fun a => if isNamed name a then { a with value } else a).filter _ = _
  induction t.attrs with
  | nil => rfl
  | cons a as ih =>
    rw [List.map_cons, List.filter_cons, List.filter_cons, ih]
    cases h : isNamed name a with
    | true =>
      have hset : isNamed name { a with value } = true := h
      rw [if_pos rfl, hset]
      rfl
    | false => rw [if_neg Bool.false_ne_true, h]

end Html.Tag

/-! ### Tags without a class -/

/-- Words that are joined by spaces are classes. -/
theorem fields_joined {ws : List Text} {v : Text} (h : ∀ w ∈ ws, w ∈ words v) :
    fields isMarkupSpace (List.intercalate [' '] ws) = ws := by
  refine fields_intercalate rfl fun w hw => ?_
  obtain ⟨hne, hblank⟩ := mem_fields (h w hw)
  refine ⟨hne, fun d hd => Bool.eq_false_iff.2 fun hspace => ?_⟩
  have hd := hblank d hd
  rw [isBlank_of_isMarkupSpace hspace] at hd
  cases hd

namespace Html.Tag

/-- A tag that is another one without a class. Its classes are the words of the other ones, and its
`class` attribute is left out or has them with a space between them. -/
structure WithoutClass (c : Text) (t t' : Tag) : Prop where
  space : t'.space = t.space
  name : t'.name = t.name
  others : t'.attrs.filter (!isNamed "class" ·) = t.attrs.filter (!isNamed "class" ·)
  left : classes t' = ((classes t).flatMap words).filter (· != c)
  value : t'.attr? "class" =
    if (classes t').isEmpty then none else some (List.intercalate [' '] (classes t'))

/-- Whether blanks cut the classes of a tag as the white space of markup does, but for a class that is
taken away. -/
structure CutsAlike (c : Text) (t : Tag) : Prop where
  /-- No other class has a blank in it. -/
  others : ∀ u ∈ classes t, u ≠ c → ∀ d ∈ u, isBlank d = false
  /-- The words of the class, if the element has it, are classes of the element. -/
  own : c ∈ classes t → ∀ w ∈ words c, w = c ∨ w ∈ classes t

variable {c : Text} {t t' : Tag}

theorem words_of_classes {v : Text} (hv : t.attr? "class" = some v) :
    words v = (classes t).flatMap words := by
  rw [classes, hv]
  exact fields_flatMap (fun _ => isBlank_of_isMarkupSpace) v

/-- **What becomes of a tag** when a class is taken away. -/
theorem withoutClass_dropClass (c : Text) (t : Tag) :
    WithoutClass c t (Transform.dropClass c t) := by
  cases hv : t.attr? "class" with
  | none =>
    have hclasses : classes t = [] := by rw [classes, hv]; rfl
    have hsame : Transform.dropClass c t = t := by rw [Transform.dropClass, hv]
    rw [hsame]
    exact ⟨rfl, rfl, rfl, by rw [hclasses]; rfl, by rw [hclasses, hv]; rfl⟩
  | some v =>
    have hwords := words_of_classes hv
    -- the words that are left are classes again, since no blank is in them
    set rest := (words v).filter (· != c) with hrest
    cases hempty : rest.isEmpty with
    | true =>
      have hdrop : Transform.dropClass c t = t.eraseAttr "class" := by
        rw [Transform.dropClass, hv]
        exact if_pos hempty
      have hclasses : classes (t.eraseAttr "class") = [] := by rw [classes, attr?_eraseAttr]; rfl
      have hfilter : (t.attrs.filter (!isNamed "class" ·)).filter (!isNamed "class" ·) =
          t.attrs.filter (!isNamed "class" ·) := by simp
      rw [hdrop]
      refine ⟨rfl, rfl, hfilter, ?_, ?_⟩
      · rw [hclasses, ← hwords, ← hrest, List.isEmpty_iff.1 hempty]
      · rw [hclasses, attr?_eraseAttr]
        rfl
    | false =>
      have hdrop : Transform.dropClass c t = t.setAttr "class" (List.intercalate [' '] rest) := by
        rw [Transform.dropClass, hv]
        exact if_neg (by rw [hempty]; decide)
      have hgiven : (t.attr? "class").isSome = true := by rw [hv]; rfl
      have hvalue := attr?_setAttr hgiven (List.intercalate [' '] rest)
      have hclasses : classes (t.setAttr "class" (List.intercalate [' '] rest)) = rest := by
        rw [classes, hvalue]
        exact fields_joined fun w hw => (List.mem_filter.1 hw).1
      rw [hdrop]
      refine ⟨rfl, rfl, filter_setAttr t "class" _, ?_, ?_⟩
      · rw [hclasses, ← hwords]
      · rw [hclasses, hvalue, hempty]
        rfl

/-! ### The other classes -/

theorem ne_nil_of_mem_classes {u : Text} (h : u ∈ classes t) : u ≠ [] := by
  cases hv : t.attr? "class" with
  | none =>
    rw [classes, hv] at h
    cases h
  | some v =>
    rw [classes, hv] at h
    exact (mem_fields h).1

theorem WithoutClass.mem_iff (h : WithoutClass c t t') {u : Text} (hu : u ≠ c) :
    u ∈ classes t' ↔ ∃ v ∈ classes t, u ∈ words v := by
  rw [h.left, List.mem_filter, List.mem_flatMap]
  exact and_iff_left (by simpa using hu)

theorem WithoutClass.not_mem (h : WithoutClass c t t') : c ∉ classes t' := by
  rw [h.left, List.mem_filter]
  simp

/-- **The other classes stay** if and only if blanks cut as white space does. -/
theorem WithoutClass.keeps_iff (h : WithoutClass c t t') :
    (∀ u, u ≠ c → (u ∈ classes t' ↔ u ∈ classes t)) ↔ CutsAlike c t := by
  constructor
  · intro hkeeps
    refine ⟨fun u hu hne => ?_, fun hc w hw => or_iff_not_imp_left.2 fun hne => ?_⟩
    · -- a class that stays is a word of some class
      obtain ⟨v, -, huv⟩ := (h.mem_iff hne).1 ((hkeeps u hne).2 hu)
      exact (mem_fields huv).2
    · exact (hkeeps w hne).1 ((h.mem_iff hne).2 ⟨c, hc, hw⟩)
  · intro hcuts u hne
    rw [h.mem_iff hne]
    constructor
    · rintro ⟨v, hv, huv⟩
      by_cases hvc : v = c
      · rw [hvc] at hv huv
        exact (hcuts.own hv u huv).resolve_left hne
      · have hword : words v = [v] := fields_of_none (ne_nil_of_mem_classes hv) (hcuts.others v hv hvc)
        rw [hword, List.mem_singleton] at huv
        rwa [huv]
    · intro hu
      refine ⟨u, hu, ?_⟩
      rw [words, fields_of_none (ne_nil_of_mem_classes hu) (hcuts.others u hu hne)]
      exact List.mem_singleton_self u

/-- There is a `class` attribute if there are classes. -/
theorem WithoutClass.isSome_iff (h : WithoutClass c t t') :
    (t'.attr? "class").isSome = true ↔ ∃ u ∈ classes t', u ≠ c := by
  have hother : ∀ u ∈ classes t', u ≠ c := fun u hu hc => h.not_mem (hc ▸ hu)
  rw [h.value]
  cases hleft : classes t' with
  | nil => simp
  | cons u us =>
    refine iff_of_true rfl ⟨u, List.mem_cons_self, hother u ?_⟩
    rw [hleft]
    exact List.mem_cons_self

end Html.Tag

/-! ### Changes of tags -/

namespace Html.Placed

variable (f : Tag → Tag) (m : Address → Bool)

mutual

theorem nodes_editAt_mapTag (up : Address) (k : Nat) (n : Node) :
    ∃ n', editAt (fun n => [n.mapTag f]) m (up ++ [k]) n = [n'] ∧
      (nodes (ofNode (up ++ [k]) n')).map (fun q => (q.source, q.here.own)) =
        (nodes (ofNode (up ++ [k]) n)).map fun q =>
          (q.source, if m q.source then q.here.own.mapTag f else q.here.own) := by
  cases n with
  | element t c ns =>
    have hbelow := nodesAll_editFrom_mapTag (up ++ [k]) 0 ns
    refine ⟨.element (if m (up ++ [k]) then f t else t) c
      (editFrom (fun n => [n.mapTag f]) m (up ++ [k]) 0 ns), ?_, ?_⟩
    · rw [editAt]
      split <;> rfl
    · rw [nodes_eq, nodes_eq, children_ofNode, children_ofNode, List.map_cons, List.map_cons,
        source_ofNode, source_ofNode, here_ofNode, here_ofNode, Node.children, hbelow]
      refine congrArg (· :: _) (congrArg (_, ·) ?_)
      split <;> rfl
  | _ => exact ⟨_, rfl, congrArg (fun n => [(_, n)]) (ite_self _).symm⟩

/-- **Only marked tags change.** -/
theorem nodesAll_editFrom_mapTag (up : Address) (k : Nat) (ns : List Node) :
    (nodesAll (ofForest up k (editFrom (fun n => [n.mapTag f]) m up k ns))).map
        (fun q => (q.source, q.here.own)) =
      (nodesAll (ofForest up k ns)).map fun q =>
        (q.source, if m q.source then q.here.own.mapTag f else q.here.own) := by
  cases ns with
  | nil => rfl
  | cons n ns =>
    obtain ⟨n', hedit, hn⟩ := nodes_editAt_mapTag up k n
    have hns := nodesAll_editFrom_mapTag up (k + 1) ns
    rw [editFrom, hedit, List.singleton_append, ofForest, ofForest, nodesAll, nodesAll, List.map_append,
      List.map_append, hn, hns]

end

end Html.Placed

/-! ### Pages whose nodes are changed where they stand -/

namespace Html

@[simp] theorem Node.tag?_own (n : Node) : n.own.tag? = n.tag? := by cases n <;> rfl

@[simp] theorem Node.tag?_mapTag (f : Tag → Tag) (n : Node) : (n.mapTag f).tag? = n.tag?.map f := by
  cases n <;> rfl

/-- The tag of the element at an address. -/
def Forest.tagAt? (a : Address) (ns : List Node) : Option Tag := (get? a ns).bind Node.tag?

theorem Forest.tagAt?_eq (a : Address) (ns : List Node) :
    tagAt? a ns = ((get? a ns).map Node.own).bind Node.tag? := by
  rw [tagAt?, Option.bind_map]
  exact congrArg (Option.bind _) (funext fun n => (Node.tag?_own n).symm)

namespace Placed

/-- The nodes of a page that are told by their addresses. -/
theorem mem_map_origin (g : Address → Node → Node) (ns : List Node) (a : Address) (x : Node) :
    (a, x) ∈ (nodesAll (origin ns)).map (fun q => (q.source, g q.source q.here.own)) ↔
      ((get? a ns).map fun n => g a n.own) = some x := by
  rw [List.mem_map, Option.map_eq_some_iff]
  constructor
  · rintro ⟨q, hq, hx⟩
    obtain ⟨b, n, hn, rfl⟩ := mem_nodesAll_origin.1 hq
    rw [source_ofNode, here_ofNode, Prod.mk.injEq] at hx
    obtain ⟨rfl, hx⟩ := hx
    exact ⟨n, hn, hx⟩
  · rintro ⟨n, hn, rfl⟩
    exact ⟨ofNode a n, mem_nodesAll_origin.2 ⟨a, n, hn, rfl⟩, by rw [source_ofNode, here_ofNode]⟩

/-- What stands at an address of a page in which each node is changed where it stands. -/
theorem get?_changed {g : Address → Node → Node} {ns ms : List Node}
    (h : (nodesAll (origin ms)).map (fun q => (q.source, q.here.own)) =
      (nodesAll (origin ns)).map fun q => (q.source, g q.source q.here.own)) (a : Address) :
    (get? a ms).map Node.own = (get? a ns).map fun n => g a n.own := by
  refine Option.ext fun x => ?_
  rw [← mem_map_origin g ns, ← h]
  exact (mem_map_origin (fun _ n => n) ms a x).symm

/-- Which tag stands where after marked tags are changed. -/
theorem tagAt?_editFrom (f : Tag → Tag) (m : Address → Bool) (ns : List Node) (a : Address) :
    tagAt? a (editFrom (fun n => [n.mapTag f]) m [] 0 ns) =
      (tagAt? a ns).map fun t => if m a then f t else t := by
  have hchanged := get?_changed (g := fun a n => if m a then n.mapTag f else n)
    (nodesAll_editFrom_mapTag f m [] 0 ns) a
  rw [tagAt?_eq, hchanged, tagAt?]
  cases get? a ns with
  | none => rfl
  | some n =>
    show (if m a then n.own.mapTag f else n.own).tag? = n.tag?.map fun t => if m a then f t else t
    split <;> simp

end Placed

end Html

/-! ### Selectors of one class -/

namespace Css

/-- The selector of the elements of one class. -/
def Selector.ofClass (u : Text) : Selector := [⟨[.classToken u], []⟩]

theorem Selector.mem_select_ofClass {u : Text} {a : Address} {ns : List Node} :
    a ∈ (ofClass u).select ns ↔ ∃ t, tagAt? a ns = some t ∧ u ∈ classes t := by
  have hfits : ∀ t, (ofClass u).fitsTag t = true ↔ u ∈ classes t := by
    intro t
    have hholds : (ofClass u).fitsTag t = (!u.isEmpty && (classes t).contains u) := by
      rw [ofClass, fitsTag, List.any_cons, List.any_nil, Bool.or_false, Condition.allHold,
        Condition.allHold, Bool.and_true, Condition.holds]
    rw [hholds, Bool.and_eq_true, List.contains_iff_mem]
    exact and_iff_right_of_imp fun hu => by simpa using Tag.ne_nil_of_mem_classes hu
  rw [select_own rfl, mem_hits]
  constructor
  · rintro ⟨n, hn, htag⟩
    obtain ⟨t, ht, hu⟩ := Option.any_eq_true _ _ |>.1 htag
    exact ⟨t, by rw [tagAt?, hn]; exact ht, (hfits t).1 hu⟩
  · rintro ⟨t, ht, hu⟩
    obtain ⟨n, hn, ht⟩ := Option.bind_eq_some_iff.1 ht
    refine ⟨n, hn, ?_⟩
    rw [Node.isTagged, ht]
    exact (hfits t).2 hu

end Css

/-! ### Taking a class away -/

open Css.Selector (ofClass)

/-- What becomes of a node when a class is taken away from the elements at some addresses: it stays
where it is, and nothing changes but the classes of those elements. -/
structure Html.Placed.Declassed (c : Text) (as : List Address) (p q : Placed) : Prop where
  source : q.source = p.source
  others : p.source ∉ as → q.here.own = p.here.own
  matched : p.source ∈ as → ∃ t t' content, p.here.own = .element t content [] ∧
    q.here.own = .element t' content [] ∧ Tag.WithoutClass c t t'

/-- A pass that takes a class away from the elements at some addresses. -/
theorem Html.Placed.declassed_editFrom (c : Text) {as : List Address} {ns : List Node}
    (h : as.Sublist (hits (fun _ => true) 0 ns)) :
    List.Forall₂ (Declassed c as) (nodesAll (origin ns))
      (nodesAll (origin
        (editFrom (fun n => [n.mapTag (Transform.dropClass c)]) as.contains [] 0 ns))) := by
  have hnodes := nodesAll_editFrom_mapTag (Transform.dropClass c) as.contains [] 0 ns
  have hpairs : List.Forall₂ (fun p q : Placed => (p.source, _) = (q.source, _)) _ _ :=
    List.forall₂_map_left_iff.1 (List.forall₂_map_right_iff.1 (List.forall₂_eq_eq_eq ▸ hnodes.symm))
  -- only elements are given
  have helement : ∀ p ∈ nodesAll (origin ns), p.source ∈ as →
      ∃ t content, p.here.own = .element t content [] := by
    intro p hp ha
    obtain ⟨a, n, hn, rfl⟩ := mem_nodesAll_origin.1 hp
    rw [source_ofNode] at ha
    have htag := isTagged_of_mem_hits (h.mem ha) hn
    rw [here_ofNode]
    cases n with
    | element t content ns => exact ⟨t, content, rfl⟩
    | _ => cases htag
  refine ((List.forall₂_and_left _ _).2 ⟨helement, hpairs⟩).imp fun p q hpq => ?_
  obtain ⟨hp, hpair⟩ := hpq
  obtain ⟨hsource, hown⟩ := Prod.mk.inj hpair
  refine ⟨hsource.symm, fun ha => ?_, fun ha => ?_⟩
  · rw [← hown, if_neg (by simpa using ha)]
  · obtain ⟨t, content, ht⟩ := hp ha
    refine ⟨t, Transform.dropClass c t, content, ht, ?_, Tag.withoutClass_dropClass c t⟩
    rw [← hown, if_pos (by simpa using ha), ht]
    rfl

/-- **Taking a class away** leaves all nodes where they are and changes no others than the elements
that the selector describes, and those in their classes only. None of them has the class afterwards.
No other class comes or goes, so that an element keeps a `class` attribute if it had some other class,
if and only if blanks cut the classes of each of them as the white space of markup does. -/
theorem Page.transform_removeClass {p : Page} {selector name : String} {s : Css.Selector}
    (hs : compileSelector selector = .ok s) :
    let c := name.toList
    let matched := s.select p.nodes
    ∃ q, p.transform (.removeClass selector name) = .ok q ∧ q.shape = p.shape ∧
      List.Forall₂ (Declassed c matched) (nodesAll (origin p.nodes)) (nodesAll (origin q.nodes)) ∧
      (∀ a ∈ matched, a ∉ (ofClass c).select q.nodes) ∧
      (((∀ u, u ≠ c → ∀ a, a ∈ (ofClass u).select q.nodes ↔ a ∈ (ofClass u).select p.nodes) ∧
          ∀ a ∈ matched, ∀ t t', tagAt? a p.nodes = some t → tagAt? a q.nodes = some t' →
            ((t'.attr? "class").isSome = true ↔ ∃ u ∈ classes t, u ≠ c)) ↔
        ∀ a ∈ matched, ∀ t, tagAt? a p.nodes = some t → t.CutsAlike c) := by
  intro c matched
  have hsub := select_sublist s p.nodes
  set nodes := editFrom (fun n => [n.mapTag (Transform.dropClass c)]) matched.contains [] 0 p.nodes
    with hnodes
  have hwithout := Tag.withoutClass_dropClass c
  -- selectors of one class ask for the tag at an address and nothing else
  have htag : ∀ a, tagAt? a nodes =
      (tagAt? a p.nodes).map fun t => if a ∈ matched then Transform.dropClass c t else t := by
    intro a
    rw [hnodes, tagAt?_editFrom]
    simp only [List.contains_iff_mem]
  refine ⟨{ p with nodes }, bind_eq_ok.2 ⟨s, hs, ?_⟩, rfl, declassed_editFrom c hsub, ?_, ?_, ?_⟩
  · rw [hnodes, ← replaceAll_eq_editFrom _ hsub]
    rfl
  · intro a ha hmem
    obtain ⟨t', ht', hc⟩ := Selector.mem_select_ofClass.1 hmem
    rw [htag] at ht'
    obtain ⟨t, -, rfl⟩ := Option.map_eq_some_iff.1 ht'
    rw [if_pos ha] at hc
    exact (hwithout t).not_mem hc
  · rintro ⟨hsame, -⟩ a ha t ht
    refine (hwithout t).keeps_iff.1 fun u hu => ?_
    have hu := hsame u hu a
    rw [Selector.mem_select_ofClass, Selector.mem_select_ofClass, htag, ht] at hu
    simpa [ha] using hu
  · intro hcuts
    have hkeeps : ∀ a ∈ matched, ∀ t, tagAt? a p.nodes = some t → ∀ u, u ≠ c →
        (u ∈ classes (Transform.dropClass c t) ↔ u ∈ classes t) :=
      fun a ha t ht => (hwithout t).keeps_iff.2 (hcuts a ha t ht)
    refine ⟨fun u hu a => ?_, fun a ha t t' ht ht' => ?_⟩
    · rw [Selector.mem_select_ofClass, Selector.mem_select_ofClass, htag]
      cases ht : tagAt? a p.nodes with
      | none => simp
      | some t =>
        by_cases ha : a ∈ matched
        · simpa [ha] using hkeeps a ha t ht u hu
        · simp [ha]
    · rw [htag, ht, Option.map_some, if_pos ha, Option.some.injEq] at ht'
      rw [← ht', (hwithout t).isSome_iff]
      exact exists_congr fun u => and_congr_left fun hu => hkeeps a ha t ht u hu

/-- A paragraph with some classes. -/
def Page.paragraphOf (names : String) : Page :=
  fragment [.element ⟨.html, "p", [⟨.plain, "class", names.toList⟩]⟩ [] []]

/-- One of two classes is taken away, and the other one stays. -/
theorem Page.transform_removeClass_ofTwo :
    ∃ q, (paragraphOf "a b").transform (.removeClass "p" "b") = .ok q ∧
      [0] ∉ (ofClass ['b']).select q.nodes ∧ [0] ∈ (ofClass ['a']).select q.nodes := by
  have hparse : compileSelector "p" = .ok [⟨[.type ['p']], []⟩] := rfl
  have hmatched : Css.Selector.select [⟨[.type ['p']], []⟩] (paragraphOf "a b").nodes = [[0]] := by
    decide +kernel
  have htag : tagAt? [0] (paragraphOf "a b").nodes =
      some ⟨.html, "p", [⟨.plain, "class", "a b".toList⟩]⟩ :=
    congrArg (Option.bind · Node.tag?) (get?_zero _ [])
  obtain ⟨q, hq, -, -, hgone, hkeeps⟩ :=
    @transform_removeClass (paragraphOf "a b") "p" "b" _ hparse
  rw [hmatched] at hgone hkeeps
  refine ⟨q, hq, hgone [0] List.mem_cons_self, ((hkeeps.2 ?_).1 ['a'] (by decide) [0]).2 ?_⟩
  · intro a ha t ht
    obtain rfl := List.mem_singleton.1 ha
    obtain rfl := Option.some.inj (htag.symm.trans ht)
    have hclasses : classes ⟨.html, "p", [⟨.plain, "class", "a b".toList⟩]⟩ = [['a'], ['b']] := by
      decide +kernel
    have hword : words "b".toList = [['b']] := by decide +kernel
    refine ⟨fun u hu hne => ?_, fun _ w hw => .inl ?_⟩
    · rw [hclasses, List.mem_cons, List.mem_singleton] at hu
      rcases hu with rfl | rfl
      · exact List.forall_mem_singleton.2 (by decide)
      · exact absurd rfl hne
    · rw [hword] at hw
      exact List.mem_singleton.1 hw
  · decide +kernel

/-- A class with a no-break space in it falls into two as another class is taken away, and the element
has a class then that it did not have. -/
theorem Page.transform_brokenName :
    ∃ q, (paragraphOf "a\u00a0b c").transform (.removeClass "p" "c") = .ok q ∧
      compileSelector ".a" = .ok (ofClass ['a']) ∧ [0] ∈ (ofClass ['a']).select q.nodes ∧
      [0] ∉ (ofClass ['a']).select (paragraphOf "a\u00a0b c").nodes := by
  have hmatched : Css.Selector.select [⟨[.type ['p']], []⟩] (paragraphOf "a\u00a0b c").nodes =
      [[0]] := by
    decide +kernel
  have hdrop : Transform.dropClass ['c'] ⟨.html, "p", [⟨.plain, "class", "a\u00a0b c".toList⟩]⟩ =
      ⟨.html, "p", [⟨.plain, "class", "a b".toList⟩]⟩ := by
    decide +kernel
  refine ⟨paragraphOf "a b", bind_eq_ok.2 ⟨[⟨[.type ['p']], []⟩], rfl, ?_⟩, rfl, by decide +kernel,
    by decide +kernel⟩
  show Except.ok (fragment (replaceAll _ (Css.Selector.select _ (paragraphOf _).nodes) _)) = _
  rw [hmatched]
  refine congrArg (fun ns => Except.ok (fragment ns)) ((replaceAt_zero _ _ []).trans ?_)
  exact congrArg (fun t => [Node.element t [] []]) hdrop

end HtmlCanon
