import HtmlCanon.Edit.Spacing
import HtmlCanon.Edit.TextRule
import HtmlCanon.Proofs.Edit.Extract
import HtmlCanon.Proofs.Fault
import HtmlCanon.Proofs.Html.TidyRules

/-!
# Fragments stay fragments

A page is edited in steps of five kinds. A doctype stands at the top of a document and nowhere else,
and this remains so whatever the steps are; so no step that makes a fragment takes a doctype along,
and no step makes a document of a fragment.

* `Edit`, `Page.edit` : the steps, and a run of them.
* `Page.Shaped` : where doctypes stand in a page.
* `Page.shaped_parse`, `Page.Shaped.step` : a page that is read, and **what one step preserves**.
* `Page.shape_edit` : **runs of any length**.
-/

namespace HtmlCanon

open Html

/-! ### Doctypes at the top -/

namespace Html

variable {p : Node → Prop} {ns : List Node} {n e : Node} {name : String}

/-- A forest without doctypes at any depth. -/
abbrev Undeclared (ns : List Node) : Prop := Everywhere (¬Node.IsDoctype ·) ns

theorem not_isDoctype_text (d : Text) : ¬(Node.text d).IsDoctype := by
  rintro ⟨_, h⟩
  cases h

theorem not_isDoctype_element (t : Tag) (c ns : List Node) : ¬(Node.element t c ns).IsDoctype := by
  rintro ⟨_, h⟩
  cases h

/-- Whether a node is a doctype does not depend on what an element holds. -/
theorem hereditary_not_isDoctype : Hereditary (¬Node.IsDoctype ·) where
  text := not_isDoctype_text
  refill _ _ := not_isDoctype_element _ _ _

/-- A forest whose doctypes stand at the top. -/
def DeclaredOnTop (ns : List Node) : Prop := ∀ n ∈ ns, n.IsDoctype ∨ Undeclared [n]

theorem Undeclared.onTop (h : Undeclared ns) : DeclaredOnTop ns := fun _ hn => .inr (h.mem hn)

namespace DeclaredOnTop

theorem head (h : DeclaredOnTop (n :: ns)) : n.IsDoctype ∨ Undeclared [n] := h n List.mem_cons_self

theorem tail (h : DeclaredOnTop (n :: ns)) : DeclaredOnTop ns := fun m hm =>
  h m (List.mem_cons_of_mem n hm)

theorem append {ms : List Node} (h : DeclaredOnTop ns) (h' : DeclaredOnTop ms) :
    DeclaredOnTop (ns ++ ms) := by
  intro n hn
  rcases List.mem_append.1 hn with hn | hn
  · exact h n hn
  · exact h' n hn

/-- Below the top there is no doctype. -/
theorem children (h : n.IsDoctype ∨ Undeclared [n]) : Undeclared n.children := by
  rcases h with ⟨d, rfl⟩ | h
  · exact .nil
  · exact Everywhere.children h

theorem get? {a : Address} (h : DeclaredOnTop ns) (hg : Forest.get? a ns = some n) :
    n.IsDoctype ∨ Undeclared [n] := by
  fun_induction Forest.get? a ns with
  | case1 => cases hg
  | case2 => cases hg
  | case3 m ms =>
    obtain rfl := Option.some.inj hg
    exact h.head
  | case4 i a m ms ih => exact ih (children h.head).onTop hg
  | case5 k a m ms ih => exact ih h.tail hg

theorem replaceAt {f : Node → List Node} (hf : ∀ n, Undeclared [n] → Undeclared (f n))
    (hd : ∀ d, DeclaredOnTop (f (.doctype d))) {a : Address} (h : DeclaredOnTop ns) :
    DeclaredOnTop (Forest.replaceAt f a ns) := by
  fun_induction Forest.replaceAt f a ns with
  | case1 => exact h
  | case2 => exact h
  | case3 n ns =>
    refine DeclaredOnTop.append ?_ h.tail
    rcases h.head with ⟨d, rfl⟩ | hn
    · exact hd d
    · exact (hf n hn).onTop
  | case4 i a t c cs ns =>
    -- the edit is made below an element, where there is no doctype
    intro m hm
    rcases List.mem_cons.1 hm with rfl | hm
    · have helement : Undeclared [.element t c cs] :=
        h.head.resolve_left (not_isDoctype_element t c cs)
      refine .inr (.element (not_isDoctype_element _ _ _) helement.content ?_)
      exact Everywhere.replaceAt hereditary_not_isDoctype hf helement.children
    · exact h.tail m hm
  | case5 => exact h
  | case6 k a n ns ih =>
    intro m hm
    rcases List.mem_cons.1 hm with rfl | hm
    · exact h.head
    · exact ih h.tail m hm

theorem replaceAll {f : Node → List Node} (hf : ∀ n, Undeclared [n] → Undeclared (f n))
    (hd : ∀ d, DeclaredOnTop (f (.doctype d))) (as : List Address) (h : DeclaredOnTop ns) :
    DeclaredOnTop (Forest.replaceAll f as ns) := by
  induction as with
  | nil => exact h
  | cons a as ih => exact replaceAt hf hd ih

theorem mapTexts (f : Text → Text) (h : DeclaredOnTop ns) : DeclaredOnTop (Node.mapTexts f ns) := by
  induction ns with
  | nil => exact h
  | cons n ns ih =>
    intro m hm
    rcases List.mem_cons.1 hm with rfl | hm
    · rcases h.head with ⟨d, rfl⟩ | hn
      · exact .inl ⟨d, rfl⟩
      · exact .inr (Everywhere.mapText hereditary_not_isDoctype f hn)
    · exact ih h.tail m hm

/-- **Elements that are taken out** take no doctype along. -/
theorem extract {as : List Address} (hs : as.Sublist (Forest.hits (fun _ => true) 0 ns))
    (h : DeclaredOnTop ns) :
    Undeclared (Forest.extract as ns).1 ∧ DeclaredOnTop (Forest.extract as ns).2 := by
  obtain ⟨hout, hleft⟩ := Forest.extract_keeps (P := DeclaredOnTop)
    (Q := fun n => n.IsDoctype ∨ Undeclared [n]) as (fun _ _ _ _ hns hg => hns.get? hg)
    (fun _ _ _ hns => hns.replaceAt (fun _ _ => .nil) fun _ => List.forall_mem_nil _) h
  refine ⟨.of_mem fun m hm => ?_, hleft⟩
  have helement := Forest.isElement_of_isTagged (Forest.isTagged_extract hs m hm)
  refine (hout m hm).resolve_left ?_
  rintro ⟨d, rfl⟩
  cases helement

end DeclaredOnTop

/-- An element of some name is no doctype, and so holds none. -/
theorem DeclaredOnTop.findAmong (h : DeclaredOnTop ns) (he : Page.findAmong name ns = some e) :
    Undeclared [e] := by
  induction ns with
  | nil => cases he
  | cons n ns ih =>
    rcases Option.or_eq_some_iff.1 he with he | ⟨-, he⟩
    · rcases h.head with ⟨d, rfl⟩ | hn
      · cases he
      · exact hn.findIn he
    · exact ih h.tail he

theorem DeclaredOnTop.contentOf (h : DeclaredOnTop ns) (name : String) :
    Undeclared (Page.contentOf name ns) := by
  unfold Page.contentOf
  cases hf : Page.findAmong name ns with
  | none => exact .nil
  | some e => exact (h.findAmong hf).children

end Html

/-! ### Pages -/

namespace Page

/-- A page that has doctypes at its top only, and none if it is a fragment. -/
structure Shaped (p : Page) : Prop where
  onTop : DeclaredOnTop p.nodes
  undeclared : p.shape = .fragment → Undeclared p.nodes

theorem shaped_fragment {ns : List Node} (h : Undeclared ns) : (fragment ns).Shaped :=
  ⟨h.onTop, fun _ => h⟩

/-- **A page that is read.** -/
theorem shaped_parse (s : Text) : (parse s).Shaped := by
  have htop : DeclaredOnTop (Html.parse s).nodes := doctypes_parse s
  unfold parse parseCounting
  dsimp only
  split
  · exact ⟨htop, nofun⟩
  · exact shaped_fragment ((htop.contentOf "head").append (htop.contentOf "body"))

end Page

/-! ### Edits -/

/-- A step of editing a page. -/
inductive Edit where
  /-- Puts one space in place of every run of spaces. -/
  | collapse
  /-- Keeps the elements that a selector describes. -/
  | excerpt (selector : String)
  /-- Puts the page together from regions. -/
  | compose (plan : List Region)
  /-- Makes a structural edit. -/
  | transform (t : Transform)
  /-- Applies the text rules that are for some elements only. -/
  | replace (rules : List TextRule)

namespace Page

/-- The page after a step. -/
def step (p : Page) : Edit → Except Fault Page
  | .collapse => pure p.collapseSpaces
  | .excerpt s => p.excerpt s
  | .compose plan => p.compose plan
  | .transform t => p.transform t
  | .replace rules => p.applyRules rules

/-- The page after some steps, one after the other. -/
def edit (p : Page) (es : List Edit) : Except Fault Page := es.foldlM step p

/-- A step that puts a part of a page in place of the whole: an excerpt, a composition, and
a transform that keeps what an element of the page holds. -/
def Isolates (p : Page) : Edit → Prop
  | .excerpt _ => True
  | .compose _ => True
  | .transform (.unwrapRoot s) => ∃ c, compileSelector s = .ok c ∧ c.select p.nodes ≠ []
  | _ => False

variable {p p' q : Page} {e : Edit} {es es' : List Edit}

theorem Shaped.collapseSpaces (h : p.Shaped) : p.collapseSpaces.Shaped :=
  ⟨h.onTop.mapTexts _, fun hs => (h.undeclared hs).mapTexts hereditary_not_isDoctype _⟩

/-- The elements that a selector describes hold no doctype. -/
theorem Shaped.excerptAt (h : p.Shaped) (s : Css.Selector) : (p.excerptAt s).Shaped := by
  refine shaped_fragment (.of_mem fun n hn => ?_)
  obtain ⟨a, ha, hg⟩ := List.mem_filterMap.1 hn
  have hhit : a ∈ Forest.hits (fun _ => true) 0 p.nodes :=
    (Forest.select_sublist s p.nodes).mem (Forest.mem_of_mem_outermost ha)
  obtain ⟨m, hm, htag⟩ := Forest.get?_of_mem_hits hhit
  obtain rfl : n = m := Option.some.inj (hg.symm.trans hm)
  refine (h.onTop.get? hg).resolve_left ?_
  rintro ⟨d, rfl⟩
  cases htag

/-- **One more region** takes no doctype along: it is made of elements, in the page and in the
regions before it. -/
theorem addRegion_ok {c c' : Composition} {r : Region}
    (hc : DeclaredOnTop c.source ∧ Undeclared c.regions) (h : c.addRegion r = .ok c') :
    DeclaredOnTop c'.source ∧ Undeclared c'.regions := by
  obtain ⟨s, -, hs⟩ := bind_eq_ok.1 h
  obtain rfl := pure_eq_ok.1 hs
  have hfresh := hc.1.extract (Forest.select_sublist s c.source)
  have hagain := hc.2.extract hereditary_not_isDoctype (claimed s c.regions)
  have hregion : Undeclared [Node.wrapper r.name
      ((Forest.extract (s.select c.source) c.source).1 ++
        (Forest.extract (claimed s c.regions) c.regions).1)] :=
    .element (not_isDoctype_element _ _ _) .nil (hfresh.1.append hagain.1)
  exact ⟨hfresh.2, hagain.2.append hregion⟩

theorem Shaped.compose {plan : List Region} (h : p.Shaped) (hq : p.compose plan = .ok q) :
    q.Shaped ∧ q.shape = .fragment := by
  obtain ⟨c, hc, hq⟩ := bind_eq_ok.1 hq
  obtain rfl := pure_eq_ok.1 hq
  have hregions := foldlM_keeps (fun _ _ _ _ hb hs => addRegion_ok hb hs) ⟨h.onTop, .nil⟩ hc
  exact ⟨shaped_fragment hregions.2, rfl⟩

/-- What stands in place of an element holds no doctype. -/
theorem undeclared_replacement (t : Transform) {n : Node} (h : Undeclared [n]) :
    Undeclared (t.replacement n) := by
  cases t with
  | remove s => exact .nil
  | strip s => exact h.children
  | unwrap s => exact h.children
  | unwrapRoot s => exact h
  | removeClass s c =>
    cases n with
    | element u d ns => exact .element (not_isDoctype_element _ _ _) h.content h.children
    | _ => exact h

/-- Edits in place leave doctypes at the top. -/
theorem Shaped.replaceAll (h : p.Shaped) {f : Node → List Node} {as : List Address}
    (hf : ∀ n, Undeclared [n] → Undeclared (f n)) (hd : ∀ d, DeclaredOnTop (f (.doctype d))) :
    (Page.mk p.shape (Forest.replaceAll f as p.nodes)).Shaped :=
  ⟨h.onTop.replaceAll hf hd as, fun hs => (h.undeclared hs).replaceAll hereditary_not_isDoctype hf as⟩

theorem Shaped.transformAt (h : p.Shaped) (t : Transform) (s : Css.Selector) :
    (p.transformAt t s).Shaped := by
  have hd : ∀ d, DeclaredOnTop (t.replacement (.doctype d)) := by
    intro d
    cases t with
    | remove s => exact List.forall_mem_nil _
    | strip s => exact List.forall_mem_nil _
    | unwrap s => exact List.forall_mem_nil _
    | unwrapRoot s => exact fun n hn => .inl ⟨d, List.mem_singleton.1 hn⟩
    | removeClass s c => exact fun n hn => .inl ⟨d, List.mem_singleton.1 hn⟩
  have hall : (Page.mk p.shape (Forest.replaceAll t.replacement (s.select p.nodes) p.nodes)).Shaped :=
    h.replaceAll (fun n => undeclared_replacement t) hd
  cases t with
  | unwrapRoot u =>
    unfold Page.transformAt
    dsimp only
    split
    · rename_i n hn
      obtain ⟨a, -, hg⟩ := Option.bind_eq_some_iff.1 hn
      exact shaped_fragment (DeclaredOnTop.children (h.onTop.get? hg))
    · exact h
  | _ => exact hall

theorem shape_transformAt (t : Transform) (s : Css.Selector) (hp : p.shape = .fragment) :
    (p.transformAt t s).shape = .fragment := by
  cases t with
  | unwrapRoot u =>
    unfold transformAt
    dsimp only
    split
    · rfl
    · exact hp
  | _ => exact hp

/-- **Where the selector describes an element**, what the first one holds is kept, as a fragment. -/
theorem shape_unwrapRoot {u : String} {s : Css.Selector} (hs : s.select p.nodes ≠ []) :
    (p.transformAt (.unwrapRoot u) s).shape = .fragment := by
  obtain ⟨a, as, ha⟩ := List.exists_cons_of_ne_nil hs
  have hhit : a ∈ Forest.hits (fun _ => true) 0 p.nodes :=
    (Forest.select_sublist s p.nodes).mem (ha ▸ List.mem_cons_self)
  obtain ⟨n, hn, -⟩ := Forest.get?_of_mem_hits hhit
  unfold transformAt
  simp only [ha, List.head?_cons, Option.bind_some, hn]
  rfl

theorem applyRule_ok {r : TextRule} (h : p.Shaped) (hq : p.applyRule r = .ok q) :
    q.Shaped ∧ q.shape = p.shape := by
  unfold applyRule at hq
  split at hq
  · obtain rfl := pure_eq_ok.1 hq
    exact ⟨h, rfl⟩
  · obtain ⟨s, -, hq⟩ := bind_eq_ok.1 hq
    obtain rfl := pure_eq_ok.1 hq
    refine ⟨h.replaceAll (fun n hn => hn.mapText hereditary_not_isDoctype r.apply) ?_, rfl⟩
    exact fun d n hn => .inl ⟨d, List.mem_singleton.1 hn⟩

theorem Shaped.applyRules {rules : List TextRule} (h : p.Shaped) (hq : p.applyRules rules = .ok q) :
    q.Shaped ∧ q.shape = p.shape := by
  refine foldlM_keeps (P := fun q => q.Shaped ∧ q.shape = p.shape) ?_ ⟨h, rfl⟩ hq
  intro r _ b b' hb hr
  have hrule := applyRule_ok hb.1 hr
  exact ⟨hrule.1, hrule.2.trans hb.2⟩

/-- **What one step preserves**, and what it makes. -/
theorem Shaped.step (h : p.Shaped) (he : p.step e = .ok q) :
    q.Shaped ∧ (p.shape = .fragment → q.shape = .fragment) ∧
      (p.Isolates e → q.shape = .fragment) := by
  cases e with
  | collapse =>
    obtain rfl := pure_eq_ok.1 he
    exact ⟨h.collapseSpaces, id, nofun⟩
  | excerpt s =>
    obtain ⟨c, -, he⟩ := bind_eq_ok.1 he
    obtain rfl := pure_eq_ok.1 he
    exact ⟨h.excerptAt c, fun _ => rfl, fun _ => rfl⟩
  | compose plan =>
    have hc := h.compose he
    exact ⟨hc.1, fun _ => hc.2, fun _ => hc.2⟩
  | transform t =>
    obtain ⟨c, hc, he⟩ := bind_eq_ok.1 he
    obtain rfl := pure_eq_ok.1 he
    refine ⟨h.transformAt t c, shape_transformAt t c, fun hi => ?_⟩
    cases t with
    | unwrapRoot s =>
      obtain ⟨c', hc', hs⟩ := hi
      -- the selector that finds an element is the one that the step compiles
      obtain rfl : c' = c := Except.ok.inj (hc'.symm.trans hc)
      exact shape_unwrapRoot hs
    | _ => exact hi.elim
  | replace rules =>
    have hr := h.applyRules he
    exact ⟨hr.1, hr.2.trans, nofun⟩

/-- What a run preserves. -/
theorem Shaped.edit (h : p.Shaped) (he : p.edit es = .ok q) :
    q.Shaped ∧ (p.shape = .fragment → q.shape = .fragment) := by
  refine foldlM_keeps (P := fun q => q.Shaped ∧ (p.shape = .fragment → q.shape = .fragment)) ?_
    ⟨h, id⟩ he
  intro e _ b b' hb hs
  have hstep := hb.1.step hs
  exact ⟨hstep.1, fun hp => hstep.2.1 (hb.2 hp)⟩

/-- **Fragments stay fragments.** Whatever the page that was read and the steps that were made, the
page they lead to holds no doctype at any depth if it is a fragment, and all that further steps lead
to are fragments then; and a step that puts a part in place of the whole makes a fragment of it. -/
theorem shape_edit (s : Text) (hp : (parse s).edit es = .ok p) :
    (p.shape = .fragment → ∀ n ∈ Node.withinAll p.nodes, ¬n.IsDoctype) ∧
      (p.shape = .fragment → ∀ es' q, p.edit es' = .ok q → q.shape = .fragment) ∧
      ∀ e q, p.Isolates e → p.step e = .ok q → q.shape = .fragment := by
  have hshaped : p.Shaped := ((shaped_parse s).edit hp).1
  refine ⟨hshaped.undeclared, fun hs es' q hq => (hshaped.edit hq).2 hs, fun e q hi hq => ?_⟩
  exact (hshaped.step hq).2.2 hi

/-- A document whose paragraphs are taken out of it. -/
theorem shape_edit_paragraphs :
    ∃ p, (parse "<!doctype html><p>a<p>b".toList).shape = .document ∧
      (parse "<!doctype html><p>a<p>b".toList).edit [.collapse, .excerpt "p"] = .ok p ∧
      p.shape = .fragment ∧ ∀ n ∈ Node.withinAll p.nodes, ¬n.IsDoctype := by
  have hdocument : (parse "<!doctype html><p>a<p>b".toList).shape = .document := by decide +kernel
  obtain ⟨c, hc⟩ := exists_ok_of_toOption (x := compileSelector "p") (by decide +kernel)
  have hrun : (parse "<!doctype html><p>a<p>b".toList).edit [.collapse, .excerpt "p"] =
      .ok ((parse "<!doctype html><p>a<p>b".toList).collapseSpaces.excerptAt c) := by
    have hexcerpt : ∀ p : Page, p.excerpt "p" = .ok (p.excerptAt c) := fun p =>
      bind_eq_ok.2 ⟨c, hc, rfl⟩
    exact bind_eq_ok.2 ⟨_, rfl, bind_eq_ok.2 ⟨_, hexcerpt _, rfl⟩⟩
  exact ⟨_, hdocument, hrun, rfl, (shape_edit _ hrun).1 rfl⟩

end Page

end HtmlCanon
