import HtmlCanon.Proofs.Edit.Extract
import HtmlCanon.Proofs.Fault
import HtmlCanon.Proofs.Page.Runs

/-!
# Text in regions

A page is put together from regions, each of which is a new element with a name of its own. Nothing
else is new, so an element without content that has any can only be one of the regions. Text below
such a region is not laid out; all other text is.

* `childless_addRegion`, `childless_compose` : what a page put together from regions is made of.
* `run_compose` : **no region makes text disappear**, unless it has the name of an element without
  content.
-/

namespace HtmlCanon.Page

open Html

/-! ### Regions -/

/-- Whether elements without content have none below the top of a forest. -/
def ChildlessBelow (ns : List Node) : Prop := ∀ n ∈ ns, Everywhere Childless n.children

namespace ChildlessBelow

variable {ns : List Node} {n : Node}

theorem get? {a : Address} (ha : 1 < a.length) (h : ChildlessBelow ns)
    (hg : Forest.get? a ns = some n) : Everywhere Childless [n] := by
  fun_induction Forest.get? a ns with
  | case1 => cases hg
  | case2 => cases hg
  | case3 m ms => exact absurd ha (by simp)
  | case4 i a m ms => exact (h m List.mem_cons_self).get? hg
  | case5 k a m ms ih => exact ih (by simpa using ha) (fun n hn => h n (List.mem_cons_of_mem m hn)) hg

theorem removeAt {a : Address} (ha : 1 < a.length) (h : ChildlessBelow ns) :
    ChildlessBelow (Forest.replaceAt (fun _ => []) a ns) := by
  fun_induction Forest.replaceAt (fun _ => []) a ns with
  | case1 => exact h
  | case2 => exact h
  | case3 n ns => exact absurd ha (by simp)
  | case4 i a t c cs ns =>
    intro m hm
    rcases List.mem_cons.1 hm with rfl | hm
    · exact Everywhere.replaceAt hereditary_childless (fun _ _ => .nil) (h _ List.mem_cons_self)
    · exact h m (List.mem_cons_of_mem _ hm)
  | case5 => exact h
  | case6 k a n ns ih =>
    intro m hm
    rcases List.mem_cons.1 hm with rfl | hm
    · exact h m List.mem_cons_self
    · exact ih (by simpa using ha) (fun n' hn => h n' (List.mem_cons_of_mem n hn)) m hm

/-- Elements that are taken out from below the top, and what is left. -/
theorem extract {as : List Address} (has : ∀ a ∈ as, 1 < a.length) (h : ChildlessBelow ns) :
    Everywhere Childless (Forest.extract as ns).1 ∧ ChildlessBelow (Forest.extract as ns).2 := by
  obtain ⟨hout, hleft⟩ := Forest.extract_keeps (P := ChildlessBelow)
    (Q := fun n => Everywhere Childless [n]) as (fun a ha _ _ hns hg => hns.get? (has a ha) hg)
    (fun a ha _ hns => hns.removeAt (has a ha)) h
  exact ⟨.of_mem hout, hleft⟩

end ChildlessBelow

/-- **One more region.** -/
theorem childless_addRegion {c c' : Composition} {r : Region}
    (hc : Everywhere Childless c.source ∧ ChildlessBelow c.regions) (h : c.addRegion r = .ok c') :
    Everywhere Childless c'.source ∧ ChildlessBelow c'.regions := by
  obtain ⟨s, -, hs⟩ := bind_eq_ok.1 h
  obtain rfl := pure_eq_ok.1 hs
  have hfresh := hc.1.extract hereditary_childless (s.select c.source)
  have hdeep : ∀ a ∈ claimed s c.regions, 1 < a.length := fun a ha => by
    simpa using (List.mem_filter.1 ha).2
  have hagain := hc.2.extract hdeep
  refine ⟨hfresh.2, fun n hn => ?_⟩
  rcases List.mem_append.1 hn with hn | hn
  · exact hagain.2 n hn
  · rw [List.mem_singleton.1 hn]
    exact hfresh.1.append hagain.1

/-- **A page put together from regions** has elements with content that should have none at its top
only. -/
theorem childless_compose {p c : Page} {plan : List Region} (h : Everywhere Childless p.nodes)
    (hc : p.compose plan = .ok c) : c.shape = .fragment ∧ ChildlessBelow c.nodes := by
  obtain ⟨d, hd, hc⟩ := bind_eq_ok.1 hc
  obtain rfl := pure_eq_ok.1 hc
  have hstart : ChildlessBelow [] := List.forall_mem_nil _
  exact ⟨rfl, (foldlM_keeps (fun _ _ _ _ hb hs => childless_addRegion hb hs) ⟨h, hstart⟩ hd).2⟩

/-- **No region makes text disappear**, whatever the page and the plan: a word that is the whole of a
text below one of the regions stands in the canonical form. This takes that the region does not have
the name of an element without content; and where the text is laid out as it is, that the word is not
taken for a part of a return at the end of a line. -/
theorem run_compose {p c : Page} {plan : List Region} (hempty : Everywhere Childless p.nodes)
    (hc : p.compose plan = .ok c) {name : String} {ns : List Node} {t : Text}
    (hregion : Node.wrapper name ns ∈ c.nodes) (ht : t ∈ Node.forestTexts ns)
    (hr : IsRun (trim t)) (hname : name ∉ voidNames)
    (hreturn : (∃ x ∈ returns, trim t <:+: x) → ∀ n, IsLaidOut n c.nodes → isVerbatim n = true →
      t ∈ n.texts → ∀ l ∈ splitLines (repairText n.markup), endsInReturn l = false) :
    trim t <:+: c.canonical := by
  obtain ⟨hshape, hbelow⟩ := childless_compose hempty hc
  -- the region itself may be laid out as it is, or an element below it, or none
  have hlaid : IsLaidOut (.text t) c.nodes ∨
      ∃ m, IsLaidOut m c.nodes ∧ isVerbatim m = true ∧ t ∈ m.texts := by
    by_cases hverbatim : name ∈ verbatimNames
    · exact .inr ⟨_, .among hregion, decide_eq_true hverbatim, ht⟩
    · rcases laidOut_of_text (hbelow _ hregion) ht with h | ⟨m, h, hm⟩
      · exact .inl (.within hregion hverbatim hname h)
      · exact .inr ⟨m, .within hregion hverbatim hname h, hm⟩
  have hsurvives : ∃ l ∈ forestLines true 1 c.nodes, Survives (trim t) l := by
    rcases hlaid with h | ⟨m, h, hv, hm⟩
    · exact survives_of_laidOut hr h true 1
    · refine survives_of_verbatim hr h hv hm ?_ true 1
      -- only a word that is a part of a return depends on how the lines end
      by_cases hpart : ∃ x ∈ returns, trim t <:+: x
      · exact .inr (hreturn hpart m h hv hm)
      · exact .inl fun x hx hin => hpart ⟨x, hx, hin⟩
  obtain ⟨l, hl, h⟩ := hsurvives
  have hpage : c = fragment c.nodes := by
    cases c
    obtain rfl := hshape
    rfl
  rw [hpage]
  exact h.canonical hr.1 hl

/-- A region that takes the only element of a page. -/
theorem compose_alone {n : Node} {selector : String} {s : Css.Selector}
    (hs : compileSelector selector = .ok s) (hselect : s.select [n] = [[0]])
    (hclaimed : claimed s [] = []) (name : String) :
    (fragment [n]).compose [⟨name, selector⟩] = .ok (fragment [Node.wrapper name [n]]) := by
  have hextract : Forest.extract [[0]] [n] = ([n], []) := by
    simp [Forest.extract, Forest.get?, Forest.replaceAt]
  have hadd : Composition.addRegion ⟨[n], []⟩ ⟨name, selector⟩ =
      .ok ⟨[], [Node.wrapper name [n]]⟩ := by
    rw [Composition.addRegion, hs]
    show Except.ok (Composition.add _ _ _) = _
    rw [Composition.add, hselect, hextract, hclaimed]
    rfl
  show ([(⟨name, selector⟩ : Region)].foldlM Composition.addRegion ⟨[n], []⟩ >>= _) = _
  rw [List.foldlM_cons, hadd]
  rfl

/-- An element that holds texts only. -/
theorem childless_texts {name : String} (h : name ∉ voidNames) (ts : List Text) :
    Everywhere Childless [Node.wrapper name (ts.map .text)] := by
  refine .element ?_ .nil (.of_mem fun n hn => ?_)
  · intro t ht hv
    obtain rfl := Option.some.inj ht
    exact absurd hv h
  · obtain ⟨t, -, rfl⟩ := List.mem_map.1 hn
    exact .text nofun

/-- A paragraph of one word. -/
def wordParagraph : Node := Node.wrapper "p" [.text "abc".toList]

/-- The word stays in a region with a name of its own. -/
theorem run_compose_part :
    ∃ c, (fragment [wordParagraph]).compose [⟨"part", "p"⟩] = .ok c ∧
      "abc".toList <:+: c.canonical := by
  have hs : compileSelector "p" = .ok [⟨[.type "p".toList], []⟩] := rfl
  have hc := compose_alone (n := wordParagraph) hs rfl rfl "part"
  refine ⟨_, hc, run_compose (t := "abc".toList) (childless_texts (by decide) ["abc".toList]) hc
    List.mem_cons_self List.mem_cons_self (by decide) (by decide) ?_⟩
  exact fun h => absurd h (by decide)

/-- A script whose text is in three pieces. -/
def brokenScript : Node :=
  Node.wrapper "script" [.text "&#".toList, .text "13".toList, .text ";\n".toList]

/-- A region that is accepted has the name of an element without content, and the word is gone. A
number goes that is taken for a part of a return in content that is laid out as it is. -/
theorem run_compose_break :
    (Region.plan (some (.sequence [.mapping [(.string "name", .string "br"),
        (.string "selector", .string "p")]])) (some ["br"]) = .ok [⟨"br", "p"⟩] ∧
      ∃ c, (fragment [wordParagraph]).compose [⟨"br", "p"⟩] = .ok c ∧
        c.nodes = [Node.wrapper "br" [wordParagraph]] ∧
        ¬"abc".toList <:+: c.canonical) ∧
    ∃ c, (fragment [brokenScript]).compose [⟨"part", "script"⟩] = .ok c ∧
      c.nodes = [Node.wrapper "part" [brokenScript]] ∧ ¬"13".toList <:+: c.canonical := by
  have hp : compileSelector "p" = .ok [⟨[.type "p".toList], []⟩] := rfl
  have hscript : compileSelector "script" = .ok [⟨[.type "script".toList], []⟩] := rfl
  refine ⟨⟨rfl, _, compose_alone (n := wordParagraph) hp rfl rfl "br", rfl, by decide +kernel⟩, _,
    compose_alone (n := brokenScript) hscript rfl rfl "part", rfl, by decide +kernel⟩

end HtmlCanon.Page
