import HtmlCanon.Proofs.Page.Clean
import HtmlCanon.Proofs.Page.Fragment

/-!
# Stability of the canonical form

The canonical form of a readable fragment, read again, is the layout of the same outline with clean
values; so it is stable exactly when its values are, and a value is not when a line of it is still
set in once it is clean.

* `areReadable_cleaned` : an outline is as readable with clean values.
* `allCleaned_eq_iff` : clean outlines stay as they are exactly when their values are steady.
* `showsAs_canonical` : **the canonical form is read back** as the outline with clean values.
* `canonical_parse_eq_iff` : **the canonical form is stable** exactly when the values are steady.
-/

namespace HtmlCanon

/-! ### Tags with clean values -/

namespace Html

open Page

theorem Attr.insert_cleaned (a : Attr) (as : List Attr) :
    Attr.insert a.cleaned (as.map Attr.cleaned) = (Attr.insert a as).map Attr.cleaned := by
  have hsame : ∀ b, a.cleaned.sameName b.cleaned = a.sameName b := fun _ => rfl
  have hbefore : ∀ b, a.cleaned.before b.cleaned = a.before b := fun _ => rfl
  induction as with
  | nil => rfl
  | cons b bs ih =>
    rw [List.map_cons, Attr.insert, Attr.insert, hsame, hbefore]
    split
    · rfl
    · split
      · rfl
      · rw [ih]; rfl

/-- The order of attributes does not depend on their values. -/
theorem Attr.sort_cleaned (as : List Attr) :
    Attr.sort (as.map Attr.cleaned) = (Attr.sort as).map Attr.cleaned := by
  have hfold : ∀ acc : List Attr,
      (as.map Attr.cleaned).foldl (fun acc a => Attr.insert a acc) (acc.map Attr.cleaned) =
        (as.foldl (fun acc a => Attr.insert a acc) acc).map Attr.cleaned := by
    induction as with
    | nil => intro acc; rfl
    | cons a as ih =>
      intro acc
      rw [List.map_cons, List.foldl_cons, List.foldl_cons, Attr.insert_cleaned, ih]
  exact hfold []

namespace Tag

variable {t : Tag}

theorem cleaned_attrs (t : Tag) : t.cleaned.attrs = t.attrs.map Attr.cleaned := rfl

theorem isPlain_cleaned (h : t.isPlain = true) : t.cleaned.isPlain = true := by
  simp only [isPlain, Bool.and_eq_true] at h ⊢
  refine ⟨h.1, ?_⟩
  rw [cleaned_attrs, List.all_map]
  exact h.2

theorem isReadable_cleaned (h : t.isReadable = true) : t.cleaned.isReadable = true := by
  simp only [isReadable, Bool.and_eq_true, decide_eq_true_eq, beq_iff_eq] at h ⊢
  obtain ⟨⟨⟨hname, ha⟩, hd⟩, hsort⟩ := h
  refine ⟨⟨⟨hname, ?_⟩, ?_⟩, ?_⟩
  · rw [cleaned_attrs, List.all_map, List.all_eq_true]
    intro a hm
    have hread := List.all_eq_true.1 ha a hm
    simp only [Token.isReadableAttr, Bool.and_eq_true] at hread
    have hvalue : (cleanValue a.value).all HtmlCanon.isReadable = true :=
      List.all_eq_true.2 fun c hc => List.all_eq_true.1 hread.2 c ((cleanValue_sublist _).subset hc)
    simp only [Function.comp_apply, Token.isReadableAttr, Bool.and_eq_true]
    exact ⟨hread.1, hvalue⟩
  · rw [cleaned_attrs, List.map_map]
    exact hd
  · rw [cleaned_attrs, Attr.sort_cleaned, hsort]

end Tag

theorem fits_cleaned (tags : List Tag) (n : String) :
    fits (tags.map Tag.cleaned) n = fits tags n := by
  have hends : ∀ names, endsItem names ∘ Tag.cleaned = endsItem names := fun _ => rfl
  have hname : ∀ m, (fun t : Tag => t.name == m) ∘ Tag.cleaned = fun t => t.name == m := fun _ => rfl
  simp only [fits, List.any_map, List.head?_map, List.find?_map, List.filter_map, hends, hname,
    Option.any_map, List.length_map]
  rfl

end Html

namespace Page

open Html Outline

/-! ### Outlines with clean values -/

theorem isText_cleaned (o : Outline) : o.cleaned.isText = o.isText := by
  cases o <;> rfl

theorem head?_allCleaned (os : List Outline) :
    (allCleaned os).head?.any isText = os.head?.any isText := by
  cases os with
  | nil => rfl
  | cons o os => simp [allCleaned, isText_cleaned]

mutual

theorem plain_cleaned {o : Outline} (h : o.Plain) : o.cleaned.Plain := by
  cases o with
  | text ls => exact h
  | element t os =>
    obtain ⟨ht, hw, hf⟩ := h
    refine ⟨t.isPlain_cleaned ht, fun hv => ?_, plainForest_cleaned hf⟩
    rw [hw hv]
    rfl
  | comment t => exact h.elim
  | doctype d => exact h.elim
  | verbatim m => exact h.elim

/-- Clean values leave an outline plain. -/
theorem plainForest_cleaned {os : List Outline} (h : PlainForest os) : PlainForest (allCleaned os) := by
  cases os with
  | nil => trivial
  | cons o os =>
    obtain ⟨ho, ht, hf⟩ := h
    refine ⟨plain_cleaned ho, fun hx => ?_, plainForest_cleaned hf⟩
    rw [isText_cleaned] at hx
    rw [head?_allCleaned]
    exact ht hx

end

mutual

theorem isReadable_cleaned {o : Outline} {tags : List Tag} (h : o.isReadable tags = true) :
    o.cleaned.isReadable (tags.map Tag.cleaned) = true := by
  cases o with
  | text ls => exact h
  | element t os =>
    simp only [Outline.isReadable, Outline.cleaned, Bool.and_eq_true] at h ⊢
    obtain ⟨⟨⟨hf, hr⟩, hfit⟩, hos⟩ := h
    have hinner := areReadable_cleaned hos
    exact ⟨⟨⟨hf, t.isReadable_cleaned hr⟩, by rw [fits_cleaned]; exact hfit⟩, hinner⟩
  | comment t => cases h
  | doctype d => cases h
  | verbatim m => cases h

/-- Clean values leave an outline readable. -/
theorem areReadable_cleaned {os : List Outline} {tags : List Tag} (h : areReadable tags os = true) :
    areReadable (tags.map Tag.cleaned) (allCleaned os) = true := by
  cases os with
  | nil => rfl
  | cons o os =>
    simp only [areReadable, Bool.and_eq_true, allCleaned] at h ⊢
    exact ⟨isReadable_cleaned h.1, areReadable_cleaned h.2⟩

end

mutual

/-- Whether the values in an outline are steady. -/
def Outline.isSteady : Outline → Bool
  | element t os => t.attrs.all (isSteadyValue ·.value) && areSteady os
  | _ => true

/-- Whether the same holds for siblings. -/
def Outline.areSteady : List Outline → Bool
  | [] => true
  | o :: os => isSteady o && areSteady os

end

/-- A clean tag stays as it is exactly when its values are steady. -/
theorem cleaned_tag_eq_iff (t : Tag) :
    t.cleaned.cleaned = t.cleaned ↔ t.attrs.all (isSteadyValue ·.value) = true := by
  have hattr : ∀ a : Attr, a.cleaned.cleaned = a.cleaned ↔ isSteadyValue a.value = true := by
    intro a
    rw [← cleanValue_eq_iff]
    exact ⟨fun h => congrArg Attr.value h, fun h => by rw [Attr.cleaned, Attr.cleaned]; simp [h]⟩
  have hattrs : ∀ as : List Attr, (as.map Attr.cleaned).map Attr.cleaned = as.map Attr.cleaned ↔
      as.all (isSteadyValue ·.value) = true := by
    intro as
    induction as with
    | nil => simp
    | cons a as ih => simp only [List.map_cons, List.cons.injEq, List.all_cons, Bool.and_eq_true, hattr, ih]
  rw [← hattrs]
  exact ⟨fun h => congrArg Tag.attrs h, fun h => by simp [Tag.cleaned, h]⟩

mutual

theorem cleaned_eq_iff (o : Outline) : o.cleaned.cleaned = o.cleaned ↔ o.isSteady = true := by
  cases o with
  | element t os =>
    simp only [Outline.cleaned, Outline.isSteady, element.injEq, Bool.and_eq_true,
      cleaned_tag_eq_iff, allCleaned_eq_iff os]
  | text ls => simp [Outline.cleaned, Outline.isSteady]
  | comment t => simp [Outline.cleaned, Outline.isSteady]
  | doctype d => simp [Outline.cleaned, Outline.isSteady]
  | verbatim m => simp [Outline.cleaned, Outline.isSteady]

/-- **Clean outlines stay as they are** exactly when their values are steady. -/
theorem allCleaned_eq_iff (os : List Outline) :
    allCleaned (allCleaned os) = allCleaned os ↔ areSteady os = true := by
  cases os with
  | nil => simp [allCleaned, areSteady]
  | cons o os =>
    simp only [allCleaned, areSteady, List.cons.injEq, Bool.and_eq_true, cleaned_eq_iff o,
      allCleaned_eq_iff os]

end

/-! ### Reading the canonical form -/

/-- **The canonical form is read back** as the outline with clean values. -/
theorem showsAs_canonical {p : Page} (hs : p.shape = .fragment) (hp : isPlainForest p.nodes = true)
    (hr : areReadable [] (outlines p.nodes) = true) (hmark : p.canonical.head? ≠ some '\uFEFF') :
    (parse p.canonical).shape = .fragment ∧
      ShowsAs (parse p.canonical).nodes (allCleaned (outlines p.nodes)) := by
  have hplain := hp
  simp only [isPlainForest, Bool.and_eq_true] at hplain
  have hforest := plainForest_outlines hplain.1 hplain.2
  rw [canonical_eq hs hp hr] at hmark ⊢
  exact showsAs_parse (plainForest_cleaned hforest) (areReadable_cleaned hr) hmark

/-- The lines of outlines determine them. -/
theorem linesOf_inj {os us : List Outline} (ho : PlainForest os) (hu : PlainForest us)
    (hne : os ≠ [] ∧ us ≠ []) (h : joinLines (linesOf true 0 os) = joinLines (linesOf true 0 us)) :
    os = us := by
  have hwritten : ∀ {ns : List Outline}, PlainForest ns → ns ≠ [] →
      written true 0 ns = joinLines (linesOf true 0 ns) ++ ['\n'] := by
    intro ns hns hnil
    obtain ⟨n, ns, rfl⟩ := List.exists_cons_of_ne_nil hnil
    refine flatMap_newline fun he => lines_ne_nil hns.1 true 0 ?_
    rw [linesOf, List.append_eq_nil_iff] at he
    exact he.1
  have hlayout : written true 0 os ++ [] = written true 0 us ++ [] := by
    rw [hwritten ho hne.1, hwritten hu hne.2, h]
  exact (forest_cancel ho hu (.inl rfl) (.inl rfl) hlayout).1

/-- The canonical form of a page is stable exactly when its values are steady. -/
theorem canonical_stable_iff {p : Page} (hs : p.shape = .fragment)
    (hp : isPlainForest p.nodes = true) (hr : areReadable [] (outlines p.nodes) = true)
    (hmark : p.canonical.head? ≠ some '\uFEFF') :
    (parse p.canonical).canonical = p.canonical ↔ areSteady (outlines p.nodes) = true := by
  have hplain := hp
  simp only [isPlainForest, Bool.and_eq_true] at hplain
  have hforest := plainForest_outlines hplain.1 hplain.2
  obtain ⟨hshape, hshows⟩ := showsAs_canonical hs hp hr hmark
  -- the second pass is the first one for the page that is read back
  have hagain : (parse p.canonical).canonical =
      joinLines (linesOf true 0 (allCleaned (allCleaned (outlines p.nodes)))) := by
    have hq : isPlainForest (parse p.canonical).nodes = true := by
      rw [isPlainForest, hshows.apart, hshows.plain]
      rfl
    rw [canonical_eq hshape hq (by rw [hshows.outlines]; exact areReadable_cleaned hr),
      hshows.outlines]
  rw [hagain, canonical_eq hs hp hr, ← allCleaned_eq_iff]
  refine ⟨fun h => ?_, fun h => by rw [h]⟩
  -- without outlines there are no values
  cases ho : outlines p.nodes with
  | nil => rfl
  | cons o os =>
    rw [ho] at h hforest
    exact linesOf_inj (plainForest_cleaned (plainForest_cleaned hforest))
      (plainForest_cleaned hforest) ⟨by simp [allCleaned], by simp [allCleaned]⟩ h

/-- **The canonical form of a text is stable exactly when its values are steady**, as long as the
text is a readable fragment and no byte-order mark comes first, which reading would drop. -/
theorem canonical_parse_eq_iff {html : Text} (hs : (parse html).shape = .fragment)
    (hp : isPlainForest (parse html).nodes = true)
    (hr : areReadable [] (outlines (parse html).nodes) = true)
    (hmark : (parse html).canonical.head? ≠ some '\uFEFF') :
    (parse (parse html).canonical).canonical = (parse html).canonical ↔
      areSteady (outlines (parse html).nodes) = true :=
  canonical_stable_iff hs hp hr hmark

/-- A list, the first item of which has a title of two lines. -/
def titledList : Text := "<ul><li title=\"a\n  b\">one<li>two <b>bold</b></ul>".toList

/-- The second line of the title is set in by one step, which the canonical form takes away. -/
theorem canonical_parse_titledList :
    (parse titledList).shape = .fragment ∧ isPlainForest (parse titledList).nodes = true ∧
      areReadable [] (outlines (parse titledList).nodes) = true ∧
      (parse titledList).canonical.head? ≠ some '\uFEFF' ∧
      (parse (parse titledList).canonical).canonical = (parse titledList).canonical := by
  have hs : (parse titledList).shape = .fragment := by decide +kernel
  have hp : isPlainForest (parse titledList).nodes = true := by decide +kernel
  have hr : areReadable [] (outlines (parse titledList).nodes) = true := by decide +kernel
  have hmark : (parse titledList).canonical.head? ≠ some '\uFEFF' := by decide +kernel
  have hsteady : areSteady (outlines (parse titledList).nodes) = true := by decide +kernel
  exact ⟨hs, hp, hr, hmark, (canonical_parse_eq_iff hs hp hr hmark).2 hsteady⟩

/-- A paragraph with a title whose second line is set in by three steps. -/
def steepTitle : Text := "<p title=\"a\n      b\">x</p>".toList

/-- Each time the canonical form is read and written, the second line comes one step further out. -/
theorem canonical_parse_steepTitle :
    (parse (parse steepTitle).canonical).canonical ≠ (parse steepTitle).canonical := by
  decide +kernel

end Page

end HtmlCanon
