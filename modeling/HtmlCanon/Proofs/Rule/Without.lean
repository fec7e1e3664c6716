import HtmlCanon.Proofs.Rule.Entries
import HtmlCanon.Proofs.Rule.Spelling

/-!
# A configuration without a kind of rule

What is kept of a page are the regions that are asked for or else what the selector rule describes.
The rule that does not decide leaves no trace: its key may be taken out of the configuration.

* `Config.raw?_without` : the other kinds keep their values.
* `Config.settle_without_regions`, `Config.settle_without_selector` : what is settled then.
* `Config.canonicalize_without` : **regions and the selector rule exclude each other**.
-/

namespace HtmlCanon

open Yaml (Value Entries)

/-! ### Taking an entry out -/

namespace Yaml

/-- The entries of a mapping but for those of a key. -/
def Entries.erase (es : Entries) (key : String) : Entries := es.filter fun e => !e.1.isKey key

theorem Entries.get?_erase (es : Entries) (key other : String) :
    (es.erase key).get? other = if other = key then none else es.get? other := by
  induction es with
  | nil => simp [erase, Entries.get?]
  | cons e es ih =>
    obtain ⟨k, v⟩ := e
    have herase : Entries.erase ((k, v) :: es) key =
        if k.isKey key then Entries.erase es key else (k, v) :: Entries.erase es key := by
      rw [erase, List.filter_cons]
      cases k.isKey key <;> rfl
    rw [herase, Entries.get?_cons]
    by_cases hk : k.isKey key = true
    · -- the entry goes, and it is none of another key
      rw [if_pos hk, ih]
      by_cases hother : other = key
      · rw [if_pos hother, if_pos hother]
      · simp [Value.isKey_of_ne hk hother]
    · rw [if_neg hk, Entries.get?_cons, ih]
      by_cases hother : other = key
      · rw [hother, if_neg hk]
        simp
      · rw [if_neg hother, if_neg hother]

end Yaml

namespace Config

/-- The configuration without the entry of a kind. -/
def without (c : Config) (k : RuleKind) : Config := ⟨c.entries.erase k.key⟩

variable {c d : Config} {o : Options} {s t : Settled} {k l : RuleKind}

/-- **The other kinds keep their values.** -/
theorem raw?_without (c : Config) (k l : RuleKind) :
    (c.without k).raw? l = if l = k then none else c.raw? l := by
  rw [raw?, without, Entries.get?_erase]
  by_cases h : l = k
  · rw [if_pos (by rw [h]), if_pos h]
  · rw [if_neg fun hkey => h (RuleKind.key_injective hkey), if_neg h]
    rfl

theorem applicable_without (h : l ≠ k) : (c.without k).applicable l o = c.applicable l o := by
  rw [applicable_eq, raw?_without, if_neg h, ← applicable_eq]

/-- No record is left of the kind itself. -/
theorem applicable_without_self (c : Config) (k : RuleKind) (o : Options) :
    (c.without k).applicable k o = .ok [] := by
  rw [applicable_eq, raw?_without, if_pos rfl]
  rfl

theorem single_without (h : l ≠ k) : (c.without k).single l o = c.single l o := by
  unfold single
  rw [applicable_without h]

/-! ### What is settled -/

/-- Rules are settled once everything that they come from is found. -/
theorem settle_of_parts {rs ts us : List Record} (hspacing : c.wantsSpacing o = .ok s.removeSpacing)
    (hselector : c.selectorFor o = .ok s.selector) (hregions : c.applicable .regions o = .ok rs)
    (hfirst : s.regions = rs.head?.map Record.value) (hts : c.applicable .domTransform o = .ok ts)
    (htransforms : Transform.ofRecords ts = .ok s.transforms)
    (hus : c.applicable .sanitization o = .ok us) (hrules : TextRules.ofRecords us = .ok s.textRules) :
    c.settle o = .ok s := by
  simp only [settle, hspacing, hselector, hregions, hts, htransforms, hus, hrules, ← hfirst, bind,
    Except.bind]
  rfl

/-- Without regions the rest is settled as before. -/
theorem settle_without_regions (h : c.settle o = .ok s) :
    (c.without .regions).settle o = .ok { s with regions := none } := by
  obtain ⟨hspacing, hselector, -, ⟨ts, hts, htransforms⟩, us, hus, hrules⟩ := settle_eq_ok h
  refine settle_of_parts ?_ ?_ (applicable_without_self c .regions o) rfl
    ((applicable_without (by decide)).trans hts) htransforms
    ((applicable_without (by decide)).trans hus) hrules
  · rw [← hspacing, wantsSpacing, single_without (by decide), wantsSpacing]
  · rw [← hselector, selectorFor, single_without (by decide), selectorFor]

/-- Without a selector the rest is settled as before. -/
theorem settle_without_selector (h : c.settle o = .ok s) :
    (c.without .selector).settle o = .ok { s with selector := none } := by
  obtain ⟨hspacing, -, ⟨rs, hrs, hfirst⟩, ⟨ts, hts, htransforms⟩, us, hus, hrules⟩ := settle_eq_ok h
  refine settle_of_parts ?_ ?_ ((applicable_without (by decide)).trans hrs) hfirst
    ((applicable_without (by decide)).trans hts) htransforms
    ((applicable_without (by decide)).trans hus) hrules
  · rw [← hspacing, wantsSpacing, single_without (by decide), wantsSpacing]
  · rw [selectorFor, single, applicable_without_self]
    rfl

/-! ### What a run gives -/

/-- Runs give the same when they keep the same of every page and agree in all that comes after. -/
theorem canonicalize_of_reroot_eq (hc : c.settle o = .ok s) (hd : d.settle o = .ok t)
    (hspace : t.space = s.space) (hroot : t.reroot o = s.reroot o)
    (htransforms : t.transforms = s.transforms) (hrules : t.textRules = s.textRules) (html : Text) :
    d.canonicalize o html = c.canonicalize o html := by
  have hedit : t.edit o = s.edit o := by
    funext p
    rw [Settled.edit, Settled.edit, hspace, hroot, htransforms, hrules]
  have hwrite : t.write = s.write := by
    funext p
    rw [Settled.write, Settled.write, hrules]
  simp only [canonicalize, hc, hd, bind, Except.bind, hedit, hwrite]

/-- **Regions and the selector rule exclude each other.** For the rules of a run, if the regions
cannot be planned, whatever the reason, every page comes out as without the entry for regions; if
they can, every page comes out as without the entry for the selector. -/
theorem canonicalize_without (h : c.settle o = .ok s) :
    (∀ e, Region.plan s.regions o.output = .error e →
      ∀ html, c.canonicalize o html = (c.without .regions).canonicalize o html) ∧
    (∀ plan, Region.plan s.regions o.output = .ok plan →
      ∀ html, c.canonicalize o html = (c.without .selector).canonicalize o html) := by
  constructor
  · intro e he html
    have hroot : s.reroot o = { s with regions := none }.reroot o := by
      funext p
      simp only [Settled.reroot, he]
      rfl
    exact canonicalize_of_reroot_eq (settle_without_regions h) h rfl hroot rfl rfl html
  · intro plan hplan html
    have hroot : s.reroot o = { s with selector := none }.reroot o := by
      funext p
      simp only [Settled.reroot, hplan]
    exact canonicalize_of_reroot_eq (settle_without_selector h) h rfl hroot rfl rfl html

/-- A configuration with a selector rule and two records of regions, of which the first one counts. -/
def headings : Config :=
  ⟨[(.string "selector", .string "main"),
    (.string "regions", .sequence [
      .mapping [(.string "value", .sequence [
        .mapping [(.string "name", .string "heading"), (.string "selector", .string "h1")]])],
      .mapping [(.string "value", .string "nothing")]])]⟩

/-- Which entry counts depends on what is asked for: the selector rule is passed over for a region
that is there, and the regions are passed over for one that is not. -/
theorem canonicalize_without_headings :
    let asked : Options := ⟨none, some ["heading", "heading"]⟩
    let unknown : Options := ⟨none, some ["heading", "footer"]⟩
    let s : Settled := ⟨false, some "main", some (.sequence [
      .mapping [(.string "name", .string "heading"), (.string "selector", .string "h1")]]), [], ⟨[], []⟩⟩
    let html := "<nav>n</nav><main><h1>T</h1>x</main>".toList
    headings.settle asked = .ok s ∧ headings.settle unknown = .ok s ∧
      Region.plan s.regions asked.output = .ok [⟨"heading", "h1"⟩, ⟨"heading", "h1"⟩] ∧
      Region.plan s.regions unknown.output = .error (.unknownOutput "footer") ∧
      headings.canonicalize asked html = (headings.without .selector).canonicalize asked html ∧
      headings.canonicalize unknown html = (headings.without .regions).canonicalize unknown html := by
  intro asked unknown s html
  have hasked : headings.settle asked = .ok s := rfl
  have hunknown : headings.settle unknown = .ok s := rfl
  have hplan : Region.plan s.regions asked.output = .ok [⟨"heading", "h1"⟩, ⟨"heading", "h1"⟩] := rfl
  have hfault : Region.plan s.regions unknown.output = .error (.unknownOutput "footer") := rfl
  exact ⟨hasked, hunknown, hplan, hfault, (canonicalize_without hasked).2 _ hplan html,
    (canonicalize_without hunknown).1 _ hfault html⟩

end Config

end HtmlCanon
