import HtmlCanon.Edit.Region
import HtmlCanon.Proofs.Fault
import Mathlib.Data.List.Forall2
import Mathlib.Data.List.Nodup

/-!
# Plans of regions

Which values declare regions, which names can be asked for, and what is reported otherwise. Of several
faults the one that is reported is the first in a fixed order: those of the value, those of its entries
from left to right, and then those of the names that are asked for.

* `Region.ofEntry?_iff` : what an entry of the list has to be.
* `Region.ofEntries_ok_iff`, `Region.ofEntries_error_iff` : entries are read from left to right.
* `Region.withNames_ok_iff`, `Region.withNames_error_iff` : names are looked up from left to right.
* `Region.plan_iff` : **what a plan holds and why there is none**.
-/

namespace HtmlCanon

namespace Yaml.Value

variable {v : Value}

theorem asMapping?_iff {es : Entries} : v.asMapping? = some es ↔ v.untag = .mapping es := by
  unfold Value.asMapping?
  cases v.untag <;> simp

theorem asString?_iff {s : String} : v.asString? = some s ↔ v.untag = .string s := by
  unfold Value.asString?
  cases v.untag <;> simp

theorem asSequence?_iff {es : List Value} :
    v.asSequence? = some es ↔ v.untag = .sequence es := by
  unfold Value.asSequence?
  cases v.untag <;> simp

end Yaml.Value

namespace Region

open Yaml (Value Entries)
open Yaml.Value (asMapping?_iff asString?_iff asSequence?_iff)

/-! ### What declares regions -/

/-- Whether an entry is a mapping with a string as a field, tags aside. -/
def HasField (entry : Value) (name s : String) : Prop :=
  ∃ (es : Entries) (v : Value),
    entry.untag = .mapping es ∧ es.get? name = some v ∧ v.untag = .string s

/-- An entry that declares a region. It has a name and a selector, which are trimmed and may not be
blank, and the name is a single word. -/
structure IsEntry (entry : Value) (r : Region) : Prop where
  name : ∃ s, HasField entry "name" s ∧ r.name = String.ofList (trim s.toList)
  selector : ∃ s, HasField entry "selector" s ∧ r.selector = String.ofList (trim s.toList)
  name_ne : r.name ≠ ""
  selector_ne : r.selector ≠ ""
  word : ∀ c ∈ r.name.toList, isBlank c = false

/-- Entries that declare regions of different names. -/
structure AreEntries (es : List Value) (rs : List Region) : Prop where
  entries : List.Forall₂ IsEntry es rs
  nodup : (rs.map Region.name).Nodup

/-- A value that declares regions: a sequence, tags aside, with at least one entry. -/
def Declares (v : Value) (rs : List Region) : Prop :=
  ∃ es, v.untag = .sequence es ∧ es ≠ [] ∧ AreEntries es rs

theorem Declares.nodup {v : Value} {rs : List Region} (h : Declares v rs) :
    (rs.map Region.name).Nodup := by
  obtain ⟨es, -, -, hes⟩ := h
  exact hes.nodup

/-- What is wrong with an entry of the given number when some names are taken. -/
inductive EntryFault (index : Nat) (names : List String) (entry : Value) : RegionFault → Prop
  | malformed : (∀ r, ¬IsEntry entry r) → EntryFault index names entry (.malformedEntry index)
  | duplicate (r : Region) : IsEntry entry r → r.name ∈ names →
      EntryFault index names entry (.duplicateName r.name)

/-- The first thing that is wrong with a value that should declare regions. -/
inductive ValueFault (v : Value) : RegionFault → Prop
  | notAList : (∀ es, v.untag ≠ .sequence es) → ValueFault v .notAList
  | empty : v.untag = .sequence [] → ValueFault v .notConfigured
  | entry (e : Value) (before after : List Value) (rs : List Region) (f : RegionFault) :
      v.untag = .sequence (before ++ e :: after) → AreEntries before rs →
      EntryFault before.length (rs.map Region.name) e f → ValueFault v f

/-- The first reason why there is no plan. -/
inductive Refused (v : Option Value) (output : Option (List String)) : RegionFault → Prop
  | absent : v = none → Refused v output .notConfigured
  | value (w : Value) (f : RegionFault) : v = some w → ValueFault w f → Refused v output f
  | noOutput (w : Value) (rs : List Region) :
      v = some w → Declares w rs → output = none ∨ output = some [] → Refused v output .noOutput
  | unknown (w : Value) (rs : List Region) (n : String) (before after : List String) :
      v = some w → Declares w rs → output = some (before ++ n :: after) →
      (∀ m ∈ before, m ∈ rs.map Region.name) → n ∉ rs.map Region.name →
      Refused v output (.unknownOutput n)

/-! ### Entries -/

theorem field?_iff {entry : Value} {name : String} {t : Text} :
    field? entry name = some t ↔ ∃ s, HasField entry name s ∧ trim s.toList = t ∧ t ≠ [] := by
  unfold field? HasField
  simp only [Option.bind_eq_bind, Option.bind_eq_some_iff, asMapping?_iff, asString?_iff]
  constructor
  · rintro ⟨es, hes, v, hv, s, hs, ht⟩
    split at ht
    · cases ht
    · rename_i hne
      obtain rfl := Option.some.inj ht
      exact ⟨s, ⟨es, v, hes, hv, hs⟩, rfl, fun h => hne (List.isEmpty_iff.2 h)⟩
  · rintro ⟨s, ⟨es, v, hes, hv, hs⟩, rfl, hne⟩
    refine ⟨es, hes, v, hv, s, hs, if_neg fun h => hne (List.isEmpty_iff.1 h)⟩

theorem ofList_ne_empty {t : Text} : String.ofList t ≠ "" ↔ t ≠ [] := by
  rw [ne_eq, ne_eq, ← String.toList_inj, String.toList_ofList]
  rfl

/-- **What an entry has to be.** -/
theorem ofEntry?_iff {entry : Value} {r : Region} : ofEntry? entry = some r ↔ IsEntry entry r := by
  unfold ofEntry?
  simp only [Option.bind_eq_bind, Option.bind_eq_some_iff, field?_iff]
  constructor
  · rintro ⟨n, ⟨sn, hname, rfl, hn⟩, s, ⟨ss, hselector, rfl, hs⟩, h⟩
    split at h
    · cases h
    · rename_i hword
      obtain rfl := Option.some.inj h
      refine ⟨⟨sn, hname, rfl⟩, ⟨ss, hselector, rfl⟩, ofList_ne_empty.2 hn, ofList_ne_empty.2 hs, ?_⟩
      intro c hc
      rw [String.toList_ofList] at hc
      exact Bool.eq_false_iff.2 fun hb => hword (List.any_eq_true.2 ⟨c, hc, hb⟩)
  · rintro ⟨⟨sn, hname, hn⟩, ⟨ss, hselector, hs⟩, hn0, hs0, hword⟩
    rw [hn] at hn0 hword
    rw [hs] at hs0
    refine ⟨_, ⟨sn, hname, rfl, ofList_ne_empty.1 hn0⟩, _,
      ⟨ss, hselector, rfl, ofList_ne_empty.1 hs0⟩, ?_⟩
    rw [if_neg, ← hn, ← hs]
    intro h
    obtain ⟨c, hc, hb⟩ := List.any_eq_true.1 h
    rw [hword c (by rwa [String.toList_ofList])] at hb
    cases hb

/-- An entry declares one region at most. -/
theorem IsEntry.unique {entry : Value} {r r' : Region} (h : IsEntry entry r) (h' : IsEntry entry r') :
    r = r' := Option.some.inj ((ofEntry?_iff.2 h).symm.trans (ofEntry?_iff.2 h'))

theorem ofEntry?_eq_none_iff {entry : Value} : ofEntry? entry = none ↔ ∀ r, ¬IsEntry entry r := by
  simp only [← ofEntry?_iff, Option.eq_none_iff_forall_ne_some, ne_eq]

variable {i : Nat} {names : List String} {es : List Value} {rs : List Region} {f : RegionFault}

theorem ofEntries_nil : ofEntries i names [] = .ok [] := rfl

theorem ofEntries_malformed {e : Value} (h : ∀ r, ¬IsEntry e r) :
    ofEntries i names (e :: es) = .error (.malformedEntry i) := by
  rw [ofEntries, ofEntry?_eq_none_iff.2 h]
  rfl

theorem ofEntries_duplicate {e : Value} {r : Region} (h : IsEntry e r) (hr : r.name ∈ names) :
    ofEntries i names (e :: es) = .error (.duplicateName r.name) := by
  simp only [ofEntries, ofEntry?_iff.2 h, if_pos (List.contains_iff_mem.2 hr)]
  rfl

theorem ofEntries_entry {e : Value} {r : Region} (h : IsEntry e r) (hr : r.name ∉ names) :
    ofEntries i names (e :: es) =
      ofEntries (i + 1) (r.name :: names) es >>= fun rs => pure (r :: rs) := by
  simp only [ofEntries, ofEntry?_iff.2 h, if_neg fun hc => hr (List.contains_iff_mem.1 hc)]

/-- An entry is refused as it is, or because its name is taken, or it declares a region. -/
theorem entry_cases (i : Nat) (names : List String) (e : Value) :
    (∃ f, EntryFault i names e f) ∨ ∃ r, IsEntry e r ∧ r.name ∉ names := by
  by_cases h : ∃ r, IsEntry e r
  · obtain ⟨r, hr⟩ := h
    by_cases hname : r.name ∈ names
    · exact .inl ⟨_, .duplicate r hr hname⟩
    · exact .inr ⟨r, hr, hname⟩
  · exact .inl ⟨_, .malformed (not_exists.1 h)⟩

theorem EntryFault.congr {names' : List String} {e : Value} (h : EntryFault i names e f)
    (hnames : ∀ n, n ∈ names ↔ n ∈ names') : EntryFault i names' e f := by
  cases h with
  | malformed h => exact .malformed h
  | duplicate r h hr => exact .duplicate r h ((hnames _).1 hr)

theorem EntryFault.ofEntries_eq {e : Value} (h : EntryFault i names e f) :
    ofEntries i names (e :: es) = .error f := by
  cases h with
  | malformed h => exact ofEntries_malformed h
  | duplicate r h hr => exact ofEntries_duplicate h hr

theorem areEntries_nil : AreEntries [] rs ↔ rs = [] := by
  constructor
  · rintro ⟨h, -⟩
    exact List.forall₂_nil_left_iff.1 h
  · rintro rfl
    exact ⟨.nil, List.nodup_nil⟩

theorem areEntries_cons {e : Value} {r : Region} :
    AreEntries (e :: es) (r :: rs) ↔ IsEntry e r ∧ r.name ∉ rs.map Region.name ∧ AreEntries es rs := by
  constructor
  · rintro ⟨h, hnodup⟩
    obtain ⟨he, hes⟩ := List.forall₂_cons.1 h
    obtain ⟨hr, hrs⟩ := List.nodup_cons.1 hnodup
    exact ⟨he, hr, hes, hrs⟩
  · rintro ⟨he, hr, hes, hrs⟩
    exact ⟨.cons he hes, List.nodup_cons.2 ⟨hr, hrs⟩⟩

/-- No name of some regions is the first of some names or one of the others. -/
theorem forall_not_mem_cons {n : String} :
    (∀ r ∈ rs, r.name ∉ n :: names) ↔ n ∉ rs.map Region.name ∧ ∀ r ∈ rs, r.name ∉ names := by
  simp only [List.mem_cons, not_or, List.mem_map, not_exists, not_and]
  constructor
  · exact fun h => ⟨fun r hr hn => (h r hr).1 hn, fun r hr => (h r hr).2⟩
  · exact fun h r hr => ⟨fun hn => h.1 r hr hn, h.2 r hr⟩

/-- **Entries are read** when each of them declares a region and no name comes twice or is taken. -/
theorem ofEntries_ok_iff : ofEntries i names es = .ok rs ↔
    AreEntries es rs ∧ ∀ r ∈ rs, r.name ∉ names := by
  induction es generalizing i names rs with
  | nil =>
    rw [ofEntries_nil, areEntries_nil, Except.ok.injEq]
    exact ⟨fun h => h ▸ ⟨rfl, List.forall_mem_nil _⟩, fun h => h.1.symm⟩
  | cons e es ih =>
    rcases entry_cases i names e with ⟨f, hf⟩ | ⟨r, he, hr⟩
    · rw [hf.ofEntries_eq]
      refine ⟨nofun, fun ⟨h, hfresh⟩ => ?_⟩
      obtain ⟨r, rs', he, -, rfl⟩ := List.forall₂_cons_left_iff.1 h.entries
      cases hf with
      | malformed hno => exact absurd he (hno r)
      | duplicate r' he' hr' =>
        obtain rfl := he'.unique he
        exact absurd hr' (hfresh r' List.mem_cons_self)
    · -- the name of the entry is one that is taken for all behind it
      rw [ofEntries_entry he hr, bind_eq_ok]
      constructor
      · rintro ⟨rs', hrs', h⟩
        obtain rfl := pure_eq_ok.1 h
        obtain ⟨hes, hfresh⟩ := ih.1 hrs'
        obtain ⟨hname, hnames⟩ := forall_not_mem_cons.1 hfresh
        exact ⟨areEntries_cons.2 ⟨he, hname, hes⟩, List.forall_mem_cons.2 ⟨hr, hnames⟩⟩
      · rintro ⟨h, hfresh⟩
        obtain ⟨r', rs', he', -, rfl⟩ := List.forall₂_cons_left_iff.1 h.entries
        obtain rfl := he.unique he'
        obtain ⟨-, hname, hes⟩ := areEntries_cons.1 h
        have hnames := (List.forall_mem_cons.1 hfresh).2
        exact ⟨rs', ih.2 ⟨hes, forall_not_mem_cons.2 ⟨hname, hnames⟩⟩, rfl⟩

/-- **The first entry that is refused** is the one that is reported. -/
theorem ofEntries_error_iff : ofEntries i names es = .error f ↔
    ∃ before e after rs, es = before ++ e :: after ∧ AreEntries before rs ∧
      (∀ r ∈ rs, r.name ∉ names) ∧
      EntryFault (i + before.length) (rs.map Region.name ++ names) e f := by
  induction es generalizing i names with
  | nil =>
    rw [ofEntries_nil]
    refine ⟨nofun, ?_⟩
    rintro ⟨before, e, after, rs, h, -⟩
    exact absurd h.symm (List.append_ne_nil_of_right_ne_nil before (List.cons_ne_nil e after))
  | cons e es ih =>
    -- the names that come before are those that were taken at first and those of the regions read
    have hnames : ∀ (r : Region) (rs : List Region) n,
        n ∈ rs.map Region.name ++ r.name :: names ↔ n ∈ (r :: rs).map Region.name ++ names := by
      intro r rs n
      simp only [List.map_cons, List.mem_append, List.mem_cons]
      tauto
    constructor
    · intro h
      rcases entry_cases i names e with ⟨g, hg⟩ | ⟨r, he, hr⟩
      · obtain rfl := Except.error.inj (hg.ofEntries_eq.symm.trans h)
        exact ⟨[], e, es, [], rfl, ⟨.nil, List.nodup_nil⟩, List.forall_mem_nil _, hg⟩
      · rw [ofEntries_entry he hr] at h
        have h := (bind_eq_error.1 h).resolve_right fun ⟨_, _, hp⟩ => pure_ne_error hp
        obtain ⟨before, e', after, rs, rfl, hbefore, hfresh, hf⟩ := ih.1 h
        obtain ⟨hname, hfresh⟩ := forall_not_mem_cons.1 hfresh
        refine ⟨e :: before, e', after, r :: rs, rfl, areEntries_cons.2 ⟨he, hname, hbefore⟩,
          List.forall_mem_cons.2 ⟨hr, hfresh⟩, ?_⟩
        rw [List.length_cons, Nat.add_comm before.length, ← Nat.add_assoc]
        exact hf.congr (hnames r rs)
    · rintro ⟨before, e', after, rs, h, hbefore, hfresh, hf⟩
      cases before with
      | nil =>
        obtain rfl := areEntries_nil.1 hbefore
        obtain ⟨rfl, -⟩ := List.cons.inj h
        exact hf.ofEntries_eq
      | cons b before =>
        obtain ⟨rfl, hes⟩ := List.cons.inj h
        obtain ⟨r, rs', he, -, rfl⟩ := List.forall₂_cons_left_iff.1 hbefore.entries
        obtain ⟨-, hname, hbefore⟩ := areEntries_cons.1 hbefore
        obtain ⟨hr, hfresh⟩ := List.forall_mem_cons.1 hfresh
        rw [List.length_cons, Nat.add_comm before.length, ← Nat.add_assoc] at hf
        have hrest := ih.2 ⟨before, e', after, rs', hes, hbefore,
          forall_not_mem_cons.2 ⟨hname, hfresh⟩, hf.congr fun n => (hnames r rs' n).symm⟩
        rw [ofEntries_entry he hr]
        exact bind_eq_error.2 (.inl hrest)

/-! ### Values -/

theorem areEntries_iff_ofEntries : ofEntries 0 [] es = .ok rs ↔ AreEntries es rs := by
  rw [ofEntries_ok_iff]
  exact and_iff_left fun r _ => List.not_mem_nil

/-- The regions that a value declares. -/
theorem ofValue_ok_iff {w : Value} : ofValue w = .ok rs ↔ Declares w rs := by
  unfold ofValue Declares
  constructor
  · intro h
    split at h
    · cases h
    · cases h
    · rename_i es hne hes
      exact ⟨es, asSequence?_iff.1 hes, hne, areEntries_iff_ofEntries.1 h⟩
  · rintro ⟨es, hes, hne, h⟩
    rw [asSequence?_iff.2 hes]
    cases es with
    | nil => exact absurd rfl hne
    | cons e es => exact areEntries_iff_ofEntries.2 h

/-- **What is reported of a value.** -/
theorem ofValue_error_iff {w : Value} : ofValue w = .error f ↔ ValueFault w f := by
  unfold ofValue
  constructor
  · intro h
    split at h
    · rename_i hnone
      obtain rfl := throw_eq_error.1 h
      refine .notAList fun es hes => ?_
      rw [asSequence?_iff.2 hes] at hnone
      cases hnone
    · rename_i hes
      obtain rfl := throw_eq_error.1 h
      exact .empty (asSequence?_iff.1 hes)
    · rename_i es _ hes
      obtain ⟨before, e, after, rs, rfl, hbefore, -, hf⟩ := ofEntries_error_iff.1 h
      rw [List.append_nil, Nat.zero_add] at hf
      exact .entry e before after rs f (asSequence?_iff.1 hes) hbefore hf
  · intro h
    cases h with
    | notAList h =>
      have hnone : w.asSequence? = none :=
        Option.eq_none_iff_forall_ne_some.2 fun es hes => h es (asSequence?_iff.1 hes)
      rw [hnone]
      rfl
    | empty h =>
      rw [asSequence?_iff.2 h]
      rfl
    | entry e before after rs f h hbefore hf =>
      have herror : ofEntries 0 [] (before ++ e :: after) = .error f := by
        refine ofEntries_error_iff.2
          ⟨before, e, after, rs, rfl, hbefore, fun r _ => List.not_mem_nil, ?_⟩
        rwa [List.append_nil, Nat.zero_add]
      rw [asSequence?_iff.2 h]
      cases hes : before ++ e :: after with
      | nil => exact absurd hes (List.append_ne_nil_of_right_ne_nil before (List.cons_ne_nil e after))
      | cons d ds => rwa [hes] at herror

/-! ### Names that are asked for -/

variable {ns : List String} {plan : List Region}

theorem find?_eq_none_iff {n : String} :
    (rs.find? fun r => r.name == n) = none ↔ n ∉ rs.map Region.name := by
  simp [List.find?_eq_none]

/-- Of regions with different names the one with a given name is found. -/
theorem find?_eq_some_iff (hrs : (rs.map Region.name).Nodup) {n : String} {r : Region} :
    (rs.find? fun r => r.name == n) = some r ↔ r ∈ rs ∧ r.name = n := by
  constructor
  · exact fun h => ⟨List.mem_of_find?_eq_some h, by simpa using List.find?_some h⟩
  · rintro ⟨hr, rfl⟩
    cases hfind : rs.find? fun r' => r'.name == r.name with
    | none => exact absurd (List.mem_map_of_mem hr) (find?_eq_none_iff.1 hfind)
    | some r' =>
      have hname : r'.name = r.name := by simpa using List.find?_some hfind
      rw [List.inj_on_of_nodup_map hrs (List.mem_of_find?_eq_some hfind) hr hname]

/-- **Names are looked up** one by one. -/
theorem withNames_ok_iff (hrs : (rs.map Region.name).Nodup) :
    withNames rs ns = .ok plan ↔ plan.map Region.name = ns ∧ ∀ r ∈ plan, r ∈ rs := by
  induction ns generalizing plan with
  | nil =>
    rw [withNames, pure_eq_ok, List.map_eq_nil_iff]
    exact ⟨fun h => h ▸ ⟨rfl, List.forall_mem_nil _⟩, fun h => h.1.symm⟩
  | cons n ns ih =>
    rw [withNames]
    cases hfind : rs.find? fun r => r.name == n with
    | none =>
      refine ⟨nofun, fun ⟨hnames, hmem⟩ => ?_⟩
      obtain ⟨r, plan, rfl, rfl, -⟩ := List.map_eq_cons_iff.1 hnames
      exact absurd (List.mem_map_of_mem (hmem r List.mem_cons_self)) (find?_eq_none_iff.1 hfind)
    | some r =>
      obtain ⟨hr, rfl⟩ := (find?_eq_some_iff hrs).1 hfind
      show withNames rs ns >>= (fun rs => pure (r :: rs)) = _ ↔ _
      rw [bind_eq_ok]
      constructor
      · rintro ⟨plan, hplan, h⟩
        obtain rfl := pure_eq_ok.1 h
        obtain ⟨rfl, hmem⟩ := ih.1 hplan
        exact ⟨rfl, List.forall_mem_cons.2 ⟨hr, hmem⟩⟩
      · rintro ⟨hnames, hmem⟩
        obtain ⟨r', plan, rfl, hname, rfl⟩ := List.map_eq_cons_iff.1 hnames
        obtain ⟨hr', hmem⟩ := List.forall_mem_cons.1 hmem
        obtain rfl := List.inj_on_of_nodup_map hrs hr' hr hname
        exact ⟨plan, ih.2 ⟨rfl, hmem⟩, rfl⟩

/-- **The first unknown name** is the one that is reported. -/
theorem withNames_error_iff : withNames rs ns = .error f ↔
    ∃ before n after, ns = before ++ n :: after ∧ (∀ m ∈ before, m ∈ rs.map Region.name) ∧
      n ∉ rs.map Region.name ∧ f = .unknownOutput n := by
  induction ns with
  | nil =>
    refine ⟨nofun, ?_⟩
    rintro ⟨before, n, after, h, -⟩
    exact absurd h.symm (List.append_ne_nil_of_right_ne_nil before (List.cons_ne_nil n after))
  | cons n ns ih =>
    rw [withNames]
    cases hfind : rs.find? fun r => r.name == n with
    | none =>
      have hn := find?_eq_none_iff.1 hfind
      refine throw_eq_error.trans ⟨?_, ?_⟩
      · rintro rfl
        exact ⟨[], n, ns, rfl, List.forall_mem_nil _, hn, rfl⟩
      · rintro ⟨before, m, after, h, hbefore, -, rfl⟩
        cases before with
        | nil => rw [(List.cons.inj h).1]
        | cons b before =>
          obtain ⟨rfl, -⟩ := List.cons.inj h
          exact absurd (hbefore n List.mem_cons_self) hn
    | some r =>
      have hn : n ∈ rs.map Region.name := by
        by_contra hn
        rw [find?_eq_none_iff.2 hn] at hfind
        cases hfind
      show withNames rs ns >>= (fun rs => pure (r :: rs)) = _ ↔ _
      rw [bind_eq_error, or_iff_left fun ⟨_, _, hp⟩ => pure_ne_error hp, ih]
      constructor
      · rintro ⟨before, m, after, rfl, hbefore, hm⟩
        exact ⟨n :: before, m, after, rfl, List.forall_mem_cons.2 ⟨hn, hbefore⟩, hm⟩
      · rintro ⟨before, m, after, h, hbefore, hm, rfl⟩
        cases before with
        | nil =>
          obtain ⟨rfl, -⟩ := List.cons.inj h
          exact absurd hn hm
        | cons b before =>
          obtain ⟨rfl, rfl⟩ := List.cons.inj h
          exact ⟨before, m, after, rfl, (List.forall_mem_cons.1 hbefore).2, hm, rfl⟩

/-! ### Plans -/

variable {v : Option Value} {output : Option (List String)}

/-- A plan is made of the regions that the value declares, by the names that are asked for. -/
theorem plan_ok_iff : Region.plan v output = .ok plan ↔
    ∃ w rs ns, v = some w ∧ Declares w rs ∧ output = some ns ∧ ns ≠ [] ∧
      plan.map Region.name = ns ∧ ∀ r ∈ plan, r ∈ rs := by
  constructor
  · intro h
    unfold Region.plan at h
    split at h
    · cases h
    · rename_i w
      obtain ⟨rs, hrs, h⟩ := bind_eq_ok.1 h
      split at h
      · cases h
      · cases h
      · rename_i ns hne _
        have hdecl := ofValue_ok_iff.1 hrs
        exact ⟨w, rs, ns, rfl, hdecl, rfl, hne, (withNames_ok_iff hdecl.nodup).1 h⟩
  · rintro ⟨w, rs, ns, rfl, hdecl, rfl, hne, hplan⟩
    refine bind_eq_ok.2 ⟨rs, ofValue_ok_iff.2 hdecl, ?_⟩
    cases ns with
    | nil => exact absurd rfl hne
    | cons n ns => exact (withNames_ok_iff hdecl.nodup).2 hplan

/-- **Why there is no plan.** -/
theorem plan_error_iff : Region.plan v output = .error f ↔ Refused v output f := by
  constructor
  · intro h
    unfold Region.plan at h
    split at h
    · obtain rfl := throw_eq_error.1 h
      exact .absent rfl
    · rename_i w
      rcases bind_eq_error.1 h with h | ⟨rs, hrs, h⟩
      · exact .value w f rfl (ofValue_error_iff.1 h)
      · have hdecl := ofValue_ok_iff.1 hrs
        split at h
        · obtain rfl := throw_eq_error.1 h
          exact .noOutput w rs rfl hdecl (.inl rfl)
        · obtain rfl := throw_eq_error.1 h
          exact .noOutput w rs rfl hdecl (.inr rfl)
        · obtain ⟨before, n, after, rfl, hbefore, hn, rfl⟩ := withNames_error_iff.1 h
          exact .unknown w rs n before after rfl hdecl rfl hbefore hn
  · intro h
    cases h with
    | absent h =>
      subst h
      rfl
    | value w f h hf =>
      subst h
      exact bind_eq_error.2 (.inl (ofValue_error_iff.2 hf))
    | noOutput w rs h hdecl hout =>
      subst h
      refine bind_eq_error.2 (.inr ⟨rs, ofValue_ok_iff.2 hdecl, ?_⟩)
      rcases hout with rfl | rfl <;> rfl
    | unknown w rs n before after h hdecl hout hbefore hn =>
      subst h hout
      refine bind_eq_error.2 (.inr ⟨rs, ofValue_ok_iff.2 hdecl, ?_⟩)
      have herror : withNames rs (before ++ n :: after) = .error (.unknownOutput n) :=
        withNames_error_iff.2 ⟨before, n, after, rfl, hbefore, hn, rfl⟩
      cases hns : before ++ n :: after with
      | nil => exact absurd hns (List.append_ne_nil_of_right_ne_nil before (List.cons_ne_nil n after))
      | cons m ms => rwa [hns] at herror

/-- **What a plan holds and why there is none.** There is a plan exactly if the value declares regions
and some names are asked for, all of them names of these regions. Its entries are the regions with
these names, in the order in which they are asked for. If there is none, the reason that is given is
the first one. -/
theorem plan_iff (v : Option Value) (output : Option (List String)) :
    ((∃ plan, Region.plan v output = .ok plan) ↔
      ∃ w rs ns, v = some w ∧ Declares w rs ∧ output = some ns ∧ ns ≠ [] ∧
        ∀ n ∈ ns, n ∈ rs.map Region.name) ∧
    (∀ plan, Region.plan v output = .ok plan ↔
      ∃ w rs ns, v = some w ∧ Declares w rs ∧ output = some ns ∧ ns ≠ [] ∧
        plan.map Region.name = ns ∧ ∀ r ∈ plan, r ∈ rs) ∧
    ∀ f, Region.plan v output = .error f ↔ Refused v output f := by
  refine ⟨?_, fun plan => plan_ok_iff, fun f => plan_error_iff⟩
  constructor
  · rintro ⟨plan, h⟩
    obtain ⟨w, rs, _, hv, hdecl, hout, hne, rfl, hmem⟩ := plan_ok_iff.1 h
    refine ⟨w, rs, _, hv, hdecl, hout, hne, fun n hn => ?_⟩
    obtain ⟨r, hr, rfl⟩ := List.mem_map.1 hn
    exact List.mem_map_of_mem (hmem r hr)
  · rintro ⟨w, rs, ns, hv, hdecl, hout, hne, hnames⟩
    cases h : withNames rs ns with
    | ok plan => exact ⟨plan, plan_ok_iff.2 ⟨w, rs, ns, hv, hdecl, hout, hne,
        (withNames_ok_iff hdecl.nodup).1 h⟩⟩
    | error f =>
      obtain ⟨before, n, after, rfl, -, hn, -⟩ := withNames_error_iff.1 h
      exact absurd (hnames n (by simp)) hn

end Region

end HtmlCanon
