import HtmlCanon.Pipeline
import HtmlCanon.Proofs.Fault
import Mathlib.Data.List.Forall2

/-!
# What a checked configuration can fail with

A configuration that was checked as a whole can still be used in a run for which more than one
record of a kind applies, or name a selector that cannot be compiled. A check looks through tags
where a run does not: a tagged string passes as the value of a selector rule, and the run in which
it applies fails.

* `Config.applicable_of_check` : the records that apply to a run are among those that were checked.
* `Config.selectorFor_of_check` : what the selector rules of a run come to.
* `Config.canonicalize_of_check` : **the faults of a run** under a checked configuration.
-/

namespace HtmlCanon

open Yaml (Value)

/-- A fault that a check leaves to the run: too many records apply, or a selector cannot be
compiled. -/
def Fault.IsLate : Fault → Prop
  | ambiguous _ => True
  | badSelector _ => True
  | _ => False

/-! ### Records that apply -/

namespace Record

/-- A record applies or not once its pattern for paths compiles. -/
theorem applies_ok {r : Record} (h : ∀ p, r.path = some p → ∃ x, compilePath p = .ok x)
    (o : Options) : ∃ b, r.applies o = .ok b := by
  unfold applies
  by_cases hd : r.isDisabled = true
  · exact ⟨false, by rw [if_pos hd]; rfl⟩
  rw [if_neg hd]
  cases hp : r.path with
  | none => exact ⟨true, rfl⟩
  | some p =>
    cases o.path with
    | none => exact ⟨true, rfl⟩
    | some path =>
      obtain ⟨x, hx⟩ := h p hp
      exact ⟨x.isMatch path.toList, by simp [hx, bind, Except.bind, pure, Except.pure]⟩

/-- Records that apply are found among records whose patterns for paths compile. -/
theorem applicable_ok {rs : List Record}
    (h : ∀ r ∈ rs, ∀ p, r.path = some p → ∃ x, compilePath p = .ok x) (o : Options) :
    ∃ as, applicable o rs = .ok as ∧ as.Sublist rs := by
  induction rs with
  | nil => exact ⟨[], rfl, .slnil⟩
  | cons r rs ih =>
    obtain ⟨b, hb⟩ := applies_ok (h r List.mem_cons_self) o
    obtain ⟨as, has, hs⟩ := ih fun r' hr' => h r' (List.mem_cons_of_mem _ hr')
    cases b with
    | true =>
      refine ⟨r :: as, ?_, hs.cons_cons r⟩
      simp [applicable, hb, has, bind, Except.bind, pure, Except.pure]
    | false =>
      refine ⟨as, ?_, hs.cons r⟩
      simp [applicable, hb, has, bind, Except.bind, pure, Except.pure]

/-- What can be read from all records, one after the other, can be read from some of them. -/
theorem read_sublist {α : Type} {f : Record → Except Fault (List α)}
    {g : List Record → Except Fault (List α)}
    (hcons : ∀ r rs, g (r :: rs) = do let ts ← f r; pure (ts ++ (← g rs)))
    {as rs : List Record} (hs : as.Sublist rs) {ts : List α} (h : g rs = .ok ts) :
    ∃ us, g as = .ok us := by
  induction hs generalizing ts with
  | slnil => exact ⟨ts, h⟩
  | cons r _ ih =>
    simp only [hcons, bind_eq_ok] at h
    obtain ⟨_, _, us, hus, _⟩ := h
    exact ih hus
  | cons_cons r _ ih =>
    simp only [hcons, bind_eq_ok] at h
    obtain ⟨vs, hvs, us, hus, _⟩ := h
    obtain ⟨ws, hws⟩ := ih hus
    exact ⟨vs ++ ws, by simp only [hcons, bind_eq_ok]; exact ⟨vs, hvs, ws, hws, rfl⟩⟩

/-- What can be read from all records can be read from each of them. -/
theorem read_of_mem {α : Type} {f : Record → Except Fault (List α)}
    {g : List Record → Except Fault (List α)}
    (hcons : ∀ r rs, g (r :: rs) = do let ts ← f r; pure (ts ++ (← g rs)))
    {rs : List Record} {ts : List α} (h : g rs = .ok ts) {r : Record} (hr : r ∈ rs) :
    ∃ us, f r = .ok us := by
  obtain ⟨us, hus⟩ := read_sublist hcons (List.singleton_sublist.2 hr) h
  rw [hcons] at hus
  obtain ⟨vs, hvs, -⟩ := bind_eq_ok.1 hus
  exact ⟨vs, hvs⟩

/-- **Records are read one by one**, and what they give is put in a row. -/
theorem readAll_ok_iff {α : Type} {f : Record → Except Fault (List α)}
    {g : List Record → Except Fault (List α)} (hnil : g [] = pure [])
    (hcons : ∀ r rs, g (r :: rs) = do let ts ← f r; pure (ts ++ (← g rs)))
    {rs : List Record} {ts : List α} :
    g rs = .ok ts ↔ ∃ tss, List.Forall₂ (fun r us => f r = .ok us) rs tss ∧ ts = tss.flatten := by
  induction rs generalizing ts with
  | nil =>
    simp only [hnil, pure_eq_ok, List.forall₂_nil_left_iff, exists_eq_left, List.flatten_nil]
    exact eq_comm
  | cons r rs ih =>
    rw [hcons, bind_eq_ok]
    constructor
    · rintro ⟨us, hus, h⟩
      obtain ⟨vs, hvs, h⟩ := bind_eq_ok.1 h
      obtain ⟨tss, htss, rfl⟩ := ih.1 hvs
      exact ⟨us :: tss, .cons hus htss, (pure_eq_ok.1 h).symm⟩
    · rintro ⟨_, hall, rfl⟩
      obtain ⟨us, tss, hus, hrest, rfl⟩ := List.forall₂_cons_left_iff.1 hall
      exact ⟨us, hus, bind_eq_ok.2 ⟨_, ih.2 ⟨tss, hrest, rfl⟩, rfl⟩⟩

end Record

theorem Transform.ofRecords_ok_iff {rs : List Record} {ts : List Transform} : ofRecords rs = .ok ts ↔
    ∃ tss, List.Forall₂ (fun r us => ofValue r.value = .ok us) rs tss ∧ ts = tss.flatten :=
  Record.readAll_ok_iff (f := fun r => ofValue r.value) (g := ofRecords) rfl fun _ _ => rfl

theorem TextRule.ofRecords_ok_iff {rs : List Record} {ts : List TextRule} : ofRecords rs = .ok ts ↔
    ∃ tss, List.Forall₂ (fun r us => ofRecord r = .ok us) rs tss ∧ ts = tss.flatten :=
  Record.readAll_ok_iff (f := ofRecord) (g := ofRecords) rfl fun _ _ => rfl

/-! ### What a check has seen -/

namespace Config

theorem forM_ok {α : Type} {f : α → Except Fault Unit} {as : List α} (h : as.forM f = .ok ()) :
    ∀ a ∈ as, f a = .ok () := by
  induction as with
  | nil => simp
  | cons a as ih =>
    have h' : (f a >>= fun _ => as.forM f) = .ok () := h
    obtain ⟨⟨⟩, ha, hr⟩ := bind_eq_ok.1 h'
    intro b hb
    rcases List.mem_cons.1 hb with rfl | hb
    · exact ha
    · exact ih hr b hb

theorem checkPaths_ok {rs : List Record} (h : checkPaths rs = .ok ()) :
    ∀ r ∈ rs, ∀ p, r.path = some p → ∃ x, compilePath p = .ok x := by
  induction rs with
  | nil => simp
  | cons r rs ih =>
    intro r' hr' p hp
    unfold checkPaths at h
    rcases List.mem_cons.1 hr' with rfl | hr'
    · rw [hp] at h
      cases hx : compilePath p with
      | ok x => exact ⟨x, rfl⟩
      | error e => simp [hx, discard, Functor.mapConst, bind, Except.bind, Except.map] at h
    · have hrest : checkPaths rs = .ok () := by
        cases hq : r.path with
        | none => rwa [hq] at h
        | some q =>
          rw [hq] at h
          exact (bind_eq_ok.1 h).elim fun _ ha => ha.2
      exact ih hrest r' hr' p hp

/-- A check has seen the records of every kind, and found their patterns and values in order. -/
theorem records_of_check {c : Config} (h : c.check = .ok ()) (k : RuleKind) :
    ∃ rs, c.records k = .ok rs ∧ checkPaths (rs.getD []) = .ok () ∧
      checkValues k (rs.getD []) = .ok () := by
  have hk : c.checkKind k = .ok () := forM_ok h k (by cases k <;> decide)
  unfold checkKind at hk
  obtain ⟨rs, hrs, hk⟩ := bind_eq_ok.1 hk
  cases rs with
  | none => exact ⟨none, hrs, rfl, by cases k <;> rfl⟩
  | some rs =>
    obtain ⟨⟨⟩, hp, hv⟩ := bind_eq_ok.1 hk
    exact ⟨some rs, hrs, hp, hv⟩

/-- **The records that apply to a run** are found, among records whose values were checked. -/
theorem applicable_of_check {c : Config} (h : c.check = .ok ()) (k : RuleKind) (o : Options) :
    ∃ as rs, c.applicable k o = .ok as ∧ as.Sublist rs ∧ checkValues k rs = .ok () := by
  obtain ⟨rs, hrs, hp, hv⟩ := records_of_check h k
  obtain ⟨as, has, hs⟩ := Record.applicable_ok (checkPaths_ok hp) o
  exact ⟨as, rs.getD [], by simp [applicable, hrs, has, bind, Except.bind], hs, hv⟩

/-- At most one record of a kind applies, or there are too many. -/
theorem single_of_check {c : Config} (h : c.check = .ok ()) (k : RuleKind) (o : Options) :
    FailsOnly Fault.IsLate (c.single k o) := by
  obtain ⟨as, _, has, _, _⟩ := applicable_of_check h k o
  refine (FailsOnly.ok has).bind fun as _ => ?_
  match as with
  | [] => exact .pure _
  | [_] => exact .pure _
  | _ :: _ :: _ => exact .throw trivial

/-! ### Selector rules -/

end Config

/-- Whether a value has a tag. -/
def Yaml.Value.isTagged : Value → Bool
  | tagged .. => true
  | _ => false

namespace Config

/-- A value without a tag that passes a check gives a selector, or none. -/
theorem selectorOf_ok {v : Value} (hv : (v.isNull || v.asString?.isSome) = true)
    (ht : v.isTagged = false) : ∃ s, selectorOf v = .ok s := by
  cases v with
  | null => exact ⟨none, rfl⟩
  | string s => exact ⟨_, rfl⟩
  | tagged t w => cases ht
  | bool b => cases hv
  | number n => cases hv
  | sequence vs => cases hv
  | mapping es => cases hv

/-- A value with a tag gives no selector. -/
theorem selectorOf_tagged {v : Value} (ht : v.isTagged = true) :
    selectorOf v = .error (.invalidRule .selector (.selectorValue v)) := by
  cases v with
  | tagged t w => rfl
  | _ => cases ht

/-- The only selector record of a run has a value that passed the check. -/
theorem value_of_single {c : Config} (h : c.check = .ok ()) {o : Options} {r : Record}
    (hr : c.single .selector o = .ok (some r)) :
    (r.value.isNull || r.value.asString?.isSome) = true := by
  obtain ⟨as, rs, has, hs, hv⟩ := applicable_of_check h .selector o
  have hall : rs.all (fun r => r.value.isNull || r.value.asString?.isSome) = true := by
    by_cases ha : rs.all (fun r => r.value.isNull || r.value.asString?.isSome) = true
    · exact ha
    · rw [checkValues, checkSelectors, if_neg ha] at hv
      exact absurd hv throw_ne_ok
  have hmem : r ∈ as := by
    unfold single at hr
    obtain ⟨bs, hbs, hr⟩ := bind_eq_ok.1 hr
    obtain rfl : as = bs := by simpa [has] using hbs
    match as, hr with
    | [], hr => cases hr
    | [a], hr =>
      obtain rfl : a = r := by simpa [pure_eq_ok] using hr
      exact List.mem_singleton_self _
    | _ :: _ :: _, hr => cases hr
  exact List.all_eq_true.1 hall r (hs.subset hmem)

/-- The value with a tag that a run meets in the only selector record that applies to it, if the run
comes to settle selector rules. -/
def taggedSelector? (c : Config) (o : Options) (html : Text) : Option Value :=
  if html.isEmpty then none
  else match c.wantsSpacing o, c.single .selector o with
    | .ok _, .ok (some r) => if r.value.isTagged then some r.value else none
    | _, _ => none

end Config

/-! ### Edits -/

theorem compileSelector_late (s : String) : FailsOnly Fault.IsLate (compileSelector s) := by
  unfold compileSelector
  split
  · exact .pure _
  · exact .throw trivial

namespace Settled

/-- Cutting a page down, or putting it together anew, fails on selectors only. -/
theorem reroot_late (s : Settled) (o : Options) (p : Page) :
    FailsOnly Fault.IsLate (s.reroot o p) := by
  unfold reroot
  split
  · refine FailsOnly.bind (.foldlM (fun c r => ?_) _ _) fun _ _ => .pure _
    exact (compileSelector_late _).bind fun _ _ => .pure _
  · split
    · exact (compileSelector_late _).bind fun _ _ => .pure _
    · exact .pure _

/-- **Edits fail on selectors only.** -/
theorem edit_late (s : Settled) (o : Options) (p : Page) : FailsOnly Fault.IsLate (s.edit o p) := by
  unfold edit
  refine (reroot_late s o _).bind fun p₁ _ => FailsOnly.bind (.foldlM (fun p t => ?_) p₁ _) fun p₂ _ =>
    .foldlM (fun p r => ?_) p₂ _
  · exact (compileSelector_late _).bind fun _ _ => .pure _
  · unfold Page.applyRule
    split
    · exact .pure _
    · exact (compileSelector_late _).bind fun _ _ => .pure _

end Settled

/-! ### Runs -/

namespace Config

variable {c : Config}

/-- The transforms of a run are read without fault. -/
theorem transforms_of_check (h : c.check = .ok ()) (o : Options) :
    ∃ as ts, c.applicable .domTransform o = .ok as ∧ Transform.ofRecords as = .ok ts := by
  obtain ⟨as, rs, has, hs, hv⟩ := applicable_of_check h .domTransform o
  cases hr : Transform.ofRecords rs with
  | error e => simp [checkValues, hr, discard, Functor.mapConst, Except.map] at hv
  | ok ts =>
    obtain ⟨us, hus⟩ := Record.read_sublist (fun _ _ => rfl) hs hr
    exact ⟨as, us, has, hus⟩

/-- The text rules of a run are read and their patterns compiled without fault. -/
theorem textRules_of_check (h : c.check = .ok ()) (o : Options) :
    ∃ as ts, c.applicable .sanitization o = .ok as ∧ TextRules.ofRecords as = .ok ts := by
  obtain ⟨as, rs, has, hs, hv⟩ := applicable_of_check h .sanitization o
  cases hr : TextRule.ofRecords rs with
  | error e =>
    simp [checkValues, TextRules.ofRecords, hr, discard, Functor.mapConst, bind, Except.bind,
      Except.map] at hv
  | ok ts =>
    obtain ⟨us, hus⟩ := Record.read_sublist (fun _ _ => rfl) hs hr
    exact ⟨as, .ofList us, has, by rw [TextRules.ofRecords, hus]; rfl⟩

/-- Whether spacing is wanted is settled, unless too many records apply. -/
theorem wantsSpacing_of_check (h : c.check = .ok ()) (o : Options) :
    FailsOnly Fault.IsLate (c.wantsSpacing o) :=
  (single_of_check h .removeSpacing o).bind fun _ _ => .pure _

/-- A run settles a selector, unless too many records apply or the value has a tag. -/
theorem selectorFor_of_check (h : c.check = .ok ()) {o : Options}
    (ht : ∀ r, c.single .selector o = .ok (some r) → r.value.isTagged = false) :
    FailsOnly Fault.IsLate (c.selectorFor o) := by
  refine (single_of_check h .selector o).bind fun r hr => ?_
  cases r with
  | none => exact .pure _
  | some r =>
    obtain ⟨s, hs⟩ := selectorOf_ok (value_of_single h hr) (ht r hr)
    exact .ok hs

/-- After the selector rules nothing fails while a run is settled. -/
theorem settle_of_check (h : c.check = .ok ()) {o : Options}
    (hs : ∀ b, c.wantsSpacing o = .ok b → FailsOnly Fault.IsLate (c.selectorFor o)) :
    FailsOnly Fault.IsLate (c.settle o) := by
  obtain ⟨rs, _, hr, _, _⟩ := applicable_of_check h .regions o
  obtain ⟨as, ts, has, hts⟩ := transforms_of_check h o
  obtain ⟨bs, us, hbs, hus⟩ := textRules_of_check h o
  refine (wantsSpacing_of_check h o).bind fun b hb => (hs b hb).bind fun _ _ => ?_
  simp only [hr, has, hts, hbs, hus, bind, Except.bind]
  exact .pure _

/-- A selector with a tag fails while a run is settled. -/
theorem settle_of_tagged {o : Options} {b : Bool} {r : Record} (hb : c.wantsSpacing o = .ok b)
    (hr : c.single .selector o = .ok (some r)) (ht : r.value.isTagged = true) :
    c.settle o = .error (.invalidRule .selector (.selectorValue r.value)) := by
  have hs : c.selectorFor o = .error (.invalidRule .selector (.selectorValue r.value)) :=
    bind_eq_error.2 (.inr ⟨some r, hr, selectorOf_tagged ht⟩)
  exact bind_eq_error.2 (.inr ⟨b, hb, bind_eq_error.2 (.inl hs)⟩)

/-- **The faults of a run under a checked configuration.** A run that meets a selector with a tag
fails on it; any other run succeeds, or too many records apply to it or a selector cannot be
compiled. -/
theorem canonicalize_of_check (h : c.check = .ok ()) (o : Options) (html : Text) :
    (∀ v, c.taggedSelector? o html = some v →
      c.canonicalize o html = .error (.invalidRule .selector (.selectorValue v))) ∧
    (c.taggedSelector? o html = none → FailsOnly Fault.IsLate (c.canonicalize o html)) := by
  unfold taggedSelector? canonicalize
  by_cases he : html.isEmpty = true
  · simp only [he, if_true]
    exact ⟨by simp, fun _ => .pure _⟩
  simp only [he, Bool.false_eq_true, if_false]
  have late : (∀ b, c.wantsSpacing o = .ok b →
      ∀ r, c.single .selector o = .ok (some r) → r.value.isTagged = false) →
      FailsOnly Fault.IsLate (c.settle o >>= fun s => do
        pure (s.write (← s.edit o (Page.parse html)))) := fun ht =>
    (settle_of_check h fun b hb => selectorFor_of_check h (ht b hb)).bind fun s _ =>
      (s.edit_late o _).bind fun _ _ => .pure _
  cases hw : c.wantsSpacing o with
  | error e => exact ⟨by simp, fun _ => late (by simp [hw])⟩
  | ok b =>
    cases hr : c.single .selector o with
    | error e => exact ⟨by simp, fun _ => late (by simp [hr])⟩
    | ok r =>
      cases r with
      | none => exact ⟨by simp, fun _ => late (by simp [hr])⟩
      | some r =>
        by_cases ht : r.value.isTagged = true
        · simp only [ht, if_true, Option.some.injEq, reduceCtorEq, false_implies, and_true]
          rintro v rfl
          exact bind_eq_error.2 (.inl (settle_of_tagged hw hr ht))
        · simp only [ht, Bool.false_eq_true, if_false]
          exact ⟨by simp, fun _ => late (by simp [hr, ht])⟩

/-- A configuration that keeps the `main` element, deletes the letter `x` and takes elements away. -/
def sample : Config :=
  ⟨[(.string "selector", .tagged "t" (.mapping [(.string "value", .string "main"),
      (.string "path", .string "^/docs")])),
    (.string "dom_transform", .sequence [.string "remove", .string "nav"]),
    (.string "sanitization", .string "x")]⟩

/-- The sample is in order, with a tag around a record as well, so a run succeeds or fails late. -/
theorem canonicalize_of_check_sample :
    sample.check = .ok () ∧
      FailsOnly Fault.IsLate (sample.canonicalize ⟨some "/docs/a", none⟩ "<p>x</p>".toList) := by
  have h : sample.check = .ok () := by rfl
  have ht : sample.taggedSelector? ⟨some "/docs/a", none⟩ "<p>x</p>".toList = none :=
    Option.isNone_iff_eq_none.1 (by decide +kernel)
  exact ⟨h, (canonicalize_of_check h _ _).2 ht⟩

/-- A selector rule whose string has a tag. -/
def taggedMain : Config := ⟨[(.string "selector", .tagged "t" (.string "main"))]⟩

/-- A tag around the string of a selector rule passes the check and stops the run. -/
theorem canonicalize_taggedMain :
    taggedMain.check = .ok () ∧ taggedMain.canonicalize ⟨none, none⟩ "<main>x</main>".toList =
      .error (.invalidRule .selector (.selectorValue (.tagged "t" (.string "main")))) := by
  have hs : taggedMain.settle ⟨none, none⟩ =
      .error (.invalidRule .selector (.selectorValue (.tagged "t" (.string "main")))) :=
    settle_of_tagged (b := false) (r := .bare (.tagged "t" (.string "main"))) rfl rfl rfl
  refine ⟨rfl, ?_⟩
  rw [canonicalize, if_neg (by decide)]
  exact bind_eq_error.2 (.inl hs)

end Config

end HtmlCanon
