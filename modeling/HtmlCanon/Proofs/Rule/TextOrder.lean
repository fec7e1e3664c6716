import HtmlCanon.Proofs.Check
import HtmlCanon.Proofs.Rule.Records

/-!
# The order of text rules

Records of text rules with a selector are for the page before it is written, those without one are
for what is written. How records of the two sorts are mixed in a configuration does not matter, as
long as the records of each sort keep their order.

* `TextRules.ofRecords_eq`, `TextRules.ofRecords_ok_iff` : rules are divided as their records are.
* `Config.canonicalize_reordered` : **mixing the records anew changes no run**, and what a run does
  with each sort.
-/

namespace HtmlCanon

open Yaml (Value)

/-! ### Dividing rules -/

namespace Record

/-- Whether the rules of a record are for some elements only. -/
def isScoped (r : Record) : Bool := r.selector.isSome

end Record

namespace TextRule

theorem ofPair_selector {s : Option String} {p : Pair} {t : TextRule} (h : ofPair s p = .ok t) :
    t.selector = s := by
  obtain ⟨x, _, ht⟩ := bind_eq_ok.1 h
  rw [← pure_eq_ok.1 ht]

theorem mapM_ofPair_selector {s : Option String} {ps : List Pair} {ts : List TextRule}
    (h : ps.mapM (ofPair s) = .ok ts) : ∀ t ∈ ts, t.selector = s := by
  induction ps generalizing ts with
  | nil =>
    obtain rfl := pure_eq_ok.1 h
    simp
  | cons p ps ih =>
    rw [List.mapM_cons] at h
    obtain ⟨t, ht, h⟩ := bind_eq_ok.1 h
    obtain ⟨us, hus, h⟩ := bind_eq_ok.1 h
    obtain rfl := pure_eq_ok.1 h
    intro u hu
    rcases List.mem_cons.1 hu with rfl | hu
    · exact ofPair_selector ht
    · exact ih hus u hu

/-- The rules of a record are for what the record is for. -/
theorem ofRecord_isScoped {r : Record} {ts : List TextRule} (h : ofRecord r = .ok ts) :
    ∀ t ∈ ts, t.isScoped = r.isScoped := by
  obtain ⟨ps, _, hps⟩ := bind_eq_ok.1 h
  intro t ht
  rw [isScoped, mapM_ofPair_selector hps t ht, Record.isScoped]

theorem ofRecords_cons {r : Record} {rs : List Record} {ts us : List TextRule}
    (hr : ofRecord r = .ok ts) (hrs : ofRecords rs = .ok us) :
    ofRecords (r :: rs) = .ok (ts ++ us) := by
  rw [ofRecords, hr, hrs]
  rfl

end TextRule

namespace TextRules

theorem ofList_append (ts us : List TextRule) :
    ofList (ts ++ us) = ⟨(ofList ts).inElements ++ (ofList us).inElements,
      (ofList ts).onPage ++ (ofList us).onPage⟩ := by
  simp [ofList]

theorem ofList_alike {ts : List TextRule} {b : Bool} (h : ∀ t ∈ ts, t.isScoped = b) :
    ofList ts = if b then ⟨ts, []⟩ else ⟨[], ts⟩ := by
  have hall : ts.filter TextRule.isScoped = if b then ts else [] := by
    cases b with
    | true => exact List.filter_eq_self.2 h
    | false => exact List.filter_eq_nil_iff.2 fun t ht => by simp [h t ht]
  have hnone : (ts.filter fun t => !t.isScoped) = if b then [] else ts := by
    cases b with
    | true => exact List.filter_eq_nil_iff.2 fun t ht => by simp [h t ht]
    | false => exact List.filter_eq_self.2 fun t ht => by simp [h t ht]
  rw [ofList, hall, hnone]
  cases b <;> rfl

/-- **Rules are divided as their records are**, if each record gives rules. -/
theorem ofRecords_eq {rs : List Record} (h : ∀ r ∈ rs, ∃ ts, TextRule.ofRecord r = .ok ts) :
    ∃ us vs, TextRule.ofRecords (rs.filter Record.isScoped) = .ok us ∧
      TextRule.ofRecords (rs.filter fun r => !r.isScoped) = .ok vs ∧ ofRecords rs = .ok ⟨us, vs⟩ := by
  induction rs with
  | nil => exact ⟨[], [], rfl, rfl, rfl⟩
  | cons r rs ih =>
    obtain ⟨ts, hts⟩ := h r List.mem_cons_self
    obtain ⟨us, vs, hus, hvs, hrs⟩ := ih fun r' hr' => h r' (List.mem_cons_of_mem _ hr')
    -- the rules of one record are all of one sort, so they join one of the two lists as a whole
    obtain ⟨ws, hws, hdiv⟩ := bind_eq_ok.1 hrs
    have hlist : ofRecords (r :: rs) = .ok (ofList (ts ++ ws)) := by
      rw [ofRecords, TextRule.ofRecords_cons hts hws]
      rfl
    rw [ofList_append, ofList_alike (TextRule.ofRecord_isScoped hts), pure_eq_ok.1 hdiv] at hlist
    cases hr : r.isScoped with
    | true =>
      refine ⟨ts ++ us, vs, ?_, ?_, by simpa [hr] using hlist⟩
      · rw [List.filter_cons_of_pos hr, TextRule.ofRecords_cons hts hus]
      · rw [List.filter_cons_of_neg (by simp [hr]), hvs]
    | false =>
      refine ⟨us, ts ++ vs, ?_, ?_, by simpa [hr] using hlist⟩
      · rw [List.filter_cons_of_neg (by simp [hr]), hus]
      · rw [List.filter_cons_of_pos (by simp [hr]), TextRule.ofRecords_cons hts hvs]

/-- The rules of some records, given record by record, divided by what the records are for. -/
def divided (rs : List Record) (tss : List (List TextRule)) : TextRules :=
  ⟨((rs.zip tss).filter fun p => p.1.isScoped).flatMap Prod.snd,
    ((rs.zip tss).filter fun p => !p.1.isScoped).flatMap Prod.snd⟩

theorem ofList_flatten {rs : List Record} {tss : List (List TextRule)}
    (h : List.Forall₂ (fun r ts => ∀ t ∈ ts, t.isScoped = r.isScoped) rs tss) :
    ofList tss.flatten = divided rs tss := by
  induction h with
  | nil => rfl
  | @cons r ts rs tss hr _ ih =>
    rw [List.flatten_cons, ofList_append, ih, ofList_alike hr]
    cases hs : r.isScoped <;> simp [divided, hs]

/-- **The division of rules, record by record**: the rules of a record stand in one half, next to each
other. -/
theorem ofRecords_ok_iff {rs : List Record} {rules : TextRules} : ofRecords rs = .ok rules ↔
    ∃ tss, List.Forall₂ (fun r ts => TextRule.ofRecord r = .ok ts) rs tss ∧
      rules = divided rs tss := by
  have hdivide : ∀ {tss}, List.Forall₂ (fun r ts => TextRule.ofRecord r = .ok ts) rs tss →
      ofList tss.flatten = divided rs tss := fun htss =>
    ofList_flatten (htss.imp fun _ _ h => TextRule.ofRecord_isScoped h)
  rw [ofRecords, bind_eq_ok]
  constructor
  · rintro ⟨ts, hts, h⟩
    obtain ⟨tss, htss, rfl⟩ := TextRule.ofRecords_ok_iff.1 hts
    exact ⟨tss, htss, (pure_eq_ok.1 h).symm.trans (hdivide htss)⟩
  · rintro ⟨tss, htss, rfl⟩
    exact ⟨tss.flatten, TextRule.ofRecords_ok_iff.2 ⟨tss, htss, rfl⟩, pure_eq_ok.2 (hdivide htss)⟩

end TextRules

/-! ### Mixing records anew -/

namespace Record

/-- The record that a value stands for among text rules. -/
def textRecord? (v : Value) : Option Record := (ofValue .sanitization v).toOption

/-- Whether a value stands for a record of text rules for some elements only. -/
def hasSelector (v : Value) : Bool := (textRecord? v).any isScoped

/-- A mapping that describes a record of text rules which is in order on its own: its pattern for
paths compiles, and so do the patterns of its rules. -/
def IsReady (v : Value) : Prop :=
  isShaped v = true ∧ ∃ r, ofValue .sanitization v = .ok r ∧
    (∀ p, r.path = some p → ∃ x, compilePath p = .ok x) ∧ ∃ ts, TextRule.ofRecord r = .ok ts

/-- Records that are in order are read, one from each mapping. -/
theorem mapM_ready {vs : List Value} (h : ∀ v ∈ vs, IsReady v) :
    vs.mapM (ofValue .sanitization) = .ok (vs.filterMap textRecord?) := by
  induction vs with
  | nil => rfl
  | cons v vs ih =>
    obtain ⟨_, r, hr, _⟩ := h v List.mem_cons_self
    have hv : textRecord? v = some r := by rw [textRecord?, hr]; rfl
    rw [List.mapM_cons, hr, ih fun w hw => h w (List.mem_cons_of_mem _ hw),
      List.filterMap_cons_some hv]
    rfl

theorem filter_textRecord? (p : Record → Bool) (vs : List Value) :
    (vs.filterMap textRecord?).filter p =
      (vs.filter fun v => (textRecord? v).any p).filterMap textRecord? := by
  induction vs with
  | nil => rfl
  | cons v vs ih =>
    cases hv : textRecord? v with
    | none => simp [hv, ih]
    | some r => by_cases hp : p r = true <;> simp [hv, hp, ih]

end Record

namespace Config

variable {c d : Config} {o : Options} {vs ws : List Value}

/-- The mappings of an entry that are in order give the records that apply, and each of these gives
rules. -/
theorem applicable_ready (hc : c.raw? .sanitization = some (.sequence vs))
    (h : ∀ v ∈ vs, Record.IsReady v) (hne : vs ≠ []) (o : Options) :
    c.applicable .sanitization o = .ok ((vs.filterMap Record.textRecord?).filter (Record.isFor o)) ∧
      ∀ r ∈ vs.filterMap Record.textRecord?, ∃ ts, TextRule.ofRecord r = .ok ts := by
  have hshaped : vs.head?.any Record.isShaped = true := by
    cases vs with
    | nil => exact absurd rfl hne
    | cons v vs => exact (h v List.mem_cons_self).1
  have hrecord : ∀ r ∈ vs.filterMap Record.textRecord?,
      (∀ p, r.path = some p → ∃ x, compilePath p = .ok x) ∧ ∃ ts, TextRule.ofRecord r = .ok ts := by
    intro r hr
    obtain ⟨v, hv, hread⟩ := List.mem_filterMap.1 hr
    obtain ⟨_, r', hr', hready⟩ := h v hv
    have heq : r' = r := by
      rw [Record.textRecord?, hr'] at hread
      exact Option.some.inj hread
    exact heq ▸ hready
  refine ⟨?_, fun r hr => (hrecord r hr).2⟩
  rw [applicable_eq, hc, Record.written_sequence hshaped, Record.mapM_ready h]
  exact Record.applicable_filter fun r hr => Record.applies_ok (hrecord r hr).1 o

/-- **The rules of a run**, divided by what they are for. -/
theorem textRules_ready (hc : c.raw? .sanitization = some (.sequence vs))
    (h : ∀ v ∈ vs, Record.IsReady v) (o : Options) :
    ∃ as us ws, c.applicable .sanitization o = .ok as ∧
      TextRule.ofRecords (as.filter Record.isScoped) = .ok us ∧
      TextRule.ofRecords (as.filter fun r => !r.isScoped) = .ok ws ∧
      TextRules.ofRecords as = .ok ⟨us, ws⟩ := by
  by_cases hne : vs = []
  · subst hne
    have has : c.applicable .sanitization o = .ok [.bare (.sequence [])] := by
      rw [applicable_eq, hc]
      rfl
    exact ⟨_, [], [], has, rfl, rfl, rfl⟩
  · obtain ⟨has, hrules⟩ := applicable_ready hc h hne o
    obtain ⟨us, ws, hus, hws, hall⟩ :=
      TextRules.ofRecords_eq fun r hr => hrules r (List.mem_filter.1 hr).1
    exact ⟨_, us, ws, has, hus, hws, hall⟩

/-- Records of one sort are picked from the mappings of that sort. -/
theorem filter_picked (p : Record → Bool) (vs : List Value) (o : Options) :
    ((vs.filterMap Record.textRecord?).filter (Record.isFor o)).filter p =
      ((vs.filter fun v => (Record.textRecord? v).any p).filterMap Record.textRecord?).filter
        (Record.isFor o) := by
  rw [← Record.filter_textRecord?, List.filter_filter, List.filter_filter]
  exact List.filter_congr fun r _ => Bool.and_comm _ _

/-- Of mappings that are in order, those without a selector are the others. -/
theorem filter_unscoped (h : ∀ v ∈ vs, Record.IsReady v) :
    (vs.filter fun v => (Record.textRecord? v).any fun r => !r.isScoped) =
      vs.filter fun v => !Record.hasSelector v := by
  refine List.filter_congr fun v hv => ?_
  obtain ⟨_, r, hr, _⟩ := h v hv
  simp [Record.hasSelector, Record.textRecord?, hr, Except.toOption]

/-- Runs settle the same rules if all kinds but the text rules have the same records, and the text
rules come to the same. -/
theorem settle_of_textRules {as bs : List Record}
    (hother : ∀ k, k ≠ .sanitization → d.applicable k o = c.applicable k o)
    (hc : c.applicable .sanitization o = .ok as) (hd : d.applicable .sanitization o = .ok bs)
    (h : TextRules.ofRecords bs = TextRules.ofRecords as) : d.settle o = c.settle o := by
  have hspacing : d.wantsSpacing o = c.wantsSpacing o := by
    unfold wantsSpacing single
    rw [hother .removeSpacing (by decide)]
  have hselector : d.selectorFor o = c.selectorFor o := by
    unfold selectorFor single
    rw [hother .selector (by decide)]
  unfold settle
  rw [hspacing, hselector, hother .regions (by decide), hother .domTransform (by decide), hc, hd]
  simp only [bind, Except.bind, h]

/-- **Mappings that are mixed anew settle the same rules.** -/
theorem settle_reordered (hother : ∀ k, k ≠ .sanitization → d.raw? k = c.raw? k)
    (hc : c.raw? .sanitization = some (.sequence vs))
    (hd : d.raw? .sanitization = some (.sequence ws)) (h : ∀ v ∈ vs, Record.IsReady v)
    (hscoped : ws.filter Record.hasSelector = vs.filter Record.hasSelector)
    (hrest : (ws.filter fun v => !Record.hasSelector v) = vs.filter fun v => !Record.hasSelector v)
    (o : Options) : d.settle o = c.settle o := by
  have happ : ∀ k, k ≠ .sanitization → d.applicable k o = c.applicable k o := by
    intro k hk
    rw [applicable_eq, hother k hk, ← applicable_eq]
  have hmem : ∀ v, v ∈ ws ↔ v ∈ vs := by
    intro v
    cases hv : Record.hasSelector v with
    | true => simpa [List.mem_filter, hv] using congrArg (v ∈ ·) hscoped
    | false => simpa [List.mem_filter, hv] using congrArg (v ∈ ·) hrest
  have hw : ∀ v ∈ ws, Record.IsReady v := fun v hv => h v ((hmem v).1 hv)
  by_cases hne : vs = []
  · -- an empty entry is no list of mappings, but there is nothing to mix either
    have hws : ws = [] := List.eq_nil_iff_forall_not_mem.2 fun v hv => by
      have := (hmem v).1 hv
      simp [hne] at this
    obtain ⟨as, _, _, has, _⟩ := textRules_ready hc h o
    have hsame : d.applicable .sanitization o = c.applicable .sanitization o := by
      rw [applicable_eq, hd, hws, ← hne, ← hc, ← applicable_eq]
    exact settle_of_textRules happ has (hsame.trans has) rfl
  · have hwne : ws ≠ [] := by
      obtain ⟨v, hv⟩ := List.exists_mem_of_ne_nil vs hne
      exact List.ne_nil_of_mem ((hmem v).2 hv)
    obtain ⟨has, hrules⟩ := applicable_ready hc h hne o
    obtain ⟨hbs, hrules'⟩ := applicable_ready hd hw hwne o
    obtain ⟨us, us', hus, hus', has'⟩ :=
      TextRules.ofRecords_eq fun r hr => hrules r (List.mem_filter.1 hr).1
    obtain ⟨xs, xs', hxs, hxs', hbs'⟩ :=
      TextRules.ofRecords_eq fun r hr => hrules' r (List.mem_filter.1 hr).1
    rw [filter_picked] at hus hus' hxs hxs'
    have hsc : (ws.filter fun v => (Record.textRecord? v).any Record.isScoped) =
        vs.filter fun v => (Record.textRecord? v).any Record.isScoped := hscoped
    rw [filter_unscoped h] at hus'
    rw [filter_unscoped hw, hrest, hus'] at hxs'
    rw [hsc, hus] at hxs
    refine settle_of_textRules happ has hbs ?_
    rw [hbs', has', Except.ok.inj hxs, Except.ok.inj hxs']

/-- **Mixing the records of text rules anew changes no run.** Two configurations that differ in that
entry only, in which the mappings with a selector stand in the same order, and so do those without
one, give the same. In a run the rules of the first sort are applied to the page before it is
written, and the rules of the second sort to what is written, both in the order of their records. -/
theorem canonicalize_reordered (hother : ∀ k, k ≠ .sanitization → d.raw? k = c.raw? k)
    (hc : c.raw? .sanitization = some (.sequence vs))
    (hd : d.raw? .sanitization = some (.sequence ws)) (h : ∀ v ∈ vs, Record.IsReady v)
    (hscoped : ws.filter Record.hasSelector = vs.filter Record.hasSelector)
    (hrest : (ws.filter fun v => !Record.hasSelector v) = vs.filter fun v => !Record.hasSelector v)
    (o : Options) (html : Text) :
    d.canonicalize o html = c.canonicalize o html ∧
      ∃ as before after, c.applicable .sanitization o = .ok as ∧
        TextRule.ofRecords (as.filter Record.isScoped) = .ok before ∧
        TextRule.ofRecords (as.filter fun r => !r.isScoped) = .ok after ∧
        (html ≠ [] → c.canonicalize o html = do
          let s ← c.settle o
          let p ← s.reroot o (s.space (Page.parse html))
          let p ← p.transformAll s.transforms
          let p ← p.applyRules before
          pure (TextRules.applyAll after (repairText p.canonical))) := by
  refine ⟨canonicalize_of_settle_eq (settle_reordered hother hc hd h hscoped hrest o) rfl html, ?_⟩
  obtain ⟨as, us, us', has, hus, hus', hdiv⟩ := textRules_ready hc h o
  refine ⟨as, us, us', has, hus, hus', fun hne => ?_⟩
  rw [canonicalize, if_neg (by simpa using hne)]
  cases hs : c.settle o with
  | error e => rfl
  | ok s =>
    obtain ⟨bs, hbs, hrules⟩ := (settle_eq_ok hs).2.2.2.2
    obtain rfl := Except.ok.inj (has.symm.trans hbs)
    have hsettled : (⟨us, us'⟩ : TextRules) = s.textRules := Except.ok.inj (hdiv.symm.trans hrules)
    have hbefore : us = s.textRules.inElements := congrArg TextRules.inElements hsettled
    have hafter : us' = s.textRules.onPage := congrArg TextRules.onPage hsettled
    rw [hbefore, hafter]
    simp only [Settled.edit, Settled.write, bind_assoc]
    rfl

/-- A text rule for the paragraphs of a page. -/
def paragraphRule : Value :=
  .mapping [(.string "value", .sequence [.string "a", .string "b"]), (.string "selector", .string "p")]

/-- A text rule for what is bold. -/
def boldRule : Value := .mapping [(.string "selector", .string "b"), (.string "value", .string "c+")]

/-- A record of text rules for what is written, on some paths only. -/
def writtenRule : Value :=
  .mapping [(.string "value", .sequence [.sequence [.string "(x)", .string "$1y"],
    .mapping [(.string "pattern", .string "z")]]), (.string "path", .string "^/docs")]

/-- The configuration that keeps the `main` element and has the given text rules. -/
def mainWith (vs : List Value) : Config :=
  ⟨[(.string "selector", .string "main"), (.string "sanitization", .sequence vs)]⟩

/-- A rule for what is written may stand before, between or after two rules for elements. -/
theorem canonicalize_reordered_mainWith :
    let o : Options := ⟨some "/docs/a", none⟩
    let html := "<main><p>a<b>cc</b></p>xz</main>".toList
    (∀ v ∈ [paragraphRule, writtenRule, boldRule], Record.IsReady v) ∧
      (mainWith [writtenRule, paragraphRule, boldRule]).canonicalize o html =
        (mainWith [paragraphRule, writtenRule, boldRule]).canonicalize o html := by
  intro o html
  have hready : ∀ v ∈ [paragraphRule, writtenRule, boldRule], Record.IsReady v := by
    intro v hv
    simp only [List.mem_cons, List.not_mem_nil, or_false] at hv
    rcases hv with rfl | rfl | rfl
    · exact ⟨rfl, ⟨.sequence [.string "a", .string "b"], none, none, some "p"⟩, rfl, by simp,
        exists_ok_of_toOption (by decide +kernel)⟩
    · refine ⟨rfl, ⟨.sequence [.sequence [.string "(x)", .string "$1y"],
        .mapping [(.string "pattern", .string "z")]], some "^/docs", none, none⟩, rfl, ?_,
        exists_ok_of_toOption (by decide +kernel)⟩
      rintro p ⟨⟩
      exact exists_ok_of_toOption (by decide +kernel)
    · exact ⟨rfl, ⟨.string "c+", none, none, some "b"⟩, rfl, by simp,
        exists_ok_of_toOption (by decide +kernel)⟩
  have hother : ∀ k, k ≠ .sanitization → (mainWith [writtenRule, paragraphRule, boldRule]).raw? k =
      (mainWith [paragraphRule, writtenRule, boldRule]).raw? k := by
    intro k hk
    cases k with
    | sanitization => exact absurd rfl hk
    | _ => rfl
  exact ⟨hready, (canonicalize_reordered hother rfl rfl hready rfl rfl o html).1⟩

end Config

end HtmlCanon
