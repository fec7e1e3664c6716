import HtmlCanon.Proofs.FaultOrder
import HtmlCanon.Proofs.Rule.Entries
import HtmlCanon.Proofs.Rule.TextOrder

/-!
# Keys in values of rules

The selector of a record stands beside its value. Written inside the value by mistake it would bind
nothing, and the rule would run wider than it was meant to, so the keys of every mapping that is met
while a value is read are checked. A mapping below another one is met only if the entry that holds it
is read, and then it is refused; entries that are passed over are the one place where a stray key stays.

* `ReadsByPart.checked` : the mappings in a value that is read, however sequences and tags are nested.
* `HasCheckedKeys.of_mappings` : which keys there are below these mappings.
* `Record.keys_checked` : **the keys in accepted rules**, and which half each rule is in.
-/

namespace HtmlCanon

open Yaml (Value Entries)

/-! ### The mappings and the keys in a value -/

namespace Yaml.Value

mutual

/-- The mappings in a value, through sequences and tags. -/
def mappings : Value → List Entries
  | sequence items => mappingsOf items
  | mapping es => [es]
  | tagged _ v => mappings v
  | _ => []

/-- The mappings in some values. -/
def mappingsOf : List Value → List Entries
  | [] => []
  | v :: vs => mappings v ++ mappingsOf vs

end

mutual

/-- The strings that are keys anywhere in a value, tags aside. -/
def keys : Value → List String
  | sequence items => keysOf items
  | mapping es => keysIn es
  | tagged _ v => keys v
  | _ => []

/-- The keys anywhere in some values. -/
def keysOf : List Value → List String
  | [] => []
  | v :: vs => keys v ++ keysOf vs

/-- The keys of some entries, and those anywhere in them. -/
def keysIn : List (Value × Value) → List String
  | [] => []
  | (k, v) :: es => k.asString?.toList ++ keys k ++ keys v ++ keysIn es

end

theorem mem_keysIn_iff {es : Entries} {n : String} : n ∈ keysIn es ↔
    ∃ e ∈ es, e.1.untag = .string n ∨ n ∈ e.1.keys ∨ n ∈ e.2.keys := by
  induction es with
  | nil => simp [keysIn]
  | cons e es ih =>
    obtain ⟨k, v⟩ := e
    simp [keysIn, ih, asString?_iff, or_assoc]

mutual

/-- The keys in a value are those of the mappings in it, and of what these hold. -/
theorem mem_keys_iff {n : String} (v : Value) : n ∈ v.keys ↔ ∃ es ∈ v.mappings, n ∈ keysIn es := by
  cases v with
  | sequence items =>
    rw [keys, mappings]
    exact mem_keysOf_iff items
  | tagged t v =>
    rw [keys, mappings]
    exact mem_keys_iff v
  | mapping es => simp [keys, mappings]
  | _ => simp [keys, mappings]

theorem mem_keysOf_iff {n : String} (vs : List Value) :
    n ∈ keysOf vs ↔ ∃ es ∈ mappingsOf vs, n ∈ keysIn es := by
  cases vs with
  | nil => simp [keysOf, mappingsOf]
  | cons v vs =>
    simp only [keysOf, mappingsOf, List.mem_append, or_and_right, exists_or]
    exact or_congr (mem_keys_iff v) (mem_keysOf_iff vs)

end

/-- There is no key in a string. -/
theorem keys_of_untag {v : Value} {s : String} (h : v.untag = .string s) : v.keys = [] := by
  induction v using untag.induct with
  | case1 t v ih =>
    rw [keys]
    exact ih h
  | case2 v hv =>
    cases v with
    | tagged t v => exact absurd rfl (hv t v)
    | sequence items => cases h
    | mapping es => cases h
    | _ => simp [keys]

/-- Whether a value holds no others: it is null, a boolean, a number or a string, without a tag. -/
def isPlain : Value → Bool
  | sequence _ => false
  | mapping _ => false
  | tagged .. => false
  | _ => true

theorem mappings_of_isPlain {v : Value} (h : v.isPlain = true) : v.mappings = [] := by
  cases v with
  | sequence | mapping | tagged => cases h
  | _ => simp [mappings]

theorem keys_of_isPlain {v : Value} (h : v.isPlain = true) : v.keys = [] := by
  cases v with
  | sequence | mapping | tagged => cases h
  | _ => simp [keys]

theorem mappingsOf_of_isPlain {vs : List Value} (h : ∀ v ∈ vs, v.isPlain = true) :
    mappingsOf vs = [] := by
  induction vs with
  | nil => simp [mappingsOf]
  | cons v vs ih =>
    obtain ⟨hv, hvs⟩ := List.forall_mem_cons.1 h
    rw [mappingsOf, mappings_of_isPlain hv, ih hvs, List.nil_append]

end Yaml.Value

/-! ### Mappings that have been checked -/

/-- An entry that is passed over when its mapping is read: its key has a tag, so that it is not found,
or another key hides it, or another entry has its key, which is not so in a document. -/
inductive IsPassedOver (hides : Entries → String → Prop) (es : Entries) : Value × Value → Prop
  | tagged (t : String) (k v : Value) : IsPassedOver hides es (.tagged t k, v)
  | hidden (k : String) (v : Value) : hides es k → IsPassedOver hides es (.string k, v)
  | repeated (k : String) (v w : Value) :
      es.get? k = some w → w ≠ v → IsPassedOver hides es (.string k, v)

/-- A mapping that has been checked: its keys are allowed, and every value in it that is not passed
over is plain. -/
structure IsChecked (allowed : List String) (hides : Entries → String → Prop) (es : Entries) :
    Prop where
  keys : ∀ e ∈ es, ∃ k ∈ allowed, e.1.untag = .string k
  plain : ∀ e ∈ es, ¬IsPassedOver hides es e → e.2.isPlain = true

/-- What holds of the keys in a value of a rule that is accepted: the mappings in it have allowed keys
only, and any other key stands below an entry that is passed over. -/
structure HasCheckedKeys (allowed : List String) (hides : Entries → String → Prop) (v : Value) :
    Prop where
  keys : ∀ es ∈ v.mappings, ∀ e ∈ es, ∃ k ∈ allowed, e.1.untag = .string k
  stray : ∀ n, n ∉ allowed →
    (n ∈ v.keys ↔ ∃ es ∈ v.mappings, ∃ e ∈ es, IsPassedOver hides es e ∧ n ∈ e.2.keys)

/-- **The keys in a value** whose mappings have been checked. -/
theorem HasCheckedKeys.of_mappings {allowed : List String} {hides : Entries → String → Prop} {v : Value}
    (h : ∀ es ∈ v.mappings, IsChecked allowed hides es) : HasCheckedKeys allowed hides v where
  keys es hes := (h es hes).keys
  stray n hn := by
    rw [Value.mem_keys_iff]
    refine exists_congr fun es => and_congr_right fun hes => ?_
    rw [Value.mem_keysIn_iff]
    refine exists_congr fun e => and_congr_right fun he => ?_
    obtain ⟨k, hk, hkey⟩ := (h es hes).keys e he
    constructor
    · -- the key is an allowed string, so a stray one can only stand in the value
      rintro (hname | hbelow | hvalue)
      · obtain rfl : k = n := Value.string.inj (hkey.symm.trans hname)
        exact absurd hk hn
      · rw [Value.keys_of_untag hkey] at hbelow
        cases hbelow
      · refine ⟨?_, hvalue⟩
        by_contra hread
        rw [Value.keys_of_isPlain ((h es hes).plain e he hread)] at hvalue
        cases hvalue
    · exact fun h => .inr (.inr h.2)

/-- An entry with an allowed key that is not passed over is the one that is found. -/
theorem found_of_not_passedOver {hides : Entries → String → Prop} {es : Entries} {e : Value × Value}
    {k : String} (he : e ∈ es) (hkey : e.1.untag = .string k) (h : ¬IsPassedOver hides es e) :
    es.get? k = some e.2 ∧ ¬hides es k := by
  obtain ⟨key, v⟩ := e
  cases key with
  | tagged t key => exact absurd (.tagged t key v) h
  | string s =>
    obtain rfl : s = k := Value.string.inj hkey
    refine ⟨?_, fun hhides => h (.hidden s v hhides)⟩
    cases hget : es.get? s with
    | none => exact absurd he (Entries.get?_eq_none_iff.1 hget v)
    | some w =>
      by_contra hne
      exact h (.repeated s v w hget fun heq => hne (congrArg some heq))
  | _ => cases hkey

namespace ReadsByPart

variable {α : Type} {read : Value → Except Fault (List α)}
  {readItems : List Value → Except Fault (List α)} {P : Entries → Prop}

mutual

/-- **The mappings in a value that is read** are all read by themselves, if a sequence that groups no
others has no mapping in it. -/
theorem checked (h : ReadsByPart read readItems)
    (hmapping : ∀ es as, read (.mapping es) = .ok as → P es)
    (hsequence : ∀ items as, items.head?.any Transform.isGroup = false →
      read (.sequence items) = .ok as → ∀ v ∈ items, v.isPlain = true)
    (v : Value) {as : List α} (hv : read v = .ok as) : ∀ es ∈ v.mappings, P es := by
  cases v with
  | sequence items =>
    rw [Value.mappings]
    by_cases hgroup : items.head?.any Transform.isGroup = true
    · exact checkedItems h hmapping hsequence items ((h.group items hgroup).symm.trans hv)
    · -- the sequence is a single part, and all that it holds is plain
      rw [Value.mappingsOf_of_isPlain (hsequence items as (Bool.eq_false_iff.2 hgroup) hv)]
      exact List.forall_mem_nil _
  | tagged t v =>
    rw [Value.mappings]
    exact checked h hmapping hsequence v ((h.tagged t v).symm.trans hv)
  | mapping es =>
    rw [Value.mappings]
    exact List.forall_mem_singleton.2 (hmapping es as hv)
  | null | bool | number | string =>
    rw [Value.mappings_of_isPlain rfl]
    exact List.forall_mem_nil _

theorem checkedItems (h : ReadsByPart read readItems)
    (hmapping : ∀ es as, read (.mapping es) = .ok as → P es)
    (hsequence : ∀ items as, items.head?.any Transform.isGroup = false →
      read (.sequence items) = .ok as → ∀ v ∈ items, v.isPlain = true)
    (vs : List Value) {as : List α} (hvs : readItems vs = .ok as) :
    ∀ es ∈ Value.mappingsOf vs, P es := by
  cases vs with
  | nil =>
    rw [Value.mappingsOf]
    exact List.forall_mem_nil _
  | cons v vs =>
    rw [h.cons] at hvs
    obtain ⟨bs, hbs, hvs⟩ := bind_eq_ok.1 hvs
    obtain ⟨cs, hcs, -⟩ := bind_eq_ok.1 hvs
    rw [Value.mappingsOf, List.forall_mem_append]
    exact ⟨checked h hmapping hsequence v hbs, checkedItems h hmapping hsequence vs hcs⟩

end

end ReadsByPart

/-! ### Pairs -/

namespace TextRule

/-- The second name of a replacement counts only without the first. -/
def hides (es : Entries) (k : String) : Prop :=
  k = "replace_with" ∧ (es.get? "replacement").isSome = true

theorem field_isPlain {name s : String} {v : Value} (h : field name v = .ok s) :
    v.isPlain = true := by
  cases v with
  | sequence | mapping | tagged => cases h
  | _ => rfl

theorem isChecked_of_pairsOf {es : Entries} {ps : List Pair} (h : pairsOf (.mapping es) = .ok ps) :
    IsChecked keys hides es := by
  rw [pairsOf] at h
  obtain ⟨⟨⟩, hkeys, h⟩ := bind_eq_ok.1 h
  have hallowed := (checkKeys_ok_iff (by decide)).1 hkeys
  refine ⟨hallowed, fun e he hread => ?_⟩
  obtain ⟨k, hk, hkey⟩ := hallowed e he
  obtain ⟨hfound, hshown⟩ := found_of_not_passedOver he hkey hread
  split at h
  · cases h
  · rename_i v hpattern
    obtain ⟨p, hp, h⟩ := bind_eq_ok.1 h
    obtain ⟨r, hr, -⟩ := bind_eq_ok.1 h
    simp only [keys, List.mem_cons, List.not_mem_nil, or_false] at hk
    rcases hk with rfl | rfl | rfl
    · obtain rfl : v = e.2 := Option.some.inj (hpattern.symm.trans hfound)
      exact field_isPlain hp
    · rw [hfound, Option.some_or, Option.getD_some] at hr
      exact field_isPlain hr
    · -- the second name is read, so the first is not there
      have hfirst : es.get? "replacement" = none := by
        by_contra hne
        exact hshown ⟨rfl, Option.isSome_iff_ne_none.2 hne⟩
      rw [hfirst, Option.none_or, hfound, Option.getD_some] at hr
      exact field_isPlain hr

/-- A pair that is written as a sequence has a pattern and perhaps a replacement, both plain. -/
theorem isPlain_of_pairsOf {items : List Value} {ps : List Pair}
    (hgroup : items.head?.any Transform.isGroup = false) (h : pairsOf (.sequence items) = .ok ps) :
    ∀ v ∈ items, v.isPlain = true := by
  match items with
  | [] => exact List.forall_mem_nil _
  | [a] =>
    rw [pairsOf, if_neg (by simp), if_neg (Bool.eq_false_iff.1 hgroup), if_neg (by simp)] at h
    obtain ⟨p, hp, -⟩ := bind_eq_ok.1 h
    exact List.forall_mem_singleton.2 (field_isPlain hp)
  | [a, b] =>
    rw [pairsOf, if_neg (by simp), if_neg (Bool.eq_false_iff.1 hgroup), if_neg (by simp)] at h
    obtain ⟨p, hp, h⟩ := bind_eq_ok.1 h
    obtain ⟨r, hr, -⟩ := bind_eq_ok.1 h
    exact List.forall_mem_cons.2 ⟨field_isPlain hp, List.forall_mem_singleton.2 (field_isPlain hr)⟩
  | a :: b :: c :: items =>
    rw [pairsOf, if_neg (by simp), if_neg (Bool.eq_false_iff.1 hgroup), if_pos (by simp)] at h
    cases h

/-- The keys in a value that spells pairs. -/
theorem hasCheckedKeys {v : Value} {ps : List Pair} (h : pairsOf v = .ok ps) :
    HasCheckedKeys keys hides v :=
  .of_mappings (readsByPart.checked (fun _ _ => isChecked_of_pairsOf)
    (fun _ _ => isPlain_of_pairsOf) v h)

end TextRule

/-! ### Transforms -/

namespace Transform

/-- No key of a transform hides another. -/
def hides (_ : Entries) (_ : String) : Prop := False

theorem field?_isPlain {name : String} {s : Option String} {v : Value}
    (h : field? name (some v) = .ok s) : v.isPlain = true := by
  cases v with
  | sequence | mapping | tagged => cases h
  | _ => rfl

/-- The fields of a transform are all plain. -/
theorem isPlain_of_ofFields {kind selector name : Option Value} {t : Transform}
    (h : ofFields kind selector name = .ok t) {v : Value}
    (hv : kind = some v ∨ selector = some v ∨ name = some v) : v.isPlain = true := by
  obtain ⟨k, hk, h⟩ := bind_eq_ok.1 h
  obtain ⟨s, hs, h⟩ := bind_eq_ok.1 h
  obtain ⟨c, hc, -⟩ := bind_eq_ok.1 h
  obtain ⟨k', hk', -⟩ := bind_eq_ok.1 hk
  obtain ⟨s', hs', -⟩ := bind_eq_ok.1 hs
  rcases hv with rfl | rfl | rfl
  · exact field?_isPlain hk'
  · exact field?_isPlain hs'
  · exact field?_isPlain hc

theorem isChecked_of_ofValue {es : Entries} {ts : List Transform} (h : ofValue (.mapping es) = .ok ts) :
    IsChecked keys hides es := by
  rw [ofValue] at h
  obtain ⟨⟨⟩, hkeys, h⟩ := bind_eq_ok.1 h
  obtain ⟨t, ht, -⟩ := bind_eq_ok.1 h
  have hallowed := (checkKeys_ok_iff (by decide)).1 hkeys
  refine ⟨hallowed, fun e he hread => ?_⟩
  obtain ⟨k, hk, hkey⟩ := hallowed e he
  obtain ⟨hfound, -⟩ := found_of_not_passedOver he hkey hread
  refine isPlain_of_ofFields ht ?_
  simp only [keys, List.mem_cons, List.not_mem_nil, or_false] at hk
  rcases hk with rfl | rfl | rfl
  · exact .inl hfound
  · exact .inr (.inl hfound)
  · exact .inr (.inr hfound)

/-- A transform that is written as a sequence has three fields at most, all plain. -/
theorem isPlain_of_ofValue {items : List Value} {ts : List Transform}
    (hgroup : items.head?.any isGroup = false) (h : ofValue (.sequence items) = .ok ts) :
    ∀ v ∈ items, v.isPlain = true := by
  intro v hv
  have hne : ¬items.isEmpty = true := by
    rw [List.isEmpty_iff]
    exact List.ne_nil_of_mem hv
  rw [ofValue, if_neg hne, if_neg (Bool.eq_false_iff.1 hgroup)] at h
  split at h
  · cases h
  · rename_i hlength
    obtain ⟨t, ht, -⟩ := bind_eq_ok.1 h
    refine isPlain_of_ofFields ht ?_
    obtain ⟨i, hi, rfl⟩ := List.getElem_of_mem hv
    have hi3 : i = 0 ∨ i = 1 ∨ i = 2 := by omega
    rcases hi3 with rfl | rfl | rfl
    · exact .inl (List.getElem?_eq_getElem hi)
    · exact .inr (.inl (List.getElem?_eq_getElem hi))
    · exact .inr (.inr (List.getElem?_eq_getElem hi))

/-- The keys in a value that spells transforms. -/
theorem hasCheckedKeys {v : Value} {ts : List Transform} (h : ofValue v = .ok ts) :
    HasCheckedKeys keys hides v :=
  .of_mappings (readsByPart.checked (fun _ _ => isChecked_of_ofValue)
    (fun _ _ => isPlain_of_ofValue) v h)

end Transform

/-! ### Records -/

namespace Record

/-- **The keys in accepted rules.** Text rules that are read from some records have only the keys of a
pair in the mappings of their values, and each rule is in the half that its record says, with the
selector of the record. Transforms have only the keys of a transform. Any other key that stands in a
value, however deep, stands below an entry that is passed over. -/
theorem keys_checked (rs : List Record) :
    (∀ rules, TextRules.ofRecords rs = .ok rules →
      (∀ r ∈ rs, HasCheckedKeys TextRule.keys TextRule.hides r.value) ∧
      ∃ tss, List.Forall₂ (fun r ts => TextRule.ofRecord r = .ok ts ∧ ∀ t ∈ ts, t.selector = r.selector)
          rs tss ∧ rules = TextRules.divided rs tss) ∧
    ∀ ts, Transform.ofRecords rs = .ok ts →
      ∀ r ∈ rs, HasCheckedKeys Transform.keys Transform.hides r.value := by
  constructor
  · intro rules h
    obtain ⟨tss, htss, hrules⟩ := TextRules.ofRecords_ok_iff.1 h
    refine ⟨fun r hr => ?_, tss, htss.imp fun r ts hts => ?_, hrules⟩
    · obtain ⟨us, hus, -⟩ := bind_eq_ok.1 h
      obtain ⟨ts, hts⟩ := read_of_mem (f := TextRule.ofRecord) (fun _ _ => rfl) hus hr
      obtain ⟨ps, hps, -⟩ := bind_eq_ok.1 hts
      exact TextRule.hasCheckedKeys hps
    · obtain ⟨ps, -, hps⟩ := bind_eq_ok.1 hts
      exact ⟨hts, TextRule.mapM_ofPair_selector hps⟩
  · intro ts h r hr
    obtain ⟨us, hus⟩ := read_of_mem (f := fun r => Transform.ofValue r.value) (fun _ _ => rfl) h hr
    exact Transform.hasCheckedKeys hus

/-- A value with a pair below a tag in a nested group, and an entry that is hidden. -/
def nestedPairs : Value :=
  .sequence [.sequence [],
    .tagged "t" (.sequence [.mapping [(.string "replacement", .string "b"), (.string "pattern", .string "a"),
      (.tagged "t" (.string "replace_with"), .sequence [.mapping [(.string "path", .null)]])]])]

/-- In a value with two records for text rules and one for transforms all mappings have been checked. -/
theorem keys_checked_nestedPairs :
    let rs : List Record := [⟨nestedPairs, none, none, some "p"⟩, .bare (.string "x")]
    let us : List Record := [.bare (.sequence [.mapping [(.string "selector", .string "p"),
      (.string "kind", .string "strip")], .sequence [.string "remove", .string "b"]])]
    (∃ rules, TextRules.ofRecords rs = .ok rules ∧
      (∀ r ∈ rs, HasCheckedKeys TextRule.keys TextRule.hides r.value)) ∧
    Transform.ofRecords us = .ok [.strip "p", .remove "b"] ∧
      ∀ r ∈ us, HasCheckedKeys Transform.keys Transform.hides r.value := by
  intro rs us
  obtain ⟨rules, hrules⟩ : ∃ rules, TextRules.ofRecords rs = .ok rules :=
    exists_ok_of_toOption (by decide +kernel)
  have hus : Transform.ofRecords us = .ok [.strip "p", .remove "b"] := by rfl
  exact ⟨⟨rules, hrules, ((keys_checked rs).1 rules hrules).1⟩, hus, (keys_checked us).2 _ hus⟩

/-- A pair with both names of a replacement, of which the second holds a selector. -/
def hiddenSelector : Value :=
  .sequence [.mapping [(.string "pattern", .string "a"), (.string "replacement", .string "b"),
    (.string "replace_with", .mapping [(.string "selector", .string "p")])]]

/-- The same pair without the second name. -/
def plainPair : Value :=
  .sequence [.mapping [(.string "pattern", .string "a"), (.string "replacement", .string "b")]]

/-- The selector that is hidden is dropped, and the rule is one for the whole page. -/
theorem keys_hiddenSelector :
    normalize .sanitization (some hiddenSelector) = .ok (some [.bare hiddenSelector]) ∧
      "selector" ∈ hiddenSelector.keys ∧
      TextRules.ofRecords [.bare hiddenSelector] = TextRules.ofRecords [.bare plainPair] ∧
      ∃ rules, TextRules.ofRecords [.bare hiddenSelector] = .ok rules ∧ rules.inElements = [] ∧
        rules.onPage.map (fun t => (t.pattern, t.replacement)) = [("a", "b")] := by
  have hread : TextRule.pairsOf hiddenSelector = .ok [("a", "b")] := by rfl
  obtain ⟨x, hx⟩ : ∃ x, TextRule.compilePattern "a" = .ok x := exists_ok_of_toOption (by decide +kernel)
  have hrule : TextRule.ofRecord (.bare hiddenSelector) = .ok [⟨"a", x, "b", none⟩] := by
    simp only [TextRule.ofRecord, bare, hread, TextRule.ofPair, List.mapM_cons, List.mapM_nil, hx, bind,
      Except.bind, pure, Except.pure]
  have hrules : TextRules.ofRecords [.bare hiddenSelector] = .ok ⟨[], [⟨"a", x, "b", none⟩]⟩ :=
    TextRules.ofRecords_ok_iff.2 ⟨_, .cons hrule .nil, rfl⟩
  exact ⟨by rfl, by decide, by rfl, _, hrules, rfl, rfl⟩

end Record

end HtmlCanon
