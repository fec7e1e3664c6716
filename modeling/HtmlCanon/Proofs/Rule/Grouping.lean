import HtmlCanon.Proofs.FaultOrder
import HtmlCanon.Proofs.Rule.Entries
import HtmlCanon.Proofs.Rule.TextOrder

/-!
# Spellings of transforms and pairs

A transform, or a pair of a pattern and its replacement, is written as a mapping or as a list, and
neighbours are grouped in sequences, nested to any depth. The first item of a sequence alone tells
whether it is a group, so a group of pairs may not begin with a bare string.

* `ReadsByPart.spelled` : a value is read as what it spells, if each of its parts is.
* `Transform.ofRecords_spelled` : **all spellings of transforms mean the same**.
* `TextRules.ofRecords_halves` : **all spellings of pairs mean the same**, and where their rules go.
-/

namespace HtmlCanon

open Yaml (Value Entries)

/-! ### Groups -/

section

variable {α : Type}

mutual

/-- How a value spells some things, given how one of them is spelled and what may open a group. -/
inductive Spells (part : α → Value → Prop) (opens : Value → Prop) : List α → Value → Prop
  | part {a : α} {v : Value} : part a v → Spells part opens [a] v
  | group {as : List α} {vs : List Value} :
      (∀ v ∈ vs.head?, opens v) → SpellsAll part opens as vs → Spells part opens as (.sequence vs)

/-- How some values spell some things, one value after the other. -/
inductive SpellsAll (part : α → Value → Prop) (opens : Value → Prop) : List α → List Value → Prop
  | nil : SpellsAll part opens [] []
  | cons {as bs : List α} {v : Value} {vs : List Value} :
      Spells part opens as v → SpellsAll part opens bs vs → SpellsAll part opens (as ++ bs) (v :: vs)

end

variable {part : α → Value → Prop} {opens : Value → Prop} {read : Value → Except Fault (List α)}
  {readItems : List Value → Except Fault (List α)}

/-- What may open a group is seen to be in one. -/
theorem Spells.isGroup (hopens : ∀ a v, part a v → opens v → Transform.isGroup v = true)
    {as : List α} {v : Value} (h : Spells part opens as v) (hv : opens v) :
    Transform.isGroup v = true := by
  cases h with
  | part hp => exact hopens _ _ hp hv
  | group => rfl

mutual

/-- **A value is read as what it spells**, if each of its parts is. -/
theorem ReadsByPart.spelled (h : ReadsByPart read readItems)
    (hopens : ∀ a v, part a v → opens v → Transform.isGroup v = true) (v : Value) {as : List α}
    (hpart : ∀ a ∈ as, ∀ v, part a v → read v = .ok [a]) (hv : Spells part opens as v) :
    read v = .ok as := by
  cases v with
  | sequence vs =>
    cases hv with
    | part hp => exact hpart _ List.mem_cons_self _ hp
    | group hhead hall =>
      have hitems := spelledAll h hopens vs hpart hall
      cases hall with
      | nil => exact h.empty
      | cons hfirst _ =>
        -- the first item alone decides, and it is one that may open a group
        rw [h.group (_ :: _) (hfirst.isGroup hopens (hhead _ rfl))]
        exact hitems
  | null | bool | number | string | mapping | tagged =>
    cases hv with
    | part hp => exact hpart _ List.mem_cons_self _ hp

theorem ReadsByPart.spelledAll (h : ReadsByPart read readItems)
    (hopens : ∀ a v, part a v → opens v → Transform.isGroup v = true) (vs : List Value) {as : List α}
    (hpart : ∀ a ∈ as, ∀ v, part a v → read v = .ok [a]) (hvs : SpellsAll part opens as vs) :
    readItems vs = .ok as := by
  cases vs with
  | nil =>
    cases hvs
    exact h.nil
  | cons v vs =>
    cases hvs with
    | cons hv hrest =>
      obtain ⟨hfirst, hafter⟩ := List.forall_mem_append.1 hpart
      rw [h.cons, spelled h hopens v hfirst hv, spelledAll h hopens vs hafter hrest]
      rfl

end

end

/-! ### Transforms -/

namespace Transform

/-- The name of the kind of a transform. -/
def kindName : Transform → String
  | remove _ => "remove"
  | strip _ => "strip"
  | unwrapRoot _ => "unwrap_root"
  | unwrap _ => "unwrap"
  | removeClass .. => "remove_class"

/-- The class that a transform takes away, if it takes one away. -/
def className? : Transform → Option String
  | removeClass _ c => some c
  | _ => none

/-- The fields of a transform, the name of a class only if there is one. -/
def fields (t : Transform) : List (String × String) :=
  ("kind", t.kindName) :: ("selector", t.selector) :: (t.className?.map fun c => ("class", c)).toList

/-- The fields of a transform as entries of a mapping. -/
def entries (t : Transform) : Entries := t.fields.map fun f => (.string f.1, .string f.2)

/-- How a transform is written: as a mapping, in which the order does not matter, or as a list. -/
inductive IsSpelling (t : Transform) : Value → Prop
  | mapping (es : Entries) : es.Perm t.entries → IsSpelling t (.mapping es)
  | list : IsSpelling t (.sequence (t.fields.map fun f => .string f.2))

variable {t : Transform}

theorem IsSpelling.isGroup {v : Value} (h : IsSpelling t v) : Transform.isGroup v = true := by
  cases h <;> rfl

/-- The fields of a transform describe it, if the name of its class is not blank. -/
theorem ofFields_eq (h : ∀ c ∈ t.className?, isBlankText c.toList = false) :
    ofFields (some (.string t.kindName)) (some (.string t.selector)) (t.className?.map .string) =
      .ok t := by
  cases t with
  | removeClass s c =>
    have hmake : make .removeClass s (some c) = .ok (.removeClass s c) := by
      rw [make, if_neg (by simp [h c rfl])]
      rfl
    exact hmake
  | _ => rfl

theorem nodup_entries (t : Transform) : (t.entries.map Prod.fst).Nodup := by
  cases t <;> simp [entries, fields, className?]

theorem checkKeys_entries {es : Entries} (h : es.Perm t.entries) :
    checkKeys .domTransform keys es = .ok () := by
  rw [checkKeys_ok_iff (by decide)]
  intro e he
  obtain ⟨f, hf, rfl⟩ := List.mem_map.1 (h.mem_iff.1 he)
  refine ⟨f.1, ?_, rfl⟩
  revert f
  cases t <;> simp [fields, className?, keys]

/-- **A transform is read from each of its spellings.** -/
theorem ofValue_isSpelling (h : ∀ c ∈ t.className?, isBlankText c.toList = false) {v : Value}
    (hv : IsSpelling t v) : ofValue v = .ok [t] := by
  cases hv with
  | mapping es hes =>
    have hget := Entries.get?_perm hes t.nodup_entries
    have hkind : t.entries.get? "kind" = some (.string t.kindName) := by cases t <;> rfl
    have hselector : t.entries.get? "selector" = some (.string t.selector) := by cases t <;> rfl
    have hclass : t.entries.get? "class" = t.className?.map .string := by cases t <;> rfl
    rw [ofValue, checkKeys_entries hes]
    simp only [hget, hkind, hselector, hclass, ofFields_eq h, bind, Except.bind]
    rfl
  | list =>
    have hlist : ofValue (.sequence (t.fields.map fun f => .string f.2)) =
        ofFields (some (.string t.kindName)) (some (.string t.selector)) (t.className?.map .string) >>=
          fun t => pure [t] := by cases t <;> rfl
    rw [hlist, ofFields_eq h]
    rfl

/-- **All spellings of transforms mean the same.** Transforms whose classes are not blank, each written
as a mapping or as a list, grouped in sequences to any depth and spread over some records, are read in
the order in which they stand. -/
theorem ofRecords_spelled {rs : List Record} {tss : List (List Transform)}
    (hs : List.Forall₂ (fun r ts => Spells IsSpelling (fun _ => True) ts r.value) rs tss)
    (hnames : ∀ t ∈ tss.flatten, ∀ c ∈ t.className?, isBlankText c.toList = false) :
    ofRecords rs = .ok tss.flatten := by
  refine ofRecords_ok_iff.2 ⟨tss, ?_, rfl⟩
  induction hs with
  | nil => exact .nil
  | @cons r ts rs tss hr _ ih =>
    obtain ⟨hts, hrest⟩ := List.forall_mem_append.1 hnames
    exact .cons (readsByPart.spelled (fun _ _ hv _ => hv.isGroup) r.value
      (fun t ht _ => ofValue_isSpelling (hts t ht)) hr) (ih hrest)

/-- Three records: a group that begins with an empty one, a list and a mapping alone. -/
def scatteredRecords : List Record :=
  [.bare (.sequence [.sequence [], .sequence [.mapping [(.string "class", .string "lead"),
      (.string "kind", .string "remove_class"), (.string "selector", .string "p")],
      .sequence [.sequence [.string "strip", .string "b"]]]]),
    .bare (.sequence [.string "remove_class", .string "p", .string "kind"]),
    .bare (.mapping [(.string "selector", .string "main"), (.string "kind", .string "unwrap_root")])]

/-- Four transforms are read from the three records. -/
theorem ofRecords_spelled_scatteredRecords :
    let tss : List (List Transform) :=
      [[.removeClass "p" "lead", .strip "b"], [.removeClass "p" "kind"], [.unwrapRoot "main"]]
    List.Forall₂ (fun r ts => Spells IsSpelling (fun _ => True) ts r.value) scatteredRecords tss ∧
      (∀ t ∈ tss.flatten, ∀ c ∈ t.className?, isBlankText c.toList = false) ∧
      ofRecords scatteredRecords = .ok tss.flatten := by
  intro tss
  have hclass : IsSpelling (.removeClass "p" "lead") (.mapping [(.string "class", .string "lead"),
      (.string "kind", .string "remove_class"), (.string "selector", .string "p")]) :=
    .mapping _ (List.Perm.trans (.swap _ _ _) (.cons _ (.swap _ _ _)))
  have hroot : IsSpelling (.unwrapRoot "main") (.mapping [(.string "selector", .string "main"),
      (.string "kind", .string "unwrap_root")]) := .mapping _ (.swap _ _ _)
  have hinner : SpellsAll IsSpelling (fun _ => True) [.strip "b"]
      [.sequence [.string "strip", .string "b"]] := .cons (.part .list) .nil
  have hpair : SpellsAll IsSpelling (fun _ => True) [.removeClass "p" "lead", .strip "b"]
      [.mapping [(.string "class", .string "lead"), (.string "kind", .string "remove_class"),
        (.string "selector", .string "p")], .sequence [.sequence [.string "strip", .string "b"]]] :=
    .cons (.part hclass) (.cons (.group (fun _ _ => trivial) hinner) .nil)
  have hs : List.Forall₂ (fun r ts => Spells IsSpelling (fun _ => True) ts r.value)
      scatteredRecords tss :=
    .cons (.group (fun _ _ => trivial) (.cons (.group (fun _ _ => trivial) .nil)
        (.cons (.group (fun _ _ => trivial) hpair) .nil)))
      (.cons (.part .list) (.cons (.part hroot) .nil))
  have hnames : ∀ t ∈ tss.flatten, ∀ c ∈ t.className?, isBlankText c.toList = false := by decide
  exact ⟨hs, hnames, ofRecords_spelled hs hnames⟩

end Transform

/-! ### Pairs -/

namespace TextRule

/-- How a pair is written: as a list, or as a mapping, with one of two names for the replacement. A
pattern alone stands for a pair whose replacement is empty. -/
inductive IsSpelling (p : Pair) : Value → Prop
  | list : IsSpelling p (.sequence [.string p.1, .string p.2])
  | mapping (es : Entries) (key : String) : key = "replacement" ∨ key = "replace_with" →
      es.Perm [(.string "pattern", .string p.1), (.string key, .string p.2)] → IsSpelling p (.mapping es)
  | patternList : p.2 = "" → IsSpelling p (.sequence [.string p.1])
  | patternMapping : p.2 = "" → IsSpelling p (.mapping [(.string "pattern", .string p.1)])
  | bare : p.2 = "" → IsSpelling p (.string p.1)

/-- A bare string may not open a group, which would be taken for a single pair. -/
def opensGroup (v : Value) : Prop := ∀ s, v ≠ .string s

variable {p : Pair}

theorem IsSpelling.isGroup {v : Value} (h : IsSpelling p v) (hv : opensGroup v) :
    Transform.isGroup v = true := by
  cases h with
  | bare => exact absurd rfl (hv p.1)
  | _ => rfl

/-- **A pair is read from each of its spellings.** -/
theorem pairsOf_isSpelling {v : Value} (hv : IsSpelling p v) : pairsOf v = .ok [p] := by
  obtain ⟨pattern, replacement⟩ := p
  cases hv with
  | list => rfl
  | mapping es key hkey hes =>
    have hget : ∀ k, es.get? k = Entries.get? [(.string "pattern", .string pattern),
        (.string key, .string replacement)] k :=
      Entries.get?_perm hes (by rcases hkey with rfl | rfl <;> simp)
    have hkeys : checkKeys .sanitization keys es = .ok () := by
      rw [checkKeys_ok_iff (by decide)]
      intro e he
      rcases hkey with rfl | rfl <;>
        rcases List.mem_pair.1 (hes.mem_iff.1 he) with rfl | rfl <;> exact ⟨_, by decide, rfl⟩
    rw [pairsOf, hkeys]
    simp only [hget]
    rcases hkey with rfl | rfl <;> rfl
  | patternList h =>
    obtain rfl : replacement = "" := h
    rfl
  | patternMapping h =>
    obtain rfl : replacement = "" := h
    rfl
  | bare h =>
    obtain rfl : replacement = "" := h
    rfl

/-- What a rule was made from: the selector of its record, and its pair. -/
def source (t : TextRule) : Option String × Pair := (t.selector, t.pattern, t.replacement)

/-- Whether a pattern compiles within the length limit. -/
def HasPattern (p : Pair) : Prop :=
  p.1.utf8ByteSize ≤ maxPatternLength ∧ (Regex.compile? p.1.toList).isSome = true

instance (p : Pair) : Decidable (HasPattern p) := inferInstanceAs (Decidable (_ ∧ _))

theorem ofPair_ok {s : Option String} (h : HasPattern p) :
    ∃ t, ofPair s p = .ok t ∧ t.source = (s, p) ∧ Regex.compile? t.pattern.toList = some t.regex := by
  obtain ⟨x, hx⟩ := Option.isSome_iff_exists.1 h.2
  have hcompile : compilePattern p.1 = .ok x := by
    rw [compilePattern, if_neg (by have := h.1; omega), hx]
    rfl
  exact ⟨⟨p.1, x, p.2, s⟩, by rw [ofPair, hcompile]; rfl, rfl, hx⟩

/-- Pairs whose patterns compile give their rules, in order. -/
theorem mapM_ofPair_ok {s : Option String} {ps : List Pair} (h : ∀ p ∈ ps, HasPattern p) :
    ∃ ts, ps.mapM (ofPair s) = .ok ts ∧ ts.map source = ps.map (s, ·) ∧
      ∀ t ∈ ts, Regex.compile? t.pattern.toList = some t.regex := by
  induction ps with
  | nil => exact ⟨[], rfl, rfl, List.forall_mem_nil _⟩
  | cons p ps ih =>
    obtain ⟨hp, hps⟩ := List.forall_mem_cons.1 h
    obtain ⟨t, ht, hsource, hregex⟩ := ofPair_ok (s := s) hp
    obtain ⟨ts, hts, hsources, hregexes⟩ := ih hps
    refine ⟨t :: ts, ?_, ?_, List.forall_mem_cons.2 ⟨hregex, hregexes⟩⟩
    · rw [List.mapM_cons, ht, hts]
      rfl
    · rw [List.map_cons, hsource, hsources, List.map_cons]

end TextRule

namespace TextRules

/-- The pairs of those of some records that satisfy `p`, in order and with the selectors of the
records. -/
def pairsFor (p : Record → Bool) (rs : List Record) (pss : List (List TextRule.Pair)) :
    List (Option String × TextRule.Pair) :=
  ((rs.zip pss).filter fun x => p x.1).flatMap fun x => x.2.map (x.1.selector, ·)

/-- Each pair is for one of two sorts of records. -/
theorem pairsFor_perm (p : Record → Bool) (rs : List Record) (pss : List (List TextRule.Pair)) :
    (pairsFor p rs pss ++ pairsFor (fun r => !p r) rs pss).Perm (pairsFor (fun _ => true) rs pss) := by
  unfold pairsFor
  rw [← List.flatMap_append, List.filter_true]
  exact (List.filter_append_perm _ _).flatMap_right _

theorem pairsFor_cons (p : Record → Bool) (r : Record) (rs : List Record) (ps : List TextRule.Pair)
    (pss : List (List TextRule.Pair)) : pairsFor p (r :: rs) (ps :: pss) =
      (if p r then ps.map (r.selector, ·) else []) ++ pairsFor p rs pss := by
  unfold pairsFor
  cases hp : p r <;> simp [hp]

/-- Records whose values spell pairs give the rules of these pairs, record by record. -/
theorem rules_of_spelled {rs : List Record} {pss : List (List TextRule.Pair)}
    (hs : List.Forall₂ (fun r ps => Spells TextRule.IsSpelling TextRule.opensGroup ps r.value) rs pss)
    (hpatterns : ∀ p ∈ pss.flatten, TextRule.HasPattern p) :
    ∃ tss, List.Forall₂ (fun r ts => TextRule.ofRecord r = .ok ts) rs tss ∧
      (∀ p : Record → Bool, (((rs.zip tss).filter fun x => p x.1).flatMap Prod.snd).map TextRule.source =
        pairsFor p rs pss) ∧
      ∀ ts ∈ tss, ∀ t ∈ ts, Regex.compile? t.pattern.toList = some t.regex := by
  induction hs with
  | nil => exact ⟨[], .nil, fun _ => rfl, List.forall_mem_nil _⟩
  | @cons r ps rs pss hr _ ih =>
    obtain ⟨hps, hrest⟩ := List.forall_mem_append.1 hpatterns
    obtain ⟨tss, htss, hsources, hregexes⟩ := ih hrest
    obtain ⟨ts, hts, hsource, hregex⟩ := TextRule.mapM_ofPair_ok (s := r.selector) hps
    have hread : TextRule.pairsOf r.value = .ok ps :=
      TextRule.readsByPart.spelled (fun _ _ hv => hv.isGroup) r.value
        (fun _ _ _ => TextRule.pairsOf_isSpelling) hr
    have hrecord : TextRule.ofRecord r = .ok ts := by
      rw [TextRule.ofRecord, hread]
      exact hts
    refine ⟨ts :: tss, .cons hrecord htss, fun p => ?_, List.forall_mem_cons.2 ⟨hregex, hregexes⟩⟩
    rw [pairsFor_cons, ← hsources, ← hsource]
    cases hp : p r <;> simp [hp]

/-- **All spellings of pairs mean the same.** Pairs whose patterns compile, each written in one of six
ways, grouped in sequences to any depth and spread over some records, all become rules. Those of records
with a selector stand in one half, each with that selector, and those of the others in the other half,
in the order in which they stand; none is lost and none comes twice. -/
theorem ofRecords_halves {rs : List Record} {pss : List (List TextRule.Pair)}
    (hs : List.Forall₂ (fun r ps => Spells TextRule.IsSpelling TextRule.opensGroup ps r.value) rs pss)
    (hpatterns : ∀ p ∈ pss.flatten, TextRule.HasPattern p) :
    ∃ rules, ofRecords rs = .ok rules ∧
      rules.inElements.map TextRule.source = pairsFor Record.isScoped rs pss ∧
      rules.onPage.map TextRule.source = pairsFor (fun r => !r.isScoped) rs pss ∧
      ((rules.inElements ++ rules.onPage).map TextRule.source).Perm (pairsFor (fun _ => true) rs pss) ∧
      ∀ t ∈ rules.inElements ++ rules.onPage, Regex.compile? t.pattern.toList = some t.regex := by
  obtain ⟨tss, htss, hsources, hregexes⟩ := rules_of_spelled hs hpatterns
  have hin := hsources Record.isScoped
  have hon := hsources fun r => !r.isScoped
  refine ⟨divided rs tss, ofRecords_ok_iff.2 ⟨tss, htss, rfl⟩, hin, hon, ?_, ?_⟩
  · rw [List.map_append, divided, hin, hon]
    exact pairsFor_perm _ rs pss
  · -- the rules of either half are rules of some record
    have hmem : ∀ {p : Record × List TextRule → Bool} {t : TextRule},
        t ∈ ((rs.zip tss).filter p).flatMap Prod.snd →
          Regex.compile? t.pattern.toList = some t.regex := by
      intro p t ht
      obtain ⟨⟨r, ts⟩, hx, ht⟩ := List.mem_flatMap.1 ht
      exact hregexes ts (List.of_mem_zip (List.mem_filter.1 hx).1).2 t ht
    exact List.forall_mem_append.2 ⟨fun _ => hmem, fun _ => hmem⟩

/-- Three records of text rules: a group in a group for some elements, a bare string, and a group that
begins with an empty one. -/
def mixedRecords : List Record :=
  [⟨.sequence [.sequence [.string "a", .string "b"], .sequence [.mapping
      [(.string "replace_with", .string "$1"), (.string "pattern", .string "(c)")], .string "d"]],
      none, none, some "p"⟩,
    .bare (.string "e"),
    ⟨.sequence [.sequence [], .mapping [(.string "pattern", .string "f+")], .sequence [.string "g"]],
      none, none, some "b"⟩]

/-- Six pairs are read from the three records, five of them for some elements. -/
theorem ofRecords_halves_mixedRecords :
    let pss : List (List TextRule.Pair) := [[("a", "b"), ("(c)", "$1"), ("d", "")], [("e", "")],
      [("f+", ""), ("g", "")]]
    List.Forall₂ (fun r ps => Spells TextRule.IsSpelling TextRule.opensGroup ps r.value)
        mixedRecords pss ∧
      (∀ p ∈ pss.flatten, TextRule.HasPattern p) ∧
      ∃ rules, ofRecords mixedRecords = .ok rules ∧
        rules.inElements.map TextRule.source = [(some "p", "a", "b"), (some "p", "(c)", "$1"),
          (some "p", "d", ""), (some "b", "f+", ""), (some "b", "g", "")] ∧
        rules.onPage.map TextRule.source = [(none, "e", "")] := by
  intro pss
  have hopens : ∀ (v : Value) (vs : List Value), Transform.isGroup v = true →
      ∀ w ∈ (v :: vs).head?, TextRule.opensGroup w := by
    rintro v vs hv w ⟨⟩ s rfl
    cases hv
  have ha : TextRule.IsSpelling ("a", "b") (.sequence [.string "a", .string "b"]) := .list
  have hc : TextRule.IsSpelling ("(c)", "$1") (.mapping [(.string "replace_with", .string "$1"),
      (.string "pattern", .string "(c)")]) := .mapping _ "replace_with" (.inr rfl) (.swap _ _ _)
  have hd : TextRule.IsSpelling ("d", "") (.string "d") := .bare rfl
  have he : TextRule.IsSpelling ("e", "") (.string "e") := .bare rfl
  have hf : TextRule.IsSpelling ("f+", "") (.mapping [(.string "pattern", .string "f+")]) :=
    .patternMapping rfl
  have hg : TextRule.IsSpelling ("g", "") (.sequence [.string "g"]) := .patternList rfl
  have hs : List.Forall₂ (fun r ps => Spells TextRule.IsSpelling TextRule.opensGroup ps r.value)
      mixedRecords pss :=
    .cons (.group (hopens _ _ rfl) (.cons (.part ha) (.cons (.group (hopens _ _ rfl)
        (.cons (.part hc) (.cons (.part hd) .nil))) .nil)))
      (.cons (.part he) (.cons (.group (hopens _ _ rfl) (.cons (.group nofun .nil)
        (.cons (.part hf) (.cons (.part hg) .nil)))) .nil))
  have hpatterns : ∀ p ∈ pss.flatten, TextRule.HasPattern p := by decide +kernel
  obtain ⟨rules, hrules, hin, hon, -, -⟩ := ofRecords_halves hs hpatterns
  exact ⟨hs, hpatterns, rules, hrules, hin, hon⟩

end TextRules

end HtmlCanon
