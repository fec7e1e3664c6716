import HtmlCanon.Proofs.Rule.Records

/-!
# A run under the rules that apply to it

A configuration and the path of a page pick records. The picked records, written down as mappings
that hold a value and a selector only, are a configuration of their own; under it the path does not
matter any more, and the run gives the same.

* `Record.mapM_spelling` : mappings that are written down for records are read as these records.
* `Config.applicable_spelled` : of a configuration that is written down, every record applies.
* `Config.settle_congr` : rules are settled from the values and selectors of the picked records.
* `Config.canonicalize_spelled` : **the picked records decide what a run gives**.
-/

namespace HtmlCanon

open Yaml (Value Entries)

/-! ### Records that are written down -/

namespace Record

/-- A record without the conditions under which it applies. -/
def unconditional (r : Record) : Record := { r with path := none, disabled := none }

@[simp] theorem unconditional_value (r : Record) : r.unconditional.value = r.value := rfl

/-- The entries of a mapping that describes a record without conditions. -/
def spellingEntries (r : Record) : Entries :=
  (.string "value", r.value) ::
    match r.selector with
    | some s => [(.string "selector", .string s)]
    | none => []

/-- A mapping that describes a record without conditions. -/
def spelling (r : Record) : Value := .mapping r.spellingEntries

theorem shape?_spelling (r : Record) : shape? r.spelling = some (r.value, r.spellingEntries) := rfl

theorem ofEntries_spelling (v : Value) (r : Record) :
    ofEntries v r.spellingEntries = .ok r.unconditional := by
  obtain ⟨value, path, disabled, selector⟩ := r
  cases selector with
  | none => rfl
  | some s => rfl

/-- A mapping that is written down for a record is read as that record. -/
theorem ofValue_spelling (kind : RuleKind) (r : Record) :
    ofValue kind r.spelling = .ok r.unconditional := by
  unfold ofValue
  rw [shape?_spelling]
  simp only [ofEntries_spelling]
  rfl

/-- **Mappings that are written down for records** are read as these records. -/
theorem mapM_spelling (kind : RuleKind) (rs : List Record) :
    (rs.map spelling).mapM (ofValue kind) = .ok (rs.map unconditional) := by
  rw [mapM_eq_ok, List.forall₂_map_left_iff, List.forall₂_map_right_iff]
  exact List.forall₂_same.2 fun r _ => ofValue_spelling kind r

theorem written_spelling {rs : List Record} (h : rs ≠ []) :
    written (some (.sequence (rs.map spelling))) = rs.map spelling := by
  refine written_sequence ?_
  cases rs with
  | nil => exact absurd rfl h
  | cons r rs => rfl

/-- A record without conditions applies to every run. -/
theorem applicable_unconditional (o : Options) (rs : List Record) :
    applicable o (rs.map unconditional) = .ok (rs.map unconditional) := by
  induction rs with
  | nil => rfl
  | cons r rs ih =>
    rw [List.map_cons, applicable, ih]
    rfl

end Record

/-! ### Configurations that are written down -/

theorem RuleKind.key_injective : Function.Injective RuleKind.key := by
  intro a b h
  cases a <;> cases b <;> first | rfl | exact absurd h (by decide)

theorem RuleKind.mem_all (k : RuleKind) : k ∈ RuleKind.all := by cases k <;> decide

namespace Config

/-- The entry of a kind in a configuration that holds the given records of it; kinds without records
have none. -/
def spelledEntry (as : RuleKind → List Record) (k : RuleKind) : Option (Value × Value) :=
  if (as k).isEmpty then none else some (.string k.key, .sequence ((as k).map Record.spelling))

/-- The configuration that holds the given records of each kind and nothing else. -/
def spelled (as : RuleKind → List Record) : Config := ⟨RuleKind.all.filterMap (spelledEntry as)⟩

theorem get?_spelledEntries (as : RuleKind → List Record) (k : RuleKind) (ks : List RuleKind) :
    Entries.get? (ks.filterMap (spelledEntry as)) k.key =
      if k ∈ ks then (spelledEntry as k).map Prod.snd else none := by
  induction ks with
  | nil => rfl
  | cons l ks ih =>
    -- a kind without records has no entry; any other has one that hides those behind it
    by_cases hl : (as l).isEmpty = true
    · have hnone : spelledEntry as l = none := by rw [spelledEntry, if_pos hl]
      rw [List.filterMap_cons_none hnone, ih]
      by_cases hk : k = l
      · subst hk
        simp [hnone]
      · simp [hk]
    · have hsome : spelledEntry as l =
          some (.string l.key, .sequence ((as l).map Record.spelling)) := by
        rw [spelledEntry, if_neg hl]
      rw [List.filterMap_cons_some hsome, Entries.get?]
      by_cases hk : k = l
      · subst hk
        simp [hsome]
      · have hkey : (l.key == k.key) = false :=
          beq_false_of_ne fun h => hk (RuleKind.key_injective h).symm
        rw [hkey, if_neg (by decide), ih]
        simp [hk]

theorem raw?_spelled (as : RuleKind → List Record) (k : RuleKind) :
    (spelled as).raw? k =
      if (as k).isEmpty then none else some (.sequence ((as k).map Record.spelling)) := by
  unfold raw? spelled
  rw [get?_spelledEntries, if_pos k.mem_all, spelledEntry]
  split <;> rfl

/-- **The records of a configuration that is written down** all apply, whatever the run. -/
theorem applicable_spelled (as : RuleKind → List Record) (k : RuleKind) (o : Options) :
    (spelled as).applicable k o = .ok ((as k).map Record.unconditional) := by
  have hwritten : Record.written ((spelled as).raw? k) = (as k).map Record.spelling := by
    rw [raw?_spelled]
    by_cases h : as k = []
    · rw [h]
      rfl
    · rw [if_neg (by simpa using h), Record.written_spelling h]
  rw [applicable_eq, hwritten, Record.mapM_spelling]
  exact Record.applicable_unconditional o (as k)

end Config

/-! ### What is settled -/

theorem Transform.ofRecords_unconditional (rs : List Record) :
    ofRecords (rs.map Record.unconditional) = ofRecords rs := by
  induction rs with
  | nil => rfl
  | cons r rs ih => rw [List.map_cons, ofRecords, ofRecords, ih, Record.unconditional_value]

theorem TextRule.ofRecords_unconditional (rs : List Record) :
    ofRecords (rs.map Record.unconditional) = ofRecords rs := by
  induction rs with
  | nil => rfl
  | cons r rs ih => rw [List.map_cons, ofRecords, ofRecords, ih]; rfl

namespace Config

variable {c d : Config} {o p : Options} {as : RuleKind → List Record}

/-- Whether one record applies, or none, or too many, does not depend on conditions. -/
theorem single_congr {k : RuleKind} (hc : c.applicable k o = .ok (as k))
    (hd : d.applicable k p = .ok ((as k).map Record.unconditional)) :
    d.single k p = (c.single k o).map (Option.map Record.unconditional) := by
  unfold single
  rw [hc, hd]
  match as k with
  | [] => rfl
  | [_] => rfl
  | _ :: _ :: _ => rfl

/-- **Rules are settled from values and selectors**: two configurations, each in its run, come to the
same rules when the same records apply, conditions aside. -/
theorem settle_congr (hc : ∀ k, c.applicable k o = .ok (as k))
    (hd : ∀ k, d.applicable k p = .ok ((as k).map Record.unconditional)) :
    d.settle p = c.settle o := by
  have hspacing : d.wantsSpacing p = c.wantsSpacing o := by
    unfold wantsSpacing
    rw [single_congr (hc _) (hd _)]
    match c.single .removeSpacing o with
    | .error e => rfl
    | .ok none => rfl
    | .ok (some r) => rfl
  have hselector : d.selectorFor p = c.selectorFor o := by
    unfold selectorFor
    rw [single_congr (hc _) (hd _)]
    match c.single .selector o with
    | .error e => rfl
    | .ok none => rfl
    | .ok (some r) => rfl
  have hregions : ((as .regions).map Record.unconditional).head?.map Record.value =
      (as .regions).head?.map Record.value := by
    cases as .regions <;> rfl
  unfold settle
  rw [hspacing, hselector]
  simp only [hc, hd, Transform.ofRecords_unconditional, TextRules.ofRecords,
    TextRule.ofRecords_unconditional, bind, Except.bind, hregions]

/-- **The picked records decide what a run gives.** If the records of all kinds that apply are found,
the run gives what it gives under the configuration that holds just them, without a path; so does
every other run to which the same records apply, whatever else its configuration holds. -/
theorem canonicalize_spelled (hc : ∀ k, c.applicable k o = .ok (as k)) (html : Text) :
    c.canonicalize o html = (spelled as).canonicalize { o with path := none } html ∧
      ∀ (d : Config) (p : Options), (∀ k, d.applicable k p = .ok (as k)) → p.output = o.output →
        d.canonicalize p html = c.canonicalize o html := by
  have key : ∀ (d : Config) (p : Options), (∀ k, d.applicable k p = .ok (as k)) →
      p.output = o.output →
      d.canonicalize p html = (spelled as).canonicalize { o with path := none } html := by
    intro d p hd ho
    have hs : (spelled as).settle { o with path := none } = d.settle p :=
      settle_congr hd fun k => applicable_spelled as k _
    exact (canonicalize_of_settle_eq hs ho.symm html).symm
  have hrun := key c o hc rfl
  exact ⟨hrun, fun d p hd ho => (key d p hd ho).trans hrun.symm⟩

/-- A configuration for two parts of a site, with a disabled record, a bare one and a stray key. -/
def sections : Config :=
  ⟨[(.string "note", .bool true),
    (.string "sanitization", .sequence [
      .mapping [(.string "value", .string "y"), (.string "disabled", .bool true)], .string "x"]),
    (.string "selector", .sequence [
      .mapping [(.string "value", .string "main"), (.string "path", .string "^/docs")],
      .mapping [(.string "path", .string "^/blog"), (.string "value", .string "article")]])]⟩

/-- The records of it that apply below one of the two paths. -/
def blogRecords : RuleKind → List Record
  | .selector => [⟨.string "article", some "^/blog", none, none⟩]
  | .sanitization => [.bare (.string "x")]
  | _ => []

theorem applicable_sections (k : RuleKind) :
    sections.applicable k ⟨some "/blog/1", none⟩ = .ok (blogRecords k) := by
  cases k with
  | selector =>
    have hdocs : Record.applies ⟨.string "main", some "^/docs", none, none⟩ ⟨some "/blog/1", none⟩ =
        .ok false := eq_ok_of_toOption (by decide +kernel)
    have hblog : Record.applies ⟨.string "article", some "^/blog", none, none⟩
        ⟨some "/blog/1", none⟩ = .ok true := eq_ok_of_toOption (by decide +kernel)
    have hread : sections.records .selector = .ok (some [⟨.string "main", some "^/docs", none, none⟩,
        ⟨.string "article", some "^/blog", none, none⟩]) := rfl
    simp only [applicable, hread, bind, Except.bind, Option.getD_some, Record.applicable, hdocs, hblog]
    rfl
  | removeSpacing => rfl
  | regions => rfl
  | domTransform => rfl
  | sanitization => rfl

/-- Below that path the run gives what it gives under the two records alone, and the order of the
keys does not matter. -/
theorem canonicalize_spelled_sections :
    let o : Options := ⟨some "/blog/1", none⟩
    let html := "<main>x</main><article>xy</article>".toList
    (∀ k, sections.applicable k o = .ok (blogRecords k)) ∧
      sections.canonicalize o html = (spelled blogRecords).canonicalize ⟨none, none⟩ html ∧
      Config.canonicalize ⟨sections.entries.reverse⟩ o html = sections.canonicalize o html := by
  intro o html
  have hreversed : ∀ k, Config.applicable ⟨sections.entries.reverse⟩ k o = .ok (blogRecords k) := by
    intro k
    have hraw : Config.raw? ⟨sections.entries.reverse⟩ k = sections.raw? k := by cases k <;> rfl
    rw [applicable_eq, hraw, ← applicable_eq, applicable_sections]
  obtain ⟨hspelled, hother⟩ := canonicalize_spelled applicable_sections html
  exact ⟨applicable_sections, hspelled, hother _ o hreversed rfl⟩

end Config

end HtmlCanon
