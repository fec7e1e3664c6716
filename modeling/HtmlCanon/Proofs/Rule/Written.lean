import HtmlCanon.Proofs.Rule.Entries
import HtmlCanon.Proofs.Rule.Records
import Mathlib.Data.List.Forall2
import Mathlib.Data.List.Induction

/-!
# Ways to write records

The records of a kind are written as a list, as one mapping or as a bare value. What shape an entry has
is told by its first item, and each item is then read by itself; a value that looks like a record itself
has to be written inside one.

* `Record.foldlM_addField` : the fields of a mapping are read in any order.
* `Record.ofValue_isSpelling` : a record is read from each mapping that spells it.
* `Record.normalize_written` : **records are read from every way to write them**.
-/

namespace HtmlCanon

open Yaml (Value Entries)

namespace Record

/-! ### Fields -/

/-- The boolean that a value is, tags aside. -/
def asBool? (v : Value) : Option Bool :=
  match v.untag with
  | .bool b => some b
  | _ => none

/-- The fields that stand in some entries. -/
def Fields.ofEntries (es : Entries) : Fields :=
  ⟨es.get? "value", (es.get? "path").map Value.asString?, (es.get? "disabled").map asBool?,
    (es.get? "selector").map Value.asString?⟩

/-- Whether a value can stand in a field of a record. -/
inductive IsField : String → Value → Prop
  | value (v : Value) : IsField "value" v
  | noPath : IsField "path" .null
  | path (s : String) : IsField "path" (.string s)
  | notDisabled : IsField "disabled" .null
  | disabled (b : Bool) : IsField "disabled" (.bool b)
  | noSelector : IsField "selector" .null
  | selector (s : String) : IsField "selector" (.string s)

/-- One more entry adds its field. -/
theorem addField_ofEntries {es : Entries} {key : String} {v : Value} (hv : IsField key v)
    (hnew : es.get? key = none) :
    addField (.ofEntries es) (.string key, v) = .ok (.ofEntries (es ++ [(.string key, v)])) := by
  cases hv <;>
    simp [addField, Fields.ofEntries, Entries.get?_append, Entries.get?, Value.asString?, Value.untag,
      asBool?, optionalString, optionalBool, hnew, bind, Except.bind, pure, Except.pure]

/-- **The fields of a mapping are read in any order**, if no key comes twice. -/
theorem foldlM_addField {es : Entries} (hkeys : (es.map Prod.fst).Nodup)
    (hes : ∀ e ∈ es, ∃ key, e.1 = .string key ∧ IsField key e.2) :
    es.foldlM addField ⟨none, none, none, none⟩ = .ok (.ofEntries es) := by
  -- from the back: what was read so far are the fields of the entries so far
  induction es using List.reverseRecOn with
  | nil => rfl
  | append_singleton es e ih =>
    obtain ⟨hbefore, hlast⟩ := List.forall_mem_append.1 hes
    obtain ⟨key, hkey, hfield⟩ := hlast e (List.mem_singleton_self e)
    obtain ⟨k, v⟩ := e
    obtain rfl : k = .string key := hkey
    rw [List.map_append, List.nodup_append'] at hkeys
    obtain ⟨hnodup, -, hdisjoint⟩ := hkeys
    have hnew : Entries.get? es key = none := Entries.get?_eq_none_iff.2 fun w hw =>
      hdisjoint (List.mem_map_of_mem hw) (List.mem_singleton_self _)
    rw [List.foldlM_append, ih hnodup hbefore]
    simp only [List.foldlM_cons, List.foldlM_nil, bind, Except.bind]
    rw [addField_ofEntries hfield hnew]
    rfl

theorem Fields.ofEntries_perm {es fs : Entries} (hp : es.Perm fs) (h : (fs.map Prod.fst).Nodup) :
    Fields.ofEntries es = .ofEntries fs := by
  simp only [Fields.ofEntries, Entries.get?_perm hp h]

/-! ### Records -/

/-- How an optional field is written: if there is none, it is left out or null. -/
inductive SpellsField (key : String) : Option Value → Entries → Prop
  | leftOut : SpellsField key none []
  | null : SpellsField key none [(.string key, .null)]
  | written (v : Value) : SpellsField key (some v) [(.string key, v)]

/-- The entries that spell a record, its value first. -/
inductive SpellsEntries (r : Record) : Entries → Prop
  | fields {path disabled selector : Entries} : SpellsField "path" (r.path.map .string) path →
      SpellsField "disabled" (r.disabled.map .bool) disabled →
      SpellsField "selector" (r.selector.map .string) selector →
      SpellsEntries r ((.string "value", r.value) :: (path ++ disabled ++ selector))

/-- Whether a value spells a record: it is a mapping, tags aside, with such entries in any order. -/
def IsSpelling (r : Record) (v : Value) : Prop :=
  ∃ es fs : Entries, v.untag = .mapping es ∧ es.Perm fs ∧ SpellsEntries r fs

namespace SpellsField

variable {key : String} {es : Entries}

theorem keys {o : Option Value} (h : SpellsField key o es) :
    (es.map Prod.fst).Sublist [.string key] := by
  cases h with
  | leftOut => exact List.nil_sublist _
  | _ => exact List.Sublist.refl _

theorem get?_of_ne {o : Option Value} (h : SpellsField key o es) {other : String} (hne : key ≠ other) :
    es.get? other = none := by
  cases h <;> simp [Entries.get?, hne]

/-- A field is read as it is written. -/
theorem read {α : Type} {f : Value → Option α} {g : α → Value} (hf : ∀ a, f (g a) = some a)
    (hnull : f .null = none) {o : Option α} (h : SpellsField key (o.map g) es) :
    ((es.get? key).map f).join = o := by
  cases o with
  | none => cases h <;> simp [Entries.get?, hnull]
  | some a =>
    cases h
    simp [Entries.get?, hf]

theorem isField {α : Type} {g : α → Value} (hnull : IsField key .null) (hg : ∀ a, IsField key (g a))
    {o : Option α} (h : SpellsField key (o.map g) es) :
    ∀ e ∈ es, ∃ k, e.1 = .string k ∧ IsField k e.2 := by
  cases o with
  | none => cases h <;> simp [hnull]
  | some a =>
    cases h
    simp [hg]

end SpellsField

namespace SpellsEntries

variable {r : Record} {es : Entries}

theorem nodup (h : SpellsEntries r es) : (es.map Prod.fst).Nodup := by
  obtain ⟨hpath, hdisabled, hselector⟩ := h
  have hkeys := ((hpath.keys.append hdisabled.keys).append hselector.keys).cons_cons (.string "value")
  rw [List.map_cons, List.map_append, List.map_append]
  exact hkeys.nodup (by simp)

theorem isField (h : SpellsEntries r es) : ∀ e ∈ es, ∃ key, e.1 = .string key ∧ IsField key e.2 := by
  obtain ⟨hpath, hdisabled, hselector⟩ := h
  rw [List.forall_mem_cons, List.forall_mem_append, List.forall_mem_append]
  exact ⟨⟨_, rfl, .value _⟩, ⟨hpath.isField .noPath .path, hdisabled.isField .notDisabled .disabled⟩,
    hselector.isField .noSelector .selector⟩

/-- Each field is found in its own part of the entries. -/
theorem ofEntries_eq (h : SpellsEntries r es) :
    (Fields.ofEntries es).value = some r.value ∧ (Fields.ofEntries es).path.join = r.path ∧
      (Fields.ofEntries es).disabled.join = r.disabled ∧
      (Fields.ofEntries es).selector.join = r.selector := by
  obtain @⟨path, disabled, selector, hpath, hdisabled, hselector⟩ := h
  have hfound : ∀ key, key ≠ "value" →
      Entries.get? ((.string "value", r.value) :: (path ++ disabled ++ selector)) key =
        ((path.get? key).or (disabled.get? key)).or (selector.get? key) := by
    intro key hkey
    rw [Entries.get?, if_neg (by simpa using hkey.symm), Entries.get?_append, Entries.get?_append]
  have hpathFound := hfound "path" (by decide)
  have hdisabledFound := hfound "disabled" (by decide)
  have hselectorFound := hfound "selector" (by decide)
  simp only [hpath.get?_of_ne, hdisabled.get?_of_ne, hselector.get?_of_ne, ne_eq, String.reduceEq,
    not_false_eq_true, Option.or_none, Option.none_or] at hpathFound hdisabledFound hselectorFound
  simp only [Fields.ofEntries, hpathFound, hdisabledFound, hselectorFound]
  exact ⟨rfl, hpath.read (g := .string) (fun _ => rfl) rfl, hdisabled.read (g := .bool) (fun _ => rfl) rfl,
    hselector.read (g := .string) (fun _ => rfl) rfl⟩

end SpellsEntries

theorem shape?_isSpelling {r : Record} {v : Value} (h : IsSpelling r v) :
    ∃ es, shape? v = some (r.value, es) ∧ ofEntries r.value es = .ok r := by
  obtain ⟨es, fs, hv, hes, hfs⟩ := h
  have hnodup : (es.map Prod.fst).Nodup := (hes.map Prod.fst).nodup_iff.2 hfs.nodup
  have hfields : ∀ e ∈ es, ∃ key, e.1 = .string key ∧ IsField key e.2 := fun e he =>
    hfs.isField e (hes.mem_iff.1 he)
  obtain ⟨hvalue, hpath, hdisabled, hselector⟩ := hfs.ofEntries_eq
  rw [← Fields.ofEntries_perm hes hfs.nodup] at hvalue hpath hdisabled hselector
  have hget : Entries.get? es "value" = some r.value := hvalue
  refine ⟨es, ?_, ?_⟩
  · rw [shape?, Yaml.Value.asMapping?_iff.2 hv]
    simp [hget]
  · rw [ofEntries, foldlM_addField hnodup hfields]
    simp only [bind, Except.bind]
    rw [hvalue, hpath, hdisabled, hselector]
    rfl

/-- **A record is read from each mapping that spells it.** -/
theorem ofValue_isSpelling (kind : RuleKind) {r : Record} {v : Value} (h : IsSpelling r v) :
    ofValue kind v = .ok r := by
  obtain ⟨es, hshape, hr⟩ := shape?_isSpelling h
  unfold ofValue
  rw [hshape]
  simp only [hr]
  rfl

theorem isShaped_isSpelling {r : Record} {v : Value} (h : IsSpelling r v) : isShaped v = true := by
  obtain ⟨es, hshape, -⟩ := shape?_isSpelling h
  rw [isShaped, hshape]
  rfl

/-! ### Bare values -/

/-- Whether a value is a mapping with a value key, tags aside. -/
def HasValueKey (v : Value) : Prop :=
  ∃ (es : Entries) (w : Value), v.untag = .mapping es ∧ (.string "value", w) ∈ es

theorem isShaped_iff {v : Value} : isShaped v = true ↔ HasValueKey v := by
  unfold isShaped shape? HasValueKey
  simp only [Option.isSome_iff_exists, Option.bind_eq_bind, Option.bind_eq_some_iff,
    Yaml.Value.asMapping?_iff]
  constructor
  · rintro ⟨_, es, hv, w, hw, -⟩
    exact ⟨es, w, hv, Entries.mem_of_get? hw⟩
  · rintro ⟨es, w, hv, hw⟩
    cases hget : es.get? "value" with
    | none => exact absurd hw (Entries.get?_eq_none_iff.1 hget w)
    | some u => exact ⟨_, es, hv, u, hget, rfl⟩

/-- Whether a value spells a record as it stands: the record has no conditions, and the value is not
one that describes a record itself. -/
def IsBare (r : Record) (v : Value) : Prop := r = .bare v ∧ ¬HasValueKey v

theorem ofValue_isBare (kind : RuleKind) {r : Record} {v : Value} (h : IsBare r v) :
    ofValue kind v = .ok r := by
  obtain ⟨rfl, hv⟩ := h
  have hshape : shape? v = none := by
    rw [← Option.not_isSome_iff_eq_none]
    exact fun hs => hv (isShaped_iff.1 hs)
  unfold ofValue
  rw [hshape]
  rfl

/-! ### Lists of records -/

/-- The ways to write some records: as a list, in which all but the first may be bare, or, if there is
one only, as it is. A bare value that stands alone may not begin with what describes a record. -/
inductive AreWritten : List Record → Value → Prop
  | list {r : Record} {v : Value} {rs : List Record} {vs : List Value} : IsSpelling r v →
      List.Forall₂ (fun r v => IsSpelling r v ∨ IsBare r v) rs vs →
      AreWritten (r :: rs) (.sequence (v :: vs))
  | single {r : Record} {v : Value} : IsSpelling r v → AreWritten [r] v
  | bare {r : Record} {v : Value} : IsBare r v →
      (∀ w ws, v = .sequence (w :: ws) → ¬HasValueKey w) → AreWritten [r] v

/-- A value that does not begin with what describes a record stands for one record. -/
theorem written_alone {v : Value} (h : ∀ w ws, v = .sequence (w :: ws) → ¬HasValueKey w) :
    written (some v) = [v] := by
  cases v with
  | sequence items =>
    cases items with
    | nil => rfl
    | cons w ws =>
      have hw : ¬isShaped w = true := fun hs => h w ws rfl (isShaped_iff.1 hs)
      exact if_neg hw
  | _ => rfl

/-- Records are read from every way to write them. -/
theorem listOf_areWritten (kind : RuleKind) {rs : List Record} {v : Value} (h : AreWritten rs v) :
    listOf kind v = .ok rs := by
  rw [listOf_written]
  cases h with
  | @list r v rs vs hr hrs =>
    have hhead : (v :: vs).head?.any isShaped = true := isShaped_isSpelling hr
    rw [written_sequence hhead]
    refine mapM_eq_ok.2 (.cons (ofValue_isSpelling kind hr) (.flip (hrs.imp fun _ _ h => ?_)))
    exact h.elim (ofValue_isSpelling kind) (ofValue_isBare kind)
  | single hr =>
    have halone : ∀ w ws, v = .sequence (w :: ws) → ¬HasValueKey w := by
      rintro w ws rfl
      obtain ⟨es, _, hes, -⟩ := hr
      cases hes
    rw [written_alone halone]
    exact mapM_eq_ok.2 (.cons (ofValue_isSpelling kind hr) .nil)
  | bare hr halone =>
    rw [written_alone halone]
    exact mapM_eq_ok.2 (.cons (ofValue_isBare kind hr) .nil)

/-- Every entry holds a value for one record at least. -/
theorem written_ne_nil (raw : Value) : written (some raw) ≠ [] := by
  cases raw with
  | sequence items =>
    rw [written]
    split
    · rename_i hs
      rintro rfl
      cases hs
    · exact List.cons_ne_nil _ _
  | _ => exact List.cons_ne_nil _ _

/-- Every entry that is read gives one record at least. -/
theorem listOf_ne_nil {kind : RuleKind} {raw : Value} {rs : List Record} (h : listOf kind raw = .ok rs) :
    rs ≠ [] := by
  rintro rfl
  rw [listOf_written, mapM_eq_ok] at h
  exact written_ne_nil raw (List.forall₂_nil_right_iff.1 h)

/-- A record as a mapping of all its fields, those that are absent being null. -/
def writtenOut (r : Record) : Value :=
  .mapping [(.string "value", r.value), (.string "path", (r.path.map .string).getD .null),
    (.string "disabled", (r.disabled.map .bool).getD .null),
    (.string "selector", (r.selector.map .string).getD .null)]

theorem isSpelling_writtenOut (r : Record) : IsSpelling r r.writtenOut := by
  have hfield : ∀ (key : String) (o : Option Value),
      SpellsField key o [(.string key, o.getD .null)] := by
    intro key o
    cases o with
    | none => exact .null
    | some v => exact .written v
  exact ⟨_, _, rfl, .refl _, .fields (hfield _ _) (hfield _ _) (hfield _ _)⟩

theorem areWritten_writtenOut {rs : List Record} (h : rs ≠ []) :
    AreWritten rs (.sequence (rs.map writtenOut)) := by
  obtain ⟨r, rs, rfl⟩ := List.exists_cons_of_ne_nil h
  refine .list (isSpelling_writtenOut r) ?_
  rw [List.forall₂_map_right_iff]
  exact List.forall₂_same.2 fun r _ => .inl (isSpelling_writtenOut r)

/-- **Records are read from every way to write them.** So records that were read from some entry are read
again when they are written out. -/
theorem normalize_written (kind : RuleKind) :
    (∀ rs v, AreWritten rs v → normalize kind (some v) = .ok (some rs)) ∧
    ∀ raw rs, normalize kind raw = .ok (some rs) →
      AreWritten rs (.sequence (rs.map writtenOut)) ∧
        normalize kind (some (.sequence (rs.map writtenOut))) = .ok (some rs) := by
  have hread : ∀ rs v, AreWritten rs v → normalize kind (some v) = .ok (some rs) := by
    intro rs v h
    rw [normalize, listOf_areWritten kind h]
    rfl
  -- only the empty list is written in no way, and it is never read
  refine ⟨hread, fun raw rs h => ?_⟩
  have hne : rs ≠ [] := by
    cases raw with
    | none => cases h
    | some raw =>
      obtain ⟨rs', hrs', h⟩ := bind_eq_ok.1 h
      obtain rfl := Option.some.inj (pure_eq_ok.1 h)
      exact listOf_ne_nil hrs'
  exact ⟨areWritten_writtenOut hne, hread _ _ (areWritten_writtenOut hne)⟩

/-- Three records in three ways: a tagged mapping with a null field, a bare sequence, and a mapping whose
value comes last. -/
def mixedEntry : Value :=
  .sequence [
    .tagged "t" (.mapping [(.string "path", .null), (.string "value", .string "a"),
      (.string "disabled", .bool true)]),
    .sequence [.mapping [(.string "value", .string "b")]],
    .mapping [(.string "selector", .string "p"), (.string "value", .null)]]

/-- The three records are read, and read again when they are written out. -/
theorem normalize_written_mixedEntry :
    let rs : List Record := [⟨.string "a", none, some true, none⟩,
      .bare (.sequence [.mapping [(.string "value", .string "b")]]), ⟨.null, none, none, some "p"⟩]
    AreWritten rs mixedEntry ∧ normalize .sanitization (some mixedEntry) = .ok (some rs) ∧
      normalize .sanitization (some (.sequence (rs.map writtenOut))) = .ok (some rs) := by
  intro rs
  have hdisabled : SpellsEntries ⟨.string "a", none, some true, none⟩ _ :=
    .fields .null (.written _) .leftOut
  have hfirst : IsSpelling ⟨.string "a", none, some true, none⟩
      (.tagged "t" (.mapping [(.string "path", .null), (.string "value", .string "a"),
        (.string "disabled", .bool true)])) := ⟨_, _, rfl, .swap _ _ _, hdisabled⟩
  have hselector : SpellsEntries ⟨.null, none, none, some "p"⟩ _ :=
    .fields .leftOut .leftOut (.written _)
  have hlast : IsSpelling ⟨.null, none, none, some "p"⟩
      (.mapping [(.string "selector", .string "p"), (.string "value", .null)]) :=
    ⟨_, _, rfl, .swap _ _ _, hselector⟩
  have hbare : IsBare (.bare (.sequence [.mapping [(.string "value", .string "b")]]))
      (.sequence [.mapping [(.string "value", .string "b")]]) :=
    ⟨rfl, fun ⟨_, _, h, _⟩ => by cases h⟩
  have hwritten : AreWritten rs mixedEntry :=
    .list hfirst (.cons (.inr hbare) (.cons (.inl hlast) .nil))
  have hread := (normalize_written .sanitization).1 rs mixedEntry hwritten
  exact ⟨hwritten, hread, ((normalize_written .sanitization).2 _ rs hread).2⟩

end Record

end HtmlCanon
