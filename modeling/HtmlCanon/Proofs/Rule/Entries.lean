import HtmlCanon.Proofs.Edit.Plan
import HtmlCanon.Rule.Keys

/-!
# Entries of mappings

What is found under a key of a mapping, and which mappings have allowed keys only.

* `Entries.get?_eq_some_iff`, `Entries.get?_perm` : when no key comes twice, an entry is found wherever
  it stands.
* `checkKeys_ok_iff` : a mapping passes when each of its keys is an allowed string, tags aside.
-/

namespace HtmlCanon

open Yaml (Value Entries)

namespace Yaml

/-! ### What is found under a key -/

namespace Value

/-- Whether a value is a key: the string itself, without a tag. -/
def isKey (key : String) : Value → Bool
  | .string s => s == key
  | _ => false

theorem isKey_iff {k : Value} {key : String} : k.isKey key = true ↔ k = .string key := by
  cases k <;> simp [isKey]

/-- A string is a key of its own only. -/
theorem isKey_of_ne {k : Value} {key other : String} (h : k.isKey key = true) (hne : other ≠ key) :
    k.isKey other = false := by
  rw [isKey_iff] at h
  subst h
  simpa [isKey] using hne.symm

end Value

namespace Entries

variable {es fs : Entries} {key : String} {v : Value}

theorem get?_cons (k v : Value) (es : Entries) (key : String) :
    Entries.get? ((k, v) :: es) key = if k.isKey key then some v else es.get? key := by
  cases k with
  | string s => rfl
  | _ => rfl

theorem get?_append (es fs : Entries) (key : String) :
    Entries.get? (es ++ fs) key = (es.get? key).or (fs.get? key) := by
  induction es with
  | nil => rfl
  | cons e es ih =>
    rw [List.cons_append, get?_cons, get?_cons]
    split
    · rfl
    · exact ih

theorem mem_of_get? (h : es.get? key = some v) : (.string key, v) ∈ es := by
  induction es with
  | nil => cases h
  | cons e es ih =>
    obtain ⟨k, w⟩ := e
    rw [get?_cons] at h
    split at h
    · rename_i hk
      obtain rfl := Option.some.inj h
      rw [Value.isKey_iff.1 hk]
      exact List.mem_cons_self
    · exact List.mem_cons_of_mem _ (ih h)

/-- A key is missing when no entry has it. -/
theorem get?_eq_none_iff : es.get? key = none ↔ ∀ v, (.string key, v) ∉ es := by
  constructor
  · intro h v hv
    obtain ⟨before, after, rfl⟩ := List.append_of_mem hv
    rw [get?_append, get?_cons, if_pos (Value.isKey_iff.2 rfl), Option.or_eq_none_iff] at h
    cases h.2
  · intro h
    cases hget : es.get? key with
    | none => rfl
    | some v => exact absurd (mem_of_get? hget) (h v)

/-- **An entry is found** under its key, when no key comes twice. -/
theorem get?_eq_some_iff (h : (es.map Prod.fst).Nodup) :
    es.get? key = some v ↔ (.string key, v) ∈ es := by
  refine ⟨mem_of_get?, fun hv => ?_⟩
  cases hget : es.get? key with
  | none => exact absurd hv (get?_eq_none_iff.1 hget v)
  | some w =>
    have heq : (Value.string key, w) = (.string key, v) :=
      List.inj_on_of_nodup_map h (mem_of_get? hget) hv rfl
    rw [(Prod.mk.inj heq).2]

/-- **The order of entries does not matter** when no key comes twice. -/
theorem get?_perm (hp : es.Perm fs) (h : (fs.map Prod.fst).Nodup) (key : String) :
    es.get? key = fs.get? key := by
  have hes : (es.map Prod.fst).Nodup := (hp.map Prod.fst).nodup_iff.2 h
  ext v
  rw [get?_eq_some_iff hes, get?_eq_some_iff h, hp.mem_iff]

end Entries

/-! ### How values look in messages -/

/-- Whether a string starts with a capital letter. -/
def isCapitalized (s : String) : Bool := s.toList.head?.any Char.isUpper

theorem isCapitalized_append {s : String} (h : isCapitalized s = true) (t : String) :
    isCapitalized (s ++ t) = true := by
  unfold isCapitalized at h ⊢
  rw [String.toList_append, List.head?_append]
  cases hs : s.toList.head? with
  | none => rw [hs] at h; cases h
  | some c => rwa [hs] at h

/-- What a value looks like in a message starts with a capital letter. -/
theorem Value.isCapitalized_describe (v : Value) : isCapitalized v.describe = true := by
  cases v with
  | null => decide
  | bool b => exact isCapitalized_append (isCapitalized_append (by decide) _) _
  | number n => exact isCapitalized_append (isCapitalized_append (by decide) _) _
  | string s => exact isCapitalized_append (isCapitalized_append (by decide) _) _
  | sequence vs => exact isCapitalized_append (isCapitalized_append (by decide) _) _
  | mapping es => exact isCapitalized_append (isCapitalized_append (by decide) _) _
  | tagged t v =>
    have h : isCapitalized "TaggedValue \x7b tag: !" = true := by decide
    exact isCapitalized_append (isCapitalized_append (isCapitalized_append
      (isCapitalized_append h t) _) _) _

end Yaml

/-! ### Allowed keys -/

variable {kind : RuleKind} {allowed : List String} {es : Entries}

theorem checkKeys_ok_iff_keyName :
    checkKeys kind allowed es = .ok () ↔ ∀ e ∈ es, keyName e.1 ∈ allowed := by
  unfold checkKeys strayKey?
  rw [List.find?_map]
  cases hfind : es.find? ((fun k => !allowed.contains k) ∘ fun e => keyName e.1) with
  | none =>
    rw [List.find?_eq_none] at hfind
    exact iff_of_true rfl fun e he => by simpa using hfind e he
  | some e =>
    have he : keyName e.1 ∉ allowed := by simpa using List.find?_some hfind
    exact iff_of_false throw_ne_ok fun h => he (h e (List.mem_of_find?_eq_some hfind))

/-- A key that is no string has no allowed name, since these are in small letters. -/
theorem keyName_mem_iff (hsmall : ∀ a ∈ allowed, Yaml.isCapitalized a = false) {k : Value} :
    keyName k ∈ allowed ↔ ∃ a ∈ allowed, k.untag = .string a := by
  unfold keyName
  cases hk : k.asString? with
  | some a =>
    rw [Yaml.Value.asString?_iff] at hk
    simp [hk]
  | none =>
    have hno : ∀ a, k.untag ≠ .string a := fun a ha => by
      rw [Yaml.Value.asString?_iff.2 ha] at hk
      cases hk
    refine iff_of_false (fun hmem => ?_) fun ⟨a, _, ha⟩ => hno a ha
    have hcapital := hsmall _ hmem
    rw [Option.getD_none, k.isCapitalized_describe] at hcapital
    cases hcapital

/-- **A mapping passes** when each of its keys is one of the allowed strings, tags aside. -/
theorem checkKeys_ok_iff (hsmall : ∀ a ∈ allowed, Yaml.isCapitalized a = false) :
    checkKeys kind allowed es = .ok () ↔ ∀ e ∈ es, ∃ a ∈ allowed, e.1.untag = .string a := by
  rw [checkKeys_ok_iff_keyName]
  exact forall₂_congr fun e _ => keyName_mem_iff hsmall

end HtmlCanon
