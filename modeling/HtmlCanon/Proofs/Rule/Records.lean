import HtmlCanon.Pipeline
import HtmlCanon.Proofs.Fault

/-!
# The records of a kind

The entry of a kind is taken apart into the values that stand for its records, each of them is read,
and of the records those are picked that apply to a run.

* `Config.applicable_eq` : the three steps, one after the other.
* `Record.applicable_filter` : the picked records are a part of the records that were read, in order.
* `Config.settle_eq_ok` : what the rules come from that are settled for a run.
* `Config.canonicalize_of_settle_eq` : a run depends on the rules that are settled for it.
-/

namespace HtmlCanon

open Yaml (Value)

namespace Record

/-- The values that stand for the records of a kind, given its entry in a configuration. -/
def written : Option Value → List Value
  | none => []
  | some (.sequence items) => if items.head?.any isShaped then items else [.sequence items]
  | some raw => [raw]

theorem written_sequence {items : List Value} (h : items.head?.any isShaped = true) :
    written (some (.sequence items)) = items := by
  rw [written, if_pos h]

theorem listOf_written (kind : RuleKind) (raw : Value) :
    listOf kind raw = (written (some raw)).mapM (ofValue kind) := by
  cases raw with
  | sequence items =>
    simp only [listOf, written]
    split
    · rfl
    · rw [List.mapM_cons, List.mapM_nil]
      rfl
  | _ =>
    simp only [listOf, written, List.mapM_cons, List.mapM_nil]
    rfl

/-- Whether a record applies to a run, a pattern that cannot be compiled counting as no. -/
def isFor (o : Options) (r : Record) : Bool := (r.applies o).toOption.getD false

theorem isFor_of_applies {o : Options} {r : Record} {b : Bool} (h : r.applies o = .ok b) :
    r.isFor o = b := by
  rw [isFor, h]
  rfl

/-- **The picked records** are a part of all records, if it can be told of each whether it applies. -/
theorem applicable_filter {o : Options} {rs : List Record}
    (h : ∀ r ∈ rs, ∃ b, r.applies o = .ok b) : applicable o rs = .ok (rs.filter (isFor o)) := by
  induction rs with
  | nil => rfl
  | cons r rs ih =>
    obtain ⟨b, hb⟩ := h r List.mem_cons_self
    have hrest := ih fun r' hr' => h r' (List.mem_cons_of_mem _ hr')
    rw [applicable, hb, hrest, List.filter_cons, isFor_of_applies hb]
    cases b <;> rfl

end Record

namespace Config

/-- **The records that apply to a run**: the entry is taken apart, its parts are read, and records
are picked. -/
theorem applicable_eq (c : Config) (k : RuleKind) (o : Options) :
    c.applicable k o =
      (Record.written (c.raw? k)).mapM (Record.ofValue k) >>= Record.applicable o := by
  unfold applicable records Record.normalize
  cases c.raw? k with
  | none => rfl
  | some raw =>
    simp only [Record.listOf_written]
    cases (Record.written (some raw)).mapM (Record.ofValue k) <;> rfl

/-- What rules that are settled come from, kind by kind. -/
theorem settle_eq_ok {c : Config} {o : Options} {s : Settled} (h : c.settle o = .ok s) :
    c.wantsSpacing o = .ok s.removeSpacing ∧ c.selectorFor o = .ok s.selector ∧
      (∃ rs, c.applicable .regions o = .ok rs ∧ s.regions = rs.head?.map Record.value) ∧
      (∃ rs, c.applicable .domTransform o = .ok rs ∧ Transform.ofRecords rs = .ok s.transforms) ∧
      ∃ rs, c.applicable .sanitization o = .ok rs ∧ TextRules.ofRecords rs = .ok s.textRules := by
  unfold settle at h
  obtain ⟨b, hb, h⟩ := bind_eq_ok.1 h
  obtain ⟨x, hx, h⟩ := bind_eq_ok.1 h
  obtain ⟨rs, hrs, h⟩ := bind_eq_ok.1 h
  obtain ⟨ts, hts, h⟩ := bind_eq_ok.1 h
  obtain ⟨us, hus, h⟩ := bind_eq_ok.1 h
  obtain ⟨vs, hvs, h⟩ := bind_eq_ok.1 h
  obtain ⟨ws, hws, h⟩ := bind_eq_ok.1 h
  obtain rfl := pure_eq_ok.1 h
  exact ⟨hb, hx, ⟨rs, hrs, rfl⟩, ⟨ts, hts, hus⟩, ⟨vs, hvs, hws⟩⟩

/-- Rules that are settled alike give the same page when the same regions are asked for. -/
theorem canonicalize_of_settle_eq {c d : Config} {o p : Options} (hs : d.settle p = c.settle o)
    (ho : p.output = o.output) (html : Text) : d.canonicalize p html = c.canonicalize o html := by
  have hedit : ∀ (s : Settled) (q : Page), s.edit p q = s.edit o q := by
    intro s q
    unfold Settled.edit Settled.reroot
    rw [ho]
  unfold canonicalize
  simp only [hs, hedit]

end Config

end HtmlCanon
