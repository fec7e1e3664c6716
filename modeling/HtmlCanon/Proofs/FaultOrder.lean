import HtmlCanon.Proofs.Rule.Records
import Mathlib.Data.List.Basic

/-!
# Which fault a run reports

A run stops at the first thing that is wrong. The faults of a configuration for a run are listed here
in the order in which they come to light, all of them and without a look at any page: kind by kind
the faults of the records, then the selectors that cannot be compiled.

* `ReadsByPart.first` : a value of a rule is read part by part.
* `Config.settle_first` : the faults of all rules.
* `Settled.edit_first` : the faults of all selectors, none of which is passed over because the page
  has become empty or has been replaced.
* `Config.canonicalize_faults` : **a run reports the first fault of the list on every page**, or it
  succeeds on every page.
-/

namespace HtmlCanon

open Yaml (Value)

/-! ### Values of rules, part by part -/

mutual

/-- The parts of the value of a rule that are read one by one: a sequence that starts with a sequence
or a mapping groups others. -/
def ruleParts : Value → List Value
  | .sequence items =>
    if items.isEmpty then []
    else if items.head?.any Transform.isGroup then rulePartsOf items
    else [.sequence items]
  | .tagged _ v => ruleParts v
  | v => [v]

/-- The parts of the items of a sequence. -/
def rulePartsOf : List Value → List Value
  | [] => []
  | v :: vs => ruleParts v ++ rulePartsOf vs

end

/-- A way to read a value of a rule that reads a group item by item and looks through tags. -/
structure ReadsByPart {α : Type} (read : Value → Except Fault (List α))
    (readItems : List Value → Except Fault (List α)) : Prop where
  empty : read (.sequence []) = pure []
  group : ∀ items, items.head?.any Transform.isGroup = true → read (.sequence items) = readItems items
  tagged : ∀ t v, read (.tagged t v) = read v
  nil : readItems [] = pure []
  cons : ∀ v vs, readItems (v :: vs) = do let ts ← read v; pure (ts ++ (← readItems vs))

namespace ReadsByPart

variable {α : Type} {read : Value → Except Fault (List α)}
  {readItems : List Value → Except Fault (List α)}

/-- The faults of the parts of a value. -/
def faults (read : Value → Except Fault (List α)) (vs : List Value) : List Fault :=
  vs.filterMap fun v => faultOf (read v)

theorem first_single {v : Value} (h : ruleParts v = [v]) :
    FailsFirst (faults read (ruleParts v)) (read v) := by
  have hone : faults read (ruleParts v) = (faultOf (read v)).toList := by
    rw [faults, h, List.filterMap_eq_flatMap_toList]
    simp
  rw [hone]
  exact .self _

mutual

/-- **A value of a rule is read part by part**, and fails with the fault of the first part that has
one. -/
theorem first (h : ReadsByPart read readItems) (v : Value) :
    FailsFirst (faults read (ruleParts v)) (read v) := by
  cases v with
  | sequence items =>
    by_cases hempty : items = []
    · subst hempty
      rw [h.empty]
      exact .pure []
    by_cases hgroup : items.head?.any Transform.isGroup = true
    · have hitems := firstItems h items
      rw [ruleParts, if_neg (by simpa using hempty), if_pos hgroup, h.group items hgroup]
      exact hitems
    · exact first_single (by rw [ruleParts, if_neg (by simpa using hempty), if_neg hgroup])
  | tagged t v =>
    have hv := first h v
    rw [ruleParts, h.tagged]
    exact hv
  | null => exact first_single (by simp [ruleParts])
  | bool b => exact first_single (by simp [ruleParts])
  | number n => exact first_single (by simp [ruleParts])
  | string s => exact first_single (by simp [ruleParts])
  | mapping es => exact first_single (by simp [ruleParts])

theorem firstItems (h : ReadsByPart read readItems) (vs : List Value) :
    FailsFirst (faults read (rulePartsOf vs)) (readItems vs) := by
  cases vs with
  | nil =>
    rw [h.nil]
    exact .pure []
  | cons v vs =>
    rw [rulePartsOf, faults, List.filterMap_append, h.cons]
    exact (first h v).bind fun ts _ => (firstItems h vs).map _

end

end ReadsByPart

namespace Transform

theorem readsByPart : ReadsByPart ofValue ofItems where
  empty := by rw [ofValue]; rfl
  group items h := by
    have hne : ¬items.isEmpty = true := by
      cases items with
      | nil => cases h
      | cons v vs => simp
    rw [ofValue, if_neg hne, if_pos h]
  tagged t v := by rw [ofValue]
  nil := by rw [ofItems]
  cons v vs := by rw [ofItems]

/-- **The transforms of some records** are read record by record, and part by part in each. -/
theorem ofRecords_first (rs : List Record) :
    FailsFirst (rs.flatMap fun r => ReadsByPart.faults ofValue (ruleParts r.value))
      (ofRecords rs) := by
  induction rs with
  | nil => exact .pure []
  | cons r rs ih =>
    rw [List.flatMap_cons, ofRecords]
    exact (readsByPart.first r.value).bind fun ts _ => ih.map _

end Transform

namespace TextRule

theorem readsByPart : ReadsByPart pairsOf pairsOfItems where
  empty := by rw [pairsOf]; rfl
  group items h := by
    have hne : ¬items.isEmpty = true := by
      cases items with
      | nil => cases h
      | cons v vs => simp
    rw [pairsOf, if_neg hne, if_pos h]
  tagged t v := by rw [pairsOf]
  nil := by rw [pairsOfItems]
  cons v vs := by rw [pairsOfItems]

/-- The faults of the patterns of some pairs. -/
def patternFaults (ps : List Pair) : List Fault := ps.filterMap fun p => faultOf (compilePattern p.1)

/-- The faults of a record: those of its pairs, and after them those of their patterns. -/
def faultsOf (r : Record) : List Fault :=
  ReadsByPart.faults pairsOf (ruleParts r.value) ++
    patternFaults ((pairsOf r.value).toOption.getD [])

/-- **The rules of a record**: all its pairs are read before the first pattern is compiled. -/
theorem ofRecord_first (r : Record) : FailsFirst (faultsOf r) (ofRecord r) := by
  refine (readsByPart.first r.value).bind fun ps hps => ?_
  -- patterns have faults to report only if all pairs were read
  rw [hps, patternFaults, List.filterMap_eq_flatMap_toList]
  exact .mapM fun p _ => (FailsFirst.self _).map _

/-- The text rules of some records are read record by record. -/
theorem ofRecords_first (rs : List Record) : FailsFirst (rs.flatMap faultsOf) (ofRecords rs) := by
  induction rs with
  | nil => exact .pure []
  | cons r rs ih =>
    rw [List.flatMap_cons, ofRecords]
    exact (ofRecord_first r).bind fun ts _ => ih.map _

end TextRule

/-! ### Records -/

namespace Record

/-- The fault of the pattern of a record for paths, if the record is not disabled and the path of the
page is known. -/
def pathFault? (o : Options) (r : Record) : Option Fault :=
  match r.isDisabled, r.path, o.path with
  | false, some p, some _ => faultOf (compilePath p)
  | _, _, _ => none

theorem applies_first (o : Options) (r : Record) :
    FailsFirst (r.pathFault? o).toList (r.applies o) := by
  unfold applies pathFault?
  cases r.isDisabled with
  | true => exact .pure false
  | false =>
    match r.path, o.path with
    | none, _ => exact .pure true
    | some _, none => exact .pure true
    | some p, some _ => exact (FailsFirst.self (compilePath p)).map _

theorem applicable_first (o : Options) (rs : List Record) :
    FailsFirst (rs.filterMap (pathFault? o)) (applicable o rs) := by
  rw [List.filterMap_eq_flatMap_toList]
  induction rs with
  | nil => exact .pure []
  | cons r rs ih =>
    rw [List.flatMap_cons, applicable]
    exact (applies_first o r).bind fun yes _ => ih.map _

end Record

namespace Config

variable (c : Config) (o : Options)

/-- The records of a kind as they are read, or none if one of them cannot be read. -/
def readRecords (k : RuleKind) : List Record :=
  ((Record.written (c.raw? k)).mapM (Record.ofValue k)).toOption.getD []

/-- The faults of the records of a kind: first those of the records themselves, then those of their
patterns for paths. -/
def recordFaults (k : RuleKind) : List Fault :=
  (Record.written (c.raw? k)).filterMap (fun v => faultOf (Record.ofValue k v)) ++
    (c.readRecords k).filterMap (Record.pathFault? o)

theorem applicable_first (k : RuleKind) : FailsFirst (c.recordFaults o k) (c.applicable k o) := by
  rw [applicable_eq, recordFaults, List.filterMap_eq_flatMap_toList]
  refine (FailsFirst.mapM fun v _ => .self _).bind fun rs hrs => ?_
  have hread : c.readRecords k = rs := by rw [readRecords, hrs]; rfl
  rw [hread]
  exact Record.applicable_first o rs

/-- The records of a kind that apply, or none if they cannot be told. -/
def picked (k : RuleKind) : List Record := (c.applicable k o).toOption.getD []

theorem picked_of_applicable {k : RuleKind} {rs : List Record} (h : c.applicable k o = .ok rs) :
    c.picked o k = rs := by
  rw [picked, h]
  rfl

/-- The fault of a kind of which at most one record may apply. -/
def crowdFaults (k : RuleKind) : List Fault :=
  if 1 < (c.picked o k).length then [.ambiguous k] else []

theorem single_first (k : RuleKind) :
    FailsFirst (c.recordFaults o k ++ c.crowdFaults o k) (c.single k o) := by
  refine (c.applicable_first o k).bind fun rs hrs => ?_
  rw [crowdFaults, c.picked_of_applicable o hrs]
  match rs with
  | [] => exact .pure none
  | [r] => exact .pure (some r)
  | _ :: _ :: _ => exact rfl

/-- The only record of a kind that applies. -/
theorem picked_of_single {k : RuleKind} {r : Option Record} (h : c.single k o = .ok r) :
    c.picked o k = r.toList := by
  obtain ⟨rs, hrs, h⟩ := bind_eq_ok.1 h
  rw [c.picked_of_applicable o hrs]
  match rs, h with
  | [], h => rw [← pure_eq_ok.1 h]; rfl
  | [_], h => rw [← pure_eq_ok.1 h]; rfl
  | _ :: _ :: _, h => exact absurd h throw_ne_ok

/-- The fault of the value of a selector rule, which is null or a string. -/
def selectorFault? : Value → Option Fault
  | .null => none
  | .string _ => none
  | v => some (.invalidRule .selector (.selectorValue v))

theorem selectorOf_first (v : Value) : FailsFirst (selectorFault? v).toList (selectorOf v) := by
  cases v with
  | null => exact .pure none
  | string s => exact .pure _
  | _ => exact rfl

theorem selectorFor_first :
    FailsFirst (c.recordFaults o .selector ++ c.crowdFaults o .selector ++
      (c.picked o .selector).filterMap fun r => selectorFault? r.value) (c.selectorFor o) := by
  refine (c.single_first o .selector).bind fun r hr => ?_
  rw [c.picked_of_single o hr, List.filterMap_eq_flatMap_toList]
  cases r with
  | none => exact .pure none
  | some r =>
    rw [Option.toList_some, List.flatMap_singleton]
    exact selectorOf_first r.value

/-- **The faults of the rules for a run**, in the order in which they come to light. -/
def settleFaults : List Fault :=
  c.recordFaults o .removeSpacing ++ c.crowdFaults o .removeSpacing ++
  c.recordFaults o .selector ++ c.crowdFaults o .selector ++
  (c.picked o .selector).filterMap (fun r => selectorFault? r.value) ++
  c.recordFaults o .regions ++
  c.recordFaults o .domTransform ++
  (c.picked o .domTransform).flatMap
    (fun r => ReadsByPart.faults Transform.ofValue (ruleParts r.value)) ++
  c.recordFaults o .sanitization ++
  (c.picked o .sanitization).flatMap TextRule.faultsOf

/-- **Rules are settled up to the first fault.** -/
theorem settle_first : FailsFirst (c.settleFaults o) (c.settle o) := by
  unfold settleFaults settle
  simp only [List.append_assoc]
  rw [← List.append_assoc, ← List.append_assoc (c.recordFaults o .selector),
    ← List.append_assoc (c.recordFaults o .selector ++ c.crowdFaults o .selector)]
  refine ((c.single_first o .removeSpacing).map _).bind fun b _ => ?_
  refine (c.selectorFor_first o).bind fun s _ => ?_
  refine (c.applicable_first o .regions).bind fun rs _ => ?_
  refine (c.applicable_first o .domTransform).bind fun ts hts => ?_
  rw [c.picked_of_applicable o hts]
  refine (Transform.ofRecords_first ts).bind fun us _ => ?_
  refine (c.applicable_first o .sanitization).bind fun vs hvs => ?_
  rw [c.picked_of_applicable o hvs]
  exact ((TextRule.ofRecords_first vs).map _).map _

end Config

/-! ### Selectors -/

/-- The faults of some selectors. -/
def selectorFaults (ss : List String) : List Fault := ss.filterMap fun s => faultOf (compileSelector s)

theorem selectorFaults_append (ss ts : List String) :
    selectorFaults (ss ++ ts) = selectorFaults ss ++ selectorFaults ts := List.filterMap_append

theorem selectorFaults_map {α : Type} (f : α → String) (as : List α) :
    selectorFaults (as.map f) = as.flatMap fun a => (faultOf (compileSelector (f a))).toList := by
  rw [selectorFaults, List.filterMap_map, List.filterMap_eq_flatMap_toList]
  rfl

namespace Settled

variable (s : Settled) (o : Options)

/-- The selectors that say what is kept of a page: those of the planned regions in the order in which
they are put out, or else the one of the selector rule. -/
def rootSelectors : List String :=
  match Region.plan s.regions o.output with
  | .ok plan => plan.map Region.selector
  | .error _ => s.selector.toList

/-- All selectors of a run, in the order in which they are compiled. -/
def selectors : List String :=
  s.rootSelectors o ++ s.transforms.map Transform.selector ++
    s.textRules.inElements.filterMap TextRule.selector

theorem reroot_first (p : Page) : FailsFirst (selectorFaults (s.rootSelectors o)) (s.reroot o p) := by
  unfold rootSelectors reroot
  cases Region.plan s.regions o.output with
  | ok plan =>
    rw [selectorFaults_map]
    exact (FailsFirst.foldlM (fun c r => (FailsFirst.self _).map _) _ plan).map _
  | error e =>
    cases s.selector with
    | none => exact .pure p
    | some t =>
      rw [Option.toList_some, selectorFaults, List.filterMap_eq_flatMap_toList, List.flatMap_singleton]
      exact (FailsFirst.self _).map _

theorem transformAll_first (ts : List Transform) (p : Page) :
    FailsFirst (selectorFaults (ts.map Transform.selector)) (p.transformAll ts) := by
  rw [selectorFaults_map]
  exact .foldlM (fun q t => (FailsFirst.self _).map _) p ts

theorem applyRules_first (rs : List TextRule) (p : Page) :
    FailsFirst (selectorFaults (rs.filterMap TextRule.selector)) (p.applyRules rs) := by
  have hflat : selectorFaults (rs.filterMap TextRule.selector) =
      rs.flatMap fun r => selectorFaults r.selector.toList := by
    rw [selectorFaults, List.filterMap_eq_flatMap_toList TextRule.selector, List.filterMap_flatMap]
    rfl
  rw [hflat]
  refine .foldlM (fun q r => ?_) p rs
  unfold Page.applyRule
  cases r.selector with
  | none => exact .pure q
  | some t =>
    rw [Option.toList_some, selectorFaults, List.filterMap_eq_flatMap_toList, List.flatMap_singleton]
    exact (FailsFirst.self _).map _

/-- **Every selector of a run is compiled**, up to the first fault and whatever the page is. -/
theorem edit_first (p : Page) : FailsFirst (selectorFaults (s.selectors o)) (s.edit o p) := by
  rw [selectors, selectorFaults_append, selectorFaults_append, List.append_assoc]
  refine (s.reroot_first o _).bind fun q _ => ?_
  exact (transformAll_first _ q).bind fun q' _ => applyRules_first _ q'

end Settled

/-! ### Runs -/

namespace Config

variable (c : Config) (o : Options)

/-- The faults of a run: those of its rules and, if these can be settled, those of its selectors. -/
def faults : List Fault :=
  c.settleFaults o ++
    match c.settle o with
    | .ok s => selectorFaults (s.selectors o)
    | .error _ => []

theorem canonicalize_first {html : Text} (h : html ≠ []) :
    FailsFirst (c.faults o) (c.canonicalize o html) := by
  rw [canonicalize, if_neg (by simpa using h)]
  refine (c.settle_first o).bind fun s hs => ?_
  rw [hs]
  exact (s.edit_first o _).map _

/-- Two pages that hold something are refused alike. -/
theorem canonicalize_error_iff {html page : Text} (hhtml : html ≠ []) (hpage : page ≠ []) (e : Fault) :
    c.canonicalize o html = .error e ↔ c.canonicalize o page = .error e := by
  rw [(c.canonicalize_first o hhtml).eq_error_iff, (c.canonicalize_first o hpage).eq_error_iff]

/-- **A run reports the same on every page**: the first of the faults that the configuration has for
it, or none at all. -/
theorem canonicalize_faults (c : Config) (o : Options) :
    (∃ e, (c.faults o).head? = some e ∧ ∀ html, html ≠ [] → c.canonicalize o html = .error e) ∨
      (c.faults o = [] ∧ ∀ html, html ≠ [] → ∃ t, c.canonicalize o html = .ok t) := by
  cases hfaults : c.faults o with
  | nil =>
    refine .inr ⟨rfl, fun html hne => ?_⟩
    have hrun := c.canonicalize_first o hne
    rwa [hfaults] at hrun
  | cons e es =>
    refine .inl ⟨e, rfl, fun html hne => ?_⟩
    have hrun := c.canonicalize_first o hne
    rwa [hfaults] at hrun

/-- A configuration that takes away all it keeps and then names two broken selectors. -/
def emptied : Config :=
  ⟨[(.string "selector", .string "main"),
    (.string "dom_transform", .sequence [.sequence [.string "remove", .string "main"],
      .sequence [.string "strip", .string "p["], .sequence [.string "strip", .string "q["]])]⟩

/-- On a page of which nothing is left the first broken selector is reported as well. -/
theorem canonicalize_faults_emptied :
    let o : Options := ⟨none, none⟩
    (emptied.faults o).head? = some (.badSelector "p[") ∧
      emptied.canonicalize o "<main>x</main>".toList = .error (.badSelector "p[") ∧
      emptied.canonicalize o "<p>y</p>".toList = .error (.badSelector "p[") := by
  intro o
  have hgood : faultOf (compileSelector "main") = none := by
    obtain ⟨s, hs⟩ := exists_ok_of_toOption (x := compileSelector "main") (by decide +kernel)
    rw [hs]
    rfl
  have hbad : faultOf (compileSelector "p[") = some (.badSelector "p[") := by
    have hnone : Css.Selector.parse? "p[".toList = none :=
      Option.isNone_iff_eq_none.1 (by decide +kernel)
    rw [compileSelector, hnone]
    rfl
  have hrules : emptied.settleFaults o = [] := rfl
  have hsettle : emptied.settle o = .ok ⟨false, some "main", none,
      [.remove "main", .strip "p[", .strip "q["], ⟨[], []⟩⟩ := rfl
  have hhead : (emptied.faults o).head? = some (.badSelector "p[") := by
    rw [faults, hrules, hsettle]
    show (selectorFaults ["main", "main", "p[", "q["]).head? = _
    simp [selectorFaults, hgood, hbad]
  rcases canonicalize_faults emptied o with ⟨e, he, hrun⟩ | ⟨hnil, _⟩
  · obtain rfl : Fault.badSelector "p[" = e := Option.some.inj (hhead.symm.trans he)
    exact ⟨hhead, hrun _ (by decide), hrun _ (by decide)⟩
  · rw [hnil] at hhead
    cases hhead

/-- A text rule with a broken pattern, and after it one that is not a pair. -/
def brokenRules : Config :=
  ⟨[(.string "sanitization", .sequence [.sequence [.string "(", .string "x"],
    .sequence [.string "a", .string "b", .string "c"]])]⟩

/-- Text rules are not checked one after the other: of two broken rules in one record the second may
be reported, since all pairs are read before the first pattern is compiled. -/
theorem canonicalize_brokenRules :
    let first : Value := .sequence [.string "(", .string "x"]
    let second : Value := .sequence [.string "a", .string "b", .string "c"]
    brokenRules.raw? .sanitization = some (.sequence [first, second]) ∧
      ruleParts (.sequence [first, second]) = [first, second] ∧
      TextRule.ofRecord (.bare first) = .error (.badPattern "(") ∧
      TextRule.ofRecord (.bare second) = .error (.invalidRule .sanitization (.pairItems 3)) ∧
      brokenRules.canonicalize ⟨none, none⟩ "x".toList =
        .error (.invalidRule .sanitization (.pairItems 3)) := by
  intro first second
  have hpattern : Regex.compile? ['('] = none := Option.isNone_iff_eq_none.1 (by decide +kernel)
  have hfirst : TextRule.ofRecord (.bare first) = .error (.badPattern "(") := by
    have hpairs : TextRule.pairsOf first = .ok [("(", "x")] := rfl
    have hcompile : TextRule.compilePattern "(" = .error (.badPattern "(") := by
      have hlist : "(".toList = ['('] := rfl
      rw [TextRule.compilePattern, if_neg (by decide), hlist, hpattern]
      rfl
    have hpair : TextRule.ofPair none ("(", "x") = .error (.badPattern "(") := by
      rw [TextRule.ofPair, hcompile]
      rfl
    rw [TextRule.ofRecord, Record.bare, hpairs]
    show [("(", "x")].mapM (TextRule.ofPair none) = _
    rw [List.mapM_cons, hpair]
    rfl
  exact ⟨rfl, rfl, hfirst, rfl, rfl⟩

end Config

end HtmlCanon
