import HtmlCanon.Regex
import Mathlib.Logic.Relation

/-!
# What expressions match

An expression matches what stands between two places of a text. Its program does not know these
places: it is a list of instructions, and a match is a way along them from the first one to the
last. Instructions are put in front of others that are already there, so what is told about them is
how they lead over to those.

* `Expr.Spans` : the places that a match joins.
* `Ends` : a program gets to its end, in a number of steps.
* `Leads` : what is matched on every way from one instruction to another.
* `Emits` : what new instructions match, whatever they are put in front of.
* `Expr.emits` : **the instructions of an expression** match what it spans.
* `Program.ends_ofExpr` : **its program gets to its end** from where it has a match.
-/

namespace HtmlCanon.Regex

open Code Relation

/-! ### Matches -/

/-- One character of some ranges. -/
inductive Passes (ranges : Array (Nat × Nat)) : Spot → Spot → Prop
  | intro (index : Nat) (before : Option Char) (c : Char) (rest : Text) :
    inRanges ranges c.toNat (ranges.size + 1) 0 ranges.size = true →
    Passes ranges ⟨index, before, c :: rest⟩ ⟨index + 1, some c, rest⟩

/-- The same a number of times in a row. -/
def Repeats (R : Spot → Spot → Prop) : Nat → Spot → Spot → Prop
  | 0 => Eq
  | n + 1 => Comp R (Repeats R n)

/-- The same in a row, a number of times that is allowed. -/
def Times (R : Spot → Spot → Prop) (p : Nat → Prop) (s t : Spot) : Prop :=
  ∃ n, p n ∧ Repeats R n s t

/-- How often something is repeated between two bounds; the lower one counts if the other is less. -/
def IsCount (min : Nat) (max : Option Nat) (n : Nat) : Prop :=
  min ≤ n ∧ ∀ m, max = some m → n ≤ Nat.max min m

mutual

/-- The places that a match of an expression joins. -/
def Expr.Spans : Expr → Spot → Spot → Prop
  | .empty => Eq
  | .char c => Passes #[(c.toNat, c.toNat)]
  | .oneOf s => Passes s.toArray
  | .look l => fun s t => l.holds s.before s.rest.head? = true ∧ s = t
  | .capture _ _ e => e.Spans
  | .concat es => Expr.SpanAll es
  | .alternation es => Expr.SpanOne es
  | .repetition min max _ e => Times e.Spans (IsCount min max)

/-- The places that matches of some expressions in a row join. -/
def Expr.SpanAll : List Expr → Spot → Spot → Prop
  | [] => Eq
  | e :: es => Comp e.Spans (Expr.SpanAll es)

/-- The places that a match of one of some expressions joins. -/
def Expr.SpanOne : List Expr → Spot → Spot → Prop
  | [] => fun _ _ => False
  | e :: es => fun s t => e.Spans s t ∨ Expr.SpanOne es s t

end

section Times

variable {R : Spot → Spot → Prop} {p : Nat → Prop} {s t : Spot} {m n : Nat}

theorem repeats_add (m n : Nat) : Repeats R (m + n) = Comp (Repeats R m) (Repeats R n) := by
  induction m with
  | zero => rw [Nat.zero_add, Repeats, eq_comp]
  | succ m ih => rw [Nat.succ_add, Repeats, Repeats, ih, comp_assoc]

theorem comp_repeats : Comp (Repeats R n) R = Repeats R (n + 1) := by
  rw [repeats_add, Repeats, Repeats, comp_eq]

theorem comp_times :
    Comp (Repeats R m) (Times R p) s t ↔ Times R (fun n => m ≤ n ∧ p (n - m)) s t := by
  constructor
  · rintro ⟨u, hu, n, hn, h⟩
    refine ⟨m + n, ⟨Nat.le_add_right m n, by rwa [Nat.add_sub_cancel_left]⟩, ?_⟩
    rw [repeats_add]
    exact ⟨u, hu, h⟩
  · rintro ⟨k, ⟨hm, hk⟩, h⟩
    obtain ⟨n, rfl⟩ := Nat.exists_eq_add_of_le hm
    rw [Nat.add_sub_cancel_left] at hk
    rw [repeats_add] at h
    obtain ⟨u, hu, h⟩ := h
    exact ⟨u, hu, n, hk, h⟩

/-- Not at all, or once and then more often. -/
theorem times_iff (h0 : p 0) : Times R p s t ↔ Comp R (Times R fun n => p (n + 1)) s t ∨ s = t := by
  constructor
  · rintro ⟨_ | n, hn, h⟩
    · exact .inr h
    · obtain ⟨u, hu, h⟩ := h
      exact .inl ⟨u, hu, n, hn, h⟩
  · rintro (⟨u, hu, n, hn, h⟩ | h)
    · exact ⟨n + 1, hn, u, hu, h⟩
    · exact ⟨0, h0, h⟩

theorem times_congr {q : Nat → Prop} (hpq : ∀ n, p n ↔ q n) : Times R p s t ↔ Times R q s t :=
  exists_congr fun n => and_congr_left fun _ => hpq n

end Times

/-! ### Ways along a program -/

/-- What an instruction goes on to: another one, at the same place or behind a character. -/
def Inst.Goes : Inst → Spot → Nat → Spot → Prop
  | .accept, _, _, _ => False
  | .fail, _, _, _ => False
  | .take ranges next, s, j, t => j = next ∧ Passes ranges s t
  | .check l next, s, j, t => j = next ∧ l.holds s.before s.rest.head? = true ∧ s = t
  | .note _ next, s, j, t => j = next ∧ s = t
  | .choose next, s, j, t => j ∈ next ∧ s = t

/-- From an instruction at a place a program gets to its end, in a number of steps. -/
inductive Ends (P : Code) : Nat → Nat → Spot → Prop
  | accept {i : Nat} (s : Spot) : P[i]? = some .accept → Ends P 0 i s
  | step {a : Inst} {i j n : Nat} {s t : Spot} :
    P[i]? = some a → a.Goes s j t → Ends P n j t → Ends P (n + 1) i s

/-- What is matched on every way from the instruction `i` to `j`, none of which gains a step. -/
structure Leads (P : Code) (R : Spot → Spot → Prop) (i j : Nat) : Prop where
  extend {s t : Spot} {n : Nat} : R s t → Ends P n j t → ∃ m, Ends P m i s
  split {s : Spot} {n : Nat} : Ends P n i s → ∃ t, R s t ∧ ∃ m ≤ n, Ends P m j t

/-- What is matched on the ways from one of the instructions `js` to `k`. -/
structure LeadOne (P : Code) (R : Spot → Spot → Prop) (js : List Nat) (k : Nat) : Prop where
  extend {s t : Spot} {n : Nat} : R s t → Ends P n k t → ∃ j ∈ js, ∃ m, Ends P m j s
  split {s : Spot} {n j : Nat} : j ∈ js → Ends P n j s → ∃ t, R s t ∧ ∃ m ≤ n, Ends P m k t

section Leads

variable {P : Code} {i j k : Nat} {js : List Nat} {R S : Spot → Spot → Prop} {s : Spot} {n : Nat}

namespace LeadOne

theorem nil : LeadOne P (fun _ _ => False) [] k := ⟨nofun, nofun⟩

theorem cons (h : Leads P R j k) (hs : LeadOne P S js k) :
    LeadOne P (fun s t => R s t ∨ S s t) (j :: js) k where
  extend hRS hend := by
    rcases hRS with hR | hS
    · exact ⟨j, List.mem_cons_self, h.extend hR hend⟩
    · obtain ⟨i, hi, hway⟩ := hs.extend hS hend
      exact ⟨i, List.mem_cons_of_mem _ hi, hway⟩
  split hj hway := by
    rcases List.mem_cons.1 hj with rfl | hj
    · obtain ⟨t, hR, hend⟩ := h.split hway
      exact ⟨t, .inl hR, hend⟩
    · obtain ⟨t, hS, hend⟩ := hs.split hj hway
      exact ⟨t, .inr hS, hend⟩

end LeadOne

namespace Leads

theorem refl : Leads P Eq i i where
  extend := by
    rintro s _ n rfl h
    exact ⟨n, h⟩
  split {s n} h := ⟨s, rfl, n, Nat.le_refl n, h⟩

theorem comp (h : Leads P R i j) (h' : Leads P S j k) : Leads P (Comp R S) i k where
  extend := by
    rintro s u n ⟨t, hR, hS⟩ hend
    obtain ⟨m, hmid⟩ := h'.extend hS hend
    exact h.extend hR hmid
  split hstart := by
    obtain ⟨t, hR, m, hm, hmid⟩ := h.split hstart
    obtain ⟨u, hS, l, hl, hend⟩ := h'.split hmid
    exact ⟨u, ⟨t, hR, hS⟩, l, Nat.le_trans hl hm, hend⟩

theorem congr (h : Leads P R i j) (hRS : ∀ s t, R s t ↔ S s t) : Leads P S i j := by
  rwa [show S = R from funext fun s => funext fun t => propext (hRS s t).symm]

/-- Where an instruction goes on to one other. -/
theorem of_goes {a : Inst} (hi : P[i]? = some a) (ha : a ≠ .accept)
    (hgoes : ∀ s k t, a.Goes s k t ↔ k = j ∧ R s t) : Leads P R i j where
  extend hR hend := ⟨_, .step hi ((hgoes _ _ _).2 ⟨rfl, hR⟩) hend⟩
  split h := by
    cases h with
    | accept s hi' => exact absurd (Option.some.inj (hi.symm.trans hi')) ha
    | step hi' hgo hend =>
      obtain rfl := Option.some.inj (hi.symm.trans hi')
      obtain ⟨rfl, hR⟩ := (hgoes _ _ _).1 hgo
      exact ⟨_, hR, _, Nat.le_succ _, hend⟩

theorem take {ranges : Array (Nat × Nat)} (hi : P[i]? = some (.take ranges j)) :
    Leads P (Passes ranges) i j :=
  of_goes hi nofun fun _ _ _ => .rfl

theorem check {l : Look} (hi : P[i]? = some (.check l j)) :
    Leads P (fun s t => l.holds s.before s.rest.head? = true ∧ s = t) i j :=
  of_goes hi nofun fun _ _ _ => .rfl

theorem note {slot : Nat} (hi : P[i]? = some (.note slot j)) : Leads P Eq i j :=
  of_goes hi nofun fun _ _ _ => .rfl

/-- The first step of a choice. -/
theorem choose_step (hi : P[i]? = some (.choose js)) (h : Ends P n i s) :
    ∃ j ∈ js, ∃ m < n, Ends P m j s := by
  cases h with
  | accept s hi' => cases hi.symm.trans hi'
  | step hi' hgo hend =>
    obtain rfl := Option.some.inj (hi.symm.trans hi')
    obtain ⟨hj, rfl⟩ := hgo
    exact ⟨_, hj, _, Nat.lt_succ_self _, hend⟩

theorem choose (hi : P[i]? = some (.choose js)) (h : LeadOne P R js k) : Leads P R i k where
  extend hR hend := by
    obtain ⟨j, hj, m, hway⟩ := h.extend hR hend
    exact ⟨m + 1, .step hi ⟨hj, rfl⟩ hway⟩
  split hstart := by
    obtain ⟨j, hj, m, hm, hway⟩ := choose_step hi hstart
    obtain ⟨t, hR, l, hl, hend⟩ := h.split hj hway
    exact ⟨t, hR, l, by omega, hend⟩

/-- A choice between two ways to the same instruction. -/
theorem choice {greedy : Bool} {a b : Nat} (hi : P[i]? = some (Code.choice greedy a b))
    (ha : Leads P R a k) (hb : Leads P S b k) : Leads P (fun s t => R s t ∨ S s t) i k := by
  cases greedy with
  | true => simpa using choose hi (.cons ha (.cons hb .nil))
  | false => simpa [or_comm] using choose hi (.cons hb (.cons ha .nil))

/-- A choice between going around once more and leaving. -/
theorem star {greedy : Bool} (hi : P[i]? = some (Code.choice greedy j k)) (h : Leads P R j i) :
    Leads P (Times R fun _ => True) i k where
  extend {s t n} hR hend := by
    obtain ⟨m, -, hR⟩ := hR
    induction m generalizing s with
    | zero =>
      obtain rfl := hR
      exact ⟨_, .step hi ⟨by cases greedy <;> simp, rfl⟩ hend⟩
    | succ m ih =>
      obtain ⟨u, hu, hR⟩ := hR
      obtain ⟨l, hagain⟩ := ih hR
      obtain ⟨l, hway⟩ := h.extend hu hagain
      exact ⟨_, .step hi ⟨by cases greedy <;> simp, rfl⟩ hway⟩
  split {s n} hstart := by
    induction n using Nat.strongRecOn generalizing s with
    | _ n ih =>
      obtain ⟨a, ha, m, hm, hway⟩ := choose_step hi hstart
      have ha : a = j ∨ a = k := by cases greedy <;> grind
      rcases ha with rfl | rfl
      · -- a way around comes back to the choice with fewer steps to go
        obtain ⟨t, hR, l, hl, hagain⟩ := h.split hway
        obtain ⟨u, ⟨c, -, hS⟩, l', hl', hend⟩ := ih l (by omega) hagain
        exact ⟨u, ⟨c + 1, trivial, t, hR, hS⟩, l', by omega, hend⟩
      · exact ⟨s, ⟨0, trivial, rfl⟩, m, by omega, hway⟩

end Leads

end Leads

/-! ### New instructions -/

/-- Instructions are only added. -/
structure Grows (code code' : Code) : Prop where
  size : code.size ≤ code'.size
  same : ∀ i < code.size, code'[i]? = code[i]?

/-- What is added to `code` in `code'` stands in a program. -/
def Holds (P code code' : Code) : Prop := ∀ i, code.size ≤ i → i < code'.size → P[i]? = code'[i]?

/-- What is matched by new instructions that are put in front of others, in any program that holds
the new ones where they were put. -/
def Emits (e : Emitter) (R : Spot → Spot → Prop) : Prop :=
  ∀ next code, Grows code (e next code).2 ∧
    ∀ P, Holds P code (e next code).2 → Leads P R (e next code).1 next

/-- As `Emits`, for instructions one of which is to be chosen. -/
def EmitOne (e : Nat → Code → List Nat × Code) (R : Spot → Spot → Prop) : Prop :=
  ∀ next code, Grows code (e next code).2 ∧
    ∀ P, Holds P code (e next code).2 → LeadOne P R (e next code).1 next

section Emits

variable {P code code' code'' : Code} {a : Inst} {e f : Emitter} {R S : Spot → Spot → Prop}

theorem Grows.refl : Grows code code := ⟨Nat.le_refl _, fun _ _ => rfl⟩

theorem Grows.trans (h : Grows code code') (h' : Grows code' code'') : Grows code code'' :=
  ⟨Nat.le_trans h.size h'.size, fun i hi =>
    (h'.same i (Nat.lt_of_lt_of_le hi h.size)).trans (h.same i hi)⟩

theorem grows_push : Grows code (code.push a) where
  size := by simp
  same i hi := by simp [Array.getElem?_push, Nat.ne_of_lt hi]

theorem Grows.left (h : Grows code' code'') (hP : Holds P code code'') : Holds P code code' :=
  fun i hi hlt => (hP i hi (Nat.lt_of_lt_of_le hlt h.size)).trans (h.same i hlt)

theorem Grows.right (h : Grows code code') (hP : Holds P code code'') : Holds P code' code'' :=
  fun i hi => hP i (Nat.le_trans h.size hi)

theorem holds_push (hP : Holds P code (code.push a)) : P[code.size]? = some a := by
  rw [hP code.size (Nat.le_refl _) (by simp), Array.getElem?_push_size]

namespace Emits

theorem congr (h : Emits e R) (hRS : ∀ s t, R s t ↔ S s t) : Emits e S := fun next code =>
  ⟨(h next code).1, fun P hP => ((h next code).2 P hP).congr hRS⟩

theorem nothing : Emits Prod.mk Eq := fun _ _ => ⟨.refl, fun _ _ => .refl⟩

/-- One instruction. -/
theorem one {a : Nat → Inst} (h : ∀ P i j, P[i]? = some (a j) → Leads P R i j) :
    Emits (fun next => add (a next)) R := fun _ _ =>
  ⟨grows_push, fun P hP => h P _ _ (holds_push hP)⟩

/-- One after the other. -/
theorem comp (he : Emits e R) (hf : Emits f S) :
    Emits (fun next code => e (f next code).1 (f next code).2) (Comp R S) := by
  intro next code
  obtain ⟨hgrows, hlead⟩ := hf next code
  obtain ⟨hgrows', hlead'⟩ := he (f next code).1 (f next code).2
  exact ⟨hgrows.trans hgrows', fun P hP =>
    (hlead' P (hgrows.right hP)).comp (hlead P (hgrows'.left hP))⟩

theorem times (he : Emits e R) (n : Nat) : Emits (Code.times e n) (Repeats R n) := by
  induction n with
  | zero => exact nothing
  | succ n ih => exact he.comp ih

theorem upTo (he : Emits e R) (greedy : Bool) (n : Nat) :
    Emits (fun next => Code.upTo greedy e next n) (Times R (· ≤ n)) := by
  induction n with
  | zero =>
    refine nothing.congr fun s t => ⟨fun h => ⟨0, Nat.le_refl 0, h⟩, ?_⟩
    rintro ⟨m, hm, h⟩
    rwa [Nat.le_zero.1 hm] at h
  | succ n ih =>
    intro next code
    obtain ⟨hgrows, hlead⟩ := he.comp ih next code
    refine ⟨hgrows.trans grows_push, fun P hP => ?_⟩
    have hchoice := holds_push (hgrows.right hP)
    refine (Leads.choice hchoice (hlead P (grows_push.left hP)) .refl).congr fun s t => ?_
    rw [times_iff (p := (· ≤ n + 1)) (Nat.zero_le _)]
    simp only [Nat.succ_le_succ_iff]

/-- Around a loop: any number of times from its choice, at least once from its first instruction. -/
theorem loop (he : Emits e R) (greedy : Bool) (next : Nat) (code : Code) :
    Grows code (Code.loop greedy e next code).2 ∧
      ∀ P, Holds P code (Code.loop greedy e next code).2 →
        Leads P (Times R fun _ => True) (Code.loop greedy e next code).1.1 next ∧
        Leads P (Comp R (Times R fun _ => True)) (Code.loop greedy e next code).1.2 next := by
  obtain ⟨hgrows, hlead⟩ := he code.size (code.push .fail)
  have hsize : code.size < (e code.size (code.push .fail)).2.size := by
    simpa [Nat.succ_le_iff] using hgrows.size
  have hloop : (Code.loop greedy e next code).2 =
      (e code.size (code.push .fail)).2.setIfInBounds code.size
        (choice greedy (e code.size (code.push .fail)).1 next) := rfl
  refine ⟨⟨?_, fun i hi => ?_⟩, fun P hP => ?_⟩
  · rw [hloop, Array.size_setIfInBounds]
    exact Nat.le_of_lt hsize
  · rw [hloop, Array.getElem?_setIfInBounds_ne (Nat.ne_of_gt hi), (grows_push.trans hgrows).same i hi]
  · rw [hloop] at hP
    have hchoice : P[code.size]? = some (choice greedy (e code.size (code.push .fail)).1 next) := by
      rw [hP _ (Nat.le_refl _) (by rwa [Array.size_setIfInBounds]),
        Array.getElem?_setIfInBounds_self_of_lt hsize]
    -- the choice takes the place of an instruction that stands before the others
    have hother : Holds P (code.push .fail) (e code.size (code.push .fail)).2 := fun i hi hlt => by
      rw [Array.size_push] at hi
      rw [hP i (by omega) (by rwa [Array.size_setIfInBounds]),
        Array.getElem?_setIfInBounds_ne (by omega)]
    have hstar := Leads.star hchoice (hlead P hother)
    exact ⟨hstar, (hlead P hother).comp hstar⟩

end Emits

end Emits

/-! ### The instructions of expressions -/

mutual

/-- **The instructions of an expression** match what it spans. -/
theorem Expr.emits : ∀ e : Expr, Emits e.emit e.Spans
  | .empty => .nothing
  | .char c => .one fun _ _ _ => .take
  | .oneOf s => .one fun _ _ _ => .take
  | .look l => .one fun _ _ _ => .check
  | .capture i name e => by
    have hstop : Emits (fun next => add (.note (2 * i + 1) next)) Eq := .one fun _ _ _ => .note
    have hstart : Emits (fun next => add (.note (2 * i) next)) Eq := .one fun _ _ _ => .note
    have h := hstart.comp (e.emits.comp hstop)
    rwa [eq_comp, comp_eq] at h
  | .concat es => Expr.emitsAll es
  | .alternation es => fun next code => by
    obtain ⟨hgrows, hlead⟩ := Expr.emitsEach es next code
    refine ⟨hgrows.trans grows_push, fun P hP => ?_⟩
    exact .choose (holds_push (hgrows.right hP)) (hlead P (grows_push.left hP))
  | .repetition low (some high) greedy e => by
    refine ((e.emits.times low).comp (e.emits.upTo greedy (high - low))).congr fun s t => ?_
    rw [comp_times]
    refine times_congr fun n => and_congr_right fun hn => ?_
    have hmax : n ≤ Nat.max low high ↔ n - low ≤ high - low := by
      rw [show Nat.max low high = max low high from rfl]
      omega
    simp only [Option.some.injEq, forall_eq', hmax]
  | .repetition 0 none greedy e => by
    intro next code
    obtain ⟨hgrows, hlead⟩ := e.emits.loop greedy next code
    have hspans : ∀ s t, Times e.Spans (fun _ => True) s t ↔
        (Expr.repetition 0 none greedy e).Spans s t := fun s t => times_congr fun n => by simp [IsCount]
    simp only [Expr.emit]
    cases e.isProductive with
    | true => exact ⟨hgrows, fun P hP => (hlead P hP).1.congr hspans⟩
    | false =>
      refine ⟨hgrows.trans grows_push, fun P hP => ?_⟩
      have hchoice := holds_push (hgrows.right hP)
      refine (Leads.choice hchoice (hlead P (grows_push.left hP)).2 .refl).congr fun s t => ?_
      rw [← hspans, times_iff trivial]
  | .repetition (n + 1) none greedy e => by
    intro next code
    obtain ⟨hgrows, hlead⟩ := e.emits.loop greedy next code
    obtain ⟨hgrows', hlead'⟩ := e.emits.times n (Code.loop greedy e.emit next code).1.2
      (Code.loop greedy e.emit next code).2
    refine ⟨hgrows.trans hgrows', fun P hP => ?_⟩
    refine ((hlead' P (hgrows.right hP)).comp (hlead P (hgrows'.left hP)).2).congr fun s t => ?_
    rw [← comp_assoc, comp_repeats, comp_times]
    exact times_congr fun k => by simp [IsCount]

theorem Expr.emitsAll : ∀ es : List Expr, Emits (Expr.emitAll es) (Expr.SpanAll es)
  | [] => .nothing
  | e :: es => e.emits.comp (Expr.emitsAll es)

theorem Expr.emitsEach : ∀ es : List Expr, EmitOne (Expr.emitEach es) (Expr.SpanOne es)
  | [] => fun _ _ => ⟨.refl, fun _ _ => .nil⟩
  | e :: es => fun next code => by
    obtain ⟨hgrows, hlead⟩ := e.emits next code
    obtain ⟨hgrows', hlead'⟩ := Expr.emitsEach es next (e.emit next code).2
    exact ⟨hgrows.trans hgrows', fun P hP =>
      .cons (hlead P (hgrows'.left hP)) (hlead' P (hgrows.right hP))⟩

end

/-- **The program of an expression** gets to its end from the places where a match starts. -/
theorem Program.ends_ofExpr (e : Expr) (captures : Nat) (s : Spot) :
    (∃ n, Ends (Program.ofExpr e captures).code n (Program.ofExpr e captures).start s) ↔
      ∃ t, e.Spans s t := by
  obtain ⟨hgrows, hlead⟩ := (Expr.capture 0 none e).emits 0 #[.accept]
  have hlead := hlead _ fun _ _ _ => rfl
  have haccept := hgrows.same 0 (by decide)
  constructor
  · rintro ⟨n, h⟩
    obtain ⟨t, hspans, -⟩ := hlead.split h
    exact ⟨t, hspans⟩
  · rintro ⟨t, hspans⟩
    exact hlead.extend hspans (.accept t haccept)

end HtmlCanon.Regex
