import HtmlCanon.Proofs.Regex.Meaning
import Mathlib.Algebra.BigOperators.Group.Finset.Basic
import Mathlib.Algebra.Order.BigOperators.Group.Finset

/-!
# What a search finds

A search goes through a text once and keeps all the instructions where a program may stand. Each of
them is followed once at each place, however many ways lead there, so that a mark on an instruction
has to stand for everything that can be reached from it.

* `follow_cons` : one step of following an instruction.
* `Settled` : from marked instructions only marked ones are reached, or those that still wait.
* `follow_settled` : **following comes to an end** with nothing left to do.
* `step_settled` : and so it does with every character.
* `search_isSome_iff` : **a search finds a match where there is one**.
* `isMatch_compile?` : a pattern matches in a text where its expression does.
-/

namespace HtmlCanon.Regex

namespace Program

variable {p : Program} {s : Spot} {i j m n : Nat} {t : Thread} {ts : List Thread} {w : Wave}

/-! ### Following instructions -/

/-- The threads that one becomes at a place without a character. -/
def onward (p : Program) (s : Spot) (t : Thread) : List Thread :=
  match p.code[t.inst]? with
  | some (.check l next) => if l.holds s.before s.rest.head? then [⟨next, t.slots⟩] else []
  | some (.note slot next) => [⟨next, t.slots.setIfInBounds slot (some s.index)⟩]
  | some (.choose next) => next.map (⟨·, t.slots⟩)
  | _ => []

/-- Whether an instruction waits for a character or accepts, or is a dead end. -/
def isLast (p : Program) (i : Nat) : Bool :=
  match p.code[i]? with
  | some .accept => true
  | some .fail => true
  | some (.take _ _) => true
  | _ => false

/-- **One step of following**: a thread at a marked instruction is dropped, any other one becomes
those that it goes on as. -/
theorem follow_cons (p : Program) (s : Spot) (n : Nat) (t : Thread) (ts : List Thread)
    (seen : Array Nat) (threads : List Thread) :
    follow p s (n + 1) (t :: ts) ⟨seen, threads⟩ =
      if seen[t.inst]? == some (s.index + 1) then follow p s n ts ⟨seen, threads⟩
      else follow p s n (p.onward s t ++ ts) ⟨seen.setIfInBounds t.inst (s.index + 1),
        if p.isLast t.inst then t :: threads else threads⟩ := by
  rw [follow]
  unfold onward isLast
  rcases p.code[t.inst]? with _ | a
  · rfl
  · cases a with
    | check l next => by_cases hl : l.holds s.before s.rest.head? = true <;> simp [hl]
    | _ => rfl

/-- What a thread becomes at a place goes on to the end as the thread does. -/
theorem mem_onward {t' : Thread} (h : t' ∈ p.onward s t) :
    ∃ a, p.code[t.inst]? = some a ∧ a.Goes s t'.inst s := by
  unfold onward at h
  split at h
  · rename_i l next ha
    split at h
    · rename_i hl
      obtain rfl := List.mem_singleton.1 h
      exact ⟨_, ha, rfl, hl, rfl⟩
    · cases h
  · rename_i slot next ha
    obtain rfl := List.mem_singleton.1 h
    exact ⟨_, ha, rfl, rfl⟩
  · rename_i next ha
    obtain ⟨j, hj, rfl⟩ := List.mem_map.1 h
    exact ⟨_, ha, hj, rfl⟩
  · cases h

/-- An instruction is the last one at a place, or the others that it goes on to are met there. -/
theorem isLast_or_onward {a : Inst} (ha : p.code[t.inst]? = some a) :
    p.isLast t.inst = true ∨
      ∀ {j u}, a.Goes s j u → u = s ∧ ∃ t' ∈ p.onward s t, t'.inst = j := by
  unfold isLast onward
  rw [ha]
  cases a with
  | accept => exact .inl rfl
  | fail => exact .inl rfl
  | take ranges next => exact .inl rfl
  | check l next =>
    refine .inr ?_
    rintro j u ⟨rfl, hl, rfl⟩
    simp [hl]
  | note slot next =>
    refine .inr ?_
    rintro j u ⟨rfl, rfl⟩
    simp
  | choose next =>
    refine .inr ?_
    rintro j u ⟨hj, rfl⟩
    simpa using hj

/-! ### Marks -/

/-- Whether an instruction is marked at a place. -/
def Marked (seen : Array Nat) (s : Spot) (i : Nat) : Prop := seen[i]? = some (s.index + 1)

/-- An instruction is met at a place if it is marked or a thread is still to be followed there. One
that the program does not have counts as met. -/
def Met (p : Program) (s : Spot) (ts : List Thread) (w : Wave) (i : Nat) : Prop :=
  Marked w.seen s i ∨ (∃ t ∈ ts, t.inst = i) ∨ p.code[i]? = none

/-- The threads `ts` are all that is left to follow at a place: the instructions in `A` are met, those
that a marked one goes on to are, and one that is the last of its way is kept as a thread. -/
structure Settled (p : Program) (s : Spot) (A : Nat → Prop) (ts : List Thread) (w : Wave) : Prop where
  size : w.seen.size = p.code.size
  marks : ∀ m ∈ w.seen, m ≤ s.index + 1
  wanted {i : Nat} : A i → p.Met s ts w i
  reached {i j : Nat} {a : Inst} {u : Spot} : Marked w.seen s i → p.code[i]? = some a →
    a.Goes s j u → p.isLast i = true ∨ u = s ∧ p.Met s ts w j
  kept {i : Nat} : Marked w.seen s i → p.isLast i = true → ∃ t ∈ w.threads, t.inst = i

section Settled

variable {A B : Nat → Prop}

/-- At a new place no instruction is marked. -/
theorem Settled.start {seen : Array Nat} (hsize : seen.size = p.code.size)
    (hmarks : ∀ m ∈ seen, m ≤ s.index) : Settled p s (fun _ => False) [] ⟨seen, []⟩ := by
  have hnone : ∀ i, ¬Marked seen s i := fun i hi => by
    have := hmarks _ (Array.mem_of_getElem? hi)
    omega
  exact ⟨hsize, fun m hm => Nat.le_succ_of_le (hmarks m hm), nofun,
    fun hi => absurd hi (hnone _), fun hi => absurd hi (hnone _)⟩

/-- One more thread to follow. -/
theorem Settled.cons (h : Settled p s A [] w) (t : Thread) :
    Settled p s (fun i => A i ∨ i = t.inst) [t] w := by
  have hmet : ∀ {i}, p.Met s [] w i → p.Met s [t] w i := by
    rintro i (hi | ⟨_, hmem, -⟩ | hi)
    · exact .inl hi
    · cases hmem
    · exact .inr (.inr hi)
  refine ⟨h.size, h.marks, ?_, fun hi ha hgo => (h.reached hi ha hgo).imp_right (.imp_right hmet),
    h.kept⟩
  rintro i (hi | rfl)
  · exact hmet (h.wanted hi)
  · exact .inr (.inl ⟨t, List.mem_singleton_self t, rfl⟩)

theorem Settled.mono (h : Settled p s A ts w) (hAB : ∀ i, B i → A i) : Settled p s B ts w :=
  ⟨h.size, h.marks, fun hi => h.wanted (hAB _ hi), h.reached, h.kept⟩

/-- A thread at a marked instruction is not followed. -/
theorem Settled.skip (h : Settled p s A (t :: ts) w) (ht : Marked w.seen s t.inst) :
    Settled p s A ts w := by
  have hmet : ∀ {i}, p.Met s (t :: ts) w i → p.Met s ts w i := by
    rintro i (hi | ⟨t', ht', rfl⟩ | hi)
    · exact .inl hi
    · rcases List.mem_cons.1 ht' with rfl | ht'
      · exact .inl ht
      · exact .inr (.inl ⟨t', ht', rfl⟩)
    · exact .inr (.inr hi)
  exact ⟨h.size, h.marks, fun hi => hmet (h.wanted hi),
    fun hi ha hgo => (h.reached hi ha hgo).imp_right (.imp_right hmet), h.kept⟩

theorem marked_set {seen : Array Nat} :
    Marked (seen.setIfInBounds j (s.index + 1)) s i ↔ i = j ∧ j < seen.size ∨ Marked seen s i := by
  unfold Marked
  rw [Array.getElem?_setIfInBounds]
  by_cases hij : j = i
  · subst hij
    by_cases hj : j < seen.size <;> simp [hj]
  · simp [hij, Ne.symm hij]

/-- Following a thread marks its instruction, and what it goes on to is left to follow. -/
theorem Settled.follow {seen : Array Nat} {threads : List Thread}
    (h : Settled p s A (t :: ts) ⟨seen, threads⟩) :
    Settled p s A (p.onward s t ++ ts) ⟨seen.setIfInBounds t.inst (s.index + 1),
      if p.isLast t.inst then t :: threads else threads⟩ := by
  have hmet : ∀ {i}, p.Met s (t :: ts) ⟨seen, threads⟩ i →
      p.Met s (p.onward s t ++ ts) ⟨seen.setIfInBounds t.inst (s.index + 1),
        if p.isLast t.inst then t :: threads else threads⟩ i := by
    rintro i (hi | ⟨t', ht', rfl⟩ | hi)
    · exact .inl (marked_set.2 (.inr hi))
    · rcases List.mem_cons.1 ht' with rfl | ht'
      · by_cases hlt : t'.inst < seen.size
        · exact .inl (marked_set.2 (.inl ⟨rfl, hlt⟩))
        · -- the thread has left the program
          rw [show seen.size = p.code.size from h.size] at hlt
          exact .inr (.inr (Array.getElem?_eq_none (Nat.le_of_not_lt hlt)))
      · exact .inr (.inl ⟨t', List.mem_append_right _ ht', rfl⟩)
    · exact .inr (.inr hi)
  refine ⟨(Array.size_setIfInBounds ..).trans h.size, fun m hm => ?_, fun hi => hmet (h.wanted hi),
    fun hi ha hgo => ?_, fun hi hlast => ?_⟩
  · rcases Array.mem_or_eq_of_mem_setIfInBounds hm with hm | rfl
    · exact h.marks m hm
    · exact Nat.le_refl _
  · rcases marked_set.1 hi with ⟨rfl, -⟩ | hi
    · refine (isLast_or_onward (s := s) ha).imp_right fun honward => ?_
      obtain ⟨rfl, t', ht', rfl⟩ := honward hgo
      exact ⟨rfl, .inr (.inl ⟨t', List.mem_append_left _ ht', rfl⟩)⟩
    · exact (h.reached hi ha hgo).imp_right (.imp_right hmet)
  · rcases marked_set.1 hi with ⟨rfl, -⟩ | hi
    · exact ⟨t, by simp [hlast], rfl⟩
    · obtain ⟨t', ht', rfl⟩ := h.kept hi hlast
      refine ⟨t', ?_, rfl⟩
      split
      · exact List.mem_cons_of_mem _ ht'
      · exact ht'

end Settled

/-! ### Coming to an end -/

/-- How many steps an instruction has. -/
def cost (p : Program) (i : Nat) : Nat := (p.code[i]?.map Inst.steps).getD 0

/-- How many threads may still come up at a place: one for each step from an unmarked instruction. -/
def room (p : Program) (s : Spot) (seen : Array Nat) : Nat :=
  ∑ i ∈ Finset.range p.code.size, if seen[i]? = some (s.index + 1) then 0 else p.cost i

theorem length_onward_le : (p.onward s t).length ≤ p.cost t.inst := by
  unfold onward cost
  split
  · split <;> simp [*, Inst.steps]
  all_goals simp [*, Inst.steps]

/-- A mark takes the room of its instruction. -/
theorem room_set {seen : Array Nat} (hsize : seen.size = p.code.size) (hi : ¬Marked seen s i) :
    p.room s (seen.setIfInBounds i (s.index + 1)) + p.cost i ≤ p.room s seen := by
  by_cases hlt : i < p.code.size
  · have hmem : i ∈ Finset.range p.code.size := Finset.mem_range.2 hlt
    rw [room, room, ← Finset.add_sum_erase _ _ hmem, ← Finset.add_sum_erase _ _ hmem,
      if_pos (by simp [hsize, hlt]), if_neg (c := seen[i]? = _) hi, Nat.zero_add, Nat.add_comm]
    refine Nat.le_of_eq (congrArg _ (Finset.sum_congr rfl fun j hj => ?_))
    rw [Array.getElem?_setIfInBounds_ne (Finset.ne_of_mem_erase hj).symm]
  · have hnone : p.code[i]? = none := Array.getElem?_eq_none (Nat.le_of_not_lt hlt)
    rw [Array.setIfInBounds_eq_of_size_le (by omega), cost, hnone]
    exact Nat.le_refl _

theorem follow_nil (p : Program) (s : Spot) (n : Nat) (w : Wave) : follow p s n [] w = w := by
  cases n <;> rfl

/-- **Following comes to an end**: with as many steps as there is room, nothing is left to follow. -/
theorem follow_settled {A : Nat → Prop} {seen : Array Nat} {threads : List Thread}
    (h : Settled p s A ts ⟨seen, threads⟩) (hn : ts.length + p.room s seen ≤ n) :
    Settled p s A [] (follow p s n ts ⟨seen, threads⟩) := by
  induction n generalizing ts seen threads with
  | zero =>
    obtain rfl := List.length_eq_zero_iff.1 (show ts.length = 0 by omega)
    rwa [follow_nil]
  | succ n ih =>
    cases ts with
    | nil => rwa [follow_nil]
    | cons t ts =>
      rw [List.length_cons] at hn
      rw [follow_cons]
      by_cases hmarked : Marked seen s t.inst
      · rw [if_pos (beq_iff_eq.2 hmarked)]
        exact ih (h.skip hmarked) (by omega)
      · rw [if_neg (mt beq_iff_eq.1 hmarked)]
        refine ih h.follow ?_
        have hroom : p.room s (seen.setIfInBounds t.inst (s.index + 1)) + p.cost t.inst ≤
            p.room s seen := room_set h.size hmarked
        have hlen := length_onward_le (p := p) (s := s) (t := t)
        rw [List.length_append]
        omega

/-- What following adds to the threads has been reached from those that it started from. -/
theorem follow_sound (G : Nat → Prop) {seen : Array Nat} {threads : List Thread}
    (hG : ∀ t, G t.inst → ∀ t' ∈ p.onward s t, G t'.inst) (hts : ∀ t ∈ ts, G t.inst)
    (hthreads : ∀ t ∈ threads, G t.inst) :
    ∀ t ∈ (follow p s n ts ⟨seen, threads⟩).threads, G t.inst := by
  induction n generalizing ts seen threads with
  | zero => rwa [follow]
  | succ n ih =>
    cases ts with
    | nil => rwa [follow_nil]
    | cons t ts =>
      obtain ⟨ht, hts⟩ := List.forall_mem_cons.1 hts
      rw [follow_cons]
      split
      · exact ih hts hthreads
      · refine ih (List.forall_mem_append.2 ⟨hG t ht, hts⟩) ?_
        split
        · exact List.forall_mem_cons.2 ⟨ht, hthreads⟩
        · exact hthreads

/-- A program knows how many steps it has. -/
def IsCounted (p : Program) : Prop := ∀ s seen, p.room s seen ≤ p.steps

/-- Following one more thread, in as many steps as the program has. -/
theorem Settled.run {A : Nat → Prop} (hp : p.IsCounted) (h : Settled p s A [] w) (t : Thread) :
    Settled p s (fun i => A i ∨ i = t.inst) [] (p.follow s (p.steps + 1) [t] w) := by
  have hroom := hp s w.seen
  exact follow_settled (h.cons t) (by simp only [List.length_singleton]; omega)

/-- **Where the end can be reached** from an instruction that is met, a thread is on its way there. -/
theorem Settled.exists_thread {A : Nat → Prop} (h : Settled p s A [] w) (hi : p.Met s [] w i)
    (hend : Ends p.code n i s) :
    ∃ t ∈ w.threads, p.isLast t.inst = true ∧ ∃ m, Ends p.code m t.inst s := by
  have hmarked : ∀ {i a}, p.Met s [] w i → p.code[i]? = some a → Marked w.seen s i := by
    rintro i a (hi | ⟨_, hmem, -⟩ | hi) ha
    · exact hi
    · cases hmem
    · cases hi.symm.trans ha
  induction n generalizing i with
  | zero =>
    cases id hend with
    | accept _ ha =>
      have hlast : p.isLast i = true := by rw [isLast, ha]
      obtain ⟨t, ht, rfl⟩ := h.kept (hmarked hi ha) hlast
      exact ⟨t, ht, hlast, 0, hend⟩
  | succ n ih =>
    cases id hend with
    | step ha hgo hnext =>
      rcases h.reached (hmarked hi ha) ha hgo with hlast | ⟨rfl, hj⟩
      · obtain ⟨t, ht, rfl⟩ := h.kept (hmarked hi ha) hlast
        exact ⟨t, ht, hlast, _, hend⟩
      · exact ih hj hnext

/-! ### A character -/

/-- What a thread becomes behind a character, if it waits for it. -/
def advance (p : Program) (c : Option Char) (t : Thread) : Option Thread :=
  match p.code[t.inst]?, c with
  | some (.take ranges next), some c =>
    if inRanges ranges c.toNat (ranges.size + 1) 0 ranges.size then some ⟨next, t.slots⟩ else none
  | _, _ => none

section Step

variable {c : Option Char}

/-- A thread that accepts is found. -/
theorem step_of_accept (ha : p.code[t.inst]? = some .accept) :
    step p c s (t :: ts) w = (w, some t.slots) := by
  rw [step.eq_def]
  simp only [ha]

/-- **One step**: any other thread is followed behind the character. -/
theorem step_of_ne (ha : p.code[t.inst]? ≠ some .accept) : step p c s (t :: ts) w = step p c s ts
    (match p.advance c t with
      | some t' => follow p s (p.steps + 1) [t'] w
      | none => w) := by
  rw [step.eq_def]
  unfold advance
  dsimp only
  generalize p.code[t.inst]? = o at ha ⊢
  rcases o with _ | a
  · rfl
  · cases a with
    | accept => exact absurd rfl ha
    | take ranges next =>
      cases c with
      | none => rfl
      | some c =>
        by_cases hc : inRanges ranges c.toNat (ranges.size + 1) 0 ranges.size = true <;> simp [hc]
    | _ => rfl

theorem step_accept (ht : t ∈ ts) (ha : p.code[t.inst]? = some .accept) :
    (step p c s ts w).2.isSome = true := by
  induction ts generalizing w with
  | nil => cases ht
  | cons t' ts ih =>
    by_cases ha' : p.code[t'.inst]? = some .accept
    · rw [step_of_accept ha']
      rfl
    · rw [step_of_ne ha']
      rcases List.mem_cons.1 ht with rfl | ht
      · exact absurd ha ha'
      · exact ih ht

/-- What is found is a thread that accepts. -/
theorem exists_accept (h : (step p c s ts w).2.isSome = true) :
    ∃ t ∈ ts, p.code[t.inst]? = some .accept := by
  induction ts generalizing w with
  | nil => cases h
  | cons t ts ih =>
    by_cases ha : p.code[t.inst]? = some .accept
    · exact ⟨t, List.mem_cons_self, ha⟩
    · rw [step_of_ne ha] at h
      obtain ⟨t', ht', ha'⟩ := ih h
      exact ⟨t', List.mem_cons_of_mem _ ht', ha'⟩

/-- **Behind a character** nothing is left to follow, and the threads that waited for it are met. -/
theorem step_settled {A : Nat → Prop} (ts : List Thread) (hp : p.IsCounted) (h : Settled p s A [] w)
    (hnone : (step p c s ts w).2 = none) :
    Settled p s (fun i => A i ∨ ∃ t ∈ ts, ∃ t' ∈ p.advance c t, t'.inst = i) []
      (step p c s ts w).1 := by
  induction ts generalizing w A with
  | nil => exact h.mono fun i hi => hi.resolve_right nofun
  | cons t ts ih =>
    by_cases ha : p.code[t.inst]? = some .accept
    · rw [step_of_accept ha] at hnone
      cases hnone
    · rw [step_of_ne ha] at hnone ⊢
      cases hadvance : p.advance c t with
      | none =>
        rw [hadvance] at hnone
        refine (ih h hnone).mono fun i hi => ?_
        simpa [hadvance] using hi
      | some t' =>
        rw [hadvance] at hnone
        refine (ih (h.run hp t') hnone).mono fun i hi => ?_
        simpa [hadvance, or_assoc, eq_comm] using hi

/-- What a step adds to the threads has been reached from those that it started from. -/
theorem step_sound (G G' : Nat → Prop) (hG' : ∀ t, G' t.inst → ∀ t' ∈ p.onward s t, G' t'.inst)
    (hG : ∀ t, G t.inst → ∀ t' ∈ p.advance c t, G' t'.inst) (hts : ∀ t ∈ ts, G t.inst)
    (hw : ∀ t ∈ w.threads, G' t.inst) : ∀ t ∈ (step p c s ts w).1.threads, G' t.inst := by
  induction ts generalizing w with
  | nil => exact hw
  | cons t ts ih =>
    obtain ⟨ht, hts⟩ := List.forall_mem_cons.1 hts
    by_cases ha : p.code[t.inst]? = some .accept
    · rwa [step_of_accept ha]
    · rw [step_of_ne ha]
      cases hadvance : p.advance c t with
      | none => exact ih hts hw
      | some t' =>
        have ht' := hG t ht t' (by rw [hadvance]; rfl)
        exact ih hts (follow_sound G' hG' (List.forall_mem_singleton.2 ht') hw)

end Step

/-- What goes on behind a character gets to the end only if the thread does that waited for it. -/
theorem mem_advance {k : Nat} {before : Option Char} {c : Char} {r : Text} {t' : Thread}
    (h : t' ∈ p.advance (some c) t) :
    ∃ a, p.code[t.inst]? = some a ∧ a.Goes ⟨k, before, c :: r⟩ t'.inst ⟨k + 1, some c, r⟩ := by
  unfold advance at h
  split at h
  · rename_i ranges next c' ha hc
    obtain rfl := Option.some.inj hc
    split at h
    · rename_i hrange
      obtain rfl := Option.some.inj h
      exact ⟨_, ha, rfl, .intro k before c r hrange⟩
    · cases h
  · cases h

/-- A thread that is on its way to the end accepts, or a character takes it further. -/
theorem accept_or_advance (hlast : p.isLast t.inst = true) (hend : Ends p.code n t.inst s) :
    p.code[t.inst]? = some .accept ∨ ∃ c r, s.rest = c :: r ∧ ∃ t' ∈ p.advance (some c) t,
      ∃ m, Ends p.code m t'.inst ⟨s.index + 1, some c, r⟩ := by
  cases hend with
  | accept _ ha => exact .inl ha
  | step ha hgo hnext =>
    rename_i a j m u
    cases a with
    | take ranges next =>
      obtain ⟨rfl, ⟨index, before, c, r, hrange⟩⟩ := hgo
      exact .inr ⟨c, r, rfl, ⟨j, t.slots⟩, by simp [advance, ha, hrange], m, hnext⟩
    | accept => exact hgo.elim
    | fail => exact hgo.elim
    | check _ _ => simp [isLast, ha] at hlast
    | note _ _ => simp [isLast, ha] at hlast
    | choose _ => simp [isLast, ha] at hlast

/-! ### Searches -/

section Search

variable {A : Nat → Prop} {G : Prop} {k : Nat} {before : Option Char} {c : Char} {r : Text}
  {seen : Array Nat} {threads : List Thread} {best found : Option Slots} {w' : Wave}

/-- One character further on. -/
theorem skip_succ (n : Nat) :
    Spot.skip ⟨k, before, c :: r⟩ (n + 1) = Spot.skip ⟨k + 1, some c, r⟩ n := by
  cases n with
  | zero => rfl
  | succ n => simp only [Spot.skip, List.drop_succ_cons, List.getElem?_cons_succ, Nat.add_right_comm,
      Nat.add_assoc]

/-- What there is at a place before its character: the threads that got there and, while no match is
known, a new one. -/
def waveAt (p : Program) (s : Spot) (seen : Array Nat) (threads : List Thread) (best : Option Slots) :
    Wave :=
  if best.isSome then ⟨seen, threads.reverse⟩ else
    follow p s (p.steps + 1) [⟨p.start, Array.replicate p.slots none⟩] ⟨seen, threads.reverse⟩

/-- What there is behind the character, and what is found before it. -/
def turn (p : Program) (k : Nat) (c : Char) (r : Text) (w : Wave) : Wave × Option Slots :=
  step p (some c) ⟨k + 1, some c, r⟩ w.threads.reverse ⟨w.seen, []⟩

theorem searchFrom_nil : searchFrom p k before seen threads best [] =
    ((step p none ⟨k, before, []⟩ (p.waveAt ⟨k, before, []⟩ seen threads best).threads.reverse
      ⟨(p.waveAt ⟨k, before, []⟩ seen threads best).seen, []⟩).2).or best := rfl

theorem searchFrom_cons
    (hturn : p.turn k c r (p.waveAt ⟨k, before, c :: r⟩ seen threads best) = (w', found)) :
    searchFrom p k before seen threads best (c :: r) =
      if (found.or best).isSome && w'.threads.isEmpty then found.or best
      else searchFrom p (k + 1) (some c) w'.seen w'.threads.reverse (found.or best) r := by
  rw [turn] at hturn
  rw [searchFrom]
  simp only [waveAt] at hturn
  simp only [hturn]

/-- Whether the end can be reached from one of some instructions at a place. -/
def Live (p : Program) (A : Nat → Prop) (s : Spot) : Prop := ∃ i, A i ∧ ∃ n, Ends p.code n i s

/-! ### What there is, is found -/

/-- A match is not lost. -/
theorem searchFrom_best (h : best.isSome = true) (k : Nat) (before : Option Char) (seen : Array Nat)
    (threads : List Thread) (r : Text) : (searchFrom p k before seen threads best r).isSome = true := by
  induction r generalizing k before seen threads best with
  | nil => simp [searchFrom_nil, h]
  | cons c r ih =>
    rcases hturn : p.turn k c r (p.waveAt ⟨k, before, c :: r⟩ seen threads best) with ⟨w', found⟩
    have hbest : (found.or best).isSome = true := by simp [h]
    rw [searchFrom_cons hturn]
    split
    · exact hbest
    · exact ih hbest _ _ _ _

theorem Settled.waveAt (hp : p.IsCounted) (h : Settled p s A [] ⟨seen, threads.reverse⟩) :
    Settled p s (fun i => A i ∨ i = p.start) [] (p.waveAt s seen threads none) :=
  h.run hp ⟨p.start, Array.replicate p.slots none⟩

/-- If nothing is found before a character all threads are where it takes them. -/
theorem Settled.turn (hp : p.IsCounted) (h : Settled p ⟨k, before, c :: r⟩ A [] w)
    (hturn : p.turn k c r w = (w', none)) : Settled p ⟨k + 1, some c, r⟩
      (fun i => ∃ t ∈ w.threads.reverse, ∃ t' ∈ p.advance (some c) t, t'.inst = i) [] w' := by
  have hstart : Settled p ⟨k + 1, some c, r⟩ (fun _ => False) [] ⟨w.seen, []⟩ := .start h.size h.marks
  have hsettled := step_settled (c := some c) w.threads.reverse hp hstart (congrArg Prod.snd hturn)
  rw [show (step p (some c) ⟨k + 1, some c, r⟩ _ _).1 = w' from congrArg Prod.fst hturn] at hsettled
  exact hsettled.mono fun i hi => .inr hi

/-- Where the end can be reached a thread accepts, or it can be reached behind the character. -/
theorem Settled.accept_or_live (h : Settled p s A [] w) (hlive : p.Live A s) :
    (∃ t ∈ w.threads.reverse, p.code[t.inst]? = some .accept) ∨ ∃ c r, s.rest = c :: r ∧
      p.Live (fun i => ∃ t ∈ w.threads.reverse, ∃ t' ∈ p.advance (some c) t, t'.inst = i)
        ⟨s.index + 1, some c, r⟩ := by
  obtain ⟨i, hi, n, hend⟩ := hlive
  obtain ⟨t, ht, hlast, m, hend⟩ := h.exists_thread (h.wanted hi) hend
  refine (accept_or_advance hlast hend).imp (fun haccept => ⟨t, List.mem_reverse.2 ht, haccept⟩) ?_
  rintro ⟨c, r, hr, t', ht', hend'⟩
  exact ⟨c, r, hr, t'.inst, ⟨t, List.mem_reverse.2 ht, t', ht', rfl⟩, hend'⟩

/-- What is to be reached from a place on is reached from there, or from the next place on. -/
theorem live_or_skip (hlive : p.Live A ⟨k, before, r⟩ ∨
      ∃ n ≤ r.length, p.Live (· = p.start) (Spot.skip ⟨k, before, r⟩ n)) :
    p.Live (fun i => A i ∨ i = p.start) ⟨k, before, r⟩ ∨ ∃ c r', r = c :: r' ∧
      ∃ n ≤ r'.length, p.Live (· = p.start) (Spot.skip ⟨k + 1, some c, r'⟩ n) := by
  rcases hlive with ⟨i, hi, hend⟩ | ⟨_ | n, hn, hlive⟩
  · exact .inl ⟨i, .inl hi, hend⟩
  · obtain ⟨i, hi, hend⟩ := hlive
    exact .inl ⟨i, .inr hi, hend⟩
  · cases r with
    | nil => cases hn
    | cons c r' =>
      rw [skip_succ] at hlive
      exact .inr ⟨c, r', rfl, n, Nat.le_of_succ_le_succ hn, hlive⟩

/-- **What there is to be found is found**: a search that has settled at a place comes to a match if
the end can be reached from one of its instructions, or from the first one here or further on. -/
theorem searchFrom_complete (hp : p.IsCounted)
    (h : Settled p ⟨k, before, r⟩ A [] ⟨seen, threads.reverse⟩)
    (hlive : p.Live A ⟨k, before, r⟩ ∨
      ∃ n ≤ r.length, p.Live (· = p.start) (Spot.skip ⟨k, before, r⟩ n)) :
    (searchFrom p k before seen threads best r).isSome = true := by
  induction r generalizing k before seen threads best A with
  | nil =>
    cases best with
    | some b => exact searchFrom_best rfl _ _ _ _ _
    | none =>
      rcases live_or_skip hlive with hlive | ⟨c, r', hr, -⟩
      · rcases (h.waveAt hp).accept_or_live hlive with ⟨t, ht, haccept⟩ | ⟨c, r, hr, -⟩
        · rw [searchFrom_nil, Option.isSome_or, step_accept ht haccept]
          rfl
        · cases hr
      · cases hr
  | cons c r ih =>
    cases best with
    | some b => exact searchFrom_best rfl _ _ _ _ _
    | none =>
      rcases hturn : p.turn k c r (p.waveAt ⟨k, before, c :: r⟩ seen threads none) with ⟨w', found⟩
      rw [searchFrom_cons hturn]
      cases found with
      | some b =>
        split
        · rfl
        · exact searchFrom_best rfl _ _ _ _ _
      | none =>
        refine ih (by rw [List.reverse_reverse]; exact (h.waveAt hp).turn hp hturn) ?_
        rcases live_or_skip hlive with hlive | ⟨c', r', hr, hlive⟩
        · rcases (h.waveAt hp).accept_or_live hlive with ⟨t, ht, haccept⟩ | ⟨c', r', hr, hlive⟩
          · -- a thread that accepts would have been found
            have hfound :
                (p.turn k c r (p.waveAt ⟨k, before, c :: r⟩ seen threads none)).2.isSome = true :=
              step_accept ht haccept
            rw [hturn] at hfound
            cases hfound
          · obtain ⟨rfl, rfl⟩ := List.cons.inj hr
            exact .inl hlive
        · obtain ⟨rfl, rfl⟩ := List.cons.inj hr
          exact .inr hlive

/-! ### What is found, is there -/

/-- What one goes on to, without a character or behind one, reaches the end only if the one does. -/
theorem ends_of_goes {a : Inst} {u : Spot} (h : ∀ n, Ends p.code n i s → G)
    (ha : p.code[i]? = some a) (hgo : a.Goes s j u) : ∀ n, Ends p.code n j u → G :=
  fun _ hend => h _ (.step ha hgo hend)

theorem waveAt_sound (seen : Array Nat) (best : Option Slots)
    (hthreads : ∀ t ∈ threads, ∀ n, Ends p.code n t.inst s → G)
    (hstart : ∀ n, Ends p.code n p.start s → G) :
    ∀ t ∈ (p.waveAt s seen threads best).threads, ∀ n, Ends p.code n t.inst s → G := by
  have hreverse : ∀ t ∈ threads.reverse, ∀ n, Ends p.code n t.inst s → G :=
    fun t ht => hthreads t (List.mem_reverse.1 ht)
  unfold waveAt
  split
  · exact hreverse
  · refine follow_sound (fun i => ∀ n, Ends p.code n i s → G) (fun t ht t' ht' => ?_)
      (List.forall_mem_singleton.2 hstart) hreverse
    obtain ⟨a, ha, hgo⟩ := mem_onward ht'
    exact ends_of_goes ht ha hgo

theorem turn_sound (hturn : p.turn k c r w = (w', found))
    (hw : ∀ t ∈ w.threads, ∀ n, Ends p.code n t.inst ⟨k, before, c :: r⟩ → G) :
    (found.isSome = true → G) ∧
      ∀ t ∈ w'.threads, ∀ n, Ends p.code n t.inst ⟨k + 1, some c, r⟩ → G := by
  have hreverse := fun t ht => hw t (List.mem_reverse.1 ht)
  rw [← show (p.turn k c r w).1 = w' from congrArg Prod.fst hturn,
    ← show (p.turn k c r w).2 = found from congrArg Prod.snd hturn]
  constructor
  · intro hfound
    obtain ⟨t, ht, haccept⟩ := exists_accept hfound
    exact hreverse t ht 0 (.accept _ haccept)
  · refine step_sound (fun i => ∀ n, Ends p.code n i ⟨k, before, c :: r⟩ → G)
      (fun i => ∀ n, Ends p.code n i ⟨k + 1, some c, r⟩ → G) (fun t ht t' ht' => ?_)
      (fun t ht t' ht' => ?_) hreverse nofun
    · obtain ⟨a, ha, hgo⟩ := mem_onward ht'
      exact ends_of_goes ht ha hgo
    · obtain ⟨a, ha, hgo⟩ := mem_advance ht'
      exact ends_of_goes ht ha hgo

/-- **What is found is there**: a search comes to a match only if there was one before, or the end can
be reached from a thread, or from the first instruction here or further on. -/
theorem searchFrom_sound (hbest : best.isSome = true → G)
    (hthreads : ∀ t ∈ threads, ∀ n, Ends p.code n t.inst ⟨k, before, r⟩ → G)
    (hstart : ∀ n ≤ r.length, ∀ m, Ends p.code m p.start (Spot.skip ⟨k, before, r⟩ n) → G)
    (h : (searchFrom p k before seen threads best r).isSome = true) : G := by
  induction r generalizing k before seen threads best with
  | nil =>
    rw [searchFrom_nil, Option.isSome_or, Bool.or_eq_true] at h
    rcases h with hfound | h
    · obtain ⟨t, ht, haccept⟩ := exists_accept hfound
      exact waveAt_sound seen best hthreads (hstart 0 (Nat.le_refl _)) t (List.mem_reverse.1 ht) 0
        (.accept _ haccept)
    · exact hbest h
  | cons c r ih =>
    rcases hturn : p.turn k c r (p.waveAt ⟨k, before, c :: r⟩ seen threads best) with ⟨w', found⟩
    obtain ⟨hfound, hthreads'⟩ :=
      turn_sound hturn (waveAt_sound seen best hthreads (hstart 0 (Nat.zero_le _)))
    have hbest' : (found.or best).isSome = true → G := by
      rw [Option.isSome_or, Bool.or_eq_true]
      exact fun h => h.elim hfound hbest
    rw [searchFrom_cons hturn] at h
    split at h
    · exact hbest' h
    · refine ih hbest' (fun t ht => hthreads' t (List.mem_reverse.1 ht)) (fun n hn => ?_) h
      rw [← skip_succ]
      exact hstart (n + 1) (Nat.succ_le_succ hn)

/-- **A search finds a match where there is one.** -/
theorem search_isSome_iff (hp : p.IsCounted) (s : Spot) : (p.search s).isSome = true ↔
    ∃ n ≤ s.rest.length, ∃ m, Ends p.code m p.start (s.skip n) := by
  obtain ⟨k, before, r⟩ := s
  constructor
  · exact searchFrom_sound nofun nofun fun n hn m hend => ⟨n, hn, m, hend⟩
  · rintro ⟨n, hn, m, hend⟩
    have hsettled : Settled p ⟨k, before, r⟩ (fun _ => False) [] ⟨Array.replicate p.code.size 0, []⟩ :=
      .start Array.size_replicate fun m hm => by
        rw [Array.eq_of_mem_replicate hm]
        exact Nat.zero_le k
    exact searchFrom_complete hp hsettled (.inr ⟨n, hn, _, rfl, m, hend⟩)

end Search

/-! ### Programs of expressions -/

theorem foldl_steps (l : List Inst) (k : Nat) : l.foldl (fun n a => n + a.steps) k =
    k + ∑ i ∈ Finset.range l.length, (l[i]?.map Inst.steps).getD 0 := by
  induction l generalizing k with
  | nil => rfl
  | cons a l ih =>
    rw [List.foldl_cons, ih, List.length_cons, Finset.sum_range_succ', Nat.add_assoc,
      Nat.add_comm a.steps]
    rfl

theorem isCounted_ofExpr (e : Expr) (captures : Nat) : (Program.ofExpr e captures).IsCounted := by
  intro s seen
  have hsteps : (Program.ofExpr e captures).steps =
      ∑ i ∈ Finset.range (Program.ofExpr e captures).code.size, (Program.ofExpr e captures).cost i := by
    have hsum := foldl_steps (Program.ofExpr e captures).code.toList 0
    rw [Array.foldl_toList, Array.length_toList, Nat.zero_add] at hsum
    refine Eq.trans hsum (Finset.sum_congr rfl fun i _ => ?_)
    rw [cost, Array.getElem?_toList]
  rw [hsteps]
  refine Finset.sum_le_sum fun i _ => ?_
  split
  · exact Nat.zero_le _
  · exact Nat.le_refl _

end Program

/-- **A pattern matches in a text where its expression does.** -/
theorem isMatch_ofExpr (e : Expr) (captures : Nat) (names : List (Text × Nat)) (t : Text) :
    Regex.isMatch ⟨Program.ofExpr e captures, names⟩ t = true ↔
      ∃ n ≤ t.length, ∃ u, e.Spans (Spot.skip ⟨0, none, t⟩ n) u := by
  rw [isMatch, Program.search_isSome_iff (Program.isCounted_ofExpr e captures)]
  simp only [Program.ends_ofExpr]

/-- A pattern that compiles has an expression, and it matches in a text where that does. -/
theorem isMatch_compile? {pattern : Text} {x : Regex} (h : compile? pattern = some x) :
    ∃ s e f, Syntax.parse? pattern = some s ∧ s.toExpr? .initial = some (e, f) ∧
      ∀ t, x.isMatch t = true ↔ ∃ n ≤ t.length, ∃ u, e.Spans (Spot.skip ⟨0, none, t⟩ n) u := by
  obtain ⟨s, hs, h⟩ := Option.bind_eq_some_iff.1 h
  obtain ⟨⟨e, f⟩, he, h⟩ := Option.bind_eq_some_iff.1 h
  dsimp only at h
  split at h
  · obtain rfl := Option.some.inj h
    exact ⟨s, e, f, hs, he, isMatch_ofExpr e s.captures s.groupNames⟩
  · cases h

end HtmlCanon.Regex
