import HtmlCanon.Proofs.Edit.SpaceRuns
import HtmlCanon.Regex

/-!
# The pattern for several spaces

Several spaces in a row are what the pattern ` {2,}` describes. A search for it goes through a text with
a few threads: one that starts, one that has met a space and waits for more, and, after the second
space, one that has arrived. A thread that starts later is behind the others, so what is found is the
first run, and all of it.

* `follow_start`, `follow_choice`, `follow_space` : where threads get without a character.
* `Turns` : what becomes of the threads with a character, **one step of a search**.
* `Yields`, `Finds` : what a search comes to from a place on.
* `Finds.of_single`, `Finds.first_run` : **the first run is found**, and all of it.
* `isMatch_severalSpaces` : there is a match when two spaces stand side by side.
* `replaceAll_severalSpaces` : **one space takes the place of each run**.
-/

namespace HtmlCanon.Regex

open Program

variable {i a b n m : Nat} {t pre post : Text} {c : Char} {best best' found o : Option Slots}
  {ts ts' : List Thread} {seen : Array Nat}

/-- The pattern for several spaces, compiled. -/
def severalSpaces : Regex where
  program :=
    { code := #[.accept, .note 1 0, .choose [3, 1], .take #[(32, 32)] 2, .take #[(32, 32)] 3, .note 0 4]
      start := 5
      slots := 2
      steps := 7 }
  names := []

theorem compile?_spaces : compile? " {2,}".toList = some severalSpaces := rfl

/-! ### Threads -/

/-- A thread that starts at `a`. -/
def started (a : Nat) : Thread := ⟨4, #[some a, none]⟩

/-- A thread that has met a space, at `a`, and waits for more. -/
def waiting (a : Nat) : Thread := ⟨3, #[some a, none]⟩

/-- A thread that has met the spaces from `a` up to `b`. -/
def arrived (a b : Nat) : Thread := ⟨0, #[some a, some b]⟩

/-- The marks on instructions are at most `m` on those that a search starts with, and at most `n` on the
others. -/
def IsMarked (n m : Nat) (seen : Array Nat) : Prop :=
  ∃ s0 s1 s2 s3 s4 s5, seen = #[s0, s1, s2, s3, s4, s5] ∧
    (s0 ≤ n ∧ s1 ≤ n ∧ s2 ≤ n ∧ s3 ≤ n) ∧ s4 ≤ m ∧ s5 ≤ m

theorem IsMarked.mono (h : IsMarked n m seen) {n' m' : Nat} (hn : n ≤ n') (hm : m ≤ m') :
    IsMarked n' m' seen := by
  obtain ⟨s0, s1, s2, s3, s4, s5, rfl, ⟨h0, h1, h2, h3⟩, h4, h5⟩ := h
  exact ⟨s0, s1, s2, s3, s4, s5, rfl, by omega, by omega, by omega⟩

/-- A search may start at a place where its first instructions are not marked. -/
theorem follow_start (h : IsMarked (i + 1) i seen) (before : Option Char) (r : Text) (ts : List Thread) :
    ∃ seen', IsMarked (i + 1) (i + 1) seen' ∧
      follow severalSpaces.program ⟨i, before, r⟩ 8 [⟨5, Array.replicate 2 none⟩] ⟨seen, ts⟩ =
        ⟨seen', started i :: ts⟩ := by
  obtain ⟨s0, s1, s2, s3, s4, s5, rfl, h03, h4, h5⟩ := h
  have h4 : s4 ≠ i + 1 := by omega
  have h5 : s5 ≠ i + 1 := by omega
  refine ⟨#[s0, s1, s2, s3, i + 1, i + 1], ⟨_, _, _, _, _, _, rfl, h03, le_rfl, le_rfl⟩, ?_⟩
  simp [follow, severalSpaces, started, h4, h5]
  rfl

/-- After its first space a thread waits. -/
theorem follow_space (h : IsMarked i i seen) (before : Option Char) (r : Text) (ts : List Thread) :
    ∃ seen', IsMarked (i + 1) i seen' ∧
      follow severalSpaces.program ⟨i, before, r⟩ 8 [⟨3, #[some a, none]⟩] ⟨seen, ts⟩ =
        ⟨seen', waiting a :: ts⟩ := by
  obtain ⟨s0, s1, s2, s3, s4, s5, rfl, ⟨h0, h1, h2, h3⟩, h45⟩ := h
  have h3 : s3 ≠ i + 1 := by omega
  refine ⟨#[s0, s1, s2, i + 1, s4, s5], ⟨_, _, _, _, _, _, rfl, by omega, h45⟩, ?_⟩
  simp [follow, severalSpaces, waiting, h3]

/-- After another space it waits for more, and a thread behind it has arrived; one that comes after
them does not get where they are. -/
theorem follow_choice (h : IsMarked i i seen) (before : Option Char) (r : Text) :
    ∃ seen', IsMarked (i + 1) i seen' ∧
      follow severalSpaces.program ⟨i, before, r⟩ 8 [⟨2, #[some a, none]⟩] ⟨seen, []⟩ =
        ⟨seen', [arrived a i, waiting a]⟩ ∧
      ∀ ts s, follow severalSpaces.program ⟨i, before, r⟩ 8 [⟨3, s⟩] ⟨seen', ts⟩ = ⟨seen', ts⟩ := by
  obtain ⟨s0, s1, s2, s3, s4, s5, rfl, ⟨h0, h1, h2, h3⟩, h45⟩ := h
  have h0 : s0 ≠ i + 1 := by omega
  have h1 : s1 ≠ i + 1 := by omega
  have h2 : s2 ≠ i + 1 := by omega
  have h3 : s3 ≠ i + 1 := by omega
  refine ⟨#[i + 1, i + 1, i + 1, i + 1, s4, s5], ⟨_, _, _, _, _, _, rfl, by omega, h45⟩, ?_, fun ts s => ?_⟩
  · simp [follow, severalSpaces, arrived, waiting, h0, h1, h2, h3]
  · simp [follow]

/-! ### Steps -/

theorem inRanges_space (c : Char) : inRanges #[(32, 32)] c.toNat 2 0 1 = (c == ' ') := by
  rw [Bool.eq_iff_iff, beq_iff_eq, ← Char.toNat_inj]
  simp [inRanges]
  grind

section Steps

variable (next : Spot) (ts : List Thread) (w : Wave)

/-- A thread that waits for a space goes on if one comes. -/
theorem step_take {j k : Nat} {slots : Slots}
    (h : severalSpaces.program.code[j]? = some (.take #[(32, 32)] k)) (c : Char) :
    step severalSpaces.program (some c) next (⟨j, slots⟩ :: ts) w =
      step severalSpaces.program (some c) next ts
        (if c == ' ' then follow severalSpaces.program next 8 [⟨k, slots⟩] w else w) := by
  have hranges : inRanges #[(32, 32)] c.toNat ((#[(32, 32)] : Array (Nat × Nat)).size + 1) 0
      (#[(32, 32)] : Array (Nat × Nat)).size = (c == ' ') := inRanges_space c
  rw [step.eq_def]
  simp only [h, hranges]
  split <;> rfl

theorem step_waiting (c : Char) :
    step severalSpaces.program (some c) next (waiting a :: ts) w =
      step severalSpaces.program (some c) next ts
        (if c == ' ' then follow severalSpaces.program next 8 [⟨2, #[some a, none]⟩] w else w) :=
  step_take next ts w rfl c

theorem step_started (c : Char) :
    step severalSpaces.program (some c) next (started a :: ts) w =
      step severalSpaces.program (some c) next ts
        (if c == ' ' then follow severalSpaces.program next 8 [⟨3, #[some a, none]⟩] w else w) :=
  step_take next ts w rfl c

theorem step_arrived (c : Option Char) :
    step severalSpaces.program c next (arrived a b :: ts) w = (w, some #[some a, some b]) := by
  cases c <;> rfl

theorem step_nil (c : Option Char) : step severalSpaces.program c next [] w = (w, none) := rfl

end Steps

/-- **One step of a search**: what becomes of some threads with the character at a place, and the match
that is found there. -/
def Turns (i : Nat) (c : Char) (ts ts' : List Thread) (found : Option Slots) : Prop :=
  ∀ r seen, IsMarked (i + 1) (i + 1) seen → ∃ seen', IsMarked (i + 2) (i + 1) seen' ∧
    step severalSpaces.program (some c) ⟨i + 1, some c, r⟩ ts ⟨seen, []⟩ = (⟨seen', ts'.reverse⟩, found)

namespace Turns

/-- A thread that meets something else goes. -/
theorem other (hc : c ≠ ' ') : Turns i c [started i] [] none := by
  intro r seen h
  have hno : (c == ' ') = false := beq_eq_false_iff_ne.2 hc
  refine ⟨seen, h.mono (by omega) le_rfl, ?_⟩
  rw [step_started, hno, step_nil]
  rfl

theorem waiting_other (hc : c ≠ ' ') : Turns i c [waiting a, started i] [] none := by
  intro r seen h
  have hno : (c == ' ') = false := beq_eq_false_iff_ne.2 hc
  refine ⟨seen, h.mono (by omega) le_rfl, ?_⟩
  rw [step_waiting, step_started, hno, step_nil]
  rfl

/-- All that have arrived are found when nothing more comes. -/
theorem arrived_other (hc : c ≠ ' ') (ts : List Thread) :
    Turns i c (waiting a :: arrived a i :: ts) [] (some #[some a, some i]) := by
  intro r seen h
  have hno : (c == ' ') = false := beq_eq_false_iff_ne.2 hc
  refine ⟨seen, h.mono (by omega) le_rfl, ?_⟩
  rw [step_waiting, hno, step_arrived]
  rfl

theorem space : Turns i ' ' [started i] [waiting i] none := by
  intro r seen h
  obtain ⟨seen', hseen, hfollow⟩ := follow_space h (some ' ') r []
  refine ⟨seen', hseen, ?_⟩
  rw [step_started, beq_self_eq_true, if_pos rfl, hfollow, step_nil]
  rfl

/-- With a second space a thread has arrived, and the one that starts there comes too late. -/
theorem waiting_space : Turns i ' ' [waiting a, started i] [waiting a, arrived a (i + 1)] none := by
  intro r seen h
  obtain ⟨seen', hseen, hfollow, hagain⟩ := follow_choice h (some ' ') r
  refine ⟨seen', hseen, ?_⟩
  rw [step_waiting, step_started, beq_self_eq_true, if_pos rfl, if_pos rfl, hfollow, hagain, step_nil]
  rfl

theorem arrived_space (ts : List Thread) :
    Turns i ' ' (waiting a :: arrived a i :: ts) [waiting a, arrived a (i + 1)]
      (some #[some a, some i]) := by
  intro r seen h
  obtain ⟨seen', hseen, hfollow, -⟩ := follow_choice h (some ' ') r
  refine ⟨seen', hseen, ?_⟩
  rw [step_waiting, beq_self_eq_true, if_pos rfl, hfollow, step_arrived]
  rfl

end Turns

/-! ### Searches -/

/-- What a search comes to that is at a place with some threads and a match so far. -/
def Yields (i : Nat) (ts : List Thread) (best : Option Slots) (t : Text) (o : Option Slots) : Prop :=
  ∀ before seen, IsMarked (i + 1) i seen → searchFrom severalSpaces.program i before seen ts best t = o

/-- The threads at a place: no new one starts once there is a match. -/
def threadsAt (i : Nat) (ts : List Thread) (best : Option Slots) : List Thread :=
  if best.isSome then ts else ts ++ [started i]

/-- The threads that are there before a character, with their marks. -/
theorem exists_wave (h : IsMarked (i + 1) i seen) (ts : List Thread) (best : Option Slots)
    (before : Option Char) (r : Text) :
    ∃ seen', IsMarked (i + 1) (i + 1) seen' ∧
      (if best.isSome then ⟨seen, ts.reverse⟩ else
        follow severalSpaces.program ⟨i, before, r⟩ (severalSpaces.program.steps + 1)
          [⟨severalSpaces.program.start, Array.replicate severalSpaces.program.slots none⟩]
          ⟨seen, ts.reverse⟩) = (⟨seen', (threadsAt i ts best).reverse⟩ : Wave) := by
  rw [threadsAt]
  cases best with
  | some s => exact ⟨seen, h.mono le_rfl (by omega), rfl⟩
  | none =>
    obtain ⟨seen', hseen, hfollow⟩ := follow_start h before r ts.reverse
    refine ⟨seen', hseen, hfollow.trans ?_⟩
    rw [if_neg (by decide), List.reverse_concat]

namespace Yields

/-- A step, and what the search comes to after it. -/
theorem cons (h : Turns i c (threadsAt i ts best) ts' found) (hbest : found.or best = best')
    (hrest : Yields (i + 1) ts' best' t o) (hmore : (best'.isSome && ts'.isEmpty) = false) :
    Yields i ts best (c :: t) o := by
  intro before seen hseen
  obtain ⟨seen', hseen', hwave⟩ := exists_wave hseen ts best before (c :: t)
  obtain ⟨seen'', hseen'', hstep⟩ := h t seen' hseen'
  rw [searchFrom]
  simp only [hwave, List.reverse_reverse, hstep, hbest, List.isEmpty_reverse, hmore]
  exact hrest _ _ hseen''

/-- A step after which nothing better can be found. -/
theorem last (h : Turns i c (threadsAt i ts best) [] found) (hbest : found.or best = best')
    (hsome : best'.isSome = true) : Yields i ts best (c :: t) best' := by
  intro before seen hseen
  obtain ⟨seen', hseen', hwave⟩ := exists_wave hseen ts best before (c :: t)
  obtain ⟨seen'', hseen'', hstep⟩ := h t seen' hseen'
  rw [searchFrom]
  simp only [hwave, List.reverse_reverse, hstep, hbest, List.isEmpty_reverse, hsome]
  rfl

/-- The end of the text. -/
theorem nil (h : ∀ s w, (step severalSpaces.program none s (threadsAt i ts best) w).2 = found) :
    Yields i ts best [] (found.or best) := by
  intro before seen hseen
  obtain ⟨seen', -, hwave⟩ := exists_wave hseen ts best before []
  rw [searchFrom]
  simp only [hwave, List.reverse_reverse, h]

/-- **All of a run is found**, once two of its spaces have been met. -/
theorem run (hpost : post.head? ≠ some ' ') (k : Nat) :
    Yields i [waiting a, arrived a i] best (List.replicate k ' ' ++ post)
      (some #[some a, some (i + k)]) := by
  have hthreads : ∀ i best, ∃ us, threadsAt i [waiting a, arrived a i] best =
      waiting a :: arrived a i :: us := fun i best => by
    cases best with
    | none => exact ⟨[started i], rfl⟩
    | some s => exact ⟨[], rfl⟩
  induction k generalizing i best with
  | zero =>
    obtain ⟨us, hus⟩ := hthreads i best
    rw [List.replicate_zero, List.nil_append, Nat.add_zero]
    cases post with
    | nil =>
      have hend : ∀ s w,
          (step severalSpaces.program none s (threadsAt i [waiting a, arrived a i] best) w).2 =
            some #[some a, some i] := fun s w => by
        rw [hus]
        rfl
      exact nil hend
    | cons c r =>
      have hc : c ≠ ' ' := fun h => hpost (congrArg some h)
      exact last (hus ▸ Turns.arrived_other hc us) rfl rfl
  | succ k ih =>
    obtain ⟨us, hus⟩ := hthreads i best
    rw [List.replicate_succ, List.cons_append, ← Nat.add_assoc, Nat.add_right_comm]
    exact cons (hus ▸ Turns.arrived_space us) rfl ih rfl

theorem search_eq (h : Yields i [] none t o) (before : Option Char) :
    severalSpaces.program.search ⟨i, before, t⟩ = o := by
  refine h before _ ⟨0, 0, 0, 0, 0, 0, rfl, ?_, ?_⟩ <;> omega

end Yields

/-- What a search comes to from each place on, whether or not a thread waits there for a second space, as
long as no two spaces stand side by side in `u`, or in a space and `u`. -/
def Finds (u t : Text) (o : Nat → Option Slots) : Prop :=
  (¬[' ', ' '] <:+: u → ∀ i, Yields i [] none t (o i)) ∧
    (¬[' ', ' '] <:+: ' ' :: u → ∀ i a, Yields i [waiting a] none t (o i))

namespace Finds

variable {u : Text} {os : Nat → Option Slots}

/-- One more character in front. -/
theorem cons (h : Finds u t os) (c : Char) : Finds (c :: u) (c :: t) fun i => os (i + 1) := by
  refine ⟨fun hsingle i => ?_, fun hsingle i a => ?_⟩
  · by_cases hc : c = ' '
    · rw [hc] at hsingle ⊢
      exact .cons .space rfl (h.2 hsingle _ _) rfl
    · exact .cons (.other hc) rfl (h.1 (not_isInfix_of_cons hsingle) _) rfl
  · have hc : c ≠ ' ' := by
      rintro rfl
      exact hsingle (List.prefix_append [' ', ' '] u).isInfix
    have hrest := not_isInfix_of_cons (not_isInfix_of_cons hsingle)
    exact .cons (.waiting_other hc) rfl (h.1 hrest _) rfl

/-- Nothing is found in a text without several spaces in a row. -/
theorem of_single (t : Text) : Finds t t fun _ => none := by
  induction t with
  | nil =>
    have hnone : ∀ i s w, (step severalSpaces.program none s (threadsAt i [] none) w).2 = none :=
      fun _ _ _ => rfl
    have hwaiting : ∀ i a s w,
        (step severalSpaces.program none s (threadsAt i [waiting a] none) w).2 = none :=
      fun _ _ _ _ => rfl
    exact ⟨fun _ i => .nil (hnone i), fun _ i a => .nil (hwaiting i a)⟩
  | cons c r ih => exact ih.cons c

/-- **The first run is found.** -/
theorem first_run (hpost : post.head? ≠ some ' ') (k : Nat) (pre : Text) :
    Finds (pre ++ [' ']) (pre ++ (List.replicate (k + 2) ' ' ++ post)) fun i =>
      some #[some (i + pre.length), some (i + pre.length + (k + 2))] := by
  induction pre with
  | nil =>
    refine ⟨fun _ i => ?_, fun h => absurd (List.infix_refl _) h⟩
    have hrun : Yields (i + 1 + 1) [waiting i, arrived i (i + 1 + 1)] none
        (List.replicate k ' ' ++ post) (some #[some i, some (i + 1 + 1 + k)]) := .run hpost k
    rw [show i + 1 + 1 + k = i + (k + 2) by omega] at hrun
    exact .cons .space rfl (.cons .waiting_space rfl hrun rfl) rfl
  | cons c pre ih =>
    have hlen : ∀ i, i + (c :: pre).length = i + 1 + pre.length := fun i => by
      rw [List.length_cons]
      omega
    simp only [hlen]
    exact ih.cons c

end Finds

/-! ### Matches -/

theorem search_of_single (h : ¬[' ', ' '] <:+: t) (i : Nat) (before : Option Char) :
    severalSpaces.program.search ⟨i, before, t⟩ = none :=
  ((Finds.of_single t).1 h i).search_eq before

theorem search_run (hpre : ¬[' ', ' '] <:+: pre ++ [' ']) (hpost : post.head? ≠ some ' ') (k i : Nat)
    (before : Option Char) :
    severalSpaces.program.search ⟨i, before, pre ++ (List.replicate (k + 2) ' ' ++ post)⟩ =
      some #[some (i + pre.length), some (i + pre.length + (k + 2))] :=
  ((Finds.first_run hpost k pre).1 hpre i).search_eq before

/-- **There is a match exactly in a text with two spaces side by side.** -/
theorem isMatch_severalSpaces (t : Text) : severalSpaces.isMatch t = true ↔ [' ', ' '] <:+: t := by
  rw [isMatch]
  constructor
  · intro h
    by_contra hnone
    rw [search_of_single hnone] at h
    cases h
  · intro h
    obtain ⟨pre, k, post, rfl, hpre, hpost⟩ := exists_first_run h
    rw [search_run hpre hpost]
    rfl

/-- The next match is the first run. -/
theorem next?_run (hpre : ¬[' ', ' '] <:+: pre ++ [' ']) (hpost : post.head? ≠ some ' ') (k i : Nat)
    (before : Option Char) (last : Option Nat) :
    severalSpaces.next? ⟨i, before, pre ++ (List.replicate (k + 2) ' ' ++ post)⟩ last =
      some ⟨i + pre.length, i + pre.length + (k + 2),
        #[some (i + pre.length), some (i + pre.length + (k + 2))]⟩ := by
  have hsize : (i + pre.length == i + pre.length + (k + 2)) = false := by
    rw [beq_eq_false_iff_ne]
    omega
  have hfind : severalSpaces.find? ⟨i, before, pre ++ (List.replicate (k + 2) ' ' ++ post)⟩ =
      some ⟨i + pre.length, i + pre.length + (k + 2),
        #[some (i + pre.length), some (i + pre.length + (k + 2))]⟩ := by
    rw [find?, search_run hpre hpost]
    rfl
  rw [next?, hfind]
  simp only [hsize, Bool.false_and]
  rfl

theorem replaceFrom_severalSpaces (whole : Array Char) (t : Text) (n i : Nat) (before : Option Char)
    (last : Option Nat) (hn : t.length < n) :
    severalSpaces.replaceFrom whole [.text [' ']] n ⟨i, before, t⟩ last = collapseSpaces t := by
  induction t using run_induction generalizing n i before last with
  | last t h =>
    obtain ⟨n, rfl⟩ := Nat.exists_eq_add_of_lt hn
    have hnext : severalSpaces.next? ⟨i, before, t⟩ last = none := by
      rw [next?, find?, search_of_single h]
      rfl
    rw [replaceFrom, hnext, collapseSpaces_of_single h]
  | more pre k post hpre hpost ih =>
    obtain ⟨n, rfl⟩ := Nat.exists_eq_succ_of_ne_zero (Nat.ne_zero_of_lt hn)
    obtain ⟨d, hskip⟩ : ∃ d, Spot.skip ⟨i, before, pre ++ (List.replicate (k + 2) ' ' ++ post)⟩
        (pre.length + (k + 2)) = ⟨i + (pre.length + (k + 2)), d, post⟩ := by
      refine ⟨_, congrArg (Spot.mk _ _) ?_⟩
      rw [← List.append_assoc]
      exact List.drop_left' (by rw [List.length_append, List.length_replicate]; rfl)
    have hless : post.length < n := by
      rw [List.length_append, List.length_append, List.length_replicate] at hn
      omega
    rw [replaceFrom, next?_run hpre hpost, collapseSpaces_run hpre hpost]
    simp only [Nat.add_sub_cancel_left, Nat.add_assoc, hskip, List.take_left, ih _ _ _ _ hless]
    rw [List.append_assoc]
    rfl

/-- **One space takes the place of each run** when the matches are replaced. -/
theorem replaceAll_severalSpaces (t : Text) : severalSpaces.replaceAll [' '] t = collapseSpaces t := by
  have hpieces : pieces [' '] = [.text [' ']] := by
    simp [pieces]
  rw [replaceAll, hpieces]
  exact replaceFrom_severalSpaces _ t _ 0 none none (by omega)

end HtmlCanon.Regex
