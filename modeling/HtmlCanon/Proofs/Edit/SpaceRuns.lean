import HtmlCanon.Edit.Spacing
import HtmlCanon.Proofs.Text
import Mathlib.Data.List.SplitBy

/-!
# Runs of spaces

A text falls into the longest stretches of spaces and the characters between them. Several spaces in
a row count as one: each stretch of more than one space becomes one space.

* `exists_first_run`, `run_induction` : induction on the runs of several spaces in a text.
* `collapseSpaces_eq` : **one space takes the place of every longest run of several**.
* `not_isInfix_collapseSpaces`, `filter_collapseSpaces` : no two spaces are left side by side, and
  nothing but spaces goes.
* `collapseSpaces_collapseSpaces` : after that nothing changes any more.
-/

namespace HtmlCanon

variable {t pre post : Text} {k : Nat}

/-- The longest stretches of spaces in a text, and the characters between them one by one. -/
def spaceRuns (t : Text) : List Text := t.splitBy fun c d => c == ' ' && d == ' '

/-- A text with one space in place of each longest stretch of several. -/
def collapseRuns (t : Text) : Text := (spaceRuns t).flatMap fun r => if 2 ≤ r.length then [' '] else r

/-! ### The first run -/

/-- What stands behind a character has no more runs. -/
theorem not_isInfix_of_cons {c : Char} (h : ¬[' ', ' '] <:+: c :: t) : ¬[' ', ' '] <:+: t := fun hin =>
  h (hin.trans (List.suffix_cons c t).isInfix)

/-- A run of spaces starts with one. -/
theorem isPrefix_run (pre : Text) (k : Nat) (post : Text) :
    pre ++ [' '] <+: pre ++ (List.replicate (k + 2) ' ' ++ post) :=
  ⟨List.replicate (k + 1) ' ' ++ post, by rw [List.append_assoc, List.replicate_succ]; rfl⟩

/-- The first run of several spaces in a text that has one. -/
theorem exists_first_run (h : [' ', ' '] <:+: t) : ∃ pre k post,
    t = pre ++ (List.replicate (k + 2) ' ' ++ post) ∧ ¬[' ', ' '] <:+: pre ++ [' '] ∧
      post.head? ≠ some ' ' := by
  induction t with
  | nil => exact absurd (List.infix_nil.1 h) (by decide)
  | cons c r ih =>
    by_cases hfront : [' ', ' '] <+: c :: r
    · obtain ⟨s, hs⟩ := hfront
      have hspaces : s.takeWhile (· == ' ') = List.replicate (s.takeWhile (· == ' ')).length ' ' := by
        refine List.eq_replicate_iff.2 ⟨rfl, fun d hd => ?_⟩
        exact eq_of_beq (List.all_eq_true.1 List.all_takeWhile d hd)
      refine ⟨[], (s.takeWhile (· == ' ')).length, s.dropWhile (· == ' '), ?_, by decide, fun hhead => ?_⟩
      · rw [List.nil_append, Nat.add_comm, List.replicate_add, ← hspaces, List.append_assoc,
          List.takeWhile_append_dropWhile]
        exact hs.symm
      · have hnot := List.head?_dropWhile_not (· == ' ') s
        rw [hhead] at hnot
        exact absurd hnot (by decide)
    · obtain ⟨pre, k, post, rfl, hpre, hpost⟩ := ih ((List.infix_cons_iff.1 h).resolve_left hfront)
      refine ⟨c :: pre, k, post, rfl, fun hin => ?_, hpost⟩
      rcases List.infix_cons_iff.1 hin with hin | hin
      · exact hfront (hin.trans (List.cons_prefix_cons.2 ⟨rfl, isPrefix_run pre k post⟩))
      · exact hpre hin

/-- Induction on the runs of several spaces in a text: a text without any, or one with more behind the
first one. -/
@[elab_as_elim]
theorem run_induction {P : Text → Prop} (last : ∀ t, ¬[' ', ' '] <:+: t → P t)
    (more : ∀ pre k post, ¬[' ', ' '] <:+: pre ++ [' '] → post.head? ≠ some ' ' → P post →
      P (pre ++ (List.replicate (k + 2) ' ' ++ post))) (t : Text) : P t := by
  by_cases h : [' ', ' '] <:+: t
  · obtain ⟨pre, k, post, ht, hpre, hpost⟩ := exists_first_run h
    have hlt : post.length < t.length := by
      rw [ht, List.length_append, List.length_append, List.length_replicate]
      omega
    rw [ht]
    exact more pre k post hpre hpost (run_induction last more post)
  · exact last t h
termination_by t.length

/-! ### Longest runs -/

/-- A text without several spaces in a row keeps all of them. -/
theorem collapseRuns_of_single (h : ¬[' ', ' '] <:+: t) : collapseRuns t = t := by
  have hshort : ∀ r ∈ spaceRuns t, (if 2 ≤ r.length then [' '] else r) = r := by
    intro r hr
    refine if_neg fun hlen => h ?_
    obtain ⟨c, d, s, rfl⟩ : ∃ c d s, r = c :: d :: s := by
      match r, hlen with
      | c :: d :: s, _ => exact ⟨c, d, s, rfl⟩
    have hchain := List.isChain_of_mem_splitBy hr
    simp only [List.isChain_cons_cons, Bool.and_eq_true, beq_iff_eq] at hchain
    obtain ⟨⟨rfl, rfl⟩, -⟩ := hchain
    have hin : ' ' :: ' ' :: s <:+: (spaceRuns t).flatten := List.infix_of_mem_flatten hr
    rw [spaceRuns, List.flatten_splitBy] at hin
    exact (List.prefix_append [' ', ' '] s).isInfix.trans hin
  rw [collapseRuns, List.flatMap_def, List.map_congr_left hshort, List.map_id', spaceRuns,
    List.flatten_splitBy]

theorem getLast?_ne_of_not_isInfix (h : ¬[' ', ' '] <:+: pre ++ [' ']) : pre.getLast? ≠ some ' ' := by
  intro hlast
  obtain ⟨u, rfl⟩ := List.getLast?_eq_some_iff.1 hlast
  exact h ⟨u, [], by simp⟩

/-- The first run of several spaces becomes one space. -/
theorem collapseRuns_run (hpre : ¬[' ', ' '] <:+: pre ++ [' ']) (hpost : post.head? ≠ some ' ') :
    collapseRuns (pre ++ (List.replicate (k + 2) ' ' ++ post)) = pre ++ ' ' :: collapseRuns post := by
  have hrun : spaceRuns (List.replicate (k + 2) ' ') = [List.replicate (k + 2) ' '] := by
    refine List.splitBy_of_isChain (by simp) (List.isChain_replicate_of_rel _ rfl)
  have hbehind : spaceRuns (List.replicate (k + 2) ' ' ++ post) =
      List.replicate (k + 2) ' ' :: spaceRuns post := by
    rw [spaceRuns, List.splitBy_append, ← spaceRuns, ← spaceRuns, hrun, List.singleton_append]
    intro c _ d hd
    rw [Bool.and_eq_false_iff]
    exact .inr (beq_eq_false_iff_ne.2 fun h => hpost (h ▸ hd))
  have hfront : spaceRuns (pre ++ (List.replicate (k + 2) ' ' ++ post)) =
      spaceRuns pre ++ spaceRuns (List.replicate (k + 2) ' ' ++ post) := by
    refine List.splitBy_append fun c hc d _ => ?_
    rw [Bool.and_eq_false_iff]
    exact .inl (beq_eq_false_iff_ne.2 fun h => getLast?_ne_of_not_isInfix hpre (h ▸ hc))
  have hsingle : collapseRuns pre = pre :=
    collapseRuns_of_single fun hin => hpre (hin.trans (List.prefix_append pre [' ']).isInfix)
  rw [collapseRuns, hfront, hbehind, List.flatMap_append, List.flatMap_cons, ← collapseRuns, hsingle,
    ← collapseRuns, if_pos (by rw [List.length_replicate]; omega), List.singleton_append]

/-! ### One space for several -/

theorem collapseSpaces_of_single (h : ¬[' ', ' '] <:+: t) : collapseSpaces t = t := by
  fun_induction collapseSpaces t with
  | case1 => rfl
  | case2 => rfl
  | case3 c d r hspaces =>
    simp only [Bool.and_eq_true, beq_iff_eq] at hspaces
    obtain ⟨rfl, rfl⟩ := hspaces
    exact absurd (List.prefix_append [' ', ' '] r).isInfix h
  | case4 c d r _ ih => rw [ih (not_isInfix_of_cons h)]

/-- A character that is not in front of a space, or no space itself, stays. -/
theorem collapseSpaces_cons {c : Char} (h : ¬[' ', ' '] <+: c :: t) :
    collapseSpaces (c :: t) = c :: collapseSpaces t := by
  cases t with
  | nil => rfl
  | cons d r =>
    rw [collapseSpaces, if_neg]
    simp only [Bool.and_eq_true, beq_iff_eq]
    rintro ⟨rfl, rfl⟩
    exact h (List.prefix_append [' ', ' '] r)

theorem collapseSpaces_run (hpre : ¬[' ', ' '] <:+: pre ++ [' ']) (hpost : post.head? ≠ some ' ') :
    collapseSpaces (pre ++ (List.replicate (k + 2) ' ' ++ post)) = pre ++ ' ' :: collapseSpaces post := by
  induction pre with
  | nil =>
    have hone : collapseSpaces (' ' :: post) = ' ' :: collapseSpaces post := by
      refine collapseSpaces_cons fun hin => ?_
      obtain ⟨s, hs⟩ := hin
      exact hpost (by rw [← (List.cons.inj hs).2]; rfl)
    have hspaces : ∀ n,
        collapseSpaces (List.replicate (n + 1) ' ' ++ post) = ' ' :: collapseSpaces post := by
      intro n
      induction n with
      | zero => exact hone
      | succ n ih => exact ih
    exact hspaces (k + 1)
  | cons c pre ih =>
    have hfront : ¬[' ', ' '] <+: c :: (pre ++ (List.replicate (k + 2) ' ' ++ post)) := by
      intro hin
      have hupto : c :: pre ++ [' '] <+: c :: (pre ++ (List.replicate (k + 2) ' ' ++ post)) :=
        List.cons_prefix_cons.2 ⟨rfl, isPrefix_run pre k post⟩
      exact hpre (List.prefix_of_prefix_length_le hin hupto (by simp)).isInfix
    rw [List.cons_append, collapseSpaces_cons hfront, ih (not_isInfix_of_cons hpre), List.cons_append]

/-- **One space takes the place of every longest run of several.** -/
theorem collapseSpaces_eq (t : Text) : collapseSpaces t = collapseRuns t := by
  induction t using run_induction with
  | last t h => rw [collapseSpaces_of_single h, collapseRuns_of_single h]
  | more pre k post hpre hpost ih =>
    rw [collapseSpaces_run hpre hpost, collapseRuns_run hpre hpost, ih]

/-- Runs at both ends, and one behind a tab. -/
example : collapseRuns "  a \t   b  ".toList = " a \t b ".toList := by decide

/-! ### What is left -/

theorem head?_collapseSpaces (t : Text) : (collapseSpaces t).head? = t.head? := by
  fun_induction collapseSpaces t with
  | case1 => rfl
  | case2 => rfl
  | case3 c d r hspaces ih =>
    simp only [Bool.and_eq_true, beq_iff_eq] at hspaces
    rw [ih, hspaces.1, hspaces.2]
    rfl
  | case4 => rfl

/-- No two spaces are left side by side. -/
theorem not_isInfix_collapseSpaces (t : Text) : ¬[' ', ' '] <:+: collapseSpaces t := by
  fun_induction collapseSpaces t with
  | case1 => decide
  | case2 c => exact fun h => Nat.not_succ_le_self 1 h.length_le
  | case3 c d r _ ih => exact ih
  | case4 c d r hspaces ih =>
    intro hin
    refine (List.infix_cons_iff.1 hin).elim (fun hfront => hspaces ?_) ih
    have hhead := head?_collapseSpaces (d :: r)
    obtain ⟨s, hs⟩ := hfront
    obtain ⟨rfl, hd⟩ := List.cons.inj hs
    rw [← hd] at hhead
    rw [← Option.some.inj hhead]
    rfl

/-- Nothing but spaces goes. -/
theorem filter_collapseSpaces (t : Text) :
    (collapseSpaces t).filter (· != ' ') = t.filter (· != ' ') := by
  fun_induction collapseSpaces t with
  | case1 => rfl
  | case2 => rfl
  | case3 c d r hspaces ih =>
    simp only [Bool.and_eq_true, beq_iff_eq] at hspaces
    rw [ih, hspaces.1]
    rfl
  | case4 c d r _ ih => rw [List.filter_cons, List.filter_cons, ih]

theorem collapseSpaces_collapseSpaces (t : Text) :
    collapseSpaces (collapseSpaces t) = collapseSpaces t :=
  collapseSpaces_of_single (not_isInfix_collapseSpaces t)

end HtmlCanon
