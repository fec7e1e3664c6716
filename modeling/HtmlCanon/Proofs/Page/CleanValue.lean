import HtmlCanon.Page.Canonical
import HtmlCanon.Proofs.Text

/-!
# Attribute values in the canonical form

The lines of an attribute value after the first one are taken for lines of the layout: they lose
some of their own indentation, and the blank ones are dropped.

* `cleanValue` : what becomes of an attribute value.
* `cleanValue_sublist` : only characters of the value are left.
* `cleanValue_eq_iff` : **a clean value stays as it is** exactly when none of its later lines is set
  in.
-/

namespace HtmlCanon.Page

/-! ### Indentation -/

theorem isBlank_of_isIndent {c : Char} (h : isIndent c = true) : isBlank c = true := by
  simp only [isIndent, Bool.or_eq_true, beq_iff_eq] at h
  rcases h with rfl | rfl <;> decide

theorem isIndent_eq_false {c : Char} (h : isBlank c = false) : isIndent c = false := by
  rw [Bool.eq_false_iff]
  intro hi
  rw [isBlank_of_isIndent hi] at h
  cases h

/-- Indentation consists of blanks. -/
theorem isBlankText_dedent (n : Nat) (l : Text) : isBlankText (dedent n l) = isBlankText l := by
  induction n, l using dedent.induct with
  | case1 l => rfl
  | case2 n h => cases n <;> rfl
  | case3 n c l hc ih =>
    have hb := isBlank_of_isIndent hc
    rw [dedent, if_pos hc, ih]
    simp [hb]
  | case4 n c l hc => rw [dedent, if_neg hc]

/-- **Indentation ends where something shows.** -/
theorem dedent_append (n : Nat) {l : Text} (h : isBlankText l = false) (x : Text) :
    dedent n (l ++ x) = dedent n l ++ x := by
  induction n, l using dedent.induct with
  | case1 l => rfl
  | case2 n hn => cases h
  | case3 n c l hc ih =>
    have hb := isBlank_of_isIndent hc
    rw [isBlankText_cons, hb, Bool.true_and] at h
    rw [List.cons_append, dedent, if_pos hc, dedent, if_pos hc, ih h]
  | case4 n c l hc => rw [List.cons_append, dedent, if_neg hc, dedent, if_neg hc]; rfl

/-- Indentation ends where a character stands that is none. -/
theorem dedent_append_cons (n : Nat) (l : Text) {c : Char} (hc : isIndent c = false) (x : Text) :
    dedent n (l ++ c :: x) = dedent n l ++ c :: x := by
  have hnot : ¬isIndent c = true := by simp [hc]
  induction n, l using dedent.induct with
  | case1 l => rfl
  | case2 n h =>
    cases n with
    | zero => rfl
    | succ n =>
      show dedent (n + 1) (c :: x) = c :: x
      rw [dedent, if_neg hnot]
  | case3 n d l hd ih => rw [List.cons_append, dedent, if_pos hd, dedent, if_pos hd, ih]
  | case4 n d l hd => rw [List.cons_append, dedent, if_neg hd, dedent, if_neg hd]; rfl

theorem dedent_suffix (n : Nat) (l : Text) : dedent n l <:+ l := by
  induction n, l using dedent.induct with
  | case1 l => exact List.suffix_refl l
  | case2 n h => cases n <;> exact List.suffix_refl []
  | case3 n c l hc ih => rw [dedent, if_pos hc]; exact ih.trans (List.suffix_cons c l)
  | case4 n c l hc => exact ⟨[], by rw [dedent, if_neg hc, List.nil_append]⟩

/-! ### Clean values -/

/-- The lines of a value after the first one, cleaned. The last stands before the closing quote and
is never dropped. -/
def cleanRest : List Text → List Text
  | [] => []
  | [l] => [dedent 2 l]
  | l :: ls => if isBlankText l then cleanRest ls else dedent 2 l :: cleanRest ls

/-- An attribute value as it stands in the canonical form. -/
def cleanValue (v : Text) : Text :=
  match splitLines v with
  | [] => []
  | l :: ls => joinLines (l :: cleanRest ls)

theorem cleanRest_cons (l : Text) {ls : List Text} (h : ls ≠ []) :
    cleanRest (l :: ls) = if isBlankText l then cleanRest ls else dedent 2 l :: cleanRest ls := by
  rw [cleanRest]
  exact h

theorem cleanRest_ne_nil {ls : List Text} (h : ls ≠ []) : cleanRest ls ≠ [] := by
  induction ls with
  | nil => exact absurd rfl h
  | cons l ls ih =>
    cases ls with
    | nil => simp [cleanRest]
    | cons m ms =>
      rw [cleanRest_cons l (List.cons_ne_nil m ms)]
      split
      · exact ih (List.cons_ne_nil m ms)
      · simp

theorem cleanValue_of_not_mem {v : Text} (h : '\n' ∉ v) : cleanValue v = v := by
  rw [cleanValue, splitLines_of_not_mem h]
  simp [cleanRest, joinLines, List.intercalate]

theorem cleanValue_newline {a : Text} (h : '\n' ∉ a) (b : Text) :
    cleanValue (a ++ '\n' :: b) = a ++ '\n' :: joinLines (cleanRest (splitLines b)) := by
  rw [cleanValue, splitLines_append, splitLines_of_not_mem h]
  exact joinLines_cons a (cleanRest_ne_nil (splitLines_ne_nil b))

/-! ### Values that are steady -/

/-- Whether a line is set in. -/
def isSetIn (l : Text) : Bool := l.head?.any isIndent

/-- Whether no line of a value after the first one is still set in once the value is clean. -/
def isSteadyValue (v : Text) : Bool := (splitLines (cleanValue v)).tail.all (!isSetIn ·)

theorem dedent_eq_self_iff (n : Nat) (l : Text) : dedent (n + 1) l = l ↔ isSetIn l = false := by
  cases l with
  | nil => simp [dedent, isSetIn]
  | cons c l =>
    rw [dedent]
    by_cases hc : isIndent c = true
    · have hlen := (dedent_suffix n l).length_le
      -- a character has gone, and none comes back
      have hne : dedent n l ≠ c :: l := by
        intro he
        have := congrArg List.length he
        simp only [List.length_cons] at this
        omega
      simp [isSetIn, hc, hne]
    · simp [isSetIn, hc]

/-- No line that is kept is blank, but the last. -/
theorem cleanRest_cleanRest (ls : List Text) :
    cleanRest (cleanRest ls) = (cleanRest ls).map (dedent 2) := by
  fun_induction cleanRest ls with
  | case1 => rfl
  | case2 l => rfl
  | case3 l ls hne hb ih => exact ih
  | case4 l ls hne hb ih =>
    -- a line that was kept is kept again
    have hshow : ¬isBlankText (dedent 2 l) = true := by rwa [isBlankText_dedent]
    rw [cleanRest_cons _ (cleanRest_ne_nil hne), if_neg hshow, ih]
    rfl

/-- Cleaning only drops characters. -/
theorem cleanRest_sublist (ls : List Text) : (joinLines (cleanRest ls)).Sublist (joinLines ls) := by
  fun_induction cleanRest ls with
  | case1 => exact .refl _
  | case2 l => simpa [joinLines, List.intercalate] using (dedent_suffix 2 l).sublist
  | case3 l ls hne hb ih =>
    rw [joinLines_cons l hne]
    exact (ih.cons '\n').trans (List.sublist_append_right l _)
  | case4 l ls hne hb ih =>
    rw [joinLines_cons l hne, joinLines_cons _ (cleanRest_ne_nil hne)]
    exact (dedent_suffix 2 l).sublist.append (ih.cons_cons '\n')

theorem cleanValue_sublist (v : Text) : (cleanValue v).Sublist v := by
  by_cases hv : '\n' ∈ v
  · obtain ⟨a, b, rfl, ha⟩ := List.eq_append_cons_of_mem hv
    rw [cleanValue_newline ha]
    have hrest := cleanRest_sublist (splitLines b)
    rw [join_splitLines] at hrest
    exact (List.Sublist.refl a).append (hrest.cons_cons '\n')
  · rw [cleanValue_of_not_mem hv]

theorem newline_not_mem_cleanRest {ls : List Text} (h : ∀ l ∈ ls, '\n' ∉ l) :
    ∀ l ∈ cleanRest ls, '\n' ∉ l := by
  fun_induction cleanRest ls with
  | case1 => exact h
  | case2 l =>
    intro m hm
    rw [List.mem_singleton.1 hm]
    exact fun hn => h l List.mem_cons_self ((dedent_suffix 2 l).subset hn)
  | case3 l ls hne hb ih => exact ih fun m hm => h m (List.mem_cons_of_mem l hm)
  | case4 l ls hne hb ih =>
    intro m hm
    rcases List.mem_cons.1 hm with rfl | hm
    · exact fun hn => h l List.mem_cons_self ((dedent_suffix 2 l).subset hn)
    · exact ih (fun k hk => h k (List.mem_cons_of_mem l hk)) m hm

theorem map_dedent_eq_iff (ls : List Text) :
    ls.map (dedent 2) = ls ↔ ls.all (!isSetIn ·) = true := by
  induction ls with
  | nil => simp
  | cons l ls ih => simp [ih, dedent_eq_self_iff 1 l]

/-- **A clean value stays as it is** exactly when none of its lines after the first one is set in. -/
theorem cleanValue_eq_iff (v : Text) :
    cleanValue (cleanValue v) = cleanValue v ↔ isSteadyValue v = true := by
  by_cases hv : '\n' ∈ v
  · obtain ⟨a, b, rfl, ha⟩ := List.eq_append_cons_of_mem hv
    -- both passes keep the first line, so the later ones decide
    have hne := cleanRest_ne_nil (splitLines_ne_nil b)
    have hlines : ∀ l ∈ cleanRest (splitLines b), '\n' ∉ l :=
      newline_not_mem_cleanRest fun l hl => not_mem_of_mem_splitLines hl
    have hagain : ∀ l ∈ (cleanRest (splitLines b)).map (dedent 2), '\n' ∉ l := by
      intro l hl
      obtain ⟨m, hm, rfl⟩ := List.mem_map.1 hl
      exact fun hn => hlines m hm ((dedent_suffix 2 m).subset hn)
    have hsplit := splitLines_joined hne hlines
    rw [isSteadyValue, cleanValue_newline ha, cleanValue_newline ha, hsplit, cleanRest_cleanRest,
      splitLines_append, splitLines_of_not_mem ha, hsplit, List.append_cancel_left_eq,
      List.cons_inj_right, joinLines_inj (by simpa using hne) hne hagain hlines, map_dedent_eq_iff]
    rfl
  · rw [cleanValue_of_not_mem hv, cleanValue_of_not_mem hv, isSteadyValue, cleanValue_of_not_mem hv,
      splitLines_of_not_mem hv]
    simp

/-! ### Tags with clean values -/

end HtmlCanon.Page
