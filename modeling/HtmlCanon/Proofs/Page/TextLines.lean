import HtmlCanon.Page.Layout
import HtmlCanon.Proofs.Text

/-!
# The lines of a text

A text is laid out as the list of its trimmed lines that are not blank.

* `textLines_append_left`, `textLines_append_right` : blanks around a text do not show.
* `textLines_of_inline`, `textLines_of_newline` : a text shows on one line exactly when no line feed
  stands between its first and its last visible character.
* `textLines_joinLines` : trimmed lines that are joined are the lines of that text.
-/

namespace HtmlCanon.Page

theorem textLines_newline (t u : Text) : textLines (t ++ '\n' :: u) = textLines t ++ textLines u := by
  simp [textLines, splitLines_append]

/-- A text without line feeds has one line, unless it is blank. -/
theorem textLines_of_not_mem {t : Text} (h : '\n' ∉ t) :
    textLines t = if isBlankText t then [] else [trim t] := by
  have he : (trim t).isEmpty = isBlankText t := by
    rw [Bool.eq_iff_iff, List.isEmpty_iff, trim_eq_nil_iff]
  unfold textLines
  rw [splitLines_of_not_mem h]
  by_cases hb : isBlankText t = true <;> simp [he, hb]

/-- Texts of one line show alike when they are alike once trimmed. -/
theorem textLines_congr {t u : Text} (ht : '\n' ∉ t) (hu : '\n' ∉ u) (h : trim t = trim u) :
    textLines t = textLines u := by
  have hb : isBlankText t = isBlankText u := by
    rw [Bool.eq_iff_iff, ← trim_eq_nil_iff, ← trim_eq_nil_iff, h]
  rw [textLines_of_not_mem ht, textLines_of_not_mem hu, h, hb]

theorem textLines_eq_nil_iff {t : Text} : textLines t = [] ↔ isBlankText t = true := by
  induction t using line_induction with
  | last t h =>
    rw [textLines_of_not_mem h]
    by_cases hb : isBlankText t = true <;> simp [hb]
  | more a b ha ih =>
    have hn : isBlank '\n' = true := by decide
    rw [textLines_newline, List.append_eq_nil_iff, ih, textLines_of_not_mem ha]
    by_cases hb : isBlankText a = true <;> simp [hb, hn]

/-- Texts with the same lines are both blank or both not. -/
theorem isBlankText_congr {t u : Text} (h : textLines t = textLines u) :
    isBlankText t = isBlankText u := by
  rw [Bool.eq_iff_iff, ← textLines_eq_nil_iff, ← textLines_eq_nil_iff, h]

/-- Blanks before a text do not show. -/
theorem textLines_append_left {u : Text} (hu : isBlankText u = true) (t : Text) :
    textLines (u ++ t) = textLines t := by
  induction u using line_induction with
  | last u h =>
    induction t using line_induction with
    | last t ht => exact textLines_congr (by simp [h, ht]) ht (trim_append_left hu t)
    | more a b ha _ =>
      rw [← List.append_assoc, textLines_newline, textLines_newline,
        textLines_congr (by simp [h, ha]) ha (trim_append_left hu a)]
  | more a b ha ih =>
    simp only [isBlankText_append, isBlankText_cons, Bool.and_eq_true] at hu
    rw [List.append_assoc, List.cons_append, textLines_newline, textLines_eq_nil_iff.2 hu.1,
      List.nil_append, ih hu.2.2]

/-- Blanks after a text do not show. -/
theorem textLines_append_right (t : Text) {u : Text} (hu : isBlankText u = true) :
    textLines (t ++ u) = textLines t := by
  induction t using line_induction with
  | last t h =>
    induction u using line_induction with
    | last u hl => exact textLines_congr (by simp [h, hl]) h (trim_append_right t hu)
    | more a b ha _ =>
      simp only [isBlankText_append, isBlankText_cons, Bool.and_eq_true] at hu
      rw [← List.append_assoc, textLines_newline, textLines_eq_nil_iff.2 hu.2.2, List.append_nil]
      exact textLines_congr (by simp [h, ha]) h (trim_append_right t hu.1)
  | more a b ha ih =>
    rw [List.append_assoc, List.cons_append, textLines_newline, textLines_newline, ih]

/-- A text shows as it does once trimmed. -/
theorem textLines_trim (t : Text) : textLines (trim t) = textLines t := by
  obtain ⟨u, v, ht, hu, hv⟩ := trim_split t
  conv_rhs => rw [ht, List.append_assoc, textLines_append_left hu, textLines_append_right _ hv]

/-- Without a line feed between its first and its last visible character a text shows on one line. -/
theorem textLines_of_inline {t : Text} (hb : isBlankText t = false) (h : '\n' ∉ trim t) :
    textLines t = [trim t] := by
  have hbt : isBlankText (trim t) = false := by
    rw [← Bool.not_eq_true, ← trim_eq_nil_iff, trim_trim, trim_eq_nil_iff, hb]; decide
  rw [← textLines_trim, textLines_of_not_mem h, trim_trim, hbt]; rfl

/-- With a line feed between its first and its last visible character it shows on several. -/
theorem textLines_of_newline {t : Text} (h : '\n' ∈ trim t) : 2 ≤ (textLines t).length := by
  obtain ⟨a, b, hab, -⟩ := List.eq_append_cons_of_mem h
  have ha : textLines a ≠ [] := by
    rw [ne_eq, textLines_eq_nil_iff]
    intro hb
    cases a with
    | nil => exact absurd (isBlank_of_trim_cons hab) (by decide)
    | cons c r =>
      have := isBlank_of_trim_cons hab
      simp [this] at hb
  have hb : textLines b ≠ [] := by
    rw [ne_eq, textLines_eq_nil_iff]
    intro hb
    rcases List.eq_nil_or_concat b with rfl | ⟨r, c, rfl⟩
    · exact absurd (isBlank_of_trim_concat (t := t) (r := a) hab) (by decide)
    · have := isBlank_of_trim_concat (t := t) (r := a ++ '\n' :: r) (c := c) (by simp [hab])
      simp [this] at hb
  rw [← textLines_trim, hab, textLines_newline, List.length_append]
  have := List.length_pos_iff.2 ha
  have := List.length_pos_iff.2 hb
  omega

/-- A line that shows is trimmed, not empty and without line feeds. -/
theorem mem_textLines {t l : Text} (h : l ∈ textLines t) : trim l = l ∧ l ≠ [] ∧ '\n' ∉ l := by
  unfold textLines at h
  rw [List.mem_filter] at h
  obtain ⟨h, hne⟩ := h
  obtain ⟨m, hm, rfl⟩ := List.mem_map.1 h
  refine ⟨trim_trim m, by simpa using hne, fun hn => ?_⟩
  obtain ⟨u, v, hs, -, -⟩ := trim_split m
  apply not_mem_of_mem_splitLines hm
  rw [hs]; simp [hn]

/-- Trimmed lines that are joined are the lines of the text they make. -/
theorem textLines_joinLines {ls : List Text} (h : ∀ l ∈ ls, trim l = l ∧ l ≠ [] ∧ '\n' ∉ l) :
    textLines (joinLines ls) = ls := by
  by_cases hnil : ls = []
  · subst hnil
    rfl
  · have htrim : ls.map trim = ls := by
      conv_rhs => rw [← List.map_id ls]
      exact List.map_congr_left fun l hl => (h l hl).1
    rw [textLines, splitLines_joined hnil fun l hl => (h l hl).2.2, htrim, List.filter_eq_self]
    intro l hl
    simpa using (h l hl).2.1

end HtmlCanon.Page
