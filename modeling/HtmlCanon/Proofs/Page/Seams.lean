import HtmlCanon.Proofs.Page.TextLines

/-!
# Texts that are put together

Where two texts meet that both show, blanks may stand between what shows of them. Without a line feed
among these the last line of the one and the first line of the other become one line.

* `trim_append_shown` : what stands between what shows of two texts.
* `textLines_append_broken`, `length_textLines_append` : **the lines of two texts put together**.
* `trim_shown_eq_iff` : which blank texts may be left out between others.
* `flatMap_textLines` : which texts have the lines that they have together.
-/

namespace HtmlCanon.Page

/-! ### Between two texts -/

/-- The blanks between what shows of two texts. -/
def gap (t u : Text) : Text := t.rtakeWhile isBlank ++ u.takeWhile isBlank

theorem takeWhile_blank {b : Text} (hb : isBlankText b = true) (t : Text) :
    (b ++ t).takeWhile isBlank = b ++ t.takeWhile isBlank :=
  List.takeWhile_append_of_pos (isBlankText_iff.1 hb)

theorem rtakeWhile_blank {b : Text} (hb : isBlankText b = true) (t : Text) :
    (t ++ b).rtakeWhile isBlank = t.rtakeWhile isBlank ++ b := by
  have hrev : ∀ c ∈ b.reverse, isBlank c = true := fun c hc =>
    isBlankText_iff.1 hb c (List.mem_reverse.1 hc)
  rw [List.rtakeWhile, List.reverse_append, List.takeWhile_append_of_pos hrev, List.reverse_append,
    List.reverse_reverse, List.rtakeWhile]

variable {t u : Text}

theorem trim_ne_nil (h : isBlankText t = false) : trim t ≠ [] := by
  rw [ne_eq, trim_eq_nil_iff, h]
  decide

/-- A text that shows, with the blanks before and after what shows of it. -/
theorem eq_append_trim (h : isBlankText t = false) :
    t = t.takeWhile isBlank ++ trim t ++ t.rtakeWhile isBlank := by
  obtain ⟨u, v, ht, hu, hv⟩ := trim_split t
  obtain ⟨c, r, hc⟩ := List.exists_cons_of_ne_nil (trim_ne_nil h)
  obtain ⟨s, d, hd⟩ := (List.eq_nil_or_concat' (trim t)).resolve_left (trim_ne_nil h)
  have hfirst : t.takeWhile isBlank = u := by
    rw [ht, List.append_assoc, takeWhile_blank hu, hc, List.cons_append,
      List.takeWhile_cons_of_neg (Bool.eq_false_iff.1 (isBlank_of_trim_cons hc)), List.append_nil]
  have hlast : t.rtakeWhile isBlank = v := by
    rw [ht, rtakeWhile_blank hv, hd, ← List.append_assoc,
      List.rtakeWhile_concat_neg isBlank _ d (Bool.eq_false_iff.1 (isBlank_of_trim_concat hd)),
      List.nil_append]
  rw [hfirst, hlast]
  exact ht

/-- A text that begins and ends with something that shows needs no trimming. -/
theorem trim_between (ht : isBlankText t = false) (hu : isBlankText u = false) (x : Text) :
    trim (trim t ++ x ++ trim u) = trim t ++ x ++ trim u := by
  obtain ⟨c, r, hc⟩ := List.exists_cons_of_ne_nil (trim_ne_nil ht)
  obtain ⟨s, d, hd⟩ := (List.eq_nil_or_concat' (trim u)).resolve_left (trim_ne_nil hu)
  have hfirst : (trim t ++ x ++ trim u).dropWhile isBlank = trim t ++ x ++ trim u := by
    rw [hc, List.cons_append, List.cons_append,
      List.dropWhile_cons_of_neg (Bool.eq_false_iff.1 (isBlank_of_trim_cons hc))]
  rw [trim, hfirst, dropTailWhile_eq, hd, ← List.append_assoc,
    List.rdropWhile_concat_neg isBlank _ d (Bool.eq_false_iff.1 (isBlank_of_trim_concat hd))]

theorem trim_append_shown (ht : isBlankText t = false) (hu : isBlankText u = false) :
    trim (t ++ u) = trim t ++ gap t u ++ trim u := by
  obtain ⟨c, r, hc⟩ := List.exists_cons_of_ne_nil (trim_ne_nil ht)
  have hbefore : isBlankText (t.takeWhile isBlank) = true := List.all_takeWhile
  have hafter : isBlankText (u.rtakeWhile isBlank) = true :=
    isBlankText_iff.2 fun c hc => List.mem_rtakeWhile_imp hc
  have hall : t ++ u = t.takeWhile isBlank ++ (trim t ++ gap t u ++ trim u ++ u.rtakeWhile isBlank) := by
    conv_lhs => rw [eq_append_trim ht, eq_append_trim hu]
    simp only [gap, List.append_assoc]
  rw [hall, trim_append_left hbefore, trim_append_right _ hafter, trim_between ht hu]

/-! ### Lines of two texts -/

theorem textLines_nil : textLines [] = [] := rfl

theorem exists_last_line (t : Text) : ∃ a x, '\n' ∉ x ∧ (t = x ∨ '\n' :: x <:+ t) ∧
    ∀ u, textLines (t ++ u) = textLines a ++ textLines (x ++ u) := by
  induction t using line_induction with
  | last t h => exact ⟨[], t, h, .inl rfl, fun u => rfl⟩
  | more a b ha ih =>
    obtain ⟨c, x, hx, hb, hlines⟩ := ih
    have hend : '\n' :: x <:+ a ++ '\n' :: b := by
      rcases hb with rfl | hb
      · exact List.suffix_append a _
      · exact hb.trans ((List.suffix_cons '\n' b).trans (List.suffix_append a _))
    refine ⟨a ++ '\n' :: c, x, hx, .inr hend, fun u => ?_⟩
    rw [List.append_assoc, List.cons_append, textLines_newline, textLines_newline, hlines,
      List.append_assoc]

theorem exists_first_line (u : Text) : ∃ y b, '\n' ∉ y ∧ (u = y ∨ y ++ ['\n'] <+: u) ∧
    ∀ t, textLines (t ++ u) = textLines (t ++ y) ++ textLines b := by
  by_cases h : '\n' ∈ u
  · obtain ⟨y, b, rfl, hy⟩ := List.eq_append_cons_of_mem h
    refine ⟨y, b, hy, .inr ⟨b, by simp⟩, fun t => ?_⟩
    rw [← List.append_assoc, textLines_newline]
  · exact ⟨u, [], h, .inl rfl, fun t => by rw [textLines_nil, List.append_nil]⟩

/-- With a line feed between what shows of two texts, each of them keeps its lines. -/
theorem textLines_append_broken (h : '\n' ∈ gap t u) :
    textLines (t ++ u) = textLines t ++ textLines u := by
  rcases List.mem_append.1 h with h | h
  · obtain ⟨r, hr⟩ := List.rtakeWhile_suffix isBlank t
    obtain ⟨a, b, hab⟩ := List.append_of_mem h
    have hblank : isBlankText b = true := isBlankText_iff.2 fun c hc =>
      List.mem_rtakeWhile_imp (p := isBlank) (l := t) (by rw [hab]; simp [hc])
    have ht : t = (r ++ a) ++ '\n' :: b := by rw [List.append_assoc, ← hab, hr]
    rw [ht, List.append_assoc, List.cons_append, textLines_newline, textLines_newline,
      textLines_append_left hblank, textLines_eq_nil_iff.2 hblank, List.append_nil]
  · obtain ⟨a, b, hab⟩ := List.append_of_mem h
    obtain ⟨s, hs⟩ := List.takeWhile_prefix (p := isBlank) (l := u)
    have hblank : isBlankText a = true := isBlankText_iff.2 fun c hc =>
      List.mem_takeWhile_imp (p := isBlank) (l := u) (by rw [hab]; simp [hc])
    have hu : u = a ++ '\n' :: (b ++ s) := by rw [← List.cons_append, ← List.append_assoc, ← hab, hs]
    rw [hu, ← List.append_assoc, textLines_newline, textLines_newline,
      textLines_append_right t hblank, textLines_eq_nil_iff.2 hblank, List.nil_append]

/-- Without a line feed between what shows of two texts, a line of the one and a line of the other
become one. -/
theorem length_textLines_append (ht : isBlankText t = false) (hu : isBlankText u = false)
    (h : '\n' ∉ gap t u) :
    (textLines (t ++ u)).length + 1 = (textLines t).length + (textLines u).length := by
  obtain ⟨a, x, hx, hlast, hleft⟩ := exists_last_line t
  obtain ⟨y, b, hy, hfirst, hright⟩ := exists_first_line u
  rw [gap, List.mem_append, not_or] at h
  have hxs : isBlankText x = false := by
    refine Bool.eq_false_iff.2 fun hb => ?_
    rcases hlast with rfl | ⟨r, rfl⟩
    · rw [hb] at ht
      cases ht
    · have hblank : isBlankText ('\n' :: x) = true := by rw [isBlankText_cons, hb]; rfl
      rw [rtakeWhile_blank hblank] at h
      exact h.1 (by simp)
  have hys : isBlankText y = false := by
    refine Bool.eq_false_iff.2 fun hb => ?_
    rcases hfirst with rfl | ⟨r, rfl⟩
    · rw [hb] at hu
      cases hu
    · have hblank : isBlankText (y ++ ['\n']) = true := by rw [isBlankText_append, hb]; rfl
      rw [takeWhile_blank hblank] at h
      exact h.2 (by simp)
  have hline : ∀ z : Text, '\n' ∉ z → isBlankText z = false → (textLines z).length = 1 := by
    intro z hz hzs
    rw [textLines_of_not_mem hz, hzs]
    rfl
  have hboth : (textLines (x ++ y)).length = 1 := hline _ (by simp [hx, hy]) (by simp [hxs])
  have hwhole : textLines (t ++ u) = textLines a ++ (textLines (x ++ y) ++ textLines b) := by
    rw [hleft, hright]
  have htl : textLines t = textLines a ++ textLines x := by simpa using hleft []
  have hul : textLines u = textLines y ++ textLines b := by simpa using hright []
  rw [hwhole, htl, hul]
  simp only [List.length_append, hboth, hline x hx hxs, hline y hy hys]
  omega

/-! ### Where several texts meet -/

/-- The texts that show. -/
def shown (ts : List Text) : List Text := ts.filter (!isBlankText ·)

/-- Whether something holds wherever a text that shows is followed by others that show: of that text and
of the texts after it. -/
def atSeams (q : Text → List Text → Bool) : List Text → Bool
  | [] => true
  | t :: ts => (isBlankText t || isBlankText ts.flatten || q t ts) && atSeams q ts

/-- Whether the blank texts up to the next one that shows are empty. -/
def isTight (_ : Text) (ts : List Text) : Bool := (ts.takeWhile isBlankText).flatten.isEmpty

/-- Whether a line feed stands between what shows of a text and what shows of those after it. -/
def isBroken (t : Text) (ts : List Text) : Bool := (gap t ts.flatten).contains '\n'

variable {q : Text → List Text → Bool} {ts : List Text}

theorem isBlankText_flatten : isBlankText ts.flatten = ts.all isBlankText := by
  induction ts with
  | nil => rfl
  | cons t ts ih => rw [List.flatten_cons, isBlankText_append, ih, List.all_cons]

theorem shown_cons_blank (ht : isBlankText t = true) (ts : List Text) : shown (t :: ts) = shown ts :=
  List.filter_cons_of_neg (by simp [ht])

theorem shown_cons (ht : isBlankText t = false) (ts : List Text) : shown (t :: ts) = t :: shown ts :=
  List.filter_cons_of_pos (by simp [ht])

theorem shown_of_blank (h : isBlankText ts.flatten = true) : shown ts = [] := by
  rw [isBlankText_flatten, List.all_eq_true] at h
  exact List.filter_eq_nil_iff.2 fun t ht => by simp [h t ht]

theorem isBlankText_shown : isBlankText (shown ts).flatten = isBlankText ts.flatten := by
  induction ts with
  | nil => rfl
  | cons t ts ih =>
    cases ht : isBlankText t with
    | true => rw [shown_cons_blank ht, ih, List.flatten_cons, isBlankText_append, ht, Bool.true_and]
    | false =>
      rw [shown_cons ht, List.flatten_cons, List.flatten_cons, isBlankText_append, isBlankText_append, ht,
        Bool.false_and, Bool.false_and]

theorem atSeams_cons_blank (ht : isBlankText t = true) (ts : List Text) :
    atSeams q (t :: ts) = atSeams q ts := by
  rw [atSeams, ht, Bool.true_or, Bool.true_or, Bool.true_and]

theorem atSeams_of_blank (h : isBlankText ts.flatten = true) : atSeams q ts = true := by
  induction ts with
  | nil => rfl
  | cons t ts ih =>
    rw [List.flatten_cons, isBlankText_append, Bool.and_eq_true] at h
    rw [atSeams_cons_blank h.1, ih h.2]

theorem atSeams_cons_last (h : isBlankText ts.flatten = true) : atSeams q (t :: ts) = true := by
  rw [atSeams, h, Bool.or_true, Bool.true_or, Bool.true_and, atSeams_of_blank h]

theorem atSeams_cons (ht : isBlankText t = false) (h : isBlankText ts.flatten = false) :
    atSeams q (t :: ts) = (q t ts && atSeams q ts) := by
  rw [atSeams, ht, h, Bool.false_or, Bool.false_or]

/-! ### Blank texts between others -/

/-- What texts begin with: the blank texts before the first one that shows, and what that one begins
with. -/
theorem takeWhile_flatten (h : isBlankText ts.flatten = false) : ts.flatten.takeWhile isBlank =
    (ts.takeWhile isBlankText).flatten ++ (shown ts).flatten.takeWhile isBlank := by
  induction ts with
  | nil => cases h
  | cons t ts ih =>
    cases ht : isBlankText t with
    | true =>
      rw [List.flatten_cons, isBlankText_append, ht, Bool.true_and] at h
      rw [List.flatten_cons, takeWhile_blank ht, ih h, List.takeWhile_cons_of_pos ht, List.flatten_cons,
        List.append_assoc, shown_cons_blank ht]
    | false =>
      have hfirst : ∀ u : Text, (t ++ u).takeWhile isBlank = t.takeWhile isBlank := by
        intro u
        have hstop : ¬(t.takeWhile isBlank).length = t.length := fun hlen => by
          have hself := (List.takeWhile_prefix (p := isBlank) (l := t)).eq_of_length hlen
          rw [isBlankText, ← hself, List.all_takeWhile] at ht
          cases ht
        rw [List.takeWhile_append, if_neg hstop]
      rw [List.flatten_cons, hfirst, List.takeWhile_cons_of_neg (by rw [ht]; decide), shown_cons ht,
        List.flatten_cons, hfirst]
      rfl

/-- What shows of texts is what shows of those that show, with the blanks of others in between. -/
theorem trim_shown_cons (ht : isBlankText t = false) (h : isBlankText ts.flatten = false) :
    trim (shown (t :: ts)).flatten = trim t ++ gap t (shown ts).flatten ++ trim (shown ts).flatten ∧
      trim (t :: ts).flatten = trim t ++ (t.rtakeWhile isBlank ++ ((ts.takeWhile isBlankText).flatten ++
        (shown ts).flatten.takeWhile isBlank)) ++ trim ts.flatten := by
  have hs : isBlankText (shown ts).flatten = false := by rw [isBlankText_shown, h]
  rw [shown_cons ht, List.flatten_cons, List.flatten_cons, trim_append_shown ht hs,
    trim_append_shown ht h, gap, gap, takeWhile_flatten h]
  exact ⟨rfl, rfl⟩

theorem trim_shown_sublist (ts : List Text) : (trim (shown ts).flatten).Sublist (trim ts.flatten) := by
  induction ts with
  | nil => exact List.Sublist.refl _
  | cons t ts ih =>
    cases ht : isBlankText t with
    | true => rwa [shown_cons_blank ht, List.flatten_cons, trim_append_left ht]
    | false =>
      cases h : isBlankText ts.flatten with
      | true =>
        rw [shown_cons ht, shown_of_blank h, List.flatten_cons, List.flatten_cons, List.flatten_nil,
          List.append_nil, trim_append_right t h]
      | false =>
        obtain ⟨hleft, hright⟩ := trim_shown_cons ht h
        rw [hleft, hright, gap]
        exact (((List.Sublist.refl _).append (List.sublist_append_right _ _)).append_left _).append ih

/-- **Blank texts may be left out** between others exactly when they are empty. -/
theorem trim_shown_eq_iff (ts : List Text) :
    trim (shown ts).flatten = trim ts.flatten ↔ atSeams isTight ts = true := by
  induction ts with
  | nil => simp [shown, atSeams]
  | cons t ts ih =>
    cases ht : isBlankText t with
    | true => rw [shown_cons_blank ht, List.flatten_cons, trim_append_left ht, atSeams_cons_blank ht, ih]
    | false =>
      cases h : isBlankText ts.flatten with
      | true =>
        rw [shown_cons ht, shown_of_blank h, List.flatten_cons, List.flatten_cons, List.flatten_nil,
          List.append_nil, trim_append_right t h, atSeams_cons_last h]
        exact ⟨fun _ => rfl, fun _ => rfl⟩
      | false =>
        obtain ⟨hleft, hright⟩ := trim_shown_cons ht h
        rw [hleft, hright, gap, atSeams_cons ht h, isTight, Bool.and_eq_true, ← ih, List.isEmpty_iff]
        constructor
        · intro heq
          -- what is left out makes the text shorter
          have hlen := congrArg List.length heq
          have hle := (trim_shown_sublist ts).length_le
          simp only [List.length_append] at hlen
          have hnil : (ts.takeWhile isBlankText).flatten = [] := List.length_eq_zero_iff.1 (by omega)
          exact ⟨hnil, (trim_shown_sublist ts).eq_of_length (by omega)⟩
        · rintro ⟨hnil, heq⟩
          rw [hnil, heq, List.nil_append]

/-! ### Lines of several texts -/

/-- **Texts have together** at most as many lines as they have one by one, and they have the same lines
exactly when a line feed stands between what shows wherever two of them meet. -/
theorem flatMap_textLines (ts : List Text) :
    (textLines ts.flatten).length ≤ (ts.flatMap textLines).length ∧
      (ts.flatMap textLines = textLines ts.flatten ↔ atSeams isBroken ts = true) := by
  induction ts with
  | nil => exact ⟨Nat.le_refl _, fun _ => rfl, fun _ => rfl⟩
  | cons t ts ih =>
    obtain ⟨hle, hiff⟩ := ih
    rw [List.flatMap_cons, List.flatten_cons]
    cases ht : isBlankText t with
    | true =>
      rw [textLines_eq_nil_iff.2 ht, List.nil_append, textLines_append_left ht, atSeams_cons_blank ht]
      exact ⟨hle, hiff⟩
    | false =>
      cases h : isBlankText ts.flatten with
      | true =>
        have hnone : ts.flatMap textLines = [] := by
          rw [hiff.2 (atSeams_of_blank h), textLines_eq_nil_iff.2 h]
        rw [hnone, List.append_nil, textLines_append_right t h, atSeams_cons_last h]
        exact ⟨Nat.le_refl _, fun _ => rfl, fun _ => rfl⟩
      | false =>
        rw [atSeams_cons ht h, isBroken, Bool.and_eq_true, ← hiff, List.contains_iff_mem]
        by_cases hfeed : '\n' ∈ gap t ts.flatten
        · rw [textLines_append_broken hfeed, List.length_append, List.length_append,
            List.append_cancel_left_eq]
          exact ⟨Nat.add_le_add_left hle _, fun heq => ⟨hfeed, heq⟩, And.right⟩
        · have hlen := length_textLines_append ht h hfeed
          rw [List.length_append]
          refine ⟨by omega, fun heq => ?_, fun hboth => absurd hboth.1 hfeed⟩
          have heqlen := congrArg List.length heq
          rw [List.length_append] at heqlen
          omega

end HtmlCanon.Page
