import HtmlCanon.Page.Canonical
import HtmlCanon.Proofs.Page.Reread

/-!
# Characters of a layout

What is written in the layout of a readable outline: readable characters, in which every ampersand
begins the reference to a character of markup.

* `isWritten_linesOf` : **every line of a readable outline is written** that way.
* `stripReturns_eq` : the clean-up finds no carriage return in such a line, and no reference to one.
-/

namespace HtmlCanon.Page

open Html Outline

/-- A text as layouts are written: its characters are readable, and no ampersand stands at its end
or before a number sign. -/
def isWritten : Text → Bool
  | [] => true
  | c :: r => HtmlCanon.isReadable c && (c != '&' || r.head?.any (· != '#')) && isWritten r

theorem isWritten_append {x y : Text} (hx : isWritten x = true) (hy : isWritten y = true) :
    isWritten (x ++ y) = true := by
  induction x with
  | nil => exact hy
  | cons c x ih =>
    simp only [isWritten, Bool.and_eq_true] at hx
    rw [List.cons_append, isWritten, ih hx.2, hx.1.1]
    -- an ampersand has its next character in the same part, for none stands at the end
    cases x with
    | nil =>
      have hc : (c != '&') = true := by simpa using hx.1.2
      simp [hc]
    | cons d x => simpa using hx.1.2

theorem isWritten_right {x y : Text} (h : isWritten (x ++ y) = true) : isWritten y = true := by
  induction x with
  | nil => exact h
  | cons c x ih =>
    rw [List.cons_append, isWritten, Bool.and_eq_true] at h
    exact ih h.2

theorem isWritten_flatMap {f : Char → Text} {u : Text} (h : ∀ c ∈ u, isWritten (f c) = true) :
    isWritten (u.flatMap f) = true := by
  induction u with
  | nil => rfl
  | cons c u ih =>
    rw [List.flatMap_cons]
    exact isWritten_append (h c List.mem_cons_self) (ih fun d hd => h d (List.mem_cons_of_mem _ hd))

theorem all_of_isWritten {x : Text} (h : isWritten x = true) : x.all HtmlCanon.isReadable = true := by
  induction x with
  | nil => rfl
  | cons c x ih =>
    simp only [isWritten, Bool.and_eq_true] at h
    simp [h.1.1, ih h.2]

theorem isWritten_textChar {c : Char} (h : HtmlCanon.isReadable c = true) :
    isWritten (textChar c) = true := by
  unfold textChar
  split
  · decide
  · decide
  · decide
  · rename_i hamp _ _
    have hne : c ≠ '&' := hamp
    simp [isWritten, h, hne]

theorem isWritten_valueChar {c : Char} (h : HtmlCanon.isReadable c = true) :
    isWritten (valueChar c) = true := by
  unfold valueChar
  split
  · decide
  · exact isWritten_textChar h

theorem isReadable_of_name {c : Char} (h : isNameChar c = true) : HtmlCanon.isReadable c = true := by
  have hn := toNat_of_isNameChar h
  have hcr : c ≠ '\r' := char_ne h (by decide)
  simp only [HtmlCanon.isReadable, isRepresentable, Bool.and_eq_true, Bool.or_eq_true, bne_iff_ne,
    decide_eq_true_eq]
  refine ⟨.inr ⟨⟨?_, ?_⟩, ?_⟩, hcr⟩ <;> omega

theorem isWritten_name {s : String} (h : isPlainName s = true) : isWritten s.toList = true := by
  have hall := isPlainName_all h
  generalize s.toList = n at hall
  induction n with
  | nil => rfl
  | cons c n ih =>
    rw [List.all_cons, Bool.and_eq_true] at hall
    have hamp : c ≠ '&' := char_ne hall.1 (by decide)
    simp [isWritten, ih hall.2, isReadable_of_name hall.1, hamp]

theorem isWritten_indent (depth : Nat) : isWritten (indent depth) = true := by
  unfold indent
  generalize 2 * depth = n
  induction n with
  | zero => rfl
  | succ n ih =>
    have hs : HtmlCanon.isReadable ' ' = true := by decide
    simp [List.replicate_succ, isWritten, ih, hs]

/-- **Nothing is stripped off the lines of a layout**: neither a carriage return nor a reference to
one stands in them. -/
theorem stripReturns_eq {x l : Text} (h : isWritten x = true) (hl : l <:+: x) :
    stripReturns l = l := by
  obtain ⟨a, b, rfl⟩ := hl
  rw [List.append_assoc] at h
  have hread := all_of_isWritten h
  rw [List.all_append, List.all_append, Bool.and_eq_true, Bool.and_eq_true] at hread
  have hret : '\r' ∉ l := (not_mem_of_readable hread.2.1).1
  -- a reference at the end of the line
  have href : ∀ {r w : Text}, l.reverse = w.reverse ++ '#' :: '&' :: r → False := by
    intro r w he
    have hl : l = r.reverse ++ '&' :: '#' :: w := by
      have := congrArg List.reverse he
      simpa using this
    have htail : isWritten ('&' :: '#' :: (w ++ b)) = true := by
      refine isWritten_right (x := a ++ r.reverse) ?_
      simpa [hl] using h
    simp [isWritten] at htail
  have hkeep : dropReturns l.reverse = l.reverse := by
    unfold dropReturns
    split
    · rename_i he
      exact absurd (List.mem_reverse.1 (he ▸ List.mem_cons_self)) hret
    · rename_i he
      exact (href (w := ['1', '3', ';']) he).elim
    · rename_i he
      exact (href (w := ['x', 'D', ';']) he).elim
    · rename_i he
      exact (href (w := ['x', 'd', ';']) he).elim
    · rfl
  rw [stripReturns, hkeep, List.reverse_reverse]

theorem isWritten_opening {t : Tag} (h : t.isReadable = true) : isWritten (opening t) = true := by
  have hname := t.isReadable_name h
  simp only [isTagName, Bool.and_eq_true] at hname
  simp only [Tag.isReadable, Bool.and_eq_true] at h
  have hattrs : ∀ as : List Attr, as.all Token.isReadableAttr = true →
      isWritten (as.flatMap attr) = true := by
    intro as ha
    induction as with
    | nil => rfl
    | cons a as ih =>
      rw [List.all_cons, Bool.and_eq_true] at ha
      have hread := ha.1
      simp only [Token.isReadableAttr, Bool.and_eq_true] at hread
      have hlabel : isWritten (' ' :: a.label.toList) = true := by
        rw [(Attr.label_of_isPlain hread.1.1).2]
        exact isWritten_append (x := [' ']) (by decide)
          (isWritten_name (isPlainName_of_lower hread.1.2))
      have hvalue : isWritten (a.value.flatMap valueChar) = true :=
        isWritten_flatMap fun c hc => isWritten_valueChar (List.all_eq_true.1 hread.2 c hc)
      rw [List.flatMap_cons, attr]
      exact isWritten_append (isWritten_append (isWritten_append (isWritten_append hlabel (by decide))
        hvalue) (by decide)) (ih ha.2)
  exact isWritten_append (isWritten_append (isWritten_append (x := ['<']) (by decide)
    (isWritten_name (isPlainName_of_lower hname.1))) (hattrs _ h.1.1.2)) (by decide)

theorem isWritten_closing {name : String} (h : isTagName name = true) :
    isWritten (closing name) = true := by
  simp only [isTagName, Bool.and_eq_true] at h
  exact isWritten_append (isWritten_append (by decide) (isWritten_name (isPlainName_of_lower h.1)))
    (by decide)

theorem isWritten_escapeText {u : Text} (h : u.all HtmlCanon.isReadable = true) :
    isWritten (escapeText u) = true :=
  isWritten_flatMap fun c hc => isWritten_textChar (List.all_eq_true.1 h c hc)

theorem isReadable_of_mem {tags : List Tag} {os : List Outline} (h : areReadable tags os = true)
    {o : Outline} (ho : o ∈ os) : o.isReadable tags = true := by
  induction os with
  | nil => cases ho
  | cons u us ih =>
    simp only [areReadable, Bool.and_eq_true] at h
    rcases List.mem_cons.1 ho with rfl | ho
    · exact h.1
    · exact ih h.2 ho

theorem isReadable_of_inline? {tags : List Tag} {os : List Outline}
    (h : areReadable tags os = true) {l : Text} (hl : inline? os = some l) :
    l.all HtmlCanon.isReadable = true := by
  unfold inline? at hl
  split at hl
  · rw [← Option.some.inj hl]
    rfl
  · rename_i m hm
    have ho := isReadable_of_mem h (List.mem_filter.1 (hm ▸ List.mem_singleton_self (text [m]))).1
    rw [← Option.some.inj hl]
    simpa [Outline.isReadable] using ho
  · cases hl

mutual

theorem isWritten_lines {o : Outline} {tags : List Tag} (h : o.isReadable tags = true)
    (isTop : Bool) (depth : Nat) : (Outline.lines isTop depth o).all isWritten = true := by
  have hi := isWritten_indent depth
  cases o with
  | text ls =>
    rw [Outline.isReadable, List.all_eq_true] at h
    simp only [Outline.lines, List.all_map, List.all_eq_true]
    exact fun l hl => isWritten_append hi (isWritten_escapeText (h l hl))
  | element t os =>
    simp only [Outline.isReadable, Bool.and_eq_true] at h
    have ho := isWritten_append hi (isWritten_opening h.1.1.2)
    have hc := isWritten_closing (t.isReadable_name h.1.1.2)
    unfold Outline.lines
    split
    · simp [ho]
    · split
      · rename_i l hl
        have hline := isWritten_append (isWritten_append ho
          (isWritten_escapeText (isReadable_of_inline? h.2 hl))) hc
        rw [List.all_cons, hline]
        rfl
      · have ih := isWritten_linesOf h.2 false (depth + 1)
        simp [ho, ih, isWritten_append hi hc]
  | comment t => cases h
  | doctype d => cases h
  | verbatim m => cases h

/-- **Every line of a readable outline is written.** -/
theorem isWritten_linesOf {os : List Outline} {tags : List Tag} (h : areReadable tags os = true)
    (isTop : Bool) (depth : Nat) : (linesOf isTop depth os).all isWritten = true := by
  cases os with
  | nil => rfl
  | cons o os =>
    simp only [areReadable, Bool.and_eq_true] at h
    rw [linesOf, List.all_append, isWritten_lines h.1 isTop depth, isWritten_linesOf h.2 isTop depth]
    rfl

end

theorem isWritten_joinLines {ls : List Text} (h : ls.all isWritten = true) :
    isWritten (joinLines ls) = true := by
  induction ls with
  | nil => rfl
  | cons l ls ih =>
    rw [List.all_cons, Bool.and_eq_true] at h
    cases ls with
    | nil => simpa [joinLines, List.intercalate] using h.1
    | cons m ms =>
      rw [joinLines_cons l (List.cons_ne_nil m ms)]
      exact isWritten_append h.1 (isWritten_append (x := ['\n']) (by decide) (ih h.2))

end HtmlCanon.Page
