import HtmlCanon.Page.Layout
import Mathlib.Data.List.Basic

/-!
# Escaped texts and tags can be read back

Whatever stands after it, an escaped text, an attribute or a start tag determines what was written
and where it ends.

* `escapeText_cancel` : an escaped text before a character that it does not contain.
* `attrs_cancel` : the attributes of a tag.
* `opening_cancel` : **a start tag with plain names** determines its tag.
-/

namespace HtmlCanon

/-! ### Plain names -/

/-- A character of a plain name. -/
def isNameChar (c : Char) : Bool := isAsciiAlphanum c || c == '-'

/-- Whether a name is made of ASCII letters, digits and hyphens. -/
def isPlainName (s : String) : Bool := !s.toList.isEmpty && s.toList.all isNameChar

theorem isPlainName_all {s : String} (h : isPlainName s = true) : s.toList.all isNameChar = true := by
  simp only [isPlainName, Bool.and_eq_true] at h
  exact h.2

/-- A plain name begins with a character of names. -/
theorem isPlainName_cons {s : String} (h : isPlainName s = true) :
    ∃ c r, s.toList = c :: r ∧ isNameChar c = true := by
  simp only [isPlainName, Bool.and_eq_true, Bool.not_eq_true', List.isEmpty_eq_false_iff] at h
  obtain ⟨c, r, hc⟩ := List.exists_cons_of_ne_nil h.1
  rw [hc] at h
  exact ⟨c, r, hc, List.all_eq_true.1 h.2 c List.mem_cons_self⟩

theorem toNat_of_isNameChar {c : Char} (h : isNameChar c = true) : 45 ≤ c.toNat ∧ c.toNat < 128 := by
  have hval : c.toNat = c.val.toNat := rfl
  have hletter : c.isAlpha =
      (decide (c.val ≥ 65 ∧ c.val ≤ 90) || (c.val ≥ 97 && c.val ≤ 122)) := rfl
  simp only [isNameChar, isAsciiAlphanum, hletter, Char.isDigit, Bool.or_eq_true,
    Bool.and_eq_true, decide_eq_true_eq, beq_iff_eq, ge_iff_le, UInt32.le_iff_toNat_le] at h
  rcases h with ((⟨h1, h2⟩ | ⟨h1, h2⟩) | ⟨h1, h2⟩) | rfl
  · simp at h1 h2
    omega
  · simp at h1 h2
    omega
  · simp at h1 h2
    omega
  · decide

theorem isBlank_of_isNameChar {c : Char} (h : isNameChar c = true) : isBlank c = false := by
  have hn := toNat_of_isNameChar h
  unfold isBlank
  simp only [Bool.or_eq_false_iff, Bool.and_eq_false_iff, decide_eq_false_iff_not,
    beq_eq_false_iff_ne]
  omega

namespace Html

/-- Whether an attribute has a plain name and no qualifier. -/
def Attr.isPlain (a : Attr) : Bool := a.qualifier?.isNone && isPlainName a.name

/-- Whether a tag is one of HTML in which all names are plain. -/
def Tag.isPlain (t : Tag) : Bool :=
  t.space == .html && isPlainName t.name && t.attrs.all Attr.isPlain

/-- An attribute without a qualifier is in no namespace, and its label is its name. -/
theorem Attr.label_of_isPlain {a : Attr} (h : a.isPlain = true) :
    a.space = .plain ∧ a.label = a.name := by
  obtain ⟨space, name, value⟩ := a
  cases space <;> simp_all [isPlain, qualifier?, label]

end Html

namespace Page

open Html

/-! ### Escaped characters -/

/-- What is written for a character begins with the character itself or with an ampersand. -/
theorem textChar_head (c : Char) :
    ∃ d r, textChar c = d :: r ∧ (d = '&' ∨ (d = c ∧ r = [] ∧ c ≠ '&' ∧ c ≠ '<' ∧ c ≠ '>')) := by
  unfold textChar
  split
  · exact ⟨_, _, rfl, .inl rfl⟩
  · exact ⟨_, _, rfl, .inl rfl⟩
  · exact ⟨_, _, rfl, .inl rfl⟩
  · rename_i h1 h2 h3
    exact ⟨_, _, rfl, .inr ⟨rfl, rfl, h1, h2, h3⟩⟩

theorem lt_not_mem_textChar (c : Char) : '<' ∉ textChar c := by
  unfold textChar
  split
  · decide
  · decide
  · decide
  · rename_i hlt _
    simpa using Ne.symm hlt

/-- The same for an attribute value, in which a quote is escaped as well. -/
theorem valueChar_head (c : Char) :
    ∃ d r, valueChar c = d :: r ∧
      (d = '&' ∨ (d = c ∧ r = [] ∧ c ≠ '&' ∧ c ≠ '<' ∧ c ≠ '>' ∧ c ≠ '"')) := by
  unfold valueChar
  split
  · exact ⟨_, _, rfl, .inl rfl⟩
  · rename_i hq
    obtain ⟨d, r, h, hd | ⟨hd, hr, h1, h2, h3⟩⟩ := textChar_head c
    · exact ⟨d, r, h, .inl hd⟩
    · exact ⟨d, r, h, .inr ⟨hd, hr, h1, h2, h3, hq⟩⟩

/-- The character that the start of an escaped text stands for. -/
def firstChar? : Text → Option Char
  | '&' :: 'a' :: _ => some '&'
  | '&' :: 'l' :: _ => some '<'
  | '&' :: 'g' :: _ => some '>'
  | '&' :: 'q' :: _ => some '"'
  | c :: _ => some c
  | [] => none

theorem firstChar?_cons {c : Char} (hc : c ≠ '&') (x : Text) : firstChar? (c :: x) = some c := by
  unfold firstChar?
  split <;> simp_all

theorem firstChar?_textChar (c : Char) (x : Text) : firstChar? (textChar c ++ x) = some c := by
  unfold textChar
  split
  · rfl
  · rfl
  · rfl
  · exact firstChar?_cons (by assumption) x

theorem firstChar?_valueChar (c : Char) (x : Text) : firstChar? (valueChar c ++ x) = some c := by
  unfold valueChar
  split
  · rfl
  · exact firstChar?_textChar c x

/-! ### Cancelling -/

/-- Writings of characters from which the first character can be read back can be cancelled before a
mark with which none of them begins. -/
theorem flatMap_cancel {f : Char → Text} {mark : Char}
    (hf : ∀ c x, firstChar? (f c ++ x) = some c) {u v x y : Text}
    (hu : ∀ c ∈ u, ∃ d r, f c = d :: r ∧ d ≠ mark) (hv : ∀ c ∈ v, ∃ d r, f c = d :: r ∧ d ≠ mark)
    (h : u.flatMap f ++ mark :: x = v.flatMap f ++ mark :: y) : u = v ∧ x = y := by
  induction u generalizing v with
  | nil =>
    cases v with
    | nil => exact ⟨rfl, (List.cons.inj h).2⟩
    | cons d v =>
      obtain ⟨e, r, he, hne⟩ := hv d List.mem_cons_self
      rw [List.flatMap_cons, he] at h
      exact absurd (List.cons.inj h).1 hne.symm
  | cons c u ih =>
    cases v with
    | nil =>
      obtain ⟨e, r, he, hne⟩ := hu c List.mem_cons_self
      rw [List.flatMap_cons, he] at h
      exact absurd (List.cons.inj h).1 hne
    | cons d v =>
      simp only [List.flatMap_cons, List.append_assoc] at h
      have hcd : c = d := by
        have := congrArg firstChar? h
        rw [hf, hf] at this
        exact Option.some.inj this
      subst hcd
      obtain ⟨huv, hxy⟩ := ih (fun c hc => hu c (List.mem_cons_of_mem _ hc))
        (fun c hc => hv c (List.mem_cons_of_mem _ hc)) (List.append_cancel_left h)
      exact ⟨by rw [huv], hxy⟩

/-- **An escaped text can be cancelled** before a mark that it does not contain, if the mark is
a `<` or no character that is escaped. -/
theorem escapeText_cancel {mark : Char} {u v x y : Text} (hu : mark ≠ '<' → mark ∉ u)
    (hv : mark ≠ '<' → mark ∉ v) (ha : mark ≠ '&')
    (h : escapeText u ++ mark :: x = escapeText v ++ mark :: y) : u = v ∧ x = y := by
  have key : ∀ w : Text, (mark ≠ '<' → mark ∉ w) → ∀ c ∈ w, ∃ d r, textChar c = d :: r ∧ d ≠ mark := by
    intro w hw c hc
    obtain ⟨d, r, he, rfl | ⟨rfl, -, -, hlt, -⟩⟩ := textChar_head c
    · exact ⟨_, _, he, ha.symm⟩
    · refine ⟨_, _, he, fun e => ?_⟩
      subst e
      exact hw hlt hc
  exact flatMap_cancel firstChar?_textChar (key u hu) (key v hv) h

theorem value_cancel {u v x y : Text}
    (h : u.flatMap valueChar ++ '"' :: x = v.flatMap valueChar ++ '"' :: y) : u = v ∧ x = y := by
  have key : ∀ w : Text, ∀ c ∈ w, ∃ d r, valueChar c = d :: r ∧ d ≠ '"' := by
    intro w c _
    obtain ⟨d, r, he, rfl | ⟨rfl, -, -, -, -, hq⟩⟩ := valueChar_head c
    · exact ⟨_, _, he, by decide⟩
    · exact ⟨_, _, he, hq⟩
  exact flatMap_cancel firstChar?_valueChar (key u) (key v) h

/-- Stretches of characters in `p` can be cancelled before a character outside `p`. -/
theorem stretch_cancel {p : Char → Bool} {u v x y : Text} {c d : Char} (hu : u.all p = true)
    (hv : v.all p = true) (hc : p c = false) (hd : p d = false) (h : u ++ c :: x = v ++ d :: y) :
    u = v ∧ c :: x = d :: y := by
  have huv : u = v := by
    have := congrArg (List.takeWhile p) h
    rw [List.takeWhile_append_of_pos (List.all_eq_true.1 hu),
      List.takeWhile_append_of_pos (List.all_eq_true.1 hv)] at this
    simpa [hc, hd] using this
  subst huv
  exact ⟨rfl, List.append_cancel_left h⟩

/-! ### Tags -/

/-- **The attributes of a tag can be cancelled**, with the end of the tag. -/
theorem attrs_cancel {as bs : List Attr} {x y : Text} (ha : as.all Attr.isPlain = true)
    (hb : bs.all Attr.isPlain = true)
    (h : as.flatMap attr ++ '>' :: x = bs.flatMap attr ++ '>' :: y) : as = bs ∧ x = y := by
  induction as generalizing bs with
  | nil =>
    cases bs with
    | nil => exact ⟨rfl, (List.cons.inj h).2⟩
    | cons b bs => simp [attr] at h
  | cons a as ih =>
    cases bs with
    | nil => simp [attr] at h
    | cons b bs =>
      simp only [List.all_cons, Bool.and_eq_true] at ha hb
      obtain ⟨hsa, hla⟩ := Attr.label_of_isPlain ha.1
      obtain ⟨hsb, hlb⟩ := Attr.label_of_isPlain hb.1
      simp only [Attr.isPlain, Bool.and_eq_true] at ha hb
      simp only [List.flatMap_cons, attr, hla, hlb, List.cons_append, List.append_assoc,
        List.cons.injEq, true_and] at h
      obtain ⟨hname, h⟩ := stretch_cancel (isPlainName_all ha.1.2) (isPlainName_all hb.1.2)
        (c := '=') (d := '=') (by decide) (by decide) h
      have hquoted : ['=', '"'] ++ (a.value.flatMap valueChar ++ '"' :: (as.flatMap attr ++ '>' :: x)) =
          ['=', '"'] ++ (b.value.flatMap valueChar ++ '"' :: (bs.flatMap attr ++ '>' :: y)) := h
      obtain ⟨hvalue, h⟩ := value_cancel (List.append_cancel_left hquoted)
      obtain ⟨hrest, hxy⟩ := ih ha.2 hb.2 h
      refine ⟨?_, hxy⟩
      obtain ⟨sa, na, va⟩ := a
      obtain ⟨sb, nb, vb⟩ := b
      simp_all [String.toList_inj]

/-- What follows the name of a tag begins with a space or with the end of the tag. -/
theorem attrs_head (as : List Attr) (x : Text) :
    ∃ c r, as.flatMap attr ++ '>' :: x = c :: r ∧ isNameChar c = false := by
  cases as with
  | nil => exact ⟨'>', x, rfl, by decide⟩
  | cons a as => exact ⟨' ', _, rfl, by decide⟩

/-- **A start tag with plain names can be cancelled.** -/
theorem opening_cancel {t u : Tag} {x y : Text} (ht : t.isPlain = true)
    (hu : u.isPlain = true) (h : opening t ++ x = opening u ++ y) : t = u ∧ x = y := by
  simp only [Tag.isPlain, Bool.and_eq_true, beq_iff_eq] at ht hu
  simp only [opening, List.cons_append, List.append_assoc, List.nil_append, List.cons.injEq,
    true_and] at h
  obtain ⟨c, r, hc, hcn⟩ := attrs_head t.attrs x
  obtain ⟨d, q, hd, hdn⟩ := attrs_head u.attrs y
  rw [hc, hd] at h
  obtain ⟨hname, h⟩ := stretch_cancel (isPlainName_all ht.1.2) (isPlainName_all hu.1.2) hcn hdn h
  rw [← hc, ← hd] at h
  obtain ⟨hattrs, hxy⟩ := attrs_cancel ht.2 hu.2 h
  refine ⟨?_, hxy⟩
  obtain ⟨st, nt, as⟩ := t
  obtain ⟨su, nu, bs⟩ := u
  simp_all [String.toList_inj]

end Page

end HtmlCanon
