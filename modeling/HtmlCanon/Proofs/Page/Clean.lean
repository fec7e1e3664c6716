import HtmlCanon.Proofs.Page.CleanValue
import HtmlCanon.Proofs.Page.Written

/-!
# The canonical form of a readable fragment

The clean lines of a fragment are those of its layout one step further out. Text keeps its lines,
which the layout sets in by whole steps; attribute values do not.

* `Outline.cleaned` : an outline with clean values.
* `cleaned_linesOf` : **the lines of outlines, cleaned**, are those of the outlines with clean values.
* `canonical_eq` : the canonical form of a fragment is the layout of its outline with clean values.
-/

namespace HtmlCanon

/-! ### Outlines with clean values -/

/-- An attribute with a clean value. -/
def Html.Attr.cleaned (a : Attr) : Attr := { a with value := Page.cleanValue a.value }

/-- A tag with clean values. -/
def Html.Tag.cleaned (t : Tag) : Tag := { t with attrs := t.attrs.map Attr.cleaned }

namespace Page

open Html Outline

mutual

/-- An outline with clean values. -/
def Outline.cleaned : Outline → Outline
  | element t os => element t.cleaned (allCleaned os)
  | o => o

/-- Outlines with clean values. -/
def Outline.allCleaned : List Outline → List Outline
  | [] => []
  | o :: os => cleaned o :: allCleaned os

end

/-! ### Lines that are cleaned -/

/-- The lines of a text one step further out, but for the blank ones. -/
def cutLines (x : Text) : List Text := ((splitLines x).map (dedent 2)).filter (!isBlankText ·)

theorem cutLines_newline (x y : Text) : cutLines (x ++ '\n' :: y) = cutLines x ++ cutLines y := by
  simp [cutLines, splitLines_append]

/-- A single line that shows. -/
theorem cutLines_line {l : Text} (hn : '\n' ∉ l) (hb : isBlankText l = false) :
    cutLines l = [dedent 2 l] := by
  simp [cutLines, splitLines_of_not_mem hn, isBlankText_dedent, hb]

/-! ### Tags -/

theorem newline_not_mem_escape {f : Char → Text} (hf : ∀ c, c ≠ '\n' → '\n' ∉ f c) {u : Text}
    (h : '\n' ∉ u) : '\n' ∉ u.flatMap f := by
  intro hm
  obtain ⟨c, hc, hcm⟩ := List.mem_flatMap.1 hm
  exact hf c (fun he => h (he ▸ hc)) hcm

theorem newline_not_mem_textChar {c : Char} (h : c ≠ '\n') : '\n' ∉ textChar c := by
  unfold textChar
  split <;> first | decide | simpa using Ne.symm h

theorem newline_not_mem_valueChar {c : Char} (h : c ≠ '\n') : '\n' ∉ valueChar c := by
  unfold valueChar
  split
  · decide
  · exact newline_not_mem_textChar h

theorem isBlankText_textChar (c : Char) : isBlankText (textChar c) = isBlank c := by
  unfold textChar
  split
  · decide
  · decide
  · decide
  · simp

theorem isBlankText_valueChar (c : Char) : isBlankText (valueChar c) = isBlank c := by
  unfold valueChar
  split
  · decide
  · exact isBlankText_textChar c

/-- Escaping leaves blank lines as they are. -/
theorem isBlankText_flatMap {f : Char → Text} (hf : ∀ c, isBlankText (f c) = isBlank c) (u : Text) :
    isBlankText (u.flatMap f) = isBlankText u := by
  induction u with
  | nil => rfl
  | cons c u ih =>
    rw [List.flatMap_cons, isBlankText_append, hf, ih]
    rfl

theorem isBlankText_escape (u : Text) : isBlankText (u.flatMap valueChar) = isBlankText u :=
  isBlankText_flatMap isBlankText_valueChar u

theorem isBlankText_escapeText (u : Text) : isBlankText (escapeText u) = isBlankText u :=
  isBlankText_flatMap isBlankText_textChar u

theorem newline_not_mem_name {s : String} (h : isPlainName s = true) : '\n' ∉ s.toList := fun hm =>
  absurd (List.all_eq_true.1 (isPlainName_all h) _ hm) (by decide)

/-- Escaping leaves indentation as it is. -/
theorem dedent_escape (n : Nat) (u : Text) :
    dedent n (u.flatMap valueChar) = (dedent n u).flatMap valueChar := by
  induction n, u using dedent.induct with
  | case1 u => rfl
  | case2 n hn => cases n <;> rfl
  | case3 n c u hc ih =>
    have hplain : valueChar c = [c] := by
      simp only [isIndent, Bool.or_eq_true, beq_iff_eq] at hc
      rcases hc with rfl | rfl <;> rfl
    rw [List.flatMap_cons, hplain, List.singleton_append, dedent, if_pos hc, dedent, if_pos hc, ih]
  | case4 n c u hc =>
    have hhead : ∃ d r, valueChar c = d :: r ∧ isIndent d = false := by
      obtain ⟨d, r, hd, rfl | ⟨rfl, -⟩⟩ := valueChar_head c
      · exact ⟨_, _, hd, by decide⟩
      · exact ⟨_, _, hd, by simpa using hc⟩
    obtain ⟨d, r, hd, hi⟩ := hhead
    have hnot : ¬isIndent d = true := by simp [hi]
    rw [dedent, if_neg hc, List.flatMap_cons, hd, List.cons_append, dedent, if_neg hnot]

/-- A text that is cleaned to another one, whatever shows before it on its first line. -/
def CleansTo (x x' : Text) : Prop :=
  ∀ l, '\n' ∉ l → isBlankText l = false → cutLines (l ++ x) = splitLines (dedent 2 l ++ x')

namespace CleansTo

variable {x x' : Text}

theorem of_not_mem (h : '\n' ∉ x) : CleansTo x x := by
  intro l hl hb
  have hd : '\n' ∉ dedent 2 (l ++ x) := fun hm =>
    absurd ((dedent_suffix 2 (l ++ x)).subset hm) (by simp [hl, h])
  rw [cutLines_line (by simp [hl, h]) (by simp [hb]), ← dedent_append 2 hb, splitLines_of_not_mem hd]

/-- Something on the same line may come before. -/
theorem append_left (h : CleansTo x x') {u : Text} (hu : '\n' ∉ u) : CleansTo (u ++ x) (u ++ x') := by
  intro l hl hb
  rw [← List.append_assoc, h (l ++ u) (by simp [hl, hu]) (by simp [hb]), dedent_append 2 hb,
    List.append_assoc]

/-- The lines of a value after the first one, with what stands after the value. -/
theorem rest (h : CleansTo x x') (v : Text) :
    cutLines (v.flatMap valueChar ++ '"' :: x) =
      splitLines ((joinLines (cleanRest (splitLines v))).flatMap valueChar ++ '"' :: x') := by
  have hesc : ∀ {u : Text}, '\n' ∉ u → '\n' ∉ u.flatMap valueChar := fun hu =>
    newline_not_mem_escape (fun _ hc => newline_not_mem_valueChar hc) hu
  induction v using line_induction with
  | last v hv =>
    have hb : isBlankText (v.flatMap valueChar ++ ['"']) = false := by
      have : isBlank '"' = false := by decide
      simp [this]
    have hl := h (v.flatMap valueChar ++ ['"']) (by simpa using hesc hv) hb
    -- the quote shows, so this line is kept even when the value is blank there
    have hquote : dedent 2 (v.flatMap valueChar ++ ['"']) = (dedent 2 v).flatMap valueChar ++ ['"'] := by
      rw [dedent_append_cons 2 _ (by decide), dedent_escape]
    rw [hquote] at hl
    rw [splitLines_of_not_mem hv]
    simpa [cleanRest, joinLines, List.intercalate] using hl
  | more a b ha ih =>
    have htext : (a ++ '\n' :: b).flatMap valueChar ++ '"' :: x =
        a.flatMap valueChar ++ '\n' :: (b.flatMap valueChar ++ '"' :: x) := by
      simp [show valueChar '\n' = ['\n'] from rfl]
    rw [htext, cutLines_newline, ih, splitLines_append, splitLines_of_not_mem ha,
      List.singleton_append, cleanRest_cons a (splitLines_ne_nil b)]
    cases hb : isBlankText a with
    | true =>
      have hnone : cutLines (a.flatMap valueChar) = [] := by
        simp [cutLines, splitLines_of_not_mem (hesc ha), isBlankText_dedent, isBlankText_escape, hb]
      rw [hnone]
      rfl
    | false =>
      have hd : '\n' ∉ dedent 2 a := fun hm => ha ((dedent_suffix 2 a).subset hm)
      have hline : cutLines (a.flatMap valueChar) = splitLines ((dedent 2 a).flatMap valueChar) := by
        rw [cutLines_line (hesc ha) (by rw [isBlankText_escape, hb]), dedent_escape,
          splitLines_of_not_mem (hesc hd)]
      rw [hline, ← splitLines_append, if_neg (by decide),
        joinLines_cons _ (cleanRest_ne_nil (splitLines_ne_nil b))]
      simp [show valueChar '\n' = ['\n'] from rfl]

/-- **A value is cleaned**, with what stands after it. -/
theorem value (h : CleansTo x x') (v : Text) :
    CleansTo (v.flatMap valueChar ++ '"' :: x) ((cleanValue v).flatMap valueChar ++ '"' :: x') := by
  have hesc : ∀ {u : Text}, '\n' ∉ u → '\n' ∉ u.flatMap valueChar := fun hu =>
    newline_not_mem_escape (fun _ hc => newline_not_mem_valueChar hc) hu
  by_cases hv : '\n' ∈ v
  · obtain ⟨a, b, rfl, ha⟩ := List.eq_append_cons_of_mem hv
    intro l hl hb
    have hd : '\n' ∉ dedent 2 l := fun hm => hl ((dedent_suffix 2 l).subset hm)
    have htext : l ++ ((a ++ '\n' :: b).flatMap valueChar ++ '"' :: x) =
        (l ++ a.flatMap valueChar) ++ '\n' :: (b.flatMap valueChar ++ '"' :: x) := by
      simp [show valueChar '\n' = ['\n'] from rfl]
    have hclean : dedent 2 l ++ ((cleanValue (a ++ '\n' :: b)).flatMap valueChar ++ '"' :: x') =
        (dedent 2 l ++ a.flatMap valueChar) ++ '\n' ::
          ((joinLines (cleanRest (splitLines b))).flatMap valueChar ++ '"' :: x') := by
      rw [cleanValue_newline ha]
      simp [show valueChar '\n' = ['\n'] from rfl]
    have hline : cutLines (l ++ a.flatMap valueChar) = splitLines (dedent 2 l ++ a.flatMap valueChar) := by
      have hnot : '\n' ∉ dedent 2 l ++ a.flatMap valueChar := by
        rw [List.mem_append, not_or]
        exact ⟨hd, hesc ha⟩
      have hnot' : '\n' ∉ l ++ a.flatMap valueChar := by
        rw [List.mem_append, not_or]
        exact ⟨hl, hesc ha⟩
      rw [cutLines_line hnot' (by simp [hb]), dedent_append 2 hb, splitLines_of_not_mem hnot]
    rw [htext, hclean, cutLines_newline, splitLines_append, hline, h.rest]
  · rw [cleanValue_of_not_mem hv]
    simpa using (h.append_left (u := ['"']) (by decide)).append_left (hesc hv)

/-- **The attributes of a tag are cleaned**, with what stands after them. -/
theorem attrs (h : CleansTo x x') {as : List Attr} (ha : as.all Attr.isPlain = true) :
    CleansTo (as.flatMap attr ++ x)
      ((as.map fun a => { a with value := cleanValue a.value }).flatMap attr ++ x') := by
  induction as with
  | nil => exact h
  | cons a as ih =>
    rw [List.all_cons, Bool.and_eq_true] at ha
    have hname : '\n' ∉ a.label.toList := by
      have hp := ha.1
      rw [(Attr.label_of_isPlain hp).2]
      simp only [Attr.isPlain, Bool.and_eq_true] at hp
      exact newline_not_mem_name hp.2
    have hattr : ∀ (v y : Text), attr { a with value := v } ++ y =
        (' ' :: a.label.toList ++ ['=', '"']) ++ (v.flatMap valueChar ++ '"' :: y) := by
      intro v y
      have hl : Attr.label { a with value := v } = a.label := rfl
      simp [attr, hl]
    rw [List.flatMap_cons, List.append_assoc, List.map_cons, List.flatMap_cons, List.append_assoc,
      hattr, hattr]
    exact ((ih ha.2).value a.value).append_left (by simpa using hname)

end CleansTo

/-! ### Outlines -/

theorem indent_succ (depth : Nat) : indent (depth + 1) = ' ' :: ' ' :: indent depth := by
  simp [indent, Nat.mul_add, List.replicate_succ]

theorem dedent_indent (depth : Nat) (x : Text) :
    dedent 2 (indent (depth + 1) ++ x) = indent depth ++ x := by
  rw [indent_succ]
  rfl

/-- A start tag that stands one step further out once it is cleaned. -/
theorem cutLines_opening {t : Tag} (ht : t.isPlain = true) (depth : Nat) {x x' : Text}
    (h : CleansTo x x') : cutLines (indent (depth + 1) ++ (opening t ++ x)) =
      splitLines (indent depth ++ (opening t.cleaned ++ x')) := by
  simp only [Tag.isPlain, Bool.and_eq_true] at ht
  have htag : ∀ (n : Nat) (u : Tag) (y : Text), indent n ++ (opening u ++ y) =
      (indent n ++ '<' :: u.name.toList) ++ (u.attrs.flatMap attr ++ (['>'] ++ y)) := by
    intro n u y
    simp [opening]
  have hn : '\n' ∉ indent (depth + 1) ++ '<' :: t.name.toList := by
    simp [indent, newline_not_mem_name ht.1.2]
  have hb : isBlankText (indent (depth + 1) ++ '<' :: t.name.toList) = false := by
    have : isBlank '<' = false := by decide
    simp [this]
  rw [htag, htag, (h.append_left (u := ['>']) (by decide)).attrs ht.2 _ hn hb, dedent_indent]
  rfl

/-- A line that holds no value. -/
theorem cutLines_indent {x : Text} (hn : '\n' ∉ x) (hb : isBlankText x = false) (depth : Nat) :
    cutLines (indent (depth + 1) ++ x) = splitLines (indent depth ++ x) := by
  have hi : ∀ n, '\n' ∉ indent n ++ x := by
    intro n
    simp [indent, hn]
  rw [cutLines_line (hi _) (by simp [hb]), dedent_indent, splitLines_of_not_mem (hi _)]

theorem newline_not_mem_escapeText {u : Text} (h : '\n' ∉ u) : '\n' ∉ escapeText u :=
  newline_not_mem_escape (fun _ hc => newline_not_mem_textChar hc) h

open Outline

theorem allCleaned_eq (os : List Outline) : allCleaned os = os.map Outline.cleaned := by
  induction os with
  | nil => rfl
  | cons o os ih => rw [allCleaned, ih, List.map_cons]

/-- What stays on one line stays there. -/
theorem inline?_cleaned (os : List Outline) : inline? (allCleaned os) = inline? os := by
  have hshown : isShown ∘ Outline.cleaned = isShown := by
    funext o
    cases o <;> rfl
  rw [inline?, inline?, allCleaned_eq, List.filter_map, hshown]
  cases os.filter isShown with
  | nil => rfl
  | cons o us =>
    cases us with
    | nil => cases o <;> rfl
    | cons u us => simp

theorem closing_newline {t : Tag} (ht : t.isPlain = true) : '\n' ∉ closing t.name := by
  simp only [Tag.isPlain, Bool.and_eq_true] at ht
  simp [closing, newline_not_mem_name ht.1.2]

/-- An element is laid out one step further out once it is cleaned, if what is in it is. -/
theorem cleaned_element {t : Tag} {os : List Outline} (h : (element t os).Plain) (depth : Nat)
    (inner : (linesOf false (depth + 2) os).flatMap cutLines =
      (linesOf false (depth + 1) (allCleaned os)).flatMap splitLines) (isTop : Bool) :
    (Outline.lines isTop (depth + 1) (element t os)).flatMap cutLines =
      (Outline.lines isTop depth (element t.cleaned (allCleaned os))).flatMap splitLines := by
  obtain ⟨ht, hw, hf⟩ := h
  have hname : t.cleaned.name = t.name := rfl
  have hopen : ∀ {x : Text}, '\n' ∉ x → cutLines (indent (depth + 1) ++ (opening t ++ x)) =
      splitLines (indent depth ++ (opening t.cleaned ++ x)) := fun hx =>
    cutLines_opening ht depth (CleansTo.of_not_mem hx)
  have hclose := closing_newline ht
  unfold Outline.lines
  rw [hname, inline?_cleaned]
  by_cases hv : t.name ∈ voidNames
  · have := hopen (x := []) (by simp)
    rw [if_pos hv, if_pos hv]
    simpa using this
  rw [if_neg hv, if_neg hv]
  cases hi : inline? os with
  | some l =>
    have hl : '\n' ∉ escapeText l := by
      rcases eq_of_inline? hf hi with ⟨rfl, -⟩ | ⟨-, -, rfl⟩
      · exact List.not_mem_nil
      · exact newline_not_mem_escapeText (hf.1.2 l List.mem_cons_self).2.2
    have := hopen (x := escapeText l ++ closing t.name) (by
      rw [List.mem_append, not_or]
      exact ⟨hl, hclose⟩)
    simpa using this
  | none =>
    have hfirst := hopen (x := []) (by simp)
    have hlast : cutLines (indent (depth + 1) ++ closing t.name) =
        splitLines (indent depth ++ closing t.name) := by
      refine cutLines_indent hclose ?_ depth
      have : isBlank '<' = false := by decide
      simp [closing, this]
    rw [List.append_nil, List.append_nil] at hfirst
    simp only [List.cons_append, List.flatMap_cons, List.flatMap_append, hfirst, inner, hlast,
      List.flatMap_nil]

mutual

theorem cleaned_lines {o : Outline} (h : o.Plain) (isTop : Bool) (depth : Nat) :
    (Outline.lines isTop (depth + 1) o).flatMap cutLines =
      (Outline.lines isTop depth o.cleaned).flatMap splitLines := by
  cases o with
  | text ls =>
    rw [Outline.cleaned]
    · unfold Outline.lines
      rw [List.flatMap_map, List.flatMap_map]
      refine List.flatMap_congr fun l hl => ?_
      obtain ⟨ht, hne, hn⟩ := h.2 l hl
      refine cutLines_indent (newline_not_mem_escapeText hn) ?_ depth
      obtain ⟨d, r, hd, -, hb⟩ := escapeText_head ht hne
      simp [hd, hb]
    · simp
  | element t os =>
    rw [Outline.cleaned]
    exact cleaned_element h depth (cleaned_linesOf h.2.2 false (depth + 1)) isTop
  | comment t => exact h.elim
  | doctype d => exact h.elim
  | verbatim m => exact h.elim

/-- **The lines of an outline, cleaned,** are those of the outline with clean values. -/
theorem cleaned_linesOf {os : List Outline} (h : PlainForest os) (isTop : Bool) (depth : Nat) :
    (linesOf isTop (depth + 1) os).flatMap cutLines =
      (linesOf isTop depth (allCleaned os)).flatMap splitLines := by
  cases os with
  | nil => rfl
  | cons o os =>
    rw [linesOf, allCleaned, linesOf, List.flatMap_append, List.flatMap_append,
      cleaned_lines h.1 isTop depth, cleaned_linesOf h.2.2 isTop depth]

end

/-! ### The canonical form -/

/-- The element around a fragment is taken away again. -/
theorem unwrapLines_eq (ls : List Text) :
    unwrapLines (opening (Tag.plain wrapperName) :: (ls ++ [closing wrapperName, []])) = ls := by
  have hopens : (trim (opening (Tag.plain wrapperName)) == '<' :: wrapperName.toList ++ ['>']) = true := by
    decide
  have hcloses : trim (closing wrapperName) = closing wrapperName := by decide
  have hblank : isBlankText (closing wrapperName) = false := by decide
  have hend : dropBlankEnd (ls ++ [closing wrapperName, []]) = ls ++ [closing wrapperName] := by
    rw [dropBlankEnd, List.reverse_append]
    show ((([] : Text) :: closing wrapperName :: ls.reverse).dropWhile isBlankText).reverse = _
    rw [List.dropWhile_cons_of_pos (by rfl), List.dropWhile_cons_of_neg (by simp [hblank])]
    simp
  have hlast : dropLastIf (fun l => trim l == closing wrapperName) (ls ++ [closing wrapperName]) = ls := by
    simp [dropLastIf, dropFirstIf, hcloses]
  have hfirst : dropFirstIf (fun l => trim l == '<' :: wrapperName.toList ++ ['>'])
      (opening (Tag.plain wrapperName) :: (ls ++ [closing wrapperName, []])) =
        ls ++ [closing wrapperName, []] := by
    rw [dropFirstIf, if_pos hopens]
  show dropLastIf _ (dropBlankEnd (dropFirstIf _ _)) = ls
  rw [hfirst, hend]
  exact hlast

/-- What an outline begins with, after its indentation. -/
theorem lines_head {o : Outline} (h : o.Plain) (isTop : Bool) (depth : Nat) :
    ∃ d r, joinLines (Outline.lines isTop depth o) = indent depth ++ d :: r ∧ isBlank d = false := by
  cases o with
  | text ls =>
    obtain ⟨l, ms, rfl⟩ := List.exists_cons_of_ne_nil h.1
    obtain ⟨ht, hne, -⟩ := h.2 l List.mem_cons_self
    obtain ⟨d, r, hd, -, hb⟩ := escapeText_head ht hne
    rw [joinLines_text, setIn_cons, escapeText_append, escapeText_indent, escapeText_append, hd]
    exact ⟨d, _, rfl, hb⟩
  | element t os =>
    rw [joinLines_element]
    exact ⟨'<', _, rfl, by decide⟩
  | comment t => exact h.elim
  | doctype d => exact h.elim
  | verbatim m => exact h.elim

/-- A fragment is set in by one step. -/
theorem width_eq {os : List Outline} (h : PlainForest os) {l : Text} {ls : List Text}
    (hl : (linesOf true 1 os).flatMap splitLines = l :: ls) : (l.takeWhile isIndent).length = 2 := by
  cases os with
  | nil => cases hl
  | cons o os =>
    obtain ⟨d, r, hd, hb⟩ := lines_head h.1 true 1
    have hi : isIndent d = false := isIndent_eq_false hb
    have hn : d ≠ '\n' := by
      rintro rfl
      exact absurd hb (by decide)
    have hline : splitLines (indent 1 ++ d :: r) =
        (' ' :: ' ' :: d :: (splitLines r).head (splitLines_ne_nil r)) :: (splitLines r).tail := by
      have hr := (List.cons_head_tail (splitLines_ne_nil r)).symm
      rw [show indent 1 = [' ', ' '] from rfl]
      exact splitLines_cons (by decide) (splitLines_cons (by decide) (splitLines_cons hn hr))
    rw [linesOf, List.flatMap_append, ← splitLines_joinLines (lines_ne_nil h.1 true 1), hd, hline] at hl
    rw [← (List.cons.inj hl).1]
    simp [hi, show isIndent ' ' = true from rfl]

/-- **The clean lines of a fragment** are the lines of its layout one step further out. -/
theorem cleanLines_fragment {os : List Outline} (h : PlainForest os) {tags : List Tag}
    (hr : areReadable tags os = true) :
    cleanLines .fragment (opening (Tag.plain wrapperName) ::
      ((linesOf true 1 os).flatMap splitLines ++ [closing wrapperName, []])) =
        (linesOf true 1 os).flatMap cutLines := by
  have hdecl : isXmlDeclaration (opening (Tag.plain wrapperName)) = false := by decide
  have hcut : ((((linesOf true 1 os).flatMap splitLines).map (dedent 2)).filter (!isBlankText ·)) =
      (linesOf true 1 os).flatMap cutLines := by
    rw [List.map_flatMap, List.filter_flatMap]
    rfl
  -- nothing is stripped off a line, for it is a part of a line of the layout
  have hstrip : ((linesOf true 1 os).flatMap cutLines).map stripReturns =
      (linesOf true 1 os).flatMap cutLines := by
    refine (List.map_congr_left fun l hl => ?_).trans (List.map_id _)
    obtain ⟨x, hx, hl⟩ := List.mem_flatMap.1 hl
    obtain ⟨m, hm, rfl⟩ := List.mem_map.1 (List.mem_filter.1 hl).1
    exact stripReturns_eq (List.all_eq_true.1 (isWritten_linesOf hr true 1) x hx)
      ((dedent_suffix 2 m).isInfix.trans (infix_of_mem_splitLines hm))
  simp only [cleanLines, dropFirstIf, hdecl, Bool.false_eq_true, if_false, unwrapLines_eq]
  cases hlines : (linesOf true 1 os).flatMap splitLines with
  | nil =>
    rw [← hcut, hlines]
    rfl
  | cons l ls =>
    have hw := width_eq h hlines
    show ((((l :: ls).map (dedent (l.takeWhile isIndent).length)).filter _).map stripReturns) = _
    rw [hw, ← hlines, hcut, hstrip]

/-- **The canonical form of a readable fragment** is the layout of its outline with clean values. -/
theorem canonical_eq {p : Page} (hs : p.shape = .fragment) (hp : isPlainForest p.nodes = true)
    (hr : areReadable [] (outlines p.nodes) = true) :
    p.canonical = joinLines (linesOf true 0 (allCleaned (outlines p.nodes))) := by
  simp only [isPlainForest, Bool.and_eq_true] at hp
  have hforest := plainForest_outlines hp.1 hp.2
  have hlines : p.lines = opening (Tag.plain wrapperName) ::
      (linesOf true 1 (outlines p.nodes) ++ [closing wrapperName]) := by
    rw [Page.lines, hs]
    simp [forestLines_eq true 1 p.nodes (allTextsAlone_of_plain hp.2)]
  have hlayout : p.layout = joinLines p.lines ++ ['\n'] := by
    rw [layout, flatMap_newline (by rw [hlines]; simp)]
  have hwritten : isWritten p.layout = true := by
    have hall : p.lines.all isWritten = true := by
      have hopen : isWritten (opening (Tag.plain wrapperName)) = true := by decide
      have hclose : isWritten (closing wrapperName) = true := by decide
      rw [hlines, List.all_cons, List.all_append, hopen, isWritten_linesOf hr true 1]
      simp [hclose]
    rw [hlayout]
    exact isWritten_append (isWritten_joinLines hall) (by decide)
  have hrepair : repairText p.layout = p.layout := by
    refine List.filter_eq_self.2 fun c hc => ?_
    have := List.all_eq_true.1 (all_of_isWritten hwritten) c hc
    rw [HtmlCanon.isReadable, Bool.and_eq_true] at this
    exact this.1
  have hsplit : splitLines p.layout = opening (Tag.plain wrapperName) ::
      ((linesOf true 1 (outlines p.nodes)).flatMap splitLines ++ [closing wrapperName, []]) := by
    have hopen : splitLines (opening (Tag.plain wrapperName)) = [opening (Tag.plain wrapperName)] := by
      decide
    have hclose : splitLines (closing wrapperName) = [closing wrapperName] := by decide
    rw [hlayout, splitLines_append, splitLines_joinLines (by rw [hlines]; simp), hlines]
    simp [hopen, hclose]
  rw [canonical, hs, hrepair, hsplit, cleanLines_fragment hforest hr, cleaned_linesOf hforest]
  by_cases hnil : linesOf true 0 (allCleaned (outlines p.nodes)) = []
  · rw [hnil]
    rfl
  · rw [← splitLines_joinLines hnil, join_splitLines]

end Page

end HtmlCanon
