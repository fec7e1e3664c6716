import HtmlCanon.Proofs.Encoding
import HtmlCanon.Proofs.Page.Clean

/-!
# Lines that are set out

The clean-up of a layout first takes lines away at its ends and then works on each line by itself:
all lines are set out by the indentation of the first one, blank lines go, and so do carriage returns
at the ends of lines.

* `canonical_eq_setOut` : the canonical form of a page from its inner lines.
* `innerLines_fragment`, `innerLines_document` : what the inner lines are.
* `setOut_eq_self_iff` : **which lines stay as they are**.
* `setOut_sublist` : lines only lose characters when they are set out.
-/

namespace HtmlCanon.Page

/-! ### Inner lines -/

/-- The lines that are left of a written page without an XML declaration on the first one and without
the element around a fragment. -/
def inner (shape : Shape) (ls : List Text) : List Text :=
  match shape with
  | .document => dropFirstIf isXmlDeclaration ls
  | .fragment => unwrapLines (dropFirstIf isXmlDeclaration ls)

/-- How far the first of some lines is set in. -/
def firstWidth : List Text → Nat
  | [] => 0
  | l :: _ => (l.takeWhile isIndent).length

/-- Lines that are set out by a width, without blank ones and without returns at their ends. -/
def setOut (width : Nat) (ls : List Text) : List Text :=
  ((ls.map (dedent width)).filter (!isBlankText ·)).map stripReturns

/-- The lines of a layout that is repaired. -/
def repairedLines (ls : List Text) : List Text := ls.flatMap fun l => splitLines (repairText l)

/-- The inner lines of a page. -/
def innerLines (p : Page) : List Text := inner p.shape (splitLines (repairText p.layout))

/-- How far the lines of a page are set out. -/
def width (p : Page) : Nat := firstWidth p.innerLines

theorem cleanLines_eq (shape : Shape) (ls : List Text) :
    cleanLines shape ls = setOut (firstWidth (inner shape ls)) (inner shape ls) := by
  cases shape <;> rfl

/-- **The canonical form of a page** from its inner lines. -/
theorem canonical_eq_setOut (p : Page) : p.canonical = joinLines (setOut p.width p.innerLines) := by
  rw [canonical, cleanLines_eq]
  rfl

theorem repairText_indent (depth : Nat) : repairText (indent depth) = indent depth := by
  refine repairText_eq_self_iff.2 (List.all_eq_true.2 fun c hc => ?_)
  rw [List.eq_of_mem_replicate hc]
  rfl

theorem repairedLines_append (ls ms : List Text) :
    repairedLines (ls ++ ms) = repairedLines ls ++ repairedLines ms := List.flatMap_append

/-- A line of its own once it is repaired. -/
theorem repairedLines_singleton (depth : Nat) (m : Text) :
    repairedLines [indent depth ++ m] = splitLines (indent depth ++ repairText m) := by
  rw [repairedLines, List.flatMap_singleton, repairText_append, repairText_indent]

/-- A layout is repaired line by line. -/
theorem splitLines_layout (ls : List Text) :
    splitLines (repairText (ls.flatMap (· ++ ['\n']))) = repairedLines ls ++ [[]] := by
  induction ls with
  | nil => rfl
  | cons l ls ih =>
    have hfeed : repairText ['\n'] = ['\n'] := rfl
    rw [List.flatMap_cons, repairText_append, repairText_append, hfeed, List.append_assoc,
      List.singleton_append, splitLines_append, ih]
    simp [repairedLines]

/-- The inner lines of a fragment are those of its nodes, set in by one step. -/
theorem innerLines_fragment {p : Page} (h : p.shape = .fragment) :
    p.innerLines = repairedLines (forestLines true 1 p.nodes) := by
  have hopen : splitLines (repairText (opening (Html.Tag.plain wrapperName))) =
      [opening (Html.Tag.plain wrapperName)] := by decide
  have hclose : splitLines (repairText (closing wrapperName)) = [closing wrapperName] := by decide
  have hdecl : isXmlDeclaration (opening (Html.Tag.plain wrapperName)) = false := by decide
  have hlines : splitLines (repairText p.layout) = opening (Html.Tag.plain wrapperName) ::
      (repairedLines (forestLines true 1 p.nodes) ++ [closing wrapperName, []]) := by
    rw [layout, splitLines_layout, Page.lines, h]
    simp only [repairedLines, List.flatMap_cons, List.cons_append, List.flatMap_append,
      List.flatMap_nil, hopen, hclose]
    simp
  rw [innerLines, hlines, h, inner, dropFirstIf, hdecl, if_neg (by decide), unwrapLines_eq]

/-- The inner lines of a document are those of its nodes, and a blank one at the end. -/
theorem innerLines_document {p : Page} (h : p.shape = .document) :
    p.innerLines =
      dropFirstIf isXmlDeclaration (repairedLines (forestLines true 0 p.nodes) ++ [[]]) := by
  rw [innerLines, layout, splitLines_layout, Page.lines, h, inner]

theorem dropFirstIf_append {q : Text → Bool} {ls : List Text} (h : ls ≠ []) (ms : List Text) :
    dropFirstIf q (ls ++ ms) = dropFirstIf q ls ++ ms := by
  cases ls with
  | nil => exact absurd rfl h
  | cons l ls =>
    rw [List.cons_append, dropFirstIf, dropFirstIf]
    split <;> rfl

theorem dropFirstIf_suffix (q : Text → Bool) (ls : List Text) : dropFirstIf q ls <:+ ls := by
  cases ls with
  | nil => exact List.suffix_refl []
  | cons l ls =>
    rw [dropFirstIf]
    split
    · exact List.suffix_cons l ls
    · exact List.suffix_refl _

theorem repairedLines_ne_nil {ls : List Text} (h : ls ≠ []) : repairedLines ls ≠ [] := by
  obtain ⟨l, ls, rfl⟩ := List.exists_cons_of_ne_nil h
  simp [repairedLines, splitLines_ne_nil]

theorem firstWidth_append {ls : List Text} (h : ls ≠ []) (ms : List Text) :
    firstWidth (ls ++ ms) = firstWidth ls := by
  cases ls with
  | nil => exact absurd rfl h
  | cons l ls => rfl

theorem dropFirstIf_eq_self {q : Text → Bool} {ls : List Text} (h : ∀ l ∈ ls.head?, q l = false) :
    dropFirstIf q ls = ls := by
  cases ls with
  | nil => rfl
  | cons l ls => rw [dropFirstIf, h l rfl, if_neg (by decide)]

/-! ### Returns at the end of a line -/

/-- A carriage return, and the references to one. -/
def returns : List Text := ["\r".toList, "&#13;".toList, "&#xD;".toList, "&#xd;".toList]

/-- Whether a line ends in a carriage return or in a reference to one. -/
def endsInReturn (l : Text) : Bool := returns.any (·.isSuffixOf l)

theorem endsInReturn_iff {l : Text} : endsInReturn l = true ↔ ∃ x ∈ returns, x <:+ l := by
  simp only [endsInReturn, List.any_eq_true, List.isSuffixOf_iff_suffix]

/-- A return goes, read from its end. -/
theorem dropReturns_return {x : Text} (hx : x ∈ returns) (r : Text) :
    dropReturns (x.reverse ++ r) = dropReturns r := by
  simp only [returns, List.mem_cons, List.not_mem_nil, or_false] at hx
  rcases hx with rfl | rfl | rfl | rfl <;> rfl

theorem dropReturns_suffix (r : Text) : dropReturns r <:+ r := by
  fun_induction dropReturns r with
  | case1 r ih => exact ih.trans (List.suffix_cons _ r)
  | case2 r ih => exact ih.trans (List.suffix_append ";31#&".toList r)
  | case3 r ih => exact ih.trans (List.suffix_append ";Dx#&".toList r)
  | case4 r ih => exact ih.trans (List.suffix_append ";dx#&".toList r)
  | case5 r => exact List.suffix_refl r

theorem length_pos_of_return {x : Text} (hx : x ∈ returns) : 0 < x.length := by
  simp only [returns, List.mem_cons, List.not_mem_nil, or_false] at hx
  rcases hx with rfl | rfl | rfl | rfl <;> decide

/-- Nothing goes exactly when no return comes first, read from its end. -/
theorem dropReturns_eq_self_iff {r : Text} :
    dropReturns r = r ↔ ∀ x ∈ returns, ¬x.reverse <+: r := by
  constructor
  · rintro hkeep x hx ⟨s, rfl⟩
    -- what is left is shorter
    have hlen := (dropReturns_suffix s).length_le
    have hpos := length_pos_of_return hx
    rw [← dropReturns_return hx, hkeep, List.length_append, List.length_reverse] at hlen
    omega
  · intro hnone
    have hhead : ∀ {x : Text}, x ∈ returns → ∀ s, r ≠ x.reverse ++ s := fun hx s hs =>
      hnone _ hx ⟨s, hs.symm⟩
    unfold dropReturns
    split
    · exact absurd rfl (hhead (x := "\r".toList) (by decide) _)
    · exact absurd rfl (hhead (x := "&#13;".toList) (by decide) _)
    · exact absurd rfl (hhead (x := "&#xD;".toList) (by decide) _)
    · exact absurd rfl (hhead (x := "&#xd;".toList) (by decide) _)
    · rfl

/-- What goes ends where a character stands that is in no return. -/
theorem dropReturns_append_cons {c : Char} (hc : ∀ x ∈ returns, c ∉ x) (r s : Text) :
    dropReturns (r ++ c :: s) = dropReturns r ++ c :: s := by
  by_cases hkeep : ∀ x ∈ returns, ¬x.reverse <+: r
  · rw [dropReturns_eq_self_iff.2 hkeep, dropReturns_eq_self_iff]
    intro x hx hprefix
    have hmem : c ∉ x.reverse := fun h => hc x hx (List.mem_reverse.1 h)
    have hupto : r ++ [c] <+: r ++ c :: s := ⟨s, by simp⟩
    -- a return that reaches up to the character would hold it
    rcases List.prefix_or_prefix_of_prefix hprefix hupto with h | h
    · rcases List.prefix_concat_iff.1 h with h | h
      · exact hmem (by simp [h])
      · exact hkeep x hx h
    · exact hmem (h.mem (by simp))
  · simp only [not_forall, not_not] at hkeep
    obtain ⟨x, hx, t, rfl⟩ := hkeep
    have hpos := length_pos_of_return hx
    have hshort : t.length < (x.reverse ++ t).length := by
      rw [List.length_append, List.length_reverse]
      omega
    rw [List.append_assoc, dropReturns_return hx, dropReturns_return hx,
      dropReturns_append_cons hc t s]
termination_by r.length

theorem stripReturns_isPrefix (l : Text) : stripReturns l <+: l := by
  have h := dropReturns_suffix l.reverse
  rwa [stripReturns, ← List.reverse_suffix, List.reverse_reverse]

/-- **Nothing is stripped off a line** exactly when it ends in no return. -/
theorem stripReturns_eq_self_iff {l : Text} : stripReturns l = l ↔ endsInReturn l = false := by
  have hrev : stripReturns l = l ↔ dropReturns l.reverse = l.reverse :=
    List.reverse_eq_iff
  rw [hrev, dropReturns_eq_self_iff, Bool.eq_false_iff, ne_eq, endsInReturn_iff]
  simp only [List.reverse_prefix, not_exists, not_and]

/-- What is stripped off a line ends where a character stands that is in no return. -/
theorem stripReturns_keeps {c : Char} (hc : ∀ x ∈ returns, c ∉ x) (x l : Text) :
    stripReturns (x ++ c :: l) = x ++ c :: stripReturns l := by
  have hrev : (x ++ c :: l).reverse = l.reverse ++ c :: x.reverse := by simp
  rw [stripReturns, hrev, dropReturns_append_cons hc, stripReturns]
  simp

theorem stripReturns_append_cons {c : Char} (hc : ∀ x ∈ returns, c ∉ x) (x l : Text) :
    stripReturns (x ++ c :: l) = x ++ stripReturns (c :: l) := by
  rw [stripReturns_keeps hc x l, ← List.nil_append (c :: l), stripReturns_keeps hc [] l,
    List.nil_append]

/-- Carriage returns at the end of a line are stripped off. -/
theorem stripReturns_append_returns {rs : Text} (hrs : ∀ c ∈ rs, c = '\r') (l : Text) :
    stripReturns (l ++ rs) = stripReturns l := by
  have hdrop : ∀ r : Text, (∀ c ∈ r, c = '\r') → dropReturns (r ++ l.reverse) = dropReturns l.reverse := by
    intro r hr
    induction r with
    | nil => rfl
    | cons c r ih =>
      obtain rfl := hr c List.mem_cons_self
      exact ih fun d hd => hr d (List.mem_cons_of_mem _ hd)
  rw [stripReturns, List.reverse_append, hdrop rs.reverse fun c hc => hrs c (List.mem_reverse.1 hc),
    stripReturns]

/-! ### Lines that stay as they are -/

/-- Whether a line is left as it is when lines are set out by a width: it shows something, it is not
set in, unless nothing is, and it ends in no return. -/
def isSteadyLine (width : Nat) (l : Text) : Bool :=
  !isBlankText l && (width == 0 || !isSetIn l) && !endsInReturn l

theorem setOut_append (w : Nat) (ls ms : List Text) :
    setOut w (ls ++ ms) = setOut w ls ++ setOut w ms := by
  simp [setOut]

theorem setOut_cons (w : Nat) (l : Text) (ls : List Text) :
    setOut w (l :: ls) =
      if isBlankText l then setOut w ls else stripReturns (dedent w l) :: setOut w ls := by
  rw [setOut, List.map_cons, List.filter_cons, isBlankText_dedent]
  cases isBlankText l <;> rfl

theorem setOut_length_le (w : Nat) (ls : List Text) : (setOut w ls).length ≤ ls.length := by
  rw [setOut, List.length_map]
  exact (List.length_filter_le _ _).trans (List.length_map _).le

theorem dedent_eq_self (w : Nat) (l : Text) : dedent w l = l ↔ (w == 0 || !isSetIn l) = true := by
  cases w with
  | zero => simp [dedent]
  | succ w => simp [dedent_eq_self_iff]

/-- A line is set out as it is when both of the things that are done to it leave it. -/
theorem stripReturns_dedent_eq_self_iff (w : Nat) (l : Text) :
    stripReturns (dedent w l) = l ↔ dedent w l = l ∧ stripReturns l = l := by
  constructor
  · intro h
    have hdedent : dedent w l = l := by
      refine (dedent_suffix w l).eq_of_length_le ?_
      calc l.length = (stripReturns (dedent w l)).length := by rw [h]
        _ ≤ (dedent w l).length := (stripReturns_isPrefix _).length_le
    rw [hdedent] at h
    exact ⟨hdedent, h⟩
  · rintro ⟨hdedent, hstrip⟩
    rw [hdedent, hstrip]

/-- **Lines stay as they are** when each of them does. -/
theorem setOut_eq_self_iff (w : Nat) (ls : List Text) :
    setOut w ls = ls ↔ ls.all (isSteadyLine w) = true := by
  induction ls with
  | nil => simp [setOut]
  | cons l ls ih =>
    rw [setOut_cons, List.all_cons, Bool.and_eq_true, ← ih]
    by_cases hb : isBlankText l = true
    · -- a line has gone, and none comes back
      have hne : setOut w ls ≠ l :: ls := by
        intro h
        have := setOut_length_le w ls
        rw [h, List.length_cons] at this
        omega
      simp [isSteadyLine, hb, hne]
    · rw [if_neg hb, List.cons.injEq, stripReturns_dedent_eq_self_iff, dedent_eq_self,
        stripReturns_eq_self_iff]
      simp [isSteadyLine, hb]

/-! ### Less text -/

/-- A text from its first line and the others with a line feed in front of each. -/
theorem joinLines_eq_append (l : Text) (ls : List Text) :
    joinLines (l :: ls) = l ++ ls.flatMap ('\n' :: ·) := by
  induction ls generalizing l with
  | nil => simp [joinLines, List.intercalate]
  | cons m ms ih =>
    rw [joinLines_cons l (List.cons_ne_nil m ms), ih, List.flatMap_cons, List.cons_append]

/-- **Lines only lose characters** when they are set out. -/
theorem setOut_sublist (w : Nat) (ls : List Text) :
    ((setOut w ls).flatMap ('\n' :: ·)).Sublist (ls.flatMap ('\n' :: ·)) := by
  induction ls with
  | nil => simp [setOut]
  | cons l ls ih =>
    rw [setOut_cons, List.flatMap_cons]
    split
    · exact ih.trans (List.sublist_append_right _ _)
    · have hline : (stripReturns (dedent w l)).Sublist l :=
        (stripReturns_isPrefix _).sublist.trans (dedent_suffix w l).sublist
      rw [List.flatMap_cons]
      exact (hline.cons_cons '\n').append ih

end HtmlCanon.Page
