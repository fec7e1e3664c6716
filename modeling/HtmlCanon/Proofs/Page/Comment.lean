import HtmlCanon.Proofs.Html.Comment
import HtmlCanon.Proofs.Page.Fragment
import HtmlCanon.Proofs.Page.Verbatim

/-!
# Comments that are written

A comment is laid out without any escapes, between comment marks or as a declaration, and its lines
are cleaned like those of the layout. Cleaning moves nothing across a line feed, so it brings up no
end mark; taking unrepresentable characters out can do that, and a declaration ends at any `>`.

* `cleanBlock_between` : what cleaning does between two marks.
* `StaysComment` : comments without a mark in them once they are repaired.
* `isComment_cleanBlock` : **they are read as one comment again**.
* `parse_comment` : **comments of a page that is read**.
-/

namespace HtmlCanon.Page

open Html

/-! ### Cleaning between marks -/

/-- Characters that the clean-up leaves where they are: none is blank or in a return. -/
def IsMark (m : Text) : Prop := m ≠ [] ∧ ∀ c ∈ m, isBlank c = false ∧ ∀ x ∈ returns, c ∉ x

-- goes through the characters of the mark, not through all characters
instance (m : Text) : Decidable (IsMark m) :=
  @instDecidableAnd (m ≠ []) _ inferInstance (List.decidableBAll _ m)

namespace IsMark

variable {m : Text}

theorem not_mem (h : IsMark m) {c : Char} (hc : isBlank c = true) : c ∉ m := fun hm => by
  rw [(h.2 c hm).1] at hc
  cases hc

theorem isBlankText_append (h : IsMark m) (t : Text) : isBlankText (t ++ m) = false := by
  obtain ⟨c, r, rfl⟩ := List.exists_cons_of_ne_nil h.1
  simp [(h.2 c List.mem_cons_self).1]

theorem dedent_append (h : IsMark m) (w : Nat) (t : Text) : dedent w (t ++ m) = dedent w t ++ m := by
  obtain ⟨c, r, rfl⟩ := List.exists_cons_of_ne_nil h.1
  exact dedent_append_cons w t (isIndent_eq_false (h.2 c List.mem_cons_self).1) r

/-- Returns are stripped off up to a mark. -/
theorem stripReturns_append (h : IsMark m) (t u : Text) :
    stripReturns (t ++ m ++ u) = t ++ m ++ stripReturns u := by
  obtain ⟨n, c, rfl⟩ := List.eq_nil_or_concat' m |>.resolve_left h.1
  have := stripReturns_keeps (h.2 c (by simp)).2 (t ++ n) u
  simpa using this

theorem stripReturns_end (h : IsMark m) (t : Text) : stripReturns (t ++ m) = t ++ m := by
  have := h.stripReturns_append t []
  simpa [stripReturns, dropReturns] using this

end IsMark

variable {a b : Text}

/-- Of the lines up to a mark, all that is left stood on one of them. -/
theorem setOut_ending (hb : IsMark b) (w : Nat) (t : Text) :
    ∃ u, (setOut w (splitLines (t ++ b))).flatMap ('\n' :: ·) = '\n' :: (u ++ b) ∧
      ∀ p : Text, '\n' ∉ p → p <:+: u → p <:+: t := by
  have hfeed := hb.not_mem (c := '\n') (by decide)
  induction t using line_induction with
  | last t ht =>
    have hline : '\n' ∉ t ++ b := by
      rw [List.mem_append, not_or]
      exact ⟨ht, hfeed⟩
    refine ⟨dedent w t, ?_, fun p _ hp => hp.trans (dedent_suffix w t).isInfix⟩
    rw [splitLines_of_not_mem hline, setOut_cons, hb.isBlankText_append, if_neg (by decide),
      hb.dedent_append, hb.stripReturns_end]
    simp [setOut]
  | more x y hx ih =>
    obtain ⟨u, hu, hin⟩ := ih
    have hbehind : ∀ p : Text, '\n' ∉ p → p <:+: u → p <:+: x ++ '\n' :: y := fun p hp h =>
      (hin p hp h).trans ((List.suffix_cons '\n' y).trans (List.suffix_append x _)).isInfix
    rw [List.append_assoc, List.cons_append, splitLines_append, splitLines_of_not_mem hx,
      List.singleton_append, setOut_cons]
    by_cases hblank : isBlankText x = true
    · rw [if_pos hblank, hu]
      exact ⟨u, rfl, hbehind⟩
    · rw [if_neg hblank, List.flatMap_cons, hu]
      refine ⟨stripReturns (dedent w x) ++ '\n' :: u, by simp, fun p hp h => ?_⟩
      rcases isInfix_of_not_mem hp h with h | h
      · have hline : stripReturns (dedent w x) <:+: x :=
          (stripReturns_isPrefix _).isInfix.trans (dedent_suffix w x).isInfix
        exact (h.trans hline).trans (List.prefix_append x _).isInfix
      · exact hbehind p hp h

/-- **Cleaning between marks**: both stay, and what is between them loses characters at the ends of
its lines only. -/
theorem cleanBlock_between (ha : IsMark a) (hb : IsMark b) (w : Nat) (t : Text) :
    ∃ u, cleanBlock w (a ++ t ++ b) = a ++ u ++ b ∧ Worn u t := by
  have hfa := ha.not_mem (c := '\n') (by decide)
  have hfb := hb.not_mem (c := '\n') (by decide)
  by_cases ht : '\n' ∈ t
  · obtain ⟨x, y, rfl, hx⟩ := List.eq_append_cons_of_mem ht
    obtain ⟨u, hu, hin⟩ := setOut_ending hb w y
    have hlines : splitLines (a ++ (x ++ '\n' :: y) ++ b) = (a ++ x) :: splitLines (y ++ b) := by
      have hfirst : '\n' ∉ a ++ x := by
        rw [List.mem_append, not_or]
        exact ⟨hfa, hx⟩
      have hjoin := splitLines_append (a ++ x) (y ++ b)
      rw [splitLines_of_not_mem hfirst, List.singleton_append] at hjoin
      simpa using hjoin
    have hstrip : stripReturns (a ++ x) = a ++ stripReturns x := by
      simpa using ha.stripReturns_append [] x
    refine ⟨stripReturns x ++ '\n' :: u, ?_, .newline (.of_isPrefix ?_) fun p hp _ h => ?_⟩
    · rw [cleanBlock_of_lines w hlines, joinLines_eq_append, hu, hstrip]
      simp
    · exact (stripReturns_isPrefix x).trans (List.prefix_append x _)
    · exact (hin p hp h).trans ((List.suffix_cons '\n' y).trans (List.suffix_append x _)).isInfix
  · have hline : '\n' ∉ a ++ t ++ b := by
      simp only [List.mem_append, not_or]
      exact ⟨⟨hfa, ht⟩, hfb⟩
    refine ⟨t, ?_, .of_isPrefix (List.prefix_refl t)⟩
    rw [cleanBlock_of_lines w (splitLines_of_not_mem hline), hb.stripReturns_end]
    simp [setOut, joinLines, List.intercalate]

/-! ### A comment once it is clean -/

/-- Whether a comment is written as a declaration. -/
def isDeclaration (t : Text) : Bool := (after? "?xml".toList t).isSome

/-- A comment in which nothing ends it once it is repaired. -/
def StaysComment (t : Text) : Prop :=
  if isDeclaration t then '>' ∉ repairText t else Sealed (repairText t)

/-- The layout of a comment once it is repaired. -/
theorem repairText_commentText (t : Text) :
    repairText (commentText t) =
      if isDeclaration t then '<' :: repairText t ++ ['>']
      else "<!--".toList ++ repairText t ++ "-->".toList := by
  have hone : repairText ['>'] = ['>'] := by decide
  have hopen : repairText "<!--".toList = "<!--".toList := by decide
  have hclose : repairText "-->".toList = "-->".toList := by decide
  have hangle : repairText ('<' :: t) = '<' :: repairText t := rfl
  rw [commentText, isDeclaration]
  split
  · rw [repairText_append, hangle, hone]
  · rw [repairText_append, repairText_append, hopen, hclose]

theorem commentText_head (t : Text) : ∃ r, repairText (commentText t) = '<' :: r := by
  rw [repairText_commentText]
  split <;> exact ⟨_, rfl⟩

/-- **A comment is read as one comment again** after it has been cleaned, if nothing ends it. -/
theorem isComment_cleanBlock {t : Text} (h : StaysComment t) (w : Nat) :
    ∃ u, IsComment (cleanBlock w (repairText (commentText t))) u := by
  rw [repairText_commentText]
  rw [StaysComment] at h
  by_cases hd : isDeclaration t = true
  · rw [if_pos hd] at h ⊢
    obtain ⟨r, hr⟩ := Option.isSome_iff_exists.1 hd
    have hrepair : repairText t = '?' :: repairText ("xml".toList ++ r) := by
      rw [eq_append_of_after? hr]
      rfl
    obtain ⟨u, hu, hworn⟩ := cleanBlock_between (a := "<?".toList) (b := ['>']) (by decide)
      (by decide) w (repairText ("xml".toList ++ r))
    have hfree : '>' ∉ u := fun hm => h (by
      rw [hrepair]
      exact List.mem_cons_of_mem _ (hworn.mem (by decide) (by decide) hm))
    have hblock : cleanBlock w ('<' :: repairText t ++ ['>']) = '<' :: '?' :: u ++ ['>'] := by
      rw [hrepair]
      exact hu
    rw [hblock]
    refine ⟨Token.plainText ('?' :: u), by simp, fun cdata x => ?_⟩
    simpa using Lexeme.markup_declaration hfree cdata x
  · rw [if_neg hd] at h ⊢
    obtain ⟨u, hu, hworn⟩ := cleanBlock_between (a := "<!--".toList) (b := "-->".toList) (by decide)
      (by decide) w (repairText t)
    rw [hu]
    exact ⟨_, by simp, fun cdata x => Lexeme.markup_comment (hworn.sealed h) cdata x⟩

theorem canonical_comment (t : Text) :
    (fragment [.comment t]).canonical = cleanBlock 2 (repairText (commentText t)) := by
  have hlines : nodeLines true 1 (.comment t) = [indent 1 ++ commentText t] := by rw [nodeLines]
  obtain ⟨r, hr⟩ := commentText_head t
  rw [canonical_angle hlines hr, hr]

/-! ### Comments of a page that is read -/

/-- **The comments of a page** hold nothing that ends them. -/
theorem sealed_of_mem {s t : Text} (h : t ∈ Node.comments (parse s).nodes) : Sealed t :=
  (Html.sealed_parse s).pageParse _ (Node.mem_comments.1 h) t rfl

/-- The canonical form of a comment in a division. -/
def divided (t : Text) : Text :=
  "<div>".toList ++ (fragment [.comment t]).canonical ++ "</div>".toList

/-- A division around what is read as a comment. -/
theorem parse_division {m u : Text} (hm : IsComment m u) :
    parse ("<div>".toList ++ m ++ "</div>".toList) =
      fragment [Node.wrapper "div" [.comment u]] := by
  have hopens : "<div>".toList = opening (Tag.plain "div") := by decide
  have hcloses : "</div>".toList = closing "div" := by decide
  have hready : Ready Builder.start [] beginFrames := .inr ⟨rfl, rfl, rfl⟩
  obtain ⟨b₁, i, hb₁, hi₁⟩ := hready.reads_opening (t := Tag.plain "div") (by decide +kernel) (by decide)
    (by decide) (by decide) (m ++ closing "div")
  obtain ⟨b₂, hb₂, hi₂⟩ := hi₁.reads_comment hm (closing "div")
  obtain ⟨b₃, hb₃, hi₃⟩ := hi₂.reads_closing (by decide) []
  rw [List.append_nil] at hb₃
  rw [hopens, hcloses, List.append_assoc]
  refine parse_of_reads (isDocument_opening (by decide +kernel) (by decide) _) ?_
    (hb₁.trans (hb₂.trans hb₃)) (.inl hi₃)
  simp [opening]

/-- **A comment stays a comment.** Take any comment of a page that is read, and set it in a division
in its canonical form. What is read from that is the division with one comment in it and nothing else,
unless repairing the comment brings up an end mark or the comment is written as a declaration and
holds a `>`. -/
theorem parse_comment {s t : Text} (h : t ∈ Node.comments (parse s).nodes)
    (hordinary : isDeclaration t = false → repairText t ≠ t → Sealed (repairText t))
    (hdeclaration : isDeclaration t = true → '>' ∉ repairText t) :
    ∃ u, parse (divided t) = fragment [Node.wrapper "div" [.comment u]] := by
  have hstays : StaysComment t := by
    rw [StaysComment]
    split
    · exact hdeclaration ‹_›
    · by_cases hrepair : repairText t = t
      · rw [hrepair]
        exact sealed_of_mem h
      · exact hordinary (Bool.eq_false_iff.2 ‹_›) hrepair
  obtain ⟨u, hu⟩ := isComment_cleanBlock hstays 2
  rw [divided, canonical_comment]
  exact ⟨u, parse_division hu⟩

/-- A paragraph with a comment in it. -/
def commented (t : Text) : Text := "<p><!--".toList ++ t ++ "-->".toList

/-- A comment of two lines that looks like markup. -/
def veiledBold : Text := "<b>-\n  - ->".toList

/-- It stays a comment, though its second line is set out. -/
theorem parse_comment_veiledBold :
    ∃ u, parse (divided veiledBold) = fragment [Node.wrapper "div" [.comment u]] := by
  have hread : veiledBold ∈ Node.comments (parse (commented veiledBold)).nodes := by decide +kernel
  have hrepair : repairText veiledBold = veiledBold := by decide
  have hordinary : isDeclaration veiledBold = false := by decide
  refine parse_comment hread (fun _ h => absurd hrepair h) fun h => ?_
  rw [hordinary] at h
  cases h

/-- A comment that begins like a declaration and goes on with markup. -/
def declaredBold : Text := "?xml ><b>x</b>".toList

/-- A comment with an end mark that only a control character breaks. -/
def brokenMark : Text := "a--\x01><b>x</b>".toList

/-- In both there is markup that comes out. -/
theorem parse_comment_declaredBold :
    (declaredBold ∈ Node.comments (parse (commented declaredBold)).nodes ∧
      ∃ n ∈ (parse (divided declaredBold)).nodes, n.children.any Node.isElement = true) ∧
    (brokenMark ∈ Node.comments (parse (commented brokenMark)).nodes ∧
      ∃ n ∈ (parse (divided brokenMark)).nodes, n.children.any Node.isElement = true) := by
  decide +kernel

end HtmlCanon.Page
