import HtmlCanon.Proofs.Page.Alike
import HtmlCanon.Proofs.Page.Comment
import HtmlCanon.Proofs.Page.Repair

/-!
# Repairing a page and repairing its layout

Characters that no text can hold are taken out of the layout once it is written. Taking them out of
the page instead gives the same canonical form as long as no white space comes to light: a line that
is trimmed around such a character is trimmed again when the character has gone first, and an element
may stay on one line then.

* `keepsLayout` : nodes in which no white space comes to light.
* `agree_forest` : **their lines are left alike**.
* `canonical_repaired` : **both ways give the same canonical form**.
-/

namespace HtmlCanon

namespace Page

open Html

variable {depth : Nat}

/-! ### Lines of texts -/

/-- Whether only carriage returns come to light at the ends of the lines of a text when unrepresentable
characters are taken out of it. -/
def keepsLines (t : Text) : Bool :=
  (textLines t).all fun l => dropTailWhile (· == '\r') (repairText l) == trim (repairText l)

theorem escapeText_returns {rs : Text} (hrs : ∀ c ∈ rs, c = '\r') : escapeText rs = rs := by
  induction rs with
  | nil => rfl
  | cons c rs ih =>
    obtain rfl := hrs c List.mem_cons_self
    rw [escapeText, List.flatMap_cons]
    exact congrArg ('\r' :: ·) (ih fun d hd => hrs d (List.mem_cons_of_mem _ hd))

/-- A line of a text that is repaired before it is trimmed, or after that. -/
theorem agree_textLine {l : Text} (hn : '\n' ∉ l)
    (h : dropTailWhile (· == '\r') (repairText l) = trim (repairText l)) :
    Agree depth (repairedLines [indent depth ++ escapeText l])
      (repairedLines (([trim (repairText l)].filter (!·.isEmpty)).map fun m =>
        indent depth ++ escapeText m)) := by
  obtain ⟨rs, hsplit, hall⟩ := dropTailWhile_split (· == '\r') (repairText l)
  have hrs : ∀ c ∈ rs, c = '\r' := fun c hc => by simpa using List.all_eq_true.1 hall c hc
  have hblank : isBlankText rs = true := isBlankText_iff.2 fun c hc => by
    rw [hrs c hc]
    decide
  have htext : escapeText (repairText l) = escapeText (trim (repairText l)) ++ rs := by
    conv_lhs => rw [hsplit, h, escapeText_append, escapeText_returns hrs]
  have hnt : '\n' ∉ trim (repairText l) := fun hm =>
    hn (List.mem_of_mem_filter ((trim_isInfix (repairText l)).subset hm))
  rw [repairedLines_textLine hn, htext]
  by_cases hempty : trim (repairText l) = []
  · -- nothing is left of the line but returns
    have hgone : ∀ w, setOut w [indent depth ++ (escapeText [] ++ rs)] = [] := by
      intro w
      rw [setOut_cons, if_pos (by simp [escapeText, isBlankText_indent, hblank])]
      rfl
    rw [hempty]
    refine ⟨hgone, startsAt_cons (fun c hc => ?_) [], Agree.nil.right⟩
    have hmem : c ∈ rs := List.mem_of_mem_head? hc
    rw [hrs c hmem]
    decide
  · obtain ⟨c, r, hc, -, hb⟩ := escapeText_head (trim_trim (repairText l)) hempty
    have hi : isIndent c = false := isIndent_eq_false hb
    have hstart : ∀ x : Text, StartsAt depth [indent depth ++ c :: x] := by
      intro x
      refine startsAt_cons (fun d hd => ?_) []
      obtain rfl := Option.some.inj hd
      exact hi
    have hright : repairedLines (([trim (repairText l)].filter (!·.isEmpty)).map fun m =>
        indent depth ++ escapeText m) = [indent depth ++ c :: r] := by
      rw [List.filter_cons_of_pos (by simpa using hempty), List.filter_nil, List.map_singleton,
        repairedLines_textLine hnt, repairText_trim_repairText, hc]
    rw [hright, hc]
    refine ⟨fun w => ?_, hstart _, hstart r⟩
    have hshown : ∀ x : Text, isBlankText (indent depth ++ c :: x) = false := fun x => by simp [hb]
    rw [List.cons_append, setOut_cons, setOut_cons, hshown, hshown, if_neg (by decide),
      if_neg (by decide), dedent_append_cons w _ hi, dedent_append_cons w _ hi, ← List.cons_append,
      ← List.append_assoc, stripReturns_append_returns hrs]

/-- **A text that is repaired**, in the page or in its layout. -/
theorem agree_text {t : Text} (h : keepsLines t = true) (isTop : Bool) (depth : Nat) :
    Agree depth (repairedLines (nodeLines isTop depth (.text t)))
      (repairedLines (nodeLines isTop depth (.text (repairText t)))) := by
  have hlines : ∀ ls : List Text, (∀ l ∈ ls, '\n' ∉ l ∧
      dropTailWhile (· == '\r') (repairText l) = trim (repairText l)) →
      Agree depth (repairedLines (ls.map fun l => indent depth ++ escapeText l))
        (repairedLines (((ls.map fun l => trim (repairText l)).filter (!·.isEmpty)).map fun m =>
          indent depth ++ escapeText m)) := by
    intro ls hls
    induction ls with
    | nil => exact .nil
    | cons l ls ih =>
      have hl := hls l List.mem_cons_self
      have hfirst : Agree depth _ _ := agree_textLine hl.1 hl.2
      have hrest := ih fun m hm => hls m (List.mem_cons_of_mem l hm)
      have hboth := hfirst.append hrest
      rw [← repairedLines_append, ← repairedLines_append, ← List.map_append, ← List.filter_append] at hboth
      exact hboth
  rw [nodeLines, nodeLines, textLines_repairText]
  refine hlines _ fun l hl => ⟨(mem_textLines hl).2.2, ?_⟩
  exact eq_of_beq (List.all_eq_true.1 h l hl)

/-! ### Lines of nodes -/

mutual

/-- Whether no white space comes to light in a node when unrepresentable characters are taken out of
it, and a comment is a declaration only if it was one. What matters in an element that stays on one
line is its line as a whole. -/
def keepsLayout : Node → Bool
  | .text d => keepsLines d
  | .comment d => isDeclaration (repairText d) == isDeclaration d
  | .doctype _ => true
  | .element t _ ns =>
    t.name ∈ verbatimNames || t.name ∈ voidNames ||
      (inlineText? (Node.repairedAll ns) == (inlineText? ns).map repairText &&
        ((inlineText? ns).isSome || allKeepLayout ns))

/-- Whether no white space comes to light in siblings. -/
def allKeepLayout : List Node → Bool
  | [] => true
  | n :: ns => keepsLayout n && allKeepLayout ns

end

theorem repairText_comment {t : Text} (h : keepsLayout (.comment t) = true) :
    repairText (commentText (repairText t)) = repairText (commentText t) := by
  have hsame : isDeclaration (repairText t) = isDeclaration t := eq_of_beq h
  rw [repairText_commentText, repairText_commentText, hsame, repairText_repairText]

/-- What is laid out of an element in more than one line is not nothing. -/
theorem forestLines_ne_nil {ns : List Node} (h : inlineText? ns = none) (depth : Nat) :
    forestLines false depth ns ≠ [] := by
  have hshown : ∀ ns, forestLines false depth ns = [] → ns.filter isSignificant = [] := by
    intro ns hnil
    induction ns with
    | nil => rfl
    | cons n ns ih =>
      rw [forestLines, List.append_eq_nil_iff] at hnil
      rw [List.filter_cons, ih hnil.2]
      cases n with
      | text d =>
        have hlines : textLines d = [] := by
          rw [nodeLines, List.map_eq_nil_iff] at hnil
          exact hnil.1
        simp [isSignificant, textLines_eq_nil_iff.1 hlines]
      | comment d => simp [nodeLines] at hnil
      | doctype d => rfl
      | element t c cs =>
        have := hnil.1
        rw [nodeLines] at this
        split at this
        · cases this
        · split at this
          · cases this
          · split at this <;> cases this
  intro hnil
  have hnone : inlineText? ns = some [] := by
    simp [inlineText?, hshown ns hnil, trim, dropTailWhile]
  rw [hnone] at h
  cases h

/-- The lines of an element that takes more than one. -/
theorem repairedLines_element {t : Tag} {c ns : List Node} (hverbatim : t.name ∉ verbatimNames)
    (hvoid : t.name ∉ voidNames) (hi : inlineText? ns = none) (isTop : Bool) (depth : Nat) :
    repairedLines (nodeLines isTop depth (.element t c ns)) =
      repairedLines [indent depth ++ opening t] ++ (repairedLines (forestLines false (depth + 1) ns) ++
        repairedLines [indent depth ++ closing t.name]) := by
  rw [nodeLines, if_neg hverbatim, if_neg hvoid, hi, ← repairedLines_append, ← repairedLines_append]
  simp

/-- An element that takes one line takes it with and without unrepresentable characters. -/
theorem nodeLines_single {t : Tag} {c ns : List Node} (h : keepsLayout (.element t c ns) = true)
    (hsingle : t.name ∈ verbatimNames ∨ t.name ∈ voidNames ∨ (inlineText? ns).isSome = true)
    (isTop : Bool) (depth : Nat) : ∃ m m' r,
      nodeLines isTop depth (.element t c ns) = [indent depth ++ m] ∧
      nodeLines isTop depth (Node.element t c ns).repaired = [indent depth ++ m'] ∧
      repairText m = '<' :: r ∧ repairText m' = repairText m := by
  have hname : t.repaired.name = t.name := rfl
  rw [Node.repaired, nodeLines, nodeLines, hname]
  by_cases hverbatim : t.name ∈ verbatimNames
  · rw [if_pos hverbatim, if_pos hverbatim]
    obtain ⟨x, r, hm, -⟩ := markup_head (n := .element t c ns) (decide_eq_true hverbatim)
    refine ⟨_, _, repairText (x :: r), rfl, rfl, ?_, repairText_markupIn (.element t c ns) _⟩
    rw [hm]
    rfl
  rw [if_neg hverbatim, if_neg hverbatim]
  by_cases hvoid : t.name ∈ voidNames
  · rw [if_pos hvoid, if_pos hvoid]
    exact ⟨_, _, _, rfl, rfl, rfl, repairText_opening t⟩
  rw [if_neg hvoid, if_neg hvoid]
  have hsome := (hsingle.resolve_left hverbatim).resolve_left hvoid
  obtain ⟨u, hu⟩ := Option.isSome_iff_exists.1 hsome
  have hinline : inlineText? (Node.repairedAll ns) = some (repairText u) := by
    simp only [keepsLayout, hverbatim, hvoid, decide_false, Bool.false_or, Bool.and_eq_true] at h
    rw [eq_of_beq h.1, hu]
    rfl
  rw [hinline, hu]
  refine ⟨opening t ++ escapeText u ++ closing t.name,
    opening t.repaired ++ escapeText (repairText u) ++ closing t.name, _, by simp, by simp, rfl, ?_⟩
  simp only [repairText_append, repairText_opening, repairText_escapeText, repairText_repairText]

/-- An element takes one line, or more than one with and without unrepresentable characters. -/
theorem keepsLayout_element {t : Tag} {c ns : List Node} (h : keepsLayout (.element t c ns) = true) :
    (t.name ∈ verbatimNames ∨ t.name ∈ voidNames ∨ (inlineText? ns).isSome = true) ∨
      t.name ∉ verbatimNames ∧ t.name ∉ voidNames ∧ inlineText? ns = none ∧
        inlineText? (Node.repairedAll ns) = none ∧ allKeepLayout ns = true := by
  by_cases hsingle : t.name ∈ verbatimNames ∨ t.name ∈ voidNames ∨ (inlineText? ns).isSome = true
  · exact .inl hsingle
  · simp only [not_or, Option.not_isSome_iff_eq_none] at hsingle
    obtain ⟨hverbatim, hvoid, hi⟩ := hsingle
    have hboth : inlineText? (Node.repairedAll ns) = none ∧ allKeepLayout ns = true := by
      simpa [keepsLayout, hverbatim, hvoid, hi] using h
    exact .inr ⟨hverbatim, hvoid, hi, hboth⟩

mutual

theorem agree_node {n : Node} (h : keepsLayout n = true) (isTop : Bool) (depth : Nat) :
    Agree depth (repairedLines (nodeLines isTop depth n))
      (repairedLines (nodeLines isTop depth n.repaired)) := by
  cases n with
  | text d => exact agree_text h isTop depth
  | comment d =>
    obtain ⟨r, hr⟩ := commentText_head d
    rw [Node.repaired, nodeLines, nodeLines]
    exact agree_angle hr (repairText_comment h)
  | doctype d =>
    rw [Node.repaired, nodeLines]
    cases isTop with
    | false => exact .nil
    | true => exact .refl (startsAt_angle rfl)
  | element t c ns =>
    rcases keepsLayout_element h with hsingle | ⟨hverbatim, hvoid, hi, hi', hns⟩
    · obtain ⟨m, m', r, hm, hm', hr, hsame⟩ := nodeLines_single h hsingle isTop depth
      rw [hm, hm']
      exact agree_angle hr hsame
    · have hinner := agree_forest hns false (depth + 1)
      have hopen : Agree depth (repairedLines [indent depth ++ opening t])
          (repairedLines [indent depth ++ opening t.repaired]) :=
        agree_angle rfl (repairText_opening t)
      have hne : ∀ u : Tag, repairedLines [indent depth ++ opening u] ≠ [] := fun u =>
        repairedLines_ne_nil (List.cons_ne_nil _ _)
      rw [Node.repaired, repairedLines_element hverbatim hvoid hi,
        repairedLines_element (t := t.repaired) hverbatim hvoid hi']
      refine ⟨fun w => ?_, hopen.left.head (hne t) _, hopen.right.head (hne t.repaired) _⟩
      rw [setOut_append, setOut_append, setOut_append, setOut_append, hopen.lines, hinner.lines]
      rfl
termination_by structural n

/-- **The lines of nodes are cleaned alike**, whether the nodes are repaired or their layout is. -/
theorem agree_forest {ns : List Node} (h : allKeepLayout ns = true) (isTop : Bool) (depth : Nat) :
    Agree depth (repairedLines (forestLines isTop depth ns))
      (repairedLines (forestLines isTop depth (Node.repairedAll ns))) := by
  cases ns with
  | nil => exact .nil
  | cons n ns =>
    simp only [allKeepLayout, Bool.and_eq_true] at h
    rw [Node.repairedAll, forestLines, forestLines, repairedLines_append, repairedLines_append]
    exact (agree_node h.1 isTop depth).append (agree_forest h.2 isTop depth)
termination_by structural ns

end

/-! ### The first line -/

/-- A line without `<` is no declaration. -/
theorem isXmlDeclaration_of_not_mem {l : Text} (h : '<' ∉ l) : isXmlDeclaration l = false := by
  have hnone : after? "<?xml".toList (l.dropWhile isBlank) = none := by
    cases hafter : after? "<?xml".toList (l.dropWhile isBlank) with
    | none => rfl
    | some r =>
      have hmem : '<' ∈ l.dropWhile isBlank := by
        rw [eq_append_of_after? hafter]
        exact List.mem_append_left _ (by decide)
      exact absurd ((List.dropWhile_suffix isBlank).subset hmem) h
  rw [isXmlDeclaration, hnone]
  rfl

/-- The lines of a text, once they are repaired. -/
theorem repairedLines_text (d : Text) (isTop : Bool) (depth : Nat) :
    repairedLines (nodeLines isTop depth (.text d)) =
      (textLines d).map fun l => indent depth ++ escapeText (repairText l) := by
  have hlines : ∀ ls : List Text, (∀ l ∈ ls, '\n' ∉ l) →
      repairedLines (ls.map fun l => indent depth ++ escapeText l) =
        ls.map fun l => indent depth ++ escapeText (repairText l) := by
    intro ls hls
    induction ls with
    | nil => rfl
    | cons l ls ih =>
      rw [List.map_cons, ← List.singleton_append, repairedLines_append,
        repairedLines_textLine (hls l List.mem_cons_self),
        ih fun m hm => hls m (List.mem_cons_of_mem l hm)]
      rfl
  rw [nodeLines, hlines _ fun l hl => (mem_textLines hl).2.2]

/-- Text is escaped, so there is no `<` on a line of it. -/
theorem lt_not_mem_textLine {d l : Text} {isTop : Bool}
    (hl : l ∈ repairedLines (nodeLines isTop depth (.text d))) : '<' ∉ l := by
  rw [repairedLines_text] at hl
  obtain ⟨x, -, rfl⟩ := List.mem_map.1 hl
  rw [List.mem_append, not_or]
  refine ⟨fun hm => absurd (List.eq_of_mem_replicate hm) (by decide), fun hm => ?_⟩
  obtain ⟨c, -, hc⟩ := List.mem_flatMap.1 hm
  exact lt_not_mem_textChar c hc

theorem exists_text {n : Node} (h : n.isText = true) : ∃ d, n = .text d := by
  cases n with
  | text d => exact ⟨d, rfl⟩
  | _ => cases h

/-- No line of a text is a declaration. -/
theorem isXmlDeclaration_text {d l : Text} (isTop : Bool) (depth : Nat)
    (hl : l ∈ repairedLines (nodeLines isTop depth (.text d))) : isXmlDeclaration l = false :=
  isXmlDeclaration_of_not_mem (lt_not_mem_textLine hl)

/-- What is laid out of a node that is no text begins with the same line. -/
theorem first_line {n : Node} (h : keepsLayout n = true) (hn : n.isText = false) :
    ∃ l ls ms, repairedLines (nodeLines true 0 n) = l :: ls ∧
      repairedLines (nodeLines true 0 n.repaired) = l :: ms ∧
      ∀ {ks ks' : List Text}, Alike ks ks' → Alike (ls ++ ks) (ms ++ ks') := by
  -- a line of the layout that both have
  have hsame : ∀ {m m' : Text}, repairText m' = repairText m →
      nodeLines true 0 n = [indent 0 ++ m] → nodeLines true 0 n.repaired = [indent 0 ++ m'] →
      ∃ l ls ms, repairedLines (nodeLines true 0 n) = l :: ls ∧
        repairedLines (nodeLines true 0 n.repaired) = l :: ms ∧
        ∀ {ks ks' : List Text}, Alike ks ks' → Alike (ls ++ ks) (ms ++ ks') := by
    intro m m' hm hleft hright
    obtain ⟨l, ls, hl⟩ := List.exists_cons_of_ne_nil
      (repairedLines_ne_nil (List.cons_ne_nil (indent 0 ++ m) []))
    refine ⟨l, ls, ls, by rw [hleft, hl], ?_, fun hks => hks.append_left ls⟩
    rw [hright, ← hl]
    simp only [repairedLines, List.flatMap_cons, repairText_append, hm]
  cases n with
  | text d => cases hn
  | comment d => exact hsame (repairText_comment h) (by rw [nodeLines]) (by rw [Node.repaired, nodeLines])
  | doctype d =>
    exact hsame rfl (by rw [nodeLines, if_pos rfl]) (by rw [Node.repaired, nodeLines, if_pos rfl])
  | element t c ns =>
    rcases keepsLayout_element h with hsingle | ⟨hverbatim, hvoid, hi, hi', hns⟩
    · obtain ⟨m, m', r, hm, hm', hr, hrepair⟩ := nodeLines_single h hsingle true 0
      exact hsame hrepair hm hm'
    · have hinner := agree_forest hns false 1
      obtain ⟨l, ls, hl⟩ := List.exists_cons_of_ne_nil
        (repairedLines_ne_nil (List.cons_ne_nil (indent 0 ++ opening t) []))
      have hl' : repairedLines [indent 0 ++ opening t.repaired] = l :: ls := by
        rw [← hl]
        simp only [repairedLines, List.flatMap_cons, repairText_append, repairText_opening]
      rw [Node.repaired, repairedLines_element hverbatim hvoid hi,
        repairedLines_element (t := t.repaired) hverbatim hvoid hi', hl, hl']
      let rest := fun ms : List Node =>
        repairedLines (forestLines false 1 ms) ++ repairedLines [indent 0 ++ closing t.name]
      refine ⟨l, ls ++ rest ns, ls ++ rest (Node.repairedAll ns), rfl, rfl, fun hks => ?_⟩
      rw [List.append_assoc ls, List.append_assoc ls]
      refine Alike.append_left ?_ ls
      simp only [rest, List.append_assoc]
      refine hinner.alike_append (repairedLines_ne_nil (forestLines_ne_nil hi 1))
        (repairedLines_ne_nil (forestLines_ne_nil hi' 1)) fun w => ?_
      rw [setOut_append, setOut_append, hks.lines]

/-- **The inner lines of a document** are left alike, unless the first line is emptied and
a declaration comes next. -/
theorem alike_document {ns : List Node} (h : allKeepLayout ns = true)
    (hstart : ∀ l ∈ (repairedLines (forestLines true 0 ns)).head?, isBlankText l = true →
      ∀ m ∈ (repairedLines (forestLines true 0 (Node.repairedAll ns))).head?,
        isXmlDeclaration m = false) :
    Alike (dropFirstIf isXmlDeclaration (repairedLines (forestLines true 0 ns) ++ [[]]))
      (dropFirstIf isXmlDeclaration
        (repairedLines (forestLines true 0 (Node.repairedAll ns)) ++ [[]])) := by
  have hend : Agree 0 [[]] [[]] := .refl fun _ => rfl
  have hall := (agree_forest h true 0).append hend
  induction ns with
  | nil => exact .refl _
  | cons n ns ih =>
    simp only [allKeepLayout, Bool.and_eq_true] at h
    by_cases hn : n.isText = true
    · obtain ⟨d, rfl⟩ := exists_text hn
      rw [Node.repairedAll, forestLines, forestLines, repairedLines_append, repairedLines_append]
        at hstart hall ⊢
      by_cases hnil : textLines d = []
      · -- a blank text is not laid out
        have hempty : repairedLines (nodeLines true 0 (.text d)) = [] ∧
            repairedLines (nodeLines true 0 (Node.text d).repaired) = [] := by
          rw [Node.repaired, nodeLines, nodeLines, textLines_repairText, hnil]
          exact ⟨rfl, rfl⟩
        rw [hempty.1, hempty.2, List.nil_append, List.nil_append] at hstart hall ⊢
        exact ih h.2 hstart hall
      · have hne : repairedLines (nodeLines true 0 (.text d)) ≠ [] := by
          rw [nodeLines]
          exact repairedLines_ne_nil (by simpa using hnil)
        obtain ⟨l, ls, hls⟩ := List.exists_cons_of_ne_nil hne
        have hleft : isXmlDeclaration l = false :=
          isXmlDeclaration_text true 0 (hls ▸ List.mem_cons_self)
        have hright : ∀ m ∈ (repairedLines (nodeLines true 0 (Node.text d).repaired) ++
            repairedLines (forestLines true 0 (Node.repairedAll ns)) ++ [[]]).head?,
            isXmlDeclaration m = false := by
          intro m hm
          cases hms : repairedLines (nodeLines true 0 (Node.text d).repaired) with
          | cons m' ms =>
            rw [hms] at hm
            obtain rfl := Option.some.inj hm
            exact isXmlDeclaration_text (d := repairText d) true 0 (hms ▸ List.mem_cons_self)
          | nil =>
            -- nothing is left of the text, so its first line is emptied
            have hblank : isBlankText l = true := by
              have hgone : setOut 0 (l :: ls) = [] := by
                rw [← hls, (agree_node h.1 true 0).lines, hms]
                rfl
              rw [setOut_eq_nil_iff, List.all_cons, Bool.and_eq_true] at hgone
              exact hgone.1
            rw [hms, List.nil_append] at hm hstart
            rw [hls] at hstart
            have hnext := hstart l rfl hblank
            cases hrest : repairedLines (forestLines true 0 (Node.repairedAll ns)) with
            | nil =>
              rw [hrest] at hm
              obtain rfl := Option.some.inj hm
              rfl
            | cons m' ms =>
              rw [hrest] at hm hnext
              exact hnext m hm
        rw [dropFirstIf_eq_self hright, hls, List.cons_append, List.cons_append, dropFirstIf, hleft,
          if_neg (by decide), ← List.cons_append, ← List.cons_append, ← hls]
        exact hall.alike
    · obtain ⟨l, ls, ms, hls, hms, hrest⟩ := first_line h.1 (Bool.eq_false_iff.2 hn)
      have htail := hrest ((agree_forest h.2 true 0).append hend).alike
      rw [Node.repairedAll, forestLines, forestLines, repairedLines_append, repairedLines_append, hls,
        hms, List.append_assoc, List.append_assoc, List.cons_append, List.cons_append, dropFirstIf,
        dropFirstIf]
      split
      · exact htail
      · exact htail.append_left [l]

/-- **Repairing a page or its layout.** If no white space comes to light in any node of a page, and in
a document no declaration follows a first line that is emptied, the canonical form of the page is that
of the page without unrepresentable characters. -/
theorem canonical_repaired {p : Page} (h : allKeepLayout p.nodes = true)
    (hstart : p.shape = .document → ∀ l ∈ (repairedLines p.lines).head?, isBlankText l = true →
      ∀ m ∈ (repairedLines p.repaired.lines).head?, isXmlDeclaration m = false) :
    p.canonical = p.repaired.canonical := by
  have hinner : Alike p.innerLines p.repaired.innerLines := by
    cases hshape : p.shape with
    | fragment =>
      rw [innerLines_fragment hshape, innerLines_fragment (p := p.repaired) hshape]
      exact (agree_forest h true 1).alike
    | document =>
      have hlines : p.lines = forestLines true 0 p.nodes := by rw [Page.lines, hshape]
      have hlines' : p.repaired.lines = forestLines true 0 (Node.repairedAll p.nodes) := by
        rw [Page.lines, repaired, hshape]
      have hfirst := hstart hshape
      rw [hlines, hlines'] at hfirst
      rw [innerLines_document hshape, innerLines_document (p := p.repaired) hshape]
      exact alike_document h hfirst
  rw [canonical_eq_setOut, canonical_eq_setOut]
  exact congrArg joinLines hinner.setOut_eq

/-- A paragraph with control characters among its letters, and one that holds nothing else. -/
def controlled : Text := "<p title=\"&#1; x\">a&#1;b <b>&#2;</b></p>&#3;".toList

theorem canonical_repaired_controlled :
    (parse controlled).canonical = (parse controlled).repaired.canonical := by
  refine canonical_repaired (by decide +kernel) fun h => ?_
  have hshape : (parse controlled).shape = .fragment := by decide +kernel
  rw [hshape] at h
  cases h

/-- A space comes to light behind a control character. -/
theorem canonical_veiledSpace :
    ¬(parse "<p>&#1; a</p>".toList).canonical = (parse "<p>&#1; a</p>".toList).repaired.canonical := by
  decide +kernel

end Page

end HtmlCanon
