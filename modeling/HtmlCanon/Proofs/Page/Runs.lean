import HtmlCanon.Proofs.Html.Within
import HtmlCanon.Proofs.Page.Verbatim

/-!
# Words that the canonical form keeps

A run of letters and digits has nothing in it that is escaped, repaired, trimmed or set out. It
therefore stands in the canonical form wherever its text is laid out, unless it is taken for a part
of a return at the end of a line, which can only happen where content is laid out as it is.

* `IsRun` : a word of ASCII letters and digits.
* `Survives.canonical` : what survives in a line of the layout stands in the canonical form.
* `survives_of_laidOut`, `survives_of_verbatim` : **runs in the layout**.
* `laidOut_of_text` : where texts are laid out.
-/

namespace HtmlCanon.Page

open Html

/-! ### Runs -/

/-- A word of ASCII letters and digits. -/
def IsRun (r : Text) : Prop := r ≠ [] ∧ r.all isAsciiAlphanum = true

instance (r : Text) : Decidable (IsRun r) :=
  inferInstanceAs (Decidable (r ≠ [] ∧ r.all isAsciiAlphanum = true))

theorem eq_of_isAsciiAlphanum {c : Char} (h : isAsciiAlphanum c = true) :
    textChar c = [c] ∧ markupTextChar c = [c] := by
  have hne : ∀ d : Char, isAsciiAlphanum d = false → c ≠ d := fun d hd => char_ne h hd
  have h1 := hne '&' (by decide)
  have h2 := hne '<' (by decide)
  have h3 := hne '>' (by decide)
  have h4 := hne '\u00a0' (by decide)
  constructor
  · unfold textChar
    split <;> first | contradiction | rfl
  · unfold markupTextChar
    split <;> first | contradiction | rfl

theorem isNameChar_of_isAsciiAlphanum {c : Char} (h : isAsciiAlphanum c = true) :
    isNameChar c = true := by
  simp [isNameChar, h]

theorem isBlank_of_isAsciiAlphanum {c : Char} (h : isAsciiAlphanum c = true) : isBlank c = false :=
  isBlank_of_isNameChar (isNameChar_of_isAsciiAlphanum h)

theorem isRepresentable_of_isAsciiAlphanum {c : Char} (h : isAsciiAlphanum c = true) :
    isRepresentable c = true := by
  have hreadable := isReadable_of_name (isNameChar_of_isAsciiAlphanum h)
  rw [HtmlCanon.isReadable, Bool.and_eq_true] at hreadable
  exact hreadable.1

namespace IsRun

variable {r t l : Text}

theorem not_mem (h : IsRun r) {c : Char} (hc : isAsciiAlphanum c = false) : c ∉ r := fun hm => by
  rw [List.all_eq_true.1 h.2 c hm] at hc
  cases hc

theorem newline (h : IsRun r) : '\n' ∉ r := h.not_mem (by decide)

theorem exists_cons (h : IsRun r) : ∃ c s, r = c :: s ∧ isBlank c = false := by
  obtain ⟨c, s, rfl⟩ := List.exists_cons_of_ne_nil h.1
  exact ⟨c, s, rfl, isBlank_of_isAsciiAlphanum (List.all_eq_true.1 h.2 c List.mem_cons_self)⟩

/-- A line with a run in it shows. -/
theorem isBlankText (h : IsRun r) (hl : r <:+: l) : isBlankText l = false := by
  obtain ⟨a, b, rfl⟩ := hl
  obtain ⟨c, s, rfl, hc⟩ := h.exists_cons
  simp [hc]

/-- Blanks around a run do not count. -/
theorem infix_trim (h : IsRun r) (ht : r <:+: t) : r <:+: trim t := by
  obtain ⟨a, b, hab, ha, hb⟩ := trim_split t
  have hblank : ∀ {x : Text}, HtmlCanon.isBlankText x = true → ∀ c ∈ x, c ∉ r := fun hx c hc hr => by
    have := isBlank_of_isAsciiAlphanum (List.all_eq_true.1 h.2 c hr)
    rw [isBlankText_iff.1 hx c hc] at this
    cases this
  rw [hab, List.append_assoc] at ht
  have hright := isInfix_of_forall_not_mem h.1 (hblank ha) ht
  -- read from its end, what stands after the run comes first
  rw [← List.reverse_infix, List.reverse_append] at hright
  have hleft := isInfix_of_forall_not_mem (p := r.reverse) (by simpa using h.1)
    (fun c hc => by simpa using hblank hb c (List.mem_reverse.1 hc)) hright
  exact List.reverse_infix.1 hleft

/-- Nothing in a run is escaped. -/
theorem flatMap (h : IsRun r) {f : Char → Text} (hf : ∀ c, isAsciiAlphanum c = true → f c = [c])
    (ht : r <:+: t) : r <:+: t.flatMap f := by
  obtain ⟨a, b, rfl⟩ := ht
  have hself : r.flatMap f = r := by
    rw [List.flatMap_congr fun c hc => hf c (List.all_eq_true.1 h.2 c hc), List.flatMap_singleton']
  rw [List.flatMap_append, List.flatMap_append, hself]
  exact List.infix_append _ r _

/-- A run needs no repair. -/
theorem repairText_eq (h : IsRun r) : HtmlCanon.repairText r = r := by
  refine repairText_eq_self_iff.2 (List.all_eq_true.2 fun c hc => ?_)
  exact isRepresentable_of_isAsciiAlphanum (List.all_eq_true.1 h.2 c hc)

theorem repairText (h : IsRun r) (ht : r <:+: t) : r <:+: repairText t := by
  rw [← h.repairText_eq]
  exact ht.filter isRepresentable

/-- A run is not set out. -/
theorem dedent (h : IsRun r) (w : Nat) (hl : r <:+: l) : r <:+: dedent w l := by
  obtain ⟨a, b, rfl⟩ := hl
  obtain ⟨c, s, rfl, hc⟩ := h.exists_cons
  refine ⟨Page.dedent w a, b, ?_⟩
  simp [dedent_append_cons w a (isIndent_eq_false hc)]

/-- What is stripped off the end of a line is no run, unless that is a part of a return. -/
theorem stripReturns (h : IsRun r) (hl : r <:+: l)
    (hret : (∀ x ∈ returns, ¬r <:+: x) ∨ endsInReturn l = false) : r <:+: stripReturns l := by
  rcases hret with hret | hret
  · have hcr : '\r' ∉ r.reverse := by simpa using h.not_mem (by decide)
    have hamp : '&' ∉ r.reverse := by simpa using h.not_mem (by decide)
    have hnone : ∀ x ∈ returns, ∀ y, y <:+: x.reverse → ¬r.reverse <:+: y := fun x hx y hy hr =>
      hret x hx (List.reverse_infix.1 (hr.trans hy))
    have hdrop : ∀ m : Text, r.reverse <:+: m → r.reverse <:+: dropReturns m := by
      intro m hm
      fun_induction dropReturns m with
      | case1 m ih =>
        rcases isInfix_of_not_mem (t := []) hcr hm with hm | hm
        · exact absurd (by simpa using hm) h.1
        · exact ih hm
      | case2 m ih =>
        rcases isInfix_of_not_mem (t := ";31#".toList) hamp hm with hm | hm
        · exact absurd hm (hnone "&#13;".toList (by decide) _ (by decide))
        · exact ih hm
      | case3 m ih =>
        rcases isInfix_of_not_mem (t := ";Dx#".toList) hamp hm with hm | hm
        · exact absurd hm (hnone "&#xD;".toList (by decide) _ (by decide))
        · exact ih hm
      | case4 m ih =>
        rcases isInfix_of_not_mem (t := ";dx#".toList) hamp hm with hm | hm
        · exact absurd hm (hnone "&#xd;".toList (by decide) _ (by decide))
        · exact ih hm
      | case5 m => exact hm
    have := hdrop l.reverse (List.reverse_infix.2 hl)
    rw [Page.stripReturns]
    simpa using List.reverse_infix.2 this
  · rwa [stripReturns_eq_self_iff.2 hret]

/-- A line that ends in a run ends in no return. -/
theorem endsInReturn (h : IsRun r) (a : Text) : endsInReturn (a ++ r) = false := by
  rw [Bool.eq_false_iff, ne_eq, endsInReturn_iff]
  rintro ⟨x, hx, hs⟩
  have hlast : ∀ y ∈ returns, ∃ z c, y = z ++ [c] ∧ isAsciiAlphanum c = false := by
    intro y hy
    simp only [returns, List.mem_cons, List.not_mem_nil, or_false] at hy
    rcases hy with rfl | rfl | rfl | rfl
    · exact ⟨[], '\r', rfl, by decide⟩
    · exact ⟨"&#13".toList, ';', rfl, by decide⟩
    · exact ⟨"&#xD".toList, ';', rfl, by decide⟩
    · exact ⟨"&#xd".toList, ';', rfl, by decide⟩
  obtain ⟨z, c, rfl, hc⟩ := hlast x hx
  obtain ⟨s, d, rfl⟩ := List.eq_nil_or_concat' r |>.resolve_left h.1
  obtain ⟨y, hy⟩ := hs
  have hcd : c = d := by
    have := congrArg List.getLast? hy
    simpa [← List.append_assoc] using this
  exact h.not_mem hc (by simp [hcd])

/-! ### Runs in lines -/

/-- A run that is left of a line is left of the lines. -/
theorem infix_joinLines (h : IsRun r) {ls : List Text} (hl : l ∈ ls) (w : Nat) (hr : r <:+: l)
    (hkept : r <:+: Page.stripReturns (Page.dedent w l)) : r <:+: joinLines (setOut w ls) := by
  have hmem : Page.stripReturns (Page.dedent w l) ∈ setOut w ls := by
    refine List.mem_map_of_mem (List.mem_filter.2 ⟨List.mem_map_of_mem hl, ?_⟩)
    rw [isBlankText_dedent, h.isBlankText hr]
    rfl
  obtain ⟨before, after, hls⟩ := List.append_of_mem hmem
  rw [hls]
  exact (hkept.trans (by simp [joinLines, List.intercalate])).trans
    (joinLines_isInfix before [Page.stripReturns (Page.dedent w l)] after (by simp))

end IsRun

/-- Of a line of the layout, a run is left however far the lines are set out. -/
def Survives (r l : Text) : Prop := ∀ w, r <:+: joinLines (setOut w (splitLines (repairText l)))

variable {r t : Text}

/-- **What survives in the layout of a fragment stands in its canonical form.** -/
theorem Survives.canonical {ns : List Node} {l : Text} (h : Survives r l) (hne : r ≠ [])
    (hl : l ∈ forestLines true 1 ns) : r <:+: (fragment ns).canonical := by
  obtain ⟨before, after, hlines⟩ := List.append_of_mem hl
  have hshown : setOut (fragment ns).width (splitLines (repairText l)) ≠ [] := by
    intro hnil
    have := h (fragment ns).width
    rw [hnil] at this
    exact hne (List.infix_nil.1 this)
  have hinner : (fragment ns).innerLines =
      repairedLines before ++ (splitLines (repairText l) ++ repairedLines after) := by
    rw [innerLines_fragment rfl, fragment, hlines, repairedLines_append]
    rfl
  rw [canonical_eq_setOut, hinner, setOut_append, setOut_append]
  exact (h _).trans (joinLines_isInfix _ _ _ hshown)

/-- A run on a line of its own. -/
theorem survives_line (hr : IsRun r) (depth : Nat) : Survives r (indent depth ++ escapeText r) := by
  have hescape : escapeText r = r := by
    rw [escapeText, List.flatMap_congr fun c hc => (eq_of_isAsciiAlphanum (List.all_eq_true.1 hr.2 c hc)).1,
      List.flatMap_singleton']
  have hrepair : repairText (indent depth ++ r) = indent depth ++ r := by
    rw [repairText_append, repairText_indent, hr.repairText_eq]
  have hnewline : '\n' ∉ indent depth ++ r := by
    rw [List.mem_append, not_or]
    exact ⟨by simp [indent], hr.newline⟩
  have hin : r <:+: indent depth ++ r := (List.suffix_append _ r).isInfix
  intro w
  rw [hescape, hrepair, splitLines_of_not_mem hnewline]
  refine hr.infix_joinLines List.mem_cons_self w hin (hr.stripReturns (hr.dedent w hin) (.inr ?_))
  obtain ⟨c, s, rfl, hc⟩ := hr.exists_cons
  rw [dedent_append_cons w _ (isIndent_eq_false hc)]
  exact hr.endsInReturn _

/-- A run before a tag on the same line. -/
theorem survives_before_tag (hr : IsRun r) {u : Text} (hu : r <:+: u) (hn : '\n' ∉ u) (a b : Text) :
    Survives r (a ++ escapeText u ++ '<' :: b) := by
  have hin : r <:+: repairText (escapeText u) :=
    hr.repairText (hr.flatMap (fun c hc => (eq_of_isAsciiAlphanum hc).1) hu)
  have hrepair : repairText (a ++ escapeText u ++ '<' :: b) =
      repairText a ++ (repairText (escapeText u) ++ ['<']) ++ repairText b := by
    rw [repairText_append, repairText_append]
    simp [repairText, show isRepresentable '<' = true from rfl]
  have hnewline : '\n' ∉ repairText (escapeText u) ++ ['<'] := by
    rw [List.mem_append, not_or]
    exact ⟨fun h => newline_not_mem_escapeText hn (List.mem_of_mem_filter h), by decide⟩
  obtain ⟨x, y, hline⟩ := exists_line hnewline (repairText a) (repairText b)
  intro w
  rw [hrepair]
  have hx : r <:+: x ++ repairText (escapeText u) := hin.trans (List.suffix_append x _).isInfix
  have htext : x ++ (repairText (escapeText u) ++ ['<']) ++ y =
      x ++ repairText (escapeText u) ++ '<' :: y := by simp
  refine hr.infix_joinLines hline w ?_ ?_
  · rw [htext]
    exact hx.trans (List.prefix_append _ _).isInfix
  · -- the tag keeps what is before it from being taken for the end of the line
    rw [htext, dedent_append_cons w _ (by decide), stripReturns_keeps (by decide)]
    exact (hr.dedent w hx).trans (List.prefix_append _ _).isInfix

/-- A run in a clean block. -/
theorem infix_cleanBlock (hr : IsRun r) {m : Text} (hm : r <:+: m)
    (hret : (∀ x ∈ returns, ¬r <:+: x) ∨ ∀ l ∈ splitLines m, endsInReturn l = false) (w : Nat) :
    r <:+: cleanBlock w m := by
  obtain ⟨l, ls, hlines⟩ := List.exists_cons_of_ne_nil (splitLines_ne_nil m)
  have hline : ∃ k ∈ l :: ls, r <:+: k := by
    obtain ⟨a, b, rfl⟩ := hm
    obtain ⟨x, y, hk⟩ := exists_line hr.newline a b
    exact ⟨_, hlines ▸ hk, List.infix_append x r y⟩
  have hends : ∀ k ∈ l :: ls, ∀ j, j <:+ k →
      (∀ x ∈ returns, ¬r <:+: x) ∨ endsInReturn j = false := by
    intro k hk j hj
    refine hret.imp_right fun h => ?_
    rw [Bool.eq_false_iff, ne_eq, endsInReturn_iff]
    rintro ⟨x, hx, hs⟩
    have hno := h k (hlines ▸ hk)
    rw [Bool.eq_false_iff, ne_eq, endsInReturn_iff] at hno
    exact hno ⟨x, hx, hs.trans hj⟩
  obtain ⟨k, hk, hin⟩ := hline
  rw [cleanBlock_of_lines w hlines, joinLines_eq_append]
  rcases List.mem_cons.1 hk with rfl | hk'
  · have hfirst := hr.stripReturns hin (hends k hk k (List.suffix_refl k))
    exact hfirst.trans (List.prefix_append _ _).isInfix
  · have hkept := hr.stripReturns (hr.dedent w hin) (hends k hk _ (dedent_suffix w k))
    have hrest := hr.infix_joinLines hk' w hin hkept
    have hne : setOut w ls ≠ [] := by
      intro hnil
      rw [hnil] at hrest
      exact hr.1 (List.infix_nil.1 hrest)
    obtain ⟨j, js, hjs⟩ := List.exists_cons_of_ne_nil hne
    rw [hjs, joinLines_eq_append] at hrest
    rw [hjs, List.flatMap_cons]
    exact hrest.trans ((List.suffix_cons '\n' _).trans (List.suffix_append _ _)).isInfix

/-! ### Runs in the layout -/

/-- The texts of an element that stays on one line are in its line. -/
theorem infix_inline {ns : List Node} {u : Text} (hr : IsRun (trim t)) (hi : inlineText? ns = some u)
    (ht : Node.text t ∈ ns) : trim t <:+: u ∧ '\n' ∉ u := by
  have hshown : isBlankText t = false := hr.isBlankText (trim_isInfix t)
  have hjoined : trim t <:+: ((ns.filter isSignificant).filterMap Node.text?).flatten := by
    have hmem : t ∈ (ns.filter isSignificant).filterMap Node.text? := by
      refine List.mem_filterMap.2 ⟨.text t, List.mem_filter.2 ⟨ht, ?_⟩, rfl⟩
      simp [isSignificant, hshown]
    obtain ⟨before, after, hparts⟩ := List.append_of_mem hmem
    rw [hparts, List.flatten_append, List.flatten_cons, ← List.append_assoc]
    exact (trim_isInfix t).trans (List.infix_append _ t _)
  unfold inlineText? at hi
  dsimp only at hi
  split at hi
  · rename_i hall
    obtain rfl := Option.some.inj hi
    simp only [Bool.and_eq_true, Bool.not_eq_true', List.contains_eq_mem, decide_eq_false_iff_not] at hall
    exact ⟨hr.infix_trim hjoined, hall.2⟩
  · cases hi

/-- All that shows in an element that stays on one line are its own texts. -/
theorem mem_of_inline {n : Node} {ns : List Node} {u : Text} (hi : inlineText? ns = some u)
    (h : IsLaidOut n ns) : n ∈ ns := by
  cases h with
  | among h => exact h
  | within h =>
    rw [inlineText?_of_mem rfl h] at hi
    cases hi

/-- **A run that is laid out survives.** -/
theorem survives_of_laidOut {ns : List Node} (hr : IsRun (trim t)) (h : IsLaidOut (.text t) ns)
    (isTop : Bool) (depth : Nat) : ∃ l ∈ forestLines isTop depth ns, Survives (trim t) l := by
  have hshown : isBlankText t = false := hr.isBlankText (trim_isInfix t)
  induction h generalizing isTop depth with
  | among h =>
    obtain ⟨before, after, hns⟩ := forestLines_split h isTop depth
    refine ⟨indent depth ++ escapeText (trim t), ?_, survives_line hr depth⟩
    rw [hns, nodeLines, textLines_of_inline hshown hr.newline]
    simp
  | @within ns m c cs h hverbatim hvoid hn ih =>
    obtain ⟨before, after, hns⟩ := forestLines_split h isTop depth
    rw [hns, nodeLines, if_neg hverbatim, if_neg hvoid]
    cases hi : inlineText? cs with
    | some u =>
      have hmem := mem_of_inline hi hn
      obtain ⟨hin, hnewline⟩ := infix_inline hr hi hmem
      refine ⟨_, List.mem_append_left _ (List.mem_append_right _ List.mem_cons_self), ?_⟩
      have := survives_before_tag hr hin hnewline (indent depth ++ opening m)
        ('/' :: m.name.toList ++ ['>'])
      simpa [closing] using this
    | none =>
      obtain ⟨l, hl, hsurvives⟩ := ih false (depth + 1)
      exact ⟨l, by simp [hl], hsurvives⟩

/-! ### Runs in content that is laid out as it is -/

mutual

theorem infix_markupIn (hr : IsRun (trim t)) {n : Node} (ht : t ∈ n.texts) (s : Surroundings) :
    trim t <:+: n.markupIn s := by
  cases n with
  | text d =>
    have htd : t = d := List.mem_singleton.1 ht
    show trim t <:+: if s.raw then d else d.flatMap markupTextChar
    rw [← htd]
    split
    · exact trim_isInfix t
    · exact hr.flatMap (fun c hc => (eq_of_isAsciiAlphanum hc).2) (trim_isInfix t)
  | comment d => cases ht
  | doctype d => cases ht
  | element m c ns =>
    have hbody : trim t <:+: Node.markupsIn ⟨m.holdsRawText, s.silent || m.isUnclosed⟩ ns :=
      infix_markupsIn hr ht _
    show trim t <:+: if s.silent then _ else
      if m.isUnclosed then m.markup ++ _ else m.markup ++ _ ++ m.closing
    split
    · exact hbody
    · split
      · exact hbody.trans (List.suffix_append _ _).isInfix
      · exact hbody.trans (List.infix_append _ _ _)
termination_by structural n

/-- **Every text is in the markup**, also below elements that have no end tag. -/
theorem infix_markupsIn (hr : IsRun (trim t)) {ns : List Node} (ht : t ∈ Node.forestTexts ns)
    (s : Surroundings) : trim t <:+: Node.markupsIn s ns := by
  cases ns with
  | nil => cases ht
  | cons n ns =>
    rw [Node.markupsIn]
    rcases List.mem_append.1 ht with ht | ht
    · exact (infix_markupIn hr ht s).trans (List.prefix_append _ _).isInfix
    · exact (infix_markupsIn hr ht s).trans (List.suffix_append _ _).isInfix
termination_by structural ns

end

/-- **A run in content that is laid out as it is survives**, unless it is taken for a part of a
return. -/
theorem survives_of_verbatim {ns : List Node} {n : Node} (hr : IsRun (trim t)) (h : IsLaidOut n ns)
    (hv : isVerbatim n = true) (ht : t ∈ n.texts)
    (hret : (∀ x ∈ returns, ¬trim t <:+: x) ∨
      ∀ l ∈ splitLines (repairText n.markup), endsInReturn l = false)
    (isTop : Bool) (depth : Nat) : ∃ l ∈ forestLines isTop depth ns, Survives (trim t) l := by
  obtain ⟨before, d, after, hlines⟩ := h.lines hv isTop depth
  refine ⟨indent d ++ n.markup, by simp [hlines], fun w => ?_⟩
  obtain ⟨c, r, hm, -⟩ := markup_head hv
  have hhead : repairText n.markup = '<' :: repairText (c :: r) := by
    rw [hm]
    rfl
  have hin := infix_cleanBlock hr (hr.repairText (infix_markupIn hr ht _)) hret w
  rw [repairText_append, repairText_indent, hhead, (setOut_angle w d _).2, ← hhead]
  exact hin.trans (List.suffix_append _ _).isInfix

/-! ### Where texts are laid out -/

/-- A node that has nothing below it if its name is that of an element without content. -/
def Childless (n : Node) : Prop := ∀ t ∈ n.tag?, t.name ∈ voidNames → n.children = []

/-- An element without content does not get any as long as nothing is put into an empty one. -/
theorem hereditary_childless : Hereditary Childless where
  text _ := nofun
  refill h hempty := by
    intro t ht hv
    exact hempty (h t ht hv)

mutual

theorem laidOut_of_texts {n : Node} (h : Everywhere Childless [n]) (ht : t ∈ n.texts) :
    IsLaidOut (.text t) [n] ∨ ∃ m, IsLaidOut m [n] ∧ isVerbatim m = true ∧ t ∈ m.texts := by
  cases n with
  | text d =>
    have htd : t = d := List.mem_singleton.1 ht
    exact .inl (.among (by simp [htd]))
  | comment d => cases ht
  | doctype d => cases ht
  | element e c ns =>
    by_cases hverbatim : e.name ∈ verbatimNames
    · exact .inr ⟨_, .among List.mem_cons_self, decide_eq_true hverbatim, ht⟩
    by_cases hvoid : e.name ∈ voidNames
    · have hnil : ns = [] := h.self e rfl hvoid
      rw [hnil] at ht
      cases ht
    rcases laidOut_of_text h.children ht with hlaid | ⟨m, hlaid, hm⟩
    · exact .inl (.within List.mem_cons_self hverbatim hvoid hlaid)
    · exact .inr ⟨m, .within List.mem_cons_self hverbatim hvoid hlaid, hm⟩
termination_by structural n

/-- **Every text is laid out**, by itself or as a part of content that is laid out as it is, if
elements without content have none. -/
theorem laidOut_of_text {ns : List Node} (h : Everywhere Childless ns)
    (ht : t ∈ Node.forestTexts ns) :
    IsLaidOut (.text t) ns ∨ ∃ m, IsLaidOut m ns ∧ isVerbatim m = true ∧ t ∈ m.texts := by
  cases ns with
  | nil => cases ht
  | cons n ns =>
    rcases List.mem_append.1 ht with ht | ht
    · have hsub : [n] ⊆ n :: ns := by simp
      rcases laidOut_of_texts h.head ht with hlaid | ⟨m, hlaid, hm⟩
      · exact .inl (hlaid.mono hsub)
      · exact .inr ⟨m, hlaid.mono hsub, hm⟩
    · have hsub : ns ⊆ n :: ns := List.subset_cons_self n ns
      rcases laidOut_of_text h.tail ht with hlaid | ⟨m, hlaid, hm⟩
      · exact .inl (hlaid.mono hsub)
      · exact .inr ⟨m, hlaid.mono hsub, hm⟩
termination_by structural ns

end

end HtmlCanon.Page
