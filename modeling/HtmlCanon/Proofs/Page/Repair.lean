import HtmlCanon.Proofs.Page.SetOut

/-!
# Nodes without unrepresentable characters

Characters that no text can hold can be taken out of a node, wherever it has any. Escaping deals with
one character after the other, so it makes no difference whether they are taken out before or after.

* `Node.repaired`, `Page.repaired` : a node and a page without such characters.
* `repairText_flatMap` : escaping and repairing.
* `repairText_markupsIn` : **markup is the same once it is repaired**.
* `textLines_repairText` : the lines of a text that is repaired.
-/

namespace HtmlCanon

/-! ### Pages without unrepresentable characters -/

namespace Html

/-- An attribute without unrepresentable characters in its value. -/
def Attr.repaired (a : Attr) : Attr := { a with value := repairText a.value }

/-- A tag without unrepresentable characters in its values. -/
def Tag.repaired (t : Tag) : Tag := { t with attrs := t.attrs.map Attr.repaired }

mutual

/-- A node without unrepresentable characters in its texts, comments and attribute values. -/
def Node.repaired : Node → Node
  | .text d => .text (repairText d)
  | .comment d => .comment (repairText d)
  | .doctype d => .doctype d
  | .element t c ns => .element t.repaired (repairedAll c) (repairedAll ns)

/-- Nodes without unrepresentable characters. -/
def Node.repairedAll : List Node → List Node
  | [] => []
  | n :: ns => n.repaired :: repairedAll ns

end

end Html

namespace Page

open Html

/-- A page without unrepresentable characters in its texts, comments and attribute values. -/
def repaired (p : Page) : Page := ⟨p.shape, Node.repairedAll p.nodes⟩

/-! ### Repairing what is escaped -/

theorem repairText_repairText (t : Text) : repairText (repairText t) = repairText t := by
  simp [repairText]

/-- Escaping character by character and repairing may change places. -/
theorem repairText_flatMap {f : Char → Text}
    (hf : ∀ c, repairText (f c) = if isRepresentable c then f c else []) (t : Text) :
    repairText (t.flatMap f) = (repairText t).flatMap f := by
  induction t with
  | nil => rfl
  | cons c t ih =>
    rw [List.flatMap_cons, repairText_append, hf, ih]
    by_cases hc : isRepresentable c = true
    · simp [repairText, hc]
    · simp [repairText, hc]

theorem repairText_singleton (c : Char) :
    repairText [c] = if isRepresentable c then [c] else [] := by
  by_cases hc : isRepresentable c = true <;> simp [repairText, hc]

theorem repairText_textChar (c : Char) :
    repairText (textChar c) = if isRepresentable c then textChar c else [] := by
  unfold textChar
  split <;> first | decide | exact repairText_singleton c

theorem repairText_valueChar (c : Char) :
    repairText (valueChar c) = if isRepresentable c then valueChar c else [] := by
  unfold valueChar
  split <;> first | decide | exact repairText_textChar c

theorem repairText_markupTextChar (c : Char) :
    repairText (markupTextChar c) = if isRepresentable c then markupTextChar c else [] := by
  unfold markupTextChar
  split <;> first | decide | exact repairText_singleton c

theorem repairText_markupValueChar (c : Char) :
    repairText (markupValueChar c) = if isRepresentable c then markupValueChar c else [] := by
  unfold markupValueChar
  split <;> first | decide | exact repairText_singleton c

theorem repairText_escapeText (t : Text) : repairText (escapeText t) = escapeText (repairText t) :=
  repairText_flatMap repairText_textChar t

/-- Tags that are written, as they are and without unrepresentable characters. -/
theorem repairText_attrs {f : Char → Text} {g : Attr → Text}
    (hf : ∀ c, repairText (f c) = if isRepresentable c then f c else [])
    (hg : ∀ a : Attr, ∃ u v, ∀ x, g { a with value := x } = u ++ x.flatMap f ++ v) (as : List Attr) :
    repairText ((as.map Attr.repaired).flatMap g) = repairText (as.flatMap g) := by
  induction as with
  | nil => rfl
  | cons a as ih =>
    obtain ⟨u, v, ha⟩ := hg a
    have hattr : repairText (g a.repaired) = repairText (g a) := by
      rw [Attr.repaired, ha, show g a = _ from ha a.value]
      simp only [repairText_append, repairText_flatMap hf, repairText_repairText]
    rw [List.map_cons, List.flatMap_cons, List.flatMap_cons, repairText_append, repairText_append,
      hattr, ih]

theorem repairText_opening (t : Tag) : repairText (opening t.repaired) = repairText (opening t) := by
  have hattrs := repairText_attrs (g := attr) repairText_valueChar
    (fun a => ⟨' ' :: a.label.toList ++ "=\"".toList, ['"'], fun _ => rfl⟩) t.attrs
  simp only [opening, Tag.repaired, repairText_append, hattrs]

theorem repairText_tagMarkup (t : Tag) : repairText t.repaired.markup = repairText t.markup := by
  have hattrs := repairText_attrs (g := Attr.markup) repairText_markupValueChar
    (fun a => ⟨' ' :: a.markupName.toList ++ "=\"".toList, ['"'], fun _ => rfl⟩) t.attrs
  simp only [Tag.markup, Tag.repaired, repairText_append, hattrs]

mutual

theorem repairText_markupIn (n : Node) (s : Surroundings) :
    repairText (n.repaired.markupIn s) = repairText (n.markupIn s) := by
  cases n with
  | text d =>
    show repairText (if s.raw then repairText d else (repairText d).flatMap markupTextChar) =
      repairText (if s.raw then d else d.flatMap markupTextChar)
    split
    · exact repairText_repairText d
    · rw [repairText_flatMap repairText_markupTextChar, repairText_repairText,
        repairText_flatMap repairText_markupTextChar]
  | comment d =>
    show repairText ("<!--".toList ++ repairText d ++ "-->".toList) =
      repairText ("<!--".toList ++ d ++ "-->".toList)
    simp only [repairText_append, repairText_repairText]
  | doctype d => rfl
  | element t c ns =>
    have hbody := repairText_markupsIn ns ⟨t.holdsRawText, s.silent || t.isUnclosed⟩
    show repairText (if s.silent then Node.markupsIn _ (Node.repairedAll ns)
        else if t.isUnclosed then t.repaired.markup ++ Node.markupsIn _ (Node.repairedAll ns)
        else t.repaired.markup ++ Node.markupsIn _ (Node.repairedAll ns) ++ t.closing) =
      repairText (if s.silent then Node.markupsIn _ ns
        else if t.isUnclosed then t.markup ++ Node.markupsIn _ ns
        else t.markup ++ Node.markupsIn _ ns ++ t.closing)
    split
    · exact hbody
    · split
      · rw [repairText_append, repairText_append, repairText_tagMarkup, ← hbody]
        rfl
      · rw [repairText_append, repairText_append, repairText_append, repairText_append,
          repairText_tagMarkup, ← hbody]
        rfl
termination_by structural n

/-- **Markup is the same once it is repaired.** -/
theorem repairText_markupsIn (ns : List Node) (s : Surroundings) :
    repairText (Node.markupsIn s (Node.repairedAll ns)) = repairText (Node.markupsIn s ns) := by
  cases ns with
  | nil => rfl
  | cons n ns =>
    show repairText (n.repaired.markupIn s ++ Node.markupsIn s (Node.repairedAll ns)) =
      repairText (n.markupIn s ++ Node.markupsIn s ns)
    rw [repairText_append, repairText_append, repairText_markupIn n s, repairText_markupsIn ns s]
termination_by structural ns

end

/-! ### The lines of a text -/

theorem isBlankText_repairText {t : Text} (h : isBlankText t = true) :
    isBlankText (repairText t) = true :=
  isBlankText_iff.2 fun c hc => isBlankText_iff.1 h c (List.mem_of_mem_filter hc)

/-- Blanks around a text do not count when it is repaired and trimmed. -/
theorem trim_repairText_trim (t : Text) : trim (repairText (trim t)) = trim (repairText t) := by
  obtain ⟨u, v, ht, hu, hv⟩ := trim_split t
  conv_rhs => rw [ht, repairText_append, repairText_append, List.append_assoc,
    trim_append_left (isBlankText_repairText hu), trim_append_right _ (isBlankText_repairText hv)]

theorem repairText_trim_repairText (t : Text) :
    repairText (trim (repairText t)) = trim (repairText t) := by
  refine List.filter_eq_self.2 fun c hc => ?_
  exact (List.mem_filter.1 ((trim_isInfix (repairText t)).subset hc)).2

/-- **The lines of a text without unrepresentable characters.** -/
theorem textLines_repairText (t : Text) :
    textLines (repairText t) =
      ((textLines t).map fun l => trim (repairText l)).filter (!·.isEmpty) := by
  have hline : ∀ t : Text, '\n' ∉ t → textLines (repairText t) =
      ((textLines t).map fun l => trim (repairText l)).filter (!·.isEmpty) := by
    intro t ht
    have hr : '\n' ∉ repairText t := fun h => ht (List.mem_of_mem_filter h)
    rw [textLines_of_not_mem ht, textLines_of_not_mem hr]
    -- a line may become blank, and is left out then
    by_cases hb : isBlankText t = true
    · rw [if_pos hb, if_pos (isBlankText_repairText hb)]
      rfl
    · have hempty : (trim (repairText t)).isEmpty = isBlankText (repairText t) := by
        rw [Bool.eq_iff_iff, List.isEmpty_iff, trim_eq_nil_iff]
      rw [if_neg hb, List.map_singleton, trim_repairText_trim, List.filter_cons, hempty,
        List.filter_nil]
      cases isBlankText (repairText t) <;> rfl
  induction t using line_induction with
  | last t ht => exact hline t ht
  | more a b ha ih =>
    have hsplit : repairText (a ++ '\n' :: b) = repairText a ++ '\n' :: repairText b := by
      rw [repairText_append]
      rfl
    rw [hsplit, textLines_newline, textLines_newline, hline a ha, ih, List.map_append,
      List.filter_append]

/-- The line of a text, once it is repaired. -/
theorem repairedLines_textLine {l : Text} (hn : '\n' ∉ l) (depth : Nat) :
    repairedLines [indent depth ++ escapeText l] = [indent depth ++ escapeText (repairText l)] := by
  have hr : '\n' ∉ repairText l := fun h => hn (List.mem_of_mem_filter h)
  have hline : '\n' ∉ indent depth ++ escapeText (repairText l) := by
    rw [List.mem_append, not_or]
    exact ⟨by simp [indent], newline_not_mem_escapeText hr⟩
  rw [repairedLines_singleton, repairText_escapeText, splitLines_of_not_mem hline]

end Page

end HtmlCanon
