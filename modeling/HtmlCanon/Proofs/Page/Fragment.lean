import HtmlCanon.Proofs.Page.Reread

/-!
# Fragments that are read back

The lines of an outline, without an element around them, are read as a fragment with that outline.

* `isDocument_lines` : they do not look like a document.
* `showsAs_parse` : **the fragment that is read** shows as the outline.
-/

namespace HtmlCanon.Page

open Html Outline

/-! ### What a document begins with -/

/-- A name in small letters begins with a word as it is written. -/
theorem afterNoCase?_name {p n r rest : Text} {e : Char} (hn : n.all isNameChar = true)
    (hl : lowerText n = n) (hp : p.all isNameChar = true) (he : asciiLower e = e)
    (hen : isNameChar e = false)
    (h : afterNoCase? p (n ++ e :: r) = some rest) : ∃ m, n = p ++ m ∧ rest = m ++ e :: r := by
  induction p generalizing n with
  | nil => exact ⟨n, rfl, (Option.some.inj h).symm⟩
  | cons a p ih =>
    rw [List.all_cons, Bool.and_eq_true] at hp
    cases n with
    | nil =>
      simp only [List.nil_append, afterNoCase?, he, beq_iff_eq] at h
      split at h
      · rename_i hae
        rw [hae, hen] at hp
        exact absurd hp.1 (by decide)
      · cases h
    | cons b n =>
      rw [List.all_cons, Bool.and_eq_true] at hn
      obtain ⟨hb, hl'⟩ := List.cons.inj hl
      simp only [List.cons_append, afterNoCase?, hb, beq_iff_eq] at h
      split at h
      · rename_i hab
        obtain ⟨m, rfl, rfl⟩ := ih hn.2 hl' hp.2 h
        exact ⟨m, by rw [hab]; rfl, rfl⟩
      · cases h
theorem asciiLower_of_not_name {c : Char} (h : isNameChar c = false) : asciiLower c = c := by
  unfold asciiLower
  split
  · rename_i hc
    have hupper : c.isUpper = true := decide_eq_true hc
    have hletter : c.isAlpha = true := congrArg (· || c.isLower) hupper
    simp [isNameChar, isAsciiAlphanum, hletter] at h
  · rfl

/-- No word begins with a character that it does not begin with. -/
theorem afterNoCase?_ne {a b : Char} (h : a ≠ asciiLower b) (p r : Text) :
    afterNoCase? (a :: p) (b :: r) = none := by
  rw [afterNoCase?, if_neg (by simpa using h)]

theorem after?_ne {a b : Char} (h : a ≠ b) (p r : Text) : after? (a :: p) (b :: r) = none := by
  rw [after?, if_neg (by simpa using h)]

theorem isDocument_eq_false {s : Text} (hdrop : s.dropWhile isBlank = s)
    (hdecl : afterDeclaration s = s) (hopens : opensDocument s = false)
    (hcomment : after? "<!--".toList s = none) : isDocument s = false := by
  simp only [isDocument, hdrop, hdecl, hopens, hcomment, Bool.or_self]

/-- Text does not open a document. -/
theorem isDocument_text {d : Char} (hd : d ≠ '<') (hb : isBlank d = false) (r : Text) :
    isDocument (d :: r) = false := by
  have hlow : '<' ≠ asciiLower d := by
    cases hn : isNameChar d with
    | false => rw [asciiLower_of_not_name hn]; exact hd.symm
    | true =>
      intro he
      unfold asciiLower at he
      split at he
      · rename_i hc
        have hall : ∀ n < 26, '<' ≠ Char.ofNat (65 + n + 32) := by decide
        have h1 : 65 ≤ d.toNat := UInt32.le_iff_toNat_le.1 hc.1
        have h2 : d.toNat ≤ 90 := UInt32.le_iff_toNat_le.1 hc.2
        refine hall (d.toNat - 65) (by omega) ?_
        rwa [show 65 + (d.toNat - 65) + 32 = d.toNat + 32 by omega]
      · exact hd he.symm
  have hdrop : (d :: r).dropWhile isBlank = d :: r := List.dropWhile_cons_of_neg (by simp [hb])
  have hdecl : afterDeclaration (d :: r) = d :: r := by
    unfold afterDeclaration
    rw [show "<?xml".toList = '<' :: ['?', 'x', 'm', 'l'] from rfl, afterNoCase?_ne hlow]
    rfl
  have hopens : opensDocument (d :: r) = false := by
    have hdoctype : afterNoCase? "<!doctype".toList (d :: r) = none :=
      afterNoCase?_ne hlow "!doctype".toList r
    have hhtml : afterNoCase? "<html".toList (d :: r) = none := afterNoCase?_ne hlow "html".toList r
    rw [opensDocument, hdoctype, hhtml]
    rfl
  exact isDocument_eq_false hdrop hdecl hopens (after?_ne hd.symm "!--".toList r)

/-- A tag of the body does not open a document. -/
theorem isDocument_opening {t : Tag} (hf : t.isFlow = true) (hr : t.isReadable = true) (x : Text) :
    isDocument (opening t ++ x) = false := by
  have htag := t.isReadable_name hr
  have hlower := htag
  simp only [isTagName, Bool.and_eq_true] at hlower
  have hall := isPlainName_all (isPlainName_of_lower hlower.1)
  have hlow : lowerText t.name.toList = t.name.toList := by
    have := hlower.1
    simp only [isLowerName, Bool.and_eq_true, beq_iff_eq] at this
    exact this.2
  obtain ⟨c, n, hc, halpha⟩ := isTagName_cons htag
  obtain ⟨e, y, he, hen⟩ := attrs_head t.attrs x
  have htext : opening t ++ x = '<' :: (t.name.toList ++ e :: y) := by
    rw [← he]
    simp [opening]
  have hcl : asciiLower c = c := by
    rw [hc] at hlow
    exact (List.cons.inj hlow).1
  have hne : ∀ a : Char, a.isAlpha = false → a ≠ asciiLower c := by
    rintro a ha rfl
    rw [hcl, halpha] at ha
    cases ha
  -- after the word `html` the name goes on
  have hhtml : ∀ rest, afterNoCase? "html".toList (t.name.toList ++ e :: y) = some rest →
      ∃ d r, rest = d :: r ∧ isNameChar d = true := by
    intro rest hrest
    -- a name that ended with the word would be that of the page itself
    obtain ⟨m, hm, rfl⟩ := afterNoCase?_name hall hlow (by decide) (asciiLower_of_not_name hen) hen hrest
    cases m with
    | nil =>
      rw [List.append_nil] at hm
      exact absurd (String.toList_inj.1 hm) (InBody.ne_of_flow hf (by decide +kernel))
    | cons d r =>
      rw [hm, List.all_append, Bool.and_eq_true, List.all_cons, Bool.and_eq_true] at hall
      exact ⟨d, _, rfl, hall.2.1⟩
  have hopens : opensDocument (opening t ++ x) = false := by
    have hword : (afterNoCase? "<!doctype".toList (opening t ++ x)).isSome = false := by
      rw [htext, hc]
      show (afterNoCase? ('!' :: "doctype".toList) (c :: (n ++ e :: y))).isSome = false
      rw [afterNoCase?_ne (hne _ (by decide))]
      rfl
    have hskip : afterNoCase? "<html".toList (opening t ++ x) =
        afterNoCase? "html".toList (t.name.toList ++ e :: y) := by
      rw [htext]
      rfl
    rw [opensDocument, hword, hskip, Bool.false_or]
    split
    · rename_i d r hd
      obtain ⟨d', r', heq, hname⟩ := hhtml _ hd
      obtain ⟨rfl, -⟩ := List.cons.inj heq
      have hgt : (d == '>') = false := by
        rw [beq_eq_false_iff_ne]
        exact char_ne hname (by decide)
      rw [isBlank_of_isNameChar hname, hgt]
      rfl
    · rfl
  have hdrop : (opening t ++ x).dropWhile isBlank = opening t ++ x := by
    rw [htext]
    exact List.dropWhile_cons_of_neg (by decide)
  have hdecl : afterDeclaration (opening t ++ x) = opening t ++ x := by
    unfold afterDeclaration
    have hnone : afterNoCase? "<?xml".toList (opening t ++ x) = none := by
      rw [htext, hc]
      exact afterNoCase?_ne (hne _ (by decide)) "xml".toList _
    rw [hnone]
    rfl
  have hcomment : after? "<!--".toList (opening t ++ x) = none := by
    rw [htext, hc]
    exact after?_ne (hcl ▸ hne _ (by decide)) "--".toList _
  exact isDocument_eq_false hdrop hdecl hopens hcomment

/-- The document of a page that has been read to its end. -/
theorem document_readAll {s : Text} {b : Builder} {done : List Node}
    (h : Reads Builder.start s b []) (hi : Ready b [] [⟨3, Tag.plain "body", done⟩,
      ⟨1, Tag.plain "html", [.element (Tag.plain "head") [] []]⟩]) :
    (Builder.start.readAll [] s).arena.document =
      [.element (Tag.plain "html") [] [.element (Tag.plain "head") [] [],
        .element (Tag.plain "body") [] done]] := by
  obtain ⟨name, hname⟩ := h []
  have hend := hi.accept_finish
  rw [hname, Builder.readAll]
  exact hend.spine.close.document

/-- **The lines of an outline do not look like a document.** -/
theorem isDocument_lines {os : List Outline} (ho : PlainForest os)
    (hr : areReadable [] os = true) : isDocument (joinLines (linesOf true 0 os)) = false := by
  cases os with
  | nil => rfl
  | cons o os =>
    obtain ⟨x, hx⟩ : ∃ x, joinLines (linesOf true 0 (o :: os)) =
        joinLines (Outline.lines true 0 o) ++ x := by
      by_cases hnil : linesOf true 0 os = []
      · exact ⟨[], by rw [linesOf, hnil]; simp⟩
      · exact ⟨_, joinLines_append (lines_ne_nil ho.1 true 0) hnil⟩
    simp only [areReadable, Bool.and_eq_true] at hr
    rw [hx]
    cases o with
    | text ls =>
      obtain ⟨l, ms, rfl⟩ := List.exists_cons_of_ne_nil ho.1.1
      obtain ⟨ht, hne, -⟩ := ho.1.2 l List.mem_cons_self
      obtain ⟨d, r, hd, hlt, hb⟩ := escapeText_head ht hne
      rw [joinLines_text, setIn_cons, escapeText_append, escapeText_append, hd]
      exact isDocument_text hlt hb _
    | element t is =>
      have htag := hr.1
      simp only [Outline.isReadable, Bool.and_eq_true] at htag
      rw [joinLines_element, List.append_assoc, List.append_assoc]
      exact isDocument_opening htag.1.1.1 htag.1.1.2 _
    | comment t => exact ho.1.elim
    | doctype d => exact ho.1.elim
    | verbatim m => exact ho.1.elim

/-- **A fragment that has been read to its end** is what its body holds, as nothing has landed in its
head. -/
theorem parse_of_reads {s : Text} {b : Builder} {done : List Node} (hdoc : isDocument s = false)
    (hmark : s.head? ≠ some '\uFEFF') (h : Reads Builder.start s b [])
    (hi : Ready b [] [⟨3, Tag.plain "body", done⟩,
      ⟨1, Tag.plain "html", [.element (Tag.plain "head") [] []]⟩]) :
    parse s = ⟨.fragment, done⟩ := by
  have hnodes := document_readAll h hi
  unfold parse parseCounting Html.parse
  rw [hdoc, Lexeme.dropMark_eq_self hmark]
  simp only [hnodes]
  simp [contentOf, findAmong, findIn, Tag.plain, Node.children]

/-- **A fragment is read back**: the lines of an outline are read as nodes with that outline, unless
a byte-order mark stands first. -/
theorem showsAs_parse {os : List Outline} (ho : PlainForest os) (hr : areReadable [] os = true)
    (hmark : (joinLines (linesOf true 0 os)).head? ≠ some '\uFEFF') :
    (parse (joinLines (linesOf true 0 os))).shape = .fragment ∧
      ShowsAs (parse (joinLines (linesOf true 0 os))).nodes os := by
  obtain ⟨b, done, hb, hi, hs⟩ := reads_lines (f := ⟨3, Tag.plain "body", []⟩)
    (.inr ⟨rfl, rfl, rfl⟩) ho hr ShowsAs.nil fun _ => rfl
  have hparse := parse_of_reads (isDocument_lines ho hr) hmark hb hi
  rw [hparse]
  exact ⟨rfl, by simpa using hs⟩

end HtmlCanon.Page
