import HtmlCanon.Page
import HtmlCanon.Proofs.Text

/-!
# What a document opens with

A text is read as a whole document if it opens with a doctype or the `html` element, behind an XML
declaration and comments, if there are any. A comment ends at the first end mark in it, but the test
also takes any later end mark for its end. What stands between the two counts as part of the comment
then, whatever it is.

* `opensDocument_iff`, `closesBeforeDocument_iff`, `startsBefore_afterDeclaration` : the parts of the
  test.
* `prologue_iff` : a prologue is told by what stands behind its declaration.
* `shape_parse_iff` : **which texts are documents**.
-/

namespace HtmlCanon

namespace Page

/-! ### Prologues -/

/-- The mark that a comment begins with. -/
def commentStart : Text := "<!--".toList

/-- The mark that a comment ends with. -/
def commentStop : Text := "-->".toList

/-- The first words of a document: a doctype, or the `html` element up to the character behind its
name. -/
def IsOpening (m : Text) : Prop :=
  lowerText m = "<!doctype".toList ∨
    ∃ h c, m = h ++ [c] ∧ lowerText h = "<html".toList ∧ (isBlank c = true ∨ c = '>')

/-- An XML declaration, which reaches up to the next `>`, and the blanks behind it. -/
def IsDeclaration (d : Text) : Prop :=
  ∃ mark data ws, d = mark ++ (data ++ '>' :: ws) ∧ lowerText mark = "<?xml".toList ∧ '>' ∉ data ∧
    isBlankText ws = true

/-- Whether a text holds no end mark of a comment, not even with the first characters of the one
behind it. -/
def IsUnended (data : Text) : Prop :=
  ∀ x y, data ++ commentStop = x ++ (commentStop ++ y) → y = []

/-- A text that opens a document behind any number of comments, each of which ends at the first end
mark in it and has blanks behind it. -/
inductive OpensBehind : Text → Prop
  | opening (m rest : Text) : IsOpening m → OpensBehind (m ++ rest)
  | comment (data ws t : Text) : IsUnended data → isBlankText ws = true → OpensBehind t →
      OpensBehind (commentStart ++ (data ++ (commentStop ++ (ws ++ t))))

/-- A text that is blanks, an XML declaration or nothing, and then what is given. -/
def StartsBefore (s t : Text) : Prop :=
  ∃ ws d, s = ws ++ (d ++ t) ∧ isBlankText ws = true ∧ (d = [] ∨ IsDeclaration d)

/-- A text that opens a document behind blanks, an XML declaration and comments. -/
def Prologue (s : Text) : Prop := ∃ t, StartsBefore s t ∧ OpensBehind t

/-- A text that begins with a comment in which, behind its end, any content stands up to one more end
mark, and behind that the opening of a document. -/
def Stretched (s : Text) : Prop :=
  ∃ data content ws m rest,
    StartsBefore s
      (commentStart ++ (data ++ (commentStop ++ (content ++ (commentStop ++ (ws ++ (m ++ rest))))))) ∧
    IsUnended data ∧ isBlankText ws = true ∧ IsOpening m

/-! ### The opening -/

/-- A document opens with a mark that is none of an XML declaration. -/
theorem IsOpening.head {m : Text} (h : IsOpening m) : ∃ c r, m = '<' :: c :: r ∧ c ≠ '?' := by
  rcases h with h | ⟨h, e, rfl, hh, -⟩
  · obtain ⟨c, r, rfl, hc⟩ := lowerText_head (by decide) h
    refine ⟨c, r, rfl, ?_⟩
    rintro rfl
    exact absurd hc (by decide)
  · obtain ⟨c, r, rfl, hc⟩ := lowerText_head (by decide) hh
    refine ⟨c, r ++ [e], rfl, ?_⟩
    rintro rfl
    exact absurd hc (by decide)

theorem opensDocument_iff {t : Text} :
    opensDocument t = true ↔ ∃ m rest, t = m ++ rest ∧ IsOpening m := by
  unfold opensDocument
  rw [Bool.or_eq_true, Option.isSome_iff_exists]
  constructor
  · rintro (⟨r, hr⟩ | h)
    · obtain ⟨q, rfl, hq⟩ := afterNoCase?_iff.1 hr
      exact ⟨q, r, rfl, .inl hq⟩
    · split at h
      · rename_i c r hr
        obtain ⟨q, rfl, hq⟩ := afterNoCase?_iff.1 hr
        refine ⟨q ++ [c], r, by simp, .inr ⟨q, c, rfl, hq, ?_⟩⟩
        simpa using h
      · cases h
  · rintro ⟨m, rest, rfl, hm | ⟨h, c, rfl, hh, hc⟩⟩
    · exact .inl ⟨rest, afterNoCase?_iff.2 ⟨m, rfl, hm⟩⟩
    · have hr : afterNoCase? "<html".toList (h ++ [c] ++ rest) = some (c :: rest) :=
        afterNoCase?_iff.2 ⟨h, by simp, hh⟩
      rw [hr]
      exact .inr (by simpa using hc)

/-- Behind blanks the opening of a document is found. -/
theorem opensDocument_blank {ws m : Text} (hws : isBlankText ws = true) (hm : IsOpening m)
    (rest : Text) : opensDocument ((ws ++ (m ++ rest)).dropWhile isBlank) = true := by
  have hfirst : (m ++ rest).dropWhile isBlank = m ++ rest := by
    obtain ⟨c, r, rfl, -⟩ := hm.head
    rfl
  rw [dropWhile_blank_append hws hfirst]
  exact opensDocument_iff.2 ⟨m, rest, rfl, hm⟩

/-! ### The end of a comment -/

theorem closesBeforeDocument_cons (c : Char) (r : Text) : closesBeforeDocument (c :: r) = true ↔
    (∃ t, c :: r = commentStop ++ t ∧ opensDocument (t.dropWhile isBlank) = true) ∨
      closesBeforeDocument r = true := by
  rw [closesBeforeDocument, Bool.or_eq_true]
  refine or_congr_left ?_
  simp only [← after?_iff, commentStop]
  cases after? "-->".toList (c :: r) <;> simp

theorem closesBeforeDocument_append (x : Text) {r : Text} (h : closesBeforeDocument r = true) :
    closesBeforeDocument (x ++ r) = true := by
  induction x with
  | nil => exact h
  | cons c x ih => exact (closesBeforeDocument_cons c _).2 (.inr ih)

theorem closesBeforeDocument_stop {t : Text} (h : opensDocument (t.dropWhile isBlank) = true) :
    closesBeforeDocument (commentStop ++ t) = true :=
  (closesBeforeDocument_cons '-' _).2 (.inl ⟨t, rfl, h⟩)

/-- **A document opens behind an end mark** and blanks, somewhere in a text. -/
theorem closesBeforeDocument_iff {r : Text} : closesBeforeDocument r = true ↔
    ∃ x ws m rest, r = x ++ (commentStop ++ (ws ++ (m ++ rest))) ∧ isBlankText ws = true ∧
      IsOpening m := by
  constructor
  · intro h
    induction r with
    | nil => cases h
    | cons c r ih =>
      rcases (closesBeforeDocument_cons c r).1 h with ⟨t, ht, hopens⟩ | h
      · obtain ⟨m, rest, hrest, hm⟩ := opensDocument_iff.1 hopens
        refine ⟨[], t.takeWhile isBlank, m, rest, ?_, List.all_takeWhile, hm⟩
        rw [ht, ← hrest, List.takeWhile_append_dropWhile]
        rfl
      · obtain ⟨x, ws, m, rest, rfl, hws, hm⟩ := ih h
        exact ⟨c :: x, ws, m, rest, rfl, hws, hm⟩
  · rintro ⟨x, ws, m, rest, rfl, hws, hm⟩
    exact closesBeforeDocument_append x (closesBeforeDocument_stop (opensDocument_blank hws hm rest))

theorem isUnended_nil : IsUnended [] := by
  intro x y h
  have hlen := congrArg List.length h
  rw [List.nil_append, List.length_append, List.length_append] at hlen
  exact List.length_eq_zero_iff.1 (by omega)

theorem IsUnended.cons {c : Char} {data : Text} (hc : ¬commentStop <+: c :: (data ++ commentStop))
    (h : IsUnended data) : IsUnended (c :: data) := by
  intro x y hxy
  cases x with
  | nil => exact absurd ⟨y, hxy.symm⟩ hc
  | cons d x => exact h x y (List.cons.inj hxy).2

/-- **The end mark that comes first** in a text: the document opens behind it, or behind a later one. -/
theorem exists_first_stop {r : Text} (h : closesBeforeDocument r = true) :
    ∃ data t, r = data ++ (commentStop ++ t) ∧ IsUnended data ∧
      (opensDocument (t.dropWhile isBlank) = true ∨ closesBeforeDocument t = true) := by
  induction r with
  | nil => cases h
  | cons c r ih =>
    by_cases hstop : ∃ t, c :: r = commentStop ++ t
    · obtain ⟨t, ht⟩ := hstop
      refine ⟨[], t, ht, isUnended_nil, ?_⟩
      rcases (closesBeforeDocument_cons c r).1 h with ⟨t', ht', hopens⟩ | h
      · rw [ht] at ht'
        obtain rfl := List.append_cancel_left ht'
        exact .inl hopens
      · -- no end mark begins at the other characters of one
        obtain ⟨-, rfl⟩ := List.cons.inj (show c :: r = '-' :: '-' :: '>' :: t from ht)
        have hshort := ((closesBeforeDocument_cons '-' _).1 h).resolve_left (by simp [commentStop])
        exact .inr (((closesBeforeDocument_cons '>' _).1 hshort).resolve_left (by simp [commentStop]))
    · have hlater := ((closesBeforeDocument_cons c r).1 h).resolve_left
        fun ⟨t, ht, _⟩ => hstop ⟨t, ht⟩
      obtain ⟨data, t, rfl, hdata, ht⟩ := ih hlater
      refine ⟨c :: data, t, rfl, hdata.cons ?_, ht⟩
      rintro ⟨y, hy⟩
      exact hstop ⟨y ++ t, by rw [← List.append_assoc, ← List.append_assoc, hy, List.cons_append]⟩

/-! ### Comments in front -/

/-- What is asked of a text behind its declaration: that it opens a document, or that it is a comment
and one opens behind an end mark in it. -/
def Opens (t : Text) : Prop :=
  opensDocument t = true ∨ ∃ r, t = commentStart ++ r ∧ closesBeforeDocument r = true

/-- Comments in front change nothing, up to whichever end mark they reach. -/
theorem Opens.comment {ws t : Text} (data : Text) (hws : isBlankText ws = true) (h : Opens t) :
    Opens (commentStart ++ (data ++ (commentStop ++ (ws ++ t)))) := by
  refine .inr ⟨_, rfl, closesBeforeDocument_append data ?_⟩
  rcases h with hopens | ⟨r, rfl, hr⟩
  · obtain ⟨m, rest, rfl, hm⟩ := opensDocument_iff.1 hopens
    exact closesBeforeDocument_stop (opensDocument_blank hws hm rest)
  · -- the mark that the document opens behind is one of a later comment
    rw [← List.append_assoc, ← List.append_assoc]
    exact closesBeforeDocument_append _ hr

theorem OpensBehind.opens {t : Text} (h : OpensBehind t) : Opens t := by
  induction h with
  | opening m rest hm => exact .inl (opensDocument_iff.2 ⟨m, rest, rfl, hm⟩)
  | comment data ws t _ hws _ ih => exact ih.comment data hws

/-- What opens a document is a mark that is none of an XML declaration. -/
theorem Opens.head {t : Text} (h : Opens t) : ∃ c r, t = '<' :: c :: r ∧ c ≠ '?' := by
  rcases h with hopens | ⟨r, rfl, -⟩
  · obtain ⟨m, rest, rfl, hm⟩ := opensDocument_iff.1 hopens
    obtain ⟨c, r, rfl, hc⟩ := hm.head
    exact ⟨c, r ++ rest, rfl, hc⟩
  · exact ⟨'!', _, rfl, by decide⟩

theorem OpensBehind.head {t : Text} (h : OpensBehind t) : ∃ c r, t = '<' :: c :: r ∧ c ≠ '?' :=
  h.opens.head

/-! ### What stands behind the declaration -/

theorem afterDeclaration_eq_self {u : Text}
    (h : (afterNoCase? "<?xml".toList u).bind (splitAt? ['>']) = none) : afterDeclaration u = u := by
  rw [afterDeclaration, h]

theorem afterDeclaration_mark {u mark data r : Text} (hu : u = mark ++ (data ++ '>' :: r))
    (hmark : lowerText mark = "<?xml".toList) (hdata : '>' ∉ data) :
    afterDeclaration u = r.dropWhile isBlank := by
  have hmarked : afterNoCase? "<?xml".toList u = some (data ++ '>' :: r) :=
    afterNoCase?_iff.2 ⟨mark, hu, hmark⟩
  rw [afterDeclaration, hmarked, Option.bind_some, splitAt?_iff.2 ⟨rfl, hdata⟩]

/-- What is before the declaration and what is behind it. -/
theorem startsBefore_afterDeclaration (s : Text) :
    StartsBefore s (afterDeclaration (s.dropWhile isBlank)) := by
  refine ⟨s.takeWhile isBlank, ?_⟩
  cases hdecl : (afterNoCase? "<?xml".toList (s.dropWhile isBlank)).bind (splitAt? ['>']) with
  | none =>
    refine ⟨[], ?_, List.all_takeWhile, .inl rfl⟩
    rw [afterDeclaration_eq_self hdecl, List.nil_append, List.takeWhile_append_dropWhile]
  | some ar =>
    obtain ⟨data, r⟩ := ar
    obtain ⟨v, hv, har⟩ := Option.bind_eq_some_iff.1 hdecl
    obtain ⟨mark, hu, hmark⟩ := afterNoCase?_iff.1 hv
    obtain ⟨rfl, hdata⟩ := splitAt?_iff.1 har
    refine ⟨mark ++ (data ++ '>' :: r.takeWhile isBlank), ?_, List.all_takeWhile,
      .inr ⟨mark, _, _, rfl, hmark, hdata, List.all_takeWhile⟩⟩
    rw [afterDeclaration_mark hu hmark hdata, List.append_assoc, List.append_assoc, List.cons_append,
      List.takeWhile_append_dropWhile, ← hu, List.takeWhile_append_dropWhile]

/-- Nothing else stands behind the declaration. -/
theorem StartsBefore.afterDeclaration_eq {s t : Text} {c : Char} {r : Text} (h : StartsBefore s t)
    (ht : t = '<' :: c :: r) (hc : c ≠ '?') : afterDeclaration (s.dropWhile isBlank) = t := by
  have hfirst : t.dropWhile isBlank = t := by
    rw [ht]
    rfl
  obtain ⟨ws, d, rfl, hws, rfl | ⟨mark, data, ws', rfl, hmark, hdata, hws'⟩⟩ := h
  · rw [List.nil_append, dropWhile_blank_append hws hfirst]
    refine afterDeclaration_eq_self ?_
    cases hv : afterNoCase? "<?xml".toList t with
    | none => rfl
    | some v =>
      obtain ⟨mark, hmark, hlower⟩ := afterNoCase?_iff.1 hv
      obtain ⟨c', r', rfl, hc'⟩ := lowerText_head (by decide) hlower
      rw [ht, List.cons_append, List.cons_append, List.cons.injEq, List.cons.injEq] at hmark
      exact absurd (hmark.2.1.trans (asciiLower_eq (by decide) hc')) hc
  · have hmarked : (mark ++ (data ++ '>' :: (ws' ++ t))).dropWhile isBlank =
        mark ++ (data ++ '>' :: (ws' ++ t)) := by
      obtain ⟨_, _, rfl, -⟩ := lowerText_head (by decide) hmark
      rfl
    rw [List.append_assoc, List.append_assoc, List.cons_append, dropWhile_blank_append hws hmarked,
      afterDeclaration_mark rfl hmark hdata, dropWhile_blank_append hws' hfirst]

/-- **A prologue** is told by what stands behind its declaration. -/
theorem prologue_iff {s : Text} :
    Prologue s ↔ OpensBehind (afterDeclaration (s.dropWhile isBlank)) := by
  constructor
  · rintro ⟨t, hs, ht⟩
    obtain ⟨c, r, hcr, hc⟩ := ht.head
    rwa [hs.afterDeclaration_eq hcr hc]
  · exact fun h => ⟨_, startsBefore_afterDeclaration s, h⟩

/-! ### Documents -/

theorem isDocument_iff {s : Text} :
    isDocument s = true ↔ Opens (afterDeclaration (s.dropWhile isBlank)) := by
  unfold isDocument Opens
  rw [Bool.or_eq_true]
  refine or_congr_right ?_
  simp only [← after?_iff, commentStart]
  cases after? "<!--".toList (afterDeclaration (s.dropWhile isBlank)) <;> simp

theorem isDocument_iff_prologue {s : Text} : isDocument s = true ↔ Prologue s ∨ Stretched s := by
  rw [isDocument_iff, prologue_iff]
  constructor
  · rintro (h | ⟨r, hr, h⟩)
    · obtain ⟨m, rest, ht, hm⟩ := opensDocument_iff.1 h
      rw [ht]
      exact .inl (.opening m rest hm)
    · obtain ⟨data, t, rfl, hdata, hopens | hlater⟩ := exists_first_stop h
      · obtain ⟨m, rest, ht, hm⟩ := opensDocument_iff.1 hopens
        have hopening :=
          OpensBehind.comment data (t.takeWhile isBlank) _ hdata List.all_takeWhile (.opening m rest hm)
        rw [← ht, List.takeWhile_append_dropWhile, ← hr] at hopening
        exact .inl hopening
      · obtain ⟨content, ws, m, rest, rfl, hws, hm⟩ := closesBeforeDocument_iff.1 hlater
        refine .inr ⟨data, content, ws, m, rest, ?_, hdata, hws, hm⟩
        rw [← hr]
        exact startsBefore_afterDeclaration s
  · rintro (h | ⟨data, content, ws, m, rest, hs, -, hws, hm⟩)
    · exact h.opens
    · refine .inr ⟨_, hs.afterDeclaration_eq rfl (by decide), closesBeforeDocument_append data ?_⟩
      refine closesBeforeDocument_append commentStop ?_
      exact closesBeforeDocument_iff.2 ⟨content, ws, m, rest, rfl, hws, hm⟩

/-- **Which texts are documents.** Those with a prologue, and those that begin with a comment, any
content, and one more end mark with the opening of a document behind it. -/
theorem shape_parse_iff (s : Text) :
    ((parse s).shape = .document ↔ Prologue s ∨ Stretched s) ∧
      ((parse s).shape = .fragment ↔ ¬Prologue s ∧ ¬Stretched s) := by
  rw [← not_or, ← isDocument_iff_prologue]
  unfold parse parseCounting
  cases isDocument s with
  | true => exact ⟨iff_of_true rfl rfl, iff_of_false nofun (not_not_intro rfl)⟩
  | false => exact ⟨iff_of_false nofun nofun, iff_of_true rfl nofun⟩

/-! ### What stands between two comments -/

/-- A comment ends in one place only. -/
theorem IsUnended.unique {data data' t t' : Text} (h : IsUnended data) (h' : IsUnended data')
    (heq : data ++ (commentStop ++ t) = data' ++ (commentStop ++ t')) : data = data' ∧ t = t' := by
  have hsame : data ++ commentStop = data' ++ commentStop := by
    have hleft : data ++ commentStop <+: data ++ (commentStop ++ t) := ⟨t, List.append_assoc ..⟩
    have hright : data' ++ commentStop <+: data ++ (commentStop ++ t) :=
      ⟨t', by rw [heq, List.append_assoc]⟩
    rcases List.prefix_or_prefix_of_prefix hleft hright with ⟨y, hy⟩ | ⟨y, hy⟩
    · rw [List.append_assoc] at hy
      rw [← hy, h' data y hy.symm, List.append_nil]
    · rw [List.append_assoc] at hy
      rw [← hy, h data' y hy.symm, List.append_nil]
  obtain rfl := List.append_cancel_right hsame
  exact ⟨rfl, List.append_cancel_left (List.append_cancel_left heq)⟩

/-- Behind the end of a comment and blanks, a prologue goes on. -/
theorem OpensBehind.behind {data t : Text} (hdata : IsUnended data)
    (h : OpensBehind (commentStart ++ (data ++ (commentStop ++ t)))) :
    OpensBehind (t.dropWhile isBlank) := by
  generalize hs : commentStart ++ (data ++ (commentStop ++ t)) = s at h
  cases h with
  | opening m rest hm =>
    have hopens := opensDocument_iff.2 ⟨m, rest, rfl, hm⟩
    have hcomment : opensDocument (commentStart ++ (data ++ (commentStop ++ t))) = false := rfl
    rw [← hs, hcomment] at hopens
    cases hopens
  | comment data' ws t' hdata' hws ht' =>
    obtain ⟨-, rfl⟩ := hdata.unique hdata' (List.append_cancel_left hs)
    have hfirst : t'.dropWhile isBlank = t' := by
      obtain ⟨c, r, rfl, -⟩ := ht'.head
      rfl
    rwa [dropWhile_blank_append hws hfirst]

/-- A text with a word between two comments. -/
def wordBetween : Text := "<!--a-->x<!--b--><html>".toList

/-- The word stands before the `html` element and in no comment, yet the text is a document. -/
theorem shape_parse_wordBetween :
    (parse wordBetween).shape = .document ∧ ¬Prologue wordBetween := by
  have hdocument : isDocument wordBetween = true := by decide +kernel
  refine ⟨?_, fun h => ?_⟩
  · simp only [parse, parseCounting, hdocument, if_true]
  · have ha : IsUnended ['a'] := isUnended_nil.cons (by decide)
    have hbehind : OpensBehind ("x<!--b--><html>".toList.dropWhile isBlank) :=
      (prologue_iff.1 h).behind ha
    obtain ⟨c, r, hword, -⟩ := hbehind.head
    exact absurd (List.cons.inj hword).1 (by decide)

end Page

end HtmlCanon
