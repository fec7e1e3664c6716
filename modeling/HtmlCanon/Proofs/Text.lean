import HtmlCanon.Text
import Mathlib.Data.List.DropRight

/-!
# Trimming and cutting texts

* `after?_iff`, `afterNoCase?_iff`, `splitAt?_iff` : what stands before and after a word.
* `trim_split` : a text is its trimmed form with blanks around it.
* `trim_append_left`, `trim_append_right` : blanks at the ends do not count.
* `splitWhere_append`, `splitLines_append` : cutting at a separator, such as a line feed.
* `cut_induction`, `line_induction` : induction on the parts of a text, such as its lines.
* `fields_flatMap`, `fields_intercalate` : words that are cut once more, and words that are joined.
* `isInfix_of_not_mem` : a stretch stands on one side of each character that is not in it.
* `exists_line` : a stretch without line feeds stands on one line.
-/

namespace HtmlCanon

/-- Characters of different kinds differ. -/
theorem char_ne {p : Char → Bool} {c d : Char} (hc : p c = true) (hd : p d = false) : c ≠ d := by
  rintro rfl
  rw [hc] at hd
  cases hd

/-! ### What a text begins with -/

/-- What stands after a word that a text begins with. -/
theorem eq_append_of_after? {p t r : Text} (h : after? p t = some r) : t = p ++ r := by
  fun_induction after? p t with
  | case1 t => exact Option.some.inj h
  | case2 => cases h
  | case3 a p b t hab ih => rw [ih h, eq_of_beq hab, List.cons_append]
  | case4 => cases h

theorem after?_iff {p t r : Text} : after? p t = some r ↔ t = p ++ r := by
  constructor
  · exact eq_append_of_after?
  · rintro rfl
    induction p with
    | nil => rfl
    | cons a p ih => rw [List.cons_append, after?, beq_self_eq_true, if_pos rfl, ih]

/-- What becomes a character in small letters: itself, if it is no capital, or its capital. -/
theorem asciiLower_eq_iff {c d : Char} : asciiLower c = d ↔
    c = d ∧ ¬('A' ≤ d ∧ d ≤ 'Z') ∨ 0x61 ≤ d.toNat ∧ d.toNat ≤ 0x7A ∧ c.toNat = d.toNat - 32 := by
  have hcapital : ∀ c : Char, 'A' ≤ c ∧ c ≤ 'Z' ↔ 0x41 ≤ c.toNat ∧ c.toNat ≤ 0x5A := fun _ => .rfl
  unfold asciiLower
  split
  · rename_i hc
    rw [hcapital] at hc
    have hnat : (Char.ofNat (c.toNat + 32)).toNat = c.toNat + 32 := by
      rw [Char.ofNat, dif_pos (.inl (by omega))]
      rfl
    rw [hcapital, ← Char.toNat_inj, ← Char.toNat_inj, hnat]
    omega
  · rename_i hc
    rw [hcapital] at hc
    rw [hcapital, ← Char.toNat_inj]
    omega

/-- A character that no small letter comes before is the same in small letters. -/
theorem asciiLower_eq {c d : Char} (hd : d < 'a') (h : asciiLower c = d) : c = d := by
  have hsmall : d.toNat < 0x61 := hd
  rcases asciiLower_eq_iff.1 h with ⟨hcd, -⟩ | ⟨hlower, -⟩
  · exact hcd
  · omega

/-- A word that no small letter comes in is the same in small letters. -/
theorem lowerText_eq {w t : Text} (hw : w.all (· < 'a') = true) (h : lowerText t = w) : t = w := by
  induction w generalizing t with
  | nil => exact List.map_eq_nil_iff.1 h
  | cons c w ih =>
    obtain ⟨hc, hw⟩ := Bool.and_eq_true_iff.1 hw
    obtain ⟨d, t, rfl, hd, ht⟩ := List.map_eq_cons_iff.1 h
    rw [asciiLower_eq (of_decide_eq_true hc) hd, ih hw ht]

/-- What a text begins with that is a word in small letters. -/
theorem lowerText_head {m : Text} {a b : Char} {p : Text} (ha : a < 'a')
    (h : lowerText m = a :: b :: p) : ∃ c r, m = a :: c :: r ∧ asciiLower c = b := by
  obtain ⟨a', _, rfl, ha', hr⟩ := List.map_eq_cons_iff.1 h
  obtain ⟨c, r, rfl, hc, -⟩ := List.map_eq_cons_iff.1 hr
  exact ⟨c, r, by rw [asciiLower_eq ha ha'], hc⟩

/-- A word is read off the front of a text in any case of letters. -/
theorem afterNoCase?_iff {p t r : Text} :
    afterNoCase? p t = some r ↔ ∃ q, t = q ++ r ∧ lowerText q = p := by
  fun_induction afterNoCase? p t with
  | case1 t =>
    constructor
    · rintro h
      exact ⟨[], Option.some.inj h, rfl⟩
    · rintro ⟨q, rfl, hq⟩
      rw [List.map_eq_nil_iff.1 hq]
      rfl
  | case2 a p =>
    constructor
    · intro h
      cases h
    · rintro ⟨q, h, hq⟩
      rw [(List.append_eq_nil_iff.1 h.symm).1] at hq
      cases hq
  | case3 a p b t hab ih =>
    rw [ih]
    constructor
    · rintro ⟨q, rfl, rfl⟩
      exact ⟨b :: q, rfl, by rw [lowerText, List.map_cons, ← eq_of_beq hab, lowerText]⟩
    · rintro ⟨q, h, hq⟩
      obtain ⟨b', q', rfl, rfl, rfl⟩ := List.map_eq_cons_iff.1 hq
      exact ⟨q', (List.cons.inj h).2, rfl⟩
  | case4 a p b t hab =>
    constructor
    · intro h
      cases h
    · rintro ⟨q, h, hq⟩
      obtain ⟨b', q', rfl, rfl, rfl⟩ := List.map_eq_cons_iff.1 hq
      obtain ⟨rfl, -⟩ := List.cons.inj h
      simp at hab

/-- A text is cut at the first character of a kind. -/
theorem splitAt?_iff {e : Char} {t a r : Text} :
    splitAt? [e] t = some (a, r) ↔ t = a ++ e :: r ∧ e ∉ a := by
  induction t generalizing a with
  | nil => simp [splitAt?]
  | cons c t ih =>
    rw [splitAt?, after?]
    by_cases hc : e = c
    · subst hc
      rw [beq_self_eq_true, if_pos rfl]
      show some ([], t) = some (a, r) ↔ _
      cases a with
      | nil => simp
      | cons b a => simp +contextual [eq_comm]
    · rw [if_neg (by simpa using hc)]
      show (splitAt? [e] t).map (fun p => (c :: p.1, p.2)) = some (a, r) ↔ _
      constructor
      · intro h
        obtain ⟨⟨a', r'⟩, hcut, h⟩ := Option.map_eq_some_iff.1 h
        obtain ⟨rfl, rfl⟩ := Prod.mk.inj h
        obtain ⟨rfl, hmem⟩ := ih.1 hcut
        exact ⟨rfl, by simp [hc, hmem]⟩
      · rintro ⟨h, hmem⟩
        cases a with
        | nil => exact absurd (List.cons.inj h).1.symm hc
        | cons b a =>
          obtain ⟨rfl, ht⟩ := List.cons.inj h
          have hcut := ih.2 ⟨ht, fun hin => hmem (List.mem_cons_of_mem c hin)⟩
          exact Option.map_eq_some_iff.2 ⟨(a, r), hcut, rfl⟩

/-! ### Blanks -/

theorem isBlank_of_isMarkupSpace {c : Char} (h : isMarkupSpace c = true) : isBlank c = true := by
  simp only [isMarkupSpace, Bool.or_eq_true, beq_iff_eq] at h
  rcases h with (((rfl | rfl) | rfl) | rfl) | rfl <;> decide

theorem isBlankText_iff {t : Text} : isBlankText t = true ↔ ∀ c ∈ t, isBlank c = true := by
  simp [isBlankText]

@[simp] theorem isBlankText_nil : isBlankText [] = true := rfl

@[simp] theorem isBlankText_cons (c : Char) (t : Text) :
    isBlankText (c :: t) = (isBlank c && isBlankText t) := rfl

@[simp] theorem isBlankText_append (t u : Text) :
    isBlankText (t ++ u) = (isBlankText t && isBlankText u) := by
  simp [isBlankText]

/-- What stands behind blanks. -/
theorem dropWhile_blank_append {ws t : Text} (hws : isBlankText ws = true)
    (ht : t.dropWhile isBlank = t) : (ws ++ t).dropWhile isBlank = t := by
  rw [List.dropWhile_append_of_pos (isBlankText_iff.1 hws), ht]

/-! ### Stretches -/

/-- A stretch at the start of a text ends before each character that is not in it. -/
theorem isPrefix_of_not_mem {c : Char} {p t u : Text} (hp : c ∉ p) (h : p <+: t ++ c :: u) :
    p <+: t := by
  have hupto : t ++ [c] <+: t ++ c :: u := ⟨u, by simp⟩
  rcases List.prefix_or_prefix_of_prefix h hupto with h | h
  · rcases List.prefix_concat_iff.1 h with rfl | h
    · exact absurd (by simp) hp
    · exact h
  · exact absurd (h.mem (by simp)) hp

/-- A stretch stands on one side of each character that is not in it. -/
theorem isInfix_of_not_mem {c : Char} {p t u : Text} (hp : c ∉ p) (h : p <:+: t ++ c :: u) :
    p <:+: t ∨ p <:+: u := by
  induction t with
  | nil =>
    rcases List.infix_cons_iff.1 h with h | h
    · exact .inl (isPrefix_of_not_mem (t := []) hp h).isInfix
    · exact .inr h
  | cons d t ih =>
    rcases List.infix_cons_iff.1 h with h | h
    · exact .inl (isPrefix_of_not_mem (t := d :: t) hp h).isInfix
    · exact (ih h).imp_left fun h => h.trans (List.suffix_cons d t).isInfix

/-- A stretch that is not empty stands after characters that are not in it. -/
theorem isInfix_of_forall_not_mem {p t u : Text} (hne : p ≠ []) (ht : ∀ c ∈ t, c ∉ p)
    (h : p <:+: t ++ u) : p <:+: u := by
  induction t with
  | nil => exact h
  | cons c t ih =>
    rcases isInfix_of_not_mem (t := []) (ht c List.mem_cons_self) h with h | h
    · exact absurd (List.infix_nil.1 h) hne
    · exact ih (fun d hd => ht d (List.mem_cons_of_mem c hd)) h

/-! ### Trimming -/

theorem dropTailWhile_eq (p : Char → Bool) (t : Text) : dropTailWhile p t = t.rdropWhile p := rfl

/-- What is dropped at the end satisfies `p`. -/
theorem dropTailWhile_split (p : Char → Bool) (t : Text) :
    ∃ u, t = dropTailWhile p t ++ u ∧ u.all p = true := by
  refine ⟨t.rtakeWhile p, ?_, ?_⟩
  · rw [dropTailWhile_eq, List.rdropWhile_append_rtakeWhile]
  · simp [List.rtakeWhile]

theorem dropTailWhile_append {p : Char → Bool} {u : Text} (hu : u.all p = true) (t : Text) :
    dropTailWhile p (t ++ u) = dropTailWhile p t := by
  unfold dropTailWhile
  rw [List.reverse_append, List.dropWhile_append_of_pos]
  intro c hc
  exact List.all_eq_true.1 hu c (List.mem_reverse.1 hc)

/-- A text is its trimmed form with blanks before and after it. -/
theorem trim_split (t : Text) :
    ∃ u v, t = u ++ trim t ++ v ∧ isBlankText u = true ∧ isBlankText v = true := by
  obtain ⟨v, hv, hb⟩ := dropTailWhile_split isBlank (t.dropWhile isBlank)
  refine ⟨t.takeWhile isBlank, v, ?_, ?_, hb⟩
  · rw [List.append_assoc, trim, ← hv, List.takeWhile_append_dropWhile]
  · exact List.all_takeWhile

theorem trim_isInfix (t : Text) : trim t <:+: t := by
  obtain ⟨u, v, ht, -, -⟩ := trim_split t
  exact ⟨u, v, ht.symm⟩

theorem trim_append_left {u : Text} (hu : isBlankText u = true) (t : Text) :
    trim (u ++ t) = trim t := by
  unfold trim
  rw [List.dropWhile_append_of_pos (isBlankText_iff.1 hu)]

theorem trim_append_right (t : Text) {u : Text} (hu : isBlankText u = true) :
    trim (t ++ u) = trim t := by
  by_cases ht : isBlankText t = true
  · have h1 : (t ++ u).dropWhile isBlank = [] := by
      simp only [List.dropWhile_eq_nil_iff, List.mem_append]
      rintro c (hc | hc)
      · exact isBlankText_iff.1 ht c hc
      · exact isBlankText_iff.1 hu c hc
    have h2 : t.dropWhile isBlank = [] := List.dropWhile_eq_nil_iff.2 (isBlankText_iff.1 ht)
    unfold trim; rw [h1, h2]
  · have h1 : (t ++ u).dropWhile isBlank = t.dropWhile isBlank ++ u := by
      rw [List.dropWhile_append, if_neg]
      intro h
      exact ht (isBlankText_iff.2 (List.dropWhile_eq_nil_iff.1 (List.isEmpty_iff.1 h)))
    unfold trim
    rw [h1, dropTailWhile_append hu]

theorem trim_eq_nil_iff {t : Text} : trim t = [] ↔ isBlankText t = true := by
  constructor
  · intro h
    obtain ⟨u, v, ht, hu, hv⟩ := trim_split t
    rw [ht, h]; simp [hu, hv]
  · intro h
    unfold trim
    rw [List.dropWhile_eq_nil_iff.2 (isBlankText_iff.1 h)]; rfl

theorem trim_trim (t : Text) : trim (trim t) = trim t := by
  obtain ⟨u, v, ht, hu, hv⟩ := trim_split t
  conv_rhs => rw [ht, List.append_assoc, trim_append_left hu, trim_append_right _ hv]

/-- A trimmed text does not start with a blank. -/
theorem isBlank_of_trim_cons {t r : Text} {c : Char} (h : trim t = c :: r) : isBlank c = false := by
  have hp : trim t <+: t.dropWhile isBlank := List.rdropWhile_prefix isBlank _
  obtain ⟨s, hs⟩ := hp
  have hd := List.head?_dropWhile_not isBlank t
  rw [← hs, h] at hd
  simpa using hd

/-- A trimmed text does not end in a blank. -/
theorem isBlank_of_trim_concat {t r : Text} {c : Char} (h : trim t = r ++ [c]) :
    isBlank c = false := by
  have hne : trim t ≠ [] := by rw [h]; simp
  have hl : ¬isBlank ((trim t).getLast hne) = true :=
    List.rdropWhile_last_not isBlank (t.dropWhile isBlank) hne
  have hc : (trim t).getLast hne = c := by simp [h]
  simpa [hc] using hl

/-! ### Parts between separators -/

variable {p q : Char → Bool}

/-- Cutting at a character that separates. -/
theorem splitWhere_append (a : Text) {c : Char} (hc : p c = true) (b : Text) :
    splitWhere p (a ++ c :: b) = splitWhere p a ++ splitWhere p b := by
  induction a with
  | nil =>
    show splitWhere p (c :: b) = [] :: splitWhere p b
    rw [splitWhere, if_pos hc]
  | cons d a ih =>
    rw [List.cons_append, splitWhere, ih]
    conv_rhs => rw [splitWhere]
    split
    · rfl
    · obtain ⟨l, ls, hl⟩ := List.exists_cons_of_ne_nil (splitWhere_ne_nil p a)
      rw [hl]
      rfl

/-- A text without separators is one part. -/
theorem splitWhere_of_none {t : Text} (h : ∀ c ∈ t, p c = false) : splitWhere p t = [t] := by
  induction t with
  | nil => rfl
  | cons c t ih =>
    rw [splitWhere, if_neg (by simp [h c]), ih fun d hd => h d (List.mem_cons_of_mem c hd)]

/-- Induction on the parts of a text between separators: the last one, or one with a separator and
more behind it. -/
@[elab_as_elim]
theorem cut_induction (p : Char → Bool) {P : Text → Prop}
    (last : ∀ t, (∀ c ∈ t, p c = false) → P t)
    (more : ∀ a c b, p c = true → (∀ d ∈ a, p d = false) → P b → P (a ++ c :: b)) (t : Text) : P t := by
  by_cases h : ∃ c ∈ t, p c = true
  · obtain ⟨c, a, b, ha, hc, hab, -⟩ := List.exists_of_eraseP h.choose_spec.1 h.choose_spec.2
    have hlt : b.length < t.length := by rw [hab, List.length_append, List.length_cons]; omega
    rw [hab]
    exact more a c b hc (fun d hd => Bool.eq_false_iff.2 (ha d hd)) (cut_induction p last more b)
  · exact last t fun c hc => Bool.eq_false_iff.2 fun hp => h ⟨c, hc, hp⟩
termination_by t.length

/-- The parts of a text hold no separators. -/
theorem mem_splitWhere {t l : Text} (h : l ∈ splitWhere p t) : ∀ c ∈ l, p c = false := by
  induction t using cut_induction p with
  | last t ht =>
    rw [splitWhere_of_none ht] at h
    obtain rfl := List.mem_singleton.1 h
    exact ht
  | more a c b hc ha ih =>
    rw [splitWhere_append a hc, splitWhere_of_none ha] at h
    rcases List.mem_cons.1 h with rfl | h
    · exact ha
    · exact ih h

/-! ### Lines -/

@[simp] theorem splitLines_nil : splitLines [] = [[]] := rfl

theorem splitLines_cons {c : Char} (hc : c ≠ '\n') {t l : Text} {ls : List Text}
    (h : splitLines t = l :: ls) : splitLines (c :: t) = (c :: l) :: ls := by
  simp only [splitLines] at h
  simp [splitLines, splitWhere, hc, h]

theorem newline_not_mem_iff {t : Text} : '\n' ∉ t ↔ ∀ c ∈ t, (c == '\n') = false := by
  simp only [beq_eq_false_iff_ne]
  exact ⟨fun h c hc hn => h (hn ▸ hc), fun h hn => h _ hn rfl⟩

/-- A text without line feeds is a single line. -/
theorem splitLines_of_not_mem {t : Text} (h : '\n' ∉ t) : splitLines t = [t] :=
  splitWhere_of_none (newline_not_mem_iff.1 h)

/-- What comes first on the same line. -/
theorem splitLines_append_left {x : Text} (hx : '\n' ∉ x) {t l : Text} {ls : List Text}
    (h : splitLines t = l :: ls) : splitLines (x ++ t) = (x ++ l) :: ls := by
  induction x with
  | nil => exact h
  | cons c x ih =>
    rw [List.mem_cons, not_or] at hx
    exact splitLines_cons (Ne.symm hx.1) (ih hx.2)

/-- **Cutting at a line feed.** The lines before it and the lines after it do not mix. -/
theorem splitLines_append (t u : Text) :
    splitLines (t ++ '\n' :: u) = splitLines t ++ splitLines u := by
  unfold splitLines
  exact splitWhere_append t rfl u

theorem not_mem_of_mem_splitLines {t l : Text} (h : l ∈ splitLines t) : '\n' ∉ l :=
  newline_not_mem_iff.2 (mem_splitWhere h)

/-- Induction on the lines of a text: the last one, or one with more lines after it. -/
@[elab_as_elim]
theorem line_induction {P : Text → Prop} (last : ∀ t, '\n' ∉ t → P t)
    (more : ∀ a b, '\n' ∉ a → P b → P (a ++ '\n' :: b)) (t : Text) : P t := by
  refine cut_induction (· == '\n') (fun t ht => last t (newline_not_mem_iff.2 ht)) ?_ t
  intro a c b hc ha hb
  obtain rfl := eq_of_beq hc
  exact more a b (newline_not_mem_iff.2 ha) hb

/-- A line stands somewhere in the text. -/
theorem infix_of_mem_splitLines {t l : Text} (h : l ∈ splitLines t) : l <:+: t := by
  induction t using line_induction with
  | last t ht =>
    obtain rfl : l = t := by simpa [splitLines_of_not_mem ht] using h
    exact List.infix_refl l
  | more a b ha ih =>
    rw [splitLines_append, splitLines_of_not_mem ha, List.singleton_append] at h
    rcases List.mem_cons.1 h with rfl | h
    · exact (List.prefix_append l _).isInfix
    · exact (ih h).trans ((List.suffix_cons '\n' b).trans (List.suffix_append a _)).isInfix

/-- A stretch without line feeds stands on one line. -/
theorem exists_line {m : Text} (hm : '\n' ∉ m) (a b : Text) :
    ∃ x y, x ++ m ++ y ∈ splitLines (a ++ m ++ b) := by
  induction a using line_induction with
  | last a ha =>
    have hfirst : '\n' ∉ a ++ m := by
      rw [List.mem_append, not_or]
      exact ⟨ha, hm⟩
    by_cases hb : '\n' ∈ b
    · obtain ⟨y, r, rfl, hy⟩ := List.eq_append_cons_of_mem hb
      have hline : '\n' ∉ a ++ m ++ y := by
        rw [List.mem_append, not_or]
        exact ⟨hfirst, hy⟩
      refine ⟨a, y, ?_⟩
      rw [← List.append_assoc, splitLines_append, splitLines_of_not_mem hline]
      exact List.mem_append_left _ List.mem_cons_self
    · have hline : '\n' ∉ a ++ m ++ b := by
        rw [List.mem_append, not_or]
        exact ⟨hfirst, hb⟩
      refine ⟨a, b, ?_⟩
      rw [splitLines_of_not_mem hline]
      exact List.mem_cons_self
  | more l r hl ih =>
    obtain ⟨x, y, hmem⟩ := ih
    refine ⟨x, y, ?_⟩
    rw [List.append_assoc, List.append_assoc, List.cons_append, splitLines_append,
      ← List.append_assoc r]
    exact List.mem_append_right _ hmem

/-- The lines of joined texts. -/
theorem splitLines_joinLines {ls : List Text} (h : ls ≠ []) :
    splitLines (joinLines ls) = ls.flatMap splitLines := by
  induction ls with
  | nil => exact absurd rfl h
  | cons l ls ih =>
    cases ls with
    | nil => simp [joinLines, List.intercalate]
    | cons m ms =>
      rw [joinLines_cons l (List.cons_ne_nil m ms), splitLines_append, ih (List.cons_ne_nil m ms)]
      rfl

/-- The lines of joined lines. -/
theorem splitLines_joined {ls : List Text} (hne : ls ≠ []) (h : ∀ l ∈ ls, '\n' ∉ l) :
    splitLines (joinLines ls) = ls := by
  rw [splitLines_joinLines hne]
  induction ls with
  | nil => rfl
  | cons l ls ih =>
    rw [List.flatMap_cons, splitLines_of_not_mem (h l List.mem_cons_self)]
    cases ls with
    | nil => rfl
    | cons m ms =>
      rw [ih (List.cons_ne_nil m ms) fun k hk => h k (List.mem_cons_of_mem l hk)]
      rfl

/-- Joined lines determine the lines. -/
theorem joinLines_inj {ls ms : List Text} (hl : ls ≠ []) (hm : ms ≠ []) (hls : ∀ l ∈ ls, '\n' ∉ l)
    (hms : ∀ l ∈ ms, '\n' ∉ l) : joinLines ls = joinLines ms ↔ ls = ms := by
  refine ⟨fun h => ?_, fun h => by rw [h]⟩
  rw [← splitLines_joined hl hls, h, splitLines_joined hm hms]

/-! ### Words -/

theorem fields_append (a : Text) {c : Char} (hc : p c = true) (b : Text) :
    fields p (a ++ c :: b) = fields p a ++ fields p b := by
  rw [fields, splitWhere_append a hc, List.filter_append, fields, fields]

/-- A text without separators is one field. -/
theorem fields_of_none {t : Text} (hne : t ≠ []) (h : ∀ c ∈ t, p c = false) : fields p t = [t] := by
  rw [fields, splitWhere_of_none h, List.filter_singleton, List.isEmpty_eq_false_iff.2 hne]
  rfl

theorem mem_fields {t w : Text} (h : w ∈ fields p t) : w ≠ [] ∧ ∀ c ∈ w, p c = false := by
  obtain ⟨hmem, hne⟩ := List.mem_filter.1 h
  exact ⟨by simpa using hne, mem_splitWhere hmem⟩

/-- **With more separators** each field falls into fields of its own. -/
theorem fields_flatMap (hqp : ∀ c, q c = true → p c = true) (t : Text) :
    fields p t = (fields q t).flatMap (fields p) := by
  have hone : ∀ a : Text, (∀ c ∈ a, q c = false) → fields p a = (fields q a).flatMap (fields p) := by
    intro a ha
    by_cases hne : a = []
    · rw [hne]
      rfl
    · rw [fields_of_none hne ha, List.flatMap_singleton]
  induction t using cut_induction q with
  | last t ht => exact hone t ht
  | more a c b hc ha ih =>
    rw [fields_append a (hqp c hc), fields_append a hc, List.flatMap_append, ← ih, ← hone a ha]

/-- Fields that are joined by a separator are found again. -/
theorem fields_intercalate {c : Char} (hc : p c = true) {ws : List Text}
    (h : ∀ w ∈ ws, w ≠ [] ∧ ∀ d ∈ w, p d = false) : fields p (List.intercalate [c] ws) = ws := by
  induction ws with
  | nil => rfl
  | cons w ws ih =>
    obtain ⟨hw, hws⟩ := List.forall_mem_cons.1 h
    cases ws with
    | nil => rw [List.intercalate_singleton, fields_of_none hw.1 hw.2]
    | cons v vs =>
      rw [List.intercalate_cons_cons, List.append_assoc, List.singleton_append, fields_append w hc,
        fields_of_none hw.1 hw.2, ih hws, List.singleton_append]

end HtmlCanon
