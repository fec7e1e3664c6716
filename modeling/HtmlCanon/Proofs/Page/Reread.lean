import HtmlCanon.Proofs.Html.Reading
import HtmlCanon.Proofs.Page.Distinct

/-!
# Reading a layout

A layout of plain elements and texts that fit where they stand is read as what it shows: the builder
goes through the outline and comes to nodes with that outline.

* `ShowsAs` : plain nodes with an outline.
* `Outline.areReadable` : every element of an outline fits where it stands.
* `reads_forest` : **reading the layout of an outline** yields nodes that show as it.
-/

namespace HtmlCanon.Page

open Html

/-! ### Nodes while they are read -/

/-- Plain nodes, no two texts of which are neighbours, with an outline. -/
structure ShowsAs (ns : List Node) (os : List Outline) : Prop where
  apart : textsApart ns = true
  plain : arePlain ns = true
  outlines : outlines ns = os

theorem arePlain_append (ns ms : List Node) :
    arePlain (ns ++ ms) = (arePlain ns && arePlain ms) := by
  induction ns with
  | nil => rfl
  | cons n ns ih => simp [arePlain, ih, Bool.and_assoc]

/-- A node may follow others unless both it and the last of them are texts. -/
theorem textsApart_concat (ns : List Node) (n : Node) :
    textsApart (ns ++ [n]) = (textsApart ns && !(ns.getLast?.any Node.isText && n.isText)) := by
  match ns with
  | [] => simp [textsApart]
  | [m] => simp [textsApart]
  | m :: k :: ns =>
    have ih := textsApart_concat (k :: ns) n
    simp only [List.cons_append] at ih ⊢
    rw [textsApart, ih, textsApart, List.getLast?_cons_cons, Bool.and_assoc]

namespace ShowsAs

variable {ns ms : List Node} {os is : List Outline}

theorem nil : ShowsAs [] [] := ⟨rfl, rfl, rfl⟩

/-- One node more. -/
theorem concat (h : ShowsAs ns os) {n : Node} (hn : isPlain n = true)
    (ht : (ns.getLast?.any Node.isText && n.isText) = false) :
    ShowsAs (ns ++ [n]) (os ++ outline n) := by
  refine ⟨?_, ?_, ?_⟩
  · rw [textsApart_concat, h.apart, ht]
    rfl
  · rw [arePlain_append, h.plain]
    simp [arePlain, hn]
  · rw [outlines_append, h.outlines]
    simp [Page.outlines]

/-- **An element more.** -/
theorem element (h : ShowsAs ns os) (hm : ShowsAs ms is) {t : Tag} (ht : t.isPlain = true)
    (hv : t.name ∉ verbatimNames) (hw : t.name ∈ voidNames → ms = []) :
    ShowsAs (ns ++ [.element t [] ms]) (os ++ [.element t is]) := by
  have hn : isPlain (.element t [] ms) = true := by
    simp only [isPlain, ht, hm.apart, hm.plain, Bool.true_and, Bool.and_true, Bool.and_eq_true,
      Bool.not_eq_true', Bool.or_eq_true, List.contains_eq_mem, decide_eq_false_iff_not,
      List.isEmpty_iff]
    exact ⟨hv, or_iff_not_imp_left.2 fun h => hw (not_not.1 h)⟩
  have ho := h.concat hn (by simp [Node.isText])
  rwa [outline, if_neg hv, hm.outlines] at ho

/-- What characters at the end of nodes are added to. -/
theorem addText_cases (ns : List Node) (u : Text) :
    (addText ns u = ns ++ [.text u] ∧ ns.getLast?.any Node.isText = false) ∨
      ∃ ms w, ns = ms ++ [.text w] ∧ addText ns u = ms ++ [.text (w ++ u)] := by
  rcases List.eq_nil_or_concat ns with rfl | ⟨ms, n, rfl⟩
  · exact .inl ⟨rfl, rfl⟩
  · cases n with
    | text w => exact .inr ⟨ms, w, by simp, by simp [addText]⟩
    | _ => exact .inl ⟨by simp [addText], by simp [Node.isText]⟩

/-- All but the last node. -/
theorem dropLast {n : Node} (h : ShowsAs (ns ++ [n]) os) :
    ∃ us, ShowsAs ns us ∧ os = us ++ outline n ∧ (ns.getLast?.any Node.isText && n.isText) = false := by
  have ha := h.apart
  have hp := h.plain
  rw [textsApart_concat, Bool.and_eq_true, Bool.not_eq_true'] at ha
  rw [arePlain_append, Bool.and_eq_true] at hp
  refine ⟨Page.outlines ns, ⟨ha.1, hp.1, rfl⟩, ?_, ha.2⟩
  rw [← h.outlines, outlines_append]
  simp [Page.outlines]

/-- A text instead of the last one. -/
theorem replace {w v : Text} (h : ShowsAs (ns ++ [.text w]) os) :
    ∃ us, os = us ++ outline (.text w) ∧ ShowsAs (ns ++ [.text v]) (us ++ outline (.text v)) := by
  obtain ⟨us, hus, rfl, ht⟩ := h.dropLast
  exact ⟨us, rfl, hus.concat rfl ht⟩

/-- **Blanks do not show.** -/
theorem blank (h : ShowsAs ns os) {u : Text} (hu : isBlankText u = true) :
    ShowsAs (addText ns u) os := by
  rcases addText_cases ns u with ⟨he, ht⟩ | ⟨ms, w, rfl, he⟩
  · have ho := h.concat (n := .text u) rfl (by rw [ht]; rfl)
    rw [he]
    simpa [outline, hu] using ho
  · obtain ⟨us, rfl, ho⟩ := h.replace (v := w ++ u)
    have hsame : outline (.text (w ++ u)) = outline (.text w) := by
      simp only [outline, isBlankText_append, hu, Bool.and_true, textLines_append_right _ hu]
    rw [he, ← hsame]
    exact ho

/-- **Characters after something that is no text** show as a text. -/
theorem text (h : ShowsAs ns os) (hlast : os.getLast?.any Outline.isText = false) {u : Text}
    (hu : isBlankText u = false) : ShowsAs (addText ns u) (os ++ [.text (textLines u)]) := by
  have hout : ∀ {v}, isBlankText v = false → outline (.text v) = [.text (textLines v)] := by
    intro v hv
    simp [outline, hv]
  rcases addText_cases ns u with ⟨he, ht⟩ | ⟨ms, w, rfl, he⟩
  · rw [he, ← hout hu]
    exact h.concat rfl (by rw [ht]; rfl)
  · obtain ⟨us, rfl, ho⟩ := h.replace (v := w ++ u)
    have hw : isBlankText w = true := by
      by_contra hne
      rw [Bool.not_eq_true] at hne
      rw [hout hne] at hlast
      simp [Outline.isText] at hlast
    have hwu : isBlankText (w ++ u) = false := by simp [hu]
    rw [hout hwu, textLines_append_left hw] at ho
    rw [he]
    simpa [outline, hw] using ho

end ShowsAs

/-! ### Lines of a layout -/

theorem escapeText_append (u v : Text) : escapeText (u ++ v) = escapeText u ++ escapeText v :=
  List.flatMap_append

theorem escapeText_indent (depth : Nat) : escapeText (indent depth) = indent depth := by
  unfold indent
  generalize 2 * depth = n
  induction n with
  | zero => rfl
  | succ n ih =>
    rw [List.replicate_succ]
    exact congrArg (' ' :: ·) ih

theorem escapeText_joinLines (ls : List Text) :
    escapeText (joinLines ls) = joinLines (ls.map escapeText) := by
  induction ls with
  | nil => rfl
  | cons l ls ih =>
    cases ls with
    | nil => simp [joinLines, List.intercalate]
    | cons m ms =>
      rw [joinLines_cons l (List.cons_ne_nil m ms), escapeText_append, List.map_cons,
        joinLines_cons (escapeText l) (by simp), ← ih]
      rfl

theorem joinLines_append {ls ms : List Text} (hl : ls ≠ []) (hm : ms ≠ []) :
    joinLines (ls ++ ms) = joinLines ls ++ '\n' :: joinLines ms := by
  induction ls with
  | nil => exact absurd rfl hl
  | cons l ls ih =>
    cases ls with
    | nil => rw [List.singleton_append, joinLines_cons _ hm]; simp [joinLines, List.intercalate]
    | cons k ks =>
      rw [List.cons_append, joinLines_cons _ (by simp), joinLines_cons _ (List.cons_ne_nil k ks),
        ih (List.cons_ne_nil k ks), List.append_assoc, List.cons_append]

/-- Lines with a line feed after each. -/
theorem flatMap_newline {ls : List Text} (h : ls ≠ []) :
    ls.flatMap (· ++ ['\n']) = joinLines ls ++ ['\n'] := by
  induction ls with
  | nil => exact absurd rfl h
  | cons l ls ih =>
    cases ls with
    | nil => simp [joinLines, List.intercalate]
    | cons m ms =>
      rw [List.flatMap_cons, ih (List.cons_ne_nil m ms), joinLines_cons _ (List.cons_ne_nil m ms)]
      simp

theorem isBlankText_indent (depth : Nat) : isBlankText (indent depth) = true := by
  have hb : isBlank ' ' = true := by decide
  simp [isBlankText, indent, hb]

/-- The lines of a text, set in, before they are escaped. -/
def setIn (depth : Nat) (ls : List Text) : Text := joinLines (ls.map (indent depth ++ ·))

theorem setIn_cons (depth : Nat) (l : Text) (ls : List Text) :
    setIn depth (l :: ls) =
      indent depth ++ (l ++ if ls = [] then [] else '\n' :: setIn depth ls) := by
  cases ls with
  | nil => simp [setIn, joinLines, List.intercalate]
  | cons m ms =>
    unfold setIn
    rw [List.map_cons, joinLines_cons _ (by simp), List.append_assoc, if_neg (List.cons_ne_nil m ms)]

/-- **The lines of a text show when they are set in.** -/
theorem textLines_setIn (depth : Nat) {ls : List Text}
    (h : ∀ l ∈ ls, trim l = l ∧ l ≠ [] ∧ '\n' ∉ l) : textLines (setIn depth ls) = ls := by
  induction ls with
  | nil => rfl
  | cons l ls ih =>
    obtain ⟨ht, hne, hn⟩ := h l List.mem_cons_self
    have hl : textLines l = [l] := by
      rw [textLines_of_not_mem hn, if_neg, ht]
      rwa [← trim_eq_nil_iff, ht]
    rw [setIn_cons, textLines_append_left (isBlankText_indent depth)]
    by_cases hls : ls = []
    · rw [if_pos hls, List.append_nil, hl, hls]
    · rw [if_neg hls, textLines_newline, hl, ih fun m hm => h m (List.mem_cons_of_mem _ hm)]
      rfl

theorem all_setIn {p : Char → Bool} (hs : p ' ' = true) (hn : p '\n' = true) (depth : Nat)
    {ls : List Text} (h : ls.all (·.all p) = true) : (setIn depth ls).all p = true := by
  induction ls with
  | nil => rfl
  | cons l ls ih =>
    rw [List.all_cons, Bool.and_eq_true] at h
    have hi : (indent depth).all p = true := by simp [indent, hs]
    rw [setIn_cons, List.all_append, List.all_append, hi, h.1]
    by_cases hls : ls = []
    · simp [hls]
    · simp [hls, hn, ih h.2]

namespace Outline

/-- A text is laid out as its lines, set in and escaped. -/
theorem joinLines_text (isTop : Bool) (depth : Nat) (ls : List Text) :
    joinLines (lines isTop depth (text ls)) = escapeText (setIn depth ls) := by
  rw [setIn, escapeText_joinLines, List.map_map, lines]
  congr 1
  refine List.map_congr_left fun l _ => ?_
  rw [Function.comp, escapeText_append, escapeText_indent]

/-- What stands after the start tag of an element, but for the last line feed. -/
def body (depth : Nat) (t : Tag) (os : List Outline) : Text :=
  if t.name ∈ voidNames then []
  else match inline? os with
    | some l => escapeText l ++ closing t.name
    | none => '\n' :: (written false (depth + 1) os ++ (indent depth ++ closing t.name))

theorem joinLines_element (isTop : Bool) (depth : Nat) (t : Tag) (os : List Outline) :
    joinLines (lines isTop depth (element t os)) = indent depth ++ (opening t ++ body depth t os) := by
  unfold body
  by_cases hw : t.name ∈ voidNames
  · simp [lines, hw, joinLines, List.intercalate]
  · cases hi : inline? os with
    | some l => simp [lines, hw, hi, joinLines, List.intercalate]
    | none =>
      have hlines : lines isTop depth (element t os) =
          (indent depth ++ opening t) :: (linesOf false (depth + 1) os ++
            [indent depth ++ closing t.name]) := by simp [lines, hw, hi]
      rw [hlines, joinLines_cons _ (by simp)]
      by_cases hls : linesOf false (depth + 1) os = []
      · simp [hls, hw, written, joinLines, List.intercalate]
      · rw [joinLines_append hls (by simp), written, flatMap_newline hls]
        simp [hw, joinLines, List.intercalate]

/-- Plain outlines have lines. -/
theorem lines_ne_nil {o : Outline} (h : o.Plain) (isTop : Bool) (depth : Nat) :
    lines isTop depth o ≠ [] := by
  cases o with
  | text ls =>
    have hne : ls ≠ [] := h.1
    simpa [lines] using hne
  | element t os =>
    unfold lines
    split
    · simp
    · split <;> simp
  | comment t => exact h.elim
  | doctype d => exact h.elim
  | verbatim m => exact h.elim

theorem written_cons {o : Outline} (h : o.Plain) (isTop : Bool) (depth : Nat) (os : List Outline) :
    written isTop depth (o :: os) =
      joinLines (lines isTop depth o) ++ '\n' :: written isTop depth os := by
  rw [written, linesOf, List.flatMap_append, flatMap_newline (lines_ne_nil h isTop depth)]
  simp [written]

/-! ### Outlines that are read back -/

mutual

/-- Whether the lines of a text can be read, and whether an element fits below the open ones and so
does everything in it. -/
def isReadable (tags : List Tag) : Outline → Bool
  | text ls => ls.all (·.all HtmlCanon.isReadable)
  | element t os =>
    t.isFlow && t.isReadable && fits tags t.name && areReadable (t :: tags) os
  | _ => false

/-- Whether the same holds for siblings. -/
def areReadable (tags : List Tag) : List Outline → Bool
  | [] => true
  | o :: os => isReadable tags o && areReadable tags os

end

end Outline

/-! ### Reading an outline -/

open Outline

variable {b : Builder} {tags : List Tag} {fs : List Frame} {f : Frame} {us : List Outline}

/-- What may stand after an outline: nothing, or a line feed. -/
theorem endsText_newline {x : Text} (hx : ∀ c ∈ x.head?, c = '\n') (u : Text) : EndsText u x := by
  refine .inr fun c hc => ?_
  rw [hx c hc]
  decide

/-- **A text is read.** -/
theorem reads_textOutline (h : Ready b tags (f :: fs)) {ls : List Text} (ho : (text ls).Plain)
    (hr : (text ls).isReadable tags = true) (hs : ShowsAs f.done us)
    (hlast : us.getLast?.any isText = false) {depth : Nat} (hd : b.mode = .initial → depth = 0)
    (isTop : Bool) {x : Text} (hx : ∀ c ∈ x.head?, c = '\n') :
    ∃ b' done, Reads b (joinLines (Outline.lines isTop depth (text ls)) ++ x) b' x ∧
      InBody b' tags ({ f with done } :: fs) ∧ ShowsAs done (us ++ [text ls]) := by
  have hlines := textLines_setIn depth ho.2
  have hne : isBlankText (setIn depth ls) = false := by
    rw [← Bool.not_eq_true, ← textLines_eq_nil_iff, hlines]
    exact ho.1
  have hnil : setIn depth ls ≠ [] := by
    intro he
    rw [he] at hne
    cases hne
  have hall : (setIn depth ls).all HtmlCanon.isReadable = true :=
    all_setIn (by decide) (by decide) depth hr
  -- white space before the first text of a page would be dropped
  have hhead : b.mode = .initial → (setIn depth ls).head?.all (!isMarkupSpace ·) = true := by
    intro hm
    obtain ⟨l, ms, rfl⟩ := List.exists_cons_of_ne_nil ho.1
    obtain ⟨ht, hl, -⟩ := ho.2 l List.mem_cons_self
    obtain ⟨c, r, rfl⟩ := List.exists_cons_of_ne_nil hl
    have hb := isBlank_of_trim_cons ht
    have hspace : isMarkupSpace c = false := by
      by_contra hm
      rw [isBlank_of_isMarkupSpace (by simpa using hm)] at hb
      cases hb
    rw [setIn_cons, hd hm]
    simp [indent, hspace]
  obtain ⟨b', hb', hi'⟩ := h.reads_text hnil hall (endsText_newline hx _) hhead
  refine ⟨b', addText f.done (setIn depth ls), ?_, hi', ?_⟩
  · rw [joinLines_text]
    exact hb'
  · have := hs.text hlast hne
    rwa [hlines] at this

/-- Blanks are read as they are. -/
theorem reads_blank (h : InBody b tags (f :: fs)) {u : Text} (hu : u ≠ [])
    (hr : u.all HtmlCanon.isReadable = true) (hb : isBlankText u = true) (hs : ShowsAs f.done us)
    {x : Text} (hx : EndsText u x) :
    ∃ b' done, Reads b (escapeText u ++ x) b' x ∧ InBody b' tags ({ f with done } :: fs) ∧
      ShowsAs done us := by
  obtain ⟨b', hb', hi'⟩ := Ready.reads_text (.inl h) hu hr hx fun hm => absurd hm h.mode_ne
  exact ⟨b', addText f.done u, hb', hi', hs.blank hb⟩

theorem reads_newline (h : InBody b tags (f :: fs)) (hs : ShowsAs f.done us) (x : Text) :
    ∃ b' done, Reads b ('\n' :: x) b' x ∧ InBody b' tags ({ f with done } :: fs) ∧
      ShowsAs done us :=
  reads_blank h (u := ['\n']) (by simp) (by decide) (by decide) hs (.inl rfl)

/-- The white space before a tag. -/
theorem reads_indent (h : InBody b tags (f :: fs)) (hs : ShowsAs f.done us) (depth : Nat) {x : Text}
    (hx : x.head? = some '<') :
    ∃ b' done, Reads b (indent depth ++ x) b' x ∧ InBody b' tags ({ f with done } :: fs) ∧
      ShowsAs done us := by
  cases depth with
  | zero => exact ⟨b, f.done, Reads.refl _ _, h, hs⟩
  | succ n =>
    have hall : (indent (n + 1)).all HtmlCanon.isReadable = true := by
      have : HtmlCanon.isReadable ' ' = true := by decide
      simp [indent, this]
    have hend : EndsText (indent (n + 1)) x := by
      refine .inr fun c hc => ?_
      obtain rfl : '<' = c := by simpa [hx] using hc
      decide
    have hread := reads_blank h (by simp [indent]) hall (isBlankText_indent _) hs hend
    rwa [escapeText_indent] at hread

/-- What is in an element is read, whatever follows. -/
def ReadsInner (o : Outline) (tags : List Tag) (fs : List Frame) (depth : Nat) : Prop :=
  ∀ {t : Tag} {is : List Outline} {b : Builder} {f g : Frame} (x : Text), o = element t is →
    InBody b (t :: tags) (g :: f :: fs) → ShowsAs g.done [] →
      ∃ b' done, Reads b (written false (depth + 1) is ++ x) b' x ∧
        InBody b' (t :: tags) ({ g with done } :: f :: fs) ∧ ShowsAs done is

/-- **An element is read**, if what is in it is. -/
theorem reads_element (h : Ready b tags (f :: fs)) {t : Tag} {is : List Outline}
    (ho : (element t is).Plain) (hr : (element t is).isReadable tags = true)
    (inner : ReadsInner (element t is) tags fs depth)
    (hs : ShowsAs f.done us) (x : Text) :
    ∃ b' done, Reads b (opening t ++ (body depth t is ++ x)) b' x ∧
      InBody b' tags ({ f with done } :: fs) ∧ ShowsAs done (us ++ [element t is]) := by
  obtain ⟨hplain, hempty, hforest⟩ := ho
  simp only [Outline.isReadable, Bool.and_eq_true] at hr
  obtain ⟨⟨⟨hflow, hread⟩, hfit⟩, hinner⟩ := hr
  have hverb : t.name ∉ verbatimNames := by
    have hall : ∀ n ∈ verbatimNames, isFlowName n = false := by decide +kernel
    exact fun hm => InBody.ne_of_flow hflow (hall _ hm) rfl
  unfold body
  by_cases hv : t.name ∈ voidNames
  · obtain ⟨b', hb', hi'⟩ := h.reads_void hflow hread hfit hv x
    rw [if_pos hv, hempty hv]
    exact ⟨b', f.done ++ [Node.element t [] []], hb', hi',
      hs.element ShowsAs.nil hplain hverb fun _ => rfl⟩
  rw [if_neg hv]
  -- the end of the element, once what is in it has been read
  have hend : ∀ {c : Builder} {i : Nat} {ms : List Node}, InBody c (t :: tags) (⟨i, t, ms⟩ :: f :: fs) →
      ShowsAs ms is → ∃ b' done, Reads c (closing t.name ++ x) b' x ∧
        InBody b' tags ({ f with done } :: fs) ∧ ShowsAs done (us ++ [element t is]) := by
    intro c i ms hc hms
    obtain ⟨b', hb', hi'⟩ := hc.reads_closing hv x
    exact ⟨b', f.done ++ [Node.element t [] ms], hb', hi',
      hs.element hms hplain hverb fun hw => absurd hw hv⟩
  cases hi : inline? is with
  | some l =>
    obtain ⟨b₁, i, hb₁, hi₁⟩ := h.reads_opening hflow hread hfit hv (escapeText l ++ closing t.name ++ x)
    rcases eq_of_inline? hforest hi with ⟨rfl, rfl⟩ | ⟨htrim, hne, rfl⟩
    · obtain ⟨b₂, done, hb₂, hi₂, hs₂⟩ := hend hi₁ ShowsAs.nil
      exact ⟨b₂, done, hb₁.trans hb₂, hi₂, hs₂⟩
    · have hline := hforest.1.2 l List.mem_cons_self
      have hblank : isBlankText l = false := by
        rw [← Bool.not_eq_true, ← trim_eq_nil_iff, htrim]
        exact hne
      have hlines : textLines l = [l] := by
        rw [textLines_of_not_mem hline.2.2, hblank, htrim]
        rfl
      have hall : l.all HtmlCanon.isReadable = true := by
        simpa [areReadable, Outline.isReadable] using hinner
      have hclose : EndsText l (closing t.name ++ x) := by
        refine .inr fun c hc => ?_
        obtain rfl : '<' = c := by simpa [closing] using hc
        decide
      obtain ⟨b₂, hb₂, hi₂⟩ := Ready.reads_text (.inl hi₁) hne hall hclose fun hm => absurd hm hi₁.mode_ne
      have hs₂ := ShowsAs.nil.text rfl hblank
      rw [hlines] at hs₂
      obtain ⟨b₃, done, hb₃, hi₃, hs₃⟩ := hend hi₂ hs₂
      rw [List.append_assoc] at hb₁
      exact ⟨b₃, done, by simpa using hb₁.trans (hb₂.trans hb₃), hi₃, hs₃⟩
  | none =>
    obtain ⟨b₁, i, hb₁, hi₁⟩ := h.reads_opening hflow hread hfit hv
      ('\n' :: (written false (depth + 1) is ++ (indent depth ++ closing t.name)) ++ x)
    obtain ⟨b₂, d₂, hb₂, hi₂, hs₂⟩ := reads_newline hi₁ ShowsAs.nil
      (written false (depth + 1) is ++ (indent depth ++ (closing t.name ++ x)))
    obtain ⟨b₃, d₃, hb₃, hi₃, hs₃⟩ := inner (indent depth ++ (closing t.name ++ x)) rfl hi₂ hs₂
    obtain ⟨b₄, d₄, hb₄, hi₄, hs₄⟩ := reads_indent hi₃ hs₃ depth (x := closing t.name ++ x) rfl
    obtain ⟨b₅, done, hb₅, hi₅, hs₅⟩ := hend hi₄ hs₄
    refine ⟨b₅, done, ?_, hi₅, hs₅⟩
    simpa using hb₁.trans (by simpa using hb₂.trans (hb₃.trans (hb₄.trans hb₅)))

/-- **One outline is read**, if what is in it is. -/
theorem reads_outline (h : Ready b tags (f :: fs)) {o : Outline} (ho : o.Plain)
    (hr : o.isReadable tags = true) {depth : Nat}
    (inner : ReadsInner o tags fs depth)
    (hs : ShowsAs f.done us) (hlast : o.isText = true → us.getLast?.any isText = false)
    (hd : b.mode = .initial → depth = 0) (isTop : Bool) {x : Text} (hx : ∀ c ∈ x.head?, c = '\n') :
    ∃ b' done, Reads b (joinLines (Outline.lines isTop depth o) ++ x) b' x ∧
      InBody b' tags ({ f with done } :: fs) ∧ ShowsAs done (us ++ [o]) := by
  cases o with
  | text ls => exact reads_textOutline h ho hr hs (hlast rfl) hd isTop hx
  | element t is =>
    rw [joinLines_element, List.append_assoc, List.append_assoc]
    rcases h with h | ⟨rfl, rfl, hfs⟩
    · obtain ⟨b₁, d₁, hb₁, hi₁, hs₁⟩ :=
        reads_indent h hs depth (x := opening t ++ (body depth t is ++ x)) rfl
      obtain ⟨b₂, done, hb₂, hi₂, hs₂⟩ := reads_element (.inl hi₁) ho hr inner hs₁ x
      exact ⟨b₂, done, hb₁.trans hb₂, hi₂, hs₂⟩
    · -- the first element of the page is not set in
      obtain rfl := hd rfl
      exact reads_element (.inr ⟨rfl, rfl, hfs⟩) ho hr inner hs x
  | comment t => exact ho.elim
  | doctype d => exact ho.elim
  | verbatim m => exact ho.elim

/-- A text does not follow a text. -/
theorem getLast?_isText {o : Outline} {os : List Outline} (us : List Outline)
    (h : o.isText = true → os.head?.any isText = false) (hn : os.head?.any isText = true) :
    (us ++ [o]).getLast?.any isText = false := by
  cases ho : o.isText with
  | true =>
    rw [h ho] at hn
    cases hn
  | false => simp [ho]

/-- **The layout of siblings is read.** -/
theorem reads_forest {b : Builder} {tags : List Tag} {f : Frame} {fs : List Frame}
    {us os : List Outline} (h : InBody b tags (f :: fs)) (ho : PlainForest os)
    (hr : areReadable tags os = true) (hs : ShowsAs f.done us)
    (hlast : os.head?.any isText = true → us.getLast?.any isText = false) (isTop : Bool)
    (depth : Nat) (x : Text) :
    ∃ b' done, Reads b (written isTop depth os ++ x) b' x ∧
      InBody b' tags ({ f with done } :: fs) ∧ ShowsAs done (us ++ os) := by
  match os with
  | [] => exact ⟨b, f.done, Reads.refl _ _, h, by simpa using hs⟩
  | o :: os =>
    obtain ⟨hplain, hnext, hrest⟩ := ho
    simp only [areReadable, Bool.and_eq_true] at hr
    -- the induction is on the siblings and on what is in them
    have inner : ReadsInner o tags fs depth := by
      rintro t is b f g x rfl hc hg
      simp only [Outline.isReadable, Bool.and_eq_true] at hr
      exact reads_forest hc hplain.2.2 hr.1.2 hg (fun _ => rfl) false (depth + 1) x
    obtain ⟨b₁, d₁, hb₁, hi₁, hs₁⟩ := reads_outline (.inl h) hplain hr.1 inner hs (fun ht => hlast ht)
      (fun hm => absurd hm h.mode_ne) isTop (x := '\n' :: (written isTop depth os ++ x)) (by simp)
    obtain ⟨b₂, d₂, hb₂, hi₂, hs₂⟩ := reads_newline hi₁ hs₁ (written isTop depth os ++ x)
    obtain ⟨b₃, done, hb₃, hi₃, hs₃⟩ := reads_forest hi₂ hrest hr.2 hs₂ (getLast?_isText us hnext)
      isTop depth x
    refine ⟨b₃, done, ?_, hi₃, by simpa using hs₃⟩
    rw [written_cons hplain, List.append_assoc]
    exact hb₁.trans (hb₂.trans hb₃)
termination_by sizeOf os

theorem readsInner {o : Outline} {tags : List Tag} (ho : o.Plain) (hr : o.isReadable tags = true)
    (fs : List Frame) (depth : Nat) : ReadsInner o tags fs depth := by
  rintro t is b f g x rfl hc hg
  simp only [Outline.isReadable, Bool.and_eq_true] at hr
  exact reads_forest hc ho.2.2 hr.2 hg (fun _ => rfl) false (depth + 1) x

/-- **The lines of a page are read**, the last of which has no line feed after it. -/
theorem reads_lines (h : Ready b [] (f :: fs)) {os : List Outline} (ho : PlainForest os)
    (hr : areReadable [] os = true) (hs : ShowsAs f.done us)
    (hlast : os.head?.any isText = true → us.getLast?.any isText = false) :
    ∃ b' done, Reads b (joinLines (linesOf true 0 os)) b' [] ∧ Ready b' [] ({ f with done } :: fs) ∧
      ShowsAs done (us ++ os) := by
  induction os generalizing b f us with
  | nil => exact ⟨b, f.done, Reads.refl _ _, h, by simpa using hs⟩
  | cons o os ih =>
    obtain ⟨hplain, hnext, hrest⟩ := ho
    simp only [areReadable, Bool.and_eq_true] at hr
    have hfirst := fun {x : Text} => reads_outline h hplain hr.1 (readsInner hplain hr.1 fs 0) hs
      (fun ht => hlast ht) (fun _ => rfl) true (x := x)
    by_cases hne : os = []
    · obtain ⟨b₁, done, hb₁, hi₁, hs₁⟩ := hfirst (x := []) (by simp)
      rw [hne]
      refine ⟨b₁, done, ?_, .inl hi₁, hs₁⟩
      simpa [linesOf] using hb₁
    · have hlines : linesOf true 0 os ≠ [] := by
        obtain ⟨p, ps, rfl⟩ := List.exists_cons_of_ne_nil hne
        simp [linesOf, lines_ne_nil hrest.1]
      obtain ⟨b₁, d₁, hb₁, hi₁, hs₁⟩ := hfirst (x := '\n' :: joinLines (linesOf true 0 os)) (by simp)
      obtain ⟨b₂, d₂, hb₂, hi₂, hs₂⟩ := reads_newline hi₁ hs₁ (joinLines (linesOf true 0 os))
      -- only the first outline may be what makes the body
      obtain ⟨b₃, done, hb₃, hi₃, hs₃⟩ := ih (.inl hi₂) hrest hr.2 hs₂ (getLast?_isText us hnext)
      refine ⟨b₃, done, ?_, hi₃, by simpa using hs₃⟩
      rw [linesOf, joinLines_append (lines_ne_nil hplain true 0) hlines]
      exact hb₁.trans (hb₂.trans hb₃)

end HtmlCanon.Page
