import HtmlCanon.Proofs.Html.Accept
import HtmlCanon.Proofs.Text

/-!
# Reading the pieces of a page

What the builder makes of the pieces that a page in canonical form consists of.

* `Reads` : reading a page comes by a builder and the rest of the text.
* `Ready.reads_text` : **an escaped text goes to the end of the innermost element**.
* `Ready.reads_opening`, `Ready.reads_void`, `InBody.reads_closing` : tags.
-/

namespace HtmlCanon.Html

open Build Builder Insertion
open Page (textChar valueChar escapeText opening closing)

/-- Reading `s` from `b` on is reading `s'` from `b'` on. -/
def Reads (b : Builder) (s : Text) (b' : Builder) (s' : Text) : Prop :=
  ∀ name, ∃ name', b.readAll name s = b'.readAll name' s'

theorem Reads.refl (b : Builder) (s : Text) : Reads b s b s := fun name => ⟨name, rfl⟩

theorem Reads.trans {b₁ b₂ b₃ : Builder} {s₁ s₂ s₃ : Text} (h : Reads b₁ s₁ b₂ s₂)
    (h' : Reads b₂ s₂ b₃ s₃) : Reads b₁ s₁ b₃ s₃ := by
  intro name
  obtain ⟨n₂, h₂⟩ := h name
  obtain ⟨n₃, h₃⟩ := h' n₂
  exact ⟨n₃, h₂.trans h₃⟩

/-- **One lexeme** and the tokens in it. -/
theorem reads_lexeme {b b' : Builder} {s s' : Text} {ts : List Token} (hm : b.reading = .markup)
    (hs : s ≠ []) (hl : ∀ cdata, Lexeme.markup cdata s = ⟨ts, s'⟩)
    (hb : (acceptAll ts).run b = ((), b')) : Reads b s b' s' := by
  intro name
  obtain ⟨c, r, rfl⟩ := List.exists_cons_of_ne_nil hs
  have hnext : Lexeme.next b.reading name b.allowsData (c :: r) = ⟨ts, s'⟩ := by
    rw [hm]
    exact hl _
  refine ⟨lastStart name ts, ?_⟩
  rw [readAll, hnext, hb]

/-- A lexeme of one token. -/
theorem reads_token {b b' : Builder} {s s' : Text} {tok : Token} (hm : b.reading = .markup)
    (hs : s ≠ []) (hl : ∀ cdata, Lexeme.markup cdata s = ⟨[tok], s'⟩)
    (hb : (accept tok).run b = ((), b')) : Reads b s b' s' :=
  reads_lexeme hm hs hl (run_seq hb)

variable {b : Builder} {tags : List Tag} {fs : List Frame} {f g : Frame} {t : Tag}

/-! ### Tags -/

theorem Ready.reads_opening (h : Ready b tags (f :: fs)) (hf : t.isFlow = true)
    (hr : t.isReadable = true) (hfit : fits tags t.name = true) (hv : t.name ∉ Page.voidNames)
    (x : Text) :
    ∃ b' i, Reads b (opening t ++ x) b' x ∧ InBody b' (t :: tags) (⟨i, t, []⟩ :: f :: fs) := by
  obtain ⟨b', i, hb, hi⟩ := h.accept_start hf hr hfit hv
  exact ⟨b', i, reads_token h.reading (by simp [opening])
    (fun cdata => Lexeme.markup_opening hr cdata x) hb, hi⟩

theorem Ready.reads_void (h : Ready b tags (f :: fs)) (hf : t.isFlow = true)
    (hr : t.isReadable = true) (hfit : fits tags t.name = true) (hv : t.name ∈ Page.voidNames)
    (x : Text) :
    ∃ b', Reads b (opening t ++ x) b' x ∧ InBody b' tags (f.add (.element t [] []) :: fs) := by
  obtain ⟨b', hb, hi⟩ := h.accept_void hf hr hfit hv
  exact ⟨b', reads_token h.reading (by simp [opening])
    (fun cdata => Lexeme.markup_opening hr cdata x) hb, hi⟩

theorem InBody.reads_closing (h : InBody b (t :: tags) (f :: g :: fs)) (hv : t.name ∉ Page.voidNames)
    (x : Text) :
    ∃ b', Reads b (closing t.name ++ x) b' x ∧ InBody b' tags (g.add f.node :: fs) := by
  obtain ⟨b', hb, hi⟩ := h.accept_stop hv
  have hname := (h.flow t List.mem_cons_self).2
  exact ⟨b', reads_token h.reading (by simp [closing])
    (fun cdata => Lexeme.markup_closing (t.isReadable_name hname) cdata x) hb, hi⟩

/-! ### Texts -/

/-- What may follow an escaped text: the text ends in a line feed, or what follows is no ordinary
character. -/
def EndsText (u x : Text) : Prop :=
  u.getLast? = some '\n' ∨ ∀ c ∈ x.head?, c ≠ '\r' ∧ Lexeme.isOrdinary c = false

theorem EndsText.of_append {u v x : Text} (h : EndsText (u ++ v) x) (hv : v ≠ []) : EndsText v x := by
  obtain ⟨c, w, rfl⟩ := List.exists_cons_of_ne_nil hv
  refine h.imp_left fun hl => ?_
  rwa [List.getLast?_append_of_ne_nil _ (List.cons_ne_nil c w)] at hl

/-- Nothing but a line feed at its end lets an ordinary character follow a text. -/
theorem EndsText.head {u x : Text} (h : EndsText u x) {c : Char} (hc : u.getLast? = some c)
    (hn : c ≠ '\n') : ∀ d ∈ x.head?, d ≠ '\r' ∧ Lexeme.isOrdinary d = false := by
  refine h.resolve_left fun hl => hn ?_
  rw [hc] at hl
  exact Option.some.inj hl

/-- A character that is written as it is and read in one run with others. -/
def isRunChar (c : Char) : Bool := Lexeme.isOrdinary c && c != '>'

/-- A character of a run is written as it is. -/
theorem textChar_run {c : Char} (h : isRunChar c = true) : textChar c = [c] := by
  simp only [isRunChar, Lexeme.isOrdinary, Bool.and_eq_true, bne_iff_ne] at h
  obtain ⟨⟨⟨⟨⟨hlt, hamp⟩, -⟩, -⟩, -⟩, hgt⟩ := h
  obtain ⟨d, r, hd, rfl | ⟨rfl, rfl, -⟩⟩ := Page.textChar_head c
  · unfold textChar at hd
    split at hd
    · exact absurd rfl hamp
    · exact absurd rfl hlt
    · exact absurd rfl hgt
    · exact absurd (List.cons.inj hd).1 hamp
  · exact hd

theorem escapeText_run {u : Text} (h : u.all isRunChar = true) : escapeText u = u := by
  induction u with
  | nil => rfl
  | cons c u ih =>
    rw [List.all_cons, Bool.and_eq_true] at h
    have hrest : u.flatMap textChar = u := ih h.2
    rw [escapeText, List.flatMap_cons, textChar_run h.1, hrest]
    rfl

/-- A character that stands in no run is a line feed or escaped. -/
theorem textChar_not_run {c : Char} (hc : isRunChar c = false) (hr : isReadable c = true) :
    c = '\n' ∨ ∃ p, textChar c = '&' :: p ∧ valueChar c = '&' :: p := by
  by_cases hn : c = '\n'
  · exact .inl hn
  right
  have hcr : c ≠ '\r' := char_ne hr (by decide)
  have hnull : c ≠ '\x00' := char_ne hr (by decide)
  have hesc : c = '<' ∨ c = '&' ∨ c = '>' := by
    simp only [isRunChar, Lexeme.isOrdinary, Bool.and_eq_false_iff, bne_eq_false_iff_eq] at hc
    tauto
  rcases hesc with rfl | rfl | rfl <;> exact ⟨_, rfl, rfl⟩

/-- Where a run of an escaped text ends, no ordinary character stands. -/
theorem head_escapeText {c : Char} (hc : isRunChar c = false) (hr : isReadable c = true)
    (u x : Text) : ∀ d ∈ (escapeText (c :: u) ++ x).head?, Lexeme.isOrdinary d = false := by
  rw [escapeText, List.flatMap_cons]
  rcases textChar_not_run hc hr with rfl | ⟨p, hp, -⟩
  · rintro d ⟨⟩
    decide
  · rw [hp]
    rintro d ⟨⟩
    decide

theorem head_ne_return {u x : Text} (hr : u.all isReadable = true)
    (hx : u = [] → x.head? ≠ some '\r') : (escapeText u ++ x).head? ≠ some '\r' := by
  cases u with
  | nil => exact hx rfl
  | cons c u =>
    rw [List.all_cons, Bool.and_eq_true] at hr
    obtain ⟨d, r, hd, rfl | ⟨rfl, -⟩⟩ := Page.textChar_head c
    · simp [escapeText, hd]
    · have hcr : d ≠ '\r' := char_ne hr.1 (by decide)
      simp [escapeText, hd, hcr]

/-- After all of a run stands no ordinary character. -/
theorem EndsText.head_dropWhile {u x : Text} (h : EndsText u x) (hu : u ≠ [])
    (hr : u.all isReadable = true) :
    ∀ d ∈ (escapeText (u.dropWhile isRunChar) ++ x).head?, Lexeme.isOrdinary d = false := by
  cases hv : u.dropWhile isRunChar with
  | nil =>
    have hlast := List.getLast?_eq_some_getLast hu
    have hrun : isRunChar (u.getLast hu) = true :=
      List.dropWhile_eq_nil_iff.1 hv _ (List.getLast_mem hu)
    have hx := h.head hlast fun hn => absurd (hn ▸ hrun) (by decide)
    exact fun d hd => (hx d hd).2
  | cons d v =>
    have hmem : d ∈ u := (List.dropWhile_sublist isRunChar).mem (hv ▸ List.mem_cons_self)
    have hnot := List.head?_dropWhile_not isRunChar u
    rw [hv] at hnot
    exact head_escapeText (by simpa using hnot) (List.all_eq_true.1 hr d hmem) v x

/-- **The first lexeme of an escaped text** consists of texts, which are what stands first in it. -/
theorem markup_text {u x : Text} (hu : u ≠ []) (hr : u.all isReadable = true) (hx : EndsText u x) :
    ∃ ts v, ts ≠ [] ∧ (∀ w ∈ ts, w ≠ []) ∧ u = ts.flatten ++ v ∧ ∀ cdata,
      Lexeme.markup cdata (escapeText u ++ x) = ⟨ts.map Token.text, escapeText v ++ x⟩ := by
  have hend := hx.head_dropWhile hu hr
  obtain ⟨c, r, rfl⟩ := List.exists_cons_of_ne_nil hu
  rw [List.all_cons, Bool.and_eq_true] at hr
  cases hc : isRunChar c with
  | true =>
    -- all characters of the run
    set v := (c :: r).dropWhile isRunChar with hv
    have hsplit : (c :: r).takeWhile isRunChar ++ v = c :: r := List.takeWhile_append_dropWhile
    have hrun : ((c :: r).takeWhile isRunChar).all isRunChar = true := List.all_takeWhile
    have hord : ((c :: r).takeWhile isRunChar).all Lexeme.isOrdinary = true := by
      refine List.all_eq_true.2 fun d hd => ?_
      have := List.all_eq_true.1 hrun d hd
      simp only [isRunChar, Bool.and_eq_true] at this
      exact this.1
    have hne : (c :: r).takeWhile isRunChar ≠ [] := by
      rw [List.takeWhile_cons_of_pos hc]
      exact List.cons_ne_nil _ _
    refine ⟨[(c :: r).takeWhile isRunChar], v, by simp, by simpa using hne, by simp [hsplit], ?_⟩
    intro cdata
    have htext : escapeText (c :: r) ++ x = (c :: r).takeWhile isRunChar ++ (escapeText v ++ x) := by
      conv_lhs => rw [← hsplit]
      rw [escapeText, List.flatMap_append, List.append_assoc]
      exact congrArg (· ++ _) (escapeText_run hrun)
    rw [htext, Lexeme.markup_run hne hord hend]
    rfl
  | false =>
    rcases textChar_not_run hc hr.1 with rfl | ⟨p, hp, hq⟩
    · exact ⟨[['\n']], r, by simp, by simp, rfl, fun cdata => rfl⟩
    have htext : escapeText (c :: r) ++ x = '&' :: (p ++ (escapeText r ++ x)) := by
      simp [escapeText, hp]
    have hne : c ≠ '\n' := by rintro rfl; cases hp
    have hcr : (escapeText r ++ x).head? ≠ some '\r' := by
      refine head_ne_return hr.2 ?_
      rintro rfl he
      exact (hx.head rfl hne _ he).1 rfl
    rw [htext]
    cases hy : escapeText r ++ x with
    | nil =>
      refine ⟨[[c]], r, by simp, by simp, rfl, fun cdata => ?_⟩
      rw [Lexeme.markup_escaped hq cdata (by simp) (by simp), hy]
      rfl
    | cons d y =>
      rw [hy] at hcr
      cases hd : Lexeme.isOrdinary d with
      | false =>
        refine ⟨[[c]], r, by simp, by simp, rfl, fun cdata => ?_⟩
        rw [Lexeme.markup_escaped hq cdata hcr (by simpa using hd), hy]
        rfl
      | true =>
        -- the character after a reference is read with it
        obtain ⟨v, rfl, rfl⟩ : ∃ v, r = d :: v ∧ y = escapeText v ++ x := by
          cases r with
          | nil =>
            rw [show escapeText [] ++ x = x from rfl] at hy
            have := (hx.head rfl hne d (by rw [hy]; rfl)).2
            rw [hd] at this
            cases this
          | cons e v =>
            rw [List.all_cons, Bool.and_eq_true] at hr
            cases he : isRunChar e with
            | true =>
              rw [escapeText, List.flatMap_cons, textChar_run he] at hy
              obtain ⟨rfl, hrest⟩ := List.cons.inj hy
              exact ⟨v, rfl, hrest.symm⟩
            | false =>
              have := head_escapeText he hr.2.1 v x d (by rw [hy]; rfl)
              rw [hd] at this
              cases this
        refine ⟨[[c], [d]], v, by simp, by simp, rfl, fun cdata => ?_⟩
        exact Lexeme.markup_escaped_ordinary hq cdata hd _

theorem InBody.mode_ne (h : InBody b tags fs) : b.mode ≠ .initial := by
  rw [h.mode]
  decide

/-- Texts go to the end of the innermost element one after the other. -/
theorem Ready.acceptAll_texts (h : Ready b tags (f :: fs)) {ts : List Text} (hne : ts ≠ [])
    (hts : ∀ w ∈ ts, w ≠ [])
    (hs : b.mode = .initial → ts.flatten.head?.all (!isMarkupSpace ·) = true) :
    ∃ b', (acceptAll (ts.map Token.text)).run b = ((), b') ∧
      InBody b' tags (f.write ts.flatten :: fs) := by
  induction ts generalizing b f with
  | nil => exact absurd rfl hne
  | cons w ws ih =>
    have hw : w ≠ [] := hts w List.mem_cons_self
    have hhead : (w :: ws).flatten.head? = w.head? := by
      obtain ⟨c, r, rfl⟩ := List.exists_cons_of_ne_nil hw
      rfl
    rw [hhead] at hs
    obtain ⟨b₁, hb₁, hi₁⟩ := h.accept_text hw hs
    cases ws with
    | nil => exact ⟨b₁, run_seq hb₁, by simpa using hi₁⟩
    | cons v vs =>
      obtain ⟨b₂, hb₂, hi₂⟩ := ih (.inl hi₁) (List.cons_ne_nil v vs)
        (fun u hu => hts u (List.mem_cons_of_mem _ hu)) fun hm => absurd hm hi₁.mode_ne
      rw [Frame.write_write] at hi₂
      exact ⟨b₂, (run_seq hb₁).trans hb₂, hi₂⟩

/-- **An escaped text goes to the end of the innermost element.** The first one on a page must not
begin with white space. -/
theorem Ready.reads_text {b : Builder} {f : Frame} (h : Ready b tags (f :: fs)) {u x : Text}
    (hu : u ≠ []) (hr : u.all isReadable = true) (hx : EndsText u x)
    (hs : b.mode = .initial → u.head?.all (!isMarkupSpace ·) = true) :
    ∃ b', Reads b (escapeText u ++ x) b' x ∧ InBody b' tags (f.write u :: fs) := by
  obtain ⟨ts, v, hne, hts, hsplit, hl⟩ := markup_text hu hr hx
  obtain ⟨w, ws, rfl⟩ := List.exists_cons_of_ne_nil hne
  have hlen : 0 < (w :: ws).flatten.length := by
    have := List.length_pos_iff.2 (hts w List.mem_cons_self)
    rw [List.flatten_cons, List.length_append]
    omega
  have hhead : (w :: ws).flatten.head? = u.head? := by
    obtain ⟨c, r, hc⟩ := List.exists_cons_of_ne_nil (List.length_pos_iff.1 hlen)
    rw [hsplit, hc]
    rfl
  have hne' : escapeText u ++ x ≠ [] := by
    intro he
    obtain ⟨c, r, rfl⟩ := List.exists_cons_of_ne_nil hu
    obtain ⟨d, q, hd, -⟩ := Page.textChar_head c
    rw [escapeText, List.flatMap_cons, hd] at he
    cases he
  obtain ⟨b₁, hb₁, hi₁⟩ := h.acceptAll_texts hne hts (by rwa [hhead])
  have hfirst : Reads b (escapeText u ++ x) b₁ (escapeText v ++ x) :=
    reads_lexeme h.reading hne' hl hb₁
  by_cases hv : v = []
  · rw [hv, List.append_nil] at hsplit
    rw [hv] at hfirst
    rw [← hsplit] at hi₁
    exact ⟨b₁, hfirst, hi₁⟩
  · -- the rest of the text is shorter, and read the same way
    have hlt : v.length < u.length := by
      rw [hsplit, List.length_append]
      omega
    have hr' : v.all isReadable = true := by
      rw [hsplit, List.all_append, Bool.and_eq_true] at hr
      exact hr.2
    obtain ⟨b₂, hb₂, hi₂⟩ := Ready.reads_text (.inl hi₁) hv hr' ((hsplit ▸ hx).of_append hv)
      fun hm => absurd hm hi₁.mode_ne
    rw [Frame.write_write, ← hsplit] at hi₂
    exact ⟨b₂, hfirst.trans hb₂, hi₂⟩
termination_by u.length

end HtmlCanon.Html
