import HtmlCanon.Html.Lexeme

/-!
# Every lexeme takes something

* `Lexeme.next_length` : what is left of a text after its next lexeme is shorter than the text.
-/

namespace HtmlCanon.Html

namespace Lexeme

theorem commentEnd_length {s a b : Text} (h : commentEnd s = some (a, b)) :
    b.length ≤ s.length := by
  fun_induction commentEnd s generalizing a b with
  | case1 r => simp at h; simp only [List.length_cons, h.2]; omega
  | case2 r => simp at h; simp only [List.length_cons, h.2]; omega
  | case3 c r _ _ ih =>
    obtain ⟨⟨_, _⟩, h1, h2⟩ := Option.map_eq_some_iff.1 h
    simp only [Prod.mk.injEq] at h2
    have := ih h1
    simp only [List.length_cons, ← h2.2]; omega
  | case4 => simp at h

theorem comment_length (s : Text) : (comment s).rest.length ≤ s.length := by
  unfold comment
  split
  · simp
  · simp only [List.length_cons]; omega
  · split
    · exact commentEnd_length (by assumption)
    · simp

theorem bogusComment_length (s : Text) : (bogusComment s).rest.length ≤ s.length := by
  have := dropWhile_length_le (· != '>') s
  simp only [bogusComment, List.length_drop]; omega

theorem bogusDoctype_length (d : DoctypeToken) (s : Text) :
    (bogusDoctype d s).rest.length ≤ s.length := by
  have := dropWhile_length_le (· != '>') s
  simp only [bogusDoctype, List.length_drop]; omega

theorem identifier_length (q : Char) (s : Text) : (identifier q s).2.2.length ≤ s.length := by
  have := dropWhile_length_le (fun c => c != q && c != '>') s
  unfold identifier
  split
  · rename_i h; rw [h] at this; simp only [List.length_cons] at this ⊢; omega
  · simp

theorem bogusDoctypeOrEnd_length (d : DoctypeToken) (s : Text) :
    (afterPublicId.bogusDoctypeOrEnd d s).rest.length ≤ s.length := by
  have := dropWhile_length_le isMarkupSpace s
  unfold afterPublicId.bogusDoctypeOrEnd
  split
  · simp
  · exact Nat.le_trans (bogusDoctype_length _ _) this

theorem afterPublicId_length (d : DoctypeToken) (s : Text) :
    (afterPublicId d s).rest.length ≤ s.length := by
  have h1 := dropWhile_length_le isMarkupSpace s
  unfold afterPublicId
  split
  · simp
  · rename_i h; rw [h] at h1; simp only [List.length_cons] at h1 ⊢; omega
  · rename_i c r _ h
    rw [h] at h1
    simp only [List.length_cons] at h1
    have h2 := identifier_length c r
    split
    · split
      · rename_i h3; rw [h3] at h2
        exact Nat.le_trans (bogusDoctypeOrEnd_length _ _) (by simp only at h2; omega)
      · rename_i h3; rw [h3] at h2; simp only at h2 ⊢; omega
    · exact Nat.le_trans (bogusDoctype_length _ _) (by simp only [List.length_cons]; omega)

theorem afterKeyword_length (b : Bool) (d : DoctypeToken) (s : Text) :
    (afterKeyword b d s).rest.length ≤ s.length := by
  have h1 := dropWhile_length_le isMarkupSpace s
  unfold afterKeyword
  split
  · simp
  · rename_i h; rw [h] at h1; simp only [List.length_cons] at h1 ⊢; omega
  · rename_i c r _ h
    rw [h] at h1
    simp only [List.length_cons] at h1
    have h2 := identifier_length c r
    split
    · split
      · rename_i h3; rw [h3] at h2
        exact Nat.le_trans (afterPublicId_length _ _) (by simp only at h2; omega)
      · rename_i h3; rw [h3] at h2; simp only at h2 ⊢; omega
      · rename_i h3; rw [h3] at h2
        exact Nat.le_trans (bogusDoctypeOrEnd_length _ _) (by simp only at h2; omega)
      · rename_i h3; rw [h3] at h2; simp only at h2 ⊢; omega
    · exact Nat.le_trans (bogusDoctype_length _ _) (by simp only [List.length_cons]; omega)

theorem afterDoctypeName_length (d : DoctypeToken) (s : Text) :
    (afterDoctypeName d s).rest.length ≤ s.length := by
  have h1 := dropWhile_length_le isMarkupSpace s
  unfold afterDoctypeName
  split
  · simp
  · rename_i h; rw [h] at h1; simp only [List.length_cons] at h1 ⊢; omega
  · split
    · rename_i h; exact Nat.le_trans (afterKeyword_length _ _ _)
        (Nat.le_trans (afterNoCase?_length h) h1)
    · rename_i h; exact Nat.le_trans (afterKeyword_length _ _ _)
        (Nat.le_trans (afterNoCase?_length h) h1)
    · exact Nat.le_trans (bogusDoctype_length _ _) h1

theorem doctype_length (s : Text) : (doctype s).rest.length ≤ s.length := by
  have h1 := dropWhile_length_le isMarkupSpace s
  unfold doctype
  split
  · simp
  · rename_i h; rw [h] at h1; simp only [List.length_cons] at h1 ⊢; omega
  · exact Nat.le_trans (afterDoctypeName_length _ _) (Nat.le_trans (dropWhile_length_le _ _) h1)

theorem characterData_length (s : Text) : (characterData s).rest.length ≤ s.length := by
  unfold characterData
  split
  · exact splitAt?_length (by assumption)
  · simp

theorem tag_length (b : Bool) (s : Text) : (tag b s).rest.length ≤ s.length := by
  unfold tag
  dsimp only
  split
  · simp
  · rename_i h
    have := Token.attributes_length _ _ h
    have := dropWhile_length_le inTagName s
    simp only; omega

theorem declaration_length (cdata : Bool) (s : Text) :
    (declaration cdata s).rest.length ≤ s.length := by
  unfold declaration
  split
  · rename_i h; exact Nat.le_trans (comment_length _) (after?_length h)
  · split
    · rename_i h; exact Nat.le_trans (doctype_length _) (afterNoCase?_length h)
    · split
      · rename_i h
        split at h
        · exact Nat.le_trans (characterData_length _) (after?_length h)
        · simp at h
      · exact bogusComment_length _

theorem angle_length (cdata : Bool) (s : Text) : (angle cdata s).rest.length ≤ s.length := by
  unfold angle
  split
  · exact Nat.le_trans (declaration_length _ _) (by simp)
  · exact bogusComment_length _
  · simp only [List.length_cons]; omega
  · split
    · exact Nat.le_trans (tag_length _ _) (by simp)
    · exact Nat.le_trans (bogusComment_length _) (by simp)
  · simp
  · split
    · exact tag_length _ _
    · simp
  · simp

theorem reference_length (s : Text) : (reference s).rest.length ≤ s.length := by
  have := Reference.read_left_le false s
  unfold reference
  dsimp only
  split
  · exact this
  · simp only [Reference.left, List.length_append] at this ⊢; omega

theorem run_length {p : Char → Bool} {c : Char} (r : Text) (h : p c) :
    (run p (c :: r)).rest.length < (c :: r).length := by
  have := dropWhile_length_le p r
  simp only [run, List.dropWhile_cons, h, if_true, List.length_cons]; omega

theorem markup_length (cdata : Bool) (c : Char) (r : Text) :
    (markup cdata (c :: r)).rest.length < (c :: r).length := by
  unfold markup
  split
  · simp_all
  · rename_i h; cases h
    exact Nat.lt_of_le_of_lt (angle_length _ _) (by simp)
  · rename_i h; cases h
    exact Nat.lt_of_le_of_lt (reference_length _) (by simp)
  · rename_i h; cases h; simp
  · rename_i h; cases h; simp
  · rename_i h; cases h
    exact Nat.lt_of_le_of_lt (Token.dropNewline_length _) (by simp)
  · rename_i _ h1 h2 h3 h4 h5
    refine run_length r ?_
    simp only [isOrdinary, Bool.and_eq_true, bne_iff_ne, ne_eq]
    exact ⟨⟨⟨⟨fun h => h1 r (by rw [h]), fun h => h2 r (by rw [h])⟩, fun h => h3 r (by rw [h])⟩,
      fun h => h4 r (by rw [h])⟩, fun h => h5 r (by rw [h])⟩

theorem escapable_length (name : Text) (c : Char) (r : Text) :
    (escapable name (c :: r)).rest.length < (c :: r).length := by
  unfold escapable
  split
  · simp_all
  · rename_i r' h; cases h
    split
    · refine Nat.lt_of_le_of_lt (tag_length _ _) ?_
      simp only [List.length_drop, List.length_cons]; omega
    · simp
  · rename_i h; cases h
    exact Nat.lt_of_le_of_lt (reference_length _) (by simp)
  · rename_i _ h1 h2
    refine run_length r ?_
    simp only [Bool.and_eq_true, bne_iff_ne, ne_eq]
    exact ⟨fun h => h1 r (by rw [h]), fun h => h2 r (by rw [h])⟩

theorem untilEnd_length (name : Text) (s : Text) :
    (untilEnd name s).1.length + (untilEnd name s).2.length = s.length := by
  fun_induction untilEnd name s with
  | case1 => simp
  | case2 => simp
  | case3 c r _ ih => simp only [List.length_cons]; omega

theorem scriptUntilEnd_length (depth : ScriptDepth) (dashes : Nat) (s : Text) :
    (scriptUntilEnd depth dashes s).1.length + (scriptUntilEnd depth dashes s).2.length =
      s.length := by
  induction s generalizing depth dashes with
  | nil => simp [scriptUntilEnd]
  | cons c r ih =>
    unfold scriptUntilEnd
    dsimp only
    split
    · simp
    · have step : ∀ d n, (c :: (scriptUntilEnd d n r).1).length +
          (scriptUntilEnd d n r).2.length = (c :: r).length := by
        intro d n
        have := ih d n
        simp only [List.length_cons]; omega
      split <;> (repeat' split) <;> exact step _ _

theorem upTo_length {split : Text × Text} {n : Nat} (h : split.1.length + split.2.length = n)
    (hn : 0 < n) : (upTo split).rest.length < n := by
  unfold upTo
  split
  · rename_i he
    have he : split.1.length = 0 := by simpa [List.isEmpty_iff] using he
    refine Nat.lt_of_le_of_lt (tag_length _ _) ?_
    simp only [List.length_drop]; omega
  · rename_i he
    have he : 0 < split.1.length := by
      rw [List.length_pos_iff]; simpa [List.isEmpty_iff] using he
    simp only; omega

theorem dropMark_length (s : Text) : (dropMark s).length ≤ s.length := by
  unfold dropMark
  cases h : after? ['\uFEFF'] s with
  | none => exact Nat.le_refl _
  | some r => exact after?_length h

theorem script_length (c : Char) (r : Text) :
    (script (c :: r)).rest.length < (c :: r).length := by
  have hrest := upTo_length (scriptUntilEnd_length .top 0 (c :: r)) (by simp)
  unfold script
  dsimp only
  split
  · exact Nat.lt_of_le_of_lt (dropMark_length _) hrest
  · exact hrest

/-- Every lexeme takes at least one character. -/
theorem next_length (mode : ReadingMode) (name : Text) (cdata : Bool) (c : Char) (r : Text) :
    (next mode name cdata (c :: r)).rest.length < (c :: r).length := by
  cases mode with
  | markup => exact markup_length _ _ _
  | escapable => exact escapable_length _ _ _
  | raw => exact upTo_length (untilEnd_length _ _) (by simp)
  | script => exact script_length _ _
  | plain => simp [next]

end Lexeme

end HtmlCanon.Html
