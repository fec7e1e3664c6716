import HtmlCanon.Proofs.Html.TidyRules
import HtmlCanon.Proofs.Html.Reading
import HtmlCanon.Proofs.Text
import Mathlib.Data.List.Infix

/-!
# Comments that stay comments

A comment is read up to an end mark, so its characters hold none, and they do not begin with one that
is cut short either. Such characters can be put between comment marks again, and are read back as one
comment then.

* `Sealed` : characters that a comment can have.
* `sealed_next`, `sealed_parse` : **every comment that is read is sealed**.
* `Lexeme.markup_comment`, `Lexeme.markup_declaration` : a comment that is written is read back.
* `InBody.reads_comment` : and becomes a node of the innermost element.
-/

namespace HtmlCanon.Html

/-! ### End marks -/

/-- What ends a comment right at its start. -/
def earlyEnds : List Text := [">".toList, "->".toList]

/-- What ends a comment anywhere. -/
def endMarks : List Text := ["-->".toList, "--!>".toList]

/-- Characters that a comment can have: nothing in them ends it. -/
def Sealed (t : Text) : Prop := (∀ p ∈ earlyEnds, ¬p <+: t) ∧ ∀ p ∈ endMarks, ¬p <:+: t

instance (t : Text) : Decidable (Sealed t) :=
  inferInstanceAs (Decidable ((∀ p ∈ earlyEnds, ¬p <+: t) ∧ ∀ p ∈ endMarks, ¬p <:+: t))

/-- Every stretch of the first text without line feeds and replacement characters stands in the
second, and at its start if it stands at the start of the first. -/
def Worn (u t : Text) : Prop :=
  ∀ p : Text, '\n' ∉ p → '\uFFFD' ∉ p → (p <+: u → p <+: t) ∧ (p <:+: u → p <:+: t)

namespace Worn

variable {t u v : Text}

theorem trans (h : Worn u t) (h' : Worn v u) : Worn v t := fun p hn hr =>
  ⟨fun hp => (h p hn hr).1 ((h' p hn hr).1 hp), fun hp => (h p hn hr).2 ((h' p hn hr).2 hp)⟩

theorem of_isPrefix (h : u <+: t) : Worn u t := fun _ _ _ =>
  ⟨fun hp => hp.trans h, fun hp => hp.trans h.isInfix⟩

theorem cons (h : Worn u t) (c : Char) : Worn (c :: u) (c :: t) := by
  have hstart : ∀ p : Text, '\n' ∉ p → '\uFFFD' ∉ p → p <+: c :: u → p <+: c :: t := by
    intro p hn hr hp
    rcases List.prefix_cons_iff.1 hp with rfl | ⟨q, rfl, hq⟩
    · exact List.nil_prefix
    · rw [List.mem_cons, not_or] at hn hr
      exact List.cons_prefix_cons.2 ⟨rfl, (h q hn.2 hr.2).1 hq⟩
  refine fun p hn hr => ⟨hstart p hn hr, fun hp => ?_⟩
  rcases List.infix_cons_iff.1 hp with hp | hp
  · exact (hstart p hn hr hp).isInfix
  · exact ((h p hn hr).2 hp).trans (List.suffix_cons c t).isInfix

/-- Stretches do not reach over a line feed. -/
theorem newline (h : Worn u t)
    (hv : ∀ p : Text, '\n' ∉ p → '\uFFFD' ∉ p → p <:+: v → p <:+: t) : Worn (u ++ '\n' :: v) t := by
  refine fun p hn hr => ⟨fun hp => (h p hn hr).1 (isPrefix_of_not_mem hn hp), fun hp => ?_⟩
  rcases isInfix_of_not_mem hn hp with hp | hp
  · exact (h p hn hr).2 hp
  · exact hv p hn hr hp

theorem mem (h : Worn u t) {c : Char} (hn : c ≠ '\n') (hr : c ≠ '\uFFFD') (hc : c ∈ u) : c ∈ t := by
  have hone := (h [c] (by simpa using hn.symm) (by simpa using hr.symm)).2
  obtain ⟨a, b, rfl⟩ := List.mem_iff_append.1 hc
  exact (hone ⟨a, b, by simp⟩).mem List.mem_cons_self

/-- **Marks are stretches**, so none comes up where there was none. -/
theorem sealed (h : Worn u t) (ht : Sealed t) : Sealed u := by
  constructor
  · intro p hp hu
    have hfree : ∀ m ∈ earlyEnds, '\n' ∉ m ∧ '\uFFFD' ∉ m := by decide
    exact ht.1 p hp ((h p (hfree p hp).1 (hfree p hp).2).1 hu)
  · intro p hp hu
    have hfree : ∀ m ∈ endMarks, '\n' ∉ m ∧ '\uFFFD' ∉ m := by decide
    exact ht.2 p hp ((h p (hfree p hp).1 (hfree p hp).2).2 hu)

end Worn

/-- A text without the sign that all marks end in is sealed. -/
theorem sealed_of_not_mem {t : Text} (h : '>' ∉ t) : Sealed t := by
  constructor
  · intro p hp hu
    have hmem : ∀ m ∈ earlyEnds, '>' ∈ m := by decide
    exact h (hu.mem (hmem p hp))
  · intro p hp hu
    have hmem : ∀ m ∈ endMarks, '>' ∈ m := by decide
    exact h (hu.mem (hmem p hp))

/-! ### Characters as they are read -/

/-- Stretches without line feeds stand where they stood before returns became line feeds. -/
theorem worn_unifyNewlines (t : Text) : Worn (Token.unifyNewlines t) t := by
  fun_induction Token.unifyNewlines t with
  | case1 r ih =>
    refine .newline (.of_isPrefix List.nil_prefix) fun p hn hr hp => ?_
    exact ((ih p hn hr).2 hp).trans (List.suffix_append ['\r', '\n'] r).isInfix
  | case2 r _ ih =>
    refine .newline (.of_isPrefix List.nil_prefix) fun p hn hr hp => ?_
    exact ((ih p hn hr).2 hp).trans (List.suffix_cons '\r' r).isInfix
  | case3 c r _ _ ih => exact ih.cons c
  | case4 => exact .of_isPrefix (List.prefix_refl [])

/-- Replacement characters are not asked for. -/
theorem worn_replaceNull (t : Text) : Worn (t.map Token.replaceNull) t := by
  intro p _ hr
  -- a stretch without replacement characters is what it was before
  have hsame : ∀ q : Text, q.map Token.replaceNull = p → q = p := by
    intro q hq
    conv_rhs => rw [← hq]
    conv_lhs => rw [← List.map_id q]
    refine List.map_congr_left fun c hc => ?_
    have hne : Token.replaceNull c ≠ '\uFFFD' := fun he =>
      hr (hq ▸ List.mem_map.2 ⟨c, hc, he⟩)
    unfold Token.replaceNull at hne ⊢
    split
    · rename_i h
      rw [if_pos h] at hne
      exact absurd rfl hne
    · rfl
  constructor
  · rintro ⟨b, hb⟩
    obtain ⟨q, r, rfl, hq, -⟩ := List.map_eq_append_iff.1 hb.symm
    exact hsame q hq ▸ List.prefix_append q r
  · rintro ⟨a, b, hab⟩
    obtain ⟨x, r, rfl, hx, -⟩ := List.map_eq_append_iff.1 hab.symm
    obtain ⟨y, q, rfl, -, hq⟩ := List.map_eq_append_iff.1 hx
    exact hsame q hq ▸ ⟨y, r, rfl⟩

theorem worn_plainText (t : Text) : Worn (Token.plainText t) t :=
  (worn_unifyNewlines t).trans (worn_replaceNull _)

/-! ### Comments that are read -/

namespace Lexeme

/-- Where no mark stands, the end of a comment is looked for further on. -/
theorem commentEnd_cons {c : Char} {r : Text} (h : ∀ p ∈ endMarks, ¬p <+: c :: r) :
    commentEnd (c :: r) = (commentEnd r).map fun (a, b) => (c :: a, b) := by
  rw [commentEnd]
  · rintro s rfl rfl
    exact h _ List.mem_cons_self ⟨s, rfl⟩
  · rintro s rfl rfl
    exact h "--!>".toList (by decide) ⟨s, rfl⟩

/-- A comment has no end where there is no mark. -/
theorem commentEnd_eq_none_iff {t : Text} :
    commentEnd t = none ↔ ∀ p ∈ endMarks, ¬p <:+: t := by
  fun_induction commentEnd t with
  | case1 r =>
    refine ⟨fun h => absurd h (Option.some_ne_none _), fun h => ?_⟩
    exact absurd (List.prefix_append "-->".toList r).isInfix (h "-->".toList List.mem_cons_self)
  | case2 r =>
    refine ⟨fun h => absurd h (Option.some_ne_none _), fun h => ?_⟩
    exact absurd (List.prefix_append "--!>".toList r).isInfix (h "--!>".toList (by decide))
  | case3 c r h1 h2 ih =>
    have hhere : ∀ p ∈ endMarks, ¬p <+: c :: r := by
      simp only [endMarks, List.mem_cons, List.not_mem_nil, or_false]
      rintro p (rfl | rfl) ⟨s, hs⟩
      · exact h1 s (List.cons.inj hs).1.symm (List.cons.inj hs).2.symm
      · exact h2 s (List.cons.inj hs).1.symm (List.cons.inj hs).2.symm
    rw [Option.map_eq_none_iff, ih]
    constructor
    · intro h p hp hin
      rcases List.infix_cons_iff.1 hin with hin | hin
      · exact hhere p hp hin
      · exact h p hp hin
    · exact fun h p hp hin => h p hp (hin.trans (List.suffix_cons c r).isInfix)
  | case4 =>
    refine ⟨fun _ p hp hin => ?_, fun _ => rfl⟩
    obtain rfl := List.infix_nil.1 hin
    exact absurd hp (by decide)

/-- What stands before the first mark holds none. -/
theorem commentEnd_sealed {s t r : Text} (h : commentEnd s = some (t, r)) :
    t <+: s ∧ ∀ p ∈ endMarks, ¬p <:+: t := by
  have hnil : ∀ p ∈ endMarks, ¬p <:+: ([] : Text) := by decide
  fun_induction commentEnd s generalizing t r with
  | case1 =>
    obtain ⟨rfl, -⟩ := Prod.mk.inj (Option.some.inj h)
    exact ⟨List.nil_prefix, hnil⟩
  | case2 =>
    obtain ⟨rfl, -⟩ := Prod.mk.inj (Option.some.inj h)
    exact ⟨List.nil_prefix, hnil⟩
  | case3 c s h1 h2 ih =>
    obtain ⟨⟨a, b⟩, hab, he⟩ := Option.map_eq_some_iff.1 h
    obtain ⟨rfl, rfl⟩ := Prod.mk.inj he
    obtain ⟨hpre, hfree⟩ := ih hab
    have hcons : c :: a <+: c :: s := List.cons_prefix_cons.2 ⟨rfl, hpre⟩
    refine ⟨hcons, fun p hp hin => ?_⟩
    rcases List.infix_cons_iff.1 hin with hin | hin
    · obtain ⟨x, hx⟩ := hin.trans hcons
      simp only [endMarks, List.mem_cons, List.not_mem_nil, or_false] at hp
      rcases hp with rfl | rfl
      · exact h1 x (List.cons.inj hx).1.symm (List.cons.inj hx).2.symm
      · exact h2 x (List.cons.inj hx).1.symm (List.cons.inj hx).2.symm
    · exact hfree p hp hin
  | case4 => cases h

theorem dropCutEnd_isPrefix (t : Text) : dropCutEnd t <+: t := by
  have hrev : ∀ a r : Text, t.reverse = a ++ r → r.reverse <+: t := by
    intro a r h
    exact ⟨a.reverse, by rw [← List.reverse_append, ← h, List.reverse_reverse]⟩
  unfold dropCutEnd
  split
  · rename_i r h
    exact hrev "!--".toList r h
  · rename_i r h
    exact hrev "--".toList r h
  · rename_i r _ h
    exact hrev "-".toList r h
  · exact List.prefix_refl t

/-- **A comment that is read is sealed.** -/
theorem brings_comment (s : Text) : ∀ tok ∈ (comment s).tokens, Brings Sealed tok := by
  have hempty : Sealed [] := by decide
  intro tok htok
  unfold comment at htok
  split at htok
  · obtain rfl := List.mem_singleton.1 htok
    exact ⟨fun t ht => Token.comment.inj ht ▸ hempty⟩
  · obtain rfl := List.mem_singleton.1 htok
    exact ⟨fun t ht => Token.comment.inj ht ▸ hempty⟩
  · rename_i h1 h2
    have hstart : ∀ p ∈ earlyEnds, ¬p <+: s := by
      simp only [earlyEnds, List.mem_cons, List.not_mem_nil, or_false]
      rintro p (rfl | rfl) ⟨r, hr⟩
      · exact h1 r hr.symm
      · exact h2 r hr.symm
    -- in both cases the comment is what some start of the input stands for
    have hpre : ∀ t, t <+: s → (∀ p ∈ endMarks, ¬p <:+: t) → Sealed (Token.plainText t) := by
      intro t ht hfree
      exact (worn_plainText t).sealed ⟨fun p hp hin => hstart p hp (hin.trans ht), hfree⟩
    split at htok
    · rename_i t r he
      obtain rfl := List.mem_singleton.1 htok
      obtain ⟨ht, hfree⟩ := commentEnd_sealed he
      exact ⟨fun u hu => Token.comment.inj hu ▸ hpre t ht hfree⟩
    · rename_i he
      obtain rfl := List.mem_singleton.1 htok
      have hcut := dropCutEnd_isPrefix s
      have hfree : ∀ p ∈ endMarks, ¬p <:+: dropCutEnd s := fun p hp hin =>
        commentEnd_eq_none_iff.1 he p hp (hin.trans hcut.isInfix)
      exact ⟨fun u hu => Token.comment.inj hu ▸ hpre _ hcut hfree⟩

/-- What is read up to the next `>` does not hold it. -/
theorem brings_bogusComment (s : Text) : ∀ tok ∈ (bogusComment s).tokens, Brings Sealed tok := by
  intro tok htok
  obtain rfl := List.mem_singleton.1 htok
  refine ⟨fun t ht => Token.comment.inj ht ▸ (worn_plainText _).sealed (sealed_of_not_mem ?_)⟩
  intro hm
  have := List.all_eq_true.1 (List.all_takeWhile (p := (· != '>')) (l := s)) _ hm
  exact absurd this (by decide)

/-- Doctypes bring no comment, however they are written. -/
theorem brings_doctype {q : Text → Prop} (s : Text) :
    ∀ tok ∈ (doctype s).tokens, Brings q tok := by
  have hone : ∀ (d : DoctypeToken) (r : Text) (tok : Token),
      tok ∈ (⟨[.doctype d], r⟩ : Lexeme).tokens → Brings q tok := by
    intro d r tok h
    obtain rfl := List.mem_singleton.1 h
    infer_instance
  have hbogus : ∀ d s, ∀ tok ∈ (afterPublicId.bogusDoctypeOrEnd d s).tokens, Brings q tok := by
    intro d s
    unfold afterPublicId.bogusDoctypeOrEnd bogusDoctype
    split <;> exact hone _ _
  have hpublic : ∀ d s, ∀ tok ∈ (afterPublicId d s).tokens, Brings q tok := by
    intro d s
    unfold afterPublicId
    repeat' split
    all_goals first | exact hone _ _ | exact hbogus _ _
  have hkeyword : ∀ b d s, ∀ tok ∈ (afterKeyword b d s).tokens, Brings q tok := by
    intro b d s
    unfold afterKeyword
    repeat' split
    all_goals first | exact hone _ _ | exact hbogus _ _ | exact hpublic _ _
  have hname : ∀ d s, ∀ tok ∈ (afterDoctypeName d s).tokens, Brings q tok := by
    intro d s
    unfold afterDoctypeName
    repeat' split
    all_goals first | exact hone _ _ | exact hkeyword _ _ _
  unfold doctype
  split
  · exact hone _ _
  · exact hone _ _
  · exact hname _ _

theorem brings_tag {q : Text → Prop} (isStart : Bool) (s : Text) :
    ∀ tok ∈ (tag isStart s).tokens, Brings q tok := by
  intro tok h
  unfold tag at h
  split at h
  · cases h
  · obtain rfl := List.mem_singleton.1 h
    split <;> infer_instance

theorem brings_text {q : Text → Prop} (t r : Text) :
    ∀ tok ∈ (⟨[.text t], r⟩ : Lexeme).tokens, Brings q tok := by
  intro tok h
  obtain rfl := List.mem_singleton.1 h
  infer_instance

theorem brings_nulls {q : Text → Prop} (t : Text) : ∀ tok ∈ nulls t, Brings q tok := by
  have hjoin : ∀ runs : List (List Token), (∀ r ∈ runs, ∀ tok ∈ r, Brings q tok) →
      ∀ tok ∈ List.intercalate [Token.null] runs, Brings q tok := by
    intro runs
    induction runs with
    | nil => exact fun _ => nofun
    | cons r rs ih =>
      intro hr tok h
      cases rs with
      | nil => exact hr r List.mem_cons_self tok (by simpa [List.intercalate] using h)
      | cons r' rs =>
        have hsplit : List.intercalate [Token.null] (r :: r' :: rs) =
            r ++ Token.null :: List.intercalate [Token.null] (r' :: rs) := by
          simp [List.intercalate]
        rw [hsplit, List.mem_append, List.mem_cons] at h
        rcases h with h | rfl | h
        · exact hr r List.mem_cons_self tok h
        · infer_instance
        · exact ih (fun s hs => hr s (List.mem_cons_of_mem r hs)) tok h
  refine hjoin _ fun r hr tok h => ?_
  obtain ⟨u, -, rfl⟩ := List.mem_map.1 hr
  split at h
  · cases h
  · obtain rfl := List.mem_singleton.1 h
    infer_instance

theorem brings_characterData {q : Text → Prop} (s : Text) :
    ∀ tok ∈ (characterData s).tokens, Brings q tok := by
  unfold characterData
  split <;> exact brings_nulls _

theorem brings_reference {q : Text → Prop} (s : Text) :
    ∀ tok ∈ (reference s).tokens, Brings q tok := by
  have htokens : ∀ tok ∈ (if (Reference.read false s).fault then [Token.fault] else []) ++
      (Reference.read false s).chars.map fun c => Token.text [c], Brings q tok := by
    intro tok h
    rcases List.mem_append.1 h with h | h
    · split at h
      · obtain rfl := List.mem_singleton.1 h
        infer_instance
      · cases h
    · obtain ⟨c, -, rfl⟩ := List.mem_map.1 h
      infer_instance
  unfold reference
  dsimp only
  split
  · exact htokens
  · intro tok h
    rcases List.mem_append.1 h with h | h
    · exact htokens tok h
    · obtain rfl := List.mem_singleton.1 h
      infer_instance

/-- What follows `<` brings sealed comments only. -/
theorem sealed_angle (cdata : Bool) (s : Text) : ∀ tok ∈ (angle cdata s).tokens, Brings Sealed tok := by
  have hdeclaration : ∀ r, ∀ tok ∈ (declaration cdata r).tokens, Brings Sealed tok := by
    intro r
    unfold declaration
    split
    · exact brings_comment _
    · split
      · exact brings_doctype _
      · split
        · exact brings_characterData _
        · exact brings_bogusComment _
  unfold angle
  split
  · exact hdeclaration _
  · exact brings_bogusComment _
  · intro tok h
    obtain rfl := List.mem_singleton.1 h
    infer_instance
  · split
    · exact brings_tag _ _
    · exact brings_bogusComment _
  · exact brings_text _ _
  · split
    · exact brings_tag _ _
    · exact brings_text _ _
  · exact brings_text _ _

theorem sealed_markup (cdata : Bool) (s : Text) :
    ∀ tok ∈ (markup cdata s).tokens, Brings Sealed tok := by
  unfold markup
  split
  · exact nofun
  · exact sealed_angle _ _
  · exact brings_reference _
  · intro tok h
    obtain rfl := List.mem_singleton.1 h
    infer_instance
  · exact brings_text _ _
  · exact brings_text _ _
  · exact brings_text _ _

theorem brings_escapable {q : Text → Prop} (name s : Text) :
    ∀ tok ∈ (escapable name s).tokens, Brings q tok := by
  unfold escapable
  split
  · exact nofun
  · split
    · exact brings_tag _ _
    · exact brings_text _ _
  · exact brings_reference _
  · exact brings_text _ _

theorem brings_upTo {q : Text → Prop} (parts : Text × Text) :
    ∀ tok ∈ (upTo parts).tokens, Brings q tok := by
  unfold upTo
  split
  · exact brings_tag _ _
  · exact brings_text _ _

theorem brings_script {q : Text → Prop} (s : Text) :
    ∀ tok ∈ (script s).tokens, Brings q tok := by
  unfold script
  dsimp only
  split
  · exact brings_upTo _
  · exact brings_upTo _

/-- **Every comment of a lexeme is sealed**, whatever the input and the way it is read. -/
theorem sealed_next (reading : ReadingMode) (name : Text) (cdata : Bool) (s : Text) :
    ∀ tok ∈ (next reading name cdata s).tokens, Brings Sealed tok := by
  cases reading with
  | markup => exact sealed_markup cdata s
  | escapable => exact brings_escapable name s
  | raw => exact brings_upTo _
  | script => exact brings_script s
  | plain => exact brings_text _ _

end Lexeme

/-- **Every comment of a page that is read is sealed.** -/
theorem sealed_parse (s : Text) : Everywhere (CommentIs Sealed) (parse s).nodes :=
  comments_parse Lexeme.sealed_next s

/-- The comments of a forest, at any depth. -/
def Node.comments (ns : List Node) : List Text :=
  (Node.withinAll ns).filterMap fun
    | .comment t => some t
    | _ => none

theorem Node.mem_comments {ns : List Node} {t : Text} :
    t ∈ Node.comments ns ↔ Node.comment t ∈ Node.withinAll ns := by
  rw [Node.comments, List.mem_filterMap]
  constructor
  · rintro ⟨n, hn, ht⟩
    cases n with
    | comment d => exact Option.some.inj ht ▸ hn
    | _ => cases ht
  · exact fun h => ⟨_, h, rfl⟩

/-! ### Comments that are written -/

namespace Lexeme

/-- An end mark after sealed characters is the first one. -/
theorem commentEnd_append {t : Text} (h : ∀ p ∈ endMarks, ¬p <:+: t) (x : Text) :
    commentEnd (t ++ "-->".toList ++ x) = some (t, x) := by
  induction t with
  | nil => rfl
  | cons c r ih =>
    have hrest : ∀ p ∈ endMarks, ¬p <:+: r := fun p hp hin =>
      h p hp (hin.trans (List.suffix_cons c r).isInfix)
    -- a mark that began here would lie in the characters, or hold a dash where it has none
    have hhere : ∀ p ∈ endMarks, ¬p <+: c :: (r ++ "-->".toList ++ x) := by
      intro p hp hin
      have hall : c :: r <+: c :: (r ++ "-->".toList ++ x) := ⟨"-->".toList ++ x, by simp⟩
      rcases List.prefix_or_prefix_of_prefix hin hall with hpre | ⟨q, rfl⟩
      · exact h p hp hpre.isInfix
      · have hends : ∀ m ∈ endMarks, ∀ q ∈ m.tails, q = [] ∨ q = m ∨ ¬q.take 2 <+: "--".toList := by
          decide
        have hq : q <+: "-->".toList ++ x := by
          rwa [List.append_assoc, ← List.cons_append, List.prefix_append_right_inj] at hin
        have htake : q.take 2 <+: "--".toList := hq.take 2
        rcases hends _ hp q ((List.mem_tails q _).2 (List.suffix_append _ q)) with rfl | hq' | hq'
        · exact h _ hp (by simp)
        · have := congrArg List.length hq'
          rw [List.length_append, List.length_cons] at this
          omega
        · exact hq' htake
    show commentEnd (c :: (r ++ "-->".toList ++ x)) = _
    rw [commentEnd_cons hhere, ih hrest]
    rfl

/-- **A comment between its marks is read back.** -/
theorem markup_comment {t : Text} (h : Sealed t) (cdata : Bool) (x : Text) :
    markup cdata ("<!--".toList ++ t ++ "-->".toList ++ x) = ⟨[.comment (Token.plainText t)], x⟩ := by
  have hread : comment (t ++ "-->".toList ++ x) = ⟨[.comment (Token.plainText t)], x⟩ := by
    unfold comment
    split
    · rename_i r he
      match t with
      | [] => cases he
      | c :: u =>
        obtain ⟨rfl, -⟩ := List.cons.inj he
        exact absurd ⟨u, rfl⟩ (h.1 ">".toList List.mem_cons_self)
    · rename_i r he
      match t with
      | [] => cases he
      | [c] => cases he
      | c :: d :: u =>
        obtain ⟨rfl, hd⟩ := List.cons.inj he
        obtain ⟨rfl, -⟩ := List.cons.inj hd
        exact absurd ⟨u, rfl⟩ (h.1 "->".toList (by decide))
    · rw [commentEnd_append h.2]
  rw [← hread]
  rfl

/-- **A declaration without `>` in it is read back** as a comment. -/
theorem markup_declaration {t : Text} (h : '>' ∉ t) (cdata : Bool) (x : Text) :
    markup cdata ('<' :: '?' :: t ++ '>' :: x) = ⟨[.comment (Token.plainText ('?' :: t))], x⟩ := by
  have hall : ∀ c ∈ '?' :: t, (c != '>') = true := by
    intro c hc
    rcases List.mem_cons.1 hc with rfl | hc
    · decide
    · exact bne_iff_ne.2 fun he => h (he ▸ hc)
  show bogusComment ('?' :: t ++ '>' :: x) = _
  rw [bogusComment, List.takeWhile_append_of_pos hall, List.dropWhile_append_of_pos hall]
  simp

end Lexeme

open Build Builder Insertion

variable {b : Builder} {tags : List Tag} {fs : List Frame} {f : Frame}

/-- **A comment** goes to the end of the innermost element. -/
theorem InBody.accept_comment (h : InBody b tags (f :: fs)) (t : Text) :
    ∃ b', (accept (.comment t)).run b = ((), b') ∧ InBody b' tags (f.add (.comment t) :: fs) := by
  let b' : Builder :=
    { b with arena := (b.arena.add (.comment t)).1.append f.id b.arena.cells.size }
  have hskip : { b with skipNewline := false } = b := by rw [← h.skipNewline]
  have hput : (inBody (.comment t)).run b = (.done, b') := by
    show (Next.done, { b with arena := (b.arena.add (.comment t)).1.put b.place _ }) = _
    rw [h.place]
    rfl
  refine ⟨b', ?_, ?_⟩
  · show (settleToken (.comment t)).run { b with skipNewline := false } = _
    rw [hskip]
    exact h.settleToken_run hput
  · exact ⟨h.mode, h.templateModes, h.reading, h.skipNewline, h.fostering, h.stack,
      h.spine.add_comment t, h.formatting.trans (formattingOf_congr f (f.add _) rfl rfl fs).symm,
      h.frames, h.flow⟩

/-- Text that is read as a comment. -/
def IsComment (m t : Text) : Prop :=
  m ≠ [] ∧ ∀ cdata x, Lexeme.markup cdata (m ++ x) = ⟨[.comment t], x⟩

theorem InBody.reads_comment (h : InBody b tags (f :: fs)) {m t : Text} (hm : IsComment m t)
    (x : Text) : ∃ b', Reads b (m ++ x) b' x ∧ InBody b' tags (f.add (.comment t) :: fs) := by
  obtain ⟨b', hb, hi⟩ := h.accept_comment t
  exact ⟨b', reads_token h.reading (by simp [hm.1]) (fun cdata => hm.2 cdata x) hb, hi⟩

end HtmlCanon.Html
