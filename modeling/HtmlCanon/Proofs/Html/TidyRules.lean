import HtmlCanon.Html.Parser
import HtmlCanon.Proofs.Html.TidyBuild

/-!
# The rules of tree construction keep an arena tidy

Whatever the rules of the insertion modes make of a token, they leave the arena tidy, and what is
left of the token is read again with nothing new in it. So the page that is read is tidy: its
comments are those of its tokens, and its doctypes stand at the top.

* `Brings` : a token that brings no comment but those with a property.
* `keeps_settle` : **reading a token until it is settled**.
* `tidy_readAll`, `comments_parse`, `doctypes_parse` : **the page that is read**.
-/

namespace HtmlCanon.Html

open Build Builder

/-- A token that is no comment, or one that satisfies `q`. -/
class Brings (q : Text → Prop) (tok : Token) : Prop where
  comment : ∀ t, tok = .comment t → q t

/-- What is left to be read of a token. -/
def Next.Brings (q : Text → Prop) : Next → Prop
  | .done => True
  | .again t => Html.Brings q t
  | .rulesOf _ t => Html.Brings q t

/-- A rule that keeps arenas tidy, and leaves of a token what was there before. -/
abbrev KeepsNext (q : Text → Prop) (m : Build Next) : Prop := Keeps q (Next.Brings q) m

variable {q : Text → Prop} {tok : Token}

instance (t : Text) : Brings q (.text t) := ⟨nofun⟩

instance : Brings q .null := ⟨nofun⟩

instance : Brings q .fault := ⟨nofun⟩

instance (t : StartTag) : Brings q (.start t) := ⟨nofun⟩

instance (n : String) : Brings q (.stop n) := ⟨nofun⟩

instance (d : DoctypeToken) : Brings q (.doctype d) := ⟨nofun⟩

instance : Brings q .finish := ⟨nofun⟩

namespace Keeps

/-- A step with another after it that does not change its result. -/
instance {α : Type} {R : α → Prop} (m : Build α) (m' : Build Unit) [h : Keeps q R m]
    [KeepsTidy q m'] : Keeps q R (do let a ← m; m'; return a) :=
  h.bind fun _ ha => .andThen fun _ => .pure_of ha

instance {α : Type} (l : List α) (f : α → Build Unit) [∀ a, KeepsTidy q (f a)] :
    KeepsTidy q (l.forM f) := by
  induction l with
  | nil => exact inferInstanceAs (KeepsTidy q (pure ()))
  | cons a l ih => exact inferInstanceAs (KeepsTidy q (do f a; l.forM f))

end Keeps

namespace Insertion

-- the rules are long lists of cases
set_option synthInstance.maxSize 1000

instance : KeepsNext q (pure .done) := .pure_of trivial

instance [h : Brings q tok] : KeepsNext q (pure (.again tok)) := .pure_of h

instance (m : InsertionMode) [h : Brings q tok] : KeepsNext q (pure (.rulesOf m tok)) := .pure_of h

instance : KeepsNext q done := by unfold done; infer_instance

instance (m : InsertionMode) [Brings q tok] : KeepsNext q (againIn m tok) := by
  unfold againIn; infer_instance

instance (t : Text) [h : Brings q (.comment t)] : KeepsTidy q (comment t) :=
  keeps_comment (h.comment t rfl)

instance (i : NodeId) (t : Text) [h : Brings q (.comment t)] : KeepsTidy q (commentIn i t) :=
  keeps_commentIn i (h.comment t rfl)

/-! ### Down to the body -/

instance (t : Tag) : KeepsTidy q (createRoot t) :=
  ⟨fun b hb => ⟨trivial, (hb.addElement t).append fun _ => b.arena.isInner_addElement_self t⟩⟩

instance [Brings q tok] : KeepsNext q (initial tok) := by
  cases tok <;> simp only [initial] <;> infer_instance

instance [Brings q tok] : KeepsNext q (beforeHtml tok) := by
  cases tok <;> simp only [beforeHtml] <;> infer_instance

instance [Brings q tok] : KeepsNext q (beforeHead tok) := by
  cases tok <;> simp only [beforeHead] <;> infer_instance

instance (t : StartTag) : KeepsTidy q (startTemplate t) := by unfold startTemplate; infer_instance

instance : KeepsTidy q stopTemplate := by unfold stopTemplate; infer_instance

instance [Brings q tok] : KeepsNext q (inHead tok) := by
  cases tok <;> simp only [inHead] <;> infer_instance

instance [Brings q tok] : KeepsNext q (afterHead tok) := by
  cases tok <;> simp only [afterHead] <;> infer_instance

/-! ### In the body -/

instance (t : Tag) (closed : Bool) : KeepsTidy q (enterForeign t closed) := by
  unfold enterForeign; infer_instance

instance (names : List String) : KeepsTidy q (closeItem names) := by
  refine .andThen fun b => ?_
  dsimp only
  split <;> infer_instance

instance : KeepsTidy q closeAnchor := by
  refine .andThen fun b => ?_
  split <;> infer_instance

instance (t : StartTag) : KeepsNext q (startInBody t) := by
  refine .andThen fun b => ?_
  -- the cases that look at the body and at what may follow it
  generalize b.body? = body
  generalize b.framesetOk = free
  cases body <;> cases free <;> dsimp only <;> infer_instance

instance (n : String) : KeepsNext q (stopInBody n) := by
  refine .andThen fun b => ?_
  generalize b.form = form
  cases form <;> dsimp only <;> infer_instance

instance [Brings q tok] : KeepsNext q (inBody tok) := by
  cases tok <;> simp only [inBody] <;> infer_instance

instance [Brings q tok] : KeepsNext q (inText tok) := by
  cases tok <;> simp only [inText] <;> infer_instance

/-- Closing an element of SVG or MathML changes the stack only. -/
instance [Brings q tok] : KeepsNext q (inForeign tok) := by
  refine .get_bind fun b hb => ?_
  cases tok with
  | stop n =>
    dsimp only
    split
    · exact .bind (.set_of hb) fun _ _ => inferInstance
    · infer_instance
  | _ => dsimp only; infer_instance

/-! ### In tables -/

instance [Brings q tok] : KeepsNext q (foster tok) := by unfold foster; infer_instance

instance [Brings q tok] : KeepsNext q (inTable tok) := by
  cases tok <;> simp only [inTable] <;> infer_instance

instance (ts : List Text) : KeepsTidy q (fosterTexts ts) := by
  induction ts with
  | nil => unfold fosterTexts; infer_instance
  | cons t ts ih =>
    have : KeepsTidy q (foster (.text t)) :=
      Keeps.mono (R := Next.Brings q) inferInstance fun _ _ => trivial
    unfold fosterTexts
    infer_instance

instance [Brings q tok] : KeepsNext q (inTableText tok) := by
  cases tok <;> simp only [inTableText] <;> infer_instance

instance [Brings q tok] : KeepsNext q (inCaption tok) := by unfold inCaption; infer_instance

instance [Brings q tok] : KeepsNext q (inColumnGroup tok) := by
  cases tok <;> simp only [inColumnGroup] <;> infer_instance

instance [Brings q tok] : KeepsNext q (inTableBody tok) := by
  cases tok <;> simp only [inTableBody] <;> infer_instance

instance [Brings q tok] : KeepsNext q (inRow tok) := by
  cases tok <;> simp only [inRow] <;> infer_instance

instance [Brings q tok] : KeepsNext q (inCell tok) := by
  cases tok <;> simp only [inCell] <;> infer_instance

/-! ### The other modes -/

instance [Brings q tok] : KeepsNext q (inSelect tok) := by
  cases tok <;> simp only [inSelect] <;> infer_instance

instance [Brings q tok] : KeepsNext q (inSelectInTable tok) := by
  cases tok <;> simp only [inSelectInTable] <;> infer_instance

instance [Brings q tok] : KeepsNext q (inTemplate tok) := by
  cases tok <;> simp only [inTemplate] <;> infer_instance

instance [Brings q tok] : KeepsNext q (afterBody tok) := by
  cases tok <;> simp only [afterBody] <;> infer_instance

instance [Brings q tok] : KeepsNext q (inFrameset tok) := by
  cases tok <;> simp only [inFrameset] <;> infer_instance

instance [Brings q tok] : KeepsNext q (afterFrameset tok) := by
  cases tok <;> simp only [afterFrameset] <;> infer_instance

instance [Brings q tok] : KeepsNext q (afterAfterBody tok) := by
  cases tok <;> simp only [afterAfterBody] <;> infer_instance

instance [Brings q tok] : KeepsNext q (afterAfterFrameset tok) := by
  cases tok <;> simp only [afterAfterFrameset] <;> infer_instance

/-! ### Tokens -/

instance (m : InsertionMode) [Brings q tok] : KeepsNext q (rules m tok) := by
  cases m <;> simp only [rules] <;> infer_instance

/-- **Reading a token until it is settled.** -/
theorem keeps_settle (n : Nat) {next : Next} (h : next.Brings q) : KeepsTidy q (settle n next) := by
  induction n generalizing next with
  | zero => unfold settle; infer_instance
  | succ n ih =>
    cases next with
    | done => unfold settle; infer_instance
    | again tok =>
      have : Brings q tok := h
      unfold settle
      refine .andThen fun b => ?_
      dsimp only
      split
      · exact .bind (R := Next.Brings q) inferInstance fun _ ha => ih ha
      · exact .bind (R := Next.Brings q) inferInstance fun _ ha => ih ha
    | rulesOf m tok =>
      have : Brings q tok := h
      unfold settle
      exact .bind (R := Next.Brings q) inferInstance fun _ ha => ih ha

instance [h : Brings q tok] : KeepsTidy q (settleToken tok) :=
  .andThen fun _ => keeps_settle _ (show (Next.again tok).Brings q from h)

instance (t : Text) : KeepsTidy q (settleText t) := by
  induction t using settleText.induct with
  | case1 => unfold settleText; infer_instance
  | case2 c r ih =>
    rw [settleText]
    infer_instance

end Insertion

namespace Build

instance (d : DoctypeToken) : KeepsTidy q (accept.putDoctype d) := by
  have hput : KeepsTidy q (arena fun a =>
      let (a, i) := a.add (.doctype ⟨d.name.getD [], d.publicId.getD [], d.systemId.getD []⟩)
      a.append 0 i) :=
    .arena_of fun a h => (h.add (p := .doctype _) nofun nofun).append fun h0 => absurd rfl h0
  unfold accept.putDoctype
  infer_instance

instance [Brings q tok] : KeepsTidy q (accept tok) := by
  refine .get_bind fun b hb => .bind (.set_of hb) fun _ _ => ?_
  cases tok <;> dsimp only <;> infer_instance

theorem keeps_acceptAll {ts : List Token} (h : ∀ tok ∈ ts, Brings q tok) :
    KeepsTidy q (acceptAll ts) := by
  induction ts with
  | nil => unfold acceptAll; infer_instance
  | cons t ts ih =>
    have := h t List.mem_cons_self
    have := ih fun tok ht => h tok (List.mem_cons_of_mem t ht)
    unfold acceptAll
    infer_instance

end Build

/-- **A page that is read leaves a tidy arena**, when the comments of all its tokens satisfy `q`. -/
theorem tidy_readAll
    (h : ∀ reading name cdata s, ∀ tok ∈ (Lexeme.next reading name cdata s).tokens, Brings q tok)
    {b : Builder} (hb : b.arena.Tidy q) (name s : Text) : (b.readAll name s).arena.Tidy q := by
  fun_induction Builder.readAll b name s with
  | case1 b name => exact ((inferInstance : KeepsTidy q (accept .finish)).run b hb).2
  | case2 b name c r _ l ih => exact ih ((keeps_acceptAll (h _ _ _ _)).run b hb).2

/-- **The comments of a page that is read** satisfy what those of all tokens do. -/
theorem comments_parse
    (h : ∀ reading name cdata s, ∀ tok ∈ (Lexeme.next reading name cdata s).tokens, Brings q tok)
    (s : Text) : Everywhere (CommentIs q) (parse s).nodes :=
  (tidy_readAll h Arena.Tidy.new _ _).comments_document

/-- **A doctype of a page that is read** stands at its top. -/
theorem doctypes_parse (s : Text) :
    ∀ n ∈ (parse s).nodes, n.IsDoctype ∨ Everywhere (¬Node.IsDoctype ·) [n] :=
  -- of the comments nothing is asked
  (tidy_readAll (q := fun _ => True) (fun _ _ _ _ _ _ => ⟨fun _ _ => trivial⟩)
    Arena.Tidy.new _ _).doctypes_document

end HtmlCanon.Html
