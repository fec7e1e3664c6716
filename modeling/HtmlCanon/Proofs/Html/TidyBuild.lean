import HtmlCanon.Html.Formatting
import HtmlCanon.Proofs.Html.Tidy

/-!
# Steps that keep an arena tidy

Each step of tree construction leaves a tidy arena tidy. For most steps this follows from what they
are put together from, so it is found by instance search. Only closing a formatting element, which
moves nodes that stand in the page already, has an argument of its own.

* `Keeps` : a step that keeps arenas tidy and has results of a given kind.
* `liftBlock_run`, `keeps_split` : **the nodes that are moved when a formatting element is split**.
-/

namespace HtmlCanon.Html

open Builder

/-- A step that keeps arenas tidy and whose results satisfy `R`. -/
class Keeps (q : Text → Prop) {α : Type} (R : α → Prop) (m : Build α) : Prop where
  run : ∀ b : Builder, b.arena.Tidy q → R (m.run b).1 ∧ (m.run b).2.arena.Tidy q

variable {q : Text → Prop} {α β : Type} {R : α → Prop} {S : β → Prop}

/-- A step of which nothing is known but that it keeps arenas tidy. -/
abbrev KeepsTidy (q : Text → Prop) (m : Build α) : Prop := Keeps q (fun _ => True) m

namespace Keeps

/-! ### How steps are put together -/

theorem mono {R' : α → Prop} {m : Build α} (h : Keeps q R m) (hr : ∀ a, R a → R' a) :
    Keeps q R' m :=
  ⟨fun b hb => ⟨hr _ (h.run b hb).1, (h.run b hb).2⟩⟩

theorem pure_of {a : α} (h : R a) : Keeps q R (pure a : Build α) := ⟨fun _ hb => ⟨h, hb⟩⟩

theorem bind {m : Build α} {f : α → Build β} (hm : Keeps q R m) (hf : ∀ a, R a → Keeps q S (f a)) :
    Keeps q S (m >>= f) := by
  constructor
  intro b hb
  obtain ⟨ha, hb'⟩ := hm.run b hb
  exact (hf _ ha).run _ hb'

/-- A step of whose result nothing is asked, and what is done with it. -/
theorem andThen {m : Build α} [hm : KeepsTidy q m] {f : α → Build β} (hf : ∀ a, Keeps q S (f a)) :
    Keeps q S (m >>= f) :=
  hm.bind fun a _ => hf a

/-- What was read of the state before is tidy too. -/
theorem get_bind {f : Builder → Build β} (hf : ∀ b, b.arena.Tidy q → Keeps q S (f b)) :
    Keeps q S (get >>= f) :=
  ⟨fun b hb => (hf b hb).run b hb⟩

theorem set_of {b : Builder} (hb : b.arena.Tidy q) : KeepsTidy q (set b : Build Unit) :=
  ⟨fun _ _ => ⟨trivial, hb⟩⟩

theorem modify_of {f : Builder → Builder} (hf : ∀ b, (f b).arena = b.arena) :
    KeepsTidy q (modify f : Build Unit) := by
  constructor
  intro b hb
  refine ⟨trivial, ?_⟩
  show (f b).arena.Tidy q
  rw [hf]
  exact hb

theorem arena_of {f : Arena → Arena} (hf : ∀ a, a.Tidy q → (f a).Tidy q) :
    KeepsTidy q (Build.arena f) :=
  ⟨fun b hb => ⟨trivial, hf b.arena hb⟩⟩

instance (a : α) : KeepsTidy q (pure a : Build α) := pure_of trivial

instance (m : Build α) (f : α → Build β) [KeepsTidy q m] [∀ a, Keeps q S (f a)] :
    Keeps q S (m >>= f) :=
  andThen fun _ => inferInstance

instance : KeepsTidy q (get : Build Builder) := ⟨fun _ hb => ⟨trivial, hb⟩⟩

instance (m : Build α) [KeepsTidy q m] : KeepsTidy q (discard m) :=
  ⟨fun b hb => ⟨trivial, (‹KeepsTidy q m›.run b hb).2⟩⟩

instance (c : Prop) [Decidable c] (m m' : Build α) [Keeps q R m] [Keeps q R m'] :
    Keeps q R (if c then m else m') := by
  split <;> infer_instance

/-- A change of all but the arena. -/
instance (f₁ f₂ : Builder → InsertionMode) (f₃ : Builder → List InsertionMode)
    (f₄ : Builder → List NodeId) (f₅ : Builder → List Formatting) (f₆ f₇ : Builder → Option NodeId)
    (f₈ f₉ f₁₀ f₁₁ : Builder → Bool) (f₁₂ : Builder → Nat) (f₁₃ : Builder → List Text)
    (f₁₄ : Builder → ReadingMode) :
    KeepsTidy q (modify fun b => ⟨b.arena, f₁ b, f₂ b, f₃ b, f₄ b, f₅ b, f₆ b, f₇ b, f₈ b, f₉ b, f₁₀ b,
      f₁₁ b, f₁₂ b, f₁₃ b, f₁₄ b⟩ : Build Unit) :=
  modify_of fun _ => rfl

instance (i : NodeId) : KeepsTidy q (modify (forget i) : Build Unit) := modify_of fun _ => rfl

instance (i j : NodeId) : KeepsTidy q (modify (renew i j) : Build Unit) := modify_of fun _ => rfl

end Keeps

/-! ### Steps -/

namespace Build

instance (t : Text) : KeepsTidy q (text t) :=
  .andThen fun b => .arena_of fun _ h => h.putText b.place t

theorem keeps_commentIn (i : NodeId) {t : Text} (ht : q t) : KeepsTidy q (commentIn i t) :=
  .arena_of fun _ h =>
    (h.add (p := .comment t) (fun _ he => Payload.comment.inj he ▸ ht) nofun).append fun _ =>
      Arena.isInner_add_self nofun

theorem keeps_comment {t : Text} (ht : q t) : KeepsTidy q (comment t) :=
  .andThen fun _ => .arena_of fun _ h =>
    (h.add (p := .comment t) (fun _ he => Payload.comment.inj he ▸ ht) nofun).put
      (Arena.isInner_add_self nofun)

instance (i : NodeId) (attrs : List Attr) : KeepsTidy q (arena (·.addAttrs i attrs)) :=
  .arena_of fun _ h => h.addAttrs i attrs

instance (i : NodeId) : KeepsTidy q (arena (·.detach i)) := .arena_of fun _ h => h.detach i

instance (i : NodeId) : KeepsTidy q (push i) := by unfold push; infer_instance

instance : KeepsTidy q pop := by unfold pop; infer_instance

instance (i : NodeId) : KeepsTidy q (unstack i) := by unfold unstack; infer_instance

/-- A new element is no doctype, so it may stand anywhere. -/
instance (t : Tag) : KeepsTidy q (insertClosed t) :=
  ⟨fun b hb => ⟨trivial, (hb.addElement t).put (b.arena.isInner_addElement_self t)⟩⟩

instance (t : Tag) : KeepsTidy q (insert t) := by unfold insert; infer_instance

instance (t : StartTag) : KeepsTidy q (insertFor t) := by unfold insertFor; infer_instance

instance (t : StartTag) : KeepsTidy q (insertVoid t) := by unfold insertVoid; infer_instance

instance (n : String) : KeepsTidy q (insertImplied n) := by unfold insertImplied; infer_instance

instance (m : InsertionMode) : KeepsTidy q (mode m) := by unfold mode; infer_instance

instance : KeepsTidy q noFrameset := by unfold noFrameset; infer_instance

instance (t : StartTag) (r : ReadingMode) : KeepsTidy q (insertTextual t r) := by
  unfold insertTextual; infer_instance

instance (f : Tag → Bool) : KeepsTidy q (popTo f) := by unfold popTo; infer_instance

instance (f : Tag → Bool) : KeepsTidy q (popThrough f) := by unfold popThrough; infer_instance

instance (n : String) : KeepsTidy q (popThroughNamed n) := by
  unfold popThroughNamed; infer_instance

instance (f : Tag → Bool) : KeepsTidy q (closeImplied f) := by unfold closeImplied; infer_instance

instance (n : String) : KeepsTidy q (closeImpliedBut n) := by
  unfold closeImpliedBut; infer_instance

instance : KeepsTidy q closeParagraph := by unfold closeParagraph; infer_instance

instance : KeepsTidy q closeParagraphInScope := by unfold closeParagraphInScope; infer_instance

instance : KeepsTidy q clearFormatting := by unfold clearFormatting; infer_instance

instance : KeepsTidy q markFormatting := by unfold markFormatting; infer_instance

instance : KeepsTidy q closeCell := by unfold closeCell; infer_instance

instance : KeepsTidy q resetMode := by unfold resetMode; infer_instance

/-! ### Formatting elements -/

instance (l : List (NodeId × StartTag)) : KeepsTidy q (reopenAll l) := by
  induction l with
  | nil => unfold reopenAll; infer_instance
  | cons e l ih => unfold reopenAll; infer_instance

instance : KeepsTidy q reopenFormatting := by unfold reopenFormatting; infer_instance

instance (t : StartTag) : KeepsTidy q (insertFormatting t) := by
  refine .andThen fun b => ?_
  dsimp only
  split
  · split <;> infer_instance
  · infer_instance

instance (n : String) : KeepsTidy q (closeNamed n) := by
  refine .andThen fun b => ?_
  dsimp only
  split <;> infer_instance

/-- **A block that is moved out of formatting elements.** The node moved last is no doctype: it is
the block or a new element. -/
theorem liftBlock_run {block : NodeId} (above : List NodeId) {count : Nat} {last : NodeId}
    {mark : Bookmark} {b : Builder} (hb : b.arena.Tidy q) (hl : b.arena.IsInner last) :
    ∃ r b', (liftBlock block above count last mark).run b = (r, b') ∧ b'.arena.Tidy q ∧
      b'.arena.IsInner r.1 := by
  induction above generalizing count last mark b with
  | nil => exact ⟨_, _, rfl, hb, hl⟩
  | cons i rest ih =>
    simp only [liftBlock, StateT.run_bind, StateT.run_get, pure_bind]
    cases b.formattingTag? i with
    | none => exact ih hb hl
    | some t =>
      dsimp only
      split
      · exact ih hb hl
      · have hnew := b.arena.isInner_addElement_self (htmlTag t)
        have hbelow := (hb.addElement (htmlTag t)).append (r := (b.arena.addElement (htmlTag t)).2)
          fun _ => Arena.isInner_addElement hl
        exact ih hbelow (hnew.congr Arena.payload?_append)

/-- A block goes out of formatting elements to a place below their parent, and then whatever
follows. -/
theorem liftBlock_bind {block ancestor : NodeId} {above : List NodeId} {b : Builder} {m : Build α}
    {k : NodeId × Bookmark → Build α} (hm : m = do
      let r ← liftBlock block above 1 block .replace
      arena (·.detach r.1)
      let b ← get
      arena (·.put (b.placeBelow ancestor) r.1)
      k r)
    (hb : b.arena.Tidy q) (hl : b.arena.IsInner block) (hk : ∀ r, Keeps q R (k r)) :
    R (m.run b).1 ∧ (m.run b).2.arena.Tidy q := by
  have hlift : ∃ r b', (liftBlock block above 1 block .replace).run b = (r, b') ∧
      b'.arena.Tidy q ∧ b'.arena.IsInner r.1 := liftBlock_run above hb hl
  obtain ⟨r, b', hrun, hb', hr⟩ := hlift
  have hrest : m.run b = (do
      arena (·.detach r.1)
      let b ← get
      arena (·.put (b.placeBelow ancestor) r.1)
      k r : Build α).run b' := by
    rw [hm, StateT.run_bind, hrun]
    rfl
  rw [hrest]
  exact (hk r).run _ ((hb'.detach r.1).put (hr.congr Arena.payload?_detach))

/-- The half of a formatting element that lies inside a block takes all that the block holds. The
block is an element, so no doctype is among it. -/
theorem keeps_split {block : NodeId} (hb : block ≠ 0) (t : Tag) (k : NodeId → Build α)
    [∀ i, Keeps q R (k i)] :
    Keeps q R (do
      let new ← element t
      arena fun a => (a.moveKids block new).append block new
      k new) := by
  constructor
  intro b h
  have hnew := b.arena.isInner_addElement_self t
  have hmoved := (h.addElement t).moveKids (r := (b.arena.addElement t).2) hb
  have hall := hmoved.append (r := block) fun _ => hnew.congr Arena.payload?_moveKids
  exact (inferInstance : Keeps q R (k _)).run _ hall

instance (old new : NodeId) (t : StartTag) (mark : Bookmark) :
    KeepsTidy q (settle old new t mark) := by
  refine .modify_of fun b => ?_
  cases mark <;> rfl

instance (n : String) : KeepsTidy q (splitOnce n) := by
  constructor
  intro b hb
  -- only the first step is taken apart, so that the others stay what instances are found for
  rw [splitOnce, StateT.run_bind, StateT.run_get, pure_bind]
  dsimp only
  split
  · exact (inferInstance : KeepsTidy q (do closeNamed n; return false)).run b hb
  · rename_i element t _
    split
    · exact (inferInstance : KeepsTidy q (do modify (forget element); return false)).run b hb
    split
    · exact ⟨trivial, hb⟩
    split
    · exact ⟨trivial, hb⟩
    · rename_i block hblock
      have hspecial : b.hasTag Tag.isSpecial block = true :=
        (List.mem_filter.1 (List.mem_of_getLast? hblock)).2
      obtain ⟨u, hu, -⟩ := (Option.any_eq_true _ _).1 hspecial
      refine liftBlock_bind (R := fun _ => True) rfl hb (Arena.isInner_of_tag? hu) fun r => ?_
      exact keeps_split (hb.ne_zero hu) _ _

instance (n : String) (k : Nat) : KeepsTidy q (splitRounds n k) := by
  induction k with
  | zero => unfold splitRounds; infer_instance
  | succ k ih => unfold splitRounds; infer_instance

instance (n : String) : KeepsTidy q (closeFormatting n) := by unfold closeFormatting; infer_instance

end Build

end HtmlCanon.Html
