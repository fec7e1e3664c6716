import HtmlCanon.Html.Builder
import HtmlCanon.Proofs.Html.Within
import Mathlib.Data.List.Basic

/-!
# Tidy arenas

While a page is read, nodes are added, moved and taken away in many ways. Two things stay true of
the arena through all of them: every comment in it has a property that the comments in the input
have, and doctypes stand at the top of the page only.

* `Arena.Tidy` : the two facts, with what else is needed to keep them.
* `Tidy.append`, `Tidy.put`, `Tidy.moveKids`, `Tidy.putText` : **what an arena becomes is tidy**.
* `Tidy.comments_document`, `Tidy.doctypes_document` : the finished document.
-/

namespace HtmlCanon.Html

/-- A node that is no comment, or one that satisfies `q`. -/
def CommentIs (q : Text → Prop) (n : Node) : Prop := ∀ t, n = .comment t → q t

/-- Two payloads of one kind. A text may have other characters and an element another tag. -/
inductive Payload.Alike : Payload → Payload → Prop where
  | refl (p : Payload) : Alike p p
  | text (t u : Text) : Alike (.text t) (.text u)
  | element (t u : Tag) (c : Option NodeId) : Alike (.element t c) (.element u c)

namespace Arena

/-- What a node is. -/
def payload? (a : Arena) (i : NodeId) : Option Payload := a.cells[i]?.map Cell.payload

/-- A node that is there and is no doctype. -/
def IsInner (a : Arena) (i : NodeId) : Prop := ∃ p, a.payload? i = some p ∧ ∀ d, p ≠ .doctype d

/-- An arena whose comments all satisfy `q` and whose doctypes stand at the top only. Node 0 is the
top, so it is not what a template holds. -/
structure Tidy (q : Text → Prop) (a : Arena) : Prop where
  root : a.payload? 0 = some .root
  comment : ∀ {i : NodeId} {t : Text}, a.payload? i = some (.comment t) → q t
  content : ∀ {i c : NodeId} {t : Tag}, a.payload? i = some (.element t (some c)) → c ≠ 0
  kids : ∀ {i k : NodeId}, i ≠ 0 → k ∈ a.kids i → a.IsInner k

variable {q : Text → Prop} {a : Arena} {i j k : NodeId} {p : Payload}

/-! ### Payloads -/

theorem isInner_of_tag? {t : Tag} (h : a.tag? i = some t) : a.IsInner i := by
  unfold tag? at h
  split at h
  · rename_i u c hp
    exact ⟨_, hp, nofun⟩
  · cases h

theorem IsInner.congr {a' : Arena} (h : a.IsInner i) (hp : a'.payload? i = a.payload? i) :
    a'.IsInner i := by
  obtain ⟨p, hi, hd⟩ := h
  exact ⟨p, hp.trans hi, hd⟩

/-- A cell of a changed arena. -/
theorem cell_modify {f : Cell → Cell} :
    (a.modify i f).cells[j]? = if i = j then a.cells[j]?.map f else a.cells[j]? := by
  simp only [Arena.modify, Array.getElem?_modify]

theorem payload?_modify {f : Cell → Cell} (hf : ∀ c, (f c).payload = c.payload) :
    (a.modify i f).payload? j = a.payload? j := by
  rw [payload?, cell_modify]
  split
  · rw [Option.map_map]
    exact congrArg (a.cells[j]?.map ·) (funext hf)
  · rfl

@[simp] theorem payload?_detach : (a.detach i).payload? j = a.payload? j := by
  unfold detach
  split
  · rfl
  · rw [payload?_modify, payload?_modify]
    all_goals exact fun _ => rfl

@[simp] theorem payload?_append {r : NodeId} : (a.append r i).payload? j = a.payload? j := by
  rw [append, payload?_modify, payload?_modify, payload?_detach]
  all_goals exact fun _ => rfl

/-- A node that is something is there. -/
theorem lt_size (h : a.payload? j = some p) : j < a.cells.size := by
  by_contra hn
  rw [payload?, Array.getElem?_eq_none (Nat.le_of_not_lt hn)] at h
  cases h

theorem payload?_add_self (a : Arena) (p : Payload) : (a.add p).1.payload? (a.add p).2 = some p := by
  simp [add, payload?]

/-- A new node changes no other. -/
theorem payload?_add {r : Payload} (h : a.payload? j = some p) :
    (a.add r).1.payload? j = some p := by
  have hj := lt_size h
  rw [← h]
  simp [add, payload?, Array.getElem?_push, Nat.ne_of_lt hj]

theorem isInner_add {r : Payload} (h : a.IsInner j) : (a.add r).1.IsInner j := by
  obtain ⟨p, hp, hd⟩ := h
  exact ⟨p, payload?_add hp, hd⟩

theorem isInner_add_self (hd : ∀ d, p ≠ .doctype d) : (a.add p).1.IsInner (a.add p).2 :=
  ⟨p, payload?_add_self a p, hd⟩

theorem isInner_addElement {t : Tag} (h : a.IsInner j) : (a.addElement t).1.IsInner j := by
  unfold addElement
  split
  · exact isInner_add (isInner_add h)
  · exact isInner_add h

/-- A new element is an element. -/
theorem isInner_addElement_self (a : Arena) (t : Tag) :
    (a.addElement t).1.IsInner (a.addElement t).2 := by
  unfold addElement
  split
  · exact isInner_add_self nofun
  · exact isInner_add_self nofun

@[simp] theorem payload?_moveKids {r : NodeId} : (a.moveKids i r).payload? j = a.payload? j := by
  have hall : ∀ ks : List NodeId, ∀ a' : Arena,
      (ks.foldl (fun a k => a.append r k) a').payload? j = a'.payload? j := by
    intro ks
    induction ks with
    | nil => exact fun _ => rfl
    | cons k ks ih => exact fun a' => (ih _).trans payload?_append
  exact hall (a.kids i) a

/-! ### Steps -/

namespace Tidy

/-- The top is no element. -/
theorem ne_zero {t : Tag} (h : Tidy q a) (ht : a.tag? i = some t) : i ≠ 0 := by
  rintro rfl
  unfold tag? at ht
  rw [show a.cells[0]?.map Cell.payload = some .root from h.root] at ht
  cases ht

theorem new : Tidy q Arena.new where
  root := rfl
  comment := by
    intro i t h
    match i with
    | 0 => cases h
    | i + 1 => cases h
  content := by
    intro i c t h
    match i with
    | 0 => cases h
    | i + 1 => cases h
  kids := by
    intro i k hi hk
    match i with
    | 0 => exact absurd rfl hi
    | i + 1 => cases hk

/-- **A changed cell**: what it holds stays of one kind, and what stands below it may stand there. -/
theorem modify (h : Tidy q a) {f : Cell → Cell}
    (hf : ∀ c, a.cells[i]? = some c → c.payload.Alike (f c).payload)
    (hk : i ≠ 0 → ∀ c, a.cells[i]? = some c → ∀ k ∈ (f c).kids, a.IsInner k) :
    Tidy q (a.modify i f) := by
  -- what a node is after the change, it was before it
  have hpayload : ∀ j, (a.modify i f).payload? j = a.payload? j ∨
      ∃ r s, a.payload? j = some r ∧ (a.modify i f).payload? j = some s ∧ r.Alike s := by
    intro j
    by_cases hij : i = j
    · subst hij
      cases hc : a.cells[i]? with
      | none => exact .inl (by simp [payload?, cell_modify, hc])
      | some c =>
        exact .inr ⟨_, _, by simp [payload?, hc], by simp [payload?, cell_modify, hc], hf c hc⟩
    · exact .inl (by rw [payload?, cell_modify, if_neg hij]; rfl)
  have hinner : ∀ j, a.IsInner j → (a.modify i f).IsInner j := by
    rintro j ⟨r, hr, hd⟩
    rcases hpayload j with he | ⟨r', s, hr', hs, hrs⟩
    · exact ⟨r, he.trans hr, hd⟩
    · obtain rfl : r' = r := Option.some.inj (hr'.symm.trans hr)
      refine ⟨s, hs, ?_⟩
      cases hrs with
      | refl => exact hd
      | text => nofun
      | element => nofun
  constructor
  · rcases hpayload 0 with he | ⟨r, s, hr, hs, hrs⟩
    · exact he.trans h.root
    · obtain rfl : r = .root := Option.some.inj (hr.symm.trans h.root)
      cases hrs
      exact hs
  · intro j t hj
    rcases hpayload j with he | ⟨r, s, hr, hs, hrs⟩
    · exact h.comment (he.symm.trans hj)
    · obtain rfl : s = .comment t := Option.some.inj (hs.symm.trans hj)
      cases hrs
      exact h.comment hr
  · intro j c t hj
    rcases hpayload j with he | ⟨r, s, hr, hs, hrs⟩
    · exact h.content (he.symm.trans hj)
    · obtain rfl : s = .element t (some c) := Option.some.inj (hs.symm.trans hj)
      cases hrs with
      | refl => exact h.content hr
      | element => exact h.content hr
  · intro j k hj hkids
    by_cases hij : i = j
    · subst hij
      cases hc : a.cells[i]? with
      | none => simp [Arena.kids, cell_modify, hc] at hkids
      | some c =>
        simp only [Arena.kids, cell_modify, hc, if_true, Option.map_some, Option.getD_some] at hkids
        exact hinner k (hk hj c hc k hkids)
    · simp only [Arena.kids, cell_modify, if_neg hij] at hkids
      exact hinner k (h.kids hj hkids)

/-- A node that gets another parent. -/
theorem reparent (h : Tidy q a) (i : NodeId) (r : Option NodeId) :
    Tidy q (a.modify i fun c => { c with parent := r }) :=
  h.modify (fun c _ => .refl c.payload) fun hi c hc k hk => h.kids hi (by simpa [Arena.kids, hc] using hk)

theorem detach (h : Tidy q a) (i : NodeId) : Tidy q (a.detach i) := by
  unfold Arena.detach
  split
  · exact h
  · rename_i r _
    refine Tidy.reparent (h.modify ?_ ?_) i none
    · exact fun c _ => .refl c.payload
    · intro hr c hc k hk
      exact h.kids hr (by simpa [Arena.kids, hc] using (List.mem_filter.1 hk).1)

/-- **A node that becomes the last child of another.** Below the top it must not be a doctype. -/
theorem append (h : Tidy q a) {r : NodeId} (hi : r ≠ 0 → a.IsInner i) : Tidy q (a.append r i) := by
  have hd := h.detach i
  refine Tidy.reparent (hd.modify ?_ ?_) i (some r)
  · exact fun c _ => .refl c.payload
  · intro hr c hc k hk
    rcases List.mem_append.1 hk with hk | hk
    · exact hd.kids hr (by simpa [Arena.kids, hc] using hk)
    · obtain rfl := List.mem_singleton.1 hk
      exact (hi hr).congr payload?_detach

theorem insertBefore (h : Tidy q a) {r : NodeId} (hi : a.IsInner i) :
    Tidy q (a.insertBefore r i) := by
  unfold Arena.insertBefore
  split
  · exact h
  · rename_i s _
    have hd := h.detach i
    refine Tidy.reparent (hd.modify ?_ ?_) i (some s)
    · exact fun c _ => .refl c.payload
    · intro hs c hc k hk
      obtain ⟨l, hl, hkl⟩ := List.mem_flatMap.1 hk
      have hold : (a.detach i).IsInner l := hd.kids hs (by simpa [Arena.kids, hc] using hl)
      split at hkl
      · rcases List.mem_pair.1 hkl with rfl | rfl
        · exact hi.congr payload?_detach
        · exact hold
      · obtain rfl := List.mem_singleton.1 hkl
        exact hold

/-- **A node that is put at a place.** -/
theorem put (h : Tidy q a) {r : Builder.Place} (hi : a.IsInner i) : Tidy q (a.put r i) := by
  unfold Arena.put
  split
  · exact h.append fun _ => hi
  · split
    · exact h.insertBefore hi
    · exact h.append fun _ => hi

/-- **A new node** that stands nowhere yet. -/
theorem add (h : Tidy q a) (hq : ∀ t, p = .comment t → q t)
    (hc : ∀ t c, p = .element t (some c) → c ≠ 0) : Tidy q (a.add p).1 := by
  -- what a node is, it was before or it is the new one
  have hpayload : ∀ {j r}, (a.add p).1.payload? j = some r → a.payload? j = some r ∨ r = p := by
    intro j r hj
    by_cases hn : j = a.cells.size
    · subst hn
      exact .inr (Option.some.inj (hj.symm.trans (payload?_add_self a p)))
    · refine .inl (Eq.trans ?_ hj)
      simp [Arena.add, payload?, Array.getElem?_push, hn]
  constructor
  · exact payload?_add h.root
  · intro j t hj
    rcases hpayload hj with hj | hj
    · exact h.comment hj
    · exact hq t hj.symm
  · intro j c t hj
    rcases hpayload hj with hj | hj
    · exact h.content hj
    · exact hc t c hj.symm
  · intro j k hj hk
    by_cases hn : j = a.cells.size
    · simp [Arena.kids, Arena.add, hn] at hk
    · have hold : (a.add p).1.kids j = a.kids j := by
        simp [Arena.kids, Arena.add, Array.getElem?_push, hn]
      exact isInner_add (h.kids hj (hold ▸ hk))

theorem addElement (h : Tidy q a) (t : Tag) : Tidy q (a.addElement t).1 := by
  unfold Arena.addElement
  split
  · have hroot : Tidy q (a.add .root).1 := h.add nofun nofun
    refine hroot.add nofun fun u c he => ?_
    -- the content of the template is not the first node, which there was before
    injection he with _ hc
    obtain rfl := Option.some.inj hc
    exact Nat.ne_of_gt (lt_size h.root)
  · exact h.add nofun nofun

/-- Characters at the end of a text. -/
theorem extendText? {r : Option NodeId} {t : Text} {a' : Arena} (h : Tidy q a)
    (he : a.extendText? r t = some a') : Tidy q a' := by
  obtain ⟨i, -, he⟩ := Option.bind_eq_some_iff.1 he
  obtain ⟨c, hc, he⟩ := Option.bind_eq_some_iff.1 he
  split at he
  · rename_i old hp
    obtain rfl := Option.some.inj he
    refine h.modify (fun d hd => ?_) fun hi d hd k hk => h.kids hi (by simpa [Arena.kids, hd] using hk)
    obtain rfl : c = d := Option.some.inj (hc.symm.trans hd)
    rw [hp]
    exact .text old (old ++ t)
  · cases he

theorem appendText (h : Tidy q a) (r : NodeId) (t : Text) : Tidy q (a.appendText r t) := by
  unfold Arena.appendText
  split
  · rename_i a' he
    exact h.extendText? he
  · exact (h.add (p := .text t) nofun nofun).append fun _ => isInner_add_self nofun

theorem insertTextBefore (h : Tidy q a) (r : NodeId) (t : Text) :
    Tidy q (a.insertTextBefore r t) := by
  unfold Arena.insertTextBefore
  split
  · rename_i a' he
    exact h.extendText? he
  · exact (h.add (p := .text t) nofun nofun).insertBefore (isInner_add_self nofun)

/-- **Characters that are put at a place.** -/
theorem putText (h : Tidy q a) (r : Builder.Place) (t : Text) : Tidy q (a.putText r t) := by
  unfold Arena.putText
  split
  · exact h.appendText _ t
  · split
    · exact h.insertTextBefore _ t
    · exact h.appendText _ t

theorem addAttrs (h : Tidy q a) (i : NodeId) (attrs : List Attr) : Tidy q (a.addAttrs i attrs) := by
  refine h.modify (fun c _ => ?_) fun hi c hc k hk => h.kids hi ?_
  · split
    · rename_i t r hp
      rw [hp]
      exact .element _ _ r
    · exact .refl c.payload
  · have hsame : k ∈ c.kids := by
      split at hk
      · exact hk
      · exact hk
    simpa [Arena.kids, hc] using hsame

/-- **The children of a node that go to another.** Those of the top stay there. -/
theorem moveKids (h : Tidy q a) {r : NodeId} (hi : i ≠ 0) : Tidy q (a.moveKids i r) := by
  have hall : ∀ ks : List NodeId, ∀ a' : Arena, Tidy q a' → (∀ k ∈ ks, a'.IsInner k) →
      Tidy q (ks.foldl (fun a k => a.append r k) a') := by
    intro ks
    induction ks with
    | nil => exact fun a' h' _ => h'
    | cons k ks ih =>
      intro a' h' hks
      refine ih _ (h'.append fun _ => hks k List.mem_cons_self) fun l hl => ?_
      exact (hks l (List.mem_cons_of_mem k hl)).congr payload?_append
  exact hall (a.kids i) a h fun k hk => h.kids hi hk

/-! ### The finished document -/

/-- **Every comment of the finished document** satisfies `q`. -/
theorem comments_forest (h : Tidy q a) (n : Nat) (i : NodeId) :
    Everywhere (CommentIs q) (a.forest n i) := by
  induction n generalizing i with
  | zero => exact .nil
  | succ n ih =>
    refine .of_mem fun m hm => ?_
    obtain ⟨k, -, hk⟩ := List.mem_filterMap.1 hm
    split at hk
    · obtain rfl := Option.some.inj hk
      exact .text nofun
    · rename_i t hp
      obtain rfl := Option.some.inj hk
      refine .comment fun u hu => ?_
      obtain rfl := Node.comment.inj hu
      exact h.comment hp
    · obtain rfl := Option.some.inj hk
      exact .doctype nofun
    · rename_i t c hp
      obtain rfl := Option.some.inj hk
      refine .element nofun ?_ (ih k)
      cases c with
      | none => exact .nil
      | some c => exact ih c
    · cases hk

theorem comments_document (h : Tidy q a) : Everywhere (CommentIs q) a.document :=
  h.comments_forest a.cells.size 0

/-- Below the top there is no doctype. -/
theorem doctypes_forest (h : Tidy q a) (n : Nat) (hi : i ≠ 0) :
    Everywhere (¬Node.IsDoctype ·) (a.forest n i) := by
  induction n generalizing i with
  | zero => exact .nil
  | succ n ih =>
    refine .of_mem fun m hm => ?_
    obtain ⟨k, hkids, hk⟩ := List.mem_filterMap.1 hm
    split at hk
    · obtain rfl := Option.some.inj hk
      exact .text nofun
    · obtain rfl := Option.some.inj hk
      exact .comment nofun
    · rename_i d hp
      obtain ⟨r, hr, hd⟩ := h.kids hi hkids
      exact absurd (Option.some.inj (hr.symm.trans hp)) (hd d)
    · rename_i t c hp
      obtain rfl := Option.some.inj hk
      refine .element nofun ?_ (ih ?_)
      · cases c with
        | none => exact .nil
        | some c => exact ih (h.content hp)
      · exact h.ne_zero (show a.tag? k = some t by rw [tag?, hp])
    · cases hk

/-- **A doctype of the finished document** stands at its top. -/
theorem doctypes_document (h : Tidy q a) :
    ∀ n ∈ a.document, n.IsDoctype ∨ Everywhere (¬Node.IsDoctype ·) [n] := by
  intro m hm
  rw [document] at hm
  cases hn : a.cells.size with
  | zero => rw [hn] at hm; cases hm
  | succ n =>
    rw [hn] at hm
    obtain ⟨k, -, hk⟩ := List.mem_filterMap.1 hm
    split at hk
    · obtain rfl := Option.some.inj hk
      exact .inr (.text nofun)
    · obtain rfl := Option.some.inj hk
      exact .inr (.comment nofun)
    · rename_i d hp
      obtain rfl := Option.some.inj hk
      exact .inl ⟨d, rfl⟩
    · rename_i t c hp
      obtain rfl := Option.some.inj hk
      refine .inr (.element nofun ?_ (h.doctypes_forest n ?_))
      · cases c with
        | none => exact .nil
        | some c => exact h.doctypes_forest n (h.content hp)
      · exact h.ne_zero (show a.tag? k = some t by rw [tag?, hp])
    · cases hk

end Tidy

end Arena

end HtmlCanon.Html
