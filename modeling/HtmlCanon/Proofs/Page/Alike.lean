import HtmlCanon.Proofs.Page.Verbatim

/-!
# Lines that are left alike

Two lists of lines may differ and still be the same lines once they are set out, for blank lines go
and returns are stripped off. The width that they are set out by is that of the first line, so that
line counts even if it is blank.

* `Agree` : lines that are left alike and start at the same depth.
* `Alike` : lines that are left alike when they are set out by the width of the first of them.
* `Alike.setOut_eq` : **alike lines give the same text**.
-/

namespace HtmlCanon.Page

/-! ### Lines that start at a depth -/

/-- Lines the first of which is set in by a number of steps. -/
def StartsAt (depth : Nat) (ls : List Text) : Prop := ls ≠ [] → firstWidth ls = 2 * depth

/-- Lines that are left alike when they are set out, and that start at the same depth. -/
structure Agree (depth : Nat) (ls ms : List Text) : Prop where
  lines : ∀ w, setOut w ls = setOut w ms
  left : StartsAt depth ls
  right : StartsAt depth ms

variable {depth : Nat} {ls ms ls' ms' : List Text}

theorem StartsAt.append (h : StartsAt depth ls) (h' : StartsAt depth ms) :
    StartsAt depth (ls ++ ms) := by
  intro hne
  by_cases hls : ls = []
  · subst hls
    exact h' hne
  · rw [firstWidth_append hls]
    exact h hls

theorem StartsAt.head (h : StartsAt depth ls) (hne : ls ≠ []) (ms : List Text) :
    StartsAt depth (ls ++ ms) := by
  intro _
  rw [firstWidth_append hne]
  exact h hne

theorem startsAt_cons {x : Text} (hx : ∀ c ∈ x.head?, isIndent c = false) (ls : List Text) :
    StartsAt depth ((indent depth ++ x) :: ls) := by
  intro _
  have hindent : ∀ n, ((List.replicate n ' ' ++ x).takeWhile isIndent).length = n := by
    intro n
    induction n with
    | zero =>
      cases x with
      | nil => rfl
      | cons c r => simp [hx c rfl]
    | succ n ih => simp [List.replicate_succ, isIndent, ih]
  exact hindent (2 * depth)

namespace Agree

theorem nil : Agree depth [] [] := ⟨fun _ => rfl, nofun, nofun⟩

theorem refl (h : StartsAt depth ls) : Agree depth ls ls := ⟨fun _ => rfl, h, h⟩

theorem append (h : Agree depth ls ms) (h' : Agree depth ls' ms') :
    Agree depth (ls ++ ls') (ms ++ ms') where
  lines w := by rw [setOut_append, setOut_append, h.lines, h'.lines]
  left := h.left.append h'.left
  right := h.right.append h'.right

end Agree

/-- Markup that is written in a line of its own. -/
theorem startsAt_angle {m r : Text} (hm : repairText m = '<' :: r) :
    StartsAt depth (repairedLines [indent depth ++ m]) := by
  obtain ⟨l, ls, hr⟩ := List.exists_cons_of_ne_nil (splitLines_ne_nil r)
  have hlines : repairedLines [indent depth ++ m] = (indent depth ++ '<' :: l) :: ls := by
    rw [repairedLines_singleton, hm]
    exact splitLines_indent depth (splitLines_cons (by decide) hr)
  rw [hlines]
  refine startsAt_cons (fun c hc => ?_) ls
  obtain rfl := Option.some.inj hc
  decide

theorem agree_angle {m m' r : Text} (hm : repairText m = '<' :: r)
    (h : repairText m' = repairText m) :
    Agree depth (repairedLines [indent depth ++ m]) (repairedLines [indent depth ++ m']) := by
  have hsame : repairedLines [indent depth ++ m'] = repairedLines [indent depth ++ m] := by
    rw [repairedLines_singleton, repairedLines_singleton, h]
  rw [hsame]
  exact .refl (startsAt_angle hm)

/-! ### Lines set out by the first of them -/

/-- Lines that are left alike when they are set out by the width of the first of them. -/
structure Alike (ls ms : List Text) : Prop where
  lines : ∀ w, setOut w ls = setOut w ms
  width : setOut 0 ls ≠ [] → firstWidth ls = firstWidth ms

/-- Whether a line shows does not depend on how far it is set out. -/
theorem setOut_eq_nil_iff (w : Nat) (ls : List Text) :
    setOut w ls = [] ↔ ls.all isBlankText = true := by
  induction ls with
  | nil => simp [setOut]
  | cons l ls ih =>
    rw [setOut_cons, List.all_cons]
    cases isBlankText l with
    | true => simpa using ih
    | false => simp

namespace Alike

theorem refl (ls : List Text) : Alike ls ls := ⟨fun _ => rfl, fun _ => rfl⟩

/-- **Alike lines give the same text.** -/
theorem setOut_eq (h : Alike ls ms) : setOut (firstWidth ls) ls = setOut (firstWidth ms) ms := by
  -- the first lines may differ where no line shows, but then nothing is left
  by_cases hnil : setOut 0 ls = []
  · have hms : setOut 0 ms = [] := by rw [← h.lines, hnil]
    rw [(setOut_eq_nil_iff _ ls).2 ((setOut_eq_nil_iff 0 ls).1 hnil),
      (setOut_eq_nil_iff _ ms).2 ((setOut_eq_nil_iff 0 ms).1 hms)]
  · rw [h.width hnil, h.lines]

/-- The same lines may come first. -/
theorem append_left (h : Alike ls ms) (ks : List Text) : Alike (ks ++ ls) (ks ++ ms) := by
  refine ⟨fun w => by rw [setOut_append, setOut_append, h.lines], fun hne => ?_⟩
  by_cases hks : ks = []
  · subst hks
    exact h.width hne
  · rw [firstWidth_append hks, firstWidth_append hks]

end Alike

theorem Agree.alike (h : Agree depth ls ms) : Alike ls ms := by
  refine ⟨h.lines, fun hne => ?_⟩
  have hls : ls ≠ [] := by
    rintro rfl
    exact hne rfl
  have hms : ms ≠ [] := by
    rintro rfl
    exact hne (h.lines 0)
  rw [h.left hls, h.right hms]

/-- Other lines may follow that are only left alike. -/
theorem Agree.alike_append (h : Agree depth ls ms) (hls : ls ≠ []) (hms : ms ≠ [])
    (h' : ∀ w, setOut w ls' = setOut w ms') : Alike (ls ++ ls') (ms ++ ms') := by
  refine ⟨fun w => by rw [setOut_append, setOut_append, h.lines, h'], fun _ => ?_⟩
  rw [firstWidth_append hls, firstWidth_append hms, h.left hls, h.right hms]

end HtmlCanon.Page
