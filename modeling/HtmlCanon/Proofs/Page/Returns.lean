import HtmlCanon.Proofs.Page.Emptied

/-!
# Returns at the ends of lines

Returns go off a line in passes. A pass takes the carriage returns at the end, then one reference of
each kind where the line ends in it by then, and the passes are over with the first one that takes
nothing. In whatever order returns stand, what goes is the longest row of them.

* `stripPass_split` : a pass takes a row of returns.
* `passes_iff` : **the passes come to an end**, and to what `stripReturns` leaves.
* `stripReturns_isPrefix_of_row` : no longer row could go.
* `passes_longest` : **the longest row goes**, and no line of a canonical form ends in a return.
-/

namespace HtmlCanon.Page

variable {l m : Text} {ws : List Text}

/-! ### One pass -/

/-- The references to a carriage return, in the order in which a pass looks for them. -/
def references : List Text := ["&#13;".toList, "&#xD;".toList, "&#xd;".toList]

/-- A line without a word at its end, if it ends in the word. -/
def dropEnd (l w : Text) : Text := (l.dropSuffix? w).getD l

/-- One pass over a line: the carriage returns at its end go, and then one reference of each kind, if
the line ends in it when its turn comes. -/
def stripPass (l : Text) : Text := references.foldl dropEnd (dropTailWhile (· == '\r') l)

/-- Whether some texts are returns, one after the other. -/
def IsRow (xs : List Text) : Prop := ∀ x ∈ xs, x ∈ returns

theorem IsRow.append {xs ys : List Text} (hx : IsRow xs) (hy : IsRow ys) : IsRow (xs ++ ys) := by
  intro x h
  rcases List.mem_append.1 h with h | h
  · exact hx x h
  · exact hy x h

theorem dropEnd_append (l w : Text) : dropEnd (l ++ w) w = l := by
  have h : (l ++ w).dropSuffix? w = some l := List.dropSuffix?_eq_some_iff.2 ⟨w, rfl, beq_self_eq_true w⟩
  rw [dropEnd, h, Option.getD_some]

theorem dropEnd_of_not_suffix {w : Text} (h : ¬w <:+ l) : dropEnd l w = l := by
  cases hd : l.dropSuffix? w with
  | none => rw [dropEnd, hd, Option.getD_none]
  | some p =>
    obtain ⟨w', rfl, hw⟩ := List.dropSuffix?_eq_some_iff.1 hd
    obtain rfl := eq_of_beq hw
    exact absurd (List.suffix_append p w') h

/-- What goes in a pass over some words is a row of them. -/
theorem foldl_dropEnd_split (ws : List Text) (l : Text) :
    ∃ xs : List Text, (∀ x ∈ xs, x ∈ ws) ∧ l = ws.foldl dropEnd l ++ xs.flatten := by
  induction ws generalizing l with
  | nil => exact ⟨[], List.forall_mem_nil _, (List.append_nil l).symm⟩
  | cons w ws ih =>
    by_cases h : w <:+ l
    · obtain ⟨p, rfl⟩ := h
      obtain ⟨xs, hxs, hp⟩ := ih p
      refine ⟨xs ++ [w], fun x hx => ?_, ?_⟩
      · rcases List.mem_append.1 hx with hx | hx
        · exact List.mem_cons_of_mem w (hxs x hx)
        · exact List.mem_singleton.1 hx ▸ List.mem_cons_self
      · rw [List.foldl_cons, dropEnd_append, List.flatten_concat, ← List.append_assoc, ← hp]
    · obtain ⟨xs, hxs, hl⟩ := ih l
      refine ⟨xs, fun x hx => List.mem_cons_of_mem w (hxs x hx), ?_⟩
      rw [List.foldl_cons, dropEnd_of_not_suffix h]
      exact hl

/-- A pass over some words takes one that the line ends in, so it is shorter after it. -/
theorem foldl_dropEnd_lt {w : Text} (hw : w ∈ ws) (hpos : ∀ x ∈ ws, 0 < x.length) (h : w <:+ l) :
    (ws.foldl dropEnd l).length < l.length := by
  induction ws with
  | nil => cases hw
  | cons v ws ih =>
    by_cases hv : v <:+ l
    · obtain ⟨p, rfl⟩ := hv
      obtain ⟨xs, -, hp⟩ := foldl_dropEnd_split ws p
      have hlen := congrArg List.length hp
      have hvpos := hpos v List.mem_cons_self
      rw [List.foldl_cons, dropEnd_append]
      rw [List.length_append] at hlen ⊢
      omega
    · have hmem : w ∈ ws := (List.mem_cons.1 hw).resolve_left fun hwv => hv (hwv ▸ h)
      rw [List.foldl_cons, dropEnd_of_not_suffix hv]
      exact ih hmem fun x hx => hpos x (List.mem_cons_of_mem v hx)

/-- **A pass takes a row of returns.** -/
theorem stripPass_split (l : Text) : ∃ xs, IsRow xs ∧ l = stripPass l ++ xs.flatten := by
  have hreferences : ∀ x ∈ references, x ∈ returns := by decide
  obtain ⟨u, hu, hall⟩ := dropTailWhile_split (· == '\r') l
  obtain ⟨xs, hxs, hrest⟩ := foldl_dropEnd_split references (dropTailWhile (· == '\r') l)
  have hreturns : IsRow (u.map fun c => [c]) := by
    intro x hx
    obtain ⟨c, hc, rfl⟩ := List.mem_map.1 hx
    obtain rfl := eq_of_beq (List.all_eq_true.1 hall c hc)
    exact List.mem_cons_self
  refine ⟨xs ++ u.map fun c => [c], IsRow.append (fun x hx => hreferences x (hxs x hx)) hreturns, ?_⟩
  rw [List.flatten_append, ← List.append_assoc, stripPass, ← hrest, ← List.flatMap_def,
    List.flatMap_singleton']
  exact hu

theorem stripPass_length_le (l : Text) : (stripPass l).length ≤ l.length := by
  obtain ⟨xs, -, hl⟩ := stripPass_split l
  have hlen := congrArg List.length hl
  rw [List.length_append] at hlen
  omega

/-- What is left of a line in the end does not depend on whether a pass has been made. -/
theorem stripReturns_stripPass (l : Text) : stripReturns (stripPass l) = stripReturns l := by
  obtain ⟨xs, hxs, hl⟩ := stripPass_split l
  conv_rhs => rw [hl, stripReturns_append_row hxs]

/-- A line that ends in a return is shorter after a pass. -/
theorem stripPass_length_lt (h : endsInReturn l = true) : (stripPass l).length < l.length := by
  obtain ⟨x, hx, hsuffix⟩ := endsInReturn_iff.1 h
  obtain ⟨u, hu, hall⟩ := dropTailWhile_split (· == '\r') l
  have hlen := congrArg List.length hu
  rw [List.length_append] at hlen
  by_cases hnone : u = []
  · -- no carriage return goes, so the return is a reference
    rw [hnone, List.append_nil] at hu
    have hreference : x ∈ references := by
      refine (List.mem_cons.1 hx).resolve_left ?_
      rintro rfl
      obtain ⟨p, rfl⟩ : ∃ p, p ++ ['\r'] = l := hsuffix
      have hshorter := (List.rdropWhile_prefix (· == '\r') p).length_le
      rw [dropTailWhile_append (by decide), dropTailWhile_eq] at hu
      have hsame := congrArg List.length hu
      rw [List.length_append, List.length_singleton] at hsame
      omega
    rw [stripPass, ← hu]
    exact foldl_dropEnd_lt hreference (by decide) hsuffix
  · obtain ⟨xs, -, hrest⟩ := foldl_dropEnd_split references (dropTailWhile (· == '\r') l)
    have hpos := List.length_pos_iff.2 hnone
    have hle := congrArg List.length hrest
    rw [List.length_append] at hle
    rw [stripPass]
    omega

/-- A pass takes nothing off a line only if there is nothing to take. -/
theorem stripReturns_eq_self_of_pass (h : (stripPass l).length = l.length) : stripReturns l = l := by
  refine stripReturns_eq_self_iff.2 (Bool.eq_false_iff.2 fun hend => ?_)
  have hlt := stripPass_length_lt hend
  omega

/-! ### All passes -/

/-- The passes over a line, and what is left of it with the first one that takes nothing, which is
told by the length. -/
inductive Passes : Text → Text → Prop
  | last {l : Text} (h : (stripPass l).length = l.length) : Passes l l
  | more {l m : Text} (h : (stripPass l).length ≠ l.length) (hm : Passes (stripPass l) m) : Passes l m

/-- The passes over a line come to an end, as each one but the last makes it shorter. -/
theorem passes_stripReturns (l : Text) : Passes l (stripReturns l) := by
  by_cases h : (stripPass l).length = l.length
  · rw [stripReturns_eq_self_of_pass h]
    exact .last h
  · have hlt := Nat.lt_of_le_of_ne (stripPass_length_le l) h
    rw [← stripReturns_stripPass]
    exact .more h (passes_stripReturns (stripPass l))
termination_by l.length

/-- **The passes come to an end**, and to what `stripReturns` leaves. -/
theorem passes_iff : Passes l m ↔ m = stripReturns l := by
  constructor
  · intro h
    induction h with
    | last h => exact (stripReturns_eq_self_of_pass h).symm
    | more _ _ ih => rw [ih, stripReturns_stripPass]
  · rintro rfl
    exact passes_stripReturns l

/-! ### What is left -/

/-- **No longer row could go**: what is left of a line stands in front of every row at its end. -/
theorem stripReturns_isPrefix_of_row {b : Text} {xs : List Text} (hxs : IsRow xs) :
    stripReturns (b ++ xs.flatten) <+: b := by
  rw [stripReturns_append_row hxs]
  exact stripReturns_isPrefix b

/-- What is left of a line ends in no return. -/
theorem endsInReturn_stripReturns (l : Text) : endsInReturn (stripReturns l) = false := by
  obtain ⟨xs, hxs, hl⟩ := stripReturns_split l
  refine stripReturns_eq_self_iff.1 ?_
  conv_rhs => rw [hl, stripReturns_append_row hxs]

/-- No line of a canonical form ends in a return. -/
theorem endsInReturn_canonical (p : Page) : ∀ k ∈ splitLines p.canonical, endsInReturn k = false := by
  have hfree := newline_not_mem_setOut (w := p.width) (newline_not_mem_innerLines p)
  intro k hk
  rw [canonical_eq_setOut] at hk
  by_cases hnil : setOut p.width p.innerLines = []
  · rw [hnil] at hk
    obtain rfl := List.mem_singleton.1 hk
    decide
  · rw [splitLines_joined hnil hfree] at hk
    obtain ⟨x, -, rfl⟩ := List.mem_map.1 hk
    exact endsInReturn_stripReturns x

/-- **The longest row goes.** For every line the passes come to an end, and what they leave is the line
without the longest row of returns at its end. So no line of the canonical form of a page ends in
a return. -/
theorem passes_longest (l : Text) :
    (∀ m, Passes l m ↔ m = stripReturns l) ∧
      (∃ xs, IsRow xs ∧ l = stripReturns l ++ xs.flatten ∧
        ∀ b ys, IsRow ys → l = b ++ ys.flatten → ys.flatten.length ≤ xs.flatten.length) ∧
      ∀ (p : Page), ∀ k ∈ splitLines p.canonical, ∀ x ∈ returns, ¬x <:+ k := by
  refine ⟨fun m => passes_iff, ?_, fun p k hk x hx hend => ?_⟩
  · obtain ⟨xs, hxs, hl⟩ := stripReturns_split l
    refine ⟨xs, hxs, hl, fun b ys hys hb => ?_⟩
    have hfirst := (stripReturns_isPrefix_of_row (b := b) hys).length_le
    rw [← hb] at hfirst
    have hboth := congrArg List.length (hl.symm.trans hb)
    rw [List.length_append, List.length_append] at hboth
    omega
  · have hnone := endsInReturn_canonical p k hk
    rw [endsInReturn_iff.2 ⟨x, hx, hend⟩] at hnone
    cases hnone

/-- A line with returns of three kinds at its end, which take more than one pass, and one more reference
before them that is cut short; and a page with references in a style sheet. -/
theorem passes_longest_mixedReturns :
    Passes "a&#13&#13;\r&#xD;&#13;\r".toList "a&#13".toList ∧
      IsRow ["&#13;".toList, "\r".toList] ∧
      (∃ xs : List Text, "a&#13&#13;\r&#xD;&#13;\r".toList = "a&#13".toList ++ xs.flatten ∧
        ["&#13;".toList, "\r".toList].flatten.length ≤ xs.flatten.length) ∧
      ∀ k ∈ splitLines (parse "<style>a&#13;\nb&#xd;</style>".toList).canonical,
        ∀ x ∈ returns, ¬x <:+ k := by
  have hleft : stripReturns "a&#13&#13;\r&#xD;&#13;\r".toList = "a&#13".toList := by decide
  have hrow : ∀ x ∈ ["&#13;".toList, "\r".toList], x ∈ returns := by decide
  obtain ⟨hpasses, ⟨xs, -, hl, hlongest⟩, hpages⟩ :=
    passes_longest "a&#13&#13;\r&#xD;&#13;\r".toList
  rw [hleft] at hl
  exact ⟨(hpasses _).2 hleft.symm, hrow, ⟨xs, hl, hlongest "a&#13&#13;\r&#xD;".toList _ hrow (by decide)⟩,
    hpages _⟩

end HtmlCanon.Page
