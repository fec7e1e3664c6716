import HtmlCanon.Proofs.Regex.Caseless
import Mathlib

/-!
# Pieces of patterns

A pattern is put together from words, blanks and stretches that reach up to the end mark of a tag.
What each of them stands for is told here, and how the expressions of the parts make up that of the
whole.

* `toExprs?_cons`, `toExpr?_concat`, `toExpr?_repetition`, ... : one rule for each kind of part.
* `toExprs?_parts`, `toExprs?_caseless` : a word is read character by character.
* `mem_blanks`, `mem_stretch` : the texts that blanks and stretches read.
-/

namespace HtmlCanon.Regex

open Unicode

/-! ### Sets of characters -/

/-- White space. -/
def blankSet : CharSet :=
  [(0x09, 0x0D), (0x20, 0x20), (0x85, 0x85), (0xA0, 0xA0), (0x1680, 0x1680), (0x2000, 0x200A),
    (0x2028, 0x2029), (0x202F, 0x202F), (0x205F, 0x205F), (0x3000, 0x3000)]

/-- All characters but the end mark of a tag. -/
def innerSet : CharSet := [(0, 0x3D), (0x3F, 0xD7FF), (0xE000, 0x10FFFF)]

theorem whiteSpace_eq_blankSet : whiteSpace = blankSet := by cbv

theorem compl_endMark : CharSet.compl [(0x3E, 0x3E)] = innerSet := by cbv

theorem contains_blankSet (c : Char) : blankSet.contains c = isBlank c := by
  rw [Bool.eq_iff_iff]
  simp only [CharSet.contains, CharSet.containsCode, blankSet, isBlank, List.any_cons, List.any_nil,
    Bool.or_eq_true, Bool.and_eq_true, decide_eq_true_eq, Bool.or_false, beq_iff_eq]
  omega

theorem contains_innerSet (c : Char) : innerSet.contains c = true ↔ c ≠ '>' := by
  have hvalid : c.toNat < 0xD800 ∨ 0xDFFF < c.toNat ∧ c.toNat < 0x110000 := c.valid
  rw [Ne, ← Char.toNat_inj]
  simp only [CharSet.contains, CharSet.containsCode, innerSet, List.any_cons, List.any_nil,
    Bool.or_eq_true, Bool.and_eq_true, decide_eq_true_eq, Bool.or_false]
  change _ ↔ ¬c.toNat = 0x3E
  omega

theorem contains_full (c : Char) : CharSet.full.contains c = true := by
  have hvalid : c.toNat < 0xD800 ∨ 0xDFFF < c.toNat ∧ c.toNat < 0x110000 := c.valid
  simp only [CharSet.contains, CharSet.containsCode, CharSet.full, List.any_cons, List.any_nil,
    Bool.or_eq_true, Bool.and_eq_true, decide_eq_true_eq, Bool.or_false]
  omega

/-! ### Parts -/

/-- The characters of a word as parts of a pattern. -/
def parts (w : String) : List Syntax := w.toList.map fun c => .literal ⟨c, false⟩

/-- Any number of blanks, as a part of a pattern. -/
def blankParts : Syntax := .repetition 0 none true (.charClass (.letter .space false))

/-- All that stands before the next end mark of a tag, as a part of a pattern. -/
def stretchParts : Syntax :=
  .repetition 0 none true (.charClass (.brackets true (.literal ⟨'>', false⟩)))

/-- Any number of blanks. -/
def blanks : Expr := .repetition 0 none true (.oneOf blankSet)

/-- All that stands before the next end mark of a tag. -/
def stretch : Expr := .repetition 0 none true (.oneOf innerSet)

section Parts

variable {f g h : Flags} {s : Syntax} {ss : List Syntax} {e : Expr} {es : List Expr} {w : String}

theorem toExprs?_nil : Syntax.toExprs? f [] = some ([], f) := by
  rw [Syntax.toExprs?]

theorem toExprs?_cons (hs : s.toExpr? f = some (e, g)) (hss : Syntax.toExprs? g ss = some (es, h)) :
    Syntax.toExprs? f (s :: ss) = some (e :: es, h) := by
  rw [Syntax.toExprs?, hs, Option.bind_eq_bind, Option.bind_some]
  dsimp only
  rw [hss]
  rfl

theorem toExpr?_concat (hss : Syntax.toExprs? f ss = some (es, g)) :
    (Syntax.concat ss).toExpr? f = some (.concat es, g) := by
  rw [Syntax.toExpr?, hss]
  rfl

theorem toExpr?_alternation (hss : Syntax.toExprs? f ss = some (es, g)) :
    (Syntax.alternation ss).toExpr? f = some (.alternation es, g) := by
  rw [Syntax.toExpr?, hss]
  rfl

theorem toExpr?_group (hs : s.toExpr? f = some (e, g)) :
    (Syntax.group [] s).toExpr? f = some (e, f) := by
  rw [Syntax.toExpr?, show f.update [] = f from rfl, hs]
  rfl

theorem toExpr?_repetition {m : Option Nat} {b : Bool} (hs : s.toExpr? f = some (e, g))
    (he : e.isEmptyOnly = false) (hm : m ≠ some 0) (hswap : g.swapGreed = false) :
    (Syntax.repetition 0 m b s).toExpr? f = some (.repetition 0 m b e, g) := by
  rw [Syntax.toExpr?, hs, Option.bind_eq_bind, Option.bind_some]
  simp [Expr.repeated, he, hm, hswap]

theorem toExpr?_charClass {c : ClassExpr} {set : CharSet} (hset : f.set? c = some set) :
    (Syntax.charClass c).toExpr? f = some (.ofSet set, f) := by
  rw [Syntax.toExpr?, hset]
  rfl

theorem toExpr?_literal (f : Flags) (c : Char) :
    (Syntax.literal ⟨c, false⟩).toExpr? f = some (f.charExpr c, f) := by
  simp [Syntax.toExpr?, Flags.literal?]

/-- **A word** is read character by character. -/
theorem toExprs?_parts {x : Char → Expr} (hw : ∀ c ∈ w.toList, f.charExpr c = x c)
    (hss : Syntax.toExprs? f ss = some (es, h)) :
    Syntax.toExprs? f (parts w ++ ss) = some (w.toList.map x ++ es, h) := by
  unfold parts
  generalize w.toList = w at *
  induction w with
  | nil => exact hss
  | cons c w ih =>
    obtain ⟨hc, hw⟩ := List.forall_mem_cons.1 hw
    refine toExprs?_cons ?_ (ih hw)
    rw [toExpr?_literal, hc]

/-- A word where case does not count. -/
theorem toExprs?_caseless (hf : f.caseInsensitive = true) (hu : f.unicode = true)
    (hw : w.toList.all isPlainSmall = true) (hss : Syntax.toExprs? f ss = some (es, h)) :
    Syntax.toExprs? f (parts w ++ ss) = some (w.toList.map caseless ++ es, h) :=
  toExprs?_parts (fun c hc => charExpr_eq hf hu (List.all_eq_true.1 hw c hc)) hss

/-- The end mark of a tag has no other case. -/
theorem toExpr?_endMark (hu : f.unicode = true) :
    (Syntax.literal ⟨'>', false⟩).toExpr? f = some (.char '>', f) := by
  rw [toExpr?_literal]
  cases hf : f.caseInsensitive with
  | true => rw [charExpr_eq hf hu rfl, caseless, if_neg (by decide)]
  | false => rw [Flags.charExpr, hf, Bool.false_and, if_neg Bool.false_ne_true]

theorem toExpr?_blankParts (hu : f.unicode = true) (hg : f.swapGreed = false) :
    blankParts.toExpr? f = some (blanks, f) := by
  have hset : f.set? (.letter .space false) = some blankSet := by
    simp [Flags.set?, Flags.checked, Flags.letterSet, hu, whiteSpace_eq_blankSet]
  exact toExpr?_repetition (toExpr?_charClass hset) rfl nofun hg

/-- A class in brackets holds what its members are folded to, or all other characters. -/
theorem set?_brackets {b : Bool} {c : ClassExpr} {set : CharSet} (hu : f.unicode = true)
    (hset : f.set? c = some set) :
    f.set? (.brackets b c) = some (if b then (f.fold set).compl else f.fold set) := by
  rw [Flags.set?, hset, Option.bind_some, Flags.foldNegate, Flags.checked, hu, Bool.true_or,
    if_pos rfl]

theorem fold_eq_closeCase (hf : f.caseInsensitive = true) (hu : f.unicode = true) (set : CharSet) :
    f.fold set = set.closeCase := by
  rw [Flags.fold, hf, hu, Bool.not_true, if_neg Bool.false_ne_true, if_pos rfl]

theorem fold_endMark (hu : f.unicode = true) : f.fold [(0x3E, 0x3E)] = [(0x3E, 0x3E)] := by
  cases hf : f.caseInsensitive with
  | true =>
    rw [fold_eq_closeCase hf hu, closeCase_singleton (by decide) (by decide) (by decide) (by decide),
      if_neg (by decide)]
  | false => rw [Flags.fold, hf, Bool.not_false, if_pos rfl]

theorem set?_endMark (hu : f.unicode = true) :
    f.set? (.literal ⟨'>', false⟩) = some [(0x3E, 0x3E)] := by
  rw [Flags.set?, Flags.member?, hu]
  rfl

theorem toExpr?_stretchParts (hu : f.unicode = true) (hg : f.swapGreed = false) :
    stretchParts.toExpr? f = some (stretch, f) := by
  have hset := set?_brackets (b := true) hu (set?_endMark hu)
  rw [if_pos rfl, fold_endMark hu, compl_endMark] at hset
  exact toExpr?_repetition (toExpr?_charClass hset) rfl nofun hg

end Parts

/-! ### What they read -/

theorem mem_blanks {x : Text} : x ∈ blanks.language ↔ isBlankText x = true := by
  rw [blanks, mem_repetition_oneOf (by decide), isBlankText_iff]
  simp only [contains_blankSet]

theorem mem_stretch {x : Text} : x ∈ stretch.language ↔ '>' ∉ x := by
  rw [stretch, mem_repetition_oneOf (by decide)]
  simp only [contains_innerSet]
  exact ⟨fun h hx => h _ hx rfl, fun h c hc hcx => h (hcx ▸ hc)⟩

end HtmlCanon.Regex
