import HtmlCanon.Page.Canonical
import HtmlCanon.Proofs.Page.Prologue
import HtmlCanon.Proofs.Regex.Pieces

/-!
# Patterns of pages

What a document opens with can be told by a pattern: blanks, an XML declaration, comments, and then a
doctype or the `html` element, in letters of any case. The test for documents finds what the pattern
matches. That a comment may go on behind its end mark, up to a later one, is owed to the pattern: no
match is given up as long as there is another end that a comment may have. A line that is an XML
declaration and nothing else is told by a pattern as well.

* `toExpr?_prologueTree` : what the pattern of a prologue stands for where case does not count.
* `mem_prologueExprs` : the texts that it reads.
* `isDocument_eq_isMatch` : **a page is a document where the pattern matches**.
* `isXmlDeclaration_eq_isMatch` : **a line is a declaration where the pattern of one matches**.
-/

namespace HtmlCanon.Page

open Regex Unicode

/-! ### The pattern of a prologue -/

/-- The pattern of what a document opens with. -/
def prologuePattern : Text :=
  "(?is)\\A\\s*(?:<\\?xml[^>]*>\\s*)?(?:<!--.*?-->\\s*)*(?:<!doctype|<html[\\s>])".toList

/-- A class of blanks and the end mark of a tag. -/
def borderClass : ClassExpr :=
  .brackets false (.union [.letter .space false, .literal ⟨'>', false⟩])

/-- The parts of the pattern. -/
def prologueTree : Syntax := .concat
  [.flags [(.caseInsensitive, true), (.dotAll, true)], .anchor .textStart, blankParts,
    .repetition 0 (some 1) true <| .group [] <| .concat <|
      parts "<?xml" ++ [stretchParts, .literal ⟨'>', false⟩, blankParts],
    .repetition 0 none true <| .group [] <| .concat <|
      parts "<!--" ++ .repetition 0 none false .dot :: (parts "-->" ++ [blankParts]),
    .group [] <| .alternation
      [.concat (parts "<!doctype"), .concat (parts "<html" ++ [.charClass borderClass])]]

set_option maxRecDepth 10000 in
theorem parse?_prologuePattern : Syntax.parse? prologuePattern = some prologueTree := by
  cbv

/-! ### What the pattern stands for -/

/-- White space and the end mark of a tag. -/
def borderSet : CharSet :=
  [(0x09, 0x0D), (0x20, 0x20), (0x3E, 0x3E), (0x85, 0x85), (0xA0, 0xA0), (0x1680, 0x1680),
    (0x2000, 0x200A), (0x2028, 0x2029), (0x202F, 0x202F), (0x205F, 0x205F), (0x3000, 0x3000)]

/-- An XML declaration. -/
def declarationExpr : Expr := .concat ("<?xml".toList.map caseless ++ [stretch, .char '>', blanks])

/-- A comment. -/
def commentExpr : Expr := .concat ("<!--".toList.map caseless ++
  .repetition 0 none false (.oneOf CharSet.full) :: ("-->".toList.map caseless ++ [blanks]))

/-- The first words of a document. -/
def openingExpr : Expr := .alternation [.concat ("<!doctype".toList.map caseless),
  .concat ("<html".toList.map caseless ++ [.oneOf borderSet])]

/-- What the pattern stands for behind the start of the text. -/
def prologueExprs : List Expr :=
  [blanks, .repetition 0 (some 1) true declarationExpr, .repetition 0 none true commentExpr,
    openingExpr]

/-- The flags that the pattern sets. -/
def prologueFlags : Flags := ⟨true, false, true, false, true, false⟩

theorem blankSet_union_endMark : CharSet.union blankSet [(0x3E, 0x3E)] = borderSet := by cbv

theorem borderSet_union_nil : CharSet.union borderSet [] = borderSet := by cbv

/-- A class of blanks and the end mark of a tag is the same where case does not count. -/
theorem closeCase_borderSet : borderSet.closeCase = borderSet := by
  have hsimple : ∀ n, borderSet.containsCode n = true → isSimple n = true := fun n hn => by
    simp only [borderSet, CharSet.containsCode, List.any_cons, List.any_nil, Bool.or_eq_true,
      Bool.and_eq_true, decide_eq_true_eq, Bool.or_false] at hn
    simp only [isSimple, Bool.or_eq_true, Bool.and_eq_true, decide_eq_true_eq, beq_iff_eq]
    omega
  rw [closeCase_eq hsimple borderSet_union_nil (by decide +kernel)]
  have hnone : asciiFolds.filter (fun e => borderSet.containsCode e.2) = [] := by decide +kernel
  rw [hnone, List.map_nil, normalize_nil, borderSet_union_nil]

theorem toExpr?_border : (Syntax.charClass borderClass).toExpr? prologueFlags =
    some (.oneOf borderSet, prologueFlags) := by
  have hset : prologueFlags.set? (.union [.letter .space false, .literal ⟨'>', false⟩]) =
      some (CharSet.union whiteSpace (CharSet.union [(0x3E, 0x3E)] [])) := rfl
  rw [union_nil_singleton, whiteSpace_eq_blankSet, blankSet_union_endMark] at hset
  have hset := set?_brackets (b := false) rfl hset
  rw [fold_eq_closeCase rfl rfl, closeCase_borderSet] at hset
  exact toExpr?_charClass hset

theorem toExpr?_prologueTree : prologueTree.toExpr? .initial =
    some (.concat (.empty :: .look .textStart :: prologueExprs), prologueFlags) := by
  have hblanks : blankParts.toExpr? prologueFlags = some (blanks, prologueFlags) :=
    toExpr?_blankParts rfl rfl
  have hdeclaration : (Syntax.concat (parts "<?xml" ++
      [stretchParts, .literal ⟨'>', false⟩, blankParts])).toExpr? prologueFlags =
        some (declarationExpr, prologueFlags) := by
    refine toExpr?_concat (toExprs?_caseless rfl rfl (by decide) ?_)
    exact toExprs?_cons (toExpr?_stretchParts rfl rfl)
      (toExprs?_cons (toExpr?_endMark rfl) (toExprs?_cons hblanks toExprs?_nil))
  have hcomment : (Syntax.concat (parts "<!--" ++
      .repetition 0 none false .dot :: (parts "-->" ++ [blankParts]))).toExpr? prologueFlags =
        some (commentExpr, prologueFlags) := by
    have hstop := toExprs?_caseless (w := "-->") rfl rfl (by decide)
      (toExprs?_cons hblanks toExprs?_nil)
    refine toExpr?_concat (toExprs?_caseless rfl rfl (by decide) (toExprs?_cons ?_ hstop))
    exact toExpr?_repetition (e := .oneOf CharSet.full) rfl rfl nofun rfl
  have hopening : (Syntax.alternation [.concat (parts "<!doctype"),
      .concat (parts "<html" ++ [.charClass borderClass])]).toExpr? prologueFlags =
        some (openingExpr, prologueFlags) := by
    have hdoctype := toExprs?_caseless (f := prologueFlags) (w := "<!doctype") rfl rfl (by decide)
      toExprs?_nil
    rw [List.append_nil, List.append_nil] at hdoctype
    have hhtml := toExprs?_caseless (w := "<html") rfl rfl (by decide)
      (toExprs?_cons toExpr?_border toExprs?_nil)
    exact toExpr?_alternation (toExprs?_cons (toExpr?_concat hdoctype)
      (toExprs?_cons (toExpr?_concat hhtml) toExprs?_nil))
  have hoptional :=
    toExpr?_repetition (m := some 1) (b := true) (toExpr?_group hdeclaration) rfl nofun rfl
  have hany := toExpr?_repetition (m := none) (b := true) (toExpr?_group hcomment) rfl nofun rfl
  have hrest := toExprs?_cons hblanks <| toExprs?_cons hoptional <| toExprs?_cons hany <|
    toExprs?_cons (toExpr?_group hopening) toExprs?_nil
  refine toExpr?_concat (toExprs?_cons (g := prologueFlags) rfl ?_)
  exact toExprs?_cons (g := prologueFlags) rfl hrest

theorem fits_prologueExprs :
    (Expr.concat (.empty :: .look .textStart :: prologueExprs)).fits = true := by
  decide +kernel

/-- **The pattern is well formed**, and it stands for these expressions. -/
theorem compile?_prologuePattern : compile? prologuePattern =
    some ⟨Program.ofExpr (.concat (.empty :: .look .textStart :: prologueExprs)) 0, []⟩ := by
  rw [compile?, parse?_prologuePattern, Option.bind_eq_bind, Option.bind_some, toExpr?_prologueTree]
  simp only [Option.bind_eq_bind, Option.bind_some, fits_prologueExprs, if_true]
  rfl

/-! ### What the pattern reads -/

section Languages

variable {x : Text}

theorem contains_borderSet (c : Char) : borderSet.contains c = true ↔ isBlank c = true ∨ c = '>' := by
  rw [← Char.toNat_inj]
  simp only [CharSet.contains, CharSet.containsCode, borderSet, isBlank, List.any_cons, List.any_nil,
    Bool.or_eq_true, Bool.and_eq_true, decide_eq_true_eq, Bool.or_false, beq_iff_eq]
  change _ ↔ _ ∨ c.toNat = 0x3E
  omega

/-- The pattern of an XML declaration. -/
theorem mem_declarationExpr : x ∈ declarationExpr.language ↔ IsDeclaration x := by
  rw [declarationExpr, mem_concat_caseless (by decide)]
  simp only [mem_product_cons, mem_stretch, mem_char, mem_blanks, mem_product_nil]
  constructor
  · rintro ⟨mark, _, rfl, hmark, data, hdata, _, ⟨_, rfl, _, ⟨ws, hws, _, rfl, rfl⟩, rfl⟩, rfl⟩
    exact ⟨mark, data, ws, by simp, hmark, hdata, hws⟩
  · rintro ⟨mark, data, ws, rfl, hmark, hdata, hws⟩
    exact ⟨mark, _, rfl, hmark, data, hdata, _, ⟨['>'], rfl, _, ⟨ws, hws, [], rfl, rfl⟩, rfl⟩, by simp⟩

/-- The pattern of a comment. Any character may stand in it. -/
theorem mem_commentExpr : x ∈ commentExpr.language ↔
    ∃ data ws, x = commentStart ++ (data ++ (commentStop ++ ws)) ∧ isBlankText ws = true := by
  have hstop : Expr.product ("-->".toList.map caseless ++ [blanks]) =
    (Expr.concat ("-->".toList.map caseless ++ [blanks])).language := rfl
  rw [commentExpr, mem_concat_caseless (by decide)]
  simp only [mem_product_cons, hstop, mem_repetition_oneOf (show InOrder CharSet.full by decide),
    contains_full, mem_concat_caseless (w := "-->".toList) (by decide), mem_blanks, mem_product_nil]
  constructor
  · rintro ⟨mark, _, rfl, hmark, data, -, _, ⟨mark', _, rfl, hmark', ws, hws, _, rfl, rfl⟩, rfl⟩
    obtain rfl := lowerText_eq (by decide) hmark
    obtain rfl := lowerText_eq (by decide) hmark'
    exact ⟨data, ws, by simp [commentStart, commentStop], hws⟩
  · rintro ⟨data, ws, rfl, hws⟩
    exact ⟨commentStart, _, rfl, rfl, data, fun _ _ => trivial, _,
      ⟨commentStop, ws, rfl, rfl, ws, hws, [], rfl, by simp⟩, rfl⟩

/-- The pattern of the first words of a document. -/
theorem mem_openingExpr : x ∈ openingExpr.language ↔ IsOpening x := by
  have hdoctype : x ∈ (Expr.concat ("<!doctype".toList.map caseless)).language ↔
      lowerText x = "<!doctype".toList := mem_product_caseless (by decide)
  have hborder : ∀ y, y ∈ (Expr.oneOf borderSet).language ↔
      ∃ c, (isBlank c = true ∨ c = '>') ∧ y = [c] := fun y => by
    rw [Expr.language, mem_letters_toArray (by decide)]
    simp only [contains_borderSet]
  have hsum : x ∈ openingExpr.language ↔
      x ∈ (Expr.concat ("<!doctype".toList.map caseless)).language ∨
      x ∈ (Expr.concat ("<html".toList.map caseless ++ [.oneOf borderSet])).language ∨ False := .rfl
  rw [hsum, or_false, hdoctype, mem_concat_caseless (by decide)]
  refine or_congr_right ?_
  simp only [mem_product_cons, hborder, mem_product_nil]
  constructor
  · rintro ⟨h, _, rfl, hh, _, ⟨c, hc, rfl⟩, _, rfl, rfl⟩
    exact ⟨h, c, rfl, hh, hc⟩
  · rintro ⟨h, c, rfl, hh, hc⟩
    exact ⟨h, [c], rfl, hh, [c], ⟨c, hc, rfl⟩, [], rfl, rfl⟩

/-- Comments in a row, each up to any end mark in it, with blanks behind each. -/
inductive Comments : Text → Prop
  | nil : Comments []
  | cons (data ws cs : Text) : isBlankText ws = true → Comments cs →
      Comments (commentStart ++ (data ++ (commentStop ++ (ws ++ cs))))

theorem mem_comments {b : Bool} :
    x ∈ (Expr.repetition 0 none b commentExpr).language ↔ Comments x := by
  rw [mem_repetition]
  constructor
  · rintro ⟨n, hx⟩
    induction n generalizing x with
    | zero =>
      obtain rfl := (Language.mem_one x).1 hx
      exact .nil
    | succ n ih =>
      rw [pow_succ', Language.mem_mul] at hx
      obtain ⟨a, ha, cs, hcs, rfl⟩ := hx
      obtain ⟨data, ws, rfl, hws⟩ := mem_commentExpr.1 ha
      have h := Comments.cons data ws cs hws (ih hcs)
      simpa using h
  · intro h
    induction h with
    | nil => exact ⟨0, rfl⟩
    | cons data ws cs hws _ ih =>
      obtain ⟨n, hn⟩ := ih
      refine ⟨n + 1, ?_⟩
      rw [pow_succ', Language.mem_mul]
      exact ⟨_, mem_commentExpr.2 ⟨data, ws, rfl, hws⟩, cs, hn, by simp⟩

/-- **What the pattern reads.** -/
theorem mem_prologueExprs : x ∈ Expr.product prologueExprs ↔ ∃ ws d cs m,
    x = ws ++ (d ++ (cs ++ m)) ∧ isBlankText ws = true ∧ (d = [] ∨ IsDeclaration d) ∧ Comments cs ∧
      IsOpening m := by
  simp only [prologueExprs, mem_product_cons, mem_blanks, mem_optional, mem_declarationExpr,
    mem_comments, mem_openingExpr, mem_product_nil]
  constructor
  · rintro ⟨ws, hws, _, ⟨d, hd, _, ⟨cs, hcs, _, ⟨m, hm, _, rfl, rfl⟩, rfl⟩, rfl⟩, rfl⟩
    exact ⟨ws, d, cs, m, by simp, hws, hd, hcs, hm⟩
  · rintro ⟨ws, d, cs, m, rfl, hws, hd, hcs, hm⟩
    exact ⟨ws, hws, _, ⟨d, hd, _, ⟨cs, hcs, _, ⟨m, hm, [], rfl, by simp⟩, rfl⟩, rfl⟩, rfl⟩

end Languages

/-! ### Documents -/

/-- A document opens behind comments that reach up to any end mark. -/
theorem opens_iff {t : Text} : Opens t ↔
    ∃ cs m rest, t = cs ++ (m ++ rest) ∧ Comments cs ∧ IsOpening m := by
  constructor
  · rintro (hopens | ⟨r, rfl, hcloses⟩)
    · obtain ⟨m, rest, rfl, hm⟩ := opensDocument_iff.1 hopens
      exact ⟨[], m, rest, rfl, .nil, hm⟩
    · obtain ⟨x, ws, m, rest, rfl, hws, hm⟩ := closesBeforeDocument_iff.1 hcloses
      exact ⟨_, m, rest, by simp, .cons x ws [] hws .nil, hm⟩
  · rintro ⟨cs, m, rest, rfl, hcs, hm⟩
    induction hcs with
    | nil => exact .inl (opensDocument_iff.2 ⟨m, rest, rfl, hm⟩)
    | cons data ws cs hws _ ih => simpa using ih.comment data hws

theorem isDocument_iff_startsBefore {s : Text} :
    isDocument s = true ↔ ∃ t, StartsBefore s t ∧ Opens t := by
  rw [isDocument_iff]
  constructor
  · exact fun h => ⟨_, startsBefore_afterDeclaration s, h⟩
  · rintro ⟨t, hs, h⟩
    obtain ⟨c, r, hcr, hc⟩ := h.head
    rwa [hs.afterDeclaration_eq hcr hc]

/-- **A page is a document where the pattern matches.** -/
theorem isDocument_eq_isMatch :
    ∃ r, compile? prologuePattern = some r ∧ ∀ s, isDocument s = r.isMatch s := by
  refine ⟨_, compile?_prologuePattern, fun s => ?_⟩
  rw [Bool.eq_iff_iff, isMatch_anchored (by decide), isDocument_iff_startsBefore]
  simp only [mem_prologueExprs, opens_iff]
  constructor
  · rintro ⟨_, ⟨ws, d, rfl, hws, hd⟩, cs, m, rest, rfl, hcs, hm⟩
    exact ⟨_, ⟨ws, d, cs, m, rfl, hws, hd, hcs, hm⟩, rest, by simp⟩
  · rintro ⟨_, ⟨ws, d, cs, m, rfl, hws, hd, hcs, hm⟩, rest, rfl⟩
    exact ⟨cs ++ (m ++ rest), ⟨ws, d, by simp, hws, hd⟩, cs, m, rest, rfl, hcs, hm⟩

/-! ### Lines that are a declaration -/

/-- The pattern of a line that is an XML declaration and nothing else. -/
def declarationPattern : Text := "^\\s*<\\?xml[^>]*>\\s*$".toList

/-- The parts of the pattern. -/
def declarationTree : Syntax := .concat <| .anchor .lineStart :: blankParts ::
  (parts "<?xml" ++ [stretchParts, .literal ⟨'>', false⟩, blankParts, .anchor .lineEnd])

/-- What the pattern stands for between the ends of the line. -/
def lineExprs : List Expr :=
  blanks :: ("<?xml".toList.map Expr.char ++ [stretch, .char '>', blanks])

set_option maxRecDepth 10000 in
theorem parse?_declarationPattern : Syntax.parse? declarationPattern = some declarationTree := by
  cbv

theorem toExpr?_declarationTree : declarationTree.toExpr? .initial =
    some (.concat (.look .textStart :: (lineExprs ++ [.look .textEnd])), .initial) := by
  have hblanks : blankParts.toExpr? .initial = some (blanks, .initial) := toExpr?_blankParts rfl rfl
  have hend : (Syntax.anchor .lineEnd).toExpr? .initial = some (.look .textEnd, .initial) := rfl
  have hword := toExprs?_parts (f := .initial) (w := "<?xml") (x := .char) (fun _ _ => rfl) <|
    toExprs?_cons (toExpr?_stretchParts rfl rfl) <| toExprs?_cons (toExpr?_endMark rfl) <|
    toExprs?_cons hblanks (toExprs?_cons hend toExprs?_nil)
  exact toExpr?_concat (toExprs?_cons (g := .initial) rfl (toExprs?_cons hblanks hword))

theorem fits_lineExprs :
    (Expr.concat (.look .textStart :: (lineExprs ++ [.look .textEnd]))).fits = true := by
  decide +kernel

theorem compile?_declarationPattern : compile? declarationPattern =
    some ⟨Program.ofExpr (.concat (.look .textStart :: (lineExprs ++ [.look .textEnd]))) 0, []⟩ := by
  rw [compile?, parse?_declarationPattern, Option.bind_eq_bind, Option.bind_some,
    toExpr?_declarationTree]
  simp only [Option.bind_eq_bind, Option.bind_some, fits_lineExprs, if_true]
  rfl

theorem isXmlDeclaration_iff {l : Text} : isXmlDeclaration l = true ↔ ∃ ws data ws',
    l = ws ++ ("<?xml".toList ++ (data ++ '>' :: ws')) ∧ isBlankText ws = true ∧ '>' ∉ data ∧
      isBlankText ws' = true := by
  unfold isXmlDeclaration
  constructor
  · intro h
    split at h
    · rename_i data ws' hdecl
      obtain ⟨v, hv, har⟩ := Option.bind_eq_some_iff.1 hdecl
      obtain ⟨rfl, hdata⟩ := splitAt?_iff.1 har
      refine ⟨l.takeWhile isBlank, data, ws', ?_, List.all_takeWhile, hdata, h⟩
      rw [← after?_iff.1 hv, List.takeWhile_append_dropWhile]
    · cases h
  · rintro ⟨ws, data, ws', rfl, hws, hdata, hws'⟩
    rw [dropWhile_blank_append hws rfl, after?_iff.2 rfl, Option.bind_some, splitAt?_iff.2 ⟨rfl, hdata⟩]
    exact hws'

/-- **A line is a declaration where the pattern of one matches.** -/
theorem isXmlDeclaration_eq_isMatch :
    ∃ r, compile? declarationPattern = some r ∧ ∀ l, isXmlDeclaration l = r.isMatch l := by
  refine ⟨_, compile?_declarationPattern, fun l => ?_⟩
  rw [Bool.eq_iff_iff, isMatch_framed (by decide), isXmlDeclaration_iff]
  simp only [lineExprs, mem_product_cons, mem_product_word, mem_stretch, mem_char, mem_blanks,
    mem_product_nil]
  constructor
  · rintro ⟨ws, data, ws', rfl, hws, hdata, hws'⟩
    exact ⟨ws, hws, _, ⟨_, rfl, data, hdata, _, ⟨['>'], rfl, _, ⟨ws', hws', [], rfl, rfl⟩, rfl⟩, rfl⟩,
      by simp⟩
  · rintro ⟨ws, hws, _, ⟨_, rfl, data, hdata, _, ⟨_, rfl, _, ⟨ws', hws', _, rfl, rfl⟩, rfl⟩, rfl⟩, rfl⟩
    exact ⟨ws, data, ws', by simp, hws, hdata, hws'⟩

end HtmlCanon.Page
