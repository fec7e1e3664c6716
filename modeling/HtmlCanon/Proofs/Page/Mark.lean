import HtmlCanon.Proofs.FaultOrder

/-!
# Byte-order marks

A byte-order mark in front of a page is skipped when the page is read, but not when it is told
whether the page is a whole document. A document with a mark is therefore read as a fragment.

* `Html.parse_marked` : the nodes are read as without the mark.
* `Page.parse_marked_eq_iff` : **a page is read as without the mark** exactly when it is no document.
* `Config.canonicalize_marked` : the runs on a page with the mark and without it.
-/

namespace HtmlCanon

/-- The byte-order mark. -/
def byteOrderMark : Char := '\uFEFF'

/-- **The nodes are read as without the mark.** A second mark would be a character of the page. -/
theorem Html.parse_marked {s : Text} (h : s.head? ≠ some byteOrderMark) :
    Html.parse (byteOrderMark :: s) = Html.parse s := by
  have hmark : Html.Lexeme.dropMark (byteOrderMark :: s) = s := rfl
  unfold Html.parse
  rw [Html.Lexeme.dropMark_eq_self h, hmark]

namespace Page

/-- What the head and the body of a document hold, as a fragment. -/
def contents (ns : List Html.Node) : Page := fragment (contentOf "head" ns ++ contentOf "body" ns)

theorem parse_of_document {s : Text} (h : isDocument s = true) :
    parse s = ⟨.document, (Html.parse s).nodes⟩ := by
  simp only [parse, parseCounting, h, if_true]

theorem parse_of_fragment {s : Text} (h : isDocument s = false) :
    parse s = contents (Html.parse s).nodes := by
  simp only [parse, parseCounting, h, Bool.false_eq_true, if_false]
  rfl

/-- The mark is no blank, so that no document opens behind it. -/
theorem isDocument_marked (s : Text) : isDocument (byteOrderMark :: s) = false := by
  have hblank : ¬isBlank byteOrderMark = true := by decide
  have hdecl : afterDeclaration (byteOrderMark :: s) = byteOrderMark :: s := rfl
  have hopens : opensDocument (byteOrderMark :: s) = false := rfl
  have hcomment : after? "<!--".toList (byteOrderMark :: s) = none := rfl
  unfold isDocument
  rw [List.dropWhile_cons_of_neg hblank]
  simp only [hdecl, hopens, hcomment, Bool.false_or]

/-- With the mark a page is read as a fragment. -/
theorem parse_marked {s : Text} (h : s.head? ≠ some byteOrderMark) :
    parse (byteOrderMark :: s) = contents (Html.parse s).nodes := by
  rw [parse_of_fragment (isDocument_marked s), Html.parse_marked h]

/-- **A page is read as without the mark** exactly when it is no document. -/
theorem parse_marked_eq_iff {s : Text} (h : s.head? ≠ some byteOrderMark) :
    parse (byteOrderMark :: s) = parse s ↔ isDocument s = false := by
  rw [parse_marked h]
  constructor
  · intro hs
    rw [Bool.eq_false_iff]
    intro hd
    rw [parse_of_document hd] at hs
    cases congrArg Page.shape hs
  · intro hd
    rw [parse_of_fragment hd]

end Page

namespace Config

/-- **The runs on a page with the mark and without it.** They report the same faults, and give the
same unless the page is a document; then the one with the mark gives what the contents of the
document give as a fragment. -/
theorem canonicalize_marked (c : Config) (o : Options) {s : Text} (hne : s ≠ [])
    (h : s.head? ≠ some byteOrderMark) :
    (∀ e, c.canonicalize o (byteOrderMark :: s) = .error e ↔ c.canonicalize o s = .error e) ∧
      (Page.isDocument s = false → c.canonicalize o (byteOrderMark :: s) = c.canonicalize o s) ∧
      c.canonicalize o (byteOrderMark :: s) = (do
        let r ← c.settle o
        pure (r.write (← r.edit o (Page.contents (Html.parse s).nodes)))) ∧
      (Page.parse (byteOrderMark :: s) = Page.parse s ↔ Page.isDocument s = false) := by
  have hread := Page.parse_marked_eq_iff h
  refine ⟨c.canonicalize_error_iff o (List.cons_ne_nil _ s) hne, fun hd => ?_, ?_, hread⟩
  · rw [canonicalize, canonicalize, if_neg (by simp), if_neg (by simpa using hne), hread.2 hd]
  · rw [canonicalize, if_neg (by simp), Page.parse_marked h]

/-- A comment and a paragraph, which are no document, come out alike with a mark and without. -/
theorem canonicalize_marked_paragraph :
    let s := "<!-- a --> <p>x</p>".toList
    s ≠ [] ∧ s.head? ≠ some byteOrderMark ∧ Page.isDocument s = false ∧
      empty.canonicalize ⟨none, none⟩ (byteOrderMark :: s) = empty.canonicalize ⟨none, none⟩ s := by
  intro s
  have hne : s ≠ [] := by decide
  have hmark : s.head? ≠ some byteOrderMark := by decide
  have hd : Page.isDocument s = false := by decide +kernel
  exact ⟨hne, hmark, hd, (canonicalize_marked empty ⟨none, none⟩ hne hmark).2.1 hd⟩

/-- A document. -/
def shortDocument : Text := "<!doctype html><p>x".toList

/-- With a mark in front of it, nothing but its paragraph comes out. -/
theorem canonicalize_markedDocument :
    shortDocument ≠ [] ∧ shortDocument.head? ≠ some byteOrderMark ∧
      empty.canonicalize ⟨none, none⟩ (byteOrderMark :: shortDocument) ≠
        empty.canonicalize ⟨none, none⟩ shortDocument := by
  have hmarked : (empty.canonicalize ⟨none, none⟩ (byteOrderMark :: shortDocument)).toOption =
      some "<p>x</p>".toList := by decide +kernel
  have hplain : (empty.canonicalize ⟨none, none⟩ shortDocument).toOption ≠
      some "<p>x</p>".toList := by decide +kernel
  refine ⟨by decide, by decide, fun h => hplain ?_⟩
  rw [← h, hmarked]

end Config

end HtmlCanon
