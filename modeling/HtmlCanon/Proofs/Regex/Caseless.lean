import HtmlCanon.Proofs.Regex.Texts
import HtmlCanon.Proofs.Text

/-!
# Patterns that take no account of case

Where case does not count a character of a pattern stands for all those that are folded to the same
one. Most letters of ASCII stand for themselves and the capital, so that a pattern of such letters and
marks matches what it would match if case counted and each letter was given in both cases. Only `k` and
`s` are left out here: each stands for one more character, which is none of ASCII.

* `foldTable_simple` : **which characters are folded to ASCII**.
* `closeCase_eq` : a set without capitals is closed by the capitals of its letters.
* `charExpr_eq` : a character in a pattern stands for itself and its capital.
* `mem_concat_caseless` : a word in a pattern reads the texts that are the word in small letters.
-/

namespace HtmlCanon.Regex

open Unicode

variable {s : CharSet} {c : Char} {f : Flags}

/-- What is folded to an ASCII character, with that character. -/
def asciiFolds : List (Nat × Nat) :=
  (List.range 26).map (fun i => (0x41 + i, 0x61 + i)) ++ [(0x17F, 0x73), (0x212A, 0x6B)]

/-- Where only letters of ASCII have case; ASCII itself and white space lie there. -/
def isSimple (n : Nat) : Bool :=
  n ≤ 0xA0 || n == 0x1680 || (0x2000 ≤ n && n ≤ 0x20FF) || n == 0x3000

set_option maxRecDepth 100000 in
/-- **What is folded there**, or folded to a character there. -/
theorem foldTable_simple :
    foldTable.filter (fun e => isSimple e.1 || isSimple e.2) = asciiFolds := by
  have h : foldRuns = String.ofList _ := rfl
  rw [foldTable, h, String.toList_ofList]
  decide +kernel

theorem filter_foldTable {p : Nat × Nat → Bool}
    (hp : ∀ e, p e = true → isSimple e.1 = true ∨ isSimple e.2 = true) :
    foldTable.filter p = asciiFolds.filter p := by
  rw [← foldTable_simple, List.filter_filter]
  refine List.filter_congr fun e _ => ?_
  rw [Bool.eq_iff_iff, Bool.and_eq_true, Bool.or_eq_true]
  exact ⟨fun h => ⟨h, hp e h⟩, And.left⟩

theorem normalize_nil : CharSet.normalize [] = [] := by
  simp [CharSet.normalize]

/-- **A set without capitals** is closed by the capitals of its letters. -/
theorem closeCase_eq (hs : ∀ n, s.containsCode n = true → isSimple n = true)
    (hnormal : s.union [] = s) (hsmall : asciiFolds.filter (fun e => s.containsCode e.1) = []) :
    s.closeCase = s.union (.normalize
      ((asciiFolds.filter fun e => s.containsCode e.2).map fun e => (e.1, e.1))) := by
  have hup : foldTable.filter (fun e => s.containsCode e.1) = [] := by
    rw [filter_foldTable fun e h => .inl (hs _ h), hsmall]
  have hdown := filter_foldTable (p := fun e => s.containsCode e.2) fun e h => .inr (hs _ h)
  unfold CharSet.closeCase
  simp only [hup, List.map_nil, normalize_nil, hnormal, hdown]

/-! ### Characters -/

theorem union_nil_singleton (n : Nat) : CharSet.union [(n, n)] [] = [(n, n)] := by
  simp [CharSet.union, CharSet.normalize, CharSet.joinFrom]

/-- Two characters apart from each other. -/
theorem union_singletons {m n : Nat} (h : m + 1 < n) :
    CharSet.union [(n, n)] (.normalize [(m, m)]) = [(m, m), (n, n)] := by
  have hle : ¬n ≤ m + 1 := by omega
  have hle' : ¬n ≤ m := by omega
  simp [CharSet.union, CharSet.normalize, List.mergeSort, List.MergeSort.Internal.splitInTwo,
    CharSet.joinFrom, hle, hle']

/-- A small letter in both cases, and any other character as it is. -/
def caseless (c : Char) : Expr :=
  if 0x61 ≤ c.toNat ∧ c.toNat ≤ 0x7A then .oneOf [(c.toNat - 32, c.toNat - 32), (c.toNat, c.toNat)]
  else .char c

theorem containsCode_singleton (m n : Nat) : CharSet.containsCode [(m, m)] n = (n == m) := by
  rw [Bool.eq_iff_iff]
  simp [CharSet.containsCode]
  omega

/-- What a character is together with its capital. -/
theorem closeCase_singleton {n : Nat} (hn : n < 0x80) (hcapital : ¬(0x41 ≤ n ∧ n ≤ 0x5A))
    (hk : n ≠ 0x6B) (hs : n ≠ 0x73) : CharSet.closeCase [(n, n)] =
      if 0x61 ≤ n ∧ n ≤ 0x7A then [(n - 32, n - 32), (n, n)] else [(n, n)] := by
  have hup : ∀ n < 0x80, ¬(0x41 ≤ n ∧ n ≤ 0x5A) → asciiFolds.filter (fun e => e.1 == n) = [] := by
    decide +kernel
  have hdown : ∀ n < 0x80, n ≠ 0x6B → n ≠ 0x73 → asciiFolds.filter (fun e => e.2 == n) =
      if 0x61 ≤ n ∧ n ≤ 0x7A then [(n - 32, n)] else [] := by
    decide +kernel
  have hsimple : ∀ m, CharSet.containsCode [(n, n)] m = true → isSimple m = true := by
    intro m hm
    rw [containsCode_singleton, beq_iff_eq] at hm
    simp only [isSimple, Bool.or_eq_true, decide_eq_true_eq]
    omega
  have hsmall : asciiFolds.filter (fun e => CharSet.containsCode [(n, n)] e.1) = [] := by
    simp only [containsCode_singleton, hup n hn hcapital]
  rw [closeCase_eq hsimple (union_nil_singleton n) hsmall]
  simp only [containsCode_singleton, hdown n hn hk hs]
  split
  · rw [List.map_singleton, union_singletons (by omega)]
  · rw [List.map_nil, normalize_nil, union_nil_singleton]

/-- Whether a character is one of ASCII that no other than its capital is folded to. -/
def isPlainSmall (c : Char) : Bool :=
  c.toNat < 0x80 && !(0x41 ≤ c.toNat && c.toNat ≤ 0x5A) && c.toNat != 0x6B && c.toNat != 0x73

/-- **A character where case does not count** stands for itself and its capital. -/
theorem charExpr_eq (hf : f.caseInsensitive = true) (hu : f.unicode = true)
    (hc : isPlainSmall c = true) : f.charExpr c = caseless c := by
  simp only [isPlainSmall, Bool.and_eq_true, Bool.not_eq_true', Bool.and_eq_false_iff,
    decide_eq_true_eq, decide_eq_false_iff_not, bne_iff_ne] at hc
  obtain ⟨⟨⟨hc, hcapital⟩, hk⟩, hs⟩ := hc
  have hclose := closeCase_singleton hc (by omega) hk hs
  simp only [Flags.charExpr, Flags.fold, hf, hu, CharSet.singleton, hclose, caseless]
  simp only [Bool.true_or, Bool.and_self, if_true, Bool.not_true, Bool.false_eq_true, if_false]
  split
  · rfl
  · simp [Expr.ofSet]

/-! ### Words -/

section Words

variable {es : List Expr} {x : Text}

/-- A character in any case. -/
theorem mem_caseless (hc : isPlainSmall c = true) :
    x ∈ (caseless c).language ↔ ∃ d, asciiLower d = c ∧ x = [d] := by
  have hcapital : ¬(0x41 ≤ c.toNat ∧ c.toNat ≤ 0x5A) := by
    simp only [isPlainSmall, Bool.and_eq_true, Bool.not_eq_true', Bool.and_eq_false_iff,
      decide_eq_false_iff_not] at hc
    omega
  have hlower : ∀ d, asciiLower d = c ↔
      d = c ∨ 0x61 ≤ c.toNat ∧ c.toNat ≤ 0x7A ∧ d.toNat = c.toNat - 32 := fun d => by
    rw [asciiLower_eq_iff]
    exact or_congr_left (and_iff_left hcapital)
  simp only [hlower]
  unfold caseless
  split
  · rename_i hsmall
    have hs : InOrder [(c.toNat - 32, c.toNat - 32), (c.toNat, c.toNat)] := by
      simp [InOrder]
      omega
    rw [Expr.language, mem_letters_toArray hs]
    refine exists_congr fun d => and_congr_left fun _ => ?_
    rw [← Char.toNat_inj]
    simp only [CharSet.contains, CharSet.containsCode, List.any_cons, List.any_nil, Bool.or_eq_true,
      Bool.and_eq_true, decide_eq_true_eq, Bool.or_false]
    omega
  · rename_i hsmall
    have honly : ∀ d, (d = c ∨ 0x61 ≤ c.toNat ∧ c.toNat ≤ 0x7A ∧ d.toNat = c.toNat - 32) ↔ d = c :=
      fun d => or_iff_left fun h => hsmall ⟨h.1, h.2.1⟩
    simp only [mem_char, honly, exists_eq_left]

theorem mem_product_caseless {w : Text} (hw : w.all isPlainSmall = true) :
    x ∈ Expr.product (w.map caseless) ↔ lowerText x = w := by
  induction w generalizing x with
  | nil => simp [Expr.product, lowerText]
  | cons c w ih =>
    obtain ⟨hc, hw⟩ := Bool.and_eq_true_iff.1 hw
    rw [List.map_cons, Expr.product, Language.mem_mul, lowerText, List.map_eq_cons_iff]
    simp only [mem_caseless hc, ih hw]
    constructor
    · rintro ⟨_, ⟨d, hd, rfl⟩, y, hy, rfl⟩
      exact ⟨d, y, rfl, hd, hy⟩
    · rintro ⟨d, y, rfl, hd, hy⟩
      exact ⟨[d], ⟨d, hd, rfl⟩, y, hy, rfl⟩

theorem mem_concat_caseless {w : Text} (hw : w.all isPlainSmall = true) :
    x ∈ (Expr.concat (w.map caseless ++ es)).language ↔
      ∃ m y, x = m ++ y ∧ lowerText m = w ∧ y ∈ Expr.product es := by
  rw [Expr.language, product_append, Language.mem_mul]
  simp only [mem_product_caseless hw]
  constructor
  · rintro ⟨m, hm, y, hy, rfl⟩
    exact ⟨m, y, rfl, hm, hy⟩
  · rintro ⟨m, y, rfl, hm, hy⟩
    exact ⟨m, hm, y, hy, rfl⟩

end Words

end HtmlCanon.Regex
