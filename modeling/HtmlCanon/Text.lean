/-!
# Texts

A text is a list of characters. Here are the cuts that every other part relies on: blanks in the
sense of Unicode, trimming, lines and words.

* `splitLines_ne_nil` : a text has at least one line.
* `join_splitLines` : no character is lost by cutting a text into lines.
-/

namespace HtmlCanon

/-- A text: a finite sequence of characters. -/
abbrev Text := List Char

/-- The characters with the Unicode property `White_Space`. -/
def isBlank (c : Char) : Bool :=
  let n := c.toNat
  (0x09 ≤ n && n ≤ 0x0D) || n == 0x20 || n == 0x85 || n == 0xA0 || n == 0x1680 ||
    (0x2000 ≤ n && n ≤ 0x200A) || n == 0x2028 || n == 0x2029 || n == 0x202F || n == 0x205F ||
    n == 0x3000

/-- The white space of markup: tab, line feed, form feed, carriage return and space. -/
def isMarkupSpace (c : Char) : Bool :=
  c == ' ' || c == '\n' || c == '\t' || c == '\r' || c == '\x0c'

/-- Drops the longest tail of characters that satisfy `p`. -/
def dropTailWhile (p : Char → Bool) (t : Text) : Text := (t.reverse.dropWhile p).reverse

/-- Drops the blanks at both ends. -/
def trim (t : Text) : Text := dropTailWhile isBlank (t.dropWhile isBlank)

/-- A text without any character but blanks. -/
def isBlankText (t : Text) : Bool := t.all isBlank

/-- Cuts a text at every character that satisfies `p`; the cut characters are dropped. -/
def splitWhere (p : Char → Bool) : Text → List Text
  | [] => [[]]
  | c :: r =>
    if p c then [] :: splitWhere p r
    else match splitWhere p r with
      | [] => [[c]]
      | l :: ls => (c :: l) :: ls

/-- The lines of a text. -/
def splitLines (t : Text) : List Text := splitWhere (· == '\n') t

/-- Lines joined by line feeds. -/
def joinLines (ls : List Text) : Text := List.intercalate ['\n'] ls

/-- The maximal runs of characters outside `p`. -/
def fields (p : Char → Bool) (t : Text) : List Text := (splitWhere p t).filter (!·.isEmpty)

/-- The words of a text: its maximal runs of characters that are not blank. -/
def words (t : Text) : List Text := fields isBlank t

theorem splitWhere_ne_nil (p : Char → Bool) (t : Text) : splitWhere p t ≠ [] := by
  cases t with
  | nil => simp [splitWhere]
  | cons c r =>
    by_cases h : p c
    · simp [splitWhere, h]
    · rw [splitWhere, if_neg h]
      split <;> simp

theorem splitLines_ne_nil (t : Text) : splitLines t ≠ [] := splitWhere_ne_nil _ t

theorem joinLines_cons (l : Text) {ls : List Text} (h : ls ≠ []) :
    joinLines (l :: ls) = l ++ '\n' :: joinLines ls := by
  cases ls with
  | nil => exact absurd rfl h
  | cons m ms => simp [joinLines, List.intercalate]

theorem join_splitLines (t : Text) : joinLines (splitLines t) = t := by
  induction t with
  | nil => rfl
  | cons c r ih =>
    have hne := splitLines_ne_nil r
    by_cases h : c = '\n'
    · have hs : splitLines (c :: r) = [] :: splitLines r := by simp [splitLines, splitWhere, h]
      rw [hs, joinLines_cons _ hne, ih, h]; rfl
    · obtain ⟨l, ls, hr⟩ := List.exists_cons_of_ne_nil hne
      have hs : splitLines (c :: r) = (c :: l) :: ls := by
        simp only [splitLines, splitWhere] at hr ⊢
        simp [h, hr]
      rw [hr] at ih
      rw [hs, ← ih]
      cases ls with
      | nil => simp [joinLines, List.intercalate]
      | cons m ms =>
        rw [joinLines_cons _ (List.cons_ne_nil m ms), joinLines_cons _ (List.cons_ne_nil m ms)]
        rfl

/-- An ASCII letter or digit. -/
def isAsciiAlphanum (c : Char) : Bool := c.isAlpha || c.isDigit

/-- ASCII capitals become small letters; all else stays. -/
def asciiLower (c : Char) : Char := if 'A' ≤ c ∧ c ≤ 'Z' then Char.ofNat (c.toNat + 32) else c

/-- `asciiLower` on every character. -/
def lowerText (t : Text) : Text := t.map asciiLower

/-- The rest of `t` after `p`, when `t` starts with `p`. -/
def after? : (p t : Text) → Option Text
  | [], t => some t
  | _ :: _, [] => none
  | a :: p, b :: t => if a == b then after? p t else none

/-- Like `after?`, with ASCII capitals and small letters taken as equal; `p` is in small letters. -/
def afterNoCase? : (p t : Text) → Option Text
  | [], t => some t
  | _ :: _, [] => none
  | a :: p, b :: t => if a == asciiLower b then afterNoCase? p t else none

/-- What stands before the first `p` in `t`, and what stands after it. -/
def splitAt? (p : Text) : Text → Option (Text × Text)
  | [] => if p.isEmpty then some ([], []) else none
  | c :: r =>
    match after? p (c :: r) with
    | some rest => some ([], rest)
    | none => (splitAt? p r).map fun (a, b) => (c :: a, b)

theorem after?_length {p t r : Text} (h : after? p t = some r) : r.length ≤ t.length := by
  fun_induction after? p t with
  | case1 => simp_all
  | case2 => simp at h
  | case3 _ _ _ _ _ ih => have := ih h; simp only [List.length_cons]; omega
  | case4 => simp at h

theorem afterNoCase?_length {p t r : Text} (h : afterNoCase? p t = some r) :
    r.length ≤ t.length := by
  fun_induction afterNoCase? p t with
  | case1 => simp_all
  | case2 => simp at h
  | case3 _ _ _ _ _ ih => have := ih h; simp only [List.length_cons]; omega
  | case4 => simp at h

theorem splitAt?_length {p t a b : Text} (h : splitAt? p t = some (a, b)) :
    b.length ≤ t.length := by
  fun_induction splitAt? p t generalizing a b with
  | case1 => simp_all
  | case2 => simp at h
  | case3 c r rest hr =>
    simp only [Option.some.injEq, Prod.mk.injEq] at h
    rw [← h.2]; exact after?_length hr
  | case4 c r _ ih =>
    obtain ⟨⟨a', b'⟩, h1, h2⟩ := Option.map_eq_some_iff.1 h
    simp only [Prod.mk.injEq] at h2
    have := ih h1
    simp only [List.length_cons]; rw [← h2.2]; omega

theorem dropWhile_length_le (p : Char → Bool) (t : Text) : (t.dropWhile p).length ≤ t.length :=
  (List.dropWhile_suffix p).length_le

end HtmlCanon
