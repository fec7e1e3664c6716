import HtmlCanon.Html.Reference
import HtmlCanon.Page.Layout
import HtmlCanon.Proofs.Text

/-!
# The references that a page is written with

A page is written with four references: to the ampersand, to both angle brackets and, in an
attribute value, to the quote. None of their names begins another name, so each is read back at its
semicolon, whatever comes next.

* `NameTree.at?_insert` : adding a name changes a tree along that name only.
* `Reference.names_at?` : a name that no other name begins with is a leaf of the tree of all names.
* `Reference.read_textChar`, `Reference.read_valueChar` : **what is written for a character is read
  as that character**.
-/

namespace HtmlCanon.Html

/-! ### Trees of names -/

namespace NameTree

/-- The part of a tree below a text. -/
def at? (t : NameTree) : Text → Option NameTree
  | [] => some t
  | c :: p => (t.child? c).bind fun u => u.at? p

theorem child?_insert_self (v : Text) (c : Char) (cs : Text) (t : NameTree) :
    (insert v (c :: cs) t).child? c = some (insert v cs ((t.child? c).getD empty)) := by
  cases t with
  | node val next => simp [insert, child?]

theorem child?_insert_ne (v : Text) {c d : Char} (h : c ≠ d) (cs : Text) (t : NameTree) :
    (insert v (c :: cs) t).child? d = t.child? d := by
  cases t with
  | node val next =>
    have hfind : (next.filter (·.1 != c)).find? (·.1 == d) = next.find? (·.1 == d) := by
      rw [List.find?_filter]
      congr 1
      funext e
      by_cases hd : e.1 = d
      · simp [hd, h.symm]
      · simp [hd]
    simp [insert, child?, h, hfind]

/-- Adding a name leaves alone what lies below a text that the name does not begin with. -/
theorem at?_insert (v : Text) {p cs : Text} (h : ¬ p <+: cs) (t : NameTree) :
    (insert v cs t).at? p = t.at? p := by
  induction p generalizing cs t with
  | nil => exact absurd List.nil_prefix h
  | cons c p ih =>
    cases cs with
    | nil => cases t; rfl
    | cons d cs =>
      by_cases hcd : d = c
      · subst hcd
        -- both texts go the same way here: the difference comes later
        have hp : ¬ p <+: cs := fun hp => h (List.cons_prefix_cons.2 ⟨rfl, hp⟩)
        rw [at?, child?_insert_self, Option.bind_some, ih hp, at?]
        cases hd : t.child? d with
        | some u => rfl
        | none =>
          cases p with
          | nil => exact absurd List.nil_prefix hp
          | cons e p => rfl
      · rw [at?, at?, child?_insert_ne v hcd]

/-- A new name that nothing lies below is a leaf. -/
theorem at?_insert_self (v : Text) {p : Text} {t : NameTree} (h : t.at? p = none) :
    (insert v p t).at? p = some (node (some v) []) := by
  induction p generalizing t with
  | nil => cases h
  | cons c p ih =>
    rw [at?, child?_insert_self, Option.bind_some]
    cases hc : t.child? c with
    | some u => exact ih (by simpa [at?, hc] using h)
    | none =>
      cases p with
      | nil => rfl
      | cons d p => exact ih rfl

/-- A text that leads to a leaf is followed to its end and no further. -/
theorem follow_leaf {v p : Text} {t : NameTree} (h : t.at? p = some (node (some v) [])) (hp : p ≠ [])
    (x : Text) (n : Nat) (best : Option (Nat × Text)) :
    t.follow (p ++ x) n best = (n + p.length, some (n + p.length, v)) := by
  induction p generalizing t n best with
  | nil => exact absurd rfl hp
  | cons c p ih =>
    rw [at?] at h
    cases hc : t.child? c with
    | none => simp [hc] at h
    | some u =>
      rw [hc, Option.bind_some] at h
      rw [List.cons_append, follow, hc]
      cases p with
      | nil =>
        obtain rfl : u = node (some v) [] := Option.some.inj h
        cases x with
        | nil => simp [follow, value]
        | cons d x => simp [follow, value, child?]
      | cons d p =>
        simp only [ih h (by simp)]
        simp only [List.length_cons]
        congr 1
        · omega
        · congr 2; omega

end NameTree

/-! ### The names of the standard -/

namespace Reference

open NameTree

/-- Whether an entry of the list has a name that a text begins, with a semicolon after it. -/
def touches (p : Text) (entry : Text) : Bool :=
  match splitWhere (· == '=') entry with
  | [name, _] => p.isPrefixOf (name.filter (· != '?') ++ [';'])
  | _ => false

theorem at?_addEntry {p e : Text} (h : touches p e = false) (t : NameTree) :
    (addEntry t e).at? p = t.at? p := by
  unfold touches at h
  unfold addEntry
  split
  · rename_i name codes hs
    have hn : ¬ p <+: name.filter (· != '?') ++ [';'] := by
      simp only [hs] at h
      rw [← List.isPrefixOf_iff_prefix, h]; decide
    have hb : ¬ p <+: name.filter (· != '?') := fun hp => hn (hp.trans (List.prefix_append _ _))
    dsimp only
    split
    · rw [at?_insert _ hb, at?_insert _ hn]
    · rw [at?_insert _ hn]
  · rfl

/-- An entry whose name a text is makes a leaf of it. -/
theorem at?_addEntry_self {e name codes : Text} (h : splitWhere (· == '=') e = [name, codes])
    {t : NameTree} (ht : t.at? (name.filter (· != '?') ++ [';']) = none) :
    (addEntry t e).at? (name.filter (· != '?') ++ [';']) =
      some (node (some ((splitWhere (· == '+') codes).map fun h => Char.ofNat (ofDigits 16 h))) []) := by
  -- the name without its semicolon, which some entries add too, is too short
  have hb : ¬ name.filter (· != '?') ++ [';'] <+: name.filter (· != '?') := by
    intro hp
    have := hp.length_le
    simp only [List.length_append, List.length_cons, List.length_nil] at this
    omega
  unfold addEntry
  simp only [h]
  split
  · rw [at?_insert _ hb, at?_insert_self _ ht]
  · rw [at?_insert_self _ ht]

section Fold

variable {β : Type} {f : NameTree → β → NameTree} {q : β → Bool} {p : Text}

/-- Steps that leave a text alone, one after the other. -/
theorem at?_foldl {bs : List β} (h : ∀ b ∈ bs, q b = false → ∀ t, (f t b).at? p = t.at? p)
    (hq : bs.filter q = []) (t : NameTree) : (bs.foldl f t).at? p = t.at? p := by
  induction bs generalizing t with
  | nil => rfl
  | cons b bs ih =>
    have hb : q b = false := by simpa using (List.filter_eq_nil_iff.1 hq) b List.mem_cons_self
    have hbs : bs.filter q = [] := by rwa [List.filter_cons_of_neg (by simp [hb])] at hq
    rw [List.foldl_cons, ih (fun b' hb' => h b' (List.mem_cons_of_mem _ hb')) hbs,
      h b List.mem_cons_self hb]

/-- The one step that does not leave a text alone makes a leaf of it. -/
theorem at?_foldl_leaf {bs : List β} {b : β} {leaf : NameTree}
    (h : ∀ b ∈ bs, q b = false → ∀ t, (f t b).at? p = t.at? p)
    (hb : ∀ t, t.at? p = none → (f t b).at? p = some leaf) (hq : bs.filter q = [b])
    {t : NameTree} (ht : t.at? p = none) : (bs.foldl f t).at? p = some leaf := by
  induction bs generalizing t with
  | nil => cases hq
  | cons c bs ih =>
    have hrest := fun b' hb' => h b' (List.mem_cons_of_mem c hb')
    by_cases hc : q c = true
    · rw [List.filter_cons_of_pos hc, List.cons.injEq] at hq
      obtain ⟨rfl, hbs⟩ := hq
      rw [List.foldl_cons, at?_foldl hrest hbs, hb t ht]
    · rw [List.filter_cons_of_neg hc] at hq
      rw [Bool.not_eq_true] at hc
      exact ih hrest hq (by rw [h c List.mem_cons_self hc, ht])

end Fold

/-- The entries of a group. -/
def entriesOf (g : String × String) : List Text := (words g.2.toList).map (g.1.toList ++ ·)

theorem addGroup_eq (t : NameTree) (g : String × String) :
    addGroup t g = (entriesOf g).foldl addEntry t := by
  rw [addGroup, entriesOf, List.foldl_map]

/-- Every group has two letters or digits that its names begin with. -/
theorem referenceNames_letters : referenceNames.all (fun g =>
    match g.1.toList with
    | [x, y] => isAsciiAlphanum x && isAsciiAlphanum y
    | _ => false) = true := by
  decide +kernel

/-- A name that begins with the letters of one group stands in no other. -/
theorem not_touches {g : String × String} (hg : g ∈ referenceNames) {a m : Char} {r : Text}
    (hne : g.1.toList ≠ [a, m]) : ∀ e ∈ entriesOf g, touches (a :: m :: r) e = false := by
  intro e he
  have hl := List.all_eq_true.1 referenceNames_letters g hg
  obtain ⟨w, -, rfl⟩ := List.mem_map.1 he
  split at hl
  · rename_i x y hxy
    rw [Bool.and_eq_true] at hl
    have letter : ∀ {c : Char}, isAsciiAlphanum c = true → c ≠ '=' ∧ c ≠ '?' := fun hc =>
      ⟨char_ne hc (by decide), char_ne hc (by decide)⟩
    have hx := letter hl.1
    have hy := letter hl.2
    rw [hxy, ne_eq, List.cons.injEq, List.cons.injEq] at hne
    -- neither letter is an equals sign, so the name of the entry begins with both
    obtain ⟨l, ls, hw⟩ := List.exists_cons_of_ne_nil (splitWhere_ne_nil (· == '=') w)
    have hs : splitWhere (· == '=') (x :: y :: w) = (x :: y :: l) :: ls := by
      simp [splitWhere, hx.1, hy.1, hw]
    unfold touches
    rw [hxy, List.cons_append, List.cons_append, List.nil_append, hs]
    split
    · rename_i name codes hn
      obtain ⟨rfl, -⟩ := List.cons.inj hn
      have hax : (a == x && m == y) = false := by
        rw [Bool.eq_false_iff, ne_eq, Bool.and_eq_true, beq_iff_eq, beq_iff_eq]
        rintro ⟨rfl, rfl⟩
        exact hne ⟨rfl, rfl, rfl⟩
      simp only [List.filter_cons, bne_iff_ne, ne_eq, hx.2, hy.2, not_false_eq_true, if_true,
        List.cons_append, List.isPrefixOf, ← Bool.and_assoc, hax, Bool.false_and]
    · rfl
  · cases hl

/-- **A name that no other name begins with is a leaf** of the tree of all names. The letters that
it begins with tell its group, and its entry is the only one of them that it touches. -/
theorem names_at? {a m : Char} {r : Text} (letters data : String) (e name codes : Text)
    (hl : letters.toList = [a, m])
    (hg : referenceNames.filter (·.1 == letters) = [(letters, data)])
    (he : (entriesOf (letters, data)).filter (touches (a :: m :: r)) = [e])
    (hs : splitWhere (· == '=') e = [name, codes])
    (hn : name.filter (· != '?') ++ [';'] = a :: m :: r) :
    names.at? (a :: m :: r) =
      some (node (some ((splitWhere (· == '+') codes).map fun h => Char.ofNat (ofDigits 16 h))) []) := by
  -- first over the groups, then over the entries of the one that counts
  refine at?_foldl_leaf (q := fun g => g.1 == letters) (fun g hmem hne t => ?_) (fun t ht => ?_) hg rfl
  · have hne' : g.1.toList ≠ [a, m] := by
      rw [← hl, ne_eq, String.toList_inj]
      simpa using hne
    rw [addGroup_eq]
    exact at?_foldl (q := fun _ => false) (fun e he _ t => at?_addEntry (not_touches hmem hne' e he) t)
      (by simp) t
  · rw [addGroup_eq]
    refine at?_foldl_leaf (fun e _ hq t => at?_addEntry hq t) (fun t ht => ?_) he ht
    rw [← hn] at ht ⊢
    exact at?_addEntry_self hs ht

theorem names_amp : names.at? "amp;".toList = some (node (some ['&']) []) :=
  names_at? "am" "acr=101 alg=2A3F p?=26" "amp?=26".toList "amp?".toList "26".toList (by decide)
    (by decide +kernel) (by decide +kernel) (by decide +kernel) (by decide)

theorem names_lt : names.at? "lt;".toList = some (node (some ['<']) []) :=
  names_at? "lt" "?=3C cc=2AA6 cir=2A79 dot=22D6 hree=22CB imes=22C9 larr=2976 quest=2A7B rPar=2996 ri=25C3
      rie=22B4 rif=25C2" "lt?=3C".toList "lt?".toList "3C".toList (by decide)
    (by decide +kernel) (by decide +kernel) (by decide +kernel) (by decide)

theorem names_gt : names.at? "gt;".toList = some (node (some ['>']) []) :=
  names_at? "gt" "?=3E cc=2AA7 cir=2A7A dot=22D7 lPar=2995 quest=2A7C rapprox=2A86 rarr=2978 rdot=22D7
      reqless=22DB reqqless=2A8C rless=2277 rsim=2273" "gt?=3E".toList "gt?".toList "3E".toList
    (by decide) (by decide +kernel) (by decide +kernel) (by decide +kernel) (by decide)

theorem names_quot : names.at? "quot;".toList = some (node (some ['"']) []) :=
  names_at? "qu" "aternions=210D atint=2A16 est=3F esteq=225F ot?=22" "quot?=22".toList
    "quot?".toList "22".toList (by decide) (by decide +kernel) (by decide +kernel)
    (by decide +kernel) (by decide)

/-! ### Reading -/

/-- A name that is a leaf is read to its semicolon, and one more character is looked at. -/
theorem readName_leaf {p v : Text} (h : names.at? (p ++ [';']) = some (node (some v) []))
    (inValue : Bool) {x : Text} (hx : x.head? ≠ some '\r') :
    readName names inValue ((p ++ [';']) ++ x) = ⟨v, false, x.take 1, x.drop 1⟩ := by
  have hf := follow_leaf h (by simp) x 0 none
  have hend : ((p ++ [';']) ++ x)[(p ++ [';']).length - 1]? = some ';' := by simp
  have hback : giveBack v ((p ++ [';']) ++ x) (p ++ [';']).length (p ++ [';']).length =
      ⟨v, false, x.take 1, x.drop 1⟩ := by
    unfold giveBack
    rw [List.drop_left, List.take_left, List.drop_length]
    match x, hx with
    | [], _ => rfl
    | c :: r, hx =>
      have hc : c ≠ '\r' := by simpa using hx
      split
      · rename_i he; cases he
      · rename_i he; exact absurd (List.cons.inj he).1 hc
      · rename_i he
        obtain ⟨rfl, rfl⟩ := List.cons.inj he
        rfl
  rw [Nat.zero_add] at hf
  unfold readName
  rw [hf]
  simp only [hend, beq_self_eq_true, Bool.not_true, Bool.and_false, Bool.false_and,
    Bool.false_eq_true, if_false, hback]

/-- A letter after the ampersand begins a name. -/
theorem read_letter {c : Char} (hc : isAsciiAlphanum c = true) (inValue : Bool) (s : Text) :
    read inValue (c :: s) = readName names inValue (c :: s) := by
  have hne : ∀ d, isAsciiAlphanum d = false → c ≠ d := fun _ => char_ne hc
  unfold read
  split
  · rename_i he; cases he
  · rename_i he; exact absurd (List.cons.inj he).1 (hne _ (by decide))
  · rename_i he; exact absurd (List.cons.inj he).1 (hne _ (by decide))
  · rename_i he; exact absurd (List.cons.inj he).1 (hne _ (by decide))
  · rename_i he
    obtain ⟨rfl, rfl⟩ := List.cons.inj he
    rw [if_neg]
    simp [hne '\t' (by decide), hne '\n' (by decide), hne '\x0c' (by decide), hne ' ' (by decide),
      hne '<' (by decide), hne '&' (by decide)]

/-- A name that is a leaf and begins with a letter is read as what it stands for. -/
theorem read_leaf {c : Char} {p v : Text} (hc : isAsciiAlphanum c = true)
    (h : names.at? (c :: p ++ [';']) = some (node (some v) [])) (inValue : Bool) {x : Text}
    (hx : x.head? ≠ some '\r') :
    read inValue (c :: p ++ [';'] ++ x) = ⟨v, false, x.take 1, x.drop 1⟩ :=
  (read_letter hc inValue _).trans (readName_leaf h inValue hx)

/-- **What is written for a character is read as that character**, in a text and in a value. -/
theorem read_valueChar {c : Char} {p : Text} (h : Page.valueChar c = '&' :: p) (inValue : Bool)
    {x : Text} (hx : x.head? ≠ some '\r') :
    read inValue (p ++ x) = ⟨[c], false, x.take 1, x.drop 1⟩ := by
  unfold Page.valueChar Page.textChar at h
  split at h
  · obtain rfl : "quot;".toList = p := (List.cons.inj h).2
    exact read_leaf (c := 'q') (p := "uot".toList) (by decide) names_quot inValue hx
  · split at h
    · obtain rfl : "amp;".toList = p := (List.cons.inj h).2
      exact read_leaf (c := 'a') (p := "mp".toList) (by decide) names_amp inValue hx
    · obtain rfl : "lt;".toList = p := (List.cons.inj h).2
      exact read_leaf (c := 'l') (p := "t".toList) (by decide) names_lt inValue hx
    · obtain rfl : "gt;".toList = p := (List.cons.inj h).2
      exact read_leaf (c := 'g') (p := "t".toList) (by decide) names_gt inValue hx
    · rename_i hne _ _
      exact absurd (List.cons.inj h).1 hne

end Reference

end HtmlCanon.Html
