import HtmlCanon.Encoding
import HtmlCanon.Html.Builder
import HtmlCanon.Html.Lexeme
import HtmlCanon.Proofs.Html.Reference
import HtmlCanon.Proofs.Page.Escape

/-!
# Lexemes of a page in canonical form

How the pieces that a layout consists of are cut again: start tags with all their attributes, end
tags, line feeds, escaped characters and runs of other characters.

* `Token.quotedValue_escaped` : an attribute value is read to its closing quote.
* `Lexeme.markup_opening`, `Lexeme.markup_closing` : **a tag with names in small letters**.
* `Lexeme.markup_escaped`, `Lexeme.markup_run` : a character that is escaped, and a run of others.
-/

namespace HtmlCanon

/-! ### Names in small letters -/

/-- Whether a name is plain and has no capitals. -/
def isLowerName (s : String) : Bool := isPlainName s && lowerText s.toList == s.toList

/-- A character that an output text can hold and that is kept when the text is read. -/
def isReadable (c : Char) : Bool := isRepresentable c && c != '\r'

theorem not_mem_of_readable {t : Text} (h : t.all isReadable = true) : '\r' ∉ t ∧ '\x00' ∉ t := by
  constructor <;> intro hm <;> exact absurd (List.all_eq_true.1 h _ hm) (by decide)

namespace Html

open Page (valueChar textChar escapeText opening closing)

theorem isPlainName_of_lower {s : String} (h : isLowerName s = true) : isPlainName s = true := by
  simp only [isLowerName, Bool.and_eq_true] at h
  exact h.1

/-- A name in small letters is kept as it is. -/
theorem properName_lower {s : String} (h : isLowerName s = true) : Token.properName s.toList = s := by
  have hall := isPlainName_all (isPlainName_of_lower h)
  simp only [isLowerName, Bool.and_eq_true, beq_iff_eq] at h
  have hnull : (lowerText s.toList).map Token.replaceNull = s.toList.map id := by
    rw [h.2]
    refine List.map_congr_left fun c hc => ?_
    have hne : c ≠ '\x00' := char_ne (List.all_eq_true.1 hall c hc) (by decide)
    simp [Token.replaceNull, hne]
  rw [lowerText, List.map_map, List.map_id] at hnull
  rw [Token.properName, ← String.toList_inj, String.toList_ofList]
  exact hnull

/-! ### Attributes -/

namespace Token

/-- **An attribute value is read to its closing quote.** -/
theorem quotedValue_escaped {v : Text} (hr : '\r' ∉ v) (hn : '\x00' ∉ v) (x : Text) :
    quotedValue '"' (v.flatMap valueChar ++ '"' :: x) = some (v, x) := by
  induction v with
  | nil => rw [List.flatMap_nil, List.nil_append, quotedValue]; simp
  | cons c v ih =>
    rw [List.mem_cons, not_or] at hr hn
    have hrest := ih hr.2 hn.2
    rw [List.flatMap_cons, List.append_assoc]
    obtain ⟨d, r, hd, rfl | ⟨rfl, rfl, hamp, -, -, hq⟩⟩ := Page.valueChar_head c
    · -- a reference, after which one character is looked at that must be no carriage return
      have hhead : (v.flatMap valueChar ++ '"' :: x).head? ≠ some '\r' := by
        cases v with
        | nil => simp
        | cons b v =>
          obtain ⟨e, q, he, rfl | ⟨rfl, -⟩⟩ := Page.valueChar_head b
          · simp [he]
          · have : e ≠ '\r' := fun h => hr.2 (h ▸ List.mem_cons_self)
            simp [he, this]
      have hread := Reference.read_valueChar hd true hhead
      have hleft : (Reference.read true (r ++ (v.flatMap valueChar ++ '"' :: x))).left =
          v.flatMap valueChar ++ '"' :: x := by
        rw [hread, Reference.left, List.take_append_drop]
      rw [hd, List.cons_append, quotedValue, if_neg (by decide), if_pos (by decide), hleft, hrest, hread]
      rfl
    · -- a character that stands for itself
      have hcr : (d == '\r') = false := by simpa using Ne.symm hr.1
      have hnull : replaceNull d = d := by simp [replaceNull, Ne.symm hn.1]
      have hamp' : (d == '&') = false := by simpa using hamp
      have hq' : (d == '"') = false := by simpa using hq
      rw [hd, List.singleton_append, quotedValue, hq', hamp', hcr]
      simp [hrest, hnull]

/-- Characters of names stand in names of attributes and of tags. -/
theorem inAttrName_of_isNameChar {c : Char} (h : isNameChar c = true) : inAttrName c = true := by
  simp [inAttrName, isMarkupSpace, char_ne h (d := ' ') (by decide),
    char_ne h (d := '\n') (by decide), char_ne h (d := '\t') (by decide),
    char_ne h (d := '\r') (by decide), char_ne h (d := '\x0c') (by decide),
    char_ne h (d := '/') (by decide), char_ne h (d := '>') (by decide),
    char_ne h (d := '=') (by decide)]

/-- What a tag needs of an attribute to be read back: a plain name in small letters, and a value of
readable characters. -/
def isReadableAttr (a : Attr) : Bool := a.isPlain && isLowerName a.name && a.value.all isReadable

/-- One attribute is read. -/
theorem attributes_attr {a : Attr} (ha : isReadableAttr a = true) (acc : List (String × Text))
    (x : Text) : attributes acc (Page.attr a ++ x) = attributes (addAttr acc a.name a.value) x := by
  simp only [isReadableAttr, Bool.and_eq_true] at ha
  obtain ⟨⟨hplain, hname⟩, hvalue⟩ := ha
  obtain ⟨hr, hn⟩ := not_mem_of_readable hvalue
  have hall := isPlainName_all (isPlainName_of_lower hname)
  obtain ⟨c, r, hc, hcn⟩ := isPlainName_cons (isPlainName_of_lower hname)
  have hin := inAttrName_of_isNameChar hcn
  have htail : r.all inAttrName = true := by
    rw [hc, List.all_cons, Bool.and_eq_true] at hall
    exact List.all_eq_true.2 fun d hd => inAttrName_of_isNameChar (List.all_eq_true.1 hall.2 d hd)
  -- the text after the first character of the name
  set rest : Text := '"' :: (a.value.flatMap valueChar ++ '"' :: x) with hrest
  have htext : Page.attr a ++ x = ' ' :: c :: (r ++ '=' :: rest) := by
    simp [Page.attr, (Attr.label_of_isPlain hplain).2, hc, hrest]
  have htake : (r ++ '=' :: rest).takeWhile inAttrName = r := by
    rw [List.takeWhile_append_of_pos (List.all_eq_true.1 htail), List.takeWhile_cons_of_neg (by decide),
      List.append_nil]
  have hdrop : ((r ++ '=' :: rest).dropWhile inAttrName).dropWhile isMarkupSpace = '=' :: rest := by
    rw [List.dropWhile_append_of_pos (List.all_eq_true.1 htail), List.dropWhile_cons_of_neg (by decide),
      List.dropWhile_cons_of_neg (by decide)]
  have hread : attrValue rest = some (a.value, x) := by
    unfold attrValue
    rw [hrest, List.dropWhile_cons_of_neg (by decide)]
    exact quotedValue_escaped hr hn x
  have hproper : properName (c :: r) = a.name := by rw [← hc]; exact properName_lower hname
  simp only [inAttrName, Bool.not_eq_true', Bool.or_eq_false_iff] at hin
  obtain ⟨⟨⟨hs, hslash⟩, hgt⟩, -⟩ := hin
  rw [htext, attributes, if_pos (by decide), attributes]
  simp only [hs, hgt, hslash, Bool.false_eq_true, if_false, htake, hproper]
  split
  · rename_i r' he
    rw [hdrop] at he
    obtain rfl := (List.cons.inj he).2
    split
    · rename_i hnone
      rw [hread] at hnone
      cases hnone
    · rename_i v rest' hsome
      rw [hread] at hsome
      obtain ⟨rfl, rfl⟩ := Prod.mk.inj (Option.some.inj hsome)
      rfl
  · rename_i hne
    exact absurd hdrop (hne rest)

/-- **The attributes of a tag are read in order**, up to the end of the tag. -/
theorem attributes_flatMap {as : List Attr} (ha : as.all isReadableAttr = true)
    {acc : List (String × Text)} (hd : (acc.map Prod.fst ++ as.map Attr.name).Nodup) (x : Text) :
    attributes acc (as.flatMap Page.attr ++ '>' :: x) =
      some (acc ++ as.map fun a => (a.name, a.value), false, x) := by
  induction as generalizing acc with
  | nil => rw [List.flatMap_nil, List.nil_append, attributes, if_neg (by decide)]; simp
  | cons a as ih =>
    rw [List.all_cons, Bool.and_eq_true] at ha
    have hnew : addAttr acc a.name a.value = acc ++ [(a.name, a.value)] := by
      rw [addAttr, if_neg]
      intro hany
      obtain ⟨b, hb, hab⟩ := List.any_eq_true.1 hany
      rw [List.nodup_append] at hd
      exact hd.2.2 b.1 (List.mem_map_of_mem hb) a.name List.mem_cons_self (by simpa using hab)
    rw [List.flatMap_cons, List.append_assoc, attributes_attr ha.1, hnew]
    rw [ih ha.2 (by simpa using hd)]
    simp

end Token

/-! ### Tags -/

/-- The start tag that a tag is written as. -/
def Tag.start (t : Tag) : StartTag := ⟨t.name, t.attrs.map fun a => (a.name, a.value), false⟩

/-- Whether a name begins with a letter and is in small letters. -/
def isTagName (s : String) : Bool := isLowerName s && s.toList.head?.any Char.isAlpha

/-- Whether a tag is read back as it is written: it is one of HTML with names in small letters, its
attributes are in order and no two of them have one name. -/
def Tag.isReadable (t : Tag) : Bool :=
  t.space == .html && isTagName t.name && t.attrs.all Token.isReadableAttr &&
    decide (t.attrs.map Attr.name).Nodup && Attr.sort t.attrs == t.attrs

theorem isTagName_cons {s : String} (h : isTagName s = true) :
    ∃ c r, s.toList = c :: r ∧ c.isAlpha = true := by
  simp only [isTagName, Bool.and_eq_true] at h
  cases hs : s.toList with
  | nil => simp [hs] at h
  | cons c r => exact ⟨c, r, rfl, by simpa [hs] using h.2⟩

theorem Tag.isReadable_name {t : Tag} (h : t.isReadable = true) : isTagName t.name = true := by
  simp only [isReadable, Bool.and_eq_true] at h
  exact h.1.1.1.2

/-- **The element of a start tag that was written for a tag** has that tag. -/
theorem htmlTag_start {t : Tag} (h : t.isReadable = true) : Build.htmlTag t.start = t := by
  simp only [Tag.isReadable, Bool.and_eq_true, beq_iff_eq] at h
  obtain ⟨⟨⟨⟨hs, -⟩, ha⟩, -⟩, hsort⟩ := h
  have hattrs : (t.attrs.map fun a => (a.name, a.value)).map (Foreign.attr .html) = t.attrs := by
    rw [List.map_map]
    conv_rhs => rw [← List.map_id t.attrs]
    refine List.map_congr_left fun a hm => ?_
    have hr := List.all_eq_true.1 ha a hm
    simp only [Token.isReadableAttr, Bool.and_eq_true] at hr
    have hp := (Attr.label_of_isPlain hr.1.1).1
    obtain ⟨space, name, value⟩ := a
    simp only at hp
    subst hp
    rfl
  obtain ⟨space, name, attrs⟩ := t
  simp only at hs hattrs hsort
  subst hs
  simp [Build.htmlTag, Tag.start, Foreign.tag, hattrs, hsort]

namespace Lexeme

/-- A tag name is read up to a character that cannot stand in one. -/
theorem inTagName_split {s : String} (h : isLowerName s = true) {c : Char} (hc : inTagName c = false)
    (x : Text) : (s.toList ++ c :: x).takeWhile inTagName = s.toList ∧
      (s.toList ++ c :: x).dropWhile inTagName = c :: x := by
  have hall : ∀ d ∈ s.toList, inTagName d = true := by
    intro d hd
    have hn := List.all_eq_true.1 (isPlainName_all (isPlainName_of_lower h)) d hd
    have := Token.inAttrName_of_isNameChar hn
    simp only [Token.inAttrName, Bool.not_eq_true', Bool.or_eq_false_iff] at this
    simp [inTagName, this.1.1.1, this.1.1.2, this.1.2]
  constructor
  · rw [List.takeWhile_append_of_pos hall, List.takeWhile_cons_of_neg (by simp [hc]), List.append_nil]
  · rw [List.dropWhile_append_of_pos hall, List.dropWhile_cons_of_neg (by simp [hc])]

/-- A letter after the opening mark begins a start tag. -/
theorem angle_letter {c : Char} (hc : c.isAlpha = true) (cdata : Bool) (x : Text) :
    angle cdata (c :: x) = tag true (c :: x) := by
  have hne : ∀ d : Char, d.isAlpha = false → c ≠ d := fun _ => char_ne hc
  unfold angle
  split
  · rename_i he; exact absurd (List.cons.inj he).1 (hne _ (by decide))
  · rename_i he; exact absurd (List.cons.inj he).1 (hne _ (by decide))
  · rename_i he; exact absurd (List.cons.inj he).1 (hne _ (by decide))
  · rename_i he; exact absurd (List.cons.inj he).1 (hne _ (by decide))
  · rename_i he; exact absurd (List.cons.inj he).1 (hne _ (by decide))
  · rename_i he
    obtain ⟨rfl, rfl⟩ := List.cons.inj he
    rw [if_pos hc]
  · rename_i he; cases he

/-- **A start tag that was written for a tag is read as that start tag.** -/
theorem markup_opening {t : Tag} (ht : t.isReadable = true) (cdata : Bool) (x : Text) :
    markup cdata (opening t ++ x) = ⟨[.start t.start], x⟩ := by
  have hname := t.isReadable_name ht
  obtain ⟨c, r, hc, halpha⟩ := isTagName_cons hname
  simp only [isTagName, Bool.and_eq_true] at hname
  simp only [Tag.isReadable, Bool.and_eq_true, decide_eq_true_eq] at ht
  obtain ⟨⟨⟨-, ha⟩, hd⟩, -⟩ := ht
  have htext : opening t ++ x = '<' :: (t.name.toList ++ (t.attrs.flatMap Page.attr ++ '>' :: x)) := by
    simp [opening]
  obtain ⟨d, q, hq, hin⟩ : ∃ d q, t.attrs.flatMap Page.attr ++ '>' :: x = d :: q ∧
      inTagName d = false := by
    cases t.attrs with
    | nil => exact ⟨'>', x, rfl, by decide⟩
    | cons a as => exact ⟨' ', _, rfl, by decide⟩
  have hfree : (([] : List (String × Text)).map Prod.fst ++ t.attrs.map Attr.name).Nodup := by
    simpa using hd
  have hread := Token.attributes_flatMap ha hfree x
  have hsplit := inTagName_split hname.1 hin q
  rw [← hq] at hsplit
  have htag : tag true (t.name.toList ++ (t.attrs.flatMap Page.attr ++ '>' :: x)) =
      ⟨[.start t.start], x⟩ := by
    unfold tag
    simp only [hsplit.1, hsplit.2, hread, properName_lower hname.1, List.nil_append, if_true]
    rfl
  rw [htext, ← htag]
  rw [hc, List.cons_append]
  exact angle_letter halpha cdata _

/-- **An end tag is read as the end tag of its name.** -/
theorem markup_closing {name : String} (hn : isTagName name = true) (cdata : Bool) (x : Text) :
    markup cdata (closing name ++ x) = ⟨[.stop name], x⟩ := by
  obtain ⟨c, r, hc, halpha⟩ := isTagName_cons hn
  simp only [isTagName, Bool.and_eq_true] at hn
  have hsplit := inTagName_split hn.1 (c := '>') (by decide) x
  have htag : tag false (name.toList ++ '>' :: x) = ⟨[.stop name], x⟩ := by
    unfold tag
    simp only [hsplit.1, hsplit.2, properName_lower hn.1]
    rw [Token.attributes, if_neg (by decide), if_pos (by decide)]
    rfl
  have htext : closing name ++ x = '<' :: '/' :: (name.toList ++ '>' :: x) := by
    simp [closing]
  have hgt : c ≠ '>' := char_ne halpha (by decide)
  rw [htext, ← htag, hc, List.cons_append]
  show angle cdata ('/' :: c :: (r ++ '>' :: x)) = _
  unfold angle
  split
  · rename_i he; cases he
  · rename_i he; cases he
  · rename_i he; exact absurd (List.cons.inj (List.cons.inj he).2).1 hgt
  · rename_i he
    obtain ⟨rfl, rfl⟩ := List.cons.inj (List.cons.inj he).2
    rw [if_pos halpha]
  · rename_i he; cases he
  · rename_i h _ he
    obtain ⟨rfl, rfl⟩ := List.cons.inj he
    exact (h _ _ rfl rfl).elim
  · rename_i he; cases he

/-! ### Characters -/

theorem unifyNewlines_eq {u : Text} (h : '\r' ∉ u) : Token.unifyNewlines u = u := by
  induction u with
  | nil => rfl
  | cons c r ih =>
    rw [List.mem_cons, not_or] at h
    unfold Token.unifyNewlines
    split
    · rename_i he; exact absurd (List.cons.inj he).1.symm h.1
    · rename_i he; exact absurd (List.cons.inj he).1.symm h.1
    · rename_i he
      obtain ⟨rfl, rfl⟩ := List.cons.inj he
      rw [ih h.2]
    · rename_i he; cases he

/-- A text without carriage returns and null characters stands for itself. -/
theorem plainText_eq {u : Text} (hr : '\r' ∉ u) (hn : '\x00' ∉ u) : Token.plainText u = u := by
  rw [Token.plainText, unifyNewlines_eq hr]
  conv_rhs => rw [← List.map_id u]
  refine List.map_congr_left fun c hc => ?_
  have : c ≠ '\x00' := by rintro rfl; exact hn hc
  simp [Token.replaceNull, this]

theorem not_mem_of_ordinary {u : Text} (h : u.all isOrdinary = true) {c : Char}
    (hc : isOrdinary c = false) : c ∉ u := fun hm => by
  rw [List.all_eq_true.1 h c hm] at hc
  cases hc

/-- **A run of ordinary characters** is one token. -/
theorem markup_run {u x : Text} (hu : u ≠ []) (ho : u.all isOrdinary = true)
    (hx : ∀ c ∈ x.head?, isOrdinary c = false) (cdata : Bool) :
    markup cdata (u ++ x) = ⟨[.text u], x⟩ := by
  have htake : (u ++ x).takeWhile isOrdinary = u ∧ (u ++ x).dropWhile isOrdinary = x := by
    rw [List.takeWhile_append_of_pos (List.all_eq_true.1 ho),
      List.dropWhile_append_of_pos (List.all_eq_true.1 ho)]
    cases x with
    | nil => simp
    | cons c x =>
      have hc : isOrdinary c = false := hx c rfl
      simp [hc]
  have hrun : run isOrdinary (u ++ x) = ⟨[.text u], x⟩ := by
    rw [run, htake.1, htake.2, plainText_eq (not_mem_of_ordinary ho (by decide))
      (not_mem_of_ordinary ho (by decide))]
  obtain ⟨c, r, rfl⟩ := List.exists_cons_of_ne_nil hu
  have hne : ∀ d, isOrdinary d = false → c ≠ d := by
    rintro d hd rfl
    exact not_mem_of_ordinary ho hd List.mem_cons_self
  rw [← hrun, List.cons_append]
  unfold markup
  split
  · rename_i he; cases he
  · rename_i he; exact absurd (List.cons.inj he).1 (hne _ (by decide))
  · rename_i he; exact absurd (List.cons.inj he).1 (hne _ (by decide))
  · rename_i he; exact absurd (List.cons.inj he).1 (hne _ (by decide))
  · rename_i he; exact absurd (List.cons.inj he).1 (hne _ (by decide))
  · rename_i he; exact absurd (List.cons.inj he).1 (hne _ (by decide))
  · rfl

/-- **A character that is escaped is read back.** -/
theorem markup_escaped {c : Char} {p : Text} (h : valueChar c = '&' :: p) (cdata : Bool) {x : Text}
    (hx : x.head? ≠ some '\r') (ho : ∀ d ∈ x.head?, isOrdinary d = false) :
    markup cdata ('&' :: (p ++ x)) = ⟨[.text [c]], x⟩ := by
  show reference (p ++ x) = _
  have hread := Reference.read_valueChar h false hx
  unfold reference
  rw [hread]
  cases x with
  | nil => rfl
  | cons d y => simp [Reference.left, ho d rfl]

/-- An ordinary character that comes next is read with it. -/
theorem markup_escaped_ordinary {c d : Char} {p : Text} (h : valueChar c = '&' :: p) (cdata : Bool)
    (hd : isOrdinary d = true) (y : Text) :
    markup cdata ('&' :: (p ++ d :: y)) = ⟨[.text [c], .text [d]], y⟩ := by
  have hcr : d ≠ '\r' := char_ne hd (by decide)
  show reference (p ++ d :: y) = _
  have hread := Reference.read_valueChar h false (x := d :: y) (by simpa using hcr)
  unfold reference
  rw [hread]
  simp [hd]

end Lexeme

end Html

end HtmlCanon
