import HtmlCanon.Proofs.Regex.Search
import Mathlib.Computability.Language

/-!
# What expressions read

What an expression without conditions matches does not depend on the place where it stands, so that it
is told by the texts that it reads. A set of characters is searched in halves, which finds all of its
characters if its ranges are in order.

* `inRanges_toArray` : a search in halves finds what is in a set.
* `Reads` : the places that are joined are those with a text of a language between them.
* `Expr.reads` : **an expression reads its language**.
* `isMatch_anchored`, `isMatch_framed` : what is matched at the start of a text, and between its ends.
-/

namespace HtmlCanon.Regex

open Unicode Relation

/-! ### Sets of characters -/

/-- The ranges of a set are in order and apart. -/
def InOrder (s : CharSet) : Prop := s.Pairwise fun r t => r.1 ≤ t.1 ∧ r.2 < t.1

instance (s : CharSet) : Decidable (InOrder s) := by
  unfold InOrder
  infer_instance

theorem InOrder.lt {s : CharSet} (hs : InOrder s) {i j : Nat} {r t : Nat × Nat} (hij : i < j)
    (hi : s[i]? = some r) (hj : s[j]? = some t) : r.1 ≤ t.1 ∧ r.2 < t.1 := by
  obtain ⟨hlt, rfl⟩ := List.getElem?_eq_some_iff.1 hi
  obtain ⟨hlt', rfl⟩ := List.getElem?_eq_some_iff.1 hj
  exact List.pairwise_iff_getElem.1 hs i j hlt hlt' hij

/-- **A search in halves** finds a code point if it is in one of the ranges that are searched. -/
theorem inRanges_iff {s : CharSet} (hs : InOrder s) (n : Nat) {fuel low high : Nat}
    (hfuel : high - low < fuel) (hhigh : high ≤ s.length) : inRanges s.toArray n fuel low high = true ↔
      ∃ i r, low ≤ i ∧ i < high ∧ s[i]? = some r ∧ r.1 ≤ n ∧ n ≤ r.2 := by
  induction fuel generalizing low high with
  | zero => omega
  | succ fuel ih =>
    rw [inRanges]
    split
    · rename_i hlt
      obtain ⟨mid, hmid⟩ : ∃ mid, mid = (low + high) / 2 := ⟨_, rfl⟩
      obtain ⟨⟨a, b⟩, hab⟩ : ∃ r, s[mid]? = some r := ⟨_, List.getElem?_eq_getElem (by omega)⟩
      rw [← hmid]
      simp only [List.getElem?_toArray, hab]
      split
      · rename_i hna
        rw [ih (by omega) (by omega)]
        refine exists_congr fun i => exists_congr fun r => and_congr_right fun _ => ?_
        constructor
        · rintro ⟨hi, hr, hn⟩
          exact ⟨by omega, hr, hn⟩
        · rintro ⟨hi, hr, hn⟩
          refine ⟨?_, hr, hn⟩
          by_contra hle
          rcases Nat.eq_or_lt_of_le (Nat.le_of_not_lt hle) with rfl | hlt
          · obtain rfl := Option.some.inj (hab.symm.trans hr)
            omega
          · have := hs.lt hlt hab hr
            omega
      · split
        · rename_i hbn
          rw [ih (by omega) (by omega)]
          refine exists_congr fun i => exists_congr fun r => ?_
          constructor
          · rintro ⟨hi, hr⟩
            exact ⟨by omega, hr⟩
          · rintro ⟨hi, hlt, hr, hn⟩
            refine ⟨?_, hlt, hr, hn⟩
            by_contra hle
            rcases Nat.eq_or_lt_of_le (show i ≤ mid by omega) with rfl | hlt
            · obtain rfl := Option.some.inj (hab.symm.trans hr)
              omega
            · have := hs.lt hlt hr hab
              omega
        · refine iff_of_true rfl ⟨mid, (a, b), ?_⟩
          exact ⟨by omega, by omega, hab, by omega, by omega⟩
    · refine iff_of_false nofun ?_
      rintro ⟨i, -, hi, hlt, -⟩
      omega

theorem inRanges_toArray {s : CharSet} (hs : InOrder s) (n : Nat) :
    inRanges s.toArray n (s.toArray.size + 1) 0 s.toArray.size = s.containsCode n := by
  rw [Bool.eq_iff_iff, inRanges_iff hs n (by simp) (by simp)]
  simp only [CharSet.containsCode, List.any_eq_true, Bool.and_eq_true, decide_eq_true_eq,
    List.mem_iff_getElem?]
  constructor
  · rintro ⟨i, r, -, -, hr, hn⟩
    exact ⟨r, ⟨i, hr⟩, hn⟩
  · rintro ⟨r, ⟨i, hr⟩, hn⟩
    obtain ⟨hi, -⟩ := List.getElem?_eq_some_iff.1 hr
    exact ⟨i, r, Nat.zero_le i, by simpa using hi, hr, hn⟩

/-! ### Languages -/

/-- The texts of one character of some ranges. -/
def letters (ranges : Array (Nat × Nat)) : Language Char :=
  {x | ∃ c : Char, inRanges ranges c.toNat (ranges.size + 1) 0 ranges.size = true ∧ x = [c]}

theorem letters_singleton (c : Char) : letters #[(c.toNat, c.toNat)] = {[c]} := by
  have hrange : ∀ d : Char, inRanges #[(c.toNat, c.toNat)] d.toNat 2 0 1 = true ↔ d = c := fun d => by
    rw [← Char.toNat_inj]
    simp [inRanges]
    omega
  ext x
  constructor
  · rintro ⟨d, hd, rfl⟩
    rw [(hrange d).1 hd]
    rfl
  · rintro rfl
    exact ⟨c, (hrange c).2 rfl, rfl⟩

theorem mem_letters_toArray {s : CharSet} (hs : InOrder s) {x : Text} :
    x ∈ letters s.toArray ↔ ∃ c, s.contains c = true ∧ x = [c] := by
  simp only [letters, inRanges_toArray hs]
  rfl

/-- The places that are joined are those with a text of a language between them. -/
structure Reads (R : Spot → Spot → Prop) (L : Language Char) : Prop where
  split {s t : Spot} : R s t → ∃ x ∈ L, s.rest = x ++ t.rest
  join {s : Spot} {x y : Text} : x ∈ L → s.rest = x ++ y → ∃ t, R s t ∧ t.rest = y

namespace Reads

variable {R S : Spot → Spot → Prop} {L M : Language Char}

theorem nothing : Reads Eq 1 where
  split := by
    rintro s _ rfl
    exact ⟨[], rfl, rfl⟩
  join {s x y} hx h := by
    obtain rfl := (Language.mem_one x).1 hx
    exact ⟨s, rfl, h⟩

theorem letter (ranges : Array (Nat × Nat)) : Reads (Passes ranges) (letters ranges) where
  split := by
    rintro _ _ ⟨k, before, c, r, hc⟩
    exact ⟨[c], ⟨c, hc, rfl⟩, rfl⟩
  join := by
    rintro ⟨k, before, rest⟩ _ y ⟨c, hc, rfl⟩ rfl
    exact ⟨_, .intro k before c y hc, rfl⟩

theorem comp (h : Reads R L) (h' : Reads S M) : Reads (Comp R S) (L * M) where
  split := by
    rintro s u ⟨t, hR, hS⟩
    obtain ⟨x, hx, hs⟩ := h.split hR
    obtain ⟨y, hy, ht⟩ := h'.split hS
    exact ⟨x ++ y, Language.append_mem_mul hx hy, by rw [hs, ht, List.append_assoc]⟩
  join {s _ z} hxy hs := by
    obtain ⟨x, hx, y, hy, rfl⟩ := Language.mem_mul.1 hxy
    rw [List.append_assoc] at hs
    obtain ⟨t, hR, ht⟩ := h.join hx hs
    obtain ⟨u, hS, hu⟩ := h'.join hy ht
    exact ⟨u, ⟨t, hR, hS⟩, hu⟩

theorem or (h : Reads R L) (h' : Reads S M) : Reads (fun s t => R s t ∨ S s t) (L + M) where
  split hRS := by
    rcases hRS with hR | hS
    · obtain ⟨x, hx, hs⟩ := h.split hR
      exact ⟨x, .inl hx, hs⟩
    · obtain ⟨x, hx, hs⟩ := h'.split hS
      exact ⟨x, .inr hx, hs⟩
  join hx hs := by
    rcases hx with hx | hx
    · obtain ⟨t, hR, ht⟩ := h.join hx hs
      exact ⟨t, .inl hR, ht⟩
    · obtain ⟨t, hS, ht⟩ := h'.join hx hs
      exact ⟨t, .inr hS, ht⟩

theorem repeats (h : Reads R L) (n : Nat) : Reads (Repeats R n) (L ^ n) := by
  induction n with
  | zero => exact nothing
  | succ n ih =>
    rw [pow_succ']
    exact h.comp ih

end Reads

mutual

/-- Whether an expression holds no condition on places. -/
def Expr.isFree : Expr → Bool
  | .look _ => false
  | .repetition _ _ _ e => e.isFree
  | .capture _ _ e => e.isFree
  | .concat es => Expr.areFree es
  | .alternation es => Expr.areFree es
  | _ => true

/-- Whether some expressions hold no condition on places. -/
def Expr.areFree : List Expr → Bool
  | [] => true
  | e :: es => e.isFree && Expr.areFree es

end

mutual

/-- The texts that an expression matches wherever they stand, if it holds no condition. -/
def Expr.language : Expr → Language Char
  | .empty => 1
  | .look _ => 0
  | .char c => {[c]}
  | .oneOf s => letters s.toArray
  | .capture _ _ e => e.language
  | .concat es => Expr.product es
  | .alternation es => Expr.sum es
  | .repetition min max _ e => {x | ∃ n, IsCount min max n ∧ x ∈ e.language ^ n}

/-- The texts of some expressions in a row. -/
def Expr.product : List Expr → Language Char
  | [] => 1
  | e :: es => e.language * Expr.product es

/-- The texts of one of some expressions. -/
def Expr.sum : List Expr → Language Char
  | [] => 0
  | e :: es => e.language + Expr.sum es

end

mutual

/-- **An expression reads its language.** -/
theorem Expr.reads : ∀ {e : Expr}, e.isFree = true → Reads e.Spans e.language
  | .empty, _ => .nothing
  | .char c, _ => by
    rw [Expr.language, ← letters_singleton]
    exact .letter _
  | .oneOf s, _ => .letter _
  | .capture _ _ e, h => Expr.reads (e := e) h
  | .concat es, h => Expr.readsAll h
  | .alternation es, h => Expr.readsOne h
  | .repetition _ _ _ e, h => by
    have hrepeats := (Expr.reads (e := e) h).repeats
    refine ⟨?_, ?_⟩
    · rintro s t ⟨n, hn, hR⟩
      obtain ⟨x, hx, hs⟩ := (hrepeats n).split hR
      exact ⟨x, ⟨n, hn, hx⟩, hs⟩
    · rintro s x y ⟨n, hn, hx⟩ hs
      obtain ⟨t, hR, ht⟩ := (hrepeats n).join hx hs
      exact ⟨t, ⟨n, hn, hR⟩, ht⟩

theorem Expr.readsAll : ∀ {es : List Expr},
    Expr.areFree es = true → Reads (Expr.SpanAll es) (Expr.product es)
  | [], _ => .nothing
  | e :: es, h => by
    obtain ⟨he, hes⟩ := Bool.and_eq_true_iff.1 h
    exact (Expr.reads he).comp (Expr.readsAll hes)

theorem Expr.readsOne : ∀ {es : List Expr},
    Expr.areFree es = true → Reads (Expr.SpanOne es) (Expr.sum es)
  | [], _ => ⟨nofun, nofun⟩
  | e :: es, h => by
    obtain ⟨he, hes⟩ := Bool.and_eq_true_iff.1 h
    exact (Expr.reads he).or (Expr.readsOne hes)

end

/-! ### What is in a language -/

section Language

variable {es fs : List Expr} {x : Text}

theorem product_append : Expr.product (es ++ fs) = Expr.product es * Expr.product fs := by
  induction es with
  | nil => rw [List.nil_append, Expr.product, one_mul]
  | cons e es ih => rw [List.cons_append, Expr.product, Expr.product, ih, mul_assoc]

theorem mem_product_nil : x ∈ Expr.product [] ↔ x = [] := Language.mem_one x

theorem mem_product_cons {e : Expr} : x ∈ Expr.product (e :: es) ↔
    ∃ a ∈ e.language, ∃ b ∈ Expr.product es, a ++ b = x := Language.mem_mul

theorem mem_char {c : Char} : x ∈ (Expr.char c).language ↔ x = [c] := .rfl

/-- What is repeated any number of times. -/
theorem mem_repetition {e : Expr} {b : Bool} : x ∈ (Expr.repetition 0 none b e).language ↔
    ∃ n, x ∈ e.language ^ n :=
  exists_congr fun _ => and_iff_right ⟨Nat.zero_le _, nofun⟩

/-- Any number of characters of a set. -/
theorem mem_repetition_oneOf {s : CharSet} (hs : InOrder s) {b : Bool} :
    x ∈ (Expr.repetition 0 none b (.oneOf s)).language ↔ ∀ c ∈ x, s.contains c = true := by
  rw [mem_repetition]
  simp only [Language.mem_pow, Expr.language, mem_letters_toArray hs]
  constructor
  · rintro ⟨n, ys, rfl, -, hys⟩ c hc
    obtain ⟨y, hy, hc⟩ := List.mem_flatten.1 hc
    obtain ⟨d, hd, rfl⟩ := hys y hy
    rwa [List.mem_singleton.1 hc]
  · intro h
    have hx : x = (x.map fun c => [c]).flatten := by
      rw [← List.flatMap_def, List.flatMap_singleton']
    refine ⟨_, _, hx, rfl, fun y hy => ?_⟩
    obtain ⟨c, hc, rfl⟩ := List.mem_map.1 hy
    exact ⟨c, h c hc, rfl⟩

/-- A word in front. -/
theorem mem_product_word {w : Text} :
    x ∈ Expr.product (w.map Expr.char ++ es) ↔ ∃ y, x = w ++ y ∧ y ∈ Expr.product es := by
  induction w generalizing x with
  | nil => simp
  | cons c w ih =>
    rw [List.map_cons, List.cons_append, mem_product_cons]
    simp only [mem_char, ih]
    constructor
    · rintro ⟨_, rfl, _, ⟨y, rfl, hy⟩, rfl⟩
      exact ⟨y, rfl, hy⟩
    · rintro ⟨y, rfl, hy⟩
      exact ⟨[c], rfl, w ++ y, ⟨y, rfl, hy⟩, rfl⟩

/-- What may stand there once. -/
theorem mem_optional {e : Expr} {b : Bool} :
    x ∈ (Expr.repetition 0 (some 1) b e).language ↔ x = [] ∨ x ∈ e.language := by
  have hcount : ∀ n, IsCount 0 (some 1) n ↔ n = 0 ∨ n = 1 := fun n => by
    simp [IsCount]
    omega
  constructor
  · rintro ⟨n, hn, hx⟩
    rcases (hcount n).1 hn with rfl | rfl
    · exact .inl ((Language.mem_one x).1 hx)
    · rw [pow_one] at hx
      exact .inr hx
  · rintro (rfl | hx)
    · exact ⟨0, (hcount 0).2 (.inl rfl), rfl⟩
    · exact ⟨1, (hcount 1).2 (.inr rfl), by rwa [pow_one]⟩

end Language

/-! ### Both ends of a text -/

theorem spanAll_append (es fs : List Expr) :
    Expr.SpanAll (es ++ fs) = Comp (Expr.SpanAll es) (Expr.SpanAll fs) := by
  induction es with
  | nil => rw [List.nil_append, Expr.SpanAll, eq_comp]
  | cons e es ih => rw [List.cons_append, Expr.SpanAll, Expr.SpanAll, ih, comp_assoc]

/-- What is bound to the start of a text is matched there or nowhere. -/
theorem exists_spans_textStart (es : List Expr) (t : Text) :
    (∃ n ≤ t.length, ∃ u, Expr.SpanAll (.look .textStart :: es) (Spot.skip ⟨0, none, t⟩ n) u) ↔
      ∃ u, Expr.SpanAll es ⟨0, none, t⟩ u := by
  constructor
  · rintro ⟨n, hn, u, _, ⟨hstart, rfl⟩, hspans⟩
    cases n with
    | zero => exact ⟨u, hspans⟩
    | succ n =>
      have hbefore : (Spot.skip ⟨0, none, t⟩ (n + 1)).before = some t[n] :=
        List.getElem?_eq_getElem hn
      rw [Look.holds, hbefore] at hstart
      cases hstart
  · rintro ⟨u, hspans⟩
    exact ⟨0, Nat.zero_le _, u, _, ⟨rfl, rfl⟩, hspans⟩

section Ends

variable {es : List Expr} (hes : Expr.areFree es = true) (captures : Nat) (names : List (Text × Nat))
  (t : Text)

include hes

/-- An expression that is bound to the start of a text matches what the text begins with. -/
theorem isMatch_anchored :
    isMatch ⟨Program.ofExpr (.concat (.empty :: .look .textStart :: es)) captures, names⟩ t = true ↔
      ∃ x ∈ Expr.product es, x <+: t := by
  rw [isMatch_ofExpr, Expr.Spans, Expr.SpanAll, Expr.Spans, eq_comp, exists_spans_textStart]
  constructor
  · rintro ⟨u, hspans⟩
    obtain ⟨x, hx, hrest⟩ := (Expr.readsAll hes).split hspans
    exact ⟨x, hx, u.rest, hrest.symm⟩
  · rintro ⟨x, hx, y, rfl⟩
    obtain ⟨u, hspans, -⟩ := (Expr.readsAll hes).join (s := ⟨0, none, x ++ y⟩) hx rfl
    exact ⟨u, hspans⟩

/-- An expression that is bound to both ends of a text matches the whole of it. -/
theorem isMatch_framed :
    isMatch ⟨Program.ofExpr (.concat (.look .textStart :: (es ++ [.look .textEnd]))) captures, names⟩
      t = true ↔ t ∈ Expr.product es := by
  rw [isMatch_ofExpr, Expr.Spans, exists_spans_textStart, spanAll_append]
  constructor
  · rintro ⟨u, s, hspans, _, ⟨hend, rfl⟩, rfl⟩
    obtain ⟨x, hx, hrest⟩ := (Expr.readsAll hes).split hspans
    have hnil : s.rest = [] := List.head?_eq_none_iff.1 (Option.isNone_iff_eq_none.1 hend)
    rw [hnil, List.append_nil] at hrest
    exact (show t = x from hrest) ▸ hx
  · intro ht
    obtain ⟨u, hspans, hrest⟩ :=
      (Expr.readsAll hes).join (s := ⟨0, none, t⟩) ht (List.append_nil t).symm
    have hend : Look.textEnd.holds u.before u.rest.head? = true := by
      rw [hrest]
      rfl
    exact ⟨u, u, hspans, u, ⟨hend, rfl⟩, rfl⟩

end Ends

end HtmlCanon.Regex
