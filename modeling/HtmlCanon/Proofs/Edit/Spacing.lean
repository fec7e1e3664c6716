import HtmlCanon.Proofs.Edit.Cover
import HtmlCanon.Proofs.Regex.Spaces

/-!
# One space for several

The texts of a page are gone through in document order. Each in which several spaces stand in a row is
put back with one space for them; the others are passed over. What comes of it is the page with all of
its texts changed, and nothing else.

* `collapsed?` : what is put back for a text, if anything is.
* `Forest.putAt_eq` : **what one step changes**.
* `Forest.foldl_putAt` : **runs of any length**, also ones that come to a text again.
* `Page.collapseSpaces_runs` : **every longest run of several spaces becomes one space**, and nothing
  else changes.
-/

namespace HtmlCanon

open Html Html.Forest Html.Placed Html.Node

/-- A text with one space in place of each match of the pattern for several, none if there is none. -/
def collapsed? (t : Text) : Option Text :=
  if Regex.severalSpaces.isMatch t then some (Regex.severalSpaces.replaceAll [' '] t) else none

variable {t : Text} {a : Address}

/-- A text is changed when two spaces stand side by side in it. -/
theorem isSome_collapsed? (t : Text) : (collapsed? t).isSome = true ↔ [' ', ' '] <:+: t := by
  rw [← Regex.isMatch_severalSpaces, collapsed?]
  split
  · next h => exact iff_of_true rfl h
  · next h => exact iff_of_false (by decide) h

theorem getD_collapsed? (t : Text) : (collapsed? t).getD t = collapseSpaces t := by
  rw [collapsed?]
  split
  · exact Regex.replaceAll_severalSpaces t
  · next h => exact (collapseSpaces_of_single fun hin => h ((Regex.isMatch_severalSpaces t).2 hin)).symm

namespace Html.Forest

variable {g g' : Address → Text → Text} {f f' : Text → Text}

/-! ### Changes of texts -/

mutual

theorem mapTextAt_congr (a : Address) (n : Node)
    (h : ∀ q ∈ nodes (ofNode a n), ∀ d, q.here = .text d → g q.source d = g' q.source d) :
    mapTextAt g a n = mapTextAt g' a n := by
  cases n with
  | text d => exact congrArg Node.text (h _ List.mem_cons_self d rfl)
  | element t c ns =>
    have hns := mapTextsFrom_congr a 0 ns fun q hq => h q (List.mem_cons_of_mem _ hq)
    rw [mapTextAt, mapTextAt, hns]
  | _ => rfl

/-- A change of texts is told by what it makes of the texts that are there. -/
theorem mapTextsFrom_congr (up : Address) (k : Nat) (ns : List Node)
    (h : ∀ q ∈ nodesAll (ofForest up k ns), ∀ d, q.here = .text d → g q.source d = g' q.source d) :
    mapTextsFrom g up k ns = mapTextsFrom g' up k ns := by
  cases ns with
  | nil => rfl
  | cons n ns =>
    have hn := mapTextAt_congr (up ++ [k]) n fun q hq => h q (List.mem_append_left _ hq)
    have hns := mapTextsFrom_congr up (k + 1) ns fun q hq => h q (List.mem_append_right _ hq)
    rw [mapTextsFrom, mapTextsFrom, hn, hns]

end

mutual

theorem mapTextAt_id (a : Address) (n : Node) : mapTextAt (fun _ d => d) a n = n := by
  cases n with
  | element t c ns => rw [mapTextAt, mapTextsFrom_id a 0 ns]
  | _ => rfl

theorem mapTextsFrom_id (up : Address) (k : Nat) (ns : List Node) :
    mapTextsFrom (fun _ d => d) up k ns = ns := by
  cases ns with
  | nil => rfl
  | cons n ns => rw [mapTextsFrom, mapTextAt_id _ n, mapTextsFrom_id up (k + 1) ns]

end

mutual

theorem mapTextAt_const (a : Address) (n : Node) : mapTextAt (fun _ => f) a n = mapText f n := by
  cases n with
  | element t c ns => rw [mapTextAt, mapText, mapTextsFrom_const a 0 ns]
  | _ => rfl

/-- A change of all texts alike. -/
theorem mapTextsFrom_const (up : Address) (k : Nat) (ns : List Node) :
    mapTextsFrom (fun _ => f) up k ns = mapTexts f ns := by
  cases ns with
  | nil => rfl
  | cons n ns => rw [mapTextsFrom, mapTexts, mapTextAt_const _ n, mapTextsFrom_const up (k + 1) ns]

end

mutual

theorem mapTextAt_mapTextAt (a : Address) (n : Node) :
    mapTextAt g a (mapTextAt g' a n) = mapTextAt (fun b d => g b (g' b d)) a n := by
  cases n with
  | element t c ns => rw [mapTextAt, mapTextAt, mapTextAt, mapTextsFrom_mapTextsFrom a 0 ns]
  | _ => rfl

/-- Two changes of texts come to one. -/
theorem mapTextsFrom_mapTextsFrom (up : Address) (k : Nat) (ns : List Node) :
    mapTextsFrom g up k (mapTextsFrom g' up k ns) = mapTextsFrom (fun b d => g b (g' b d)) up k ns := by
  cases ns with
  | nil => rfl
  | cons n ns =>
    rw [mapTextsFrom, mapTextsFrom, mapTextsFrom, mapTextAt_mapTextAt _ n,
      mapTextsFrom_mapTextsFrom up (k + 1) ns]

end

/-! ### One text -/

/-- The change of the text at one address. -/
def changeAt (f : Text → Text) (a b : Address) (d : Text) : Text := if b == a then f d else d

theorem changeAt_of_ne {b : Address} (h : b ≠ a) (d : Text) : changeAt f a b d = d :=
  if_neg fun hba => h (eq_of_beq hba)

theorem mapTextAt_changeAt {up c : Address} {j k : Nat} (h : j ≠ k) (n : Node) :
    mapTextAt (changeAt f (up ++ j :: c)) (up ++ [k]) n = n := by
  refine (mapTextAt_congr _ n fun q hq d _ => changeAt_of_ne ?_ d).trans (mapTextAt_id _ n)
  obtain ⟨b, m, _, rfl⟩ := (mem_nodes_ofNode up k n).1 hq
  rw [source_ofNode]
  exact fun heq => h (List.cons.inj (List.append_cancel_left heq)).1.symm

/-- Nothing changes behind an address. -/
theorem mapTextsFrom_changeAt {up c : Address} {j k : Nat} (h : j < k) (ns : List Node) :
    mapTextsFrom (changeAt f (up ++ j :: c)) up k ns = ns := by
  refine (mapTextsFrom_congr up k ns fun q hq d _ => changeAt_of_ne ?_ d).trans (mapTextsFrom_id up k ns)
  obtain ⟨i, b, hi, hsource⟩ := source_of_mem hq
  rw [hsource]
  intro heq
  have hij := (List.cons.inj (List.append_cancel_left heq)).1
  omega

/-- A text that is put in place of another one changes no other one. -/
theorem replaceAt_text {ns : List Node} {d : Text} (h : get? a ns = some (.text d)) (up : Address)
    (k : Nat) :
    replaceAt (fun _ => [.text t]) a ns =
      mapTextsFrom (changeAt (fun _ => t) (up ++ shift k a)) up k ns := by
  fun_induction get? a ns generalizing up k with
  | case1 => cases h
  | case2 => cases h
  | case3 n ns =>
    obtain rfl := Option.some.inj h
    have hhere : changeAt (fun _ => t) (up ++ [k]) (up ++ [k]) d = t := if_pos (beq_self_eq_true _)
    rw [replaceAt_zero, shift, Nat.add_zero, mapTextsFrom, mapTextsFrom_changeAt (Nat.lt_succ_self k),
      mapTextAt, hhere, List.singleton_append]
  | case4 i b n ns ih =>
    cases n with
    | element tag c cs =>
      have hbelow := ih h (up ++ [k]) 0
      rw [shift_zero, List.append_assoc, List.singleton_append] at hbelow
      rw [replaceAt_below _ (List.cons_ne_nil i b), shift, Nat.add_zero, mapTextsFrom, mapTextAt,
        mapTextsFrom_changeAt (Nat.lt_succ_self k)]
      exact congrArg (.element tag c · :: ns) hbelow
    | _ => simp [Node.children, get?] at h
  | case5 j b n ns ih =>
    have hrest := ih h up (k + 1)
    rw [← shift_next, next] at hrest
    have hne : k + (j + 1) ≠ k := by omega
    rw [replaceAt, hrest, mapTextsFrom, shift, mapTextAt_changeAt hne]

/-! ### Texts put back one by one -/

/-- Puts back what becomes of the text at an address, if it changes. -/
def putAt (f? : Text → Option Text) (ns : List Node) (a : Address) : List Node :=
  match ((get? a ns).bind Node.text?).bind f? with
  | some t => replaceAt (fun _ => [.text t]) a ns
  | none => ns

/-- The addresses of all texts, in document order. -/
def textAddresses (ns : List Node) : List Address :=
  ((nodesAll (origin ns)).filter (·.here.isText)).map source

/-- A change of the texts of a page is told by what it makes of those at its addresses. -/
theorem mapTextsFrom_top_congr {ns : List Node}
    (h : ∀ a d, get? a ns = some (.text d) → g a d = g' a d) :
    mapTextsFrom g [] 0 ns = mapTextsFrom g' [] 0 ns := by
  refine mapTextsFrom_congr [] 0 ns fun q hq d hd => ?_
  obtain ⟨a, n, hn, rfl⟩ := mem_nodesAll_origin.1 hq
  rw [here_ofNode] at hd
  rw [source_ofNode]
  exact h a d (hd ▸ hn)

theorem changeAt_top_congr {ns : List Node} (h : ∀ d, get? a ns = some (.text d) → f d = f' d) :
    mapTextsFrom (changeAt f a) [] 0 ns = mapTextsFrom (changeAt f' a) [] 0 ns := by
  refine mapTextsFrom_top_congr fun b d hd => ?_
  rw [changeAt, changeAt]
  split
  · next hb => exact h d (eq_of_beq hb ▸ hd)
  · rfl

/-- **What one step changes.** -/
theorem putAt_eq (f? : Text → Option Text) (ns : List Node) (a : Address) :
    putAt f? ns a = mapTextsFrom (changeAt (fun d => (f? d).getD d) a) [] 0 ns := by
  rw [putAt]
  split
  · next t ht =>
    obtain ⟨e, he, hchange⟩ := Option.bind_eq_some_iff.1 ht
    obtain ⟨n, hn, htext⟩ := Option.bind_eq_some_iff.1 he
    obtain rfl : n = .text e := by
      cases n with
      | text d => exact congrArg Node.text (Option.some.inj htext)
      | _ => cases htext
    rw [replaceAt_text hn [] 0, List.nil_append, shift_zero]
    refine changeAt_top_congr fun d hd => ?_
    obtain rfl : e = d := Node.text.inj (Option.some.inj (hn.symm.trans hd))
    rw [hchange, Option.getD_some]
  · next hnone =>
    have hsame : ∀ d, get? a ns = some (.text d) → (f? d).getD d = d := fun d hd => by
      rw [hd] at hnone
      rw [show f? d = none from hnone, Option.getD_none]
    have hid : changeAt (fun d => d) a = fun _ d => d := funext₂ fun _ _ => ite_self _
    rw [changeAt_top_congr hsame, hid, mapTextsFrom_id]

/-- **Runs of any length** change the texts that they come to, each as it was before. -/
theorem foldl_putAt (f? : Text → Option Text) {as : List Address} (h : as.Nodup) (ns : List Node) :
    as.foldl (putAt f?) ns =
      mapTextsFrom (fun a d => if as.contains a then (f? d).getD d else d) [] 0 ns := by
  induction as generalizing ns with
  | nil => exact (mapTextsFrom_id [] 0 ns).symm
  | cons a as ih =>
    obtain ⟨ha, has⟩ := List.nodup_cons.1 h
    have hgone : as.contains a = false := by
      rw [← Bool.not_eq_true, List.contains_iff_mem]
      exact ha
    rw [List.foldl_cons, ih has, putAt_eq, mapTextsFrom_mapTextsFrom]
    refine mapTextsFrom_top_congr fun b d _ => ?_
    rw [changeAt, List.contains_cons]
    cases hb : b == a with
    | true =>
      -- its turn comes only once
      rw [eq_of_beq hb, hgone]
      rfl
    | false => rfl

theorem nodup_textAddresses (ns : List Node) : (textAddresses ns).Nodup :=
  (nodup_sources [] 0 ns).sublist (List.filter_sublist.map source)

theorem mem_textAddresses {ns : List Node} {d : Text} (h : get? a ns = some (.text d)) :
    a ∈ textAddresses ns := by
  refine List.mem_map.2 ⟨ofNode a (.text d), List.mem_filter.2 ⟨?_, rfl⟩, source_ofNode _ _⟩
  exact mem_nodesAll_origin.2 ⟨a, _, h, rfl⟩

/-- Going through all texts changes all of them. -/
theorem foldl_putAt_textAddresses (f? : Text → Option Text) (ns : List Node) :
    (textAddresses ns).foldl (putAt f?) ns = mapTexts (fun d => (f? d).getD d) ns := by
  rw [foldl_putAt f? (nodup_textAddresses ns), ← mapTextsFrom_const [] 0 ns]
  exact mapTextsFrom_top_congr fun a d hd => if_pos (List.contains_iff_mem.2 (mem_textAddresses hd))

end Html.Forest

namespace Page

/-- The texts of a page one by one: what does not change is passed over. -/
theorem foldl_collapsed? (p : Page) :
    (textAddresses p.nodes).foldl (putAt collapsed?) p.nodes = p.collapseSpaces.nodes := by
  rw [foldl_putAt_textAddresses, funext getD_collapsed?]
  rfl

/-- **Only texts change**, and each of them as a text by itself. -/
theorem nodesAll_collapseSpaces (p : Page) :
    (nodesAll (origin p.collapseSpaces.nodes)).map (fun q => (q.source, q.here.own)) =
      (nodesAll (origin p.nodes)).map fun q => (q.source, q.here.own.mapText collapseRuns) := by
  have hall : p.collapseSpaces.nodes = mapTextsFrom (fun _ => collapseRuns) [] 0 p.nodes := by
    rw [mapTextsFrom_const, ← funext collapseSpaces_eq]
    rfl
  have hown : ∀ (a : Address) (n : Node), n.own.mapTextAt (fun _ => collapseRuns) a =
      n.own.mapText collapseRuns := fun a n => mapTextAt_const a n.own
  rw [origin, hall]
  refine (nodesAll_mapTextsFrom _ [] 0 p.nodes).trans (List.map_congr_left fun q _ => ?_)
  rw [hown]

/-- After the texts of a page have changed nothing changes any more. -/
theorem collapseSpaces_collapseSpaces (p : Page) : p.collapseSpaces.collapseSpaces = p.collapseSpaces := by
  have htwice : mapTexts HtmlCanon.collapseSpaces (mapTexts HtmlCanon.collapseSpaces p.nodes) =
      mapTexts HtmlCanon.collapseSpaces p.nodes := by
    rw [← mapTextsFrom_const [] 0 p.nodes, ← mapTextsFrom_const [] 0, mapTextsFrom_mapTextsFrom]
    simp only [HtmlCanon.collapseSpaces_collapseSpaces]
  exact congrArg (Page.mk p.shape) htwice

/-- **Every longest run of several spaces becomes one space, and nothing else changes.** Going through
the texts of a page in document order, and putting back those that change, comes to the page with every
text changed: the shape of the page, where its nodes stand, comments, doctypes, tags with their
attributes and template contents stay. A text is put back when two spaces stand side by side in it; no
two do afterwards, and but for spaces the text is the same. A second time nothing changes. -/
theorem collapseSpaces_runs (p : Page) :
    Regex.compile? " {2,}".toList = some Regex.severalSpaces ∧
      (textAddresses p.nodes).foldl (putAt collapsed?) p.nodes = p.collapseSpaces.nodes ∧
      p.collapseSpaces.shape = p.shape ∧
      (nodesAll (origin p.collapseSpaces.nodes)).map (fun q => (q.source, q.here.own)) =
        (nodesAll (origin p.nodes)).map (fun q => (q.source, q.here.own.mapText collapseRuns)) ∧
      (∀ t, (collapsed? t).getD t = collapseRuns t ∧
        ((collapsed? t).isSome = true ↔ [' ', ' '] <:+: t) ∧ ¬[' ', ' '] <:+: collapseRuns t ∧
        (collapseRuns t).filter (· != ' ') = t.filter (· != ' ')) ∧
      p.collapseSpaces.collapseSpaces = p.collapseSpaces := by
  refine ⟨Regex.compile?_spaces, p.foldl_collapsed?, rfl, p.nodesAll_collapseSpaces, fun t => ?_,
    p.collapseSpaces_collapseSpaces⟩
  rw [getD_collapsed?, ← collapseSpaces_eq]
  exact ⟨rfl, isSome_collapsed? t, not_isInfix_collapseSpaces t, filter_collapseSpaces t⟩

end Page

end HtmlCanon
