import HtmlCanon.Proofs.Edit.Placed

/-!
# Claims of regions

A page is put together from regions by one cut after another: each region takes the elements that its
selector describes out of what is left of the page and out of the regions before it. When selectors
look at tags alone, an element is described wherever it has been moved to.

* `Page.Composition.add_erase` : adding a region is a cut of everything there is.
* `Page.Accounted.claim` : **one more region keeps the account of who holds what**: everyone holds the
  elements for which their claim was the last.
* `Page.foldlM_addRegion_eq` : adding the regions of a plan is one claim after the other.
* `Page.foldlM_addRegion` : all regions of a plan keep the account.
-/

namespace HtmlCanon

open Html Html.Forest Html.Placed Css

/-- A region whose nodes remember where they were read. -/
structure Holding where
  name : String
  nodes : List Placed

namespace Holding

/-- The element that a region becomes. -/
def wrapped (r : Holding) : Node := Node.wrapper r.name (eraseAll r.nodes)

/-- A region without the elements of some sort. -/
def keep (f : Tag → Bool) (r : Holding) : Holding := { r with nodes := keptAll f r.nodes }

theorem flatMap_keep (f : Tag → Bool) (rs : List Holding) :
    (rs.map (keep f)).flatMap nodes = keptAll f (rs.flatMap nodes) := by
  induction rs with
  | nil => rfl
  | cons r rs ih => rw [List.map_cons, List.flatMap_cons, ih, List.flatMap_cons, keptAll_append, keep]

end Holding

namespace Page

/-- A composition whose nodes remember where they were read. -/
structure Traced where
  source : List Placed
  regions : List Holding

namespace Traced

/-- The composition without the memory. -/
def erase (c : Traced) : Composition := ⟨eraseAll c.source, c.regions.map Holding.wrapped⟩

/-- What the regions hold, all together. -/
def held (c : Traced) : List Placed := c.regions.flatMap Holding.nodes

/-- Moves the elements of some sort into a new region. -/
def claim (c : Traced) (name : String) (f : Tag → Bool) : Traced where
  source := keptAll f c.source
  regions := c.regions.map (Holding.keep f) ++ [⟨name, takenAll f c.source ++ takenAll f c.held⟩]

theorem held_claim (c : Traced) (name : String) (f : Tag → Bool) :
    (c.claim name f).held = keptAll f c.held ++ (takenAll f c.source ++ takenAll f c.held) := by
  rw [held, claim, List.flatMap_append, Holding.flatMap_keep]
  exact congrArg _ (List.append_nil _)

/-- The regions after a claim are those before it, less what it takes, and the new one. -/
theorem getElem?_claim {c : Traced} {name : String} {f : Tag → Bool} {i : Nat} {r : Holding} :
    (c.claim name f).regions[i]? = some r ↔
      (∃ r', c.regions[i]? = some r' ∧ r = r'.keep f) ∨
        i = c.regions.length ∧ r = ⟨name, takenAll f c.source ++ takenAll f c.held⟩ := by
  have hlen : (c.regions.map (Holding.keep f)).length = c.regions.length := List.length_map _
  rw [claim]
  rcases Nat.lt_trichotomy i c.regions.length with hi | rfl | hi
  · rw [List.getElem?_append_left (by rwa [hlen]), List.getElem?_map, Option.map_eq_some_iff]
    simp only [Nat.ne_of_lt hi, false_and, or_false, eq_comm]
  · rw [List.getElem?_append_right (Nat.le_of_eq hlen), hlen, Nat.sub_self, List.getElem?_singleton]
    simp [eq_comm]
  · rw [List.getElem?_eq_none (by rw [List.length_append, hlen]; exact hi),
      List.getElem?_eq_none (Nat.le_of_lt hi)]
    simp [Nat.ne_of_gt hi]

end Traced

/-! ### One region -/

/-- Taking elements out of regions, the regions themselves left alone, is a cut in each. -/
theorem extract_claimed (f : Tag → Bool) {rs : List Holding} (h : ∀ r ∈ rs, Sound r.nodes) :
    extract ((hits f 0 (rs.map Holding.wrapped)).filter fun a => 1 < a.length)
        (rs.map Holding.wrapped) =
      (eraseAll (takenAll f (rs.flatMap Holding.nodes)),
        (rs.map (Holding.keep f)).map Holding.wrapped) := by
  induction rs with
  | nil => rfl
  | cons r rs ih =>
    -- the address of the region itself is one number long, and all addresses below it are longer
    have hbelow : (hitsAt f 0 r.wrapped).filter (fun a => 1 < a.length) =
        (hits f 0 (eraseAll r.nodes)).map (0 :: ·) := by
      rw [Holding.wrapped, Node.wrapper, hitsAt, List.filter_append]
      have hself : (if f (Tag.plain r.name) = true then [[0]] else []).filter
          (fun a : Address => 1 < a.length) = [] := by split <;> rfl
      rw [hself, List.nil_append, List.filter_eq_self]
      intro a ha
      obtain ⟨b, hb, rfl⟩ := List.mem_map.1 ha
      have hpos := List.length_pos_of_ne_nil (ne_nil_of_mem_hits hb)
      rw [List.length_cons, decide_eq_true_eq]
      omega
    have hbehind : (hits f 1 (rs.map Holding.wrapped)).filter (fun a => 1 < a.length) =
        ((hits f 0 (rs.map Holding.wrapped)).filter fun a => 1 < a.length).map next := by
      rw [hits_succ, List.filter_map]
      refine congrArg _ (List.filter_congr fun a _ => ?_)
      rw [Function.comp_apply, length_next]
    rw [List.map_cons, hits, List.filter_append, hbelow, hbehind, extract_append,
      extract_next fun a ha => ne_nil_of_mem_hits (List.mem_filter.1 ha).1,
      ih fun q hq => h q (List.mem_cons_of_mem _ hq)]
    dsimp only
    rw [Holding.wrapped, Node.wrapper, extract_below fun a ha => ne_nil_of_mem_hits ha,
      extract_hits f r.nodes (h r List.mem_cons_self), ← eraseAll_append, ← takenAll_append]
    rfl

/-- Adding a region **is a cut of the page and of the regions before it**. -/
theorem Composition.add_erase (c : Traced) (name : String) {s : Selector} (hs : s.isOwn = true)
    (hsource : Sound c.source) (hregions : ∀ r ∈ c.regions, Sound r.nodes) :
    c.erase.add name s = (c.claim name s.fitsTag).erase := by
  have hleft : extract (s.select c.erase.source) c.erase.source =
      (eraseAll (takenAll s.fitsTag c.source), eraseAll (keptAll s.fitsTag c.source)) := by
    rw [select_own hs]
    exact extract_hits s.fitsTag c.source hsource
  have hagain : extract (claimed s c.erase.regions) c.erase.regions =
      (eraseAll (takenAll s.fitsTag c.held),
        (c.regions.map (Holding.keep s.fitsTag)).map Holding.wrapped) := by
    rw [claimed, select_own hs]
    exact extract_claimed s.fitsTag hregions
  rw [Composition.add, hleft, hagain]
  dsimp only
  rw [← eraseAll_append, Traced.erase, Traced.claim, List.map_append]
  rfl

/-! ### The account of who holds what -/

variable {fs : List (Tag → Bool)}

/-- The tags of any of some sorts. -/
def anyOf (fs : List (Tag → Bool)) (t : Tag) : Bool := fs.any fun f => f t

theorem anyOf_snoc (fs : List (Tag → Bool)) (g : Tag → Bool) :
    anyOf (fs ++ [g]) = either (anyOf fs) g := by
  funext t
  simp [anyOf, either]

theorem picks_anyOf (fs : List (Tag → Bool)) (p : Placed) :
    p.picks (anyOf fs) = fs.any fun f => p.picks f := by
  unfold picks Node.isTagged anyOf
  cases p.here.tag? with
  | none => simp
  | some t => rfl

/-- Whether an element is of the sort with the given number and of none after it. -/
def lastOf (fs : List (Tag → Bool)) (i : Nat) (p : Placed) : Bool :=
  (fs[i]?.any fun f => p.picks f) && (fs.drop (i + 1)).all fun f => !p.picks f

theorem lastOf_prune (f : Tag → Bool) (fs : List (Tag → Bool)) (i : Nat) (p : Placed) :
    lastOf fs i (p.prune f) = lastOf fs i p := by
  simp only [lastOf, picks_prune]

theorem lastOf_snoc_lt {i : Nat} (h : i < fs.length) (g : Tag → Bool) (p : Placed) :
    lastOf (fs ++ [g]) i p = (lastOf fs i p && !p.picks g) := by
  rw [lastOf, List.getElem?_append_left h, List.drop_append_of_le_length h, List.all_append, lastOf,
    Bool.and_assoc, List.all_cons, List.all_nil, Bool.and_true]

theorem lastOf_snoc_eq (fs : List (Tag → Bool)) (g : Tag → Bool) (p : Placed) :
    lastOf (fs ++ [g]) fs.length p = p.picks g := by
  simp [lastOf]

/-- After elements of some sorts were claimed in order: the page is left with those of none, each
region holds those for which its claim was the last, and together they hold all the others. -/
structure Accounted (whole : List Placed) (fs : List (Tag → Bool)) (c : Traced) : Prop where
  source_eq : c.source = keptAll (anyOf fs) whole
  length_eq : c.regions.length = fs.length
  region_perm : ∀ (i : Nat) (r : Holding), c.regions[i]? = some r →
    r.nodes.Perm ((takenAll (anyOf fs) whole).filter (lastOf fs i))
  held_perm : c.held.Perm (takenAll (anyOf fs) whole)

variable {whole : List Placed} {c : Traced}

/-- At first the page has all its nodes. -/
theorem accounted_start (whole : List Placed) : Accounted whole [] ⟨whole, []⟩ where
  source_eq := (keptAll_none _ (picks_anyOf []) whole).symm
  length_eq := rfl
  region_perm i r h := by cases h
  held_perm := by
    rw [takenAll_none _ (picks_anyOf [])]
    exact .nil

namespace Accounted

theorem sound (h : Accounted whole fs c) (ho : Sound whole) :
    Sound c.source ∧ ∀ r ∈ c.regions, Sound r.nodes := by
  constructor
  · rw [h.source_eq]
    exact ho.of_prune _ fun q hq => mem_nodesAll_keptAll _ hq
  · intro r hr
    have hnodes : ∀ q ∈ nodesAll r.nodes, q ∈ nodesAll (takenAll (anyOf fs) whole) := by
      intro q hq
      refine (nodesAll_perm h.held_perm).mem_iff.1 ?_
      obtain ⟨p, hp, hqp⟩ := mem_nodesAll.1 hq
      exact mem_nodesAll.2 ⟨p, List.mem_flatMap.2 ⟨r, hr, hp⟩, hqp⟩
    exact ho.of_prune _ fun q hq => mem_nodesAll_takenAll _ (hnodes q hq)

/-- **One more region** keeps the account. -/
theorem claim (h : Accounted whole fs c) (name : String) (g : Tag → Bool) :
    Accounted whole (fs ++ [g]) (c.claim name g) := by
  -- the order in the new region depends on where elements were found, so lists agree up to order only
  have hnew : (takenAll g c.source ++ takenAll g c.held).Perm
      ((takenAll (anyOf (fs ++ [g])) whole).filter (picks g)) := by
    rw [anyOf_snoc, h.source_eq]
    exact ((takenAll_perm g h.held_perm).append_left _).trans (takenAll_cut _ g whole)
  have hkept : keptAll g (takenAll (anyOf fs) whole) =
      (takenAll (anyOf (fs ++ [g])) whole).filter fun p => !p.picks g := by
    rw [anyOf_snoc]
    exact keptAll_takenAll _ g whole
  refine ⟨?_, ?_, ?_, ?_⟩
  · rw [Traced.claim, h.source_eq, anyOf_snoc]
    exact keptAll_keptAll _ g whole
  · rw [Traced.claim, List.length_append, List.length_map, h.length_eq, List.length_append]
    rfl
  · intro i r hr
    rcases Traced.getElem?_claim.1 hr with ⟨r', hr', rfl⟩ | ⟨rfl, rfl⟩
    · -- a region before the new one keeps what it holds, less what the new one takes
      have hi : i < fs.length := h.length_eq ▸ (List.getElem?_eq_some_iff.1 hr').1
      have hperm := keptAll_perm g (h.region_perm i r' hr')
      rw [keptAll_filter g _ (fun p => lastOf_prune g fs i p), hkept, List.filter_filter] at hperm
      refine hperm.trans (.of_eq (List.filter_congr fun p _ => ?_))
      exact (lastOf_snoc_lt hi g p).symm
    · rw [h.length_eq]
      exact hnew.trans (.of_eq (List.filter_congr fun p _ => (lastOf_snoc_eq fs g p).symm))
  · have hold := keptAll_perm g h.held_perm
    rw [hkept] at hold
    rw [Traced.held_claim]
    exact ((hold.append hnew).trans List.perm_append_comm).trans (List.filter_append_perm _ _)

end Accounted

/-! ### All regions -/

/-- Moves elements into one new region after the other. -/
def Traced.claimAll (c : Traced) (rs : List (Region × Selector)) : Traced :=
  rs.foldl (fun c r => c.claim r.1.name r.2.fitsTag) c

/-- What each claim preserves holds after all of them. -/
theorem Traced.claimAll_preserves {P : List (Tag → Bool) → Traced → Prop}
    (hstep : ∀ fs c name g, P fs c → P (fs ++ [g]) (c.claim name g))
    (rs : List (Region × Selector)) (h : P fs c) :
    P (fs ++ rs.map fun r => r.2.fitsTag) (c.claimAll rs) := by
  induction rs generalizing fs c with
  | nil => simpa [claimAll] using h
  | cons r rs ih =>
    have hrest := ih (hstep fs c r.1.name r.2.fitsTag h)
    rwa [List.append_assoc, List.singleton_append] at hrest

theorem Traced.map_name_claimAll (c : Traced) (rs : List (Region × Selector)) :
    (c.claimAll rs).regions.map Holding.name =
      c.regions.map Holding.name ++ rs.map fun r => r.1.name := by
  induction rs generalizing c with
  | nil => exact (List.append_nil _).symm
  | cons r rs ih =>
    rw [claimAll, List.foldl_cons, ← claimAll, ih]
    simp [claim, Holding.keep, Function.comp_def]

/-- Adding regions is one cut after the other. -/
theorem foldlM_addRegion_eq {rs : List (Region × Selector)}
    (hrs : ∀ r ∈ rs, compileSelector r.1.selector = .ok r.2 ∧ r.2.isOwn = true) (ho : Sound whole)
    (h : Accounted whole fs c) :
    (rs.map Prod.fst).foldlM Composition.addRegion c.erase = .ok (c.claimAll rs).erase := by
  induction rs generalizing fs c with
  | nil => rfl
  | cons r rs ih =>
    obtain ⟨⟨hs, hown⟩, hrs⟩ := List.forall_mem_cons.1 hrs
    obtain ⟨hsource, hregions⟩ := h.sound ho
    have hadd : c.erase.addRegion r.1 = .ok (c.claim r.1.name r.2.fitsTag).erase := by
      rw [Composition.addRegion, hs, ← Composition.add_erase c r.1.name hown hsource hregions]
      rfl
    rw [List.map_cons, List.foldlM_cons, hadd]
    exact ih hrs (h.claim r.1.name r.2.fitsTag)

/-- The regions of a plan with their selectors. -/
theorem exists_compiled {plan : List Region} {ss : List Selector}
    (hss : List.Forall₂ (fun r s => compileSelector r.selector = .ok s) plan ss)
    (hown : ∀ s ∈ ss, s.isOwn = true) :
    ∃ rs : List (Region × Selector), rs.map Prod.fst = plan ∧ rs.map Prod.snd = ss ∧
      ∀ r ∈ rs, compileSelector r.1.selector = .ok r.2 ∧ r.2.isOwn = true := by
  obtain ⟨hlen, hzip⟩ := List.forall₂_iff_zip.1 hss
  exact ⟨plan.zip ss, List.map_fst_zip (Nat.le_of_eq hlen), List.map_snd_zip (Nat.le_of_eq hlen.symm),
    fun r hr => ⟨hzip hr, hown _ (List.of_mem_zip hr).2⟩⟩

/-- **All regions of a plan** keep the account. -/
theorem foldlM_addRegion {plan : List Region} {ss : List Selector}
    (hss : List.Forall₂ (fun r s => compileSelector r.selector = .ok s) plan ss)
    (hown : ∀ s ∈ ss, s.isOwn = true) (ho : Sound whole) (h : Accounted whole fs c) :
    ∃ c' : Traced, plan.foldlM Composition.addRegion c.erase = .ok c'.erase ∧
      c'.regions.map Holding.name = c.regions.map Holding.name ++ plan.map Region.name ∧
      Accounted whole (fs ++ ss.map Selector.fitsTag) c' := by
  obtain ⟨rs, rfl, rfl, hrs⟩ := exists_compiled hss hown
  refine ⟨c.claimAll rs, foldlM_addRegion_eq hrs ho h, ?_, ?_⟩
  · rw [List.map_map]
    exact c.map_name_claimAll rs
  · rw [List.map_map]
    exact Traced.claimAll_preserves (fun _ _ name g h => h.claim name g) rs h

end Page

end HtmlCanon
