import TrustChain.Proofs.Path.Climb

/-!
# Runs of the search

`Scans` spells out a run of the search as a derivation with one rule for each thing that can happen
to the next certificate to be tried. What a run does to the state of the search is proved by
induction on it: the rules are the steps, and `scans_explore` says that every run of `explore` is
such a derivation.
-/

namespace TrustChain

namespace PathSearch

variable (verifiers : Verifiers) (filter : Bool) (pool : ClassifiedPool)

/-- The state after `parent` has been looked at as an issuer of `child`. -/
def look (child parent : Certificate) (search : PathSearch) : PathSearch :=
  (follows verifiers filter child parent search).2

/-- With the given trust anchors and intermediates still to be tried for `current`, the search goes
from one state to another and finds what it finds. -/
inductive Scans : List Octets → Certificate → List Certificate → List Certificate → PathSearch →
    Option Ascent → PathSearch → Prop where
  | anchorOnRoute {route current anchor anchors intermediates search found after} :
      anchor.encoding ∈ route →
      Scans route current anchors intermediates search found after →
      Scans route current (anchor :: anchors) intermediates search found after
  | anchorRefused {route current anchor anchors intermediates search found after} :
      anchor.encoding ∉ route → ¬ verifiers.IsCandidate filter current anchor →
      Scans route current anchors intermediates (search.look verifiers filter current anchor)
        found after →
      Scans route current (anchor :: anchors) intermediates search found after
  | anchorReached {route current anchor anchors intermediates search} :
      anchor.encoding ∉ route → verifiers.IsCandidate filter current anchor →
      Scans route current (anchor :: anchors) intermediates search (some ⟨[], anchor⟩)
        (search.look verifiers filter current anchor)
  | passedOver {route current c intermediates search found after} :
      c.encoding ∈ search.deadEnds ∨ c.encoding ∈ route →
      Scans route current [] intermediates search found after →
      Scans route current [] (c :: intermediates) search found after
  | refused {route current c intermediates search found after} :
      c.encoding ∉ search.deadEnds → c.encoding ∉ route →
      ¬ verifiers.IsCandidate filter current c →
      Scans route current [] intermediates (search.look verifiers filter current c) found after →
      Scans route current [] (c :: intermediates) search found after
  | inVain {route current c intermediates search between found after} :
      c.encoding ∉ search.deadEnds → c.encoding ∉ route → verifiers.IsCandidate filter current c →
      Scans (c.encoding :: route) c pool.trustAnchors pool.intermediates
        ((search.look verifiers filter current c).enter c) none between →
      Scans route current [] intermediates between found after →
      Scans route current [] (c :: intermediates) search found after
  | reached {route current c intermediates search ascent after} :
      c.encoding ∉ search.deadEnds → c.encoding ∉ route → verifiers.IsCandidate filter current c →
      Scans (c.encoding :: route) c pool.trustAnchors pool.intermediates
        ((search.look verifiers filter current c).enter c) (some ascent) after →
      Scans route current [] (c :: intermediates) search (some (ascent.through c)) after
  | exhausted {route current search} :
      Scans route current [] [] search none (search.close current)

theorem follows_eq (child parent : Certificate) (search : PathSearch) :
    follows verifiers filter child parent search =
      (decide (verifiers.IsCandidate filter child parent),
        search.look verifiers filter child parent) := by
  refine Prod.ext ?_ rfl
  rw [Bool.eq_iff_iff, decide_eq_true_iff]
  unfold follows
  split
  · rename_i hname
    refine iff_of_false Bool.false_ne_true fun h => ?_
    simp [h.agrees] at hname
  · rename_i hname
    have hagrees : parent.subject.agrees child.issuer = true := by simpa using hname
    split
    · rename_i hfilter
      exact iff_of_true rfl ⟨hagrees, fun h => by simp [h] at hfilter⟩
    · rename_i hfilter
      have hon : filter = true := by simpa using hfilter
      refine (matches_ok_valid_iff _).trans ?_
      exact ⟨fun h => ⟨hagrees, fun _ => h⟩, fun h => h.signed hon⟩

/-- Looking at a certificate adds at most an examination to the state. -/
theorem look_eq (child parent : Certificate) (search : PathSearch) :
    search.look verifiers filter child parent =
      if filter = true ∧ parent.subject.agrees child.issuer = true then
        search.record ⟨child, parent, verifiers.certificateSignature child parent⟩
      else search := by
  unfold look follows
  cases parent.subject.agrees child.issuer <;> cases filter <;> rfl

@[simp] theorem deadEnds_look (child parent : Certificate) (search : PathSearch) :
    (search.look verifiers filter child parent).deadEnds = search.deadEnds := by
  rw [look_eq]
  split <;> rfl

@[simp] theorem explored_look (child parent : Certificate) (search : PathSearch) :
    (search.look verifiers filter child parent).explored = search.explored := by
  rw [look_eq]
  split <;> rfl

/-! ### Every run is a derivation -/

/-- The step that the search makes at an intermediate. -/
def tryIntermediate (route : List Octets) (current c : Certificate) (search : PathSearch) :
    Option Ascent × PathSearch :=
  if c.encoding ∈ search.deadEnds ∨ c.encoding ∈ route then (none, search)
  else
    match follows verifiers filter current c search with
    | (false, search) => (none, search)
    | (true, search) =>
      match explore verifiers filter pool (c.encoding :: route) c search with
      | (some ascent, search) => (some (ascent.through c), search)
      | (none, search) => (none, search)

theorem firstFound_attach {α β σ : Type} (step : α → σ → Option β × σ) (items : List α)
    (state : σ) :
    firstFound (fun item : { item // item ∈ items } => step item.1) items.attach state =
      firstFound step items state := by
  have hmap : ∀ (attached : List { item // item ∈ items }) (state : σ),
      firstFound (fun item : { item // item ∈ items } => step item.1) attached state =
        firstFound step (attached.map Subtype.val) state := by
    intro attached
    induction attached with
    | nil => exact fun _ => rfl
    | cons item rest ih =>
        intro state
        simp only [List.map_cons, firstFound, ih]
  rw [hmap, List.attach_map_subtype_val]

theorem explore_eq (route : List Octets) (current : Certificate) (search : PathSearch) :
    explore verifiers filter pool route current search =
      match firstFound (tryAnchor verifiers filter route current) pool.trustAnchors
          (search.enter current) with
      | (some ascent, search) => (some ascent, search)
      | (none, search) =>
        match firstFound (tryIntermediate verifiers filter pool route current) pool.intermediates
            search with
        | (some ascent, search) => (some ascent, search)
        | (none, search) => (none, search.close current) := by
  rw [explore]
  simp only [← firstFound_attach (tryIntermediate verifiers filter pool route current)]
  rfl

variable {verifiers filter pool}

/-- The state in which a certificate is left when its intermediates have been tried. -/
def leave (current : Certificate) (search : PathSearch) : Option Ascent → PathSearch
  | some _ => search
  | none => search.close current

theorem scans_intermediates {route : List Octets} {current : Certificate}
    {items : List Certificate}
    (hrec : ∀ c ∈ items, c.encoding ∉ route → ∀ search : PathSearch,
      Scans verifiers filter pool (c.encoding :: route) c pool.trustAnchors pool.intermediates
        (search.enter c) (explore verifiers filter pool (c.encoding :: route) c search).1
        (explore verifiers filter pool (c.encoding :: route) c search).2)
    {search stopped : PathSearch} {found : Option Ascent}
    (h : firstFound (tryIntermediate verifiers filter pool route current) items search =
      (found, stopped)) :
    Scans verifiers filter pool route current [] items search found
      (stopped.leave current found) := by
  induction items generalizing search with
  | nil =>
      obtain ⟨rfl, rfl⟩ := Prod.mk.inj h
      exact .exhausted
  | cons c rest ih =>
      have hrest := @ih fun d hd => hrec d (List.mem_cons_of_mem c hd)
      rw [firstFound, tryIntermediate] at h
      by_cases hpass : c.encoding ∈ search.deadEnds ∨ c.encoding ∈ route
      · rw [if_pos hpass] at h
        exact .passedOver hpass (hrest h)
      · rw [if_neg hpass, follows_eq] at h
        obtain ⟨hdead, hroute⟩ := not_or.1 hpass
        by_cases hcandidate : verifiers.IsCandidate filter current c
        · have hdown := hrec c List.mem_cons_self hroute (search.look verifiers filter current c)
          rw [decide_eq_true hcandidate] at h
          cases hexplore : explore verifiers filter pool (c.encoding :: route) c
              (search.look verifiers filter current c) with
          | mk below between =>
              rw [hexplore] at hdown
              cases below with
              | some ascent =>
                  simp only [hexplore, Prod.mk.injEq] at h
                  obtain ⟨rfl, rfl⟩ := h
                  exact .reached hdead hroute hcandidate hdown
              | none =>
                  simp only [hexplore] at h
                  exact .inVain hdead hroute hcandidate hdown (hrest h)
        · rw [decide_eq_false hcandidate] at h
          exact .refused hdead hroute hcandidate (hrest h)

theorem scans_of_anchor {route : List Octets} {current : Certificate}
    {anchors intermediates : List Certificate} {search stopped : PathSearch} {ascent : Ascent}
    (h : firstFound (tryAnchor verifiers filter route current) anchors search =
      (some ascent, stopped)) :
    Scans verifiers filter pool route current anchors intermediates search (some ascent)
      stopped := by
  induction anchors generalizing search with
  | nil => cases h
  | cons anchor anchors ih =>
      rw [firstFound, tryAnchor] at h
      by_cases hroute : anchor.encoding ∈ route
      · rw [if_pos hroute] at h
        exact .anchorOnRoute hroute (ih h)
      · rw [if_neg hroute, follows_eq] at h
        by_cases hcandidate : verifiers.IsCandidate filter current anchor
        · simp only [decide_eq_true hcandidate, Prod.mk.injEq, Option.some.injEq] at h
          obtain ⟨rfl, rfl⟩ := h
          exact .anchorReached hroute hcandidate
        · rw [decide_eq_false hcandidate] at h
          exact .anchorRefused hroute hcandidate (ih h)

theorem scans_of_no_anchor {route : List Octets} {current : Certificate}
    {anchors intermediates : List Certificate} {search stopped after : PathSearch}
    {found : Option Ascent}
    (h : firstFound (tryAnchor verifiers filter route current) anchors search = (none, stopped))
    (hrest : Scans verifiers filter pool route current [] intermediates stopped found after) :
    Scans verifiers filter pool route current anchors intermediates search found after := by
  induction anchors generalizing search with
  | nil =>
      obtain ⟨-, rfl⟩ := Prod.mk.inj h
      exact hrest
  | cons anchor anchors ih =>
      rw [firstFound, tryAnchor] at h
      by_cases hroute : anchor.encoding ∈ route
      · rw [if_pos hroute] at h
        exact .anchorOnRoute hroute (ih h)
      · rw [if_neg hroute, follows_eq] at h
        by_cases hcandidate : verifiers.IsCandidate filter current anchor
        · simp [decide_eq_true hcandidate] at h
        · rw [decide_eq_false hcandidate] at h
          exact .anchorRefused hroute hcandidate (ih h)

/-- Every run of the search is a derivation. -/
theorem scans_explore (route : List Octets) (current : Certificate) (search : PathSearch) :
    Scans verifiers filter pool route current pool.trustAnchors pool.intermediates
      (search.enter current) (explore verifiers filter pool route current search).1
      (explore verifiers filter pool route current search).2 := by
  induction hn : remaining pool.intermediates route using Nat.strong_induction_on
    generalizing route current search with
  | _ n ih =>
      rw [explore_eq]
      cases hanchors : firstFound (tryAnchor verifiers filter route current) pool.trustAnchors
          (search.enter current) with
      | mk reached stopped =>
          cases reached with
          | some ascent => exact scans_of_anchor hanchors
          | none =>
              refine scans_of_no_anchor hanchors ?_
              cases hfound : firstFound (tryIntermediate verifiers filter pool route current)
                  pool.intermediates stopped with
              | mk found left =>
                  have hscans := scans_intermediates
                    (fun c hmem hroute search =>
                      ih _ (hn ▸ remaining_cons_lt hmem hroute) _ _ search rfl) hfound
                  simp only [hfound]
                  cases found with
                  | some ascent => exact hscans
                  | none => exact hscans

theorem scans_run (verifiers : Verifiers) (filter : Bool) (pool : ClassifiedPool)
    (target : Certificate) :
    Scans verifiers filter pool [target.encoding] target pool.trustAnchors pool.intermediates
      (fresh.enter target) (run verifiers filter pool target).1
      (run verifiers filter pool target).2 :=
  scans_explore [target.encoding] target fresh

/-! ### What a run keeps -/

theorem Scans.explored_subset {route : List Octets} {current : Certificate}
    {anchors intermediates : List Certificate} {search after : PathSearch} {found : Option Ascent}
    (h : Scans verifiers filter pool route current anchors intermediates search found after) :
    search.explored ⊆ after.explored := by
  induction h with
  | anchorOnRoute _ _ ih => exact ih
  | anchorRefused _ _ _ ih => simpa using ih
  | anchorReached => simp
  | passedOver _ _ ih => exact ih
  | refused _ _ _ _ ih => simpa using ih
  | @inVain _ _ c _ _ _ _ _ _ _ _ _ _ ihdown ih =>
      intro d hd
      exact ih (ihdown (List.mem_cons_of_mem c (by simpa using hd)))
  | @reached _ _ c _ _ _ _ _ _ _ _ ihdown =>
      intro d hd
      exact ihdown (List.mem_cons_of_mem c (by simpa using hd))
  | exhausted => exact List.Subset.refl _

/-- What every step keeps, a run keeps. -/
theorem Scans.preserves {P : PathSearch → Prop}
    (hlook : ∀ {search : PathSearch} {child parent : Certificate}, child ∈ search.explored →
      parent ∈ pool.members → P search → P (search.look verifiers filter child parent))
    (henter : ∀ {search : PathSearch} {child c : Certificate}, child ∈ search.explored →
      c ∈ pool.intermediates → verifiers.IsCandidate filter child c → P search →
      P (search.enter c))
    (hclose : ∀ {search : PathSearch} {c : Certificate}, c ∈ search.explored → P search →
      P (search.close c))
    {route : List Octets} {current : Certificate} {anchors intermediates : List Certificate}
    {search after : PathSearch} {found : Option Ascent}
    (h : Scans verifiers filter pool route current anchors intermediates search found after)
    (hanchors : anchors ⊆ pool.trustAnchors) (hintermediates : intermediates ⊆ pool.intermediates)
    (hcurrent : current ∈ search.explored) (hsearch : P search) : P after := by
  induction h with
  | anchorOnRoute _ _ ih =>
      exact ih (List.cons_subset.1 hanchors).2 hintermediates hcurrent hsearch
  | anchorRefused _ _ _ ih =>
      obtain ⟨hanchor, hrest⟩ := List.cons_subset.1 hanchors
      exact ih hrest hintermediates (by simpa using hcurrent)
        (hlook hcurrent (List.mem_append_left _ hanchor) hsearch)
  | anchorReached =>
      exact hlook hcurrent (List.mem_append_left _ (hanchors List.mem_cons_self)) hsearch
  | passedOver _ _ ih =>
      exact ih hanchors (List.cons_subset.1 hintermediates).2 hcurrent hsearch
  | refused _ _ _ _ ih =>
      obtain ⟨hmem, hrest⟩ := List.cons_subset.1 hintermediates
      exact ih hanchors hrest (by simpa using hcurrent)
        (hlook hcurrent (List.mem_append_right _ hmem) hsearch)
  | @inVain _ current c _ search between _ _ _ _ hcandidate hdown _ ihdown ih =>
      obtain ⟨hmem, hrest⟩ := List.cons_subset.1 hintermediates
      have hlooked := hlook hcurrent (List.mem_append_right _ hmem) hsearch
      have hentered := henter (by simpa using hcurrent) hmem hcandidate hlooked
      have hbetween := ihdown (List.Subset.refl _) (List.Subset.refl _) List.mem_cons_self hentered
      have hstill : current ∈ between.explored :=
        hdown.explored_subset (List.mem_cons_of_mem c (by simpa using hcurrent))
      exact ih hanchors hrest hstill hbetween
  | @reached _ current c _ search _ _ _ _ hcandidate _ ihdown =>
      obtain ⟨hmem, -⟩ := List.cons_subset.1 hintermediates
      have hlooked := hlook hcurrent (List.mem_append_right _ hmem) hsearch
      have hentered := henter (by simpa using hcurrent) hmem hcandidate hlooked
      exact ihdown (List.Subset.refl _) (List.Subset.refl _) List.mem_cons_self hentered
  | exhausted => exact hclose hcurrent hsearch

end PathSearch

end TrustChain
