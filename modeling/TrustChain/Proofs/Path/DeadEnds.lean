import TrustChain.Proofs.Path.SearchRun

/-!
# Dead ends hide nothing

A certificate is given up although some of its issuers were skipped only because they were on the
route at the time. It stays given up when the route gets shorter, so it is not obvious that no way
up is lost. What holds is that every way up from a dead end meets the current route (`Barred`). When
the search leaves a certificate `c` behind, a way up that met the route only in `c` would give one
from `c` on, and there is none: that is why `c` was left.

It follows that the search finds the same way up as the plain search, which records no dead ends.
-/

namespace TrustChain

namespace ClassifiedPool

variable {pool : ClassifiedPool} (hnodup : (pool.members.map Certificate.encoding).Nodup)
include hnodup

theorem eq_of_encoding_eq {c d : Certificate} (hc : c ∈ pool.members) (hd : d ∈ pool.members)
    (heq : c.encoding = d.encoding) : c = d :=
  List.inj_on_of_nodup_map hnodup hc hd heq

theorem encoding_ne {anchor c : Certificate} (hanchor : anchor ∈ pool.trustAnchors)
    (hc : c ∈ pool.intermediates) : anchor.encoding ≠ c.encoding := by
  rw [members, List.map_append, List.nodup_append] at hnodup
  exact hnodup.2.2 _ (List.mem_map_of_mem hanchor) _ (List.mem_map_of_mem hc)

end ClassifiedPool

namespace PathSearch

variable (verifiers : Verifiers) (filter : Bool) (pool : ClassifiedPool)

/-- From a certificate a trust anchor can be reached without touching the route. Other than for
`Climbs`, certificates may repeat. -/
inductive LeadsUp (route : List Octets) : Certificate → Prop where
  | stop {current anchor : Certificate} :
      anchor ∈ pool.trustAnchors → anchor.encoding ∉ route →
      verifiers.IsCandidate filter current anchor → LeadsUp route current
  | step {current c : Certificate} :
      c ∈ pool.intermediates → c.encoding ∉ route → verifiers.IsCandidate filter current c →
      LeadsUp route c → LeadsUp route current

/-- From the dead ends that are off the route, no trust anchor is reached but through the route. -/
def Barred (route deadEnds : List Octets) : Prop :=
  ∀ c ∈ pool.intermediates, c.encoding ∈ deadEnds → c.encoding ∉ route →
    ¬ LeadsUp verifiers filter pool route c

variable {verifiers filter pool}

theorem LeadsUp.mono {route longer : List Octets} {c : Certificate}
    (h : LeadsUp verifiers filter pool longer c) (hsubset : route ⊆ longer) :
    LeadsUp verifiers filter pool route c := by
  induction h with
  | stop hmem hnew hcandidate => exact .stop hmem (fun h => hnew (hsubset h)) hcandidate
  | step hmem hnew hcandidate _ ih => exact .step hmem (fun h => hnew (hsubset h)) hcandidate ih

theorem Barred.enter {route deadEnds : List Octets}
    (hbarred : Barred verifiers filter pool route deadEnds) (c : Certificate) :
    Barred verifiers filter pool (c.encoding :: route) deadEnds := by
  intro d hd hdead hnew hleads
  rw [List.mem_cons, not_or] at hnew
  exact hbarred d hd hdead hnew.2 (hleads.mono (List.subset_cons_self _ _))

theorem leadsUp_of_climbs {route : List Octets} {current : Certificate} {ascent : Ascent}
    (h : Climbs verifiers filter pool route current ascent) :
    LeadsUp verifiers filter pool route current := by
  induction h with
  | stop hmem hnew hcandidate => exact .stop hmem hnew hcandidate
  | through hmem hnew hcandidate _ ih =>
      exact .step hmem hnew hcandidate (ih.mono (List.subset_cons_self _ _))

section Distinct

variable (hnodup : (pool.members.map Certificate.encoding).Nodup)
include hnodup

/-- A way up either keeps off an intermediate, or what follows its last visit there does. -/
theorem LeadsUp.avoid {route : List Octets} {c current : Certificate}
    (h : LeadsUp verifiers filter pool route current) (hc : c ∈ pool.intermediates) :
    LeadsUp verifiers filter pool (c.encoding :: route) current ∨
      LeadsUp verifiers filter pool (c.encoding :: route) c := by
  induction h with
  | @stop current anchor hmem hnew hcandidate =>
      have hne := ClassifiedPool.encoding_ne hnodup hmem hc
      exact .inl (.stop hmem (by simp [hne, hnew]) hcandidate)
  | @step current d hmem hnew hcandidate _ ih =>
      rcases ih with ih | ih
      · by_cases heq : d.encoding = c.encoding
        · obtain rfl := ClassifiedPool.eq_of_encoding_eq hnodup
            (List.mem_append_right _ hmem) (List.mem_append_right _ hc) heq
          exact .inr ih
        · exact .inl (.step hmem (by simp [heq, hnew]) hcandidate ih)
      · exact .inr ih

/-- Repetitions can be cut out of a way up. -/
theorem exists_climbs_of_leadsUp {route : List Octets} {current : Certificate}
    (h : LeadsUp verifiers filter pool route current) :
    ∃ ascent, Climbs verifiers filter pool route current ascent := by
  induction hn : remaining pool.intermediates route using Nat.strong_induction_on
    generalizing route current with
  | _ n ih =>
      cases h with
      | stop hmem hnew hcandidate => exact ⟨_, .stop hmem hnew hcandidate⟩
      | step hmem hnew hcandidate hrest =>
          -- cut at the last visit to `c`, the way from `c` on never comes back to it
          have havoid := (hrest.avoid hnodup hmem).elim id id
          obtain ⟨ascent, hclimbs⟩ := ih _ (hn ▸ remaining_cons_lt hmem hnew) havoid rfl
          exact ⟨_, .through hmem hnew hcandidate hclimbs⟩

theorem not_leadsUp_of_climb?_eq_none {route : List Octets} {current : Certificate}
    (h : climb? verifiers filter pool route current = none) :
    ¬ LeadsUp verifiers filter pool route current := by
  intro hleads
  obtain ⟨ascent, hclimbs⟩ := exists_climbs_of_leadsUp hnodup hleads
  exact (climb?_eq_none_iff hnodup).1 h ascent hclimbs

/-- A dead end is a step that the plain search makes in vain. -/
theorem stepThrough_eq_none_of_barred {route deadEnds : List Octets} {current c : Certificate}
    (hbarred : Barred verifiers filter pool route deadEnds) (hmem : c ∈ pool.intermediates)
    (hdead : c.encoding ∈ deadEnds) :
    stepThrough verifiers filter pool route current c = none := by
  unfold stepThrough
  split
  · rename_i hstep
    rw [Option.map_eq_none_iff, climb?_eq_none_iff hnodup]
    intro ascent hclimbs
    have hleads := (leadsUp_of_climbs hclimbs).mono (List.subset_cons_self _ _)
    exact hbarred c hmem hdead hstep.1 hleads
  · rfl

/-- Leaving a certificate from which there is no way up keeps the dead ends barred. -/
theorem Barred.leave {route deadEnds : List Octets} {c : Certificate}
    (hbarred : Barred verifiers filter pool (c.encoding :: route) deadEnds)
    (hmem : c ∈ pool.intermediates)
    (hvain : ¬ LeadsUp verifiers filter pool (c.encoding :: route) c) :
    Barred verifiers filter pool route deadEnds := by
  intro d hd hdead hnew hleads
  rcases hleads.avoid hnodup hmem with havoid | hfrom
  · by_cases heq : d.encoding = c.encoding
    · obtain rfl := ClassifiedPool.eq_of_encoding_eq hnodup
        (List.mem_append_right _ hd) (List.mem_append_right _ hmem) heq
      exact hvain havoid
    · exact hbarred d hd hdead (by simp [heq, hnew]) havoid
  · exact hvain hfrom

/-- A run whose dead ends are barred finds what the plain search finds, and leaves its dead ends
barred when that is nothing. -/
theorem Scans.agrees_climb? {route : List Octets} {current : Certificate}
    {anchors intermediates : List Certificate} {search after : PathSearch} {found : Option Ascent}
    (h : Scans verifiers filter pool route current anchors intermediates search found after)
    (hcurrent : current.encoding ∈ route) (hsubset : intermediates ⊆ pool.intermediates)
    (hbarred : Barred verifiers filter pool route search.deadEnds) :
    found = (anchors.findSome? (stepToAnchor verifiers filter route current)).or
      (intermediates.findSome? (stepThrough verifiers filter pool route current)) ∧
    (found = none → Barred verifiers filter pool route after.deadEnds) := by
  induction h with
  | @anchorOnRoute route current anchor _ _ _ _ _ hroute _ ih =>
      have hstep : stepToAnchor verifiers filter route current anchor = none :=
        if_neg fun h => h.1 hroute
      rw [List.findSome?_cons, hstep]
      exact ih hcurrent hsubset hbarred
  | @anchorRefused route current anchor _ _ _ _ _ _ hcandidate _ ih =>
      have hstep : stepToAnchor verifiers filter route current anchor = none :=
        if_neg fun h => hcandidate h.2
      rw [List.findSome?_cons, hstep]
      exact ih hcurrent hsubset (by simpa using hbarred)
  | @anchorReached route current anchor _ _ _ hroute hcandidate =>
      have hstep : stepToAnchor verifiers filter route current anchor = some ⟨[], anchor⟩ :=
        if_pos ⟨hroute, hcandidate⟩
      rw [List.findSome?_cons, hstep]
      exact ⟨rfl, fun h => by cases h⟩
  | @passedOver route current c _ _ _ _ hpass _ ih =>
      obtain ⟨hmem, hrest⟩ := List.cons_subset.1 hsubset
      have hstep : stepThrough verifiers filter pool route current c = none := by
        rcases hpass with hdead | hroute
        · exact stepThrough_eq_none_of_barred hnodup hbarred hmem hdead
        · exact if_neg fun h => h.1 hroute
      rw [List.findSome?_cons, hstep]
      exact ih hcurrent hrest hbarred
  | @refused route current c _ _ _ _ _ _ hcandidate _ ih =>
      have hstep : stepThrough verifiers filter pool route current c = none :=
        if_neg fun h => hcandidate h.2
      rw [List.findSome?_cons, hstep]
      exact ih hcurrent (List.cons_subset.1 hsubset).2 (by simpa using hbarred)
  | @inVain route current c _ _ _ _ _ _ hroute hcandidate _ _ ihdown ih =>
      obtain ⟨hmem, hrest⟩ := List.cons_subset.1 hsubset
      obtain ⟨hnone, hbetween⟩ := ihdown List.mem_cons_self (List.Subset.refl _)
        (by simpa [enter] using hbarred.enter c)
      rw [← climb?_eq] at hnone
      -- nothing is found below `c`, so the dead ends stay barred when `c` leaves the route
      have hstep : stepThrough verifiers filter pool route current c = none := by
        rw [stepThrough, ← hnone, Option.map_none, ite_self]
      rw [List.findSome?_cons, hstep]
      exact ih hcurrent hrest ((hbetween rfl).leave hnodup hmem
        (not_leadsUp_of_climb?_eq_none hnodup hnone.symm))
  | @reached route current c _ _ ascent _ _ hroute hcandidate _ ihdown =>
      obtain ⟨hsome, -⟩ := ihdown List.mem_cons_self (List.Subset.refl _)
        (by simpa [enter] using hbarred.enter c)
      rw [← climb?_eq] at hsome
      have hstep : stepThrough verifiers filter pool route current c =
          some (ascent.through c) := by
        rw [stepThrough, if_pos ⟨hroute, hcandidate⟩, ← hsome, Option.map_some]
      rw [List.findSome?_cons, hstep]
      exact ⟨rfl, fun h => by cases h⟩
  | exhausted =>
      refine ⟨rfl, fun _ c hmem hdead hnew => ?_⟩
      rcases List.mem_cons.1 hdead with heq | hdead
      · exact absurd (heq ▸ hcurrent) hnew
      · exact hbarred c hmem hdead hnew

/-- The search finds what the plain search finds. -/
theorem run_fst_eq_climb? (target : Certificate) :
    (run verifiers filter pool target).1 =
      climb? verifiers filter pool [target.encoding] target := by
  have hscans := scans_run verifiers filter pool target
  have hfresh : Barred verifiers filter pool [target.encoding] (fresh.enter target).deadEnds :=
    fun c _ hdead => absurd hdead List.not_mem_nil
  obtain ⟨hfound, -⟩ := hscans.agrees_climb? hnodup List.mem_cons_self (List.Subset.refl _) hfresh
  rw [hfound, ← climb?_eq]

end Distinct

end PathSearch

end TrustChain
