import TrustChain.Proofs.Path.Building

/-!
# The search in part of a pool

A certificate that is on every route, or whose name is not that of the issuer of any certificate the
search comes to, leaves no trace: it is passed over before its signature would be examined. So the
search takes the very same course in a pool from which such certificates are left out, and what it
learns on the way is the same as well.
-/

namespace TrustChain

namespace ClassifiedPool

/-- The part of a pool that is kept. -/
def restrict (pool : ClassifiedPool) (keep : Certificate → Bool) : ClassifiedPool :=
  ⟨pool.trustAnchors.filter keep, pool.intermediates.filter keep⟩

/-- The certificates that a search for a target in the part that is kept may come to. -/
def Within (pool : ClassifiedPool) (keep : Certificate → Bool) (target c : Certificate) : Prop :=
  c = target ∨ c ∈ pool.intermediates ∧ keep c = true

/-- Nothing that is left out is ever followed in a search for a target: it is the target itself, or
it does not have the name of an issuer that the search looks for. -/
def Dispensable (pool : ClassifiedPool) (keep : Certificate → Bool) (target : Certificate) : Prop :=
  ∀ c ∈ pool.members, keep c = false →
    c.encoding = target.encoding ∨
      ∀ child, pool.Within keep target child → c.subject.agrees child.issuer = false

end ClassifiedPool

namespace PathSearch

/-- Items at which a step does nothing may be left out. -/
theorem firstFound_filter {α β σ : Type} {step step' : α → σ → Option β × σ} {keep : α → Bool}
    {items : List α}
    (hskip : ∀ x ∈ items, keep x = false → ∀ state, step x state = (none, state))
    (hkeep : ∀ x ∈ items, keep x = true → ∀ state, step x state = step' x state) (state : σ) :
    firstFound step items state = firstFound step' (items.filter keep) state := by
  induction items generalizing state with
  | nil => rfl
  | cons x rest ih =>
      obtain ⟨hskipx, hskip⟩ := List.forall_mem_cons.1 hskip
      obtain ⟨hkeepx, hkeep⟩ := List.forall_mem_cons.1 hkeep
      cases hx : keep x with
      | false =>
          rw [List.filter_cons_of_neg (by simp [hx]), firstFound, hskipx hx]
          exact ih hskip hkeep state
      | true =>
          rw [List.filter_cons_of_pos hx, firstFound, firstFound, hkeepx hx]
          rcases step' x state with ⟨found, after⟩
          cases found with
          | some b => rfl
          | none => exact ih hskip hkeep after

variable {verifiers : Verifiers} {filter : Bool} {pool : ClassifiedPool}

theorem follows_of_not_agrees {child parent : Certificate} (search : PathSearch)
    (h : parent.subject.agrees child.issuer = false) :
    follows verifiers filter child parent search = (false, search) := by
  unfold follows
  rw [h]
  rfl

section Restrict

variable {keep : Certificate → Bool} {target : Certificate}
  (hdispensable : pool.Dispensable keep target) {route : List Octets} {current : Certificate}
  (hroute : target.encoding ∈ route) (hcurrent : pool.Within keep target current)

include hdispensable hroute hcurrent

theorem tryAnchor_of_not_keep {anchor : Certificate} (hmem : anchor ∈ pool.trustAnchors)
    (hout : keep anchor = false) (search : PathSearch) :
    tryAnchor verifiers filter route current anchor search = (none, search) := by
  unfold tryAnchor
  split
  · rfl
  · rename_i hnew
    rcases hdispensable anchor (List.mem_append_left _ hmem) hout with hsame | hname
    · exact absurd (hsame ▸ hroute) hnew
    · rw [follows_of_not_agrees search (hname current hcurrent)]

theorem tryIntermediate_of_not_keep {c : Certificate} (hmem : c ∈ pool.intermediates)
    (hout : keep c = false) (search : PathSearch) :
    tryIntermediate verifiers filter pool route current c search = (none, search) := by
  unfold tryIntermediate
  split
  · rfl
  · rename_i hnew
    rcases hdispensable c (List.mem_append_right _ hmem) hout with hsame | hname
    · exact absurd (.inr (hsame ▸ hroute)) hnew
    · rw [follows_of_not_agrees search (hname current hcurrent)]

/-- The search from a certificate it comes to goes the same way in the part that is kept. -/
theorem explore_restrict (search : PathSearch) :
    explore verifiers filter pool route current search =
      explore verifiers filter (pool.restrict keep) route current search := by
  induction hn : remaining pool.intermediates route using Nat.strong_induction_on
    generalizing route current search with
  | _ n ih =>
      have hkept : ∀ c ∈ pool.intermediates, keep c = true → ∀ search : PathSearch,
          tryIntermediate verifiers filter pool route current c search =
            tryIntermediate verifiers filter (pool.restrict keep) route current c search := by
        intro c hmem hc search
        unfold tryIntermediate
        split
        · rfl
        · rename_i hpass
          obtain ⟨-, hnew⟩ := not_or.1 hpass
          have hlt := hn ▸ remaining_cons_lt hmem hnew
          have hdown := fun search => ih _ hlt (List.mem_cons_of_mem c.encoding hroute)
            (.inr ⟨hmem, hc⟩) search rfl
          simp only [hdown]
      have hanchors : ∀ search,
          firstFound (tryAnchor verifiers filter route current) pool.trustAnchors search =
            firstFound (tryAnchor verifiers filter route current) (pool.trustAnchors.filter keep)
              search :=
        firstFound_filter
          (fun _ hmem hout => tryAnchor_of_not_keep hdispensable hroute hcurrent hmem hout)
          fun _ _ _ _ => rfl
      have hintermediates : ∀ search,
          firstFound (tryIntermediate verifiers filter pool route current) pool.intermediates
            search =
          firstFound (tryIntermediate verifiers filter (pool.restrict keep) route current)
            (pool.intermediates.filter keep) search :=
        firstFound_filter
          (fun _ hmem hout => tryIntermediate_of_not_keep hdispensable hroute hcurrent hmem hout)
          hkept
      rw [explore_eq, explore_eq, hanchors]
      simp only [hintermediates]
      rfl

end Restrict

theorem run_restrict {keep : Certificate → Bool} {target : Certificate}
    (hdispensable : pool.Dispensable keep target) :
    run verifiers filter pool target = run verifiers filter (pool.restrict keep) target :=
  explore_restrict hdispensable List.mem_cons_self (.inl rfl) fresh

end PathSearch

/-- A path is found, or not found for the same reason, in the part of a pool that counts. -/
theorem CertificationPath.value_find_restrict {verifiers : Verifiers} {settings : Settings}
    {target : Certificate} {pool : ClassifiedPool} {keep : Certificate → Bool}
    (hdispensable : pool.Dispensable keep target) :
    (find verifiers settings target pool).value =
      (find verifiers settings target (pool.restrict keep)).value := by
  rw [value_find, value_find, PathSearch.run_restrict hdispensable]

end TrustChain
