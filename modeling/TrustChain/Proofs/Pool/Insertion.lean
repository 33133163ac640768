import TrustChain.Proofs.Path.Reachability
import TrustChain.Proofs.Path.Restriction

/-!
# Certificates put into a pool

Of the certificates that are put into a pool, those that repeat an earlier one are not classified at
all. The others are, and may displace certificates with their encoding; but if encodings tell
certificates apart, what is displaced is a certificate that was put in as well. So what is left of
the classified pool without them is what is left of the original one, and classification fails for
the same certificate if it fails.
-/

namespace TrustChain

/-- `larger` is `pool` with certificates put in at any positions: ones that stand earlier, copies of
the target, and strangers. `earlier` holds what stands before both. -/
inductive Inserts (target : Option Certificate) (strangers : List Certificate) :
    (earlier pool larger : List Certificate) → Prop where
  | done {earlier : List Certificate} : Inserts target strangers earlier [] []
  | member {earlier pool larger : List Certificate} {c : Certificate} :
      Inserts target strangers (c :: earlier) pool larger →
      Inserts target strangers earlier (c :: pool) (c :: larger)
  | repetition {earlier pool larger : List Certificate} {c : Certificate} (hearlier : c ∈ earlier) :
      Inserts target strangers (c :: earlier) pool larger →
      Inserts target strangers earlier pool (c :: larger)
  | copy {earlier pool larger : List Certificate} {c : Certificate} (htarget : target = some c) :
      Inserts target strangers (c :: earlier) pool larger →
      Inserts target strangers earlier pool (c :: larger)
  | stranger {earlier pool larger : List Certificate} {c : Certificate}
      (hstranger : c ∈ strangers) :
      Inserts target strangers (c :: earlier) pool larger →
      Inserts target strangers earlier pool (c :: larger)

theorem Inserts.subset {target : Option Certificate} {strangers earlier pool larger :
    List Certificate} (h : Inserts target strangers earlier pool larger) : pool ⊆ larger := by
  induction h with
  | done => exact List.Subset.refl _
  | member _ ih => exact List.cons_subset_cons _ ih
  | repetition _ _ ih => exact List.subset_cons_of_subset _ ih
  | copy _ _ ih => exact List.subset_cons_of_subset _ ih
  | stranger _ _ ih => exact List.subset_cons_of_subset _ ih

namespace ClassifiedPool

/-! ### First occurrences -/

/-- If equal encodings are kept alike, the first occurrences among what is kept are what is kept of
the first occurrences. -/
theorem filter_withoutRepeats {keep : Certificate → Bool} {certificates : List Certificate}
    (halike : ∀ c ∈ certificates, ∀ d ∈ certificates, c.encoding = d.encoding → keep c = keep d)
    {seen seenKept : List Octets}
    (hseen : ∀ c ∈ certificates, keep c = true → (c.encoding ∈ seen ↔ c.encoding ∈ seenKept)) :
    (withoutRepeats seen certificates).filter keep =
      withoutRepeats seenKept (certificates.filter keep) := by
  induction certificates generalizing seen seenKept with
  | nil => rfl
  | cons c rest ih =>
      have hrest := @ih fun d hd e he => halike d (.tail _ hd) e (.tail _ he)
      have hrestSeen : ∀ d ∈ rest, keep d = true → (d.encoding ∈ seen ↔ d.encoding ∈ seenKept) :=
        fun d hd => hseen d (.tail _ hd)
      rw [withoutRepeats]
      cases hkeep : keep c with
      | true =>
          rw [List.filter_cons_of_pos hkeep, withoutRepeats]
          have hiff := hseen c List.mem_cons_self hkeep
          by_cases hmem : c.encoding ∈ seen
          · rw [if_pos hmem, if_pos (hiff.1 hmem)]
            exact hrest hrestSeen
          · have hlater : (withoutRepeats (c.encoding :: seen) rest).filter keep =
                withoutRepeats (c.encoding :: seenKept) (rest.filter keep) :=
              hrest fun d hd hd' => by rw [List.mem_cons, List.mem_cons, hrestSeen d hd hd']
            rw [if_neg hmem, if_neg (hiff.not.1 hmem), List.filter_cons_of_pos hkeep, hlater]
      | false =>
          rw [List.filter_cons_of_neg (by simp [hkeep])]
          split
          · exact hrest hrestSeen
          · rw [List.filter_cons_of_neg (by simp [hkeep])]
            refine hrest fun d hd hd' => ?_
            -- `c` is not kept, so nothing that is kept has its encoding
            have hne : d.encoding ≠ c.encoding := by
              intro heq
              rw [halike d (.tail _ hd) c List.mem_cons_self heq, hkeep] at hd'
              cases hd'
            rw [List.mem_cons, or_iff_right hne, hrestSeen d hd hd']

/-- What is not kept adds nothing to what is. -/
theorem forall_kept_cons {keep : Certificate → Bool} {P : Certificate → Prop} {c : Certificate}
    {certificates : List Certificate} (hc : keep c = false)
    (h : ∀ d ∈ certificates, keep d = true → P d) :
    ∀ d ∈ c :: certificates, keep d = true → P d := by
  rw [List.forall_mem_cons]
  exact ⟨fun hkeep => absurd (hc.symm.trans hkeep) Bool.false_ne_true, h⟩

section Inserts

variable {target : Option Certificate} {strangers earlier pool larger : List Certificate}
  {keep : Certificate → Bool} (hinserts : Inserts target strangers earlier pool larger)
  (htarget : ∀ c, target = some c → keep c = false)
  (hstrangers : ∀ c ∈ strangers, keep c = false)
include hinserts htarget hstrangers

theorem withoutRepeats_filter_of_inserts {seen : List Octets}
    (hseen : ∀ c ∈ earlier, keep c = true → c.encoding ∈ seen) :
    withoutRepeats seen (larger.filter keep) = withoutRepeats seen (pool.filter keep) := by
  induction hinserts generalizing seen with
  | done => rfl
  | @member earlier pool larger c _ ih =>
      cases hkeep : keep c with
      | true =>
          rw [List.filter_cons_of_pos hkeep, List.filter_cons_of_pos hkeep, withoutRepeats,
            withoutRepeats]
          split
          · rename_i hmem
            exact ih (List.forall_mem_cons.2 ⟨fun _ => hmem, hseen⟩)
          · rw [ih (List.forall_mem_cons.2
              ⟨fun _ => List.mem_cons_self, fun d hd h => .tail _ (hseen d hd h)⟩)]
      | false =>
          rw [List.filter_cons_of_neg (by simp [hkeep]), List.filter_cons_of_neg (by simp [hkeep])]
          exact ih (forall_kept_cons hkeep hseen)
  | @repetition earlier pool larger c hearlier _ ih =>
      have hrest := ih (List.forall_mem_cons.2 ⟨hseen c hearlier, hseen⟩)
      cases hkeep : keep c with
      | true =>
          rw [List.filter_cons_of_pos hkeep, withoutRepeats, if_pos (hseen c hearlier hkeep)]
          exact hrest
      | false =>
          rw [List.filter_cons_of_neg (by simp [hkeep])]
          exact hrest
  | @copy earlier pool larger c hc _ ih =>
      have hkeep := htarget c hc
      rw [List.filter_cons_of_neg (by simp [hkeep])]
      exact ih (forall_kept_cons hkeep hseen)
  | @stranger earlier pool larger c hc _ ih =>
      have hkeep := hstrangers c hc
      rw [List.filter_cons_of_neg (by simp [hkeep])]
      exact ih (forall_kept_cons hkeep hseen)

end Inserts

/-! ### Classification -/

variable {verifiers : Verifiers}

/-- Items at which nothing is found may be left out. -/
theorem findSome?_filter_of_none {α β : Type} {step : α → Option β} {keep : α → Bool}
    {items : List α} (hnone : ∀ x ∈ items, keep x = false → step x = none) :
    items.findSome? step = (items.filter keep).findSome? step := by
  induction items with
  | nil => rfl
  | cons x rest ih =>
      obtain ⟨hx, hrest⟩ := List.forall_mem_cons.1 hnone
      rw [List.findSome?_cons]
      cases hkeep : keep x with
      | true => rw [List.filter_cons_of_pos hkeep, List.findSome?_cons, ih hrest]
      | false =>
          rw [List.filter_cons_of_neg (by simp [hkeep]), hx hkeep]
          exact ih hrest

/-- The part of a classified pool that is kept depends on the part of the first occurrences that is
kept, if the others can be classified. -/
theorem classify_restrict {keep : Certificate → Bool} {certificates : List Certificate}
    (hevaluated : ∀ c ∈ certificates, keep c = false → fault? verifiers c = none) :
    (classify verifiers certificates).value.map (restrict · keep) =
      match ((withoutRepeats [] certificates).filter keep).findSome? (fault? verifiers) with
      | some fault => .error fault
      | none => .ok
        ⟨((withoutRepeats [] certificates).filter keep).filter verifiers.knowsSelfSigned,
          ((withoutRepeats [] certificates).filter keep).filter
            (!verifiers.knowsSelfSigned ·)⟩ := by
  have hnone : ∀ c ∈ withoutRepeats [] certificates, keep c = false →
      fault? verifiers c = none :=
    fun c hc => hevaluated c ((withoutRepeats_sublist [] certificates).subset hc)
  unfold classify
  rw [value_classifyUnseen, findSome?_filter_of_none hnone]
  cases ((withoutRepeats [] certificates).filter keep).findSome? (fault? verifiers) with
  | some fault => rfl
  | none => simp only [Except.map, restrict, List.filter_comm]

/-- What is put into a pool leaves no trace in the part that is kept. -/
theorem classify_of_inserts {target : Option Certificate} {strangers pool larger : List Certificate}
    {keep : Certificate → Bool} (hinserts : Inserts target strangers [] pool larger)
    (hidentified : IdentifiedByEncoding larger) (htarget : ∀ c, target = some c → keep c = false)
    (hstrangers : ∀ c ∈ strangers, keep c = false)
    (hevaluated : ∀ c ∈ larger, keep c = false → fault? verifiers c = none) :
    (classify verifiers larger).value.map (restrict · keep) =
      (classify verifiers pool).value.map (restrict · keep) := by
  have halike : ∀ c ∈ larger, ∀ d ∈ larger, c.encoding = d.encoding → keep c = keep d :=
    fun c hc d hd heq => congrArg keep (hidentified c hc d hd heq)
  have hfirsts : (withoutRepeats [] larger).filter keep = (withoutRepeats [] pool).filter keep := by
    calc (withoutRepeats [] larger).filter keep
        = withoutRepeats [] (larger.filter keep) := filter_withoutRepeats halike fun _ _ _ => .rfl
      _ = withoutRepeats [] (pool.filter keep) :=
          withoutRepeats_filter_of_inserts hinserts htarget hstrangers fun _ hc => nomatch hc
      _ = (withoutRepeats [] pool).filter keep :=
          (filter_withoutRepeats (fun c hc d hd => halike c (hinserts.subset hc) d
            (hinserts.subset hd)) fun _ _ _ => .rfl).symm
  rw [classify_restrict hevaluated, classify_restrict fun c hc => hevaluated c (hinserts.subset hc),
    hfirsts]

end ClassifiedPool

end TrustChain
