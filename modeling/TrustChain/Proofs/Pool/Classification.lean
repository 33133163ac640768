import TrustChain.Pool
import Mathlib.Data.List.Nodup

/-!
# What classification does to a pool

Of the certificates of a pool only the first of each encoding counts. When all of these can be
evaluated they are split into trust anchors and intermediates, each in the order of the pool; when
one cannot, the first such certificate is reported. What path building needs of the outcome is that
no two certificates in it have the same encoding.
-/

namespace TrustChain

/-- Whether a certificate is known to be self-signed. -/
def Verifiers.knowsSelfSigned (verifiers : Verifiers) (c : Certificate) : Bool :=
  (verifiers.isSelfSigned c).value matches .ok true

namespace ClassifiedPool

/-- The certificates whose encodings are not among those seen and not among those before them. -/
def withoutRepeats (seen : List Octets) : List Certificate → List Certificate
  | [] => []
  | c :: rest =>
    if c.encoding ∈ seen then withoutRepeats seen rest
    else c :: withoutRepeats (c.encoding :: seen) rest

theorem withoutRepeats_sublist (seen : List Octets) (certificates : List Certificate) :
    (withoutRepeats seen certificates).Sublist certificates := by
  induction certificates generalizing seen with
  | nil => exact .refl _
  | cons c rest ih =>
      rw [withoutRepeats]
      split
      · exact (ih seen).cons c
      · exact (ih _).cons_cons c

theorem notMem_seen_of_mem_withoutRepeats {seen : List Octets} {certificates : List Certificate}
    {c : Certificate} (hmem : c ∈ withoutRepeats seen certificates) : c.encoding ∉ seen := by
  induction certificates generalizing seen with
  | nil => simp [withoutRepeats] at hmem
  | cons d rest ih =>
      rw [withoutRepeats] at hmem
      split at hmem
      · exact ih hmem
      · rename_i hnew
        rcases List.mem_cons.1 hmem with rfl | hrest
        · exact hnew
        · exact fun hseen => ih hrest (List.mem_cons_of_mem _ hseen)

theorem nodup_withoutRepeats (seen : List Octets) (certificates : List Certificate) :
    ((withoutRepeats seen certificates).map Certificate.encoding).Nodup := by
  induction certificates generalizing seen with
  | nil => exact .nil
  | cons c rest ih =>
      rw [withoutRepeats]
      split
      · exact ih seen
      · rw [List.map_cons, List.nodup_cons]
        refine ⟨fun hmem => ?_, ih _⟩
        obtain ⟨d, hd, heq⟩ := List.mem_map.1 hmem
        exact notMem_seen_of_mem_withoutRepeats hd (heq ▸ List.mem_cons_self)

/-- Every new encoding stays with the first certificate that has it. -/
theorem exists_mem_withoutRepeats {seen : List Octets} {certificates : List Certificate}
    {c : Certificate} (hmem : c ∈ certificates) (hnew : c.encoding ∉ seen) :
    ∃ d ∈ withoutRepeats seen certificates, d.encoding = c.encoding := by
  induction certificates generalizing seen with
  | nil => cases hmem
  | cons first rest ih =>
      rw [withoutRepeats]
      by_cases hfirst : first.encoding = c.encoding
      · rw [if_neg (hfirst ▸ hnew)]
        exact ⟨first, List.mem_cons_self, hfirst⟩
      · have hrest : c ∈ rest := by
          rcases List.mem_cons.1 hmem with rfl | hrest
          · exact absurd rfl hfirst
          · exact hrest
        split
        · exact ih hrest hnew
        · have hlater : c.encoding ∉ first.encoding :: seen := by
            simp [hnew, Ne.symm hfirst]
          obtain ⟨d, hd, heq⟩ := ih hrest hlater
          exact ⟨d, List.mem_cons_of_mem _ hd, heq⟩

variable {verifiers : Verifiers}

/-- A certificate of a new encoding is put where the evaluation of its signature says. -/
theorem value_classifyUnseen_cons {seen : List Octets} {c : Certificate}
    {rest : List Certificate} (hnew : c.encoding ∉ seen) :
    (classifyUnseen verifiers seen (c :: rest)).value =
      match (verifiers.isSelfSigned c).value with
      | .error e => .error ⟨e, c, none⟩
      | .ok answer =>
        (classifyUnseen verifiers (c.encoding :: seen) rest).value.map
          (if answer then addTrustAnchor c else addIntermediate c) := by
  rw [classifyUnseen, if_neg hnew, Journaled.value_bind]
  split <;> simp_all

theorem knowsSelfSigned_of_isSelfSigned {c : Certificate} {answer : Bool}
    (h : (verifiers.isSelfSigned c).value = .ok answer) :
    verifiers.knowsSelfSigned c = answer := by
  unfold Verifiers.knowsSelfSigned
  rw [h]
  cases answer <;> rfl

/-- The fault of a certificate that cannot be classified. -/
def fault? (verifiers : Verifiers) (c : Certificate) : Option Fault :=
  match (verifiers.isSelfSigned c).value with
  | .ok _ => none
  | .error e => some ⟨e, c, none⟩

theorem fault?_eq_none_iff {c : Certificate} :
    fault? verifiers c = none ↔ ∃ answer, (verifiers.isSelfSigned c).value = .ok answer := by
  unfold fault?
  cases (verifiers.isSelfSigned c).value <;> simp

theorem fault?_eq_some_iff {c : Certificate} {fault : Fault} :
    fault? verifiers c = some fault ↔
      ∃ e, (verifiers.isSelfSigned c).value = .error e ∧ fault = ⟨e, c, none⟩ := by
  unfold fault?
  cases (verifiers.isSelfSigned c).value <;> simp [eq_comm]

/-- Classification depends on the first occurrences alone: it reports the first fault among them, or
splits them. -/
theorem value_classifyUnseen (seen : List Octets) (certificates : List Certificate) :
    (classifyUnseen verifiers seen certificates).value =
      match (withoutRepeats seen certificates).findSome? (fault? verifiers) with
      | some fault => .error fault
      | none => .ok
        ⟨(withoutRepeats seen certificates).filter verifiers.knowsSelfSigned,
          (withoutRepeats seen certificates).filter (!verifiers.knowsSelfSigned ·)⟩ := by
  induction certificates generalizing seen with
  | nil => rfl
  | cons c rest ih =>
      by_cases hmem : c.encoding ∈ seen
      · rw [classifyUnseen, if_pos hmem, withoutRepeats, if_pos hmem]
        exact ih seen
      · rw [value_classifyUnseen_cons hmem, withoutRepeats, if_neg hmem, List.findSome?_cons, ih]
        cases hanswer : (verifiers.isSelfSigned c).value with
        | error e => simp [fault?, hanswer]
        | ok answer =>
            have hknows := knowsSelfSigned_of_isSelfSigned hanswer
            simp only [fault?, hanswer]
            cases (withoutRepeats (c.encoding :: seen) rest).findSome? (fault? verifiers) with
            | some fault => rfl
            | none =>
                cases answer <;>
                  simp [Except.map, addTrustAnchor, addIntermediate, hknows]

/-- A classified pool is a partition of the first occurrences, all of which could be evaluated. -/
theorem eq_filter_of_classifyUnseen {seen : List Octets} {certificates : List Certificate}
    {pool : ClassifiedPool} (h : (classifyUnseen verifiers seen certificates).value = .ok pool) :
    (∀ c ∈ withoutRepeats seen certificates,
      (verifiers.isSelfSigned c).value = .ok (verifiers.knowsSelfSigned c)) ∧
    pool.trustAnchors =
      (withoutRepeats seen certificates).filter verifiers.knowsSelfSigned ∧
    pool.intermediates =
      (withoutRepeats seen certificates).filter (!verifiers.knowsSelfSigned ·) := by
  rw [value_classifyUnseen] at h
  split at h
  · cases h
  · rename_i hnone
    obtain rfl := Except.ok.inj h
    refine ⟨fun c hc => ?_, rfl, rfl⟩
    obtain ⟨answer, hanswer⟩ := fault?_eq_none_iff.1 (List.findSome?_eq_none_iff.1 hnone c hc)
    rw [hanswer, knowsSelfSigned_of_isSelfSigned hanswer]

/-- The certificate that classification reports is one of the pool, and the error is that of
evaluating its signature with its own key. -/
theorem classifyUnseen_fault {seen : List Octets} {certificates : List Certificate}
    {fault : Fault} (h : (classifyUnseen verifiers seen certificates).value = .error fault) :
    fault.certificate ∈ certificates ∧ fault.issuer = none ∧
      (verifiers.isSelfSigned fault.certificate).value = .error fault.error := by
  rw [value_classifyUnseen] at h
  split at h
  · rename_i hfirst
    obtain rfl := Except.error.inj h
    obtain ⟨c, hc, hfault⟩ := List.exists_of_findSome?_eq_some hfirst
    obtain ⟨e, herror, rfl⟩ := fault?_eq_some_iff.1 hfault
    exact ⟨(withoutRepeats_sublist seen certificates).subset hc, rfl, herror⟩
  · cases h

/-! ### The members of a classified pool -/

/-- All certificates, in the order in which a search tries them. -/
def members (pool : ClassifiedPool) : List Certificate := pool.trustAnchors ++ pool.intermediates

section Classified

variable {certificates : List Certificate} {pool : ClassifiedPool}

theorem trustAnchor_of_classify (h : (classify verifiers certificates).value = .ok pool)
    {c : Certificate} (hmem : c ∈ pool.trustAnchors) :
    c ∈ certificates ∧ (verifiers.isSelfSigned c).value = .ok true := by
  obtain ⟨hevaluated, hanchors, -⟩ := eq_filter_of_classifyUnseen h
  rw [hanchors, List.mem_filter] at hmem
  exact ⟨(withoutRepeats_sublist [] certificates).subset hmem.1,
    hmem.2 ▸ hevaluated c hmem.1⟩

theorem intermediate_of_classify (h : (classify verifiers certificates).value = .ok pool)
    {c : Certificate} (hmem : c ∈ pool.intermediates) :
    c ∈ certificates ∧ (verifiers.isSelfSigned c).value = .ok false := by
  obtain ⟨hevaluated, -, hintermediates⟩ := eq_filter_of_classifyUnseen h
  rw [hintermediates, List.mem_filter, Bool.not_eq_true'] at hmem
  exact ⟨(withoutRepeats_sublist [] certificates).subset hmem.1,
    hmem.2 ▸ hevaluated c hmem.1⟩

/-- No two certificates of a classified pool have the same encoding. -/
theorem nodup_members_of_classify (h : (classify verifiers certificates).value = .ok pool) :
    (pool.members.map Certificate.encoding).Nodup := by
  obtain ⟨-, hanchors, hintermediates⟩ := eq_filter_of_classifyUnseen h
  have hperm : pool.members.Perm (withoutRepeats [] certificates) := by
    rw [members, hanchors, hintermediates]
    simpa using List.filter_append_perm verifiers.knowsSelfSigned (withoutRepeats [] certificates)
  exact (hperm.map _).nodup_iff.2 (nodup_withoutRepeats [] certificates)

end Classified

end ClassifiedPool

end TrustChain
