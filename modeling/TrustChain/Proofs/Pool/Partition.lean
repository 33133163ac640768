import TrustChain.Proofs.Path.Building
import TrustChain.Proofs.Pool.Classification

/-!
# Classification splits a pool

The first occurrences of a pool are its certificates less those whose encoding stands earlier in it.
Classification asks about each of them once, in order. If all can be evaluated, the two lists of the
classified pool are a partition of them that keeps their order, and classifying the two lists one
after the other gives them back. Otherwise classification ends with the first certificate that
cannot be evaluated, and nothing behind it is asked about.
-/

namespace TrustChain.ClassifiedPool

/-- The certificates of a pool without those whose encoding stands earlier in it. -/
def firstOccurrences (certificates : List Certificate) : List Certificate :=
  (certificates.zipIdx.filter fun (c, i) =>
    c.encoding ∉ (certificates.take i).map Certificate.encoding).map Prod.fst

/-- The test for an earlier occurrence may look at what has been seen so far. -/
theorem filter_zipIdx_eq_withoutRepeats {earlier : List Certificate} {seen : List Octets}
    (hseen : ∀ encoding, encoding ∈ seen ↔ encoding ∈ earlier.map Certificate.encoding)
    (rest : List Certificate) :
    ((rest.zipIdx earlier.length).filter fun (c, i) =>
      c.encoding ∉ ((earlier ++ rest).take i).map Certificate.encoding).map Prod.fst =
      withoutRepeats seen rest := by
  induction rest generalizing earlier seen with
  | nil => rfl
  | cons c rest ih =>
      have happend : earlier ++ c :: rest = (earlier ++ [c]) ++ rest := by simp
      have hlength : earlier.length + 1 = (earlier ++ [c]).length := by simp
      rw [List.zipIdx_cons, withoutRepeats]
      by_cases hc : c.encoding ∈ seen
      · have hlater : ∀ encoding, encoding ∈ seen ↔
            encoding ∈ (earlier ++ [c]).map Certificate.encoding := by
          intro encoding
          rw [List.map_append, List.mem_append, ← hseen]
          simp only [List.map_cons, List.map_nil, List.mem_singleton]
          exact ⟨.inl, fun h => h.elim id fun heq => heq ▸ hc⟩
        rw [if_pos hc, List.filter_cons_of_neg (by simpa [← hseen] using hc), happend, hlength]
        exact ih hlater
      · have hlater : ∀ encoding, encoding ∈ c.encoding :: seen ↔
            encoding ∈ (earlier ++ [c]).map Certificate.encoding := by
          intro encoding
          rw [List.map_append, List.mem_append, ← hseen]
          simp [or_comm]
        rw [if_neg hc, List.filter_cons_of_pos (by simpa [← hseen] using hc), List.map_cons,
          happend, hlength]
        exact congrArg (c :: ·) (ih hlater)

theorem firstOccurrences_eq (certificates : List Certificate) :
    firstOccurrences certificates = withoutRepeats [] certificates :=
  @filter_zipIdx_eq_withoutRepeats [] [] (fun _ => .rfl) certificates

theorem withoutRepeats_eq_self {seen : List Octets} {certificates : List Certificate}
    (hnodup : (certificates.map Certificate.encoding).Nodup)
    (hnew : ∀ c ∈ certificates, c.encoding ∉ seen) :
    withoutRepeats seen certificates = certificates := by
  induction certificates generalizing seen with
  | nil => rfl
  | cons c rest ih =>
      obtain ⟨hc, hnodup⟩ := List.nodup_cons.1 hnodup
      obtain ⟨hcnew, hrest⟩ := List.forall_mem_cons.1 hnew
      rw [withoutRepeats, if_neg hcnew, ih hnodup]
      intro d hd hmem
      rcases List.mem_cons.1 hmem with heq | hmem
      · exact hc (heq ▸ List.mem_map_of_mem hd)
      · exact hrest d hd hmem

variable {verifiers : Verifiers}

/-! ### Whom classification asks about -/

/-- The consultations it takes to tell whether a certificate is self-signed. -/
def inquiries (verifiers : Verifiers) (c : Certificate) : List Consultation :=
  (verifiers.isSelfSigned c).consultations

/-- The certificates up to the first that cannot be evaluated, which is asked about as well. -/
def asked (verifiers : Verifiers) : List Certificate → List Certificate
  | [] => []
  | c :: rest => c :: if fault? verifiers c = none then asked verifiers rest else []

theorem asked_append {before : List Certificate}
    (hbefore : ∀ c ∈ before, fault? verifiers c = none) (rest : List Certificate) :
    asked verifiers (before ++ rest) = before ++ asked verifiers rest := by
  induction before with
  | nil => rfl
  | cons c before ih =>
      obtain ⟨hc, hbefore⟩ := List.forall_mem_cons.1 hbefore
      rw [List.cons_append, asked, if_pos hc, ih hbefore, List.cons_append]

theorem asked_of_fault {before after : List Certificate} {c : Certificate}
    (hbefore : ∀ d ∈ before, fault? verifiers d = none) (hc : fault? verifiers c ≠ none) :
    asked verifiers (before ++ c :: after) = before ++ [c] := by
  rw [asked_append hbefore, asked, if_neg hc]

theorem asked_eq_self {certificates : List Certificate}
    (h : ∀ c ∈ certificates, fault? verifiers c = none) :
    asked verifiers certificates = certificates := by
  simpa [asked] using asked_append h []

theorem consultations_classifyUnseen_cons {seen : List Octets} {c : Certificate}
    {rest : List Certificate} (hnew : c.encoding ∉ seen) :
    (classifyUnseen verifiers seen (c :: rest)).consultations =
      inquiries verifiers c ++
        if fault? verifiers c = none then
          (classifyUnseen verifiers (c.encoding :: seen) rest).consultations
        else [] := by
  rw [classifyUnseen, if_neg hnew, Journaled.consultations_bind, fault?, inquiries]
  congr 1
  cases (verifiers.isSelfSigned c).value with
  | error e => simp
  | ok answer => cases answer <;> simp

/-- Classification asks about first occurrences only, about each of them once and in order. -/
theorem consultations_classifyUnseen (seen : List Octets) (certificates : List Certificate) :
    (classifyUnseen verifiers seen certificates).consultations =
      (asked verifiers (withoutRepeats seen certificates)).flatMap (inquiries verifiers) := by
  induction certificates generalizing seen with
  | nil => rfl
  | cons c rest ih =>
      by_cases hmem : c.encoding ∈ seen
      · rw [classifyUnseen, if_pos hmem, withoutRepeats, if_pos hmem]
        exact ih seen
      · rw [consultations_classifyUnseen_cons hmem, withoutRepeats, if_neg hmem, asked,
          List.flatMap_cons, ih]
        split <;> rfl

/-! ### The partition -/

/-- Certificates that could all be evaluated, split by what their evaluation said. -/
structure IsPartition (verifiers : Verifiers) (certificates : List Certificate)
    (pool : ClassifiedPool) : Prop where
  trustAnchors_eq : pool.trustAnchors =
    certificates.filter fun c => (verifiers.isSelfSigned c).value = .ok true
  intermediates_eq : pool.intermediates =
    certificates.filter fun c => (verifiers.isSelfSigned c).value = .ok false
  members_perm : pool.members.Perm certificates
  nodup : (pool.members.map Certificate.encoding).Nodup

theorem knowsSelfSigned_eq (c : Certificate) :
    verifiers.knowsSelfSigned c = decide ((verifiers.isSelfSigned c).value = .ok true) := by
  unfold Verifiers.knowsSelfSigned
  split <;> simp_all

theorem isPartition_of_classify {certificates : List Certificate} {pool : ClassifiedPool}
    (h : (classify verifiers certificates).value = .ok pool) :
    pool.IsPartition verifiers (withoutRepeats [] certificates) := by
  obtain ⟨hevaluated, hanchors, hintermediates⟩ := eq_filter_of_classifyUnseen h
  refine ⟨?_, ?_, ?_, nodup_members_of_classify h⟩
  · rw [hanchors]
    exact List.filter_congr fun c _ => knowsSelfSigned_eq c
  · rw [hintermediates]
    refine List.filter_congr fun c hc => ?_
    rw [hevaluated c hc]
    cases verifiers.knowsSelfSigned c <;> simp
  · rw [members, hanchors, hintermediates]
    simpa using List.filter_append_perm verifiers.knowsSelfSigned (withoutRepeats [] certificates)

theorem filter_members {pool : ClassifiedPool} {keep : Certificate → Bool}
    (hanchors : ∀ c ∈ pool.trustAnchors, keep c = true)
    (hintermediates : ∀ c ∈ pool.intermediates, keep c = false) :
    pool.members.filter keep = pool.trustAnchors ∧
      pool.members.filter (!keep ·) = pool.intermediates := by
  unfold members
  rw [List.filter_append, List.filter_append]
  constructor
  · rw [List.filter_eq_self.2 hanchors, List.filter_eq_nil_iff.2 (by simpa using hintermediates),
      List.append_nil]
  · rw [List.filter_eq_nil_iff.2 (by simpa using hanchors),
      List.filter_eq_self.2 (by simpa using hintermediates), List.nil_append]

/-- Trust anchors followed by intermediates are sorted already. -/
theorem classify_members {certificates : List Certificate} {pool : ClassifiedPool}
    (h : (classify verifiers certificates).value = .ok pool) :
    (classify verifiers pool.members).value = .ok pool := by
  have hfirsts : withoutRepeats [] pool.members = pool.members :=
    withoutRepeats_eq_self (nodup_members_of_classify h) fun _ _ => List.not_mem_nil
  have hanchors : ∀ c ∈ pool.trustAnchors, (verifiers.isSelfSigned c).value = .ok true :=
    fun c hc => (trustAnchor_of_classify h hc).2
  have hintermediates : ∀ c ∈ pool.intermediates, (verifiers.isSelfSigned c).value = .ok false :=
    fun c hc => (intermediate_of_classify h hc).2
  have hfaultless : pool.members.findSome? (fault? verifiers) = none := by
    rw [List.findSome?_eq_none_iff]
    intro c hc
    rw [fault?_eq_none_iff]
    rcases List.mem_append.1 hc with hc | hc
    · exact ⟨true, hanchors c hc⟩
    · exact ⟨false, hintermediates c hc⟩
  have hsplit := filter_members
    (fun c hc => knowsSelfSigned_of_isSelfSigned (hanchors c hc))
    (fun c hc => knowsSelfSigned_of_isSelfSigned (hintermediates c hc))
  unfold classify
  rw [value_classifyUnseen, hfirsts, hfaultless, hsplit.1, hsplit.2]

/-- If all first occurrences can be evaluated, classification partitions them; otherwise it ends
with the first that cannot. -/
theorem classify_partitions (verifiers : Verifiers) (certificates : List Certificate) :
    ((∀ c ∈ firstOccurrences certificates,
        ∃ answer, (verifiers.isSelfSigned c).value = .ok answer) →
      ∃ pool, (classify verifiers certificates).value = .ok pool ∧
        pool.IsPartition verifiers (firstOccurrences certificates) ∧
        (classify verifiers pool.members).value = .ok pool ∧
        (classify verifiers certificates).consultations =
          (firstOccurrences certificates).flatMap (inquiries verifiers)) ∧
    ∀ before c after e, firstOccurrences certificates = before ++ c :: after →
      (∀ d ∈ before, ∃ answer, (verifiers.isSelfSigned d).value = .ok answer) →
      (verifiers.isSelfSigned c).value = .error e →
      (classify verifiers certificates).value = .error ⟨e, c, none⟩ ∧
      (classify verifiers certificates).consultations =
        (before ++ [c]).flatMap (inquiries verifiers) := by
  simp only [← fault?_eq_none_iff, firstOccurrences_eq]
  constructor
  · intro hevaluated
    have hvalue := @value_classifyUnseen verifiers [] certificates
    rw [List.findSome?_eq_none_iff.2 hevaluated] at hvalue
    refine ⟨_, hvalue, isPartition_of_classify hvalue, classify_members hvalue, ?_⟩
    rw [classify, consultations_classifyUnseen, asked_eq_self hevaluated]
  · intro before c after e hfirsts hbefore herror
    have hc : fault? verifiers c = some ⟨e, c, none⟩ := fault?_eq_some_iff.2 ⟨e, herror, rfl⟩
    have hfault : (withoutRepeats [] certificates).findSome? (fault? verifiers) =
        some ⟨e, c, none⟩ :=
      List.findSome?_eq_some_iff.2 ⟨before, c, after, hfirsts, hc, hbefore⟩
    constructor
    · rw [classify, value_classifyUnseen, hfault]
    · rw [classify, consultations_classifyUnseen, hfirsts, asked_of_fault hbefore (by simp [hc])]

end TrustChain.ClassifiedPool

namespace TrustChain.Sample

/-- Signed with its own key, which cannot be read. -/
def blank : Certificate := certificate 9 3 3 (.rsa, 0) (.rsa, 3)

def namedVerifier : SignatureVerifier := { verifier with name := some "sample" }

/-- A pool with a repetition is sorted; with a certificate that cannot be evaluated in it, that
certificate is reported, and the last one of the pool is not asked about. -/
theorem classify_stops_at_blank :
    (∃ pool, (ClassifiedPool.classify [namedVerifier] [lower, root, lower]).value = .ok pool ∧
      pool.trustAnchors = [root] ∧ pool.intermediates = [lower]) ∧
    (ClassifiedPool.classify [namedVerifier] [lower, root, lower, blank, upper]).value =
      .error ⟨.parse, blank, none⟩ ∧
    (ClassifiedPool.classify [namedVerifier] [lower, root, lower, blank, upper]).consultations =
      [.signature "sample" [1] [2], .signature "sample" [3] [3], .signature "sample" [0] [3]] := by
  have hlower : (Verifiers.isSelfSigned [namedVerifier] lower).value = .ok false := rfl
  have hroot : (Verifiers.isSelfSigned [namedVerifier] root).value = .ok true := rfl
  have hfirsts : ClassifiedPool.firstOccurrences [lower, root, lower] = [lower, root] := by
    decide +kernel
  have hblank : ClassifiedPool.firstOccurrences [lower, root, lower, blank, upper] =
      [lower, root] ++ blank :: [upper] := by
    decide +kernel
  constructor
  · obtain ⟨pool, hvalue, hpartition, -⟩ :=
      (ClassifiedPool.classify_partitions [namedVerifier] [lower, root, lower]).1 (by
        rw [hfirsts]
        simp [hlower, hroot])
    refine ⟨pool, hvalue, ?_, ?_⟩
    · rw [hpartition.trustAnchors_eq, hfirsts]
      rfl
    · rw [hpartition.intermediates_eq, hfirsts]
      rfl
  · exact (ClassifiedPool.classify_partitions [namedVerifier]
      [lower, root, lower, blank, upper]).2 _ _ _ .parse hblank (by simp [hlower, hroot]) rfl

end TrustChain.Sample
