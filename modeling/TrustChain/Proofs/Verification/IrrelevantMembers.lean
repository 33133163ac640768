import TrustChain.Proofs.Pool.Insertion
import TrustChain.Proofs.Verification.PoolOrder

/-!
# Certificates that do not matter

A certificate that repeats an earlier one, a copy of the target, and a stranger, whose name is not
that of an issuer in the pool, may stand anywhere in a pool: verification has the same outcome
without them. Strangers may well issue one another, since the search never comes to the first of
them.
-/

namespace TrustChain

/-- Of several certificates put into a pool, one that can be classified and has not issued anything
but them, going by names. -/
structure IsStranger (verifiers : Verifiers) (target : Option Certificate)
    (strangers pool : List Certificate) (c : Certificate) : Prop where
  evaluated : ∃ answer, (verifiers.isSelfSigned c).value = .ok answer
  target_unnamed : ∀ t, target = some t → c.subject.agrees t.issuer = false
  pool_unnamed : ∀ d ∈ pool, d ∉ strangers → c.subject.agrees d.issuer = false

/-- Outcomes that agree up to a function are the same error, or two values that agree up to it. -/
theorem except_map_cases {ε α β : Type} {f : α → β} {x y : Except ε α} (h : x.map f = y.map f) :
    (∃ e, x = .error e ∧ y = .error e) ∨ ∃ a b, x = .ok a ∧ y = .ok b ∧ f a = f b := by
  cases x with
  | error e =>
      cases y with
      | error other =>
          cases h
          exact .inl ⟨e, rfl, rfl⟩
      | ok b => cases h
  | ok a =>
      cases y with
      | error other => cases h
      | ok b => exact .inr ⟨a, b, rfl, rfl, Except.ok.inj h⟩

section Strangers

variable {verifiers : Verifiers} {target : Certificate} {strangers : List Certificate}

/-- Everything but the target and the strangers. -/
def matters (target : Certificate) (strangers : List Certificate) (c : Certificate) : Bool :=
  decide (c ∉ target :: strangers)

theorem matters_eq_false_iff {c : Certificate} :
    matters target strangers c = false ↔ c = target ∨ c ∈ strangers := by
  unfold matters
  rw [decide_eq_false_iff_not, not_not, List.mem_cons]

variable {pool larger : List Certificate} {classified : ClassifiedPool}

/-- The search for a path from the target passes over strangers. -/
theorem dispensable_of_strangers
    (hstrangers : ∀ c ∈ strangers, IsStranger verifiers (some target) strangers larger c)
    (hsubset : pool ⊆ larger)
    (hsorted : (ClassifiedPool.classify verifiers pool).value = .ok classified) :
    classified.Dispensable (matters target strangers) target := by
  intro c _ hout
  rcases matters_eq_false_iff.1 hout with rfl | hstranger
  · exact .inl rfl
  · right
    rintro child (rfl | ⟨hmem, hkeep⟩)
    · exact (hstrangers c hstranger).target_unnamed _ rfl
    · obtain ⟨hpool, -⟩ := ClassifiedPool.intermediate_of_classify hsorted hmem
      refine (hstrangers c hstranger).pool_unnamed child (hsubset hpool) fun hchild => ?_
      cases hkeep.symm.trans (matters_eq_false_iff.2 (.inr hchild))

/-- The pools are classified alike but for what does not matter. -/
theorem classify_of_strangers (hinserts : Inserts (some target) strangers [] pool larger)
    (hidentified : IdentifiedByEncoding larger)
    (htarget : (verifiers.isSelfSigned target).value = .ok false)
    (hstrangers : ∀ c ∈ strangers, IsStranger verifiers (some target) strangers larger c) :
    (ClassifiedPool.classify verifiers larger).value.map
        (ClassifiedPool.restrict · (matters target strangers)) =
      (ClassifiedPool.classify verifiers pool).value.map
        (ClassifiedPool.restrict · (matters target strangers)) := by
  apply ClassifiedPool.classify_of_inserts hinserts hidentified
  · rintro c hc
    exact matters_eq_false_iff.2 (.inl (Option.some.inj hc).symm)
  · exact fun c hc => matters_eq_false_iff.2 (.inr hc)
  · intro c _ hout
    unfold ClassifiedPool.fault?
    rcases matters_eq_false_iff.1 hout with rfl | hstranger
    · rw [htarget]
    · obtain ⟨answer, hanswer⟩ := (hstrangers c hstranger).evaluated
      rw [hanswer]

/-- What does not matter makes no difference to the path that is found. -/
theorem value_find_of_strangers {settings : Settings} {reclassified : ClassifiedPool}
    (hstrangers : ∀ c ∈ strangers, IsStranger verifiers (some target) strangers larger c)
    (hsubset : pool ⊆ larger)
    (hlarger : (ClassifiedPool.classify verifiers larger).value = .ok reclassified)
    (hpool : (ClassifiedPool.classify verifiers pool).value = .ok classified)
    (hsame : reclassified.restrict (matters target strangers) =
      classified.restrict (matters target strangers)) :
    (CertificationPath.find verifiers settings target reclassified).value =
      (CertificationPath.find verifiers settings target classified).value := by
  rw [CertificationPath.value_find_restrict
      (dispensable_of_strangers hstrangers (List.Subset.refl _) hlarger),
    hsame, CertificationPath.value_find_restrict
      (dispensable_of_strangers hstrangers hsubset hpool)]

end Strangers

/-- **What does not matter changes nothing.** Where the time is stated and encodings tell
certificates apart, certificates that repeat earlier ones, copies of the target and strangers may be
put into a pool at any positions, and verification has the same outcome. -/
theorem Environment.verify_of_inserts {env : Environment} {settings : Settings}
    {time now : UInt64} (later : UInt64) {target : Option Certificate}
    {strangers pool larger : List Certificate} (henv : env.validators = [.builtin])
    (hstated : settings.statedTime? = some time)
    (hinserts : Inserts target strangers [] pool larger) (hidentified : IdentifiedByEncoding larger)
    (hstrangers : ∀ c ∈ strangers, IsStranger env.verifiers target strangers larger c) :
    (env.verify later settings target larger).value =
      (env.verify now settings target pool).value := by
  rw [value_verify henv, value_verify henv, value_checkTarget_of_stated hstated _ now later]
  cases hchecked : (checkTarget env.verifiers now settings target).value with
  | error e => rfl
  | ok c =>
      obtain ⟨rfl, -, hself⟩ := checkTarget_eq_ok hchecked
      rcases except_map_cases (classify_of_strangers hinserts hidentified hself hstrangers) with
        ⟨fault, hlarger, hpool⟩ | ⟨reclassified, classified, hlarger, hpool, hsame⟩
      · rw [hlarger, hpool]
      · rw [hlarger, hpool]
        simp only [value_find_of_strangers hstrangers hinserts.subset hlarger hpool hsame,
          CertificationPath.firstViolation?_of_stated hstated _ now later]

namespace Sample

/-- Two strangers, of which the first issued the second and none is of use to anyone else. -/
def aloof : Certificate := certificate 11 7 1 (.rsa, 7) (.rsa, 1)

def aloofer : Certificate := certificate 12 8 7 (.rsa, 8) (.rsa, 7)

/-- A trust anchor that nothing in the mesh was issued by. -/
def foreign : Certificate := certificate 13 9 9 (.rsa, 9) (.rsa, 9)

def crowdedMesh : List Certificate :=
  [aloof, lower, leaf, back, lower, upper, foreign, root, aloofer, leaf, foreign]

theorem inserts_crowdedMesh :
    Inserts (some leaf) [aloof, aloofer, foreign] [] mesh crowdedMesh := by
  refine .stranger (by decide) (.member (.copy rfl (.member (.repetition ?_ (.member
    (.stranger (by decide) (.member (.stranger (by decide) (.copy rfl
      (.repetition ?_ .done)))))))))) <;> decide

theorem isStranger_crowdedMesh : ∀ c ∈ [aloof, aloofer, foreign],
    IsStranger environment.verifiers (some leaf) [aloof, aloofer, foreign] crowdedMesh c := by
  have hnames : ∀ c ∈ [aloof, aloofer, foreign], c.subject.agrees leaf.issuer = false ∧
      ∀ d ∈ crowdedMesh, d ∉ [aloof, aloofer, foreign] → c.subject.agrees d.issuer = false := by
    decide +kernel
  have hevaluated : ∀ c ∈ [aloof, aloofer, foreign],
      ∃ answer, (environment.verifiers.isSelfSigned c).value = .ok answer := by
    simp only [List.forall_mem_cons]
    exact ⟨⟨false, rfl⟩, ⟨false, rfl⟩, ⟨true, rfl⟩, fun _ h => (nomatch h)⟩
  intro c hc
  obtain ⟨htarget, hpool⟩ := hnames c hc
  exact ⟨hevaluated c hc, fun t ht => Option.some.inj ht ▸ htarget, hpool⟩

theorem verify_crowdedMesh :
    environment.validators = [.builtin] ∧ dated.statedTime? = some now ∧
    Inserts (some leaf) [aloof, aloofer, foreign] [] mesh crowdedMesh ∧
    IdentifiedByEncoding crowdedMesh ∧
    (∀ c ∈ [aloof, aloofer, foreign],
      IsStranger environment.verifiers (some leaf) [aloof, aloofer, foreign] crowdedMesh c) ∧
    (environment.verify now dated (some leaf) crowdedMesh).value =
      .ok (.ofPath ⟨root, [lower, back, upper], leaf⟩) := by
  have hidentified : IdentifiedByEncoding crowdedMesh := by
    unfold IdentifiedByEncoding
    decide +kernel
  have hvalid : (CertificationPath.mk root [lower, back, upper] leaf).firstViolation?
      environment.verifiers now dated = none := rfl
  have hverified : (environment.verify now dated (some leaf) mesh).value =
      .ok (.ofPath ⟨root, [lower, back, upper], leaf⟩) := by
    rw [(@builds_mesh dated rfl rfl).value_verify rfl, hvalid]
  refine ⟨rfl, rfl, inserts_crowdedMesh, hidentified, isStranger_crowdedMesh, ?_⟩
  rw [← hverified]
  exact Environment.verify_of_inserts now rfl rfl inserts_crowdedMesh hidentified
    isStranger_crowdedMesh

end Sample

end TrustChain
