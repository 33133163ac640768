import TrustChain.Proofs.Verification.PoolOrder

/-!
# One pool under two settings

Each setting acts at one stage. Whether signatures are filtered is all that the search reads, so
two settings may lead to different paths only if they differ in that; and even then the path is the
same if it validates, because the first path of all is also the first of those over good signatures
when it is one of them. The other settings are read by the checks, and a check that asks for less
lets pass what passed before: a time of zero disables the check of validity altogether, fewer
certificates are looked at, and every limit on the length of the path that still holds is one that
held.
-/

namespace TrustChain

/-! ### The first path of all -/

theorem Verifiers.IsCandidate.unfiltered {verifiers : Verifiers} {filter : Bool}
    {child parent : Certificate} (h : verifiers.IsCandidate filter child parent) :
    verifiers.IsCandidate false child parent :=
  ⟨h.agrees, fun hfilter => absurd hfilter Bool.false_ne_true⟩

instance (pool : ClassifiedPool) : Std.Asymm pool.Prefers :=
  ⟨fun _ _ hab hba => Nat.lt_asymm hab hba⟩

namespace PathSearch

variable {verifiers : Verifiers} {filter : Bool} {pool : ClassifiedPool} {route : List Octets}
  {current : Certificate} {ascent : Ascent}

theorem Climbs.unfiltered (h : Climbs verifiers filter pool route current ascent) :
    Climbs verifiers false pool route current ascent := by
  induction h with
  | stop hmem hnew hcandidate => exact .stop hmem hnew hcandidate.unfiltered
  | through hmem hnew hcandidate _ ih => exact .through hmem hnew hcandidate.unfiltered ih

/-- The first of all ways up is the first of those that may be followed, if it is one of them. -/
theorem climb?_of_unfiltered (hnodup : (pool.members.map Certificate.encoding).Nodup)
    (hfirst : climb? verifiers false pool route current = some ascent)
    (hclimbs : Climbs verifiers filter pool route current ascent) :
    climb? verifiers filter pool route current = some ascent := by
  obtain ⟨found, hfound, hbefore⟩ := exists_climb?_of_climbs hnodup hclimbs
  obtain ⟨first, hagain, hcompare⟩ :=
    exists_climb?_of_climbs hnodup (climbs_of_climb? hfound).unfiltered
  obtain rfl := Option.some.inj (hfirst.symm.trans hagain)
  rcases hbefore with rfl | hbefore
  · exact hfound
  · rcases hcompare with rfl | hcompare
    · exact hfound
    · exact absurd hcompare (Std.Asymm.asymm _ _ hbefore)

end PathSearch

namespace CertificationPath

variable {verifiers : Verifiers} {filter : Bool} {classified : ClassifiedPool}
  {target : Certificate} {path : CertificationPath}

/-- Every search may follow a path all of whose signatures verify. -/
theorem Ascends.of_signed (hascends : path.Ascends verifiers filter classified target)
    (hsigned : path.links.findSome? (badSignature? verifiers) = none) (filter' : Bool) :
    path.Ascends verifiers filter' classified target := by
  refine ⟨hascends.target_eq, hascends.intermediates_mem, hascends.trustAnchor_mem,
    hascends.distinct, isChain_of_links fun child parent i hmem => ?_⟩
  have hvalid :=
    CertificationPath.badSignature?_eq_none (List.findSome?_eq_none_iff.1 hsigned _ hmem)
  exact ⟨(hascends.isCandidate_of_mem_links hmem).agrees, fun _ => hvalid⟩

/-- A path that is found without looking at signatures is found with any filter it passes. -/
theorem find_of_unfiltered {others : Verifiers} {certificates : List Certificate}
    {off on : Settings}
    (hsorted : (ClassifiedPool.classify others certificates).value = .ok classified)
    (hoff : off.filterWhenBuilding = false)
    (hfound : (find verifiers off target classified).value = .ok path)
    (hascends : path.Ascends verifiers on.filterWhenBuilding classified target) :
    (find verifiers on target classified).value = .ok path := by
  obtain ⟨ascent, rfl, hfirst⟩ := (find_eq_ok_iff hsorted).1 hfound
  rw [hoff] at hfirst
  have hclimbs := PathSearch.ascends_ofAscent_iff.1 hascends
  have hnodup := ClassifiedPool.nodup_members_of_classify hsorted
  exact (find_eq_ok_iff hsorted).2
    ⟨ascent, rfl, PathSearch.climb?_of_unfiltered hnodup hfirst hclimbs⟩

end CertificationPath

/-! ### Settings that differ in one place -/

namespace Settings

/-- The settings are the same but for what stands under one name. -/
def AgreesExcept (name : String) (settings others : Settings) : Prop :=
  ∀ other, other ≠ name → settings.record.get? other = others.record.get? other

variable {name : String} {settings others : Settings}

theorem AgreesExcept.flag_eq (hsame : AgreesExcept name settings others) {other : String}
    (hother : other ≠ name) (default : Bool) :
    settings.flag other default = others.flag other default := by
  unfold flag
  rw [hsame other hother]

theorem AgreesExcept.statedTime?_eq (hsame : AgreesExcept name settings others)
    (hother : timeOfInterestName ≠ name) : settings.statedTime? = others.statedTime? := by
  unfold statedTime?
  rw [hsame _ hother]

theorem AgreesExcept.initialPathLength_eq (hsame : AgreesExcept name settings others)
    (hother : initialPathLengthName ≠ name) :
    settings.initialPathLength = others.initialPathLength := by
  unfold initialPathLength
  rw [hsame _ hother]

end Settings

/-- Validation does not ask whether signatures were filtered. -/
theorem CertificationPath.firstViolation?_of_agreesExcept {off on : Settings} {time : UInt64}
    (hsame : Settings.AgreesExcept Settings.filterWhenBuildingName off on)
    (hstated : off.statedTime? = some time) (verifiers : Verifiers) (now later : UInt64)
    (path : CertificationPath) :
    path.firstViolation? verifiers later on = path.firstViolation? verifiers now off := by
  have hstates : on.statedTime? = some time := by
    rw [← hsame.statedTime?_eq (by decide), hstated]
  have hanchor : off.enforceTrustAnchorValidity = on.enforceTrustAnchorValidity :=
    hsame.flag_eq (by decide) true
  have hlimit : off.enforceTrustAnchorConstraints = on.enforceTrustAnchorConstraints :=
    hsame.flag_eq (by decide) false
  have hconstraints : off.enforceBasicConstraints = on.enforceBasicConstraints :=
    hsame.flag_eq (by decide) true
  unfold firstViolation? datingViolation? validityViolation? datedCertificates
    constraintViolation? initialBudget
  rw [Settings.timeOfInterest_of_stated hstated, Settings.timeOfInterest_of_stated hstates, hanchor,
    hlimit, hconstraints, hsame.initialPathLength_eq (by decide)]

theorem CertificationPath.firstViolation?_eq_none_iff {verifiers : Verifiers} {now : UInt64}
    {settings : Settings} {path : CertificationPath} :
    path.firstViolation? verifiers now settings = none ↔
      path.nameViolation? = none ∧ path.links.findSome? (badSignature? verifiers) = none ∧
        path.datingViolation? now settings = none ∧
        (settings.enforceBasicConstraints = true → path.constraintViolation? settings = none) := by
  unfold firstViolation?
  cases settings.enforceBasicConstraints <;> simp

theorem checkTarget_of_check {verifiers : Verifiers} {now : UInt64} {settings : Settings}
    {c : Certificate} {left : Nat}
    (hvalid : c.validity.check (settings.timeOfInterest now).toNat = .ok left)
    (hself : (verifiers.isSelfSigned c).value = .ok false) :
    (checkTarget verifiers now settings (some c)).value = .ok c := by
  rw [value_checkTarget]
  simp only [hvalid, hself]

/-- **The signature filter loses nothing.** What is verified without looking at signatures while
building is verified with the filter as well, and the chain is the same. -/
theorem Environment.verify_of_unfiltered {env : Environment} {off on : Settings}
    {time now : UInt64} (later : UInt64) {target : Option Certificate} {pool : List Certificate}
    (henv : env.validators = [.builtin])
    (hsame : Settings.AgreesExcept Settings.filterWhenBuildingName off on)
    (hoff : off.filterWhenBuilding = false) (hstated : off.statedTime? = some time)
    {chain : VerifiedChain} (h : (env.verify now off target pool).value = .ok chain) :
    (env.verify later on target pool).value = .ok chain := by
  obtain ⟨c, classified, path, rfl, hbuilt, hvalid, rfl⟩ := verify_eq_ok henv h
  have hstates : on.statedTime? = some time := by
    rw [← hsame.statedTime?_eq (by decide), hstated]
  obtain ⟨-, ⟨left, hcheck⟩, hself⟩ := checkTarget_eq_ok hbuilt.checked
  rw [Settings.timeOfInterest_of_stated hstated,
    ← Settings.timeOfInterest_of_stated hstates later] at hcheck
  obtain ⟨-, hsigned, -⟩ := CertificationPath.firstViolation?_eq_none_iff.1 hvalid
  have hfound := CertificationPath.find_of_unfiltered hbuilt.sorted hoff hbuilt.found
    (hbuilt.ascends.of_signed hsigned on.filterWhenBuilding)
  have hrebuilt : env.Builds later on c pool classified path :=
    ⟨checkTarget_of_check hcheck hself, hbuilt.sorted, hfound⟩
  rw [hrebuilt.value_verify henv,
    CertificationPath.firstViolation?_of_agreesExcept hsame hstated env.verifiers now later, hvalid]

namespace Sample

def unfiltered : Settings := dated.setFilterWhenBuilding false

/-- Has the name of the leaf's issuer and a key that cannot be read; its own issuer is unknown. -/
def astray : Certificate := certificate 10 1 6 (.rsa, 0) (.ecdsa, 6)

/-- Without the filter the search goes astray first and gives that up; with it, it does not go there
at all. -/
theorem verify_past_astray :
    environment.validators = [.builtin] ∧
    Settings.AgreesExcept Settings.filterWhenBuildingName unfiltered dated ∧
    unfiltered.filterWhenBuilding = false ∧ unfiltered.statedTime? = some now ∧
    (environment.verify now unfiltered (some leaf) [astray, upper, root]).value =
      .ok (.ofPath ⟨root, [upper], leaf⟩) ∧
    (environment.verify now dated (some leaf) [astray, upper, root]).value =
      .ok (.ofPath ⟨root, [upper], leaf⟩) := by
  have hsame : Settings.AgreesExcept Settings.filterWhenBuildingName unfiltered dated :=
    fun _ hother => Record.get?_insert_of_ne _ hother _
  have hsorted : (ClassifiedPool.classify [verifier] [astray, upper, root]).value =
      .ok ⟨[root], [astray, upper]⟩ := rfl
  have hbuilt : environment.Builds now unfiltered leaf [astray, upper, root]
      ⟨[root], [astray, upper]⟩ ⟨root, [upper], leaf⟩ := by
    refine ⟨rfl, hsorted, (CertificationPath.find_eq_ok_iff hsorted).2 ⟨⟨[upper], root⟩, rfl, ?_⟩⟩
    decide +kernel
  have hvalid : (CertificationPath.mk root [upper] leaf).firstViolation? environment.verifiers now
      unfiltered = none := rfl
  have hverified : (environment.verify now unfiltered (some leaf) [astray, upper, root]).value =
      .ok (.ofPath ⟨root, [upper], leaf⟩) := by
    rw [hbuilt.value_verify rfl, hvalid]
  exact ⟨rfl, hsame, rfl, rfl, hverified,
    Environment.verify_of_unfiltered now rfl hsame rfl rfl hverified⟩

end Sample

/-! ### Settings that ask for less -/

/-- One of two settings asks for no more than the other. The time is the same or there is none, and
paths may be as long and longer. -/
structure Settings.IsLaxerThan (lax strict : Settings) : Prop where
  time : lax.statedTime? = strict.statedTime? ∨ lax.statedTime? = some 0
  filter : lax.filterWhenBuilding = strict.filterWhenBuilding
  pathLength : strict.initialPathLength ≤ lax.initialPathLength
  anchorValidity : lax.enforceTrustAnchorValidity = true → strict.enforceTrustAnchorValidity = true
  constraints : lax.enforceBasicConstraints = true → strict.enforceBasicConstraints = true
  anchorConstraints :
    lax.enforceTrustAnchorConstraints = true → strict.enforceTrustAnchorConstraints = true

section Laxer

variable {lax strict : Settings} (hlaxer : lax.IsLaxerThan strict) {time now : UInt64}
  (later : UInt64) (hstated : strict.statedTime? = some time)

include hlaxer hstated in
/-- What is valid at a time is valid at no time at all. -/
theorem Validity.check_of_isLaxerThan {validity : Validity} {left : Nat}
    (h : validity.check (strict.timeOfInterest now).toNat = .ok left) :
    ∃ left, validity.check (lax.timeOfInterest later).toNat = .ok left := by
  rw [Settings.timeOfInterest_of_stated hstated] at h
  rcases hlaxer.time with htime | hnone
  · rw [Settings.timeOfInterest_of_stated (htime.trans hstated)]
    exact ⟨left, h⟩
  · rw [Settings.timeOfInterest_of_stated hnone]
    exact ⟨0, rfl⟩

namespace CertificationPath

variable {path : CertificationPath}

theorem datingViolation?_eq_none_iff {settings : Settings} :
    path.datingViolation? now settings = none ↔
      ∀ c ∈ path.datedCertificates settings,
        ∃ left, c.validity.check (settings.timeOfInterest now).toNat = .ok left := by
  unfold datingViolation?
  split
  · rename_i hzero
    rw [hzero]
    exact iff_of_true rfl fun c _ => ⟨0, rfl⟩
  · unfold validityViolation?
    rw [List.findSome?_eq_none_iff]
    constructor
    · intro h c hc
      obtain ⟨i, hi⟩ := List.mem_iff_getElem?.1 hc
      have hnone := h _ (List.mk_mem_zipIdx_iff_getElem?.2 hi)
      cases hcheck : c.validity.check (settings.timeOfInterest now).toNat with
      | ok left => exact ⟨left, rfl⟩
      | error status => simp [hcheck] at hnone
    · intro h x hx
      obtain ⟨left, hleft⟩ := h x.1 (List.fst_mem_of_mem_zipIdx hx)
      simp [hleft]

include hlaxer

theorem datedCertificates_subset_of_isLaxerThan :
    path.datedCertificates lax ⊆ path.datedCertificates strict := by
  intro c hc
  rw [mem_datedCertificates_iff] at hc ⊢
  exact hc.imp_right fun hc => hc.imp_right fun hc => ⟨hlaxer.anchorValidity hc.1, hc.2⟩

/-- A limit that still holds is one that held, or it is the initial one and not smaller. -/
theorem Limits.of_isLaxerThan {below : List Certificate} {limit : UInt8}
    (h : Limits lax path below limit) :
    ∃ stricter, Limits strict path below stricter ∧ stricter ≤ limit := by
  cases h with
  | initial => exact ⟨_, .initial, hlaxer.pathLength⟩
  | trustAnchor henforced hlimit =>
      exact ⟨limit, .trustAnchor (hlaxer.anchorConstraints henforced) hlimit, UInt8.le_refl limit⟩
  | intermediate hsplit hlimit => exact ⟨limit, .intermediate hsplit hlimit, UInt8.le_refl limit⟩

theorem constraintViolation?_of_isLaxerThan (h : path.constraintViolation? strict = none) :
    path.constraintViolation? lax = none := by
  obtain ⟨hentitled, hlimits⟩ := respects_of_constraintViolation?_eq_none h
  apply constraintViolation?_eq_none_of_respects hentitled
  intro below limit hlax
  obtain ⟨stricter, hstrict, hle⟩ := hlax.of_isLaxerThan hlaxer
  exact (hlimits below stricter hstrict).trans (UInt8.le_iff_toNat_le.1 hle)

include hstated

theorem firstViolation?_of_isLaxerThan {verifiers : Verifiers}
    (h : path.firstViolation? verifiers now strict = none) :
    path.firstViolation? verifiers later lax = none := by
  rw [firstViolation?_eq_none_iff] at h ⊢
  obtain ⟨hnames, hsigned, hdated, hconstraints⟩ := h
  refine ⟨hnames, hsigned, ?_, fun henforced => ?_⟩
  · rw [datingViolation?_eq_none_iff] at hdated ⊢
    intro c hc
    obtain ⟨left, hvalid⟩ := hdated c (datedCertificates_subset_of_isLaxerThan hlaxer hc)
    exact Validity.check_of_isLaxerThan hlaxer later hstated hvalid
  · exact constraintViolation?_of_isLaxerThan hlaxer (hconstraints (hlaxer.constraints henforced))

end CertificationPath

/-- **Asking for less breaks nothing.** What is verified under some settings is verified under laxer
ones, and the chain is the same. -/
theorem Environment.verify_of_isLaxerThan {env : Environment} {target : Option Certificate}
    {pool : List Certificate} (henv : env.validators = [.builtin])
    (hlaxer : lax.IsLaxerThan strict) (hstated : strict.statedTime? = some time)
    {chain : VerifiedChain} (h : (env.verify now strict target pool).value = .ok chain) :
    (env.verify later lax target pool).value = .ok chain := by
  obtain ⟨c, classified, path, rfl, hbuilt, hvalid, rfl⟩ := verify_eq_ok henv h
  obtain ⟨-, ⟨left, hcheck⟩, hself⟩ := checkTarget_eq_ok hbuilt.checked
  obtain ⟨left, hcheck⟩ := Validity.check_of_isLaxerThan hlaxer later hstated hcheck
  have hfound := hbuilt.found
  rw [CertificationPath.value_find, ← hlaxer.filter, ← CertificationPath.value_find] at hfound
  have hrebuilt : env.Builds later lax c pool classified path :=
    ⟨checkTarget_of_check hcheck hself, hbuilt.sorted, hfound⟩
  rw [hrebuilt.value_verify henv,
    CertificationPath.firstViolation?_of_isLaxerThan hlaxer later hstated hvalid]

end Laxer

namespace Sample

/-- As many intermediates as the way through the mesh has. -/
def strict : Settings := (dated.setInitialPathLength 3).setEnforceTrustAnchorConstraints true

/-- No time, and the trust anchor's validity not asked for. -/
def lax : Settings := (Settings.empty.setTimeOfInterest 0).setEnforceTrustAnchorValidity false

theorem verify_mesh_laxer :
    environment.validators = [.builtin] ∧ lax.IsLaxerThan strict ∧
    strict.statedTime? = some now ∧
    (environment.verify now strict (some leaf) mesh).value =
      .ok (.ofPath ⟨root, [lower, back, upper], leaf⟩) ∧
    (environment.verify now lax (some leaf) mesh).value =
      .ok (.ofPath ⟨root, [lower, back, upper], leaf⟩) := by
  have hlaxer : lax.IsLaxerThan strict :=
    ⟨.inr rfl, by decide, by decide, fun h => (nomatch h), fun _ => rfl, fun h => (nomatch h)⟩
  have hvalid : (CertificationPath.mk root [lower, back, upper] leaf).firstViolation?
      environment.verifiers now strict = none := rfl
  have hverified : (environment.verify now strict (some leaf) mesh).value =
      .ok (.ofPath ⟨root, [lower, back, upper], leaf⟩) := by
    rw [(@builds_mesh strict rfl rfl).value_verify rfl, hvalid]
  exact ⟨rfl, hlaxer, rfl, hverified,
    Environment.verify_of_isLaxerThan now rfl hlaxer rfl hverified⟩

end Sample

end TrustChain
