import TrustChain.Path.Building
import TrustChain.Proofs.Path.DeadEnds

/-!
# The path that is built

A path is built for a target exactly if the pool admits one, and what is built is the first of all
that it admits.
-/

namespace TrustChain

/-! ### Target and search -/

theorem Certificate.value_validAt (c : Certificate) (time : Nat) (quiet : Bool) :
    (c.validAt time quiet).value = c.validity.check time := by
  unfold validAt
  cases c.validity.check time with
  | ok left => rfl
  | error status => cases quiet <;> rfl

theorem value_checkTarget {verifiers : Verifiers} {now : UInt64} {settings : Settings}
    {target : Option Certificate} :
    (checkTarget verifiers now settings target).value =
      match target with
      | none => .error (.pathValidation .missingCertificate)
      | some target =>
        match target.validity.check (settings.timeOfInterest now).toNat with
        | .error status => .error (.pathValidation status)
        | .ok _ =>
          match (verifiers.isSelfSigned target).value with
          | .error e => .error e
          | .ok true => .error (.pathValidation .selfSignedTarget)
          | .ok false => .ok target := by
  cases target with
  | none => rfl
  | some target =>
      unfold checkTarget
      simp only [Journaled.value_bind, Certificate.value_validAt]
      cases target.validity.check (settings.timeOfInterest now).toNat with
      | error status => rfl
      | ok left =>
          simp only [Journaled.value_bind]
          cases (verifiers.isSelfSigned target).value with
          | error e => rfl
          | ok answer => cases answer <;> rfl

theorem checkTarget_eq_ok {verifiers : Verifiers} {now : UInt64} {settings : Settings}
    {target : Option Certificate} {c : Certificate}
    (h : (checkTarget verifiers now settings target).value = .ok c) :
    target = some c ∧
      (∃ left, c.validity.check (settings.timeOfInterest now).toNat = .ok left) ∧
      (verifiers.isSelfSigned c).value = .ok false := by
  rw [value_checkTarget] at h
  split at h
  · cases h
  · split at h
    · cases h
    · rename_i left hvalid
      split at h
      · cases h
      · cases h
      · rename_i hanswer
        cases h
        exact ⟨rfl, ⟨left, hvalid⟩, hanswer⟩

deriving instance DecidableEq for CertificationPath

namespace CertificationPath

def ofAscent (target : Certificate) (ascent : Ascent) : CertificationPath :=
  ⟨ascent.trustAnchor, ascent.intermediates, target⟩

/-- The certificates above the target. -/
def issuers (path : CertificationPath) : List Certificate :=
  path.intermediates ++ [path.trustAnchor]

theorem value_find (verifiers : Verifiers) (settings : Settings) (target : Certificate)
    (pool : ClassifiedPool) :
    (find verifiers settings target pool).value =
      match PathSearch.run verifiers settings.filterWhenBuilding pool target with
      | (some ascent, _) => .ok (ofAscent target ascent)
      | (none, search) =>
        match search.fault? with
        | some fault => .error fault
        | none => .error ⟨.pathValidation .noPathsFound, target, none⟩ := by
  unfold find
  rcases PathSearch.run verifiers settings.filterWhenBuilding pool target with ⟨found, search⟩
  cases found with
  | some ascent => rfl
  | none =>
      simp only [Journaled.value_bind]
      cases search.fault? <;> rfl

theorem value_build {verifiers : Verifiers} {now : UInt64} {settings : Settings}
    {target : Certificate} (pool : ClassifiedPool)
    (hchecked : (checkTarget verifiers now settings (some target)).value = .ok target) :
    (build verifiers now settings (some target) pool).value =
      (find verifiers settings target pool).value.mapError Fault.error := by
  unfold build
  rw [Journaled.value_bind, hchecked]
  rfl

/-! ### Paths as sequences -/

/-- A path leads from a target through the intermediates of a pool to one of its trust anchors,
each certificate a candidate for the issuer of the one before, and no encoding occurs twice. -/
structure Ascends (verifiers : Verifiers) (filter : Bool) (pool : ClassifiedPool)
    (target : Certificate) (path : CertificationPath) : Prop where
  target_eq : path.target = target
  intermediates_mem : ∀ c ∈ path.intermediates, c ∈ pool.intermediates
  trustAnchor_mem : path.trustAnchor ∈ pool.trustAnchors
  distinct : (path.certificates.map Certificate.encoding).Nodup
  linked : path.certificates.IsChain (verifiers.IsCandidate filter)

end CertificationPath

namespace PathSearch

variable {verifiers : Verifiers} {filter : Bool} {pool : ClassifiedPool}

/-- The ways up are the sequences of certificates with distinct encodings off the route, each a
candidate for the issuer of the one before. -/
theorem climbs_iff {route : List Octets} {current : Certificate} {ascent : Ascent} :
    Climbs verifiers filter pool route current ascent ↔
      (∀ c ∈ ascent.intermediates, c ∈ pool.intermediates) ∧
      ascent.trustAnchor ∈ pool.trustAnchors ∧
      (∀ c ∈ ascent.certificates, c.encoding ∉ route) ∧
      (ascent.certificates.map Certificate.encoding).Nodup ∧
      (current :: ascent.certificates).IsChain (verifiers.IsCandidate filter) := by
  constructor
  · intro h
    induction h with
    | stop hmem hnew hcandidate => simp [Ascent.certificates, hmem, hnew, hcandidate]
    | @through route current c ascent hmem hnew hcandidate _ ih =>
        obtain ⟨hintermediates, hanchor, hroute, hdistinct, hlinked⟩ := ih
        refine ⟨?_, hanchor, ?_, ?_, ?_⟩
        · exact List.forall_mem_cons.2 ⟨hmem, hintermediates⟩
        · rw [Ascent.certificates_through]
          exact List.forall_mem_cons.2
            ⟨hnew, fun d hd hpassed => hroute d hd (List.mem_cons_of_mem _ hpassed)⟩
        · rw [Ascent.certificates_through, List.map_cons, List.nodup_cons]
          refine ⟨fun hmem => ?_, hdistinct⟩
          obtain ⟨d, hd, heq⟩ := List.mem_map.1 hmem
          exact hroute d hd (heq ▸ List.mem_cons_self)
        · exact .cons_cons hcandidate hlinked
  · rintro ⟨hintermediates, hanchor, hroute, hdistinct, hlinked⟩
    obtain ⟨intermediates, anchor⟩ := ascent
    induction intermediates generalizing route current with
    | nil =>
        have hcandidate := List.isChain_pair.1 hlinked
        exact .stop hanchor (hroute anchor (by simp [Ascent.certificates])) hcandidate
    | cons c rest ih =>
        obtain ⟨hmem, hrest⟩ := List.forall_mem_cons.1 hintermediates
        obtain ⟨hnew, hoff⟩ := List.forall_mem_cons.1 hroute
        obtain ⟨hfirst, hdistinct⟩ := List.nodup_cons.1 hdistinct
        obtain ⟨hcandidate, hlinked⟩ := List.isChain_cons_cons.1 hlinked
        refine .through hmem hnew hcandidate (ih hrest hanchor ?_ hdistinct hlinked)
        intro d hd hpassed
        rcases List.mem_cons.1 hpassed with heq | hpassed
        · exact hfirst (heq ▸ List.mem_map_of_mem hd)
        · exact hoff d hd hpassed

/-- Ways up that keep off the target are the paths from it. -/
theorem ascends_ofAscent_iff {target : Certificate} {ascent : Ascent} :
    (CertificationPath.ofAscent target ascent).Ascends verifiers filter pool target ↔
      Climbs verifiers filter pool [target.encoding] target ascent := by
  rw [climbs_iff]
  constructor
  · rintro ⟨-, hintermediates, hanchor, hdistinct, hlinked⟩
    obtain ⟨hfirst, hdistinct⟩ := List.nodup_cons.1 hdistinct
    refine ⟨hintermediates, hanchor, fun c hc hpassed => hfirst ?_, hdistinct, hlinked⟩
    exact List.mem_singleton.1 hpassed ▸ List.mem_map_of_mem hc
  · rintro ⟨hintermediates, hanchor, hroute, hdistinct, hlinked⟩
    refine ⟨rfl, hintermediates, hanchor, List.nodup_cons.2 ⟨fun hmem => ?_, hdistinct⟩, hlinked⟩
    obtain ⟨c, hc, heq⟩ := List.mem_map.1 hmem
    exact hroute c hc (List.mem_singleton.2 heq)

end PathSearch

namespace CertificationPath

theorem exists_ofAscent {verifiers : Verifiers} {filter : Bool} {pool : ClassifiedPool}
    {target : Certificate} {path : CertificationPath}
    (h : path.Ascends verifiers filter pool target) :
    ∃ ascent, path = ofAscent target ascent ∧
      PathSearch.Climbs verifiers filter pool [target.encoding] target ascent := by
  obtain ⟨anchor, intermediates, first⟩ := path
  obtain rfl : first = target := h.target_eq
  exact ⟨⟨intermediates, anchor⟩, rfl, PathSearch.ascends_ofAscent_iff.1 h⟩

section Classified

variable {others verifiers : Verifiers} {certificates : List Certificate} {pool : ClassifiedPool}
  {settings : Settings} {target : Certificate}

theorem find_eq_ok_iff
    (hclassified : (ClassifiedPool.classify others certificates).value = .ok pool)
    {path : CertificationPath} :
    (find verifiers settings target pool).value = .ok path ↔
      ∃ ascent, path = ofAscent target ascent ∧
        PathSearch.climb? verifiers settings.filterWhenBuilding pool [target.encoding] target =
          some ascent := by
  have hnodup := ClassifiedPool.nodup_members_of_classify hclassified
  rw [value_find, ← PathSearch.run_fst_eq_climb? hnodup]
  rcases PathSearch.run verifiers settings.filterWhenBuilding pool target with ⟨found, search⟩
  cases found with
  | some ascent => simp [eq_comm]
  | none =>
      dsimp only
      cases search.fault? <;> simp

theorem ascends_of_find
    (hclassified : (ClassifiedPool.classify others certificates).value = .ok pool)
    {path : CertificationPath} (h : (find verifiers settings target pool).value = .ok path) :
    path.Ascends verifiers settings.filterWhenBuilding pool target := by
  obtain ⟨ascent, rfl, hfound⟩ := (find_eq_ok_iff hclassified).1 h
  exact PathSearch.ascends_ofAscent_iff.2 (PathSearch.climbs_of_climb? hfound)

theorem not_ascends_of_find
    (hclassified : (ClassifiedPool.classify others certificates).value = .ok pool)
    {fault : Fault} (h : (find verifiers settings target pool).value = .error fault)
    (path : CertificationPath) :
    ¬ path.Ascends verifiers settings.filterWhenBuilding pool target := by
  intro hascends
  obtain ⟨ascent, -, hclimbs⟩ := exists_ofAscent hascends
  obtain ⟨first, hfirst, -⟩ := PathSearch.exists_climb?_of_climbs
    (ClassifiedPool.nodup_members_of_classify hclassified) hclimbs
  have hfound := (find_eq_ok_iff hclassified).2 ⟨first, rfl, hfirst⟩
  rw [h] at hfound
  cases hfound

/-- **The search with dead ends is exhaustive.** For a checked target and a classified pool, a path
is built exactly if there is one; it is the path that the plain search finds; and it comes before
every other path in the order in which certificates are tried. -/
theorem build_finds_first_path {now : UInt64}
    (hclassified : (ClassifiedPool.classify others certificates).value = .ok pool)
    (hchecked : (checkTarget verifiers now settings (some target)).value = .ok target) :
    ((∃ path, (build verifiers now settings (some target) pool).value = .ok path) ↔
      ∃ path : CertificationPath,
        path.Ascends verifiers settings.filterWhenBuilding pool target) ∧
    (∀ path, (build verifiers now settings (some target) pool).value = .ok path →
      path.Ascends verifiers settings.filterWhenBuilding pool target ∧
      ∀ other : CertificationPath,
        other.Ascends verifiers settings.filterWhenBuilding pool target → other ≠ path →
        List.Lex pool.Prefers path.issuers other.issuers) ∧
    (build verifiers now settings (some target) pool).value.toOption =
      (PathSearch.climb? verifiers settings.filterWhenBuilding pool [target.encoding] target).map
        (ofAscent target) := by
  have hok : ∀ path, (build verifiers now settings (some target) pool).value = .ok path ↔
      (find verifiers settings target pool).value = .ok path := by
    intro path
    rw [value_build pool hchecked]
    cases (find verifiers settings target pool).value <;> simp [Except.mapError]
  refine ⟨⟨?_, ?_⟩, ?_, ?_⟩
  · rintro ⟨path, hbuilt⟩
    exact ⟨path, ascends_of_find hclassified ((hok path).1 hbuilt)⟩
  · rintro ⟨path, hascends⟩
    cases hfind : (find verifiers settings target pool).value with
    | ok found => exact ⟨found, (hok found).2 hfind⟩
    | error fault => exact absurd hascends (not_ascends_of_find hclassified hfind path)
  · intro path hbuilt
    refine ⟨ascends_of_find hclassified ((hok path).1 hbuilt), fun other hother hne => ?_⟩
    obtain ⟨ascent, rfl, hfound⟩ := (find_eq_ok_iff hclassified).1 ((hok path).1 hbuilt)
    obtain ⟨way, rfl, hclimbs⟩ := exists_ofAscent hother
    obtain ⟨first, hfirst, hcompare⟩ := PathSearch.exists_climb?_of_climbs
      (ClassifiedPool.nodup_members_of_classify hclassified) hclimbs
    obtain rfl : first = ascent := Option.some.inj (hfirst.symm.trans hfound)
    rcases hcompare with rfl | hlex
    · exact absurd rfl hne
    · exact hlex
  · cases hclimb : PathSearch.climb? verifiers settings.filterWhenBuilding pool
        [target.encoding] target with
    | some ascent =>
        have hbuilt := (hok _).2 ((find_eq_ok_iff hclassified).2 ⟨ascent, rfl, hclimb⟩)
        rw [hbuilt]
        rfl
    | none =>
        cases hbuilt : (build verifiers now settings (some target) pool).value with
        | error e => rfl
        | ok path =>
            obtain ⟨ascent, -, hfound⟩ := (find_eq_ok_iff hclassified).1 ((hok path).1 hbuilt)
            rw [hclimb] at hfound
            cases hfound

end Classified

end CertificationPath

/-! ### A mesh of cross-certificates

Certificates for which a signature is good exactly if it consists of the octets of the key. A key
that is a single zero octet cannot be read.
-/

namespace Sample

def keyOid : Crypto.KeyFamily → Oid
  | .rsa => Oid.rsaEncryption
  | .ecdsa => Oid.ecPublicKey

def signatureOid : Crypto.KeyFamily → Oid
  | .rsa => Oid.sha256WithRsa
  | .ecdsa => Oid.ecdsaWithSha256

def verifier : SignatureVerifier where
  name := none
  evaluate query := pure <|
    match Crypto.SignatureScheme.ofOid? query.algorithm.algorithm with
    | none => .error .unrecognized
    | some scheme =>
      if query.key.algorithm.algorithm ≠ keyOid scheme.family then .ok .invalid
      else if query.key.key.octets = [0x00] then .error .parse
      else .ok (.ofBool (query.key.key.octets = query.signature))

def newYear (year : Nat)
    (h : DateTime.isValid year 1 1 0 0 0 = true) : Time :=
  ⟨⟨year, 1, 1, 0, 0, 0, h⟩, false, fun hshort => nomatch hshort⟩

def commonName : Attribute := ⟨⟨[0x55, 0x04, 0x03], by decide⟩, ⟨.utf8String, [0x41]⟩⟩

/-- A name of the given length. Names of different lengths do not match. -/
def name (length : Nat) : Name :=
  ⟨List.replicate length ⟨[commonName], List.pairwise_singleton _ _⟩⟩

/-- A certificate that is good in the years from 2020 to 2029 and may issue others. -/
def certificate (id : UInt8) (subject issuer : Nat) (key signature : Crypto.KeyFamily × UInt8) :
    Certificate where
  encoding := [0x30, 0x03, 0x30, 0x01, id]
  signed :=
    { body :=
        { version := .v3
          serial := ⟨[0x01], by decide⟩
          signature := ⟨signatureOid signature.1, none⟩
          issuer := name issuer
          validity := ⟨newYear 2020 (by decide), newYear 2030 (by decide)⟩
          subject := name subject
          publicKey := ⟨⟨keyOid key.1, none⟩, ⟨0, [key.2], by simp⟩⟩
          issuerId := none
          subjectId := none
          extensions := none }
      algorithm := ⟨signatureOid signature.1, none⟩
      signature := ⟨0, [signature.2], by simp⟩ }
  parsed := [(Oid.basicConstraints, .basicConstraints ⟨true, none⟩)]

/-- A time in the year 2025. -/
def now : UInt64 := 1764000000

def leaf : Certificate := certificate 1 4 1 (.rsa, 9) (.rsa, 1)

def lower : Certificate := certificate 2 1 2 (.rsa, 1) (.rsa, 2)

/-- Certifies the second name by the first, as `lower` does the other way round. -/
def back : Certificate := certificate 3 2 1 (.rsa, 2) (.rsa, 1)

def upper : Certificate := certificate 4 1 3 (.rsa, 1) (.rsa, 3)

def root : Certificate := certificate 5 3 3 (.rsa, 3) (.rsa, 3)

def mesh : List Certificate := [lower, back, upper, root]

def sortedMesh : ClassifiedPool := ⟨[root], [lower, back, upper]⟩

theorem classify_mesh : (ClassifiedPool.classify [verifier] mesh).value = .ok sortedMesh := rfl

/-- The search goes through the mesh in the order of the pool, the long way. -/
theorem climb?_mesh : PathSearch.climb? [verifier] true sortedMesh [leaf.encoding] leaf =
    some ⟨[lower, back, upper], root⟩ := by
  decide +kernel

theorem build_passes_mesh :
    (ClassifiedPool.classify [verifier] mesh).value = .ok sortedMesh ∧
    (checkTarget [verifier] now .empty (some leaf)).value = .ok leaf ∧
    (CertificationPath.build [verifier] now .empty (some leaf) sortedMesh).value.toOption =
      some ⟨root, [lower, back, upper], leaf⟩ := by
  have hchecked : (checkTarget [verifier] now .empty (some leaf)).value = .ok leaf := rfl
  have hfilter : Settings.empty.filterWhenBuilding = true := rfl
  obtain ⟨-, -, hplain⟩ := CertificationPath.build_finds_first_path classify_mesh hchecked
  refine ⟨classify_mesh, hchecked, ?_⟩
  rw [hplain, hfilter, climb?_mesh]
  rfl

end Sample

end TrustChain
