import TrustChain.Proofs.Path.Building
import Mathlib.Logic.Relation

/-!
# Signatures that cannot be evaluated

A signature that cannot be evaluated may be the link that is missing. The search does not evaluate
every signature: certificates on the route and dead ends are passed over. What it passes over it has
explored, though, so when it has found nothing the explored certificates are closed under the links
it could follow, and each link out of them has been examined (`Settled`). A signature that could not
be evaluated and would have led anywhere new is therefore on record.
-/

namespace TrustChain

/-! ### Links and what is reached over them -/

namespace Verifiers

/-- The key of `parent`, which has the right name, verifies the signature of `child`. -/
def IsSigned (verifiers : Verifiers) (child parent : Certificate) : Prop :=
  parent.subject.agrees child.issuer = true ∧
    (verifiers.certificateSignature child parent).value = .ok .valid

/-- The signature of `child` is not known to be bad: it verifies, or it cannot be evaluated. -/
def MaySign (verifiers : Verifiers) (child parent : Certificate) : Prop :=
  parent.subject.agrees child.issuer = true ∧
    (verifiers.certificateSignature child parent).value ≠ .ok .invalid

/-- The key of `parent`, which has the right name, cannot be used for the signature of `child`. -/
def FailsWith (verifiers : Verifiers) (child parent : Certificate) (e : Error) : Prop :=
  parent.subject.agrees child.issuer = true ∧
    (verifiers.certificateSignature child parent).value = .error e

variable {verifiers : Verifiers} {child parent : Certificate}

theorem isCandidate_true_iff :
    verifiers.IsCandidate true child parent ↔ verifiers.IsSigned child parent :=
  ⟨fun h => ⟨h.agrees, h.signed rfl⟩, fun h => ⟨h.1, fun _ => h.2⟩⟩

end Verifiers

namespace ClassifiedPool

/-- What is reached from a certificate over links that lead to intermediates. -/
def Reaches (pool : ClassifiedPool) (link : Certificate → Certificate → Prop) :
    Certificate → Certificate → Prop :=
  Relation.ReflTransGen fun child parent => parent ∈ pool.intermediates ∧ link child parent

/-- A trust anchor is reached from a certificate. -/
def ReachesAnchor (pool : ClassifiedPool) (link : Certificate → Certificate → Prop)
    (c : Certificate) : Prop :=
  ∃ below, pool.Reaches link c below ∧ ∃ anchor ∈ pool.trustAnchors, link below anchor

/-- Nothing outside a set is reached when no link leads out of it. -/
theorem mem_of_reaches {pool : ClassifiedPool} {link : Certificate → Certificate → Prop}
    {inside : List Certificate} {c d : Certificate} (hc : c ∈ inside)
    (hclosed : ∀ child ∈ inside, ∀ parent ∈ pool.intermediates, link child parent →
      parent ∈ inside)
    (h : pool.Reaches link c d) : d ∈ inside := by
  induction h with
  | refl => exact hc
  | tail _ hlink ih => exact hclosed _ ih _ hlink.1 hlink.2

end ClassifiedPool

namespace PathSearch

variable {verifiers : Verifiers} {filter : Bool} {pool : ClassifiedPool}

/-! ### What is on record -/

theorem mem_examinations_look {child parent : Certificate} {search : PathSearch} {x : Examination}
    (h : x ∈ (search.look verifiers filter child parent).examinations) :
    x ∈ search.examinations ∨ filter = true ∧ parent.subject.agrees child.issuer = true ∧
      x = ⟨child, parent, verifiers.certificateSignature child parent⟩ := by
  rw [look_eq] at h
  split at h
  · rename_i hlook
    rcases List.mem_cons.1 h with rfl | h
    · exact .inr ⟨hlook.1, hlook.2, rfl⟩
    · exact .inl h
  · exact .inl h

theorem examinations_subset_look (child parent : Certificate) (search : PathSearch) :
    search.examinations ⊆ (search.look verifiers filter child parent).examinations := by
  rw [look_eq]
  split
  · exact List.subset_cons_self _ _
  · exact List.Subset.refl _

/-- The record is true: what was explored is reached from the target, and what was examined, where
signatures are filtered, is the signature of an explored certificate. -/
structure IsTraced (verifiers : Verifiers) (filter : Bool) (pool : ClassifiedPool)
    (target : Certificate) (search : PathSearch) : Prop where
  reached : ∀ c ∈ search.explored, pool.Reaches (verifiers.IsCandidate filter) target c
  examined : ∀ x ∈ search.examinations, filter = true ∧ x.child ∈ search.explored ∧
    x.parent ∈ pool.members ∧ x.parent.subject.agrees x.child.issuer = true ∧
    x.outcome = verifiers.certificateSignature x.child x.parent

theorem isTraced_run (target : Certificate) :
    (run verifiers filter pool target).2.IsTraced verifiers filter pool target := by
  have hscans := scans_run verifiers filter pool target
  refine hscans.preserves (P := (·.IsTraced verifiers filter pool target)) ?_ ?_ ?_
    (List.Subset.refl _) (List.Subset.refl _) List.mem_cons_self ?_
  · intro search child parent hchild hparent htraced
    refine ⟨by simpa using htraced.reached, fun x hx => ?_⟩
    rw [explored_look]
    rcases mem_examinations_look hx with hx | ⟨hfilter, hagrees, rfl⟩
    · exact htraced.examined x hx
    · exact ⟨hfilter, hchild, hparent, hagrees, rfl⟩
  · intro search child c hchild hmem hcandidate htraced
    refine ⟨fun d hd => ?_, fun x hx => ?_⟩
    · rcases List.mem_cons.1 hd with rfl | hd
      · exact (htraced.reached child hchild).tail ⟨hmem, hcandidate⟩
      · exact htraced.reached d hd
    · obtain ⟨hfilter, hexplored, hrest⟩ := htraced.examined x hx
      exact ⟨hfilter, List.mem_cons_of_mem c hexplored, hrest⟩
  · exact fun _ htraced => ⟨htraced.reached, htraced.examined⟩
  · refine ⟨fun c hc => ?_, fun x hx => absurd hx List.not_mem_nil⟩
    obtain rfl : c = target := List.mem_singleton.1 hc
    exact .refl

/-- A link from `child` to `parent` needs no more attention: `parent` has been explored, or the
signature has been examined and is not valid. -/
def Settled (verifiers : Verifiers) (search : PathSearch) (child parent : Certificate) : Prop :=
  parent.encoding ∈ search.explored.map Certificate.encoding ∨
    ⟨child, parent, verifiers.certificateSignature child parent⟩ ∈ search.examinations ∧
      (verifiers.certificateSignature child parent).value ≠ .ok .valid

theorem Settled.mono {search after : PathSearch} {child parent : Certificate}
    (h : Settled verifiers search child parent) (hexplored : search.explored ⊆ after.explored)
    (hexaminations : search.examinations ⊆ after.examinations) :
    Settled verifiers after child parent :=
  h.imp (fun h => List.map_subset _ hexplored h) fun h => ⟨hexaminations h.1, h.2⟩

theorem Scans.examinations_subset {route : List Octets} {current : Certificate}
    {anchors intermediates : List Certificate} {search after : PathSearch} {found : Option Ascent}
    (h : Scans verifiers filter pool route current anchors intermediates search found after) :
    search.examinations ⊆ after.examinations := by
  induction h with
  | anchorOnRoute _ _ ih => exact ih
  | anchorRefused _ _ _ ih => exact List.Subset.trans (examinations_subset_look _ _ _) ih
  | anchorReached => exact examinations_subset_look _ _ _
  | passedOver _ _ ih => exact ih
  | refused _ _ _ _ ih => exact List.Subset.trans (examinations_subset_look _ _ _) ih
  | inVain _ _ _ _ _ ihdown ih =>
      exact List.Subset.trans (List.Subset.trans (examinations_subset_look _ _ _) ihdown) ih
  | reached _ _ _ _ ihdown => exact List.Subset.trans (examinations_subset_look _ _ _) ihdown
  | exhausted => exact List.Subset.refl _

/-- A candidate that is refused for its signature is settled by the examination. -/
theorem settled_look {child parent : Certificate} {search : PathSearch}
    (hcandidate : ¬ verifiers.IsCandidate true child parent)
    (hagrees : parent.subject.agrees child.issuer = true) :
    Settled verifiers (search.look verifiers true child parent) child parent := by
  rw [look_eq, if_pos ⟨rfl, hagrees⟩]
  exact .inr ⟨List.mem_cons_self, fun h => hcandidate ⟨hagrees, fun _ => h⟩⟩

/-- A run that finds nothing settles every link from the certificates it explores. -/
theorem Scans.settled {route : List Octets} {current : Certificate}
    {anchors intermediates : List Certificate} {search after : PathSearch} {found : Option Ascent}
    (h : Scans verifiers true pool route current anchors intermediates search found after)
    (hnone : found = none) (hcurrent : current.encoding ∈ route)
    (hroute : route ⊆ search.explored.map Certificate.encoding)
    (hdead : search.deadEnds ⊆ search.explored.map Certificate.encoding) :
    after.deadEnds ⊆ after.explored.map Certificate.encoding ∧
    (∀ parent ∈ anchors ++ intermediates, parent.subject.agrees current.issuer = true →
      Settled verifiers after current parent) ∧
    (∀ c ∈ after.explored, c ∉ search.explored → ∀ parent ∈ pool.members,
      parent.subject.agrees c.issuer = true → Settled verifiers after c parent) := by
  induction h with
  | @anchorOnRoute _ _ anchor _ _ _ _ _ hanchor hrest ih =>
      obtain ⟨hends, htried, hnew⟩ := ih hnone hcurrent hroute hdead
      refine ⟨hends, List.forall_mem_cons.2 ⟨fun _ => .inl ?_, htried⟩, hnew⟩
      exact List.map_subset _ hrest.explored_subset (hroute hanchor)
  | anchorRefused _ hcandidate hrest ih =>
      obtain ⟨hends, htried, hnew⟩ := ih hnone hcurrent (by simpa using hroute)
        (by simpa using hdead)
      refine ⟨hends, List.forall_mem_cons.2 ⟨fun hagrees => ?_, htried⟩, by simpa using hnew⟩
      exact (settled_look hcandidate hagrees).mono hrest.explored_subset hrest.examinations_subset
  | anchorReached => cases hnone
  | passedOver hpass hrest ih =>
      obtain ⟨hends, htried, hnew⟩ := ih hnone hcurrent hroute hdead
      refine ⟨hends, List.forall_mem_cons.2 ⟨fun _ => .inl ?_, htried⟩, hnew⟩
      exact List.map_subset _ hrest.explored_subset (hpass.elim (hdead ·) (hroute ·))
  | refused _ _ hcandidate hrest ih =>
      obtain ⟨hends, htried, hnew⟩ := ih hnone hcurrent (by simpa using hroute)
        (by simpa using hdead)
      refine ⟨hends, List.forall_mem_cons.2 ⟨fun hagrees => ?_, htried⟩, by simpa using hnew⟩
      exact (settled_look hcandidate hagrees).mono hrest.explored_subset hrest.examinations_subset
  | @inVain route current c _ search between _ after _ _ _ hdown hrest ihdown ih =>
      have hgrow : search.explored ⊆ between.explored := fun d hd =>
        hdown.explored_subset (List.mem_cons_of_mem c (by simpa using hd))
      have hc : c ∈ between.explored := hdown.explored_subset List.mem_cons_self
      obtain ⟨hbetween, hcTried, hbelow⟩ := ihdown rfl List.mem_cons_self
        (List.cons_subset.2 ⟨List.mem_map_of_mem List.mem_cons_self,
          fun e he => List.mem_cons_of_mem _ (by simpa using hroute he)⟩)
        (fun e he => List.mem_cons_of_mem _ (by simpa using hdead (by simpa [enter] using he)))
      obtain ⟨hends, htried, hnew⟩ := ih hnone hcurrent
        (List.Subset.trans hroute (List.map_subset _ hgrow)) hbetween
      refine ⟨hends, List.forall_mem_cons.2 ⟨fun _ => .inl ?_, htried⟩, ?_⟩
      · exact List.map_subset _ hrest.explored_subset (List.mem_map_of_mem hc)
      · -- what is new was explored below `c` or after it; `c` itself is new as well
        intro d hd hunseen parent hparent hagrees
        by_cases hearlier : d ∈ between.explored
        · have hsettled : Settled verifiers between d parent := by
            by_cases heq : d = c
            · exact heq ▸ hcTried parent hparent (heq ▸ hagrees)
            · exact hbelow d hearlier (by simp [enter, heq, hunseen]) parent hparent hagrees
          exact hsettled.mono hrest.explored_subset hrest.examinations_subset
        · exact hnew d hd hearlier parent hparent hagrees
  | reached => cases hnone
  | exhausted =>
      refine ⟨List.cons_subset.2 ⟨hroute hcurrent, hdead⟩, fun _ hmem => ?_, fun _ hmem hnew => ?_⟩
      · exact absurd hmem List.not_mem_nil
      · exact absurd hmem hnew

theorem settled_run {target : Certificate} (hnone : (run verifiers true pool target).1 = none)
    {c parent : Certificate} (hc : c ∈ (run verifiers true pool target).2.explored)
    (hparent : parent ∈ pool.members) (hagrees : parent.subject.agrees c.issuer = true) :
    Settled verifiers (run verifiers true pool target).2 c parent := by
  have hscans := scans_run verifiers true pool target
  obtain ⟨-, htried, hnew⟩ := hscans.settled hnone List.mem_cons_self (List.Subset.refl _)
    (List.nil_subset _)
  by_cases heq : c = target
  · exact heq ▸ htried parent hparent (heq ▸ hagrees)
  · exact hnew c hc (by simpa [enter, fresh] using heq) parent hparent hagrees

/-! ### The fault that is reported -/

theorem examination_of_fault? {search : PathSearch} {fault : Fault}
    (h : search.fault? = some fault) :
    ∃ x ∈ search.examinations, fault = ⟨fault.error, x.child, some x.parent⟩ ∧
      x.outcome.value = .error fault.error := by
  obtain ⟨x, hx, hfault⟩ := List.exists_of_findSome?_eq_some h
  refine ⟨x, List.mem_reverse.1 hx, ?_⟩
  unfold Examination.fault? at hfault
  split at hfault
  · cases hfault
  · rename_i e heq
    obtain rfl := Option.some.inj hfault
    exact ⟨rfl, heq⟩

theorem evaluated_of_fault?_eq_none {search : PathSearch} (h : search.fault? = none)
    {x : Examination} (hx : x ∈ search.examinations) (e : Error) : x.outcome.value ≠ .error e := by
  intro heq
  have hnone := List.findSome?_eq_none_iff.1 h x (List.mem_reverse.2 hx)
  unfold Examination.fault? at hnone
  rw [heq] at hnone
  cases hnone

end PathSearch

/-! ### What a failed search says -/

/-- Certificates with equal encodings are equal, as they are when they have been read from them. -/
def IdentifiedByEncoding (certificates : List Certificate) : Prop :=
  ∀ c ∈ certificates, ∀ d ∈ certificates, c.encoding = d.encoding → c = d

theorem reaches_of_explored {verifiers : Verifiers} {pool : ClassifiedPool}
    {target c : Certificate}
    (hc : c ∈ (PathSearch.run verifiers true pool target).2.explored) :
    pool.Reaches verifiers.IsSigned target c :=
  ((PathSearch.isTraced_run target).reached c hc).lift id
    fun _ _ hlink => ⟨hlink.1, Verifiers.isCandidate_true_iff.1 hlink.2⟩

/-- An error is that of evaluating a signature on a certificate that is reached from the target. -/
def Verifiers.FailsAbove (verifiers : Verifiers) (pool : ClassifiedPool) (target : Certificate)
    (e : Error) : Prop :=
  ∃ child parent, pool.Reaches verifiers.IsSigned target child ∧ parent ∈ pool.members ∧
    verifiers.FailsWith child parent e

/-- The fault that a search reports concerns a certificate that is reached from the target and one
of the pool that has the name of its issuer. -/
theorem failsWith_of_fault? {verifiers : Verifiers} {filter : Bool} {pool : ClassifiedPool}
    {target : Certificate} {fault : Fault}
    (h : (PathSearch.run verifiers filter pool target).2.fault? = some fault) :
    filter = true ∧ ∃ parent, fault.issuer = some parent ∧ parent ∈ pool.members ∧
      fault.certificate ∈ (PathSearch.run verifiers filter pool target).2.explored ∧
      verifiers.FailsWith fault.certificate parent fault.error := by
  obtain ⟨x, hx, hfault, houtcome⟩ := PathSearch.examination_of_fault? h
  obtain ⟨hfilter, hchild, hparent, hagrees, hsignature⟩ :=
    (PathSearch.isTraced_run target).examined x hx
  rw [hfault]
  exact ⟨hfilter, x.parent, rfl, hparent, hchild, hagrees, hsignature ▸ houtcome⟩

section Failed

variable {verifiers : Verifiers} {certificates : List Certificate} {pool : ClassifiedPool}
  {target : Certificate}
  (hclassified : (ClassifiedPool.classify verifiers certificates).value = .ok pool)
  (hself : (verifiers.isSelfSigned target).value = .ok false)
  (hidentified : IdentifiedByEncoding (target :: certificates))
include hclassified hself hidentified

theorem explored_of_encoding_mem {p : Certificate} (hp : p ∈ pool.members)
    (hmem : p.encoding ∈
      (PathSearch.run verifiers true pool target).2.explored.map Certificate.encoding) :
    p ∈ (PathSearch.run verifiers true pool target).2.explored ∧ p ∉ pool.trustAnchors := by
  obtain ⟨c, hc, heq⟩ := List.mem_map.1 hmem
  have hreached := (PathSearch.isTraced_run target).reached c hc
  have horigin : c = target ∨ c ∈ pool.intermediates := by
    rcases Relation.ReflTransGen.cases_tail hreached with heq | ⟨_, -, hlink⟩
    · exact .inl heq
    · exact .inr hlink.1
  have hanswer : c ∈ target :: certificates ∧ (verifiers.isSelfSigned c).value = .ok false := by
    rcases horigin with rfl | hc
    · exact ⟨List.mem_cons_self, hself⟩
    · obtain ⟨hmem, hfalse⟩ := ClassifiedPool.intermediate_of_classify hclassified hc
      exact ⟨List.mem_cons_of_mem _ hmem, hfalse⟩
  have hpool : p ∈ certificates := by
    rcases List.mem_append.1 hp with hp | hp
    · exact (ClassifiedPool.trustAnchor_of_classify hclassified hp).1
    · exact (ClassifiedPool.intermediate_of_classify hclassified hp).1
  obtain rfl := hidentified c hanswer.1 p (List.mem_cons_of_mem _ hpool) heq
  refine ⟨hc, fun hanchor => ?_⟩
  have htrue := (ClassifiedPool.trustAnchor_of_classify hclassified hanchor).2
  rw [hanswer.2] at htrue
  cases htrue

/-- When every link from an explored certificate leads to an encoding that was explored, the links
reach no other certificate, and no trust anchor. -/
theorem closed_of_explored {link : Certificate → Certificate → Prop}
    (hlink : ∀ c ∈ (PathSearch.run verifiers true pool target).2.explored, ∀ p ∈ pool.members,
      link c p → p.encoding ∈
        (PathSearch.run verifiers true pool target).2.explored.map Certificate.encoding) :
    (∀ c, pool.Reaches link target c →
      c ∈ (PathSearch.run verifiers true pool target).2.explored) ∧
    ¬ pool.ReachesAnchor link target := by
  have htarget : target ∈ (PathSearch.run verifiers true pool target).2.explored :=
    (PathSearch.scans_run verifiers true pool target).explored_subset List.mem_cons_self
  have hreached : ∀ c, pool.Reaches link target c →
      c ∈ (PathSearch.run verifiers true pool target).2.explored := by
    intro c hc
    refine ClassifiedPool.mem_of_reaches htarget (fun d hd p hp hdp => ?_) hc
    have hmem := List.mem_append_right pool.trustAnchors hp
    exact (explored_of_encoding_mem hclassified hself hidentified hmem (hlink d hd p hmem hdp)).1
  refine ⟨hreached, ?_⟩
  rintro ⟨c, hc, anchor, hanchor, hstep⟩
  have hmem := List.mem_append_left pool.intermediates hanchor
  exact (explored_of_encoding_mem hclassified hself hidentified hmem
    (hlink c (hreached c hc) anchor hmem hstep)).2 hanchor

variable (hnone : (PathSearch.run verifiers true pool target).1 = none)
include hnone

theorem closed_of_isSigned :
    (∀ c, pool.Reaches verifiers.IsSigned target c →
      c ∈ (PathSearch.run verifiers true pool target).2.explored) ∧
    ¬ pool.ReachesAnchor verifiers.IsSigned target := by
  refine closed_of_explored hclassified hself hidentified fun c hc p hp hsigned => ?_
  rcases PathSearch.settled_run hnone hc hp hsigned.1 with hmem | ⟨-, hinvalid⟩
  · exact hmem
  · exact absurd hsigned.2 hinvalid

theorem not_reachesAnchor_of_maySign
    (hfault : (PathSearch.run verifiers true pool target).2.fault? = none) :
    ¬ pool.ReachesAnchor verifiers.MaySign target := by
  refine (closed_of_explored hclassified hself hidentified fun c hc p hp hmay => ?_).2
  rcases PathSearch.settled_run hnone hc hp hmay.1 with hmem | ⟨hexamined, hinvalid⟩
  · exact hmem
  · exfalso
    cases houtcome : (verifiers.certificateSignature c p).value with
    | error e => exact PathSearch.evaluated_of_fault?_eq_none hfault hexamined e houtcome
    | ok status =>
        cases status with
        | valid => exact hinvalid houtcome
        | invalid => exact hmay.2 houtcome

/-- A signature that cannot be evaluated is on record, unless its issuer was reached otherwise. -/
theorem fault?_ne_none_of_failsWith {child parent : Certificate} {e : Error}
    (hchild : pool.Reaches verifiers.IsSigned target child) (hparent : parent ∈ pool.members)
    (hfails : verifiers.FailsWith child parent e)
    (hnew : parent ∈ pool.trustAnchors ∨ ¬ pool.Reaches verifiers.IsSigned target parent) :
    (PathSearch.run verifiers true pool target).2.fault? ≠ none := by
  intro hfault
  have hexplored := (closed_of_isSigned hclassified hself hidentified hnone).1 child hchild
  rcases PathSearch.settled_run hnone hexplored hparent hfails.1 with hmem | ⟨hexamined, -⟩
  · obtain ⟨hin, hanchor⟩ := explored_of_encoding_mem hclassified hself hidentified hparent hmem
    rcases hnew with hnew | hnew
    · exact hanchor hnew
    · exact hnew (reaches_of_explored hin)
  · exact PathSearch.evaluated_of_fault?_eq_none hfault hexamined e hfails.2

end Failed

/-- **A failed search accounts for the signatures that it could not evaluate.** With signatures
filtered, no trust anchor is reached over good signatures when no path is built. The error is that
of a signature on a certificate that was reached, or it says that there is no path; then no trust
anchor would be reached if all signatures that cannot be evaluated were good. In particular, such a
signature is never passed over in favour of "no path" when its issuer would be a trust anchor or is
not reached otherwise. -/
theorem build_accounts_for_signatures {verifiers : Verifiers} {certificates : List Certificate}
    {pool : ClassifiedPool} {now : UInt64} {settings : Settings} {target : Certificate}
    (hclassified : (ClassifiedPool.classify verifiers certificates).value = .ok pool)
    (hchecked : (checkTarget verifiers now settings (some target)).value = .ok target)
    (hidentified : IdentifiedByEncoding (target :: certificates))
    (hfilter : settings.filterWhenBuilding = true) :
    (∀ e, (CertificationPath.build verifiers now settings (some target) pool).value = .error e →
      ¬ pool.ReachesAnchor verifiers.IsSigned target ∧
      (verifiers.FailsAbove pool target e ∨
        e = .pathValidation .noPathsFound ∧ ¬ pool.ReachesAnchor verifiers.MaySign target)) ∧
    (∀ child parent failure, pool.Reaches verifiers.IsSigned target child →
      parent ∈ pool.members → verifiers.FailsWith child parent failure →
      (parent ∈ pool.trustAnchors ∨ ¬ pool.Reaches verifiers.IsSigned target parent) →
      (∃ path, (CertificationPath.build verifiers now settings (some target) pool).value =
        .ok path) ∨
      ∃ e, (CertificationPath.build verifiers now settings (some target) pool).value = .error e ∧
        verifiers.FailsAbove pool target e) := by
  have hself := (checkTarget_eq_ok hchecked).2.2
  rw [CertificationPath.value_build pool hchecked, CertificationPath.value_find, hfilter]
  rcases hrun : PathSearch.run verifiers true pool target with ⟨found, search⟩
  cases found with
  | some ascent =>
      refine ⟨fun e h => ?_, fun _ _ _ _ _ _ _ => .inl ⟨_, rfl⟩⟩
      cases h
  | none =>
      have hnone : (PathSearch.run verifiers true pool target).1 = none := by rw [hrun]
      have hclosed := closed_of_isSigned hclassified hself hidentified hnone
      dsimp only
      cases hfault : search.fault? with
      | some fault =>
          have hreported : (PathSearch.run verifiers true pool target).2.fault? = some fault := by
            rw [hrun, hfault]
          obtain ⟨-, parent, -, hparent, hchild, hfails⟩ := failsWith_of_fault? hreported
          have hfailsAbove : verifiers.FailsAbove pool target fault.error :=
            ⟨fault.certificate, parent, reaches_of_explored hchild, hparent, hfails⟩
          refine ⟨fun e h => ⟨hclosed.2, .inl ?_⟩, fun _ _ _ _ _ _ _ => .inr ⟨_, rfl, hfailsAbove⟩⟩
          exact Except.error.inj h ▸ hfailsAbove
      | none =>
          have hquiet : (PathSearch.run verifiers true pool target).2.fault? = none := by
            rw [hrun, hfault]
          refine ⟨fun e h => ⟨hclosed.2, .inr ⟨(Except.error.inj h).symm, ?_⟩⟩, ?_⟩
          · exact not_reachesAnchor_of_maySign hclassified hself hidentified hnone hquiet
          · intro child parent failure hchild hparent hfails hnew
            exact absurd hquiet (fault?_ne_none_of_failsWith hclassified hself hidentified hnone
              hchild hparent hfails hnew)

/-! ### A key that cannot be read -/

namespace Sample

/-- Issued the leaf, but its key cannot be read. -/
def unreadable : Certificate := certificate 6 1 3 (.rsa, 0) (.ecdsa, 3)

def otherRoot : Certificate := certificate 7 3 3 (.ecdsa, 3) (.ecdsa, 3)

theorem not_reaches_unreadable :
    ¬ (⟨[otherRoot], [unreadable]⟩ : ClassifiedPool).Reaches
      (Verifiers.IsSigned [verifier]) leaf unreadable := by
  intro hreached
  rcases Relation.ReflTransGen.cases_tail hreached with heq | ⟨child, hchild, hlink⟩
  · have hne : unreadable ≠ leaf := by decide
    exact hne heq
  · have hbelow : child = leaf ∨ child = unreadable := by
      rcases Relation.ReflTransGen.cases_tail hchild with heq | ⟨_, -, hmem⟩
      · exact .inl heq
      · exact .inr (List.mem_singleton.1 hmem.1)
    have hvalid := hlink.2.2
    rcases hbelow with rfl | rfl
    · have hparse : (Verifiers.certificateSignature [verifier] leaf unreadable).value =
          .error .parse := rfl
      rw [hparse] at hvalid
      cases hvalid
    · have hinvalid : (Verifiers.certificateSignature [verifier] unreadable unreadable).value =
          .ok .invalid := rfl
      rw [hinvalid] at hvalid
      cases hvalid

/-- The key that cannot be read is the reason that no path is built. -/
theorem build_reports_unreadable :
    (ClassifiedPool.classify [verifier] [unreadable, otherRoot]).value =
      .ok ⟨[otherRoot], [unreadable]⟩ ∧
    (checkTarget [verifier] now .empty (some leaf)).value = .ok leaf ∧
    IdentifiedByEncoding [leaf, unreadable, otherRoot] ∧
    Settings.empty.filterWhenBuilding = true ∧
    Verifiers.FailsWith [verifier] leaf unreadable .parse ∧
    (CertificationPath.build [verifier] now .empty (some leaf)
      ⟨[otherRoot], [unreadable]⟩).value = .error .parse ∧
    Verifiers.FailsAbove [verifier] ⟨[otherRoot], [unreadable]⟩ leaf .parse := by
  have hclassified : (ClassifiedPool.classify [verifier] [unreadable, otherRoot]).value =
      .ok ⟨[otherRoot], [unreadable]⟩ := rfl
  have hchecked : (checkTarget [verifier] now .empty (some leaf)).value = .ok leaf := rfl
  have hidentified : IdentifiedByEncoding [leaf, unreadable, otherRoot] := by
    unfold IdentifiedByEncoding
    decide +kernel
  have hfilter : Settings.empty.filterWhenBuilding = true := rfl
  have hfails : Verifiers.FailsWith [verifier] leaf unreadable .parse := ⟨rfl, rfl⟩
  have hbuilt : (CertificationPath.build [verifier] now .empty (some leaf)
      ⟨[otherRoot], [unreadable]⟩).value = .error .parse := by
    decide +kernel
  obtain ⟨-, hreported⟩ :=
    build_accounts_for_signatures hclassified hchecked hidentified hfilter
  refine ⟨hclassified, hchecked, hidentified, hfilter, hfails, hbuilt, ?_⟩
  rcases hreported leaf unreadable .parse .refl (by decide) hfails (.inr not_reaches_unreadable)
    with ⟨path, hpath⟩ | ⟨e, herror, habove⟩
  · rw [hbuilt] at hpath
    cases hpath
  · rw [hbuilt] at herror
    cases herror
    exact habove

/-- Fails with the error of a search that finds nothing. -/
def evasive : SignatureVerifier := ⟨none, fun _ => pure (.error (.pathValidation .noPathsFound))⟩

/-- A verifier may itself answer that there is no path. The trust anchor is then only a signature
away that could not be evaluated. -/
theorem evasive_error_hides_anchor :
    (ClassifiedPool.classify [verifier, evasive] [unreadable, otherRoot]).value =
      .ok ⟨[otherRoot], [unreadable]⟩ ∧
    (checkTarget [verifier, evasive] now .empty (some leaf)).value = .ok leaf ∧
    IdentifiedByEncoding [leaf, unreadable, otherRoot] ∧
    Settings.empty.filterWhenBuilding = true ∧
    (CertificationPath.build [verifier, evasive] now .empty (some leaf)
      ⟨[otherRoot], [unreadable]⟩).value = .error (.pathValidation .noPathsFound) ∧
    (⟨[otherRoot], [unreadable]⟩ : ClassifiedPool).ReachesAnchor
      (Verifiers.MaySign [verifier, evasive]) leaf := by
  refine ⟨rfl, rfl, ?_, rfl, ?_, unreadable, .single ⟨by decide, rfl, ?_⟩, otherRoot, by decide,
    rfl, ?_⟩
  · unfold IdentifiedByEncoding
    decide +kernel
  · decide +kernel
  · have herror : (Verifiers.certificateSignature [verifier, evasive] leaf unreadable).value =
        .error (.pathValidation .noPathsFound) := rfl
    rw [herror]
    intro h
    cases h
  · have hvalid : (Verifiers.certificateSignature [verifier, evasive] unreadable otherRoot).value =
        .ok .valid := rfl
    rw [hvalid]
    intro h
    cases h

end Sample

end TrustChain
