import TrustChain.Proofs.Path.SharedRoute
import TrustChain.Proofs.Path.Building
import Mathlib.Data.List.ProdSigma

/-!
# What a search costs

A certificate that a search has entered is on the route until its issuers have been tried, and a
dead end from then on, so it is not entered again (`Orderly`). A link is examined while its lower
certificate is tried, which is once, and each upper certificate is tried once in that time
(`Trying`). The examinations are therefore as few as there are links that do not lead to the target.
-/

namespace TrustChain

/-- The encodings of the lower and of the upper certificate of a link. -/
def linkEncodings (link : Certificate × Certificate) : Octets × Octets :=
  (link.1.encoding, link.2.encoding)

/-- No certificate is entered and no link examined twice in a search for a way up from a target. -/
structure IsFrugal (pool : ClassifiedPool) (target : Certificate) (entered : List Certificate)
    (examined : List (Certificate × Certificate)) : Prop where
  target_entered : target ∈ entered
  entered_mem : ∀ c ∈ entered, c = target ∨
    c ∈ pool.intermediates ∧ ∀ anchor ∈ pool.trustAnchors, c.encoding ≠ anchor.encoding
  nodup_entered : (entered.map Certificate.encoding).Nodup
  nodup_examined : (examined.map linkEncodings).Nodup
  examined_mem : ∀ link ∈ examined, link.1 ∈ entered ∧ link.2 ∈ pool.members
  parent_ne : ∀ link ∈ examined,
    link.2.encoding ≠ link.1.encoding ∧ link.2.encoding ≠ target.encoding
  length_le : examined.length ≤
    (pool.intermediates.length + 1) * (pool.trustAnchors.length + pool.intermediates.length)

namespace Walk

variable {σ : Type} {examine : Examiner σ} {filter : Bool} {pool : ClassifiedPool}
  {target : Certificate}

/-! ### What every step keeps -/

/-- What a search has entered is settled or on the route, and nothing was done twice so far. -/
structure Orderly (pool : ClassifiedPool) (target : Certificate) (walk : Walk σ) : Prop where
  target_onRoute : target.encoding ∈ walk.onRoute
  entered_mem : ∀ c ∈ walk.entered, c = target ∨ c ∈ pool.intermediates
  nodup_entered : (walk.entered.map Certificate.encoding).Nodup
  settled : ∀ c ∈ walk.entered, c.encoding ∈ walk.onRoute ∨ c.encoding ∈ walk.deadEnds
  nodup_examined : (walk.examined.map linkEncodings).Nodup
  examined_mem : ∀ link ∈ walk.examined, link.1 ∈ walk.entered ∧ link.2 ∈ pool.members
  parent_ne : ∀ link ∈ walk.examined,
    link.2.encoding ≠ link.1.encoding ∧ link.2.encoding ≠ target.encoding

namespace Orderly

variable {walk : Walk σ}

theorem start (target : Certificate) (memory : σ) :
    Orderly pool target (start target memory) := by
  constructor <;> simp [Walk.start]

theorem enter (h : Orderly pool target walk) {c : Certificate}
    (hmem : c = target ∨ c ∈ pool.intermediates) (hroute : c.encoding ∈ walk.onRoute)
    (hnew : c.encoding ∉ walk.entered.map Certificate.encoding) :
    Orderly pool target (walk.enter c) where
  target_onRoute := h.target_onRoute
  entered_mem := List.forall_mem_cons.2 ⟨hmem, h.entered_mem⟩
  nodup_entered := List.nodup_cons.2 ⟨hnew, h.nodup_entered⟩
  settled := List.forall_mem_cons.2 ⟨.inl hroute, h.settled⟩
  nodup_examined := h.nodup_examined
  examined_mem link hlink :=
    (h.examined_mem link hlink).imp_left (List.mem_cons_of_mem c)
  parent_ne := h.parent_ne

theorem push (h : Orderly pool target walk) (c : Certificate) :
    Orderly pool target (walk.push c) :=
  { h with
    target_onRoute := Finset.mem_insert_of_mem h.target_onRoute
    settled := fun d hd => (h.settled d hd).imp_left Finset.mem_insert_of_mem }

theorem pop (h : Orderly pool target walk) {c : Certificate} (hne : c.encoding ≠ target.encoding)
    (hdead : c.encoding ∈ walk.deadEnds) : Orderly pool target (walk.pop c) :=
  { h with
    target_onRoute := Finset.mem_erase.2 ⟨hne.symm, h.target_onRoute⟩
    settled := by
      intro d hd
      by_cases heq : d.encoding = c.encoding
      · exact .inr (heq ▸ hdead)
      · exact (h.settled d hd).imp_left fun hroute => Finset.mem_erase.2 ⟨heq, hroute⟩ }

theorem close (h : Orderly pool target walk) (c : Certificate) :
    Orderly pool target (walk.close c) :=
  { h with settled := fun d hd => (h.settled d hd).imp_right Finset.mem_insert_of_mem }

theorem look (h : Orderly pool target walk) {child parent : Certificate}
    (hchild : child ∈ walk.entered) (hroute : child.encoding ∈ walk.onRoute)
    (hparent : parent ∈ pool.members)
    (hnew : (child.encoding, parent.encoding) ∉ walk.examined.map linkEncodings) :
    Orderly pool target (walk.look examine filter child parent).2 := by
  rcases look_snd_cases examine filter child parent walk with hsame | ⟨hoff, _, _, hasked⟩
  · rwa [hsame]
  · rw [hasked]
    have hne : parent.encoding ≠ child.encoding ∧ parent.encoding ≠ target.encoding :=
      ⟨fun heq => hoff (heq ▸ hroute), fun heq => hoff (heq ▸ h.target_onRoute)⟩
    exact
      { h with
        nodup_examined := List.nodup_cons.2 ⟨hnew, h.nodup_examined⟩
        examined_mem := List.forall_mem_cons.2 ⟨⟨hchild, hparent⟩, h.examined_mem⟩
        parent_ne := List.forall_mem_cons.2 ⟨hne, h.parent_ne⟩ }

/-- There are no more examined links than pairs of a certificate that may be entered and one of the
pool. -/
theorem length_examined_le (h : Orderly pool target walk) :
    walk.examined.length ≤
      (pool.intermediates.length + 1) * (pool.trustAnchors.length + pool.intermediates.length) := by
  have hsubset : walk.examined.map linkEncodings ⊆
      ((target :: pool.intermediates).map Certificate.encoding) ×ˢ
        (pool.members.map Certificate.encoding) := by
    intro encodings hmem
    obtain ⟨link, hlink, rfl⟩ := List.mem_map.1 hmem
    obtain ⟨hchild, hparent⟩ := h.examined_mem link hlink
    refine List.mem_product.2 ⟨List.mem_map_of_mem ?_, List.mem_map_of_mem hparent⟩
    exact List.mem_cons.2 (h.entered_mem _ hchild)
  have hle := (h.nodup_examined.subperm hsubset).length_le
  simpa only [List.length_map, List.length_product, List.length_cons, ClassifiedPool.members,
    List.length_append] using hle

theorem isFrugal (h : Orderly pool target walk)
    (hnodup : (pool.members.map Certificate.encoding).Nodup) (htarget : target ∈ walk.entered) :
    IsFrugal pool target walk.entered walk.examined where
  target_entered := htarget
  entered_mem c hc := (h.entered_mem c hc).imp_right fun hmem =>
    ⟨hmem, fun _ hanchor => (ClassifiedPool.encoding_ne hnodup hanchor hmem).symm⟩
  nodup_entered := h.nodup_entered
  nodup_examined := h.nodup_examined
  examined_mem := h.examined_mem
  parent_ne := h.parent_ne
  length_le := h.length_examined_le

end Orderly

/-! ### The certificates that are still to be tried -/

/-- All links examined since an earlier state lead from certificates entered since then. -/
structure Since (earlier walk : Walk σ) : Prop where
  entered : earlier.entered ⊆ walk.entered
  examined : ∀ link ∈ walk.examined, link ∈ earlier.examined ∨
    link.1.encoding ∉ earlier.entered.map Certificate.encoding

theorem Since.refl (walk : Walk σ) : Since walk walk :=
  ⟨List.Subset.refl _, fun _ hlink => .inl hlink⟩

theorem Since.trans {earlier between walk : Walk σ} (h : Since earlier between)
    (hlater : Since between walk) : Since earlier walk := by
  refine ⟨List.Subset.trans h.entered hlater.entered, fun link hlink => ?_⟩
  rcases hlater.examined link hlink with hbetween | hnew
  · exact h.examined link hbetween
  · exact .inr fun hold => hnew (List.map_subset _ h.entered hold)

/-- The search is at a certificate that it was to enter in an earlier state, and some others have
still to be tried as its issuers. -/
structure Trying (pool : ClassifiedPool) (target : Certificate) (earlier : Walk σ)
    (current : Certificate) (untried : List Certificate) (walk : Walk σ) : Prop where
  orderly : Orderly pool target walk
  since : Since earlier walk
  new : current.encoding ∉ earlier.entered.map Certificate.encoding
  entered : current ∈ walk.entered
  onRoute : current.encoding ∈ walk.onRoute
  untried_mem : untried ⊆ pool.members
  nodup_untried : (untried.map Certificate.encoding).Nodup
  unexamined : ∀ parent ∈ untried,
    (current.encoding, parent.encoding) ∉ walk.examined.map linkEncodings

/-- A search is about to enter a certificate. -/
structure Ready (pool : ClassifiedPool) (target current : Certificate) (walk : Walk σ) : Prop where
  orderly : Orderly pool target walk
  mem : current = target ∨ current ∈ pool.intermediates
  onRoute : current.encoding ∈ walk.onRoute
  new : current.encoding ∉ walk.entered.map Certificate.encoding

namespace Trying

variable {earlier walk after : Walk σ} {current c : Certificate} {rest : List Certificate}

theorem enter (hnodup : (pool.members.map Certificate.encoding).Nodup)
    (h : Ready pool target current walk) :
    Trying pool target walk current pool.members (walk.enter current) where
  orderly := h.orderly.enter h.mem h.onRoute h.new
  since := ⟨List.subset_cons_self _ _, fun _ hlink => .inl hlink⟩
  new := h.new
  entered := List.mem_cons_self
  onRoute := h.onRoute
  untried_mem := List.Subset.refl _
  nodup_untried := hnodup
  unexamined := by
    intro parent _ hmem
    obtain ⟨link, hlink, heq⟩ := List.mem_map.1 hmem
    obtain ⟨hchild, -⟩ := Prod.mk.inj heq
    exact h.new (hchild ▸ List.mem_map_of_mem (h.orderly.examined_mem link hlink).1)

theorem tail (h : Trying pool target earlier current (c :: rest) walk) :
    Trying pool target earlier current rest walk :=
  { h with
    untried_mem := (List.cons_subset.1 h.untried_mem).2
    nodup_untried := (List.nodup_cons.1 h.nodup_untried).2
    unexamined := (List.forall_mem_cons.1 h.unexamined).2 }

theorem look (h : Trying pool target earlier current (c :: rest) walk) :
    Trying pool target earlier current rest (walk.look examine filter current c).2 := by
  have horderly : Orderly pool target (walk.look examine filter current c).2 :=
    h.orderly.look h.entered h.onRoute (List.cons_subset.1 h.untried_mem).1
      (List.forall_mem_cons.1 h.unexamined).1
  rcases look_snd_cases examine filter current c walk with hsame | ⟨-, _, _, hasked⟩
  · rw [hsame]
    exact h.tail
  · rw [hasked] at horderly ⊢
    refine { h.tail with orderly := horderly, since := ⟨h.since.entered, ?_⟩, unexamined := ?_ }
    · exact List.forall_mem_cons.2 ⟨.inr h.new, h.since.examined⟩
    · intro parent hparent hmem
      rcases List.mem_cons.1 hmem with heq | hold
      · obtain ⟨-, heq⟩ := Prod.mk.inj heq
        exact (List.nodup_cons.1 h.nodup_untried).1 (heq ▸ List.mem_map_of_mem hparent)
      · exact h.unexamined parent (List.mem_cons_of_mem c hparent) hold

/-- The search goes on to certificates that are neither on the route nor given up, so it has not
been there before. -/
theorem ready (h : Trying pool target earlier current rest walk) (hmem : c ∈ pool.intermediates)
    (hdead : c.encoding ∉ walk.deadEnds) (hroute : c.encoding ∉ walk.onRoute) :
    Ready pool target c (walk.push c) where
  orderly := h.orderly.push c
  mem := .inr hmem
  onRoute := Finset.mem_insert_self _ _
  new := by
    intro hentered
    obtain ⟨d, hd, heq⟩ := List.mem_map.1 hentered
    rcases h.orderly.settled d hd with hon | hdead'
    · exact hroute (heq ▸ hon)
    · exact hdead (heq ▸ hdead')

/-- What the search did above another certificate leaves those that are still to be tried. -/
theorem comeBack (h : Trying pool target earlier current rest walk)
    (hroute : c.encoding ∉ walk.onRoute) (horderly : Orderly pool target after)
    (hsince : Since (walk.push c) after) (hsame : SameRoute after (walk.push c))
    (hdead : c.encoding ∈ after.deadEnds) :
    Trying pool target earlier current rest (after.pop c) :=
  { h with
    orderly := horderly.pop (fun heq => hroute (heq ▸ h.orderly.target_onRoute)) hdead
    since := h.since.trans ⟨hsince.entered, hsince.examined⟩
    entered := hsince.entered h.entered
    onRoute := by
      rw [(hsame.pop hroute).onRoute]
      exact h.onRoute
    unexamined := by
      intro parent hparent hmem
      obtain ⟨link, hlink, heq⟩ := List.mem_map.1 hmem
      rcases hsince.examined link hlink with hold | hnew
      · exact h.unexamined parent hparent (heq ▸ List.mem_map_of_mem hold)
      · obtain ⟨hchild, -⟩ := Prod.mk.inj heq
        exact hnew (hchild ▸ List.mem_map_of_mem h.entered) }

end Trying

/-! ### Runs -/

/-- How a search leaves its state, whatever it finds. -/
structure OrderlySince (pool : ClassifiedPool) (target : Certificate) (earlier after : Walk σ) :
    Prop where
  orderly : Orderly pool target after
  since : Since earlier after

theorem Trying.orderlySince {earlier walk : Walk σ} {current : Certificate}
    {untried : List Certificate} (h : Trying pool target earlier current untried walk) :
    OrderlySince pool target earlier walk :=
  ⟨h.orderly, h.since⟩

section Intermediates

variable {recurse : Certificate → Walk σ → Option Ending × Walk σ}
  (hrec : ∀ {c walk found after}, Ready pool target c walk → recurse c walk = (found, after) →
    OrderlySince pool target walk after)
  (hsame : ∀ {c walk after}, recurse c walk = (none, after) →
    SameRoute after walk ∧ c.encoding ∈ after.deadEnds)
  {earlier walk after : Walk σ} {current c : Certificate} {rest : List Certificate}
include hrec

theorem orderlySince_tryIntermediate (hc : c ∈ pool.intermediates)
    (h : Trying pool target earlier current (c :: rest) walk) {ending : Ending}
    (hstep : tryIntermediate examine filter recurse current c walk = (some ending, after)) :
    OrderlySince pool target earlier after ∧ current ∈ after.entered := by
  obtain ⟨hfound, -⟩ | ⟨hfound, -⟩ | ⟨hdead, hroute, _, hdown, rfl⟩ :=
    tryIntermediate_cases hstep
  · cases hfound
  · cases hfound
  · have hlooked : Trying pool target earlier current rest
        (walk.look examine filter current c).2 := h.look
    have hready := hlooked.ready hc (by simpa using hdead) (by simpa using hroute)
    have habove := hrec hready hdown
    have hsince : Since (walk.look examine filter current c).2 after :=
      ⟨habove.since.entered, habove.since.examined⟩
    exact ⟨⟨habove.orderly, hlooked.since.trans hsince⟩, hsince.entered hlooked.entered⟩

include hsame

theorem trying_tryIntermediate (hc : c ∈ pool.intermediates)
    (h : Trying pool target earlier current (c :: rest) walk)
    (hstep : tryIntermediate examine filter recurse current c walk = (none, after)) :
    Trying pool target earlier current rest after := by
  obtain ⟨-, rfl⟩ | ⟨-, rfl⟩ | ⟨hdead, hroute, between, hdown, rfl⟩ :=
    tryIntermediate_cases hstep
  · exact h.tail
  · exact h.look
  · have hlooked : Trying pool target earlier current rest
        (walk.look examine filter current c).2 := h.look
    have hoff : c.encoding ∉ (walk.look examine filter current c).2.onRoute := by
      simpa using hroute
    have habove := hrec (hlooked.ready hc (by simpa using hdead) hoff) hdown
    obtain ⟨hroutes, hclosed⟩ := hsame hdown
    exact hlooked.comeBack hoff habove.orderly habove.since hroutes hclosed

end Intermediates

/-- The trust anchors are tried before the intermediates. -/
theorem trying_tryAnchors (hnodup : (pool.members.map Certificate.encoding).Nodup)
    {current : Certificate} {walk after : Walk σ} {found : Option Ending}
    (h : Ready pool target current walk)
    (hanchors : firstFound (tryAnchor examine filter current) pool.trustAnchors
      (walk.enter current) = (found, after)) :
    ∃ untried, Trying pool target walk current untried after ∧
      (found = none → untried = pool.intermediates) := by
  obtain ⟨hnone, hsome⟩ := firstFound_invariant
    (P := fun anchors state =>
      Trying pool target walk current (anchors ++ pool.intermediates) state)
    (fun anchor rest state hstate after hstep => by
      obtain ⟨rfl, -⟩ := look_of_tryAnchor hstep
      exact hstate.look)
    (Trying.enter hnodup h)
  cases found with
  | none => exact ⟨_, hnone after hanchors, fun _ => rfl⟩
  | some ending =>
      obtain ⟨anchor, rest, before, hbefore, hstep⟩ := hsome _ _ hanchors
      obtain ⟨rfl, -⟩ := look_of_tryAnchor hstep
      exact ⟨_, hbefore.look, fun hfound => nomatch hfound⟩

/-- What a search does at a certificate is orderly if what it does above is. -/
theorem orderlySince_extend_succ (hnodup : (pool.members.map Certificate.encoding).Nodup)
    {depth : Nat}
    (hrec : ∀ {c walk found after}, Ready pool target c walk →
      extend examine filter pool depth c walk = (found, after) →
      OrderlySince pool target walk after)
    {current : Certificate} {walk after : Walk σ} {found : Option Ending}
    (h : Ready pool target current walk)
    (hextend : extend examine filter pool (depth + 1) current walk = (found, after)) :
    OrderlySince pool target walk after ∧ current ∈ after.entered := by
  obtain ⟨_, -, hanchors⟩ | ⟨between, hanchors, hrest⟩ := extend_cases hextend
  · obtain ⟨untried, htrying, -⟩ := trying_tryAnchors hnodup h hanchors
    exact ⟨htrying.orderlySince, htrying.entered⟩
  · obtain ⟨untried, htrying, huntried⟩ := trying_tryAnchors hnodup h hanchors
    rw [huntried rfl] at htrying
    have hkeeps : ∀ c rest state, (c :: rest ⊆ pool.intermediates ∧
        Trying pool target walk current (c :: rest) state) → ∀ after,
        tryIntermediate examine filter (extend examine filter pool depth) current c state =
          (none, after) →
        rest ⊆ pool.intermediates ∧ Trying pool target walk current rest after := by
      intro c rest state ⟨hmem, hstate⟩ after hstep
      obtain ⟨hc, hrest⟩ := List.cons_subset.1 hmem
      have hbelow := trying_tryIntermediate hrec
        (fun hdown => ⟨sameRoute_of_extend hdown, mem_deadEnds_of_extend hdown⟩) hc hstate hstep
      exact ⟨hrest, hbelow⟩
    obtain ⟨hnone, hsome⟩ := firstFound_invariant
      (P := fun untried state => untried ⊆ pool.intermediates ∧
        Trying pool target walk current untried state)
      hkeeps ⟨List.Subset.refl _, htrying⟩
    obtain ⟨ending, -, hfound⟩ | ⟨left, -, rfl, hleft⟩ := hrest
    · obtain ⟨c, rest, before, ⟨hmem, hbefore⟩, hstep⟩ := hsome _ _ hfound
      exact orderlySince_tryIntermediate hrec (List.cons_subset.1 hmem).1 hbefore hstep
    · obtain ⟨-, hdone⟩ := hnone left hleft
      exact ⟨⟨hdone.orderly.close current, hdone.since.entered, hdone.since.examined⟩,
        hdone.entered⟩

theorem orderlySince_extend (hnodup : (pool.members.map Certificate.encoding).Nodup) {depth : Nat}
    {current : Certificate} {walk after : Walk σ} {found : Option Ending}
    (h : Ready pool target current walk)
    (hextend : extend examine filter pool depth current walk = (found, after)) :
    OrderlySince pool target walk after := by
  induction depth generalizing current walk found after with
  | zero =>
      cases hextend
      exact ⟨h.orderly, .refl walk⟩
  | succ depth ih => exact (orderlySince_extend_succ hnodup ih h hextend).1

theorem isFrugal_find (hnodup : (pool.members.map Certificate.encoding).Nodup)
    (examine : Examiner σ) (filter : Bool) (target : Certificate) (memory : σ) :
    IsFrugal pool target (find examine filter pool target memory).2.entered
      (find examine filter pool target memory).2.examined := by
  have hready : Ready pool target target (start target memory) :=
    ⟨.start target memory, .inl rfl, Finset.mem_singleton_self _, List.not_mem_nil⟩
  obtain ⟨horderly, hentered⟩ :=
    orderlySince_extend_succ hnodup (orderlySince_extend hnodup) hready rfl
  exact horderly.orderly.isFrugal hnodup hentered

end Walk

/-! ### Classified pools -/

section Classified

variable {others : Verifiers} {certificates : List Certificate} {pool : ClassifiedPool}

/-- **The cost of a search.** In a classified pool, whatever cycles there are and whoever examines
the signatures, a search for a way up from a target comes to an end no deeper than there are
intermediates. It enters the target and no intermediate more than once, and it has no link examined
twice, nor one that leads from a certificate to itself or to the target. Wherever nothing is found,
the route is what it was before. All this is true of the search that paths are found with. -/
theorem search_cost
    (hclassified : (ClassifiedPool.classify others certificates).value = .ok pool)
    (settings : Settings) (target : Certificate) :
    (∀ {σ : Type} (examine : Examiner σ) (memory : σ),
      (Walk.find examine settings.filterWhenBuilding pool target memory).1 ≠ some .cutOff ∧
      IsFrugal pool target
        (Walk.find examine settings.filterWhenBuilding pool target memory).2.entered
        (Walk.find examine settings.filterWhenBuilding pool target memory).2.examined) ∧
    (∀ {σ : Type} (examine : Examiner σ) (depth : Nat) (current : Certificate)
      (walk after : Walk σ),
      Walk.extend examine settings.filterWhenBuilding pool depth current walk = (none, after) →
      after.route = walk.route ∧ after.onRoute = walk.onRoute) ∧
    ∀ verifiers : Verifiers,
      Walk.find verifiers.examiner settings.filterWhenBuilding pool target () =
        Walk.ended [] [target.encoding]
          (PathSearch.run verifiers settings.filterWhenBuilding pool target) ∧
      IsFrugal pool target
        (PathSearch.run verifiers settings.filterWhenBuilding pool target).2.explored
        ((PathSearch.run verifiers settings.filterWhenBuilding pool target).2.examinations.map
          fun x => (x.child, x.parent)) := by
  have hnodup := ClassifiedPool.nodup_members_of_classify hclassified
  refine ⟨fun examine memory => ⟨?_, ?_⟩, fun examine depth current walk after h => ?_,
    fun verifiers => ?_⟩
  · exact Walk.find_ne_cutOff examine _ pool target memory
  · exact Walk.isFrugal_find hnodup examine _ target memory
  · exact ⟨(Walk.sameRoute_of_extend h).route, (Walk.sameRoute_of_extend h).onRoute⟩
  · have hfind := Walk.find_examiner verifiers settings.filterWhenBuilding pool target
    refine ⟨hfind, ?_⟩
    have hfrugal := Walk.isFrugal_find hnodup verifiers.examiner settings.filterWhenBuilding
      target ()
    rw [hfind] at hfrugal
    rcases hrun : PathSearch.run verifiers settings.filterWhenBuilding pool target with
      ⟨ascent | ascent, search⟩
    · rwa [hrun] at hfrugal
    · rwa [hrun] at hfrugal

end Classified

namespace Sample

/-- Counts the links it is asked about, and takes none for good that leads to the root. -/
def counting : Examiner Nat := fun _ parent asked =>
  (.ok (.ofBool (parent.encoding ≠ root.encoding)), asked + 1)

/-- The mesh is gone through in vain, with each certificate asked about once. -/
theorem mesh_search_cost :
    (ClassifiedPool.classify [verifier] mesh).value = .ok sortedMesh ∧
    (Walk.find counting Settings.empty.filterWhenBuilding sortedMesh leaf 0).2.memory = 4 ∧
    IsFrugal sortedMesh leaf
      (Walk.find counting Settings.empty.filterWhenBuilding sortedMesh leaf 0).2.entered
      (Walk.find counting Settings.empty.filterWhenBuilding sortedMesh leaf 0).2.examined := by
  obtain ⟨hfind, -, -⟩ := search_cost classify_mesh .empty leaf
  exact ⟨classify_mesh, by decide +kernel, (hfind counting 0).2⟩

end Sample

end TrustChain
