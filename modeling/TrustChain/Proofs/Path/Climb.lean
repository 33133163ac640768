import TrustChain.Path.Search
import TrustChain.Proofs.Pool.Classification
import Mathlib.Data.List.Chain
import Mathlib.Data.List.Infix

/-!
# Ways up

What a search is after: a sequence of certificates, each a candidate for the issuer of the one
before, that leads through intermediates to a trust anchor and does not come back to an encoding it
has passed. Of all such sequences the search is to find the one that prefers trust anchors to
intermediates, and within either list earlier certificates to later ones, at the first step at which
it differs from another.

`climb?` is the plain search, which knows no dead ends and refuses only what is on its route. It
finds a way up whenever there is one, and the first one.
-/

namespace TrustChain

/-- `parent` may be taken for the issuer of `child`: it has the name, and where signatures are
filtered its key verifies the signature. -/
structure Verifiers.IsCandidate (verifiers : Verifiers) (filter : Bool)
    (child parent : Certificate) : Prop where
  agrees : parent.subject.agrees child.issuer = true
  signed : filter = true → (verifiers.certificateSignature child parent).value = .ok .valid

theorem matches_ok_valid_iff (outcome : Except Error SignatureStatus) :
    (outcome matches .ok .valid) = true ↔ outcome = .ok .valid := by
  rcases outcome with e | status
  · simp
  · cases status <;> simp

instance (verifiers : Verifiers) (filter : Bool) (child parent : Certificate) :
    Decidable (verifiers.IsCandidate filter child parent) :=
  decidable_of_iff
    (parent.subject.agrees child.issuer = true ∧
      (filter = true →
        ((verifiers.certificateSignature child parent).value matches .ok .valid) = true))
    ⟨fun ⟨hagrees, hsigned⟩ => ⟨hagrees, fun h => (matches_ok_valid_iff _).1 (hsigned h)⟩,
      fun ⟨hagrees, hsigned⟩ => ⟨hagrees, fun h => (matches_ok_valid_iff _).2 (hsigned h)⟩⟩

/-- The order in which a search tries the certificates of a pool. -/
def ClassifiedPool.Prefers (pool : ClassifiedPool) (a b : Certificate) : Prop :=
  pool.members.idxOf a < pool.members.idxOf b

/-- What stands before something else in a pool without repetitions is preferred to it. -/
theorem ClassifiedPool.prefers_of_sublist {pool : ClassifiedPool}
    (hnodup : (pool.members.map Certificate.encoding).Nodup) {a b : Certificate}
    (h : [a, b].Sublist pool.members) : pool.Prefers a b := by
  have hmembers : pool.members.Nodup := hnodup.of_map
  have hordered : pool.members.Pairwise pool.Prefers := by
    rw [List.pairwise_iff_getElem]
    intro i j hi hj hlt
    unfold Prefers
    rwa [hmembers.idxOf_getElem i hi, hmembers.idxOf_getElem j hj]
  exact hordered.forall_sublist h

/-- A step that finds something at an item finds it there or, when the items are tried in turn, at
one before it. -/
theorem exists_findSome?_of_mem {α β : Type} {step : α → Option β} {items : List α} {x : α} {b : β}
    (hmem : x ∈ items) (hstep : step x = some b) :
    ∃ y a, items.findSome? step = some a ∧ step y = some a ∧ y ∈ items ∧
      (y = x ∨ [y, x].Sublist items) := by
  obtain ⟨a, ha⟩ : ∃ a, items.findSome? step = some a := by
    rw [← Option.isSome_iff_exists, List.findSome?_isSome_iff]
    exact ⟨x, hmem, by simp [hstep]⟩
  obtain ⟨before, y, after, rfl, hy, hbefore⟩ := List.findSome?_eq_some_iff.1 ha
  refine ⟨y, a, ha, hy, by simp, ?_⟩
  rcases List.mem_append.1 hmem with hmem | hmem
  · rw [hbefore x hmem] at hstep
    cases hstep
  · rcases List.mem_cons.1 hmem with rfl | hmem
    · exact .inl rfl
    · right
      have hpair : [y, x].Sublist (y :: after) := (List.singleton_sublist.2 hmem).cons_cons y
      exact hpair.trans (List.sublist_append_right _ _)

deriving instance DecidableEq for Ascent

/-- The certificates above the one a way up starts at. -/
def Ascent.certificates (ascent : Ascent) : List Certificate :=
  ascent.intermediates ++ [ascent.trustAnchor]

@[simp] theorem Ascent.certificates_through (c : Certificate) (ascent : Ascent) :
    (ascent.through c).certificates = c :: ascent.certificates := rfl

namespace PathSearch

variable (verifiers : Verifiers) (filter : Bool) (pool : ClassifiedPool)

/-- One step up, to a trust anchor. -/
def stepToAnchor (route : List Octets) (current anchor : Certificate) :
    Option Ascent :=
  if anchor.encoding ∉ route ∧ verifiers.IsCandidate filter current anchor then some ⟨[], anchor⟩
  else none

/-- The plain depth-first search for a way up: it records no dead ends. -/
def climb? (route : List Octets) (current : Certificate) : Option Ascent :=
  (pool.trustAnchors.findSome? (stepToAnchor verifiers filter route current)).or <|
    pool.intermediates.attach.findSome? fun c =>
      if c.1.encoding ∉ route ∧ verifiers.IsCandidate filter current c.1 then
        (climb? (c.1.encoding :: route) c.1).map (Ascent.through c.1)
      else none
termination_by remaining pool.intermediates route
decreasing_by
  rename_i h
  exact remaining_cons_lt c.2 h.1

/-- One step up, to an intermediate, and the rest of the way from there. -/
def stepThrough (route : List Octets) (current c : Certificate) : Option Ascent :=
  if c.encoding ∉ route ∧ verifiers.IsCandidate filter current c then
    (climb? verifiers filter pool (c.encoding :: route) c).map (Ascent.through c)
  else none

theorem climb?_eq (route : List Octets) (current : Certificate) :
    climb? verifiers filter pool route current =
      (pool.trustAnchors.findSome? (stepToAnchor verifiers filter route current)).or
        (pool.intermediates.findSome? (stepThrough verifiers filter pool route current)) := by
  rw [climb?]
  congr 1
  rw [List.findSome?_subtype (g := stepThrough verifiers filter pool route current)]
  · rw [List.unattach_attach]
  · exact fun c _ => rfl

/-- The ways up from a certificate that keep off a route. -/
inductive Climbs : List Octets → Certificate → Ascent → Prop where
  | stop {route : List Octets} {current anchor : Certificate} :
      anchor ∈ pool.trustAnchors → anchor.encoding ∉ route →
      verifiers.IsCandidate filter current anchor → Climbs route current ⟨[], anchor⟩
  | through {route : List Octets} {current c : Certificate} {ascent : Ascent} :
      c ∈ pool.intermediates → c.encoding ∉ route → verifiers.IsCandidate filter current c →
      Climbs (c.encoding :: route) c ascent → Climbs route current (ascent.through c)

variable {verifiers filter pool}

/-- What the plain search finds is a way up. -/
theorem climbs_of_climb? {route : List Octets} {current : Certificate} {ascent : Ascent}
    (h : climb? verifiers filter pool route current = some ascent) :
    Climbs verifiers filter pool route current ascent := by
  induction hn : remaining pool.intermediates route using Nat.strong_induction_on
    generalizing route current ascent with
  | _ n ih =>
      rw [climb?_eq, Option.or_eq_some_iff] at h
      rcases h with h | ⟨-, h⟩
      · obtain ⟨anchor, hmem, hstep⟩ := List.exists_of_findSome?_eq_some h
        rw [stepToAnchor, Option.ite_none_right_eq_some] at hstep
        obtain ⟨⟨hnew, hcandidate⟩, heq⟩ := hstep
        exact Option.some.inj heq ▸ .stop hmem hnew hcandidate
      · obtain ⟨c, hmem, hstep⟩ := List.exists_of_findSome?_eq_some h
        rw [stepThrough, Option.ite_none_right_eq_some] at hstep
        obtain ⟨⟨hnew, hcandidate⟩, hrest⟩ := hstep
        obtain ⟨rest, hclimb, rfl⟩ := Option.map_eq_some_iff.1 hrest
        have hlt := hn ▸ remaining_cons_lt hmem hnew
        exact .through hmem hnew hcandidate (ih _ hlt hclimb rfl)

/-- Where there is a way up the plain search finds one, and the one it finds comes first. -/
theorem exists_climb?_of_climbs (hnodup : (pool.members.map Certificate.encoding).Nodup)
    {route : List Octets} {current : Certificate} {other : Ascent}
    (h : Climbs verifiers filter pool route current other) :
    ∃ ascent, climb? verifiers filter pool route current = some ascent ∧
      (ascent = other ∨ List.Lex pool.Prefers ascent.certificates other.certificates) := by
  induction h with
  | @stop route current anchor hmem hnew hcandidate =>
      have hstep : stepToAnchor verifiers filter route current anchor = some ⟨[], anchor⟩ :=
        if_pos ⟨hnew, hcandidate⟩
      obtain ⟨first, ascent, hfound, hfirst, -, hbefore⟩ := exists_findSome?_of_mem hmem hstep
      refine ⟨ascent, by rw [climb?_eq, hfound, Option.some_or], ?_⟩
      rw [stepToAnchor, Option.ite_none_right_eq_some] at hfirst
      obtain rfl := Option.some.inj hfirst.2
      rcases hbefore with rfl | hbefore
      · exact .inl rfl
      · exact .inr (.rel (ClassifiedPool.prefers_of_sublist hnodup
          (hbefore.trans (List.sublist_append_left _ _))))
  | @through route current c other hmem hnew hcandidate _ ih =>
      obtain ⟨rest, hrest, hcompare⟩ := ih
      cases hanchors :
          pool.trustAnchors.findSome? (stepToAnchor verifiers filter route current) with
      | some ascent =>
          -- a trust anchor right here is preferred to any intermediate
          refine ⟨ascent, by rw [climb?_eq, hanchors, Option.some_or], ?_⟩
          obtain ⟨anchor, hanchor, hstep⟩ := List.exists_of_findSome?_eq_some hanchors
          rw [stepToAnchor, Option.ite_none_right_eq_some] at hstep
          obtain rfl := Option.some.inj hstep.2
          have hbefore : [anchor, c].Sublist pool.members :=
            (List.singleton_sublist.2 hanchor).append (List.singleton_sublist.2 hmem)
          exact .inr (.rel (ClassifiedPool.prefers_of_sublist hnodup hbefore))
      | none =>
          have hstep : stepThrough verifiers filter pool route current c =
              some (rest.through c) := by
            rw [stepThrough, if_pos ⟨hnew, hcandidate⟩, hrest, Option.map_some]
          obtain ⟨first, ascent, hfound, hfirst, -, hbefore⟩ := exists_findSome?_of_mem hmem hstep
          refine ⟨ascent, by rw [climb?_eq, hanchors, Option.none_or, hfound], ?_⟩
          rcases hbefore with rfl | hbefore
          · obtain rfl := Option.some.inj (hstep.symm.trans hfirst)
            rcases hcompare with rfl | hlex
            · exact .inl rfl
            · exact .inr (.cons hlex)
          · rw [stepThrough, Option.ite_none_right_eq_some] at hfirst
            obtain ⟨way, -, rfl⟩ := Option.map_eq_some_iff.1 hfirst.2
            exact .inr (.rel (ClassifiedPool.prefers_of_sublist hnodup
              (hbefore.trans (List.sublist_append_right _ _))))

/-- The plain search fails only where there is no way up. -/
theorem climb?_eq_none_iff (hnodup : (pool.members.map Certificate.encoding).Nodup)
    {route : List Octets} {current : Certificate} :
    climb? verifiers filter pool route current = none ↔
      ∀ ascent, ¬ Climbs verifiers filter pool route current ascent := by
  constructor
  · intro hnone ascent hclimbs
    obtain ⟨first, hsome, -⟩ := exists_climb?_of_climbs hnodup hclimbs
    rw [hnone] at hsome
    cases hsome
  · intro hnone
    cases hfound : climb? verifiers filter pool route current with
    | none => rfl
    | some ascent => exact absurd (climbs_of_climb? hfound) (hnone ascent)

end PathSearch

end TrustChain
