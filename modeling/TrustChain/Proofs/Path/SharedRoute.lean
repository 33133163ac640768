import TrustChain.Proofs.Path.SearchRun
import Mathlib.Data.Finset.Basic
import Mathlib.Data.Finset.Dedup

/-!
# The search on one shared route

The search passes a longer route to each certificate it goes on to. It can also be run on one route
that is kept in the state: a certificate is put on it before the search goes on there, and taken off
again when that was in vain. How deep the search goes is then limited by a number, and who examines
signatures may remember what was asked and answer as it likes.

Such a run ends before it is cut off and leaves the route as it was whenever it finds nothing. The
two ways to run the search do the same.
-/

namespace TrustChain

/-- Answers whether the key of the second certificate verifies the signature of the first, and
remembers what it likes. -/
abbrev Examiner (σ : Type) := Certificate → Certificate → σ → Except Error SignatureStatus × σ

/-- The examiner that puts every signature to some verifiers. -/
def Verifiers.examiner (verifiers : Verifiers) : Examiner Unit :=
  fun child parent memory => ((verifiers.certificateSignature child parent).value, memory)

/-- The state of a search on one route. -/
structure Walk (σ : Type) where
  /-- What the examiner remembers. -/
  memory : σ
  /-- The encodings of the certificates on the route, that of the target among them. -/
  onRoute : Finset Octets
  /-- The intermediates on the route, from the target upwards. -/
  route : List Certificate
  deadEnds : Finset Octets
  /-- The first signature that could not be evaluated. -/
  fault? : Option Fault
  /-- The certificates whose issuers were looked for, the latest first. -/
  entered : List Certificate
  /-- The links whose signatures were examined, the latest first. -/
  examined : List (Certificate × Certificate)

namespace Walk

/-- How a search that finds something ends, or one that has gone too deep. -/
inductive Ending where
  | reached (anchor : Certificate)
  | cutOff

section Steps

variable {σ : Type}

def start (target : Certificate) (memory : σ) : Walk σ :=
  ⟨memory, {target.encoding}, [], ∅, none, [], []⟩

def enter (walk : Walk σ) (c : Certificate) : Walk σ := { walk with entered := c :: walk.entered }

def close (walk : Walk σ) (c : Certificate) : Walk σ :=
  { walk with deadEnds := insert c.encoding walk.deadEnds }

/-- Puts a certificate on the route. -/
def push (walk : Walk σ) (c : Certificate) : Walk σ :=
  { walk with onRoute := insert c.encoding walk.onRoute, route := walk.route ++ [c] }

/-- Takes a certificate off the route. -/
def pop (walk : Walk σ) (c : Certificate) : Walk σ :=
  { walk with onRoute := walk.onRoute.erase c.encoding, route := walk.route.dropLast }

/-- Puts the signature of a link to the examiner. -/
def ask (examine : Examiner σ) (child parent : Certificate) (walk : Walk σ) : Bool × Walk σ :=
  let (answer, memory) := examine child parent walk.memory
  let walk := { walk with memory, examined := (child, parent) :: walk.examined }
  match answer with
  | .ok .valid => (true, walk)
  | .ok .invalid => (false, walk)
  | .error e => (false, { walk with fault? := walk.fault?.or (some ⟨e, child, some parent⟩) })

/-- Whether `parent` is taken for the issuer of `child`. -/
def look (examine : Examiner σ) (filter : Bool) (child parent : Certificate) (walk : Walk σ) :
    Bool × Walk σ :=
  if parent.encoding ∈ walk.onRoute then (false, walk)
  else if !parent.subject.agrees child.issuer then (false, walk)
  else if !filter then (true, walk)
  else walk.ask examine child parent

def tryAnchor (examine : Examiner σ) (filter : Bool) (current anchor : Certificate)
    (walk : Walk σ) : Option Ending × Walk σ :=
  match walk.look examine filter current anchor with
  | (true, walk) => (some (.reached anchor), walk)
  | (false, walk) => (none, walk)

/-- Goes on to an intermediate, if it can be followed, and comes back from it. -/
def tryIntermediate (examine : Examiner σ) (filter : Bool)
    (recurse : Certificate → Walk σ → Option Ending × Walk σ) (current c : Certificate)
    (walk : Walk σ) : Option Ending × Walk σ :=
  if c.encoding ∈ walk.deadEnds then (none, walk)
  else
    match walk.look examine filter current c with
    | (false, walk) => (none, walk)
    | (true, walk) =>
      match recurse c (walk.push c) with
      | (some ending, walk) => (some ending, walk)
      | (none, walk) => (none, walk.pop c)

/-- Looks for a way up from a certificate that is on the route. -/
def extend (examine : Examiner σ) (filter : Bool) (pool : ClassifiedPool) :
    Nat → Certificate → Walk σ → Option Ending × Walk σ
  | 0, _, walk => (some .cutOff, walk)
  | depth + 1, current, walk =>
    match firstFound (tryAnchor examine filter current) pool.trustAnchors
        (walk.enter current) with
    | (some ending, walk) => (some ending, walk)
    | (none, walk) =>
      match firstFound
          (tryIntermediate examine filter (extend examine filter pool depth) current)
          pool.intermediates walk with
      | (some ending, walk) => (some ending, walk)
      | (none, walk) => (none, walk.close current)

/-- The whole search for a way up from a target, no deeper than the intermediates go. -/
def find (examine : Examiner σ) (filter : Bool) (pool : ClassifiedPool) (target : Certificate)
    (memory : σ) : Option Ending × Walk σ :=
  extend examine filter pool (pool.intermediates.length + 1) target (start target memory)

end Steps

/-! ### Looking at a link -/

section Look

variable {σ : Type} {examine : Examiner σ} {filter : Bool} {child parent : Certificate}
  {walk : Walk σ}

/-- Asking notes the link and touches nothing but what the examiner and the fault are. -/
theorem ask_snd (examine : Examiner σ) (child parent : Certificate) (walk : Walk σ) :
    ∃ memory fault?, (walk.ask examine child parent).2 =
      { walk with memory, fault?, examined := (child, parent) :: walk.examined } := by
  unfold ask
  rcases examine child parent walk.memory with ⟨answer, memory⟩
  rcases answer with e | status
  · exact ⟨_, _, rfl⟩
  · cases status <;> exact ⟨_, _, rfl⟩

theorem look_cases (examine : Examiner σ) (filter : Bool) (child parent : Certificate)
    (walk : Walk σ) :
    walk.look examine filter child parent = (false, walk) ∨
      parent.encoding ∉ walk.onRoute ∧
        (walk.look examine filter child parent = (true, walk) ∨
          walk.look examine filter child parent = walk.ask examine child parent) := by
  unfold look
  split_ifs with hroute hname hfilter
  · exact .inl rfl
  · exact .inl rfl
  · exact .inr ⟨hroute, .inl rfl⟩
  · exact .inr ⟨hroute, .inr rfl⟩

theorem notMem_onRoute_of_look (h : (walk.look examine filter child parent).1 = true) :
    parent.encoding ∉ walk.onRoute := by
  rcases look_cases examine filter child parent walk with hskip | ⟨hroute, -⟩
  · rw [hskip] at h
    cases h
  · exact hroute

/-- A look leaves everything as it is, or notes a link to a certificate that is off the route. -/
theorem look_snd_cases (examine : Examiner σ) (filter : Bool) (child parent : Certificate)
    (walk : Walk σ) :
    (walk.look examine filter child parent).2 = walk ∨
      parent.encoding ∉ walk.onRoute ∧ ∃ memory fault?,
        (walk.look examine filter child parent).2 =
          { walk with memory, fault?, examined := (child, parent) :: walk.examined } := by
  rcases look_cases examine filter child parent walk with h | ⟨hroute, h | h⟩
  · exact .inl (by rw [h])
  · exact .inl (by rw [h])
  · exact .inr ⟨hroute, by rw [h]; exact ask_snd examine child parent walk⟩

@[simp] theorem onRoute_look :
    (walk.look examine filter child parent).2.onRoute = walk.onRoute := by
  rcases look_snd_cases examine filter child parent walk with h | ⟨-, _, _, h⟩ <;> rw [h]

@[simp] theorem route_look :
    (walk.look examine filter child parent).2.route = walk.route := by
  rcases look_snd_cases examine filter child parent walk with h | ⟨-, _, _, h⟩ <;> rw [h]

@[simp] theorem deadEnds_look :
    (walk.look examine filter child parent).2.deadEnds = walk.deadEnds := by
  rcases look_snd_cases examine filter child parent walk with h | ⟨-, _, _, h⟩ <;> rw [h]

end Look

/-! ### Loops -/

/-- What holds of the items that are left, step by step, holds of none that are left if nothing is
found, and held before the step that found something. -/
theorem firstFound_invariant {α β σ : Type} {step : α → σ → Option β × σ}
    {P : List α → σ → Prop}
    (hstep : ∀ item rest state, P (item :: rest) state → ∀ after,
      step item state = (none, after) → P rest after)
    {items : List α} {state : σ} (h : P items state) :
    (∀ after, firstFound step items state = (none, after) → P [] after) ∧
    ∀ found after, firstFound step items state = (some found, after) →
      ∃ item rest before, P (item :: rest) before ∧ step item before = (some found, after) := by
  induction items generalizing state with
  | nil =>
      refine ⟨?_, ?_⟩
      · rintro after ⟨⟩
        exact h
      · rintro found after ⟨⟩
  | cons item rest ih =>
      rw [firstFound]
      cases hitem : step item state with
      | mk found between =>
          cases found with
          | none => exact ih (hstep item rest state h between hitem)
          | some found =>
              refine ⟨?_, ?_⟩
              · rintro after ⟨⟩
              · rintro found after ⟨⟩
                exact ⟨item, rest, state, h, hitem⟩

section Loops

variable {σ : Type} {examine : Examiner σ} {filter : Bool} {pool : ClassifiedPool}
  {recurse : Certificate → Walk σ → Option Ending × Walk σ} {depth : Nat}
  {current : Certificate} {walk after : Walk σ} {found : Option Ending}

theorem look_of_tryAnchor {anchor : Certificate}
    (h : tryAnchor examine filter current anchor walk = (found, after)) :
    after = (walk.look examine filter current anchor).2 ∧
      (found = none ∨ found = some (.reached anchor)) := by
  unfold tryAnchor at h
  rcases hlook : walk.look examine filter current anchor with ⟨answer, looked⟩
  rw [hlook] at h
  cases answer <;> cases h
  · exact ⟨rfl, .inl rfl⟩
  · exact ⟨rfl, .inr rfl⟩

/-- An intermediate is passed over, refused, or gone on to. -/
theorem tryIntermediate_cases {c : Certificate}
    (h : tryIntermediate examine filter recurse current c walk = (found, after)) :
    (found = none ∧ after = walk) ∨
    (found = none ∧ after = (walk.look examine filter current c).2) ∨
    (c.encoding ∉ walk.deadEnds ∧ c.encoding ∉ walk.onRoute ∧ ∃ between,
      recurse c ((walk.look examine filter current c).2.push c) = (found, between) ∧
        after = if found.isNone then between.pop c else between) := by
  unfold tryIntermediate at h
  split_ifs at h with hdead
  · cases h
    exact .inl ⟨rfl, rfl⟩
  · right
    rcases hlook : walk.look examine filter current c with ⟨answer, looked⟩
    cases answer with
    | false =>
        rw [hlook] at h
        cases h
        exact .inl ⟨rfl, rfl⟩
    | true =>
        have hnew := @notMem_onRoute_of_look σ examine filter current c walk (by rw [hlook])
        refine .inr ⟨hdead, hnew, ?_⟩
        rw [hlook] at h
        dsimp only at h ⊢
        rcases hdown : recurse c (looked.push c) with ⟨ending, between⟩
        rw [hdown] at h
        cases ending <;> cases h <;> exact ⟨_, rfl, rfl⟩

/-- A search ends at a trust anchor, ends above an intermediate, or closes the certificate. -/
theorem extend_cases
    (h : extend examine filter pool (depth + 1) current walk = (found, after)) :
    (∃ ending, found = some ending ∧
      firstFound (tryAnchor examine filter current) pool.trustAnchors (walk.enter current) =
        (some ending, after)) ∨
    ∃ between,
      firstFound (tryAnchor examine filter current) pool.trustAnchors (walk.enter current) =
        (none, between) ∧
      ((∃ ending, found = some ending ∧
        firstFound (tryIntermediate examine filter (extend examine filter pool depth) current)
          pool.intermediates between = (some ending, after)) ∨
      ∃ left, found = none ∧ after = left.close current ∧
        firstFound (tryIntermediate examine filter (extend examine filter pool depth) current)
          pool.intermediates between = (none, left)) := by
  rw [extend] at h
  rcases hanchors : firstFound (tryAnchor examine filter current) pool.trustAnchors
    (walk.enter current) with ⟨ending | ending, between⟩
  · rw [hanchors] at h
    refine .inr ⟨between, rfl, ?_⟩
    dsimp only at h
    rcases hintermediates : firstFound
        (tryIntermediate examine filter (extend examine filter pool depth) current)
        pool.intermediates between with ⟨ending | ending, left⟩
    · rw [hintermediates] at h
      cases h
      exact .inr ⟨left, rfl, rfl, rfl⟩
    · rw [hintermediates] at h
      cases h
      exact .inl ⟨ending, rfl, rfl⟩
  · rw [hanchors] at h
    cases h
    exact .inl ⟨ending, rfl, rfl⟩

end Loops

/-! ### The route is left as it was -/

section Restore

variable {σ : Type} {examine : Examiner σ} {filter : Bool} {pool : ClassifiedPool}

/-- Two states have the same route. -/
structure SameRoute (walk other : Walk σ) : Prop where
  route : walk.route = other.route
  onRoute : walk.onRoute = other.onRoute

theorem SameRoute.of_look {walk other : Walk σ} {child parent : Certificate}
    (h : SameRoute walk other) :
    SameRoute (walk.look examine filter child parent).2 other :=
  ⟨by rw [route_look, h.route], by rw [onRoute_look, h.onRoute]⟩

/-- A certificate that was not on the route is put on it and taken off again. -/
theorem SameRoute.pop {walk between : Walk σ} {c : Certificate}
    (h : SameRoute between (walk.push c)) (hnew : c.encoding ∉ walk.onRoute) :
    SameRoute (between.pop c) walk := by
  constructor
  · simp [Walk.pop, h.route, push]
  · simp [Walk.pop, h.onRoute, push, hnew]

theorem sameRoute_tryAnchors {current : Certificate} {anchors : List Certificate}
    {walk after : Walk σ}
    (h : firstFound (tryAnchor examine filter current) anchors (walk.enter current) =
      (none, after)) :
    SameRoute after walk := by
  have henter : SameRoute (walk.enter current) walk := ⟨rfl, rfl⟩
  refine (firstFound_invariant (P := fun _ state => SameRoute state walk) ?_ henter).1 after h
  intro anchor rest state hstate after hstep
  obtain ⟨rfl, -⟩ := look_of_tryAnchor hstep
  exact hstate.of_look

theorem sameRoute_tryIntermediate {recurse : Certificate → Walk σ → Option Ending × Walk σ}
    (hrec : ∀ c walk after, recurse c walk = (none, after) → SameRoute after walk)
    {current c : Certificate} {walk after : Walk σ}
    (h : tryIntermediate examine filter recurse current c walk = (none, after)) :
    SameRoute after walk := by
  rcases tryIntermediate_cases h with ⟨-, rfl⟩ | ⟨-, rfl⟩ | ⟨-, hnew, between, hdown, rfl⟩
  · exact ⟨rfl, rfl⟩
  · exact SameRoute.of_look ⟨rfl, rfl⟩
  · have hpop := (hrec c _ between hdown).pop (by simpa using hnew)
    exact ⟨by simpa using hpop.route, by simpa using hpop.onRoute⟩

/-- A search that finds nothing leaves the route as it was. -/
theorem sameRoute_of_extend {depth : Nat} {current : Certificate} {walk after : Walk σ}
    (h : extend examine filter pool depth current walk = (none, after)) :
    SameRoute after walk := by
  induction depth generalizing current walk after with
  | zero => cases h
  | succ depth ih =>
      obtain ⟨_, hfound, -⟩ | ⟨between, hanchors, ⟨_, hfound, -⟩ | ⟨left, -, rfl, hrest⟩⟩ :=
        extend_cases h
      · cases hfound
      · cases hfound
      · have hleft : SameRoute left walk := by
          refine (firstFound_invariant (P := fun _ state => SameRoute state walk) ?_
            (sameRoute_tryAnchors hanchors)).1 left hrest
          intro c rest state hstate after hstep
          have hsame := sameRoute_tryIntermediate (fun c walk after => ih) hstep
          exact ⟨hsame.route.trans hstate.route, hsame.onRoute.trans hstate.onRoute⟩
        exact ⟨hleft.route, hleft.onRoute⟩

/-- A search that finds nothing gives the certificate up. -/
theorem mem_deadEnds_of_extend {depth : Nat} {current : Certificate} {walk after : Walk σ}
    (h : extend examine filter pool depth current walk = (none, after)) :
    current.encoding ∈ after.deadEnds := by
  cases depth with
  | zero => cases h
  | succ depth =>
      obtain ⟨_, hfound, -⟩ | ⟨_, -, ⟨_, hfound, -⟩ | ⟨left, -, rfl, -⟩⟩ := extend_cases h
      · cases hfound
      · cases hfound
      · exact Finset.mem_insert_self _ _

end Restore

/-! ### The search is not cut off -/

section Depth

variable {σ : Type} {examine : Examiner σ} {filter : Bool} {pool : ClassifiedPool}

theorem not_cutOff_tryAnchors {current : Certificate} {walk after : Walk σ}
    {anchors : List Certificate} :
    firstFound (tryAnchor examine filter current) anchors walk ≠ (some .cutOff, after) := by
  intro h
  obtain ⟨anchor, -, before, -, hstep⟩ :=
    (firstFound_invariant (P := fun _ _ => True) (fun _ _ _ _ _ _ => trivial) trivial).2 _ _ h
  obtain ⟨-, hfound | hfound⟩ := look_of_tryAnchor hstep <;> cases hfound

/-- A search does not go deeper than there are intermediates off the route. -/
theorem extend_ne_cutOff {depth : Nat} {current : Certificate} {walk after : Walk σ}
    {route : List Octets} (hroute : walk.onRoute = route.toFinset)
    (hdepth : PathSearch.remaining pool.intermediates route < depth) :
    extend examine filter pool depth current walk ≠ (some .cutOff, after) := by
  induction depth generalizing current walk after route with
  | zero => exact absurd hdepth (Nat.not_lt_zero _)
  | succ depth ih =>
      intro h
      obtain ⟨_, hfound, hanchors⟩ |
        ⟨between, hanchors, ⟨_, hfound, hrest⟩ | ⟨_, hfound, -, -⟩⟩ := extend_cases h
      · cases hfound
        exact not_cutOff_tryAnchors hanchors
      · cases hfound
        -- The route is `route` whenever the next intermediate is tried.
        obtain ⟨c, rest, before, ⟨hmem, hbefore⟩, hstep⟩ :=
          (firstFound_invariant
            (P := fun untried state => untried ⊆ pool.intermediates ∧ SameRoute state walk)
            (fun c rest state hstate after hstep => by
              have hsame := sameRoute_tryIntermediate (fun _ _ _ => sameRoute_of_extend) hstep
              exact ⟨(List.cons_subset.1 hstate.1).2, hsame.route.trans hstate.2.route,
                hsame.onRoute.trans hstate.2.onRoute⟩)
            ⟨List.Subset.refl _, sameRoute_tryAnchors hanchors⟩).2 _ _ hrest
        obtain ⟨hfound, -⟩ | ⟨hfound, -⟩ | ⟨-, hnew, between, hdown, -⟩ :=
          tryIntermediate_cases hstep
        · cases hfound
        · cases hfound
        · rw [hbefore.onRoute, hroute, List.mem_toFinset] at hnew
          have hless := PathSearch.remaining_cons_lt (List.cons_subset.1 hmem).1 hnew
          have hpush : ((before.look examine filter current c).2.push c).onRoute =
              (c.encoding :: route).toFinset := by
            simp [push, hbefore.onRoute, hroute]
          exact ih hpush (by omega) hdown
      · cases hfound

theorem find_ne_cutOff (examine : Examiner σ) (filter : Bool) (pool : ClassifiedPool)
    (target : Certificate) (memory : σ) :
    (find examine filter pool target memory).1 ≠ some .cutOff := by
  intro h
  have hstart : (start target memory).onRoute = [target.encoding].toFinset := rfl
  exact extend_ne_cutOff hstart (Nat.lt_succ_of_le List.countP_le_length) (Prod.ext h rfl)

end Depth

/-! ### Agreement with the search that passes its route on -/

/-- What has been learnt, with the route that it was learnt on. -/
def ofSearch (path : List Certificate) (route : List Octets) (search : PathSearch) : Walk Unit where
  memory := ()
  onRoute := route.toFinset
  route := path
  deadEnds := search.deadEnds.toFinset
  fault? := search.fault?
  entered := search.explored
  examined := search.examinations.map fun x => (x.child, x.parent)

theorem mem_onRoute_ofSearch {path : List Certificate} {route : List Octets} {search : PathSearch}
    {encoding : Octets} :
    encoding ∈ (ofSearch path route search).onRoute ↔ encoding ∈ route :=
  List.mem_toFinset

theorem mem_deadEnds_ofSearch {path : List Certificate} {route : List Octets}
    {search : PathSearch} {encoding : Octets} :
    encoding ∈ (ofSearch path route search).deadEnds ↔ encoding ∈ search.deadEnds :=
  List.mem_toFinset

/-- How the search on one route ends when the other search ends as given. -/
def ended (path : List Certificate) (route : List Octets) :
    Option Ascent × PathSearch → Option Ending × Walk Unit
  | (none, search) => (none, ofSearch path route search)
  | (some ascent, search) =>
    (some (.reached ascent.trustAnchor),
      ofSearch (path ++ ascent.intermediates)
        (ascent.intermediates.reverse.map Certificate.encoding ++ route) search)

theorem firstFound_ended {path : List Certificate} {route : List Octets}
    {step : Certificate → PathSearch → Option Ascent × PathSearch}
    {other : Certificate → Walk Unit → Option Ending × Walk Unit} {items : List Certificate}
    (hstep : ∀ c ∈ items, ∀ search,
      other c (ofSearch path route search) = ended path route (step c search))
    (search : PathSearch) :
    firstFound other items (ofSearch path route search) =
      ended path route (firstFound step items search) := by
  induction items generalizing search with
  | nil => rfl
  | cons c rest ih =>
      rw [firstFound, firstFound, hstep c List.mem_cons_self]
      rcases step c search with ⟨ascent | ascent, between⟩
      · exact ih (fun d hd => hstep d (List.mem_cons_of_mem c hd)) between
      · rfl

section Agreement

variable (verifiers : Verifiers) (filter : Bool) (pool : ClassifiedPool)

theorem fault?_record (search : PathSearch) (x : Examination) :
    (search.record x).fault? = search.fault?.or x.fault? := by
  simp [PathSearch.record, PathSearch.fault?, List.findSome?_append]

theorem ask_ofSearch (path : List Certificate) (route : List Octets) (child parent : Certificate)
    (search : PathSearch) :
    (ofSearch path route search).ask verifiers.examiner child parent =
      ((verifiers.certificateSignature child parent).value matches .ok .valid,
        ofSearch path route
          (search.record ⟨child, parent, verifiers.certificateSignature child parent⟩)) := by
  rw [ofSearch, ofSearch, fault?_record]
  unfold ask Verifiers.examiner Examination.fault?
  cases hvalue : (verifiers.certificateSignature child parent).value with
  | error e => simp [PathSearch.record]
  | ok status => cases status <;> simp [PathSearch.record]

theorem look_ofSearch (path : List Certificate) (route : List Octets) (child parent : Certificate)
    (search : PathSearch) :
    (ofSearch path route search).look verifiers.examiner filter child parent =
      if parent.encoding ∈ route then (false, ofSearch path route search)
      else
        ((PathSearch.follows verifiers filter child parent search).1,
          ofSearch path route (PathSearch.follows verifiers filter child parent search).2) := by
  unfold look PathSearch.follows
  rw [ask_ofSearch]
  simp only [mem_onRoute_ofSearch]
  split_ifs <;> rfl

theorem tryAnchor_ofSearch (path : List Certificate) (route : List Octets)
    (current anchor : Certificate) (search : PathSearch) :
    tryAnchor verifiers.examiner filter current anchor (ofSearch path route search) =
      ended path route (PathSearch.tryAnchor verifiers filter route current anchor search) := by
  unfold tryAnchor PathSearch.tryAnchor
  rw [look_ofSearch]
  split_ifs with hroute
  · rfl
  · rcases PathSearch.follows verifiers filter current anchor search with ⟨answer, looked⟩
    cases answer
    · rfl
    · simp [ended]

theorem tryIntermediate_ofSearch {depth : Nat} (path : List Certificate) (route : List Octets)
    (current c : Certificate) (search : PathSearch)
    (hrec : c.encoding ∉ route → ∀ search,
      extend verifiers.examiner filter pool depth c
          (ofSearch (path ++ [c]) (c.encoding :: route) search) =
        ended (path ++ [c]) (c.encoding :: route)
          (PathSearch.explore verifiers filter pool (c.encoding :: route) c search)) :
    tryIntermediate verifiers.examiner filter (extend verifiers.examiner filter pool depth)
        current c (ofSearch path route search) =
      ended path route
        (PathSearch.tryIntermediate verifiers filter pool route current c search) := by
  unfold tryIntermediate PathSearch.tryIntermediate
  rw [look_ofSearch]
  by_cases hdead : c.encoding ∈ search.deadEnds
  · rw [if_pos (mem_deadEnds_ofSearch.2 hdead), if_pos (.inl hdead)]
    rfl
  rw [if_neg (mt mem_deadEnds_ofSearch.1 hdead)]
  by_cases hroute : c.encoding ∈ route
  · rw [if_pos hroute, if_pos (.inr hroute)]
    rfl
  rw [if_neg hroute, if_neg (not_or.2 ⟨hdead, hroute⟩)]
  rcases PathSearch.follows verifiers filter current c search with ⟨answer, looked⟩
  cases answer with
  | false => rfl
  | true =>
      have hpush : (ofSearch path route looked).push c =
          ofSearch (path ++ [c]) (c.encoding :: route) looked := by
        simp [ofSearch, push]
      dsimp only
      rw [hpush, hrec hroute]
      rcases PathSearch.explore verifiers filter pool (c.encoding :: route) c looked with
        ⟨ascent | ascent, between⟩
      · simp [ended, ofSearch, pop, hroute]
      · simp [ended, Ascent.through]

/-- The search on one route does what the other search does. -/
theorem extend_ofSearch {depth : Nat} {route : List Octets}
    (hdepth : PathSearch.remaining pool.intermediates route < depth) (path : List Certificate)
    (current : Certificate) (search : PathSearch) :
    extend verifiers.examiner filter pool depth current (ofSearch path route search) =
      ended path route (PathSearch.explore verifiers filter pool route current search) := by
  induction depth generalizing route path current search with
  | zero => exact absurd hdepth (Nat.not_lt_zero _)
  | succ depth ih =>
      have henter : (ofSearch path route search).enter current =
          ofSearch path route (search.enter current) := rfl
      rw [extend, PathSearch.explore_eq, henter,
        firstFound_ended fun anchor _ =>
          tryAnchor_ofSearch verifiers filter path route current anchor]
      rcases firstFound (PathSearch.tryAnchor verifiers filter route current) pool.trustAnchors
        (search.enter current) with ⟨ascent | ascent, between⟩
      · have hstep : ∀ c ∈ pool.intermediates, ∀ search,
            tryIntermediate verifiers.examiner filter (extend verifiers.examiner filter pool depth)
                current c (ofSearch path route search) =
              ended path route
                (PathSearch.tryIntermediate verifiers filter pool route current c search) := by
          intro c hmem search
          refine tryIntermediate_ofSearch verifiers filter pool path route current c search ?_
          intro hnew search
          have hless := PathSearch.remaining_cons_lt hmem hnew
          exact ih (by omega) _ c search
        dsimp only [ended]
        rw [firstFound_ended hstep]
        rcases firstFound (PathSearch.tryIntermediate verifiers filter pool route current)
          pool.intermediates between with ⟨ascent | ascent, left⟩
        · have hclose : (ofSearch path route left).close current =
              ofSearch path route (left.close current) := by
            simp only [ofSearch, close, PathSearch.close, List.toFinset_cons]
            rfl
          exact Prod.ext rfl hclose
        · rfl
      · rfl

theorem find_examiner (target : Certificate) :
    find verifiers.examiner filter pool target () =
      ended [] [target.encoding] (PathSearch.run verifiers filter pool target) := by
  have hdepth : PathSearch.remaining pool.intermediates [target.encoding] <
      pool.intermediates.length + 1 := Nat.lt_succ_of_le List.countP_le_length
  exact extend_ofSearch verifiers filter pool hdepth [] target .fresh

end Agreement

end Walk

end TrustChain
