import TrustChain.Pool

/-!
# Search for a path

The search is depth first. From a certificate it goes to those whose subject is the issuer of the
certificate and, where signatures are filtered, whose key verifies its signature: trust anchors
first, which end the search, then intermediates, each list in its order. A route never comes back to
a certificate it has passed, which bounds its length and makes the search end whatever cycles there
are among issuers. A certificate from which every way has been tried in vain is a dead end for the
rest of the search and is not tried again.

The state of the search holds what it has learnt. Every signature that was examined is kept with the
outcome, so that the journal of the search and the first failure to evaluate a signature can be read
off afterwards.
-/

namespace TrustChain

/-- Puts items to a step in turn until it finds something; the state passes from item to item. -/
def firstFound {α β σ : Type} (step : α → σ → Option β × σ) : List α → σ → Option β × σ
  | [], state => (none, state)
  | item :: rest, state =>
    match step item state with
    | (some found, state) => (some found, state)
    | (none, state) => firstFound step rest state

/-- The evaluation of the signature of `child` with the key of `parent`. -/
structure Examination where
  child : Certificate
  parent : Certificate
  outcome : Journaled (Except Error SignatureStatus)

namespace Examination

def skip (x : Examination) (reason : String) : Journal.Entry :=
  .logged ⟨.debug, "Skipping " ++ x.parent.subjectText ++ " as issuer of " ++ x.child.subjectText ++
    ": " ++ reason⟩

def journal (x : Examination) : List Journal.Entry :=
  x.outcome.entries ++
    match x.outcome.value with
    | .ok .valid => []
    | .ok .invalid => [x.skip "signature does not verify"]
    | .error e => [x.skip e.message]

/-- The failure of an examination that has none of the two answers. -/
def fault? (x : Examination) : Option Fault :=
  match x.outcome.value with
  | .ok _ => none
  | .error e => some ⟨e, x.child, some x.parent⟩

end Examination

/-- The way up from a certificate: the intermediates on it and the trust anchor at its end. -/
structure Ascent where
  intermediates : List Certificate
  trustAnchor : Certificate

/-- Goes through one more intermediate first. -/
def Ascent.through (c : Certificate) (ascent : Ascent) : Ascent :=
  { ascent with intermediates := c :: ascent.intermediates }

/-- What a search has learnt so far. -/
structure PathSearch where
  /-- The encodings of certificates from which no trust anchor was found. -/
  deadEnds : List Octets
  /-- The signatures examined, the latest first. -/
  examinations : List Examination
  /-- The certificates whose issuers were looked for, the latest first. -/
  explored : List Certificate

namespace PathSearch

def fresh : PathSearch := ⟨[], [], []⟩

/-- Starts on the issuers of a certificate. -/
def enter (search : PathSearch) (c : Certificate) : PathSearch :=
  { search with explored := c :: search.explored }

/-- Gives a certificate up. -/
def close (search : PathSearch) (c : Certificate) : PathSearch :=
  { search with deadEnds := c.encoding :: search.deadEnds }

def record (search : PathSearch) (x : Examination) : PathSearch :=
  { search with examinations := x :: search.examinations }

def journal (search : PathSearch) : List Journal.Entry :=
  search.examinations.reverse.flatMap Examination.journal

/-- The first signature that could not be evaluated. -/
def fault? (search : PathSearch) : Option Fault :=
  search.examinations.reverse.findSome? Examination.fault?

/-! ### Steps -/

variable (verifiers : Verifiers) (filter : Bool) (pool : ClassifiedPool)

/-- Whether `parent` is taken for the issuer of `child`. -/
def follows (child parent : Certificate) (search : PathSearch) : Bool × PathSearch :=
  if !parent.subject.agrees child.issuer then (false, search)
  else if !filter then (true, search)
  else
    let outcome := verifiers.certificateSignature child parent
    (outcome.value matches .ok .valid, search.record ⟨child, parent, outcome⟩)

/-- Ends the search at a trust anchor, if it can follow the current certificate. -/
def tryAnchor (route : List Octets) (current anchor : Certificate) (search : PathSearch) :
    Option Ascent × PathSearch :=
  if anchor.encoding ∈ route then (none, search)
  else
    match follows verifiers filter current anchor search with
    | (true, search) => (some ⟨[], anchor⟩, search)
    | (false, search) => (none, search)

/-- The number of certificates that a route has not passed. -/
def remaining (certificates : List Certificate) (route : List Octets) : Nat :=
  certificates.countP fun c => c.encoding ∉ route

/-- A step to a certificate that is not on the route leaves fewer to go. -/
theorem remaining_cons_lt {c : Certificate} {certificates : List Certificate}
    {route : List Octets} (hmem : c ∈ certificates) (hnew : c.encoding ∉ route) :
    remaining certificates (c.encoding :: route) < remaining certificates route := by
  unfold remaining
  induction certificates with
  | nil => cases hmem
  | cons d rest ih =>
    have hle : rest.countP (fun e => decide (e.encoding ∉ c.encoding :: route)) ≤
        rest.countP fun e => decide (e.encoding ∉ route) :=
      List.countP_mono_left fun e _ he => by simp_all
    rw [List.countP_cons, List.countP_cons]
    rcases List.mem_cons.1 hmem with rfl | hrest
    · rw [if_neg (by simp), if_pos (by simpa using hnew)]
      omega
    · have hlt := ih hrest
      by_cases hd : d.encoding ∈ route
      · rw [if_neg (by simp [hd]), if_neg (by simp [hd])]
        exact hlt
      · rw [if_pos (c := decide (d.encoding ∉ route) = true) (by simpa using hd)]
        split <;> omega

/-- Looks for a way up from a certificate. `route` holds the encodings of the certificates passed so
far, the current one among them. -/
def explore (route : List Octets) (current : Certificate) (search : PathSearch) :
    Option Ascent × PathSearch :=
  match firstFound (tryAnchor verifiers filter route current) pool.trustAnchors
      (search.enter current) with
  | (some ascent, search) => (some ascent, search)
  | (none, search) =>
    let tryIntermediate := fun (c : { c // c ∈ pool.intermediates }) (search : PathSearch) =>
      if c.1.encoding ∈ search.deadEnds ∨ c.1.encoding ∈ route then (none, search)
      else
        match follows verifiers filter current c.1 search with
        | (false, search) => (none, search)
        | (true, search) =>
          match explore (c.1.encoding :: route) c.1 search with
          | (some ascent, search) => (some (ascent.through c.1), search)
          | (none, search) => (none, search)
    match firstFound tryIntermediate pool.intermediates.attach search with
    | (some ascent, search) => (some ascent, search)
    | (none, search) => (none, search.close current)
termination_by remaining pool.intermediates route
decreasing_by
  rename_i hnew
  exact remaining_cons_lt c.2 fun hroute => hnew (.inr hroute)

/-- The whole search for a way up from a target. -/
def run (target : Certificate) : Option Ascent × PathSearch :=
  explore verifiers filter pool [target.encoding] target .fresh

end PathSearch

end TrustChain
