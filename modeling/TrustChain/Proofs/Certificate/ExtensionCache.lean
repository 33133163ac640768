import TrustChain.Proofs.Certificate.SignedPortion

/-!
# The cache of decoded extensions

A certificate remembers the extensions that have been decoded. Whatever is done with it, an entry
is what the first extension of its type reads as, so that a later parse is answered from the cache
as it would be without one. The step lemma says what one use adds to the cache, and the run lemma,
by induction on the uses, that what is found there is what a parse has yielded since the cache was
cleared for the last time.
-/

namespace TrustChain

/-- What may be done with the extensions of a certificate. -/
inductive ExtensionUse where
  | look (type : Oid)
  | parse (type : Oid)
  | parseAll (types : List Oid)
  | clear
  deriving DecidableEq

structure IsFirst (extensions : List Extension) (type : Oid) (extension : Extension) : Prop where
  type_eq : extension.type = type
  split : ∃ front back, extensions = front ++ extension :: back ∧
    ∀ other ∈ front, other.type ≠ type

/-- What the extensions of a type read as when nothing has been decoded. -/
inductive FirstReads (extensions : List Extension) (type : Oid) :
    Except Error (Option ParsedExtension) → Prop where
  | absent (habsent : ∀ extension ∈ extensions, extension.type ≠ type) :
      FirstReads extensions type (.ok none)
  | decoded {extension : Extension} {constraints : BasicConstraints}
      (hfirst : IsFirst extensions type extension) (hsupported : type = Oid.basicConstraints)
      (hdecoded : BasicConstraints.ofDer? extension.value = some constraints) :
      FirstReads extensions type (.ok (some (.basicConstraints constraints)))
  | undecodable {extension : Extension} (hfirst : IsFirst extensions type extension)
      (hsupported : type = Oid.basicConstraints)
      (hundecodable : BasicConstraints.ofDer? extension.value = none) :
      FirstReads extensions type (.error (.asn1 (.unplaced (.undecodable extension.value))))
  | unsupported {extension : Extension} (hfirst : IsFirst extensions type extension)
      (hunsupported : type ≠ Oid.basicConstraints) :
      FirstReads extensions type (.error .unrecognized)

/-! ### Without a cache -/

def readFirst (extensions : List Extension) (type : Oid) :
    Except Error (Option ParsedExtension) :=
  match extensions.find? (·.type = type) with
  | none => .ok none
  | some extension => (Certificate.parseValue extension).map some

theorem isFirst_iff {extensions : List Extension} {type : Oid} {extension : Extension} :
    IsFirst extensions type extension ↔
      extensions.find? (·.type = type) = some extension := by
  rw [List.find?_eq_some_iff_append]
  simp only [decide_eq_true_eq, Bool.not_eq_eq_eq_not, Bool.not_true, decide_eq_false_iff_not]
  exact ⟨fun h => ⟨h.type_eq, h.split⟩, fun h => ⟨h.1, h.2⟩⟩

theorem readFirst_eq_of_firstReads {extensions : List Extension} {type : Oid}
    {result : Except Error (Option ParsedExtension)} (h : FirstReads extensions type result) :
    readFirst extensions type = result := by
  unfold readFirst
  cases h with
  | absent habsent =>
      have hnone : extensions.find? (·.type = type) = none := by
        simpa using habsent
      rw [hnone]
  | decoded hfirst hsupported hdecoded =>
      rw [isFirst_iff.1 hfirst]
      dsimp only
      rw [Certificate.parseValue, if_pos (hfirst.type_eq.trans hsupported), hdecoded]
      rfl
  | undecodable hfirst hsupported hundecodable =>
      rw [isFirst_iff.1 hfirst]
      dsimp only
      rw [Certificate.parseValue, if_pos (hfirst.type_eq.trans hsupported), hundecodable]
      rfl
  | unsupported hfirst hunsupported =>
      rw [isFirst_iff.1 hfirst]
      dsimp only
      rw [Certificate.parseValue, if_neg (by rw [hfirst.type_eq]; exact hunsupported)]
      rfl

theorem firstReads_readFirst (extensions : List Extension) (type : Oid) :
    FirstReads extensions type (readFirst extensions type) := by
  unfold readFirst
  cases hfind : extensions.find? (·.type = type) with
  | none =>
      refine .absent ?_
      simpa using hfind
  | some extension =>
      have hfirst := isFirst_iff.2 hfind
      dsimp only
      unfold Certificate.parseValue
      split
      · rename_i hsupported
        rw [hfirst.type_eq] at hsupported
        cases hvalue : BasicConstraints.ofDer? extension.value with
        | some constraints => exact .decoded hfirst hsupported hvalue
        | none => exact .undecodable hfirst hsupported hvalue
      · rename_i hunsupported
        rw [hfirst.type_eq] at hunsupported
        exact .unsupported hfirst hunsupported

theorem readFirst_eq_iff {extensions : List Extension} {type : Oid}
    {result : Except Error (Option ParsedExtension)} :
    readFirst extensions type = result ↔ FirstReads extensions type result := by
  refine ⟨?_, readFirst_eq_of_firstReads⟩
  rintro rfl
  exact firstReads_readFirst extensions type

namespace Certificate

/-! ### One parse -/

/-- A parse is answered from the cache, or it yields a value that is remembered, or else nothing
changes. -/
theorem parseExtension_cases (c : Certificate) (type : Oid) :
    (∃ value, c.extension? type = some value ∧
      c.parseExtension type = (.ok (some value), c)) ∨
    (∃ value, c.extension? type = none ∧
      readFirst (c.body.extensions.getD []) type = .ok (some value) ∧
      c.parseExtension type =
        (.ok (some value), { c with parsed := c.parsed ++ [(type, value)] })) ∨
    (∃ result, c.extension? type = none ∧ (∀ value, result ≠ .ok (some value)) ∧
      readFirst (c.body.extensions.getD []) type = result ∧
      c.parseExtension type = (result, c)) := by
  unfold parseExtension readFirst
  cases hcached : c.extension? type with
  | some value => exact .inl ⟨value, rfl, rfl⟩
  | none =>
      cases (c.body.extensions.getD []).find? (·.type = type) with
      | none => exact .inr (.inr ⟨.ok none, rfl, by rintro value ⟨⟩, rfl, rfl⟩)
      | some extension =>
          dsimp only
          cases parseValue extension with
          | ok value => exact .inr (.inl ⟨value, rfl, rfl, rfl⟩)
          | error e => exact .inr (.inr ⟨.error e, rfl, by rintro value ⟨⟩, rfl, rfl⟩)

/-- After a parse the cache has what it had before, and what the parse has yielded. -/
theorem extension?_parseExtension (c : Certificate) (type other : Oid) (value : ParsedExtension) :
    (c.parseExtension type).2.extension? other = some value ↔
      (type = other ∧ (c.parseExtension type).1 = .ok (some value)) ∨
        c.extension? other = some value := by
  rcases c.parseExtension_cases type with
    ⟨cached, hcached, h⟩ | ⟨fresh, hcached, -, h⟩ | ⟨result, -, hnone, -, h⟩
  · rw [h]
    refine ⟨.inr, ?_⟩
    rintro (⟨rfl, hvalue⟩ | hvalue)
    · rw [hcached, Option.some.inj (Except.ok.inj hvalue)]
    · exact hvalue
  · rw [h]
    dsimp only
    rw [extension?, List.lookup_append]
    change (c.extension? other).or _ = _ ↔ _
    by_cases hother : type = other
    · subst hother
      simp [hcached]
    · have hbeq : (other == type) = false := beq_eq_false_iff_ne.2 (Ne.symm hother)
      simp [hother, List.lookup_cons, hbeq]
  · rw [h]
    refine ⟨.inr, ?_⟩
    rintro (⟨-, hvalue⟩ | hvalue)
    · exact absurd hvalue (hnone value)
    · exact hvalue

/-! ### Any number of uses -/

def use (c : Certificate) : ExtensionUse → Certificate
  | .look _ => c
  | .parse type => (c.parseExtension type).2
  | .parseAll types => c.parseExtensions types
  | .clear => c.clearParsed

def useAll (c : Certificate) (uses : List ExtensionUse) : Certificate := uses.foldl use c

/-- A parse of the type, on its own or in a list, that yields the value. -/
inductive Yields (c : Certificate) : ExtensionUse → Oid → ParsedExtension → Prop where
  | alone {type : Oid} {value : ParsedExtension}
      (h : (c.parseExtension type).1 = .ok (some value)) : Yields c (.parse type) type value
  | listed {front back : List Oid} {type : Oid} {value : ParsedExtension}
      (h : ((c.parseExtensions front).parseExtension type).1 = .ok (some value)) :
      Yields c (.parseAll (front ++ type :: back)) type value

theorem yields_parseAll_iff {c : Certificate} {types : List Oid} {type : Oid}
    {value : ParsedExtension} :
    Yields c (.parseAll types) type value ↔
      ∃ front other back, types = front ++ other :: back ∧ other = type ∧
        ((c.parseExtensions front).parseExtension other).1 = .ok (some value) := by
  constructor
  · rintro (_ | h)
    exact ⟨_, _, _, rfl, rfl, h⟩
  · rintro ⟨front, other, back, rfl, rfl, h⟩
    exact .listed h

/-- A place in a list is its front or a place behind that. -/
theorem exists_place_cons {α : Type} {x : α} {xs : List α} {P : List α → α → List α → Prop} :
    (∃ front a back, x :: xs = front ++ a :: back ∧ P front a back) ↔
      P [] x xs ∨ ∃ front a back, xs = front ++ a :: back ∧ P (x :: front) a back := by
  constructor
  · rintro ⟨front, a, back, hsplit, h⟩
    rcases List.cons_eq_append_iff.1 hsplit with ⟨rfl, hcons⟩ | ⟨front, rfl, hrest⟩
    · obtain ⟨rfl, rfl⟩ := List.cons.inj hcons
      exact .inl h
    · exact .inr ⟨front, a, back, hrest, h⟩
  · rintro (h | ⟨front, a, back, rfl, h⟩)
    · exact ⟨[], x, xs, rfl, h⟩
    · exact ⟨x :: front, a, back, rfl, h⟩

/-- The parses of a list add what they yield, each after the ones before it. -/
theorem extension?_parseExtensions (c : Certificate) (types : List Oid) (type : Oid)
    (value : ParsedExtension) :
    (c.parseExtensions types).extension? type = some value ↔
      Yields c (.parseAll types) type value ∨ c.extension? type = some value := by
  induction types generalizing c with
  | nil =>
      rw [yields_parseAll_iff]
      simp [parseExtensions]
  | cons other types ih =>
      -- The parses behind the first one start from what it has left in the cache.
      have hcons : c.parseExtensions (other :: types) =
          (c.parseExtension other).2.parseExtensions types := rfl
      rw [hcons, ih, extension?_parseExtension, yields_parseAll_iff, yields_parseAll_iff,
        exists_place_cons]
      exact or_left_comm.trans or_assoc.symm

/-- **What one use does to the cache.** -/
theorem extension?_use (c : Certificate) (u : ExtensionUse) (type : Oid)
    (value : ParsedExtension) :
    (c.use u).extension? type = some value ↔
      Yields c u type value ∨ (u ≠ .clear ∧ c.extension? type = some value) := by
  cases u with
  | look other =>
      refine ⟨fun h => .inr ⟨nofun, h⟩, ?_⟩
      rintro (h | ⟨-, h⟩)
      · cases h
      · exact h
  | parse other =>
      refine (c.extension?_parseExtension other type value).trans (or_congr ?_ ?_)
      · constructor
        · rintro ⟨rfl, h⟩
          exact .alone h
        · rintro ⟨h⟩
          exact ⟨rfl, h⟩
      · exact (and_iff_right nofun).symm
  | parseAll types =>
      exact (c.extension?_parseExtensions types type value).trans
        (or_congr_right (and_iff_right nofun).symm)
  | clear =>
      refine ⟨nofun, ?_⟩
      rintro (h | ⟨hne, -⟩)
      · cases h
      · exact absurd rfl hne

/-- What a run finds in the cache is what a parse has yielded since the last time it was cleared, or
it was there before and has never been cleared. -/
theorem extension?_useAll (c : Certificate) (uses : List ExtensionUse) (type : Oid)
    (value : ParsedExtension) :
    (c.useAll uses).extension? type = some value ↔
      (∃ before u later, uses = before ++ u :: later ∧
        (Yields (c.useAll before) u type value ∧ .clear ∉ later)) ∨
      (.clear ∉ uses ∧ c.extension? type = some value) := by
  induction uses generalizing c with
  | nil => simp [useAll]
  | cons u uses ih =>
      -- What was there before `u` is found after the run only if neither `u` nor the rest clears.
      have hcons : ∀ us, c.useAll (u :: us) = (c.use u).useAll us := fun _ => rfl
      rw [hcons, ih, extension?_use, exists_place_cons, List.mem_cons, not_or]
      constructor
      · rintro (hlater | ⟨hkept, hyields | ⟨hne, hbefore⟩⟩)
        · exact .inl (.inr hlater)
        · exact .inl (.inl ⟨hyields, hkept⟩)
        · exact .inr ⟨⟨Ne.symm hne, hkept⟩, hbefore⟩
      · rintro ((⟨hyields, hkept⟩ | hlater) | ⟨⟨hne, hkept⟩, hbefore⟩)
        · exact .inr ⟨hkept, .inl hyields⟩
        · exact .inl hlater
        · exact .inr ⟨hkept, .inr ⟨Ne.symm hne, hbefore⟩⟩

/-! ### The cache is never wrong -/

/-- The certificate has these fields, and what it remembers has been decoded from them. -/
structure Remembers (signed : SignedCertificate) (c : Certificate) : Prop where
  signed_eq : c.signed = signed
  firstReads : ∀ entry ∈ c.parsed,
    FirstReads (signed.body.extensions.getD []) entry.1 (.ok (some entry.2))

namespace Remembers

variable {signed : SignedCertificate} {c : Certificate}

/-- With the cache a parse reads what it would read without one. -/
theorem parseExtension_fst (h : Remembers signed c) (type : Oid) :
    (c.parseExtension type).1 = readFirst (signed.body.extensions.getD []) type := by
  have hbody : c.body = signed.body := congrArg SignedCertificate.body h.signed_eq
  rw [← hbody]
  rcases c.parseExtension_cases type with
    ⟨value, hcached, hparse⟩ | ⟨value, -, hread, hparse⟩ | ⟨result, -, -, hread, hparse⟩
  · obtain ⟨earlier, later, hparsed, -⟩ := List.lookup_eq_some_iff.1 hcached
    have hmem : (type, value) ∈ c.parsed := by simp [hparsed]
    have hfirst := h.firstReads _ hmem
    rw [← hbody] at hfirst
    rw [hparse, readFirst_eq_iff.2 hfirst]
  · rw [hparse, hread]
  · rw [hparse, hread]

theorem parseExtension_snd (h : Remembers signed c) (type : Oid) :
    Remembers signed (c.parseExtension type).2 := by
  refine ⟨(c.signed_parseExtension type).trans h.signed_eq, ?_⟩
  have hbody : c.body = signed.body := congrArg SignedCertificate.body h.signed_eq
  rcases c.parseExtension_cases type with
    ⟨value, -, hparse⟩ | ⟨value, -, hread, hparse⟩ | ⟨result, -, -, -, hparse⟩
  · rw [hparse]
    exact h.firstReads
  · rw [hparse]
    intro entry hentry
    rcases List.mem_append.1 hentry with hold | hnew
    · exact h.firstReads entry hold
    · obtain rfl := List.mem_singleton.1 hnew
      rw [hbody] at hread
      exact readFirst_eq_iff.1 hread
  · rw [hparse]
    exact h.firstReads

theorem parseExtensions (h : Remembers signed c) (types : List Oid) :
    Remembers signed (c.parseExtensions types) := by
  induction types generalizing c with
  | nil => exact h
  | cons type types ih => exact ih (h.parseExtension_snd type)

theorem clearParsed (h : Remembers signed c) : Remembers signed c.clearParsed :=
  ⟨h.signed_eq, nofun⟩

theorem use (h : Remembers signed c) (u : ExtensionUse) : Remembers signed (c.use u) := by
  cases u with
  | look type => exact h
  | parse type => exact h.parseExtension_snd type
  | parseAll types => exact h.parseExtensions types
  | clear => exact h.clearParsed

theorem useAll (h : Remembers signed c) (uses : List ExtensionUse) :
    Remembers signed (c.useAll uses) := by
  induction uses generalizing c with
  | nil => exact h
  | cons u uses ih => exact ih (h.use u)

end Remembers

theorem remembers_bare (encoding : Octets) (signed : SignedCertificate) :
    Remembers signed ⟨encoding, signed, []⟩ :=
  ⟨rfl, nofun⟩

/-- Nothing is remembered of a parse that yields no value. -/
theorem parseExtension_snd_eq_self {c : Certificate} {type : Oid}
    (h : ∀ value, (c.parseExtension type).1 ≠ .ok (some value)) :
    (c.parseExtension type).2 = c := by
  rcases c.parseExtension_cases type with
    ⟨value, -, hparse⟩ | ⟨value, -, -, hparse⟩ | ⟨result, -, -, -, hparse⟩
  · exact absurd (congrArg Prod.fst hparse) (h value)
  · exact absurd (congrArg Prod.fst hparse) (h value)
  · exact congrArg Prod.snd hparse

/-- **The cache never changes an answer.** However a certificate has been used since it was read,
all that it remembers is what the first extensions of their types read as; a parse reads the same as
if nothing were remembered, which is what the extensions say, and changes nothing unless it yields a
value; and a value is found in the cache exactly if a parse has yielded it, the parses on reading
included, and the cache has not been cleared after that. -/
theorem extension_cache_transparent (encoding : Octets) (signed : SignedCertificate)
    (uses : List ExtensionUse) :
    let extensions := signed.body.extensions.getD []
    let bare : Certificate := ⟨encoding, signed, []⟩
    let c := (ofSignedEncoding encoding signed).useAll uses
    (∀ entry ∈ c.parsed, FirstReads extensions entry.1 (.ok (some entry.2))) ∧
    (∀ type, (c.parseExtension type).1 = (c.clearParsed.parseExtension type).1 ∧
      ∀ result, (c.parseExtension type).1 = result ↔ FirstReads extensions type result) ∧
    (∀ type, (∀ value, (c.parseExtension type).1 ≠ .ok (some value)) →
      (c.parseExtension type).2 = c) ∧
    ∀ type value, c.extension? type = some value ↔
      ∃ before u later, .parseAll typesOfInterest :: uses = before ++ u :: later ∧
        Yields (bare.useAll before) u type value ∧ .clear ∉ later := by
  intro extensions bare c
  have hrun : c = bare.useAll (.parseAll typesOfInterest :: uses) := rfl
  have hremembers : Remembers signed c :=
    hrun ▸ (remembers_bare encoding signed).useAll (.parseAll typesOfInterest :: uses)
  refine ⟨hremembers.firstReads, fun type => ⟨?_, fun result => ?_⟩,
    fun type => parseExtension_snd_eq_self, fun type value => ?_⟩
  · rw [hremembers.parseExtension_fst, hremembers.clearParsed.parseExtension_fst]
  · rw [hremembers.parseExtension_fst]
    exact readFirst_eq_iff
  · have hnothing : bare.extension? type ≠ some value := nofun
    rw [hrun, extension?_useAll]
    exact or_iff_left fun h => hnothing h.2

end Certificate

/-! ### A certificate that repeats an extension -/

namespace Sample

open Certificate

/-- An extension of a type that is not supported, and two of basic constraints. -/
def repetitive : SignedCertificate :=
  { leaf.signed with
    body := { leaf.body with
      extensions := some [⟨Oid.ecPublicKey, false, []⟩,
        ⟨Oid.basicConstraints, true, [0x30, 0x03, 0x01, 0x01, 0xff]⟩,
        ⟨Oid.basicConstraints, false, [0x30, 0x00]⟩] } }

/-- After the cache was cleared the first basic constraints are decoded again, and the extension
that is not supported is not remembered. -/
theorem extension_cache_repetitive :
    let c := (ofSignedEncoding repetitive.encode repetitive).useAll
      [.clear, .parseAll [Oid.ecPublicKey, Oid.basicConstraints], .look Oid.ecPublicKey]
    c.extension? Oid.basicConstraints = some (.basicConstraints ⟨true, none⟩) ∧
    (c.parseExtension Oid.basicConstraints).1 = .ok (some (.basicConstraints ⟨true, none⟩)) ∧
    (c.parseExtension Oid.ecPublicKey).1 = .error .unrecognized ∧
    (c.parseExtension Oid.ecPublicKey).2 = c ∧
    FirstReads (repetitive.body.extensions.getD []) Oid.basicConstraints
      (.ok (some (.basicConstraints ⟨true, none⟩))) := by
  intro c
  obtain ⟨hentries, hparse, hkept, hfound⟩ :=
    extension_cache_transparent repetitive.encode repetitive
      [.clear, .parseAll [Oid.ecPublicKey, Oid.basicConstraints], .look Oid.ecPublicKey]
  have hunrecognized : (c.parseExtension Oid.ecPublicKey).1 = .error .unrecognized :=
    ((hparse _).2 _).2 (.unsupported (isFirst_iff.2 rfl) (by decide))
  refine ⟨?_, ?_, hunrecognized, ?_, ?_⟩
  · refine (hfound _ _).2 ⟨[.parseAll typesOfInterest, .clear], _, [.look Oid.ecPublicKey], rfl,
      @Yields.listed _ [Oid.ecPublicKey] [] _ _ ?_, by decide⟩
    decide +kernel
  · exact ((hparse _).2 _).2 (.decoded (isFirst_iff.2 rfl) rfl (by decide +kernel))
  · refine hkept _ fun value h => ?_
    exact nomatch hunrecognized.symm.trans h
  · exact hentries (Oid.basicConstraints, .basicConstraints ⟨true, none⟩) (by decide +kernel)

end Sample

end TrustChain
