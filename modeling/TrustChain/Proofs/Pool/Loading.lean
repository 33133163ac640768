import TrustChain.Loading
import TrustChain.Proofs.Certificate.Bundle

/-!
# What loading adds to a pool

A file has all its certificates or none: one block that is not a certificate spoils a bundle. What
a folder adds is found entry by entry, and the step lemma says that an entry adds the certificates
of its file, whatever the pool, and that only a traversal that breaks off ends the loading. By
induction on the entries, loading that succeeds adds the certificates of all the files in order and
returns their number. Loading that fails leaves the pool as it was, except for a folder whose
traversal breaks off: the certificates of the files before that have been added, and stay.
-/

namespace TrustChain

/-- The certificates in the content of a file. -/
inductive Contains (content : Octets) : List Certificate → Prop where
  | alone {c : Certificate} (hbare : Text.Pem.isPem content = false)
      (hread : Certificate.ofDer? content = some c) : Contains content [c]
  | bundle {blocks : List Text.Pem.Block} {certificates : List Certificate}
      (hpem : Text.Pem.isPem content = true) (hblocks : Text.Pem.read? content = some blocks)
      (hread : List.Forall₂ (fun block c => Certificate.ofBlock? block = some c)
        blocks certificates) : Contains content certificates

/-- What an entry of a traversal adds. There is nothing to be added where it breaks off. -/
inductive Adds : FolderEntry → List Certificate → Prop where
  | folder {path : String} : Adds (.folder path) []
  | file {path : String} {content : Octets} {certificates : List Certificate}
      (h : Contains content certificates) : Adds (.file path (.ok content)) certificates
  | unparsable {path : String} {content : Octets}
      (h : ∀ certificates, ¬ Contains content certificates) : Adds (.file path (.ok content)) []
  | unreadable {path : String} {problem : IoProblem} : Adds (.file path (.error problem)) []

inductive Supplies : Source → List Certificate → Prop where
  | file {content : Octets} {certificates : List Certificate} (h : Contains content certificates) :
      Supplies (.file (.ok content)) certificates
  | folder {entries : List FolderEntry} {parts : List (List Certificate)}
      (h : List.Forall₂ Adds entries parts) : Supplies (.folder entries) parts.flatten

inductive Refuses (path : String) : Source → LoadError → Prop where
  | absent {problem : IoProblem} : Refuses path (.missing problem) (.absent path)
  | unreadable {problem : IoProblem} :
      Refuses path (.file (.error problem)) (.unreadable problem)
  | unparsable {content : Octets} (h : ∀ certificates, ¬ Contains content certificates) :
      Refuses path (.file (.ok content)) (.unparsable path)

/-- The traversal of a folder breaks off after some certificates. -/
inductive BreaksOff : Source → LoadError → List Certificate → Prop where
  | intro {before after : List FolderEntry} {parts : List (List Certificate)} {message : String}
      (h : List.Forall₂ Adds before parts) :
      BreaksOff (.folder (before ++ .failure message :: after)) (.traversal message) parts.flatten

/-! ### Files -/

theorem mapM_eq_some_iff_forall₂ {α β : Type} {f : α → Option β} {xs : List α} {ys : List β} :
    xs.mapM f = some ys ↔ List.Forall₂ (fun x y => f x = some y) xs ys := by
  induction xs generalizing ys with
  | nil => simp [eq_comm]
  | cons x xs ih =>
      rw [List.mapM_cons, List.forall₂_cons_left_iff]
      simp only [Option.bind_eq_bind, Option.bind_eq_some_iff, Option.pure_def, Option.some.injEq,
        ih]
      constructor
      · rintro ⟨y, hy, ys, hys, rfl⟩
        exact ⟨y, ys, hy, hys, rfl⟩
      · rintro ⟨y, ys, hy, hys, rfl⟩
        exact ⟨y, hy, ys, hys, rfl⟩

theorem ofFile?_eq_some_iff {content : Octets} {certificates : List Certificate} :
    Certificate.ofFile? content = some certificates ↔ Contains content certificates := by
  unfold Certificate.ofFile?
  constructor
  · intro h
    split at h
    · rename_i hpem
      obtain ⟨blocks, hblocks, hread⟩ := Option.bind_eq_some_iff.1 h
      exact .bundle hpem hblocks (mapM_eq_some_iff_forall₂.1 hread)
    · rename_i hbare
      obtain ⟨c, hread, rfl⟩ := Option.map_eq_some_iff.1 h
      exact .alone (Bool.eq_false_iff.2 hbare) hread
  · rintro (⟨hbare, hread⟩ | ⟨hpem, hblocks, hread⟩)
    · rw [hbare, hread]
      rfl
    · rw [if_pos hpem, hblocks]
      exact mapM_eq_some_iff_forall₂.2 hread

theorem readCertificates_of_contains {path : String} {content : Octets}
    {certificates : List Certificate} (h : Contains content certificates) :
    readCertificates path (.ok content) = .ok certificates := by
  rw [readCertificates, ofFile?_eq_some_iff.2 h]

theorem readCertificates_of_not_contains {path : String} {content : Octets}
    (h : ∀ certificates, ¬ Contains content certificates) :
    readCertificates path (.ok content) = .error (.unparsable path) := by
  have hnone : Certificate.ofFile? content = none :=
    Option.eq_none_iff_forall_ne_some.2 fun certificates hread =>
      h certificates (ofFile?_eq_some_iff.1 hread)
  rw [readCertificates, hnone]

theorem contains_or_not (content : Octets) :
    (∃ certificates, Contains content certificates) ∨
      ∀ certificates, ¬ Contains content certificates :=
  (em _).imp_right not_exists.1

/-! ### Folders -/

/-- An entry adds what it adds to any pool, and the loading goes on. -/
theorem value_loadFolder_cons {entry : FolderEntry} {certificates : List Certificate}
    (h : Adds entry certificates) (pool : List Certificate) (rest : List FolderEntry) :
    (loadFolder pool (entry :: rest)).value = (loadFolder (pool ++ certificates) rest).value := by
  -- A file that is passed over leaves a line in the journal, which is no part of the value.
  cases h with
  | folder => rw [loadFolder, List.append_nil]
  | file h =>
      rw [loadFolder, readCertificates_of_contains h]
      rfl
  | unparsable h =>
      rw [loadFolder, readCertificates_of_not_contains h, List.append_nil]
      rfl
  | unreadable =>
      rw [loadFolder, List.append_nil]
      rfl

theorem value_loadFolder_append {before : List FolderEntry} {parts : List (List Certificate)}
    (h : List.Forall₂ Adds before parts) (pool : List Certificate) (rest : List FolderEntry) :
    (loadFolder pool (before ++ rest)).value =
      (loadFolder (pool ++ parts.flatten) rest).value := by
  induction h generalizing pool with
  | nil => rw [List.nil_append, List.flatten_nil, List.append_nil]
  | cons hentry _ ih =>
      rw [List.cons_append, value_loadFolder_cons hentry, ih, List.flatten_cons, List.append_assoc]

theorem adds_or_failure (entry : FolderEntry) :
    (∃ part, Adds entry part) ∨ ∃ message, entry = .failure message := by
  cases entry with
  | folder path => exact .inl ⟨[], .folder⟩
  | failure message => exact .inr ⟨message, rfl⟩
  | file path content =>
      cases content with
      | error problem => exact .inl ⟨[], .unreadable⟩
      | ok content =>
          rcases contains_or_not content with ⟨certificates, h⟩ | h
          · exact .inl ⟨certificates, .file h⟩
          · exact .inl ⟨[], .unparsable h⟩

/-- A traversal comes to its end or it breaks off. -/
theorem supplies_or_breaksOff (entries : List FolderEntry) :
    (∃ certificates, Supplies (.folder entries) certificates) ∨
      ∃ e certificates, BreaksOff (.folder entries) e certificates := by
  suffices h : (∃ parts, List.Forall₂ Adds entries parts) ∨
      ∃ before message after parts, entries = before ++ .failure message :: after ∧
        List.Forall₂ Adds before parts by
    rcases h with ⟨parts, h⟩ | ⟨before, message, after, parts, rfl, h⟩
    · exact .inl ⟨_, .folder h⟩
    · exact .inr ⟨_, _, .intro h⟩
  induction entries with
  | nil => exact .inl ⟨[], .nil⟩
  | cons entry rest ih =>
      rcases adds_or_failure entry with ⟨part, hpart⟩ | ⟨message, rfl⟩
      · rcases ih with ⟨parts, h⟩ | ⟨before, message, after, parts, rfl, h⟩
        · exact .inl ⟨part :: parts, .cons hpart h⟩
        · exact .inr ⟨entry :: before, message, after, part :: parts, rfl, .cons hpart h⟩
      · exact .inr ⟨[], message, rest, [], rfl, .nil⟩

/-! ### Sources -/

section

variable {path : String} {source : Source}

theorem value_loadCertificates_of_supplies {certificates : List Certificate}
    (h : Supplies source certificates) (pool : List Certificate) :
    (loadCertificates path source pool).value =
      (.ok certificates.length, pool ++ certificates) := by
  cases h with
  | file h =>
      rw [loadCertificates, readCertificates_of_contains h]
      rfl
  | @folder entries parts h =>
      have hloaded : (loadFolder pool entries).value = (.ok (), pool ++ parts.flatten) := by
        simpa [loadFolder] using value_loadFolder_append h pool []
      rw [loadCertificates, Journaled.value_bind, hloaded, Journaled.value_pure,
        List.length_append, Nat.add_sub_cancel_left]
      rfl

theorem value_loadCertificates_of_refuses {e : LoadError} (h : Refuses path source e)
    (pool : List Certificate) : (loadCertificates path source pool).value = (.error e, pool) := by
  cases h with
  | absent => rfl
  | unreadable => rfl
  | unparsable h =>
      rw [loadCertificates, readCertificates_of_not_contains h]
      rfl

theorem value_loadCertificates_of_breaksOff {e : LoadError} {certificates : List Certificate}
    (h : BreaksOff source e certificates) (pool : List Certificate) :
    (loadCertificates path source pool).value = (.error e, pool ++ certificates) := by
  obtain ⟨h⟩ := h
  rw [loadCertificates, Journaled.value_bind, value_loadFolder_append h]
  rfl

theorem supplies_or_refuses_or_breaksOff (path : String) (source : Source) :
    (∃ certificates, Supplies source certificates) ∨ (∃ e, Refuses path source e) ∨
      ∃ e certificates, BreaksOff source e certificates := by
  cases source with
  | missing problem => exact .inr (.inl ⟨_, .absent⟩)
  | folder entries => exact (supplies_or_breaksOff entries).imp_right .inr
  | file content =>
      cases content with
      | error problem => exact .inr (.inl ⟨_, .unreadable⟩)
      | ok content =>
          rcases contains_or_not content with ⟨certificates, h⟩ | h
          · exact .inl ⟨certificates, .file h⟩
          · exact .inr (.inl ⟨_, .unparsable h⟩)

end

/-- **Loading adds all or nothing, unless a traversal breaks off.** It succeeds exactly for a file
with certificates and for a folder whose traversal comes to its end, and then it adds the
certificates of the file, or of every file in the folder that can be read and parsed, in order, and
returns their number. If it fails, nothing is added, except that a traversal that breaks off has
added the certificates of the files before. -/
theorem loadCertificates_appends (path : String) (source : Source) (pool : List Certificate) :
    (∀ k loaded, (loadCertificates path source pool).value = (.ok k, loaded) ↔
      ∃ added, Supplies source added ∧ loaded = pool ++ added ∧ k = added.length) ∧
    ∀ e loaded, (loadCertificates path source pool).value = (.error e, loaded) ↔
      (Refuses path source e ∧ loaded = pool) ∨
        ∃ added, BreaksOff source e added ∧ loaded = pool ++ added := by
  constructor
  · intro k loaded
    constructor
    · intro hvalue
      rcases supplies_or_refuses_or_breaksOff path source with
        ⟨added, h⟩ | ⟨e, h⟩ | ⟨e, added, h⟩
      · rw [value_loadCertificates_of_supplies h] at hvalue
        cases hvalue
        exact ⟨added, h, rfl, rfl⟩
      · rw [value_loadCertificates_of_refuses h] at hvalue
        cases hvalue
      · rw [value_loadCertificates_of_breaksOff h] at hvalue
        cases hvalue
    · rintro ⟨added, h, rfl, rfl⟩
      exact value_loadCertificates_of_supplies h pool
  · intro e loaded
    constructor
    · intro hvalue
      rcases supplies_or_refuses_or_breaksOff path source with
        ⟨added, h⟩ | ⟨e', h⟩ | ⟨e', added, h⟩
      · rw [value_loadCertificates_of_supplies h] at hvalue
        cases hvalue
      · rw [value_loadCertificates_of_refuses h] at hvalue
        cases hvalue
        exact .inl ⟨h, rfl⟩
      · rw [value_loadCertificates_of_breaksOff h] at hvalue
        cases hvalue
        exact .inr ⟨added, h, rfl⟩
    · rintro (⟨h, rfl⟩ | ⟨added, h, rfl⟩)
      · exact value_loadCertificates_of_refuses h loaded
      · exact value_loadCertificates_of_breaksOff h pool

/-! ### A folder that cannot be opened, behind a certificate -/

namespace Sample

def interrupted : Source :=
  .folder [.folder ".", .file "./a" (.ok outspoken), .file "./b" (.ok []), .folder "./c",
    .failure "IO error for operation on ./c: Permission denied (os error 13)"]

theorem contains_outspoken :
    Contains outspoken [Certificate.ofSignedEncoding outspoken extended] :=
  ofFile?_eq_some_iff.1 (Certificate.ofFile?_of_ofDer? ofDer?_outspoken)

/-- Loading the folder fails, and the pool is longer than it was. -/
theorem loadCertificates_interrupted :
    ∃ e loaded, (loadCertificates "." interrupted []).value = (.error e, loaded) ∧ loaded ≠ [] := by
  have hempty : ∀ certificates, ¬ Contains [] certificates := by
    intro certificates h
    have hnone : Certificate.ofFile? [] = none := by decide +kernel
    rw [← ofFile?_eq_some_iff, hnone] at h
    cases h
  have hbreaks : BreaksOff interrupted _ _ := @BreaksOff.intro
    [.folder ".", .file "./a" (.ok outspoken), .file "./b" (.ok []), .folder "./c"] [] _ _
    (.cons .folder (.cons (.file contains_outspoken) (.cons (.unparsable hempty)
      (.cons .folder .nil))))
  exact ⟨_, _, value_loadCertificates_of_breaksOff hbreaks [], List.cons_ne_nil _ _⟩

end Sample

end TrustChain
