import TrustChain.Text.Blank
import Mathlib.Data.List.Basic

/-!
# Words

Blanks only part the words of a text. Writing every word with one space behind it (`spaced`) drops
the blanks at the ends and shortens the runs inside, as trimming and collapsing do; but it takes a
text apart at any of its blanks, which makes it the easier form to reason about. A text that is
trimmed and collapsed is its words with the last space dropped.
-/

namespace TrustChain.Text

theorem isBlank_space : isBlank ' ' = true := rfl

/-- The words of a text, each with a space behind it. -/
def spaced (text : List Char) : List Char := collapseFrom true (text ++ [' '])

theorem collapseFrom_append_blank {b : Char} (hb : isBlank b = true) (inRun : Bool)
    (front back : List Char) :
    collapseFrom inRun (front ++ b :: back) =
      collapseFrom inRun (front ++ [' ']) ++ collapseFrom true back := by
  induction front generalizing inRun with
  | nil => cases inRun <;> simp [collapseFrom, hb, isBlank_space]
  | cons c front ih =>
      simp only [List.cons_append, collapseFrom, ih]
      split
      · split <;> rfl
      · rfl

/-- A text falls apart at any blank. -/
theorem spaced_append_blank {b : Char} (hb : isBlank b = true) (front back : List Char) :
    spaced (front ++ b :: back) = spaced front ++ spaced back := by
  unfold spaced
  rw [List.append_assoc, List.cons_append, collapseFrom_append_blank hb]

@[simp] theorem spaced_nil : spaced [] = [] := rfl

theorem spaced_blanks_append {blanks : List Char} (hblanks : ∀ c ∈ blanks, isBlank c = true)
    (text : List Char) : spaced (blanks ++ text) = spaced text := by
  induction blanks with
  | nil => rfl
  | cons b blanks ih =>
      obtain ⟨hb, hblanks⟩ := List.forall_mem_cons.1 hblanks
      have hfront := spaced_append_blank hb [] (blanks ++ text)
      rw [spaced_nil, List.nil_append, List.nil_append] at hfront
      rw [List.cons_append, hfront, ih hblanks]

theorem spaced_append_blanks {blanks : List Char} (hblanks : ∀ c ∈ blanks, isBlank c = true)
    (text : List Char) : spaced (text ++ blanks) = spaced text := by
  cases blanks with
  | nil => rw [List.append_nil]
  | cons b blanks =>
      obtain ⟨hb, hblanks⟩ := List.forall_mem_cons.1 hblanks
      have hback := spaced_blanks_append hblanks []
      rw [List.append_nil, spaced_nil] at hback
      rw [spaced_append_blank hb, hback, List.append_nil]

theorem collapseFrom_append_solid {word : List Char} (hsolid : ∀ c ∈ word, isBlank c = false)
    (back : List Char) : collapseFrom false (word ++ back) = word ++ collapseFrom false back := by
  induction word with
  | nil => rfl
  | cons c word ih =>
      obtain ⟨hc, hsolid⟩ := List.forall_mem_cons.1 hsolid
      simp [collapseFrom, hc, ih hsolid]

theorem collapseFrom_append_word {word : List Char} (hsolid : ∀ c ∈ word, isBlank c = false)
    (hword : word ≠ []) (inRun : Bool) (back : List Char) :
    collapseFrom inRun (word ++ back) = word ++ collapseFrom false back := by
  cases word with
  | nil => exact absurd rfl hword
  | cons c word =>
      obtain ⟨hc, hrest⟩ := List.forall_mem_cons.1 hsolid
      simp [collapseFrom, hc, collapseFrom_append_solid hrest]

theorem spaced_of_solid {word : List Char} (hsolid : ∀ c ∈ word, isBlank c = false)
    (hword : word ≠ []) : spaced word = word ++ [' '] :=
  collapseFrom_append_word hsolid hword true [' ']

theorem collapseFrom_collapseFrom {inRun wasInRun : Bool} (h : wasInRun = true → inRun = true)
    (text : List Char) :
    collapseFrom inRun (collapseFrom wasInRun text ++ [' ']) =
      collapseFrom inRun (text ++ [' ']) := by
  induction text generalizing inRun wasInRun with
  | nil => rfl
  | cons c text ih =>
      cases hc : isBlank c with
      | false => simp [collapseFrom, hc, ih]
      | true =>
          cases wasInRun with
          | false => simp [collapseFrom, hc, isBlank_space, ih]
          | true =>
              obtain rfl := h rfl
              simp [collapseFrom, hc, ih]

/-- Collapsing keeps the words. -/
theorem spaced_collapse (text : List Char) : spaced (collapse text) = spaced text := by
  unfold spaced collapse
  exact collapseFrom_collapseFrom (fun _ => rfl) text

/-- Replacing characters that are not blanks by others replaces them in the words. -/
theorem spaced_map {f : Char → Char} (hblank : ∀ c, isBlank (f c) = isBlank c)
    (hspace : f ' ' = ' ') (text : List Char) : spaced (text.map f) = (spaced text).map f := by
  have hcollapse : ∀ inRun text,
      collapseFrom inRun (List.map f text) = (collapseFrom inRun text).map f := by
    intro inRun text
    induction text generalizing inRun with
    | nil => rfl
    | cons c text ih =>
        cases hc : isBlank c <;> cases inRun <;> simp [collapseFrom, hblank, hc, ih, hspace]
  unfold spaced
  rw [← hcollapse, List.map_append, List.map_singleton, hspace]

/-! ### Trimmed texts -/

theorem exists_blanks_trim (text : List Char) :
    ∃ front back, text = front ++ trim text ++ back ∧ (∀ c ∈ front, isBlank c = true) ∧
      ∀ c ∈ back, isBlank c = true := by
  have htaken : ∀ text : List Char, ∀ c ∈ text.takeWhile isBlank, isBlank c = true :=
    fun text => List.all_eq_true.1 List.all_takeWhile
  refine ⟨text.takeWhile isBlank, ((text.dropWhile isBlank).reverse.takeWhile isBlank).reverse,
    ?_, htaken text, fun c hc => htaken _ c (List.mem_reverse.1 hc)⟩
  unfold trim
  rw [List.append_assoc, ← List.reverse_append, List.takeWhile_append_dropWhile,
    List.reverse_reverse, List.takeWhile_append_dropWhile]

/-- There is no blank at either end. -/
structure IsTrimmed (text : List Char) : Prop where
  head : ∀ c, text.head? = some c → isBlank c = false
  last : ∀ c, text.getLast? = some c → isBlank c = false

theorem isTrimmed_trim (text : List Char) : IsTrimmed (trim text) := by
  constructor
  · intro c hc
    have hprefix : trim text <+: text.dropWhile isBlank := by
      rw [← List.reverse_suffix]
      unfold trim
      rw [List.reverse_reverse]
      exact List.dropWhile_suffix _
    obtain ⟨back, hback⟩ := hprefix
    have hhead : (text.dropWhile isBlank).head? = some c := by
      rw [← hback, List.head?_append, hc, Option.some_or]
    have hnot := List.head?_dropWhile_not isBlank text
    rw [hhead] at hnot
    simpa using hnot
  · intro c hc
    unfold trim at hc
    rw [List.getLast?_reverse] at hc
    have hnot := List.head?_dropWhile_not isBlank (text.dropWhile isBlank).reverse
    rw [hc] at hnot
    simpa using hnot

theorem collapseFrom_concat_space {c : Char} (hc : isBlank c = false) (inRun : Bool)
    (front : List Char) :
    collapseFrom inRun (front ++ [c] ++ [' ']) = collapseFrom inRun (front ++ [c]) ++ [' '] := by
  induction front generalizing inRun with
  | nil => simp [collapseFrom, hc, isBlank_space]
  | cons d front ih =>
      simp only [List.cons_append, collapseFrom, ih]
      split
      · split <;> rfl
      · rfl

/-- A trimmed text is collapsed to its words. -/
theorem IsTrimmed.collapse_eq {text : List Char} (htrimmed : IsTrimmed text) :
    collapse text = (spaced text).dropLast := by
  rcases text.eq_nil_or_concat with rfl | ⟨front, c, rfl⟩
  · rfl
  · rw [List.concat_eq_append] at htrimmed ⊢
    have hc : isBlank c = false := htrimmed.last c List.getLast?_concat
    -- the first character is not a blank, so it does not matter whether one came before
    have hstart : collapseFrom true (front ++ [c] ++ [' ']) =
        collapseFrom false (front ++ [c] ++ [' ']) := by
      cases front with
      | nil => simp [collapseFrom, hc]
      | cons d front => simp [collapseFrom, htrimmed.head d rfl]
    unfold spaced collapse
    rw [hstart, collapseFrom_concat_space hc, List.dropLast_concat]

end TrustChain.Text
