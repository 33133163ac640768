import TrustChain.Name.Matching

/-!
# Matching compares normal forms

Matching takes shortcuts: identical relative names are not looked into, and runs of blanks are
collapsed only where values differ without that. A normal form does all the work on every value.
Names match exactly if their normal forms are equal, so matching is an equivalence relation. That it
is symmetric is what makes paths valid that were built: the two read the names of a link in opposite
orders.
-/

namespace TrustChain

/-- Lists are compared pairwise by a test that compares images. -/
theorem all_zip_iff_map_eq {α β : Type} {test : α → α → Bool} {form : α → β}
    (h : ∀ a b, test a b = true ↔ form a = form b) (left right : List α) :
    (left.length == right.length && (left.zip right).all fun (l, r) => test l r) = true ↔
      left.map form = right.map form := by
  induction left generalizing right with
  | nil => cases right <;> simp
  | cons l left ih =>
      cases right with
      | nil => simp
      | cons r right =>
          have htail := ih right
          simp only [Bool.and_eq_true, beq_iff_eq] at htail
          simp only [List.length_cons, List.zip_cons_cons, List.all_cons, List.map_cons,
            Bool.and_eq_true, beq_iff_eq, Nat.add_right_cancel_iff, List.cons.injEq]
          rw [h, and_left_comm, htail]

namespace Attribute

/-- The type, and the value without escaped spaces, without blanks at the ends, in lower case and
with one space for each run of blanks. -/
def normalForm (attr : Attribute) : Oid × List Char := (attr.type, Text.collapse attr.foldedValue)

/-- Values that are equal before their blanks are collapsed are equal afterwards. -/
theorem agrees_iff_normalForm_eq (left right : Attribute) :
    left.agrees right = true ↔ left.normalForm = right.normalForm := by
  unfold agrees normalForm
  rw [Bool.and_eq_true, Bool.or_eq_true, beq_iff_eq, beq_iff_eq, beq_iff_eq, Prod.mk.injEq]
  apply and_congr_right
  intro htype
  apply or_iff_right_of_imp
  intro hfolded
  rw [hfolded]

end Attribute

namespace RelativeName

def normalForm (relative : RelativeName) : List (Oid × List Char) :=
  relative.attributes.map Attribute.normalForm

theorem agrees_iff_normalForm_eq (left right : RelativeName) :
    left.agrees right = true ↔ left.normalForm = right.normalForm := by
  by_cases h : left = right
  · subst h
    simp [agrees]
  · unfold agrees
    rw [beq_eq_false_iff_ne.2 h, Bool.false_or]
    exact all_zip_iff_map_eq Attribute.agrees_iff_normalForm_eq _ _

end RelativeName

namespace Name

def normalForm (name : Name) : List (List (Oid × List Char)) :=
  name.relatives.map RelativeName.normalForm

theorem agrees_iff_normalForm_eq (left right : Name) :
    left.agrees right = true ↔ left.normalForm = right.normalForm :=
  all_zip_iff_map_eq RelativeName.agrees_iff_normalForm_eq _ _

theorem agrees_comm (left right : Name) : left.agrees right = right.agrees left := by
  rw [Bool.eq_iff_iff, agrees_iff_normalForm_eq, agrees_iff_normalForm_eq, eq_comm]

/-- **Matching is an equivalence.** Its shortcuts do not change the answer that comparing the normal
forms of all attributes gives, and it is reflexive, symmetric and transitive. -/
theorem agrees_equivalence :
    (∀ left right : Name, left.agrees right = decide (left.normalForm = right.normalForm)) ∧
    Equivalence fun left right : Name => left.agrees right = true := by
  refine ⟨?_, ?_, ?_, ?_⟩
  · intro left right
    rw [Bool.eq_iff_iff, decide_eq_true_iff]
    exact agrees_iff_normalForm_eq left right
  · intro name
    rw [agrees_iff_normalForm_eq]
  · intro left right h
    exact (agrees_comm right left).trans h
  · intro first second third hfirst hsecond
    rw [agrees_iff_normalForm_eq] at hfirst hsecond ⊢
    exact hfirst.trans hsecond

end Name

end TrustChain
