import ParamSql.Decimal.Layout

/-!
# The characters of a written number

A number is written with digits, a sign and a point, or as a word.  No number brings a
character into a text that means anything else there.

## Main definitions

* `Decimal.isNumeral`: the characters of written numbers

## Main results

* `Decimal.allNumeral_natural`, `Decimal.allNumeral_integer`, `Decimal.allNumeral_positional`:
  natural numbers, integers and positional floats are written with these characters
-/

namespace ParamSql.Decimal

/-- A character of a written number: a digit, the sign, the point, or a letter of the words
for what is no number or infinite. -/
def isNumeral (c : Char) : Bool := c.isDigit || ['-', '.', 'N', 'a', 'i', 'n', 'f'].contains c

/-- The text is written with the characters of numbers. -/
def AllNumeral (text : String) : Prop := text.toList.all isNumeral = true

theorem allNumeral_iff {text : String} :
    AllNumeral text ↔ ∀ c ∈ text.toList, isNumeral c = true := List.all_eq_true

@[simp] theorem allNumeral_append {s t : String} :
    AllNumeral (s ++ t) ↔ AllNumeral s ∧ AllNumeral t := by
  simp only [allNumeral_iff, String.toList_append, List.forall_mem_append]

/-- Digits in any choice and order are numeral. -/
theorem allNumeral_ofList {ds cs : List Char} (h : ∀ c ∈ ds, c.isDigit = true)
    (hs : cs ⊆ ds) : AllNumeral (String.ofList cs) := by
  rw [allNumeral_iff]
  intro c hc
  rw [String.toList_ofList] at hc
  rw [isNumeral, h c (hs hc), Bool.true_or]

theorem isDigit_of_mem_natural {n : Nat} {c : Char} (h : c ∈ (toString n).toList) :
    c.isDigit = true := by
  rw [Nat.toString_eq_repr, Nat.toList_repr] at h
  exact Nat.isDigit_of_mem_toDigits (by decide) (by decide) h

theorem allNumeral_natural (n : Nat) : AllNumeral (toString n) := by
  rw [allNumeral_iff]
  intro c hc
  rw [isNumeral, isDigit_of_mem_natural hc, Bool.true_or]

theorem allNumeral_integer (n : Int) : AllNumeral (toString n) := by
  rw [Int.toString_eq_repr, Int.repr_eq_if]
  split
  · exact allNumeral_natural _
  · have hsign : AllNumeral "-" := rfl
    exact allNumeral_append.mpr ⟨hsign, allNumeral_natural _⟩

namespace Layout

theorem allNumeral_zeros (n : Int) : AllNumeral (zeros n) := by
  have hzero : ∀ c ∈ ['0'], c.isDigit = true := by
    intro c hc
    rw [List.mem_singleton.mp hc]
    rfl
  refine allNumeral_ofList hzero fun c hc => ?_
  rw [List.eq_of_mem_replicate hc]
  exact List.mem_singleton.mpr rfl

/-- Wherever the point is placed, nothing but digits and the point is written. -/
theorem allNumeral_place (ds : List Char) (h : ∀ c ∈ ds, c.isDigit = true) (point : Int) :
    AllNumeral (positional.place ds point) := by
  have hall : AllNumeral (String.ofList ds) := allNumeral_ofList h (List.Subset.refl ds)
  have hpoint : AllNumeral "." := rfl
  have hempty : AllNumeral "" := rfl
  have hfraction : AllNumeral "0." := rfl
  unfold place
  split
  · exact allNumeral_append.mpr ⟨allNumeral_append.mpr ⟨hfraction, allNumeral_zeros _⟩, hall⟩
  · split
    · exact allNumeral_append.mpr ⟨allNumeral_append.mpr ⟨hall, allNumeral_zeros _⟩, hempty⟩
    · exact allNumeral_append.mpr
        ⟨allNumeral_append.mpr ⟨allNumeral_ofList h (List.take_subset _ _), hpoint⟩,
          allNumeral_ofList h (List.drop_subset _ _)⟩

end Layout

/-- **A float in SQL text is numeral**, whether finite or not. -/
theorem allNumeral_positional (x : Float) : AllNumeral (positional.text x) := by
  have hsign : ∀ b : Prop, [Decidable b] → AllNumeral (if b then "-" else "") := by
    intro b _
    split <;> rfl
  unfold Layout.text
  split
  · rfl
  · dsimp only
    split
    · exact allNumeral_append.mpr ⟨hsign _, rfl⟩
    · split
      · have hempty : AllNumeral "" := rfl
        exact allNumeral_append.mpr ⟨allNumeral_append.mpr ⟨hsign _, rfl⟩, hempty⟩
      · exact allNumeral_append.mpr
          ⟨hsign _, Layout.allNumeral_place _ (fun c hc => isDigit_of_mem_natural hc) _⟩

end ParamSql.Decimal
