/-!
# Balanced parentheses

A text is balanced if it closes as many parentheses as it opens and nowhere closes one that it
has not opened.  Balanced texts stay balanced when they are put behind each other, and so does a
balanced text in parentheses.

## Main definitions

* `Sql.Balanced text`: the parentheses of the text are balanced

## Main results

* `Sql.Balanced.append`, `Sql.Balanced.intercalate`: balanced texts behind each other
* `Sql.Balanced.enclosed`, `Sql.Balanced.call`: a balanced text in parentheses
-/

namespace ParamSql.Sql

/-- The parentheses of a text are balanced. -/
structure Balanced (text : String) : Prop where
  /-- no beginning of the text closes more than it opens -/
  opened : ∀ before, before <+: text.toList → before.count ')' ≤ before.count '('
  /-- the whole text closes what it opens -/
  closed : text.toList.count ')' = text.toList.count '('

namespace Balanced

variable {s t : String}

/-- A text without parentheses is balanced. -/
theorem of_not_mem (ho : '(' ∉ t.toList) (hc : ')' ∉ t.toList) : Balanced t where
  opened := by
    intro before hb
    rw [List.count_eq_zero.mpr fun h => hc (hb.subset h)]
    exact Nat.zero_le _
  closed := by rw [List.count_eq_zero.mpr ho, List.count_eq_zero.mpr hc]

theorem append (hs : Balanced s) (ht : Balanced t) : Balanced (s ++ t) where
  opened := by
    intro before hb
    rw [String.toList_append] at hb
    rcases List.prefix_or_prefix_of_prefix hb (List.prefix_append _ _) with hfirst | ⟨rest, rfl⟩
    · exact hs.opened before hfirst
    · have hrest := ht.opened rest ((List.prefix_append_right_inj _).mp hb)
      have hfirst := hs.closed
      rw [List.count_append, List.count_append]
      omega
  closed := by
    rw [String.toList_append, List.count_append, List.count_append, hs.closed, ht.closed]

theorem intercalate (hs : Balanced s) :
    ∀ {texts : List String}, (∀ t ∈ texts, Balanced t) → Balanced (String.intercalate s texts)
  | [], _ => of_not_mem (by simp) (by simp)
  | [t], h => by simpa using h t (by simp)
  | t :: u :: texts, h => by
    rw [String.intercalate_cons_cons]
    exact ((h t (by simp)).append hs).append (intercalate hs fun v hv => h v (by simp [hv]))

/-- The opening parenthesis makes up for the closing one in every beginning that reaches it. -/
theorem enclosed (ht : Balanced t) : Balanced ("(" ++ t ++ ")") := by
  have hlist : ("(" ++ t ++ ")").toList = '(' :: (t.toList ++ [')']) := by
    rw [String.toList_append, String.toList_append]
    rfl
  constructor
  · intro before hb
    rw [hlist] at hb
    rcases List.prefix_cons_iff.mp hb with rfl | ⟨inner, rfl, hinner⟩
    · exact Nat.le_refl _
    · have hopen : ('(' :: inner).count '(' = inner.count '(' + 1 := List.count_cons_self
      have hclose : ('(' :: inner).count ')' = inner.count ')' := List.count_cons_of_ne (by decide)
      rcases List.prefix_concat_iff.mp hinner with rfl | hinside
      · have hclosed := ht.closed
        rw [hopen, hclose, List.count_append, List.count_append, hclosed]
        simp
      · have hopened := ht.opened inner hinside
        omega
  · rw [hlist]
    simp [List.count_append, ht.closed]

/-- A function in front of its argument. -/
theorem call (hs : Balanced s) (ht : Balanced t) : Balanced (s ++ "(" ++ t ++ ")") := by
  have happend := hs.append ht.enclosed
  rwa [← String.append_assoc, ← String.append_assoc] at happend

end Balanced

end ParamSql.Sql
