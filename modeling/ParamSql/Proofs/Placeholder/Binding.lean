/-!
# Placeholders behind their leads

A text binds values at its question marks, in the order in which they are written.  What a
value means is decided by the text directly in front of its question mark, its *lead*: the
comparison or the assignment that it completes.  `Binds leads text` says that a text has
exactly one placeholder per lead, each directly behind its lead.

## Main definitions

* `Sql.Unmarked text`: the text has no placeholder
* `Sql.Binds leads text`: the placeholders of the text, by their leads

## Main results

* `Sql.Binds.append`: a text behind another one binds behind it
* `Sql.Binds.intercalate`: texts that are joined bind one after the other
-/

namespace ParamSql.Sql

/-! ## Texts without placeholders -/

/-- The text has no placeholder. -/
def Unmarked (text : String) : Prop := '?' ∉ text.toList

instance (text : String) : Decidable (Unmarked text) :=
  inferInstanceAs (Decidable ('?' ∉ text.toList))

@[simp] theorem unmarked_append {s t : String} :
    Unmarked (s ++ t) ↔ Unmarked s ∧ Unmarked t := by
  simp [Unmarked]

theorem unmarked_intercalate {separator : String} (hs : Unmarked separator) :
    ∀ {texts : List String}, (∀ t ∈ texts, Unmarked t) →
      Unmarked (String.intercalate separator texts)
  | [], _ => by simp [Unmarked]
  | [t], h => by simpa using h
  | t :: u :: texts, h => by
    rw [String.intercalate_cons_cons, unmarked_append, unmarked_append]
    exact ⟨⟨h t (by simp), hs⟩, unmarked_intercalate hs fun v hv => h v (by simp [hv])⟩

/-! ## Texts with placeholders -/

/-- The text has one placeholder per lead, and the `k`-th placeholder stands directly behind
the `k`-th lead. -/
def Binds (leads : List String) (text : String) : Prop :=
  text.toList.count '?' = leads.length ∧
    ∀ k (hk : k < leads.length), ∃ before after, text.toList = before ++ '?' :: after ∧
      before.count '?' = k ∧ leads[k].toList <:+ before

namespace Binds

variable {l m : List String} {s t : String}

theorem count_eq (h : Binds l t) : t.toList.count '?' = l.length := h.1

theorem nil_iff : Binds [] t ↔ Unmarked t := by
  simp [Binds, Unmarked, List.count_eq_zero]

/-- The placeholders of a text that follows another one come behind those of the other. -/
theorem append (hs : Binds l s) (ht : Binds m t) : Binds (l ++ m) (s ++ t) := by
  refine ⟨?_, fun k hk => ?_⟩
  · rw [String.toList_append, List.count_append, hs.1, ht.1, List.length_append]
  · by_cases hl : k < l.length
    · obtain ⟨before, after, he, hc, hb⟩ := hs.2 k hl
      refine ⟨before, after ++ t.toList, ?_, hc, ?_⟩
      · rw [String.toList_append, he, List.append_assoc, List.cons_append]
      · rwa [List.getElem_append_left hl]
    · rw [List.length_append] at hk
      obtain ⟨before, after, he, hc, hb⟩ := ht.2 (k - l.length) (by omega)
      refine ⟨s.toList ++ before, after, ?_, ?_, ?_⟩
      · rw [String.toList_append, he, List.append_assoc]
      · rw [List.count_append, hs.1, hc]
        omega
      · rw [List.getElem_append_right (by omega)]
        exact hb.trans (List.suffix_append _ _)

/-- A text in front without placeholders changes nothing. -/
theorem behind (hs : Unmarked s) (ht : Binds m t) : Binds m (s ++ t) :=
  append (nil_iff.mpr hs) ht

/-- A text behind without placeholders changes nothing. -/
theorem before (hs : Binds l s) (ht : Unmarked t) : Binds l (s ++ t) := by
  simpa using append hs (nil_iff.mpr ht)

/-- A placeholder completes the text in front of it. -/
theorem mark (hs : Unmarked s) : Binds [s] (s ++ "?") := by
  refine ⟨?_, fun k hk => ?_⟩
  · simp [List.count_eq_zero.mpr hs]
  · obtain rfl : k = 0 := by simpa using hk
    exact ⟨s.toList, [], by simp, List.count_eq_zero.mpr hs, by simp⟩

/-- Joined texts bind one after the other. -/
theorem intercalate {α : Type} {leads : α → List String} {text : α → String}
    (hs : Unmarked s) : ∀ as : List α, (∀ a ∈ as, Binds (leads a) (text a)) →
      Binds (as.flatMap leads) (String.intercalate s (as.map text))
  | [], _ => nil_iff.mpr (by simp [Unmarked])
  | [a], h => by simpa using h a (by simp)
  | a :: b :: as, h => by
    rw [List.map_cons, List.map_cons, String.intercalate_cons_cons, List.flatMap_cons]
    exact ((h a (by simp)).before hs).append
      (intercalate hs (b :: as) fun c hc => h c (by simp [hc]))

end Binds

end ParamSql.Sql
