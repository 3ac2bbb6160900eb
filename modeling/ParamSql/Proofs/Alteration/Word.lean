import Mathlib.Data.List.Infix
import ParamSql.Proofs.Decimal.Numeral
import ParamSql.Proofs.Vocabulary
import ParamSql.Sql.Statement

/-!
# Texts without the words of a key

The words `UNIQUE` and `KEY` occur in no text that is put together from texts without them, as
long as a character that neither word has stands at each joint.  All joints of an alteration are
spaces, parentheses and semicolons, so the text of an added column has these words only from the
strings of the column and from its modifiers.

## Main definitions

* `Sql.Unkeyed text`: neither `UNIQUE` nor `KEY` occurs in the text

## Main results

* `Sql.infix_append_cons_iff`: a word without a separator lies on one side of it
* `Sql.Unkeyed.append`, `Sql.Unkeyed.intercalate`: texts behind each other
* `Sql.unkeyed_addColumn`: the text of an added column
-/

namespace ParamSql

namespace Sql

/-- A word without a separator lies on one side of it. -/
theorem infix_append_cons_iff {w a b : List Char} {c : Char} (hc : c ∉ w) :
    w <:+: a ++ c :: b ↔ w <:+: a ∨ w <:+: b := by
  constructor
  · rintro ⟨s, t, h⟩
    rcases List.append_eq_append_iff.mp h with ⟨u, ha, -⟩ | ⟨u, hs, ht⟩
    · exact .inl ⟨s, u, ha.symm⟩
    · rcases List.append_eq_append_iff.mp hs with ⟨v, ha, hw⟩ | ⟨v, -, hu⟩
      · cases u with
        | nil =>
          rw [List.append_nil] at hw
          exact .inl ⟨s, [], by rw [List.append_nil, ha, hw]⟩
        | cons d u =>
          obtain ⟨rfl, -⟩ := List.cons.inj ht
          exact absurd (hw ▸ List.mem_append_right v List.mem_cons_self) hc
      · rw [hu] at ht
        cases v with
        | nil =>
          cases w with
          | nil => exact .inl (List.nil_infix)
          | cons d w =>
            obtain ⟨rfl, -⟩ := List.cons.inj ht
            exact absurd List.mem_cons_self hc
        | cons d v =>
          obtain ⟨-, hb⟩ := List.cons.inj ht
          exact .inr ⟨v, t, hb.symm⟩
  · rintro (h | h)
    · exact h.trans (List.prefix_append a _).isInfix
    · exact h.trans ((List.suffix_cons c b).trans (List.suffix_append a _)).isInfix

/-! ## Texts behind each other -/

/-- Neither `UNIQUE` nor `KEY` occurs in the text. -/
structure Unkeyed (text : String) : Prop where
  unique : ¬ "UNIQUE".toList <:+: text.toList
  key : ¬ "KEY".toList <:+: text.toList

instance (text : String) : Decidable (Unkeyed text) :=
  decidable_of_iff (¬ "UNIQUE".toList <:+: text.toList ∧ ¬ "KEY".toList <:+: text.toList)
    ⟨fun h => ⟨h.1, h.2⟩, fun h => ⟨h.unique, h.key⟩⟩

/-- A character of neither word. -/
def IsJoint (c : Char) : Prop := c ∉ "UNIQUEKEY".toList

instance (c : Char) : Decidable (IsJoint c) :=
  inferInstanceAs (Decidable (c ∉ "UNIQUEKEY".toList))

theorem not_infix_append {w a b : List Char} (ha : ¬ w <:+: a) (hb : ¬ w <:+: b)
    (hjoint : (∀ c ∈ a.getLast?, c ∉ w) ∨ ∀ c ∈ b.head?, c ∉ w) : ¬ w <:+: a ++ b := by
  rcases hjoint with hjoint | hjoint
  · rcases List.eq_nil_or_concat a with rfl | ⟨a, c, rfl⟩
    · exact hb
    · have hc : c ∉ w := hjoint c (by simp)
      rw [List.concat_eq_append] at ha ⊢
      rw [List.append_assoc, List.singleton_append, infix_append_cons_iff hc]
      refine not_or_intro (fun h => ha ?_) hb
      exact h.trans (List.prefix_append a [c]).isInfix
  · cases b with
    | nil => rwa [List.append_nil]
    | cons c b =>
      rw [infix_append_cons_iff (hjoint c rfl)]
      exact not_or_intro ha fun h => hb (h.trans (List.suffix_cons c b).isInfix)

namespace Unkeyed

variable {s t : String}

/-- A text without a letter of each word. -/
theorem of_not_mem (hu : 'U' ∉ t.toList) (hk : 'K' ∉ t.toList) : Unkeyed t where
  unique h := hu (h.subset (by decide))
  key h := hk (h.subset (by decide))

/-- Two texts, one of which has a joint towards the other. -/
theorem append (hs : Unkeyed s) (ht : Unkeyed t)
    (hjoint : (∀ c ∈ s.toList.getLast?, IsJoint c) ∨ ∀ c ∈ t.toList.head?, IsJoint c) :
    Unkeyed (s ++ t) := by
  have hword : ∀ {w : List Char}, w ⊆ "UNIQUEKEY".toList →
      (∀ c ∈ s.toList.getLast?, c ∉ w) ∨ ∀ c ∈ t.toList.head?, c ∉ w := fun hw =>
    hjoint.imp (fun h c hc hmem => h c hc (hw hmem)) fun h c hc hmem => h c hc (hw hmem)
  constructor
  · rw [String.toList_append]
    exact not_infix_append hs.unique ht.unique (hword (by decide))
  · rw [String.toList_append]
    exact not_infix_append hs.key ht.key (hword (by decide))

/-- A text behind words that end in a joint. -/
theorem behind (hs : Unkeyed s) (hlast : ∀ c ∈ s.toList.getLast?, IsJoint c) (ht : Unkeyed t) :
    Unkeyed (s ++ t) :=
  hs.append ht (.inl hlast)

/-- A text in front of words that begin with a joint. -/
theorem before (hs : Unkeyed s) (ht : Unkeyed t) (hfirst : ∀ c ∈ t.toList.head?, IsJoint c) :
    Unkeyed (s ++ t) :=
  hs.append ht (.inr hfirst)

/-- Texts with a space between them. -/
theorem intercalate : ∀ {texts : List String}, (∀ t ∈ texts, Unkeyed t) →
    Unkeyed (String.intercalate " " texts)
  | [], _ => by decide
  | [t], h => by simpa using h t (by simp)
  | t :: u :: texts, h => by
    rw [String.intercalate_cons_cons, String.append_assoc]
    have hrest : Unkeyed (String.intercalate " " (u :: texts)) :=
      intercalate fun v hv => h v (by simp [hv])
    refine (h t (by simp)).before ((by decide : Unkeyed " ").behind (by simp [IsJoint]) hrest) ?_
    simp [IsJoint]

end Unkeyed

/-! ## The text of an added column -/

theorem unkeyed_text {d : DefaultValue} (h : ∀ s ∈ d.strings, Unkeyed s) : Unkeyed d.text := by
  have hnumeral : ∀ {text : String}, Decimal.AllNumeral text → Unkeyed text := by
    intro text htext
    refine .of_not_mem (fun hmem => ?_) fun hmem => ?_
    · exact absurd (Decimal.allNumeral_iff.mp htext _ hmem) (by decide)
    · exact absurd (Decimal.allNumeral_iff.mp htext _ hmem) (by decide)
  cases d with
  | integer n => exact hnumeral (Decimal.allNumeral_integer _)
  | real x => exact hnumeral (Decimal.allNumeral_positional x)
  | expr sql => exact h sql (by simp [DefaultValue.strings])

theorem unkeyed_columnModifiers {o : ColumnOptions} (hunique : o.unique = false)
    (h : ∀ s ∈ o.default.toList.flatMap (·.strings), Unkeyed s) : Unkeyed (columnModifiers o) := by
  have hnull : Unkeyed (if o.notNull then " NOT NULL" else "") := by
    cases o.notNull <;> decide
  rw [columnModifiers, hunique, if_neg Bool.false_ne_true, String.empty_append]
  cases hd : o.default with
  | none => simpa using hnull
  | some d =>
    have htext : Unkeyed d.text := unkeyed_text fun s hs => h s (by simpa [hd] using hs)
    refine hnull.before ((by decide : Unkeyed " DEFAULT ").behind (by simp [IsJoint]) htext) ?_
    simp [IsJoint]

/-- A modifier stands behind a space. -/
theorem isJoint_head_columnModifiers {o : ColumnOptions} (hunique : o.unique = false) :
    ∀ c ∈ (columnModifiers o).toList.head?, IsJoint c := by
  rw [columnModifiers, hunique]
  cases o.notNull <;> cases o.default <;> simp [IsJoint]

theorem unkeyed_columnDefinition {c : ColumnDef} (hunique : c.options.unique = false)
    (h : ∀ s ∈ c.strings, Unkeyed s) : Unkeyed (columnDefinition c) := by
  simp only [ColumnDef.strings, List.forall_mem_cons, List.forall_mem_append] at h
  obtain ⟨hname, hdefault, -⟩ := h
  have htype : Unkeyed c.type.word := by cases c.type <;> decide
  have hspace : Unkeyed (c.name ++ " ") := hname.before (by decide) (by simp [IsJoint])
  rw [columnDefinition]
  refine (hspace.behind (by simp [IsJoint]) htype).before ?_ ?_
  · exact unkeyed_columnModifiers hunique hdefault
  · exact isJoint_head_columnModifiers hunique

theorem unkeyed_references {f : ForeignKey} (h : ∀ s ∈ f.strings, Unkeyed s) :
    Unkeyed (references f) := by
  simp only [ForeignKey.strings, List.forall_mem_cons] at h
  obtain ⟨htable, hcolumn, hoptions⟩ := h
  have hlead : Unkeyed ("REFERENCES " ++ f.table) :=
    (by decide : Unkeyed "REFERENCES ").behind (by simp [IsJoint]) htable
  have hopen : Unkeyed ("REFERENCES " ++ f.table ++ " (") :=
    hlead.before (by decide) (by simp [IsJoint])
  have hinside : Unkeyed ("REFERENCES " ++ f.table ++ " (" ++ f.column) :=
    hopen.behind (by simp [IsJoint, List.getLast?_cons]) hcolumn
  have hclose : Unkeyed ("REFERENCES " ++ f.table ++ " (" ++ f.column ++ ")") :=
    hinside.before (by decide) (by simp [IsJoint])
  rw [references]
  refine hclose.behind (by simp [IsJoint, List.getLast?_cons]) ?_
  split
  · decide
  · exact (by decide : Unkeyed " ").behind (by simp [IsJoint]) (.intercalate hoptions)

/-- **The text of an added column** has these words only if one of its strings has. -/
theorem unkeyed_addColumn {table : String} {new : NewColumn}
    (h : ∀ s ∈ table :: new.column.strings, Unkeyed s) :
    Unkeyed (alterTable table (.addColumn new)) := by
  obtain ⟨htable, hcolumn⟩ := List.forall_mem_cons.mp h
  have hdefinition := unkeyed_columnDefinition new.notUnique hcolumn
  have hadd : Unkeyed ("ADD COLUMN " ++ columnDefinition new.column) :=
    (by decide : Unkeyed "ADD COLUMN ").behind (by simp [IsJoint]) hdefinition
  have halteration : Unkeyed (alteration (.addColumn new)) := by
    rw [alteration]
    cases hf : new.column.foreign with
    | none => simpa using hadd
    | some f =>
      have hreferences : Unkeyed (references f) :=
        unkeyed_references fun s hs => hcolumn s (by simp [ColumnDef.strings, hf, hs])
      refine hadd.before ((by decide : Unkeyed " ").behind (by simp [IsJoint]) hreferences) ?_
      simp [IsJoint]
  have hnamed : Unkeyed ("ALTER TABLE " ++ table) :=
    (by decide : Unkeyed "ALTER TABLE ").behind (by simp [IsJoint]) htable
  have hlead : Unkeyed ("ALTER TABLE " ++ table ++ " ") :=
    hnamed.before (by decide) (by simp [IsJoint])
  rw [alterTable]
  have hbody := hlead.behind (by simp [IsJoint, List.getLast?_cons]) halteration
  exact hbody.before (by decide) (by simp [IsJoint])

end Sql

end ParamSql
