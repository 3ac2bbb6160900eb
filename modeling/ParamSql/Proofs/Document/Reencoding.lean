import ParamSql.Proofs.Document.Roundtrip
import ParamSql.Proofs.Document.Yields

/-!
# What was read can be written and read again

A float that is no number cannot be written into a document, so a statement with such a default
would not come back.  No document has such a float, though, and neither has what is read off
one.  Here this is followed through the decoders that a default passes on its way up.

## Main results

* `Statement.yields_finiteDefaults`, `Schema.yields_finiteDefaults`: no default that is read off
  a document is infinite or no number
* `Document.decode_encode`: decoding undoes encoding, and re-encoding what was decoded changes
  nothing
-/

namespace ParamSql

open Document (Node Decoder Source DecodeError Yields Component)

/-! ## Defaults -/

/-- A whole number becomes a float only beyond 64 bits with a sign, and it is finite then. -/
theorem DefaultValue.yields_finite : Yields decoder Finite := by
  refine Yields.held ?_
  intro src n d hn hd
  cases hn with
  | @int n hlow hhigh =>
    cases hd
    split
    · trivial
    · next hfits =>
      rw [Decimal.fitsSigned_iff] at hfits
      have hbelow : Decimal.Below 12 (Float.ofNat n.natAbs) :=
        Decimal.below_ofNat (by omega) (by omega)
      split
      · exact (hbelow.neg (by decide) (by decide)).isFinite
      · exact hbelow.isFinite
  | real hx =>
    cases hd
    exact hx
  | text s =>
    cases hd
    trivial
  | _ => cases hd

theorem ColumnOptions.yields_finite : Yields decoder fun o => ∀ d ∈ o.default, d.Finite :=
  (Component.optional DefaultValue.yields_finite.option (by rintro d ⟨⟩)).record.map fun _ h => h

theorem ColumnDef.yields_finiteDefault : Yields decoder FiniteDefault :=
  (Component.there (.there (.optional ColumnOptions.yields_finite (by rintro d ⟨⟩)))).record.map
    fun _ h => h

/-! ## Alterations -/

namespace Alteration

/-- The strict form adds the column that the loose one names. -/
theorem finiteDefault_of_toAlteration {o : AlterOptions} {a : Alteration}
    (ho : ∀ c ∈ o.addColumn, c.FiniteDefault) (ha : o.toAlteration = .ok a) : a.FiniteDefault := by
  rw [AlterOptions.toAlteration] at ha
  split at ha
  · cases ha
  · split at ha
    · next c hc =>
      rw [addColumn?] at ha
      split at ha
      · cases ha
      · split at ha
        · cases ha
        · cases ha
          exact ho c hc
    · cases ha
      trivial
    · cases ha
      trivial
    · cases ha
      trivial
    · cases ha

theorem yields_finiteDefault : Yields decoder FiniteDefault := by
  have hoptions : Yields AlterOptions.decoder fun o => ∀ c ∈ o.addColumn, c.FiniteDefault :=
    (Component.optional ColumnDef.yields_finiteDefault.option (by rintro c ⟨⟩)).record.map
      fun _ h => h
  exact hoptions.refine fun _ _ => finiteDefault_of_toAlteration

end Alteration

/-! ## Statements -/

namespace Statement

theorem yields_body (k : Kind) : Yields (bodyDecoder k) FiniteDefaults := by
  intro src n s hn hs
  cases k with
  | createTable =>
    obtain ⟨vs, hvs, rfl⟩ := Document.exists_of_map_eq_ok hs
    exact (Component.there (.required ColumnDef.yields_finiteDefault.list)).record src n vs hn hvs
  | alterTable =>
    obtain ⟨vs, hvs, rfl⟩ := Document.exists_of_map_eq_ok hs
    exact (Component.there (.required Alteration.yields_finiteDefault)).record src n vs hn hvs
  | _ =>
    obtain ⟨vs, -, rfl⟩ := Document.exists_of_map_eq_ok hs
    trivial

/-- The members that are held back are members of the statement. -/
theorem numeric_splitKind {src : Source} {ms : List (String × Node)} {kind k : Option Kind}
    {body : List (String × Node)} (hms : ∀ m ∈ ms, m.2.Numeric)
    (h : splitKind src ms kind = .ok (k, body)) : ∀ m ∈ body, m.2.Numeric := by
  induction ms generalizing kind k body with
  | nil =>
    cases h
    nofun
  | cons m ms ih =>
    obtain ⟨key, n⟩ := m
    obtain ⟨hm, hrest⟩ := List.forall_mem_cons.mp hms
    by_cases hn : ∃ m, n = .unlabelled m
    · obtain ⟨m, rfl⟩ := hn
      cases h
    · rw [splitKind_cons (not_exists.mp hn)] at h
      split at h
      · -- the kind
        split at h
        · cases h
        · split at h
          · cases h
          · exact ih hrest h
      · -- a member that is held back
        split at h
        · cases h
        · obtain ⟨⟨k', body'⟩, hbody, hpair⟩ := Document.exists_of_map_eq_ok h
          cases hpair
          exact List.forall_mem_cons.mpr ⟨hm, ih hrest hbody⟩

/-- **Statements that are read off a document** have finite defaults. -/
theorem yields_finiteDefaults : Yields decoder FiniteDefaults := by
  intro src n s hn hs
  cases hn with
  | record hms =>
    rw [decoder] at hs
    split at hs
    · cases hs
    · cases hs
    · next kind body hsplit =>
      exact yields_body kind .held _ s (.record (numeric_splitKind hms hsplit)) hs
  | @list items hns =>
    cases items with
    | nil => cases hs
    | cons n body =>
      rw [decoder] at hs
      split at hs
      · cases hs
      · next kind hkind =>
        obtain ⟨-, hbody⟩ := List.forall_mem_cons.mp hns
        exact (yields_body kind).held src _ s (.list hbody) hs
  | marred n => cases n <;> cases hs
  | _ => cases hs

end Statement

/-! ## Schemas -/

theorem Table.yields_finiteDefaults :
    Yields decoder fun t => ∀ c ∈ t.columns, c.FiniteDefault :=
  (Component.there (.required ColumnDef.yields_finiteDefault.list)).record.map fun _ h => h

/-- **Schemas that are read off a document** have finite defaults. -/
theorem Schema.yields_finiteDefaults : Yields decoder FiniteDefaults :=
  (Component.optional Table.yields_finiteDefaults.list (by rintro t ⟨⟩)).record.map fun _ h => h

/-! ## Whole documents -/

namespace Document

/-- What a text is decoded as is read off its tree. -/
theorem Json.decode_eq_ok {α : Type} {d : Decoder α} {text : String} {a : α}
    (h : Json.decode d text = .ok a) : d .stream (Json.read text).1 = .ok a := by
  rw [Json.decode] at h
  dsimp only at h
  split at h
  · cases h
  · next hread =>
    split at h
    · cases h
      exact hread
    · cases h

/-- **Decoding undoes encoding**, for statements of all kinds and for schemas, wherever the
encoded value is read from.  The defaults have to be finite, which they are in everything that
was read off a document before, be it a tree or a text: so writing it and reading it again
changes nothing. -/
theorem decode_encode :
    (∀ s : Statement, s.FiniteDefaults → ∀ src, Statement.decoder src s.encode = .ok s) ∧
    (∀ s : Schema, s.FiniteDefaults → ∀ src, Schema.decoder src s.encode = .ok s) ∧
    (∀ n : Node, n.Numeric → ∀ src src',
      (∀ s, Statement.decoder src n = .ok s → Statement.decoder src' s.encode = .ok s) ∧
      (∀ s, Schema.decoder src n = .ok s → Schema.decoder src' s.encode = .ok s)) ∧
    (∀ text src,
      (∀ s, Json.decode Statement.decoder text = .ok s →
        Statement.decoder src s.encode = .ok s) ∧
      (∀ s, Json.decode Schema.decoder text = .ok s → Schema.decoder src s.encode = .ok s)) := by
  have hstatement : ∀ n : Node, n.Numeric → ∀ src src' s, Statement.decoder src n = .ok s →
      Statement.decoder src' s.encode = .ok s := by
    intro n hn src src' s hs
    exact (Statement.represents (Statement.yields_finiteDefaults src n s hn hs)).decodes src'
  have hschema : ∀ n : Node, n.Numeric → ∀ src src' s, Schema.decoder src n = .ok s →
      Schema.decoder src' s.encode = .ok s := by
    intro n hn src src' s hs
    exact (Schema.represents (Schema.yields_finiteDefaults src n s hn hs)).decodes src'
  refine ⟨fun s h => (Statement.represents h).decodes, fun s h => (Schema.represents h).decodes,
    fun n hn src src' => ⟨hstatement n hn src src', hschema n hn src src'⟩, ?_⟩
  intro text src
  have hnumeric := Json.numeric_read text
  exact ⟨fun s hs => hstatement _ hnumeric .stream src s (Json.decode_eq_ok hs),
    fun s hs => hschema _ hnumeric .stream src s (Json.decode_eq_ok hs)⟩

/-- A table with a column that defaults to a half. -/
def halves : Statement :=
  .createTable "t" [{ name := "x", type := .real, options := { default := some (.real 0.5) } }]
    true

/-- The table comes back, and so do the schema and the statement that two short texts describe. -/
theorem decode_encode_halves :
    Statement.decoder .value halves.encode = .ok halves ∧
      Schema.decoder .value (Schema.encode ⟨[], [], []⟩) = .ok ⟨[], [], []⟩ ∧
      Statement.decoder .value (Statement.encode (.dropIndex "i" false)) =
        .ok (.dropIndex "i" false) := by
  have hhalves : halves.FiniteDefaults := by
    intro c hc d hd
    cases List.mem_singleton.mp hc
    cases hd
    change Float.isFinite 0.5 = true
    decide +kernel
  have hschema : Schema.decoder .value (Json.read "\x7b\x7d").1 = .ok ⟨[], [], []⟩ := by cbv
  have hdrop : Json.decode Statement.decoder "\x7b\"kind\":\"drop_index\",\"index\":\"i\"\x7d" =
      .ok (.dropIndex "i" false) := by cbv
  obtain ⟨hstatements, -, htrees, htexts⟩ := decode_encode
  exact ⟨hstatements halves hhalves .value,
    (htrees _ (Json.numeric_read "\x7b\x7d") .value .value).2 _ hschema,
    (htexts _ .value).1 _ hdrop⟩

end Document

end ParamSql
