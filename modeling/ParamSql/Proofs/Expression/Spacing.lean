import ParamSql.Proofs.Expression.Refusal
import ParamSql.Proofs.Expression.Token

/-!
# Blanks between tokens

Between the tokens of an expression blanks may stand, and they do not change what it denotes, but
for one place: around the point between a table and its column there may be none.  There the reader
looks for the point right behind the first identifier and for the second identifier right behind
the point, so a text with a blank there is not accepted at all.

That such a text is refused is seen on the text alone: whatever the grammar takes, every point of
it joins two characters of identifiers.

## Main definitions

* `PointsJoin`: every point of a text stands between characters of identifiers

## Main results

* `Derives.pointsJoin`: the points of an expression join
* `tight_of_pointsJoin`: points that join have no blanks around them
* `parse_written`: an expression with blanks between its tokens
-/

namespace ParamSql

namespace Unicode

/-- A text is what is left of it when it is trimmed, between runs of white space. -/
theorem exists_trim (cs : List Char) : ∃ before after : List Char,
    cs = before ++ (trim cs ++ after) ∧ (∀ c ∈ before, isWhiteSpace c = true) ∧
      ∀ c ∈ after, isWhiteSpace c = true := by
  refine ⟨cs.takeWhile isWhiteSpace, (cs.dropWhile isWhiteSpace).rtakeWhile isWhiteSpace, ?_,
    fun c => List.mem_takeWhile_imp, fun c => List.mem_rtakeWhile_imp⟩
  have hend : trim cs = (cs.dropWhile isWhiteSpace).rdropWhile isWhiteSpace := rfl
  rw [hend, List.rdropWhile_append_rtakeWhile, List.takeWhile_append_dropWhile]

end Unicode

namespace Expression

variable {cs ds rest : List Char} {p : Predicate}

/-! ## Points -/

/-- Every point of the text stands between characters of identifiers. -/
def PointsJoin (cs : List Char) : Prop := ∀ ⦃before after⦄, cs = before ++ '.' :: after →
  (∃ c ∈ before.getLast?, isIdentRest c = true) ∧ ∃ c ∈ after.head?, isIdentRest c = true

namespace PointsJoin

theorem of_not_mem (h : '.' ∉ cs) : PointsJoin cs := by
  rintro before after rfl
  simp at h

/-- Texts whose points join may follow each other: a point at the end of one joins nothing. -/
theorem append (h₁ : PointsJoin cs) (h₂ : PointsJoin ds) : PointsJoin (cs ++ ds) := by
  intro before after h
  rcases List.append_eq_append_iff.mp h with ⟨more, rfl, hds⟩ | ⟨more, hcs, hafter⟩
  · obtain ⟨⟨c, hc, hident⟩, hhead⟩ := h₂ hds
    refine ⟨⟨c, ?_, hident⟩, hhead⟩
    rw [List.getLast?_append, Option.mem_def.mp hc]
    rfl
  · cases more with
    | nil =>
      -- the second text would begin with a point, which joins nothing there
      have hds : ds = [] ++ '.' :: after := hafter.symm
      obtain ⟨⟨c, hc, -⟩, -⟩ := h₂ hds
      cases hc
    | cons d more =>
      rw [List.cons_append, List.cons.injEq] at hafter
      obtain ⟨rfl, rfl⟩ := hafter
      obtain ⟨hlast, c, hc, hident⟩ := h₁ hcs
      refine ⟨hlast, c, ?_, hident⟩
      rw [List.head?_append, Option.mem_def.mp hc]
      rfl

end PointsJoin

namespace IsIdentifier

variable {table name : String}

theorem ne_nil (h : IsIdentifier name) : name.toList ≠ [] := by
  obtain ⟨first, run, hname, -, -⟩ := h
  rw [hname]
  exact List.cons_ne_nil first run

theorem exists_head (h : IsIdentifier name) : ∃ c ∈ name.toList.head?, isIdentRest c = true :=
  ⟨_, List.head?_eq_some_head h.ne_nil, h.isIdentRest_of_mem (List.head_mem h.ne_nil)⟩

theorem exists_getLast (h : IsIdentifier name) :
    ∃ c ∈ name.toList.getLast?, isIdentRest c = true :=
  ⟨_, List.getLast?_eq_some_getLast h.ne_nil, h.isIdentRest_of_mem (List.getLast_mem h.ne_nil)⟩

theorem point_not_mem (h : IsIdentifier name) : '.' ∉ name.toList :=
  h.not_mem (by rw [isIdentRest_of_lt (by decide)]; rfl)

/-- The point between a table and its column joins them. -/
theorem pointsJoin_qualified (ht : IsIdentifier table) (hn : IsIdentifier name) :
    PointsJoin (table.toList ++ '.' :: name.toList) := by
  intro before after h
  obtain ⟨rfl, -, rfl⟩ :=
    (List.append_cons_inj_of_notMem ht.point_not_mem hn.point_not_mem).mp h
  exact ⟨ht.exists_getLast, hn.exists_head⟩

end IsIdentifier

/-! ### What the grammar takes -/

namespace Grammar

theorem Ident.eq_append {name : String} (h : Ident cs name rest) : cs = name.toList ++ rest := by
  obtain ⟨-, -, -⟩ := h
  rw [String.toList_ofList, List.cons_append]

/-- What is taken of the text is a beginning of it whose points join. -/
def Joins (cs rest : List Char) : Prop := ∃ taken, cs = taken ++ rest ∧ PointsJoin taken

namespace Joins

variable {α : Type} {item : Rule α} {mid : List Char}

theorem refl (cs : List Char) : Joins cs cs := ⟨[], rfl, .of_not_mem nofun⟩

theorem trans (h₁ : Joins cs mid) (h₂ : Joins mid rest) : Joins cs rest := by
  obtain ⟨taken₁, rfl, hjoin₁⟩ := h₁
  obtain ⟨taken₂, rfl, hjoin₂⟩ := h₂
  exact ⟨taken₁ ++ taken₂, (List.append_assoc ..).symm, hjoin₁.append hjoin₂⟩

/-- A symbol without a point. -/
theorem symbol {taken : List Char} (h : '.' ∉ taken) (rest : List Char) :
    Joins (taken ++ rest) rest := ⟨taken, rfl, .of_not_mem h⟩

theorem blanks (h : Blanks cs rest) : Joins cs rest := by
  obtain ⟨run, hrun, rfl⟩ := h
  refine .symbol (fun hpoint => ?_) rest
  cases List.all_eq_true.mp hrun _ hpoint

theorem path {p : Expression.Path} (h : Path cs p rest) : Joins cs rest := by
  rcases h with h | ⟨ht, hn⟩
  · rw [h.eq_append]
    exact symbol h.isIdentifier.point_not_mem rest
  · next more table name =>
    refine ⟨table.toList ++ '.' :: name.toList, ?_,
      ht.isIdentifier.pointsJoin_qualified hn.isIdentifier⟩
    rw [ht.eq_append, hn.eq_append, List.append_assoc]
    rfl

theorem enclosed {opening closing : String} {p : Expression.Path}
    (h : Enclosed opening closing cs p rest) (hopening : '.' ∉ opening.toList)
    (hclosing : '.' ∉ closing.toList) : Joins cs rest := by
  obtain ⟨before, hpath, after⟩ := h
  exact (symbol hopening _).trans ((blanks before).trans ((path hpath).trans
    ((blanks after).trans (symbol hclosing _))))

theorem fold {l : ParamSql.Leaf} (h : Fold cs l rest) : Joins cs rest := by
  rcases h with h | h | h | h
  · exact enclosed h (by decide) (by decide)
  · exact enclosed h (by decide) (by decide)
  · exact enclosed h (by decide) (by decide)
  · exact path h

theorem op {op : Comparison} (h : Op cs op rest) : Joins cs rest := by
  cases h with
  | symbol op => exact symbol (by cases op <;> decide) _
  | missing => exact .refl _

theorem mark (h : Mark cs rest) : Joins cs rest := by
  cases h with
  | mark =>
    have hmark : '.' ∉ ['?'] := by decide
    exact symbol hmark _
  | missing => exact .refl _

theorem leaf {l : ParamSql.Leaf} (h : Leaf cs l rest) : Joins cs rest := by
  obtain ⟨hfold, before, hop, after, hmark⟩ := h
  exact (fold hfold).trans ((blanks before).trans ((op hop).trans
    ((blanks after).trans (mark hmark))))

theorem behind {c : Char} {a : α} (hc : c ≠ '.') (h : Behind c item cs a rest)
    (hitem : ∀ {cs a rest}, item cs a rest → Joins cs rest) : Joins cs rest := by
  obtain ⟨before, after, ha⟩ := h
  have hsign : '.' ∉ [c] := by simpa using hc.symm
  exact (blanks before).trans ((symbol hsign _).trans ((blanks after).trans (hitem ha)))

theorem star {c : Char} {as : List α} (hc : c ≠ '.') (h : Star (Behind c item) cs as rest)
    (hitem : ∀ {cs a rest}, item cs a rest → Joins cs rest) : Joins cs rest := by
  induction h with
  | nil => exact .refl _
  | cons head _ ih => exact (behind hc head hitem).trans ih

theorem group {node : Rule Predicate} {ps : List Predicate} (h : Group node cs ps rest)
    (hnode : ∀ {cs p rest}, node cs p rest → Joins cs rest) : Joins cs rest := by
  rcases h with ⟨before, first, others, after⟩ | h
  · have hinner := (blanks before).trans ((hnode first).trans
      ((star (by decide) others hnode).trans (blanks after)))
    have hopening : '.' ∉ ['('] := by decide
    have hclosing : '.' ∉ [')'] := by decide
    exact (symbol hopening _).trans (hinner.trans (symbol hclosing rest))
  · exact leaf h

theorem node (h : Node cs p rest) : Joins cs rest := by
  let motive : Rule Predicate := fun cs _ rest => Joins cs rest
  refine Node.induction (motive := motive) (fun hleaf conjuncts disjuncts => ?_) h
  have hgroup : ∀ {cs ps rest}, Group (fun cs p rest => Node cs p rest ∧ motive cs p rest) cs ps
      rest → Joins cs rest := fun h => group h fun hinside => hinside.2
  exact (leaf hleaf).trans ((star (by decide) conjuncts hgroup).trans
    (star (by decide) disjuncts hgroup))

end Joins

end Grammar

/-- **The points of an expression join**: there is no blank around them. -/
theorem Derives.pointsJoin (h : Derives cs p) : PointsJoin cs := by
  obtain ⟨taken, hcs, hjoin⟩ := Grammar.Joins.node h
  rw [List.append_nil] at hcs
  rwa [hcs]

/-! ## Texts -/

/-- **Points that join have no blanks around them**, in front or behind. -/
theorem tight_of_pointsJoin {gap : Nat → List Char} {ts : List Token} (hb : Blank gap)
    (h : PointsJoin (written gap ts)) : Tight gap ts := by
  have hrun : ∀ {i c}, c ∈ gap i → isIdentRest c ≠ true := by
    intro i c hc
    rw [isIdentRest_of_isBlank (List.all_eq_true.mp (hb i) c hc)]
    exact Bool.false_ne_true
  intro i hi
  obtain ⟨hlt, hget⟩ := List.getElem?_eq_some_iff.mp hi
  -- `us` stands in front of the point and `vs` behind it
  obtain ⟨us, vs, rfl, rfl⟩ : ∃ us vs, ts = us ++ .point :: vs ∧ us.length = i := by
    refine ⟨ts.take i, ts.drop (i + 1), ?_, List.length_take_of_le hlt.le⟩
    rw [← hget, ← List.drop_eq_getElem_cons hlt, List.take_append_drop]
  have htext : written gap (us ++ .point :: vs) = (written gap us ++ gap us.length) ++
      '.' :: written (fun j => gap (j + 1 + us.length)) vs := by
    rw [written_append, written, Nat.zero_add, List.append_assoc]
    rfl
  obtain ⟨⟨c, hc, hlast⟩, d, hd, hhead⟩ := h htext
  constructor
  · by_contra hne
    rw [List.getLast?_append_of_ne_nil _ hne] at hc
    exact hrun (List.mem_of_getLast? hc) hlast
  · cases vs with
    | nil => cases hd
    | cons v vs =>
      by_contra hne
      rw [written, Nat.zero_add, Nat.add_comm, List.head?_append_of_ne_nil _ hne] at hd
      exact hrun (List.mem_of_head? hd) hhead

/-- Behind blanks, what denotes a predicate is accepted. -/
theorem parse_of_blanks (hb : Grammar.Blanks ds cs) (h : Derives cs p) :
    parse (String.ofList ds) = .ok p := by
  obtain ⟨lead, hlead, rfl⟩ := hb
  obtain ⟨taken, run, rfl, hrun, hderives, hlast⟩ := Grammar.Node.exists_derives h
  rw [parse, String.toList_ofList, List.append_nil, trim_of_derives lead hderives hlast hlead hrun]
  exact parseTrimmed_eq_ok_iff.mpr hderives

/-- The points of what is accepted join: there are none in the white space around it. -/
theorem pointsJoin_of_parse {text : List Char} (h : parse (String.ofList text) = .ok p) :
    PointsJoin text := by
  rw [parse, String.toList_ofList, parseTrimmed_eq_ok_iff] at h
  obtain ⟨before, after, htext, hbefore, hafter⟩ := Unicode.exists_trim text
  have hpoint : Unicode.isWhiteSpace '.' = false := by decide
  have hrun : ∀ {run : List Char}, (∀ c ∈ run, Unicode.isWhiteSpace c = true) → '.' ∉ run := by
    intro run hrun hmem
    rw [hrun _ hmem] at hpoint
    cases hpoint
  rw [htext]
  exact (PointsJoin.of_not_mem (hrun hbefore)).append
    (h.pointsJoin.append (.of_not_mem (hrun hafter)))

/-- **Blanks between tokens change nothing, but for those around a point.**  Let some tokens spell
a node, and let blanks stand in front of each of them.  With no blank anywhere the text is
accepted, as the node that they spell.  With these blanks it is accepted as the same node if none
stand around a point, and otherwise it is refused. -/
theorem parse_written {ts : List Token} (h : Spelled.Node ts p) {gap : Nat → List Char}
    (hb : Blank gap) :
    parse (String.ofList (written (fun _ => []) ts)) = .ok p ∧
      (Tight gap ts → parse (String.ofList (written gap ts)) = .ok p) ∧
      (¬ Tight gap ts → ∃ e, parse (String.ofList (written gap ts)) = .error e) := by
  have hspaced : ∀ gap, Spaced gap ts → parse (String.ofList (written gap ts)) = .ok p := by
    intro gap hs
    obtain ⟨cs, hcs, hderives⟩ := h.derives hs
    exact parse_of_blanks hcs hderives
  refine ⟨hspaced _ ⟨fun _ => rfl, fun _ _ => ⟨rfl, rfl⟩⟩, fun ht => hspaced gap ⟨hb, ht⟩,
    fun ht => ?_⟩
  cases hread : parse (String.ofList (written gap ts)) with
  | error e => exact ⟨e, rfl⟩
  | ok q => exact absurd (tight_of_pointsJoin hb (pointsJoin_of_parse hread)) ht

/-- Blanks everywhere but around the point are let pass; one in front of every token is not. -/
theorem parse_written_folded :
    let ts : List Token := [.lower, .ident "users", .point, .ident "name", .closing, .op .ne, .or,
      .opening, .ident "a", .comma, .ident "b", .and, .ident "c", .closing]
    let wide : Nat → List Char := fun i => if i = 2 ∨ i = 3 then [] else ['\t', '\n']
    let even : Nat → List Char := fun _ => [' ']
    let c : Predicate := ⟨⟨"c", none, .eq, false, false⟩, [], []⟩
    let b : Predicate := ⟨⟨"b", none, .eq, false, false⟩, [c], []⟩
    let a : Predicate := ⟨⟨"a", none, .eq, false, false⟩, [], []⟩
    let p : Predicate := ⟨⟨"name", some "users", .ne, true, false⟩, [], [a, b]⟩
    Spelled.Node ts p ∧ Blank wide ∧ Tight wide ts ∧ Blank even ∧ ¬ Tight even ts ∧
      parse "lower(users.name)!=|(a,b&c)" = .ok p ∧
      parse (String.ofList (written wide ts)) = .ok p ∧
      ∃ e, parse " lower( users . name ) != | ( a , b & c )" = .error e := by
  intro ts wide even c b a p
  have hcolumn : ∀ name, IsIdentifier name →
      Spelled.Leaf [.ident name] ⟨name, none, .eq, false, false⟩ := fun _ h =>
    .equal (.plain (.column h)) .missing
  have ha := hcolumn "a" ⟨_, _, rfl, rfl, rfl⟩
  have hb := hcolumn "b" ⟨_, _, rfl, rfl, rfl⟩
  have hc := hcolumn "c" ⟨_, _, rfl, rfl, rfl⟩
  have husers : IsIdentifier "users" := ⟨_, _, rfl, rfl, by decide +kernel⟩
  have hname : IsIdentifier "name" := ⟨_, _, rfl, rfl, by decide +kernel⟩
  have hleaf := Spelled.Leaf.compared (.lower (.qualified husers hname)) .ne .missing
  have hfirst := Spelled.Node.node ha .nil .nil
  have hsecond := Spelled.Node.node hb (.cons (.behind (.leaf hc)) .nil) .nil
  have hgroup := Spelled.Group.nodes hfirst (.cons (.behind hsecond) .nil)
  have hnode : Spelled.Node ts p := .node hleaf .nil (.cons (.behind hgroup) .nil)
  have hwide : Blank wide := by
    intro i
    by_cases hi : i = 2 ∨ i = 3 <;> simp only [wide, hi] <;> rfl
  have htight : Tight wide ts := by
    have hpoint : ∀ i < ts.length, ts[i]? = some .point → wide i = [] ∧ wide (i + 1) = [] := by
      decide
    exact fun i hi => hpoint i (List.getElem?_eq_some_iff.mp hi).1 hi
  have heven : Blank even := fun _ => rfl
  have hloose : ¬ Tight even ts := fun h => List.cons_ne_nil ' ' [] (h 2 rfl).1
  obtain ⟨hbare, hwritten, -⟩ := parse_written hnode hwide
  obtain ⟨-, -, hrefused⟩ := parse_written hnode heven
  exact ⟨hnode, hwide, htight, heven, hloose, hbare, hwritten htight, hrefused hloose⟩

/-- A table and a column with blanks around the point are refused behind the table. -/
theorem spaced_point_refused :
    let ts : List Token := [.ident "users", .point, .ident "name"]
    let gap : Nat → List Char := fun i => if i = 0 then [] else [' ']
    let p : Predicate := ⟨⟨"name", some "users", .eq, false, false⟩, [], []⟩
    Spelled.Node ts p ∧ Blank gap ∧ written (fun _ => []) ts = "users.name".toList ∧
      written gap ts = "users . name".toList ∧ parse "users.name" = .ok p ∧
      parse "users . name" = .error (.trailing 6 ". name".toList) := by
  intro ts gap p
  have husers : IsIdentifier "users" := ⟨_, _, rfl, rfl, by decide +kernel⟩
  have hname : IsIdentifier "name" := ⟨_, _, rfl, rfl, by decide +kernel⟩
  have hleaf := Spelled.Leaf.equal (.plain (.qualified husers hname)) .missing
  have hblank : Blank gap := by
    intro i
    by_cases hi : i = 0 <;> simp only [gap, hi] <;> rfl
  exact ⟨.node hleaf .nil .nil, hblank, by decide, by decide, by decide +kernel,
    by decide +kernel⟩

end Expression

end ParamSql
