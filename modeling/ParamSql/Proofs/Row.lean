import Mathlib
import ParamSql.Row

/-!
# Rows with repeated names

A row takes its cells from left to right.  A name that is new comes last; one that is known keeps
its place and takes the new value.  So a name stands where the first of its cells stood and holds
the value of the last one: the first says where, the last says what.  A text is stored as bytes;
the first cell whose bytes encode no text is an error, and there is no row.

## Main definitions

* `Cell.Decoded c v`: the cell is read as the value `v`

## Main results

* `Row.columns_insert`, `Row.get?_insert`: one more cell
* `Row.columns_of_ofCells`: the names of a row, in the order in which they occur first
* `Row.get?_of_ofCells`: a name holds the value of its last cell
* `Row.members_of_ofCells`: a row whose columns have names of their own
* `Row.ofCells_eq_error`: a cell that cannot be read
* `Row.repeated_names`: all of it, for the cells of any result
-/

namespace ParamSql

/-! ## Cells -/

namespace Cell

/-- The value that a cell is read as. -/
inductive Decoded : Cell → Document.Node → Prop
  | null : Decoded .null .null
  | integer (n : Int64) : Decoded (.integer n) (.int n.toInt)
  | real {x : Float} (h : x.isFinite = true) : Decoded (.real x) (.real x)
  | notFinite {x : Float} (h : x.isFinite = false) : Decoded (.real x) .null
  | text (s : String) : Decoded (.text (Utf8.encode s)) (.text s)
  | blob (bytes : List UInt8) : Decoded (.blob bytes) (.list (bytes.map fun b => .int b.toNat))

variable {c : Cell} {v : Document.Node}

theorem node_eq_ok_iff : c.node = .ok v ↔ c.Decoded v := by
  constructor
  · intro h
    cases c with
    | null => exact Except.ok.inj h ▸ .null
    | integer n => exact Except.ok.inj h ▸ .integer n
    | real x =>
      obtain rfl := Except.ok.inj h
      split
      · next hx => exact .real hx
      · next hx => exact .notFinite (Bool.eq_false_iff.mpr hx)
    | text bytes =>
      rw [node] at h
      cases hread : Utf8.decode bytes with
      | error fault =>
        rw [hread] at h
        cases h
      | ok s =>
        rw [hread] at h
        obtain rfl := Except.ok.inj h
        exact Utf8.decode_eq_ok_iff.mp hread ▸ .text s
    | blob bytes => exact Except.ok.inj h ▸ .blob bytes
  · rintro (_ | _ | hx | hx | s | _)
    · rfl
    · rfl
    · rw [node, if_pos hx]
    · rw [node, if_neg (Bool.eq_false_iff.mp hx)]
    · rw [node, Utf8.decode_of_encode]
      rfl
    · rfl

/-- Where the bytes of every text encode one, every cell can be read. -/
theorem exists_decoded_of_texts {cells : CellRow}
    (h : ∀ name bytes, (name, .text bytes) ∈ cells → ∃ s, bytes = Utf8.encode s) :
    ∀ cell ∈ cells, ∃ v, cell.2.Decoded v := by
  rintro ⟨name, c⟩ hcell
  cases c with
  | null => exact ⟨_, .null⟩
  | integer n => exact ⟨_, .integer n⟩
  | real x =>
    cases hx : x.isFinite with
    | true => exact ⟨_, .real hx⟩
    | false => exact ⟨_, .notFinite hx⟩
  | text bytes =>
    obtain ⟨s, rfl⟩ := h name bytes hcell
    exact ⟨_, .text s⟩
  | blob bytes => exact ⟨_, .blob bytes⟩

/-- Bytes that encode no text have a fault. -/
theorem exists_fault {bytes : List UInt8} (h : ∀ s, bytes ≠ Utf8.encode s) :
    ∃ fault, (text bytes).node = .error fault := by
  cases hread : Utf8.decode bytes with
  | ok s => exact absurd (Utf8.decode_eq_ok_iff.mp hread) (h s)
  | error fault => exact ⟨fault, by rw [node, hread]; rfl⟩

end Cell

namespace Row

variable {name : String} {value : Document.Node} {members : List (String × Document.Node)}
  {cells before after : CellRow} {c : Cell} {row : Row}

/-! ## One more cell -/

/-- A new name comes last. -/
theorem put_of_not_mem (h : name ∉ members.map (·.1)) :
    Document.Node.put name value members = members ++ [(name, value)] := by
  induction members with
  | nil => rfl
  | cons m members ih =>
    rw [List.map_cons, List.mem_cons, not_or] at h
    obtain ⟨hne, hmembers⟩ := h
    rw [Document.Node.put, if_neg (Ne.symm hne), ih hmembers, List.cons_append]

/-- A known name keeps its place. -/
theorem map_fst_put_of_mem (h : name ∈ members.map (·.1)) :
    (Document.Node.put name value members).map (·.1) = members.map (·.1) := by
  induction members with
  | nil => cases h
  | cons m members ih =>
    rw [Document.Node.put]
    split
    · rfl
    · next hne =>
      have hmembers := (List.mem_cons.mp h).resolve_left (Ne.symm hne)
      rw [List.map_cons, List.map_cons, ih hmembers]

/-- A name holds what it was given, and the others hold what they held. -/
theorem find?_put (other : String) :
    (Document.Node.put name value members).find? (·.1 == other) =
      if name = other then some (name, value) else members.find? (·.1 == other) := by
  induction members with
  | nil => by_cases h : name = other <;> simp [Document.Node.put, h]
  | cons m members ih => grind [Document.Node.put]

theorem columns_insert (r : Row) (name : String) (value : Document.Node) :
    (r.insert name value).columns =
      if name ∈ r.columns then r.columns else r.columns ++ [name] := by
  split
  · next h => exact map_fst_put_of_mem h
  · next h =>
    rw [insert, columns, put_of_not_mem h, List.map_append]
    rfl

theorem get?_insert (r : Row) (name other : String) (value : Document.Node) :
    (r.insert name value).get? other = if name = other then some value else r.get? other := by
  rw [get?, insert, find?_put]
  split <;> rfl

/-! ## Names in the order of their first cells -/

theorem eraseDups_append_singleton (names : List String) (name : String) :
    (names ++ [name]).eraseDups =
      if name ∈ names then names.eraseDups else names.eraseDups ++ [name] := by
  rw [List.eraseDups_append]
  split
  · next h => simp [List.removeAll, h]
  · next h => simp [List.removeAll, h, List.eraseDups_cons]

/-- Names without repetitions stand in the order in which they occur first. -/
theorem pairwise_eraseDups (names : List String) :
    names.eraseDups.Pairwise fun a b => names.idxOf a < names.idxOf b := by
  induction names using List.reverseRecOn with
  | nil => exact List.Pairwise.nil
  | append_singleton names name ih =>
    have hold : names.eraseDups.Pairwise
        fun a b => (names ++ [name]).idxOf a < (names ++ [name]).idxOf b := by
      refine ih.imp_of_mem fun {a b} ha hb hlt => ?_
      rwa [List.idxOf_append_of_mem (List.mem_eraseDups.mp ha),
        List.idxOf_append_of_mem (List.mem_eraseDups.mp hb)]
    rw [eraseDups_append_singleton]
    split
    · exact hold
    · next hname =>
      refine List.pairwise_append.mpr ⟨hold, List.pairwise_singleton _ _, fun a ha b hb => ?_⟩
      have hmem := List.mem_eraseDups.mp ha
      rw [List.mem_singleton.mp hb, List.idxOf_append_of_mem hmem,
        List.idxOf_append_of_notMem hname]
      exact Nat.lt_add_right _ (List.idxOf_lt_length_of_mem hmem)

theorem nodup_eraseDups (names : List String) : names.eraseDups.Nodup :=
  (pairwise_eraseDups names).imp fun hlt heq => absurd (heq ▸ hlt) (Nat.lt_irrefl _)

/-! ## All cells -/

/-- One more cell is put into the row of the cells before it, if it can be read. -/
theorem ofCells_append_singleton (cells : CellRow) (name : String) (c : Cell) :
    ofCells (cells ++ [(name, c)]) =
      (ofCells cells).bind fun r => r.insertCell cells.length name c := by
  rw [ofCells, List.zipIdx_append, List.foldlM_append, Nat.zero_add]
  exact bind_congr fun r => bind_pure _

theorem insertCell_eq_ok_iff {r : Row} {i : Nat} :
    r.insertCell i name c = .ok row ↔ ∃ v, c.Decoded v ∧ row = r.insert name v := by
  rw [insertCell]
  cases hnode : c.node with
  | ok v =>
    constructor
    · intro h
      exact ⟨v, Cell.node_eq_ok_iff.mp hnode, (Except.ok.inj h).symm⟩
    · rintro ⟨w, hw, rfl⟩
      obtain rfl := Except.ok.inj (hnode.symm.trans (Cell.node_eq_ok_iff.mpr hw))
      rfl
  | error fault =>
    constructor
    · nofun
    · rintro ⟨w, hw, -⟩
      cases hnode.symm.trans (Cell.node_eq_ok_iff.mpr hw)

/-- A row of cells is the row of the cells before the last one, with the last one put into it. -/
theorem ofCells_append_singleton_eq_ok_iff :
    ofCells (cells ++ [(name, c)]) = .ok row ↔
      ∃ r v, ofCells cells = .ok r ∧ c.Decoded v ∧ row = r.insert name v := by
  rw [ofCells_append_singleton]
  cases hcells : ofCells cells with
  | error e =>
    constructor
    · nofun
    · rintro ⟨_, _, h, -⟩
      cases h
  | ok r =>
    rw [Except.bind, insertCell_eq_ok_iff]
    constructor
    · rintro ⟨v, hv, hrow⟩
      exact ⟨r, v, rfl, hv, hrow⟩
    · rintro ⟨_, v, hr, hv, hrow⟩
      exact ⟨v, hv, Except.ok.inj hr ▸ hrow⟩

/-- Cells that can be read make a row. -/
theorem exists_ofCells (h : ∀ cell ∈ cells, ∃ v, cell.2.Decoded v) :
    ∃ row, ofCells cells = .ok row := by
  induction cells using List.reverseRecOn with
  | nil => exact ⟨{}, rfl⟩
  | append_singleton cells cell ih =>
    obtain ⟨hcells, hcell⟩ := List.forall_mem_append.mp h
    obtain ⟨r, hr⟩ := ih hcells
    obtain ⟨v, hv⟩ := hcell cell (List.mem_singleton.mpr rfl)
    exact ⟨_, ofCells_append_singleton_eq_ok_iff.mpr ⟨r, v, hr, hv, rfl⟩⟩

/-- **The first cell that cannot be read is an error** that says which one it is. -/
theorem ofCells_eq_error {fault : Utf8.Fault} (hbefore : ∀ cell ∈ before, ∃ v, cell.2.Decoded v)
    (hfault : c.node = .error fault) :
    ofCells (before ++ (name, c) :: after) =
      .error (.columnUnreadable before.length fault.message) := by
  obtain ⟨r, hr⟩ := exists_ofCells hbefore
  have hstep : r.insertCell before.length name c =
      .error (.columnUnreadable before.length fault.message) := by
    rw [insertCell, hfault]
  rw [ofCells] at hr ⊢
  simp only [List.zipIdx_append, List.foldlM_append, hr, Nat.zero_add, List.zipIdx_cons,
    List.foldlM_cons]
  change Except.bind (r.insertCell before.length name c) _ = _
  rw [hstep]
  rfl

/-- **The names of a row** are those of its cells, in the order in which they occur first. -/
theorem columns_of_ofCells (h : ofCells cells = .ok row) :
    row.columns = (cells.map (·.1)).eraseDups := by
  induction cells using List.reverseRecOn generalizing row with
  | nil => exact Except.ok.inj h ▸ rfl
  | append_singleton cells cell ih =>
    obtain ⟨r, v, hr, -, rfl⟩ := ofCells_append_singleton_eq_ok_iff.mp h
    rw [columns_insert, ih hr, List.map_append, List.map_singleton, eraseDups_append_singleton]
    simp only [List.mem_eraseDups]

theorem mem_columns_of_ofCells (h : ofCells cells = .ok row) :
    name ∈ row.columns ↔ name ∈ cells.map (·.1) := by
  rw [columns_of_ofCells h, List.mem_eraseDups]

/-- **A name holds the value of its last cell.** -/
theorem get?_of_ofCells (h : ofCells (before ++ (name, c) :: after) = .ok row)
    (hafter : name ∉ after.map (·.1)) : ∃ v, c.Decoded v ∧ row.get? name = some v := by
  induction after using List.reverseRecOn generalizing row with
  | nil =>
    obtain ⟨r, v, -, hv, rfl⟩ := ofCells_append_singleton_eq_ok_iff.mp h
    exact ⟨v, hv, by rw [get?_insert, if_pos rfl]⟩
  | append_singleton after cell ih =>
    obtain ⟨other, w⟩ := cell
    rw [List.map_append, List.mem_append, not_or, List.map_singleton, List.mem_singleton] at hafter
    obtain ⟨hafter, hother⟩ := hafter
    rw [← List.cons_append, ← List.append_assoc] at h
    obtain ⟨r, _, hr, -, rfl⟩ := ofCells_append_singleton_eq_ok_iff.mp h
    obtain ⟨v, hv, hget⟩ := ih hr hafter
    exact ⟨v, hv, by rw [get?_insert, if_neg (Ne.symm hother), hget]⟩

/-- A name of a cell has a last cell. -/
theorem exists_last_cell (h : name ∈ cells.map (·.1)) :
    ∃ before c after, cells = before ++ (name, c) :: after ∧ name ∉ after.map (·.1) := by
  induction cells with
  | nil => cases h
  | cons cell cells ih =>
    by_cases hcells : name ∈ cells.map (·.1)
    · obtain ⟨before, v, after, rfl, hafter⟩ := ih hcells
      exact ⟨cell :: before, v, after, rfl, hafter⟩
    · obtain rfl := (List.mem_cons.mp h).resolve_right hcells
      exact ⟨[], cell.2, cells, rfl, hcells⟩

/-- A member of a row that is the cell of its name and value. -/
def IsCell (member : String × Document.Node) (cell : String × Cell) : Prop :=
  member.1 = cell.1 ∧ cell.2.Decoded member.2

/-- **A row whose columns have names of their own** has its cells in their order. -/
theorem members_of_ofCells (h : ofCells cells = .ok row) (hnames : (cells.map (·.1)).Nodup) :
    List.Forall₂ IsCell row.members cells := by
  induction cells using List.reverseRecOn generalizing row with
  | nil => exact Except.ok.inj h ▸ .nil
  | append_singleton cells cell ih =>
    obtain ⟨r, v, hr, hv, rfl⟩ := ofCells_append_singleton_eq_ok_iff.mp h
    rw [List.map_append, List.nodup_append] at hnames
    obtain ⟨hcells, -, hdisjoint⟩ := hnames
    have hnew : cell.1 ∉ r.columns := fun hmem =>
      hdisjoint cell.1 ((mem_columns_of_ofCells hr).mp hmem) cell.1 (List.mem_singleton.mpr rfl) rfl
    rw [insert, put_of_not_mem hnew]
    exact List.rel_append (ih hr hcells) (.cons ⟨rfl, hv⟩ .nil)

/-- Without its repetitions a list is shorter, unless it has none. -/
theorem nodup_of_length_eraseDups {names : List String}
    (h : names.eraseDups.length = names.length) : names.Nodup := by
  have hperm : names.eraseDups.Perm names.dedup :=
    (List.perm_ext_iff_of_nodup (nodup_eraseDups names) (List.nodup_dedup names)).mpr fun a => by
      rw [List.mem_eraseDups, List.mem_dedup]
  exact List.dedup_eq_self.mp
    ((List.dedup_sublist names).eq_of_length (hperm.length_eq.symm.trans h))

/-- **A name stands where its first cell stood and holds the value of its last one.**  If the bytes
of every text encode one, the cells of a result make a row.  Its names are those of the cells, each
once, in the order in which they occur first; each holds the last of its cells: `null` for nothing
and for a float that is not finite, the integer, the float, the list of the bytes, the text.  So the
row has one member for each cell, in the order of the cells, exactly if the names differ.

The first text whose bytes encode none is an error instead, which tells its place. -/
theorem repeated_names (cells : CellRow) :
    let names := cells.map (·.1)
    ((∀ name bytes, (name, .text bytes) ∈ cells → ∃ s, bytes = Utf8.encode s) →
      ∃ row, ofCells cells = .ok row ∧
        (∀ name, name ∈ row.columns ↔ name ∈ names) ∧ row.columns.Nodup ∧
        row.columns.Pairwise (fun a b => names.idxOf a < names.idxOf b) ∧
        (∀ name ∈ row.columns, ∃ before c after v, cells = before ++ (name, c) :: after ∧
          name ∉ after.map (·.1) ∧ row.get? name = some v ∧ c.Decoded v) ∧
        (row.members.length = cells.length ↔ names.Nodup) ∧
        (List.Forall₂ IsCell row.members cells ↔ names.Nodup)) ∧
    (∀ before name bytes after, cells = before ++ (name, .text bytes) :: after →
      (∀ other text, (other, .text text) ∈ before → ∃ s, text = Utf8.encode s) →
      (∀ s, bytes ≠ Utf8.encode s) →
        ∃ cause, ofCells cells = .error (.columnUnreadable before.length cause)) := by
  intro names
  constructor
  · intro htexts
    obtain ⟨row, hrow⟩ := exists_ofCells (Cell.exists_decoded_of_texts htexts)
    have hcolumns : row.columns = names.eraseDups := columns_of_ofCells hrow
    have hdistinct : row.members.length = cells.length → names.Nodup := by
      intro hlength
      refine nodup_of_length_eraseDups ?_
      rw [← hcolumns, columns, List.length_map, hlength, List.length_map]
    refine ⟨row, hrow, fun name => mem_columns_of_ofCells hrow, hcolumns ▸ nodup_eraseDups names,
      hcolumns ▸ pairwise_eraseDups names, fun name hname => ?_,
      ⟨hdistinct, fun h => (members_of_ofCells hrow h).length_eq⟩,
      ⟨fun h => hdistinct h.length_eq, members_of_ofCells hrow⟩⟩
    obtain ⟨before, c, after, hcells, hafter⟩ :=
      exists_last_cell ((mem_columns_of_ofCells hrow).mp hname)
    obtain ⟨v, hv, hget⟩ := get?_of_ofCells (hcells ▸ hrow) hafter
    exact ⟨before, c, after, v, hcells, hafter, hget, hv⟩
  · rintro before name bytes after rfl hbefore hbytes
    obtain ⟨fault, hfault⟩ := Cell.exists_fault hbytes
    exact ⟨_, ofCells_eq_error (Cell.exists_decoded_of_texts hbefore) hfault⟩

/-- Two tables that both have an `id`, side by side: the first place, the second value. -/
theorem repeated_names_join :
    let cells : CellRow := [("id", .integer 1), ("name", .ofValue (.text "ann")), ("id", .integer 2)]
    ∃ row, ofCells cells = .ok row ∧ row.columns = ["id", "name"] ∧
      row.get? "id" = some (.int 2) ∧ row.members.length ≠ cells.length := by
  intro cells
  have htexts : ∀ name bytes, (name, Cell.text bytes) ∈ cells → ∃ s, bytes = Utf8.encode s := by
    intro name bytes hmem
    simp only [cells, Cell.ofValue, List.mem_cons, Prod.mk.injEq, Cell.text.injEq, reduceCtorEq,
      and_false, false_or, List.not_mem_nil, or_false] at hmem
    exact ⟨"ann", hmem.2⟩
  obtain ⟨row, hrow, -, -, -, -, hlength, -⟩ := (repeated_names cells).1 htexts
  refine ⟨row, hrow, ?_, ?_, fun h => absurd (hlength.mp h) (by decide)⟩
  · exact columns_of_ofCells hrow
  · have hlast : ofCells ([("id", .integer 1), ("name", .ofValue (.text "ann"))] ++
        ("id", .integer 2) :: []) = .ok row := hrow
    obtain ⟨v, hv, hget⟩ := get?_of_ofCells hlast nofun
    cases hv
    exact hget

/-- A text of one byte that encodes nothing: there is no row. -/
theorem unreadable_text :
    ofCells [("t", .text [0xFF])] =
      .error (.columnUnreadable 0 "invalid utf-8 sequence of 1 bytes from index 0") := by
  rfl

end Row

end ParamSql
