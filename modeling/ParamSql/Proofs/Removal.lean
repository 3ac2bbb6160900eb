import Mathlib.Data.String.Basic
import ParamSql.Directory

/-!
# Removing a database file

A database file is removed together with its siblings, one after the other.  A file that is not
there is passed over, and a directory in the place of one ends the removal, so that what remains
depends on which of them is a directory.  Nothing else in the directory changes in either case.

## Main definitions

* `IsFileName`: a name that an entry of a directory can have
* `Directory.without`: a directory without the entries of some names
* `Directory.databaseFiles`: a database file and its siblings

## Main results

* `Directory.removeFile_of_file_name`: what one removal does
* `Directory.removeFiles_eq_ok`, `Directory.removeFiles_eq_error`: what a run of removals does
* `Directory.removeDatabase_of_file_name`
-/

namespace ParamSql

/-! ## Names -/

/-- A name that an entry of a directory can have. -/
structure IsFileName (x : String) : Prop where
  ne_empty : x ≠ ""
  ne_here : x ≠ "."
  ne_above : x ≠ ".."
  slash_not_mem : '/' ∉ x.toList
  zero_not_mem : Char.ofNat 0 ∉ x.toList

namespace IsFileName

variable {x suffix : String}

/-- The place that a name means is the entry of that name. -/
theorem place_eq (h : IsFileName x) : Place.ofPath x = ⟨[x], false⟩ := by
  have hparts : x.splitToList (· == '/') = [x] := by
    have hslash : ∀ c ∈ x.toList, (c == '/') = false := by
      intro c hc
      rw [beq_eq_false_iff_ne]
      rintro rfl
      exact h.slash_not_mem hc
    rw [String.splitToList_of_valid, List.splitOnP_eq_singleton hslash, List.map_singleton,
      String.ofList_toList]
  simp [Place.ofPath, hparts, h.ne_empty, h.ne_here]

/-- A longer name is a name. -/
theorem append (h : IsFileName x) (hlength : 2 ≤ suffix.length) (hslash : '/' ∉ suffix.toList)
    (hzero : Char.ofNat 0 ∉ suffix.toList) : IsFileName (x ++ suffix) := by
  have hpos : 0 < x.length := by
    rw [Nat.pos_iff_ne_zero, Ne, String.length_eq_zero_iff]
    exact h.ne_empty
  have hne (name : String) (hname : name.length ≤ 2) : x ++ suffix ≠ name := by
    intro heq
    have hsum := congrArg String.length heq
    rw [String.length_append] at hsum
    omega
  exact ⟨hne _ (by decide), hne _ (by decide), hne _ (by decide), by simp [h.slash_not_mem, hslash],
    by simp [h.zero_not_mem, hzero]⟩

end IsFileName

namespace Directory

variable {d : Directory} {x t : String} {names targets before after : List String}

/-! ## Directories without some entries -/

/-- The directory without the entries of these names. -/
def without (d : Directory) (names : List String) : Directory :=
  { d with entries := d.entries.filter fun e => e.1 ∉ names.map ([·]) }

theorem without_without (names' : List String) :
    (d.without names).without names' = d.without (names ++ names') := by
  simp only [without, List.filter_filter, List.map_append, List.mem_append, not_or,
    Bool.decide_and, Bool.and_comm]

/-- The entries of other names are left as they are, and so is what is below a name. -/
theorem entry?_without (way : List String) :
    entry? (d.without names) way = if way ∈ names.map ([·]) then none else d.entry? way := by
  unfold entry? without
  rw [List.find?_filter]
  split
  · next h =>
    rw [List.find?_eq_none.mpr, Option.map_none]
    intro e _ he
    obtain ⟨hother, hway⟩ := of_decide_eq_true he
    exact of_decide_eq_true hother (eq_of_beq hway ▸ h)
  · next h =>
    congr 2
    funext e
    by_cases hway : e.1 = way
    · simpa [hway] using h
    · simp [hway]

/-- Without the entries of names that are not there, a directory is the same. -/
theorem without_eq_self (h : ∀ name ∈ names, d.entry? [name] = none) : d.without names = d := by
  refine congrArg (mk · d.nameLimit)
    (List.filter_eq_self.mpr fun e he => decide_eq_true fun hmem => ?_)
  obtain ⟨name, hname, heq⟩ := List.mem_map.mp hmem
  have hnone := List.find?_eq_none.mp (Option.map_eq_none_iff.mp (h name hname)) e he
  exact hnone (beq_iff_eq.mpr heq.symm)

/-! ## Removing files -/

/-- Entries that are gone do not change which names are too long. -/
theorem admits_without (names' : List String) (h : ∀ t ∈ names, d.admits t = true) :
    ∀ t ∈ names, admits (d.without names') t = true := h

theorem find_place (h : d.admits x = true) : d.find ⟨[x], false⟩ =
    match d.entry? [x] with
    | none => .nothing
    | some .directory => .directory
    | some .file => .file := by
  rw [find, follow, h, List.nil_append]
  cases d.entry? [x] with
  | none => rfl
  | some kind => cases kind <;> rfl

/-- A name that is too long is the name of nothing that could be removed. -/
theorem removeFile_of_long_name (hx : IsFileName x) (h : d.admits x = false) :
    d.removeFile x = .error (.io "File name too long (os error 36)") := by
  rw [removeFile, hx.place_eq, find, follow, h]
  rfl

/-- **One removal** fails for a directory; otherwise there is no entry of that name afterwards,
and the others are as before. -/
theorem removeFile_of_file_name (hx : IsFileName x) (hfits : d.admits x = true) :
    d.removeFile x =
      if d.entry? [x] = some .directory then .error (.io "Is a directory (os error 21)")
      else .ok (d.without [x]) := by
  rw [removeFile, hx.place_eq, find_place hfits]
  cases hentry : d.entry? [x] with
  | none =>
    have hself : d.without [x] = d := without_eq_self (by simpa using hentry)
    simp [hself]
  | some kind =>
    cases kind with
    | file => simp [without, bne, Bool.beq_eq_decide_eq]
    | directory => simp

/-- **A run of removals** takes away every file whose place holds no directory. -/
theorem removeFiles_eq_ok (hnames : ∀ t ∈ targets, IsFileName t)
    (hfits : ∀ t ∈ targets, d.admits t = true)
    (hfiles : ∀ t ∈ targets, d.entry? [t] ≠ some .directory) :
    removeFiles targets d = (.ok (), d.without targets) := by
  induction targets generalizing d with
  | nil => simp [removeFiles, without]
  | cons t targets ih =>
    obtain ⟨ht, hnames⟩ := List.forall_mem_cons.mp hnames
    obtain ⟨hfit, hfits⟩ := List.forall_mem_cons.mp hfits
    obtain ⟨hfile, hfiles⟩ := List.forall_mem_cons.mp hfiles
    have hrest : ∀ u ∈ targets, entry? (d.without [t]) [u] ≠ some .directory := by
      intro u hu
      rw [entry?_without]
      split
      · nofun
      · exact hfiles u hu
    rw [removeFiles, removeFile_of_file_name ht hfit, if_neg hfile]
    simp only [ih hnames (admits_without [t] hfits) hrest, without_without, List.singleton_append]

/-- Removals go on where the ones before have ended well. -/
theorem removeFiles_append {d' : Directory} (h : removeFiles before d = (.ok (), d')) :
    removeFiles (before ++ after) d = removeFiles after d' := by
  induction before generalizing d with
  | nil =>
    cases h
    rfl
  | cons t before ih =>
    rw [List.cons_append, removeFiles]
    rw [removeFiles] at h
    cases hremove : d.removeFile t with
    | error e =>
      rw [hremove] at h
      cases h
    | ok e =>
      rw [hremove] at h
      exact ih h

/-- A run of removals ends at the first directory, with the files before it taken away. -/
theorem removeFiles_eq_error (hnames : ∀ u ∈ before ++ t :: after, IsFileName u)
    (hfits : ∀ u ∈ before ++ t :: after, d.admits u = true)
    (hfiles : ∀ u ∈ before, d.entry? [u] ≠ some .directory)
    (ht : d.entry? [t] = some .directory) : removeFiles (before ++ t :: after) d =
      (.error (.io "Is a directory (os error 21)"), d.without before) := by
  obtain ⟨hbefore, hnames⟩ := List.forall_mem_append.mp hnames
  obtain ⟨hshort, hfits⟩ := List.forall_mem_append.mp hfits
  -- the directory is none of the files before it, which are no directories
  have hkept : entry? (d.without before) [t] = some .directory := by
    have hnot : [t] ∉ before.map ([·]) := by
      intro hmem
      obtain ⟨u, hu, heq⟩ := List.mem_map.mp hmem
      cases heq
      exact hfiles t hu ht
    rw [entry?_without, if_neg hnot, ht]
  rw [removeFiles_append (removeFiles_eq_ok hbefore hshort hfiles), removeFiles,
    removeFile_of_file_name (hnames t List.mem_cons_self)
      (admits_without before hfits t List.mem_cons_self),
    if_pos hkept]

/-! ## Removing a database -/

/-- A database file and its siblings, in the order in which they are removed. -/
def databaseFiles (x : String) : List String := [x, x ++ "-wal", x ++ "-shm", x ++ "-journal"]

theorem map_databaseSuffixes (x : String) : databaseSuffixes.map (x ++ ·) = databaseFiles x := by
  simp [databaseSuffixes, databaseFiles]

theorem isFileName_of_mem_databaseFiles (hx : IsFileName x) (ht : t ∈ databaseFiles x) :
    IsFileName t := by
  simp only [databaseFiles, List.mem_cons, List.not_mem_nil, or_false] at ht
  obtain rfl | rfl | rfl | rfl := ht
  · exact hx
  all_goals exact hx.append (by decide) (by decide) (by decide)

theorem exists_eq_false (hx : IsFileName x) (hfits : d.admits x = true)
    (h : d.entry? [x] = none) : d.exists x = false := by
  rw [«exists», hx.place_eq, find_place hfits, h]

/-- If no directory is in the way, the file and its siblings are gone, and so the check at the end
finds nothing. -/
theorem removeDatabase_eq_ok (hx : IsFileName x)
    (hfits : ∀ t ∈ databaseFiles x, d.admits t = true)
    (hfiles : ∀ t ∈ databaseFiles x, d.entry? [t] ≠ some .directory) :
    removeDatabase x d = (.ok (), d.without (databaseFiles x)) := by
  have hmem : [x] ∈ (databaseFiles x).map ([·]) := List.mem_map_of_mem List.mem_cons_self
  have hgone : (d.without (databaseFiles x)).exists x = false :=
    exists_eq_false hx (hfits x List.mem_cons_self) (by rw [entry?_without, if_pos hmem])
  rw [removeDatabase, map_databaseSuffixes,
    removeFiles_eq_ok (fun _ => isFileName_of_mem_databaseFiles hx) hfits hfiles]
  simp only [hgone, Bool.false_eq_true, if_false]

/-- If a directory is in the way, only the files before it are gone. -/
theorem removeDatabase_eq_error (hx : IsFileName x)
    (hfits : ∀ t ∈ databaseFiles x, d.admits t = true)
    (hdir : ∃ t ∈ databaseFiles x, d.entry? [t] = some .directory) : removeDatabase x d =
      (.error (.io "Is a directory (os error 21)"),
        d.without ((databaseFiles x).takeWhile fun t => d.entry? [t] ≠ some .directory)) := by
  obtain ⟨t, ht⟩ : ∃ t,
      (databaseFiles x).find? (fun t => d.entry? [t] = some .directory) = some t := by
    obtain ⟨t, ht, hentry⟩ := hdir
    exact Option.isSome_iff_exists.mp (List.find?_isSome.mpr ⟨t, ht, decide_eq_true hentry⟩)
  obtain ⟨hentry, before, after, hsplit, hbefore⟩ := List.find?_eq_some_iff_append.mp ht
  have hentry := of_decide_eq_true hentry
  have hfiles : ∀ u ∈ before, d.entry? [u] ≠ some .directory := by
    intro u hu
    simpa using hbefore u hu
  have hfirst : ((databaseFiles x).takeWhile fun t => d.entry? [t] ≠ some .directory) = before := by
    rw [hsplit, List.takeWhile_append_of_pos fun u hu => decide_eq_true (hfiles u hu),
      List.takeWhile_cons_of_neg (by simp [hentry]), List.append_nil]
  have hnames : ∀ u ∈ before ++ t :: after, IsFileName u :=
    fun _ hu => isFileName_of_mem_databaseFiles hx (hsplit ▸ hu)
  rw [hfirst, removeDatabase, map_databaseSuffixes, hsplit,
    removeFiles_eq_error hnames (hsplit ▸ hfits) hfiles hentry]

/-- **Removing a database** by its name, where the directory admits names as long as those of the
siblings.

If no directory is in the place of the file or of a sibling, the removal succeeds, the directory
is as before without them, whether they were there or not, and a second removal changes nothing.
If one is, the removal fails, and the directory is as before without those that come before the
first directory.  Nothing else is there or gone, no name that only begins alike and nothing below
another directory. -/
theorem removeDatabase_of_file_name (d : Directory) (x : String) (hx : IsFileName x)
    (hfits : ∀ t ∈ databaseFiles x, d.admits t = true) :
    ((∀ t ∈ databaseFiles x, d.entry? [t] ≠ some .directory) →
      removeDatabase x d = (.ok (), d.without (databaseFiles x)) ∧
      removeDatabase x (d.without (databaseFiles x)) = (.ok (), d.without (databaseFiles x)) ∧
      (d.without (databaseFiles x)).exists x = false) ∧
    ((∃ t ∈ databaseFiles x, d.entry? [t] = some .directory) →
      ∃ message, removeDatabase x d = (.error (.io message),
        d.without ((databaseFiles x).takeWhile fun t => d.entry? [t] ≠ some .directory))) ∧
    (∀ names way, entry? (d.without names) way =
      if way ∈ names.map ([·]) then none else d.entry? way) := by
  refine ⟨fun hfiles => ?_, fun hdir => ⟨_, removeDatabase_eq_error hx hfits hdir⟩,
    fun _ way => entry?_without way⟩
  have hgone : ∀ t ∈ databaseFiles x, entry? (d.without (databaseFiles x)) [t] = none := by
    intro t ht
    rw [entry?_without, if_pos (List.mem_map_of_mem ht)]
  refine ⟨removeDatabase_eq_ok hx hfits hfiles, ?_, ?_⟩
  · rw [removeDatabase_eq_ok hx (admits_without _ hfits) fun t ht => by simp [hgone t ht], without_eq_self hgone]
  · exact exists_eq_false hx (hfits x List.mem_cons_self) (hgone x List.mem_cons_self)

/-- A file that is named like a sibling is removed, and so is its own sibling; then a directory is
in the way. -/
theorem removeDatabase_of_file_name_log :
    let d : Directory := ⟨[(["a-wal"], .file), (["a-wal-old"], .file), (["a-wal-wal"], .file),
      (["a-wal-shm"], .directory), (["a-wal-shm", "a-wal"], .file), (["a-wal-journal"], .file)],
      some 255⟩
    IsFileName "a-wal" ∧ (∀ t ∈ databaseFiles "a-wal", d.admits t = true) ∧
      ∃ message, removeDatabase "a-wal" d = (.error (.io message),
        ⟨[(["a-wal-old"], .file), (["a-wal-shm"], .directory), (["a-wal-shm", "a-wal"], .file),
          (["a-wal-journal"], .file)], some 255⟩) := by
  intro d
  have hx : IsFileName "a-wal" := by constructor <;> decide
  have hfits : ∀ t ∈ databaseFiles "a-wal", d.admits t = true := by decide
  obtain ⟨message, hremove⟩ := (removeDatabase_of_file_name d "a-wal" hx hfits).2.1
    ⟨"a-wal-shm", by decide, by decide⟩
  exact ⟨hx, hfits, message, hremove.trans (congrArg (Prod.mk _) (by decide))⟩

end Directory

end ParamSql
