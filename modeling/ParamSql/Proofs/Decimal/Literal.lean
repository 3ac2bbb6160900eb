import Mathlib
import ParamSql.Decimal.Numeral
import ParamSql.Proofs.Reader

/-!
# Numbers as words

The two languages of numbers that stand for themselves, apart from any reader.  A literal is
related to the number that it writes.

    integer   ::=  sign digit+
    float     ::=  sign ('inf' | 'infinity' | 'nan' | number)
    number    ::=  (digit+ | digit+ '.' digit* | digit* '.' digit+) exponent?
    exponent  ::=  'e' integer
    sign      ::=  '+'  |  '-'  |

The letters of the words and of the exponent stand for both cases.  What digits are worth is a sum
of powers of ten, however the digits are read, and no length of a literal is too much.

## Main definitions

* `Decimal.worth`: the number that digits write
* `Decimal.IntegerLiteral`, `Decimal.FloatLiteral`: a word and the number that it writes

## Main results

* `Decimal.integer?_eq_some_iff`, `Decimal.integerWithin?_eq_some_iff`: the reader of integers
* `Decimal.float?_eq_some_iff`: the reader of floats
* `Decimal.IntegerLiteral.exists_float`: an integer is written as a float, too
* `Decimal.integerLiteral_toString`: an integer is written by its text
-/

namespace ParamSql.Decimal

variable {cs rest : List Char} {negative : Bool}

/-! ## Digits -/

/-- All of the characters are digits. -/
def AreDigits (ds : List Char) : Prop := ∀ d ∈ ds, d.isDigit = true

/-- What digits are worth: each of them counts ten times as much as the one behind it. -/
def worth (ds : List Char) : ℕ := Nat.ofDigits 10 (ds.reverse.map digitValue)

theorem ofDigits_eq_worth (ds : List Char) : ofDigits ds = worth ds := by
  -- from the end, since the reader has the value of all digits in front of the last one
  induction ds using List.reverseRecOn with
  | nil => rfl
  | append_singleton ds d ih =>
    have hread : ofDigits (ds ++ [d]) = ofDigits ds * 10 + digitValue d := by
      rw [ofDigits, List.foldl_append]
      rfl
    rw [hread, ih, worth, worth, List.reverse_append, List.reverse_singleton,
      List.singleton_append, List.map_cons, Nat.ofDigits_cons]
    ring

/-- The digits of a natural number are worth that number. -/
theorem worth_toDigits (n : ℕ) : worth (Nat.toDigits 10 n) = n := by
  have hread : Nat.ofDigitChars 10 (Nat.toDigits 10 n) 0 = ofDigits (Nat.toDigits 10 n) := by
    rw [Nat.ofDigitChars_eq_foldl, ofDigits]
    simp only [digitValue, Nat.mul_comm 10]
  rw [← ofDigits_eq_worth, ← hread, Nat.ofDigitChars_ten_toDigits]

/-! ## Signs -/

/-- A sign, which may be missing, and whether it is a minus. -/
inductive Sign : List Char → Bool → Prop where
  | missing : Sign [] false
  | plus : Sign ['+'] false
  | minus : Sign ['-'] true

/-- The text does not begin with a sign. -/
def Unsigned (cs : List Char) : Prop := ∀ c ∈ cs.head?, c ≠ '-' ∧ c ≠ '+'

theorem exists_sign (cs : List Char) :
    ∃ sign, Sign sign (splitSign cs).1 ∧ cs = sign ++ (splitSign cs).2 := by
  unfold splitSign
  split
  · exact ⟨_, .minus, rfl⟩
  · exact ⟨_, .plus, rfl⟩
  · exact ⟨_, .missing, rfl⟩

theorem Sign.splitSign_append {sign : List Char} (h : Sign sign negative) (hrest : Unsigned rest) :
    splitSign (sign ++ rest) = (negative, rest) := by
  cases h with
  | missing =>
    rw [List.nil_append]
    unfold splitSign
    split
    · exact absurd rfl (hrest '-' rfl).1
    · exact absurd rfl (hrest '+' rfl).2
    · rfl
  | plus => rfl
  | minus => rfl

/-- A digit is no sign. -/
theorem AreDigits.unsigned {ds : List Char} (h : AreDigits ds) (hne : ds ≠ []) (rest : List Char) :
    Unsigned (ds ++ rest) := by
  obtain ⟨d, ds, rfl⟩ := List.exists_cons_of_ne_nil hne
  rintro c ⟨⟩
  have hd : d.isDigit = true := h d List.mem_cons_self
  constructor <;> rintro rfl <;> exact absurd hd (by decide)

/-! ## Integers -/

/-- One digit or more behind a sign, which may be missing. -/
inductive IntegerLiteral : List Char → ℤ → Prop where
  | digits {sign ds : List Char} {negative : Bool} (hsign : Sign sign negative) (hne : ds ≠ [])
      (hds : AreDigits ds) :
      IntegerLiteral (sign ++ ds) (if negative then -(worth ds : ℤ) else worth ds)

/-- **Integers are read as they are written.** -/
theorem integer?_eq_some_iff {n : ℤ} : integer? cs = some n ↔ IntegerLiteral cs n := by
  have hall {ds : List Char} :
      (ds.isEmpty || !ds.all Char.isDigit) = false ↔ ds ≠ [] ∧ AreDigits ds := by
    simp [AreDigits]
  constructor
  · intro h
    obtain ⟨sign, hsign, hcs⟩ := exists_sign cs
    rw [integer?] at h
    dsimp only at h
    split at h
    · cases h
    · next hds =>
      obtain ⟨hne, hds⟩ := hall.mp (Bool.eq_false_iff.mpr hds)
      obtain rfl := Option.some.inj h
      conv_lhs => rw [hcs]
      rw [ofDigits_eq_worth]
      exact .digits hsign hne hds
  · rintro ⟨hsign, hne, hds⟩
    have hunsigned := hds.unsigned hne []
    rw [List.append_nil] at hunsigned
    rw [integer?, hsign.splitSign_append hunsigned]
    simp only [hall.mpr ⟨hne, hds⟩, ofDigits_eq_worth, Bool.false_eq_true, if_false]

/-- A text writes one integer at most. -/
theorem IntegerLiteral.unique {m n : ℤ} (hm : IntegerLiteral cs m) (hn : IntegerLiteral cs n) :
    m = n :=
  Option.some.inj ((integer?_eq_some_iff.mpr hm).symm.trans (integer?_eq_some_iff.mpr hn))

/-- **An integer is cut off by the width**: it is read if so many bits with a sign hold it. -/
theorem integerWithin?_eq_some_iff {bits : ℕ} {n : ℤ} :
    integerWithin? bits cs = some n ↔
      IntegerLiteral cs n ∧ -2 ^ (bits - 1) ≤ n ∧ n < 2 ^ (bits - 1) := by
  have htwo : ((twoTo (bits - 1) : ℕ) : ℤ) = 2 ^ (bits - 1) := Nat.cast_pow 2 (bits - 1)
  rw [integerWithin?, Option.filter_eq_some_iff, integer?_eq_some_iff, fitsSigned,
    Bool.and_eq_true, decide_eq_true_eq, decide_eq_true_eq, htwo]

/-- **The text of an integer writes it.** -/
theorem integerLiteral_toString (n : ℤ) : IntegerLiteral (toString n).toList n := by
  have hdigits : ∀ k : ℕ, AreDigits (Nat.toDigits 10 k) := fun k d hd =>
    Nat.isDigit_of_mem_toDigits (by decide) (by decide) hd
  rw [Int.toString_eq_repr, Int.repr_eq_if]
  split
  · next hn =>
    have hvalue : n = worth (Nat.toDigits 10 n.toNat) := by
      rw [worth_toDigits, Int.toNat_of_nonneg hn]
    rw [Nat.toList_repr]
    conv_rhs => rw [hvalue]
    exact .digits .missing Nat.toDigits_ne_nil (hdigits _)
  · next hn =>
    have hvalue : n = -(worth (Nat.toDigits 10 (-n).toNat) : ℤ) := by
      rw [worth_toDigits]
      omega
    rw [String.toList_append, Nat.toList_repr]
    conv_rhs => rw [hvalue]
    exact .digits .minus Nat.toDigits_ne_nil (hdigits _)

/-! ## Exponents and fractions -/

/-- The letter `e` in front of an integer, or nothing at all. -/
inductive Exponent : List Char → ℤ → Prop where
  | missing : Exponent [] 0
  | marked {e : Char} {cs : List Char} {n : ℤ} (he : e = 'e' ∨ e = 'E')
      (h : IntegerLiteral cs n) : Exponent (e :: cs) n

/-- A point with the digits behind it, if there are any, or nothing at all. -/
inductive Fraction : List Char → List Char → Prop where
  | missing : Fraction [] []
  | point {ds : List Char} (h : AreDigits ds) : Fraction ('.' :: ds) ds

theorem exponent?_eq_some_iff {n : ℤ} : exponent? cs = some n ↔ Exponent cs n := by
  cases cs with
  | nil =>
    constructor
    · rintro ⟨⟩
      exact .missing
    · rintro ⟨⟩
      rfl
  | cons e cs =>
    rw [exponent?]
    constructor
    · intro h
      split at h
      · next he => exact .marked he (integer?_eq_some_iff.mp h)
      · cases h
    · rintro (_ | ⟨he, h⟩)
      rw [if_pos he, integer?_eq_some_iff]
      exact h

/-- An exponent goes on neither with digits nor with a point. -/
theorem Exponent.head {n : ℤ} (h : Exponent cs n) :
    ∀ c ∈ cs.head?, c.isDigit = false ∧ c ≠ '.' := by
  cases h with
  | missing => exact fun c hc => by cases hc
  | marked he _ =>
    rintro c ⟨⟩
    rcases he with rfl | rfl <;> decide

theorem exists_fraction (cs : List Char) :
    ∃ point, Fraction point (fraction cs).1 ∧ cs = point ++ (fraction cs).2 := by
  unfold fraction
  split
  · next ds =>
    rw [List.span_eq_takeWhile_dropWhile]
    refine ⟨_, .point fun d hd => List.mem_takeWhile_imp hd, ?_⟩
    rw [List.cons_append, List.takeWhile_append_dropWhile]
  · exact ⟨_, .missing, rfl⟩

theorem Fraction.fraction_append {point part : List Char} (h : Fraction point part)
    (hrest : ∀ c ∈ rest.head?, c.isDigit = false ∧ c ≠ '.') :
    fraction (point ++ rest) = (part, rest) := by
  cases h with
  | missing =>
    rw [List.nil_append]
    unfold fraction
    split
    · exact absurd rfl (hrest '.' rfl).2
    · rfl
  | point h =>
    have hend : ∀ c ∈ rest.head?, c.isDigit = false := fun c hc => (hrest c hc).1
    rw [List.cons_append, fraction, List.span_eq_takeWhile_dropWhile,
      Reader.takeWhile_run h hend, Reader.dropWhile_run h hend]

/-! ## Floats -/

/-- The characters are those of a word, in any letter case. -/
def Spells (w : String) (cs : List Char) : Prop := cs.map Char.toLower = w.toList

/-- Digits, a fraction and an exponent, with one digit at least in front of the point or behind
it, and the float nearest to what they write. -/
inductive Number (negative : Bool) : List Char → Float → Prop where
  | digits {whole point part mark : List Char} {e : ℤ} (hwhole : AreDigits whole)
      (hpoint : Fraction point part) (hsome : whole ≠ [] ∨ part ≠ []) (hmark : Exponent mark e) :
      Number negative (whole ++ (point ++ mark))
        (nearest negative (worth (whole ++ part)) (e - part.length))

/-- A word for infinity, the one for what is no number, or a number. -/
inductive UnsignedFloat (negative : Bool) : List Char → Float → Prop where
  | infinity {cs : List Char} (h : Spells "inf" cs ∨ Spells "infinity" cs) :
      UnsignedFloat negative cs (if negative then -(1 / 0) else 1 / 0)
  | notANumber {cs : List Char} (h : Spells "nan" cs) : UnsignedFloat negative cs (0 / 0)
  | number {cs : List Char} {x : Float} (h : Number negative cs x) : UnsignedFloat negative cs x

/-- A float behind a sign, which may be missing. -/
inductive FloatLiteral : List Char → Float → Prop where
  | signed {sign cs : List Char} {negative : Bool} {x : Float} (hsign : Sign sign negative)
      (h : UnsignedFloat negative cs x) : FloatLiteral (sign ++ cs) x

theorem sameWord_iff {w : String} : sameWord w cs = true ↔ Spells w cs := beq_iff_eq

/-- A word of letters is spelled with letters. -/
theorem Spells.isAlpha {w : String} (h : Spells w cs) (hw : w.toList.all Char.isAlpha = true) :
    ∀ c ∈ cs, c.isAlpha = true := by
  intro c hc
  have hmem : c.toLower ∈ w.toList := h ▸ List.mem_map_of_mem hc
  rw [← Char.isAlpha_toLower_eq_isAlpha]
  exact List.all_eq_true.mp hw _ hmem

/-- A number begins with no letter and with no sign. -/
theorem Number.head {x : Float} (h : Number negative cs x) :
    ∃ c ds, cs = c :: ds ∧ c.isAlpha = false ∧ c ≠ '-' ∧ c ≠ '+' := by
  obtain @⟨whole, point, part, mark, e, hwhole, hpoint, hsome, hmark⟩ := h
  cases whole with
  | cons d ds =>
    have hd : d.isDigit = true := hwhole d List.mem_cons_self
    have halpha : d.isAlpha = false := by
      grind [Char.isAlpha, Char.isUpper, Char.isLower, Char.isDigit]
    exact ⟨d, _, rfl, halpha, hwhole.unsigned (List.cons_ne_nil d ds) [] d rfl⟩
  | nil =>
    cases hpoint with
    | missing => exact absurd hsome (by simp)
    | point => exact ⟨'.', _, rfl, by decide⟩

/-- A float begins with a letter, a digit or the point. -/
theorem UnsignedFloat.unsigned {x : Float} (h : UnsignedFloat negative cs x) : Unsigned cs := by
  have hletters : (∀ c ∈ cs, c.isAlpha = true) → Unsigned cs := by
    intro hall c hc
    have halpha := hall c (List.mem_of_mem_head? hc)
    constructor <;> rintro rfl <;> exact absurd halpha (by decide)
  cases h with
  | infinity h =>
    rcases h with h | h
    · exact hletters (h.isAlpha (by decide))
    · exact hletters (h.isAlpha (by decide))
  | notANumber h => exact hletters (h.isAlpha (by decide))
  | number h =>
    obtain ⟨c, ds, rfl, -, hc⟩ := h.head
    rintro _ ⟨⟩
    exact hc

theorem positionalFloat?_eq_some_iff {x : Float} :
    positionalFloat? negative cs = some x ↔ Number negative cs x := by
  constructor
  · intro h
    rw [positionalFloat?, List.span_eq_takeWhile_dropWhile] at h
    dsimp only at h
    split at h
    · cases h
    · next hsome =>
      obtain ⟨e, he, rfl⟩ := Option.map_eq_some_iff.mp h
      obtain ⟨point, hpoint, hrest⟩ := exists_fraction (cs.dropWhile Char.isDigit)
      have hcs : cs = cs.takeWhile Char.isDigit ++
          (point ++ (fraction (cs.dropWhile Char.isDigit)).2) := by
        rw [← hrest, List.takeWhile_append_dropWhile]
      rw [Bool.and_eq_true, List.isEmpty_iff, List.isEmpty_iff] at hsome
      have hwhole : AreDigits (cs.takeWhile Char.isDigit) := fun d hd =>
        List.mem_takeWhile_imp hd
      have hnumber : Number negative _ _ :=
        .digits hwhole hpoint (not_and_or.mp hsome) (exponent?_eq_some_iff.mp he)
      rwa [← hcs, ← ofDigits_eq_worth] at hnumber
  · rintro @⟨whole, point, part, mark, e, hwhole, hpoint, hsome, hmark⟩
    have hend : ∀ c ∈ (point ++ mark).head?, c.isDigit = false := by
      cases hpoint with
      | missing => exact fun c hc => (hmark.head c hc).1
      | point =>
        rintro c ⟨⟩
        decide
    have hsome : ¬ (whole.isEmpty && part.isEmpty) = true := by
      rw [Bool.and_eq_true, List.isEmpty_iff, List.isEmpty_iff]
      exact not_and_or.mpr hsome
    rw [positionalFloat?, List.span_eq_takeWhile_dropWhile, Reader.takeWhile_run hwhole hend,
      Reader.dropWhile_run hwhole hend]
    simp only [hpoint.fraction_append hmark.head, if_neg hsome, exponent?_eq_some_iff.mpr hmark,
      Option.map_some, ofDigits_eq_worth]

theorem magnitude?_eq_some_iff {x : Float} :
    magnitude? negative cs = some x ↔ UnsignedFloat negative cs x := by
  have hinfinity : (sameWord "inf" cs || sameWord "infinity" cs) = true ↔
      Spells "inf" cs ∨ Spells "infinity" cs := by
    rw [Bool.or_eq_true, sameWord_iff, sameWord_iff]
  rw [magnitude?]
  constructor
  · intro h
    split at h
    · next hword =>
      obtain rfl := Option.some.inj h
      exact .infinity (hinfinity.mp hword)
    · split at h
      · next hword =>
        obtain rfl := Option.some.inj h
        exact .notANumber (sameWord_iff.mp hword)
      · exact .number (positionalFloat?_eq_some_iff.mp h)
  · intro h
    cases h with
    | infinity h => rw [if_pos (hinfinity.mpr h)]
    | notANumber h =>
      have hother : ¬ (Spells "inf" cs ∨ Spells "infinity" cs) := by
        rw [Spells, Spells, h]
        decide
      rw [if_neg (mt hinfinity.mp hother), if_pos (sameWord_iff.mpr h)]
    | number h =>
      -- the words are tried first, but a number does not begin with a letter
      obtain ⟨c, ds, rfl, halpha, -⟩ := h.head
      have hword : ∀ w : String, w.toList.all Char.isAlpha = true → ¬ Spells w (c :: ds) := by
        intro w hw hspells
        rw [hspells.isAlpha hw c List.mem_cons_self] at halpha
        cases halpha
      have hother : ¬ (Spells "inf" (c :: ds) ∨ Spells "infinity" (c :: ds)) :=
        not_or.mpr ⟨hword _ (by decide), hword _ (by decide)⟩
      rw [if_neg (mt hinfinity.mp hother), if_neg (mt sameWord_iff.mp (hword _ (by decide))),
        positionalFloat?_eq_some_iff]
      exact h

/-- **Floats are read as they are written.** -/
theorem float?_eq_some_iff {x : Float} : float? cs = some x ↔ FloatLiteral cs x := by
  constructor
  · intro h
    obtain ⟨sign, hsign, hcs⟩ := exists_sign cs
    conv_lhs => rw [hcs]
    exact .signed hsign (magnitude?_eq_some_iff.mp h)
  · rintro ⟨hsign, h⟩
    rw [float?, hsign.splitSign_append h.unsigned]
    exact magnitude?_eq_some_iff.mpr h

/-- **An integer is written as a float, too.** -/
theorem IntegerLiteral.exists_float {n : ℤ} (h : IntegerLiteral cs n) :
    ∃ x, FloatLiteral cs x := by
  obtain @⟨sign, ds, negative, hsign, hne, hds⟩ := h
  have hnumber : Number negative _ _ := .digits hds .missing (.inl hne) .missing
  rw [List.append_nil, List.append_nil] at hnumber
  exact ⟨_, .signed hsign (.number hnumber)⟩

end ParamSql.Decimal
