/-!
# Texts as bytes

A text is stored as its bytes in UTF-8.  Bytes that encode no text are refused, with the place
where the first ill-formed sequence begins and how many of its bytes are well formed up to the
fault.

## Main definitions

* `Utf8.encode`, `Utf8.decode`
* `Utf8.Fault`, `Utf8.Fault.message`
-/

namespace ParamSql.Utf8

/-- The bytes of a text. -/
def encode (s : String) : List UInt8 := s.toByteArray.data.toList

/-- Where bytes do not encode a text. -/
structure Fault where
  /-- where the ill-formed sequence begins -/
  index : Nat
  /-- how many bytes make it ill-formed; none if the bytes end in the middle of it -/
  length : Option Nat
deriving Repr, DecidableEq, Inhabited

namespace Fault

/-- The wording of a fault. -/
def message (f : Fault) : String :=
  match f.length with
  | some n => "invalid utf-8 sequence of " ++ toString n ++ " bytes from index " ++ toString f.index
  | none => "incomplete utf-8 byte sequence from index " ++ toString f.index

end Fault

/-- Whether a byte lies between two others. -/
def within (low high b : UInt8) : Bool := low ≤ b && b ≤ high

/-- The ranges of the bytes behind a first one, if it begins a sequence. -/
def followers (first : UInt8) : Option (List (UInt8 × UInt8)) :=
  let any : UInt8 × UInt8 := (0x80, 0xBF)
  if first < 0x80 then some []
  else if within 0xC2 0xDF first then some [any]
  else if first = 0xE0 then some [(0xA0, 0xBF), any]
  else if first = 0xED then some [(0x80, 0x9F), any]
  else if within 0xE1 0xEF first then some [any, any]
  else if first = 0xF0 then some [(0x90, 0xBF), any, any]
  else if within 0xF1 0xF3 first then some [any, any, any]
  else if first = 0xF4 then some [(0x80, 0x8F), any, any]
  else none

/-- The fault of bytes of which `read` belong to the sequence that begins at `start`, when these
ranges are still to come. -/
def faultFrom (start read : Nat) : List (UInt8 × UInt8) → List UInt8 → Option Fault
  | _ :: _, [] => some ⟨start, none⟩
  | (low, high) :: ranges, b :: bytes =>
    if within low high b then faultFrom start (read + 1) ranges bytes else some ⟨start, some read⟩
  | [], [] => none
  | [], b :: bytes =>
    match followers b with
    | some ranges => faultFrom (start + read) 1 ranges bytes
    | none => some ⟨start + read, some 1⟩

/-- The first fault of bytes. -/
def fault? (bytes : List UInt8) : Option Fault := faultFrom 0 0 [] bytes

/-- The text that bytes encode. -/
def decode (bytes : List UInt8) : Except Fault String :=
  match String.fromUTF8? ⟨bytes.toArray⟩ with
  | some s => .ok s
  | none => .error ((fault? bytes).getD default)

/-- **What is encoded is read back.** -/
theorem decode_of_encode (s : String) : decode (encode s) = .ok s := by
  have hread : String.fromUTF8? s.toByteArray = some s := by
    rw [String.fromUTF8?, dif_pos s.isValidUTF8]
    rfl
  rw [decode, encode, Array.toArray_toList, hread]

/-- Bytes that are read are those of the text. -/
theorem decode_eq_ok_iff {bytes : List UInt8} {s : String} :
    decode bytes = .ok s ↔ bytes = encode s := by
  refine ⟨fun h => ?_, fun h => h ▸ decode_of_encode s⟩
  rw [decode] at h
  split at h
  · next t hread =>
    obtain rfl := Except.ok.inj h
    rw [String.fromUTF8?] at hread
    split at hread
    · obtain rfl := Option.some.inj hread
      rfl
    · cases hread
  · cases h

/-- The last byte lacks a byte behind it. -/
example : fault? [0x61, 0xC3, 0xA9, 0xC3] = some ⟨3, none⟩ := by decide

end ParamSql.Utf8
