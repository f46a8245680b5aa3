import MagalixAgent.Go.Basic

namespace MagalixAgent

/-! The identifiers of `uuid-go`: sixteen bytes, printed by `String` in the
canonical `8-4-4-4-12` lowercase hexadecimal form. The agent keys its rate table
and its raw-response map by these strings, so distinct identifiers must print
differently; `UUID.string_injective` shows that they do. -/

/-- A `uuid.UUID`, a `[16]byte`. -/
structure UUID where
  bytes : List UInt8
  length_bytes : bytes.length = 16
deriving DecidableEq

namespace UUID

instance : Repr UUID := ⟨fun id _ => repr id.bytes⟩

/-- `uuid.Nil`, the identifier whose bytes are all zero. -/
def Nil : UUID := ⟨List.replicate 16 0, rfl⟩

/-- The two lowercase hexadecimal digits `hex.Encode` writes for one byte. -/
def hexByte (byte : UInt8) : List Char :=
  [Nat.digitChar (byte.toNat / 16), Nat.digitChar (byte.toNat % 16)]

/-- The characters of `String` from byte `index` on: a dash precedes bytes 4, 6,
8 and 10. -/
def encode : Nat → List UInt8 → List Char
  | _, [] => []
  | index, byte :: rest =>
      (if index = 4 ∨ index = 6 ∨ index = 8 ∨ index = 10 then ['-'] else []) ++
        hexByte byte ++ encode (index + 1) rest

/-- `u.String()`. -/
def string (id : UUID) : String := ⟨encode 0 id.bytes⟩

/-- The digit that `Nat.digitChar` prints, read back. -/
def hexValue (digit : Char) : Nat :=
  ((List.range 16).find? fun value => Nat.digitChar value = digit).getD 0

theorem hexValue_digitChar : ∀ value : Fin 16, hexValue (Nat.digitChar value) = value := by
  decide

theorem digitChar_injective {left right : Nat} (leftSmall : left < 16) (rightSmall : right < 16)
    (equal : Nat.digitChar left = Nat.digitChar right) : left = right := by
  have decoded := congrArg hexValue equal
  rwa [hexValue_digitChar ⟨left, leftSmall⟩, hexValue_digitChar ⟨right, rightSmall⟩] at decoded

theorem hexByte_injective {left right : UInt8} (equal : hexByte left = hexByte right) :
    left = right := by
  simp only [hexByte, List.cons.injEq, and_true] at equal
  have leftBound := left.toNat_lt
  have rightBound := right.toNat_lt
  have high := digitChar_injective (by omega) (by omega) equal.1
  have low := digitChar_injective (by omega) (by omega) equal.2
  apply UInt8.ext
  omega

theorem encode_injective (index : Nat) {left right : List UInt8}
    (sameLength : left.length = right.length)
    (equal : encode index left = encode index right) : left = right := by
  induction left generalizing index right with
  | nil => cases right <;> simp_all
  | cons byte rest induction =>
      cases right with
      | nil => simp at sameLength
      | cons other others =>
          simp only [encode, List.append_assoc] at equal
          have parts := List.append_inj (List.append_cancel_left equal) (by rfl)
          rw [hexByte_injective parts.1,
            induction (index + 1) (by simpa using sameLength) parts.2]

theorem string_injective {left right : UUID} (equal : left.string = right.string) :
    left = right := by
  have bytes := encode_injective 0 (left.length_bytes.trans right.length_bytes.symm)
    (congrArg String.data equal)
  cases left
  cases right
  cases bytes
  rfl

end UUID

end MagalixAgent
