/-!
# UTF-8

Bytes read as text, one after the other. Where they stop being text is told with the length of the
well-formed start and, unless the bytes end too early, the length of the malformed sequence after it.

* `decode_ascii`: bytes below `0x80` stand for themselves.
-/
namespace TerseQuery.Text

/-- Why bytes are no text. -/
structure Utf8Fault where
  /-- The number of bytes before the malformed sequence. -/
  index : Nat
  /-- The length of the malformed sequence, or none if the bytes end inside it. -/
  length : Option Nat
  deriving DecidableEq, Repr

/-- A sequence that was begun. -/
structure Utf8Sequence where
  /-- The bits that were read. -/
  value : Nat
  /-- The bytes that were read. -/
  taken : Nat
  /-- The least and the greatest next byte. -/
  low : Nat
  high : Nat
  /-- The bytes that are still to come. -/
  missing : Nat
  deriving DecidableEq, Repr

namespace Utf8Sequence

/-- The sequence that a byte begins. The range of the second byte keeps out long forms, surrogates and values
beyond the last character. -/
def begin? (byte : Nat) : Option Utf8Sequence :=
  if byte < 0xC2 then none
  else if byte < 0xE0 then some ⟨byte - 0xC0, 1, 0x80, 0xBF, 1⟩
  else if byte = 0xE0 then some ⟨0, 1, 0xA0, 0xBF, 2⟩
  else if byte = 0xED then some ⟨0xD, 1, 0x80, 0x9F, 2⟩
  else if byte < 0xF0 then some ⟨byte - 0xE0, 1, 0x80, 0xBF, 2⟩
  else if byte = 0xF0 then some ⟨0, 1, 0x90, 0xBF, 3⟩
  else if byte < 0xF4 then some ⟨byte - 0xF0, 1, 0x80, 0xBF, 3⟩
  else if byte = 0xF4 then some ⟨4, 1, 0x80, 0x8F, 3⟩
  else none

/-- The value of a sequence with one more byte. -/
def valueWith (s : Utf8Sequence) (byte : Nat) : Nat :=
  s.value * 0x40 + (byte - 0x80)

end Utf8Sequence

/-- One character put before those that were decoded. -/
def consDecoded (c : Char) (rest : Except Utf8Fault (List Char)) : Except Utf8Fault (List Char) :=
  rest.map (c :: ·)

/-- Decodes bytes, the first `index` bytes being decoded and the sequence `begun`, if there is one, being
begun. -/
def decodeFrom (index : Nat) (begun : Option Utf8Sequence) :
    List UInt8 → Except Utf8Fault (List Char)
  | [] => if begun.isSome then .error ⟨index, none⟩ else .ok []
  | byte :: rest =>
    let byte := byte.toNat
    match begun with
    | none =>
      if byte < 0x80 then consDecoded (Char.ofNat byte) (decodeFrom (index + 1) none rest)
      else
        match Utf8Sequence.begin? byte with
        | some s => decodeFrom index (some s) rest
        | none => .error ⟨index, some 1⟩
    | some s =>
      if s.low ≤ byte ∧ byte ≤ s.high then
        if s.missing ≤ 1 then
          consDecoded (Char.ofNat (s.valueWith byte)) (decodeFrom (index + s.taken + 1) none rest)
        else
          decodeFrom index (some ⟨s.valueWith byte, s.taken + 1, 0x80, 0xBF, s.missing - 1⟩) rest
      else .error ⟨index, some s.taken⟩

/-- The text that bytes stand for. -/
def decodeUtf8 (bytes : List UInt8) : Except Utf8Fault String :=
  (decodeFrom 0 none bytes).map String.ofList

/-- How messages call a fault. -/
def Utf8Fault.message (fault : Utf8Fault) : String :=
  match fault.length with
  | some n => s!"invalid utf-8 sequence of {n} bytes from index {fault.index}"
  | none => s!"incomplete utf-8 byte sequence from index {fault.index}"

theorem decode_ascii (index : Nat) (bytes : List UInt8) (h : ∀ byte ∈ bytes, byte.toNat < 0x80) :
    decodeFrom index none bytes = .ok (bytes.map fun byte => Char.ofNat byte.toNat) := by
  induction bytes generalizing index with
  | nil => rfl
  | cons byte rest ih =>
    have here := h byte (by simp)
    have later := ih (index + 1) fun b member => h b (List.mem_cons_of_mem _ member)
    simp [decodeFrom, here, later, consDecoded, Except.map]

end TerseQuery.Text
