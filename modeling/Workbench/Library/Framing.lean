import Mathlib

/-!
# Library: decoders that are fed by reads

A decoder takes items off the front of a buffer.  Its reader appends what each read brings,
decodes as long as it can, and tells the decoder when the input has ended.  An error ends
the stream.

`Meets` says what the decoder must do for its reader to yield the items that the whole input
means; how the input was split into reads then makes no difference (`readAll_eq`).
-/

namespace Workbench.Library

structure Decoder (β ε α : Type) where
  /-- The next item, if the buffer holds one, and what is left of the buffer. -/
  decode : List β → Except ε (Option α) × List β
  decodeEof : List β → Except ε (Option α) × List β

namespace Decoder

variable {β ε α : Type} (decoder : Decoder β ε α)

/-- Calls a decoder until it has no item: the items, and what is left unless an error ended it. -/
def repeatDecode (decode : List β → Except ε (Option α) × List β) :
    Nat → List β → List (Except ε α) × Option (List β)
  | 0, buffer => ([], some buffer)
  | fuel + 1, buffer =>
    match decode buffer with
    | (.ok none, rest) => ([], some rest)
    | (.ok (some item), rest) =>
      (.ok item :: (repeatDecode decode fuel rest).1, (repeatDecode decode fuel rest).2)
    | (.error failure, _) => ([.error failure], none)

/-- Decodes what is in the buffer.  Every item takes something off it. -/
def drain (buffer : List β) : List (Except ε α) × Option (List β) :=
  repeatDecode decoder.decode (buffer.length + 1) buffer

/-- Decodes what is left after the last read. -/
def drainEof (buffer : List β) : List (Except ε α) :=
  (repeatDecode decoder.decodeEof (buffer.length + 1) buffer).1

/-- The items up to the first error, when the reads bring these chunks. -/
def readAll : List (List β) → List β → List (Except ε α)
  | [], buffer => decoder.drainEof buffer
  | chunk :: rest, buffer =>
    match decoder.drain (buffer ++ chunk) with
    | (items, none) => items
    | (items, some kept) => items ++ readAll rest kept

/-- The input that is kept when the reader asks for the read after these chunks. -/
def keptAfter : List (List β) → List β → Option (List β)
  | [], buffer => some buffer
  | chunk :: rest, buffer => (decoder.drain (buffer ++ chunk)).2.bind (keptAfter rest)

/-- The decoder follows the meaning of the whole input. -/
structure Meets (meaning : List β → List (Except ε α)) : Prop where
  starts : decoder.decode [] = (.ok none, [])
  waits : ∀ {buffer rest}, decoder.decode buffer = (.ok none, rest) → rest = buffer
  shrinks : ∀ {buffer item rest}, decoder.decode buffer = (.ok (some item), rest) →
    rest.length < buffer.length
  yields : ∀ {buffer item rest}, decoder.decode buffer = (.ok (some item), rest) →
    ∀ more, meaning (buffer ++ more) = .ok item :: meaning (rest ++ more)
  fails : ∀ {buffer failure rest}, decoder.decode buffer = (.error failure, rest) →
    ∀ more, meaning (buffer ++ more) = [.error failure]
  ends : ∀ {buffer}, decoder.decode buffer = (.ok none, buffer) →
    decoder.drainEof buffer = meaning buffer

variable {decoder} {meaning : List β → List (Except ε α)}

variable (decoder meaning) in
/-- What one read brings: the items up to an error or to where the decoder wants more input. -/
def Brings (buffer : List β) : List (Except ε α) × Option (List β) → Prop
  | (items, none) => ∀ more, meaning (buffer ++ more) = items
  | (items, some kept) => decoder.decode kept = (.ok none, kept)
      ∧ ∀ more, meaning (buffer ++ more) = items ++ meaning (kept ++ more)

variable (h : decoder.Meets meaning)
include h

theorem Meets.brings {fuel : Nat} {buffer : List β} (hfuel : buffer.length < fuel) :
    Brings decoder meaning buffer (repeatDecode decoder.decode fuel buffer) := by
  induction fuel generalizing buffer with
  | zero => exact absurd hfuel (Nat.not_lt_zero _)
  | succ fuel ih =>
    rw [repeatDecode]
    match hdecode : decoder.decode buffer with
    | (.ok none, rest) =>
      cases h.waits hdecode
      exact ⟨hdecode, fun more => rfl⟩
    | (.error failure, rest) => exact h.fails hdecode
    | (.ok (some item), rest) =>
      have hshort : rest.length < fuel := by
        have := h.shrinks hdecode
        omega
      have hrest := ih hshort
      simp only
      cases hlater : repeatDecode decoder.decode fuel rest with
      | mk _ left =>
        rw [hlater] at hrest
        cases left with
        | none =>
          intro more
          rw [h.yields hdecode, hrest]
        | some kept =>
          refine ⟨hrest.1, fun more => ?_⟩
          rw [h.yields hdecode, hrest.2, List.cons_append]

theorem Meets.brings_drain (buffer : List β) :
    Brings decoder meaning buffer (decoder.drain buffer) :=
  h.brings (Nat.lt_succ_self buffer.length)

/-- However the input is split into reads, the reader yields what the input means. -/
theorem Meets.readAll_eq (chunks : List (List β)) :
    decoder.readAll chunks [] = meaning chunks.flatten := by
  suffices hall : ∀ buffer, decoder.decode buffer = (.ok none, buffer) →
      decoder.readAll chunks buffer = meaning (buffer ++ chunks.flatten) from
    hall [] h.starts
  induction chunks with
  | nil =>
    intro buffer hbuffer
    rw [readAll, List.flatten_nil, List.append_nil, h.ends hbuffer]
  | cons chunk rest ih =>
    intro buffer hbuffer
    have hread := h.brings_drain (buffer ++ chunk)
    rw [readAll, List.flatten_cons, ← List.append_assoc]
    cases hdrain : decoder.drain (buffer ++ chunk) with
    | mk items left =>
      rw [hdrain] at hread
      cases left with
      | none => exact (hread _).symm
      | some kept =>
        show items ++ decoder.readAll rest kept = _
        rw [ih kept hread.1, hread.2]

/-- The reader asks for a read only where the decoder has taken every item it can. -/
theorem Meets.decode_keptAfter {chunks : List (List β)}
    {buffer kept : List β} (hbuffer : decoder.decode buffer = (.ok none, buffer))
    (hkept : decoder.keptAfter chunks buffer = some kept) :
    decoder.decode kept = (.ok none, kept) := by
  induction chunks generalizing buffer with
  | nil =>
    cases hkept
    exact hbuffer
  | cons chunk rest ih =>
    have hread := h.brings_drain (buffer ++ chunk)
    rw [keptAfter] at hkept
    cases hdrain : decoder.drain (buffer ++ chunk) with
    | mk _ left =>
      rw [hdrain] at hread hkept
      cases left with
      | none => cases hkept
      | some left => exact ih hread.1 hkept

end Decoder

end Workbench.Library
