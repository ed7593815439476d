import Mathlib

/-!
# Lossless byte codecs

Serialisation libraries (RLP, Gob) are outside the code being modelled; what the code relies
on is that decoding an encoding gives the value back, and that an encoding is never the empty
byte string, so emptiness can mark an absent value. `Codec` packs an encoder and a decoder
with these two laws, so a model that takes a `Codec` as a parameter can only be run with a
lossless one.

`Codec.ofCountable` shows the laws are satisfiable for every countable type: it is the codec
a concrete counterexample instantiates where the model assumes a lossless encoding.
-/

/-- An encoder into bytes with a decoder that inverts it; encodings are never empty. -/
structure Codec (α : Type) where
  encode : α → List UInt8
  decode : List UInt8 → Except String α
  decode_encode : ∀ a, decode (encode a) = .ok a
  encode_ne_nil : ∀ a, encode a ≠ []

namespace Codec

attribute [simp] decode_encode

@[simp] theorem length_encode_pos {α : Type} (c : Codec α) (a : α) : 0 < (c.encode a).length :=
  List.length_pos_iff.mpr (c.encode_ne_nil a)

open Classical in
/-- A lossless codec from any injection into `ℕ`: the value's code in unary. -/
noncomputable def ofInjective {α : Type} (f : α → ℕ) (hf : Function.Injective f) : Codec α where
  encode a := List.replicate (f a + 1) 0
  decode l := if h : ∃ a, f a + 1 = l.length then .ok (Classical.choose h) else .error "decode"
  decode_encode a := by
    have h : ∃ a', f a' + 1 = (List.replicate (f a + 1) (0 : UInt8)).length := ⟨a, by simp⟩
    rw [dif_pos h]
    congr 1
    apply hf
    simpa using Classical.choose_spec h
  encode_ne_nil a := by simp

/-- Every countable type has a lossless codec. -/
theorem nonempty_of_countable (α : Type) [Countable α] : Nonempty (Codec α) := by
  obtain ⟨f, hf⟩ := Countable.exists_injective_nat α
  exact ⟨ofInjective f hf⟩

end Codec
