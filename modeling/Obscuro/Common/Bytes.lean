import Obscuro.Common.Types
import Obscuro.Lib.GoInt

/-!
# Hashes and addresses as bytes

`gethcommon.Hash` and `gethcommon.Address` as the code turns them into bytes and back:
`Bytes()` gives the value's big-endian bytes, 32 or 20 of them, and `BytesToHash` and
`BytesToAddress` read the last 32 or 20 bytes of a byte string. Reading back what `Bytes()`
gave returns the value (`BytesToHash_Bytes`, `BytesToAddress_Bytes`), so the bytes of
different values differ.
-/

namespace Obscuro

/-- `gethcommon.BytesToHash`: the last 32 bytes, big-endian. -/
def BytesToHash (b : Bytes) : Hash := BitVec.ofNat 256 (Go.setBytes b)

/-- `gethcommon.Address.Bytes()`: the 20 bytes, most significant first. -/
def Address.Bytes (a : Address) : Bytes := Go.fixedBytes 20 a.toNat

/-- `gethcommon.BytesToAddress`: the last 20 bytes, big-endian. -/
def BytesToAddress (b : Bytes) : Address := BitVec.ofNat 160 (Go.setBytes b)

/-- A fixed-size value read back from its bytes, for any width that is a whole number of
bytes. -/
theorem ofNat_setBytes_fixedBytes {w : Nat} (m : Nat) (x : BitVec w) (hw : 2 ^ w = 256 ^ m) :
    BitVec.ofNat w (Go.setBytes (Go.fixedBytes m x.toNat)) = x := by
  apply BitVec.eq_of_toNat_eq
  have hlt : x.toNat < 256 ^ m := hw ▸ x.isLt
  rw [Go.setBytes_fixedBytes, Nat.mod_eq_of_lt hlt, BitVec.toNat_ofNat, Nat.mod_eq_of_lt x.isLt]

@[simp] theorem Hash.length_Bytes (h : Hash) : h.Bytes.length = 32 := by
  simp [Hash.Bytes]

/-- `BytesToHash` reads back the bytes of a hash. -/
@[simp] theorem BytesToHash_Bytes (h : Hash) : BytesToHash h.Bytes = h :=
  ofNat_setBytes_fixedBytes 32 h (by norm_num)

/-- `BytesToAddress` reads back the bytes of an address. -/
@[simp] theorem BytesToAddress_Bytes (a : Address) : BytesToAddress a.Bytes = a :=
  ofNat_setBytes_fixedBytes 20 a (by norm_num)

@[simp] theorem Hash.Bytes_inj {h h' : Hash} : h.Bytes = h'.Bytes ↔ h = h' := by
  constructor
  · intro heq
    rw [← BytesToHash_Bytes h, heq, BytesToHash_Bytes]
  · intro heq
    rw [heq]

end Obscuro
