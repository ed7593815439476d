import Obscuro.Common.Types
import Obscuro.Lib.ExceptBind

/-!
# Parsing the arguments of `eth_call`

`ExtractEthCall` of `go/common/gethencoding/geth_encoding.go` turns the params object of an
`eth_call` or `eth_estimateGas` request into `gethapi.TransactionArgs`. It ranges over the
object, a Go map whose iteration order is random, lower-cases each key and switches on it; each
case decodes the value and writes it into one of nine locals, from which the arguments are
built at the end.

The map is the list of its entries in the order one iteration visits them. The hex decoders
of go-ethereum's `hexutil` are parameters.

The `gasprice` case writes the local `value`; no case writes `gasPrice`.

## Results

* `extractField_gasPrice`, `extractField_value` — what one iteration writes into the locals
  `gasPrice` (nothing) and `value` (the `value` and the `gasprice` entries);
* `ExtractEthCall_dropsGasPrice` — the gas price is never set;
* `ExtractEthCall_Value` — the value is that of the last `value` or `gasprice` entry, whichever
  the iteration reaches later, so it depends on the map's order.
-/

namespace Obscuro.GethEncoding

/-- The relevant fields in an eth_call request's params. -/
def callFieldTo : String := "to"
def CallFieldFrom : String := "from"
def callFieldData : String := "data"
def callFieldValue : String := "value"
def callFieldGas : String := "gas"
def callFieldNonce : String := "nonce"
def callFieldGasPrice : String := "gasprice"
def callFieldMaxFeePerGas : String := "maxfeepergas"
def callFieldMaxPriorityFeePerGas : String := "maxpriorityfeepergas"

/-- A value of the params object, as far as `ExtractEthCall` tells values apart: JSON `null`, a
string, or anything else. -/
inductive ParamValue
  | null
  | str (s : String)
  | other
  deriving DecidableEq, Repr

/-- The decoders of `hexutil` and `gethcommon.HexToAddress`, which cannot fail. -/
structure Hexutil where
  Decode : String → Except String Bytes
  DecodeBig : String → Except String Nat
  DecodeUint64 : String → Except String UInt64
  HexToAddress : String → Address

/-- `gethapi.TransactionArgs`, without the access list, which is always `nil` here. -/
structure TransactionArgs where
  From : Option Address
  To : Option Address
  Gas : Option UInt64
  GasPrice : Option Nat
  MaxFeePerGas : Option Nat
  MaxPriorityFeePerGas : Option Nat
  Value : Option Nat
  Data : Option Bytes
  Nonce : Option UInt64
  deriving DecidableEq, Repr

/-- The locals of `ExtractEthCall` that the loop writes. -/
structure Locals where
  «to» : Option Address
  «from» : Option Address
  data : Option Bytes
  value : Option Nat
  gasPrice : Option Nat
  maxFeePerGas : Option Nat
  maxPriorityFeePerGas : Option Nat
  nonce : Option UInt64
  gas : Option UInt64

/-- The locals before the loop: every pointer `nil`, except the nonce, which points at zero. -/
def Locals.init : Locals := ⟨none, none, none, none, none, none, none, some 0, none⟩

/-- `unicode.IsSpace(c)`: the Latin-1 spaces, and above them the White_Space characters. -/
def IsSpace (c : Char) : Bool :=
  if c.toNat ≤ 0xFF then
    c = '\t' || c = '\n' || c.toNat = 0x0B || c.toNat = 0x0C || c = '\r' || c = ' ' ||
      c.toNat = 0x85 || c.toNat = 0xA0
  else
    c.toNat = 0x1680 || (0x2000 ≤ c.toNat && c.toNat ≤ 0x200A) || c.toNat = 0x2028 ||
      c.toNat = 0x2029 || c.toNat = 0x202F || c.toNat = 0x205F || c.toNat = 0x3000

/-- `len(strings.TrimSpace(valString)) == 0`: the string is spaces only. -/
def isBlank (s : String) : Bool := s.toList.all IsSpace

variable (h : Hexutil)

/-- A decoding case of the switch: decode the string, fail with the case's message, or store
the value in one local. -/
def decodeInto {α : Type} (decode : String → Except String α) (message : String)
    (set : Locals → Option α → Locals) (l : Locals) (valString : String) : Except String Locals :=
  match decode valString with
  | .error err => .error (message ++ err)
  | .ok v => .ok (set l (some v))

/-- `unicode.ToLower(r)` as a switch on ASCII labels sees it: the ASCII capitals are lowered, and
so are the two runes whose lower case is ASCII, `İ` (U+0130, to `i`) and the Kelvin sign
(U+212A, to `k`). Any other rune is kept: its lower case is not ASCII either, so no label
matches a name holding it, before or after lowering. -/
def lowerRune (c : Char) : Char :=
  if c.toNat = 0x130 then 'i'
  else if c.toNat = 0x212A then 'k'
  else c.toLower

/-- `strings.ToLower(s)`, rune by rune. -/
def ToLower (s : String) : String := String.ofList (s.toList.map lowerRune)

example : ToLower "GasPr\u0130ce" = callFieldGasPrice := by decide

/-- The message of every decoding case but `data`'s. -/
def valueMessage : String := "could not decode value in CallMsg - "

/-- The switch on the lower-cased field name, for a string that is not blank. A name no case
has is skipped. -/
def callFieldCase (l : Locals) (field valString : String) : Except String Locals :=
  let name := ToLower field
  if name = callFieldTo then .ok { l with «to» := some (h.HexToAddress valString) }
  else if name = CallFieldFrom then .ok { l with «from» := some (h.HexToAddress valString) }
  else if name = callFieldData then
    decodeInto h.Decode "could not decode data in CallMsg - " (fun l v => { l with data := v })
      l valString
  else if name = callFieldValue then
    decodeInto h.DecodeBig valueMessage (fun l v => { l with value := v }) l valString
  else if name = callFieldNonce then
    decodeInto h.DecodeUint64 valueMessage (fun l v => { l with nonce := v }) l valString
  else if name = callFieldGas then
    decodeInto h.DecodeUint64 valueMessage (fun l v => { l with gas := v }) l valString
  -- the gas price is decoded into the local `value`
  else if name = callFieldGasPrice then
    decodeInto h.DecodeBig valueMessage (fun l v => { l with value := v }) l valString
  else if name = callFieldMaxFeePerGas then
    decodeInto h.DecodeBig valueMessage (fun l v => { l with maxFeePerGas := v }) l valString
  else if name = callFieldMaxPriorityFeePerGas then
    decodeInto h.DecodeBig valueMessage (fun l v => { l with maxPriorityFeePerGas := v }) l
      valString
  else .ok l

/-- One iteration of the loop: `nil` and blank strings are skipped, a value of another type is
an error. -/
def extractField (l : Locals) (entry : String × ParamValue) : Except String Locals :=
  match entry.2 with
  | .null => .ok l
  | .other => .error ("unexpected type supplied in `" ++ entry.1 ++ "` field")
  | .str valString => if isBlank valString then .ok l else callFieldCase h l entry.1 valString

/-- `ExtractEthCall(param)`, visiting the entries in the order of `params`. -/
def ExtractEthCall (params : List (String × ParamValue)) : Except String TransactionArgs := do
  let l ← params.foldlM (extractField h) Locals.init
  pure
    { From := l.from
      To := l.«to»
      Gas := l.gas
      GasPrice := l.gasPrice
      MaxFeePerGas := l.maxFeePerGas
      MaxPriorityFeePerGas := l.maxPriorityFeePerGas
      Value := l.value
      Data := l.data
      Nonce := l.nonce }

-- ---------------------------------------------------------------------------
-- What an iteration writes
-- ---------------------------------------------------------------------------

section Writes

variable {h}

theorem decodeInto_eq_ok {α : Type} {decode : String → Except String α} {message : String}
    {set : Locals → Option α → Locals} {l l' : Locals} {valString : String}
    (hcase : decodeInto decode message set l valString = .ok l') :
    ∃ v, decode valString = .ok v ∧ l' = set l (some v) := by
  unfold decodeInto at hcase
  split at hcase
  · cases hcase
  · rename_i v hv
    cases hcase
    exact ⟨v, hv, rfl⟩

/-- No case of the switch writes `gasPrice`. -/
theorem callFieldCase_gasPrice {l l' : Locals} {field valString : String}
    (hcase : callFieldCase h l field valString = .ok l') : l'.gasPrice = l.gasPrice := by
  unfold callFieldCase at hcase
  dsimp only at hcase
  -- nine cases and the default, each writing one other local or none. The cases are taken one
  -- at a time: `split_ifs` on the whole chain makes `simp` compare the names.
  rcases ite_eq_iff.mp hcase with ⟨-, hcase⟩ | ⟨-, hcase⟩
  · cases hcase
    rfl
  rcases ite_eq_iff.mp hcase with ⟨-, hcase⟩ | ⟨-, hcase⟩
  · cases hcase
    rfl
  -- data, value, nonce, gas, gasprice (into the value) and the two fee caps decode into their
  -- locals
  iterate 7
    rcases ite_eq_iff.mp hcase with ⟨-, hcase⟩ | ⟨-, hcase⟩
    · obtain ⟨v, -, rfl⟩ := decodeInto_eq_ok hcase
      rfl
  cases hcase
  rfl

theorem extractField_gasPrice {l l' : Locals} {entry : String × ParamValue}
    (hstep : extractField h l entry = .ok l') : l'.gasPrice = l.gasPrice := by
  unfold extractField at hstep
  split at hstep
  · cases hstep
    rfl
  · cases hstep
  · split_ifs at hstep
    · cases hstep
      rfl
    · exact callFieldCase_gasPrice hstep

variable (h) in
/-- What an entry writes into the local `value`: the decoding of a `value` or a `gasprice`
entry that is a string and not blank. -/
def valueWrite (entry : String × ParamValue) : Option (Option Nat) :=
  match entry.2 with
  | .str valString =>
    if !isBlank valString &&
        (ToLower entry.1 = callFieldValue || ToLower entry.1 = callFieldGasPrice) then
      some (h.DecodeBig valString).toOption
    else none
  | _ => none

/-- A case of another name is neither the `value` nor the `gasprice` case. -/
theorem not_valueCase {name other : String} (hname : name = other)
    (hvalue : other ≠ callFieldValue) (hprice : other ≠ callFieldGasPrice) :
    ¬(name = callFieldValue ∨ name = callFieldGasPrice) := by
  rw [hname]
  exact not_or.mpr ⟨hvalue, hprice⟩

/-- The `value` and the `gasprice` cases write `value`; the others leave it. -/
theorem callFieldCase_value {l l' : Locals} {field valString : String}
    (hcase : callFieldCase h l field valString = .ok l') :
    l'.value = if ToLower field = callFieldValue ∨ ToLower field = callFieldGasPrice then
      (h.DecodeBig valString).toOption else l.value := by
  unfold callFieldCase at hcase
  dsimp only at hcase
  -- the cases one at a time, as for `gasPrice`
  rcases ite_eq_iff.mp hcase with ⟨hto, hcase⟩ | ⟨-, hcase⟩
  · cases hcase
    rw [if_neg (not_valueCase hto (by decide +kernel) (by decide +kernel))]
  rcases ite_eq_iff.mp hcase with ⟨hfrom, hcase⟩ | ⟨-, hcase⟩
  · cases hcase
    rw [if_neg (not_valueCase hfrom (by decide +kernel) (by decide +kernel))]
  rcases ite_eq_iff.mp hcase with ⟨hdata, hcase⟩ | ⟨-, hcase⟩
  · obtain ⟨v, -, rfl⟩ := decodeInto_eq_ok hcase
    rw [if_neg (not_valueCase hdata (by decide +kernel) (by decide +kernel))]
  rcases ite_eq_iff.mp hcase with ⟨hvalue, hcase⟩ | ⟨hvalue, hcase⟩
  · -- value: the decoding is written
    obtain ⟨v, hv, rfl⟩ := decodeInto_eq_ok hcase
    rw [if_pos (.inl hvalue), hv]
    rfl
  rcases ite_eq_iff.mp hcase with ⟨hnonce, hcase⟩ | ⟨-, hcase⟩
  · obtain ⟨v, -, rfl⟩ := decodeInto_eq_ok hcase
    rw [if_neg (not_valueCase hnonce (by decide +kernel) (by decide +kernel))]
  rcases ite_eq_iff.mp hcase with ⟨hgas, hcase⟩ | ⟨-, hcase⟩
  · obtain ⟨v, -, rfl⟩ := decodeInto_eq_ok hcase
    rw [if_neg (not_valueCase hgas (by decide +kernel) (by decide +kernel))]
  rcases ite_eq_iff.mp hcase with ⟨hprice, hcase⟩ | ⟨hprice, hcase⟩
  · -- gasprice: the decoding is written into the value as well
    obtain ⟨v, hv, rfl⟩ := decodeInto_eq_ok hcase
    rw [if_pos (.inr hprice), hv]
    rfl
  rcases ite_eq_iff.mp hcase with ⟨hmax, hcase⟩ | ⟨-, hcase⟩
  · obtain ⟨v, -, rfl⟩ := decodeInto_eq_ok hcase
    rw [if_neg (not_valueCase hmax (by decide +kernel) (by decide +kernel))]
  rcases ite_eq_iff.mp hcase with ⟨hprio, hcase⟩ | ⟨-, hcase⟩
  · obtain ⟨v, -, rfl⟩ := decodeInto_eq_ok hcase
    rw [if_neg (not_valueCase hprio (by decide +kernel) (by decide +kernel))]
  -- a name no case has
  cases hcase
  rw [if_neg (not_or.mpr ⟨hvalue, hprice⟩)]

theorem extractField_value {l l' : Locals} {entry : String × ParamValue}
    (hstep : extractField h l entry = .ok l') : l'.value = (valueWrite h entry).getD l.value := by
  obtain ⟨field, val⟩ := entry
  unfold extractField at hstep
  cases val with
  | null =>
    cases hstep
    rfl
  | other => cases hstep
  | str valString =>
    by_cases hblank : isBlank valString
    · simp only [hblank, if_true] at hstep
      cases hstep
      simp [valueWrite, hblank]
    · simp only [hblank] at hstep
      rw [callFieldCase_value hstep]
      by_cases hname : ToLower field = callFieldValue ∨ ToLower field = callFieldGasPrice
      · simp [valueWrite, hblank, hname]
      · simp [valueWrite, hblank, hname]

end Writes

-- ---------------------------------------------------------------------------
-- The arguments
-- ---------------------------------------------------------------------------

section Args

variable {h}

/-- **The gas price is never set.** Whatever the params and whatever their order, the arguments
`ExtractEthCall` returns have no gas price: the `gasprice` entry is decoded into the value. -/
theorem ExtractEthCall_dropsGasPrice {params : List (String × ParamValue)}
    {args : TransactionArgs} (hok : ExtractEthCall h params = .ok args) : args.GasPrice = none := by
  obtain ⟨l, hloop, hargs⟩ := Except.bind_eq_ok.mp hok
  cases hargs
  -- no entry writes the gas price, so it keeps its initial value
  have hlast : l.gasPrice =
      ((params.filterMap fun _ => (none : Option (Option Nat))).getLast?).getD Locals.init.gasPrice :=
    Except.foldlM_lastWrite (fun _ _ _ hstep => extractField_gasPrice hstep) hloop
  simpa [Locals.init] using hlast

/-- **The value is the last of two entries.** The value `ExtractEthCall` returns is the
decoding of whichever `value` or `gasprice` entry the iteration reaches last, and none when
there is neither. -/
theorem ExtractEthCall_Value {params : List (String × ParamValue)} {args : TransactionArgs}
    (hok : ExtractEthCall h params = .ok args) :
    args.Value = ((params.filterMap (valueWrite h)).getLast?).getD none := by
  obtain ⟨l, hloop, hargs⟩ := Except.bind_eq_ok.mp hok
  cases hargs
  show l.value = ((params.filterMap (valueWrite h)).getLast?).getD Locals.init.value
  exact Except.foldlM_lastWrite (fun _ _ _ hstep => extractField_value hstep) hloop

end Args

/-- A decoder that reads the two numbers the request below sends. -/
def cxHexutil : Hexutil where
  Decode _ := .ok []
  DecodeBig s := if s = "0x1" then .ok 1 else if s = "0x2" then .ok 2 else .error "invalid hex string"
  DecodeUint64 _ := .error "invalid hex string"
  HexToAddress _ := 0

/-- A request with a value of 1 and a gas price of 2: in one order the arguments get the value
2 and no gas price, in the other the value 1. -/
theorem ExtractEthCall_dropsGasPrice_valueAndGasPrice :
    ExtractEthCall cxHexutil [("value", .str "0x1"), ("gasPrice", .str "0x2")] =
        .ok ⟨none, none, none, none, none, none, some 2, none, some 0⟩ ∧
      (⟨none, none, none, none, none, none, some 2, none, some 0⟩ : TransactionArgs).GasPrice =
        none ∧
      ExtractEthCall cxHexutil [("gasPrice", .str "0x2"), ("value", .str "0x1")] =
        .ok ⟨none, none, none, none, none, none, some 1, none, some 0⟩ := by
  have hok : ExtractEthCall cxHexutil [("value", .str "0x1"), ("gasPrice", .str "0x2")] =
      .ok ⟨none, none, none, none, none, none, some 2, none, some 0⟩ := by
    decide +kernel
  exact ⟨hok, ExtractEthCall_dropsGasPrice hok, by decide +kernel⟩

end Obscuro.GethEncoding
