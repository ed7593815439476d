import Obscuro.Host.DBSchema

/-!
# The host's block headers

`go/host/db/blocks.go`: the host keeps the L1 block headers it sees in the key-value store of
`hostdb.go`, each under its hash (`blockHashKey`) and under its height (`blockNumberKey`), and
the hash of the highest one under `blockHeadedAtTip`. `AddBlock` writes the two header entries
straight to the store, outside any write batch, and stages only the tip, which it commits at
the end; the tip it compares with is read after the header entries are written.

The abstract store is the list of headers added so far, in order, with one header per hash and
64-bit heights. `RepresentsBlocks` says what the keys hold for such a list: under a hash, the
header of that hash; under a 64-bit height, the last header added at that height, so that a
header of a fork replaces the one before it; under `blockHeadedAtTip`, the hash of the first
header of greatest height, which a later header at that height does not replace.

* `AddBlock_represents` — `AddBlock` succeeds and appends the header;
* `AddBlock_error` — a failed call keeps the header entries it wrote;
* `RepresentsBlocks.AddBlocks` — every run of the guardian's calls appends its headers;
* `RepresentsBlocks.GetBlockByHash`, `.GetBlockByHeight`, `.GetBlockAtTip` — what the reads
  return.
-/

namespace Obscuro.HostDB

open WriteLog

/-- `kvStore.Put`: one write straight to the store. -/
def DB.Put (db : DB) (key value : Bytes) : DB := Write db (HostDB.Put NewBatch key value)

section Blocks

variable (blockRlp : Codec L1Block)

/-- `readBlock`: the header under a key. -/
def readBlock (db : DB) (key : Bytes) : Except String L1Block :=
  readKey db key blockRlp.decode

/-- `GetBlockByHash`. -/
def GetBlockByHash (db : DB) (hash : Hash) : Except String L1Block :=
  readBlock blockRlp db (blockHashKey hash)

/-- `GetBlockByHeight`. -/
def GetBlockByHeight (db : DB) (height : Nat) : Except String L1Block :=
  readBlock blockRlp db (blockNumberKey height)

/-- `GetBlockAtTip`: the hash under `blockHeadedAtTip`, then the header of that hash. -/
def GetBlockAtTip (db : DB) : Except String L1Block := do
  let value ← db.Get blockHeadedAtTip
  let h := BytesToHash value
  GetBlockByHash blockRlp db h

/-- `writeBlockAtTip`, on the write batch. -/
def writeBlockAtTip (w : List (Op Bytes Bytes)) (hash : Hash) : List (Op Bytes Bytes) :=
  Put w blockHeadedAtTip hash.Bytes

/-- `writeBlockByHash`, straight to the store. -/
def writeBlockByHash (db : DB) (header : L1Block) : DB :=
  db.Put (blockHashKey header.hash) (blockRlp.encode header)

/-- `writeBlockByHeight`, straight to the store. -/
def writeBlockByHeight (db : DB) (header : L1Block) : DB :=
  db.Put (blockNumberKey header.number) (blockRlp.encode header)

/-- `DB.AddBlock`. The header entries are written before the tip is read, and stay written when
the call fails; only the tip waits for the final `Write`. -/
def AddBlock (db : DB) (header : L1Block) : Except String Unit × DB :=
  let db := writeBlockByHash blockRlp db header
  let db := writeBlockByHeight blockRlp db header
  let b := NewBatch
  -- update the tip if the new height is greater than the existing one
  match GetBlockAtTip blockRlp db with
  | .error err =>
    if err ≠ ErrNotFound then
      (.error ("could not retrieve block header at tip. Cause: " ++ err), db)
    else (.ok (), Write db (writeBlockAtTip b header.hash))
  | .ok tipBlockHeader =>
    if tipBlockHeader.number < header.number then
      (.ok (), Write db (writeBlockAtTip b header.hash))
    else (.ok (), Write db b)

end Blocks

/-! ## Keys and writes -/

theorem blockHashKey_ne_blockNumberKey (hash : Hash) {height : Nat} (h : height < 2 ^ 64) :
    blockHashKey hash ≠ blockNumberKey height :=
  SchemaKey.bytes_ne (.blockHash hash) (.blockNumber height) trivial h (by simp)

theorem blockHashKey_ne_tip (hash : Hash) : blockHashKey hash ≠ blockHeadedAtTip :=
  SchemaKey.bytes_ne (.blockHash hash) .blockHeadedAtTip trivial trivial (by simp)

theorem blockNumberKey_ne_tip {height : Nat} (h : height < 2 ^ 64) :
    blockNumberKey height ≠ blockHeadedAtTip :=
  SchemaKey.bytes_ne (.blockNumber height) .blockHeadedAtTip h trivial (by simp)

theorem blockHashKey_inj {hash hash' : Hash} : blockHashKey hash = blockHashKey hash' ↔ hash = hash' := by
  rw [← SchemaKey.blockHash.injEq]
  exact @SchemaKey.bytes_eq_iff (.blockHash hash) (.blockHash hash') trivial trivial

theorem blockNumberKey_inj {m n : Nat} (hm : m < 2 ^ 64) (hn : n < 2 ^ 64) :
    blockNumberKey m = blockNumberKey n ↔ m = n := by
  rw [← SchemaKey.blockNumber.injEq]
  exact @SchemaKey.bytes_eq_iff (.blockNumber m) (.blockNumber n) hm hn

theorem DB.Put_kvStore (db : DB) (key value : Bytes) :
    (db.Put key value).kvStore = Function.update db.kvStore key (some value) := rfl

theorem Write_writeBlockAtTip_kvStore (db : DB) (hash : Hash) :
    (Write db (writeBlockAtTip NewBatch hash)).kvStore =
      Function.update db.kvStore blockHeadedAtTip (some hash.Bytes) := rfl

/-! ## Reads -/

section Reads

variable {blockRlp : Codec L1Block} {db : DB}

theorem GetBlockAtTip_of_none (htip : db.kvStore blockHeadedAtTip = none) :
    GetBlockAtTip blockRlp db = .error ErrNotFound := by
  simp only [GetBlockAtTip, DB.Get, htip]
  rfl

theorem GetBlockAtTip_of_some {m : L1Block} (htip : db.kvStore blockHeadedAtTip = some m.hash.Bytes)
    (hm : db.kvStore (blockHashKey m.hash) = some (blockRlp.encode m)) :
    GetBlockAtTip blockRlp db = .ok m := by
  simp only [GetBlockAtTip, DB.Get, htip, Except.ok_bind', BytesToHash_Bytes]
  exact readKey_encode hm

end Reads

/-! ## The abstract store -/

section Abstract

variable (blockRlp : Codec L1Block)

/-- What the store holds for the headers added, in order: one header per hash, 64-bit heights;
under a hash its header, under a height the last header added there, under the tip the hash of
the first header of greatest height. -/
structure RepresentsBlocks (db : DB) (added : List L1Block) : Prop where
  hashInj : ∀ a ∈ added, ∀ b ∈ added, a.hash = b.hash → a = b
  numbers : ∀ a ∈ added, a.number < 2 ^ 64
  byHash : ∀ hash, db.kvStore (blockHashKey hash) =
    (added.reverse.find? (·.hash = hash)).map blockRlp.encode
  byHeight : ∀ height < 2 ^ 64, db.kvStore (blockNumberKey height) =
    (added.reverse.find? (·.number = height)).map blockRlp.encode
  tip : db.kvStore blockHeadedAtTip = (added.argmax (·.number)).map (·.hash.Bytes)

theorem representsBlocks_empty : RepresentsBlocks blockRlp DB.empty [] where
  hashInj := by simp
  numbers := by simp
  byHash _ := rfl
  byHeight _ _ := rfl
  tip := rfl

variable {blockRlp}

section Reads

variable {db : DB} {added : List L1Block} (hr : RepresentsBlocks blockRlp db added)
include hr

theorem RepresentsBlocks.find?_hash {a : L1Block} (ha : a ∈ added) :
    added.reverse.find? (·.hash = a.hash) = some a :=
  find?_eq_of_unique (List.mem_reverse.mpr ha) (by simp) fun b hb hbh =>
    hr.hashInj b (List.mem_reverse.mp hb) a ha (by simpa using hbh)

/-- A hash reads as the header added with it. -/
theorem RepresentsBlocks.GetBlockByHash {a : L1Block} (ha : a ∈ added) :
    HostDB.GetBlockByHash blockRlp db a.hash = .ok a :=
  readKey_encode (by rw [hr.byHash, hr.find?_hash ha]; rfl)

/-- A 64-bit height reads as the last header added at that height. -/
theorem RepresentsBlocks.GetBlockByHeight {height : Nat} (hh : height < 2 ^ 64) :
    HostDB.GetBlockByHeight blockRlp db height =
      match added.reverse.find? (·.number = height) with
      | some a => .ok a
      | none => .error ErrNotFound := by
  cases hfind : added.reverse.find? (·.number = height) with
  | none => exact readKey_none _ (by rw [hr.byHeight height hh, hfind]; rfl)
  | some a => exact readKey_encode (by rw [hr.byHeight height hh, hfind]; rfl)

/-- The tip is the first header of greatest height, and there is none before any header. -/
theorem RepresentsBlocks.GetBlockAtTip :
    HostDB.GetBlockAtTip blockRlp db =
      match added.argmax (·.number) with
      | some m => .ok m
      | none => .error ErrNotFound := by
  cases hmax : added.argmax (·.number) with
  | none => exact GetBlockAtTip_of_none (by rw [hr.tip, hmax]; rfl)
  | some m =>
    have hm : m ∈ added := List.argmax_mem hmax
    exact GetBlockAtTip_of_some (by rw [hr.tip, hmax]; rfl)
      (by rw [hr.byHash, hr.find?_hash hm]; rfl)

end Reads

/-! ## Adding a header -/

section Add

variable {db : DB} {added : List L1Block} (hr : RepresentsBlocks blockRlp db added)
  {header : L1Block} (hnum : header.number < 2 ^ 64)
  (hinj : ∀ a ∈ added, a.hash = header.hash → a = header)
include hr hnum hinj

omit hinj in
/-- Once the two header entries are written, a hash holds what it holds for the new list. -/
theorem RepresentsBlocks.headerWrites_byHash (hash : Hash) :
    (writeBlockByHeight blockRlp (writeBlockByHash blockRlp db header) header).kvStore
      (blockHashKey hash) = ((added ++ [header]).reverse.find? (·.hash = hash)).map blockRlp.encode := by
  rw [writeBlockByHeight, DB.Put_kvStore,
    Function.update_of_ne (blockHashKey_ne_blockNumberKey hash hnum), writeBlockByHash,
    DB.Put_kvStore, List.reverse_append, List.reverse_singleton, List.singleton_append]
  by_cases hh : header.hash = hash
  · rw [hh, Function.update_self]
    simp [hh]
  · rw [Function.update_of_ne (mt blockHashKey_inj.mp (Ne.symm hh)), hr.byHash hash]
    simp [hh]

omit hinj in
/-- Once the two header entries are written, a 64-bit height holds what it holds for the new
list. -/
theorem RepresentsBlocks.headerWrites_byHeight {height : Nat} (hheight : height < 2 ^ 64) :
    (writeBlockByHeight blockRlp (writeBlockByHash blockRlp db header) header).kvStore
      (blockNumberKey height) =
        ((added ++ [header]).reverse.find? (·.number = height)).map blockRlp.encode := by
  rw [writeBlockByHeight, DB.Put_kvStore, List.reverse_append, List.reverse_singleton,
    List.singleton_append]
  by_cases hh : header.number = height
  · rw [hh, Function.update_self]
    simp [hh]
  · rw [Function.update_of_ne (mt (blockNumberKey_inj hheight hnum).mp (Ne.symm hh)),
      writeBlockByHash, DB.Put_kvStore,
      Function.update_of_ne (Ne.symm (blockHashKey_ne_blockNumberKey _ hheight)),
      hr.byHeight height hheight]
    simp [hh]

/-- A store that holds the two header entries over `db`, whatever its tip, represents the new
list once its tip is the new list's. -/
theorem RepresentsBlocks.of_headerWrites {db' : DB}
    (hoff : ∀ k, k ≠ blockHeadedAtTip →
      db'.kvStore k = (writeBlockByHeight blockRlp (writeBlockByHash blockRlp db header) header).kvStore k)
    (htip : db'.kvStore blockHeadedAtTip = ((added ++ [header]).argmax (·.number)).map (·.hash.Bytes)) :
    RepresentsBlocks blockRlp db' (added ++ [header]) where
  hashInj a ha b hb hab := by
    simp only [List.mem_append, List.mem_singleton] at ha hb
    rcases ha with ha | rfl <;> rcases hb with hb | rfl
    · exact hr.hashInj a ha b hb hab
    · exact hinj a ha hab
    · exact (hinj b hb hab.symm).symm
    · rfl
  numbers a ha := by
    simp only [List.mem_append, List.mem_singleton] at ha
    rcases ha with ha | rfl
    · exact hr.numbers a ha
    · exact hnum
  byHash hash := by rw [hoff _ (blockHashKey_ne_tip hash), hr.headerWrites_byHash hnum]
  byHeight height hheight := by
    rw [hoff _ (blockNumberKey_ne_tip hheight), hr.headerWrites_byHeight hnum hheight]
  tip := htip

/-- **`AddBlock` appends the header.** For a header with a 64-bit height whose hash no other
added header has, `AddBlock` succeeds, and the store represents the list with the header
appended: the tip moves to it only when it is strictly higher. -/
theorem AddBlock_represents :
    (AddBlock blockRlp db header).1 = .ok () ∧
      RepresentsBlocks blockRlp (AddBlock blockRlp db header).2 (added ++ [header]) := by
  -- the store once the two header entries are written, which still has the old tip
  set db2 := writeBlockByHeight blockRlp (writeBlockByHash blockRlp db header) header with hdb2
  have htip2 : db2.kvStore blockHeadedAtTip = db.kvStore blockHeadedAtTip := by
    rw [hdb2, writeBlockByHeight, DB.Put_kvStore, Function.update_of_ne (blockNumberKey_ne_tip hnum).symm,
      writeBlockByHash, DB.Put_kvStore, Function.update_of_ne (blockHashKey_ne_tip _).symm]
  -- writing the tip leaves the rest of the store
  have hwrite : ∀ k, k ≠ blockHeadedAtTip →
      (Write db2 (writeBlockAtTip NewBatch header.hash)).kvStore k = db2.kvStore k := by
    intro k hk
    rw [Write_writeBlockAtTip_kvStore, Function.update_of_ne hk]
  cases hmax : added.argmax (·.number) with
  | none =>
    -- no tip yet: the header becomes the tip
    have hread : GetBlockAtTip blockRlp db2 = .error ErrNotFound :=
      GetBlockAtTip_of_none (by rw [htip2, hr.tip, hmax]; rfl)
    simp only [AddBlock, ← hdb2, hread, ne_eq, not_true_eq_false, if_false]
    refine ⟨trivial, hr.of_headerWrites hnum hinj hwrite ?_⟩
    rw [Write_writeBlockAtTip_kvStore, Function.update_self, List.argmax_concat, hmax]
    rfl
  | some m =>
    -- the tip reads back as `m`, whose entry the header's write keeps or rewrites alike
    have hm : m ∈ added := List.argmax_mem hmax
    have hentry : db2.kvStore (blockHashKey m.hash) = some (blockRlp.encode m) := by
      rw [hdb2, hr.headerWrites_byHash hnum, List.reverse_append, List.reverse_singleton,
        List.singleton_append, List.find?_cons]
      by_cases hh : header.hash = m.hash
      · simp [hh, hinj m hm hh.symm]
      · simp [hh, hr.find?_hash hm]
    have hread : GetBlockAtTip blockRlp db2 = .ok m :=
      GetBlockAtTip_of_some (by rw [htip2, hr.tip, hmax]; rfl) hentry
    by_cases hlt : m.number < header.number
    · simp only [AddBlock, ← hdb2, hread, hlt, if_true]
      refine ⟨trivial, hr.of_headerWrites hnum hinj hwrite ?_⟩
      rw [Write_writeBlockAtTip_kvStore, Function.update_self, List.argmax_concat, hmax]
      simp [hlt]
    · simp only [AddBlock, ← hdb2, hread, hlt, if_false]
      refine ⟨trivial, hr.of_headerWrites hnum hinj (fun k _ => rfl) ?_⟩
      rw [show (Write db2 NewBatch).kvStore = db2.kvStore from rfl, htip2, hr.tip,
        List.argmax_concat, hmax]
      simp [hlt]

end Add

/-- Unlike `AddBatch`, a failed call is not undone: the two header entries, written straight to
the store, stay, and only the tip is left as it was. -/
theorem AddBlock_error {db : DB} {header : L1Block} {err : String}
    (h : (AddBlock blockRlp db header).1 = .error err) :
    (AddBlock blockRlp db header).2 =
      writeBlockByHeight blockRlp (writeBlockByHash blockRlp db header) header := by
  cases hread : GetBlockAtTip blockRlp
      (writeBlockByHeight blockRlp (writeBlockByHash blockRlp db header) header) with
  | error e =>
    -- the tip read failed: the call fails only for an error other than `ErrNotFound`
    by_cases he : e = ErrNotFound
    · simp [AddBlock, hread, he] at h
    · simp [AddBlock, hread, he]
  | ok tip =>
    by_cases hlt : tip.number < header.number <;> simp [AddBlock, hread, hlt] at h

/-- A call leaves the two header entries written, and at most the tip besides. -/
theorem AddBlock_snd (db : DB) (header : L1Block) :
    (AddBlock blockRlp db header).2 =
        writeBlockByHeight blockRlp (writeBlockByHash blockRlp db header) header ∨
      (AddBlock blockRlp db header).2 =
        Write (writeBlockByHeight blockRlp (writeBlockByHash blockRlp db header) header)
          (writeBlockAtTip NewBatch header.hash) := by
  cases hread : GetBlockAtTip blockRlp
      (writeBlockByHeight blockRlp (writeBlockByHash blockRlp db header) header) with
  | error e =>
    by_cases he : e = ErrNotFound
    · exact .inr (by simp [AddBlock, hread, he])
    · exact .inl (by simp [AddBlock, hread, he])
  | ok tip =>
    by_cases hlt : tip.number < header.number
    · exact .inr (by simp [AddBlock, hread, hlt])
    · exact .inl (by simp [AddBlock, hread, hlt]; rfl)

/-! ## Runs -/

variable (blockRlp) in
/-- `AddBlock` called on each header in turn, as the guardian does for each L1 block it
submits, whatever each call returns. -/
def AddBlocks (db : DB) (headers : List L1Block) : DB :=
  headers.foldl (fun db header => (AddBlock blockRlp db header).2) db

/-- Every run of headers with 64-bit heights, one header per hash, appends them, one call at a
time. -/
theorem RepresentsBlocks.AddBlocks {db : DB} {added : List L1Block}
    (hr : RepresentsBlocks blockRlp db added) :
    ∀ headers : List L1Block, (∀ h ∈ headers, h.number < 2 ^ 64) →
      (∀ a ∈ added ++ headers, ∀ b ∈ added ++ headers, a.hash = b.hash → a = b) →
      RepresentsBlocks blockRlp (HostDB.AddBlocks blockRlp db headers) (added ++ headers)
  | [], _, _ => by simpa [HostDB.AddBlocks] using hr
  | header :: headers, hnum, hinj => by
    have hstep := (AddBlock_represents hr (hnum header (List.mem_cons_self ..))
      fun a ha hab => hinj a (by simp [ha]) header (by simp) hab).2
    have hrun := hstep.AddBlocks headers (fun h hh => hnum h (List.mem_cons_of_mem _ hh))
      (by simpa using hinj)
    simpa [HostDB.AddBlocks] using hrun

end Abstract

end Obscuro.HostDB
