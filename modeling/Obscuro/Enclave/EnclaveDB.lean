import Obscuro.Common.Types
import Obscuro.Lib.ParentWalk
import Obscuro.Lib.ExceptBind

/-!
# The enclave database: blocks, batches and their canonical flags

`go/enclave/storage/enclavedb/block.go`, the batch row of
`go/enclave/storage/enclavedb/batch.go` and `storageImpl.StoreBlock` of
`go/enclave/storage/storage.go`. The `block` and `batch` tables are lists of rows in insertion
order; a query that returns one row returns the first that matches. A `DBTransaction` runs
its statements in order when written and is atomic, so a store that fails leaves the tables
as they were.

Only the columns that the canonical flags involve are kept: a block row's header and flag,
and a batch row's hash, L1 proof and flag.
-/

namespace Obscuro.EnclaveDB

open ParentWalk

/-- A row of the `block` table. -/
structure BlockRow where
  header : L1Block
  isCanonical : Bool
  deriving DecidableEq, Repr

/-- A row of the `batch` table. -/
structure BatchRow where
  hash : L2BatchHash
  l1Proof : L1BlockHash
  isCanonical : Bool
  deriving DecidableEq, Repr

/-- The `block` and `batch` tables. -/
structure DB where
  blocks : List BlockRow
  batches : List BatchRow
  deriving DecidableEq, Repr

/-- The empty database. -/
def DB.empty : DB := ⟨[], []⟩

/-- `FetchBlock(hash)`: `select header from block where hash=?`. -/
def FetchBlock (db : DB) (hash : L1BlockHash) : Except String L1Block :=
  match db.blocks.find? (·.header.hash = hash) with
  | some r => .ok r.header
  | none => .error ErrNotFound

/-- The stored blocks as parent links. -/
def DB.links (db : DB) : Links String L1BlockHash L1Block :=
  ⟨FetchBlock db, L1Block.parentHash, L1Block.number⟩

/-- `FetchHeadBlock`: a canonical block of the greatest canonical height. -/
def FetchHeadBlock (db : DB) : Except String L1Block :=
  let canon := db.blocks.filter (·.isCanonical)
  match (canon.map (·.header.number)).max? with
  | none => .error ErrNotFound
  | some height =>
    match canon.find? (·.header.number = height) with
    | some r => .ok r.header
    | none => .error ErrNotFound

/-- `updateCanonicalValue(dbtx, isCanonical, values)`: set the flag of the blocks with these
hashes and of the batches with these L1 proofs. -/
def updateCanonicalValue (isCanonical : Bool) (values : List L1BlockHash) (db : DB) : DB :=
  { blocks := db.blocks.map fun r =>
      if r.header.hash ∈ values then { r with isCanonical := isCanonical } else r
    batches := db.batches.map fun r =>
      if r.l1Proof ∈ values then { r with isCanonical := isCanonical } else r }

/-- `UpdateCanonicalBlocks(dbtx, canonical, nonCanonical)`: first clear, then set. -/
def UpdateCanonicalBlocks (canonical nonCanonical : List L1BlockHash) (db : DB) : DB :=
  let db := if nonCanonical ≠ [] then updateCanonicalValue false nonCanonical db else db
  if canonical ≠ [] then updateCanonicalValue true canonical db else db

/-- `WriteBlock(dbtx, header)`: insert the block as canonical. The hash is the primary key. -/
def WriteBlock (b : L1Block) (db : DB) : Except String DB :=
  if db.blocks.any (·.header.hash = b.hash) then .error "UNIQUE constraint failed: block.hash"
  else .ok { db with blocks := db.blocks ++ [⟨b, true⟩] }

/-- `common.ChainFork`: what `LCA` found between a new block and the old head. -/
structure ChainFork where
  NewCanonical : L1Block
  OldCanonical : L1Block
  CommonAncestor : L1Block
  CanonicalPath : List L1BlockHash
  NonCanonicalPath : List L1BlockHash
  deriving DecidableEq, Repr

/-- `ChainFork.IsFork()`: some block stops being canonical. -/
def ChainFork.IsFork (cf : ChainFork) : Bool := cf.NonCanonicalPath ≠ []

/-- `storageImpl.StoreBlock(b, chainFork)`: on a fork, flip the flags of both paths; mark as
canonical the batches written before the block arrived; insert the block. -/
def StoreBlock (b : L1Block) (chainFork : Option ChainFork) (db : DB) : Except String DB :=
  let db :=
    match chainFork with
    | some cf => if cf.IsFork then UpdateCanonicalBlocks cf.CanonicalPath cf.NonCanonicalPath db
      else db
    | none => db
  let db := UpdateCanonicalBlocks [b.hash] [] db
  (WriteBlock b db).mapError fun err =>
    "3. could not store block " ++ b.hash.Hex ++ ". Cause: " ++ err

/-- `WriteBatchAndTransactions`: insert the batch with the flag of its L1 proof block, or as
non-canonical when that block is not stored yet. The hash is the primary key. -/
def WriteBatchAndTransactions {Tx : Type} (rlpHash : BatchHeader → Hash) (batch : Batch Tx)
    (db : DB) : Except String DB :=
  let isCanon :=
    match db.blocks.find? (·.header.hash = batch.Header.L1Proof) with
    | some r => r.isCanonical
    | none => false
  if db.batches.any (·.hash = batch.Hash rlpHash) then .error "UNIQUE constraint failed: batch.hash"
  else .ok { db with batches := db.batches ++ [⟨batch.Hash rlpHash, batch.Header.L1Proof, isCanon⟩] }

end Obscuro.EnclaveDB
