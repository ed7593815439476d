import Obscuro.Common.Types
import Obscuro.Lib.ExceptBind
import Obscuro.Lib.WriteLog

/-!
# The SQL-backed write batch

`dbTransaction` of `go/enclave/storage/enclavedb/db_transaction.go`, the `ethdb.Batch` that
geth's trie and state databases write through, over the `keyvalue` table of
`go/enclave/storage/enclavedb/keyvalue.go`.

A transaction records puts and deletes, and statements queued by `ExecuteSQL`. `Write` opens
one SQL transaction and sends it one multi-row `replace` for all the puts, then one `delete`
per deleted key, then the statements, and commits. A query that fails ends `Write` with its
error; Go returns without `Rollback`, and a transaction that never commits leaves the
database as it was. The SQL database is a parameter: `SQL.Sound` states what SQL documents
of the queries `Write` sends, and the results about the table assume it.

Main results:

* `Write_error` — a `Write` that fails leaves the database unchanged;
* `Write_keyvalue` — a `Write` that succeeds applies all the puts in order, then all the
  deletes;
* `Write_eq_applyAll` — when no key is put after it was deleted, that is the table of the
  writes applied one by one;
* `Write_putAfterDelete` — a key deleted and then put is absent after `Write`, where one by
  one it holds the value put;
* `Replay_calls` — `Replay` hands a writer the recorded calls, in order.
-/

namespace Obscuro.DBTransaction

open WriteLog

/-- `keyvalue`: a recorded write, flagged when it is a delete. -/
structure keyvalue where
  key : Bytes
  value : Bytes
  delete : Bool
  deriving DecidableEq, Repr

/-- `statement`: a query queued by `ExecuteSQL`, with its arguments. -/
structure statement (Arg : Type) where
  query : String
  args : List Arg

/-- `dbTransaction`: the writes and statements recorded so far, and the bytes the writes
carry. The database it writes to is passed to `Write`. -/
structure dbTransaction (Arg : Type) where
  writes : List keyvalue
  statements : List (statement Arg)
  size : Nat

/-- The database a transaction writes to: the `keyvalue` table (`ky` is its primary key) and
the other tables. -/
structure DB (σ : Type) where
  keyvalue : Bytes → Option Bytes
  tables : σ

/-- A query `Write` sends inside its SQL transaction. -/
inductive Query (Arg : Type) where
  /-- `replace into keyvalue values(?,?),…` with one `(?,?)` per row. -/
  | replace (rows : List (Bytes × Bytes))
  /-- `delete from keyvalue where keyvalue.ky = ?;` -/
  | delete (key : Bytes)
  /-- A statement queued by `ExecuteSQL`. -/
  | exec (s : statement Arg)

/-- The SQL database behind `EnclaveDB.BeginTx`: opening a transaction, running a query in
it, and committing it; each may fail. -/
structure SQL (σ Arg : Type) where
  Begin : DB σ → Except String Unit
  Exec : Query Arg → DB σ → Except String (DB σ)
  Commit : DB σ → Except String Unit

/-- What SQL documents of the queries `Write` sends, when they succeed: a multi-row
`replace` writes its rows in order, so the last row for a key wins (SQLite and MySQL alike);
a `delete` removes its key; the statements queued by `ExecuteSQL` (`block.go`, `batch.go`,
`events.go`, `config.go`) write other tables. -/
structure SQL.Sound {σ Arg : Type} (sql : SQL σ Arg) : Prop where
  replace : ∀ {rows : List (Bytes × Bytes)} {db db' : DB σ},
    sql.Exec (.replace rows) db = .ok db' →
      db'.keyvalue = applyAll (rows.map fun r => .put r.1 r.2) db.keyvalue
  delete : ∀ {key : Bytes} {db db' : DB σ}, sql.Exec (.delete key) db = .ok db' →
    db'.keyvalue = Function.update db.keyvalue key none
  exec : ∀ {s : statement Arg} {db db' : DB σ}, sql.Exec (.exec s) db = .ok db' →
    db'.keyvalue = db.keyvalue

/-- `fmt`'s `%v` of a slice: the elements' renderings, space-separated, in brackets. -/
def fmtSlice (xs : List String) : String := "[" ++ " ".intercalate xs ++ "]"

/-- `%v` of a `[]byte`: its bytes in decimal. -/
def fmtBytes (b : Bytes) : String := fmtSlice (b.map fun x => toString x.toNat)

variable {Arg σ ω : Type}

namespace dbTransaction

/-- `enclaveDB.NewBatch()`, `NewDBTransaction()`. -/
def NewBatch : dbTransaction Arg := ⟨[], [], 0⟩

/-- `ExecuteSQL(query, args...)`. -/
def ExecuteSQL (b : dbTransaction Arg) (query : String) (args : List Arg) : dbTransaction Arg :=
  { b with statements := b.statements ++ [⟨query, args⟩] }

/-- `Put(key, value)`. -/
def Put (b : dbTransaction Arg) (key value : Bytes) : dbTransaction Arg :=
  { b with
    writes := b.writes ++ [⟨key, value, false⟩]
    size := b.size + key.length + value.length }

/-- `Delete(key)`: the recorded value is `nil`. -/
def Delete (b : dbTransaction Arg) (key : Bytes) : dbTransaction Arg :=
  { b with writes := b.writes ++ [⟨key, [], true⟩], size := b.size + key.length }

/-- `ValueSize()`. -/
def ValueSize (b : dbTransaction Arg) : Nat := b.size

/-- `Reset()`. -/
def Reset (_ : dbTransaction Arg) : dbTransaction Arg := ⟨[], [], 0⟩

end dbTransaction

open dbTransaction

/-- `PutKeyValues(tx, keys, vals)`: one `replace` for all the rows, its arguments the keys and
values interleaved. -/
def PutKeyValues (sql : SQL σ Arg) (db : DB σ) (keys vals : List Bytes) : Except String (DB σ) :=
  if keys.length ≠ vals.length then .error "invalid command. should not happen"
  else if 0 < keys.length then
    match sql.Exec (.replace (keys.zip vals)) db with
    | .ok db => .ok db
    | .error err =>
      let values := (keys.zip vals).flatMap fun r => [r.1, r.2]
      .error ("failed to exec k/v transaction statement. kv=" ++ fmtSlice (values.map fmtBytes) ++
        ", err=" ++ err)
  else .ok db

/-- `DeleteKeys(tx, keys)`: one `delete` per key, in order. -/
def DeleteKeys (sql : SQL σ Arg) : List Bytes → DB σ → Except String (DB σ)
  | [], db => .ok db
  | del :: keys, db => do
    let db ← sql.Exec (.delete del) db
    DeleteKeys sql keys db

/-- The loop of `Write` over the queued statements. -/
def execStatements [ToString Arg] (sql : SQL σ Arg) :
    List (statement Arg) → DB σ → Except String (DB σ)
  | [], db => .ok db
  | s :: statements, db =>
    match sql.Exec (.exec s) db with
    | .error err =>
      .error ("failed to exec db statement `" ++ s.query ++ "` (" ++
        fmtSlice (s.args.map toString) ++ "). Cause: " ++ err)
    | .ok db => execStatements sql statements db

/-- The loop of `Write` that sorts the writes into the deleted keys, and the keys and the
values put, each in the order recorded. -/
def splitWrites : List keyvalue → List Bytes × List Bytes × List Bytes
  | [] => ([], [], [])
  | kv :: writes =>
    let (deletes, updateKeys, updateValues) := splitWrites writes
    if kv.delete then (kv.key :: deletes, updateKeys, updateValues)
    else (deletes, kv.key :: updateKeys, kv.value :: updateValues)

/-- The SQL transaction of `Write`, up to its commit: the database the commit makes
durable. -/
def writeTx [ToString Arg] (sql : SQL σ Arg) (b : dbTransaction Arg) (db : DB σ) :
    Except String (DB σ) := do
  (sql.Begin db).mapError ("failed to create batch transaction - " ++ ·)
  let (deletes, updateKeys, updateValues) := splitWrites b.writes
  let db ← (PutKeyValues sql db updateKeys updateValues).mapError
    ("failed to put key/value. Cause " ++ ·)
  let db ← (DeleteKeys sql deletes db).mapError ("failed to delete keys. Cause " ++ ·)
  let db ← execStatements sql b.statements db
  (sql.Commit db).mapError ("failed to commit batch of writes. Cause: " ++ ·)
  pure db

/-- `Write()`: the outcome, and the database after it. -/
def Write [ToString Arg] (sql : SQL σ Arg) (b : dbTransaction Arg) (db : DB σ) :
    Except String Unit × DB σ :=
  match writeTx sql b db with
  | .ok db' => (.ok (), db')
  | .error err => (.error err, db)

/-- `ethdb.KeyValueWriter`: a store that takes puts and deletes one at a time. -/
structure KeyValueWriter (ω : Type) where
  Put : Bytes → Bytes → ω → Except String ω
  Delete : Bytes → ω → Except String ω

/-- The loop of `Replay` over the recorded writes; the first error stops it. -/
def replayWrites (w : KeyValueWriter ω) : List keyvalue → ω → Except String ω
  | [], s => .ok s
  | kv :: writes, s => do
    let s ← if kv.delete then w.Delete kv.key s else w.Put kv.key kv.value s
    replayWrites w writes s

/-- `Replay(w)`. -/
def Replay (b : dbTransaction Arg) (w : KeyValueWriter ω) (s : ω) : Except String ω :=
  replayWrites w b.writes s

/-! ## Calls and recorded writes -/

/-- The abstract write a record stands for. -/
def keyvalue.toOp (kv : keyvalue) : Op Bytes Bytes :=
  if kv.delete then .delete kv.key else .put kv.key kv.value

theorem keyvalue.toOp_of_delete {kv : keyvalue} (h : kv.delete = true) :
    kv.toOp = .delete kv.key := by
  simp [keyvalue.toOp, h]

theorem keyvalue.toOp_of_not_delete {kv : keyvalue} (h : kv.delete = false) :
    kv.toOp = .put kv.key kv.value := by
  simp [keyvalue.toOp, h]

/-- The transaction after the calls `ops` of `Put` and `Delete`, in order. -/
def dbTransaction.calls (b : dbTransaction Arg) : List (Op Bytes Bytes) → dbTransaction Arg
  | [] => b
  | .put key value :: ops => (b.Put key value).calls ops
  | .delete key :: ops => (b.Delete key).calls ops

/-- A writer's answer to one abstract write. -/
def KeyValueWriter.apply (w : KeyValueWriter ω) : Op Bytes Bytes → ω → Except String ω
  | .put key value, s => w.Put key value s
  | .delete key, s => w.Delete key s

/-- The calls are recorded in order, each as the write it stands for. -/
theorem writes_calls (b : dbTransaction Arg) :
    ∀ ops : List (Op Bytes Bytes), ((b.calls ops).writes.map keyvalue.toOp) =
      b.writes.map keyvalue.toOp ++ ops
  | [] => (List.append_nil _).symm
  | .put key value :: ops => by
    rw [calls, writes_calls (b.Put key value) ops]
    simp [dbTransaction.Put, keyvalue.toOp]
  | .delete key :: ops => by
    rw [calls, writes_calls (b.Delete key) ops]
    simp [dbTransaction.Delete, keyvalue.toOp]

/-- Puts and deletes leave the queued statements alone. -/
theorem statements_calls (b : dbTransaction Arg) :
    ∀ ops : List (Op Bytes Bytes), (b.calls ops).statements = b.statements
  | [] => rfl
  | .put key value :: ops => statements_calls (b.Put key value) ops
  | .delete key :: ops => statements_calls (b.Delete key) ops

/-- `Replay` answers each record with the writer's call for the write it stands for. -/
theorem replayWrites_eq_foldlM (w : KeyValueWriter ω) :
    ∀ (writes : List keyvalue) (s : ω),
      replayWrites w writes s = (writes.map keyvalue.toOp).foldlM (fun s op => w.apply op s) s
  | [], s => rfl
  | kv :: writes, s => by
    rw [replayWrites, List.map_cons, List.foldlM_cons]
    cases hkv : kv.delete
    · simp only [Bool.false_eq_true, if_false, keyvalue.toOp_of_not_delete hkv,
        KeyValueWriter.apply, replayWrites_eq_foldlM w writes]
    · simp only [if_true, keyvalue.toOp_of_delete hkv, KeyValueWriter.apply,
        replayWrites_eq_foldlM w writes]

/-- **Replay.** Replaying a transaction into any writer makes the writer's calls for the
writes recorded before, then for the calls `ops`, in order, stopping at the first error. -/
theorem Replay_calls (b : dbTransaction Arg) (ops : List (Op Bytes Bytes))
    (w : KeyValueWriter ω) (s : ω) :
    Replay (b.calls ops) w s =
      (b.writes.map keyvalue.toOp ++ ops).foldlM (fun s op => w.apply op s) s := by
  rw [Replay, replayWrites_eq_foldlM, writes_calls]

/-! ## Sorting the writes -/

/-- The keys and the values put are as many. -/
theorem splitWrites_length : ∀ writes : List keyvalue,
    (splitWrites writes).2.1.length = (splitWrites writes).2.2.length
  | [] => rfl
  | kv :: writes => by
    have ih := splitWrites_length writes
    unfold splitWrites
    cases kv.delete
    · simpa using ih
    · simpa using ih

/-- The rows of the `replace` are the puts, in order. -/
theorem splitWrites_puts : ∀ writes : List keyvalue,
    ((splitWrites writes).2.1.zip (splitWrites writes).2.2).map (fun r => Op.put r.1 r.2) =
      (writes.map keyvalue.toOp).filter (·.isPut)
  | [] => rfl
  | kv :: writes => by
    have ih := splitWrites_puts writes
    unfold splitWrites
    cases hkv : kv.delete
    · simp [keyvalue.toOp_of_not_delete hkv, ih, List.filter_cons]
    · simp [keyvalue.toOp_of_delete hkv, ih]

/-- The deleted keys are the deletes, in order. -/
theorem splitWrites_deletes : ∀ writes : List keyvalue,
    (splitWrites writes).1.map Op.delete =
      (writes.map keyvalue.toOp).filter (fun op : Op Bytes Bytes => !op.isPut)
  | [] => rfl
  | kv :: writes => by
    have ih := splitWrites_deletes writes
    unfold splitWrites
    cases hkv : kv.delete
    · simp [keyvalue.toOp_of_not_delete hkv, ih]
    · simp [keyvalue.toOp_of_delete hkv, ih]

/-! ## What `Write` does to the table -/

section Sound

variable {sql : SQL σ Arg}

/-- **A failed `Write` changes nothing.** -/
theorem Write_error [ToString Arg] {b : dbTransaction Arg} {db db' : DB σ} {err : String}
    (h : Write sql b db = (.error err, db')) : db' = db := by
  unfold Write at h
  split at h
  · cases h
  · cases h
    rfl

variable (hsql : sql.Sound)
include hsql

/-- The `replace` writes its rows in order. -/
theorem PutKeyValues_keyvalue {db db' : DB σ} {keys vals : List Bytes}
    (h : PutKeyValues sql db keys vals = .ok db') :
    db'.keyvalue = applyAll ((keys.zip vals).map fun r => .put r.1 r.2) db.keyvalue := by
  unfold PutKeyValues at h
  split at h
  · cases h
  · split at h
    · split at h
      · -- the multi-row `replace` succeeded
        rename_i hexec
        cases h
        exact hsql.replace hexec
      · cases h
    · -- no put: no query is sent
      cases h
      have hnil : keys = [] := List.eq_nil_of_length_eq_zero (by omega)
      simp [hnil]

/-- The deletes remove their keys, in order. -/
theorem DeleteKeys_keyvalue : ∀ {keys : List Bytes} {db db' : DB σ},
    DeleteKeys sql keys db = .ok db' →
      db'.keyvalue = applyAll (keys.map Op.delete) db.keyvalue
  | [], db, db', h => by
    cases h
    rfl
  | del :: keys, db, db', h => by
    obtain ⟨db₁, hdel, h⟩ := Except.bind_eq_ok.mp h
    rw [DeleteKeys_keyvalue h, hsql.delete hdel]
    rfl

/-- The queued statements leave the table alone. -/
theorem execStatements_keyvalue [ToString Arg] :
    ∀ {statements : List (statement Arg)} {db db' : DB σ},
      execStatements sql statements db = .ok db' → db'.keyvalue = db.keyvalue
  | [], db, db', h => by
    cases h
    rfl
  | s :: statements, db, db', h => by
    unfold execStatements at h
    split at h
    · cases h
    · rename_i db₁ hexec
      rw [execStatements_keyvalue h, hsql.exec hexec]

/-- **What a successful `Write` commits.** All the puts, in order, then all the deletes. -/
theorem Write_keyvalue [ToString Arg] {b : dbTransaction Arg} {db db' : DB σ}
    (h : Write sql b db = (.ok (), db')) :
    db'.keyvalue = applyAll ((b.writes.map keyvalue.toOp).filter fun op => !op.isPut)
      (applyAll ((b.writes.map keyvalue.toOp).filter (·.isPut)) db.keyvalue) := by
  unfold Write at h
  split at h
  · rename_i db₁ htx
    cases h
    unfold writeTx at htx
    obtain ⟨-, -, htx⟩ := Except.bind_eq_ok.mp htx
    obtain ⟨db₂, hput, htx⟩ := Except.bind_eq_ok.mp htx
    obtain ⟨db₃, hdel, htx⟩ := Except.bind_eq_ok.mp htx
    obtain ⟨db₄, hexec, htx⟩ := Except.bind_eq_ok.mp htx
    obtain ⟨-, -, htx⟩ := Except.bind_eq_ok.mp htx
    cases htx
    have hput := PutKeyValues_keyvalue hsql (Except.mapError_eq_ok.mp hput)
    have hdel := DeleteKeys_keyvalue hsql (Except.mapError_eq_ok.mp hdel)
    rw [execStatements_keyvalue hsql hexec, hdel, hput, splitWrites_puts, splitWrites_deletes]
  · cases h

/-- **`Write` agrees with the writes one by one** when no key is put after it was deleted. -/
theorem Write_eq_applyAll [ToString Arg] {b : dbTransaction Arg} {db db' : DB σ}
    (hlog : NoPutAfterDelete (b.writes.map keyvalue.toOp))
    (h : Write sql b db = (.ok (), db')) :
    db'.keyvalue = applyAll (b.writes.map keyvalue.toOp) db.keyvalue := by
  rw [Write_keyvalue hsql h, applyAll_eq_puts_deletes _ _ hlog]

/-- **A put after a delete is lost.** On any transaction, a `Delete(key)` followed by a
`Put(key, value)` leaves the key absent after a successful `Write`, where the writes applied
one by one leave it holding `value`. -/
theorem Write_putAfterDelete [ToString Arg] (b : dbTransaction Arg) (db : DB σ) (key value : Bytes)
    (h : (Write sql ((b.Delete key).Put key value) db).1 = .ok ()) :
    (Write sql ((b.Delete key).Put key value) db).2.keyvalue key = none ∧
      applyAll (((b.Delete key).Put key value).writes.map keyvalue.toOp) db.keyvalue key =
        some value := by
  have hwrites : ((b.Delete key).Put key value).writes.map keyvalue.toOp =
      b.writes.map keyvalue.toOp ++ [.delete key, .put key value] :=
    writes_calls b [.delete key, .put key value]
  constructor
  · -- `Write` deletes after it puts, so the delete has the last word
    have hok := Write_keyvalue hsql (Prod.ext h rfl)
    rw [hok, hwrites]
    apply applyAll_deletes_of_mem
    · intro op hop
      simpa using (List.mem_filter.mp hop).2
    · rw [List.mem_filter]
      exact ⟨by simp, rfl⟩
  · rw [hwrites, applyAll_append]
    exact Function.update_self key _ _

end Sound

/-- A SQL database on which no query fails, each doing what `SQL.Sound` says; `exec` is what
the queued statements do to the other tables. -/
def reliableSQL (exec : statement Arg → σ → σ) : SQL σ Arg where
  Begin _ := .ok ()
  Exec
    | .replace rows, db =>
      .ok { db with keyvalue := applyAll (rows.map fun r => .put r.1 r.2) db.keyvalue }
    | .delete key, db => .ok { db with keyvalue := Function.update db.keyvalue key none }
    | .exec s, db => .ok { db with tables := exec s db.tables }
  Commit _ := .ok ()

theorem reliableSQL_sound (exec : statement Arg → σ → σ) : (reliableSQL exec).Sound where
  replace h := by
    cases h
    rfl
  delete h := by
    cases h
    rfl
  exec h := by
    cases h
    rfl

/-- On a fresh transaction and an empty table, `Delete([1])` then `Put([1], [2])` writes
successfully and leaves the key `[1]` absent. -/
theorem Write_putAfterDelete_fresh :
    (Write (reliableSQL fun _ _ => ()) (((NewBatch : dbTransaction String).Delete [1]).Put [1] [2])
        (⟨fun _ => none, ()⟩ : DB Unit)).1 = .ok () ∧
      ((Write (reliableSQL fun _ _ => ())
          (((NewBatch : dbTransaction String).Delete [1]).Put [1] [2])
          (⟨fun _ => none, ()⟩ : DB Unit)).2.keyvalue [1] = none ∧
        applyAll ((((NewBatch : dbTransaction String).Delete [1]).Put [1] [2]).writes.map
          keyvalue.toOp) (fun _ => none) [1] = some [2]) := by
  have hok : (Write (reliableSQL fun _ _ => ())
      (((NewBatch : dbTransaction String).Delete [1]).Put [1] [2])
      (⟨fun _ => none, ()⟩ : DB Unit)).1 = .ok () := rfl
  exact ⟨hok, Write_putAfterDelete (reliableSQL_sound _) _ _ [1] [2] hok⟩

/-- A put, a delete of the same key and a put of another key, on a fresh transaction and an
empty table, write what applying them one by one writes. -/
theorem Write_eq_applyAll_putDeletePut :
    (Write (reliableSQL fun _ _ => ())
        ((((NewBatch : dbTransaction String).Put [1] [2]).Delete [1]).Put [3] [4])
        (⟨fun _ => none, ()⟩ : DB Unit)).2.keyvalue =
      applyAll (((((NewBatch : dbTransaction String).Put [1] [2]).Delete [1]).Put [3] [4]).writes.map
        keyvalue.toOp) (fun _ => none) := by
  have hok : (Write (reliableSQL fun _ _ => ())
      ((((NewBatch : dbTransaction String).Put [1] [2]).Delete [1]).Put [3] [4])
      (⟨fun _ => none, ()⟩ : DB Unit)).1 = .ok () := rfl
  exact Write_eq_applyAll (reliableSQL_sound _) (by decide) (Prod.ext hok rfl)

end Obscuro.DBTransaction
