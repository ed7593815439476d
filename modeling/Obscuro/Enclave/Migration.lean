import Obscuro.Common.Types
import Obscuro.Lib.GoInt
import Obscuro.Lib.ExceptBind

/-!
# Schema migration of the enclave database

`go/enclave/storage/init/migration/db_migration.go`, over the `config` table of
`go/enclave/storage/enclavedb/config.go`, as `CreateTemporarySQLiteDB`
(`go/enclave/storage/init/sqlite/sqlite.go`) runs it at every start of the enclave.

A database is the schema that the migration files act on, and the rows of `config`, whose
key `ky` is the primary key. The embedded `*.sql` files are a list of (name, content) pairs,
in the order `ReadDir` lists them; what a file's statements do to the schema is a parameter
`exec`. The migration files of the repository do not touch `config`. The stored marker
`CURRENT_FILE` holds `big.NewInt(i).Bytes()` for the index `i` of the last file run.

Main results:

* `readMigrationFiles_eq_ok` — the accepted files are numbered `1, 2, …` in the order
  returned;
* `ByteArrayToInt_bigBytes` — the marker reads back as the index written;
* `DBMigration_of_marker` — once a marker is stored, a start that has a file left to run
  fails and changes nothing;
* `DBMigration_of_applied` — a start with no file left to run succeeds and changes nothing;
* `DBMigration_restartFails` — with two files or more, every start after the first fails.
-/

namespace Obscuro.Migration

variable {σ : Type}

/-- The enclave database: the schema the migration files act on, and the `config` rows. -/
structure DB (σ : Type) where
  schema : σ
  config : List (String × Bytes)

/-- `currentFileKey`. -/
def currentFileKey : String := "CURRENT_FILE"

/-- `enclavedb.FetchConfig(db, key)`: `select val from config where ky=?`. -/
def FetchConfig (db : DB σ) (key : String) : Except String Bytes :=
  match db.config.lookup key with
  | some val => .ok val
  | none => .error ErrNotFound

/-- `enclavedb.WriteConfigToTx(tx, key, value)`: `insert into config values (?,?)`, which
the primary key on `ky` rejects when the key is stored. -/
def WriteConfigToTx (config : List (String × Bytes)) (key : String) (value : Bytes) :
    Except String (List (String × Bytes)) :=
  if (config.lookup key).isSome then .error "UNIQUE constraint failed: config.ky"
  else .ok (config ++ [(key, value)])

/-- `ByteArrayToInt(arr)`: `new(big.Int).SetBytes(arr).Int64()`. -/
def ByteArrayToInt (arr : Bytes) : Int64 := Go.bigInt64 (Go.setBytes arr)

/-- `getPrefix(file)`: the number before the first `_` of the file's name (all of it when
there is none); a name whose prefix is not a number panics. -/
def getPrefix (name : String) : Except String Int :=
  match Go.Atoi (String.ofList (name.toList.takeWhile (· ≠ '_'))) with
  | some number => .ok number
  | none => .error "Invalid db migration file"

/-- `readMigrationFiles(sqlFiles)`: the files' names sorted by prefix, which must then run
`1, 2, …` without a gap; a gap panics. Go's `sort.Slice` reads the prefixes inside its
comparison, here they are read first: an unreadable prefix panics either way, and the two
sorts differ only among equal prefixes, which the consecutive check rejects. -/
def readMigrationFiles (sqlFiles : List (String × String)) : Except String (List String) := do
  let prefixed ← sqlFiles.mapM fun f => (getPrefix f.1).map fun number => (number, f.1)
  let migrationFiles := prefixed.insertionSort fun a b => a.1 ≤ b.1
  -- sanity check the consecutive rule
  if migrationFiles.zipIdx.all fun (f, i) => f.1 = i + 1 then
    pure (migrationFiles.map (·.2))
  else throw "Invalid migration file. Missing index"

/-- `sqlFiles.ReadFile(name)`. -/
def ReadFile (sqlFiles : List (String × String)) (name : String) : Except String String :=
  match sqlFiles.lookup name with
  | some content => .ok content
  | none => .error ("open " ++ name ++ ": file does not exist")

/-- `executeMigration(db, content, migrationOrder)`: in one transaction, the file's
statements and the insert of the marker `big.NewInt(migrationOrder).Bytes()`. The
transaction commits only when both succeed; Go returns on an error without `Rollback`, and a
transaction that never commits leaves the database as it was. -/
def executeMigration (exec : String → σ → Except String σ) (db : DB σ) (content : String)
    (migrationOrder : Int) : Except String (DB σ) := do
  let schema ← exec content db.schema
  let config ← WriteConfigToTx db.config currentFileKey (Go.bigBytes migrationOrder.natAbs)
  pure ⟨schema, config⟩

/-- The loop of `DBMigration`, `for i := maxDB; i < maxMigration; i++`, run `count` times
from `i`. Every iteration that succeeds has committed; the first that fails ends the start,
with the database that the iterations before it left. -/
def migrationLoop (exec : String → σ → Except String σ) (sqlFiles : List (String × String))
    (migrationFiles : List String) : Int → Nat → DB σ → Except String Unit × DB σ
  | _, 0, db => (.ok (), db)
  | i, count + 1, db =>
    -- `migrationFiles[i]` panics on a negative index
    match (if 0 ≤ i then migrationFiles[i.toNat]? else none) with
    | none => (.error "index out of range", db)
    | some name =>
      match ReadFile sqlFiles name >>= fun content => executeMigration exec db content i with
      | .error err => (.error err, db)
      | .ok db' => migrationLoop exec sqlFiles migrationFiles (i + 1) count db'

/-- `DBMigration(db, sqlFiles, logger)`: the outcome of one start, and the database it
leaves. With no marker stored, file `001` is taken to be applied already, so the loop
starts at index `1`. -/
def DBMigration (exec : String → σ → Except String σ) (sqlFiles : List (String × String))
    (db : DB σ) : Except String Unit × DB σ :=
  match readMigrationFiles sqlFiles with
  | .error err => (.error err, db)
  | .ok migrationFiles =>
    let maxMigration : Int := migrationFiles.length
    let maxDB : Except String Int :=
      match FetchConfig db currentFileKey with
      -- first time there is no entry, so we assume 001 was executed already
      | .error err => if err = ErrNotFound then .ok 1 else .error err
      | .ok config => .ok (ByteArrayToInt config).toInt
    match maxDB with
    | .error err => (.error err, db)
    | .ok maxDB =>
      migrationLoop exec sqlFiles migrationFiles maxDB (maxMigration - maxDB).toNat db

/-- The database after `k` starts of the enclave, each running `DBMigration` on what the
previous one left (`CreateTemporarySQLiteDB` on an existing file skips `initialiseDB`). -/
def restarts (exec : String → σ → Except String σ) (sqlFiles : List (String × String)) :
    Nat → DB σ → DB σ
  | 0, db => db
  | k + 1, db => restarts exec sqlFiles k (DBMigration exec sqlFiles db).2

/-! ## The files -/

/-- Reading the prefixes keeps the names, in order, each with its prefix. -/
theorem prefixed_eq_ok :
    ∀ {sqlFiles : List (String × String)} {prefixed : List (Int × String)},
      sqlFiles.mapM (fun f => (getPrefix f.1).map fun number => (number, f.1)) = .ok prefixed →
      prefixed.map (·.2) = sqlFiles.map (·.1) ∧ ∀ q ∈ prefixed, getPrefix q.2 = .ok q.1
  | [], _, h => by
    cases h
    exact ⟨rfl, fun _ hq => by cases hq⟩
  | f :: sqlFiles, prefixed, h => by
    rw [List.mapM_cons] at h
    obtain ⟨q, hq, h⟩ := Except.bind_eq_ok.mp h
    obtain ⟨rest, hrest, h⟩ := Except.bind_eq_ok.mp h
    cases h
    obtain ⟨number, hnumber, rfl⟩ := Except.map_eq_ok.mp hq
    obtain ⟨hnames, hprefixes⟩ := prefixed_eq_ok hrest
    refine ⟨by simp [hnames], ?_⟩
    rintro q (_ | ⟨_, hq⟩)
    · exact hnumber
    · exact hprefixes q hq

/-- **Accepted files are numbered in order.** The files `readMigrationFiles` returns are the
embedded ones, and the one at index `i` has the prefix `i + 1`. -/
theorem readMigrationFiles_eq_ok {sqlFiles : List (String × String)}
    {migrationFiles : List String} (h : readMigrationFiles sqlFiles = .ok migrationFiles) :
    migrationFiles.Perm (sqlFiles.map (·.1)) ∧
      ∀ (i : Nat) (hi : i < migrationFiles.length), getPrefix migrationFiles[i] = .ok (i + 1) := by
  unfold readMigrationFiles at h
  obtain ⟨prefixed, hpre, h⟩ := Except.bind_eq_ok.mp h
  obtain ⟨hnames, hprefixes⟩ := prefixed_eq_ok hpre
  dsimp only at h
  split at h
  case isFalse => cases h
  case isTrue hconsecutive =>
    cases h
    set sorted := prefixed.insertionSort fun a b => a.1 ≤ b.1
    have hperm : sorted.Perm prefixed := List.perm_insertionSort _ prefixed
    refine ⟨hnames ▸ hperm.map _, fun i hi => ?_⟩
    have hi' : i < sorted.length := by simpa using hi
    -- the entry at `i` read its prefix, and the check put `i + 1` there
    have hread : getPrefix sorted[i].2 = .ok sorted[i].1 :=
      hprefixes _ (hperm.subset (List.getElem_mem hi'))
    have hnumber : sorted[i].1 = i + 1 := by
      have hmem : (sorted[i], i) ∈ sorted.zipIdx :=
        List.mem_zipIdx_iff_getElem?.mpr (List.getElem?_eq_getElem hi')
      simpa using List.all_eq_true.mp hconsecutive _ hmem
    rw [List.getElem_map, hread, hnumber]

/-! ## The marker -/

/-- **The marker reads back.** `ByteArrayToInt(big.NewInt(k).Bytes()) = k` for every `k`
that an `int64` holds. -/
theorem ByteArrayToInt_bigBytes {k : Nat} (hk : k < 2 ^ 63) :
    (ByteArrayToInt (Go.bigBytes k)).toInt = k := by
  rw [ByteArrayToInt, Go.setBytes_bigBytes]
  exact Go.newInt_bigInt64_natCast hk

theorem FetchConfig_eq_ok_iff {db : DB σ} {key : String} {val : Bytes} :
    FetchConfig db key = .ok val ↔ db.config.lookup key = some val := by
  unfold FetchConfig
  cases db.config.lookup key <;> simp

/-- The insert succeeds exactly when the key is not stored, and then adds its row. -/
theorem WriteConfigToTx_eq_ok {config config' : List (String × Bytes)} {key : String}
    {value : Bytes} (h : WriteConfigToTx config key value = .ok config') :
    config.lookup key = none ∧ config' = config ++ [(key, value)] := by
  unfold WriteConfigToTx at h
  split at h
  case isTrue => cases h
  case isFalse hnone =>
    cases h
    exact ⟨Option.not_isSome_iff_eq_none.mp hnone, rfl⟩

/-- A migration commits only on a database with no marker, and then stores the marker
`big.NewInt(migrationOrder).Bytes()`. -/
theorem executeMigration_eq_ok {exec : String → σ → Except String σ} {db db' : DB σ}
    {content : String} {i : Int} (h : executeMigration exec db content i = .ok db') :
    FetchConfig db currentFileKey = .error ErrNotFound ∧
      FetchConfig db' currentFileKey = .ok (Go.bigBytes i.natAbs) := by
  unfold executeMigration at h
  obtain ⟨schema, -, h⟩ := Except.bind_eq_ok.mp h
  obtain ⟨config, hconfig, h⟩ := Except.bind_eq_ok.mp h
  cases h
  obtain ⟨hnone, rfl⟩ := WriteConfigToTx_eq_ok hconfig
  refine ⟨by simp [FetchConfig, hnone], FetchConfig_eq_ok_iff.mpr ?_⟩
  simp [List.lookup_append, hnone]

/-- With a marker stored, every iteration of the loop fails before it commits. -/
theorem migrationLoop_of_marker {exec : String → σ → Except String σ}
    {sqlFiles : List (String × String)} {migrationFiles : List String} {db : DB σ} {val : Bytes}
    (hmarker : FetchConfig db currentFileKey = .ok val) (i : Int) (count : Nat) :
    ∃ err, migrationLoop exec sqlFiles migrationFiles i (count + 1) db = (.error err, db) := by
  unfold migrationLoop
  split
  · exact ⟨_, rfl⟩
  · split
    · exact ⟨_, rfl⟩
    · rename_i db' hrun
      obtain ⟨content, -, hexec⟩ := Except.bind_eq_ok.mp hrun
      have hnone := (executeMigration_eq_ok hexec).1
      rw [hmarker] at hnone
      cases hnone

/-- From a database with no marker, a loop that runs fails with the database unchanged, or
leaves the marker of its first file, the one at index `i`. -/
theorem migrationLoop_of_fresh {exec : String → σ → Except String σ}
    {sqlFiles : List (String × String)} {migrationFiles : List String} {db : DB σ}
    (i : Int) (count : Nat) :
    (∃ err, migrationLoop exec sqlFiles migrationFiles i (count + 1) db = (.error err, db)) ∨
      FetchConfig (migrationLoop exec sqlFiles migrationFiles i (count + 1) db).2
        currentFileKey = .ok (Go.bigBytes i.natAbs) := by
  unfold migrationLoop
  split
  · exact .inl ⟨_, rfl⟩
  · split
    · exact .inl ⟨_, rfl⟩
    · rename_i db' hrun
      obtain ⟨content, -, hexec⟩ := Except.bind_eq_ok.mp hrun
      have hmarker := (executeMigration_eq_ok hexec).2
      -- the first file committed its marker; the next iteration, if any, fails on it
      right
      cases count with
      | zero => exact hmarker
      | succ count =>
        have hloop : ∃ err, migrationLoop exec sqlFiles migrationFiles (i + 1) (count + 1) db' =
            (.error err, db') := migrationLoop_of_marker hmarker (i + 1) count
        rw [hloop.choose_spec]
        exact hmarker

/-! ## Starts of the enclave -/

/-- **A stored marker blocks every later migration.** When the marker says that fewer files
than there are have run, the start fails and leaves the database as it was. -/
theorem DBMigration_of_marker (exec : String → σ → Except String σ)
    {sqlFiles : List (String × String)} {migrationFiles : List String}
    (hfiles : readMigrationFiles sqlFiles = .ok migrationFiles) {db : DB σ} {val : Bytes}
    (hmarker : FetchConfig db currentFileKey = .ok val)
    (hleft : (ByteArrayToInt val).toInt < migrationFiles.length) :
    ∃ err, DBMigration exec sqlFiles db = (.error err, db) := by
  have hcount : ((migrationFiles.length : Int) - (ByteArrayToInt val).toInt).toNat =
      ((migrationFiles.length : Int) - (ByteArrayToInt val).toInt).toNat - 1 + 1 := by
    omega
  simp only [DBMigration, hfiles, hmarker]
  rw [hcount]
  exact migrationLoop_of_marker hmarker _ _

/-- From a database with no marker and at least two files, the first start fails and
changes nothing, or stores the marker of file `002`, the one at index `1`. -/
theorem DBMigration_of_fresh (exec : String → σ → Except String σ)
    {sqlFiles : List (String × String)} {migrationFiles : List String}
    (hfiles : readMigrationFiles sqlFiles = .ok migrationFiles)
    (hn : 2 ≤ migrationFiles.length) {db : DB σ}
    (hfresh : FetchConfig db currentFileKey = .error ErrNotFound) :
    (∃ err, DBMigration exec sqlFiles db = (.error err, db)) ∨
      FetchConfig (DBMigration exec sqlFiles db).2 currentFileKey = .ok (Go.bigBytes 1) := by
  have hcount : ((migrationFiles.length : Int) - 1).toNat = migrationFiles.length - 2 + 1 := by
    omega
  simp only [DBMigration, hfiles, hfresh, if_true]
  rw [hcount]
  exact migrationLoop_of_fresh 1 _

/-- **A start with nothing left to run succeeds and changes nothing**: with a marker at or
past the number of files, or with no marker and only file `001`. -/
theorem DBMigration_of_applied (exec : String → σ → Except String σ)
    {sqlFiles : List (String × String)} {migrationFiles : List String}
    (hfiles : readMigrationFiles sqlFiles = .ok migrationFiles) {db : DB σ}
    (happlied : (∃ val, FetchConfig db currentFileKey = .ok val ∧
        (migrationFiles.length : Int) ≤ (ByteArrayToInt val).toInt) ∨
      (FetchConfig db currentFileKey = .error ErrNotFound ∧ migrationFiles.length ≤ 1)) :
    DBMigration exec sqlFiles db = (.ok (), db) := by
  rcases happlied with ⟨val, hmarker, happlied⟩ | ⟨hfresh, hone⟩
  · have hcount : ((migrationFiles.length : Int) - (ByteArrayToInt val).toInt).toNat = 0 := by
      omega
    simp only [DBMigration, hfiles, hmarker]
    rw [hcount, migrationLoop]
  · have hcount : ((migrationFiles.length : Int) - 1).toNat = 0 := by
      omega
    simp only [DBMigration, hfiles, hfresh, if_true]
    rw [hcount, migrationLoop]

/-- A database on which a start fails unchanged stays so over any number of starts. -/
theorem restarts_of_stuck {exec : String → σ → Except String σ}
    {sqlFiles : List (String × String)} {db : DB σ} {err : String}
    (hstuck : DBMigration exec sqlFiles db = (.error err, db)) :
    ∀ k, restarts exec sqlFiles k db = db
  | 0 => rfl
  | k + 1 => by
    rw [restarts, hstuck]
    exact restarts_of_stuck hstuck k

/-- **Every start after the first fails.** With the files numbered `1..n`, `n ≥ 2`, and a
database with no marker, every start of the enclave after the first returns an error,
whatever the files' statements do: the first start stores the index `1` of file `002` as
the marker, and every later start runs `002` again and fails to insert the marker a second
time (or fails as the first start did, on a statement). -/
theorem DBMigration_restartFails (exec : String → σ → Except String σ)
    (sqlFiles : List (String × String)) (migrationFiles : List String)
    (hfiles : readMigrationFiles sqlFiles = .ok migrationFiles)
    (hn : 2 ≤ migrationFiles.length) (db : DB σ)
    (hfresh : FetchConfig db currentFileKey = .error ErrNotFound) (k : Nat) :
    ∃ err, (DBMigration exec sqlFiles (restarts exec sqlFiles (k + 1) db)).1 = .error err := by
  rcases DBMigration_of_fresh exec hfiles hn hfresh with ⟨err, hstuck⟩ | hmarker
  · -- the first start failed on a statement and changed nothing: so do all the others
    have hsame : restarts exec sqlFiles (k + 1) db = db := restarts_of_stuck hstuck (k + 1)
    exact ⟨err, by rw [hsame, hstuck]⟩
  · -- the marker `1` leaves file `002` to run, and blocks it
    have hone : (ByteArrayToInt (Go.bigBytes 1)).toInt = 1 :=
      ByteArrayToInt_bigBytes (by norm_num)
    obtain ⟨err, hstuck⟩ := DBMigration_of_marker exec hfiles hmarker
      (by rw [hone]; omega)
    have hsame : restarts exec sqlFiles (k + 1) db = (DBMigration exec sqlFiles db).2 :=
      restarts_of_stuck hstuck k
    exact ⟨err, by rw [hsame, hstuck]⟩

/-- The two files of the SQLite flavour, `001_init.sql` (here its first statement) and
`002_init.sql`; the migration reads the content of `002` only. -/
def sqliteFiles : List (String × String) :=
  [("001_init.sql", "create table if not exists keyvalue (ky varbinary(64) primary key, val mediumblob NOT NULL);"),
   ("002_init.sql", "drop table rollup; create table rollup (hash binary(32) primary key, start_seq int NOT NULL, end_seq int NOT NULL, header blob NOT NULL, compression_block binary(32) NOT NULL);")]

/-- A database as `001_init.sql` leaves it: its only `config` row is `CURRENT_SEQ`, the
text `-1`. -/
def initialised : DB Unit := ⟨(), [("CURRENT_SEQ", [0x2d, 0x31])]⟩

/-- The repository's own files: the second start of the enclave fails, whatever the
statements do. -/
theorem DBMigration_restartFails_sqlite :
    ∃ err, (DBMigration (fun _ s => .ok s) sqliteFiles
      (restarts (fun _ s => .ok s) sqliteFiles 1 initialised)).1 = .error err :=
  DBMigration_restartFails (fun _ s => .ok s) sqliteFiles ["001_init.sql", "002_init.sql"]
    (by decide) (by decide) initialised (by decide) 0

end Obscuro.Migration
