/-
# Proofs.Store.Settling -- when a migration settles

A database that records its version is brought to the present one, and the next run finds
it there and changes nothing.  The version is read as zero when its row is missing, but a
step only updates that row; a database that has lost it takes every later step and still
records no version, so that the next run takes the first of them again and fails
(`migration_settles_unless_version_lost`).

* `version?_apply`: a step replaces the version that is recorded, if there is one;
* `not_apply_of_hasKey`: a step that is in the ledger cannot be taken again.
-/
import CatalogListing.Proofs.Store.Frame
import CatalogListing.Proofs.Store.Migrated

namespace CatalogListing

set_option autoImplicit false

open Database (Inserted Updated Replaced)

/-! ## What the statements of a step leave -/

namespace Migration

variable {db next : Database} {clock : Clock} {migration : Migration}

/-- A statement of a migration leaves the rows of every table. -/
theorem content?_make {making : Making} (done : make db making = .ok next) (name : Text) :
    next.content? name = db.content? name := by
  cases making with
  | index made table =>
      simp only [make] at done
      split at done
      · cases done
      · rename_i found
        split at done
        · cases done
          rfl
        · cases done
          exact Database.content?_withTable found _ (by rfl) name
  | searchIndex =>
      cases done
      rfl
  | trigger table =>
      simp only [make] at done
      split at done
      · cases done
      · rename_i found
        cases done
        exact Database.content?_withTable found _ (by rfl) name
  | rebuild table =>
      simp only [make] at done
      split at done
      · cases done
        rfl
      · cases done
      · cases done

theorem content?_statements {statements : List MigrationStatement}
    (done : statements.foldlM (fun db statement =>
      (make db statement.making).mapError (failed migration statement)) db = .ok next)
    (name : Text) : next.content? name = db.content? name := by
  induction statements generalizing db with
  | nil =>
      cases done
      rfl
  | cons statement rest ih =>
      rw [List.foldlM_cons] at done
      obtain ⟨made, making, done⟩ := Database.ok_of_bind done
      rw [ih done, content?_make (ok_of_mapError making)]

/-- What a step writes over the version. -/
def versionChanges (clock : Clock) (migration : Migration) : List (Text × Scalar) :=
  [("version", .integer migration.version), ("applied_at", .integer clock.now),
    ("description", .text migration.name)]

/-- What a step that completes has done. -/
theorem exists_applied (done : apply clock db migration = .ok next) :
    ∃ made versioned table row, (∀ name, made.content? name = db.content? name) ∧
      Updated made Tables.schemaVersion.name 1 (versionChanges clock migration) versioned ∧
      Inserted versioned Tables.schemaMigrations.name
        (ledgerRow clock migration.version migration.name migration.checksum) next table row := by
  unfold apply at done
  obtain ⟨made, making, done⟩ := Database.ok_of_bind done
  obtain ⟨⟨versioned, count⟩, updating, done⟩ := Database.ok_of_bind done
  obtain ⟨table, row, inserted⟩ := Database.exists_inserted (ok_of_mapError done)
  exact ⟨made, versioned, table, row, content?_statements making,
    Database.updated (ok_of_mapError updating), inserted⟩

/-! ## The recorded version -/

/-- The tables that record the schema have the columns that they are made with, as far as
there are any. -/
def Recording (db : Database) : Prop :=
  ∀ schema ∈ [Tables.schemaVersion, Tables.schemaMigrations],
    ∀ found ∈ db.schema? schema.name, found = schema

theorem Recording.of_schema? (recording : Recording db)
    (same : ∀ name, next.schema? name = db.schema? name) : Recording next := by
  intro schema member found among
  rw [same] at among
  exact recording schema member found among

theorem schema?_apply (done : apply clock db migration = .ok next) (name : Text) :
    next.schema? name = db.schema? name := by
  obtain ⟨made, versioned, table, row, kept, updated, inserted⟩ := exists_applied done
  rw [inserted.schema?, updated.schema?, Database.schema?_of_content? (kept name)]

/-- The table of a schema that records. -/
theorem Recording.schema_eq (recording : Recording db) {schema : Schema}
    (records : schema ∈ [Tables.schemaVersion, Tables.schemaMigrations]) {table : Table}
    (found : db.table? schema.name = some table) : table.schema = schema :=
  recording schema records _ (by rw [Option.mem_def, Database.schema?, found, Option.map_some])

/-- The version that a database records, as it is kept. -/
def version? (db : Database) : Option Scalar :=
  (db.table? Tables.schemaVersion.name).bind fun table =>
    (table.row? 1).map fun row => row.cell "version"

theorem version?_of_content?
    (same : next.content? Tables.schemaVersion.name = db.content? Tables.schemaVersion.name) :
    version? next = version? db := by
  have reads (db : Database) : version? db =
      (db.content? Tables.schemaVersion.name).bind fun content =>
        (content.2.find? fun row => row.key == 1).map fun row => row.cell "version" := by
    rw [version?, Database.content?, Option.bind_map]
    rfl
  rw [reads, reads, same]

/-- The version is read as what it is kept as, and as zero without a row. -/
theorem recordedVersion_eq_ok {version : Int} (read : recordedVersion db = .ok version) :
    db.hasTable Tables.schemaVersion.name = true ∧
      (version? db = some (.integer version) ∨ version? db = none ∧ version = 0) := by
  unfold recordedVersion at read
  obtain ⟨table, found, read⟩ := Database.ok_of_bind read
  have found := Database.table?_of_requireTable found
  rw [Database.hasTable, version?, found, Option.bind_some]
  refine ⟨rfl, ?_⟩
  split at read
  · rename_i absent
    cases read
    exact .inr ⟨by rw [absent]; rfl, rfl⟩
  · rename_i row present
    rw [present, Option.map_some]
    split at read
    · rename_i n cell
      split at read
      · cases read
        exact .inl (congrArg some cell)
      · cases read
    · cases read

/-- A step replaces the version that is recorded, if there is one. -/
theorem version?_apply (recording : Recording db) (done : apply clock db migration = .ok next) :
    version? next = (version? db).map fun _ => .integer migration.version := by
  obtain ⟨made, versioned, table, row, kept, updated, inserted⟩ := exists_applied done
  rw [← version?_of_content? (kept _), version?, inserted.table?_of_ne (by decide)]
  change version? versioned = _
  have recording : Recording made :=
    recording.of_schema? fun name => Database.schema?_of_content? (kept name)
  cases updated with
  | @nothing table found absent =>
      have none_ : version? made = none := by
        rw [version?, found, Option.bind_some, absent, Option.map_none]
      rw [none_, Option.map_none]
  | @row _ table old new replaced =>
      have isVersions := recording.schema_eq List.mem_cons_self replaced.found
      have before : version? made = some (old.cell "version") := by
        rw [version?, replaced.found, Option.bind_some, replaced.row, Option.map_some]
      have key : new.key = 1 := by
        have keyed := replaced.newKey
        rw [Database.updatedKey, isVersions] at keyed
        exact (Except.ok.inj keyed).symm.trans (Table.mem_of_row? replaced.row).2
      have cell : new.cell "version" = .integer migration.version := by
        rw [Row.cell, replaced.cells, Database.updatedCells, isVersions]
        rfl
      rw [before, version?, replaced.table?_self, Option.bind_some, ← key,
        Table.row?_add_self replaced.fresh, Option.map_some, Option.map_some, cell]

/-! ## The ledger -/

/-- The ledger has the row of a version. -/
def Reached (db : Database) (version : Int) : Prop :=
  ∃ ledger, db.table? Tables.schemaMigrations.name = some ledger ∧ ledger.hasKey version = true

theorem reached_iff_of_table? {version : Int}
    (same : next.table? Tables.schemaMigrations.name = db.table? Tables.schemaMigrations.name) :
    Reached next version ↔ Reached db version := by
  rw [Reached, Reached, same]

theorem reached_iff_of_content? {version : Int}
    (same : next.content? Tables.schemaMigrations.name =
      db.content? Tables.schemaMigrations.name) : Reached next version ↔ Reached db version := by
  have reads (db : Database) : Reached db version ↔
      ∃ content ∈ db.content? Tables.schemaMigrations.name,
        (content.2.any fun row => row.key == version) = true := by
    simp only [Reached, Database.content?, Option.mem_def, Option.map_eq_some_iff,
      exists_exists_and_eq_and]
    rfl
  rw [reads, reads, same]

/-- A step adds itself to the ledger, which must not have it yet. -/
theorem reached_apply (recording : Recording db) (done : apply clock db migration = .ok next) :
    ¬ Reached db migration.version ∧
      ∀ version, Reached next version ↔ version = migration.version ∨ Reached db version := by
  obtain ⟨made, versioned, table, row, kept, updated, inserted⟩ := exists_applied done
  have before (version : Int) : Reached versioned version ↔ Reached db version := by
    rw [← reached_iff_of_content? (kept _)]
    cases updated with
    | nothing found absent => rfl
    | row replaced => exact reached_iff_of_table? (replaced.table?_of_ne (by decide))
  have recording : Recording versioned := recording.of_schema? fun name => by
    rw [updated.schema?, Database.schema?_of_content? (kept name)]
  have isLedger := recording.schema_eq (List.mem_cons_of_mem _ List.mem_cons_self) inserted.found
  have key : row.key = migration.version := by
    have keyed := inserted.keyed
    rw [isLedger] at keyed
    exact (Except.ok.inj keyed).symm
  refine ⟨?_, fun version => ?_⟩
  · -- The insertion found the key fresh, and no statement before it touched the ledger.
    intro reached
    obtain ⟨ledger, found, present⟩ := (before _).2 reached
    obtain rfl := Option.some.inj (inserted.found.symm.trans found)
    rw [← key, inserted.fresh] at present
    cases present
  · rw [← before, Reached, Reached, inserted.table?_self, inserted.found]
    simp only [Option.some.injEq, exists_eq_left', Table.hasKey_add, Bool.or_eq_true, beq_iff_eq,
      key]
    exact or_congr_left eq_comm

/-! ## Several steps -/

/-- Steps that all complete leave the version of the last one, if there was a version, and
the ledger has them. -/
theorem keeps_applyAll (recording : Recording db) {steps : List Migration}
    (done : applyAll clock db steps = (next, .ok ())) :
    (∀ name, next.schema? name = db.schema? name) ∧
      version? next = (version? db).map (fun version =>
        steps.getLast?.elim version fun migration => .integer migration.version) ∧
      ∀ version, Reached next version ↔
        Reached db version ∨ ∃ migration ∈ steps, migration.version = version := by
  -- Each step overwrites the version of the one before, so that of the last is left.
  induction steps generalizing db with
  | nil =>
      cases done
      exact ⟨fun _ => rfl, by simp, by simp⟩
  | cons migration rest ih =>
      rw [applyAll] at done
      split at done
      · rename_i mid applied
        have kept := schema?_apply applied
        obtain ⟨schemas, version, ledger⟩ := ih (recording.of_schema? kept) done
        refine ⟨fun name => (schemas name).trans (kept name), ?_, fun number => ?_⟩
        · rw [version, version?_apply recording applied, Option.map_map, List.getLast?_cons]
          congr 1
          funext value
          cases rest.getLast? <;> rfl
        · rw [ledger, (reached_apply recording applied).2]
          simp only [List.mem_cons, exists_eq_or_imp]
          rw [or_comm (a := number = _), or_assoc, eq_comm (a := number)]
      · cases done

/-! ## Where a run ends -/

/-- The version that is read is no older than the present one. -/
def Current (db : Database) : Prop :=
  ∃ version, currentVersion ≤ version ∧ version? db = some (.integer version) ∧
    recordedVersion db = .ok version

/-- The table of the version has no row for it. -/
structure VersionLost (db : Database) : Prop where
  versions : db.hasTable Tables.schemaVersion.name = true
  row : version? db = none

/-- The steps behind a version. -/
def stepsFrom (version : Int) : List Migration :=
  later.filter fun migration => version < migration.version

/-- A run takes the steps behind the version that is read. -/
theorem run_eq_applyAll {version : Int} (read : recordedVersion db = .ok version)
    (older : 0 ≤ version ∧ version < currentVersion) (clock : Clock) :
    run clock db = applyAll clock db (stepsFrom version) := by
  have notCurrent : ¬ currentVersion ≤ version := by omega
  have notNegative : ¬ version < 0 := by omega
  unfold Migration.run advance
  rw [if_pos (recordedVersion_eq_ok read).1, read]
  simp only [if_neg notCurrent, if_neg notNegative, stepsFrom]

/-- A database at the present version stays as it is. -/
theorem Current.run (current : Current db) (clock : Clock) : run clock db = (db, .ok ()) := by
  obtain ⟨version, notOlder, -, read⟩ := current
  unfold Migration.run advance
  rw [if_pos (recordedVersion_eq_ok read).1, read]
  simp only [if_pos notOlder]

theorem VersionLost.recordedVersion (lost : VersionLost db) : recordedVersion db = .ok 0 := by
  obtain ⟨versions, row⟩ := lost
  obtain ⟨table, found⟩ := Option.isSome_iff_exists.1 versions
  rw [version?, found, Option.bind_some, Option.map_eq_none_iff] at row
  have requires : db.requireTable Tables.schemaVersion.name = .ok table := by
    rw [Database.requireTable, found]
  unfold Migration.recordedVersion
  simp only [requires, row, bind, Except.bind]
  rfl

/-- Without the row of the version the step to the second one is taken, which fails when the
ledger has it. -/
theorem VersionLost.run (lost : VersionLost db) (recording : Recording db)
    (reached : Reached db reviewIndexes.version) (clock : Clock) :
    ∃ error, run clock db = (db, .error error) := by
  have steps : stepsFrom 0 = [reviewIndexes, fullText] := rfl
  rw [run_eq_applyAll lost.recordedVersion (by decide), steps, applyAll]
  cases applied : apply clock db reviewIndexes with
  | error error => exact ⟨error, rfl⟩
  | ok next => exact absurd reached (reached_apply recording applied).1

theorem recordedVersion_of_version? {version : Int}
    (records : version? db = some (.integer version)) (small : 0 ≤ version ∧ version ≤ 3) :
    recordedVersion db = .ok version := by
  obtain ⟨table, found, row⟩ := Option.bind_eq_some_iff.1 records
  obtain ⟨row, present, cell⟩ := Option.map_eq_some_iff.1 row
  have requires : db.requireTable Tables.schemaVersion.name = .ok table := by
    rw [Database.requireTable, found]
  have inRange : -2147483648 ≤ version ∧ version ≤ 2147483647 := by omega
  unfold recordedVersion
  simp only [requires, present, cell, if_pos inRange, bind, Except.bind]
  rfl

/-- A run of the later steps ends at the present version, unless the version is lost. -/
theorem ends_advance (recording : Recording db) (done : advance clock db = (next, .ok ())) :
    (version? db ≠ none → Current next) ∧
      (version? db = none →
        VersionLost next ∧ Recording next ∧ Reached next reviewIndexes.version) := by
  unfold advance at done
  split at done
  · cases done
  · rename_i version read
    obtain ⟨versions, records⟩ := recordedVersion_eq_ok read
    split at done
    · rename_i notOlder
      cases done
      refine ⟨fun present => ?_, fun absent => ?_⟩
      · exact ⟨version, notOlder, records.resolve_right fun lost => present lost.1, read⟩
      · -- A version that is lost is read as zero, which is older.
        have zero : version = 0 := by
          rcases records with found | ⟨-, zero⟩
          · rw [absent] at found
            cases found
          · exact zero
        rw [zero] at notOlder
        exact absurd notOlder (by decide)
    · rename_i older
      split at done
      · cases done
      · rename_i notNegative
        obtain ⟨schemas, last, ledger⟩ := keeps_applyAll recording done
        have known : version = 0 ∨ version = 1 ∨ version = 2 := by
          unfold currentVersion at older
          omega
        have lastStep : (stepsFrom version).getLast? = some fullText := by
          rcases known with rfl | rfl | rfl <;> rfl
        rw [← stepsFrom, lastStep] at last
        refine ⟨fun present => ?_, fun absent => ⟨⟨?_, ?_⟩, recording.of_schema? schemas, ?_⟩⟩
        · obtain ⟨value, found⟩ := Option.ne_none_iff_exists'.1 present
          rw [found] at last
          exact ⟨3, by decide, last, recordedVersion_of_version? last (by decide)⟩
        · have kept := congrArg Option.isSome (schemas Tables.schemaVersion.name)
          rw [Database.schema?, Database.schema?, Option.isSome_map, Option.isSome_map] at kept
          exact kept.trans versions
        · rw [last, absent, Option.map_none]
        · have zero : version = 0 := by
            rcases records with found | ⟨-, zero⟩
            · rw [absent] at found
              cases found
            · exact zero
          subst zero
          exact (ledger _).2 (.inr ⟨reviewIndexes, List.mem_cons_self, rfl⟩)

/-! ## The first version -/

/-- A table is made unless there is one of its name, which keeps its schema and its rows. -/
theorem content?_createTable (db : Database) (table : Schema × List Text) (name : Text) :
    (createTable db table).content? name =
      (db.content? name).or (if table.1.name = name then some (table.1, []) else none) := by
  unfold createTable
  cases found : db.table? table.1.name with
  | some present =>
      rw [Database.content?_withTable found _ (by rfl) name]
      by_cases here : table.1.name = name
      · rw [← here, Database.content?, found]
        rfl
      · rw [if_neg here, Option.or_none]
  | none =>
      unfold Database.table? at found
      unfold Database.content? Database.table?
      rw [List.find?_append, Option.map_or]
      by_cases here : table.1.name = name
      · subst here
        simp [found, Table.content]
      · simp [here]

/-- Tables that a database lacks are made, and the others are left. -/
theorem content?_createTables (db : Database) (name : Text) :
    (createTables db).content? name = (db.content? name).or
      ((Tables.initial.find? fun table => table.1.name == name).map fun table => (table.1, [])) := by
  unfold createTables
  induction Tables.initial generalizing db with
  | nil => simp
  | cons table rest ih =>
      rw [List.foldl_cons, ih, List.find?_cons, content?_createTable, Option.or_assoc]
      by_cases here : table.1.name = name
      · simp [here]
      · have apart : (table.1.name == name) = false := by simpa using here
        rw [if_neg here, apart, Option.none_or]

theorem Recording.createTables (recording : Recording db) : Recording (createTables db) := by
  intro schema member found among
  rw [Database.schema?_eq_content?, content?_createTables] at among
  cases before : db.content? schema.name with
  | some content =>
      rw [before, Option.some_or, ← before, ← Database.schema?_eq_content?] at among
      exact recording schema member found among
  | none =>
      rw [before, Option.none_or] at among
      simp only [List.mem_cons, List.not_mem_nil, or_false] at member
      rcases member with rfl | rfl <;> exact (Option.some.inj among).symm

/-- The first version is recorded, if the table for it has the columns it is made with. -/
theorem version?_of_firstVersion
    (made : ∀ table, (createTables db).table? Tables.schemaVersion.name = some table →
      table.schema = Tables.schemaVersion)
    (done : firstVersion clock db = .ok next) : version? next = some (.integer 1) := by
  unfold firstVersion at done
  obtain ⟨mid, versioning, done⟩ := Database.ok_of_bind done
  obtain ⟨versions, row, versioned⟩ := Database.exists_inserted (ok_of_mapError versioning)
  obtain ⟨ledger, step, recorded⟩ := Database.exists_inserted (ok_of_mapError done)
  have isVersions := made versions versioned.found
  have key : row.key = 1 := by
    have keyed := versioned.keyed
    rw [isVersions] at keyed
    exact (Except.ok.inj keyed).symm
  have cell : row.cell "version" = .integer 1 := by
    rw [Row.cell, versioned.cells, isVersions]
    rfl
  have found : (versions.add row).row? 1 = some row := by
    rw [← key]
    exact Table.row?_add_self versioned.fresh
  rw [version?, recorded.table?_of_ne (by decide), versioned.table?_self, Option.bind_some, found,
    Option.map_some, cell]

/-- The first version leaves the columns of the tables that record. -/
theorem Recording.firstVersion (recording : Recording db)
    (done : firstVersion clock db = .ok next) : Recording next := by
  unfold Migration.firstVersion at done
  obtain ⟨mid, versioning, done⟩ := Database.ok_of_bind done
  obtain ⟨versions, row, versioned⟩ := Database.exists_inserted (ok_of_mapError versioning)
  obtain ⟨ledger, step, recorded⟩ := Database.exists_inserted (ok_of_mapError done)
  refine recording.createTables.of_schema? fun name => ?_
  rw [recorded.schema?, versioned.schema?]

/-- **A migration settles unless the version was lost.**  After a run that completes, on any
database, a version no older than the present one is recorded and every further run
completes and changes nothing, exactly when there was a version to start from: the row of
the version, or no table for it yet.  A database whose version table had lost its row has
none afterwards either, and every further run fails and changes nothing. -/
theorem migration_settles_unless_version_lost (recording : Recording db)
    (done : run clock db = (next, .ok ())) :
    (((∃ version, currentVersion ≤ version ∧ version? next = some (.integer version)) ∧
        ∀ again, run again next = (next, .ok ())) ↔ ¬ VersionLost db) ∧
      (VersionLost db → version? next = none ∧
        ∀ again, ∃ error, run again next = (next, .error error)) := by
  have current (reaches : Current next) :
      (∃ version, currentVersion ≤ version ∧ version? next = some (.integer version)) ∧
        ∀ again, run again next = (next, .ok ()) := by
    obtain ⟨version, notOlder, records, read⟩ := reaches
    exact ⟨⟨version, notOlder, records⟩, Current.run ⟨version, notOlder, records, read⟩⟩
  unfold Migration.run at done
  split at done
  · rename_i versions
    obtain ⟨settles, loses⟩ := ends_advance recording done
    by_cases row : version? db = none
    · obtain ⟨lost, still, reached⟩ := loses row
      refine ⟨⟨fun settled _ => ?_, fun kept => absurd ⟨versions, row⟩ kept⟩,
        fun _ => ⟨lost.row, lost.run still reached⟩⟩
      obtain ⟨⟨version, -, records⟩, -⟩ := settled
      rw [lost.row] at records
      cases records
    · exact ⟨⟨fun _ lost => row lost.row, fun _ => current (settles row)⟩,
        fun lost => absurd lost.row row⟩
  · rename_i absent
    have kept : ¬ VersionLost db := fun lost => absent lost.versions
    split at done
    · rename_i mid first
      have records := version?_of_firstVersion
        (fun _ found => recording.createTables.schema_eq List.mem_cons_self found) first
      have versioned : version? mid ≠ none := by
        rw [records]
        exact Option.some_ne_none _
      have settles := (ends_advance (recording.firstVersion first) done).1 versioned
      exact ⟨⟨fun _ => kept, fun _ => current settles⟩, fun lost => absurd lost kept⟩
    · cases done

theorem recording_catalogOf (versions ledger : List Row) (rows : Rows) (reviewIndexes : List Text)
    (watched : Bool) (index : Option Search.Index) :
    Recording (catalogOf versions ledger rows reviewIndexes watched index) := by
  intro schema member found among
  simp only [List.mem_cons, List.not_mem_nil, or_false] at member
  rcases member with rfl | rfl <;> exact (Option.some.inj among).symm

/-- A database at the first version with nothing in its ledger. -/
def unlogged : Database :=
  catalogOf [versionRow {} 1 "Initial schema"] [] {} [] false none

set_option maxRecDepth 4000 in
theorem run_unlogged (clock : Clock) : run clock unlogged =
    (catalogOf [versionRow clock 3 fullText.name] [secondRow clock, thirdRow clock] {}
      reviewerIndexes true (some []), .ok ()) := by
  have second : apply clock unlogged reviewIndexes =
      .ok (catalogOf [versionRow clock 2 reviewIndexes.name] [secondRow clock] {}
        reviewerIndexes false none) := by
    unfold apply secondRow
    generalize reviewIndexes.checksum = digest
    rfl
  have third : apply clock (catalogOf [versionRow clock 2 reviewIndexes.name] [secondRow clock] {}
        reviewerIndexes false none) fullText =
      .ok (catalogOf [versionRow clock 3 fullText.name] [secondRow clock, thirdRow clock] {}
        reviewerIndexes true (some [])) := by
    unfold apply secondRow thirdRow
    generalize reviewIndexes.checksum = digest
    generalize fullText.checksum = last
    rfl
  have version : recordedVersion unlogged = .ok 1 := rfl
  have steps : stepsFrom 1 = [reviewIndexes, fullText] := rfl
  rw [run_eq_applyAll version (by decide), steps]
  simp only [applyAll, second, third]

/-- It reaches the present version for good, though the ledger goes on lacking a row. -/
theorem unlogged_settles : Recording unlogged ∧
    ∃ next, run {} unlogged = (next, .ok ()) ∧
      (∃ version, currentVersion ≤ version ∧ version? next = some (.integer version)) ∧
      (∀ again, run again next = (next, .ok ())) ∧ ¬ Reached next 1 := by
  have recording : Recording unlogged := recording_catalogOf _ _ _ _ _ _
  obtain ⟨settled, -⟩ := migration_settles_unless_version_lost recording (run_unlogged {})
  have kept : ¬ VersionLost unlogged := by
    rintro ⟨-, row⟩
    cases row
  obtain ⟨records, stays⟩ := settled.2 kept
  refine ⟨recording, _, run_unlogged {}, records, stays, ?_⟩
  rintro ⟨ledger, found, reached⟩
  obtain rfl := Option.some.inj found
  cases reached

/-- A database at the present version whose version was lost, with the ledger of the first. -/
def unversioned (ledger : List Row) : Database :=
  catalogOf [] ledger {} reviewerIndexes true (some [])

set_option maxRecDepth 4000 in
theorem run_unversioned (clock : Clock) : run clock (unversioned [firstRow clock]) =
    (unversioned [firstRow clock, secondRow clock, thirdRow clock], .ok ()) := by
  have second : apply clock (unversioned [firstRow clock]) reviewIndexes =
      .ok (unversioned [firstRow clock, secondRow clock]) := by
    unfold apply firstRow secondRow
    generalize Sha256.hexDigest initialSql = first
    generalize reviewIndexes.checksum = digest
    rfl
  have third : apply clock (unversioned [firstRow clock, secondRow clock]) fullText =
      .ok (unversioned [firstRow clock, secondRow clock, thirdRow clock]) := by
    unfold apply firstRow secondRow thirdRow
    generalize Sha256.hexDigest initialSql = first
    generalize reviewIndexes.checksum = digest
    generalize fullText.checksum = last
    rfl
  have version : recordedVersion (unversioned [firstRow clock]) = .ok 0 := rfl
  have steps : stepsFrom 0 = [reviewIndexes, fullText] := rfl
  rw [run_eq_applyAll version (by decide), steps]
  simp only [applyAll, second, third]

set_option maxRecDepth 4000 in
/-- Without the row of the version a run completes, records no version, and makes the next run
fail. -/
theorem unversioned_never_settles :
    ∃ db next, Recording db ∧ run {} db = (next, .ok ()) ∧ version? next = none ∧
      run {} next = (next, .error (.database
        (.rejected 1555 "UNIQUE constraint failed: schema_migrations.version"))) := by
  refine ⟨unversioned [firstRow {}], _, recording_catalogOf _ _ _ _ _ _, run_unversioned {}, rfl, ?_⟩
  have again : apply {} (unversioned [firstRow {}, secondRow {}, thirdRow {}]) reviewIndexes =
      .error (.database (.rejected 1555 "UNIQUE constraint failed: schema_migrations.version")) := by
    unfold apply firstRow secondRow thirdRow
    generalize Sha256.hexDigest initialSql = first
    generalize reviewIndexes.checksum = digest
    generalize fullText.checksum = last
    rfl
  have version : recordedVersion (unversioned [firstRow {}, secondRow {}, thirdRow {}]) = .ok 0 :=
    rfl
  have steps : stepsFrom 0 = [reviewIndexes, fullText] := rfl
  rw [run_eq_applyAll version (by decide), steps]
  simp only [applyAll, again]

end Migration

end CatalogListing
