/-
# Store.Migration -- reaching the present schema

A database is brought to the present version of the schema step by step.  One without
a version table first gets the tables of version 1; each later version adds to them.
Every step records itself: it sets the version and adds a row with its name and the
digest of its SQL.

A step is a function of the database, so a step that fails leaves the database as the
last complete step made it (`Migration.run`).
-/
import CatalogListing.Digest.Sha256
import CatalogListing.Store.Tables

namespace CatalogListing

set_option autoImplicit false

/-- What a statement of a migration makes, unless it is there already. -/
inductive Making where
  | index (name table : Text)
  /-- The full-text index, empty. -/
  | searchIndex
  /-- A trigger on a table, which makes the table watched. -/
  | trigger (table : Text)
  /-- The full-text index is made anew from the rows of the table. -/
  | rebuild (table : Text)
  deriving DecidableEq, Repr

/-- A statement of a migration: its SQL and what it makes. -/
structure MigrationStatement where
  sql : Text
  making : Making
  deriving DecidableEq, Repr

/-- A step to a version. -/
structure Migration where
  version : Int
  name : Text
  statements : List MigrationStatement
  deriving DecidableEq, Repr

namespace Migration

/-- The present version of the schema. -/
def currentVersion : Int := 3

/-- The SQL of the first version. -/
def initialSql : Text := "
-- =============================================================================
-- Infrastructure: Schema version tracking
-- =============================================================================
CREATE TABLE IF NOT EXISTS schema_version (
    id INTEGER PRIMARY KEY CHECK (id = 1),
    version INTEGER NOT NULL,
    applied_at INTEGER NOT NULL,
    description TEXT
);

CREATE TABLE IF NOT EXISTS schema_migrations (
    version INTEGER PRIMARY KEY,
    name TEXT NOT NULL,
    applied_at INTEGER NOT NULL,
    checksum TEXT NOT NULL,
    execution_time_ms INTEGER,
    success INTEGER NOT NULL DEFAULT 1
);

-- =============================================================================
-- 1. Authors
-- =============================================================================
CREATE TABLE IF NOT EXISTS authors (
    id INTEGER PRIMARY KEY,
    name TEXT NOT NULL CHECK(length(name) >= 1 AND length(name) <= 200),
    country TEXT CHECK(country IS NULL OR length(country) = 2),
    bio TEXT,
    active INTEGER NOT NULL DEFAULT 1 CHECK(active IN (0, 1)),
    born_at TEXT,
    created_at TEXT NOT NULL
);

CREATE INDEX IF NOT EXISTS idx_authors_country ON authors(country);

-- =============================================================================
-- 2. Books (references authors)
-- =============================================================================
CREATE TABLE IF NOT EXISTS books (
    id INTEGER PRIMARY KEY,
    author_id INTEGER NOT NULL REFERENCES authors(id) ON DELETE CASCADE,
    title TEXT NOT NULL CHECK(length(title) >= 1),
    genre TEXT,
    price REAL NOT NULL CHECK(price >= 0),
    pages INTEGER CHECK(pages IS NULL OR pages > 0),
    in_stock INTEGER NOT NULL DEFAULT 1 CHECK(in_stock IN (0, 1)),
    isbn TEXT UNIQUE,
    published_at TEXT NOT NULL
);

CREATE INDEX IF NOT EXISTS idx_books_author ON books(author_id);
CREATE INDEX IF NOT EXISTS idx_books_genre ON books(genre);
CREATE INDEX IF NOT EXISTS idx_books_published ON books(published_at);

-- =============================================================================
-- 3. Reviews (references books)
-- =============================================================================
CREATE TABLE IF NOT EXISTS reviews (
    id INTEGER PRIMARY KEY,
    book_id INTEGER NOT NULL REFERENCES books(id) ON DELETE CASCADE,
    reviewer TEXT NOT NULL,
    rating INTEGER NOT NULL CHECK(rating BETWEEN 1 AND 5),
    body TEXT,
    created_at TEXT NOT NULL
);

CREATE INDEX IF NOT EXISTS idx_reviews_book ON reviews(book_id);
"

/-- Indexes for the listings of a reviewer. -/
def reviewIndexes : Migration where
  version := 2
  name := "add_review_indexes"
  statements := [
    ⟨"CREATE INDEX IF NOT EXISTS idx_reviews_reviewer ON reviews(reviewer)",
      .index "idx_reviews_reviewer" "reviews"⟩,
    ⟨"CREATE INDEX IF NOT EXISTS idx_reviews_created ON reviews(created_at)",
      .index "idx_reviews_created" "reviews"⟩]

/-- The full-text index over book titles, which triggers keep up to date. -/
def fullText : Migration where
  version := 3
  name := "add_books_full_text"
  statements := [
    ⟨"CREATE VIRTUAL TABLE IF NOT EXISTS books_fts USING fts5(title, content='books', content_rowid='id')",
      .searchIndex⟩,
    ⟨"CREATE TRIGGER IF NOT EXISTS books_fts_insert AFTER INSERT ON books BEGIN
    INSERT INTO books_fts(rowid, title) VALUES (new.id, new.title);
END",
      .trigger "books"⟩,
    ⟨"CREATE TRIGGER IF NOT EXISTS books_fts_delete AFTER DELETE ON books BEGIN
    INSERT INTO books_fts(books_fts, rowid, title) VALUES ('delete', old.id, old.title);
END",
      .trigger "books"⟩,
    ⟨"CREATE TRIGGER IF NOT EXISTS books_fts_update AFTER UPDATE OF title ON books BEGIN
    INSERT INTO books_fts(books_fts, rowid, title) VALUES ('delete', old.id, old.title);
    INSERT INTO books_fts(rowid, title) VALUES (new.id, new.title);
END",
      .trigger "books"⟩,
    ⟨"INSERT INTO books_fts(books_fts) VALUES ('rebuild')",
      .rebuild "books"⟩]

/-- The steps behind the first version. -/
def later : List Migration := [reviewIndexes, fullText]

/-- The digest of the SQL of a step. -/
def checksum (migration : Migration) : Text :=
  Sha256.hexDigest (List.intercalate ";\n" (migration.statements.map (·.sql)))

/-! ## Statements -/

/-- The database after a statement has made what it makes. -/
def make (db : Database) : Making → Except Fault Database
  | .index name table =>
      match db.table? table with
      | none => Database.refuse 1 ("no such table: main." ++ table)
      | some table =>
          if table.indexes.contains name then .ok db
          else .ok (db.withTable { table with indexes := table.indexes ++ [name] })
  | .searchIndex => .ok { db with index := some (db.index.getD []) }
  | .trigger table =>
      match db.table? table with
      | none => Database.refuse 1 ("no such table: main." ++ table)
      | some table => .ok (db.withTable { table with watched := true })
  | .rebuild table =>
      match db.table? table, db.index with
      | some table, some _ =>
          .ok { db with index := some (Search.build (table.rows.map fun row =>
            (row.key, Database.indexedText row))) }
      | none, _ => Database.refuse 1 ("no such table: main." ++ table)
      | _, none => Database.refuse 1 ("no such table: " ++ Database.indexName)

/-- The start of a statement that a failure quotes: its first 50 bytes. -/
def excerpt (sql : Text) : Text :=
  sql.take 50

/-- What a failed statement reports. -/
def failed (migration : Migration) (statement : MigrationStatement) (fault : Fault) : StoreError :=
  .migrationFailed migration.version migration.name
    ("Failed at statement: " ++ excerpt statement.sql ++ " - " ++ fault.message)

/-! ## Steps -/

/-- When a step is taken, in nanoseconds since 1970, and how long it takes, in
milliseconds. -/
structure Clock where
  now : Int := 0
  elapsed : Int := 0

/-- The row that records a version. -/
def ledgerRow (clock : Clock) (version : Int) (name checksum : Text) : List (Text × Scalar) :=
  [("version", .integer version), ("name", .text name), ("applied_at", .integer clock.now),
    ("checksum", .text checksum), ("execution_time_ms", .integer clock.elapsed),
    ("success", .integer 1)]

/-- A fault of a step as an error of the store. -/
def orFault {α : Type} (result : Except Fault α) : Except StoreError α :=
  result.mapError .database

/-- One step: its statements, the new version, and the record of it. -/
def apply (clock : Clock) (db : Database) (migration : Migration) : Except StoreError Database := do
  let db ← migration.statements.foldlM
    (fun db statement => (make db statement.making).mapError (failed migration statement)) db
  let (db, _) ← orFault (db.update Tables.schemaVersion.name 1
    [("version", .integer migration.version), ("applied_at", .integer clock.now),
      ("description", .text migration.name)])
  orFault (db.insert Tables.schemaMigrations.name
    (ledgerRow clock migration.version migration.name migration.checksum))

/-- The database with a table and the indexes on it.  A table of the name is kept, with
those of the indexes that it lacks. -/
def createTable (db : Database) (table : Schema × List Text) : Database :=
  match db.table? table.1.name with
  | some present =>
      db.withTable { present with
        indexes := present.indexes ++ table.2.filter fun name => !present.indexes.contains name }
  | none => { db with tables := db.tables ++ [⟨table.1, [], table.2, false⟩] }

/-- The database with the tables of the first version and the indexes on them. -/
def createTables (db : Database) : Database :=
  Tables.initial.foldl createTable db

/-- The first version: its tables and the record of it. -/
def firstVersion (clock : Clock) (db : Database) : Except StoreError Database := do
  let db := createTables db
  let db ← orFault (db.insert Tables.schemaVersion.name
    [("id", .integer 1), ("version", .integer 1), ("applied_at", .integer clock.now),
      ("description", .text "Initial schema")])
  orFault (db.insert Tables.schemaMigrations.name
    (ledgerRow clock 1 "initial_schema" (Sha256.hexDigest initialSql)))

/-! ## Running -/

/-- The version that a database records; zero without a record. -/
def recordedVersion (db : Database) : Except Fault Int := do
  let table ← db.requireTable Tables.schemaVersion.name
  match table.row? 1 with
  | none => return 0
  | some row =>
      match row.cell "version" with
      | .integer n => if -2147483648 ≤ n ∧ n ≤ 2147483647 then return n else .error (.outOfRange 0)
      | _ => .error (.outOfRange 0)

/-- The report of a version that there is no step to. -/
def unknownVersion (version : Int) : StoreError :=
  .migrationFailed version "unknown" ("Unknown migration version: " ++ Text.ofInt version)

/-- Steps one after the other up to the first that fails; with the database that the
complete ones made. -/
def applyAll (clock : Clock) : Database → List Migration → Database × Except StoreError Unit
  | db, [] => (db, .ok ())
  | db, migration :: rest =>
      match apply clock db migration with
      | .ok next => applyAll clock next rest
      | .error error => (db, .error error)

/-- The steps from a recorded version to the present one. -/
def advance (clock : Clock) (db : Database) : Database × Except StoreError Unit :=
  match recordedVersion db with
  | .error fault => (db, .error (.database fault))
  | .ok version =>
      if currentVersion ≤ version then (db, .ok ())
      else if version < 0 then (db, .error (unknownVersion (version + 1)))
      else applyAll clock db (later.filter fun migration => version < migration.version)

/-- A database is brought to the present version.  The database that comes with a
failure is the one that the complete steps made. -/
def run (clock : Clock) (db : Database) : Database × Except StoreError Unit :=
  if db.hasTable Tables.schemaVersion.name then advance clock db
  else match firstVersion clock db with
    | .ok next => advance clock next
    | .error error => (db, .error error)

/-! ## The record -/

/-- What a database records of its schema: the version, and the row of each version that
was reached. -/
structure Record where
  version : Option Scalar
  ledger : List Row
  deriving DecidableEq, Repr

/-- The record of a database. -/
def record (db : Database) : Except Fault Record := do
  let versions ← db.requireTable Tables.schemaVersion.name
  let ledger ← db.requireTable Tables.schemaMigrations.name
  return ⟨(versions.row? 1).map fun row => row.cell "version", ledger.rows⟩

/-- The database without the rows of later versions than a given one, and their count. -/
def forgetAfter (version : Int) (db : Database) : Except Fault (Database × Nat) := do
  let ledger ← db.requireTable Tables.schemaMigrations.name
  let later := (ledger.rows.map (·.key)).filter (version < ·)
  return (db.withTable (ledger.without later), later.length)

end Migration

end CatalogListing
