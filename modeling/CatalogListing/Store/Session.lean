/-
# Store.Session -- statements in transactions

A session has what is committed and, while a transaction is open, what the statements of
that transaction have made of it.  A statement sees the latter.  One that fails makes
nothing, but what the statements before it made stays pending: only a transaction that
is dropped takes it back, and only one that is committed makes it last.

A migration takes each step in a transaction of its own, statement by statement
(`Session.migrate`).  It ends as `Migration.run` says, which takes a step at once.  The demo
catalog is inserted in one transaction (`Session.seed`), and whether it is due is read
before.
-/
import CatalogListing.Store.Migration
import CatalogListing.Store.Seed

namespace CatalogListing

set_option autoImplicit false

/-- A statement of a migration. -/
abbrev Statement := Database → Except StoreError Database

/-- A database as it is committed, and what an open transaction has made of it. -/
structure Session where
  committed : Database
  pending : Option Database := none
  deriving DecidableEq, Repr

namespace Session

/-! ## Transactions -/

/-- A session without an open transaction. -/
def idle (db : Database) : Session :=
  ⟨db, none⟩

/-- The database that a statement sees. -/
def seen (session : Session) : Database :=
  session.pending.getD session.committed

/-- A transaction is opened. -/
def enter (session : Session) : Session :=
  { session with pending := some session.seen }

/-- What the transaction has made is there to last. -/
def commit (session : Session) : Session :=
  idle session.seen

/-- What the transaction has made is taken back. -/
def rollBack (session : Session) : Session :=
  idle session.committed

/-- A statement in the open transaction. -/
def execute (session : Session) (statement : Statement) : Session × Except StoreError Unit :=
  match statement session.seen with
  | .ok next => ({ session with pending := some next }, .ok ())
  | .error error => (session, .error error)

/-- Statements one after the other up to the first that fails. -/
def executeAll : Session → List Statement → Session × Except StoreError Unit
  | session, [] => (session, .ok ())
  | session, statement :: rest =>
      match session.execute statement with
      | (next, .ok ()) => executeAll next rest
      | (next, .error error) => (next, .error error)

/-- Statements in a transaction of their own.  It is committed behind the last one, and
dropped when one fails. -/
def transact (session : Session) (statements : List Statement) :
    Session × Except StoreError Unit :=
  match session.enter.executeAll statements with
  | (next, .ok ()) => (next.commit, .ok ())
  | (next, .error error) => (next.rollBack, .error error)

end Session

/-! ## The statements of a migration -/

namespace Migration

/-- The version is set to that of a step. -/
def setVersion (clock : Clock) (migration : Migration) : Statement := fun db =>
  (orFault (db.update Tables.schemaVersion.name 1
    [("version", .integer migration.version), ("applied_at", .integer clock.now),
      ("description", .text migration.name)])).map (·.1)

/-- The statements of a step: its own, the new version, and the record of it. -/
def script (clock : Clock) (migration : Migration) : List Statement :=
  (migration.statements.map fun statement db =>
      (make db statement.making).mapError (failed migration statement)) ++
    [setVersion clock migration, fun db =>
      orFault (db.insert Tables.schemaMigrations.name
        (ledgerRow clock migration.version migration.name migration.checksum))]

/-- The statements of the first version: its tables one by one, and the record of it. -/
def firstScript (clock : Clock) : List Statement :=
  (Tables.initial.map fun table db => .ok (createTable db table)) ++
    [fun db => orFault (db.insert Tables.schemaVersion.name
        [("id", .integer 1), ("version", .integer 1), ("applied_at", .integer clock.now),
          ("description", .text "Initial schema")]),
      fun db => orFault (db.insert Tables.schemaMigrations.name
        (ledgerRow clock 1 "initial_schema" (Sha256.hexDigest initialSql)))]

end Migration

namespace Session

open Migration

/-! ## Migrating -/

/-- Steps one after the other, each in a transaction, up to the first that fails. -/
def takeAll (clock : Clock) : Session → List Migration → Session × Except StoreError Unit
  | session, [] => (session, .ok ())
  | session, migration :: rest =>
      match session.transact (script clock migration) with
      | (next, .ok ()) => takeAll clock next rest
      | (next, .error error) => (next, .error error)

/-- The steps from the recorded version to the present one. -/
def advance (clock : Clock) (session : Session) : Session × Except StoreError Unit :=
  match recordedVersion session.seen with
  | .error fault => (session, .error (.database fault))
  | .ok version =>
      if currentVersion ≤ version then (session, .ok ())
      else if version < 0 then (session, .error (unknownVersion (version + 1)))
      else takeAll clock session (later.filter fun migration => version < migration.version)

/-- The database of a session is brought to the present version. -/
def migrate (clock : Clock) (session : Session) : Session × Except StoreError Unit :=
  if session.seen.hasTable Tables.schemaVersion.name then advance clock session
  else match session.transact (firstScript clock) with
    | (next, .ok ()) => advance clock next
    | (next, .error error) => (next, .error error)

end Session

/-! ## Seeding -/

/-- The insertions of the demo catalog. -/
def Seed.script (createdAt : Text) : List Statement :=
  (rows createdAt).map fun row db => Migration.orFault (db.insert row.1 row.2)

/-- The demo catalog is inserted unless there are authors; with whether it was. -/
def Session.seed (createdAt : Text) (session : Session) : Session × Except StoreError Bool :=
  match session.seen.requireTable Tables.authors.name with
  | .error fault => (session, .error (.database fault))
  | .ok authors =>
      if authors.rows.isEmpty then
        match session.transact (Seed.script createdAt) with
        | (next, .ok ()) => (next, .ok true)
        | (next, .error error) => (next, .error error)
      else (session, .ok false)

end CatalogListing
