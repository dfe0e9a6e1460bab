/-
# Store.Connection -- a database that is open or closed

A store is a database behind connections.  Opening it brings the schema up to date;
once the connections are closed every statement fails with the same transient fault.
A store in a file is opened again with what it held; one in memory starts anew.
-/
import CatalogListing.Store.Fetch
import CatalogListing.Store.Migration
import CatalogListing.Store.Seed

namespace CatalogListing

set_option autoImplicit false

/-- A database behind connections, with its way of going through rows. -/
structure Store where
  database : Database
  inFile : Bool := false
  isOpen : Bool := true
  scan : Scan := .plain

namespace Store

/-- A store over a database whose schema is brought up to date. -/
def ofDatabase (clock : Migration.Clock) (inFile : Bool) (db : Database) :
    Except StoreError Store :=
  match Migration.run clock db with
  | (db, .ok ()) => .ok { database := db, inFile }
  | (_, .error error) => .error error

/-- The store without connections. -/
def close (store : Store) : Store :=
  { store with isOpen := false }

/-- The store closed and opened again. -/
def reopen (clock : Migration.Clock) (store : Store) : Except StoreError Store := do
  let opened ← ofDatabase clock store.inFile (if store.inFile then store.database else {})
  return { opened with scan := store.scan }

/-! ## Statements -/

/-- The result of a statement that reads. -/
def read {α : Type} (store : Store) (statement : Database → Except Fault α) : Except Fault α :=
  if store.isOpen then statement store.database else .error .closed

/-- The store after a statement that writes, with its result. -/
def write {α : Type} (store : Store) (statement : Database → Except Fault (Database × α)) :
    Except Fault (Store × α) := do
  let (db, result) ← store.read statement
  return ({ store with database := db }, result)

/-- A sign of life. -/
def ping (store : Store) : Except Fault Unit :=
  store.read fun _ => .ok ()

/-- The listing of a selection with associations of some names. -/
def fetch (store : Store) (selection : Selection) (preload : List Text) : Except Fault Listed :=
  store.read fun db => db.fetch store.scan selection preload

/-- The demo catalog is inserted, and whether it was. -/
def seed (createdAt : Text) (store : Store) : Except Fault (Store × Bool) :=
  store.write (Seed.run createdAt)

end Store

end CatalogListing
