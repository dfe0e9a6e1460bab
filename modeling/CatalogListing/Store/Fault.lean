/-
# Store.Fault -- what can go wrong in a database

The causes for which a statement does not complete, and their texts.  A fault is
transient when the same statement may complete later: no connection was free, the
connections are closed, or the communication broke.
-/
import CatalogListing.Text.Number

namespace CatalogListing

set_option autoImplicit false

/-- Why a statement did not complete. -/
inductive Fault where
  | timedOut
  | closed
  | rowNotFound
  | workerCrashed
  | communication (text : Text)
  | protocol (text : Text)
  | columnNotFound (column : Text)
  /-- The database refused the statement, with a code and a reason. -/
  | rejected (code : Nat) (reason : Text)
  /-- A column holds an integer beyond the range asked for. -/
  | outOfRange (column : Nat)
  deriving DecidableEq, Repr

namespace Fault

def isTransient : Fault → Bool
  | .timedOut | .closed | .communication _ => true
  | _ => false

def message : Fault → Text
  | .timedOut => "pool timed out while waiting for an open connection"
  | .closed => "attempted to acquire a connection on a closed pool"
  | .rowNotFound => "no rows returned by a query that expected to return at least one row"
  | .workerCrashed => "attempted to communicate with a crashed background worker"
  | .communication text => "error communicating with database: " ++ text
  | .protocol text => "encountered unexpected or invalid data: " ++ text
  | .columnNotFound column => "no column found for name: " ++ column
  | .rejected code reason =>
      "error returned from database: (code: " ++ Text.ofNat code ++ ") " ++ reason
  | .outOfRange column =>
      "error occurred while decoding column " ++ Text.ofNat column ++
        ": out of range integral type conversion attempted"

end Fault

/-- Why an operation on the store failed. -/
inductive StoreError where
  | database (fault : Fault)
  | migrationFailed (version : Int) (name reason : Text)
  | io (text : Text)
  deriving DecidableEq, Repr

/-- What is known of a migration that failed. -/
def migrationSubject (version : Int) (name : Text) : Text :=
  "Migration " ++ Text.ofInt version ++ " (" ++ name ++ ") failed"

def StoreError.message : StoreError → Text
  | .database fault => "Database error: " ++ fault.message
  | .migrationFailed version name reason => migrationSubject version name ++ ": " ++ reason
  | .io text => "IO error: " ++ text

end CatalogListing
