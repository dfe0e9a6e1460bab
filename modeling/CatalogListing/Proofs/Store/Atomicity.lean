/-
# Proofs.Store.Atomicity -- a failed migration

A migration takes its steps one after the other, each statement by statement in a
transaction.  What a failing step has made until then is taken back, so the database is
the one that the complete steps made; a migration that takes no step leaves the database
as it was (`migration_fails_behind_complete_steps`).  No step touches a row of the
catalog, whether it completes or not.

* `Session.transact_of_ok`, `Session.transact_of_error`: a transaction is all of its
  statements or none;
* `Session.migrate_idle`: a migration statement by statement ends as `Migration.run` says;
* `Ends`: how a migration ends, told from the steps that are due (`stepsDue`).
-/
import CatalogListing.Proofs.Store.Copy
import CatalogListing.Proofs.Store.Settling
import CatalogListing.Store.Session

namespace CatalogListing

set_option autoImplicit false

open Migration

/-! ## Transactions -/

namespace Session

/-- What statements make of a database, one after the other. -/
def effect (statements : List Statement) (db : Database) : Except StoreError Database :=
  statements.foldlM (fun db statement => statement db) db

/-- Statements that all complete leave what they made pending; what is committed stays. -/
theorem executeAll_of_ok (committed : Database) {statements : List Statement}
    {db next : Database} (done : effect statements db = .ok next) :
    executeAll ⟨committed, some db⟩ statements = (⟨committed, some next⟩, .ok ()) := by
  induction statements generalizing db with
  | nil =>
      cases done
      rfl
  | cons statement rest ih =>
      rw [effect, List.foldlM_cons] at done
      obtain ⟨mid, made, done⟩ := Database.ok_of_bind done
      rw [executeAll, execute, seen, Option.getD_some, made]
      exact ih done

/-- A statement that fails leaves what the ones before it made pending; what is committed
stays. -/
theorem executeAll_of_error (committed : Database) {statements : List Statement}
    {db : Database} {error : StoreError} (failed : effect statements db = .error error) :
    ∃ left, executeAll ⟨committed, some db⟩ statements =
      (⟨committed, some left⟩, .error error) := by
  induction statements generalizing db with
  | nil => cases failed
  | cons statement rest ih =>
      rw [effect, List.foldlM_cons] at failed
      rw [executeAll, execute, seen, Option.getD_some]
      cases made : statement db with
      | error _ =>
          rw [made] at failed
          cases failed
          exact ⟨db, rfl⟩
      | ok mid =>
          rw [made] at failed
          exact ih failed

/-- A transaction whose statements all complete is committed. -/
theorem transact_of_ok {statements : List Statement} {db next : Database}
    (done : effect statements db = .ok next) :
    (idle db).transact statements = (idle next, .ok ()) := by
  have executed := executeAll_of_ok db done
  unfold transact
  rw [show (idle db).enter = ⟨db, some db⟩ from rfl, executed]
  rfl

/-- A transaction with a statement that fails leaves nothing of what it made. -/
theorem transact_of_error {statements : List Statement} {db : Database} {error : StoreError}
    (failed : effect statements db = .error error) :
    (idle db).transact statements = (idle db, .error error) := by
  obtain ⟨left, executed⟩ := executeAll_of_error db failed
  unfold transact
  rw [show (idle db).enter = ⟨db, some db⟩ from rfl, executed]
  rfl

/-! ## Steps as transactions -/

variable (clock : Clock)

/-- The statements of a step make what the step makes at once. -/
theorem effect_script (migration : Migration) (db : Database) :
    effect (script clock migration) db = apply clock db migration := by
  unfold effect script apply
  rw [List.foldlM_append, List.foldlM_map]
  congr 1
  funext made
  simp only [List.foldlM_cons, List.foldlM_nil, setVersion, bind_pure]
  cases made.update Tables.schemaVersion.name 1
    [("version", .integer migration.version), ("applied_at", .integer clock.now),
      ("description", .text migration.name)] <;> rfl

/-- Tables that are made one by one are there when all are made. -/
theorem effect_createTable (tables : List (Schema × List Text)) (db : Database) :
    effect (tables.map fun table db => .ok (createTable db table)) db =
      .ok (tables.foldl createTable db) := by
  induction tables generalizing db with
  | nil => rfl
  | cons table rest ih => exact ih (createTable db table)

/-- The statements of the first version make what it makes at once. -/
theorem effect_firstScript (db : Database) :
    effect (firstScript clock) db = firstVersion clock db := by
  unfold effect firstScript firstVersion
  rw [List.foldlM_append]
  have tables := effect_createTable Tables.initial db
  unfold effect at tables
  rw [tables]
  simp only [List.foldlM_cons, List.foldlM_nil, bind_pure]
  rfl

/-! ## Migrations as transactions -/

theorem takeAll_idle (migrations : List Migration) (db : Database) :
    takeAll clock (idle db) migrations =
      (idle (applyAll clock db migrations).1, (applyAll clock db migrations).2) := by
  induction migrations generalizing db with
  | nil => rfl
  | cons migration rest ih =>
      rw [takeAll, applyAll]
      cases applied : apply clock db migration with
      | ok next =>
          rw [transact_of_ok ((effect_script clock migration db).trans applied)]
          exact ih next
      | error error =>
          rw [transact_of_error ((effect_script clock migration db).trans applied)]

theorem advance_idle (db : Database) :
    advance clock (idle db) =
      (idle (Migration.advance clock db).1, (Migration.advance clock db).2) := by
  unfold advance Migration.advance
  rw [show (idle db).seen = db from rfl]
  cases recordedVersion db with
  | error fault => rfl
  | ok version =>
      simp only [takeAll_idle]
      split
      · rfl
      · split <;> rfl

/-- **A migration statement by statement ends as one that takes its steps at once**, without
an open transaction. -/
theorem migrate_idle (db : Database) :
    migrate clock (idle db) = (idle (run clock db).1, (run clock db).2) := by
  unfold migrate run
  rw [show (idle db).seen = db from rfl]
  split
  · exact advance_idle clock db
  · cases first : firstVersion clock db with
    | ok next =>
        rw [transact_of_ok ((effect_firstScript clock db).trans first)]
        exact advance_idle clock next
    | error error =>
        rw [transact_of_error ((effect_firstScript clock db).trans first)]

end Session

/-! ## How a migration ends -/

namespace Migration

/-- A step of a migration: to the first version, or a later one. -/
inductive Step where
  | first
  | later (migration : Migration)

/-- The statements of a step. -/
def Step.script (clock : Clock) : Step → List Statement
  | .first => firstScript clock
  | .later migration => Migration.script clock migration

/-- The steps that are due: all of them where there is no table for the version, and those
behind the recorded version. -/
def stepsDue (db : Database) : List Step :=
  if db.hasTable Tables.schemaVersion.name then
    match recordedVersion db with
    | .ok version => (stepsFrom version).map .later
    | .error _ => []
  else .first :: later.map .later

/-- Steps of which every statement is complete, one after the other. -/
inductive Complete (clock : Clock) : Database → List Step → Database → Prop
  | none (db : Database) : Complete clock db [] db
  | more {db mid next : Database} {step : Step} {rest : List Step} :
      Session.effect (step.script clock) db = .ok mid → Complete clock mid rest next →
      Complete clock db (step :: rest) next

/-- How a migration of a database ends. -/
inductive Ends (clock : Clock) (db : Database) : Database → Except StoreError Unit → Prop
  /-- Every step that was due is complete. -/
  | complete {next : Database} : Complete clock db (stepsDue db) next → Ends clock db next (.ok ())
  /-- A statement of a step failed, and what the steps before that step made is left. -/
  | failed {done rest : List Step} {step : Step} {next : Database} {error : StoreError} :
      stepsDue db = done ++ step :: rest → Complete clock db done next →
      Session.effect (step.script clock) next = .error error → Ends clock db next (.error error)
  /-- The recorded version cannot be read. -/
  | unread {fault : Fault} : db.hasTable Tables.schemaVersion.name = true →
      recordedVersion db = .error fault → Ends clock db db (.error (.database fault))
  /-- There is no step behind the recorded version. -/
  | unknown {version : Int} : db.hasTable Tables.schemaVersion.name = true →
      recordedVersion db = .ok version → version < 0 →
      Ends clock db db (.error (unknownVersion (version + 1)))

variable {clock : Clock} {db next : Database}

theorem Complete.append {mid : Database} {steps rest : List Step}
    (first : Complete clock db steps mid) (second : Complete clock mid rest next) :
    Complete clock db (steps ++ rest) next := by
  induction first with
  | none _ => exact second
  | more taken _ ih => exact .more taken (ih second)

/-- Later steps are all complete behind those before them, or one of them failed on what is
complete by then. -/
theorem Ends.of_applyAll {mid : Database} {done : List Step} {migrations : List Migration}
    (due : stepsDue db = done ++ migrations.map .later) (complete : Complete clock db done mid) :
    Ends clock db (applyAll clock mid migrations).1 (applyAll clock mid migrations).2 := by
  induction migrations generalizing mid done with
  | nil =>
      rw [List.map_nil, List.append_nil] at due
      exact .complete (due ▸ complete)
  | cons migration rest ih =>
      rw [List.map_cons] at due
      have effect := Session.effect_script clock migration mid
      rw [applyAll]
      cases applied : apply clock mid migration with
      | error error => exact .failed due complete (effect.trans applied)
      | ok made =>
          rw [List.append_cons] at due
          exact ih due (complete.append (.more (effect.trans applied) (.none made)))

theorem stepsFrom_eq_nil {version : Int} (notOlder : currentVersion ≤ version) :
    stepsFrom version = [] := by
  unfold currentVersion at notOlder
  refine List.filter_eq_nil_iff.2 fun migration member behind => ?_
  have older : version < migration.version := of_decide_eq_true behind
  simp only [later, List.mem_cons, List.not_mem_nil, or_false] at member
  rcases member with rfl | rfl
  · change version < 2 at older
    omega
  · change version < 3 at older
    omega

/-- Behind the first version all later steps are due. -/
theorem recordedVersion_of_firstVersion
    (absent : ¬ db.hasTable Tables.schemaVersion.name = true)
    (done : firstVersion clock db = .ok next) : recordedVersion next = .ok 1 := by
  refine recordedVersion_of_version? (version?_of_firstVersion (fun table found => ?_) done)
    (by decide)
  have none_ : db.table? Tables.schemaVersion.name = none := by
    rwa [Database.hasTable, Option.isSome_iff_ne_none, not_not] at absent
  have content := content?_createTables db Tables.schemaVersion.name
  rw [Database.content?, Database.content?, found, none_, Option.map_none, Option.none_or] at content
  exact congrArg Prod.fst (Option.some.inj content)

/-- A run ends in one of these ways. -/
theorem ends_run (clock : Clock) (db : Database) :
    Ends clock db (run clock db).1 (run clock db).2 := by
  unfold run
  split
  · rename_i versions
    unfold advance
    cases read : recordedVersion db with
    | error fault => exact .unread versions read
    | ok version =>
        have due : stepsDue db = [] ++ (stepsFrom version).map .later := by
          rw [stepsDue, if_pos versions, read, List.nil_append]
        dsimp only
        split
        · rename_i notOlder
          rw [stepsFrom_eq_nil notOlder] at due
          exact .complete (due ▸ .none db)
        · split
          · rename_i negative
            exact .unknown versions read negative
          · exact .of_applyAll due (.none db)
  · rename_i absent
    have due : stepsDue db = [.first] ++ later.map .later := by
      rw [stepsDue, if_neg absent, List.singleton_append]
    have effect := Session.effect_firstScript clock db
    cases first : firstVersion clock db with
    | error error =>
        rw [List.singleton_append, ← List.nil_append (_ :: _)] at due
        exact .failed due (.none db) (effect.trans first)
    | ok mid =>
        have read := recordedVersion_of_firstVersion absent first
        have advances : advance clock mid = applyAll clock mid later := by
          unfold advance
          rw [read]
          rfl
        dsimp only
        rw [advances]
        exact .of_applyAll due (.more (effect.trans first) (.none mid))

/-! ## The rows of the catalog -/

theorem rowsOf_eq_content? (db : Database) (name : Text) :
    db.rowsOf name = ((db.content? name).map Prod.snd).getD [] := by
  rw [Database.rowsOf, Database.content?, Option.map_map]
  cases db.table? name <;> rfl

theorem rowsOf_of_content? {name : Text} (same : next.content? name = db.content? name) :
    next.rowsOf name = db.rowsOf name := by
  rw [rowsOf_eq_content?, rowsOf_eq_content?, same]

/-- Making the tables of the first version makes no rows. -/
theorem rowsOf_createTables (db : Database) (name : Text) :
    (createTables db).rowsOf name = db.rowsOf name := by
  rw [rowsOf_eq_content?, rowsOf_eq_content?, content?_createTables]
  cases db.content? name with
  | some content => rfl
  | none =>
      rw [Option.none_or]
      cases Tables.initial.find? fun table => table.1.name == name <;> rfl

/-- A step writes to the two tables that record it, and to no other. -/
theorem rowsOf_effect {step : Step} (done : Session.effect (step.script clock) db = .ok next)
    {schema : Schema} (listed : schema ∈ catalogSchemas) :
    next.rowsOf schema.name = db.rowsOf schema.name := by
  have apart : ∀ schema ∈ catalogSchemas, schema.name ≠ Tables.schemaVersion.name ∧
      schema.name ≠ Tables.schemaMigrations.name := by
    decide
  replace apart := apart schema listed
  cases step with
  | first =>
      replace done := (Session.effect_firstScript clock db).symm.trans done
      unfold firstVersion at done
      obtain ⟨mid, versioning, done⟩ := Database.ok_of_bind done
      obtain ⟨versions, row, versioned⟩ := Database.exists_inserted (ok_of_mapError versioning)
      obtain ⟨ledger, record, recorded⟩ := Database.exists_inserted (ok_of_mapError done)
      rw [← rowsOf_createTables db, Database.rowsOf, Database.rowsOf,
        recorded.table?_of_ne apart.2, versioned.table?_of_ne apart.1]
  | later migration =>
      obtain ⟨made, versioned, table, row, kept, updated, inserted⟩ :=
        exists_applied ((Session.effect_script clock migration db).symm.trans done)
      rw [← rowsOf_of_content? (kept schema.name), Database.rowsOf, Database.rowsOf,
        inserted.table?_of_ne apart.2]
      cases updated with
      | nothing found absent => rfl
      | row replaced => rw [replaced.table?_of_ne apart.1]

theorem Complete.rowsOf {steps : List Step} (complete : Complete clock db steps next)
    {schema : Schema} (listed : schema ∈ catalogSchemas) :
    next.rowsOf schema.name = db.rowsOf schema.name := by
  induction complete with
  | none db => rfl
  | more taken _ ih => rw [ih, rowsOf_effect taken listed]

theorem Ends.rowsOf {result : Except StoreError Unit} (ends : Ends clock db next result)
    {schema : Schema} (listed : schema ∈ catalogSchemas) :
    next.rowsOf schema.name = db.rowsOf schema.name := by
  cases ends with
  | complete complete => exact complete.rowsOf listed
  | failed _ complete _ => exact complete.rowsOf listed
  | unread => rfl
  | unknown => rfl

/-- **A migration that fails leaves what its complete steps made.**  Taken statement by
statement from any database, it ends without an open transaction.  What is committed then
is what the complete steps made, without a trace of the step that failed, and its rows are
those that the catalog had. -/
theorem migration_fails_behind_complete_steps (clock : Clock) (db : Database) :
    ∃ next result, Session.migrate clock (.idle db) = (.idle next, result) ∧
      run clock db = (next, result) ∧ Ends clock db next result ∧
      ∀ schema ∈ catalogSchemas, next.rowsOf schema.name = db.rowsOf schema.name := by
  have ends := ends_run clock db
  exact ⟨_, _, Session.migrate_idle clock db, rfl, ends, fun _ listed => ends.rowsOf listed⟩

/-- A database at the first version, with a book, whose ledger has the third one already. -/
def overLogged : Database :=
  catalogOf [versionRow {} 1 "Initial schema"] [firstRow {}, thirdRow {}]
    { books := [⟨7, [("title", .text "Dragon Tales")]⟩] } [] false none

set_option maxRecDepth 4000 in
theorem run_overLogged : run {} overLogged =
    (catalogOf [versionRow {} 2 reviewIndexes.name] [firstRow {}, secondRow {}, thirdRow {}]
      { books := [⟨7, [("title", .text "Dragon Tales")]⟩] } reviewerIndexes false none,
      .error (.database
        (.rejected 1555 "UNIQUE constraint failed: schema_migrations.version"))) := by
  have second : apply {} overLogged reviewIndexes =
      .ok (catalogOf [versionRow {} 2 reviewIndexes.name] [firstRow {}, secondRow {}, thirdRow {}]
        { books := [⟨7, [("title", .text "Dragon Tales")]⟩] } reviewerIndexes false none) := by
    unfold apply overLogged firstRow secondRow thirdRow
    generalize Sha256.hexDigest initialSql = first
    generalize reviewIndexes.checksum = digest
    generalize fullText.checksum = last
    rfl
  have third : apply {} (catalogOf [versionRow {} 2 reviewIndexes.name]
        [firstRow {}, secondRow {}, thirdRow {}]
        { books := [⟨7, [("title", .text "Dragon Tales")]⟩] } reviewerIndexes false none)
        fullText =
      .error (.database
        (.rejected 1555 "UNIQUE constraint failed: schema_migrations.version")) := by
    unfold apply firstRow secondRow thirdRow
    generalize Sha256.hexDigest initialSql = first
    generalize reviewIndexes.checksum = digest
    generalize fullText.checksum = last
    rfl
  have version : recordedVersion overLogged = .ok 1 := rfl
  have steps : stepsFrom 1 = [reviewIndexes, fullText] := rfl
  rw [run_eq_applyAll version (by decide), steps]
  simp only [applyAll, second, third]

/-- The last step fails when it has made the index and has its books watched already.  The
database is left at the second version, without an index, and has its book. -/
theorem overLogged_stops_at_second :
    Tables.books ∈ catalogSchemas ∧ ∃ next,
      Session.migrate {} (.idle overLogged) = (.idle next, .error (.database
        (.rejected 1555 "UNIQUE constraint failed: schema_migrations.version"))) ∧
      version? next = some (.integer 2) ∧ next.index = none ∧
      next.rowsOf Tables.books.name = overLogged.rowsOf Tables.books.name := by
  have listed : Tables.books ∈ catalogSchemas := by decide
  obtain ⟨next, result, migrated, ran, -, rows⟩ :=
    migration_fails_behind_complete_steps {} overLogged
  obtain ⟨rfl, rfl⟩ := Prod.mk.inj (run_overLogged.symm.trans ran)
  exact ⟨listed, _, migrated, rfl, rfl, rows Tables.books listed⟩

end Migration

end CatalogListing
