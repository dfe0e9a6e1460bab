/-
# Proofs.Store.Seeding -- the guard of the demo catalog

The demo catalog is inserted when there are no authors.  Nothing is asked of the books and the
reviews, and that is enough: where every book has its author and every review its book, a
database without authors has none of either.

* `Seed.insertAll_demo`: into a catalog without rows the demo catalog goes as a whole;
* `Session.seed_idle`: seeding in a transaction ends as `Seed.run` says, which inserts at once;
* `seeding_rests_on_references`: the two together, in every state that writes and seedings
  reach.
-/
import CatalogListing.Proofs.Store.Atomicity
import CatalogListing.Proofs.Store.Referential
import CatalogListing.Proofs.Store.Upgrade

namespace CatalogListing

set_option autoImplicit false

open Database (Inserted)

/-! ## The demo catalog -/

namespace Seed

/-- The row that given values make in a table. -/
def row (schema : Schema) (given : List (Text × Scalar)) : Row where
  key := match given.lookup schema.key with
    | some (.integer n) => n
    | _ => 0
  cells := schema.columns.map (Database.cellOf given)

/-- The demo rows have the values that were given for them. -/
theorem values_authors (createdAt : Text) :
    (authors createdAt).map (fun given => (row Tables.authors given).values Tables.authors) =
      authors createdAt := rfl

theorem values_books :
    books.map (fun given => (row Tables.books given).values Tables.books) = books := by
  decide +kernel

theorem values_reviews :
    reviews.map (fun given => (row Tables.reviews given).values Tables.reviews) = reviews := by
  decide +kernel

/-! ## Demo rows are admitted -/

/-- A table with the demo authors of some time. -/
def authorsAt (createdAt : Text) : Table :=
  ⟨Tables.authors, (authors createdAt).map (row Tables.authors), [], false⟩

def demoBooks : Table :=
  ⟨Tables.books, books.map (row Tables.books), [], false⟩

def demoReviews : Table :=
  ⟨Tables.reviews, reviews.map (row Tables.reviews), [], false⟩

/-- The tables with the rows of the demo catalog, and nothing else. -/
def demo (createdAt : Text) : Database where
  tables := [authorsAt createdAt, demoBooks, demoReviews]

theorem admits_demoBooks : demoBooks.Admits := by
  decide +kernel

theorem admits_demoReviews : demoReviews.Admits := by
  decide +kernel

section

variable (createdAt : Text) (id : Int) (name country bio : String) (active : Bool)
  (bornAt : String)

theorem stores_author : Tables.authors.Stores
    (row Tables.authors (author createdAt id name country bio active bornAt)) := rfl

/-- Nothing is asked of the time at which an author is inserted. -/
theorem requireChecks_author :
    Database.requireChecks (authorsAt createdAt)
        (row Tables.authors (author createdAt id name country bio active bornAt)) =
      Database.requireChecks (authorsAt [])
        (row Tables.authors (author [] id name country bio active bornAt)) := rfl

theorem requireValues_author :
    Database.requireValues (authorsAt createdAt)
        (row Tables.authors (author createdAt id name country bio active bornAt)) = .ok () := rfl

theorem requireUnique_author (others : List Row) :
    Database.requireUnique ⟨Tables.authors, others, [], false⟩
        (row Tables.authors (author createdAt id name country bio active bornAt)) = .ok () := rfl

end

theorem admits_authors (createdAt : Text) : (authorsAt createdAt).Admits := by
  have keys : (authorsAt createdAt).rows.map (·.key) = [1, 2, 3, 4] := rfl
  have checks : ∀ one ∈ (authorsAt []).rows,
      Database.requireChecks (authorsAt []) one = .ok () := by decide +kernel
  have isAuthor : ∀ one ∈ (authorsAt createdAt).rows, ∃ id name country bio active bornAt,
      one = row Tables.authors (author createdAt id name country bio active bornAt) ∧
        row Tables.authors (author [] id name country bio active bornAt) ∈ (authorsAt []).rows := by
    simp only [authorsAt, authors, List.map_cons, List.map_nil, List.forall_mem_cons]
    refine ⟨?_, ?_, ?_, ?_, fun _ none_ => (List.not_mem_nil none_).elim⟩ <;>
      exact ⟨_, _, _, _, _, _, rfl, by simp⟩
  refine ⟨List.pairwise_map.1 (keys ▸ (by decide : [(1 : Int), 2, 3, 4].Pairwise (· < ·))),
    ?_, ?_, ?_, ?_⟩
  all_goals
    intro one member
    obtain ⟨id, name, country, bio, active, bornAt, rfl, same⟩ := isAuthor one member
  · exact stores_author ..
  · exact requireValues_author ..
  · exact (requireChecks_author ..).trans (checks _ same)
  · exact requireUnique_author ..

/-- The demo books name the demo authors, and the demo reviews the demo books. -/
theorem referential_demo (createdAt : Text) : (demo createdAt).Referential := by
  have authors : ((demo createdAt).rowsOf Tables.authors.name).map (·.key) = [1, 2, 3, 4] := rfl
  have books : ((demo createdAt).rowsOf Tables.books.name).map (·.key) = [1, 2, 3, 4, 5, 6] := rfl
  have toAuthors : ∀ one ∈ demoBooks.rows,
      ∃ key ∈ ([1, 2, 3, 4] : List Int), one.cell "author_id" = .integer key := by decide +kernel
  have toBooks : ∀ one ∈ demoReviews.rows,
      ∃ key ∈ ([1, 2, 3, 4, 5, 6] : List Int), one.cell "book_id" = .integer key := by
    decide +kernel
  refine ⟨fun one member => ?_, fun one member => ?_⟩
  · obtain ⟨key, isKey, cell⟩ := toAuthors one member
    rw [← authors] at isKey
    obtain ⟨other, there, rfl⟩ := List.mem_map.1 isKey
    exact ⟨other, there, cell⟩
  · obtain ⟨key, isKey, cell⟩ := toBooks one member
    rw [← books] at isKey
    obtain ⟨other, there, rfl⟩ := List.mem_map.1 isKey
    exact ⟨other, there, cell⟩

theorem admitted_demo (createdAt : Text) : (demo createdAt).Admitted := by
  have referential := Database.referential_iff.1 (referential_demo createdAt)
  have leads (schema : Schema) (listed : schema ∈ catalogSchemas) (table : Table)
      (found : (demo createdAt).table? schema.name = some table) :
      ∀ one ∈ table.rows, ∀ reference ∈ schema.references,
        (demo createdAt).refers reference one = true := by
    intro one member reference among
    rw [← Database.rowsOf_eq found] at member
    obtain ⟨other, there, cell⟩ := referential schema listed reference among one member
    exact Database.refers_iff.2 (Or.inr ⟨_, cell, List.mem_map_of_mem there⟩)
  refine forall_catalogSchemas ?_ ?_ ?_ <;> intro table found
  · have among := leads Tables.authors (by decide) table found
    obtain rfl := Option.some.inj found
    exact ⟨rfl, admits_authors createdAt, among⟩
  · have among := leads Tables.books (by decide) table found
    obtain rfl := Option.some.inj found
    exact ⟨rfl, admits_demoBooks, among⟩
  · have among := leads Tables.reviews (by decide) table found
    obtain rfl := Option.some.inj found
    exact ⟨rfl, admits_demoReviews, among⟩

/-- The demo rows as they are inserted are those of the demo catalog, with all their values. -/
theorem rows_eq (createdAt : Text) :
    rows createdAt =
      (demo createdAt).catalogRows.map fun one => (one.1.name, one.2.values one.1) := by
  have parts : (demo createdAt).catalogRows =
      ((authors createdAt).map fun given => (Tables.authors, row Tables.authors given)) ++
        (books.map fun given => (Tables.books, row Tables.books given)) ++
        reviews.map fun given => (Tables.reviews, row Tables.reviews given) := by
    simp only [Database.catalogRows, catalogSchemas, List.flatMap_cons, List.flatMap_nil,
      List.append_nil, List.append_assoc]
    have ofAuthors : (demo createdAt).rowsOf Tables.authors.name =
        (authors createdAt).map (row Tables.authors) := rfl
    have ofBooks : (demo createdAt).rowsOf Tables.books.name = books.map (row Tables.books) := rfl
    have ofReviews : (demo createdAt).rowsOf Tables.reviews.name =
        reviews.map (row Tables.reviews) := rfl
    rw [ofAuthors, ofBooks, ofReviews, List.map_map, List.map_map, List.map_map]
    rfl
  have named (name : Text) (schema : Schema) (givens : List (List (Text × Scalar)))
      (values : givens.map (fun given => (row schema given).values schema) = givens) :
      givens.map (fun given => (name, given)) =
        givens.map fun given => (name, (row schema given).values schema) := by
    conv_lhs => rw [← values]
    rw [List.map_map]
    rfl
  rw [parts, List.map_append, List.map_append, List.map_map, List.map_map, List.map_map, rows,
    named _ _ _ (values_authors createdAt), named _ _ _ values_books, named _ _ _ values_reviews]
  rfl

/-! ## Seeding at once -/

/-- The demo catalog is inserted by copying its rows. -/
theorem insertAll_eq (createdAt : Text) (db : Database) :
    (rows createdAt).foldlM (fun db row => db.insert row.1 row.2) db =
      db.copyInto (demo createdAt).catalogRows := by
  rw [rows_eq, List.foldlM_map]
  rfl

/-- **Into a catalog without rows the demo catalog goes as a whole.** -/
theorem insertAll_demo (createdAt : Text) {db : Database} (catalog : IsCatalog db)
    (ordered : db.InOrder) (new : ∀ schema ∈ catalogSchemas, db.rowsOf schema.name = []) :
    ∃ next, (rows createdAt).foldlM (fun db row => db.insert row.1 row.2) db = .ok next ∧
      IsCatalog next ∧ next.InOrder ∧
      ∀ schema ∈ catalogSchemas, next.rowsOf schema.name = (demo createdAt).rowsOf schema.name := by
  have admitted := admitted_demo createdAt
  obtain ⟨next, copied⟩ := exists_copyInto admitted catalog new
  obtain ⟨shaped, -, sorted⟩ := keeps_copyInto catalog admitted.allStored copied
  refine ⟨next, (insertAll_eq createdAt db).trans copied, shaped, sorted ordered,
    fun schema listed => ?_⟩
  obtain ⟨table, found, -⟩ := catalog.exists_catalogTable listed
  rw [Database.rowsOf_eq
    (table?_of_copyInto admitted catalog ordered new (.refl _) copied listed found)]

/-- Rows that are inserted go to tables that are there. -/
theorem schema?_of_insertAll {given : List (Text × List (Text × Scalar))} {db next : Database}
    (done : given.foldlM (fun db row => db.insert row.1 row.2) db = .ok next) :
    ∀ one ∈ given, (db.schema? one.1).isSome = true := by
  induction given generalizing db with
  | nil => exact fun _ none_ => (List.not_mem_nil none_).elim
  | cons first rest ih =>
      rw [List.foldlM_cons] at done
      obtain ⟨mid, inserting, done⟩ := Database.ok_of_bind done
      obtain ⟨table, made, inserted⟩ := Database.exists_inserted inserting
      rw [List.forall_mem_cons]
      refine ⟨by rw [Database.schema?, inserted.found]; rfl, fun one member => ?_⟩
      rw [← inserted.schema? one.1]
      exact ih done one member

/-- There are demo rows for each of the tables. -/
theorem exists_row (createdAt : Text) :
    ∀ schema ∈ catalogSchemas, ∃ one ∈ rows createdAt, one.1 = schema.name := by
  have authors : (Tables.authors.name, (authors createdAt).head (by simp [authors])) ∈
      rows createdAt := List.mem_append_left _ (List.mem_append_left _
        (List.mem_map_of_mem (List.head_mem _)))
  have books : (Tables.books.name, books.head (by simp [books])) ∈ rows createdAt :=
    List.mem_append_left _ (List.mem_append_right _ (List.mem_map_of_mem (List.head_mem _)))
  have reviews : (Tables.reviews.name, reviews.head (by simp [reviews])) ∈ rows createdAt :=
    List.mem_append_right _ (List.mem_map_of_mem (List.head_mem _))
  exact forall_catalogSchemas ⟨_, authors, rfl⟩ ⟨_, books, rfl⟩ ⟨_, reviews, rfl⟩

/-- Without one of the tables the demo catalog is not inserted, unless there are authors. -/
theorem run_of_missing (createdAt : Text) {db : Database}
    (missing : ∃ schema ∈ catalogSchemas, db.table? schema.name = none)
    (none_ : db.rowsOf Tables.authors.name = []) : ∃ fault, run createdAt db = .error fault := by
  cases done : run createdAt db with
  | error fault => exact ⟨fault, rfl⟩
  | ok result =>
      obtain ⟨schema, listed, absent⟩ := missing
      unfold run at done
      obtain ⟨authors, required, done⟩ := Database.ok_of_bind done
      rw [Database.rowsOf_eq (Database.table?_of_requireTable required)] at none_
      rw [none_, List.isEmpty_nil, if_pos rfl] at done
      obtain ⟨next, inserted, -⟩ := Database.ok_of_bind done
      obtain ⟨one, member, named⟩ := exists_row createdAt schema listed
      have there := schema?_of_insertAll inserted one member
      rw [named, Database.schema?, absent] at there
      cases there

end Seed

/-! ## Seeding in a transaction -/

namespace Session

open Migration (orFault)

theorem foldlM_orFault {α : Type} (step : Database → α → Except Fault Database) (list : List α)
    (db : Database) :
    list.foldlM (fun db one => orFault (step db one)) db = orFault (list.foldlM step db) := by
  induction list generalizing db with
  | nil => rfl
  | cons first rest ih =>
      rw [List.foldlM_cons, List.foldlM_cons]
      cases step db first with
      | error fault => rfl
      | ok next => exact ih next

/-- **Seeding in a transaction is seeding at once**, and a seeding that fails leaves no row. -/
theorem seed_idle (createdAt : Text) (db : Database) :
    (idle db).seed createdAt =
      match Seed.run createdAt db with
      | .ok (next, seeded) => (idle next, .ok seeded)
      | .error fault => (idle db, .error (.database fault)) := by
  have statements : effect (Seed.script createdAt) db = orFault
      ((Seed.rows createdAt).foldlM (fun db row => db.insert row.1 row.2) db) := by
    rw [effect, Seed.script, List.foldlM_map]
    exact foldlM_orFault (fun db (row : Text × List (Text × Scalar)) => db.insert row.1 row.2) _ db
  rw [seed, Seed.run, show (idle db).seen = db from rfl]
  cases db.requireTable Tables.authors.name with
  | error fault => rfl
  | ok authors =>
      simp only [bind, Except.bind]
      split
      · cases inserted :
            (Seed.rows createdAt).foldlM (fun db row => db.insert row.1 row.2) db with
        | error fault =>
            rw [inserted] at statements
            rw [transact_of_error statements]
        | ok next =>
            rw [inserted] at statements
            rw [transact_of_ok statements]
            rfl
      · rfl

/-- A seeding that fails leaves the session as it was. -/
theorem seed_of_error {createdAt : Text} {db : Database} {error : StoreError}
    (failed : ((idle db).seed createdAt).2 = .error error) :
    (idle db).seed createdAt = (idle db, .error error) := by
  rw [seed_idle] at failed ⊢
  cases ran : Seed.run createdAt db with
  | error fault =>
      rw [ran] at failed
      exact congrArg (idle db, ·) failed
  | ok result =>
      rw [ran] at failed
      cases failed

end Session

/-! ## Writes and seedings -/

/-- What is done to a database that has reached the present version. -/
inductive Deed where
  | write (write : Write)
  | seed (createdAt : Text)
  deriving DecidableEq, Repr

namespace Session

/-- A write is a transaction of its own; a seeding makes its own. -/
def perform (session : Session) : Deed → Session × Except StoreError Unit
  | .write write => session.transact [fun db => Migration.orFault (db.write write)]
  | .seed createdAt =>
      let result := session.seed createdAt
      (result.1, result.2.map fun _ => ())

/-- The session after deeds, one after the other. -/
def performAll (session : Session) (deeds : List Deed) : Session :=
  deeds.foldl (fun session deed => (session.perform deed).1) session

theorem perform_write (db : Database) (write : Write) :
    (idle db).perform (.write write) =
      match db.write write with
      | .ok next => (idle next, .ok ())
      | .error fault => (idle db, .error (.database fault)) := by
  have statement : effect [fun db => Migration.orFault (db.write write)] db =
      Migration.orFault (db.write write) := bind_pure _
  rw [perform]
  cases done : db.write write with
  | error fault =>
      rw [done] at statement
      exact transact_of_error statement
  | ok next =>
      rw [done] at statement
      exact transact_of_ok statement

/-- **A deed that fails leaves the session as it was.** -/
theorem perform_of_error {deed : Deed} {db : Database} {error : StoreError}
    (failed : ((idle db).perform deed).2 = .error error) :
    (idle db).perform deed = (idle db, .error error) := by
  cases deed with
  | write write =>
      rw [perform_write] at failed ⊢
      cases done : db.write write with
      | error fault =>
          rw [done] at failed
          exact congrArg (idle db, ·) failed
      | ok next =>
          rw [done] at failed
          cases failed
  | seed createdAt =>
      cases seeded : ((idle db).seed createdAt).2 with
      | error other =>
          rw [perform, seed_of_error seeded] at failed ⊢
          exact congrArg (idle db, ·) failed
      | ok inserted =>
          rw [perform] at failed
          dsimp only at failed
          rw [seeded] at failed
          cases failed

end Session

/-! ## What deeds keep -/

/-- A database of the catalog with its rows in order, in which every book has its author and
every review its book. -/
structure Database.Intact (db : Database) : Prop where
  catalog : IsCatalog db
  inOrder : db.InOrder
  referential : db.Referential

namespace Database.Intact

variable {db : Database}

/-- Without authors there are no books, and without books no reviews. -/
theorem rowsOf_eq_nil (intact : db.Intact) (none_ : db.rowsOf Tables.authors.name = []) :
    ∀ schema ∈ catalogSchemas, db.rowsOf schema.name = [] := by
  have nothing {child column parent : Text} (names : db.Names child column parent)
      (empty : db.rowsOf parent = []) : db.rowsOf child = [] := by
    rw [List.eq_nil_iff_forall_not_mem]
    intro row member
    obtain ⟨other, found, -⟩ := names row member
    rw [empty] at found
    cases found
  have books := nothing intact.referential.books none_
  exact forall_catalogSchemas none_ books (nothing intact.referential.reviews books)

/-- Seeding inserts the whole demo catalog, or there are authors and nothing happens. -/
theorem seed (intact : db.Intact) (createdAt : Text) :
    (db.rowsOf Tables.authors.name = [] ∧ ∃ next,
        (Session.idle db).seed createdAt = (Session.idle next, .ok true) ∧ next.Intact ∧
        ∀ schema ∈ catalogSchemas,
          next.rowsOf schema.name = (Seed.demo createdAt).rowsOf schema.name) ∨
      (db.rowsOf Tables.authors.name ≠ [] ∧
        (Session.idle db).seed createdAt = (Session.idle db, .ok false)) := by
  obtain ⟨authors, found, -⟩ := intact.catalog.exists_catalogTable
    (show Tables.authors ∈ catalogSchemas by decide)
  have required : db.requireTable Tables.authors.name = .ok authors := by
    rw [Database.requireTable, found]
  rw [Session.seed_idle, Database.rowsOf_eq found]
  by_cases none_ : authors.rows = []
  · obtain ⟨next, inserted, catalog, inOrder, rows⟩ :=
      Seed.insertAll_demo createdAt intact.catalog intact.inOrder
        (intact.rowsOf_eq_nil ((Database.rowsOf_eq found).trans none_))
    have ran : Seed.run createdAt db = .ok (next, true) := by
      simp [Seed.run, required, none_, inserted, bind, Except.bind, pure, Except.pure]
    exact Or.inl ⟨none_, next, by rw [ran],
      ⟨catalog, inOrder, (Seed.referential_demo createdAt).of_rowsOf rows⟩, rows⟩
  · have ran : Seed.run createdAt db = .ok (db, false) := by
      simp [Seed.run, required, none_, bind, Except.bind, pure, Except.pure]
    exact Or.inr ⟨none_, by rw [ran]⟩

/-- **The step**: a deed leaves the session idle and the database intact. -/
theorem perform (intact : db.Intact) (deed : Deed) :
    ∃ next, ((Session.idle db).perform deed).1 = Session.idle next ∧ next.Intact := by
  cases deed with
  | write write =>
      refine ⟨db.after write, ?_, intact.catalog.after write, intact.inOrder.after write,
        intact.referential.after intact.catalog write⟩
      rw [Session.perform_write, Database.after]
      cases db.write write <;> rfl
  | seed createdAt =>
      rcases intact.seed createdAt with ⟨-, next, seeded, intact, -⟩ | ⟨-, seeded⟩
      · exact ⟨next, by rw [Session.perform, seeded], intact⟩
      · exact ⟨db, by rw [Session.perform, seeded], intact⟩

/-- **The run**, by induction on the deeds. -/
theorem performAll (intact : db.Intact) (deeds : List Deed) :
    ∃ next, (Session.idle db).performAll deeds = Session.idle next ∧ next.Intact := by
  induction deeds generalizing db with
  | nil => exact ⟨db, rfl, intact⟩
  | cons deed rest ih =>
      obtain ⟨mid, performed, kept⟩ := intact.perform deed
      obtain ⟨next, reached, still⟩ := ih kept
      exact ⟨next, by rw [Session.performAll, List.foldl_cons, performed]; exact reached, still⟩

end Database.Intact

open Migration in
/-- A database at the present version is intact if its rows are. -/
theorem LeftAt.intact {db : Database} (left : LeftAt 3 db)
    (ordered : ∀ schema ∈ catalogSchemas,
      (db.rowsOf schema.name).Pairwise fun row later => row.key < later.key)
    (referential : db.Referential) : db.Intact := by
  cases left with
  | third first second last rows index =>
      have inOrder : (catalogOf [versionRow last 3 fullText.name]
          [firstRow first, secondRow second, thirdRow last] rows reviewerIndexes true
          (some index)).InOrder := by
        simp only [Database.InOrder, catalogOf, catalogWith, List.forall_mem_cons]
        refine ⟨List.pairwise_singleton _ _, ?_, ordered Tables.authors (by decide),
          ordered Tables.books (by decide), ordered Tables.reviews (by decide),
          fun _ none_ => (List.not_mem_nil none_).elim⟩
        simp [Table.InOrder, firstRow, secondRow, thirdRow, stepRow]
      refine ⟨⟨rfl, fun table member => ?_, rfl⟩, inOrder, referential⟩
      exact List.pairwise_map.2 ((inOrder table member).imp Int.ne_of_lt)

/-- **A migrated database is intact** if its rows were kept with their references before. -/
theorem LeftAt.migrate_intact {version : Int} {before : Database} (left : LeftAt version before)
    (ordered : before.InOrder) (referential : before.Referential) (clock : Migration.Clock) :
    ∃ db, ((Session.idle before).migrate clock).1 = Session.idle db ∧ db.Intact := by
  obtain ⟨next, ran, left', -, same⟩ := exists_run_of_leftAt left clock
  refine ⟨next, by rw [Session.migrate_idle, ran],
    left'.intact (fun schema listed => ?_) (referential.of_rowsOf same)⟩
  rw [same schema listed]
  cases found : before.table? schema.name with
  | none =>
      rw [Database.rowsOf, found]
      exact .nil
  | some table =>
      rw [Database.rowsOf_eq found]
      exact ordered.of_table? found

/-! ## Seeding in every state -/

/-- **Seeding rests on the references.**  Along any writes and seedings on a migrated database
every book has its author and every review its book, so where there are no authors the demo
catalog goes in as a whole; and wherever a seeding fails, none of its rows remain. -/
theorem seeding_rests_on_references {version : Int} {before : Database}
    (left : LeftAt version before) (ordered : before.InOrder) (referential : before.Referential)
    (clock : Migration.Clock) (deeds : List Deed) :
    (∃ db, ((Session.idle before).migrate clock).1.performAll deeds = Session.idle db ∧
      db.Referential ∧
      (∀ deed error, ((Session.idle db).perform deed).2 = .error error →
        ((Session.idle db).perform deed).1 = Session.idle db) ∧
      ∀ createdAt,
        (db.rowsOf Tables.authors.name = [] →
          db.rowsOf Tables.books.name = [] ∧ db.rowsOf Tables.reviews.name = [] ∧
          ∃ seeded, (Session.idle db).seed createdAt = (Session.idle seeded, .ok true) ∧
            (seeded.rowsOf Tables.authors.name).map (·.values Tables.authors) =
              Seed.authors createdAt ∧
            (seeded.rowsOf Tables.books.name).map (·.values Tables.books) = Seed.books ∧
            (seeded.rowsOf Tables.reviews.name).map (·.values Tables.reviews) = Seed.reviews) ∧
        (db.rowsOf Tables.authors.name ≠ [] →
          (Session.idle db).seed createdAt = (Session.idle db, .ok false))) ∧
    ∀ (db : Database) (createdAt : Text),
      (∀ error, ((Session.idle db).seed createdAt).2 = .error error →
        ((Session.idle db).seed createdAt).1 = Session.idle db) ∧
      ((∃ schema ∈ catalogSchemas, db.table? schema.name = none) →
        db.rowsOf Tables.authors.name = [] →
        ∃ error, (Session.idle db).seed createdAt = (Session.idle db, .error error)) := by
  refine ⟨?_, fun db createdAt => ⟨fun error failed => ?_, fun missing none_ => ?_⟩⟩
  · obtain ⟨start, migrated, intact⟩ := left.migrate_intact ordered referential clock
    obtain ⟨db, reached, intact⟩ := intact.performAll deeds
    refine ⟨db, by rw [migrated, reached], intact.referential, fun deed error failed => ?_,
      fun createdAt => ?_⟩
    · rw [Session.perform_of_error failed]
    · rcases intact.seed createdAt with ⟨none_, next, seeded, -, rows⟩ | ⟨some_, kept⟩
      · have nothing := intact.rowsOf_eq_nil none_
        refine ⟨fun _ => ⟨nothing Tables.books (by decide), nothing Tables.reviews (by decide),
          next, seeded, ?_, ?_, ?_⟩, fun some_ => absurd none_ some_⟩
        · rw [rows Tables.authors (by decide), ← Seed.values_authors createdAt]
          rfl
        · rw [rows Tables.books (by decide), ← Seed.values_books]
          rfl
        · rw [rows Tables.reviews (by decide), ← Seed.values_reviews]
          rfl
      · exact ⟨fun none_ => absurd none_ some_, fun _ => kept⟩
  · rw [Session.seed_of_error failed]
  · obtain ⟨fault, failed⟩ := Seed.run_of_missing createdAt missing none_
    exact ⟨.database fault, by rw [Session.seed_idle, failed]⟩

/-- The demo catalog goes in, a book of no author and a move of a named author are refused, and
all authors are deleted. -/
def churn : List Deed :=
  [.seed "2024-05-01 00:00:00",
    .write (.insert Tables.books.name [("author_id", .integer 9), ("title", .text "Lost"),
      ("price", .real (Binary64.ofInt 1)), ("published_at", .text "2024-01-01 00:00:00")]),
    .write (.update Tables.authors.name 1 [("id", .integer 7)]),
    .write (.delete Tables.authors.name 1), .write (.delete Tables.authors.name 2),
    .write (.delete Tables.authors.name 3), .write (.delete Tables.authors.name 4)]

theorem churned_catalog_is_seeded_again :
    LeftAt 0 {} ∧ ({} : Database).InOrder ∧ ({} : Database).Referential ∧
      (∃ db seeded, ((Session.idle {}).migrate {}).1.performAll churn = Session.idle db ∧
        db.rowsOf Tables.reviews.name = [] ∧
        (Session.idle db).seed "2024-06-01 00:00:00" = (Session.idle seeded, .ok true) ∧
        (seeded.rowsOf Tables.books.name).map (·.values Tables.books) = Seed.books) ∧
      ∃ dropped error, emptyCatalog.drop Tables.reviews.name = .ok dropped ∧
        (Session.idle dropped).seed "2024-06-01 00:00:00" =
          (Session.idle dropped, .error error) := by
  have ordered : ({} : Database).InOrder := fun _ none_ => (List.not_mem_nil none_).elim
  have referential : ({} : Database).Referential :=
    ⟨fun _ none_ => (List.not_mem_nil none_).elim, fun _ none_ => (List.not_mem_nil none_).elim⟩
  obtain ⟨⟨db, reached, -, -, seeds⟩, fails⟩ :=
    seeding_rests_on_references .empty ordered referential {} churn
  have none_ : db.rowsOf Tables.authors.name = [] := by
    have churned : (((Session.idle {}).migrate {}).1.performAll churn).committed.rowsOf
        Tables.authors.name = [] := by decide +kernel
    rwa [reached] at churned
  obtain ⟨-, reviews, seeded, done, -, books, -⟩ := (seeds "2024-06-01 00:00:00").1 none_
  have dropped : emptyCatalog.drop Tables.reviews.name =
      .ok (emptyCatalog.withoutTable Tables.reviews.name) := by
    rw [emptyCatalog, Migration.run_empty]
    rfl
  have missing : (emptyCatalog.withoutTable Tables.reviews.name).table? Tables.reviews.name =
      none ∧ (emptyCatalog.withoutTable Tables.reviews.name).rowsOf Tables.authors.name = [] := by
    rw [emptyCatalog, Migration.run_empty]
    exact ⟨rfl, rfl⟩
  obtain ⟨error, failed⟩ := (fails _ "2024-06-01 00:00:00").2
    ⟨Tables.reviews, by decide, missing.1⟩ missing.2
  exact ⟨.empty, ordered, referential, ⟨db, seeded, reached, reviews, done, books⟩,
    _, error, dropped, failed⟩

end CatalogListing
