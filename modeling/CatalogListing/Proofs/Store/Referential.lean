/-
# Proofs.Store.Referential -- every book has its author, every review its book

In a database of the catalog a book names an author that is there, and a review a book that
is there (`Database.Referential`).  Every write keeps this: an insertion and an update are
asked for the rows that the new row refers to, an update that moves a row is asked that none
refers to it, and a deletion takes the rows that refer to what it deletes.

* `Inserted.referential`, `Replaced.referential`, `Deleted.referential`: one write each;
* `Database.Referential.after`: any write, whether it completes or not.
-/
import CatalogListing.Proofs.Store.Copy

namespace CatalogListing

set_option autoImplicit false

open Database (Inserted Deleted Updated Replaced)

/-! ## Rows that name others -/

/-- Every row of a table names a row of another by its key. -/
def Database.Names (db : Database) (child column parent : Text) : Prop :=
  ∀ row ∈ db.rowsOf child, ∃ other ∈ db.rowsOf parent, row.cell column = .integer other.key

/-- Every book names an author that is there, and every review a book that is there. -/
structure Database.Referential (db : Database) : Prop where
  books : db.Names Tables.books.name "author_id" Tables.authors.name
  reviews : db.Names Tables.reviews.name "book_id" Tables.books.name

/-- The references of the catalog are those two. -/
theorem Database.referential_iff {db : Database} :
    db.Referential ↔ ∀ schema ∈ catalogSchemas, ∀ reference ∈ schema.references,
      db.Names schema.name reference.column reference.table := by
  constructor
  · intro referential
    refine forall_catalogSchemas (fun _ none_ => (List.not_mem_nil none_).elim) ?_ ?_
    · intro reference member
      obtain rfl := List.mem_singleton.1 member
      exact referential.books
    · intro reference member
      obtain rfl := List.mem_singleton.1 member
      exact referential.reviews
  · intro names
    exact ⟨names Tables.books (by decide) ⟨"author_id", "authors"⟩ (by decide),
      names Tables.reviews (by decide) ⟨"book_id", "books"⟩ (by decide)⟩

/-- It is a matter of the rows of the catalog. -/
theorem Database.Referential.of_rowsOf {db next : Database} (referential : db.Referential)
    (same : ∀ schema ∈ catalogSchemas, next.rowsOf schema.name = db.rowsOf schema.name) :
    next.Referential := by
  have authors := same Tables.authors (by decide)
  have books := same Tables.books (by decide)
  have reviews := same Tables.reviews (by decide)
  refine ⟨?_, ?_⟩
  · rw [Names, authors, books]
    exact referential.books
  · rw [Names, books, reviews]
    exact referential.reviews

/-- Columns that refer are never null. -/
theorem required_of_reference : ∀ schema ∈ catalogSchemas, ∀ reference ∈ schema.references,
    ∃ column ∈ schema.columns, column.name = reference.column ∧ column.required = true := by
  decide

namespace Database

variable {db next : Database} {name : Text} {table : Table} {row : Row} {schema : Schema}
  {reference : Reference}

theorem isNull_of_requireValues (values : requireValues table row = .ok ()) {column : Column}
    (member : column ∈ table.schema.columns) (required : column.required = true) :
    (row.cell column.name).isNull = false := by
  have passed := forM_eq_ok_iff.1 values column member
  rw [required, Bool.true_and] at passed
  cases isNull : (row.cell column.name).isNull with
  | false => rfl
  | true =>
      rw [isNull] at passed
      cases passed

/-- A row whose values are required and whose reference leads to a row names that row. -/
theorem exists_named (listed : schema ∈ catalogSchemas) (among : reference ∈ schema.references)
    (same : table.schema = schema) (values : requireValues table row = .ok ())
    (leads : db.refers reference row = true) :
    ∃ other ∈ db.rowsOf reference.table, row.cell reference.column = .integer other.key := by
  obtain ⟨column, member, named, required⟩ := required_of_reference schema listed reference among
  have present := isNull_of_requireValues values (same ▸ member) required
  rw [named] at present
  rcases refers_iff.1 leads with null | ⟨n, cell, isKey⟩
  · rw [null] at present
    cases present
  · obtain ⟨other, found, rfl⟩ := List.mem_map.1 isKey
    exact ⟨other, found, cell⟩

/-! ## Insertions -/

section

variable {given : List (Text × Scalar)}

theorem Inserted.mem_rowsOf (done : Inserted db name given next table row) {any : Text}
    {other : Row} :
    other ∈ next.rowsOf any ↔ (any = name ∧ other = row) ∨ other ∈ db.rowsOf any := by
  by_cases here : any = name
  · subst here
    rw [rowsOf_eq done.table?_self, rowsOf_eq done.found]
    simp [Table.add, Table.mem_insertRow]
  · rw [rowsOf, done.table?_of_ne here]
    simp [here, rowsOf]

/-- **An insertion keeps the references.** -/
theorem Inserted.referential (done : Inserted db name given next table row)
    (catalog : IsCatalog db) (referential : db.Referential) : next.Referential := by
  rw [referential_iff] at referential ⊢
  intro schema listed reference among other member
  rcases done.mem_rowsOf.1 member with ⟨isName, rfl⟩ | before
  · have same := catalog.schema_eq listed (isName ▸ done.found)
    exact exists_named listed among same done.values
      (done.references reference (same ▸ among))
  · obtain ⟨parent, found, cell⟩ := referential schema listed reference among other before
    exact ⟨parent, done.mem_rowsOf.2 (Or.inr found), cell⟩

end

/-! ## Updates -/

section

variable {key : Int} {changes : List (Text × Scalar)} {old new : Row} {count : Nat}

/-- What an update that completes has asked of the references from and to its row. -/
theorem references_of_update (done : db.update name key changes = .ok (next, count))
    (replaced : Replaced db name key changes next table old new) :
    (∀ reference ∈ table.schema.references, (∃ change ∈ changes, change.1 = reference.column) →
      next.refers reference new = true) ∧
    (new.key ≠ old.key → next.requireUnreferred name old.key = .ok ()) := by
  unfold update at done
  obtain ⟨other, found, done⟩ := ok_of_bind done
  obtain rfl := Option.some.inj (replaced.found.symm.trans (table?_of_requireTable found))
  obtain ⟨-, -, done⟩ := ok_of_bind done
  obtain ⟨-, -, done⟩ := ok_of_bind done
  obtain ⟨-, -, done⟩ := ok_of_bind done
  obtain ⟨-, done⟩ := ok_of_guarded done
  rw [replaced.row] at done
  obtain ⟨newKey, keyed, done⟩ := ok_of_bind done
  obtain rfl : newKey = new.key := Except.ok.inj (keyed.symm.trans replaced.newKey)
  obtain ⟨-, -, done⟩ := ok_of_bind done
  obtain ⟨-, -, done⟩ := ok_of_bind done
  obtain ⟨-, -, done⟩ := ok_of_bind done
  obtain ⟨-, -, done⟩ := ok_of_bind done
  obtain ⟨⟨⟩, references, done⟩ := ok_of_bind done
  obtain ⟨unreferred, done⟩ := ok_of_guarded done
  have sameRow : (⟨new.key, updatedCells table old changes⟩ : Row) = new := by
    rw [← replaced.cells]
  have sameNext : db.replaceRow table old new (tellsIndex changes) = next := replaced.result.symm
  rw [sameRow] at references unreferred
  refine ⟨fun reference member touched => ?_, fun moves => sameNext ▸ unreferred moves⟩
  rw [← sameNext]
  refine refers_of_requireReferences references reference (List.mem_filter.2 ⟨member, ?_⟩)
  obtain ⟨change, among, same⟩ := touched
  exact List.any_eq_true.2 ⟨change, among, by simpa using same⟩

/-- A column that no change names has the value it had. -/
theorem Replaced.cell_eq (replaced : Replaced db name key changes next table old new)
    {column : Column} (member : column ∈ table.schema.columns)
    (untouched : ∀ change ∈ changes, change.1 ≠ column.name) :
    new.cell column.name = old.cell column.name := by
  have absent : changes.lookup column.name = none := by
    rw [List.lookup_eq_none_iff]
    intro change among
    exact bne_iff_ne.2 (untouched change among).symm
  rw [Row.cell, replaced.cells, updatedCells, lookup_map_columns]
  cases found : table.schema.columns.find? fun other => other.name == column.name with
  | none => exact absurd (List.find?_eq_none.1 found column member) (by simp)
  | some other =>
      have same : other.name = column.name := by simpa using List.find?_some found
      simp [same, absent]

theorem Replaced.mem_rowsOf_self (replaced : Replaced db name key changes next table old new)
    {other : Row} :
    other ∈ next.rowsOf name ↔ other = new ∨ other ∈ db.rowsOf name ∧ other.key ≠ old.key := by
  rw [rowsOf_eq replaced.table?_self, rowsOf_eq replaced.found]
  simp [Table.add, Table.mem_insertRow, Table.without]

theorem Replaced.rowsOf_of_ne (replaced : Replaced db name key changes next table old new)
    {any : Text} (apart : any ≠ name) : next.rowsOf any = db.rowsOf any := by
  rw [rowsOf, rowsOf, replaced.table?_of_ne apart]

/-- No row of a table that refers to the updated one names the key that a row has left. -/
theorem not_named_of_unreferred (catalog : IsCatalog next) (listed : schema ∈ catalogSchemas)
    (among : reference ∈ schema.references)
    (unreferred : next.requireUnreferred reference.table key = .ok ()) :
    ∀ other ∈ next.rowsOf schema.name, other.cell reference.column ≠ .integer key := by
  intro other member names
  obtain ⟨child, found, inChild⟩ := exists_table_of_mem_rowsOf member
  have isChild : (child, reference.column) ∈ next.children reference.table := by
    refine List.mem_flatMap.2 ⟨child, mem_of_table? found, List.mem_map.2 ⟨reference, ?_, rfl⟩⟩
    rw [catalog.schema_eq listed found]
    exact List.mem_filter.2 ⟨among, by simp⟩
  unfold requireUnreferred at unreferred
  split at unreferred
  · rename_i none_
    have empty := List.all_eq_true.1 none_ _ isChild
    have isReferring : other.key ∈ referring child reference.column [key] :=
      List.mem_map_of_mem (List.mem_filter.2 ⟨inChild, by simp [names]⟩)
    rw [List.isEmpty_iff.1 empty] at isReferring
    cases isReferring
  · cases unreferred

/-- **An update keeps the references.** -/
theorem Replaced.referential (replaced : Replaced db name key changes next table old new)
    (done : db.update name key changes = .ok (next, count)) (catalog : IsCatalog db)
    (referential : db.Referential) : next.Referential := by
  obtain ⟨leads, unreferred⟩ := references_of_update done replaced
  have inTable : old ∈ db.rowsOf name := by
    rw [rowsOf_eq replaced.found]
    exact (Table.mem_of_row? replaced.row).1
  rw [referential_iff] at referential ⊢
  intro schema listed reference among other member
  by_cases isChild : schema.name = name
  · -- The row is one that refers; those it refers to are in another table.
    have apart : reference.table ≠ name := isChild ▸ reference_apart schema listed reference among
    rw [replaced.rowsOf_of_ne apart]
    rw [isChild, replaced.mem_rowsOf_self] at member
    rcases member with rfl | ⟨before, -⟩
    · have same := catalog.schema_eq listed (isChild ▸ replaced.found)
      by_cases touched : ∃ change ∈ changes, change.1 = reference.column
      · have named := exists_named listed among same replaced.values
          (leads reference (same ▸ among) touched)
        rwa [replaced.rowsOf_of_ne apart] at named
      · obtain ⟨column, isColumn, named, -⟩ := required_of_reference schema listed reference among
        have kept := replaced.cell_eq (same ▸ isColumn) fun change inChanges same =>
          touched ⟨change, inChanges, same.trans named⟩
        rw [named] at kept
        rw [kept]
        exact referential schema listed reference among old (isChild ▸ inTable)
    · exact referential schema listed reference among other (isChild ▸ before)
  · rw [replaced.rowsOf_of_ne isChild] at member
    obtain ⟨parent, found, cell⟩ := referential schema listed reference among other member
    by_cases isParent : reference.table = name
    · -- The row is one that others refer to; if it has moved, none does.
      rw [isParent] at found
      rw [isParent]
      by_cases same : parent.key = old.key
      · refine ⟨new, replaced.mem_rowsOf_self.2 (Or.inl rfl), ?_⟩
        by_cases moves : new.key = old.key
        · rw [cell, same, moves]
        · have nowhere := not_named_of_unreferred (replaced.isCatalog catalog) listed among
            (isParent ▸ unreferred moves) other (by rwa [replaced.rowsOf_of_ne isChild])
          exact absurd (same ▸ cell) nowhere
      · exact ⟨parent, replaced.mem_rowsOf_self.2 (Or.inr ⟨found, same⟩), cell⟩
    · exact ⟨parent, by rwa [replaced.rowsOf_of_ne isParent], cell⟩

end

/-! ## Deletions -/

/-- Without the rows that refer to rows that go, every row still names one that stays. -/
theorem names_without (child parent : Table) {column : Text}
    (names : ∀ row ∈ child.rows, ∃ other ∈ parent.rows, row.cell column = .integer other.key)
    (keys : List Int) :
    ∀ row ∈ (child.without (referring child column keys)).rows,
      ∃ other ∈ (parent.without keys).rows, row.cell column = .integer other.key := by
  intro row member
  obtain ⟨inChild, stays⟩ := List.mem_filter.1 member
  obtain ⟨other, found, cell⟩ := names row inChild
  refine ⟨other, List.mem_filter.2 ⟨found, ?_⟩, cell⟩
  by_cases goes : other.key ∈ keys
  · -- Then the row refers to one that goes, so it has gone itself.
    have isReferring : row.key ∈ referring child column keys :=
      List.mem_map_of_mem (List.mem_filter.2
        ⟨inChild, List.any_eq_true.2 ⟨other.key, goes, by simp [cell]⟩⟩)
    simp [isReferring] at stays
  · simpa using goes

end Database

/-- A database of the catalog, told by what its tables hold. -/
theorem IsCatalog.exists_catalogWith {db : Database} (catalog : IsCatalog db) :
    ∃ versions ledger authors books reviews index,
      db = catalogWith versions ledger authors books reviews true (some index) := by
  obtain ⟨tables, index⟩ := db
  obtain ⟨index, rfl⟩ := Option.isSome_iff_exists.1 catalog.index
  have shape : tables.map Table.shape = catalogShape := catalog.shape
  obtain ⟨versions, rest, rfl, first, shape⟩ := List.map_eq_cons_iff.1 shape
  obtain ⟨ledger, rest, rfl, second, shape⟩ := List.map_eq_cons_iff.1 shape
  obtain ⟨authors, rest, rfl, third, shape⟩ := List.map_eq_cons_iff.1 shape
  obtain ⟨books, rest, rfl, fourth, shape⟩ := List.map_eq_cons_iff.1 shape
  obtain ⟨reviews, rest, rfl, fifth, shape⟩ := List.map_eq_cons_iff.1 shape
  obtain rfl := List.map_eq_nil_iff.1 shape
  refine ⟨(versions.rows, versions.indexes), (ledger.rows, ledger.indexes),
    (authors.rows, authors.indexes), (books.rows, books.indexes),
    (reviews.rows, reviews.indexes), index, ?_⟩
  cases versions
  cases ledger
  cases authors
  cases books
  cases reviews
  cases first
  cases second
  cases third
  cases fourth
  cases fifth
  rfl

namespace Database

/-- The tables of the catalog that others refer to, or that refer to others. -/
def authorsTable (contents : Contents) : Table :=
  ⟨Tables.authors, contents.1, contents.2, false⟩

def booksTable (contents : Contents) : Table :=
  ⟨Tables.books, contents.1, contents.2, true⟩

def reviewsTable (contents : Contents) : Table :=
  ⟨Tables.reviews, contents.1, contents.2, false⟩

/-- What a table holds without the rows of some keys. -/
def leave (contents : Contents) (keys : List Int) : Contents :=
  (contents.1.filter fun row => !keys.contains row.key, contents.2)

section

variable (versions ledger authors books reviews : Contents) (index : Search.Index)

theorem cascade_reviews (fuel : Nat) (keys : List Int) :
    cascade (fuel + 1) (catalogWith versions ledger authors books reviews true (some index))
        Tables.reviews.name keys =
      catalogWith versions ledger authors books (leave reviews keys) true (some index) := by
  have removed : (catalogWith versions ledger authors books reviews true (some index)).removeRows
      (reviewsTable reviews) keys =
        catalogWith versions ledger authors books (leave reviews keys) true (some index) := by
    rw [removeRows, foldl_indexRemoved]
    rfl
  rw [← removed]
  rfl

theorem cascade_books (fuel : Nat) (keys : List Int) :
    ∃ left, cascade (fuel + 2) (catalogWith versions ledger authors books reviews true (some index))
        Tables.books.name keys =
      catalogWith versions ledger authors (leave books keys)
        (leave reviews (referring (reviewsTable reviews) "book_id" keys)) true (some left) := by
  have removed : (catalogWith versions ledger authors books reviews true (some index)).removeRows
      (booksTable books) keys =
        catalogWith versions ledger authors (leave books keys) reviews true
          (some (Search.removeAll
            (indexEntries (books.1.filter fun row => keys.contains row.key)) index)) := by
    rw [removeRows, foldl_indexRemoved]
    rfl
  refine ⟨Search.removeAll (indexEntries (books.1.filter fun row => keys.contains row.key)) index,
    ?_⟩
  rw [← cascade_reviews versions ledger authors _ reviews _ fuel, ← removed]
  rfl

theorem cascade_authors (fuel : Nat) (keys : List Int) :
    ∃ left, cascade (fuel + 3) (catalogWith versions ledger authors books reviews true (some index))
        Tables.authors.name keys =
      catalogWith versions ledger (leave authors keys)
        (leave books (referring (booksTable books) "author_id" keys))
        (leave reviews (referring (reviewsTable reviews) "book_id"
          (referring (booksTable books) "author_id" keys))) true (some left) := by
  have removed : (catalogWith versions ledger authors books reviews true (some index)).removeRows
      (authorsTable authors) keys =
        catalogWith versions ledger (leave authors keys) books reviews true (some index) := by
    rw [removeRows, foldl_indexRemoved]
    rfl
  obtain ⟨left, gone⟩ := cascade_books versions ledger (leave authors keys) books reviews index
    fuel (referring (booksTable books) "author_id" keys)
  refine ⟨left, ?_⟩
  rw [← gone, ← removed]
  rfl

/-- Rows of a table that no other refers to go alone. -/
theorem cascade_record (fuel : Nat) (keys : List Int) :
    cascade (fuel + 1) (catalogWith versions ledger authors books reviews true (some index))
        Tables.schemaVersion.name keys =
      catalogWith (leave versions keys) ledger authors books reviews true (some index) ∧
    cascade (fuel + 1) (catalogWith versions ledger authors books reviews true (some index))
        Tables.schemaMigrations.name keys =
      catalogWith versions (leave ledger keys) authors books reviews true (some index) := by
  have removed : (catalogWith versions ledger authors books reviews true (some index)).removeRows
      ⟨Tables.schemaVersion, versions.1, versions.2, false⟩ keys =
        catalogWith (leave versions keys) ledger authors books reviews true (some index) := by
    rw [removeRows, foldl_indexRemoved]
    rfl
  have removed' : (catalogWith versions ledger authors books reviews true (some index)).removeRows
      ⟨Tables.schemaMigrations, ledger.1, ledger.2, false⟩ keys =
        catalogWith versions (leave ledger keys) authors books reviews true (some index) := by
    rw [removeRows, foldl_indexRemoved]
    rfl
  rw [← removed, ← removed']
  exact ⟨rfl, rfl⟩

theorem referential_catalogWith :
    (catalogWith versions ledger authors books reviews true (some index)).Referential ↔
      (∀ row ∈ books.1, ∃ other ∈ authors.1, row.cell "author_id" = .integer other.key) ∧
      ∀ row ∈ reviews.1, ∃ other ∈ books.1, row.cell "book_id" = .integer other.key :=
  ⟨fun ⟨books, reviews⟩ => ⟨books, reviews⟩, fun ⟨books, reviews⟩ => ⟨books, reviews⟩⟩

/-- **A deletion with all that refers to what it deletes keeps the references.** -/
theorem referential_cascade (fuel : Nat) (keys : List Int)
    (referential :
      (catalogWith versions ledger authors books reviews true (some index)).Referential) :
    ∀ shape ∈ catalogShape, (cascade (fuel + 3)
      (catalogWith versions ledger authors books reviews true (some index)) shape.1.name
        keys).Referential := by
  obtain ⟨toAuthors, toBooks⟩ := (referential_catalogWith ..).1 referential
  simp only [catalogShape, List.forall_mem_cons]
  refine ⟨?_, ?_, ?_, ?_, ?_, fun _ member => (List.not_mem_nil member).elim⟩
  · rw [(cascade_record versions ledger authors books reviews index _ keys).1]
    exact (referential_catalogWith ..).2 ⟨toAuthors, toBooks⟩
  · rw [(cascade_record versions ledger authors books reviews index _ keys).2]
    exact (referential_catalogWith ..).2 ⟨toAuthors, toBooks⟩
  · obtain ⟨left, gone⟩ := cascade_authors versions ledger authors books reviews index fuel keys
    rw [gone]
    exact (referential_catalogWith ..).2
      ⟨names_without (booksTable books) (authorsTable authors) toAuthors keys,
        names_without (reviewsTable reviews) (booksTable books) toBooks _⟩
  · obtain ⟨left, gone⟩ := cascade_books versions ledger authors books reviews index (fuel + 1) keys
    rw [gone]
    refine (referential_catalogWith ..).2 ⟨fun row member => ?_,
      names_without (reviewsTable reviews) (booksTable books) toBooks keys⟩
    exact toAuthors row (List.mem_filter.1 member).1
  · rw [cascade_reviews]
    refine (referential_catalogWith ..).2 ⟨toAuthors, fun row member => ?_⟩
    exact toBooks row (List.mem_filter.1 member).1

end

/-- **A deletion keeps the references**: what refers to the rows that go, goes too. -/
theorem Deleted.referential {db next : Database} {name : Text} {key : Int} {table : Table}
    (done : Deleted db name key table next) (catalog : IsCatalog db)
    (referential : db.Referential) : next.Referential := by
  cases done with
  | nothing found absent => exact referential
  | row found present =>
      have listed := catalog.shape_mem (mem_of_table? found)
      obtain ⟨versions, ledger, authors, books, reviews, index, rfl⟩ := catalog.exists_catalogWith
      rw [← name_of_table? found]
      exact referential_cascade versions ledger authors books reviews index 2 [key] referential _
        listed

/-- **A write keeps the references.** -/
theorem Referential.after {db : Database} (referential : db.Referential) (catalog : IsCatalog db)
    (write : Write) : (db.after write).Referential := by
  unfold Database.after
  split
  · rename_i next done
    cases write with
    | insert name given =>
        obtain ⟨table, row, inserted⟩ := exists_inserted done
        exact inserted.referential catalog referential
    | update name key changes =>
        obtain ⟨⟨_, count⟩, completed, rfl⟩ := ok_of_map done
        cases updated completed with
        | nothing found absent => exact referential
        | row replaced => exact replaced.referential completed catalog referential
    | delete name key =>
        obtain ⟨⟨_, count⟩, completed, rfl⟩ := ok_of_map done
        obtain ⟨table, deleted⟩ := exists_deleted completed
        exact deleted.referential catalog referential
  · exact referential

end Database

end CatalogListing
