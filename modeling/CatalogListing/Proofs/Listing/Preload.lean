/-
# Proofs.Listing.Preload -- listings with associations

A request may ask for associations of the rows of its page.  Each one that the resource
has is attached to every row, under its own name, with the rows that a look-up of the
row's key in the whole of the other table finds, in the order of their primary keys;
everything else is as in the listing of the request without them
(`preload_is_naive_join`).
-/
import CatalogListing.Proofs.Listing.Inert
import CatalogListing.Proofs.Store.Join
import CatalogListing.Proofs.Store.KeyOrder

namespace CatalogListing

set_option autoImplicit false

open Parameters (AgreeBut lookedUp valuesOf withName)

/-! ## The associations of a request -/

theorem Parameters.nodup_foldl_withName (given : List Text) {names : List Text}
    (unique : names.Nodup) : (given.foldl withName names).Nodup := by
  induction given generalizing names with
  | nil => exact unique
  | cons first rest ih =>
      refine ih ?_
      rw [withName_eq]
      split
      · exact unique
      · rename_i new
        exact List.nodup_append_comm.1 (List.nodup_cons.2 ⟨(not_or.1 new).2, unique⟩)

/-- The associations of names have those of the names that are names of associations. -/
theorem Resource.map_name_named (resource : Resource) (names : List Text) :
    (resource.named names).map (·.name) =
      names.filter fun name => (resource.association? name).isSome := by
  induction names with
  | nil => rfl
  | cons name rest ih =>
      rw [named, List.filterMap_cons, ← named]
      cases found : resource.association? name with
      | none => simp [found, ih]
      | some association =>
          have same : association.name = name := by simpa using List.find?_some found
          simp [found, ih, same]

/-- An association is known by its name, which no column has. -/
theorem Catalog.association_names : ∀ resource ∈ Catalog.resources,
    ∀ association ∈ resource.associations,
      resource.association? association.name = some association ∧ association.name ≠ [] ∧
        association.name ∉ resource.columns := by
  decide

theorem Resource.mem_of_mem_named {resource : Resource} {names : List Text}
    {association : Association} (member : association ∈ resource.named names) :
    association ∈ resource.associations := by
  obtain ⟨name, -, found⟩ := List.mem_filterMap.1 member
  exact List.mem_of_find?_eq_some found

/-- An association is asked for when a value lists its name. -/
theorem mem_named_preload_iff {resource : Resource} (listed : resource ∈ Catalog.resources)
    {pairs : List Pair} {bounds : PageBounds} {association : Association} :
    association ∈ resource.named (Parameters.ofPairs pairs bounds).preload ↔
      association ∈ resource.associations ∧ ∃ value ∈ valuesOf populateKey pairs,
        ∃ name ∈ NameList.ofText value, lookedUp name = association.name := by
  have asked (known : association ∈ resource.associations) :
      association ∈ resource.named (Parameters.ofPairs pairs bounds).preload ↔
        ∃ value ∈ valuesOf populateKey pairs,
          ∃ name ∈ NameList.ofText value, lookedUp name = association.name := by
    obtain ⟨found, some_, -⟩ := Catalog.association_names resource listed association known
    rw [Resource.mem_named_iff found]
    simp only [Parameters.ofPairs, Parameters.mem_foldl_withName, List.not_mem_nil, false_or,
      some_, ne_eq, not_false_eq_true, true_and, List.mem_flatMap]
    constructor
    · rintro ⟨name, ⟨value, among, given⟩, same⟩
      exact ⟨value, among, name, given, same⟩
    · rintro ⟨value, among, name, given, same⟩
      exact ⟨name, ⟨value, among, given⟩, same⟩
  constructor
  · intro member
    have known := Resource.mem_of_mem_named member
    exact ⟨known, (asked known).1 member⟩
  · rintro ⟨known, given⟩
    exact (asked known).2 given

/-! ## The keys of an association -/

/-- The remote keys of an association are integers, and its rows are those of a primary key
on one side: the rows with this key, or the one row with a key among them. -/
theorem Catalog.association_keys : ∀ resource ∈ Catalog.resources,
    ∀ association ∈ resource.associations, ∀ shape ∈ catalogShape,
      shape.1.name = association.table →
        shape.1.affinityOf association.remoteKey = .integer ∧
          (association.cardinality = .hasMany ∧ association.localKey = resource.primaryKey ∨
            association.cardinality = .belongsTo ∧ association.remoteKey = shape.1.key) := by
  decide

section

variable {db : Database} {resource : Resource} {table other : Table} {association : Association}

/-- The two sides of an association in a catalog. -/
theorem IsCatalog.association_keys (catalog : IsCatalog db) (listed : resource ∈ Catalog.resources)
    (known : association ∈ resource.associations) (found : db.table? association.table = some other) :
    other.schema.affinityOf association.remoteKey = .integer ∧
      (association.cardinality = .hasMany ∧ association.localKey = resource.primaryKey ∨
        association.cardinality = .belongsTo ∧ association.remoteKey = other.schema.key) :=
  Catalog.association_keys resource listed association known other.shape
    (catalog.shape_mem (Database.mem_of_table? found)) (Database.name_of_table? found)

theorem IsCatalog.keyedBy (catalog : IsCatalog db) (listed : resource ∈ Catalog.resources)
    (found : db.table? resource.table = some table) (known : association ∈ resource.associations)
    (foundOther : db.table? association.table = some other) (row : Row) :
    association.KeyedBy other (row.value table.schema association.localKey) := by
  obtain ⟨affinity, sides⟩ := catalog.association_keys listed known foundOther
  refine ⟨affinity, sides.imp ?_ ?_⟩
  · rintro ⟨-, isKey⟩
    have key := (catalog.keeps_of_table? listed found).2.1
    exact ⟨row.key, by rw [Row.value, isKey, key, if_pos rfl]⟩
  · rintro ⟨-, isKey⟩ one -
    exact ⟨one.key, by rw [Table.value, Row.value, isKey, if_pos rfl]⟩

/-- **To a row of a page what a look-up finds is attached**, whatever the order in which the
keys of the page were collected. -/
theorem IsCatalog.attachment_eq_join (catalog : IsCatalog db)
    (listed : resource ∈ Catalog.resources) (found : db.table? resource.table = some table)
    (known : association ∈ resource.associations)
    (foundOther : db.table? association.table = some other) {page : List Row} {row : Row}
    (member : row ∈ page) {keys : List Scalar}
    (collected : keys.Perm (association.keysOf table.schema page)) :
    association.attachment other (association.related other keys)
        (row.value table.schema association.localKey) =
      association.join db (row.value table.schema association.localKey) := by
  refine Association.attachment_eq_join foundOther
    (catalog.keyedBy listed found known foundOther row) fun n refers => ?_
  rw [refers, collected.mem_iff]
  exact Association.mem_keysOf member refers

/-- The rows that belong to a key stand in the order of their keys. -/
theorem Association.inOrder_joined (association : Association) (ordered : other.InOrder)
    (key : Scalar) :
    (association.joined other key).Pairwise fun row later => row.key < later.key :=
  ordered.filter _

/-- At most one row has a primary key. -/
theorem Association.length_joined_le (ordered : other.InOrder)
    (isKey : association.remoteKey = other.schema.key) (key : Scalar) :
    (association.joined other key).length ≤ 1 := by
  have sameKey : ∀ row ∈ association.joined other key, Scalar.integer row.key = key := by
    intro row member
    have own := (List.mem_filter.1 member).2
    rwa [decide_eq_true_eq, Table.value, Row.value, isKey, if_pos rfl] at own
  have apart := association.inOrder_joined ordered key
  generalize association.joined other key = rows at sameKey apart
  rcases rows with _ | ⟨row, _ | ⟨later, rest⟩⟩
  · exact Nat.zero_le _
  · exact Nat.le_refl _
  · have less := (List.pairwise_cons.1 apart).1 later List.mem_cons_self
    have first := sameKey row List.mem_cons_self
    have second := sameKey later (List.mem_cons_of_mem _ List.mem_cons_self)
    have same := Scalar.integer.inj (first.trans second.symm)
    omega

end

/-! ## With associations and without -/

/-- The request without the pairs that ask for associations. -/
def unpopulated (pairs : List Pair) : List Pair :=
  pairs.filter fun pair => pair.1 != populateKey

theorem agree_unpopulated (pairs : List Pair) :
    AgreeBut [populateKey] pairs (unpopulated pairs) := by
  intro key other
  have apart : key ≠ populateKey := fun isKey => other (List.mem_singleton.2 isKey)
  rw [valuesOf, unpopulated, List.filterMap_filter, valuesOf]
  congr 1
  funext pair
  by_cases same : pair.1 = key
  · simp [same, apart]
  · simp [same]

theorem valuesOf_populateKey_unpopulated (pairs : List Pair) :
    valuesOf populateKey (unpopulated pairs) = [] := by
  rw [valuesOf, unpopulated, List.filterMap_filter, List.filterMap_eq_nil_iff]
  intro pair _
  by_cases populates : pair.1 = populateKey <;> simp [populates]

namespace ListingService

variable {service : ListingService} {now : Instant} {resource : Resource} {pairs : List Pair}

/-- The associations do not count for the selection. -/
theorem selectionOf_unpopulated : service.selectionOf now resource (unpopulated pairs) =
    service.selectionOf now resource pairs := by
  have agree := agree_unpopulated pairs
  have filters := Parameters.filters_of_agree (agree.of_mem (by decide)) service.bounds
  have asked : Window.asked? resource (unpopulated pairs) = Window.asked? resource pairs :=
    Window.asked?_of_agree (agree.of_mem (by decide))
  have limit := agree limitKey (by decide)
  have offset := agree offsetKey (by decide)
  have order := agree orderKey (by decide)
  simp only [selectionOf, Selection.ofParameters, Window.served, filters, asked]
  simp only [Parameters.ofPairs, limit, offset, order]

theorem asksFor_unpopulated : service.asksFor resource (unpopulated pairs) = [] := by
  have names : (Parameters.ofPairs (unpopulated pairs) service.bounds).preload = [] := by
    simp only [Parameters.ofPairs, valuesOf_populateKey_unpopulated, List.flatMap_nil,
      List.foldl_nil]
  rw [asksFor, names]
  rfl

theorem fullRecord_eq (catalog : IsCatalog service.store.database)
    (listed : resource ∈ Catalog.resources) {table : Table}
    (found : service.store.database.table? resource.table = some table) {page : List Row}
    {row : Row} (member : row ∈ page) :
    fullRecord service.store.database table.schema page (service.asksFor resource pairs) row =
      row.record table.schema ++ (service.asksFor resource pairs).map fun association =>
        (association.name, association.join service.store.database
          (row.value table.schema association.localKey)) := by
  unfold fullRecord
  congr 1
  refine List.map_congr_left fun association asked => ?_
  have known := Resource.mem_of_mem_named asked
  obtain ⟨other, foundOther⟩ := catalog.exists_association_table listed association known
  rw [Association.attached, foundOther]
  exact congrArg (Prod.mk association.name)
    (catalog.attachment_eq_join listed found known foundOther member (.refl _))

/-- The listing of the request without the associations. -/
theorem list_unpopulated_eq_ok_iff (listed : resource ∈ Catalog.resources)
    (catalog : IsCatalog service.store.database) {table : Table}
    (found : service.store.database.table? resource.table = some table) (listing : Listing) :
    service.list now resource.name (unpopulated pairs) = .ok (.ok listing) ↔
      Window.isInCalendar now (Window.asked? resource pairs) = true ∧
        service.store.isOpen = true ∧
        (service.selectionOf now resource pairs).Runs service.store.scan service.store.database
          table ∧
        listing = { service.answer now resource pairs table with
          rows := ((service.selectionOf now resource pairs).page service.store.scan
            service.store.database table).map fun row => row.record table.schema } := by
  have asked : Window.asked? resource (unpopulated pairs) = Window.asked? resource pairs :=
    Window.asked?_of_agree ((agree_unpopulated pairs).of_mem (by decide))
  have bare (page : List Row) : page.map (fullRecord service.store.database table.schema page []) =
      page.map fun row => row.record table.schema :=
    List.map_congr_left fun row _ => List.append_nil _
  rw [list_eq_ok_iff listed catalog found, asked, answer, selectionOf_unpopulated,
    asksFor_unpopulated, bare]
  simp only [Attaches, List.not_mem_nil, false_imp_iff, implies_true, true_and, answer]

end ListingService

/-- **Preloading is the naive join.**  The associations that a request asks for are those of
the resource whose names its values list.  A listing with them succeeds exactly when the
one without them does and none of them refers to more keys than a statement has
arguments, which no page of configurable bounds does.  Its rows are those of the listing
without them, in their order and with their columns, and behind these each association
has, under its own name, what belongs to the row: all rows of the other table with the
row's key in the order of their primary keys, or the only one.  The order in which the
keys of the page are collected does not count. -/
theorem preload_is_naive_join {resource : Resource} (listed : resource ∈ Catalog.resources)
    (service : ListingService) (reachable : ReachableInOrder service.store.database)
    (now : Instant) (pairs : List Pair) :
    let db := service.store.database
    let asked := resource.named (Parameters.ofPairs pairs service.bounds).preload
    ((∀ association, association ∈ asked ↔ association ∈ resource.associations ∧
        ∃ value ∈ valuesOf populateKey pairs, ∃ name ∈ NameList.ofText value,
          lookedUp name = association.name) ∧
      (asked.map (·.name)).Nodup ∧ ∀ association ∈ asked, association.name ∉ resource.columns) ∧
    ∃ table, db.table? resource.table = some table ∧
      let page := (service.selectionOf now resource pairs).page service.store.scan db table
      (∀ listing : Listing, service.list now resource.name pairs = .ok (.ok listing) ↔
        service.list now resource.name (unpopulated pairs) =
            .ok (.ok { listing with rows := page.map fun row => row.record table.schema }) ∧
          listing.rows = page.map (fun row => row.record table.schema ++
            asked.map fun association => (association.name,
              association.join db (row.value table.schema association.localKey))) ∧
          Attaches table.schema page asked) ∧
      (service.bounds.Configurable → Attaches table.schema page asked) ∧
      ∀ association ∈ asked, ∃ other, db.table? association.table = some other ∧
        ∀ row ∈ page,
          let key := row.value table.schema association.localKey
          (association.joined other key).Pairwise (fun one later => one.key < later.key) ∧
            (association.cardinality = .belongsTo → (association.joined other key).length ≤ 1) ∧
            ∀ keys : List Scalar, keys.Perm (association.keysOf table.schema page) →
              association.attachment other (association.related other keys) key =
                association.join db key := by
  intro db asked
  have catalog := reachable.isCatalog
  obtain ⟨table, found, -⟩ := catalog.exists_resource_table listed
  refine ⟨⟨fun association => mem_named_preload_iff listed, ?_, fun association member => ?_⟩,
    table, found, fun listing => ?_, fun configurable => ?_, fun association member => ?_⟩
  · rw [Resource.map_name_named]
    exact (Parameters.nodup_foldl_withName _ List.nodup_nil).filter _
  · exact (Catalog.association_names resource listed association
      (Resource.mem_of_mem_named member)).2.2
  · have rows : ((service.selectionOf now resource pairs).page service.store.scan db table).map
        (fullRecord db table.schema ((service.selectionOf now resource pairs).page service.store.scan db table) asked) =
        ((service.selectionOf now resource pairs).page service.store.scan db table).map fun row =>
          row.record table.schema ++ asked.map fun association => (association.name,
            association.join db (row.value table.schema association.localKey)) :=
      List.map_congr_left fun row member =>
        ListingService.fullRecord_eq catalog listed found member
    -- Both listings have the same selection, so they differ in their rows and `Attaches` only.
    rw [ListingService.list_eq_ok_iff listed catalog found,
      ListingService.list_unpopulated_eq_ok_iff listed catalog found]
    constructor
    · rintro ⟨inCalendar, isOpen, runs, attaches, rfl⟩
      exact ⟨⟨inCalendar, isOpen, runs, rfl⟩, rows, attaches⟩
    · rintro ⟨⟨inCalendar, isOpen, runs, same⟩, joined, attaches⟩
      refine ⟨inCalendar, isOpen, runs, attaches, ?_⟩
      obtain ⟨given, total, limit, offset⟩ := listing
      obtain ⟨-, rfl, rfl, rfl⟩ := Listing.mk.inj same
      exact congrArg (Listing.mk · _ _ _) (joined.trans rows.symm)
  · exact Attaches.of_configurable configurable now resource pairs service.store.scan db table
  · have known := Resource.mem_of_mem_named member
    obtain ⟨other, foundOther⟩ := catalog.exists_association_table listed association known
    have ordered := reachable.inOrder.of_table? foundOther
    obtain ⟨-, sides⟩ := catalog.association_keys listed known foundOther
    refine ⟨other, foundOther, fun row inPage => ⟨association.inOrder_joined ordered _, ?_, ?_⟩⟩
    · intro belongs
      rcases sides with ⟨many, -⟩ | ⟨-, isKey⟩
      · rw [many] at belongs
        cases belongs
      · exact Association.length_joined_le ordered isKey _
    · exact fun keys collected =>
        catalog.attachment_eq_join listed found known foundOther inPage collected

/-- Authors with their books; they have no editors. -/
def authorsRequest : List Pair :=
  [("populate", "Editors, books"), ("populate", "Books")]

theorem calm_authorsRequest : Calm Catalog.authors authorsRequest := by
  intro pair member free usable condition accepted
  simp only [authorsRequest, List.mem_cons, List.not_mem_nil, or_false] at member
  rcases member with rfl | rfl
  · exact absurd (by decide) free
  · exact absurd (by decide) free

/-- The books of an author are those of both writes. -/
theorem joined_authorsRequest :
    ((emptyCatalog.afterAll writesOfBooks).table? Tables.books.name).map (fun table =>
      Catalog.authors.associations.map fun association =>
        (association.joined table (.integer 2)).map (·.key)) = some [[3, 4]] := by
  rw [emptyCatalog, Migration.run_empty]
  decide +kernel

/-- The author of two books is listed with both, in the order of their keys. -/
theorem authorsRequest_lists_both_books :
    Catalog.authors ∈ Catalog.resources ∧ ReachableInOrder (emptyCatalog.afterAll writesOfBooks) ∧
      ∃ table listing, (emptyCatalog.afterAll writesOfBooks).table? Tables.authors.name = some table ∧
        (serviceOver (emptyCatalog.afterAll writesOfBooks)).list 0 Catalog.authors.name
          authorsRequest = .ok (.ok listing) ∧
        listing.rows = (((serviceOver (emptyCatalog.afterAll writesOfBooks)).selectionOf 0
          Catalog.authors authorsRequest).page .plain (emptyCatalog.afterAll writesOfBooks) table).map
            (fun row => row.record table.schema ++ Catalog.authors.associations.map fun association =>
              (association.name, association.join (emptyCatalog.afterAll writesOfBooks)
                (row.value table.schema association.localKey))) ∧
        ∃ other, (emptyCatalog.afterAll writesOfBooks).table? Tables.books.name = some other ∧
          Catalog.authors.associations.map (fun association =>
            (association.joined other (.integer 2)).map (·.key)) = [[3, 4]] := by
  have listed : Catalog.authors ∈ Catalog.resources := by decide
  have reachable := reachableInOrder_emptyCatalog writesOfBooks
  have both := joined_authorsRequest
  generalize emptyCatalog.afterAll writesOfBooks = db at reachable both ⊢
  obtain ⟨-, table, found, succeeds, -⟩ :=
    preload_is_naive_join listed (serviceOver db) reachable 0 authorsRequest
  have fits : ((serviceOver db).selectionOf 0 Catalog.authors authorsRequest).Fits := by
    change (Selection.ofParameters Catalog.authors
      (Window.served 0 Catalog.authors authorsRequest .standard)).Fits
    exact ⟨by decide +kernel, by decide +kernel, by decide +kernel⟩
  have inCalendar : Window.isInCalendar 0 (Window.asked? Catalog.authors authorsRequest) = true := by
    decide +kernel
  have answered : (serviceOver db).list 0 Catalog.authors.name authorsRequest =
      .ok (.ok ((serviceOver db).answer 0 Catalog.authors authorsRequest table)) :=
    ListingService.list_of_fits listed rfl configurable_standard reachable.isCatalog found
      inCalendar fits calm_authorsRequest
  have asked : Catalog.authors.named
      (Parameters.ofPairs authorsRequest (serviceOver db).bounds).preload =
        Catalog.authors.associations := by
    change Catalog.authors.named (Parameters.ofPairs authorsRequest .standard).preload = _
    decide +kernel
  obtain ⟨-, rows, -⟩ := (succeeds _).1 answered
  rw [asked] at rows
  obtain ⟨other, foundOther, keys⟩ := Option.map_eq_some_iff.1 both
  exact ⟨listed, reachable, table, _, found, answered, rows, other, foundOther, keys⟩

end CatalogListing
