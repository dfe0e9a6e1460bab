/-
# Proofs.Store.Resources -- where the resources of the catalog are kept

A database with the shape of the catalog has a table for each resource, with the key and
the columns that the resource says it has.
-/
import CatalogListing.Proofs.Store.Catalog
import CatalogListing.Catalog

namespace CatalogListing

set_option autoImplicit false

theorem Catalog.find?_of_mem {resource : Resource} (listed : resource ∈ Catalog.resources) :
    Catalog.find? resource.name = some resource := by
  simp only [Catalog.resources, List.mem_cons, List.not_mem_nil, or_false] at listed
  rcases listed with rfl | rfl | rfl <;> rfl

/-- The schema is the one of a resource. -/
def Keeps (schema : Schema) (resource : Resource) : Prop :=
  schema.name = resource.table ∧ schema.key = resource.primaryKey ∧
    schema.columnNames = resource.columns

instance (schema : Schema) (resource : Resource) : Decidable (Keeps schema resource) :=
  inferInstanceAs (Decidable (_ ∧ _))

theorem exists_shape_of_listed :
    ∀ resource ∈ Catalog.resources, ∃ shape ∈ catalogShape, Keeps shape.1 resource := by
  decide

namespace IsCatalog

variable {db : Database}

theorem exists_table (catalog : IsCatalog db) {shape : Schema × Bool}
    (member : shape ∈ catalogShape) :
    ∃ table, db.table? shape.1.name = some table ∧ table.shape = shape := by
  rw [← catalog.shape] at member
  obtain ⟨table, among, rfl⟩ := List.mem_map.1 member
  have isSome : (db.table? table.schema.name).isSome = true :=
    List.find?_isSome.2 ⟨table, among, by simp⟩
  obtain ⟨other, found⟩ := Option.isSome_iff_exists.1 isSome
  have same := catalog.eq_of_name (Database.mem_of_table? found) among
    (Database.name_of_table? found)
  exact ⟨table, same ▸ found, rfl⟩

/-- Every resource has its table. -/
theorem exists_resource_table (catalog : IsCatalog db) {resource : Resource}
    (listed : resource ∈ Catalog.resources) :
    ∃ table, db.table? resource.table = some table ∧ Keeps table.schema resource := by
  obtain ⟨shape, member, keeps⟩ := exists_shape_of_listed resource listed
  obtain ⟨table, found, rfl⟩ := catalog.exists_table member
  exact ⟨table, keeps.1 ▸ found, keeps⟩

theorem keeps_of_table? (catalog : IsCatalog db) {resource : Resource}
    (listed : resource ∈ Catalog.resources) {table : Table}
    (found : db.table? resource.table = some table) : Keeps table.schema resource := by
  obtain ⟨other, found', keeps⟩ := catalog.exists_resource_table listed
  obtain rfl := Option.some.inj (found.symm.trans found')
  exact keeps

end IsCatalog

end CatalogListing
