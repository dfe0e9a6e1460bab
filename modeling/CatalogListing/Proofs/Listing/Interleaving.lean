/-
# Proofs.Listing.Interleaving -- the order of keys in a request

Only the order of the values of one key counts.  Requests that have the same values for
each key, however their keys take turns, have the same parameters and so the same listing
(`listing_known_by_values_of_keys`).  Nothing of a request is lost on the way: each key
that is not reserved is a filter with all its values in the order they came, and no
reserved key is one.
-/
import CatalogListing.Proofs.Listing.Limits
import CatalogListing.Proofs.Query.Reading

namespace CatalogListing

set_option autoImplicit false

open Parameters (AgreeBut Reading valuesOf)

namespace Parameters

theorem AgreeBut.of_nil {pairs others : List Pair} (agree : AgreeBut [] pairs others)
    (keys : List Text) : AgreeBut keys pairs others :=
  fun key _ => agree key List.not_mem_nil

theorem valuesOf_eq_nil {key : Text} {pairs : List Pair} (absent : ∀ pair ∈ pairs, pair.1 ≠ key) :
    valuesOf key pairs = [] := by
  rw [valuesOf, List.filterMap_eq_nil_iff]
  exact fun pair member => if_neg (absent pair member)

/-- Only the keys that occur have to be compared. -/
theorem agree_of_keys {pairs others : List Pair}
    (same : ∀ pair ∈ pairs ++ others, valuesOf pair.1 others = valuesOf pair.1 pairs) :
    AgreeBut [] pairs others := by
  intro key _
  by_cases occurs : ∃ pair ∈ pairs ++ others, pair.1 = key
  · obtain ⟨pair, member, rfl⟩ := occurs
    exact same pair member
  · have absent : ∀ pair ∈ pairs ++ others, pair.1 ≠ key :=
      fun pair member isKey => occurs ⟨pair, member, isKey⟩
    obtain ⟨inPairs, inOthers⟩ := List.forall_mem_append.1 absent
    rw [valuesOf_eq_nil inPairs, valuesOf_eq_nil inOthers]

/-- Requests that have the same values for each key have the same parameters. -/
theorem ofPairs_of_agree {pairs others : List Pair} (agree : AgreeBut [] pairs others)
    (bounds : PageBounds) : ofPairs others bounds = ofPairs pairs bounds := by
  have values (key : Text) : valuesOf key others = valuesOf key pairs :=
    agree key List.not_mem_nil
  have filters := filters_of_agree (agree.of_nil reservedKeys) bounds
  simp only [ofPairs] at filters ⊢
  rw [filters, values, values, values, values]

/-- A filter key is not reserved. -/
theorem notMem_reservedKeys_of_mem_filters {pairs : List Pair} {bounds : PageBounds}
    {filter : Text × List Text} (member : filter ∈ (ofPairs pairs bounds).filters) :
    filter.1 ∉ reservedKeys := by
  intro reserved
  have found := Keyed.find?_of_mem (ascending_filters pairs bounds) member
  rw [find?_filters, if_pos (Or.inl reserved)] at found
  cases found

end Parameters

/-- **A request is known by the values of its keys.**  Two requests with the same values for
each key, in the same order within the key, have the same parameters, whatever the bounds,
and the same listing, whatever the service, the instant and the resource.  The parameters
are those of a single pass over the pairs; the filters stand in the order of their keys,
each key that is not reserved with exactly the values supplied for it, and no reserved key
among them. -/
theorem listing_known_by_values_of_keys :
    (∀ pairs others : List Pair, (∀ key, valuesOf key others = valuesOf key pairs) →
      (∀ bounds, Parameters.ofPairs others bounds = .ofPairs pairs bounds) ∧
      ∀ (service : ListingService) (now : Instant) (name : Text),
        service.list now name others = service.list now name pairs) ∧
    ∀ (pairs : List Pair) (bounds : PageBounds),
      let parameters := Parameters.ofPairs pairs bounds
      parameters = (pairs.foldl Reading.step {}).parameters bounds ∧
        parameters.filters.Ascending ∧
        (∀ key, key ∉ reservedKeys → Keyed.find? key parameters.filters =
          if valuesOf key pairs = [] then none else some (valuesOf key pairs)) ∧
        ∀ filter ∈ parameters.filters, filter.1 ∉ reservedKeys := by
  constructor
  · intro pairs others values
    have agree : AgreeBut [] pairs others := fun key _ => values key
    refine ⟨Parameters.ofPairs_of_agree agree, fun service now name => ?_⟩
    unfold ListingService.list
    rw [Parameters.ofPairs_of_agree agree]
  · intro pairs bounds
    refine ⟨Parameters.ofPairs_eq_reading pairs bounds, Parameters.ascending_filters pairs bounds,
      fun key free => ?_, fun filter member => Parameters.notMem_reservedKeys_of_mem_filters member⟩
    rw [Parameters.find?_filters]
    simp only [free, false_or]

/-- Filters on two columns of which one has two values, and pages of one row. -/
def columnwiseRequest : List Pair :=
  [("genre", "fan%"), ("genre", "~crime"), ("pages", ">100"), ("limit", "1"), ("limit", "5"),
    ("order_by", "title"), ("order_by", "-id"), ("populate", "Author")]

/-- The same values of the same keys, taking turns. -/
def interleavedRequest : List Pair :=
  [("limit", "1"), ("genre", "fan%"), ("populate", "Author"), ("order_by", "title"),
    ("pages", ">100"), ("order_by", "-id"), ("genre", "~crime"), ("limit", "5")]

/-- The two requests have the same listing, with both values of the genre in their order. -/
theorem interleavedRequest_lists_columnwise :
    (∀ key, valuesOf key interleavedRequest = valuesOf key columnwiseRequest) ∧
      interleavedRequest ≠ columnwiseRequest ∧
      (serviceOver (emptyCatalog.afterAll writesOfBooks)).list 0 Catalog.books.name
          interleavedRequest =
        (serviceOver (emptyCatalog.afterAll writesOfBooks)).list 0 Catalog.books.name
          columnwiseRequest ∧
      Keyed.find? "genre" (Parameters.ofPairs interleavedRequest .standard).filters =
        some (["fan%", "~crime"] : List Text) := by
  have agree : AgreeBut [] columnwiseRequest interleavedRequest :=
    Parameters.agree_of_keys (by decide)
  have values : ∀ key, valuesOf key interleavedRequest = valuesOf key columnwiseRequest :=
    fun key => agree key List.not_mem_nil
  obtain ⟨same, kept⟩ := listing_known_by_values_of_keys
  obtain ⟨-, -, filters, -⟩ := kept interleavedRequest .standard
  refine ⟨values, by decide, (same _ _ values).2 _ 0 Catalog.books.name, ?_⟩
  rw [filters "genre" (by decide)]
  decide

end CatalogListing
