/-
# Proofs.Listing.Bounds -- the bounds of a page hold

Whatever settings are accepted and whatever a request asks for, the limit of its page is
at least one and at most the limit in force, which is at most ten thousand, and the
offset is one that a signed word of 64 bits holds.  The statements take both as they are,
also when they are computed in machine words, and the answer reports them
(`accepted_bounds_hold`).

A page has no more rows than its limit, so the statement for the rows of an association
has far fewer arguments than a statement may have.
-/
import CatalogListing.Proofs.Query.Words
import CatalogListing.Proofs.Settings.Accepted

namespace CatalogListing

set_option autoImplicit false

open PageBounds

theorem PageBounds.limit_bounds {bounds : PageBounds} (configurable : bounds.Configurable)
    (raw : Option Text) : 1 ≤ bounds.limit raw ∧ bounds.limit raw ≤ bounds.maxLimit := by
  obtain ⟨positive, ordered, -⟩ := configurable
  unfold limit
  split
  · rename_i n read
    have above : 1 ≤ n := by
      obtain ⟨text, -, read⟩ := Option.bind_eq_some_iff.1 read
      unfold positive? at read
      split at read
      · exact Option.some.inj read ▸ Nat.succ_pos _
      · cases read
    omega
  · exact ⟨positive, ordered⟩

/-- The limit of a request in words, for bounds that words of 32 bits hold. -/
def limitWordOf (bounds : PageBounds) (pairs : List Pair) : UInt32 :=
  limitWord (UInt32.ofNat bounds.defaultLimit) (UInt32.ofNat bounds.maxLimit)
    (Parameters.valuesOf limitKey pairs).head?

/-- The offset of a request in words. -/
def offsetWordOf (pairs : List Pair) : UInt64 :=
  offsetWord (Parameters.valuesOf offsetKey pairs).head?

theorem toNat_limitWordOf {bounds : PageBounds} (configurable : bounds.Configurable)
    (pairs : List Pair) :
    (limitWordOf bounds pairs).toNat = (Parameters.ofPairs pairs bounds).limit := by
  obtain ⟨-, ordered, small⟩ := configurable
  have room : Configuration.maxBound < 4294967296 := by decide
  have first : (UInt32.ofNat bounds.defaultLimit).toNat = bounds.defaultLimit :=
    UInt32.toNat_ofNat_of_lt' (by change _ < 4294967296; omega)
  have last : (UInt32.ofNat bounds.maxLimit).toNat = bounds.maxLimit :=
    UInt32.toNat_ofNat_of_lt' (by change _ < 4294967296; omega)
  rw [limitWordOf, toNat_limitWord, first, last]
  rfl

/-- What a listing of a service reports is what was asked of the store. -/
theorem ListingService.reports_served {service : ListingService} {now : Instant}
    {resource : Resource} (listed : resource ∈ Catalog.resources) {pairs : List Pair}
    {listing : Listing} (answered : service.list now resource.name pairs = .ok (.ok listing)) :
    listing.limit = (Window.served now resource pairs service.bounds).limit ∧
      listing.offset = (Window.served now resource pairs service.bounds).offset := by
  rw [list_eq listed] at answered
  split at answered
  · have paged := Except.ok.inj answered
    unfold page at paged
    split at paged
    · obtain rfl := Except.ok.inj paged
      exact ⟨rfl, rfl⟩
    · cases paged
  · cases answered

/-- The statement for an association has at most one argument for each row that a page may
have. -/
theorem Association.length_keysOf_page (association : Association) (selection : Selection)
    (scan : Scan) (db : Database) (table : Table) :
    (association.keysOf table.schema (selection.page scan db table)).length ≤ selection.limit := by
  have keys := association.length_keysOf_le table.schema (selection.page scan db table)
  rw [selection.length_page] at keys
  omega

/-- **The bounds of accepted settings hold for every request.** -/
theorem accepted_bounds_hold {around : Surroundings} {look : Text → Configuration.Found}
    {given : GivenSettings} {configuration : Configuration}
    (accepted : Configuration.load around look given = .ok configuration) (store : Store)
    (now : Instant) {resource : Resource} (listed : resource ∈ Catalog.resources)
    (pairs : List Pair) {parameters : Parameters}
    (applied : Window.apply now resource (.ofPairs pairs configuration.bounds) = .ok parameters) :
    let selection := Selection.ofParameters resource parameters
    let limit := limitWordOf configuration.bounds pairs
    let offset := offsetWordOf pairs
    (1 ≤ parameters.limit ∧ parameters.limit ≤ configuration.bounds.maxLimit ∧
      configuration.bounds.maxLimit ≤ 10000) ∧
    parameters.offset ≤ 9223372036854775807 ∧
    (limit.toNat = parameters.limit ∧ offset.toNat = parameters.offset) ∧
    ((argumentOfLimit limit).toInt = parameters.limit ∧
      (argumentOfOffset offset).toInt = parameters.offset) ∧
    (selection.plan.limit = parameters.limit ∧ selection.plan.offset = parameters.offset) ∧
    (∀ listing, ListingService.list ⟨store, configuration.bounds⟩ now resource.name pairs =
        .ok (.ok listing) →
      listing.limit = parameters.limit ∧ listing.offset = parameters.offset) ∧
    (∀ (association : Association) (scan : Scan) (db : Database) (table : Table),
      (association.keysOf table.schema (selection.page scan db table)).length ≤
        configuration.bounds.maxLimit) ∧
    configuration.bounds.maxLimit < maxArguments := by
  have configurable := (Configuration.inOrder_of_load accepted).bounds
  obtain ⟨-, rfl⟩ := (Window.apply_eq_ok_iff _ _ _ _ _).1 applied
  have limits := limit_bounds configurable (Parameters.valuesOf limitKey pairs).head?
  have small : configuration.bounds.maxLimit ≤ 10000 := configurable.2.2
  have holds := offset_le (Parameters.valuesOf offsetKey pairs).head?
  have limitWords := toNat_limitWordOf configurable pairs
  have offsetWords := toNat_offsetWord (Parameters.valuesOf offsetKey pairs).head?
  have fits : (offsetWordOf pairs).toNat ≤ maxOffset := offsetWords.trans_le holds
  intro selection limit offset
  refine ⟨⟨limits.1, limits.2, small⟩, holds, ⟨limitWords, offsetWords⟩, ⟨?_, ?_⟩,
    ⟨rfl, min_eq_left holds⟩, fun listing answered => ?_, fun association scan db table => ?_, ?_⟩
  · rw [toInt_argumentOfLimit, limitWords]
    rfl
  · rw [toInt_argumentOfOffset fits]
    exact congrArg Nat.cast offsetWords
  · exact ListingService.reports_served listed answered
  · exact (association.length_keysOf_page selection scan db table).trans limits.2
  · exact Nat.lt_of_le_of_lt small (by decide)

/-- Settings of a profile, of a file of the current directory and of the command line; each
layer gives a limit. -/
def layeredFiles (location : Text) : Configuration.Found :=
  if location = "/root/.sieve/sieve.json" then
    .text "\x7b\"query\": \x7b\"default_limit\": 50, \"max_limit\": 9\x7d\x7d"
  else if location = "/srv/sieve.json" then .text "\x7b\"query\": \x7b\"max_limit\": 70\x7d\x7d"
  else .nothing

/-- A limit above the largest word that is read counts as none, and an offset may be the
largest such word. -/
theorem layered_bounds_hold :
    Configuration.load ⟨[], "/srv", "/root", []⟩ layeredFiles { defaultLimit := some 60 } =
        .ok { Configuration.defaults with bounds := ⟨60, 70⟩ } ∧
      Catalog.books ∈ Catalog.resources ∧ ∃ parameters,
        Window.apply 0 Catalog.books (.ofPairs [("limit", "9223372036854775808"),
          ("offset", " 9223372036854775807")] ⟨60, 70⟩) = .ok parameters ∧
        parameters.limit = 60 ∧
        (Selection.ofParameters Catalog.books parameters).plan.offset = 9223372036854775807 := by
  have accepted : Configuration.load ⟨[], "/srv", "/root", []⟩ layeredFiles
      { defaultLimit := some 60 } = .ok { Configuration.defaults with bounds := ⟨60, 70⟩ } := by
    decide +kernel
  have listed : Catalog.books ∈ Catalog.resources := by decide
  have applied := (Window.apply_eq_ok_iff 0 Catalog.books [("limit", "9223372036854775808"),
    ("offset", " 9223372036854775807")] ⟨60, 70⟩ _).2 ⟨by decide +kernel, rfl⟩
  obtain ⟨-, -, -, -, ⟨-, offset⟩, -⟩ :=
    accepted_bounds_hold accepted { database := {} } 0 listed _ applied
  refine ⟨accepted, listed, _, applied, by decide +kernel, offset.trans ?_⟩
  decide +kernel

end CatalogListing
