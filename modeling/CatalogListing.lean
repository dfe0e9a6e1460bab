import CatalogListing.Main
import CatalogListing.Proofs.Listing.Stability
import CatalogListing.Proofs.Listing.Limits
import CatalogListing.Proofs.Listing.Pages
import CatalogListing.Store.Shutdown
import CatalogListing.Proofs.Filter.Tree
import CatalogListing.Proofs.Filter.ReadBack
import CatalogListing.Proofs.Sql.Placeholders
import CatalogListing.Proofs.Listing.Window
import CatalogListing.Proofs.Sql.Layout
import CatalogListing.Proofs.Filter.Placement
import CatalogListing.Proofs.Select.Plan
import CatalogListing.Proofs.Store.Catalog
import CatalogListing.Proofs.Store.Postings
import CatalogListing.Proofs.Store.Sync
import CatalogListing.Proofs.Store.Migrated
import CatalogListing.Proofs.Store.Query
import CatalogListing.Proofs.Store.TitleSearch
import CatalogListing.Proofs.Listing.TitleListing
import CatalogListing.Proofs.Store.Match
import CatalogListing.Proofs.Sql.Binding
import CatalogListing.Proofs.Select.BoundTest
import CatalogListing.Proofs.Store.Meaning
import CatalogListing.Proofs.Listing.Narrowing
import CatalogListing.Proofs.Listing.Inert
import CatalogListing.Proofs.Listing.Interleaving
import CatalogListing.Proofs.Listing.Preload
import CatalogListing.Proofs.Listing.Convergence
import CatalogListing.Proofs.Store.Atomicity
import CatalogListing.Proofs.Http.ListingRequest
import CatalogListing.Proofs.Listing.Bounds
import CatalogListing.Proofs.Program.Serving
import CatalogListing.Proofs.Listing.WindowStart
import CatalogListing.Proofs.Listing.Revision
import CatalogListing.Proofs.Store.Seeding
import CatalogListing.Proofs.Store.Shutdown
import CatalogListing.Proofs.Program.Ending
import CatalogListing.Proofs.Filter.Form
import CatalogListing.Proofs.Listing.Column
import CatalogListing.Proofs.Listing.Complement
import CatalogListing.Proofs.Listing.Instants
import CatalogListing.Proofs.Listing.PublishedWithin
import CatalogListing.Proofs.Query.Integers
import CatalogListing.Proofs.Program.Prune
import CatalogListing.Proofs.Store.QueryLexemes
import CatalogListing.Proofs.Settings.Layers
import CatalogListing.Proofs.Filter.Answers
import CatalogListing.Proofs.Http.Origins
import CatalogListing.Proofs.Query.Names
import CatalogListing.Proofs.Sql.Expansion
import CatalogListing.Decimal.Extended
