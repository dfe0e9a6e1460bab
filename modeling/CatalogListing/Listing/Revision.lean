/-
# Listing.Revision -- what a service does to the parameters of a request

Between the pairs of a request and the store its parameters are in the hands of a service.
The service may attach associations, add clauses, set the SQL around the listing, take a
filter out and interpret it itself, and ask for the condition or the statements at any time.
A revision is one such step.
-/
import CatalogListing.Listing.Window
import CatalogListing.Select.Plan

namespace CatalogListing

set_option autoImplicit false

/-- The parts of the SQL that a service adds around a listing. -/
inductive PassthroughPart where
  | select
  | joins
  | group
  | having
  deriving DecidableEq, Repr

/-- The SQL around a listing with one part replaced. -/
def Passthrough.set (passthrough : Passthrough) (part : PassthroughPart) (sql : Option Text) :
    Passthrough :=
  match part with
  | .select => { passthrough with select := sql }
  | .joins => { passthrough with joins := sql }
  | .group => { passthrough with group := sql }
  | .having => { passthrough with having := sql }

/-- One step of a service on the parameters of a request. -/
inductive Revision where
  | addPreload (name : Text)
  | addCustom (clause : Text) (values : List Sql.Parameter)
  | setPassthrough (part : PassthroughPart) (sql : Option Text)
  | takeFilter (key : Text)
  | applyWindow (now : Instant) (resource : Resource)
  | predicate (render : Filter.Renderer Sql.Fragment) (allowed : List Text)
  | plan (resource : Resource)

/-- What a step answers. -/
inductive Report where
  | done
  | values (values : Option (List Text))
  | predicate (predicate : Sql.Predicate)
  | plan (plan : Plan)
  deriving DecidableEq, Repr

namespace Parameters

/-- The parameters after a step, and what it answers. -/
def perform (parameters : Parameters) : Revision → Except Window.Failure (Parameters × Report)
  | .addPreload name => .ok (parameters.addPreload name, .done)
  | .addCustom clause values => .ok (parameters.addCustom clause values, .done)
  | .setPassthrough part sql =>
      .ok ({ parameters with passthrough := parameters.passthrough.set part sql }, .done)
  | .takeFilter key =>
      let (values, others) := parameters.takeFilter key
      .ok (others, .values values)
  | .applyWindow now resource => do
      let narrowed ← Window.apply now resource parameters
      return (narrowed, .done)
  | .predicate render allowed =>
      .ok (parameters, .predicate
        (Filter.predicateOf id (Filter.compileAll render allowed parameters.filters)))
  | .plan resource =>
      .ok (parameters, .plan (Selection.ofParameters resource parameters).plan)

end Parameters

namespace Revision

/-- The key whose filter a step takes for itself. -/
def key? : Revision → Option Text
  | .takeFilter key => some key
  | .applyWindow _ resource =>
      if resource.name = Catalog.books.name then some Window.key else none
  | _ => none

/-- The entries that a step takes out of filters. -/
def taken (step : Revision) (filters : Keyed (List Text)) : Keyed (List Text) :=
  filters.filter fun entry => step.key? = some entry.1

/-- The step only asks. -/
def isQuestion : Revision → Bool
  | .predicate _ _ | .plan _ => true
  | _ => false

end Revision

/-- The parameters after steps, and the entries that the steps took out of the filters, in
the order in which they took them. -/
def Parameters.revise (parameters : Parameters) :
    List Revision → Except Window.Failure (Parameters × Keyed (List Text))
  | [] => .ok (parameters, [])
  | step :: rest => do
      let (next, _) ← parameters.perform step
      let (last, ledger) ← next.revise rest
      return (last, step.taken parameters.filters ++ ledger)

end CatalogListing
