/-
# Proofs.Listing.Revision -- nothing gets lost while a service holds the parameters

A service revises the parameters of a request step by step, in any order.  What holds of them
throughout is `Accounts`:

* the names of associations are capitalized, none of them empty, each once;
* page and order are those of the request;
* the filters and what the steps took out of them are together the filters of the request.

`Accounts.perform` is the step, `Accounts.revise` the run.  `revisions_account` says what
this means for every key of the request: its values stand in the filters in their order, or
they were handed out by exactly one step.
-/
import CatalogListing.Proofs.Listing.WindowStart
import CatalogListing.Proofs.Listing.Preload
import CatalogListing.Proofs.Text.Uppercase
import CatalogListing.Listing.Revision

namespace CatalogListing

set_option autoImplicit false

open Parameters (lookedUp valuesOf withName)

/-! ## Names of associations -/

/-- Capitalized names, none of them empty, each once. -/
structure WellNamed (names : List Text) : Prop where
  unique : names.Nodup
  nonempty : ∀ name ∈ names, name ≠ []
  capital : ∀ name ∈ names, Text.capitalize name = name

theorem wellNamed_nil : WellNamed [] :=
  ⟨List.nodup_nil, by simp, by simp⟩

theorem WellNamed.withName {names : List Text} (named : WellNamed names) (name : Text) :
    WellNamed (withName names name) := by
  rw [Parameters.withName_eq]
  split
  · exact named
  · rename_i new
    obtain ⟨some_, absent⟩ := not_or.1 new
    refine ⟨?_, ?_, ?_⟩
    · exact List.nodup_append_comm.1 (List.nodup_cons.2 ⟨absent, named.unique⟩)
    · intro other member
      rcases List.mem_append.1 member with old | last
      · exact named.nonempty other old
      · exact List.mem_singleton.1 last ▸ some_
    · intro other member
      rcases List.mem_append.1 member with old | last
      · exact named.capital other old
      · rw [List.mem_singleton.1 last]
        exact Text.capitalize_capitalize _

theorem WellNamed.foldl_withName {names : List Text} (named : WellNamed names)
    (given : List Text) : WellNamed (given.foldl Parameters.withName names) := by
  induction given generalizing names with
  | nil => exact named
  | cons first rest ih => exact ih (named.withName first)

/-! ## One step -/

namespace Parameters

/-- What a step leaves of the parameters it does not name. -/
structure Follows (step : Revision) (parameters next : Parameters) : Prop where
  limit : next.limit = parameters.limit
  offset : next.offset = parameters.offset
  order : next.order = parameters.order
  preload : next.preload = parameters.preload ∨
    ∃ name, next.preload = withName parameters.preload name
  filters : next.filters = parameters.filters.filter fun entry => !(step.key? = some entry.1)

theorem filter_of_key?_eq_none {step : Revision} (takes : step.key? = none)
    (filters : Keyed (List Text)) :
    filters = filters.filter fun entry => !(step.key? = some entry.1) := by
  rw [takes]
  simp

theorem erase_of_key? {step : Revision} {key : Text} (takes : step.key? = some key)
    (filters : Keyed (List Text)) :
    filters.erase key = filters.filter fun entry => !(step.key? = some entry.1) := by
  rw [takes, Keyed.erase]
  refine List.filter_congr fun entry _ => ?_
  by_cases same : entry.1 = key
  · simp [same]
  · simp [same, Ne.symm same]

theorem follows_window {now : Instant} {resource : Resource} {parameters next : Parameters}
    (applied : Window.apply now resource parameters = .ok next) :
    Follows (.applyWindow now resource) parameters next := by
  have left : Window.leftFor resource parameters.filters = parameters.filters.filter fun entry =>
      !((Revision.applyWindow now resource).key? = some entry.1) := by
    by_cases books : resource.name = Catalog.books.name
    · rw [Window.leftFor, if_pos books]
      exact erase_of_key? (by rw [Revision.key?, if_pos books]) _
    · rw [Window.leftFor, if_neg books]
      exact filter_of_key?_eq_none (by rw [Revision.key?, if_neg books]) _
  rw [Window.apply_eq] at applied
  cases held : Window.heldCount? resource parameters with
  | none =>
      rw [held] at applied
      cases applied
      exact ⟨rfl, rfl, rfl, Or.inl rfl, left⟩
  | some days =>
      rw [held] at applied
      dsimp only at applied
      split at applied
      · cases applied
        exact ⟨rfl, rfl, rfl, Or.inl rfl, left⟩
      · cases applied

/-- **What a step does**: it takes out the filter of its key, and it changes neither the page
nor the order. -/
theorem follows_of_perform {parameters next : Parameters} {step : Revision} {report : Report}
    (performed : parameters.perform step = .ok (next, report)) : Follows step parameters next := by
  cases step with
  | addPreload name =>
      cases performed
      exact ⟨rfl, rfl, rfl, Or.inr ⟨name, rfl⟩, filter_of_key?_eq_none rfl _⟩
  | addCustom clause values =>
      cases performed
      exact ⟨rfl, rfl, rfl, Or.inl rfl, filter_of_key?_eq_none rfl _⟩
  | setPassthrough part sql =>
      cases performed
      exact ⟨rfl, rfl, rfl, Or.inl rfl, filter_of_key?_eq_none rfl _⟩
  | takeFilter key =>
      cases performed
      exact ⟨rfl, rfl, rfl, Or.inl rfl, erase_of_key? rfl _⟩
  | applyWindow now resource =>
      rw [perform] at performed
      cases applied : Window.apply now resource parameters with
      | error failure =>
          rw [applied] at performed
          cases performed
      | ok narrowed =>
          rw [applied] at performed
          cases performed
          exact follows_window applied
  | predicate render allowed =>
      cases performed
      exact ⟨rfl, rfl, rfl, Or.inl rfl, filter_of_key?_eq_none rfl _⟩
  | plan resource =>
      cases performed
      exact ⟨rfl, rfl, rfl, Or.inl rfl, filter_of_key?_eq_none rfl _⟩

/-- Asking changes nothing, takes nothing, and always gets an answer. -/
theorem perform_question {step : Revision} (question : step.isQuestion = true)
    (parameters : Parameters) :
    (∃ report, parameters.perform step = .ok (parameters, report)) ∧
      step.taken parameters.filters = [] := by
  cases step with
  | predicate render allowed => exact ⟨⟨_, rfl⟩, by simp [Revision.taken, Revision.key?]⟩
  | plan resource => exact ⟨⟨_, rfl⟩, by simp [Revision.taken, Revision.key?]⟩
  | _ => cases question

/-- A step fails only as a window does. -/
theorem perform_eq_error_iff {parameters : Parameters} {step : Revision}
    {failure : Window.Failure} :
    parameters.perform step = .error failure ↔
      ∃ now resource, step = .applyWindow now resource ∧
        Window.apply now resource parameters = .error failure := by
  constructor
  · intro failed
    cases step with
    | applyWindow now resource =>
        refine ⟨now, resource, rfl, ?_⟩
        rw [perform] at failed
        cases applied : Window.apply now resource parameters with
        | error other =>
            cases other
            cases failure
            rfl
        | ok narrowed =>
            rw [applied] at failed
            cases failed
    | _ => cases failed
  · rintro ⟨now, resource, rfl, failed⟩
    rw [perform, failed]
    rfl

/-! ## Any number of steps -/

/-- What holds of the parameters of a request, and of the entries that were taken out of their
filters, while a service revises them. -/
structure Accounts (pairs : List Pair) (bounds : PageBounds) (parameters : Parameters)
    (ledger : Keyed (List Text)) : Prop where
  limit : parameters.limit = (ofPairs pairs bounds).limit
  offset : parameters.offset = (ofPairs pairs bounds).offset
  order : parameters.order = (ofPairs pairs bounds).order
  wellNamed : WellNamed parameters.preload
  ascending : parameters.filters.Ascending
  conserved : (parameters.filters ++ ledger).Perm (ofPairs pairs bounds).filters

variable {pairs : List Pair} {bounds : PageBounds} {parameters next last : Parameters}
  {ledger later : Keyed (List Text)} {step : Revision} {steps : List Revision} {report : Report}

theorem accounts_ofPairs (pairs : List Pair) (bounds : PageBounds) :
    Accounts pairs bounds (ofPairs pairs bounds) [] where
  limit := rfl
  offset := rfl
  order := rfl
  wellNamed := wellNamed_nil.foldl_withName _
  ascending := ascending_filters pairs bounds
  conserved := by rw [List.append_nil]

/-- **The step**: what it takes out of the filters goes to the ledger. -/
theorem Accounts.perform (accounts : Accounts pairs bounds parameters ledger)
    (performed : parameters.perform step = .ok (next, report)) :
    Accounts pairs bounds next (ledger ++ step.taken parameters.filters) := by
  have follows := follows_of_perform performed
  refine ⟨follows.limit.trans accounts.limit, follows.offset.trans accounts.offset,
    follows.order.trans accounts.order, ?_, ?_, ?_⟩
  · rcases follows.preload with same | ⟨name, added⟩
    · exact same ▸ accounts.wellNamed
    · exact added ▸ accounts.wellNamed.withName name
  · rw [follows.filters]
    exact List.Pairwise.filter _ accounts.ascending
  · have parted : (step.taken parameters.filters ++ next.filters).Perm parameters.filters := by
      rw [follows.filters]
      exact List.filter_append_perm _ _
    have moved : (next.filters ++ (ledger ++ step.taken parameters.filters)).Perm
        (step.taken parameters.filters ++ next.filters ++ ledger) := by
      rw [← List.append_assoc, List.append_assoc (step.taken parameters.filters)]
      exact List.perm_append_comm
    exact (moved.trans (parted.append_right ledger)).trans accounts.conserved

/-- **The run**, by induction on the steps. -/
theorem Accounts.revise (accounts : Accounts pairs bounds parameters ledger)
    (revised : parameters.revise steps = .ok (last, later)) :
    Accounts pairs bounds last (ledger ++ later) := by
  induction steps generalizing parameters ledger later with
  | nil =>
      cases revised
      rwa [List.append_nil]
  | cons step rest ih =>
      obtain ⟨⟨next, report⟩, performed, revised⟩ := Database.ok_of_bind revised
      obtain ⟨⟨final, others⟩, continued, revised⟩ := Database.ok_of_bind revised
      cases revised
      rw [← List.append_assoc]
      exact ih (accounts.perform performed) continued

theorem revise_cons_of_error {failure : Window.Failure}
    (failed : parameters.perform step = .error failure) :
    parameters.revise (step :: steps) = .error failure := by
  rw [revise, failed]
  rfl

theorem revise_cons_of_ok (performed : parameters.perform step = .ok (next, report)) :
    parameters.revise (step :: steps) =
      (next.revise steps).map fun (last, ledger) =>
        (last, step.taken parameters.filters ++ ledger) := by
  rw [revise, performed]
  cases revised : next.revise steps <;>
    simp [bind, Except.bind, pure, Except.pure, Except.map, revised]

/-- **A run breaks off** at a step that fails, and only there. -/
theorem revise_eq_error_iff {failure : Window.Failure} :
    parameters.revise steps = .error failure ↔
      ∃ before now resource after reached ledger,
        steps = before ++ .applyWindow now resource :: after ∧
        parameters.revise before = .ok (reached, ledger) ∧
        Window.apply now resource reached = .error failure := by
  constructor
  · intro failed
    induction steps generalizing parameters with
    | nil => cases failed
    | cons step rest ih =>
        cases performed : parameters.perform step with
        | error other =>
            rw [revise_cons_of_error performed] at failed
            obtain rfl : other = failure := Except.error.inj failed
            obtain ⟨now, resource, rfl, broken⟩ := perform_eq_error_iff.1 performed
            exact ⟨[], now, resource, rest, parameters, [], rfl, rfl, broken⟩
        | ok result =>
            obtain ⟨next, report⟩ := result
            cases continued : next.revise rest with
            | ok result =>
                rw [revise_cons_of_ok performed, continued] at failed
                cases failed
            | error other =>
                rw [revise_cons_of_ok performed, continued] at failed
                obtain rfl : other = failure := Except.error.inj failed
                obtain ⟨before, now, resource, after, reached, ledger, rfl, came, broken⟩ :=
                  ih continued
                refine ⟨step :: before, now, resource, after, reached,
                  step.taken parameters.filters ++ ledger, rfl, ?_, broken⟩
                rw [revise_cons_of_ok performed, came]
                rfl
  · rintro ⟨before, now, resource, after, reached, ledger, rfl, came, broken⟩
    induction before generalizing parameters ledger with
    | nil =>
        cases came
        exact revise_cons_of_error (perform_eq_error_iff.2 ⟨now, resource, rfl, broken⟩)
    | cons first rest ih =>
        obtain ⟨⟨next, report⟩, performed, came⟩ := Database.ok_of_bind came
        obtain ⟨⟨final, others⟩, continued, came⟩ := Database.ok_of_bind came
        cases came
        rw [List.cons_append, revise_cons_of_ok performed, ih _ continued]
        rfl

/-- **Asking leaves no trace**: without its questions a run is what it is with them. -/
theorem revise_without_questions (parameters : Parameters) (steps : List Revision) :
    parameters.revise (steps.filter fun step => !step.isQuestion) = parameters.revise steps := by
  induction steps generalizing parameters with
  | nil => rfl
  | cons step rest ih =>
      cases question : step.isQuestion with
      | true =>
          obtain ⟨⟨report, performed⟩, nothing⟩ := perform_question question parameters
          rw [List.filter_cons_of_neg (by simp [question]), ih, revise_cons_of_ok performed,
            nothing]
          cases parameters.revise rest <;> rfl
      | false =>
          rw [List.filter_cons_of_pos (by simp [question]), revise, revise]
          simp only [ih]

end Parameters

/-! ## The entries of one key -/

/-- The entries of a key: one at most, the value that the key reads. -/
theorem Keyed.filter_key {α : Type} {entries : Keyed α} (ascending : entries.Ascending)
    (key : Text) :
    entries.filter (fun entry => entry.1 = key) = ((entries.find? key).map (key, ·)).toList := by
  induction entries with
  | nil => rfl
  | cons head rest ih =>
      obtain ⟨first, later⟩ := List.pairwise_cons.1 ascending
      rw [Keyed.find?_cons]
      by_cases here : key = head.1
      · have apart : ∀ entry ∈ rest, ¬ entry.1 = key := by
          intro entry member same
          have less := first entry member
          rw [same, here, Text.precedes_irrefl] at less
          cases less
        have none_ : rest.filter (fun entry => entry.1 = key) = [] :=
          List.filter_eq_nil_iff.2 fun entry member => by simpa using apart entry member
        rw [List.filter_cons_of_pos (by simpa using here.symm), none_, if_pos here, here]
        rfl
      · rw [if_neg here, List.filter_cons_of_neg (by simpa using Ne.symm here), ih later]

theorem Keyed.filter_key_perm {α : Type} {entries kept moved : Keyed α} {key : Text} {value : α}
    (ascending : entries.Ascending) (keptAscending : kept.Ascending)
    (parted : (kept ++ moved).Perm entries) (found : entries.find? key = some value) :
    kept.find? key = some value ∧ moved.filter (fun entry => entry.1 = key) = [] ∨
      kept.find? key = none ∧ moved.filter (fun entry => entry.1 = key) = [(key, value)] := by
  have ofKey := parted.filter fun entry => entry.1 = key
  rw [List.filter_append, Keyed.filter_key ascending, Keyed.filter_key keptAscending, found]
    at ofKey
  have one := List.perm_singleton.1 ofKey
  cases stays : kept.find? key with
  | none =>
      rw [stays] at one
      exact Or.inr ⟨rfl, one⟩
  | some other =>
      rw [stays] at one
      obtain ⟨same, nothing⟩ := List.cons.inj one
      obtain rfl := (Prod.mk.inj same).2
      exact Or.inl ⟨rfl, nothing⟩

theorem Keyed.find?_filter_key {α : Type} (key : Text) (entries : Keyed α) :
    Keyed.find? key (entries.filter fun entry => some key = some entry.1) = entries.find? key := by
  induction entries with
  | nil => rfl
  | cons head rest ih =>
      by_cases here : key = head.1
      · rw [List.filter_cons_of_pos (by simpa using here), Keyed.find?_cons, Keyed.find?_cons,
          if_pos here, if_pos here]
      · rw [List.filter_cons_of_neg (by simpa using here), ih, Keyed.find?_cons, if_neg here]

/-! ## The values of a request -/

namespace Revision

/-- What is taken out by asking for a filter is what the step hands out. -/
theorem find?_taken_takeFilter (key : Text) (filters : Keyed (List Text)) :
    ((takeFilter key).taken filters).find? key = filters.find? key :=
  Keyed.find?_filter_key key filters

/-- What a window takes out is what it reads its count of days from. -/
theorem heldCount?_eq_taken (now : Instant) (resource : Resource) (parameters : Parameters) :
    Window.heldCount? resource parameters =
      (((applyWindow now resource).taken parameters.filters).find? Window.key).bind
        fun values => values.head?.bind Window.days? := by
  by_cases books : resource.name = Catalog.books.name
  · have takes : (applyWindow now resource).key? = some Window.key := if_pos books
    rw [Window.heldCount?, if_pos books, taken, takes, Keyed.find?_filter_key]
  · have takes : (applyWindow now resource).key? = none := if_neg books
    simp [Window.heldCount?, books, taken, takes, Keyed.find?]

end Revision

open Parameters in
/-- **Nothing gets lost while a service revises the parameters of a request**: a run that ends
leaves names, page, order and every value of the request accounted for, and a run only breaks
off where the service applies a window. -/
theorem revisions_account (pairs : List Pair) (bounds : PageBounds) (steps : List Revision) :
    (∀ reached ledger, (ofPairs pairs bounds).revise steps = .ok (reached, ledger) →
      Accounts pairs bounds reached ledger ∧
      (∀ key ∈ reservedKeys, reached.filters.find? key = none) ∧
      (∀ key, key ∉ reservedKeys → valuesOf key pairs ≠ [] →
        reached.filters.find? key = some (valuesOf key pairs) ∧
            ledger.filter (fun entry => entry.1 = key) = [] ∨
          reached.filters.find? key = none ∧
            ledger.filter (fun entry => entry.1 = key) = [(key, valuesOf key pairs)]) ∧
      (∀ key, ∃ next, reached.perform (.takeFilter key) =
        .ok (next, .values (((Revision.takeFilter key).taken reached.filters).find? key))) ∧
      (∀ now resource, Window.heldCount? resource reached =
        (((Revision.applyWindow now resource).taken reached.filters).find? Window.key).bind
          fun values => values.head?.bind Window.days?) ∧
      (ofPairs pairs bounds).revise (steps.filter fun step => !step.isQuestion) =
        .ok (reached, ledger)) ∧
    ∀ failure, (ofPairs pairs bounds).revise steps = .error failure ↔
      ∃ before now resource after reached ledger,
        steps = before ++ .applyWindow now resource :: after ∧
        (ofPairs pairs bounds).revise before = .ok (reached, ledger) ∧
        Window.apply now resource reached = .error failure := by
  refine ⟨fun reached ledger revised => ?_, fun failure => revise_eq_error_iff⟩
  have accounts := (accounts_ofPairs pairs bounds).revise revised
  have start := ascending_filters pairs bounds
  rw [List.nil_append] at accounts
  refine ⟨accounts, ?_, ?_, ?_,
    fun now resource => Revision.heldCount?_eq_taken now resource reached, ?_⟩
  · intro key reserved
    rw [Keyed.find?, List.lookup_eq_none_iff]
    intro entry member
    have among := accounts.conserved.subset (List.mem_append_left _ member)
    have read := Keyed.find?_of_mem start among
    rw [find?_filters] at read
    split at read
    · cases read
    · rename_i free
      exact bne_iff_ne.2 fun same => free (Or.inl (same ▸ reserved))
  · intro key free supplied
    have found := find?_filters pairs bounds key
    rw [if_neg (not_or.2 ⟨free, supplied⟩)] at found
    exact Keyed.filter_key_perm start accounts.ascending accounts.conserved found
  · intro key
    exact ⟨{ reached with filters := reached.filters.erase key },
      by rw [Revision.find?_taken_takeFilter]; rfl⟩
  · rw [revise_without_questions, revised]

/-- A request for books, and a service that takes the price and the window out of it and asks
for the statements in between. -/
def pricedPairs : List Pair :=
  [("title", "%dragon%"), ("populate", "author"), ("price", "[10,]"), (Window.key, "30"),
    ("title", "~x"), ("limit", "5")]

def pricedSteps : List Revision :=
  [.addPreload " reviews ", .takeFilter "price", .plan Catalog.books,
    .applyWindow 1711886400 Catalog.books, .setPassthrough .having none, .takeFilter "price",
    .addPreload "Author"]

theorem price_and_window_taken_once :
    ∃ reached,
      (Parameters.ofPairs pricedPairs .standard).revise pricedSteps =
        .ok (reached, [("price", ["[10,]"]), (Window.key, ["30"])]) ∧
      Parameters.Accounts pricedPairs .standard reached
        [("price", ["[10,]"]), (Window.key, ["30"])] ∧
      reached.preload = (["Author", "Reviews"] : List Text) ∧ reached.limit = 5 ∧
      reached.filters = ([("title", ["%dragon%", "~x"])] : Keyed (List Text)) := by
  obtain ⟨ends, -⟩ := revisions_account pricedPairs .standard pricedSteps
  exact ⟨_, rfl, (ends _ _ rfl).1, rfl, rfl, rfl⟩

end CatalogListing
