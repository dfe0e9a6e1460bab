/-
# Proofs.Http.ListingRequest -- requests for the rows of a resource

A request asks for the rows of a resource by its name, written into the path with
escapes, and for its pairs, written into the query as form data (`Asks`).  However they
are written, the request is answered with what the listing service has for the name and
the pairs, and a name that is none is refused (`listing_request_answered`).

* `exists_asks`: every name and all pairs can be asked for.
* `Tells`: the status and the body that tell a result of the listing service; for a
  failure inside they are fixed.
* Whether a request is refused for its name, and whether its name is unknown, is up to
  the name alone.
-/
import CatalogListing.Http.Policy
import CatalogListing.Proofs.Listing.Answer
import CatalogListing.Proofs.Text.Percent

namespace CatalogListing

set_option autoImplicit false

/-! ## Names -/

namespace ResourceName

/-- A resource name: 1 to 64 small letters, digits and underscores. -/
def IsName (name : Text) : Prop :=
  (1 ≤ name.length ∧ name.length ≤ 64) ∧
    ∀ c ∈ name, ('a' ≤ c ∧ c ≤ 'z') ∨ ('0' ≤ c ∧ c ≤ '9') ∨ c = '_'

theorem hasNameLength_iff (name : Text) :
    hasNameLength name = true ↔ 1 ≤ name.length ∧ name.length ≤ 64 := by
  rw [hasNameLength, Bool.and_eq_true, decide_eq_true_eq, decide_eq_true_eq]

theorem hasNameChars_iff (name : Text) : hasNameChars name = true ↔
    ∀ c ∈ name, ('a' ≤ c ∧ c ≤ 'z') ∨ ('0' ≤ c ∧ c ≤ '9') ∨ c = '_' := by
  have digit (c : Char) : c.isDigit = true ↔ '0' ≤ c ∧ c ≤ '9' := by
    rw [Char.isDigit, Bool.and_eq_true, decide_eq_true_eq, decide_eq_true_eq]
    rfl
  simp only [hasNameChars, isNameChar, List.all_eq_true, Bool.or_eq_true, Bool.and_eq_true,
    decide_eq_true_eq, beq_iff_eq, digit, or_assoc]

/-- A name without faults is a resource name. -/
theorem faults_eq_nil_iff (name : Text) : faults name = [] ↔ IsName name := by
  rw [IsName, ← hasNameLength_iff, ← hasNameChars_iff, faults, List.append_eq_nil_iff]
  refine and_congr ?_ ?_ <;> split <;> simp [*]

end ResourceName

theorem Catalog.find?_eq_none_iff (name : Text) :
    Catalog.find? name = none ↔ ∀ resource ∈ Catalog.resources, resource.name ≠ name := by
  simp only [Catalog.find?, List.find?_eq_none, beq_iff_eq, ne_eq]

namespace Http

open ResourceName (IsName)

/-! ## Requests -/

/-- A target asks for the rows of a name, with pairs; without pairs it may be without a
query. -/
inductive Asks (name : Text) (pairs : List Pair) : Text → Prop where
  | bare {segment : Text} :
      Percent.Spells .path segment (Utf8.encode name) → pairs = [] →
      Asks name pairs (Route.resourcesPath ++ '/' :: segment)
  | withQuery {segment query : Text} :
      Percent.Spells .path segment (Utf8.encode name) → Percent.SpellsForm query pairs →
      Asks name pairs ((Route.resourcesPath ++ '/' :: segment) ++ '?' :: query)

/-- Every name and all pairs can be asked for. -/
theorem exists_asks (name : Text) (pairs : List Pair) : ∃ target, Asks name pairs target := by
  obtain ⟨query, formed⟩ := Percent.exists_spellsForm pairs
  exact ⟨_, .withQuery (Percent.spells_escaped .path (Utf8.encode name)) formed⟩

/-- The path of the rows has the marks of a target where they are in what is behind it. -/
theorem notMem_listingPath {segment : Text} {mark : Char} (absent : mark ∉ segment)
    (fixed : mark ∉ Route.resourcesPath ++ ['/']) :
    mark ∉ Route.resourcesPath ++ '/' :: segment := by
  rw [List.append_cons, List.mem_append]
  rintro (before | behind)
  · exact fixed before
  · exact absent behind

theorem Request.resource_eq {request : Request} {rest : Text}
    (target : request.target = '/' :: rest) (absent : '#' ∉ request.target) :
    request.resource = request.target := by
  have whole : before '#' request.target = request.target :=
    List.takeWhile_eq_self_iff.2 (Text.passes_of_notMem absent)
  rw [resource, whole, pathOn, target]
  rfl

variable {segment : Text}

theorem Route.segment?_listingPath (some_ : segment ≠ []) (absent : '/' ∉ segment) :
    Route.segment? (Route.resourcesPath ++ '/' :: segment) = some segment := by
  have behind : (Route.resourcesPath ++ ['/']).isPrefixOf? (Route.resourcesPath ++ '/' :: segment) =
      some segment := rfl
  have single : (!segment.isEmpty && segment.all (· != '/')) = true := by
    rw [Bool.and_eq_true, Bool.not_eq_true', List.isEmpty_eq_false_iff, List.all_eq_true]
    exact ⟨some_, Text.passes_of_notMem absent⟩
  rw [Route.segment?, behind, Option.filter_some, if_pos single]

/-- No other route has the path of the rows of a name. -/
theorem Route.ofPath?_listingPath (some_ : segment ≠ []) (absent : '/' ∉ segment) :
    Route.ofPath? (Route.resourcesPath ++ '/' :: segment) = some (.listing segment) := by
  have apart (path : Text) (short : path.length ≤ 17) :
      Route.resourcesPath ++ '/' :: segment ≠ path := by
    rintro rfl
    rw [List.length_append, List.length_cons] at short
    have fixed : Route.resourcesPath.length = 17 := by decide
    omega
  rw [Route.ofPath?, if_neg (apart _ (by decide)), if_neg (apart _ (by decide)),
    if_neg (apart _ (by decide)), if_neg (apart _ (by decide)),
    Route.segment?_listingPath some_ absent]
  rfl

/-- A name that is written into the path adds no mark of a target. -/
theorem marks_of_spells {name : Text} (spelled : Percent.Spells .path segment (Utf8.encode name)) :
    '/' ∉ segment ∧ '?' ∉ Route.resourcesPath ++ '/' :: segment ∧
      '#' ∉ Route.resourcesPath ++ '/' :: segment :=
  ⟨spelled.notMem (by decide), notMem_listingPath (spelled.notMem (by decide)) (by decide),
    notMem_listingPath (spelled.notMem (by decide)) (by decide)⟩

/-- What a request for the rows of a name has in its path and its query. -/
theorem Asks.parts {name : Text} {pairs : List Pair} {request : Request}
    (asks : Asks name pairs request.target) (nonempty : name ≠ []) :
    ∃ segment, Percent.Spells .path segment (Utf8.encode name) ∧
      Route.ofPath? request.path = some (.listing segment) ∧ request.pairs = pairs := by
  generalize isTarget : request.target = target at asks
  cases asks with
  | bare spelled none_ =>
      rename_i segment
      obtain ⟨slash, question, number⟩ := marks_of_spells spelled
      have whole : request.resource = Route.resourcesPath ++ '/' :: segment :=
        (Request.resource_eq isTarget (isTarget ▸ number)).trans isTarget
      refine ⟨segment, spelled, ?_, ?_⟩
      · rw [Request.path, whole, Request.before,
          List.takeWhile_eq_self_iff.2 (Text.passes_of_notMem question)]
        exact Route.ofPath?_listingPath (spelled.ne_nil nonempty) slash
      · rw [Request.pairs, whole, Text.splitAtFirst_of_notMem question, none_]
  | withQuery spelled formed =>
      rename_i segment query
      obtain ⟨slash, question, number⟩ := marks_of_spells spelled
      have whole : request.resource = (Route.resourcesPath ++ '/' :: segment) ++ '?' :: query := by
        refine (Request.resource_eq isTarget (isTarget ▸ ?_)).trans isTarget
        rw [List.mem_append, List.mem_cons]
        rintro (before | same | behind)
        · exact number before
        · exact absurd same (by decide)
        · exact formed.notMem (by decide) (by decide) (by decide) behind
      refine ⟨segment, spelled, ?_, ?_⟩
      · rw [Request.path, whole, Request.before, Text.takeWhile_append question]
        exact Route.ofPath?_listingPath (spelled.ne_nil nonempty) slash
      · rw [Request.pairs, whole, Text.splitAtFirst_append question]
        exact Percent.formPairs_of_spellsForm formed

/-! ## Answers -/

/-- The body of a problem. -/
def problemBody (kind code message : Text) : Json :=
  .object [("error", .text kind), ("code", .text code), ("message", .text message)]

/-- A status and a body tell a result of the listing service. -/
inductive Tells : Except ListingError Listing → Nat → Json → Prop where
  | page (listing : Listing) :
      Tells (.ok listing) 200 (.object [("data", .array (listing.rows.map .object)),
        ("meta", .object [("limit", .integer listing.limit), ("offset", .integer listing.offset),
          ("total_items", .integer listing.total)])])
  | unknown (name : Text) :
      Tells (.error (.unknownResource name)) 404
        (problemBody "not_found" "RESOURCE_NOT_FOUND" ("Unknown resource: " ++ name))
  | transient {error : ListingError} : error.isTransient = true →
      Tells (.error error) 503 (problemBody "service_unavailable" "SERVICE_UNAVAILABLE"
        "Database temporarily unavailable")
  | inside {error : ListingError} : error.isTransient = false →
      (∀ name, error ≠ .unknownResource name) →
      Tells (.error error) 500
        (problemBody "internal_error" "INTERNAL" "Database operation failed")

/-- What a request for the rows of a name is answered with. -/
inductive Answers (service : ListingService) (now : Instant) (name : Text) (pairs : List Pair) :
    Nat → Json → Prop where
  | refused : ¬ IsName name →
      Answers service now name pairs 400 (problemBody "bad_request" "VALIDATION_ERROR"
        (List.intercalate "; " (ResourceName.faults name)))
  | told {result : Except ListingError Listing} {status : Nat} {body : Json} : IsName name →
      service.list now name pairs = .ok result → Tells result status body →
      Answers service now name pairs status body

/-- A failure other than an unknown name is told by whether it is transient. -/
theorem ofListing_error {error : ListingError} (known : ∀ name, error ≠ .unknownResource name) :
    Problem.ofListing error =
      if error.isTransient then .unavailable "Database temporarily unavailable"
      else .internal "Database operation failed" := by
  cases error with
  | unknownResource name => exact absurd rfl (known name)
  | _ => rfl

theorem exists_tells (result : Except ListingError Listing) :
    ∃ status body, Tells result status body ∧ ofListing result = .ofJson status body := by
  cases result with
  | ok listing => exact ⟨_, _, .page listing, rfl⟩
  | error error =>
      by_cases unknown : ∃ name, error = .unknownResource name
      · obtain ⟨name, rfl⟩ := unknown
        exact ⟨_, _, .unknown name, rfl⟩
      · have known (name : Text) : error ≠ .unknownResource name := fun same => unknown ⟨name, same⟩
        rw [ofListing, ofListing_error known]
        cases transient : error.isTransient with
        | true => exact ⟨_, _, .transient transient, rfl⟩
        | false => exact ⟨_, _, .inside transient known, rfl⟩

/-- Only a name that no resource has is told by the status 404, and none is told by 400. -/
theorem Tells.status {result : Except ListingError Listing} {status : Nat} {body : Json}
    (tells : Tells result status body) :
    status ≠ 400 ∧ (status = 404 ↔ ∃ name, result = .error (.unknownResource name)) := by
  cases tells with
  | page listing =>
      exact ⟨by decide, fun status => absurd status (by decide), fun ⟨_, same⟩ => nomatch same⟩
  | unknown name => exact ⟨by decide, fun _ => ⟨name, rfl⟩, fun _ => rfl⟩
  | transient transient =>
      refine ⟨by decide, fun status => absurd status (by decide), fun ⟨name, same⟩ => ?_⟩
      obtain rfl := Except.error.inj same
      cases transient
  | inside _ known =>
      exact ⟨by decide, fun status => absurd status (by decide),
        fun ⟨name, same⟩ => absurd (Except.error.inj same) (known name)⟩

/-- The listing service reports a name as unknown if no resource has it. -/
theorem list_unknown_iff {service : ListingService} {now : Instant} {name : Text}
    {pairs : List Pair} {result : Except ListingError Listing}
    (listed : service.list now name pairs = .ok result) :
    (∃ other, result = .error (.unknownResource other)) ↔
      ∀ resource ∈ Catalog.resources, resource.name ≠ name := by
  rw [← Catalog.find?_eq_none_iff]
  unfold ListingService.list at listed
  cases found : Catalog.find? name with
  | none =>
      rw [found] at listed
      obtain rfl := Except.ok.inj listed
      exact ⟨fun _ => rfl, fun _ => ⟨name, rfl⟩⟩
  | some resource =>
      rw [found] at listed
      obtain ⟨parameters, -, paged⟩ := Database.ok_of_bind listed
      obtain rfl := Except.ok.inj paged
      refine ⟨fun ⟨other, same⟩ => ?_, fun none_ => nomatch none_⟩
      unfold ListingService.page at same
      split at same <;> cases same

theorem resourceName_of_spells {segment name : Text}
    (spelled : Percent.Spells .path segment (Utf8.encode name)) :
    resourceName segment = match ResourceName.faults name with
      | [] => .ok name
      | faults => .error (.badRequest "VALIDATION_ERROR" (List.intercalate "; " faults)) := by
  have bytes := Percent.toBytes_of_spells spelled
  rw [show segment.map Percent.Place.path.read = segment from List.map_id segment] at bytes
  have read : Utf8.decode? (Percent.toBytes segment) = some name := by
    rw [bytes, Utf8.decode?_encode]
  cases faulty : ResourceName.faults name <;> simp only [resourceName, read, faulty]

theorem OriginPolicy.respond_get {request : Request} (get : request.method = "GET")
    (policy : OriginPolicy) (service : ListingService) (now : Instant) :
    policy.respond service now request =
      match respondFully service now request with
      | .ok response => .ok (policy.mark request response)
      | .error failure => .error (.window failure) := by
  have options : ¬ request.method = "OPTIONS" := get ▸ by decide
  have head : ¬ request.method = "HEAD" := get ▸ by decide
  rw [respond, if_neg options, Http.respond]
  cases respondFully service now request with
  | error failure => rfl
  | ok response =>
      simp only [bind, Except.bind, if_neg head]
      rfl

/-- What is responded to a request for the rows of a name. -/
theorem respondFully_of_asks {name : Text} {pairs : List Pair} {request : Request}
    (get : request.method = "GET") (asks : Asks name pairs request.target) (nonempty : name ≠ [])
    (service : ListingService) (now : Instant) :
    respondFully service now request =
      match ResourceName.faults name with
      | [] => (service.list now name pairs).map ofListing
      | faults => .ok (.ofProblem (.badRequest "VALIDATION_ERROR"
          (List.intercalate "; " faults))) := by
  obtain ⟨segment, spelled, route, read⟩ := asks.parts nonempty
  have answers : reads request.method = true := get ▸ by decide
  rw [respondFully, route]
  dsimp only
  rw [if_pos answers, Route.answer, answerListing, resourceName_of_spells spelled, read]
  cases ResourceName.faults name <;> rfl

section

variable {service : ListingService} {now : Instant} {request : Request}
  {name : Text} {pairs : List Pair}

/-- The statuses of answers tell apart refused, unknown and other names. -/
theorem Answers.status {status : Nat} {body : Json}
    (answers : Answers service now name pairs status body) :
    (status = 400 ↔ ¬ IsName name) ∧
      (status = 404 ↔ IsName name ∧ ∀ resource ∈ Catalog.resources, resource.name ≠ name) := by
  cases answers with
  | refused refused =>
      exact ⟨⟨fun _ => refused, fun _ => rfl⟩, fun status => absurd status (by decide),
        fun ⟨named, _⟩ => absurd named refused⟩
  | told named listed tells =>
      obtain ⟨notRefused, unknown⟩ := tells.status
      rw [← list_unknown_iff listed]
      exact ⟨⟨fun status => absurd status notRefused, fun refused => absurd named refused⟩,
        fun status => ⟨named, unknown.1 status⟩, fun known => unknown.2 known.2⟩

/-- Unless the listing of a name breaks off, there is a response. -/
theorem responded_of_asks (policy : OriginPolicy) (get : request.method = "GET")
    (asks : Asks name pairs request.target) (nonempty : name ≠ [])
    (completes : IsName name → ∀ failure, service.list now name pairs ≠ .error failure) :
    ∃ response, policy.respond service now request = .ok response := by
  rw [policy.respond_get get, respondFully_of_asks get asks nonempty]
  cases faulty : ResourceName.faults name with
  | cons first rest => exact ⟨_, rfl⟩
  | nil =>
      have named := (ResourceName.faults_eq_nil_iff name).1 faulty
      cases listed : service.list now name pairs with
      | error failure => exact absurd listed (completes named failure)
      | ok result => exact ⟨_, rfl⟩

/-- A response is one of the answers. -/
theorem answers_of_responded {policy : OriginPolicy} (get : request.method = "GET")
    (asks : Asks name pairs request.target) (nonempty : name ≠ []) {response : Response}
    (responded : policy.respond service now request = .ok response) :
    ∃ status body, Answers service now name pairs status body ∧
      response = policy.mark request (.ofJson status body) := by
  rw [policy.respond_get get, respondFully_of_asks get asks nonempty] at responded
  have named := ResourceName.faults_eq_nil_iff name
  cases faulty : ResourceName.faults name with
  | cons first rest =>
      have refused : ¬ IsName name := fun isName => by cases faulty.symm.trans (named.2 isName)
      rw [faulty] at responded
      refine ⟨_, _, .refused refused, ?_⟩
      rw [faulty]
      exact (Except.ok.inj responded).symm
  | nil =>
      rw [faulty] at responded
      cases listed : service.list now name pairs with
      | error failure =>
          rw [listed] at responded
          cases responded
      | ok result =>
          obtain ⟨status, body, tells, told⟩ := exists_tells result
          rw [listed, Except.map, told] at responded
          exact ⟨status, body, .told (named.1 faulty) listed tells,
            (Except.ok.inj responded).symm⟩

end

theorem OriginPolicy.status_mark (policy : OriginPolicy) (request : Request)
    (response : Response) : (policy.mark request response).status = response.status := by
  unfold mark
  split <;> rfl

/-- **A request for the rows of a name is answered with what the listing service has for
it.**  Unless the listing breaks off there is an answer; and whether the name is refused or
unknown does not depend on the query. -/
theorem listing_request_answered (policy : OriginPolicy) (service : ListingService)
    (now : Instant) {request : Request} {name : Text} {pairs : List Pair}
    (get : request.method = "GET") (nonempty : name ≠ [])
    (asks : Asks name pairs request.target) :
    ((IsName name → ∀ failure, service.list now name pairs ≠ .error failure) →
      ∃ status body, Answers service now name pairs status body ∧
        policy.respond service now request = .ok (policy.mark request (.ofJson status body))) ∧
    ∀ response, policy.respond service now request = .ok response →
      (response.status = 400 ↔ ¬ IsName name) ∧
      (response.status = 404 ↔
        IsName name ∧ ∀ resource ∈ Catalog.resources, resource.name ≠ name) := by
  constructor
  · intro completes
    obtain ⟨response, responded⟩ :=
      responded_of_asks policy get asks nonempty completes
    obtain ⟨status, body, answers, rfl⟩ := answers_of_responded get asks nonempty responded
    exact ⟨status, body, answers, responded⟩
  · intro response responded
    obtain ⟨status, body, answers, rfl⟩ := answers_of_responded get asks nonempty responded
    rw [policy.status_mark]
    exact answers.status

/-- A service without connections to its store. -/
def disconnected : ListingService :=
  { store := { database := {}, isOpen := false } }

/-- The pairs of a request that repeats a key and has an empty pair. -/
def escapedPairs : List Pair :=
  [("title", "é &="), ("title", ""), ("", "")]

/-- A request for books in which a letter of the name is escaped, and every mark of a value. -/
def escapedRequest : Request :=
  ⟨"GET", "/api/v1/resources/b%6Foks?title=%C3%a9+%26%3D&title=&=", []⟩

theorem asks_escapedRequest : Asks "books" escapedPairs escapedRequest.target := by
  have books : Percent.Spells .path ['b', '%', '6', 'F', 'o', 'k', 's'] (Utf8.encode "books") := by
    rw [show Utf8.encode "books" = [98, 111, 111, 107, 115] from rfl]
    exact .plain rfl <| .escape (h := 6) (l := 15) rfl rfl <| .plain rfl <| .plain rfl <|
      .plain rfl .done
  have title : Percent.Spells .form ['t', 'i', 't', 'l', 'e'] (Utf8.encode "title") := by
    rw [show Utf8.encode "title" = [116, 105, 116, 108, 101] from rfl]
    exact .plain rfl <| .plain rfl <| .plain rfl <| .plain rfl <| .plain rfl .done
  have value : Percent.Spells .form
      ['%', 'C', '3', '%', 'a', '9', '+', '%', '2', '6', '%', '3', 'D'] (Utf8.encode "é &=") := by
    rw [show Utf8.encode "é &=" = [195, 169, 32, 38, 61] from rfl]
    exact .escape (h := 12) (l := 3) rfl rfl <| .escape (h := 10) (l := 9) rfl rfl <| .blank rfl <|
      .escape (h := 2) (l := 6) rfl rfl <| .escape (h := 3) (l := 13) rfl rfl .done
  have form : Percent.SpellsForm "title=%C3%a9+%26%3D&title=&=" escapedPairs :=
    ⟨["title=%C3%a9+%26%3D", "title=", "="], by decide,
      .cons ⟨_, _, by decide, title, value⟩ <|
      .cons ⟨_, [], by decide, title, .done⟩ <| .cons ⟨[], [], by decide, .done, .done⟩ .nil⟩
  have target : escapedRequest.target = (Route.resourcesPath ++
      '/' :: ['b', '%', '6', 'F', 'o', 'k', 's']) ++ '?' :: "title=%C3%a9+%26%3D&title=&=" := by
    decide
  rw [target]
  exact .withQuery books form

/-- The request reaches the listing service as it was meant, and its failure is told as
transient. -/
theorem escapedRequest_is_unavailable :
    escapedRequest.method = "GET" ∧ ("books" : Text) ≠ [] ∧
      Asks "books" escapedPairs escapedRequest.target ∧
      OriginPolicy.respond ⟨[]⟩ disconnected 0 escapedRequest =
        .ok (.ofJson 503 (problemBody "service_unavailable" "SERVICE_UNAVAILABLE"
          "Database temporarily unavailable")) := by
  have nonempty : ("books" : Text) ≠ [] := by decide
  have listed : disconnected.list 0 "books" escapedPairs = .ok (.error (.database .closed)) := by
    rw [show ("books" : Text) = Catalog.books.name from rfl,
      ListingService.list_eq (by decide), if_pos (by decide +kernel)]
    rfl
  have named : IsName "books" := (ResourceName.faults_eq_nil_iff _).1 (by decide)
  refine ⟨rfl, nonempty, asks_escapedRequest, ?_⟩
  obtain ⟨answered, -⟩ :=
    listing_request_answered ⟨[]⟩ disconnected 0 rfl nonempty asks_escapedRequest
  obtain ⟨status, body, answers, responded⟩ := answered fun _ failure failed => by
    cases listed.symm.trans failed
  cases answers with
  | refused refused => exact absurd named refused
  | told _ listed' tells =>
      obtain rfl := Except.ok.inj (listed.symm.trans listed')
      cases tells with
      | transient => exact responded
      | inside persistent => cases persistent

end Http

end CatalogListing
