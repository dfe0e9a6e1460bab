/-
# Proofs.Http.Origins -- which origins responses repeat

The allowed origins are built one by one and kept without repetition; a policy then holds
those of them that a header can have, and responses repeat the origin of a request if the
policy holds it.  Both are known by what is among the origins: `Permits` says which those
are, without regard to how the list is built.

* `mem_allowed_iff`: the origins of the host, and the configured ones;
* `Http.serve_congr`: a list of the same origins gives the same responses;
* `permitted_origin_is_repeated`: responses repeat an origin exactly if it is permitted.
-/
import CatalogListing.Http.Policy
import CatalogListing.Proofs.Text.Trim

namespace CatalogListing

set_option autoImplicit false

namespace Origin

/-! ## The list of origins -/

theorem mem_add_iff {origins : List Text} {extra origin : Text} :
    origin ∈ add origins extra ↔ origin ∈ origins ∨ (origin = normalize extra ∧ origin ≠ []) := by
  unfold add
  dsimp only
  split
  · rename_i kept
    rw [Bool.or_eq_true, List.isEmpty_iff, List.contains_iff_mem] at kept
    constructor
    · exact .inl
    · rintro (among | ⟨rfl, some_⟩)
      · exact among
      · exact kept.resolve_left some_
  · rename_i added
    rw [Bool.or_eq_true, List.isEmpty_iff, not_or] at added
    rw [List.mem_append, List.mem_singleton]
    refine or_congr_right ⟨fun same => ⟨same, same ▸ added.1⟩, fun same => same.1⟩

/-- The allowed origins: those of the host, and the configured ones that are not empty. -/
theorem mem_allowed_iff {host : Text} {port : Nat} {extras : List Text}
    {interfaces : List InterfaceAddress} {origin : Text} :
    origin ∈ allowed host port extras interfaces ↔
      origin ∈ base host port interfaces ∨
        ∃ extra ∈ extras, origin = normalize extra ∧ origin ≠ [] := by
  unfold allowed
  generalize base host port interfaces = origins
  induction extras generalizing origins with
  | nil => simp only [List.foldl_nil, List.not_mem_nil, false_and, exists_false, or_false]
  | cons first rest ih =>
      simp only [List.foldl_cons, ih, mem_add_iff, List.mem_cons, or_and_right, exists_or,
        exists_eq_left, or_assoc]

/-- Neither a host nor an interface has the wildcard for its origin. -/
theorem wildcard_notMem_base (host : Text) (port : Nat) (interfaces : List InterfaceAddress) :
    wildcard ∉ base host port interfaces := by
  intro among
  rcases List.mem_append.1 among with own | other
  · obtain ⟨name, -, own⟩ := List.mem_flatMap.1 own
    simp only [List.mem_cons, List.not_mem_nil, or_false] at own
    rcases own with same | same <;> cases same
  · split at other
    · obtain ⟨name, -, same⟩ := List.mem_map.1 other
      cases same
    · cases other

/-- The list of a policy has the wildcard if it is configured. -/
theorem listed_contains_wildcard_iff (host : Text) (port : Nat) (extras : List Text)
    (interfaces : List InterfaceAddress) :
    (listed (allowed host port extras interfaces)).contains wildcard = true ↔
      ∃ extra ∈ extras, normalize extra = wildcard := by
  have header : isHeaderValue wildcard = true := by decide
  rw [List.contains_iff_mem, listed, List.mem_filter, mem_allowed_iff]
  simp only [wildcard_notMem_base, false_or, header, and_true, eq_comm]
  exact exists_congr fun extra => and_congr_right fun _ => ⟨fun same => same.1,
    fun same => ⟨same, by decide⟩⟩

/-! ## What a configured text stands for -/

/-- Without white space around it, the configured text is the origin with slashes behind
it. -/
def StandsFor (extra origin : Text) : Prop :=
  ∃ slashes, Text.trim extra = origin ++ slashes ∧ (∀ c ∈ slashes, c = '/') ∧
    origin.getLast? ≠ some '/' ∧ origin ≠ []

theorem standsFor_iff {extra origin : Text} :
    StandsFor extra origin ↔ origin = normalize extra ∧ origin ≠ [] := by
  constructor
  · rintro ⟨slashes, whole, isSlash, ends, some_⟩
    have dropped : ∀ c ∈ slashes, (c == '/') = true :=
      fun c member => beq_iff_eq.2 (isSlash c member)
    have stays : Text.dropEndWhile (· == '/') origin = origin := by
      refine Text.dropEndWhile_eq_self_iff.2 fun c last => beq_eq_false_iff_ne.2 ?_
      rintro rfl
      exact ends last
    rw [normalize, whole, Text.dropEndWhile_append _ dropped, stays]
    exact ⟨rfl, some_⟩
  · rintro ⟨rfl, some_⟩
    obtain ⟨slashes, whole, isSlash⟩ :=
      Text.exists_dropEndWhile (· == '/') (Text.trim extra)
    refine ⟨slashes, whole, fun c member => beq_iff_eq.1 (isSlash c member), fun last => ?_, some_⟩
    cases Text.eq_false_of_getLast?_dropEndWhile last

/-! ## Which origins are permitted -/

/-- The names of the machine itself. -/
def loopbackNames : List Text :=
  ["localhost", "127.0.0.1"]

/-- The host is reached under the name; a loopback host is reached under both names. -/
inductive ReachedAs (host : Text) : Text → Prop where
  | itself : ReachedAs host host
  | loopback {name : Text} : host ∈ loopbackNames → name ∈ loopbackNames → ReachedAs host name

/-- The origins that a host, its port and configured texts permit. -/
inductive Permits (host : Text) (port : Nat) (extras : List Text) : Text → Prop where
  | withPort {name : Text} :
      ReachedAs host name → Permits host port extras ("http://" ++ name ++ ':' :: Text.ofNat port)
  | withoutPort {name : Text} : ReachedAs host name → Permits host port extras ("http://" ++ name)
  | configured {extra origin : Text} :
      extra ∈ extras → StandsFor extra origin → Permits host port extras origin

variable {host : Text} {port : Nat} {extras : List Text} {interfaces : List InterfaceAddress}

theorem mem_baseHosts_iff (specific : Host.isAllInterfaces host = false) {name : Text} :
    name ∈ baseHosts host ↔ ReachedAs host name := by
  have isLoopback : Host.isLoopback host = true ↔ host ∈ loopbackNames := by
    rw [Host.isLoopback, List.contains_iff_mem]
    exact ⟨fun among => (List.Perm.swap _ _ _).mem_iff.1 among,
      fun among => (List.Perm.swap _ _ _).mem_iff.1 among⟩
  rw [baseHosts, specific, Bool.false_or]
  split
  · rename_i own
    rw [isLoopback] at own
    refine ⟨fun among => .loopback own among, ?_⟩
    rintro (itself | ⟨-, among⟩)
    · exact own
    · exact among
  · rename_i other
    rw [isLoopback] at other
    rw [List.mem_singleton]
    refine ⟨fun same => same ▸ .itself, ?_⟩
    rintro (itself | ⟨own, -⟩)
    · rfl
    · exact absurd own other

/-- The allowed origins are the permitted ones. -/
theorem mem_allowed_iff_permits (specific : Host.isAllInterfaces host = false) {origin : Text} :
    origin ∈ allowed host port extras interfaces ↔ Permits host port extras origin := by
  rw [mem_allowed_iff, base, specific, if_neg Bool.false_ne_true, List.append_nil,
    List.mem_flatMap]
  constructor
  · rintro (⟨name, among, same⟩ | ⟨extra, member, stands⟩)
    · rw [List.mem_cons, List.mem_singleton] at same
      rcases same with rfl | rfl
      · exact .withPort ((mem_baseHosts_iff specific).1 among)
      · exact .withoutPort ((mem_baseHosts_iff specific).1 among)
    · exact .configured member (standsFor_iff.2 stands)
  · rintro (reached | reached | ⟨member, stands⟩)
    · exact .inl ⟨_, (mem_baseHosts_iff specific).2 reached, List.mem_cons_self⟩
    · exact .inl ⟨_, (mem_baseHosts_iff specific).2 reached,
        List.mem_cons_of_mem _ (List.mem_singleton_self _)⟩
    · exact .inr ⟨_, member, standsFor_iff.1 stands⟩

/-- Neither order nor repetition of the configured texts decides which origins are allowed. -/
theorem mem_allowed_congr {others : List Text} (same : ∀ extra, extra ∈ others ↔ extra ∈ extras)
    (origin : Text) : origin ∈ allowed host port others interfaces ↔
      origin ∈ allowed host port extras interfaces := by
  simp only [mem_allowed_iff, same]

/-- A text of visible ASCII, spaces and tabs. -/
def VisibleAscii (text : Text) : Prop :=
  ∀ c ∈ text, c = '\t' ∨ (32 ≤ c.toNat ∧ c.toNat < 127)

instance (text : Text) : Decidable (VisibleAscii text) :=
  decidable_of_iff
    (text.all (fun c => decide (c = '\t' ∨ (32 ≤ c.toNat ∧ c.toNat < 127))) = true)
    (by simp only [List.all_eq_true, decide_eq_true_eq, VisibleAscii])

theorem VisibleAscii.isHeaderValue {text : Text} (visible : VisibleAscii text) :
    isHeaderValue text = true := by
  rw [Origin.isHeaderValue, List.all_eq_true]
  intro c member
  rcases visible c member with rfl | ⟨above, below⟩
  · rfl
  · have notDelete : c.toNat ≠ 127 := Nat.ne_of_lt below
    simp [above, notDelete]

/-- What a header can have is held if it is allowed. -/
theorem VisibleAscii.contains_listed {origin : Text} (visible : VisibleAscii origin)
    (origins : List Text) : (listed origins).contains origin = isAllowed origins origin := by
  rw [Bool.eq_iff_iff, isAllowed, List.contains_iff_mem, List.contains_iff_mem, listed,
    List.mem_filter]
  exact and_iff_left visible.isHeaderValue

theorem wildcard_notMem_listed (host : Text) (port : Nat)
    (listable : ∀ extra ∈ extras, ¬ StandsFor extra wildcard)
    (interfaces : List InterfaceAddress) :
    wildcard ∉ listed (allowed host port extras interfaces) := by
  rw [← List.contains_iff_mem, listed_contains_wildcard_iff]
  rintro ⟨extra, member, wild⟩
  exact listable extra member (standsFor_iff.2 ⟨wild.symm, List.cons_ne_nil _ _⟩)

end Origin

namespace Http

open Origin (Permits StandsFor VisibleAscii)

/-! ## Responses -/

/-- The values of a header of a response. -/
def Response.values (response : Response) (name : Text) : List Text :=
  (response.headers.filter fun header => header.1 == name).map (·.2)

/-- The response names no origin. -/
def Response.Unmarked (response : Response) : Prop :=
  response.values allowOrigin = []

theorem Response.unmarked_ofJson (status : Nat) (body : Json) : (ofJson status body).Unmarked := rfl

theorem Response.unmarked_ofPage (html : Text) : (ofPage html).Unmarked := rfl

theorem unmarked_ofListing (result : Except ListingError Listing) :
    (ofListing result).Unmarked := by
  cases result <;> exact Response.unmarked_ofJson _ _

theorem unmarked_answer {service : ListingService} {now : Instant} {request : Request}
    {route : Route} {response : Response}
    (answered : route.answer service now request = .ok response) : response.Unmarked := by
  cases route with
  | health =>
      obtain rfl := Except.ok.inj answered
      unfold answerHealth
      split <;> exact Response.unmarked_ofJson _ _
  | catalog => exact Except.ok.inj answered ▸ Response.unmarked_ofJson _ _
  | listing segment =>
      change answerListing _ _ _ _ = _ at answered
      unfold answerListing at answered
      split at answered
      · exact Except.ok.inj answered ▸ Response.unmarked_ofJson _ _
      · rename_i name _
        cases listed : service.list now name request.pairs with
        | error failure =>
            rw [listed] at answered
            cases answered
        | ok result =>
            rw [listed] at answered
            exact Except.ok.inj answered ▸ unmarked_ofListing result
  | interface => exact Except.ok.inj answered ▸ Response.unmarked_ofJson _ _
  | interfacePage => exact Except.ok.inj answered ▸ Response.unmarked_ofPage _

/-- No route names an origin. -/
theorem unmarked_respond {service : ListingService} {now : Instant} {request : Request}
    {response : Response} (responds : respond service now request = .ok response) :
    response.Unmarked := by
  have full {whole : Response} (responds : respondFully service now request = .ok whole) :
      whole.Unmarked := by
    unfold respondFully at responds
    split at responds
    · exact Except.ok.inj responds ▸ Response.unmarked_ofJson _ _
    · split at responds
      · exact unmarked_answer responds
      · exact Except.ok.inj responds ▸ rfl
  unfold respond at responds
  cases whole : respondFully service now request with
  | error failure =>
      rw [whole] at responds
      cases responds
  | ok one =>
      rw [whole] at responds
      obtain rfl := Except.ok.inj responds
      have unmarked := full whole
      split
      · exact unmarked
      · exact unmarked

theorem unmarked_preflight (request : Request) : (OriginPolicy.preflight request).Unmarked := by
  unfold OriginPolicy.preflight
  dsimp only
  split <;> rfl

namespace OriginPolicy

/-- What is answered before an origin is named. -/
def answer (service : ListingService) (now : Instant) (request : Request) :
    Except Window.Failure Response :=
  if request.method = "OPTIONS" then .ok (preflight request) else Http.respond service now request

theorem unmarked_answer {service : ListingService} {now : Instant} {request : Request}
    {response : Response} (answered : answer service now request = .ok response) :
    response.Unmarked := by
  unfold answer at answered
  split at answered
  · exact Except.ok.inj answered ▸ unmarked_preflight request
  · exact unmarked_respond answered

/-- A policy adds the origin to what is answered, and fails only as that does. -/
theorem respond_eq (policy : OriginPolicy) (service : ListingService) (now : Instant)
    (request : Request) :
    policy.respond service now request =
      match answer service now request with
      | .ok response => .ok (policy.mark request response)
      | .error failure => .error (.window failure) := by
  unfold respond answer
  split
  · rfl
  · rfl

/-- The origin of the request is named if the policy holds it. -/
theorem values_mark (policy : OriginPolicy) {request : Request} {origin : Text}
    (asks : request.header? "origin" = some origin) {response : Response}
    (unmarked : response.Unmarked) :
    (policy.mark request response).values Response.allowOrigin =
      if policy.origins.contains origin = true then [origin] else [] := by
  unfold mark origin?
  rw [asks, Option.filter_some]
  by_cases holds : policy.origins.contains origin = true
  · rw [if_pos holds, if_pos holds]
    have own : Response.values ⟨0, [(Response.allowOrigin, origin)], .empty⟩
        Response.allowOrigin = [origin] := rfl
    rw [Response.Unmarked, Response.values] at unmarked
    rw [Response.values] at own
    simp only [Response.values, Response.withHeader, List.filter_append, List.map_append,
      unmarked, own, List.nil_append]
  · rw [if_neg holds, if_neg holds]
    exact unmarked

/-- Policies that hold the same origins respond alike. -/
theorem respond_congr {policy other : OriginPolicy}
    (same : ∀ origin, other.origins.contains origin = policy.origins.contains origin)
    (service : ListingService) (now : Instant) (request : Request) :
    other.respond service now request = policy.respond service now request := by
  have origins : other.origin? request = policy.origin? request :=
    congrArg (fun holds => (request.header? "origin").filter holds) (funext same)
  have marks : other.mark request = policy.mark request := by
    funext response
    unfold mark
    rw [origins]
  rw [respond_eq, respond_eq, marks]

end OriginPolicy

variable {origins : List Text}

/-- A list of the same origins gives the same responses. -/
theorem serve_congr {others : List Text} (same : ∀ origin, origin ∈ others ↔ origin ∈ origins)
    (service : ListingService) (now : Instant) (request : Request) :
    serve service others now request = serve service origins now request := by
  have listed (origin : Text) :
      (Origin.listed others).contains origin = (Origin.listed origins).contains origin := by
    rw [Bool.eq_iff_iff, List.contains_iff_mem, List.contains_iff_mem, Origin.listed,
      Origin.listed, List.mem_filter, List.mem_filter, same]
  unfold serve OriginPolicy.ofOrigins
  dsimp only
  rw [listed]
  by_cases wild : (Origin.listed origins).contains Origin.wildcard = true
  · rw [if_pos wild, if_pos wild]
  · rw [if_neg wild, if_neg wild]
    exact @OriginPolicy.respond_congr ⟨Origin.listed origins⟩ ⟨Origin.listed others⟩ listed
      service now request

/-- Without the wildcard there is a policy, which holds the listed origins. -/
theorem serve_eq (free : Origin.wildcard ∉ Origin.listed origins) (service : ListingService)
    (now : Instant) (request : Request) :
    serve service origins now request =
      OriginPolicy.respond ⟨Origin.listed origins⟩ service now request := by
  have made : OriginPolicy.ofOrigins origins = .ok ⟨Origin.listed origins⟩ :=
    if_neg fun wild => free (List.contains_iff_mem.1 wild)
  rw [serve, made]
  rfl

/-- The origin of a request is named if it is allowed, and no other is. -/
theorem values_of_serve (free : Origin.wildcard ∉ Origin.listed origins)
    {service : ListingService} {now : Instant} {request : Request} {answer response : Response}
    (answered : OriginPolicy.answer service now request = .ok answer)
    (served : serve service origins now request = .ok response) {origin : Text}
    (asks : request.header? "origin" = some origin) (visible : VisibleAscii origin) :
    response.values Response.allowOrigin =
      if Origin.isAllowed origins origin = true then [origin] else [] := by
  rw [serve_eq free, OriginPolicy.respond_eq, answered] at served
  obtain rfl := Except.ok.inj served
  rw [OriginPolicy.values_mark _ asks (OriginPolicy.unmarked_answer answered),
    visible.contains_listed]

/-- **Responses repeat exactly the permitted origins.** -/
theorem permitted_origin_is_repeated {host : Text} {port : Nat} {extras : List Text}
    (specific : Host.isAllInterfaces host = false)
    (listable : ∀ extra ∈ extras, ¬ StandsFor extra Origin.wildcard)
    (interfaces : List InterfaceAddress) :
    let allowed := Origin.allowed host port extras interfaces
    (∀ origin, Origin.isAllowed allowed origin = true ↔ Permits host port extras origin) ∧
    (∀ (service : ListingService) (now : Instant) (request : Request) (answer : Response),
      OriginPolicy.answer service now request = .ok answer →
      ∃ response, serve service allowed now request = .ok response ∧
        ∀ origin, request.header? "origin" = some origin → VisibleAscii origin →
          (response.values Response.allowOrigin = [origin] ↔
            Origin.isAllowed allowed origin = true) ∧
          (response.values Response.allowOrigin = [] ↔
            Origin.isAllowed allowed origin = false)) ∧
    (∀ (service : ListingService) (now : Instant) (request : Request) (failure : Window.Failure),
      OriginPolicy.answer service now request = .error failure →
      serve service allowed now request = .error (.window failure)) ∧
    ∀ others : List Text, (∀ extra, extra ∈ others ↔ extra ∈ extras) →
      (∀ origin, Origin.isAllowed (Origin.allowed host port others interfaces) origin =
        Origin.isAllowed allowed origin) ∧
      ∀ (service : ListingService) (now : Instant) (request : Request),
        serve service (Origin.allowed host port others interfaces) now request =
          serve service allowed now request := by
  intro allowed
  have free := Origin.wildcard_notMem_listed host port listable interfaces
  have responds := serve_eq free
  refine ⟨fun origin => ?_, ?_, ?_, fun others same => ⟨fun origin => ?_, ?_⟩⟩
  · rw [Origin.isAllowed, List.contains_iff_mem]
    exact Origin.mem_allowed_iff_permits specific
  · intro service now request answer answered
    have served := responds service now request
    rw [OriginPolicy.respond_eq, answered] at served
    refine ⟨_, served, fun origin asks visible => ?_⟩
    rw [values_of_serve free answered served asks visible]
    cases Origin.isAllowed allowed origin <;> simp
  · intro service now request failure answered
    rw [responds, OriginPolicy.respond_eq, answered]
  · rw [Bool.eq_iff_iff, Origin.isAllowed, Origin.isAllowed, List.contains_iff_mem,
      List.contains_iff_mem]
    exact Origin.mem_allowed_congr same origin
  · exact serve_congr (Origin.mem_allowed_congr same)

/-- A request of a page from elsewhere. -/
def pageRequest : Request :=
  ⟨"GET", "/api/v1/health", [("Accept", "*/*"), ("Origin", "https://app.example")]⟩

/-- A configured origin is repeated with slashes left out, given twice among texts that stand for
none and that no header can have. -/
theorem pageRequest_is_repeated :
    let extras : List Text := [" https://app.example// ", "/", "a\x7f", "https://app.example"]
    let service : ListingService := ⟨{ database := {} }, .standard⟩
    Host.isAllInterfaces "localhost" = false ∧
      (∀ extra ∈ extras, ¬ StandsFor extra Origin.wildcard) ∧
      ∃ response, serve service (Origin.allowed "localhost" 8080 extras) 0 pageRequest =
        .ok response ∧ response.values Response.allowOrigin = ["https://app.example"] := by
  intro extras service
  have specific : Host.isAllInterfaces "localhost" = false := by decide
  have listable : ∀ extra ∈ extras, ¬ StandsFor extra Origin.wildcard := by
    simp only [Origin.standsFor_iff]
    decide +kernel
  obtain ⟨-, repeats, -⟩ :=
    @permitted_origin_is_repeated "localhost" 8080 extras specific listable []
  obtain ⟨response, served, values⟩ := repeats service 0 pageRequest (answerHealth service) rfl
  refine ⟨specific, listable, response, served, ?_⟩
  exact (values "https://app.example" rfl (by decide)).1.2 (by decide +kernel)

end Http

end CatalogListing
