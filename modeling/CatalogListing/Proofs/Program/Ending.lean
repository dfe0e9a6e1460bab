/-
# Proofs.Program.Ending -- how a service ends

A service ends by a signal that its background tasks hear, and by a shutdown that closes
its store behind them.  Whatever is subscribed, started, registered, triggered and shut
down, in any order (`shutdown_is_never_lost`):

* the signal stays given, and every receiver finds it, so that whoever waits for it ends
  (`Heard`);
* only a shutdown closes the store, after the tasks that it has taken or their time
  (`ClosesLast`).  What another shutdown has taken it does not wait for
  (`overlapping_shutdown_closes_before_task`);
* from then on the store is refused to every request that needs it (`Refuses`).  The name of
  a resource is looked up without the store, so one that is none is still told to be unknown.
-/
import CatalogListing.Proofs.Http.ListingRequest
import CatalogListing.Proofs.Store.Shutdown

namespace CatalogListing

set_option autoImplicit false

/-! ## A closed store -/

namespace ListingService

open Http (OriginPolicy Request Response Route healthBody problemBody)
open ResourceName (IsName)

/-- Whoever needs the store is told that it is closed; over HTTP, that the service is
unavailable. -/
structure Refuses (service : ListingService) : Prop where
  ping : service.ping = .error (.database .closed)
  list : ∀ resource ∈ Catalog.resources, ∀ now pairs,
    Window.isInCalendar now (Window.asked? resource pairs) = true →
    service.list now resource.name pairs = .ok (.error (.database .closed))
  unknown : ∀ name, (∀ resource ∈ Catalog.resources, resource.name ≠ name) → ∀ now pairs,
    service.list now name pairs = .ok (.error (.unknownResource name))
  health : ∀ (policy : OriginPolicy) (now : Instant) (request : Request),
    request.method = "GET" → Route.ofPath? request.path = some .health →
    policy.respond service now request =
      .ok (policy.mark request (.ofJson 503 (healthBody false)))
  request : ∀ resource ∈ Catalog.resources, ∀ (policy : OriginPolicy) (now : Instant)
    (pairs : List Pair) (request : Request), request.method = "GET" →
    Http.Asks resource.name pairs request.target →
    Window.isInCalendar now (Window.asked? resource pairs) = true →
    policy.respond service now request = .ok (policy.mark request (.ofJson 503
      (problemBody "service_unavailable" "SERVICE_UNAVAILABLE" "Database temporarily unavailable")))
  unknownRequest : ∀ name, IsName name → (∀ resource ∈ Catalog.resources, resource.name ≠ name) →
    ∀ (policy : OriginPolicy) (now : Instant) (pairs : List Pair) (request : Request),
    request.method = "GET" → Http.Asks name pairs request.target →
    policy.respond service now request = .ok (policy.mark request (.ofJson 404
      (problemBody "not_found" "RESOURCE_NOT_FOUND" ("Unknown resource: " ++ name))))

variable {service : ListingService}

theorem ping_of_closed (closed : service.store.isOpen = false) :
    service.ping = .error (.database .closed) := by
  simp only [ping, Store.ping, Store.read, closed]
  rfl

theorem list_of_closed (closed : service.store.isOpen = false) {resource : Resource}
    (listed : resource ∈ Catalog.resources) {now : Instant} {pairs : List Pair}
    (inCalendar : Window.isInCalendar now (Window.asked? resource pairs) = true) :
    service.list now resource.name pairs = .ok (.error (.database .closed)) := by
  rw [list_eq listed, if_pos inCalendar, page, Store.fetch, Store.read, closed]
  rfl

theorem list_of_unknown {name : Text} (unknown : ∀ resource ∈ Catalog.resources,
    resource.name ≠ name) (now : Instant) (pairs : List Pair) :
    service.list now name pairs = .ok (.error (.unknownResource name)) := by
  rw [list, (Catalog.find?_eq_none_iff name).2 unknown]

/-- The name of every resource can be asked for. -/
theorem isName_of_listed {resource : Resource} (listed : resource ∈ Catalog.resources) :
    IsName resource.name := by
  rw [← ResourceName.faults_eq_nil_iff]
  simp only [Catalog.resources, List.mem_cons, List.not_mem_nil, or_false] at listed
  rcases listed with rfl | rfl | rfl <;> decide

/-- A request for the rows of a name is responded to with what the listing service has. -/
theorem respond_of_list {name : Text} (named : IsName name) {pairs : List Pair}
    {request : Request} (get : request.method = "GET") (asks : Http.Asks name pairs request.target)
    {now : Instant} {result : Except ListingError Listing}
    (listed : service.list now name pairs = .ok result) (policy : OriginPolicy) :
    policy.respond service now request = .ok (policy.mark request (Http.ofListing result)) := by
  have nonempty : name ≠ [] := by
    rintro rfl
    exact absurd named.1.1 (by decide)
  rw [policy.respond_get get, Http.respondFully_of_asks get asks nonempty,
    (ResourceName.faults_eq_nil_iff name).2 named, listed]
  rfl

theorem respond_health_of_closed (closed : service.store.isOpen = false) (policy : OriginPolicy)
    (now : Instant) {request : Request} (get : request.method = "GET")
    (route : Route.ofPath? request.path = some .health) :
    policy.respond service now request =
      .ok (policy.mark request (.ofJson 503 (healthBody false))) := by
  have answers : Http.reads request.method = true := get ▸ by decide
  rw [policy.respond_get get, Http.respondFully, route]
  dsimp only
  rw [if_pos answers, Route.answer, Http.answerHealth, ping_of_closed closed]

/-- A service over a closed store refuses. -/
theorem refuses_of_closed (closed : service.store.isOpen = false) : service.Refuses where
  ping := ping_of_closed closed
  list _ listed _ _ := list_of_closed closed listed
  unknown _ unknown := list_of_unknown unknown
  health policy now _ := respond_health_of_closed closed policy now
  request _ listed policy _ _ _ get asks inCalendar :=
    respond_of_list (isName_of_listed listed) get asks (list_of_closed closed listed inCalendar)
      policy
  unknownRequest _ named unknown policy now pairs _ get asks :=
    respond_of_list named get asks (list_of_unknown unknown now pairs) policy

end ListingService

/-! ## Histories -/

namespace Lifecycle

/-- Everyone hears the signal. -/
structure Heard (life : Lifecycle) : Prop where
  /-- The signal stays given. -/
  stays : life.isTriggered = true → ∀ later, (life.run later).isTriggered = true
  /-- Whatever receiver was handed out, it finds the signal if it was given. -/
  receivers : ∀ receiver ∈ life.receiver :: life.subscribers,
    receiver.hasChanged life.signal = life.isTriggered
  /-- No one who waits for the signal ends before it. -/
  waits : ∀ task ∈ life.tasks, task.duty ≠ .work → task.finished = true →
    life.isTriggered = true
  /-- Once it was given, a turn ends whoever waits for it. -/
  ends : life.isTriggered = true → ∀ place task, life.tasks[place]? = some task →
    task.duty ≠ .work → ∀ later more,
    (life.run (later ++ .turn place :: more)).hasFinished place = true

/-- The store is closed behind the tasks. -/
structure ClosesLast (life : Lifecycle) : Prop where
  /-- Only a shutdown closes the store, when the tasks that it has taken have finished or their
  time is over. -/
  closing : ∀ event, life.store.isOpen = true → (life.step event).store.isOpen = false →
    ∃ place departure tasks, event = .close place ∧ life.departures[place]? = some departure ∧
      departure.awaited = some tasks ∧
      (departure.expired = true ∨ ∀ task ∈ tasks, life.hasFinished task = true)
  /-- When a shutdown that begins now has closed the store, no task that is registered by now
  is left without one that answers for it. -/
  released : ∀ after departure,
    (life.run (.depart :: after)).departures[life.departures.length]? = some departure →
    departure.closed = true → ∀ task ∈ life.handles, (life.run (.depart :: after)).Released task
  /-- A shutdown that is given its time closes the store. -/
  closes : ∃ departure ∈ life.shutdown.departures, departure.closed = true

variable {life : Lifecycle}

theorem Sound.heard (sound : Sound life) : life.Heard where
  stays given later := (isTriggered_run later life).2 (.inl given)
  receivers _ := sound.hasChanged
  waits task member := (sound.tasks task member).waits
  ends given _ _ found duty := sound.ends found duty given

theorem Sound.closesLast (sound : Sound life) : life.ClosesLast where
  closing event isOpen closed := by
    rcases (frame_step life event).2 with same | ⟨place, departure, isClose, found, may⟩
    · rw [same, isOpen] at closed
      cases closed
    · obtain ⟨tasks, awaited, ended⟩ := mayClose_iff.1 may
      exact ⟨place, departure, tasks, isClose, found, awaited, ended⟩
  released _ _ found closed _ := released_of_closed sound found closed
  closes := closed_shutdown life

/-- **No shutdown is lost.**  In every state of a service the signal is there if it was given
or a shutdown has begun, everyone hears it, and a shutdown closes the store behind the tasks.
Once one has, every service over the store refuses, with an error that is transient, whatever
happens later and whatever the database holds. -/
theorem shutdown_is_never_lost {store : Store} (isOpen : store.isOpen = true)
    (events : List Event) :
    ((run { store } events).isTriggered = true ↔ .trigger ∈ events ∨ .depart ∈ events) ∧
      (run { store } events).Heard ∧ (run { store } events).ClosesLast ∧
      (ListingError.database .closed).isTransient = true ∧
      ((∃ departure ∈ (run { store } events).departures, departure.closed = true) →
        ∀ later database bounds, ListingService.Refuses
          ⟨{ ((run { store } events).run later).store with database }, bounds⟩) := by
  have sound := (Sound.new isOpen).run events
  refine ⟨?_, sound.heard, sound.closesLast, rfl, fun closed later database bounds => ?_⟩
  · rw [isTriggered_run]
    exact or_iff_right fun given => nomatch given
  · refine ListingService.refuses_of_closed ?_
    exact (leads_run later _).closed (sound.closed.2 closed)

/-- A service in which nothing has happened. -/
def idle : Lifecycle :=
  { store := { database := {} } }

/-- A task that writes the log back is started; one that waits for the signal subscribes when
a shutdown has begun. -/
def beginnings : List Event :=
  [.start .checkpoints, .depart, .subscribe, .spawn .wait 1]

/-- The second task is registered, and both end before the store is closed. -/
def orderly : List Event :=
  beginnings ++ [.register 1, .take 0, .turn 0, .turn 1, .close 0]

/-- Both tasks end, and the store is refused behind them. -/
theorem orderly_shutdown_ends_tasks :
    idle.store.isOpen = true ∧ (run idle orderly).hasFinished 0 = true ∧
      (run idle orderly).hasFinished 1 = true ∧
      ListingService.Refuses ⟨(run idle orderly).store, .standard⟩ := by
  have isOpen : idle.store.isOpen = true := rfl
  obtain ⟨triggered, heard, -⟩ := shutdown_is_never_lost isOpen beginnings
  obtain ⟨-, -, -, -, refuses⟩ := shutdown_is_never_lost isOpen orderly
  have given := triggered.2 (.inr (by decide))
  refine ⟨isOpen, ?_, ?_, ?_⟩
  · have ended := heard.ends given 0 _ rfl (by decide) [.register 1, .take 0] [.turn 1, .close 0]
    rw [← run_append] at ended
    exact ended
  · have ended := heard.ends given 1 _ rfl (by decide) [.register 1, .take 0, .turn 0] [.close 0]
    rw [← run_append] at ended
    exact ended
  · exact refuses ⟨⟨some [0, 1], false, true⟩, by decide, rfl⟩ [] {} .standard

/-- A shutdown awaits a task that has work of its own.  Another one begins, has nothing to await,
and closes the store. -/
def overlapping : List Event :=
  [.start .work, .depart, .take 0, .depart, .take 1, .close 1]

/-- The store is closed although a task that was registered before the shutdown goes on and no
time is over; and afterwards the listing of a name that is none fails for good. -/
theorem overlapping_shutdown_closes_before_task :
    (0 ∈ (run idle (overlapping.take 3)).handles ∧
      (run idle overlapping).store.isOpen = false ∧
      (run idle overlapping).hasFinished 0 = false ∧
      ∀ departure ∈ (run idle overlapping).departures, departure.expired = false) ∧
    ListingService.list ⟨(run idle overlapping).store, .standard⟩ 0 "users" [] =
      .ok (.error (.unknownResource "users")) ∧
    (ListingError.unknownResource "users").isTransient = false :=
  ⟨by decide, rfl, rfl⟩

end Lifecycle

end CatalogListing
