/-
# Proofs.Store.Shutdown -- what every history keeps

No event takes anything back: a task that has ended has ended, a shutdown keeps the tasks
that it has taken, and what was registered is known (`Leads`).  In every state that events
lead to from a new service (`Sound`)

* the signal is true if it was ever set, and no receiver has seen it but those of tasks that
  have ended by it, so every other one finds it changed;
* a shutdown that has closed the store had its tasks, and they had finished or the time for
  them was over; and no one else closes the store.

A shutdown awaits the tasks that were registered when it took them.  A task that was
registered before it began and is not among these was taken by another one
(`accounted_run`).
-/
import Mathlib.Tactic.Common
import CatalogListing.Store.Shutdown

namespace CatalogListing

set_option autoImplicit false

/-! ## Tasks -/

/-- A task is later still the same, and ended if it was. -/
structure BackgroundTask.Leads (task later : BackgroundTask) : Prop where
  duty : later.duty = task.duty
  finished : task.finished = true → later.finished = true

/-- A signal counts how often it was set to true. -/
def Signal.IsCounted (signal : Signal) : Prop :=
  signal.value = true ↔ signal.version ≠ 0

namespace BackgroundTask

/-- A task under a signal: its receiver is new unless the task has ended, and if it ends by
the signal, it has not ended before. -/
structure Heeds (signal : Signal) (task : BackgroundTask) : Prop where
  unseen : task.finished = false → task.receiver = {}
  waits : task.duty ≠ .work → task.finished = true → signal.value = true

variable {signal : Signal} {task : BackgroundTask}

theorem leads_turn (signal : Signal) (task : BackgroundTask) : task.Leads (task.turn signal) := by
  unfold turn
  split
  · exact ⟨rfl, fun ended => by simp [ended]⟩
  · split
    · exact ⟨rfl, fun ended => by simp [ended]⟩
    · exact ⟨rfl, id⟩
  · exact ⟨rfl, id⟩

theorem leads_finish (task : BackgroundTask) : task.Leads task.finish := by
  unfold finish
  split
  · exact ⟨rfl, fun _ => rfl⟩
  · exact ⟨rfl, id⟩

/-- A task that has not ended finds a signal changed that was ever set. -/
theorem Heeds.hasChanged (heeds : task.Heeds signal) (counted : signal.IsCounted)
    (going : task.finished = false) : task.receiver.hasChanged signal = signal.value := by
  rw [heeds.unseen going, Receiver.hasChanged, Bool.eq_iff_iff, bne_iff_ne]
  exact ne_comm.trans counted.symm

/-- Whoever ends by the signal ends with the first turn after it. -/
theorem Heeds.finished_turn (heeds : task.Heeds signal) (counted : signal.IsCounted)
    (duty : task.duty ≠ .work) (given : signal.value = true) :
    (task.turn signal).finished = true := by
  cases ended : task.finished with
  | true => exact (leads_turn signal task).finished ended
  | false =>
      have changed := (heeds.hasChanged counted ended).trans given
      cases watches : task.duty with
      | wait => simp [turn, watches, given]
      | checkpoints => simp [turn, watches, changed, given]
      | work => exact absurd watches duty

theorem Heeds.turn (heeds : task.Heeds signal) (counted : signal.IsCounted) :
    (task.turn signal).Heeds signal := by
  have waits (duty : task.duty ≠ .work) (ended : (task.finished || signal.value) = true) :
      signal.value = true :=
    (Bool.or_eq_true_iff.1 ended).elim (heeds.waits duty) id
  cases duty : task.duty with
  | wait =>
      simp only [BackgroundTask.turn, duty]
      exact ⟨fun going => heeds.unseen (Bool.or_eq_false_iff.1 going).1,
        fun _ => waits (by simp [duty])⟩
  | checkpoints =>
      simp only [BackgroundTask.turn, duty]
      split
      next changed =>
        refine ⟨fun going => ?_, fun _ => waits (by simp [duty])⟩
        -- A task that has looked at the signal has found it true.
        obtain ⟨going, silent⟩ := Bool.or_eq_false_iff.1 going
        rw [heeds.hasChanged counted going, silent] at changed
        cases changed
      · exact heeds
  | work => simpa only [BackgroundTask.turn, duty] using heeds

theorem Heeds.finish (heeds : task.Heeds signal) : task.finish.Heeds signal := by
  unfold BackgroundTask.finish
  split
  next duty => exact ⟨fun going => (nomatch going), fun other => absurd duty other⟩
  · exact heeds

/-- A task that is started has a new receiver. -/
theorem heeds_new (signal : Signal) (duty : Duty) :
    (⟨duty, {}, false⟩ : BackgroundTask).Heeds signal :=
  ⟨fun _ => rfl, fun _ ended => nomatch ended⟩

/-- Setting the signal once more changes nothing for a task. -/
theorem Heeds.set (heeds : task.Heeds signal) : task.Heeds signal.set :=
  ⟨heeds.unseen, fun _ _ => rfl⟩

end BackgroundTask

/-- A shutdown is later still under way, with the tasks that it has taken. -/
structure Departure.Leads (departure later : Departure) : Prop where
  awaited : ∀ tasks, departure.awaited = some tasks → later.awaited = some tasks
  expired : departure.expired = true → later.expired = true
  closed : departure.closed = true → later.closed = true

theorem Departure.Leads.refl (departure : Departure) : departure.Leads departure :=
  ⟨fun _ => id, id, id⟩

/-- A shutdown has taken a task. -/
def Departure.Awaits (departure : Departure) (task : Nat) : Prop :=
  ∃ tasks, departure.awaited = some tasks ∧ task ∈ tasks

namespace Lifecycle

variable {life next : Lifecycle} {place : Nat} {departure : Departure}

/-! ## What events leave alone -/

theorem spawn_eq (life : Lifecycle) (duty : Duty) (subscriber : Nat) :
    ∃ tasks, life.spawn duty subscriber = { life with tasks } := by
  unfold spawn
  split
  · exact ⟨_, rfl⟩
  · exact ⟨life.tasks, rfl⟩

theorem register_eq (life : Lifecycle) (place : Nat) : ∃ registered,
    life.register place = { life with registered } ∧
      ∀ task ∈ life.registered, task ∈ registered := by
  unfold register
  split
  · exact ⟨_, rfl, fun task => List.mem_append_left [place]⟩
  · exact ⟨life.registered, rfl, fun _ => id⟩

theorem start_eq (life : Lifecycle) (duty : Duty) : ∃ subscribers tasks registered,
    life.step (.start duty) = { life with subscribers, tasks, registered } ∧
      ∀ task ∈ life.registered, task ∈ registered := by
  obtain ⟨_, spawned⟩ := spawn_eq life.subscribe duty life.subscribers.length
  obtain ⟨_, same, more⟩ := register_eq (life.subscribe.spawn duty life.subscribers.length)
    life.tasks.length
  rw [spawned] at more
  exact ⟨_, _, _, by rw [step, same, spawned]; rfl, more⟩

theorem take_eq (life : Lifecycle) (place : Nat) :
    ∃ registered departures, life.take place = { life with registered, departures } := by
  unfold take
  split
  · exact ⟨_, _, rfl⟩
  · exact ⟨life.registered, life.departures, rfl⟩

theorem expire_eq (life : Lifecycle) (place : Nat) :
    ∃ departures, life.expire place = { life with departures } := by
  unfold expire
  split
  · exact ⟨_, rfl⟩
  · exact ⟨life.departures, rfl⟩

/-! ## What no event takes back -/

/-- What every event leaves of what was there before. -/
structure Leads (life next : Lifecycle) : Prop where
  closed : life.store.isOpen = false → next.store.isOpen = false
  tasks : ∀ (place : Nat) (task : BackgroundTask), life.tasks[place]? = some task →
    ∃ later, next.tasks[place]? = some later ∧ task.Leads later
  departures : ∀ (place : Nat) (departure : Departure), life.departures[place]? = some departure →
    ∃ later, next.departures[place]? = some later ∧ departure.Leads later

namespace Leads

theorem refl (life : Lifecycle) : Leads life life where
  closed := id
  tasks _ task found := ⟨task, found, rfl, id⟩
  departures _ departure found := ⟨departure, found, .refl departure⟩

theorem trans {last : Lifecycle} (first : Leads life next) (second : Leads next last) :
    Leads life last where
  closed := second.closed ∘ first.closed
  tasks place task found := by
    obtain ⟨mid, found, leads⟩ := first.tasks place task found
    obtain ⟨later, found, leads'⟩ := second.tasks place mid found
    exact ⟨later, found, leads'.duty.trans leads.duty, leads'.finished ∘ leads.finished⟩
  departures place departure found := by
    obtain ⟨mid, found, leads⟩ := first.departures place departure found
    obtain ⟨later, found, leads'⟩ := second.departures place mid found
    exact ⟨later, found, fun tasks => leads'.awaited tasks ∘ leads.awaited tasks,
      leads'.expired ∘ leads.expired, leads'.closed ∘ leads.closed⟩

theorem length_tasks (leads : Leads life next) : life.tasks.length ≤ next.tasks.length := by
  by_contra shorter
  obtain ⟨_, found, _⟩ := leads.tasks next.tasks.length _
    (List.getElem?_eq_getElem (Nat.lt_of_not_le shorter))
  simp at found

/-- A task that has finished stays finished. -/
theorem hasFinished (leads : Leads life next) (started : place < life.tasks.length)
    (finished : life.hasFinished place = true) : next.hasFinished place = true := by
  obtain ⟨later, found, ends⟩ := leads.tasks place _ (List.getElem?_eq_getElem started)
  rw [Lifecycle.hasFinished, List.getElem?_eq_getElem started] at finished
  rw [Lifecycle.hasFinished, found]
  exact ends.finished finished

end Leads

theorem leads_spawn (life : Lifecycle) (duty : Duty) (subscriber : Nat) :
    Leads life (life.spawn duty subscriber) := by
  unfold spawn
  split
  · refine { Leads.refl life with tasks := fun place task found => ?_ }
    exact ⟨task, by rw [List.getElem?_append_left (List.getElem?_eq_some_iff.1 found).1, found],
      rfl, id⟩
  · exact .refl life

theorem leads_register (life : Lifecycle) (place : Nat) : Leads life (life.register place) := by
  unfold register
  split <;> exact { Leads.refl life with }

theorem leads_modify (life : Lifecycle) (place : Nat) {f : BackgroundTask → BackgroundTask}
    (leads : ∀ task : BackgroundTask, task.Leads (f task)) :
    Leads life { life with tasks := life.tasks.modify place f } := by
  refine { Leads.refl life with tasks := fun other task found => ?_ }
  rw [List.getElem?_modify, found]
  refine ⟨if place = other then f task else task, rfl, ?_⟩
  split
  · exact leads task
  · exact ⟨rfl, id⟩

/-- A shutdown is replaced by what it leads to. -/
theorem leads_set {later : Departure} {store : Store} {registered : List Nat}
    (found : life.departures[place]? = some departure) (leads : departure.Leads later)
    (closed : life.store.isOpen = false → store.isOpen = false) :
    Leads life { life with store, registered, departures := life.departures.set place later } := by
  refine { Leads.refl life with closed, departures := fun other earlier isEarlier => ?_ }
  rw [List.getElem?_set]
  by_cases same : place = other
  · subst same
    obtain rfl := Option.some.inj (found.symm.trans isEarlier)
    exact ⟨later, by rw [if_pos rfl, if_pos (List.getElem?_eq_some_iff.1 found).1], leads⟩
  · exact ⟨earlier, by rw [if_neg same, isEarlier], .refl earlier⟩

theorem leads_depart (life : Lifecycle) : Leads life (life.step .depart) := by
  refine { Leads.refl life with departures := fun place departure found => ?_ }
  exact ⟨departure, List.getElem?_append_left (List.getElem?_eq_some_iff.1 found).1 ▸ found,
    .refl departure⟩

theorem leads_take (life : Lifecycle) (place : Nat) : Leads life (life.take place) := by
  unfold take
  split
  next found => exact leads_set found ⟨fun _ none_ => (nomatch none_), id, id⟩ id
  · exact .refl life

theorem leads_expire (life : Lifecycle) (place : Nat) : Leads life (life.expire place) := by
  unfold expire
  split
  next found => exact leads_set found ⟨fun _ => id, fun expired => by simp [expired], id⟩ id
  · exact .refl life

theorem leads_close (life : Lifecycle) (place : Nat) : Leads life (life.close place) := by
  unfold close
  split
  next found =>
    split
    · exact leads_set found ⟨fun _ => id, id, fun _ => rfl⟩ fun _ => rfl
    · exact .refl life
  · exact .refl life

theorem leads_step (life : Lifecycle) (event : Event) : Leads life (life.step event) := by
  cases event with
  | subscribe => exact { Leads.refl life with }
  | spawn duty subscriber => exact leads_spawn life duty subscriber
  | register place => exact leads_register life place
  | start duty =>
      have subscribed : Leads life life.subscribe := { Leads.refl life with }
      exact (subscribed.trans (leads_spawn _ duty _)).trans (leads_register _ _)
  | trigger => exact { Leads.refl life with }
  | turn place => exact leads_modify life place (BackgroundTask.leads_turn life.signal)
  | finish place => exact leads_modify life place BackgroundTask.leads_finish
  | depart => exact leads_depart life
  | take place => exact leads_take life place
  | expire place => exact leads_expire life place
  | close place => exact leads_close life place

theorem run_append (life : Lifecycle) (events later : List Event) :
    life.run (events ++ later) = (life.run events).run later :=
  List.foldl_append

theorem leads_run (events : List Event) (life : Lifecycle) : Leads life (life.run events) := by
  induction events generalizing life with
  | nil => exact .refl life
  | cons event events ih => exact (leads_step life event).trans (ih (life.step event))

/-! ## The signal and the store -/

/-- The signal is set by a trigger and by a shutdown that begins, and nothing else.  Only a
shutdown closes the store, if it may. -/
theorem frame_step (life : Lifecycle) (event : Event) :
    (life.step event).signal =
      (if event = .trigger ∨ event = .depart then life.signal.set else life.signal) ∧
    ((life.step event).store = life.store ∨ ∃ place departure, event = .close place ∧
      life.departures[place]? = some departure ∧ life.mayClose departure = true) := by
  cases event with
  | spawn duty subscriber =>
      obtain ⟨_, same⟩ := spawn_eq life duty subscriber
      rw [step, same]
      exact ⟨rfl, .inl rfl⟩
  | register place =>
      obtain ⟨_, same, _⟩ := register_eq life place
      rw [step, same]
      exact ⟨rfl, .inl rfl⟩
  | start duty =>
      obtain ⟨_, _, _, same, _⟩ := start_eq life duty
      rw [same]
      exact ⟨rfl, .inl rfl⟩
  | take place =>
      obtain ⟨_, _, same⟩ := take_eq life place
      rw [step, same]
      exact ⟨rfl, .inl rfl⟩
  | expire place =>
      obtain ⟨_, same⟩ := expire_eq life place
      rw [step, same]
      exact ⟨rfl, .inl rfl⟩
  | close place =>
      simp only [step, close]
      split
      next departure found =>
        split
        next may => exact ⟨rfl, .inr ⟨place, departure, rfl, found, may⟩⟩
        · exact ⟨rfl, .inl rfl⟩
      · exact ⟨rfl, .inl rfl⟩
  | _ => exact ⟨rfl, .inl rfl⟩

/-- The signal was given when there was a trigger or a shutdown has begun. -/
theorem isTriggered_run (events : List Event) (life : Lifecycle) :
    (life.run events).isTriggered = true ↔
      life.isTriggered = true ∨ .trigger ∈ events ∨ .depart ∈ events := by
  induction events generalizing life with
  | nil => simp [run]
  | cons event events ih =>
      have stepped : (life.step event).isTriggered = true ↔
          life.isTriggered = true ∨ event = .trigger ∨ event = .depart := by
        rw [isTriggered, isTriggered, (frame_step life event).1]
        split
        next given => exact ⟨fun _ => .inr given, fun _ => rfl⟩
        next other => exact ⟨.inl, fun given => given.resolve_right other⟩
      rw [run, List.foldl_cons, ← run, ih, stepped, List.mem_cons, List.mem_cons]
      grind

/-! ## What every history keeps -/

theorem mayClose_iff : life.mayClose departure = true ↔ ∃ tasks, departure.awaited = some tasks ∧
    (departure.expired = true ∨ ∀ task ∈ tasks, life.hasFinished task = true) := by
  unfold mayClose
  cases departure.awaited <;> simp

/-- A shutdown awaits tasks that were started, and has closed the store only if it may. -/
structure InOrder (life : Lifecycle) (departure : Departure) : Prop where
  started : ∀ tasks, departure.awaited = some tasks → ∀ task ∈ tasks, task < life.tasks.length
  closing : departure.closed = true → life.mayClose departure = true

theorem InOrder.mono (inOrder : life.InOrder departure) (leads : Leads life next) :
    next.InOrder departure where
  started tasks awaited task member :=
    Nat.lt_of_lt_of_le (inOrder.started tasks awaited task member) leads.length_tasks
  closing closed := by
    obtain ⟨tasks, awaited, ended⟩ := mayClose_iff.1 (inOrder.closing closed)
    refine mayClose_iff.2 ⟨tasks, awaited, ended.imp_right fun finished task member => ?_⟩
    exact leads.hasFinished (inOrder.started tasks awaited task member) (finished task member)

/-- What is known of a service in every state. -/
structure Sound (life : Lifecycle) : Prop where
  counted : life.signal.IsCounted
  receivers : ∀ receiver ∈ life.receiver :: life.subscribers, receiver = {}
  tasks : ∀ task ∈ life.tasks, task.Heeds life.signal
  registered : ∀ place ∈ life.registered, place < life.tasks.length
  departures : ∀ departure ∈ life.departures, life.InOrder departure
  closed : life.store.isOpen = false ↔ ∃ departure ∈ life.departures, departure.closed = true

namespace Sound

theorem new {store : Store} (isOpen : store.isOpen = true) : Sound { store } where
  counted := by simp [Signal.IsCounted]
  receivers _ member := List.mem_singleton.1 member
  tasks _ member := nomatch member
  registered _ member := nomatch member
  departures _ member := nomatch member
  closed := ⟨fun closed => by simp [isOpen] at closed, fun ⟨_, member, _⟩ => nomatch member⟩

theorem subscribe (sound : Sound life) : Sound life.subscribe :=
  { sound with
    receivers := fun receiver member => by
      simp only [Lifecycle.subscribe, List.mem_cons, List.mem_append, List.not_mem_nil,
        or_false] at member
      apply sound.receivers
      rw [List.mem_cons]
      tauto
    departures := fun departure member =>
      (sound.departures departure member).mono { Leads.refl life with } }

theorem spawn (sound : Sound life) (duty : Duty) (subscriber : Nat) :
    Sound (life.spawn duty subscriber) := by
  have leads := leads_spawn life duty subscriber
  unfold Lifecycle.spawn at leads ⊢
  split
  next receiver found =>
    rw [found] at leads
    have new : receiver = {} :=
      sound.receivers receiver (List.mem_cons_of_mem _ (List.mem_of_getElem? found))
    refine { sound with
      tasks := fun task member => ?_
      registered := fun place member =>
        Nat.lt_of_lt_of_le (sound.registered place member) leads.length_tasks
      departures := fun departure member => (sound.departures departure member).mono leads }
    rcases List.mem_append.1 member with member | member
    · exact sound.tasks task member
    · rw [List.mem_singleton.1 member, new]
      exact BackgroundTask.heeds_new life.signal duty
  · exact sound

theorem register (sound : Sound life) (place : Nat) : Sound (life.register place) := by
  unfold Lifecycle.register
  split
  next admitted =>
    refine { sound with
      registered := fun other member => ?_
      departures := fun departure member =>
        (sound.departures departure member).mono { Leads.refl life with } }
    rcases List.mem_append.1 member with member | member
    · exact sound.registered other member
    · rw [List.mem_singleton.1 member]
      exact admitted.1
  · exact sound

theorem trigger (sound : Sound life) : Sound life.trigger :=
  { sound with
    counted := ⟨fun _ => Nat.succ_ne_zero _, fun _ => rfl⟩
    tasks := fun task member => (sound.tasks task member).set
    departures := fun departure member =>
      (sound.departures departure member).mono { Leads.refl life with } }

/-- A change of one task that it leads to, and that heeds the signal. -/
theorem modify (sound : Sound life) (place : Nat) {f : BackgroundTask → BackgroundTask}
    (leads : ∀ task : BackgroundTask, task.Leads (f task))
    (heeds : ∀ task : BackgroundTask, task.Heeds life.signal → (f task).Heeds life.signal) :
    Sound { life with tasks := life.tasks.modify place f } := by
  have led := leads_modify life place leads
  refine { sound with
    tasks := fun task member => ?_
    registered := fun other member =>
      Nat.lt_of_lt_of_le (sound.registered other member) led.length_tasks
    departures := fun departure member => (sound.departures departure member).mono led }
  obtain ⟨other, found⟩ := List.mem_iff_getElem?.1 member
  rw [List.getElem?_modify] at found
  obtain ⟨earlier, isEarlier, rfl⟩ := Option.map_eq_some_iff.1 found
  have heeded := sound.tasks earlier (List.mem_of_getElem? isEarlier)
  split
  · exact heeds earlier heeded
  · exact heeded

theorem depart (sound : Sound life) : Sound (life.step .depart) := by
  refine { sound.trigger with departures := fun departure member => ?_, closed := ?_ }
  · rcases List.mem_append.1 member with member | member
    · exact (sound.departures departure member).mono (leads_depart life)
    · rw [List.mem_singleton.1 member]
      exact ⟨fun _ none_ => (nomatch none_), fun closed => nomatch closed⟩
  · simp [step, Lifecycle.trigger, sound.closed]

/-- A shutdown is replaced by what it leads to, in order. -/
theorem set {later : Departure} {store : Store} {registered : List Nat} (sound : Sound life)
    (found : life.departures[place]? = some departure) (leads : departure.Leads later)
    (inOrder : life.InOrder later) (fewer : ∀ place ∈ registered, place ∈ life.registered)
    (closes : store.isOpen = false ↔ life.store.isOpen = false ∨ later.closed = true) :
    Sound { life with store, registered, departures := life.departures.set place later } := by
  have led : Leads life
      { life with store, registered, departures := life.departures.set place later } :=
    leads_set found leads fun closed => closes.2 (.inl closed)
  refine { sound with
    registered := fun other member => sound.registered other (fewer other member)
    departures := fun other member => ?_
    closed := closes.trans ⟨?_, ?_⟩ }
  · rcases List.mem_or_eq_of_mem_set member with member | rfl
    · exact (sound.departures other member).mono led
    · exact inOrder.mono led
  · rintro (closed | closed)
    · obtain ⟨other, member, closed⟩ := sound.closed.1 closed
      obtain ⟨elsewhere, found⟩ := List.mem_iff_getElem?.1 member
      obtain ⟨after, found, leads⟩ := led.departures elsewhere other found
      exact ⟨after, List.mem_of_getElem? found, leads.closed closed⟩
    · exact ⟨later, List.mem_set (List.getElem?_eq_some_iff.1 found).1 later, closed⟩
  · rintro ⟨other, member, closed⟩
    rcases List.mem_or_eq_of_mem_set member with member | rfl
    · exact .inl (sound.closed.2 ⟨other, member, closed⟩)
    · exact .inr closed

/-- A shutdown that has closed the store does not count twice. -/
theorem isOpen_or (sound : Sound life) (found : life.departures[place]? = some departure) :
    life.store.isOpen = false ↔ life.store.isOpen = false ∨ departure.closed = true :=
  ⟨.inl, fun either => either.elim id fun closed =>
    sound.closed.2 ⟨departure, List.mem_of_getElem? found, closed⟩⟩

theorem take (sound : Sound life) (place : Nat) : Sound (life.take place) := by
  unfold Lifecycle.take
  split
  next expired closed found =>
    have inOrder := sound.departures _ (List.mem_of_getElem? found)
    have still := sound.isOpen_or found
    refine sound.set found ⟨fun _ none_ => (nomatch none_), id, id⟩ ?_
      (fun _ none_ => nomatch none_) still
    refine ⟨fun tasks awaited task member => ?_, fun closed => ?_⟩
    · obtain rfl := Option.some.inj awaited
      exact sound.registered task member
    · -- A shutdown without tasks has closed nothing.
      obtain ⟨_, awaited, _⟩ := mayClose_iff.1 (inOrder.closing closed)
      cases awaited
  · exact sound

theorem expire (sound : Sound life) (place : Nat) : Sound (life.expire place) := by
  unfold Lifecycle.expire
  split
  next departure found =>
    have inOrder := sound.departures departure (List.mem_of_getElem? found)
    have still := sound.isOpen_or found
    refine sound.set found ⟨fun _ => id, fun expired => by simp [expired], id⟩ ?_
      (fun _ => id) still
    refine ⟨inOrder.started, fun closed => ?_⟩
    obtain ⟨tasks, awaited, ended⟩ := mayClose_iff.1 (inOrder.closing closed)
    exact mayClose_iff.2 ⟨tasks, awaited, ended.imp_left fun expired => by simp [expired]⟩
  · exact sound

theorem close (sound : Sound life) (place : Nat) : Sound (life.close place) := by
  unfold Lifecycle.close
  split
  next departure found =>
    split
    next may =>
      have inOrder := sound.departures departure (List.mem_of_getElem? found)
      exact sound.set found ⟨fun _ => id, id, fun _ => rfl⟩ ⟨inOrder.started, fun _ => may⟩
        (fun _ => id) ⟨fun _ => .inr rfl, fun _ => rfl⟩
    · exact sound
  · exact sound

theorem step (sound : Sound life) (event : Event) : Sound (life.step event) := by
  cases event with
  | subscribe => exact sound.subscribe
  | spawn duty subscriber => exact sound.spawn duty subscriber
  | register place => exact sound.register place
  | start duty => exact (sound.subscribe.spawn duty _).register _
  | trigger => exact sound.trigger
  | turn place =>
      exact sound.modify place (BackgroundTask.leads_turn life.signal)
        fun task heeds => heeds.turn sound.counted
  | finish place =>
      exact sound.modify place BackgroundTask.leads_finish fun task heeds => heeds.finish
  | depart => exact sound.depart
  | take place => exact sound.take place
  | expire place => exact sound.expire place
  | close place => exact sound.close place

theorem run (sound : Sound life) (events : List Event) : Sound (life.run events) := by
  induction events generalizing life with
  | nil => exact sound
  | cons event events ih => exact ih (sound.step event)

/-- Every receiver finds the signal changed if it was given. -/
theorem hasChanged (sound : Sound life) {receiver : Receiver}
    (member : receiver ∈ life.receiver :: life.subscribers) :
    receiver.hasChanged life.signal = life.isTriggered := by
  rw [sound.receivers receiver member]
  exact (BackgroundTask.heeds_new life.signal .wait).hasChanged sound.counted rfl

/-- Once the signal was given, whoever ends by it has ended after its next turn. -/
theorem ends {task : BackgroundTask} (sound : Sound life)
    (found : life.tasks[place]? = some task) (duty : task.duty ≠ .work)
    (given : life.isTriggered = true) (later more : List Event) :
    (life.run (later ++ .turn place :: more)).hasFinished place = true := by
  obtain ⟨waiting, isWaiting, leads⟩ := (leads_run later life).tasks place task found
  have given' : (life.run later).isTriggered = true := (isTriggered_run later life).2 (.inl given)
  have heeds := (sound.run later).tasks waiting (List.mem_of_getElem? isWaiting)
  have turned : ((life.run later).step (.turn place)).tasks[place]? =
      some (waiting.turn (life.run later).signal) := by
    simp [Lifecycle.step, isWaiting]
  have ended := heeds.finished_turn (sound.run later).counted (leads.duty ▸ duty) given'
  rw [run_append, Lifecycle.run, List.foldl_cons, ← Lifecycle.run]
  refine (leads_run more _).hasFinished (List.getElem?_eq_some_iff.1 turned).1 ?_
  rw [Lifecycle.hasFinished, turned]
  exact ended

end Sound

/-! ## Tasks that a shutdown answers for -/

/-- A task is awaited by some shutdown, or it is registered and a shutdown has yet to take what
is registered. -/
def Accounted (place task : Nat) (life : Lifecycle) : Prop :=
  (∃ departure ∈ life.departures, departure.Awaits task) ∨
    (task ∈ life.registered ∧
      ∀ departure, life.departures[place]? = some departure → departure.awaited = none)

/-- A shutdown that has no tasks has none when another one goes on, or it does without taking
any. -/
theorem untaken_set {other : Nat} {later : Departure}
    (untaken : ∀ departure, life.departures[place]? = some departure → departure.awaited = none)
    (found : life.departures[other]? = some departure) {after : Departure}
    (isAfter : (life.departures.set other later)[place]? = some after)
    (same : later.awaited = departure.awaited) : after.awaited = none := by
  rw [List.getElem?_set] at isAfter
  split at isAfter
  next here =>
    subst here
    split at isAfter
    · obtain rfl := Option.some.inj isAfter
      exact same.trans (untaken departure found)
    · cases isAfter
  · exact untaken after isAfter

theorem accounted_step {task : Nat} (accounted : life.Accounted place task) (event : Event) :
    (life.step event).Accounted place task := by
  rcases accounted with ⟨departure, member, tasks, awaited, among⟩ | ⟨registered, untaken⟩
  · obtain ⟨elsewhere, found⟩ := List.mem_iff_getElem?.1 member
    obtain ⟨later, found, leads⟩ := (leads_step life event).departures elsewhere departure found
    exact .inl ⟨later, List.mem_of_getElem? found, tasks, leads.awaited tasks awaited, among⟩
  cases event with
  | spawn duty subscriber =>
      obtain ⟨_, same⟩ := spawn_eq life duty subscriber
      rw [step, same]
      exact .inr ⟨registered, untaken⟩
  | register other =>
      obtain ⟨_, same, more⟩ := register_eq life other
      rw [step, same]
      exact .inr ⟨more task registered, untaken⟩
  | start duty =>
      obtain ⟨_, _, _, same, more⟩ := start_eq life duty
      rw [same]
      exact .inr ⟨more task registered, untaken⟩
  | depart =>
      refine .inr ⟨registered, fun departure found => ?_⟩
      simp only [step, trigger, List.getElem?_append] at found
      split at found
      · exact untaken departure found
      · obtain rfl := List.mem_singleton.1 (List.mem_of_getElem? found)
        rfl
  | take other =>
      simp only [step, take]
      split
      next expired closed found =>
        exact .inl ⟨_, List.mem_set (List.getElem?_eq_some_iff.1 found).1 _, _, rfl, registered⟩
      · exact .inr ⟨registered, untaken⟩
  | expire other =>
      simp only [step, expire]
      split
      next departure found =>
        exact .inr ⟨registered, fun _ isAfter => untaken_set untaken found isAfter rfl⟩
      · exact .inr ⟨registered, untaken⟩
  | close other =>
      simp only [step, close]
      split
      next departure found =>
        split
        · exact .inr ⟨registered, fun _ isAfter => untaken_set untaken found isAfter rfl⟩
        · exact .inr ⟨registered, untaken⟩
      · exact .inr ⟨registered, untaken⟩
  | _ => exact .inr ⟨registered, untaken⟩

theorem accounted_run {task : Nat} (accounted : life.Accounted place task) (events : List Event) :
    (life.run events).Accounted place task := by
  induction events generalizing life with
  | nil => exact accounted
  | cons event events ih => exact ih (accounted_step accounted event)

/-- A shutdown that begins answers for all tasks that are registered, or that were. -/
theorem accounted_depart {task : Nat} (member : task ∈ life.handles) :
    (life.step .depart).Accounted life.departures.length task := by
  rcases List.mem_append.1 member with taken | registered
  · obtain ⟨departure, member, among⟩ := List.mem_flatMap.1 taken
    cases awaited : departure.awaited with
    | none => simp [awaited] at among
    | some tasks =>
        rw [awaited] at among
        exact .inl ⟨departure, List.mem_append_left _ member, tasks, awaited, among⟩
  · refine .inr ⟨registered, fun departure found => ?_⟩
    obtain rfl : {} = departure := by simpa [step] using found
    rfl


/-- A task holds up no shutdown that has closed the store: it has finished, or a shutdown has
awaited it until its time was over, or one that has not closed the store awaits it. -/
inductive Released (life : Lifecycle) (task : Nat) : Prop where
  | finished : life.hasFinished task = true → Released life task
  | expired {departure : Departure} : departure ∈ life.departures → departure.Awaits task →
      departure.expired = true → Released life task
  | awaited {departure : Departure} : departure ∈ life.departures → departure.Awaits task →
      departure.closed = false → Released life task

/-- A shutdown that has closed the store answers for every task that was registered when it
began. -/
theorem released_of_closed (sound : Sound life) {after : List Event}
    (found : (life.run (.depart :: after)).departures[life.departures.length]? = some departure)
    (closed : departure.closed = true) {task : Nat} (member : task ∈ life.handles) :
    (life.run (.depart :: after)).Released task := by
  have sound := sound.run (.depart :: after)
  have accounted : (life.run (.depart :: after)).Accounted life.departures.length task :=
    accounted_run (accounted_depart member) after
  rcases accounted with ⟨other, among, awaits⟩ | ⟨-, untaken⟩
  · cases going : other.closed with
    | false => exact .awaited among awaits going
    | true =>
        have may := (sound.departures other among).closing going
        obtain ⟨tasks, awaited, ended⟩ := mayClose_iff.1 may
        obtain ⟨tasks', awaited', inTasks⟩ := awaits
        obtain rfl := Option.some.inj (awaited'.symm.trans awaited)
        rcases ended with expired | finished
        · exact .expired among ⟨tasks', awaited', inTasks⟩ expired
        · exact .finished (finished task inTasks)
  · have inOrder := sound.departures departure (List.mem_of_getElem? found)
    obtain ⟨tasks, awaited, -⟩ := mayClose_iff.1 (inOrder.closing closed)
    cases (untaken departure found).symm.trans awaited

/-! ## A shutdown that comes to its end -/

theorem departure_take (found : life.departures[place]? = some {}) :
    (life.take place).departures[place]? = some { awaited := some life.registered } := by
  rw [take, found]
  exact List.getElem?_set_self (List.getElem?_eq_some_iff.1 found).1

theorem departure_close (found : life.departures[place]? = some departure)
    (may : life.mayClose departure = true) :
    (life.close place).departures[place]? = some { departure with closed := true } := by
  simp only [close, found, may, if_true]
  exact List.getElem?_set_self (List.getElem?_eq_some_iff.1 found).1

/-- The time of a shutdown with its tasks is over. -/
theorem departure_expire {tasks : List Nat} (found : life.departures[place]? = some departure)
    (awaited : departure.awaited = some tasks) :
    (life.expire place).departures[place]? = some { departure with expired := true } := by
  simp only [expire, found, awaited, Option.isSome_some, Bool.or_true]
  exact List.getElem?_set_self (List.getElem?_eq_some_iff.1 found).1

/-- A shutdown that is given its time closes the store, whatever its tasks do. -/
theorem closed_shutdown (life : Lifecycle) :
    ∃ departure ∈ life.shutdown.departures, departure.closed = true := by
  have begun : (life.step .depart).departures[life.departures.length]? = some {} :=
    List.getElem?_concat_length
  have taken := departure_take begun
  obtain ⟨waiting, isWaiting, leads⟩ := (leads_run life.turns _).departures _ _ taken
  have awaited := leads.awaited _ rfl
  have expired := departure_expire isWaiting awaited
  have closed := departure_close expired (mayClose_iff.2 ⟨_, awaited, .inl rfl⟩)
  have whole : life.shutdown = ((((life.step .depart).take life.departures.length).run
      life.turns).expire life.departures.length).close life.departures.length := by
    rw [shutdown, run_append]
    rfl
  rw [whole]
  exact ⟨_, List.mem_of_getElem? closed, rfl⟩

end Lifecycle

end CatalogListing
