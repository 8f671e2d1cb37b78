-- SUMMARY: One bounded event subscription over every interleaving of publisher, event loop and receiver.
import TunerOs.Lib.Run
import Mathlib.Data.List.Infix
import Mathlib.Tactic.Basic

/-!
# Telemetry subscription

`TelemetrySubscription` is shared by a publishing thread and an event loop. A
label is one section under the state lock or the broadcaster lock, one
`call_soon_threadsafe`, or one piece of a loop callback. The loop runs its
callbacks in the order they were scheduled. `call_soon_threadsafe` raises only on a
closed loop, on which nothing runs any more; the loop here is open.

`published` and `returned` are what the client was sent and what `receive` gave it;
`queueFull` records that `put_nowait` met a full queue.
-/

namespace TunerOs

open Transition

/-- `SubscriberItem`. -/
inductive SubscriberItem (α : Type*) where
  | event (event : α)
  | closed (reason : String)
deriving DecidableEq

/-- A callback handed to the event loop. -/
inductive LoopCallback (α : Type*) where
  | deliver (event : α)
  | deliverClosed (reason : String)
deriving DecidableEq

/-- Where the publishing thread is. -/
inductive Publisher (α : Type*) where
  | idle
  /-- `publish` found the subscription and calls `_schedule`. -/
  | scheduling (event : α)
  /-- `_schedule` counted the event and is about to hand it to the loop. -/
  | counted (event : α)
  /-- `_schedule` found the counter at capacity. -/
  | overflow
  /-- `disconnect_slow_subscriber` removed the subscription. -/
  | removed
  /-- `_deactivate` cleared the active flag and is about to schedule the closing item. -/
  | deactivated
deriving DecidableEq

structure Subscription (α : Type*) where
  capacity : ℕ
  subscribed : Bool
  active : Bool
  outstandingDeliveries : ℤ
  queue : List (SubscriberItem α)
  publisher : Publisher α
  ready : List (LoopCallback α)
  /-- The event of a `_deliver` that has checked the active flag. -/
  delivering : Option α
  /-- The item a `receive` has taken from the queue. -/
  taken : Option (SubscriberItem α)
  published : List α
  returned : List (SubscriberItem α)
  queueFull : Bool
deriving DecidableEq

inductive SubscriptionLabel (α : Type*) where
  /-- `publish(event)` copies the set of subscriptions. -/
  | publish (event : α)
  /-- The locked section of `_schedule`. -/
  | schedule
  /-- `call_soon_threadsafe(self._deliver, event)`. -/
  | callSoon
  /-- `disconnect_slow_subscriber` discards the subscription. -/
  | disconnect
  /-- The locked section of `_deactivate`. -/
  | deactivate
  /-- `call_soon_threadsafe(self._deliver_closed, reason)`. -/
  | callSoonClosed
  /-- `_deliver` reads the active flag. -/
  | deliver
  /-- `_deliver` puts its event. -/
  | put
  /-- `_deliver_closed` drains the queue and puts the closing item. -/
  | deliverClosed
  /-- `receive` takes an item. -/
  | take
  /-- `receive` counts the item and returns it. -/
  | settle
deriving DecidableEq

def slowClient : String := "slow_client"

namespace Subscription

variable {α : Type*}

/-- `TelemetrySubscription(broadcaster, loop, capacity)`, added to the broadcaster. -/
def subscribe (capacity : ℕ) : Subscription α where
  capacity := capacity
  subscribed := true
  active := true
  outstandingDeliveries := 0
  queue := []
  publisher := .idle
  ready := []
  delivering := none
  taken := none
  published := []
  returned := []
  queueFull := false

/-- `put_nowait`: an item that meets a full queue is lost. -/
def putNowait (s : Subscription α) (item : SubscriberItem α) : Subscription α :=
  if s.queue.length < s.capacity then { s with queue := s.queue ++ [item] }
  else { s with queueFull := true }

/-- What counting an item does to the counter: closing items and inactive subscriptions are
not counted. -/
def settled (s : Subscription α) (item : SubscriberItem α) : ℤ :=
  match item with
  | .event _ => if s.active then s.outstandingDeliveries - 1 else s.outstandingDeliveries
  | .closed _ => s.outstandingDeliveries

def step (s : Subscription α) : SubscriptionLabel α → Option (Subscription α)
  | .publish event =>
    match s.publisher with
    | .idle =>
      some { s with
        published := s.published ++ [event]
        publisher := if s.subscribed then .scheduling event else .idle }
    | _ => none
  | .schedule =>
    match s.publisher with
    | .scheduling event =>
      if !s.active then some { s with publisher := .idle }
      else if s.outstandingDeliveries ≥ s.capacity then some { s with publisher := .overflow }
      else
        some { s with
          outstandingDeliveries := s.outstandingDeliveries + 1
          publisher := .counted event }
    | _ => none
  | .callSoon =>
    match s.publisher with
    | .counted event => some { s with ready := s.ready ++ [.deliver event], publisher := .idle }
    | _ => none
  | .disconnect =>
    match s.publisher with
    | .overflow =>
      if s.subscribed then some { s with subscribed := false, publisher := .removed }
      else some { s with publisher := .idle }
    | _ => none
  | .deactivate =>
    match s.publisher with
    | .removed =>
      if s.active then
        some { s with active := false, outstandingDeliveries := 0, publisher := .deactivated }
      else some { s with publisher := .idle }
    | _ => none
  | .callSoonClosed =>
    match s.publisher with
    | .deactivated =>
      some { s with ready := s.ready ++ [.deliverClosed slowClient], publisher := .idle }
    | _ => none
  | .deliver =>
    match s.delivering, s.ready with
    | none, .deliver event :: rest =>
      some { s with ready := rest, delivering := if s.active then some event else none }
    | _, _ => none
  | .put =>
    match s.delivering with
    | some event => some { s.putNowait (.event event) with delivering := none }
    | none => none
  | .deliverClosed =>
    match s.delivering, s.ready with
    | none, .deliverClosed reason :: rest =>
      some ({ s with ready := rest, queue := [] }.putNowait (.closed reason))
    | _, _ => none
  | .take =>
    match s.taken, s.queue with
    | none, item :: rest => some { s with queue := rest, taken := some item }
    | _, _ => none
  | .settle =>
    match s.taken with
    | some item =>
      some { s with
        outstandingDeliveries := s.settled item
        returned := s.returned ++ [item]
        taken := none }
    | none => none

/-! ## The three phases of a subscription

An open subscription passes every published event on in order. Once it is removed
it is closing: callbacks that are still waiting to run deliver nothing, and the
closing item is behind them. It is closed when the closing item is in the queue. -/

/-- Where the events of a subscription are, from the client back to the publisher. -/
structure Stages (α : Type*) where
  received : List α
  inHand : List α
  queued : List α
  arriving : List α
  handed : List α

/-- The stages say what is in the subscription's own fields, up to the loop's callbacks. -/
structure Holds (s : Subscription α) (at' : Stages α) : Prop where
  returned : s.returned = at'.received.map .event
  taken : s.taken.toList = at'.inHand.map .event
  queue : s.queue = at'.queued.map .event
  delivering : s.delivering.toList = at'.arriving

/-- The event the publisher has counted but not handed over. -/
def counting : Publisher α → List α
  | .counted event => [event]
  | _ => []

/-- What the publisher's position says about the subscription and the event it rejected, or has
not decided on. -/
def PublisherOk (s : Subscription α) (rejected : List α) : Prop :=
  match s.publisher with
  | .idle => s.subscribed = true ∧ rejected = []
  | .scheduling event => s.subscribed = true ∧ rejected = [event]
  | .counted _ => s.subscribed = true ∧ rejected = []
  | .overflow => s.subscribed = true
  | .removed => s.subscribed = false
  | .deactivated => False

structure Open (s : Subscription α) (at' : Stages α) (rejected : List α) : Prop
    extends Holds s at' where
  active : s.active = true
  ready : s.ready = at'.handed.map .deliver
  published : s.published = at'.received ++ at'.inHand ++ at'.queued ++ at'.arriving ++
    at'.handed ++ counting s.publisher ++ rejected
  outstanding : s.outstandingDeliveries = (at'.inHand ++ at'.queued ++ at'.arriving ++
    at'.handed ++ counting s.publisher).length
  bounded : s.outstandingDeliveries ≤ s.capacity
  publisher : s.PublisherOk rejected

structure Closing (s : Subscription α) (at' : Stages α) : Prop extends Holds s at' where
  active : s.active = false
  subscribed : s.subscribed = false
  ready : (s.publisher = .deactivated ∧ s.ready = at'.handed.map .deliver) ∨
    (s.publisher = .idle ∧ s.ready = at'.handed.map .deliver ++ [.deliverClosed slowClient])
  published : at'.received ++ at'.inHand ++ at'.queued ++ at'.arriving <+: s.published
  room : at'.queued.length + at'.arriving.length ≤ s.capacity

structure Closed (s : Subscription α) (received : List α) : Prop where
  active : s.active = false
  subscribed : s.subscribed = false
  publisher : s.publisher = .idle
  ready : s.ready = []
  delivering : s.delivering = none
  items : s.returned ++ s.taken.toList ++ s.queue = received.map .event ++ [.closed slowClient]
  published : received <+: s.published

/-- The invariant: the queue was never full, and the subscription is in one of its phases. -/
structure Inv (s : Subscription α) : Prop where
  capacity_pos : 0 < s.capacity
  queueFull : s.queueFull = false
  phase : (∃ at' rejected, s.Open at' rejected) ∨ (∃ at', s.Closing at') ∨ ∃ received, s.Closed received

/-! ## An open subscription -/

section Open

variable {s s' : Subscription α} {at' : Stages α} {rejected : List α}

theorem Open.step_publish (h : s.Open at' rejected) {event : α}
    (hstep : s.step (.publish event) = some s') : s'.Open at' [event] := by
  have hpublisher := h.publisher
  have hpublished := h.published
  have houtstanding := h.outstanding
  simp only [step] at hstep
  split at hstep
  · rename_i hidle
    simp only [PublisherOk, hidle] at hpublisher
    simp only [hidle, counting, hpublisher.2, List.append_nil] at hpublished houtstanding
    cases hstep
    exact {
      returned := h.returned, taken := h.taken, queue := h.queue, delivering := h.delivering
      active := h.active, ready := h.ready, bounded := h.bounded
      published := by simp [hpublisher.1, counting, hpublished]
      outstanding := by simp [hpublisher.1, counting, houtstanding]
      publisher := by simp [PublisherOk, hpublisher.1] }
  · cases hstep

/-- Scheduling counts the event, or finds at least `capacity` events not yet received. -/
theorem Open.step_schedule (h : s.Open at' rejected) (hstep : s.step .schedule = some s') :
    s'.Open at' [] ∧ s'.publisher ≠ .overflow ∨
      s'.Open at' rejected ∧ s.capacity + s.returned.length + 1 ≤ s.published.length := by
  have hpublisher := h.publisher
  have hpublished := h.published
  have houtstanding := h.outstanding
  simp only [step] at hstep
  split at hstep
  · rename_i event hscheduling
    simp only [PublisherOk, hscheduling] at hpublisher
    simp only [hscheduling, counting, hpublisher.2, List.append_nil] at hpublished houtstanding
    simp only [h.active, Bool.not_true, Bool.false_eq_true, ↓reduceIte] at hstep
    split at hstep
    · rename_i hfull
      cases hstep
      refine Or.inr ⟨?_, ?_⟩
      · exact {
          returned := h.returned, taken := h.taken, queue := h.queue, delivering := h.delivering
          active := rfl, ready := h.ready, bounded := h.bounded
          published := by simp [counting, hpublished, hpublisher.2]
          outstanding := by simp [counting, houtstanding]
          publisher := by simp [PublisherOk, hpublisher.1] }
      · rw [houtstanding] at hfull
        rw [hpublished, h.returned]
        simp only [List.length_append, List.length_map, List.length_singleton] at hfull ⊢
        omega
    · rename_i hroom
      cases hstep
      refine Or.inl ⟨{
        returned := h.returned, taken := h.taken, queue := h.queue, delivering := h.delivering
        active := rfl, ready := h.ready
        published := by simp [counting, hpublished]
        outstanding := by simp [counting, houtstanding]; omega
        bounded := by simp only; omega
        publisher := by simp [PublisherOk, hpublisher.1] }, by simp⟩
  · cases hstep

theorem Open.step_callSoon (h : s.Open at' rejected) (hstep : s.step .callSoon = some s') :
    ∃ event, s'.Open { at' with handed := at'.handed ++ [event] } rejected := by
  have hpublisher := h.publisher
  have hpublished := h.published
  have houtstanding := h.outstanding
  simp only [step] at hstep
  split at hstep
  · rename_i event hcounted
    simp only [PublisherOk, hcounted] at hpublisher
    simp only [hcounted, counting] at hpublished houtstanding
    cases hstep
    exact ⟨event, {
      returned := h.returned, taken := h.taken, queue := h.queue, delivering := h.delivering
      active := h.active, bounded := h.bounded
      ready := by simp [h.ready]
      published := by simp [counting, hpublished]
      outstanding := by simp [counting, houtstanding]
      publisher := by simp [PublisherOk, hpublisher] }⟩
  · cases hstep

theorem Open.step_disconnect (h : s.Open at' rejected) (hstep : s.step .disconnect = some s') :
    s'.Open at' rejected := by
  have hpublisher := h.publisher
  have hpublished := h.published
  have houtstanding := h.outstanding
  simp only [step] at hstep
  split at hstep
  · rename_i hoverflow
    simp only [PublisherOk, hoverflow] at hpublisher
    simp only [hoverflow, counting] at hpublished houtstanding
    simp only [hpublisher, ↓reduceIte] at hstep
    cases hstep
    exact {
      returned := h.returned, taken := h.taken, queue := h.queue, delivering := h.delivering
      active := h.active, ready := h.ready, bounded := h.bounded
      published := by simp [counting, hpublished]
      outstanding := by simp [counting, houtstanding]
      publisher := by simp [PublisherOk] }
  · cases hstep

theorem Open.step_deactivate (h : s.Open at' rejected) (hstep : s.step .deactivate = some s') :
    s'.Closing at' := by
  have hpublisher := h.publisher
  have hpublished := h.published
  have houtstanding := h.outstanding
  have hbounded := h.bounded
  simp only [step] at hstep
  split at hstep
  · rename_i hremoved
    simp only [PublisherOk, hremoved] at hpublisher
    simp only [hremoved, counting, List.append_nil] at hpublished houtstanding
    simp only [h.active, ↓reduceIte] at hstep
    have hroom : at'.queued.length + at'.arriving.length ≤ s.capacity := by
      rw [houtstanding] at hbounded
      simp only [List.length_append] at hbounded
      omega
    cases hstep
    exact {
      returned := h.returned, taken := h.taken, queue := h.queue, delivering := h.delivering
      active := rfl, subscribed := hpublisher
      ready := Or.inl ⟨rfl, h.ready⟩
      published := by
        rw [hpublished, List.append_assoc _ at'.handed]
        exact List.prefix_append _ _
      room := hroom }
  · cases hstep

theorem Open.step_deliver (h : s.Open at' rejected) (hstep : s.step .deliver = some s') :
    ∃ event rest, s'.Open { at' with arriving := [event], handed := rest } rejected := by
  have hready := h.ready
  have hpublished := h.published
  have houtstanding := h.outstanding
  simp only [step] at hstep
  split at hstep
  · rename_i event rest hdelivering hcallbacks
    rw [hcallbacks] at hready
    obtain ⟨first, handed, hhanded, hfirst, hrest⟩ := List.map_eq_cons_iff.1 hready.symm
    cases hfirst
    have harriving : at'.arriving = [] := by rw [← h.delivering, hdelivering]; rfl
    rw [harriving, hhanded] at hpublished houtstanding
    simp only [h.active, ↓reduceIte] at hstep
    cases hstep
    exact ⟨event, handed, {
      returned := h.returned, taken := h.taken, queue := h.queue, delivering := rfl
      active := rfl, bounded := h.bounded, publisher := h.publisher
      ready := hrest.symm
      published := by simp [hpublished]
      outstanding := by simp [houtstanding] }⟩
  · cases hstep

theorem Open.step_put (h : s.Open at' rejected) (hstep : s.step .put = some s') :
    s'.queueFull = s.queueFull ∧
    ∃ event, s'.Open { at' with queued := at'.queued ++ [event], arriving := [] } rejected := by
  have hpublished := h.published
  have houtstanding := h.outstanding
  have hbounded := h.bounded
  simp only [step] at hstep
  split at hstep
  · rename_i event hdelivering
    have harriving : at'.arriving = [event] := by rw [← h.delivering, hdelivering]; rfl
    rw [harriving] at hpublished houtstanding
    have hroom : s.queue.length < s.capacity := by
      -- the event to be put is counted, so the queue holds fewer than `capacity` events
      rw [houtstanding] at hbounded
      simp only [List.length_append, List.length_singleton] at hbounded
      rw [h.queue, List.length_map]
      omega
    simp only [putNowait, hroom, ↓reduceIte] at hstep
    cases hstep
    exact ⟨rfl, event, {
      returned := h.returned, taken := h.taken, delivering := rfl
      active := h.active, ready := h.ready, bounded := h.bounded, publisher := h.publisher
      queue := by simp [h.queue]
      published := by simp [hpublished]
      outstanding := by simp [houtstanding] }⟩
  · cases hstep

theorem Open.step_take (h : s.Open at' rejected) (hstep : s.step .take = some s') :
    ∃ event rest, s'.Open { at' with inHand := [event], queued := rest } rejected := by
  have hqueue := h.queue
  have hpublished := h.published
  have houtstanding := h.outstanding
  simp only [step] at hstep
  split at hstep
  · rename_i item rest htaken hitems
    rw [hitems] at hqueue
    obtain ⟨event, queued, hqueued, hevent, hrest⟩ := List.map_eq_cons_iff.1 hqueue.symm
    have hinHand : at'.inHand = [] := by
      have htoList := h.taken
      rw [htaken] at htoList
      exact List.map_eq_nil_iff.1 htoList.symm
    rw [hinHand, hqueued] at hpublished houtstanding
    cases hstep
    exact ⟨event, queued, {
      returned := h.returned, delivering := h.delivering
      active := h.active, ready := h.ready, bounded := h.bounded, publisher := h.publisher
      taken := by simp [hevent]
      queue := hrest.symm
      published := by simp [hpublished]
      outstanding := by simp [houtstanding] }⟩
  · cases hstep

theorem Open.step_settle (h : s.Open at' rejected) (hstep : s.step .settle = some s') :
    ∃ event, s'.Open { at' with received := at'.received ++ [event], inHand := [] } rejected := by
  have hpublished := h.published
  have houtstanding := h.outstanding
  have hbounded := h.bounded
  simp only [step] at hstep
  split at hstep
  · rename_i item htaken
    have htoList := h.taken
    rw [htaken] at htoList
    obtain ⟨event, rest, hinHand, hevent, hrest⟩ := List.map_eq_cons_iff.1 htoList.symm
    have hnil : rest = [] := List.map_eq_nil_iff.1 hrest
    subst hnil hevent
    rw [hinHand] at hpublished houtstanding
    cases hstep
    exact ⟨event, {
      taken := rfl, queue := h.queue, delivering := h.delivering
      active := h.active, ready := h.ready, publisher := h.publisher
      returned := by simp [h.returned]
      published := by simp [hpublished]
      outstanding := by simp [settled, h.active, houtstanding]
      bounded := by simp only [settled, h.active, ↓reduceIte]; omega }⟩
  · cases hstep

/-- The closing item is scheduled only after the subscription is deactivated. -/
theorem Open.step_closed (h : s.Open at' rejected) :
    s.step .callSoonClosed = none ∧ s.step .deliverClosed = none := by
  have hpublisher := h.publisher
  have hready := h.ready
  refine ⟨?_, ?_⟩
  · simp only [step]
    split
    · rename_i hdeactivated
      simp only [PublisherOk, hdeactivated] at hpublisher
    · rfl
  · simp only [step]
    split
    · rename_i reason rest hdelivering hcallbacks
      rw [hcallbacks] at hready
      obtain ⟨first, handed, -, hfirst, -⟩ := List.map_eq_cons_iff.1 hready.symm
      cases hfirst
    · rfl

end Open

/-! ## A closing subscription -/

section Closing

variable {s s' : Subscription α} {at' : Stages α}

theorem Closing.publisher (h : s.Closing at') :
    s.publisher = .deactivated ∨ s.publisher = .idle := by
  rcases h.ready with ⟨hdeactivated, -⟩ | ⟨hidle, -⟩
  · exact Or.inl hdeactivated
  · exact Or.inr hidle

theorem Closing.step_publish (h : s.Closing at') {event : α}
    (hstep : s.step (.publish event) = some s') : s'.Closing at' := by
  have hready := h.ready
  simp only [step] at hstep
  split at hstep
  · rename_i hidle
    simp only [h.subscribed, Bool.false_eq_true, ↓reduceIte] at hstep
    cases hstep
    exact {
      returned := h.returned, taken := h.taken, queue := h.queue, delivering := h.delivering
      active := h.active, subscribed := rfl, room := h.room
      ready := by simpa [hidle] using hready
      published := h.published.trans (List.prefix_append _ _) }
  · cases hstep

theorem Closing.step_callSoonClosed (h : s.Closing at')
    (hstep : s.step .callSoonClosed = some s') : s'.Closing at' := by
  have hready := h.ready
  simp only [step] at hstep
  split at hstep
  · rename_i hdeactivated
    simp only [hdeactivated, true_and, reduceCtorEq, false_and, or_false] at hready
    cases hstep
    exact {
      returned := h.returned, taken := h.taken, queue := h.queue, delivering := h.delivering
      active := h.active, subscribed := h.subscribed, room := h.room, published := h.published
      ready := Or.inr ⟨rfl, by rw [hready]⟩ }
  · cases hstep

/-- A waiting delivery finds the subscription inactive and delivers nothing. -/
theorem Closing.step_deliver (h : s.Closing at') (hstep : s.step .deliver = some s') :
    ∃ rest, s'.Closing { at' with handed := rest } := by
  simp only [step] at hstep
  split at hstep
  · rename_i event rest hdelivering hcallbacks
    have harriving : at'.arriving = [] := by rw [← h.delivering, hdelivering]; rfl
    have hhanded : ∃ handed, at'.handed = event :: handed := by
      rcases h.ready with ⟨-, hready⟩ | ⟨-, hready⟩
      · rw [hcallbacks] at hready
        obtain ⟨first, handed, hhanded, hfirst, -⟩ := List.map_eq_cons_iff.1 hready.symm
        cases hfirst
        exact ⟨handed, hhanded⟩
      · rw [hcallbacks] at hready
        cases hcases : at'.handed with
        | nil => simp [hcases] at hready
        | cons first handed =>
          simp only [hcases, List.map_cons, List.cons_append, List.cons.injEq,
            LoopCallback.deliver.injEq] at hready
          exact ⟨handed, by rw [hready.1]⟩
    obtain ⟨handed, hhanded⟩ := hhanded
    have hready := h.ready
    simp only [hhanded, hcallbacks, List.map_cons, List.cons_append, List.cons.injEq,
      true_and] at hready
    simp only [h.active, Bool.false_eq_true, ↓reduceIte] at hstep
    cases hstep
    exact ⟨handed, {
      returned := h.returned, taken := h.taken, queue := h.queue, delivering := harriving.symm
      active := rfl, subscribed := h.subscribed, room := h.room, published := h.published
      ready := hready }⟩
  · cases hstep

/-- A delivery that saw the subscription active still has room. -/
theorem Closing.step_put (h : s.Closing at') (hstep : s.step .put = some s') :
    s'.queueFull = s.queueFull ∧
    ∃ event, s'.Closing { at' with queued := at'.queued ++ [event], arriving := [] } := by
  simp only [step] at hstep
  split at hstep
  · rename_i event hdelivering
    have harriving : at'.arriving = [event] := by rw [← h.delivering, hdelivering]; rfl
    have hroom := h.room
    have hpublished := h.published
    rw [harriving] at hroom hpublished
    simp only [List.length_singleton] at hroom
    have hqueue : s.queue.length < s.capacity := by
      rw [h.queue, List.length_map]
      omega
    simp only [putNowait, hqueue, ↓reduceIte] at hstep
    cases hstep
    exact ⟨rfl, event, {
      returned := h.returned, taken := h.taken, delivering := rfl
      active := h.active, subscribed := h.subscribed, ready := h.ready
      queue := by simp [h.queue]
      published := by simpa using hpublished
      room := by simpa using hroom }⟩
  · cases hstep

/-- The closing item drops the queued events and goes into an empty queue. -/
theorem Closing.step_deliverClosed (h : s.Closing at') (hcapacity : 0 < s.capacity)
    (hstep : s.step .deliverClosed = some s') :
    s'.queueFull = s.queueFull ∧ s'.Closed (at'.received ++ at'.inHand) := by
  simp only [step] at hstep
  split at hstep
  · rename_i reason rest hdelivering hcallbacks
    have hlast : at'.handed = [] ∧ s.publisher = .idle ∧ reason = slowClient ∧ rest = [] := by
      rcases h.ready with ⟨-, hready⟩ | ⟨hidle, hready⟩
      · rw [hcallbacks] at hready
        obtain ⟨first, handed, -, hfirst, -⟩ := List.map_eq_cons_iff.1 hready.symm
        cases hfirst
      · rw [hcallbacks] at hready
        cases hcases : at'.handed with
        | nil =>
          simp only [hcases, List.map_nil, List.nil_append, List.cons.injEq,
            LoopCallback.deliverClosed.injEq] at hready
          exact ⟨rfl, hidle, hready.1, hready.2⟩
        | cons first handed => simp [hcases] at hready
    obtain ⟨-, hidle, rfl, rfl⟩ := hlast
    have hbeginning := h.published
    rw [List.append_assoc] at hbeginning
    simp only [putNowait, List.length_nil, hcapacity, ↓reduceIte] at hstep
    cases hstep
    exact ⟨rfl, {
      active := h.active, subscribed := h.subscribed, publisher := hidle, ready := rfl
      delivering := hdelivering
      items := by simp [h.returned, h.taken]
      published := (List.prefix_append _ _).trans hbeginning }⟩
  · cases hstep

theorem Closing.step_take (h : s.Closing at') (hstep : s.step .take = some s') :
    ∃ event rest, s'.Closing { at' with inHand := [event], queued := rest } := by
  have hqueue := h.queue
  have hpublished := h.published
  have hroom := h.room
  simp only [step] at hstep
  split at hstep
  · rename_i item rest htaken hitems
    rw [hitems] at hqueue
    obtain ⟨event, queued, hqueued, hevent, hrest⟩ := List.map_eq_cons_iff.1 hqueue.symm
    have hinHand : at'.inHand = [] := by
      have htoList := h.taken
      rw [htaken] at htoList
      exact List.map_eq_nil_iff.1 htoList.symm
    rw [hinHand, hqueued] at hpublished
    rw [hqueued, List.length_cons] at hroom
    cases hstep
    exact ⟨event, queued, {
      returned := h.returned, delivering := h.delivering
      active := h.active, subscribed := h.subscribed, ready := h.ready
      taken := by simp [hevent]
      queue := hrest.symm
      published := by simpa using hpublished
      room := by simp only; omega }⟩
  · cases hstep

theorem Closing.step_settle (h : s.Closing at') (hstep : s.step .settle = some s') :
    ∃ event, s'.Closing { at' with received := at'.received ++ [event], inHand := [] } := by
  have hpublished := h.published
  simp only [step] at hstep
  split at hstep
  · rename_i item htaken
    have htoList := h.taken
    rw [htaken] at htoList
    obtain ⟨event, rest, hinHand, hevent, hrest⟩ := List.map_eq_cons_iff.1 htoList.symm
    have hnil : rest = [] := List.map_eq_nil_iff.1 hrest
    subst hnil hevent
    rw [hinHand] at hpublished
    cases hstep
    exact ⟨event, {
      taken := rfl, queue := h.queue, delivering := h.delivering
      active := h.active, subscribed := h.subscribed, ready := h.ready, room := h.room
      returned := by simp [h.returned]
      published := by simpa using hpublished }⟩
  · cases hstep

/-- The publisher does nothing more with a subscription it has removed. -/
theorem step_of_done (hpublisher : s.publisher = .deactivated ∨ s.publisher = .idle) :
    s.step .schedule = none ∧ s.step .callSoon = none ∧ s.step .disconnect = none ∧
      s.step .deactivate = none := by
  rcases hpublisher with hpublisher | hpublisher <;> simp [step, hpublisher]

end Closing

/-! ## A closed subscription -/

theorem Closed.step {s s' : Subscription α} {received : List α} (h : s.Closed received)
    {label : SubscriptionLabel α} (hstep : s.step label = some s') :
    s'.Closed received ∧ s'.queueFull = s.queueFull ∧ s'.capacity = s.capacity := by
  obtain ⟨hschedule, hcallSoon, hdisconnect, hdeactivate⟩ := step_of_done (Or.inr h.publisher)
  have hitems := h.items
  cases label with
  | publish event =>
    simp only [Subscription.step, h.publisher, h.subscribed, Bool.false_eq_true, ↓reduceIte] at hstep
    cases hstep
    exact ⟨{ h with
      subscribed := rfl
      publisher := rfl
      published := h.published.trans (List.prefix_append _ _) }, rfl, rfl⟩
  | schedule => simp [hschedule] at hstep
  | callSoon => simp [hcallSoon] at hstep
  | disconnect => simp [hdisconnect] at hstep
  | deactivate => simp [hdeactivate] at hstep
  | callSoonClosed => simp [Subscription.step, h.publisher] at hstep
  | deliver => simp [Subscription.step, h.delivering, h.ready] at hstep
  | put => simp [Subscription.step, h.delivering] at hstep
  | deliverClosed => simp [Subscription.step, h.delivering, h.ready] at hstep
  | take =>
    simp only [Subscription.step] at hstep
    split at hstep
    · rename_i item rest htaken hqueue
      cases hstep
      exact ⟨{ h with items := by simpa [htaken, hqueue] using hitems }, rfl, rfl⟩
    · cases hstep
  | settle =>
    simp only [Subscription.step] at hstep
    split at hstep
    · rename_i item htaken
      cases hstep
      exact ⟨{ h with items := by simpa [htaken] using hitems }, rfl, rfl⟩
    · cases hstep

/-! ## Every run -/

@[simp] theorem putNowait_publisher (s : Subscription α) (item : SubscriberItem α) :
    (s.putNowait item).publisher = s.publisher := by
  unfold putNowait
  split <;> rfl

@[simp] theorem putNowait_subscribed (s : Subscription α) (item : SubscriberItem α) :
    (s.putNowait item).subscribed = s.subscribed := by
  unfold putNowait
  split <;> rfl

@[simp] theorem putNowait_active (s : Subscription α) (item : SubscriberItem α) :
    (s.putNowait item).active = s.active := by
  unfold putNowait
  split <;> rfl

@[simp] theorem putNowait_capacity (s : Subscription α) (item : SubscriberItem α) :
    (s.putNowait item).capacity = s.capacity := by
  unfold putNowait
  split <;> rfl

/-- The capacity is fixed, and only putting an item can meet a full queue. -/
theorem step_frame {s s' : Subscription α} {label : SubscriptionLabel α}
    (hstep : s.step label = some s') :
    s'.capacity = s.capacity ∧
      (label ≠ .put → label ≠ .deliverClosed → s'.queueFull = s.queueFull) := by
  -- Nothing writes the capacity, and only the two puts can find the queue full.
  cases label with
  | publish event =>
    simp only [step] at hstep
    split at hstep <;> cases hstep
    exact ⟨rfl, fun _ _ => rfl⟩
  | schedule =>
    simp only [step] at hstep
    split at hstep
    · split at hstep
      · cases hstep
        exact ⟨rfl, fun _ _ => rfl⟩
      · split at hstep <;> cases hstep <;> exact ⟨rfl, fun _ _ => rfl⟩
    · cases hstep
  | callSoon =>
    simp only [step] at hstep
    split at hstep <;> cases hstep
    exact ⟨rfl, fun _ _ => rfl⟩
  | disconnect =>
    simp only [step] at hstep
    split at hstep
    · split at hstep <;> cases hstep <;> exact ⟨rfl, fun _ _ => rfl⟩
    · cases hstep
  | deactivate =>
    simp only [step] at hstep
    split at hstep
    · split at hstep <;> cases hstep <;> exact ⟨rfl, fun _ _ => rfl⟩
    · cases hstep
  | callSoonClosed =>
    simp only [step] at hstep
    split at hstep <;> cases hstep
    exact ⟨rfl, fun _ _ => rfl⟩
  | deliver =>
    simp only [step] at hstep
    split at hstep <;> cases hstep
    exact ⟨rfl, fun _ _ => rfl⟩
  | put =>
    simp only [step] at hstep
    split at hstep <;> cases hstep
    exact ⟨putNowait_capacity .., fun hput _ => absurd rfl hput⟩
  | deliverClosed =>
    simp only [step] at hstep
    split at hstep <;> cases hstep
    exact ⟨putNowait_capacity .., fun _ hclosed => absurd rfl hclosed⟩
  | take =>
    simp only [step] at hstep
    split at hstep <;> cases hstep
    exact ⟨rfl, fun _ _ => rfl⟩
  | settle =>
    simp only [step] at hstep
    split at hstep <;> cases hstep
    exact ⟨rfl, fun _ _ => rfl⟩

/-- A step of an open subscription leaves it open or starts closing it, and does not overflow
the queue. -/
theorem Open.step {s s' : Subscription α} {at' : Stages α} {rejected : List α}
    (h : s.Open at' rejected) {label : SubscriptionLabel α} (hstep : s.step label = some s') :
    s'.queueFull = s.queueFull ∧
      ((∃ at' rejected, s'.Open at' rejected) ∨ ∃ at', s'.Closing at') := by
  have hframe := (step_frame hstep).2
  cases label with
  | publish event =>
    exact ⟨hframe (by simp) (by simp), Or.inl ⟨_, _, h.step_publish hstep⟩⟩
  | schedule =>
    refine ⟨hframe (by simp) (by simp), Or.inl ?_⟩
    rcases h.step_schedule hstep with ⟨hcounted, -⟩ | ⟨hfull, -⟩
    · exact ⟨_, _, hcounted⟩
    · exact ⟨_, _, hfull⟩
  | callSoon =>
    obtain ⟨event, hnext⟩ := h.step_callSoon hstep
    exact ⟨hframe (by simp) (by simp), Or.inl ⟨_, _, hnext⟩⟩
  | disconnect =>
    exact ⟨hframe (by simp) (by simp), Or.inl ⟨_, _, h.step_disconnect hstep⟩⟩
  | deactivate =>
    exact ⟨hframe (by simp) (by simp), Or.inr ⟨_, h.step_deactivate hstep⟩⟩
  | callSoonClosed => simp [h.step_closed.1] at hstep
  | deliver =>
    obtain ⟨event, rest, hnext⟩ := h.step_deliver hstep
    exact ⟨hframe (by simp) (by simp), Or.inl ⟨_, _, hnext⟩⟩
  | put =>
    obtain ⟨hfull, event, hnext⟩ := h.step_put hstep
    exact ⟨hfull, Or.inl ⟨_, _, hnext⟩⟩
  | deliverClosed => simp [h.step_closed.2] at hstep
  | take =>
    obtain ⟨event, rest, hnext⟩ := h.step_take hstep
    exact ⟨hframe (by simp) (by simp), Or.inl ⟨_, _, hnext⟩⟩
  | settle =>
    obtain ⟨event, hnext⟩ := h.step_settle hstep
    exact ⟨hframe (by simp) (by simp), Or.inl ⟨_, _, hnext⟩⟩

theorem Closing.step {s s' : Subscription α} {at' : Stages α} (h : s.Closing at')
    (hcapacity : 0 < s.capacity) {label : SubscriptionLabel α} (hstep : s.step label = some s') :
    s'.queueFull = s.queueFull ∧
      ((∃ at', s'.Closing at') ∨ ∃ received, s'.Closed received) := by
  have hframe := (step_frame hstep).2
  obtain ⟨hschedule, hcallSoon, hdisconnect, hdeactivate⟩ := step_of_done h.publisher
  cases label with
  | publish event =>
    exact ⟨hframe (by simp) (by simp), Or.inl ⟨_, h.step_publish hstep⟩⟩
  | schedule => simp [hschedule] at hstep
  | callSoon => simp [hcallSoon] at hstep
  | disconnect => simp [hdisconnect] at hstep
  | deactivate => simp [hdeactivate] at hstep
  | callSoonClosed =>
    exact ⟨hframe (by simp) (by simp), Or.inl ⟨_, h.step_callSoonClosed hstep⟩⟩
  | deliver =>
    obtain ⟨rest, hnext⟩ := h.step_deliver hstep
    exact ⟨hframe (by simp) (by simp), Or.inl ⟨_, hnext⟩⟩
  | put =>
    obtain ⟨hfull, event, hnext⟩ := h.step_put hstep
    exact ⟨hfull, Or.inl ⟨_, hnext⟩⟩
  | deliverClosed =>
    obtain ⟨hfull, hnext⟩ := h.step_deliverClosed hcapacity hstep
    exact ⟨hfull, Or.inr ⟨_, hnext⟩⟩
  | take =>
    obtain ⟨event, rest, hnext⟩ := h.step_take hstep
    exact ⟨hframe (by simp) (by simp), Or.inl ⟨_, hnext⟩⟩
  | settle =>
    obtain ⟨event, hnext⟩ := h.step_settle hstep
    exact ⟨hframe (by simp) (by simp), Or.inl ⟨_, hnext⟩⟩

theorem Inv.step {s s' : Subscription α} (h : s.Inv) {label : SubscriptionLabel α}
    (hstep : s.step label = some s') : s'.Inv := by
  have hcapacity : 0 < s'.capacity := by
    rw [(step_frame hstep).1]
    exact h.capacity_pos
  rcases h.phase with ⟨at', rejected, hopen⟩ | ⟨at', hclosing⟩ | ⟨received, hclosed⟩
  · obtain ⟨hfull, hnext⟩ := hopen.step hstep
    exact ⟨hcapacity, hfull.trans h.queueFull, hnext.elim Or.inl (fun h => Or.inr (Or.inl h))⟩
  · obtain ⟨hfull, hnext⟩ := hclosing.step h.capacity_pos hstep
    exact ⟨hcapacity, hfull.trans h.queueFull, Or.inr hnext⟩
  · obtain ⟨hnext, hfull, -⟩ := hclosed.step hstep
    exact ⟨hcapacity, hfull.trans h.queueFull, Or.inr (Or.inr ⟨_, hnext⟩)⟩

theorem open_subscribe (capacity : ℕ) :
    (subscribe capacity : Subscription α).Open ⟨[], [], [], [], []⟩ [] where
  returned := rfl
  taken := rfl
  queue := rfl
  delivering := rfl
  active := rfl
  ready := rfl
  published := rfl
  outstanding := rfl
  bounded := Int.natCast_nonneg capacity
  publisher := ⟨rfl, rfl⟩

theorem inv_subscribe {capacity : ℕ} (hcapacity : 0 < capacity) :
    (subscribe capacity : Subscription α).Inv :=
  ⟨hcapacity, rfl, Or.inl ⟨_, _, open_subscribe capacity⟩⟩

theorem inv_of_run {capacity : ℕ} (hcapacity : 0 < capacity) {labels : List (SubscriptionLabel α)}
    {s : Subscription α} (hrun : run Subscription.step (subscribe capacity) labels = some s) :
    s.Inv :=
  run_invariant_all (fun _ _ _ hs hstep => hs.step hstep) hrun (inv_subscribe hcapacity)

/-- What `receive` has returned in a reachable state: published events in order, then at most the
closing item. -/
theorem Inv.returned {s : Subscription α} (h : s.Inv) :
    ∃ events, events <+: s.published ∧
      (s.returned = events.map .event ∨ s.returned = events.map .event ++ [.closed slowClient]) := by
  rcases h.phase with ⟨at', rejected, hopen⟩ | ⟨at', hclosing⟩ | ⟨received, hclosed⟩
  · refine ⟨at'.received, ?_, Or.inl hopen.returned⟩
    rw [hopen.published]
    simp only [List.append_assoc]
    exact List.prefix_append _ _
  · refine ⟨at'.received, ?_, Or.inl hclosing.returned⟩
    refine List.IsPrefix.trans ?_ hclosing.published
    simp only [List.append_assoc]
    exact List.prefix_append _ _
  · have hbeginning : s.returned <+: received.map .event ++ [.closed slowClient] := by
      rw [← hclosed.items, List.append_assoc]
      exact List.prefix_append _ _
    rcases List.prefix_concat_iff.1 hbeginning with hall | hsome
    · exact ⟨received, hclosed.published, Or.inr hall⟩
    · obtain ⟨events, hevents, hmap⟩ := List.prefix_map_iff.1 hsome
      exact ⟨events, hevents.trans hclosed.published, Or.inl hmap⟩

/-- The subscription is being disconnected, or has been. -/
def Disconnecting (s : Subscription α) : Prop :=
  s.publisher = .overflow ∨ s.subscribed = false ∨ s.active = false

/-- Only a publish that finds the counter at capacity starts a disconnection. -/
theorem Inv.disconnecting {s s' : Subscription α} (h : s.Inv) {label : SubscriptionLabel α}
    (hbefore : ¬ s.Disconnecting) (hstep : s.step label = some s') (hafter : s'.Disconnecting) :
    label = .schedule ∧ s.capacity + s.returned.length + 1 ≤ s.published.length := by
  simp only [Disconnecting, not_or] at hbefore
  obtain ⟨hoverflow, hsubscribed, hactive⟩ := hbefore
  rcases h.phase with ⟨at', rejected, hopen⟩ | ⟨at', hclosing⟩ | ⟨received, hclosed⟩
  · have hpublisher := hopen.publisher
    -- every other label keeps the flags, unless the publisher is already past the overflow
    cases label with
    | schedule =>
      refine ⟨rfl, ?_⟩
      rcases hopen.step_schedule hstep with ⟨hcounted, hnot⟩ | ⟨-, hbacklog⟩
      · have hsubscribed' : s'.subscribed = s.subscribed := by
          simp only [Subscription.step] at hstep
          split at hstep
          · split at hstep
            · cases hstep
              rfl
            · split at hstep <;> cases hstep <;> rfl
          · cases hstep
        rcases hafter with hover | hremoved | hinactive
        · exact absurd hover hnot
        · exact absurd (hsubscribed'.symm.trans hremoved) hsubscribed
        · rw [hcounted.active] at hinactive
          cases hinactive
      · exact hbacklog
    | deactivate =>
      simp only [Subscription.step] at hstep
      split at hstep
      · rename_i hremoved
        simp only [PublisherOk, hremoved] at hpublisher
        exact absurd hpublisher hsubscribed
      · cases hstep
    | disconnect => simp [Subscription.step] at hstep
    | publish event =>
      simp only [Subscription.step] at hstep
      split at hstep <;> cases hstep
      simp [Disconnecting, hsubscribed, hactive] at hafter
    | callSoon =>
      simp only [Subscription.step] at hstep
      split at hstep <;> cases hstep
      simp [Disconnecting, hsubscribed, hactive] at hafter
    | callSoonClosed =>
      simp only [Subscription.step] at hstep
      split at hstep <;> cases hstep
      simp [Disconnecting, hsubscribed, hactive] at hafter
    | deliver =>
      simp only [Subscription.step] at hstep
      split at hstep <;> cases hstep
      simp [Disconnecting, hsubscribed, hactive, hoverflow] at hafter
    | put =>
      simp only [Subscription.step] at hstep
      split at hstep <;> cases hstep
      simp [Disconnecting, hsubscribed, hactive, hoverflow] at hafter
    | deliverClosed =>
      simp only [Subscription.step] at hstep
      split at hstep <;> cases hstep
      simp [Disconnecting, hsubscribed, hactive, hoverflow] at hafter
    | take =>
      simp only [Subscription.step] at hstep
      split at hstep <;> cases hstep
      simp [Disconnecting, hsubscribed, hactive, hoverflow] at hafter
    | settle =>
      simp only [Subscription.step] at hstep
      split at hstep <;> cases hstep
      simp [Disconnecting, hsubscribed, hactive, hoverflow] at hafter
  · exact absurd hclosing.active hactive
  · exact absurd hclosed.active hactive

end Subscription

open Subscription

/-- Over every interleaving of publishes, loop callbacks, receives and a slow-subscriber
disconnection: what `receive` returns is a prefix of what was published, then at most one closing
item and nothing after it; no item ever meets a full queue; and a disconnected subscription was
scheduled an event while at least `capacity` earlier ones had not been received. -/
theorem subscription_delivers_in_order {α : Type*} (capacity : ℕ) (hcapacity : 1 ≤ capacity)
    (labels : List (SubscriptionLabel α)) (s : Subscription α)
    (hrun : run Subscription.step (subscribe capacity) labels = some s) :
    (∃ events, events <+: s.published ∧
      (s.returned = events.map .event ∨
        s.returned = events.map .event ++ [.closed "slow_client"])) ∧
    s.queueFull = false ∧
    (s.subscribed = false ∨ s.active = false →
      ∃ before after mid event, labels = before ++ .schedule :: after ∧
        run Subscription.step (subscribe capacity) before = some mid ∧
        mid.publisher = .scheduling event ∧
        capacity ≤ (mid.published.length - 1) - mid.returned.length) := by
  have hinv := inv_of_run hcapacity hrun
  refine ⟨hinv.returned, hinv.queueFull, ?_⟩
  intro hdisconnected
  have hstart : ¬ (subscribe capacity : Subscription α).Disconnecting := by
    simp [Disconnecting, subscribe]
  have hend : s.Disconnecting := Or.inr hdisconnected
  obtain ⟨before, label, after, mid, next, hsplit, hbefore, hmid, hstep, hnext⟩ :=
    exists_step_of_run hrun hstart hend
  have hmid_inv := inv_of_run hcapacity hbefore
  obtain ⟨rfl, hbacklog⟩ := hmid_inv.disconnecting hmid hstep hnext
  have hscheduling : ∃ event, mid.publisher = .scheduling event := by
    simp only [Subscription.step] at hstep
    split at hstep
    · rename_i event hscheduling
      exact ⟨event, hscheduling⟩
    · cases hstep
  obtain ⟨event, hscheduling⟩ := hscheduling
  have hmid_capacity : mid.capacity = capacity :=
    run_invariant_all (P := fun t => t.capacity = capacity)
      (fun _ _ _ hs hstep => ((step_frame hstep).1).trans hs) hbefore rfl
  rw [hmid_capacity] at hbacklog
  exact ⟨before, after, mid, event, hsplit, hbefore, hscheduling, by omega⟩

/-- Two events are published over a capacity of one; the client reads the first too late. -/
def slowClientLabels : List (SubscriptionLabel ℕ) :=
  [.publish 7, .schedule, .callSoon, .deliver, .publish 8, .schedule, .disconnect, .put,
    .deactivate, .take, .callSoonClosed, .settle, .deliverClosed, .take, .settle]

theorem slow_client_delivers_in_order :
    ∃ s, run Subscription.step (subscribe 1) slowClientLabels = some s ∧
      s.returned = [.event 7, .closed "slow_client"] ∧ s.queueFull = false := by
  obtain ⟨s, hs⟩ : ∃ s, run Subscription.step (subscribe 1) slowClientLabels = some s :=
    ⟨_, rfl⟩
  have hreturned : (run Subscription.step (subscribe 1) slowClientLabels).map (·.returned) =
      some [.event 7, .closed "slow_client"] := rfl
  rw [hs] at hreturned
  exact ⟨s, hs, Option.some.inj hreturned,
    (subscription_delivers_in_order 1 le_rfl slowClientLabels s hs).2.1⟩

end TunerOs
