-- SUMMARY: Freeze View over any run of the CAN explorer's reducer: what it holds and shows, and when its counter is exact.
import TunerOs.Frontend.CanState

/-!
# Freeze View

A frozen view keeps its displayed frames while the buffer under them goes on. Its
counter grows with each frame by the distance to the frame before, but a further
snapshot overwrites it with the distance to the sequence before the snapshot, and the
first frame of a client without a sequence counts as one, whatever its number.
-/

namespace TunerOs

open Containers

/-! ## The accepted frames -/

/-- What a client has accepted since its latest snapshot, and its last sequence. -/
structure RawHistory where
  latest : Option ℕ
  frames : List CanExplorerFrameResponse

namespace RawHistory

def start : RawHistory := ⟨none, []⟩

def accept (history : RawHistory) (event : CanFrameEvent) : RawHistory :=
  ⟨event.statistics.lastSequence, history.frames ++ [event.frame]⟩

/-- An event that does not move the sequence on is ignored. -/
def afterEvent (history : RawHistory) (event : CanFrameEvent) : RawHistory :=
  match history.latest with
  | none => history.accept event
  | some latest => if event.frame.sequence ≤ latest then history else history.accept event

def after (history : RawHistory) : CanExplorerAction → RawHistory
  | .initial event => ⟨event.statistics.lastSequence, event.frames⟩
  | .frames events => events.foldl afterEvent history
  | _ => history

def afterAll (history : RawHistory) (actions : List CanExplorerAction) : RawHistory :=
  actions.foldl after history

@[simp] theorem afterAll_concat (history : RawHistory) (actions : List CanExplorerAction)
    (action : CanExplorerAction) :
    history.afterAll (actions ++ [action]) = (history.afterAll actions).after action := by
  simp only [afterAll, List.foldl_append, List.foldl_cons, List.foldl_nil]

theorem afterAll_append (history : RawHistory) (actions rest : List CanExplorerAction) :
    history.afterAll (actions ++ rest) = (history.afterAll actions).afterAll rest := by
  simp only [afterAll, List.foldl_append]

/-- A condition on each action and the history it meets. -/
def Along (condition : RawHistory → CanExplorerAction → Prop) (history : RawHistory) :
    List CanExplorerAction → Prop
  | [] => True
  | action :: rest => condition history action ∧ Along condition (history.after action) rest

@[simp] theorem along_concat {condition : RawHistory → CanExplorerAction → Prop}
    {history : RawHistory} {actions : List CanExplorerAction} {action : CanExplorerAction} :
    Along condition history (actions ++ [action]) ↔
      Along condition history actions ∧ condition (history.afterAll actions) action := by
  induction actions generalizing history with
  | nil => simp [Along, afterAll]
  | cons first rest ih => simp only [List.cons_append, Along, ih, and_assoc, afterAll, List.foldl_cons]

def decideAlong (condition : RawHistory → CanExplorerAction → Prop)
    (decides : ∀ history action, Decidable (condition history action)) :
    ∀ history actions, Decidable (Along condition history actions)
  | _, [] => isTrue trivial
  | history, action :: rest =>
    haveI := decides history action
    haveI := decideAlong condition decides (history.after action) rest
    inferInstanceAs (Decidable (condition history action ∧ Along condition _ rest))

/-- Raw sequences move forward. An event carries the statistics of right after its frame, and
a snapshot reaches at least as far as the client, with its frames in order. -/
def Forward (history : RawHistory) : CanExplorerAction → Prop
  | .initial event =>
    sequenceOrBefore history.latest ≤ sequenceOrBefore event.statistics.lastSequence ∧
      event.frames.Pairwise (fun a b => a.sequence < b.sequence) ∧
      ∀ frame ∈ event.frames, (frame.sequence : ℤ) ≤ sequenceOrBefore event.statistics.lastSequence
  | .frames events =>
    ∀ event ∈ events, event.statistics.lastSequence = some event.frame.sequence
  | _ => True

instance (history : RawHistory) (action : CanExplorerAction) :
    Decidable (history.Forward action) :=
  match action with
  | .initial _ => inferInstanceAs (Decidable (_ ∧ _ ∧ _))
  | .frames events => inferInstanceAs (Decidable (∀ event ∈ events, _))
  | .connection _ _ => isTrue trivial
  | .sourceState _ _ _ => isTrue trivial
  | .toggleFreeze => isTrue trivial
  | .clientError _ => isTrue trivial

/-- The accepted frames increase, up to the last sequence. -/
structure Ordered (history : RawHistory) : Prop where
  increasing : history.frames.Pairwise (fun a b => a.sequence < b.sequence)
  reached : ∀ frame ∈ history.frames, (frame.sequence : ℤ) ≤ sequenceOrBefore history.latest

theorem ordered_start : start.Ordered :=
  ⟨List.Pairwise.nil, fun _ hmem => absurd hmem List.not_mem_nil⟩

theorem afterEvent_of_ignored {history : RawHistory} {event : CanFrameEvent}
    (h : (event.frame.sequence : ℤ) ≤ sequenceOrBefore history.latest) :
    history.afterEvent event = history := by
  unfold afterEvent
  cases hlatest : history.latest with
  | none =>
    rw [hlatest, sequenceOrBefore] at h
    omega
  | some latest =>
    rw [hlatest, sequenceOrBefore] at h
    exact if_pos (Int.ofNat_le.1 h)

theorem afterEvent_of_accepted {history : RawHistory} {event : CanFrameEvent}
    (h : sequenceOrBefore history.latest < event.frame.sequence) :
    history.afterEvent event = history.accept event := by
  unfold afterEvent
  cases hlatest : history.latest with
  | none => rfl
  | some latest =>
    rw [hlatest, sequenceOrBefore] at h
    exact if_neg (not_le.2 (Int.ofNat_lt.1 h))

theorem Ordered.afterEvent {history : RawHistory} (h : history.Ordered) {event : CanFrameEvent}
    (hlast : event.statistics.lastSequence = some event.frame.sequence) :
    (history.afterEvent event).Ordered := by
  rcases le_or_gt (event.frame.sequence : ℤ) (sequenceOrBefore history.latest) with hle | hlt
  · rw [afterEvent_of_ignored hle]
    exact h
  · rw [afterEvent_of_accepted hlt]
    refine ⟨?_, ?_⟩
    · refine List.pairwise_append.2 ⟨h.increasing, List.pairwise_singleton _ _, ?_⟩
      intro frame hmem newest hnewest
      rw [List.mem_singleton.1 hnewest]
      exact Int.ofNat_lt.1 (lt_of_le_of_lt (h.reached frame hmem) hlt)
    · intro frame hmem
      rw [accept, hlast, sequenceOrBefore]
      rcases List.mem_append.1 hmem with hold | hnew
      · exact (lt_of_le_of_lt (h.reached frame hold) hlt).le
      · rw [List.mem_singleton.1 hnew]

theorem Ordered.afterEvents {history : RawHistory} (h : history.Ordered) {events : List CanFrameEvent}
    (hlast : ∀ event ∈ events, event.statistics.lastSequence = some event.frame.sequence) :
    (events.foldl RawHistory.afterEvent history).Ordered := by
  induction events generalizing history with
  | nil => exact h
  | cons event rest ih =>
    exact ih (h.afterEvent (hlast event List.mem_cons_self))
      (fun next hmem => hlast next (List.mem_cons_of_mem _ hmem))

theorem Ordered.after {history : RawHistory} (h : history.Ordered) {action : CanExplorerAction}
    (hforward : history.Forward action) : (history.after action).Ordered := by
  cases action with
  | initial event => exact ⟨hforward.2.1, hforward.2.2⟩
  | frames events => exact h.afterEvents hforward
  | connection state error => exact h
  | sourceState state source error => exact h
  | toggleFreeze => exact h
  | clientError error => exact h

/-- Since the view froze at `frozenAt`, the counter misses nothing at this action: a snapshot
finds the sequence of the freeze, and a first sequence is zero. -/
def Counted (frozenAt : Option ℕ) (history : RawHistory) : CanExplorerAction → Prop
  | .initial _ => history.latest = frozenAt
  | .frames events =>
    history.latest = none → ∀ event ∈ events.head?, event.frame.sequence = 0
  | _ => True

instance (frozenAt : Option ℕ) (history : RawHistory) (action : CanExplorerAction) :
    Decidable (history.Counted frozenAt action) :=
  match action with
  | .initial _ => inferInstanceAs (Decidable (history.latest = frozenAt))
  | .frames events =>
    inferInstanceAs (Decidable (history.latest = none → ∀ event ∈ events.head?, _))
  | .connection _ _ => isTrue trivial
  | .sourceState _ _ _ => isTrue trivial
  | .toggleFreeze => isTrue trivial
  | .clientError _ => isTrue trivial

end RawHistory

/-! ## The client -/

/-- The client's state after some actions. -/
def canExplorerRun (actions : List CanExplorerAction) : CanExplorerClientState :=
  actions.foldl canExplorerReducer initialCanExplorerState

@[simp] theorem canExplorerRun_concat (actions : List CanExplorerAction) (action : CanExplorerAction) :
    canExplorerRun (actions ++ [action]) = canExplorerReducer (canExplorerRun actions) action := by
  simp only [canExplorerRun, List.foldl_append, List.foldl_cons, List.foldl_nil]

/-- The client holds the newest accepted frames, and shows them unless it is frozen. -/
structure CanExplorerClientState.Holds (state : CanExplorerClientState) (history : RawHistory) :
    Prop where
  latest : state.statistics.lastSequence = history.latest
  current : state.currentFrames = history.frames.rtake canClientBufferCapacity
  shown : state.frozen = false →
    state.displayedFrames = state.currentFrames ∧ state.framesPassedWhileFrozen = 0

namespace CanExplorerClientState

theorem applyFrame_of_ignored {state : CanExplorerClientState} {event : CanFrameEvent}
    (h : (event.frame.sequence : ℤ) ≤ sequenceOrBefore state.statistics.lastSequence) :
    ∃ warning, applyFrame state event = { state with streamWarning := warning } := by
  unfold applyFrame
  cases hlatest : state.statistics.lastSequence with
  | none =>
    rw [hlatest, sequenceOrBefore] at h
    omega
  | some latest =>
    rw [hlatest, sequenceOrBefore] at h
    exact ⟨_, if_pos (Int.ofNat_le.1 h)⟩

theorem applyFrame_of_accepted {state : CanExplorerClientState} {event : CanFrameEvent}
    (h : sequenceOrBefore state.statistics.lastSequence < event.frame.sequence) :
    applyFrame state event = acceptFrame state event := by
  unfold applyFrame
  cases hlatest : state.statistics.lastSequence with
  | none => rfl
  | some latest =>
    rw [hlatest, sequenceOrBefore] at h
    exact if_neg (not_le.2 (Int.ofNat_lt.1 h))

theorem holds_initial : initialCanExplorerState.Holds .start := ⟨rfl, rfl, fun _ => ⟨rfl, rfl⟩⟩

theorem Holds.applyFrame {state : CanExplorerClientState} {history : RawHistory}
    (h : state.Holds history) (event : CanFrameEvent) :
    (applyFrame state event).Holds (history.afterEvent event) := by
  rcases le_or_gt (event.frame.sequence : ℤ) (sequenceOrBefore history.latest) with hle | hlt
  · rw [RawHistory.afterEvent_of_ignored hle]
    rw [← h.latest] at hle
    obtain ⟨warning, hignored⟩ := applyFrame_of_ignored hle
    rw [hignored]
    exact ⟨h.latest, h.current, h.shown⟩
  · rw [RawHistory.afterEvent_of_accepted hlt]
    rw [← h.latest] at hlt
    rw [applyFrame_of_accepted hlt]
    refine ⟨rfl, ?_, ?_⟩
    · simp only [acceptFrame, appendBounded, h.current, rtake_rtake_append, RawHistory.accept]
    · intro hfrozen
      change state.frozen = false at hfrozen
      simp [acceptFrame, hfrozen]

theorem Holds.reduce {state : CanExplorerClientState} {history : RawHistory}
    (h : state.Holds history) (action : CanExplorerAction) :
    (canExplorerReducer state action).Holds (history.after action) := by
  cases action with
  | initial event =>
    refine ⟨rfl, ?_, ?_⟩
    · simp only [canExplorerReducer, RawHistory.after]
    · intro hfrozen
      change state.frozen = false at hfrozen
      simp [canExplorerReducer, hfrozen]
  | frames events =>
    change (events.foldl TunerOs.applyFrame state).Holds (events.foldl RawHistory.afterEvent history)
    induction events generalizing state history with
    | nil => exact h
    | cons event rest ih => exact ih (h.applyFrame event)
  | toggleFreeze =>
    unfold canExplorerReducer
    by_cases hfrozen : state.frozen = true
    · rw [if_pos hfrozen]
      exact ⟨h.latest, h.current, fun _ => ⟨rfl, rfl⟩⟩
    · rw [if_neg hfrozen]
      exact ⟨h.latest, h.current, fun hthawed => absurd hthawed Bool.noConfusion⟩
  | connection connectionState error => exact ⟨h.latest, h.current, h.shown⟩
  | sourceState serviceState source error => exact ⟨h.latest, h.current, h.shown⟩
  | clientError error => exact ⟨h.latest, h.current, h.shown⟩

/-! ## While frozen -/

/-- The state since the view froze at `frozenAt`. The counter is the distance moved, or, once it
has missed something, less. -/
structure FrozenSince (frozenAt state : CanExplorerClientState) (counted : Prop) : Prop where
  frozen : state.frozen = true
  displayed : state.displayedFrames = frozenAt.displayedFrames
  moved : sequenceOrBefore frozenAt.statistics.lastSequence ≤
    sequenceOrBefore state.statistics.lastSequence
  exact : counted → state.framesPassedWhileFrozen =
    sequenceOrBefore state.statistics.lastSequence -
      sequenceOrBefore frozenAt.statistics.lastSequence
  missed : ¬ counted →
    sequenceOrBefore frozenAt.statistics.lastSequence <
      sequenceOrBefore state.statistics.lastSequence ∧
    state.framesPassedWhileFrozen < sequenceOrBefore state.statistics.lastSequence -
      sequenceOrBefore frozenAt.statistics.lastSequence

theorem sequenceOrBefore_injective : Function.Injective sequenceOrBefore := by
  intro a b h
  cases a <;> cases b <;> simp only [sequenceOrBefore] at h
  · rfl
  · omega
  · omega
  · rw [Int.ofNat_inj.1 h]

variable {frozenAt state : CanExplorerClientState} {counted : Prop}

theorem FrozenSince.counter_iff (h : FrozenSince frozenAt state counted) :
    state.framesPassedWhileFrozen =
      sequenceOrBefore state.statistics.lastSequence -
        sequenceOrBefore frozenAt.statistics.lastSequence ↔ counted :=
  ⟨fun heq => by_contra fun hnot => absurd heq (ne_of_lt (h.missed hnot).2), h.exact⟩

theorem FrozenSince.freeze (hthawed : frozenAt.frozen = false)
    (hcounter : frozenAt.framesPassedWhileFrozen = 0) :
    FrozenSince frozenAt (canExplorerReducer frozenAt .toggleFreeze) True := by
  have hfroze : canExplorerReducer frozenAt .toggleFreeze = { frozenAt with frozen := true } := by
    simp [canExplorerReducer, hthawed]
  rw [hfroze]
  refine ⟨rfl, rfl, le_rfl, fun _ => ?_, fun hnot => absurd trivial hnot⟩
  rw [sub_self]
  exact hcounter

/-- After a first sequence, each frame adds what it moves on. -/
theorem FrozenSince.applyFrame (h : FrozenSince frozenAt state counted) {event : CanFrameEvent}
    (hlast : event.statistics.lastSequence = some event.frame.sequence)
    (hknown : state.statistics.lastSequence ≠ none) :
    FrozenSince frozenAt (applyFrame state event) counted ∧
      (TunerOs.applyFrame state event).statistics.lastSequence ≠ none := by
  rcases le_or_gt (event.frame.sequence : ℤ)
    (sequenceOrBefore state.statistics.lastSequence) with hle | hlt
  · obtain ⟨warning, hignored⟩ := applyFrame_of_ignored hle
    rw [hignored]
    exact ⟨⟨h.frozen, h.displayed, h.moved, h.exact, h.missed⟩, hknown⟩
  · rw [applyFrame_of_accepted hlt]
    obtain ⟨latest, hlatest⟩ := Option.ne_none_iff_exists'.1 hknown
    have hcurrent : sequenceOrBefore state.statistics.lastSequence = latest := by
      rw [hlatest, sequenceOrBefore]
    have hcounter : (acceptFrame state event).framesPassedWhileFrozen =
        state.framesPassedWhileFrozen + ((event.frame.sequence : ℤ) - latest) := by
      simp only [acceptFrame, h.frozen, rawAdvance, hlatest, if_true]
    have hreached : sequenceOrBefore (acceptFrame state event).statistics.lastSequence =
        event.frame.sequence := by
      change sequenceOrBefore event.statistics.lastSequence = _
      rw [hlast, sequenceOrBefore]
    refine ⟨⟨h.frozen, ?_, ?_, ?_, ?_⟩, ?_⟩
    · simp only [acceptFrame, h.frozen, if_true, h.displayed]
    · rw [hreached]
      exact h.moved.trans hlt.le
    · intro hcounted
      rw [hcounter, hreached, h.exact hcounted, hcurrent]
      omega
    · intro hnot
      obtain ⟨hpast, hless⟩ := h.missed hnot
      rw [hcounter, hreached]
      rw [hcurrent] at hless
      exact ⟨hpast.trans hlt, by omega⟩
    · change event.statistics.lastSequence ≠ none
      rw [hlast]
      exact Option.some_ne_none _

theorem FrozenSince.applyFrames (h : FrozenSince frozenAt state counted)
    {events : List CanFrameEvent}
    (hlast : ∀ event ∈ events, event.statistics.lastSequence = some event.frame.sequence)
    (hknown : state.statistics.lastSequence ≠ none) :
    FrozenSince frozenAt (events.foldl TunerOs.applyFrame state) counted := by
  induction events generalizing state with
  | nil => exact h
  | cons event rest ih =>
    obtain ⟨hnext, hstill⟩ := h.applyFrame (hlast event List.mem_cons_self) hknown
    exact ih hnext (fun next hmem => hlast next (List.mem_cons_of_mem _ hmem)) hstill

/-- A client without a sequence has missed nothing yet. -/
theorem FrozenSince.unstarted (h : FrozenSince frozenAt state counted)
    (hlatest : state.statistics.lastSequence = none) :
    counted ∧ frozenAt.statistics.lastSequence = none ∧ state.framesPassedWhileFrozen = 0 := by
  have hmoved := h.moved
  rw [hlatest, sequenceOrBefore] at hmoved
  have hnone : frozenAt.statistics.lastSequence = none := by
    cases hfrozen : frozenAt.statistics.lastSequence with
    | none => rfl
    | some sequence =>
      rw [hfrozen, sequenceOrBefore] at hmoved
      omega
  have hcounted : counted := by
    by_contra hnot
    have hpast := (h.missed hnot).1
    rw [hnone, hlatest] at hpast
    exact lt_irrefl _ hpast
  refine ⟨hcounted, hnone, ?_⟩
  rw [h.exact hcounted, hlatest, hnone, sub_self]

/-- The first frame of a client without a sequence counts as one. -/
theorem FrozenSince.applyFirst (h : FrozenSince frozenAt state counted) {event : CanFrameEvent}
    (hlast : event.statistics.lastSequence = some event.frame.sequence)
    (hlatest : state.statistics.lastSequence = none) :
    FrozenSince frozenAt (TunerOs.applyFrame state event)
      (counted ∧ event.frame.sequence = 0) := by
  obtain ⟨hcounted, hnone, hzero⟩ := h.unstarted hlatest
  have haccepted : TunerOs.applyFrame state event = acceptFrame state event := by
    unfold TunerOs.applyFrame
    rw [hlatest]
  have hcounter : (acceptFrame state event).framesPassedWhileFrozen = 1 := by
    simp only [acceptFrame, h.frozen, rawAdvance, hlatest, if_true, hzero, zero_add]
  have hreached : sequenceOrBefore (acceptFrame state event).statistics.lastSequence =
      event.frame.sequence := by
    change sequenceOrBefore event.statistics.lastSequence = _
    rw [hlast, sequenceOrBefore]
  rw [haccepted]
  refine ⟨h.frozen, ?_, ?_, ?_, ?_⟩
  · simp only [acceptFrame, h.frozen, if_true, h.displayed]
  · rw [hreached, hnone, sequenceOrBefore]
    omega
  · rintro ⟨-, hfirst⟩
    rw [hcounter, hreached, hnone, hfirst]
    rfl
  · intro hnot
    have hpositive : event.frame.sequence ≠ 0 := fun hfirst => hnot ⟨hcounted, hfirst⟩
    rw [hcounter, hreached, hnone, sequenceOrBefore]
    omega

/-- A snapshot sets the counter to the distance to the sequence before it. -/
theorem FrozenSince.snapshot (h : FrozenSince frozenAt state counted)
    {event : InitialCanSnapshotEvent}
    (hforward : sequenceOrBefore state.statistics.lastSequence ≤
      sequenceOrBefore event.statistics.lastSequence) :
    FrozenSince frozenAt (canExplorerReducer state (.initial event))
      (counted ∧ state.statistics.lastSequence = frozenAt.statistics.lastSequence) := by
  have hcounter : (canExplorerReducer state (.initial event)).framesPassedWhileFrozen =
      sequenceOrBefore event.statistics.lastSequence -
        sequenceOrBefore state.statistics.lastSequence := by
    simp only [canExplorerReducer, h.frozen, if_true]
    exact max_eq_right (sub_nonneg.2 hforward)
  have hreached : (canExplorerReducer state (.initial event)).statistics = event.statistics := rfl
  have hmoved := h.moved
  refine ⟨h.frozen, ?_, ?_, ?_, ?_⟩
  · simp only [canExplorerReducer, h.frozen, if_true, h.displayed]
  · rw [hreached]
    exact hmoved.trans hforward
  · rintro ⟨-, hsame⟩
    rw [hcounter, hreached, hsame]
  · intro hnot
    have hpast : sequenceOrBefore frozenAt.statistics.lastSequence <
        sequenceOrBefore state.statistics.lastSequence := by
      by_cases hcounted : counted
      · refine lt_of_le_of_ne hmoved (fun heq => hnot ⟨hcounted, ?_⟩)
        exact (sequenceOrBefore_injective heq).symm
      · exact (h.missed hcounted).1
    rw [hcounter, hreached]
    omega

/-- The rule of a frozen view, one case for each action that leaves it frozen. -/
theorem FrozenSince.reduce (h : FrozenSince frozenAt state counted) {history : RawHistory}
    (hlatest : state.statistics.lastSequence = history.latest) {action : CanExplorerAction}
    (hforward : history.Forward action) (hstays : action ≠ .toggleFreeze) :
    FrozenSince frozenAt (canExplorerReducer state action)
      (counted ∧ history.Counted frozenAt.statistics.lastSequence action) := by
  cases action with
  | initial event =>
    change FrozenSince _ _ (counted ∧ history.latest = _)
    rw [← hlatest]
    refine h.snapshot ?_
    rw [hlatest]
    exact hforward.1
  | frames events =>
    change FrozenSince frozenAt (events.foldl TunerOs.applyFrame state)
      (counted ∧ (history.latest = none → ∀ event ∈ events.head?, event.frame.sequence = 0))
    rw [← hlatest]
    by_cases hknown : state.statistics.lastSequence = none
    · cases events with
      | nil => simpa [hknown] using h
      | cons event rest =>
        have hlast := hforward event List.mem_cons_self
        have hstarted : (TunerOs.applyFrame state event).statistics.lastSequence ≠ none := by
          unfold TunerOs.applyFrame
          rw [hknown]
          change event.statistics.lastSequence ≠ none
          rw [hlast]
          exact Option.some_ne_none _
        have hrest := (h.applyFirst hlast hknown).applyFrames
          (fun next hmem => hforward next (List.mem_cons_of_mem _ hmem)) hstarted
        simpa [hknown] using hrest
    · have hrest := h.applyFrames hforward hknown
      simpa [hknown] using hrest
  | toggleFreeze => exact absurd rfl hstays
  | connection connectionState error =>
    exact ⟨h.frozen, h.displayed, h.moved, fun hboth => h.exact hboth.1,
      fun hnot => h.missed fun hcounted => hnot ⟨hcounted, trivial⟩⟩
  | sourceState serviceState source error =>
    exact ⟨h.frozen, h.displayed, h.moved, fun hboth => h.exact hboth.1,
      fun hnot => h.missed fun hcounted => hnot ⟨hcounted, trivial⟩⟩
  | clientError error =>
    exact ⟨h.frozen, h.displayed, h.moved, fun hboth => h.exact hboth.1,
      fun hnot => h.missed fun hcounted => hnot ⟨hcounted, trivial⟩⟩

end CanExplorerClientState

/-! ## Runs -/

/-- A run of the reducer in which raw sequences move forward. -/
def ForwardRun (actions : List CanExplorerAction) : Prop :=
  RawHistory.Along RawHistory.Forward .start actions

instance (actions : List CanExplorerAction) : Decidable (ForwardRun actions) :=
  RawHistory.decideAlong _ (fun _ _ => inferInstance) _ _

theorem forwardRun_concat {actions : List CanExplorerAction} {action : CanExplorerAction}
    (h : ForwardRun (actions ++ [action])) :
    ForwardRun actions ∧ (RawHistory.start.afterAll actions).Forward action :=
  RawHistory.along_concat.1 h

/-- A client that freezes after `before` counts every frame that `rest` brings. -/
def CountedRun (before rest : List CanExplorerAction) : Prop :=
  RawHistory.Along (RawHistory.Counted (RawHistory.start.afterAll before).latest)
    (RawHistory.start.afterAll before) rest

instance (before rest : List CanExplorerAction) : Decidable (CountedRun before rest) :=
  RawHistory.decideAlong _ (fun _ _ => inferInstance) _ _

theorem holds_run (actions : List CanExplorerAction) :
    (canExplorerRun actions).Holds (RawHistory.start.afterAll actions) := by
  induction actions using List.reverseRecOn with
  | nil => exact CanExplorerClientState.holds_initial
  | append_singleton actions action ih =>
    rw [canExplorerRun_concat, RawHistory.afterAll_concat]
    exact ih.reduce action

theorem ordered_run {actions : List CanExplorerAction} (h : ForwardRun actions) :
    (RawHistory.start.afterAll actions).Ordered := by
  induction actions using List.reverseRecOn with
  | nil => exact RawHistory.ordered_start
  | append_singleton actions action ih =>
    obtain ⟨hactions, haction⟩ := forwardRun_concat h
    rw [RawHistory.afterAll_concat]
    exact (ih hactions).after haction

/-- The freeze a frozen view goes back to. -/
structure FrozeAfter (before rest actions : List CanExplorerAction) : Prop where
  split : actions = before ++ .toggleFreeze :: rest
  thawed : (canExplorerRun before).frozen = false
  stays : ∀ action ∈ rest, action ≠ .toggleFreeze

theorem foldl_applyFrame_frozen (events : List CanFrameEvent) (state : CanExplorerClientState) :
    (events.foldl applyFrame state).frozen = state.frozen := by
  induction events generalizing state with
  | nil => rfl
  | cons event rest ih =>
    rw [List.foldl_cons, ih]
    unfold applyFrame
    cases state.statistics.lastSequence with
    | none => rfl
    | some latest => by_cases hle : event.frame.sequence ≤ latest <;> simp [hle, acceptFrame]

theorem reduce_frozen {action : CanExplorerAction} (h : action ≠ .toggleFreeze)
    (state : CanExplorerClientState) : (canExplorerReducer state action).frozen = state.frozen := by
  cases action with
  | toggleFreeze => exact absurd rfl h
  | frames events => exact foldl_applyFrame_frozen events state
  | initial event => rfl
  | connection connectionState error => rfl
  | sourceState serviceState source error => rfl
  | clientError error => rfl

/-- Every frozen view has a freeze. -/
theorem exists_freeze {actions : List CanExplorerAction}
    (hfrozen : (canExplorerRun actions).frozen = true) :
    ∃ before rest, FrozeAfter before rest actions := by
  induction actions using List.reverseRecOn with
  | nil => exact absurd hfrozen Bool.noConfusion
  | append_singleton actions action ih =>
    rw [canExplorerRun_concat] at hfrozen
    by_cases hstays : action = .toggleFreeze
    · obtain rfl := hstays
      refine ⟨actions, [], rfl, ?_, fun _ hmem => absurd hmem List.not_mem_nil⟩
      refine Bool.eq_false_iff.2 fun hthawed => ?_
      simp [canExplorerReducer, hthawed] at hfrozen
    · rw [reduce_frozen hstays] at hfrozen
      obtain ⟨before, rest, hfroze⟩ := ih hfrozen
      refine ⟨before, rest ++ [action], ?_, hfroze.thawed, ?_⟩
      · rw [hfroze.split, List.append_assoc, List.cons_append]
      · intro next hmem
        rcases List.mem_append.1 hmem with hrest | hlast
        · exact hfroze.stays next hrest
        · rw [List.mem_singleton.1 hlast]
          exact hstays

/-- A view stands still since its freeze. -/
theorem FrozeAfter.frozenSince {before rest actions : List CanExplorerAction}
    (h : FrozeAfter before rest actions) (hforward : ForwardRun actions) :
    CanExplorerClientState.FrozenSince (canExplorerRun before) (canExplorerRun actions)
      (CountedRun before rest) := by
  obtain ⟨rfl, hthawed, hstays⟩ := h
  induction rest using List.reverseRecOn with
  | nil =>
    rw [canExplorerRun_concat]
    exact CanExplorerClientState.FrozenSince.freeze hthawed ((holds_run before).shown hthawed).2
  | append_singleton rest action ih =>
    have hconcat : before ++ .toggleFreeze :: (rest ++ [action]) =
        (before ++ .toggleFreeze :: rest) ++ [action] := by
      rw [List.append_assoc, List.cons_append]
    rw [hconcat] at hforward ⊢
    obtain ⟨hactions, haction⟩ := forwardRun_concat hforward
    have hlatest := (holds_run (before ++ .toggleFreeze :: rest)).latest
    have hreached : RawHistory.start.afterAll (before ++ .toggleFreeze :: rest) =
        (RawHistory.start.afterAll before).afterAll rest :=
      RawHistory.afterAll_append _ _ _
    rw [hreached] at hlatest haction
    have hnext := (ih (fun next hmem => hstays next (List.mem_append_left _ hmem)) hactions).reduce
      hlatest haction (hstays action (List.mem_append_right _ List.mem_cons_self))
    rw [(holds_run before).latest] at hnext
    rw [canExplorerRun_concat, CountedRun, RawHistory.along_concat]
    exact hnext

/-- In every run in which raw sequences move forward: the buffer is the newest 1,000 frames
accepted since the latest snapshot, which increase; a view that is not frozen shows it, with the
counter at zero, and so does one that unfreezes; and a frozen view shows what it froze, with its
counter at the distance moved exactly if every snapshot since the freeze found the sequence of
the freeze and a first sequence was zero. -/
theorem freeze_view_counts_iff (actions : List CanExplorerAction) (hforward : ForwardRun actions) :
    let state := canExplorerRun actions
    let history := RawHistory.start.afterAll actions
    let resumed := canExplorerReducer state .toggleFreeze
    (state.currentFrames = history.frames.rtake 1000 ∧
      history.frames.Pairwise (fun a b => a.sequence < b.sequence)) ∧
    (state.frozen = false →
      state.displayedFrames = state.currentFrames ∧ state.framesPassedWhileFrozen = 0) ∧
    (state.frozen = true →
      resumed.frozen = false ∧ resumed.displayedFrames = state.currentFrames ∧
        resumed.currentFrames = state.currentFrames ∧ resumed.framesPassedWhileFrozen = 0) ∧
    (state.frozen = true → ∃ before rest, FrozeAfter before rest actions) ∧
    ∀ before rest, FrozeAfter before rest actions →
      state.displayedFrames = (canExplorerRun before).displayedFrames ∧
      (state.framesPassedWhileFrozen = sequenceOrBefore state.statistics.lastSequence -
          sequenceOrBefore (canExplorerRun before).statistics.lastSequence ↔
        CountedRun before rest) := by
  intro state history resumed
  have hholds : state.Holds history := holds_run actions
  refine ⟨⟨hholds.current, (ordered_run hforward).increasing⟩, hholds.shown, ?_,
    exists_freeze, ?_⟩
  · intro hfrozen
    have hresumed : resumed = { state with
        frozen := false
        displayedFrames := state.currentFrames
        framesPassedWhileFrozen := 0 } := by
      simp only [resumed, canExplorerReducer, hfrozen, if_true]
    rw [hresumed]
    exact ⟨rfl, rfl, rfl, rfl⟩
  · intro before rest hfroze
    have hsince := hfroze.frozenSince hforward
    exact ⟨hsince.displayed, hsince.counter_iff⟩

def inspectedFrame (sequence : ℕ) : CanExplorerFrameResponse :=
  ⟨sequence, 10000 * sequence, 256, "0x100", 0, [], "", none, none, none, .unknown, none, []⟩

def inspectedStatistics (lastSequence : Option ℕ) : CanExplorerStatisticsResponse :=
  ⟨0, 0, 0, none, none, lastSequence, emptySource⟩

def inspectedEvent (sequence : ℕ) : CanFrameEvent :=
  ⟨inspectedFrame sequence, inspectedStatistics (some sequence),
    ⟨256, "0x100", none, none, 1, 1, 0, 0, none, none, none, 0⟩⟩

/-- A frozen view counts three frames that arrive one by one. -/
theorem frozen_view_counts_frames :
    let before := [.frames [inspectedEvent 0]]
    let state := canExplorerRun (before ++ .toggleFreeze ::
      [.frames [inspectedEvent 1, inspectedEvent 2], .frames [inspectedEvent 3]])
    state.framesPassedWhileFrozen = sequenceOrBefore state.statistics.lastSequence -
      sequenceOrBefore (canExplorerRun before).statistics.lastSequence := by
  intro before state
  have hview := freeze_view_counts_iff (before ++ .toggleFreeze ::
    [.frames [inspectedEvent 1, inspectedEvent 2], .frames [inspectedEvent 3]]) (by decide)
  refine (hview.2.2.2.2 before _ ⟨rfl, rfl, ?_⟩).2.2 (by decide)
  intro action hmem
  rcases List.mem_pair.1 hmem with rfl | rfl <;> intro heq <;> cases heq

/-- A snapshot of sequence 3 after a frame passed: the counter is at 2, the distance is 3. -/
theorem frozen_view_forgets_at_snapshot :
    let before := [.frames [inspectedEvent 0]]
    let rest := [.frames [inspectedEvent 1], .initial
      ⟨[inspectedFrame 0, inspectedFrame 1, inspectedFrame 2, inspectedFrame 3],
        inspectedStatistics (some 3), [], .running⟩]
    let state := canExplorerRun (before ++ .toggleFreeze :: rest)
    ForwardRun (before ++ .toggleFreeze :: rest) ∧
      FrozeAfter before rest (before ++ .toggleFreeze :: rest) ∧
      state.framesPassedWhileFrozen = 2 ∧
      sequenceOrBefore state.statistics.lastSequence -
        sequenceOrBefore (canExplorerRun before).statistics.lastSequence = 3 := by
  refine ⟨by decide, ⟨rfl, rfl, ?_⟩, by decide, by decide⟩
  intro action hmem
  rcases List.mem_pair.1 hmem with rfl | rfl <;> intro heq <;> cases heq

end TunerOs
