-- SUMMARY: A reset network simulation starts over, and the main loop of the gateway program sends what a network simulation holds.
import TunerOs.Canbus.GatewayProtocol
import TunerOs.Ecu.NetworkSimulation

/-!
# Starting over, and the gateway program

Clients tick a network simulation, read its transport and reset it. The gateway program
does not use the network simulation: its `main` constructs a vehicle simulation and a
publisher and repeats the loop over them on a connection.
-/

namespace TunerOs

/-! ## Calls on a network simulation -/

/-- A call on a network simulation or on the transport it hands out. -/
inductive NetworkCall where
  | tick
  | reset
  | send (frame : CanFrame)
  | receive
  | drain
  | clear

namespace VehicleNetworkSimulation

/-- The simulation after a call; a frame that the transport rejects leaves it as it was. -/
def call (exp : ℚ → ℚ) (simulation : VehicleNetworkSimulation) :
    NetworkCall → Except CppException VehicleNetworkSimulation
  | .tick => do
    let (_, next) ← simulation.tick exp
    return next
  | .reset => simulation.reset
  | .send frame =>
    match simulation.transport.send frame with
    | .ok transport => .ok { simulation with transport }
    | .error _ => .ok simulation
  | .receive => .ok { simulation with transport := simulation.transport.receive.2 }
  | .drain => .ok { simulation with transport := simulation.transport.drain.2 }
  | .clear => .ok { simulation with transport := simulation.transport.clear }

/-- Make calls one after the other. -/
def callAll (exp : ℚ → ℚ) (simulation : VehicleNetworkSimulation) :
    List NetworkCall → Except CppException VehicleNetworkSimulation
  | [] => .ok simulation
  | call :: rest => do
    let next ← simulation.call exp call
    next.callAll exp rest

/-! ## What a reset restores -/

/-- The simulation at its start, before its first state is published. -/
def rewound (simulation : VehicleNetworkSimulation) : VehicleNetworkSimulation where
  vehicleSimulation := simulation.vehicleSimulation.reset
  publisher := simulation.publisher.reset

theorem reset_eq (simulation : VehicleNetworkSimulation) :
    simulation.reset = .ok simulation.rewound.published :=
  publishCurrentState_eq _

@[simp] theorem rewound_published (simulation : VehicleNetworkSimulation) :
    simulation.published.rewound = simulation.rewound := rfl

@[simp] theorem rewound_rewound (simulation : VehicleNetworkSimulation) :
    simulation.rewound.rewound = simulation.rewound := rfl

/-- What calls keep: the simulation can go on, and a reset leads back to `start`. -/
structure ResetsTo (simulation start : VehicleNetworkSimulation) : Prop where
  consistent : simulation.vehicleSimulation.Consistent
  rewound : simulation.rewound = start

section Calls

variable {simulation start : VehicleNetworkSimulation} (exp : ℚ → ℚ)

theorem ResetsTo.tick (h : simulation.ResetsTo start) :
    ∃ executed next, simulation.tick exp = .ok (executed, next) ∧ next.ResetsTo start := by
  by_cases hrunning : simulation.vehicleSimulation.state.runState = .running
  · obtain ⟨inputs, hinputs, htick⟩ := tick_of_running exp h.consistent hrunning
    refine ⟨_, _, htick, ?_, h.rewound⟩
    exact (VehicleSimulation.consistent_advanced exp h.consistent hrunning inputs).1
  · exact ⟨_, _, tick_of_inactive h.consistent hrunning, h⟩

/-- A call returns and keeps what a reset restores. -/
theorem ResetsTo.call (h : simulation.ResetsTo start) (call : NetworkCall) :
    ∃ next, simulation.call exp call = .ok next ∧ next.ResetsTo start := by
  cases call with
  | tick =>
    obtain ⟨executed, next, htick, hnext⟩ := h.tick exp
    refine ⟨next, ?_, hnext⟩
    rw [VehicleNetworkSimulation.call, htick]
    rfl
  | reset =>
    refine ⟨_, reset_eq simulation, ?_, h.rewound⟩
    exact VehicleSimulation.consistent_reset h.consistent
  | send frame =>
    cases hsend : simulation.transport.send frame with
    | ok transport =>
      refine ⟨{ simulation with transport }, ?_, h.consistent, h.rewound⟩
      rw [VehicleNetworkSimulation.call, hsend]
    | error error =>
      refine ⟨simulation, ?_, h⟩
      rw [VehicleNetworkSimulation.call, hsend]
  | receive => exact ⟨_, rfl, h.consistent, h.rewound⟩
  | drain => exact ⟨_, rfl, h.consistent, h.rewound⟩
  | clear => exact ⟨_, rfl, h.consistent, h.rewound⟩

theorem ResetsTo.callAll (h : simulation.ResetsTo start) (calls : List NetworkCall) :
    ∃ reached, simulation.callAll exp calls = .ok reached ∧ reached.ResetsTo start := by
  induction calls generalizing simulation with
  | nil => exact ⟨simulation, rfl, h⟩
  | cons call rest ih =>
    obtain ⟨next, hnext, hkept⟩ := h.call exp call
    obtain ⟨reached, hreached, hkept⟩ := ih hkept
    refine ⟨reached, ?_, hkept⟩
    rw [VehicleNetworkSimulation.callAll, hnext]
    exact hreached

end Calls

/-- A simulation as constructed is what it is reset to. -/
theorem resetsTo_of_create {configuration : SimulationRunConfiguration}
    {dmeSchedule : DmePublicationSchedule} {dscSchedule : DscPublicationSchedule}
    {simulation : VehicleNetworkSimulation}
    (h : create configuration dmeSchedule dscSchedule = .ok simulation) :
    simulation.ResetsTo simulation.rewound ∧ simulation.rewound.published = simulation := by
  obtain ⟨vehicleSimulation, hvehicle, rfl⟩ := create_spec h
  obtain ⟨hconsistent, -, hstate, hclock, -⟩ := VehicleSimulation.create_spec hvehicle
  refine ⟨⟨hconsistent, rfl⟩, ?_⟩
  have hreset : vehicleSimulation.reset = vehicleSimulation := by
    obtain ⟨_, clock, initialState, state⟩ := vehicleSimulation
    cases hstate
    cases hclock
    rfl
  rw [rewound_published]
  unfold rewound
  rw [hreset]
  rfl

end VehicleNetworkSimulation

/-! ## The gateway program -/

/-- `TcpCanTransport`: the bytes sent on its connection. -/
structure TcpCanTransport where
  sent : Bytes

namespace TcpCanTransport

/-- `accept_client`: a connection begins with the header. -/
def acceptClient : TcpCanTransport := ⟨makeGatewayHeader⟩

def send (transport : TcpCanTransport) (frame : CanFrame) : Except CppException TcpCanTransport := do
  let gatewayRecord ← serializeGatewayRecord frame
  return ⟨transport.sent ++ gatewayRecord⟩

end TcpCanTransport

namespace VehicleNetworkPublisher

/-- `observe_and_publish` on any `CanTransport`. -/
def observeAndPublishOver {Transport : Type}
    (send : Transport → CanFrame → Except CppException Transport)
    (publisher : VehicleNetworkPublisher) (state : VehicleState) (transport : Transport) :
    Except CppException (VehicleNetworkPublisher × Transport) := do
  let observation := observeSensors state publisher.faults
  let (dmeFrames, dme) := publisher.dme.collectDueFrames observation.dmeState
  let (dscFrames, dsc) :=
    publisher.dsc.collectDueFrames state observation.wheelSpeedsMetersPerSecond
  let frames := (dmeFrames ++ dscFrames).insertionSort
    (fun left right => left.arbitrationId ≤ right.arbitrationId)
  let transport ← frames.foldlM send transport
  return ({ publisher with dme, dsc }, transport)

theorem observeAndPublish_eq_over (publisher : VehicleNetworkPublisher) (state : VehicleState)
    (transport : InMemoryTransport) :
    publisher.observeAndPublish state transport =
      publisher.observeAndPublishOver InMemoryTransport.send state transport := rfl

/-- On any transport the collected frames are sent in their order. -/
theorem observeAndPublishOver_eq {Transport : Type}
    (send : Transport → CanFrame → Except CppException Transport)
    (publisher : VehicleNetworkPublisher) (state : VehicleState) (transport : Transport) :
    publisher.observeAndPublishOver send state transport = (do
      let transport ← (publisher.collectedFrames state).foldlM send transport
      return (publisher.afterObservation state, transport)) := by
  simp only [observeAndPublishOver]
  change (((publisher.collectedFrames state).insertionSort _).foldlM send transport >>= _) = _
  rw [insertionSort_collectedFrames]
  rfl

end VehicleNetworkPublisher

/-- The variables of `main`. -/
structure GatewayMain where
  simulation : VehicleSimulation
  network : VehicleNetworkPublisher
  transport : TcpCanTransport

namespace GatewayMain

/-- `network.observe_and_publish(simulation.state(), transport)`. -/
def observeAndPublish (gateway : GatewayMain) : Except CppException GatewayMain := do
  let (network, transport) ← gateway.network.observeAndPublishOver TcpCanTransport.send
    gateway.simulation.state gateway.transport
  return { gateway with network, transport }

/-- `main` up to its loop. -/
def start (configuration : SimulationRunConfiguration) : Except CppException GatewayMain := do
  let simulation ← VehicleSimulation.create configuration
  let dmeSchedule : DmePublicationSchedule :=
    { combustionObservationEnabled := configuration.scenario = .wideOpenThrottlePull }
  let network ← VehicleNetworkPublisher.create dmeSchedule {} configuration.faults
  observeAndPublish { simulation, network, transport := .acceptClient }

/-- The first rounds of the loop of `main`, which ends when a tick is not executed. -/
def rounds (exp : ℚ → ℚ) (gateway : GatewayMain) : ℕ → Except CppException GatewayMain
  | 0 => .ok gateway
  | count + 1 => do
    let (executed, simulation) ← gateway.simulation.tick exp
    if executed then
      let next ← observeAndPublish { gateway with simulation }
      next.rounds exp count
    else return { gateway with simulation }

/-- The program agrees with a network simulation, and has sent what that one holds. -/
structure Mirrors (gateway : GatewayMain) (held : VehicleNetworkSimulation) : Prop where
  simulation : gateway.simulation = held.vehicleSimulation
  network : gateway.network = held.publisher
  sent : ∃ records, held.transport.frames.mapM serializeGatewayRecord = .ok records ∧
    gateway.transport.sent = makeGatewayHeader ++ records.flatten

/-- Sending valid frames writes their records one after the other. -/
theorem sends_records (frames : List CanFrame) (h : ∀ frame ∈ frames, frame.isValid) :
    ∃ records, frames.mapM serializeGatewayRecord = .ok records ∧
      ∀ transport : TcpCanTransport, frames.foldlM TcpCanTransport.send transport =
        .ok ⟨transport.sent ++ records.flatten⟩ := by
  induction frames with
  | nil =>
    refine ⟨[], rfl, fun transport => ?_⟩
    rw [List.flatten_nil, List.append_nil]
    rfl
  | cons frame rest ih =>
    obtain ⟨records, hrecords, hrest⟩ := ih fun other hmem => h other (List.mem_cons_of_mem _ hmem)
    obtain ⟨first, hframe⟩ : ∃ first, serializeGatewayRecord frame = .ok first :=
      ⟨_, serializeGatewayRecord_ok (h frame List.mem_cons_self)⟩
    refine ⟨first :: records, ?_, fun transport => ?_⟩
    · rw [List.mapM_cons, hframe, hrecords]
      rfl
    · rw [List.foldlM_cons, TcpCanTransport.send, hframe]
      refine (hrest _).trans ?_
      rw [List.flatten_cons, List.append_assoc]

section Rounds

variable {gateway : GatewayMain} {held : VehicleNetworkSimulation}

/-- Both publish an observation of the same state. -/
theorem Mirrors.published (h : gateway.Mirrors held) :
    ∃ next, gateway.observeAndPublish = .ok next ∧ next.Mirrors held.published := by
  obtain ⟨records, hrecords, hsent⟩ := h.sent
  obtain ⟨added, hadded, hfold⟩ := sends_records
    (held.publisher.collectedFrames held.vehicleSimulation.state)
    fun _ => VehicleNetworkPublisher.isValid_of_mem_collectedFrames
  refine ⟨⟨held.vehicleSimulation, held.publisher.afterObservation held.vehicleSimulation.state,
    ⟨gateway.transport.sent ++ added.flatten⟩⟩, ?_, rfl, rfl, records ++ added, ?_, ?_⟩
  · rw [observeAndPublish, VehicleNetworkPublisher.observeAndPublishOver_eq, h.simulation,
      h.network, hfold, ← h.simulation]
    rfl
  · change List.mapM _ (held.transport.frames ++ _) = _
    rw [List.mapM_append, hrecords, hadded]
    rfl
  · change gateway.transport.sent ++ added.flatten = _
    rw [hsent, List.flatten_append, List.append_assoc]

/-- Ticks that are not executed change nothing. -/
theorem callAll_ticks_of_inactive {exp : ℚ → ℚ} (h : held.vehicleSimulation.Consistent)
    (hinactive : held.vehicleSimulation.state.runState ≠ .running) (count : ℕ) :
    held.callAll exp (List.replicate count .tick) = .ok held := by
  induction count with
  | zero => rfl
  | succ count ih =>
    rw [List.replicate_succ, VehicleNetworkSimulation.callAll, VehicleNetworkSimulation.call,
      VehicleNetworkSimulation.tick_of_inactive h hinactive]
    exact ih

/-- Rounds of the loop send what as many ticks publish. -/
theorem Mirrors.rounds (h : gateway.Mirrors held) (hconsistent : held.vehicleSimulation.Consistent)
    (exp : ℚ → ℚ) (count : ℕ) :
    ∃ reached after, gateway.rounds exp count = .ok reached ∧
      held.callAll exp (List.replicate count .tick) = .ok after ∧ reached.Mirrors after := by
  induction count generalizing gateway held with
  | zero => exact ⟨gateway, held, rfl, rfl, h⟩
  | succ count ih =>
    by_cases hrunning : held.vehicleSimulation.state.runState = .running
    · obtain ⟨inputs, -, -, hvehicle⟩ :=
        VehicleSimulation.tick_of_running exp hconsistent hrunning
      have hmoved : GatewayMain.Mirrors
          { gateway with simulation := held.vehicleSimulation.advanced exp inputs }
          { held with vehicleSimulation := held.vehicleSimulation.advanced exp inputs } :=
        ⟨rfl, h.network, h.sent⟩
      obtain ⟨next, hnext, hmirrors⟩ := hmoved.published
      obtain ⟨reached, after, hreached, hafter, hlast⟩ := ih hmirrors
        (VehicleSimulation.consistent_advanced exp hconsistent hrunning inputs).1
      refine ⟨reached, after, ?_, ?_, hlast⟩
      · rw [GatewayMain.rounds, h.simulation, hvehicle]
        change (observeAndPublish _ >>= _) = _
        rw [hnext]
        exact hreached
      · rw [List.replicate_succ, VehicleNetworkSimulation.callAll, VehicleNetworkSimulation.call,
          VehicleNetworkSimulation.tick, hvehicle]
        change (((VehicleNetworkSimulation.publishCurrentState _ >>= _) >>= _) >>= _) = _
        rw [VehicleNetworkSimulation.publishCurrentState_eq]
        exact hafter
    · refine ⟨_, held, ?_, callAll_ticks_of_inactive hconsistent hrunning _, h⟩
      rw [GatewayMain.rounds, h.simulation,
        VehicleSimulation.tick_of_inactive hconsistent hrunning]
      change Except.ok { gateway with simulation := held.vehicleSimulation } = _
      rw [← h.simulation]

end Rounds

/-- The program starts where a network simulation with default schedules does. -/
theorem start_mirrors {configuration : SimulationRunConfiguration}
    {held : VehicleNetworkSimulation}
    (h : VehicleNetworkSimulation.create configuration {} {} = .ok held) :
    ∃ gateway, start configuration = .ok gateway ∧ gateway.Mirrors held := by
  obtain ⟨vehicleSimulation, hvehicle, rfl⟩ := VehicleNetworkSimulation.create_spec h
  have haccepted := (VehicleSimulation.create_spec hvehicle).1.accepted
  rw [(VehicleSimulation.create_spec hvehicle).2.1] at haccepted
  have hschedule : scheduleFor configuration {} =
      { combustionObservationEnabled := configuration.scenario = .wideOpenThrottlePull } := by
    unfold scheduleFor
    split
    · next hscenario => rw [hscenario]; rfl
    · next hscenario => rw [decide_eq_false hscenario]
  have hnetwork : VehicleNetworkPublisher.create
      { combustionObservationEnabled := configuration.scenario = .wideOpenThrottlePull } {}
      configuration.faults = .ok ⟨{ schedule := scheduleFor configuration {} }, { schedule := {} },
        configuration.faults⟩ := by
    rw [hschedule]
    unfold VehicleNetworkPublisher.create SimulatedDme.create SimulatedDsc.create
    exact if_pos haccepted.faults
  have hmirrors : GatewayMain.Mirrors
      { simulation := vehicleSimulation
        network := ⟨{ schedule := scheduleFor configuration {} }, { schedule := {} },
          configuration.faults⟩
        transport := .acceptClient }
      { vehicleSimulation
        publisher := ⟨{ schedule := scheduleFor configuration {} }, { schedule := {} },
          configuration.faults⟩ } :=
    ⟨rfl, rfl, [], rfl, by rw [List.flatten_nil, List.append_nil]; rfl⟩
  obtain ⟨gateway, hgateway, hpublished⟩ := hmirrors.published
  refine ⟨gateway, ?_, hpublished⟩
  rw [start, hvehicle]
  change (VehicleNetworkPublisher.create _ _ _ >>= _) = _
  rw [hnetwork]
  exact hgateway

end GatewayMain

/-- After any calls a reset restarts a network simulation: each number of ticks then leaves the
frames that a new one holds. With default schedules these are what the gateway program sends. -/
theorem reset_simulation_and_gateway_repeat_the_frames (exp : ℚ → ℚ)
    (configuration : SimulationRunConfiguration) (dmeSchedule : DmePublicationSchedule)
    (dscSchedule : DscPublicationSchedule) {fresh : VehicleNetworkSimulation}
    (hcreate : VehicleNetworkSimulation.create configuration dmeSchedule dscSchedule = .ok fresh) :
    (∀ calls count, ∃ reached restarted after again,
      fresh.callAll exp calls = .ok reached ∧ reached.reset = .ok restarted ∧
      fresh.callAll exp (List.replicate count .tick) = .ok after ∧
      restarted.callAll exp (List.replicate count .tick) = .ok again ∧
      again.transport.frames = after.transport.frames) ∧
    (dmeSchedule = {} → dscSchedule = {} → ∀ count, ∃ gateway reached after records,
      GatewayMain.start configuration = .ok gateway ∧ gateway.rounds exp count = .ok reached ∧
      fresh.callAll exp (List.replicate count .tick) = .ok after ∧
      after.transport.frames.mapM serializeGatewayRecord = .ok records ∧
      reached.transport.sent = makeGatewayHeader ++ records.flatten) := by
  obtain ⟨hfresh, hstart⟩ := VehicleNetworkSimulation.resetsTo_of_create hcreate
  constructor
  · intro calls count
    obtain ⟨reached, hreached, hkept⟩ := hfresh.callAll exp calls
    obtain ⟨after, hafter, -⟩ := hfresh.callAll exp (List.replicate count .tick)
    refine ⟨reached, fresh, after, after, hreached, ?_, hafter, hafter, rfl⟩
    rw [VehicleNetworkSimulation.reset_eq, hkept.rewound, hstart]
  · rintro rfl rfl count
    obtain ⟨gateway, hgateway, hmirrors⟩ := GatewayMain.start_mirrors hcreate
    obtain ⟨reached, after, hreached, hafter, hlast⟩ :=
      hmirrors.rounds hfresh.consistent exp count
    obtain ⟨records, hrecords, hsent⟩ := hlast.sent
    exact ⟨gateway, reached, after, records, hgateway, hreached, hafter, hrecords, hsent⟩

/-- The default idle run, reset after three ticks of which one was drained. -/
theorem idle_simulation_and_gateway_repeat_the_frames :
    ∃ fresh, VehicleNetworkSimulation.create (makeDefaultIdleRunConfiguration {}) {} {} =
        .ok fresh ∧
      ∃ reached restarted, fresh.callAll reciprocalDecay [.tick, .drain, .tick, .tick] =
          .ok reached ∧ reached.reset = .ok restarted ∧
        ∃ gateway, GatewayMain.start (makeDefaultIdleRunConfiguration {}) = .ok gateway := by
  have hfresh : VehicleNetworkSimulation.create (makeDefaultIdleRunConfiguration {}) {} {} =
      .ok _ := VehicleNetworkSimulation.create_eq VehicleSimulation.create_idleSimulation rfl
  obtain ⟨hrestarts, hsends⟩ := reset_simulation_and_gateway_repeat_the_frames reciprocalDecay
    (makeDefaultIdleRunConfiguration {}) {} {} hfresh
  obtain ⟨reached, restarted, after, again, hreached, hreset, -⟩ :=
    hrestarts [.tick, .drain, .tick, .tick] 2
  obtain ⟨gateway, reachedGateway, afterTicks, records, hgateway, -⟩ := hsends rfl rfl 2
  exact ⟨_, hfresh, reached, restarted, hreached, hreset, gateway, hgateway⟩

end TunerOs
