import Mathlib.Logic.Relation
import MediaServer.Cluster.MediaCluster

/-!
# The registry implements rooms by hash

What the cluster is for: one room per hash, created by the first endpoint
control for the hash and reached by every later input for it. `Rooms` is that
abstract state, a partial map from hashes to rooms, and `AbstractCluster`
adds the shutdown flag and says what one call does to it. The code keeps the
rooms in task-group slots and their slots in `rooms_map`; `roomOf` reads the
abstract map off a cluster.

## Implementation notes

Each call acts on `roomOf` as one abstract operation (`ImplementsRooms`),
which needs only the registry invariant. The abstract steps are labelled by
the call they make, so the refinement says which abstract call each call of
the cluster is (`Simulates`): an endpoint control for `h` is the control of
`h`, a room's empty event for `h` is the removal of `h`, and a pop of anything
else, or a repeated shutdown, is no abstract call. Every reachable cluster is
then abstracted to a state some run of abstract calls reaches from no rooms.
-/

namespace MediaServer.Cluster.RoomsByHash

open Collections Runtime

/-- The rooms of a cluster by hash. -/
abbrev Rooms (Endpoint Feature SdnEvent Control : Type) :=
  ClusterRoomHash → Option (ClusterRoom Endpoint Feature SdnEvent Control)

namespace Rooms

variable {Endpoint Feature SdnEvent Control : Type}

/-- The room for `h` takes `event`; it is created first if there is none. -/
def control (m : Rooms Endpoint Feature SdnEvent Control) (h : ClusterRoomHash)
    (event : Room.Event Endpoint Feature SdnEvent Control) : Rooms Endpoint Feature SdnEvent Control :=
  Function.update m h (some (((m h).getD (.new h)).take event))

/-- The room for `h`, if there is one, takes `event`. -/
def forward (m : Rooms Endpoint Feature SdnEvent Control) (h : ClusterRoomHash)
    (event : Room.Event Endpoint Feature SdnEvent Control) : Rooms Endpoint Feature SdnEvent Control :=
  Function.update m h ((m h).map (·.take event))

/-- Every room takes `event`. -/
def broadcast (m : Rooms Endpoint Feature SdnEvent Control)
    (event : Room.Event Endpoint Feature SdnEvent Control) : Rooms Endpoint Feature SdnEvent Control :=
  fun h => (m h).map (·.take event)

/-- The room for `h` is gone. -/
def remove (m : Rooms Endpoint Feature SdnEvent Control) (h : ClusterRoomHash) :
    Rooms Endpoint Feature SdnEvent Control :=
  Function.update m h none

end Rooms

/-- A cluster as it is meant to be: its rooms by hash, and whether it is shut down. -/
structure AbstractCluster (Endpoint Feature SdnEvent Control : Type) where
  rooms : Rooms Endpoint Feature SdnEvent Control
  isShutdown : Bool

namespace AbstractCluster

variable {Endpoint Feature SdnEvent Control : Type}

/-- No room, not shut down. -/
def init : AbstractCluster Endpoint Feature SdnEvent Control := ⟨fun _ => none, false⟩

/-- The calls of the abstract cluster. -/
inductive Call (Endpoint Feature SdnEvent Control : Type) where
  | control (h : ClusterRoomHash) (endpoint : Endpoint) (control : Control)
  | forward (userdata : RoomUserData Feature) (event : SdnEvent)
  | tick
  | shutdown
  | remove (h : ClusterRoomHash)

/-- One call, as the cluster is meant to act: an endpoint control reaches the
room of its hash, created if need be; an overlay event reaches the room of
its hash if there is one; a tick reaches every room, and so does the
shutdown, once; a room that is there can go. -/
inductive Step : AbstractCluster Endpoint Feature SdnEvent Control → Call Endpoint Feature SdnEvent Control →
    AbstractCluster Endpoint Feature SdnEvent Control → Prop
  | control (c : AbstractCluster Endpoint Feature SdnEvent Control) (h : ClusterRoomHash)
      (endpoint : Endpoint) (control : Control) :
      Step c (.control h endpoint control) ⟨c.rooms.control h (.input (.endpoint endpoint control)), c.isShutdown⟩
  | forward (c : AbstractCluster Endpoint Feature SdnEvent Control) (userdata : RoomUserData Feature)
      (event : SdnEvent) :
      Step c (.forward userdata event) ⟨c.rooms.forward userdata.room (.input (.sdn userdata event)), c.isShutdown⟩
  | tick (c : AbstractCluster Endpoint Feature SdnEvent Control) :
      Step c .tick ⟨c.rooms.broadcast .tick, c.isShutdown⟩
  | shutdown (c : AbstractCluster Endpoint Feature SdnEvent Control) (h0 : c.isShutdown = false) :
      Step c .shutdown ⟨c.rooms.broadcast .shutdown, true⟩
  | remove (c : AbstractCluster Endpoint Feature SdnEvent Control) (h : ClusterRoomHash)
      (hl : (c.rooms h).isSome) : Step c (.remove h) ⟨c.rooms.remove h, c.isShutdown⟩

/-- A run of abstract calls, in order. -/
inductive Run : AbstractCluster Endpoint Feature SdnEvent Control →
    List (Call Endpoint Feature SdnEvent Control) → AbstractCluster Endpoint Feature SdnEvent Control → Prop
  | nil (c : AbstractCluster Endpoint Feature SdnEvent Control) : Run c [] c
  | snoc {c c' c'' : AbstractCluster Endpoint Feature SdnEvent Control}
      {calls : List (Call Endpoint Feature SdnEvent Control)} {call : Call Endpoint Feature SdnEvent Control} :
      Run c calls c' → Step c' call c'' → Run c (calls ++ [call]) c''

end AbstractCluster

open MediaCluster

variable {Endpoint Feature SdnEvent Control SdnControl EndpointEvent : Type}

/-- The abstract map of a cluster: for each hash, the room in the slot that
`rooms_map` gives it. -/
def roomOf (s : MediaCluster Endpoint Feature SdnEvent Control) :
    Rooms Endpoint Feature SdnEvent Control :=
  fun h => (s.roomsMap.get? h).bind s.rooms.get?

/-- The abstract cluster a cluster stands for. -/
def abstract (s : MediaCluster Endpoint Feature SdnEvent Control) :
    AbstractCluster Endpoint Feature SdnEvent Control :=
  ⟨roomOf s, s.isShutdown⟩

@[simp] theorem default_abstract :
    abstract (default : MediaCluster Endpoint Feature SdnEvent Control) = .init := rfl

variable (SdnControl EndpointEvent) in
/-- Each call of the cluster is the abstract call of the same name on the
abstraction: an endpoint control for `h` the control of `h`, an overlay event
the forward to its hash, a tick the tick, the first shutdown the shutdown, and
a room's empty event for `h` the removal of `h`. A repeated shutdown and a pop
of anything else change nothing. -/
def Simulates (s : MediaCluster Endpoint Feature SdnEvent Control) : Prop :=
  (∀ fresh, s.rooms.get? fresh = none → ∀ endpoint h control,
    AbstractCluster.Step (abstract s) (.control h endpoint control)
      (abstract (s.onEndpointControl fresh endpoint h control))) ∧
  (∀ (userdata : RoomUserData Feature) event,
    AbstractCluster.Step (abstract s) (.forward userdata event) (abstract (s.onSdnEvent userdata event))) ∧
  AbstractCluster.Step (abstract s) .tick (abstract s.onTick) ∧
  (s.isShutdown = false → AbstractCluster.Step (abstract s) .shutdown (abstract s.shutdown)) ∧
  (s.isShutdown = true → s.shutdown = s) ∧
  ∀ (popped : Option (TaskGroupOutput (Room.Output Endpoint Feature SdnControl EndpointEvent)))
      s' (out : Option (Output Endpoint Feature SdnControl EndpointEvent)),
    s.ValidPop popped → s.popOutput popped = .ok (s', out) →
      (∃ index h, popped = some (.taskOutput index (.onResourceEmpty h)) ∧
        AbstractCluster.Step (abstract s) (.remove h) (abstract s')) ∨
      ((∀ index h, popped ≠ some (.taskOutput index (.onResourceEmpty h))) ∧ abstract s' = abstract s)

section Refinement

variable {s s' : MediaCluster Endpoint Feature SdnEvent Control}

/-! ### How each change to the slots shows in `roomOf` -/

/-- Frame: a change that keeps the slot of every other hash, and the room in
it, changes `roomOf` at `h` alone. -/
theorem roomOf_eq_update {h : ClusterRoomHash} {v : Option (ClusterRoom Endpoint Feature SdnEvent Control)}
    (hm : ∀ h', h' ≠ h → s'.roomsMap.get? h' = s.roomsMap.get? h')
    (hr : ∀ h' j, h' ≠ h → s.roomsMap.get? h' = some j → s'.rooms.get? j = s.rooms.get? j)
    (hh : roomOf s' h = v) : roomOf s' = Function.update (roomOf s) h v := by
  funext h'
  by_cases he : h' = h
  · subst he
    rw [Function.update_same, hh]
  · rw [Function.update_noteq he]
    simp only [roomOf, hm h' he]
    cases hj : s.roomsMap.get? h' with
    | none => rfl
    | some j => exact hr h' j he hj

/-- An event to the slot registered for `h` is the abstract forward to `h`. -/
theorem roomOf_onEvent (hs : s.Registry) {h : ClusterRoomHash} {i : Nat}
    (hi : s.roomsMap.get? h = some i) {event : Room.Event Endpoint Feature SdnEvent Control}
    (hm : s'.roomsMap = s.roomsMap) (hr : s'.rooms = s.rooms.onEvent i (·.take event)) :
    roomOf s' = (roomOf s).forward h event :=
  roomOf_eq_update (fun _ _ => by rw [hm])
    (fun _ j hne hj => by
      rw [hr, TaskGroup.get?_onEvent, if_neg fun he => hne ((hs.slot_eq_iff hj hi).mp he)])
    (by simp [roomOf, hm, hr, hi])

/-- A room created in a free slot for an unregistered hash is the abstract
creation. -/
theorem roomOf_create (hs : s.Registry) {fresh : Nat} (hfree : s.rooms.get? fresh = none)
    {h : ClusterRoomHash} (hnone : s.roomsMap.get? h = none)
    {event : Room.Event Endpoint Feature SdnEvent Control}
    (hm : s'.roomsMap = (s.roomsMap.insert h fresh).1)
    (hr : s'.rooms = (s.rooms.addAt fresh (.new h)).onEvent fresh (·.take event)) :
    roomOf s' = (roomOf s).control h event :=
  roomOf_eq_update (fun _ hne => by rw [hm, IndexMap.get?_insert, if_neg hne])
    (fun _ j _ hj => by
      have hjf : j ≠ fresh := fun he => by simpa [he, hfree] using hs.live hj
      simp [hr, hjf])
    (by simp [roomOf, hm, hr, hnone])

theorem roomOf_map {event : Room.Event Endpoint Feature SdnEvent Control}
    (hm : s'.roomsMap = s.roomsMap) (hr : s'.rooms = s.rooms.map (·.take event)) :
    roomOf s' = (roomOf s).broadcast event := by
  funext h
  simp only [roomOf, Rooms.broadcast, hm, hr]
  cases s.roomsMap.get? h <;> simp

/-- Removing a room on its valid empty event is the abstract removal of its hash. -/
theorem roomOf_remove (hs : s.Registry) {index : Nat} {room : ClusterRoomHash}
    (hat : s.hashAt index = some room) :
    roomOf ({ s with roomsMap := (s.roomsMap.swapRemove room).1, rooms := s.rooms.removeTask index } :
      MediaCluster Endpoint Feature SdnEvent Control) = (roomOf s).remove room :=
  have hidx := (hs room index).mpr hat
  roomOf_eq_update (fun _ hne => by rw [IndexMap.get?_swapRemove, if_neg hne])
    (fun _ j hne hj => by
      rw [TaskGroup.get?_removeTask, if_neg fun he => hne ((hs.slot_eq_iff hj hidx).mp he)])
    (by simp [roomOf])

/-- The slot registered for a hash holds the room of that hash. -/
theorem roomOf_of_slot (hs : s.Registry) {h : ClusterRoomHash} {i : Nat}
    (hi : s.roomsMap.get? h = some i) : ∃ room, s.rooms.get? i = some room ∧ roomOf s h = some room := by
  obtain ⟨room, hr, -⟩ := Option.map_eq_some'.mp ((hs h i).mp hi)
  exact ⟨room, hr, by simp [roomOf, hi, hr]⟩

/-! ### Each call -/

/-- `on_endpoint_control` is the abstract control of its hash. -/
theorem roomOf_onEndpointControl (hs : s.Registry) {fresh : Nat}
    (hfree : s.rooms.get? fresh = none) (endpoint : Endpoint) (h : ClusterRoomHash) (control : Control) :
    roomOf (s.onEndpointControl fresh endpoint h control) =
      (roomOf s).control h (.input (.endpoint endpoint control)) := by
  unfold MediaCluster.onEndpointControl
  split
  · rename_i i hi
    refine (roomOf_onEvent hs hi (by rfl) (by rfl)).trans ?_
    obtain ⟨room, -, hroom⟩ := roomOf_of_slot hs hi
    simp [Rooms.forward, Rooms.control, hroom]
  · exact roomOf_create hs hfree ‹_› rfl rfl

/-- `on_sdn_event` is the abstract forward to its hash. -/
theorem roomOf_onSdnEvent (hs : s.Registry) (userdata : RoomUserData Feature) (event : SdnEvent) :
    roomOf (s.onSdnEvent userdata event) = (roomOf s).forward userdata.room (.input (.sdn userdata event)) := by
  unfold MediaCluster.onSdnEvent
  split
  · rename_i hnone
    simp [Rooms.forward, roomOf, hnone]
  · rename_i i hi
    exact roomOf_onEvent hs hi rfl rfl

theorem roomOf_onTick : roomOf s.onTick = (roomOf s).broadcast .tick := roomOf_map rfl rfl

theorem roomOf_shutdown :
    roomOf s.shutdown = if s.isShutdown then roomOf s else (roomOf s).broadcast .shutdown := by
  unfold MediaCluster.shutdown
  split
  · rfl
  · exact roomOf_map rfl rfl

/-- A valid pop of a room's empty event for `h` removes `h`, which had a room;
any other pop leaves `roomOf` alone. -/
theorem roomOf_popOutput (hs : s.Registry)
    {popped : Option (TaskGroupOutput (Room.Output Endpoint Feature SdnControl EndpointEvent))}
    {out : Option (Output Endpoint Feature SdnControl EndpointEvent)}
    (hvalid : s.ValidPop popped) (hpop : s.popOutput popped = .ok (s', out)) :
    (∃ index h, popped = some (.taskOutput index (.onResourceEmpty h)) ∧ (roomOf s h).isSome ∧
      roomOf s' = (roomOf s).remove h) ∨
    ((∀ index h, popped ≠ some (.taskOutput index (.onResourceEmpty h))) ∧ roomOf s' = roomOf s) := by
  obtain ⟨rfl, hne⟩ | ⟨index, room, rfl, hroom, rfl⟩ := popOutput_cases hpop
  · exact .inr ⟨hne, rfl⟩
  · obtain ⟨r, hr, hh⟩ := hvalid
    have hat : s.hashAt index = some room := by simp [hashAt, hr, hh room rfl]
    obtain ⟨i, hi⟩ := Option.isSome_iff_exists.mp hroom
    obtain ⟨_, -, hlive⟩ := roomOf_of_slot hs hi
    exact .inl ⟨index, room, rfl, by simp [hlive], roomOf_remove hs hat⟩

theorem popOutput_isShutdown
    {popped : Option (TaskGroupOutput (Room.Output Endpoint Feature SdnControl EndpointEvent))}
    {out : Option (Output Endpoint Feature SdnControl EndpointEvent)}
    (hpop : s.popOutput popped = .ok (s', out)) : s'.isShutdown = s.isShutdown := by
  obtain ⟨rfl, -⟩ | ⟨_, _, _, _, rfl⟩ := popOutput_cases hpop <;> rfl

variable (SdnControl EndpointEvent) in
/-- Each call is the abstract call of its name on the abstraction. -/
theorem simulates (hs : s.Registry) : Simulates SdnControl EndpointEvent s := by
  refine ⟨fun fresh hfree endpoint h control => ?_, fun userdata event => ?_, ?_, fun hb => ?_,
    fun hb => by simp [MediaCluster.shutdown, hb], fun popped s' out hvalid hpop => ?_⟩
  · simp only [abstract, roomOf_onEndpointControl hs hfree, onEndpointControl_isShutdown]
    exact .control _ _ _ _
  · simp only [abstract, roomOf_onSdnEvent hs, onSdnEvent_isShutdown]
    exact .forward _ _ _
  · simp only [abstract, roomOf_onTick, onTick_isShutdown]
    exact .tick _
  · have hd : s.shutdown.isShutdown = true := by simp [MediaCluster.shutdown, hb]
    simp only [abstract, roomOf_shutdown, hb, hd, Bool.false_eq_true, if_false]
    exact .shutdown ⟨roomOf s, false⟩ rfl
  · simp only [abstract, popOutput_isShutdown hpop]
    obtain ⟨index, h, rfl, hl, he⟩ | ⟨hne, he⟩ := roomOf_popOutput hs hvalid hpop
    · exact .inl ⟨index, h, rfl, he ▸ .remove _ h hl⟩
    · exact .inr ⟨hne, by rw [he]⟩

/-- One step of the cluster is one abstract call, or changes nothing the
abstraction sees. -/
theorem step_abstract (hs : s.Registry) (hstep : Step SdnControl EndpointEvent s s') :
    (∃ call, AbstractCluster.Step (abstract s) call (abstract s')) ∨ abstract s' = abstract s := by
  have hsim := simulates SdnControl EndpointEvent hs
  cases hstep with
  | endpointControl fresh hfree endpoint roomHash control =>
      exact .inl ⟨_, hsim.1 fresh hfree endpoint roomHash control⟩
  | sdnEvent userdata event => exact .inl ⟨_, hsim.2.1 userdata event⟩
  | tick => exact .inl ⟨_, hsim.2.2.1⟩
  | shutdown =>
      cases hb : s.isShutdown
      · exact .inl ⟨_, hsim.2.2.2.1 hb⟩
      · exact .inr (by rw [hsim.2.2.2.2.1 hb])
  | popOutput hvalid hpop =>
      obtain ⟨_, _, -, h⟩ | ⟨-, h⟩ := hsim.2.2.2.2.2 _ _ _ hvalid hpop
      · exact .inl ⟨_, h⟩
      · exact .inr h

/-- A run of abstract calls to the abstraction of a registry extends over a
step of the cluster, by the step's call or by none. -/
theorem abstract_run_step {c : AbstractCluster Endpoint Feature SdnEvent Control}
    {calls : List (AbstractCluster.Call Endpoint Feature SdnEvent Control)} (hs : s.Registry)
    (hcalls : AbstractCluster.Run c calls (abstract s)) (hstep : Step SdnControl EndpointEvent s s') :
    ∃ calls', AbstractCluster.Run c calls' (abstract s') := by
  obtain ⟨_, h⟩ | h := step_abstract hs hstep
  · exact ⟨_, hcalls.snoc h⟩
  · exact ⟨calls, h ▸ hcalls⟩

/-- A run of the cluster from a reachable state is matched by a run of
abstract calls from its abstraction. -/
theorem abstract_reflTransGen (hs : Reachable SdnControl EndpointEvent s)
    (hrun : Relation.ReflTransGen (Step SdnControl EndpointEvent) s s') :
    Reachable SdnControl EndpointEvent s' ∧ ∃ calls, AbstractCluster.Run (abstract s) calls (abstract s') := by
  induction hrun with
  | refl => exact ⟨hs, [], .nil _⟩
  | tail _ hstep ih =>
      obtain ⟨hr, _, hcalls⟩ := ih
      exact ⟨.step hr hstep, abstract_run_step hr.registry hcalls hstep⟩

/-- The abstraction of every reachable cluster is reached by a run of abstract
calls from no rooms. -/
theorem abstract_run (hs : Reachable SdnControl EndpointEvent s) :
    ∃ calls, AbstractCluster.Run AbstractCluster.init calls (abstract s) := by
  induction hs with
  | default => exact ⟨[], default_abstract ▸ .nil _⟩
  | step hr hstep ih =>
      obtain ⟨_, hcalls⟩ := ih
      exact abstract_run_step hr.registry hcalls hstep

end Refinement

/-- The cluster refines the abstract cluster: every reachable cluster stands
for an abstract cluster that a run of abstract calls reaches from no rooms,
and each call of the cluster is the abstract call of its name, or, for a
repeated shutdown and a pop other than a room's empty event, no change the
abstraction sees. -/
theorem media_cluster_refines_abstract_cluster {s : MediaCluster Endpoint Feature SdnEvent Control}
    (hs : Reachable SdnControl EndpointEvent s) :
    (∃ calls, AbstractCluster.Run AbstractCluster.init calls (abstract s)) ∧
      Simulates SdnControl EndpointEvent s :=
  ⟨abstract_run hs, simulates SdnControl EndpointEvent hs.registry⟩

theorem media_cluster_refines_abstract_cluster_joined :
    Reachable Unit Unit joinedThenShutdown ∧
      (∃ calls, AbstractCluster.Run AbstractCluster.init calls (abstract joinedThenShutdown)) ∧
      Simulates Unit Unit joinedThenShutdown :=
  ⟨joinedThenShutdown_reachable, media_cluster_refines_abstract_cluster joinedThenShutdown_reachable⟩

end MediaServer.Cluster.RoomsByHash
