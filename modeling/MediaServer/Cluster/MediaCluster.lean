import MediaServer.Collections.IndexMap
import MediaServer.Cluster.Types
import MediaServer.Runtime.TaskGroup

/-!
# The cluster and its rooms

`MediaCluster` owns the rooms of a node in a task group and finds them by
hash through `rooms_map`. A room is created on the first endpoint control for
its hash and removed when it reports that it is empty.

## Implementation notes

`room.rs` is outside the source. A room is opaque here: it keeps the hash it
was created with and the events it was given, in order, and its outputs are
whatever the run lets it produce. The overlay payloads the cluster passes
through unread are type parameters.
-/

namespace MediaServer.Cluster

open Collections Runtime

/-- `RoomUserData(ClusterRoomHash, RoomFeature)`, the overlay's tag on a room's traffic. -/
structure RoomUserData (Feature : Type) where
  room : ClusterRoomHash
  feature : Feature

namespace Room

/-- `room::Input<Endpoint>`. -/
inductive Input (Endpoint Feature SdnEvent Control : Type) where
  | sdn (userdata : RoomUserData Feature) (event : SdnEvent)
  | endpoint (endpoint : Endpoint) (control : Control)

/-- What a room is given by the cluster: an input, a tick or the shutdown. -/
inductive Event (Endpoint Feature SdnEvent Control : Type) where
  | input (input : Input Endpoint Feature SdnEvent Control)
  | tick
  | shutdown

/-- Whether an event is the shutdown. -/
def Event.isShutdown {Endpoint Feature SdnEvent Control : Type} :
    Event Endpoint Feature SdnEvent Control → Bool
  | .shutdown => true
  | _ => false

/-- `room::Output<Endpoint>`. -/
inductive Output (Endpoint Feature SdnControl EndpointEvent : Type) where
  | sdn (userdata : RoomUserData Feature) (control : SdnControl)
  | endpoint (endpoints : List Endpoint) (event : EndpointEvent)
  | onResourceEmpty (room : ClusterRoomHash)

end Room

/-- `ClusterRoom<Endpoint>` as the cluster sees it. -/
structure ClusterRoom (Endpoint Feature SdnEvent Control : Type) where
  roomHash : ClusterRoomHash
  events : List (Room.Event Endpoint Feature SdnEvent Control)

namespace ClusterRoom

variable {Endpoint Feature SdnEvent Control : Type}

/-- `ClusterRoom::new(room_hash)`. -/
def new (roomHash : ClusterRoomHash) : ClusterRoom Endpoint Feature SdnEvent Control :=
  ⟨roomHash, []⟩

/-- The room takes one more event. -/
def take (room : ClusterRoom Endpoint Feature SdnEvent Control)
    (event : Room.Event Endpoint Feature SdnEvent Control) :
    ClusterRoom Endpoint Feature SdnEvent Control :=
  { room with events := room.events ++ [event] }

@[simp] theorem new_roomHash (roomHash : ClusterRoomHash) :
    (new roomHash : ClusterRoom Endpoint Feature SdnEvent Control).roomHash = roomHash := rfl

@[simp] theorem take_roomHash (room : ClusterRoom Endpoint Feature SdnEvent Control)
    (event : Room.Event Endpoint Feature SdnEvent Control) :
    (room.take event).roomHash = room.roomHash := rfl

/-- How many shutdown events the room has taken. -/
def shutdowns (room : ClusterRoom Endpoint Feature SdnEvent Control) : Nat :=
  room.events.countP Room.Event.isShutdown

@[simp] theorem new_shutdowns (roomHash : ClusterRoomHash) :
    (new roomHash : ClusterRoom Endpoint Feature SdnEvent Control).shutdowns = 0 := rfl

@[simp] theorem take_shutdowns (room : ClusterRoom Endpoint Feature SdnEvent Control)
    (event : Room.Event Endpoint Feature SdnEvent Control) :
    (room.take event).shutdowns = room.shutdowns + (event.isShutdown).toNat := by
  simp only [shutdowns, take, List.countP_append, List.countP_singleton]
  cases event.isShutdown <;> rfl

end ClusterRoom

/-- `MediaCluster<Endpoint>`. -/
structure MediaCluster (Endpoint Feature SdnEvent Control : Type) where
  roomsMap : IndexMap ClusterRoomHash Nat
  rooms : TaskGroup (ClusterRoom Endpoint Feature SdnEvent Control)
  /-- `shutdown: bool`. -/
  isShutdown : Bool

namespace MediaCluster

/-- `cluster::Output<Endpoint>`. -/
inductive Output (Endpoint Feature SdnControl EndpointEvent : Type) where
  | sdn (userdata : RoomUserData Feature) (control : SdnControl)
  | endpoint (endpoints : List Endpoint) (event : EndpointEvent)
  | onResourceEmpty
  | continue

variable {Endpoint Feature SdnEvent Control SdnControl EndpointEvent : Type}

/-- `MediaCluster::default`. -/
def default : MediaCluster Endpoint Feature SdnEvent Control := ⟨.empty, .empty, false⟩

/-- `on_tick`: every room takes the tick. -/
def onTick (s : MediaCluster Endpoint Feature SdnEvent Control) :
    MediaCluster Endpoint Feature SdnEvent Control :=
  { s with rooms := s.rooms.map (·.take .tick) }

/-- `on_sdn_event`: an event for a hash without room is dropped. -/
def onSdnEvent (s : MediaCluster Endpoint Feature SdnEvent Control) (userdata : RoomUserData Feature)
    (event : SdnEvent) : MediaCluster Endpoint Feature SdnEvent Control :=
  match s.roomsMap.get? userdata.room with
  | none => s
  | some index => { s with rooms := s.rooms.onEvent index (·.take (.input (.sdn userdata event))) }

/-- `on_endpoint_control`; `fresh` is the slot that `add_task` returns when
the room has to be created. -/
def onEndpointControl (s : MediaCluster Endpoint Feature SdnEvent Control) (fresh : Nat)
    (endpoint : Endpoint) (roomHash : ClusterRoomHash) (control : Control) :
    MediaCluster Endpoint Feature SdnEvent Control :=
  match s.roomsMap.get? roomHash with
  | some index =>
      { s with rooms := s.rooms.onEvent index (·.take (.input (.endpoint endpoint control))) }
  | none =>
      { s with
        rooms := (s.rooms.addAt fresh (.new roomHash)).onEvent fresh
          (·.take (.input (.endpoint endpoint control)))
        roomsMap := (s.roomsMap.insert roomHash fresh).1 }

/-- `shutdown`: the rooms are shut down once. -/
def shutdown (s : MediaCluster Endpoint Feature SdnEvent Control) :
    MediaCluster Endpoint Feature SdnEvent Control :=
  if s.isShutdown then s else { s with rooms := s.rooms.map (·.take .shutdown), isShutdown := true }

/-- `TaskSwitcherChild::is_empty`. -/
def isEmpty (s : MediaCluster Endpoint Feature SdnEvent Control) : Bool :=
  s.isShutdown && s.rooms.isEmpty

variable (SdnControl EndpointEvent) in
/-- `TaskSwitcherChild::empty_event`. -/
def emptyEvent (_ : MediaCluster Endpoint Feature SdnEvent Control) :
    Output Endpoint Feature SdnControl EndpointEvent :=
  .onResourceEmpty

/-- `TaskSwitcherChild::pop_output`, given what the room group's `pop_output`
returned. A room's empty event removes the room; the `expect` is an error. -/
def popOutput (s : MediaCluster Endpoint Feature SdnEvent Control)
    (popped : Option (TaskGroupOutput (Room.Output Endpoint Feature SdnControl EndpointEvent))) :
    Except String (MediaCluster Endpoint Feature SdnEvent Control ×
      Option (Output Endpoint Feature SdnControl EndpointEvent)) :=
  match popped with
  | none => .ok (s, none)
  | some .onResourceEmpty => .ok (s, some .continue)
  | some (.taskOutput _ (.sdn userdata control)) => .ok (s, some (.sdn userdata control))
  | some (.taskOutput _ (.endpoint endpoints event)) => .ok (s, some (.endpoint endpoints event))
  | some (.taskOutput index (.onResourceEmpty room)) =>
      match s.roomsMap.swapRemove room with
      | (_, none) => .error "Should have room with index"
      | (roomsMap, some _) => .ok ({ s with roomsMap, rooms := s.rooms.removeTask index }, some .continue)

/-- What the room group may return: an output of a live room, whose empty
event carries the hash the room was created with, or the group's own events. -/
def ValidPop (s : MediaCluster Endpoint Feature SdnEvent Control) :
    Option (TaskGroupOutput (Room.Output Endpoint Feature SdnControl EndpointEvent)) → Prop
  | some (.taskOutput index out) => ∃ room, s.rooms.get? index = some room ∧
      ∀ h, out = .onResourceEmpty h → h = room.roomHash
  | _ => True

variable (SdnControl EndpointEvent) in
/-- One step of the cluster: any call, with `add_task` taking any free slot. -/
inductive Step : MediaCluster Endpoint Feature SdnEvent Control →
    MediaCluster Endpoint Feature SdnEvent Control → Prop
  | endpointControl {s : MediaCluster Endpoint Feature SdnEvent Control} (fresh : Nat)
      (hfree : s.rooms.get? fresh = none) (endpoint : Endpoint) (roomHash : ClusterRoomHash)
      (control : Control) : Step s (s.onEndpointControl fresh endpoint roomHash control)
  | sdnEvent {s : MediaCluster Endpoint Feature SdnEvent Control} (userdata : RoomUserData Feature)
      (event : SdnEvent) : Step s (s.onSdnEvent userdata event)
  | tick {s : MediaCluster Endpoint Feature SdnEvent Control} : Step s s.onTick
  | shutdown {s : MediaCluster Endpoint Feature SdnEvent Control} : Step s s.shutdown
  | popOutput {s s' : MediaCluster Endpoint Feature SdnEvent Control}
      {popped : Option (TaskGroupOutput (Room.Output Endpoint Feature SdnControl EndpointEvent))}
      {out : Option (Output Endpoint Feature SdnControl EndpointEvent)}
      (hvalid : s.ValidPop popped) (h : s.popOutput popped = .ok (s', out)) : Step s s'

variable (SdnControl EndpointEvent) in
/-- The clusters reachable from `MediaCluster::default`. -/
inductive Reachable : MediaCluster Endpoint Feature SdnEvent Control → Prop
  | default : Reachable default
  | step {s s' : MediaCluster Endpoint Feature SdnEvent Control} :
      Reachable s → Step SdnControl EndpointEvent s s' → Reachable s'

/-! ### What each call does to the rooms -/

@[simp] theorem default_roomsMap :
    (default : MediaCluster Endpoint Feature SdnEvent Control).roomsMap = .empty := rfl

@[simp] theorem default_rooms :
    (default : MediaCluster Endpoint Feature SdnEvent Control).rooms = .empty := rfl

@[simp] theorem onTick_isShutdown (s : MediaCluster Endpoint Feature SdnEvent Control) :
    s.onTick.isShutdown = s.isShutdown := rfl

@[simp] theorem onSdnEvent_isShutdown (s : MediaCluster Endpoint Feature SdnEvent Control)
    (userdata : RoomUserData Feature) (event : SdnEvent) :
    (s.onSdnEvent userdata event).isShutdown = s.isShutdown := by
  unfold onSdnEvent; split <;> rfl

@[simp] theorem onEndpointControl_isShutdown (s : MediaCluster Endpoint Feature SdnEvent Control)
    (fresh : Nat) (endpoint : Endpoint) (roomHash : ClusterRoomHash) (control : Control) :
    (s.onEndpointControl fresh endpoint roomHash control).isShutdown = s.isShutdown := by
  unfold onEndpointControl; split <;> rfl

/-- The hash of the live room in slot `j`, if any. -/
def hashAt (s : MediaCluster Endpoint Feature SdnEvent Control) (j : Nat) :
    Option ClusterRoomHash :=
  (s.rooms.get? j).map ClusterRoom.roomHash

@[simp] theorem hashAt_default (j : Nat) :
    (default : MediaCluster Endpoint Feature SdnEvent Control).hashAt j = none := rfl

theorem hashAt_of_rooms {s s' : MediaCluster Endpoint Feature SdnEvent Control} (j : Nat)
    (e : Room.Event Endpoint Feature SdnEvent Control) (index : Nat)
    (h : s'.rooms = s.rooms.onEvent index (·.take e)) : s'.hashAt j = s.hashAt j := by
  rw [hashAt, h]; exact TaskGroup.map_get?_onEvent _ (fun r => r.take_roomHash e) _ _ _

theorem hashAt_of_map {s s' : MediaCluster Endpoint Feature SdnEvent Control} (j : Nat)
    (e : Room.Event Endpoint Feature SdnEvent Control)
    (h : s'.rooms = s.rooms.map (·.take e)) : s'.hashAt j = s.hashAt j := by
  rw [hashAt, h]; exact TaskGroup.map_get?_map _ (fun r => r.take_roomHash e) _ _

/-- `rooms_map` sends a hash to a slot exactly when the live room there was
created for that hash. -/
def Registry (s : MediaCluster Endpoint Feature SdnEvent Control) : Prop :=
  ∀ h i, s.roomsMap.get? h = some i ↔ s.hashAt i = some h

/-- At most one live room per hash. -/
def UniqueRooms (s : MediaCluster Endpoint Feature SdnEvent Control) : Prop :=
  ∀ i j h, s.hashAt i = some h → s.hashAt j = some h → i = j

/-- `s'` is `s` where only the room in slot `i` took `event`; a free slot
first got `ClusterRoom::new(h)`. -/
def TakenAt (s s' : MediaCluster Endpoint Feature SdnEvent Control) (i : Nat) (h : ClusterRoomHash)
    (event : Room.Event Endpoint Feature SdnEvent Control) : Prop :=
  ∀ j, s'.rooms.get? j =
    if j = i then some (((s.rooms.get? i).getD (.new h)).take event) else s.rooms.get? j

/-- Every endpoint control for a hash reaches the room for that hash alone,
and that room is then registered for it. -/
def RoutesEndpointControl (s : MediaCluster Endpoint Feature SdnEvent Control) : Prop :=
  ∀ fresh, s.rooms.get? fresh = none → ∀ endpoint h control,
    ∃ i, (s.onEndpointControl fresh endpoint h control).roomsMap.get? h = some i ∧
      s.TakenAt (s.onEndpointControl fresh endpoint h control) i h (.input (.endpoint endpoint control))

/-- Every overlay event reaches the room registered for its hash alone, or is
dropped when there is none. -/
def RoutesSdnEvent (s : MediaCluster Endpoint Feature SdnEvent Control) : Prop :=
  ∀ (userdata : RoomUserData Feature) event,
    (∃ i, s.roomsMap.get? userdata.room = some i ∧
      s.TakenAt (s.onSdnEvent userdata event) i userdata.room (.input (.sdn userdata event))) ∨
    (s.roomsMap.get? userdata.room = none ∧ s.onSdnEvent userdata event = s)

variable (SdnControl EndpointEvent) in
/-- The expect in pop_output never fails. -/
def PopNeverFails (s : MediaCluster Endpoint Feature SdnEvent Control) : Prop :=
  ∀ popped : Option (TaskGroupOutput (Room.Output Endpoint Feature SdnControl EndpointEvent)),
    s.ValidPop popped → ∃ s' out, s.popOutput popped = .ok (s', out)

section Registry

variable {s s' : MediaCluster Endpoint Feature SdnEvent Control}

theorem Registry.default : (default : MediaCluster Endpoint Feature SdnEvent Control).Registry := by
  simp [Registry]

theorem Registry.of_hashAt (hs : s.Registry) (hm : s'.roomsMap = s.roomsMap)
    (hr : ∀ j, s'.hashAt j = s.hashAt j) : s'.Registry := by
  intro h i
  rw [hm, hr]
  exact hs h i

theorem Registry.unique (hs : s.Registry) : s.UniqueRooms := by
  intro i j h hi hj
  have := ((hs h i).mpr hi).symm.trans ((hs h j).mpr hj)
  exact Option.some.inj this

theorem Registry.onTick (hs : s.Registry) : s.onTick.Registry :=
  hs.of_hashAt rfl fun j => hashAt_of_map j .tick rfl

theorem Registry.shutdown (hs : s.Registry) : s.shutdown.Registry := by
  unfold MediaCluster.shutdown
  split
  · exact hs
  · exact hs.of_hashAt rfl fun j => hashAt_of_map j .shutdown rfl

theorem Registry.onSdnEvent (hs : s.Registry) (userdata : RoomUserData Feature) (event : SdnEvent) :
    (s.onSdnEvent userdata event).Registry := by
  unfold MediaCluster.onSdnEvent
  split
  · exact hs
  · exact hs.of_hashAt rfl fun j => hashAt_of_rooms j _ _ rfl

/-- The room created for a hash without room goes to a free slot. -/
theorem Registry.create (hs : s.Registry) {fresh : Nat} (hfree : s.rooms.get? fresh = none)
    {h : ClusterRoomHash} (hnone : s.roomsMap.get? h = none) {event}
    (hm : s'.roomsMap = (s.roomsMap.insert h fresh).1)
    (hr : s'.rooms = (s.rooms.addAt fresh (.new h)).onEvent fresh (·.take event)) :
    s'.Registry := by
  have hfresh : s.hashAt fresh = none := by simp [hashAt, hfree]
  have hat : ∀ j, s'.hashAt j = if j = fresh then some h else s.hashAt j := by
    intro j
    simp only [hashAt, hr, TaskGroup.get?_onEvent, TaskGroup.get?_addAt]
    split <;> simp_all
  intro h' i
  rw [hm, IndexMap.get?_insert, hat]
  by_cases hh : h' = h
  · subst hh
    by_cases hi : i = fresh
    · simp [hi]
    · simpa [Ne.symm hi, hi, hnone] using (hs h' i).not.mp (by simp [hnone])
  · by_cases hi : i = fresh
    · subst hi
      simpa [hh, hfresh, Ne.symm hh] using (hs h' i).not.mpr (by simp [hfresh])
    · simpa [hh, hi] using hs h' i

theorem Registry.onEndpointControl (hs : s.Registry) {fresh : Nat}
    (hfree : s.rooms.get? fresh = none) (endpoint : Endpoint) (h : ClusterRoomHash)
    (control : Control) : (s.onEndpointControl fresh endpoint h control).Registry := by
  unfold MediaCluster.onEndpointControl
  split
  · exact hs.of_hashAt rfl fun j => hashAt_of_rooms j _ _ rfl
  · exact hs.create hfree ‹_› rfl rfl

/-- What `pop_output` can do to the cluster: nothing, for anything but a room's
empty event, or remove a room whose hash is registered, for its empty event. -/
theorem popOutput_cases
    {popped : Option (TaskGroupOutput (Room.Output Endpoint Feature SdnControl EndpointEvent))}
    {out : Option (Output Endpoint Feature SdnControl EndpointEvent)}
    (hpop : s.popOutput popped = .ok (s', out)) :
    (s' = s ∧ ∀ index room, popped ≠ some (.taskOutput index (.onResourceEmpty room))) ∨
    ∃ index room, popped = some (.taskOutput index (.onResourceEmpty room)) ∧
      (s.roomsMap.get? room).isSome ∧
      s' = { s with roomsMap := (s.roomsMap.swapRemove room).1, rooms := s.rooms.removeTask index } := by
  unfold popOutput at hpop
  split at hpop
  case h_5 index room =>
    right
    refine ⟨index, room, rfl, ?_⟩
    rw [← IndexMap.swapRemove_snd]
    revert hpop
    rcases s.roomsMap.swapRemove room with ⟨_, _ | _⟩
    · intro hpop; cases hpop
    · intro hpop; cases hpop; exact ⟨rfl, rfl⟩
  all_goals (left; cases hpop; exact ⟨rfl, fun _ _ h => nomatch h⟩)

/-- Removing the room of a valid empty event keeps the registry. -/
theorem Registry.remove (hs : s.Registry) {index : Nat} {room : ClusterRoomHash}
    (hat : s.hashAt index = some room) :
    ({ s with roomsMap := (s.roomsMap.swapRemove room).1, rooms := s.rooms.removeTask index } :
      MediaCluster Endpoint Feature SdnEvent Control).Registry := by
  have hidx := (hs room index).mpr hat
  have hat' : ∀ j, ((s.rooms.removeTask index).get? j).map ClusterRoom.roomHash =
      if j = index then none else s.hashAt j := by
    intro j; simp only [TaskGroup.get?_removeTask]; split <;> rfl
  intro h' i
  show _ = _ ↔ ((s.rooms.removeTask index).get? i).map ClusterRoom.roomHash = _
  rw [hat', IndexMap.get?_swapRemove]
  by_cases hh : h' = room
  · subst hh
    by_cases hi : i = index
    · simp [hi]
    · have : ¬ s.hashAt i = some h' := fun hi' => hi (Option.some.inj (((hs h' i).mpr hi').symm.trans hidx))
      simpa [hi] using this
  · by_cases hi : i = index
    · subst hi
      have : ¬ s.roomsMap.get? h' = some i := fun h'i => hh (Option.some.inj (((hs h' i).mp h'i).symm.trans hat))
      simpa [hh] using this
    · simpa [hh, hi] using hs h' i

theorem Registry.popOutput (hs : s.Registry)
    {popped : Option (TaskGroupOutput (Room.Output Endpoint Feature SdnControl EndpointEvent))}
    {out : Option (Output Endpoint Feature SdnControl EndpointEvent)}
    (hvalid : s.ValidPop popped) (hpop : s.popOutput popped = .ok (s', out)) : s'.Registry := by
  obtain ⟨rfl, -⟩ | ⟨index, room, rfl, -, rfl⟩ := popOutput_cases hpop
  · exact hs
  · obtain ⟨r, hr, hroom⟩ := hvalid
    exact hs.remove (by simp [hashAt, hr, hroom room rfl])

theorem Registry.step (hs : s.Registry) (hstep : Step SdnControl EndpointEvent s s') :
    s'.Registry := by
  cases hstep with
  | endpointControl fresh hfree endpoint roomHash control =>
      exact hs.onEndpointControl hfree endpoint roomHash control
  | sdnEvent userdata event => exact hs.onSdnEvent userdata event
  | tick => exact hs.onTick
  | shutdown => exact hs.shutdown
  | popOutput hvalid hpop => exact hs.popOutput hvalid hpop

theorem Reachable.registry (hs : Reachable SdnControl EndpointEvent s) : s.Registry := by
  induction hs with
  | default => exact Registry.default
  | step _ hstep ih => exact ih.step hstep

/-- Two registered hashes share a slot exactly when they are equal. -/
theorem Registry.slot_eq_iff (hs : s.Registry) {h₁ h₂ : ClusterRoomHash} {i j : Nat}
    (hi : s.roomsMap.get? h₁ = some i) (hj : s.roomsMap.get? h₂ = some j) : i = j ↔ h₁ = h₂ := by
  constructor
  · rintro rfl
    exact Option.some.inj (((hs h₁ i).mp hi).symm.trans ((hs h₂ i).mp hj))
  · rintro rfl
    exact Option.some.inj (hi.symm.trans hj)

theorem TakenAt.of_onEvent {i : Nat} {h : ClusterRoomHash}
    {e : Room.Event Endpoint Feature SdnEvent Control} (hlive : (s.rooms.get? i).isSome)
    (hr : s'.rooms = s.rooms.onEvent i (·.take e)) : s.TakenAt s' i h e := by
  obtain ⟨r, hri⟩ := Option.isSome_iff_exists.mp hlive
  intro j
  rw [hr, TaskGroup.get?_onEvent, hri]
  rfl

theorem Registry.live (hs : s.Registry) {h : ClusterRoomHash} {i : Nat}
    (hi : s.roomsMap.get? h = some i) : (s.rooms.get? i).isSome := by
  have := (hs h i).mp hi
  unfold hashAt at this
  cases hg : s.rooms.get? i <;> simp [hg] at this ⊢

theorem Registry.routesEndpointControl (hs : s.Registry) : s.RoutesEndpointControl := by
  intro fresh hfree endpoint h control
  unfold MediaCluster.onEndpointControl
  split
  case h_1 i hi => exact ⟨i, hi, .of_onEvent (hs.live hi) rfl⟩
  case h_2 =>
    refine ⟨fresh, by simp, fun j => ?_⟩
    simp only [TaskGroup.get?_onEvent, TaskGroup.get?_addAt, hfree]
    split <;> simp_all

theorem Registry.routesSdnEvent (hs : s.Registry) : s.RoutesSdnEvent := by
  intro userdata event
  unfold MediaCluster.onSdnEvent
  split
  case h_1 hnone => exact .inr ⟨hnone, rfl⟩
  case h_2 i hi => exact .inl ⟨i, hi, .of_onEvent (hs.live hi) rfl⟩

theorem Registry.popNeverFails (hs : s.Registry) : s.PopNeverFails SdnControl EndpointEvent := by
  rintro (_ | ⟨index, _ | _ | room⟩ | _) hvalid
  all_goals try exact ⟨_, _, rfl⟩
  obtain ⟨r, hr, hroom⟩ := hvalid
  have hidx : (s.roomsMap.swapRemove room).2 = some index := by
    rw [IndexMap.swapRemove_snd]
    exact (hs room index).mpr (by simp [hashAt, hr, hroom room rfl])
  simp only [MediaCluster.popOutput]
  rcases hsr : s.roomsMap.swapRemove room with ⟨_, _ | _⟩
  · simp [hsr] at hidx
  · exact ⟨_, _, rfl⟩

/-- In every reachable cluster `rooms_map` is a bijection from its keys to the
live rooms, each key going to the room created for it; hence at most one room
per hash, every endpoint control and overlay event reaches only the room for
its hash, and removing a room on its empty event never fails. -/
theorem rooms_map_tracks_live_rooms (hs : Reachable SdnControl EndpointEvent s) :
    s.Registry ∧ s.UniqueRooms ∧ s.RoutesEndpointControl ∧ s.RoutesSdnEvent ∧
      s.PopNeverFails SdnControl EndpointEvent :=
  have hr := hs.registry
  ⟨hr, hr.unique, hr.routesEndpointControl, hr.routesSdnEvent, hr.popNeverFails⟩

/-- A cluster where endpoint 1 joined room 1, created in slot 0. -/
def joinedOnce : MediaCluster Nat Unit Unit Unit :=
  (default : MediaCluster Nat Unit Unit Unit).onEndpointControl 0 1 ⟨1⟩ ()

/-- A cluster where endpoint 1 joined room 1 in slot 0 and which was then shut down. -/
def joinedThenShutdown : MediaCluster Nat Unit Unit Unit :=
  ((default : MediaCluster Nat Unit Unit Unit).onEndpointControl 0 1 ⟨1⟩ ()).shutdown

/-- `joinedOnce` after room 1 reported empty and `pop_output` removed it. -/
def joinedThenRemoved : MediaCluster Nat Unit Unit Unit :=
  { joinedOnce with
    roomsMap := (joinedOnce.roomsMap.swapRemove ⟨1⟩).1, rooms := joinedOnce.rooms.removeTask 0 }

theorem joinedOnce_reachable : Reachable Unit Unit joinedOnce :=
  .step .default (.endpointControl 0
    (show (default : MediaCluster Nat Unit Unit Unit).rooms.get? 0 = none from rfl) 1 ⟨1⟩ ())

theorem joinedThenShutdown_reachable : Reachable Unit Unit joinedThenShutdown :=
  .step joinedOnce_reachable .shutdown

theorem joinedThenRemoved_reachable : Reachable Unit Unit joinedThenRemoved :=
  .step joinedOnce_reachable (.popOutput
    (show joinedOnce.ValidPop (some (.taskOutput 0 (.onResourceEmpty ⟨1⟩))) from
      ⟨_, rfl, fun _ h => by cases h; rfl⟩)
    (show joinedOnce.popOutput (some (.taskOutput 0 (.onResourceEmpty ⟨1⟩))) =
      .ok (joinedThenRemoved, some .continue) from rfl))

theorem rooms_map_tracks_live_rooms_joined :
    Reachable Unit Unit joinedThenShutdown ∧ joinedThenShutdown.roomsMap.get? ⟨1⟩ = some 0 ∧
      (joinedThenShutdown.Registry ∧ joinedThenShutdown.UniqueRooms ∧
        joinedThenShutdown.RoutesEndpointControl ∧ joinedThenShutdown.RoutesSdnEvent ∧
        joinedThenShutdown.PopNeverFails Unit Unit) ∧
    Reachable Unit Unit joinedThenRemoved ∧ joinedThenRemoved.roomsMap.get? ⟨1⟩ = none ∧
      (joinedThenRemoved.Registry ∧ joinedThenRemoved.UniqueRooms ∧
        joinedThenRemoved.RoutesEndpointControl ∧ joinedThenRemoved.RoutesSdnEvent ∧
        joinedThenRemoved.PopNeverFails Unit Unit) :=
  ⟨joinedThenShutdown_reachable, rfl, rooms_map_tracks_live_rooms joinedThenShutdown_reachable,
    joinedThenRemoved_reachable, rfl, rooms_map_tracks_live_rooms joinedThenRemoved_reachable⟩

/-- A reachable cluster that reports empty, shut down with no live room, holds
no entry in `rooms_map`. -/
theorem empty_cluster_has_no_rooms (hs : Reachable SdnControl EndpointEvent s)
    (he : s.isEmpty = true) : s.roomsMap.keys = [] := by
  have hno : ∀ i, s.rooms.get? i = none :=
    (TaskGroup.isEmpty_iff _).mp (Bool.and_eq_true_iff.mp he).2
  refine List.eq_nil_iff_forall_not_mem.mpr fun h hh => ?_
  obtain ⟨i, hi⟩ := (IndexMap.mem_keys_iff _ _).mp hh
  have := (hs.registry h i).mp hi
  simp [hashAt, hno i] at this

theorem empty_cluster_has_no_rooms_removed :
    joinedOnce.roomsMap.keys = [⟨1⟩] ∧ Reachable Unit Unit joinedThenRemoved.shutdown ∧
      joinedThenRemoved.shutdown.isEmpty = true ∧ joinedThenRemoved.shutdown.roomsMap.keys = [] :=
  have hr : Reachable Unit Unit joinedThenRemoved.shutdown := .step joinedThenRemoved_reachable .shutdown
  ⟨rfl, hr, rfl, empty_cluster_has_no_rooms hr rfl⟩

end Registry

/-! ### Shutdown reaches each room once -/

/-- No live room took the shutdown before the cluster was shut down, and none
took it twice. -/
def ShutdownOnce (s : MediaCluster Endpoint Feature SdnEvent Control) : Prop :=
  s.rooms.All fun room => room.shutdowns ≤ s.isShutdown.toNat

section ShutdownOnce

variable {s s' : MediaCluster Endpoint Feature SdnEvent Control}

theorem ShutdownOnce.onEndpointControl (h : s.ShutdownOnce) (fresh : Nat) (endpoint : Endpoint)
    (roomHash : ClusterRoomHash) (control : Control) :
    (s.onEndpointControl fresh endpoint roomHash control).ShutdownOnce := by
  have hinput : ∀ room : ClusterRoom Endpoint Feature SdnEvent Control,
      room.shutdowns ≤ s.isShutdown.toNat →
        (room.take (.input (.endpoint endpoint control))).shutdowns ≤ s.isShutdown.toNat := by
    simp [Room.Event.isShutdown]
  unfold MediaCluster.onEndpointControl
  split
  · exact h.onEvent _ hinput
  · exact (h.addAt fresh (by simp)).onEvent fresh hinput

theorem ShutdownOnce.onSdnEvent (h : s.ShutdownOnce) (userdata : RoomUserData Feature)
    (event : SdnEvent) : (s.onSdnEvent userdata event).ShutdownOnce := by
  unfold MediaCluster.onSdnEvent
  split
  · exact h
  · exact h.onEvent _ fun room => by simp [Room.Event.isShutdown]

theorem ShutdownOnce.shutdown (h : s.ShutdownOnce) : s.shutdown.ShutdownOnce := by
  unfold MediaCluster.shutdown
  split
  · exact h
  · rename_i hs
    simp only [ShutdownOnce, Bool.not_eq_true] at h hs
    simp only [hs] at h
    exact h.map fun room hr => by simp [Room.Event.isShutdown] at hr ⊢; omega

theorem ShutdownOnce.step (h : s.ShutdownOnce) (hstep : Step SdnControl EndpointEvent s s') :
    s'.ShutdownOnce := by
  cases hstep with
  | endpointControl fresh _ endpoint roomHash control =>
      exact h.onEndpointControl fresh endpoint roomHash control
  | sdnEvent userdata event => exact h.onSdnEvent userdata event
  | tick =>
      exact TaskGroup.All.map h fun room => by simp [Room.Event.isShutdown, MediaCluster.onTick]
  | shutdown => exact h.shutdown
  | popOutput _ hpop =>
      obtain ⟨rfl, -⟩ | ⟨index, -, -, -, rfl⟩ := popOutput_cases hpop
      · exact h
      · exact TaskGroup.All.removeTask h index

theorem Reachable.shutdownOnce (hs : Reachable SdnControl EndpointEvent s) : s.ShutdownOnce := by
  induction hs with
  | default => exact TaskGroup.All.empty
  | step _ hstep ih => exact ih.step hstep

end ShutdownOnce

/-- `shutdown` is level-triggered: in every reachable cluster each live room
has taken the shutdown event at most once, and none has taken it while the
cluster is not shut down. -/
theorem rooms_take_shutdown_at_most_once {s : MediaCluster Endpoint Feature SdnEvent Control}
    (hs : Reachable SdnControl EndpointEvent s) {i : Nat}
    {room : ClusterRoom Endpoint Feature SdnEvent Control} (hr : s.rooms.get? i = some room) :
    room.shutdowns ≤ 1 ∧ (s.isShutdown = false → room.shutdowns = 0) := by
  have h := hs.shutdownOnce i room hr
  refine ⟨h.trans (Bool.toNat_le _), fun hb => ?_⟩
  rw [hb] at h
  exact Nat.le_zero.mp h

/-- The room of `joinedThenShutdown`: it took the join, then the shutdown. -/
def joinedRoom : ClusterRoom Nat Unit Unit Unit := ⟨⟨1⟩, [.input (.endpoint 1 ()), .shutdown]⟩

theorem rooms_take_shutdown_at_most_once_joined :
    Reachable Unit Unit joinedThenShutdown ∧ joinedThenShutdown.rooms.get? 0 = some joinedRoom ∧
      joinedRoom.shutdowns ≤ 1 ∧ (joinedThenShutdown.isShutdown = false → joinedRoom.shutdowns = 0) :=
  have hget : joinedThenShutdown.rooms.get? 0 = some joinedRoom := rfl
  ⟨joinedThenShutdown_reachable, hget, rooms_take_shutdown_at_most_once joinedThenShutdown_reachable hget⟩

end MediaCluster

end MediaServer.Cluster
