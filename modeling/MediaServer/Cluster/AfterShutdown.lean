import MediaServer.Cluster.RoomsByHash

/-!
# Rooms after the shutdown

`shutdown` gives every live room the shutdown event once and then does
nothing, since the flag stays set. The cluster still creates the room of an
endpoint control for a new hash, and such a room never takes the shutdown
event.

## Implementation notes

The property is proved of the abstract cluster, over every run of abstract
calls from a shut-down state, and carried to the code by the refinement: a run
of the cluster from a reachable state is matched by a run of abstract calls
from its abstraction.
-/

namespace MediaServer.Cluster.AfterShutdown

open Collections Runtime RoomsByHash MediaCluster

section Rooms

variable {Endpoint Feature SdnEvent Control : Type} {m : Rooms Endpoint Feature SdnEvent Control}
  {event : Room.Event Endpoint Feature SdnEvent Control}

/-- How many shutdown events the room for `h` has taken; none if there is no room. -/
def shutdownsAt (m : Rooms Endpoint Feature SdnEvent Control) (h : ClusterRoomHash) : Nat :=
  ((m h).map ClusterRoom.shutdowns).getD 0

/-- Giving the room for `h` a value with no more shutdowns adds none anywhere. -/
theorem shutdownsAt_update_le {h : ClusterRoomHash}
    {v : Option (ClusterRoom Endpoint Feature SdnEvent Control)}
    (hv : (v.map ClusterRoom.shutdowns).getD 0 ≤ shutdownsAt m h) (h' : ClusterRoomHash) :
    shutdownsAt (Function.update m h v) h' ≤ shutdownsAt m h' := by
  by_cases he : h' = h
  · subst he
    simpa [shutdownsAt] using hv
  · simp [shutdownsAt, Function.update_noteq he]

theorem shutdownsAt_control (hev : event.isShutdown = false) (h h' : ClusterRoomHash) :
    shutdownsAt (m.control h event) h' ≤ shutdownsAt m h' :=
  shutdownsAt_update_le (by cases hm : m h <;> simp [shutdownsAt, hm, hev]) h'

theorem shutdownsAt_forward (hev : event.isShutdown = false) (h h' : ClusterRoomHash) :
    shutdownsAt (m.forward h event) h' ≤ shutdownsAt m h' :=
  shutdownsAt_update_le (by cases hm : m h <;> simp [shutdownsAt, hm, hev]) h'

theorem shutdownsAt_broadcast (hev : event.isShutdown = false) (h' : ClusterRoomHash) :
    shutdownsAt (m.broadcast event) h' ≤ shutdownsAt m h' := by
  cases hm : m h' <;> simp [shutdownsAt, Rooms.broadcast, hm, hev]

theorem shutdownsAt_remove (h h' : ClusterRoomHash) :
    shutdownsAt (m.remove h) h' ≤ shutdownsAt m h' :=
  shutdownsAt_update_le (by simp) h'

end Rooms

section Abstract

variable {Endpoint Feature SdnEvent Control : Type}
  {c c' : AbstractCluster Endpoint Feature SdnEvent Control}

/-- Once the cluster is shut down, no abstract call gives a room a shutdown event. -/
theorem shutdownsAt_step {call : AbstractCluster.Call Endpoint Feature SdnEvent Control}
    (hdown : c.isShutdown = true) (hstep : AbstractCluster.Step c call c') :
    c'.isShutdown = true ∧ ∀ h, shutdownsAt c'.rooms h ≤ shutdownsAt c.rooms h := by
  cases hstep with
  | control h => exact ⟨hdown, shutdownsAt_control (by rfl) h⟩
  | forward userdata => exact ⟨hdown, shutdownsAt_forward (by rfl) userdata.room⟩
  | tick => exact ⟨hdown, shutdownsAt_broadcast (by rfl)⟩
  | shutdown h0 => exact absurd hdown (by simp [h0])
  | remove h => exact ⟨hdown, shutdownsAt_remove h⟩

theorem shutdownsAt_run {calls : List (AbstractCluster.Call Endpoint Feature SdnEvent Control)}
    (hdown : c.isShutdown = true) (hrun : AbstractCluster.Run c calls c') :
    c'.isShutdown = true ∧ ∀ h, shutdownsAt c'.rooms h ≤ shutdownsAt c.rooms h := by
  induction hrun with
  | nil => exact ⟨hdown, fun _ => le_rfl⟩
  | snoc _ hstep ih =>
      obtain ⟨hd, hle⟩ := shutdownsAt_step ih.1 hstep
      exact ⟨hd, fun h => (hle h).trans (ih.2 h)⟩

end Abstract

variable {Endpoint Feature SdnEvent Control SdnControl EndpointEvent : Type}

/-- `shutdown` is not sticky for rooms created later: along every run from a
reachable shut-down cluster, the cluster stays shut down and no room takes
another shutdown event, so the room of each hash has taken at most the
shutdowns its hash's room had then, and a room whose hash had none has taken
none. A shut-down cluster still creates the room of an endpoint control for a
hash without one. -/
theorem rooms_created_after_shutdown_never_shut_down {s₀ s : MediaCluster Endpoint Feature SdnEvent Control}
    (hs₀ : Reachable SdnControl EndpointEvent s₀) (hdown : s₀.isShutdown = true)
    (hrun : Relation.ReflTransGen (Step SdnControl EndpointEvent) s₀ s) :
    s.isShutdown = true ∧ (∀ h, shutdownsAt (roomOf s) h ≤ shutdownsAt (roomOf s₀) h) ∧
      ∀ fresh, s.rooms.get? fresh = none → ∀ endpoint h control, roomOf s h = none →
        ∃ room, roomOf (s.onEndpointControl fresh endpoint h control) h = some room ∧ room.shutdowns = 0 := by
  obtain ⟨hs, calls, hcalls⟩ := abstract_reflTransGen hs₀ hrun
  obtain ⟨hd, hle⟩ := shutdownsAt_run hdown hcalls
  refine ⟨hd, hle, fun fresh hfree endpoint h control hnone =>
    ⟨(ClusterRoom.new h).take (.input (.endpoint endpoint control)), ?_,
      by simp [Room.Event.isShutdown]⟩⟩
  rw [roomOf_onEndpointControl hs.registry hfree]
  simp [Rooms.control, hnone]

/-- The cluster of `joinedThenShutdown` after a control for a second hash. -/
def joinedAfterShutdown : MediaCluster Nat Unit Unit Unit :=
  joinedThenShutdown.onEndpointControl 1 2 ⟨2⟩ ()

example : (roomOf joinedAfterShutdown ⟨2⟩).isSome ∧ shutdownsAt (roomOf joinedAfterShutdown) ⟨2⟩ = 0 ∧
    shutdownsAt (roomOf joinedAfterShutdown) ⟨1⟩ = 1 :=
  ⟨rfl, rfl, rfl⟩

theorem rooms_created_after_shutdown_never_shut_down_joined :
    Reachable Unit Unit joinedThenShutdown ∧ joinedThenShutdown.isShutdown = true ∧
    Relation.ReflTransGen (Step Unit Unit) joinedThenShutdown joinedAfterShutdown ∧
    joinedAfterShutdown.isShutdown = true ∧
    (∀ h, shutdownsAt (roomOf joinedAfterShutdown) h ≤ shutdownsAt (roomOf joinedThenShutdown) h) ∧
    ∀ fresh, joinedAfterShutdown.rooms.get? fresh = none → ∀ endpoint h control,
      roomOf joinedAfterShutdown h = none →
        ∃ room, roomOf (joinedAfterShutdown.onEndpointControl fresh endpoint h control) h = some room ∧
          room.shutdowns = 0 :=
  have hrun : Relation.ReflTransGen (Step Unit Unit) joinedThenShutdown joinedAfterShutdown :=
    .single (.endpointControl 1 (show joinedThenShutdown.rooms.get? 1 = none from rfl) 2 ⟨2⟩ ())
  ⟨joinedThenShutdown_reachable, rfl, hrun,
    rooms_created_after_shutdown_never_shut_down joinedThenShutdown_reachable rfl hrun⟩

end MediaServer.Cluster.AfterShutdown
