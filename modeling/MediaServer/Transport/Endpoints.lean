import MediaServer.Transport.Sessions

/-!
# What each endpoint is given

An endpoint keeps the config `spawn` built for it, and takes the shutdown at
most once: `shutdown` forwards it only while the worker is not yet shut down.

## Implementation notes

A step can spawn an endpoint into a free slot, give one endpoint an input,
give every endpoint a tick or the shutdown, or remove one; it does nothing
else to the endpoints (`Effect`). `Preserved` says once what a property of an
endpoint, read against the worker's shutdown flag, needs from each of these,
and `AllLive.of_reachable` carries every such property along all runs.
-/

namespace MediaServer.Transport.Endpoints

open Collections Cluster Runtime MediaWorkerWebrtc Sessions

variable {T : Payloads}

/-- What a property of live endpoints needs from each thing a step can do to
an endpoint: hold of a fresh spawn, survive an input and a tick, and pass from
before the shutdown to after it with the shutdown event. -/
structure Preserved (P : Bool → EndpointTask T → Prop) : Prop where
  spawn : ∀ b serial sessionId app variant,
    P b ⟨serial, app, variant, sessionId, endpointCfg app variant, []⟩
  input : ∀ b e input, P b e → P b (e.take (.input input))
  tick : ∀ b e, P b e → P b (e.take .tick)
  shutdown : ∀ e, P false e → P true (e.take .shutdown)

/-- Every live endpoint satisfies `P` for the worker's shutdown flag. -/
def AllLive (P : Bool → EndpointTask T → Prop) (w : MediaWorkerWebrtc T) : Prop :=
  w.endpoints.All (P w.isShutdown)

section AllLive

variable {P : Bool → EndpointTask T → Prop} {w w' : MediaWorkerWebrtc T}

theorem AllLive.new (udpListen : T.Addr → T.NetOut) (addrs : List T.Addr) (iceLite : Bool) :
    AllLive P (new udpListen addrs iceLite) :=
  TaskGroup.All.empty

/-- Every effect of a step keeps a preserved property of the live endpoints. -/
theorem AllLive.effect [DecidableEq T.Ufrag] [DecidableEq T.Addr]
    {stunUfrag : List UInt8 → Option T.Ufrag} (hP : Preserved P) (h : AllLive P w)
    (he : Effect stunUfrag w w') : AllLive P w' := by
  unfold AllLive at h ⊢
  cases he with
  | keep he _ _ hd => rwa [he, hd]
  | deliver index input he _ _ hd => rw [he, hd]; exact h.onEvent index fun e => hP.input _ e input
  | spawn index _ _ _ _ _ he _ _ hd => rw [he, hd]; exact h.addAt index (hP.spawn _ _ _ _ _)
  | remove index he _ _ hd => rw [he, hd]; exact h.removeTask index
  | tick he _ _ hd => rw [he, hd]; exact h.map (hP.tick _)
  | shutdown h0 he _ _ hd => rw [he, hd]; rw [h0] at h; exact h.map hP.shutdown

theorem AllLive.step [DecidableEq T.Ufrag] [DecidableEq T.Addr]
    {stunUfrag : List UInt8 → Option T.Ufrag} {new2 : WebrtcError → T.RpcError} (hP : Preserved P)
    (h : AllLive P w) (hstep : Step stunUfrag new2 w w') : AllLive P w' :=
  h.effect hP hstep.effect

theorem AllLive.of_reachable [DecidableEq T.Ufrag] [DecidableEq T.Addr]
    {stunUfrag : List UInt8 → Option T.Ufrag} {new2 : WebrtcError → T.RpcError} (hP : Preserved P)
    (hw : Reachable stunUfrag new2 w) : AllLive P w := by
  obtain ⟨udpListen, addrs, iceLite, hrun⟩ := hw
  induction hrun with
  | refl => exact .new udpListen addrs iceLite
  | step _ hstep ih => exact ih.step hP hstep

end AllLive

/-! ### The config of a spawn -/

/-- The endpoint took the shutdown at most once, and not before the worker was shut down. -/
def ShutdownOnce (b : Bool) (e : EndpointTask T) : Prop := e.shutdowns ≤ b.toNat

theorem shutdownOnce_preserved : Preserved (ShutdownOnce (T := T)) where
  spawn _ _ _ _ _ := Nat.zero_le _
  input _ _ _ h := by simpa [ShutdownOnce, TaskEvent.isShutdown] using h
  tick _ _ h := by simpa [ShutdownOnce, TaskEvent.isShutdown] using h
  shutdown _ h := by simp [ShutdownOnce, TaskEvent.isShutdown] at h ⊢; omega

/-- `shutdown` is level-triggered: in every reachable worker each live
endpoint has taken the shutdown event at most once, and none has taken it
while the worker is not shut down. -/
theorem endpoints_take_shutdown_at_most_once [DecidableEq T.Ufrag] [DecidableEq T.Addr]
    {stunUfrag : List UInt8 → Option T.Ufrag} {new2 : WebrtcError → T.RpcError}
    {w : MediaWorkerWebrtc T} (hw : Reachable stunUfrag new2 w) {i : Nat} {e : EndpointTask T}
    (he : w.endpoints.get? i = some e) :
    e.shutdowns ≤ 1 ∧ (w.isShutdown = false → e.shutdowns = 0) := by
  have h : e.shutdowns ≤ w.isShutdown.toNat := AllLive.of_reachable shutdownOnce_preserved hw i e he
  refine ⟨h.trans (Bool.toNat_le _), fun hb => ?_⟩
  rw [hb] at h
  exact Nat.le_zero.mp h

theorem endpoints_take_shutdown_at_most_once_shutdown :
    Reachable (fun _ => none) (fun _ => ()) spawnedOnce.shutdown ∧
    spawnedOnce.shutdown.endpoints.get? 0 = some (firstEndpoint.take .shutdown) ∧
    (firstEndpoint.take .shutdown).shutdowns ≤ 1 ∧
    (spawnedOnce.shutdown.isShutdown = false → (firstEndpoint.take .shutdown).shutdowns = 0) :=
  have hr : Reachable (fun _ => none) (fun _ => ()) spawnedOnce.shutdown := by
    obtain ⟨udpListen, addrs, iceLite, hrun⟩ := spawnedOnce_reachable
    exact ⟨udpListen, addrs, iceLite, .step hrun .shutdown⟩
  have hget : spawnedOnce.shutdown.endpoints.get? 0 = some (firstEndpoint.take .shutdown) := rfl
  ⟨hr, hget, endpoints_take_shutdown_at_most_once hr hget⟩

/-! ### After the shutdown -/

/-- From the shut-down worker `w₀` on: the worker stays shut down, and no
endpoint spawned after `w₀` has taken the shutdown. -/
def QuietAfter (w₀ w : MediaWorkerWebrtc T) : Prop :=
  w.isShutdown = true ∧ w.endpoints.All fun e => w₀.spawned ≤ e.serial → e.shutdowns = 0

section QuietAfter

variable {w₀ w w' : MediaWorkerWebrtc T}

theorem QuietAfter.start (hs : Serials w₀) (hdown : w₀.isShutdown = true) : QuietAfter w₀ w₀ :=
  ⟨hdown, fun i e he hle => absurd (hs.lt i e he) (Nat.not_lt.mpr hle)⟩

/-- Once the worker is shut down, no effect of a step gives an endpoint the shutdown. -/
theorem QuietAfter.effect [DecidableEq T.Ufrag] [DecidableEq T.Addr]
    {stunUfrag : List UInt8 → Option T.Ufrag} (h : QuietAfter w₀ w) (he : Effect stunUfrag w w') :
    QuietAfter w₀ w' := by
  obtain ⟨hdown, hq⟩ := h
  have quiet : ∀ (event : TaskEvent T), event.isShutdown = false → ∀ e : EndpointTask T,
      (w₀.spawned ≤ e.serial → e.shutdowns = 0) → w₀.spawned ≤ (e.take event).serial →
        (e.take event).shutdowns = 0 := fun event hev e he hle => by
    simpa [hev] using he hle
  cases he with
  | keep he _ _ hd => exact ⟨hd ▸ hdown, he ▸ hq⟩
  | deliver index input he _ _ hd =>
      exact ⟨hd ▸ hdown, he ▸ hq.onEvent index (quiet _ rfl)⟩
  | spawn index _ _ _ _ _ he _ _ hd =>
      exact ⟨hd ▸ hdown, he ▸ hq.addAt index fun _ => rfl⟩
  | remove index he _ _ hd => exact ⟨hd ▸ hdown, he ▸ hq.removeTask index⟩
  | tick he _ _ hd => exact ⟨hd ▸ hdown, he ▸ hq.map (quiet _ rfl)⟩
  | shutdown h0 => exact absurd hdown (by simp [h0])

theorem QuietAfter.of_run [DecidableEq T.Ufrag] [DecidableEq T.Addr]
    {stunUfrag : List UInt8 → Option T.Ufrag} {new2 : WebrtcError → T.RpcError} (hs : Serials w₀)
    (hdown : w₀.isShutdown = true) (hrun : Run stunUfrag new2 w₀ w) : QuietAfter w₀ w := by
  induction hrun with
  | refl => exact .start hs hdown
  | step _ hstep ih => exact ih.effect hstep.effect

end QuietAfter

/-- `shutdown` is not sticky for endpoints spawned later: along every run from
a reachable shut-down worker, the worker stays shut down and a further
`shutdown` changes nothing, while `spawn` with a transport and a `RestartIce`
on a free slot whose transport is built still add a fresh endpoint, with no
events; none spawned after that point (its serial is at least the shut-down
worker's spawn count) ever takes the shutdown event. -/
theorem endpoints_spawned_after_shutdown_never_shut_down [DecidableEq T.Ufrag] [DecidableEq T.Addr]
    {stunUfrag : List UInt8 → Option T.Ufrag} {new2 : WebrtcError → T.RpcError} {w₀ w : MediaWorkerWebrtc T}
    (hw₀ : Reachable stunUfrag new2 w₀) (hdown : w₀.isShutdown = true) (hrun : Run stunUfrag new2 w₀ w) :
    w.isShutdown = true ∧ w.shutdown = w ∧
      (∀ app sessionId variant ufrag sdp index,
        (w.spawn app sessionId variant (.ok (ufrag, sdp)) index).1.endpoints.get? index =
          some ⟨w.spawned, app, variant, sessionId, endpointCfg app variant, []⟩) ∧
      (∀ (restart : SpawnResults T) i reqId app variant args record ufrag sdp, w.endpoints.get? i = none →
        restart.transport = .ok (ufrag, sdp) →
        (w.onEvent stunUfrag new2 restart (.ext ⟨i⟩ (.restartIce reqId app variant args record))).endpoints.get?
            restart.index =
          some ⟨w.spawned, app, .webrtc args record, restart.sessionId, endpointCfg app (.webrtc args record), []⟩) ∧
      ∀ i e, w.endpoints.get? i = some e → w₀.spawned ≤ e.serial → e.shutdowns = 0 := by
  obtain ⟨hd, hq⟩ := QuietAfter.of_run hw₀.serials hdown hrun
  refine ⟨hd, by simp [MediaWorkerWebrtc.shutdown, hd],
    fun _ _ _ _ _ _ => by simp [MediaWorkerWebrtc.spawn],
    fun restart i reqId app variant args record ufrag sdp hi ht => ?_, hq⟩
  exact ((restart_ice_spawns_on_free_slot stunUfrag new2 restart w hi reqId app variant args record).1
    ufrag sdp ht).1

/-- The shut-down worker with the first endpoint, after a second spawn into slot 1. -/
def spawnedAfterShutdown : MediaWorkerWebrtc unitPayloads :=
  (spawnedOnce.shutdown.spawn ⟨()⟩ 2 (.whep ()) (.ok ("u2", "answer")) 1).1

example : spawnedAfterShutdown.endpoints.get? 1 = some secondEndpoint := rfl

theorem endpoints_spawned_after_shutdown_never_shut_down_spawnedAfterShutdown :
    Reachable (fun _ => none) (fun _ => ()) spawnedOnce.shutdown ∧ spawnedOnce.shutdown.isShutdown = true ∧
    Run (fun _ => none) (fun _ => ()) spawnedOnce.shutdown spawnedAfterShutdown ∧
    spawnedAfterShutdown.isShutdown = true ∧ spawnedAfterShutdown.shutdown = spawnedAfterShutdown ∧
    (∀ app sessionId variant ufrag sdp index,
      (spawnedAfterShutdown.spawn app sessionId variant (.ok (ufrag, sdp)) index).1.endpoints.get? index =
        some ⟨spawnedAfterShutdown.spawned, app, variant, sessionId, endpointCfg app variant, []⟩) ∧
    (∀ (restart : SpawnResults unitPayloads) i reqId app variant args record ufrag sdp,
      spawnedAfterShutdown.endpoints.get? i = none → restart.transport = .ok (ufrag, sdp) →
      (spawnedAfterShutdown.onEvent (fun _ => none) (fun _ => ()) restart
          (.ext ⟨i⟩ (.restartIce reqId app variant args record))).endpoints.get? restart.index =
        some ⟨spawnedAfterShutdown.spawned, app, .webrtc args record, restart.sessionId,
          endpointCfg app (.webrtc args record), []⟩) ∧
    ∀ i e, spawnedAfterShutdown.endpoints.get? i = some e → spawnedOnce.shutdown.spawned ≤ e.serial →
      e.shutdowns = 0 :=
  have hr : Reachable (fun _ => none) (fun _ => ()) spawnedOnce.shutdown := by
    obtain ⟨udpListen, addrs, iceLite, hrun⟩ := spawnedOnce_reachable
    exact ⟨udpListen, addrs, iceLite, .step hrun .shutdown⟩
  have hrun : Run (fun _ => none) (fun _ => ()) spawnedOnce.shutdown spawnedAfterShutdown :=
    .step (.refl _) (.spawn _ _ _ _ (show spawnedOnce.shutdown.endpoints.get? 1 = none from rfl))
  ⟨hr, rfl, hrun, endpoints_spawned_after_shutdown_never_shut_down hr rfl hrun⟩

end MediaServer.Transport.Endpoints
