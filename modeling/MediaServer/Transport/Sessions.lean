import MediaServer.Transport.Worker

/-!
# Sessions of the WebRTC worker

A handle `WebrtcSession(index)` names a slot, not an endpoint. A live
endpoint never leaves its slot, so while it lives the inputs addressed to its
handle reach it alone; once it is removed, the slot may be given to an endpoint
spawned later, and the inputs still in flight for the old handle reach that
one.

## Implementation notes

Endpoints are told apart by the serial number the model gives each spawn.
`Effect` says once what a step can do to the endpoints and the demux; every
invariant of the worker is proved from it, one case per effect.
-/

namespace MediaServer.Transport.Sessions

open Collections Cluster Runtime MediaWorkerWebrtc

variable {T : Payloads}

/-! ### Steps and runs -/

section Runs

variable [DecidableEq T.Ufrag] [DecidableEq T.Addr]
variable (stunUfrag : List UInt8 → Option T.Ufrag) (new2 : WebrtcError → T.RpcError)

/-- One call of the worker, with `add_task` taking any free slot. -/
inductive Step : MediaWorkerWebrtc T → MediaWorkerWebrtc T → Prop
  | spawn {w : MediaWorkerWebrtc T} (app : AppContext T.AppId) (sessionId : UInt64)
      (variant : VariantParams T) (transport : Except T.RpcError (T.Ufrag × String)) {index : Nat}
      (hfree : w.endpoints.get? index = none) :
      Step w (w.spawn app sessionId variant transport index).1
  | onEvent {w : MediaWorkerWebrtc T} (restart : SpawnResults T)
      (hfree : w.endpoints.get? restart.index = none) (input : GroupInput T) :
      Step w (w.onEvent stunUfrag new2 restart input)
  | onTick {w : MediaWorkerWebrtc T} : Step w w.onTick
  | shutdown {w : MediaWorkerWebrtc T} : Step w w.shutdown
  | popOutput {w : MediaWorkerWebrtc T} {popped : Option (TaskGroupOutput (EndpointOutput T))}
      (hvalid : w.ValidPop popped) : Step w (w.popOutput popped).1

/-- Any interleaving of calls. -/
inductive Run : MediaWorkerWebrtc T → MediaWorkerWebrtc T → Prop
  | refl (w : MediaWorkerWebrtc T) : Run w w
  | step {w₀ w w' : MediaWorkerWebrtc T} : Run w₀ w → Step stunUfrag new2 w w' → Run w₀ w'

/-- The workers some run from `MediaWorkerWebrtc::new` reaches. -/
def Reachable (w : MediaWorkerWebrtc T) : Prop :=
  ∃ udpListen addrs iceLite, Run stunUfrag new2 (new udpListen addrs iceLite) w

end Runs

/-! ### What a step does to the endpoints -/

@[simp] theorem deliver_get? (w : MediaWorkerWebrtc T) (index j : Nat) (input : EndpointInput T) :
    (w.deliver index input).endpoints.get? j =
      if j = index then (w.endpoints.get? index).map (·.take (.input input)) else w.endpoints.get? j :=
  TaskGroup.get?_onEvent _ _ _ _

section Effect

variable [DecidableEq T.Ufrag] [DecidableEq T.Addr] (stunUfrag : List UInt8 → Option T.Ufrag)

/-- The demux of `w'` is that of `w`, or what mapping a packet's remote
address made of it. -/
def Remapped (w w' : MediaWorkerWebrtc T) : Prop :=
  w'.sharedPort = w.sharedPort ∨
    ∃ fromAddr data, w'.sharedPort = (w.sharedPort.mapRemote stunUfrag fromAddr data).1

/-- What one step does to the endpoints, the demux, the spawn count and the
shutdown flag: nothing, an input to one slot, a spawn into a free slot, the
removal of one slot, a tick to every endpoint, or the shutdown to every
endpoint the first time. -/
inductive Effect (w : MediaWorkerWebrtc T) : MediaWorkerWebrtc T → Prop
  | keep {w' : MediaWorkerWebrtc T} (he : w'.endpoints = w.endpoints) (hp : Remapped stunUfrag w w')
      (hs : w'.spawned = w.spawned) (hd : w'.isShutdown = w.isShutdown) : Effect w w'
  | deliver {w' : MediaWorkerWebrtc T} (index : Nat) (input : EndpointInput T)
      (he : w'.endpoints = w.endpoints.onEvent index (·.take (.input input)))
      (hp : Remapped stunUfrag w w') (hs : w'.spawned = w.spawned)
      (hd : w'.isShutdown = w.isShutdown) : Effect w w'
  | spawn {w' : MediaWorkerWebrtc T} (index : Nat) (hfree : w.endpoints.get? index = none)
      (sessionId : UInt64) (app : AppContext T.AppId) (variant : VariantParams T) (ufrag : T.Ufrag)
      (he : w'.endpoints =
        w.endpoints.addAt index ⟨w.spawned, app, variant, sessionId, endpointCfg app variant, []⟩)
      (hp : w'.sharedPort = w.sharedPort.addUfrag ufrag index) (hs : w'.spawned = w.spawned + 1)
      (hd : w'.isShutdown = w.isShutdown) : Effect w w'
  | remove {w' : MediaWorkerWebrtc T} (index : Nat)
      (he : w'.endpoints = w.endpoints.removeTask index)
      (hp : w'.sharedPort = w.sharedPort.removeTask index) (hs : w'.spawned = w.spawned)
      (hd : w'.isShutdown = w.isShutdown) : Effect w w'
  | tick {w' : MediaWorkerWebrtc T} (he : w'.endpoints = w.endpoints.map (·.take .tick))
      (hp : w'.sharedPort = w.sharedPort) (hs : w'.spawned = w.spawned)
      (hd : w'.isShutdown = w.isShutdown) : Effect w w'
  | shutdown {w' : MediaWorkerWebrtc T} (h0 : w.isShutdown = false)
      (he : w'.endpoints = w.endpoints.map (·.take .shutdown)) (hp : w'.sharedPort = w.sharedPort)
      (hs : w'.spawned = w.spawned) (hd : w'.isShutdown = true) : Effect w w'

variable {stunUfrag} {w w' : MediaWorkerWebrtc T}

theorem Effect.refl (w : MediaWorkerWebrtc T) : Effect stunUfrag w w := .keep rfl (.inl rfl) rfl rfl

/-- The queue is no part of the effect. -/
theorem Effect.with_queue (h : Effect stunUfrag w w') (queue : List (GroupOutput T)) :
    Effect stunUfrag w { w' with queue } := by
  cases h with
  | keep he hp hs hd => exact .keep he hp hs hd
  | deliver index input he hp hs hd => exact .deliver index input he hp hs hd
  | spawn index hfree sessionId app variant ufrag he hp hs hd =>
      exact .spawn index hfree sessionId app variant ufrag he hp hs hd
  | remove index he hp hs hd => exact .remove index he hp hs hd
  | tick he hp hs hd => exact .tick he hp hs hd
  | shutdown h0 he hp hs hd => exact .shutdown h0 he hp hs hd

theorem effect_spawn {index : Nat} (hfree : w.endpoints.get? index = none) (app : AppContext T.AppId)
    (sessionId : UInt64) (variant : VariantParams T) (transport : Except T.RpcError (T.Ufrag × String)) :
    Effect stunUfrag w (w.spawn app sessionId variant transport index).1 := by
  unfold MediaWorkerWebrtc.spawn
  split
  · exact .refl w
  · exact .spawn index hfree sessionId app variant _ rfl rfl rfl rfl

theorem effect_onExtMissing (new2 : WebrtcError → T.RpcError) {restart : SpawnResults T}
    (hfree : w.endpoints.get? restart.index = none) (owner : WebrtcSession) (ext : ExtIn T) :
    Effect stunUfrag w (w.onExtMissing new2 restart owner ext) := by
  unfold MediaWorkerWebrtc.onExtMissing
  split
  · exact (Effect.refl w).with_queue _
  · rename_i app variant args record
    have h : Effect stunUfrag w
        (w.spawn app restart.sessionId (.webrtc args record) restart.transport restart.index).1 :=
      effect_spawn hfree _ _ _ _
    split <;> (rename_i heq; rw [heq] at h; exact h.with_queue _)
  · exact (Effect.refl w).with_queue _

theorem effect_onEvent (new2 : WebrtcError → T.RpcError) {restart : SpawnResults T}
    (hfree : w.endpoints.get? restart.index = none) (input : GroupInput T) :
    Effect stunUfrag w (w.onEvent stunUfrag new2 restart input) := by
  unfold MediaWorkerWebrtc.onEvent
  split
  · split
    · exact .keep rfl (.inl rfl) rfl rfl
    · exact .refl w
  · rename_i fromAddr data
    split
    · rename_i index heq
      exact .deliver index _ rfl (.inr ⟨fromAddr, data, by rw [heq]; rfl⟩) rfl rfl
    · rename_i heq
      exact .keep rfl (.inr ⟨fromAddr, data, by rw [heq]⟩) rfl rfl
  · exact .deliver _ _ rfl (.inl rfl) rfl rfl
  · split
    · exact .deliver _ _ rfl (.inl rfl) rfl rfl
    · exact effect_onExtMissing new2 hfree _ _

theorem effect_popOutput (popped : Option (TaskGroupOutput (EndpointOutput T))) :
    Effect stunUfrag w (w.popOutput popped).1 := by
  unfold MediaWorkerWebrtc.popOutput
  split
  · exact (Effect.refl w).with_queue _
  · split
    · exact .refl w
    · exact .refl w
    · rename_i index out
      cases out
      case onResourceEmpty => exact .remove index rfl rfl rfl rfl
      all_goals exact .refl w

/-- Every step has one of the effects. -/
theorem Step.effect {new2 : WebrtcError → T.RpcError} (hstep : Step stunUfrag new2 w w') :
    Effect stunUfrag w w' := by
  cases hstep with
  | spawn app sessionId variant transport hfree => exact effect_spawn hfree app sessionId variant transport
  | onEvent restart hfree input => exact effect_onEvent new2 hfree input
  | onTick => exact .tick rfl rfl rfl rfl
  | shutdown =>
      unfold MediaWorkerWebrtc.shutdown
      split
      · exact .refl w
      · exact .shutdown (Bool.eq_false_iff.mpr ‹_›) rfl rfl rfl rfl
  | popOutput _ => exact effect_popOutput _

end Effect

/-- `w'` holds the endpoints of `w` in their slots, less some, and at most one
more, in slot `fresh`, with the next serial. -/
def Grows (w w' : MediaWorkerWebrtc T) (fresh : Nat) : Prop :=
  w.spawned ≤ w'.spawned ∧ ∀ j e', w'.endpoints.get? j = some e' →
    (∃ e, w.endpoints.get? j = some e ∧ e.serial = e'.serial) ∨
      (j = fresh ∧ e'.serial = w.spawned ∧ w.spawned < w'.spawned)

section Grows

variable {w w' : MediaWorkerWebrtc T}

/-- A step that spawns nothing and keeps or removes each endpoint. -/
theorem Grows.of_serials (hs : w'.spawned = w.spawned)
    (h : ∀ j, w'.endpoints.get? j = none ∨
      (w'.endpoints.get? j).map EndpointTask.serial = (w.endpoints.get? j).map EndpointTask.serial)
    (fresh : Nat) : Grows w w' fresh := by
  refine ⟨hs.ge, fun j e' he' => .inl ?_⟩
  rcases h j with h | h
  · simp [he'] at h
  · rw [he'] at h
    obtain ⟨e, he, hse⟩ := Option.map_eq_some'.mp h.symm
    exact ⟨e, he, hse⟩

theorem Effect.grows [DecidableEq T.Ufrag] [DecidableEq T.Addr] {stunUfrag : List UInt8 → Option T.Ufrag}
    (h : Effect stunUfrag w w') : ∃ fresh, Grows w w' fresh := by
  cases h with
  | keep he _ hs _ => exact ⟨0, .of_serials hs (fun j => .inr (by rw [he])) 0⟩
  | deliver index input he _ hs _ =>
      exact ⟨0, .of_serials hs (fun j => .inr (by
        rw [he]; exact TaskGroup.map_get?_onEvent _ (fun e => EndpointTask.take_serial e _) _ _ _)) 0⟩
  | spawn index _ sessionId app variant _ he _ hs _ =>
      refine ⟨index, by omega, fun j e' he' => ?_⟩
      rw [he, TaskGroup.get?_addAt] at he'
      split at he'
      · exact .inr ⟨‹_›, by cases he'; rfl, by omega⟩
      · exact .inl ⟨e', he', rfl⟩
  | remove index he _ hs _ =>
      refine ⟨0, .of_serials hs (fun j => ?_) 0⟩
      rw [he, TaskGroup.get?_removeTask]
      split
      · exact .inl rfl
      · exact .inr rfl
  | tick he _ hs _ | shutdown _ he _ hs _ =>
      exact ⟨0, .of_serials hs (fun j => .inr (by
        rw [he]; exact TaskGroup.map_get?_map _ (fun e => EndpointTask.take_serial e _) _ _)) 0⟩

theorem Step.grows [DecidableEq T.Ufrag] [DecidableEq T.Addr] {stunUfrag : List UInt8 → Option T.Ufrag}
    {new2 : WebrtcError → T.RpcError} (hstep : Step stunUfrag new2 w w') : ∃ fresh, Grows w w' fresh :=
  hstep.effect.grows

end Grows

/-! ### Endpoints keep their slots -/

/-- Serial numbers are below the spawn count and tell live endpoints apart. -/
structure Serials (w : MediaWorkerWebrtc T) : Prop where
  lt : ∀ j e, w.endpoints.get? j = some e → e.serial < w.spawned
  inj : ∀ j k e e', w.endpoints.get? j = some e → w.endpoints.get? k = some e' →
    e.serial = e'.serial → j = k

/-- The endpoint `e`, if it is live in `w`, is in slot `i`. -/
def StaysIn (w : MediaWorkerWebrtc T) (i : Nat) (e : EndpointTask T) : Prop :=
  ∀ j e', w.endpoints.get? j = some e' → e'.serial = e.serial → j = i

/-- Every endpoint of `w₀` that is live in `w` is in the slot it had in `w₀`. -/
def Stays (w₀ w : MediaWorkerWebrtc T) : Prop :=
  w₀.spawned ≤ w.spawned ∧ ∀ i e, w₀.endpoints.get? i = some e → StaysIn w i e

section Serials

variable {w₀ w w' : MediaWorkerWebrtc T}

theorem Serials.new [DecidableEq T.Ufrag] [DecidableEq T.Addr] (udpListen : T.Addr → T.NetOut)
    (addrs : List T.Addr) (iceLite : Bool) : Serials (new udpListen addrs iceLite) :=
  ⟨fun _ _ h => by simp [MediaWorkerWebrtc.new] at h, fun _ _ _ _ h => by simp [MediaWorkerWebrtc.new] at h⟩

theorem Serials.grows (hs : Serials w) {fresh : Nat} (hg : Grows w w' fresh) : Serials w' := by
  constructor
  · intro j e he
    rcases hg.2 j e he with ⟨e₀, he₀, hse⟩ | ⟨-, hse, hlt⟩
    · exact hse ▸ Nat.lt_of_lt_of_le (hs.lt j e₀ he₀) hg.1
    · exact hse ▸ hlt
  · intro j k e e' he he' hee
    rcases hg.2 j e he with ⟨e₀, he₀, hs₀⟩ | ⟨rfl, hs₀, -⟩ <;>
      rcases hg.2 k e' he' with ⟨e₁, he₁, hs₁⟩ | ⟨rfl, hs₁, -⟩
    · exact hs.inj j k e₀ e₁ he₀ he₁ (by rw [hs₀, hs₁, hee])
    · have := hs.lt j e₀ he₀; omega
    · have := hs.lt k e₁ he₁; omega
    · rfl

theorem Serials.stays (hs : Serials w) : Stays w w :=
  ⟨le_rfl, fun i e he j e' he' hse => hs.inj j i e' e he' he hse⟩

theorem Stays.grows (h : Stays w₀ w) (hs₀ : Serials w₀) {fresh : Nat} (hg : Grows w w' fresh) :
    Stays w₀ w' := by
  refine ⟨h.1.trans hg.1, fun i e he j e' he' hse => ?_⟩
  rcases hg.2 j e' he' with ⟨e₁, he₁, hs₁⟩ | ⟨-, hs₁, -⟩
  · exact h.2 i e he j e₁ he₁ (hs₁.trans hse)
  · have := hs₀.lt i e he; have := h.1; omega

variable [DecidableEq T.Ufrag] [DecidableEq T.Addr] {stunUfrag : List UInt8 → Option T.Ufrag}
  {new2 : WebrtcError → T.RpcError}

theorem Run.serials (hs₀ : Serials w₀) (hrun : Run stunUfrag new2 w₀ w) : Serials w := by
  induction hrun with
  | refl => exact hs₀
  | step _ hstep ih => exact ih.grows (hstep.grows.choose_spec)

theorem Reachable.serials (hw : Reachable stunUfrag new2 w) : Serials w := by
  obtain ⟨udpListen, addrs, iceLite, hrun⟩ := hw
  exact hrun.serials (.new udpListen addrs iceLite)

/-- Along any run, a live endpoint never leaves its slot. -/
theorem Run.stays (hs₀ : Serials w₀) (hrun : Run stunUfrag new2 w₀ w) : Stays w₀ w := by
  induction hrun with
  | refl => exact hs₀.stays
  | step _ hstep ih => exact ih.grows hs₀ (hstep.grows.choose_spec)

end Serials

/-! ### The demux names live endpoints -/

section PortLive

variable [DecidableEq T.Ufrag] [DecidableEq T.Addr] {w w' : MediaWorkerWebrtc T}

/-- Every registration of the demux names an occupied slot. -/
def PortLive (w : MediaWorkerWebrtc T) : Prop :=
  w.sharedPort.Names fun i => (w.endpoints.get? i).isSome

theorem PortLive.new (udpListen : T.Addr → T.NetOut) (addrs : List T.Addr) (iceLite : Bool) :
    PortLive (new udpListen addrs iceLite) :=
  @SharedUdpPort.Names.default T.Ufrag T.Addr _ _ _

/-- A step that keeps the demux and every occupied slot keeps the invariant. -/
theorem PortLive.keep (h : PortLive w) (hp : w'.sharedPort = w.sharedPort)
    (he : ∀ j, (w.endpoints.get? j).isSome → (w'.endpoints.get? j).isSome) : PortLive w' := by
  unfold PortLive at h ⊢; rw [hp]; exact h.mono he

/-- Every effect of a step keeps the demux naming live endpoints. -/
theorem PortLive.effect {stunUfrag : List UInt8 → Option T.Ufrag} (h : PortLive w)
    (he : Effect stunUfrag w w') : PortLive w' := by
  have remapped : ∀ {live : Nat → Prop}, w.sharedPort.Names live → Remapped stunUfrag w w' →
      w'.sharedPort.Names live := fun hn hp => by
    rcases hp with hp | ⟨fromAddr, data, hp⟩
    · rw [hp]; exact hn
    · rw [hp]; exact (SharedUdpPort.Names.mapRemote hn stunUfrag fromAddr data).1
  cases he with
  | keep he hp _ _ => exact (remapped h hp).mono fun j hj => by rwa [he]
  | deliver index input he hp _ _ =>
      exact (remapped h hp).mono fun j hj => by rwa [he, TaskGroup.isSome_get?_onEvent]
  | spawn index _ _ _ _ ufrag he hp _ _ =>
      unfold PortLive
      rw [hp]
      refine (SharedUdpPort.Names.mono h fun j hj => ?_).addUfrag _ (by simp [he])
      rw [he, TaskGroup.get?_addAt]
      split <;> simp_all
  | remove index he hp _ _ =>
      unfold PortLive
      rw [hp]
      refine (SharedUdpPort.Names.removeTask h index).mono fun j ⟨hj, hne⟩ => ?_
      simpa [he, hne] using hj
  | tick he hp _ _ | shutdown _ he hp _ _ => exact h.keep hp fun j hj => by simpa [he] using hj

theorem PortLive.step {stunUfrag : List UInt8 → Option T.Ufrag} {new2 : WebrtcError → T.RpcError}
    (h : PortLive w) (hstep : Step stunUfrag new2 w w') : PortLive w' :=
  h.effect hstep.effect

theorem Reachable.portLive {stunUfrag : List UInt8 → Option T.Ufrag} {new2 : WebrtcError → T.RpcError}
    (hw : Reachable stunUfrag new2 w) : PortLive w := by
  obtain ⟨udpListen, addrs, iceLite, hrun⟩ := hw
  induction hrun with
  | refl => exact .new udpListen addrs iceLite
  | step _ hstep ih => exact ih.step hstep

end PortLive

/-! ### A run that reuses a slot -/

/-- Payloads of a worked run: string ufrags, and units for the rest. -/
@[reducible] def unitPayloads : Payloads :=
  ⟨Unit, String, Unit, Unit, Unit, Unit, Unit, Unit, Unit, Unit, Unit, Unit, Unit⟩

/-- The first endpoint, spawned as a WHEP session into slot 0. -/
def firstEndpoint : EndpointTask unitPayloads :=
  ⟨0, ⟨()⟩, .whep (), 1, ⟨⟨()⟩, 2500000, 2500000, false⟩, []⟩

/-- The second endpoint, spawned into slot 0 after the first was removed. -/
def secondEndpoint : EndpointTask unitPayloads :=
  ⟨1, ⟨()⟩, .whep (), 2, ⟨⟨()⟩, 2500000, 2500000, false⟩, []⟩

/-- A fresh worker after one spawn. -/
def spawnedOnce : MediaWorkerWebrtc unitPayloads :=
  ((new (fun _ => ()) [] false : MediaWorkerWebrtc unitPayloads).spawn ⟨()⟩ 1 (.whep ())
    (.ok ("u1", "answer")) 0).1

/-- The worker after the first endpoint reported empty and was removed. -/
def removedOnce : MediaWorkerWebrtc unitPayloads :=
  (spawnedOnce.popOutput (some (.taskOutput 0 .onResourceEmpty))).1

/-- The worker after a second spawn into the freed slot. -/
def respawned : MediaWorkerWebrtc unitPayloads :=
  (removedOnce.spawn ⟨()⟩ 2 (.whep ()) (.ok ("u2", "answer")) 0).1

theorem spawnedOnce_reachable : Reachable (fun _ => none) (fun _ => ()) spawnedOnce :=
  ⟨fun _ => (), [], false, .step (.refl _) (.spawn _ _ _ _ (show (new (fun _ => ()) [] false :
    MediaWorkerWebrtc unitPayloads).endpoints.get? 0 = none from rfl))⟩

theorem run_respawned : Run (fun _ => none) (fun _ => ()) spawnedOnce respawned :=
  .step (.step (.refl _) (.popOutput
      (show spawnedOnce.ValidPop (some (.taskOutput 0 .onResourceEmpty)) from rfl)))
    (.spawn _ _ _ _ (removedOnce.endpoints.get?_firstFree : removedOnce.endpoints.get? 0 = none))

/-! ### Inputs addressed to a handle -/

section Routing

variable [DecidableEq T.Ufrag] [DecidableEq T.Addr] (stunUfrag : List UInt8 → Option T.Ufrag)
  (new2 : WebrtcError → T.RpcError) (restart : SpawnResults T)

/-- Inputs addressed to `WebrtcSession(i)` reach the endpoint in slot `i`: a
cluster event always, a signalling request if the slot is occupied; to a free
slot, `RemoteIce` and `Disconnect` are answered with `RpcEndpointNotFound`. -/
def RoutesToSlot (w : MediaWorkerWebrtc T) (i : Nat) : Prop :=
  (∀ event, w.onEvent stunUfrag new2 restart (.cluster ⟨i⟩ event) = w.deliver i (.cluster event)) ∧
  (∀ ext, (w.endpoints.get? i).isSome →
    w.onEvent stunUfrag new2 restart (.ext ⟨i⟩ ext) = w.deliver i (.ext ext)) ∧
  (w.endpoints.get? i = none → ∀ reqId variant,
    (∀ candidate, w.onEvent stunUfrag new2 restart (.ext ⟨i⟩ (.remoteIce reqId variant candidate)) =
      { w with queue := w.queue ++
        [.ext ⟨i⟩ (.remoteIce reqId variant (.error (new2 .rpcEndpointNotFound)))] }) ∧
    w.onEvent stunUfrag new2 restart (.ext ⟨i⟩ (.disconnect reqId variant)) =
      { w with queue := w.queue ++
        [.ext ⟨i⟩ (.disconnect reqId variant (.error (new2 .rpcEndpointNotFound)))] })

theorem routesToSlot (w : MediaWorkerWebrtc T) (i : Nat) : RoutesToSlot stunUfrag new2 restart w i := by
  refine ⟨fun _ => rfl, fun ext hi => ?_, fun hi reqId variant => ?_⟩
  · simp only [onEvent, TaskGroup.hasTask, hi, if_true]
  · simp only [onEvent, TaskGroup.hasTask, hi, Option.isSome_none]
    exact ⟨fun _ => rfl, rfl⟩

/-- An input addressed to a handle reaches whatever endpoint is in its slot
when the input arrives. The endpoint the handle was issued for is that one as
long as it lives; after it is removed, the slot is free or holds another
endpoint. -/
theorem session_input_reaches_slot_occupant {w₀ w : MediaWorkerWebrtc T}
    (hw₀ : Reachable stunUfrag new2 w₀) {i : Nat} {e : EndpointTask T}
    (he : w₀.endpoints.get? i = some e) (hrun : Run stunUfrag new2 w₀ w) :
    StaysIn w i e ∧ RoutesToSlot stunUfrag new2 restart w i :=
  ⟨(hrun.stays hw₀.serials).2 i e he, routesToSlot stunUfrag new2 restart w i⟩

theorem session_input_reaches_slot_occupant_respawned :
    Reachable (fun _ => none) (fun _ => ()) spawnedOnce ∧
    spawnedOnce.endpoints.get? 0 = some firstEndpoint ∧
    Run (fun _ => none) (fun _ => ()) spawnedOnce respawned ∧
    StaysIn respawned 0 firstEndpoint ∧
    RoutesToSlot (fun _ => none) (fun _ => ()) ⟨0, .error (), 1⟩ respawned 0 :=
  ⟨spawnedOnce_reachable, rfl, run_respawned,
    session_input_reaches_slot_occupant (fun _ => none) (fun _ => ()) ⟨0, .error (), 1⟩
      spawnedOnce_reachable (show spawnedOnce.endpoints.get? 0 = some firstEndpoint from rfl)
      run_respawned⟩

/-- In this run the first spawn returns the handle `WebrtcSession(0)`; the
endpoint is removed and a second one is spawned into slot 0, the slot the
crate's lowest-free allocation picks. A cluster event and a `RemoteIce` still
addressed to the first endpoint's handle then reach the second endpoint, and
no `RpcEndpointNotFound` answers them. -/
theorem session_input_reaches_respawned_endpoint :
    ((new (fun _ => ()) [] false : MediaWorkerWebrtc unitPayloads).spawn ⟨()⟩ 1 (.whep ())
      (.ok ("u1", "answer")) 0).2 = .ok (false, "answer", 0) ∧
    Reachable (fun _ => none) (fun _ => ()) spawnedOnce ∧
    spawnedOnce.endpoints.get? 0 = some firstEndpoint ∧
    Run (fun _ => none) (fun _ => ()) spawnedOnce respawned ∧
    removedOnce.endpoints.firstFree = 0 ∧
    respawned.endpoints.get? 0 = some secondEndpoint ∧
    secondEndpoint.serial ≠ firstEndpoint.serial ∧
    (respawned.onEvent (fun _ => none) (fun _ => ()) ⟨0, .error (), 1⟩ (.cluster ⟨0⟩ ())).endpoints.get? 0 =
      some (secondEndpoint.take (.input (.cluster ()))) ∧
    respawned.onEvent (fun _ => none) (fun _ => ()) ⟨0, .error (), 1⟩ (.ext ⟨0⟩ (.remoteIce () () ())) =
      respawned.deliver 0 (.ext (.remoteIce () () ())) :=
  ⟨rfl, spawnedOnce_reachable, rfl, run_respawned, rfl, rfl, by decide, rfl, rfl⟩

end Routing

section Demux

/-- In every reachable worker the demux registers only live endpoints, so a
packet is delivered only to a live one. -/
theorem demux_names_live_endpoints [DecidableEq T.Ufrag] [DecidableEq T.Addr]
    {stunUfrag : List UInt8 → Option T.Ufrag} {new2 : WebrtcError → T.RpcError}
    {w : MediaWorkerWebrtc T} (hw : Reachable stunUfrag new2 w) :
    (∀ ufrag i, w.sharedPort.ufrags.get? ufrag = some i → (w.endpoints.get? i).isSome) ∧
    (∀ addr i, w.sharedPort.remotes.get? addr = some i → (w.endpoints.get? i).isSome) ∧
    ∀ fromAddr data i, (w.sharedPort.mapRemote stunUfrag fromAddr data).2 = some i →
      (w.endpoints.get? i).isSome :=
  have h := hw.portLive
  ⟨h.1, h.2, fun fromAddr data => (SharedUdpPort.Names.mapRemote h stunUfrag fromAddr data).2⟩

theorem demux_names_live_endpoints_spawnedOnce :
    Reachable (fun _ => none) (fun _ => ()) spawnedOnce ∧
    (∀ ufrag i, spawnedOnce.sharedPort.ufrags.get? ufrag = some i → (spawnedOnce.endpoints.get? i).isSome) ∧
    (∀ addr i, spawnedOnce.sharedPort.remotes.get? addr = some i → (spawnedOnce.endpoints.get? i).isSome) ∧
    ∀ fromAddr data i, (spawnedOnce.sharedPort.mapRemote (fun _ => none) fromAddr data).2 = some i →
      (spawnedOnce.endpoints.get? i).isSome :=
  ⟨spawnedOnce_reachable, demux_names_live_endpoints spawnedOnce_reachable⟩

/-- A reachable worker that reports empty, shut down with its queue drained
and no live endpoint, holds no ufrag and no peer-address registration. -/
theorem empty_worker_holds_no_registrations [DecidableEq T.Ufrag] [DecidableEq T.Addr]
    {stunUfrag : List UInt8 → Option T.Ufrag} {new2 : WebrtcError → T.RpcError}
    {w : MediaWorkerWebrtc T} (hw : Reachable stunUfrag new2 w) (he : w.isEmpty = true) :
    w.sharedPort.ufrags.keys = [] ∧ w.sharedPort.remotes.keys = [] := by
  have hno : ∀ i, w.endpoints.get? i = none :=
    (TaskGroup.isEmpty_iff _).mp (Bool.and_eq_true_iff.mp he).2
  have h := hw.portLive
  refine ⟨List.eq_nil_iff_forall_not_mem.mpr fun u hu => ?_,
    List.eq_nil_iff_forall_not_mem.mpr fun a ha => ?_⟩
  · obtain ⟨i, hi⟩ := (IndexMap.mem_keys_iff _ _).mp hu
    simpa [hno i] using h.1 u i hi
  · obtain ⟨i, hi⟩ := (IndexMap.mem_keys_iff _ _).mp ha
    simpa [hno i] using h.2 a i hi

theorem empty_worker_holds_no_registrations_shutdown :
    Reachable (fun _ => none) (fun _ => ()) removedOnce.shutdown ∧
      removedOnce.shutdown.isEmpty = true ∧ removedOnce.shutdown.sharedPort.ufrags.keys = [] ∧
      removedOnce.shutdown.sharedPort.remotes.keys = [] :=
  have hr : Reachable (fun _ => none) (fun _ => ()) removedOnce.shutdown := by
    obtain ⟨udpListen, addrs, iceLite, hrun⟩ := spawnedOnce_reachable
    exact ⟨udpListen, addrs, iceLite, .step (.step hrun (.popOutput
      (show spawnedOnce.ValidPop (some (.taskOutput 0 .onResourceEmpty)) from rfl))) .shutdown⟩
  ⟨hr, rfl, empty_worker_holds_no_registrations hr rfl⟩

end Demux

section Restart

variable [DecidableEq T.Ufrag] [DecidableEq T.Addr] (stunUfrag : List UInt8 → Option T.Ufrag)
  (new2 : WebrtcError → T.RpcError) (restart : SpawnResults T)

/-- A `RestartIce` whose slot is free spawns a WebRTC endpoint in the slot
`add_task` gives and answers on the new endpoint's handle; when the transport
cannot be built it answers `RpcEndpointNotFound` on the old handle. -/
theorem restart_ice_spawns_on_free_slot (w : MediaWorkerWebrtc T) {i : Nat}
    (hi : w.endpoints.get? i = none) (reqId : T.ReqId) (app : AppContext T.AppId) (variant : T.Variant)
    (args : T.VariantArgs) (record : Bool) :
    (∀ ufrag sdp, restart.transport = .ok (ufrag, sdp) →
      (w.onEvent stunUfrag new2 restart (.ext ⟨i⟩ (.restartIce reqId app variant args record))).endpoints.get?
          restart.index =
        some ⟨w.spawned, app, .webrtc args record, restart.sessionId, endpointCfg app (.webrtc args record), []⟩ ∧
      (w.onEvent stunUfrag new2 restart (.ext ⟨i⟩ (.restartIce reqId app variant args record))).queue =
        w.queue ++ [.ext ⟨restart.index⟩ (.restartIce reqId variant (.ok (w.iceLite, sdp)))]) ∧
    (∀ e, restart.transport = .error e →
      w.onEvent stunUfrag new2 restart (.ext ⟨i⟩ (.restartIce reqId app variant args record)) =
        { w with queue := w.queue ++
          [.ext ⟨i⟩ (.restartIce reqId variant (.error (new2 .rpcEndpointNotFound)))] }) := by
  refine ⟨fun ufrag sdp ht => ?_, fun e ht => ?_⟩ <;>
    simp only [onEvent, TaskGroup.hasTask, hi, Option.isSome_none, Bool.false_eq_true, if_false,
      onExtMissing, spawn, ht]
  simp

end Restart

end MediaServer.Transport.Sessions
