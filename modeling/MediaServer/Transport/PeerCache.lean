import MediaServer.Transport.Sessions

/-!
# The peer-address cache of the demux

Once a packet from a peer address has been matched by a ufrag, the demux
caches the address for the slot it was matched to, and later packets from it
skip the STUN lookup. The cache belongs to the endpoint that got that packet:
removing the endpoint drops its entries, so an endpoint spawned later into the
same slot starts with none.

## Implementation notes

The demux is modelled from the spec (`shared_port.rs` is outside the source).
Only the packet path adds cache entries. Every other step keeps the cache or
drops entries, and `CacheHeard.of_effect` covers those steps at once, one case
per effect.
-/

namespace MediaServer.Transport.PeerCache

open Collections Cluster Runtime MediaWorkerWebrtc Sessions

variable {T : Payloads}

/-- The endpoint has been given a packet from `addr`. -/
def Heard (e : EndpointTask T) (addr : T.Addr) : Prop :=
  ∃ slot data, TaskEvent.input (.net (.udpPacket slot addr data)) ∈ e.events

theorem Heard.take {e : EndpointTask T} {addr : T.Addr} (h : Heard e addr)
    (event : TaskEvent T) : Heard (e.take event) addr :=
  let ⟨slot, data, hm⟩ := h
  ⟨slot, data, List.mem_append_left _ hm⟩

/-- Every peer address the demux has cached for a slot has sent a packet to
the endpoint now in that slot. -/
def CacheHeard [DecidableEq T.Addr] (w : MediaWorkerWebrtc T) : Prop :=
  ∀ addr i, w.sharedPort.remotes.get? addr = some i → ∃ e, w.endpoints.get? i = some e ∧ Heard e addr

/-! ### What each call does to the cache -/

@[simp] theorem spawn_remotes [DecidableEq T.Ufrag] (w : MediaWorkerWebrtc T) (app : AppContext T.AppId)
    (sessionId : UInt64) (variant : VariantParams T) (transport : Except T.RpcError (T.Ufrag × String))
    (index : Nat) :
    (w.spawn app sessionId variant transport index).1.sharedPort.remotes =
      w.sharedPort.remotes := by
  unfold spawn; split <;> rfl

@[simp] theorem onExtMissing_remotes [DecidableEq T.Ufrag] (new2 : WebrtcError → T.RpcError)
    (restart : SpawnResults T) (w : MediaWorkerWebrtc T) (owner : WebrtcSession) (ext : ExtIn T) :
    (w.onExtMissing new2 restart owner ext).sharedPort.remotes = w.sharedPort.remotes := by
  unfold onExtMissing
  split
  · rfl
  · rename_i app variant args record
    have h := spawn_remotes w app restart.sessionId (.webrtc args record) restart.transport
      restart.index
    split <;> (rename_i heq; rw [heq] at h; exact h)
  · rfl

/-- `pop_output` leaves the demux alone, or removes one slot from the demux and
the endpoints together. -/
theorem popOutput_port (w : MediaWorkerWebrtc T)
    (popped : Option (TaskGroupOutput (EndpointOutput T))) :
    (w.popOutput popped).1.sharedPort = w.sharedPort ∨
      ∃ index, (w.popOutput popped).1.sharedPort = w.sharedPort.removeTask index ∧
        (w.popOutput popped).1.endpoints = w.endpoints.removeTask index := by
  unfold popOutput
  split
  · exact .inl rfl
  · split
    · exact .inl rfl
    · exact .inl rfl
    · rename_i index out
      cases out
      case onResourceEmpty => exact .inr ⟨index, rfl, rfl⟩
      all_goals exact .inl rfl

/-! ### The cache stays with the endpoint it was made for -/

variable {w w' : MediaWorkerWebrtc T}

theorem CacheHeard.new [DecidableEq T.Addr] (udpListen : T.Addr → T.NetOut) (addrs : List T.Addr)
    (iceLite : Bool) :
    CacheHeard (new udpListen addrs iceLite) := fun _ _ h => by
  simp [MediaWorkerWebrtc.new, SharedUdpPort.default] at h

/-- An input to one slot keeps what every endpoint has heard. -/
theorem heard_deliver {i : Nat} {e : EndpointTask T} {addr : T.Addr}
    (he : w.endpoints.get? i = some e) (hh : Heard e addr) (index : Nat) (input : EndpointInput T) :
    ∃ e', (w.deliver index input).endpoints.get? i = some e' ∧ Heard e' addr := by
  by_cases hi : i = index
  · subst hi
    exact ⟨e.take (.input input), by simp [he], hh.take _⟩
  · exact ⟨e, by simp [hi, he], hh⟩

variable [DecidableEq T.Ufrag] [DecidableEq T.Addr]

/-- A step that adds no cache entry keeps the cache with its endpoints. -/
theorem CacheHeard.of_effect {stunUfrag : List UInt8 → Option T.Ufrag} (h : CacheHeard w)
    (hpl : PortLive w) (heff : Effect stunUfrag w w')
    (hr : ∀ addr i, w'.sharedPort.remotes.get? addr = some i →
      w.sharedPort.remotes.get? addr = some i) :
    CacheHeard w' := by
  intro addr i hi
  have hi₀ := hr addr i hi
  obtain ⟨e, he, hh⟩ := h addr i hi₀
  cases heff with
  | keep he' => exact ⟨e, he' ▸ he, hh⟩
  | deliver index input he' =>
      obtain ⟨e', he'', hh'⟩ := heard_deliver he hh index input
      exact ⟨e', he' ▸ he'', hh'⟩
  | spawn index hfree _ _ _ _ he' =>
      have hne : i ≠ index := fun hi' => by simpa [hi', hfree] using hpl.2 addr i hi₀
      exact ⟨e, by rw [he', TaskGroup.get?_addAt, if_neg hne, he], hh⟩
  | remove index he' hp =>
      rw [hp] at hi
      simp only [SharedUdpPort.removeTask, IndexMap.get?_retain, Option.filter_eq_some,
        decide_eq_true_eq] at hi
      exact ⟨e, by rw [he', TaskGroup.get?_removeTask, if_neg hi.2, he], hh⟩
  | tick he' => exact ⟨e.take .tick, by simp [he', he], hh.take _⟩
  | shutdown _ he' => exact ⟨e.take .shutdown, by simp [he', he], hh.take _⟩

variable {stunUfrag : List UInt8 → Option T.Ufrag} {new2 : WebrtcError → T.RpcError}

/-- What a step does to the peer-address cache: nothing; the removal of one
slot from the demux and the endpoints together; or, for a packet from an
address with no entry that the ufrag of slot `index` matches, a new entry
for the address, with the packet given to slot `index`. -/
theorem remotes_cases (hstep : Step stunUfrag new2 w w') :
    w'.sharedPort.remotes = w.sharedPort.remotes ∨
    (∃ index, w'.sharedPort = w.sharedPort.removeTask index ∧
      w'.endpoints = w.endpoints.removeTask index) ∨
    ∃ slot fromAddr data index u, w.sharedPort.remotes.get? fromAddr = none ∧
      w.sharedPort.ufrags.get? u = some index ∧
      w'.sharedPort.remotes = (w.sharedPort.remotes.insert fromAddr index).1 ∧
      w'.endpoints =
        w.endpoints.onEvent index (·.take (.input (.net (.udpPacket slot fromAddr data)))) := by
  cases hstep with
  | spawn => exact .inl (by simp)
  | onEvent restart hfree input =>
      cases input with
      | net net =>
          cases net with
          | udpListenResult bind result => exact .inl (by cases result <;> rfl)
          | udpPacket slot fromAddr data =>
              simp only [MediaWorkerWebrtc.onEvent, SharedUdpPort.mapRemote]
              cases hc : w.sharedPort.remotes.get? fromAddr with
              | some index => exact .inl rfl
              | none =>
                  cases hu : (stunUfrag data).bind w.sharedPort.ufrags.get? with
                  | none => exact .inl rfl
                  | some index =>
                      obtain ⟨u, -, hui⟩ := Option.bind_eq_some.mp hu
                      exact .inr (.inr ⟨slot, fromAddr, data, index, u, hc, hui, rfl, rfl⟩)
      | cluster owner event => exact .inl rfl
      | ext owner ext =>
          refine .inl ?_
          simp only [MediaWorkerWebrtc.onEvent]
          split
          · rfl
          · simp
  | onTick => exact .inl rfl
  | shutdown => exact .inl (by simp only [MediaWorkerWebrtc.shutdown]; split <;> rfl)
  | @popOutput popped _ =>
      obtain hp | hr := popOutput_port w popped
      · exact .inl (by rw [hp])
      · exact .inr (.inl hr)

theorem CacheHeard.step (h : CacheHeard w) (hpl : PortLive w) (hstep : Step stunUfrag new2 w w') :
    CacheHeard w' := by
  rcases remotes_cases hstep with
    hr | ⟨index, hp, -⟩ | ⟨slot, fromAddr, data, index, u, -, hu, hr, he⟩
  · exact h.of_effect hpl hstep.effect fun _ _ hi => hr ▸ hi
  · refine h.of_effect hpl hstep.effect fun _ _ hi => ?_
    simp only [hp, SharedUdpPort.removeTask, IndexMap.get?_retain, Option.filter_eq_some] at hi
    exact hi.1
  · intro addr i hi
    rw [hr, IndexMap.get?_insert] at hi
    split at hi
    · subst addr
      obtain rfl := Option.some.inj hi
      obtain ⟨e, he₀⟩ := Option.isSome_iff_exists.mp (hpl.1 u index hu)
      exact ⟨e.take (.input (.net (.udpPacket slot fromAddr data))), by simp [he, he₀],
        ⟨slot, data, List.mem_append_right _ (List.mem_singleton_self _)⟩⟩
    · obtain ⟨e, he₀, hh⟩ := h addr i hi
      exact he ▸ heard_deliver he₀ hh index _

theorem CacheHeard.of_reachable (hw : Reachable stunUfrag new2 w) : CacheHeard w := by
  obtain ⟨udpListen, addrs, iceLite, hrun⟩ := hw
  induction hrun with
  | refl => exact .new udpListen addrs iceLite
  | step hbefore hstep ih =>
      exact ih.step (Reachable.portLive ⟨udpListen, addrs, iceLite, hbefore⟩) hstep

/-- The demux's peer-address cache belongs to the endpoint now in the slot: in
every reachable worker, a peer address cached for slot `i` has already sent a
packet to the endpoint in slot `i`. An endpoint that has been given nothing,
such as one just spawned into a reused slot, has no cached address, so its
first packet from any peer is matched by its own ufrag. -/
theorem peer_cache_belongs_to_slot_occupant (hw : Reachable stunUfrag new2 w) :
    (∀ addr i, w.sharedPort.remotes.get? addr = some i → ∃ e, w.endpoints.get? i = some e ∧
      ∃ slot data, TaskEvent.input (.net (.udpPacket slot addr data)) ∈ e.events) ∧
    ∀ i e, w.endpoints.get? i = some e → e.events = [] → ∀ addr, w.sharedPort.remotes.get? addr ≠ some i := by
  have h := CacheHeard.of_reachable hw
  refine ⟨h, fun i e he hnil addr hi => ?_⟩
  obtain ⟨e', he', _, _, hm⟩ := h addr i hi
  rw [he] at he'
  cases he'
  simp [hnil] at hm

/-- The first endpoint after a STUN packet from the peer `()` carrying its ufrag. -/
def heardOnce : MediaWorkerWebrtc unitPayloads :=
  spawnedOnce.onEvent (fun _ => some "u1") (fun _ => ()) ⟨0, .error (), 1⟩ (.net (.udpPacket 0 () []))

example : heardOnce.sharedPort.remotes.get? () = some 0 := rfl

theorem peer_cache_belongs_to_slot_occupant_heardOnce :
    Reachable (fun _ => some "u1") (fun _ => ()) heardOnce ∧
    (∀ addr i, heardOnce.sharedPort.remotes.get? addr = some i → ∃ e, heardOnce.endpoints.get? i = some e ∧
      ∃ slot data, TaskEvent.input (.net (.udpPacket slot addr data)) ∈ e.events) ∧
    ∀ i e, heardOnce.endpoints.get? i = some e → e.events = [] →
      ∀ addr, heardOnce.sharedPort.remotes.get? addr ≠ some i :=
  have hr : Reachable (fun _ => some "u1") (fun _ => ()) heardOnce :=
    ⟨fun _ => (), [], false, .step (.step (.refl _) (.spawn _ _ _ _ (show (new (fun _ => ()) [] false :
      MediaWorkerWebrtc unitPayloads).endpoints.get? 0 = none from rfl)))
      (.onEvent _ (show spawnedOnce.endpoints.get? 1 = none from rfl) _)⟩
  ⟨hr, peer_cache_belongs_to_slot_occupant hr⟩

/-! ### A cached route sticks while its endpoint lives -/

/-- A step keeps every cache entry whose slot is still occupied after it: a
packet adds an entry only for an address with none, and only the removal of a
slot drops entries. -/
theorem remotes_keep (hstep : Step stunUfrag new2 w w') {addr : T.Addr} {i : Nat}
    (hc : w.sharedPort.remotes.get? addr = some i) (hl : (w'.endpoints.get? i).isSome) :
    w'.sharedPort.remotes.get? addr = some i := by
  rcases remotes_cases hstep with
    hr | ⟨index, hp, he⟩ | ⟨-, fromAddr, -, index, -, hf, -, hr, -⟩
  · rwa [hr]
  · have hne : i ≠ index := fun hi => by simp [he, hi] at hl
    simpa [hp, SharedUdpPort.removeTask, IndexMap.get?_retain, hne] using hc
  · rwa [hr, IndexMap.get?_insert, if_neg fun ha => by simp [ha, hf] at hc]

/-- Along a run, a cache entry stays while the endpoint of its slot lives:
that endpoint was in the slot at every step, so no step removed the slot. -/
theorem remotes_sticks {w₀ : MediaWorkerWebrtc T} (hw₀ : Reachable stunUfrag new2 w₀)
    {addr : T.Addr} {i : Nat} {e : EndpointTask T} (hc : w₀.sharedPort.remotes.get? addr = some i)
    (he : w₀.endpoints.get? i = some e) (hrun : Run stunUfrag new2 w₀ w) :
    ∀ e', w.endpoints.get? i = some e' → e'.serial = e.serial →
      w.sharedPort.remotes.get? addr = some i := by
  have hlt := hw₀.serials.lt i e he
  induction hrun with
  | refl => exact fun _ _ _ => hc
  | step hbefore hstep ih =>
      intro e' he' hse
      obtain ⟨fresh, hg⟩ := hstep.grows
      rcases hg.2 i e' he' with ⟨e₁, he₁, hs₁⟩ | ⟨-, hs₁, -⟩
      · exact remotes_keep hstep (ih e₁ he₁ (hs₁.trans hse)) (by simp [he'])
      · have := (hbefore.stays hw₀.serials).1
        omega

/-- A peer route sticks to its endpoint: once the demux has cached a peer
address for the endpoint in slot `i`, along every run, as long as that
endpoint lives, the address stays cached for slot `i` and every packet from it
is routed to slot `i`, whatever STUN username it carries. -/
theorem peer_route_sticks_while_endpoint_lives {w₀ : MediaWorkerWebrtc T} (hw₀ : Reachable stunUfrag new2 w₀)
    {addr : T.Addr} {i : Nat} {e : EndpointTask T} (hc : w₀.sharedPort.remotes.get? addr = some i)
    (he : w₀.endpoints.get? i = some e) (hrun : Run stunUfrag new2 w₀ w) {e' : EndpointTask T}
    (he' : w.endpoints.get? i = some e') (hse : e'.serial = e.serial) :
    w.sharedPort.remotes.get? addr = some i ∧ ∀ data, (w.sharedPort.mapRemote stunUfrag addr data).2 = some i :=
  have hcw := remotes_sticks hw₀ hc he hrun e' he' hse
  ⟨hcw, fun data => by simp [SharedUdpPort.mapRemote, hcw]⟩

/-- The first endpoint after the STUN packet of `heardOnce`. -/
def heardEndpoint : EndpointTask unitPayloads :=
  firstEndpoint.take (.input (.net (.udpPacket 0 () [])))

theorem peer_route_sticks_while_endpoint_lives_heardOnce :
    Reachable (fun _ => some "u1") (fun _ => ()) heardOnce ∧
    heardOnce.sharedPort.remotes.get? () = some 0 ∧ heardOnce.endpoints.get? 0 = some heardEndpoint ∧
    Run (fun _ => some "u1") (fun _ => ()) heardOnce heardOnce.onTick ∧
    heardOnce.onTick.endpoints.get? 0 = some (heardEndpoint.take .tick) ∧
    (heardEndpoint.take .tick).serial = heardEndpoint.serial ∧
    heardOnce.onTick.sharedPort.remotes.get? () = some 0 ∧
    ∀ data, (heardOnce.onTick.sharedPort.mapRemote (fun _ => some "u1") () data).2 = some 0 :=
  have hr : Reachable (fun _ => some "u1") (fun _ => ()) heardOnce :=
    ⟨fun _ => (), [], false, .step (.step (.refl _) (.spawn _ _ _ _ (show (new (fun _ => ()) [] false :
      MediaWorkerWebrtc unitPayloads).endpoints.get? 0 = none from rfl)))
      (.onEvent _ (show spawnedOnce.endpoints.get? 1 = none from rfl) _)⟩
  have hc : heardOnce.sharedPort.remotes.get? () = some 0 := rfl
  have he : heardOnce.endpoints.get? 0 = some heardEndpoint := rfl
  have hrun : Run (fun _ => some "u1") (fun _ => ()) heardOnce heardOnce.onTick := .step (.refl _) .onTick
  have he' : heardOnce.onTick.endpoints.get? 0 = some (heardEndpoint.take .tick) := rfl
  ⟨hr, hc, he, hrun, he', rfl, peer_route_sticks_while_endpoint_lives hr hc he hrun he' rfl⟩

end MediaServer.Transport.PeerCache
