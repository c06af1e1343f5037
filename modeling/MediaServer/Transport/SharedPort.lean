import MediaServer.Collections.IndexMap

/-!
# The shared UDP demux

All endpoint tasks of a worker share its UDP sockets. The demux finds the
task of an incoming packet: by the sender's address once one packet of it has
been matched, and before that by the server-side ufrag in the packet's STUN
username.

## Implementation notes

`shared_port.rs` is outside the source. The demux is modelled from the spec,
section 4.6; the STUN parsing of a packet is a parameter.
-/

namespace MediaServer.Transport

open Collections

/-- Modelled from the spec: `SharedUdpPort<Task>`, "an index from
`ice_ufrag → endpoint_task_index` plus a peer-address index
(`remote_addr → endpoint_task_index`) populated after first successful STUN
binding". -/
structure SharedUdpPort (Ufrag Addr : Type) where
  ufrags : IndexMap Ufrag Nat
  remotes : IndexMap Addr Nat

namespace SharedUdpPort

variable {Ufrag Addr : Type} [DecidableEq Ufrag] [DecidableEq Addr]

/-- `SharedUdpPort::default`. -/
def default : SharedUdpPort Ufrag Addr := ⟨.empty, .empty⟩

/-- Modelled from the spec: `add_ufrag` registers the server-side ufrag of a
spawned task "so the demux can route the first STUN binding request". -/
def addUfrag (port : SharedUdpPort Ufrag Addr) (ufrag : Ufrag) (index : Nat) :
    SharedUdpPort Ufrag Addr :=
  { port with ufrags := (port.ufrags.insert ufrag index).1 }

/-- Modelled from the spec: `remove_task` drops the task's "ufrag/peer-address
registrations". -/
def removeTask (port : SharedUdpPort Ufrag Addr) (index : Nat) : SharedUdpPort Ufrag Addr :=
  ⟨port.ufrags.retain fun _ i => i ≠ index, port.remotes.retain fun _ i => i ≠ index⟩

/-- Modelled from the spec: `map_remote`. "Consult the peer-address index; on
miss, parse the leading STUN message, extract the username's server-side
ufrag, look up the endpoint index, and cache `from → index`. If no match,
drop." -/
def mapRemote (stunUfrag : List UInt8 → Option Ufrag) (port : SharedUdpPort Ufrag Addr)
    (fromAddr : Addr) (data : List UInt8) : SharedUdpPort Ufrag Addr × Option Nat :=
  match port.remotes.get? fromAddr with
  | some index => (port, some index)
  | none =>
      match (stunUfrag data).bind port.ufrags.get? with
      | some index => ({ port with remotes := (port.remotes.insert fromAddr index).1 }, some index)
      | none => (port, none)

/-- Every registration names a slot the predicate accepts. -/
def Names (port : SharedUdpPort Ufrag Addr) (live : Nat → Prop) : Prop :=
  (∀ ufrag i, port.ufrags.get? ufrag = some i → live i) ∧
    ∀ addr i, port.remotes.get? addr = some i → live i

theorem Names.default (live : Nat → Prop) : (default : SharedUdpPort Ufrag Addr).Names live :=
  ⟨by simp [SharedUdpPort.default], by simp [SharedUdpPort.default]⟩

theorem Names.mono {port : SharedUdpPort Ufrag Addr} {live live' : Nat → Prop}
    (h : port.Names live) (hl : ∀ i, live i → live' i) : port.Names live' :=
  ⟨fun u i hu => hl i (h.1 u i hu), fun a i ha => hl i (h.2 a i ha)⟩

theorem Names.addUfrag {port : SharedUdpPort Ufrag Addr} {live : Nat → Prop} (h : port.Names live)
    (ufrag : Ufrag) {index : Nat} (hi : live index) : (port.addUfrag ufrag index).Names live := by
  refine ⟨fun u i hu => ?_, h.2⟩
  simp only [SharedUdpPort.addUfrag, IndexMap.get?_insert] at hu
  split at hu
  · exact Option.some.inj hu ▸ hi
  · exact h.1 u i hu

/-- After `remove_task` no registration names the removed slot. -/
theorem Names.removeTask {port : SharedUdpPort Ufrag Addr} {live : Nat → Prop}
    (h : port.Names live) (index : Nat) :
    (port.removeTask index).Names fun i => live i ∧ i ≠ index := by
  constructor
  · intro u i hu
    simp only [SharedUdpPort.removeTask, IndexMap.get?_retain, Option.filter_eq_some,
      decide_eq_true_eq] at hu
    exact ⟨h.1 u i hu.1, hu.2⟩
  · intro a i ha
    simp only [SharedUdpPort.removeTask, IndexMap.get?_retain, Option.filter_eq_some,
      decide_eq_true_eq] at ha
    exact ⟨h.2 a i ha.1, ha.2⟩

/-- The demux answers only with registered slots, and its cache keeps that. -/
theorem Names.mapRemote {port : SharedUdpPort Ufrag Addr} {live : Nat → Prop} (h : port.Names live)
    (stunUfrag : List UInt8 → Option Ufrag) (fromAddr : Addr) (data : List UInt8) :
    (port.mapRemote stunUfrag fromAddr data).1.Names live ∧
      ∀ i, (port.mapRemote stunUfrag fromAddr data).2 = some i → live i := by
  unfold SharedUdpPort.mapRemote
  split
  case h_1 index hi => exact ⟨h, fun i hs => Option.some.inj hs ▸ h.2 _ _ hi⟩
  case h_2 =>
    split
    case h_1 index hi =>
      obtain ⟨u, -, hu⟩ := Option.bind_eq_some.mp hi
      have hlive := h.1 u index hu
      refine ⟨⟨h.1, fun a i ha => ?_⟩, fun i hs => Option.some.inj hs ▸ hlive⟩
      simp only [IndexMap.get?_insert] at ha
      split at ha
      · exact Option.some.inj ha ▸ hlive
      · exact h.2 a i ha
    case h_2 => exact ⟨h, fun i hs => nomatch hs⟩

end SharedUdpPort

end MediaServer.Transport
