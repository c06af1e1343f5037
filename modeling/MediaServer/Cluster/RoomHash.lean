import Mathlib.Data.Fintype.Card
import Mathlib.Data.UInt
import MediaServer.Cluster.MediaCluster

/-!
# Room hashes

`ClusterRoomHash::generate` feeds the app id and the room name to
`std::hash::DefaultHasher` and keeps the 64-bit result. The cluster keys its
rooms by that value alone.

## Implementation notes

`DefaultHasher::new()` is SipHash-1-3 with both keys zero. `Hasher::write`
buffers its input, so the result is that of the concatenated bytes; a `str`
writes its UTF-8 bytes and then `0xFF`. `AppId` and its `Hash` are outside
the source: the bytes an app id writes are a parameter.
-/

namespace MediaServer.Cluster.RoomHash

/-! ### SipHash-1-3 -/

namespace Sip

/-- The four lanes of the SipHash state. -/
structure State where
  v0 : UInt64
  v1 : UInt64
  v2 : UInt64
  v3 : UInt64
  deriving DecidableEq, Repr

/-- `u64::rotate_left`. -/
def rotl (x b : UInt64) : UInt64 := (x <<< b) ||| (x >>> (64 - b))

/-- The `compress!` round. -/
def compress (s : State) : State :=
  let v0 := s.v0 + s.v1
  let v1 := rotl s.v1 13 ^^^ v0
  let v0 := rotl v0 32
  let v2 := s.v2 + s.v3
  let v3 := rotl s.v3 16 ^^^ v2
  let v0 := v0 + v3
  let v3 := rotl v3 21 ^^^ v0
  let v2 := v2 + v1
  let v1 := rotl v1 17 ^^^ v2
  let v2 := rotl v2 32
  ⟨v0, v1, v2, v3⟩

/-- `SipHasher13::new_with_keys(k0, k1)`. -/
def new (k0 k1 : UInt64) : State :=
  ⟨k0 ^^^ 0x736f6d6570736575, k1 ^^^ 0x646f72616e646f6d,
    k0 ^^^ 0x6c7967656e657261, k1 ^^^ 0x7465646279746573⟩

/-- One message word, with the one compression round of SipHash-1-3. -/
def absorb (s : State) (m : UInt64) : State :=
  let s := compress { s with v3 := s.v3 ^^^ m }
  { s with v0 := s.v0 ^^^ m }

/-- `u8to64_le`: up to eight bytes as a little-endian word. -/
def word (bytes : List UInt8) : UInt64 := bytes.foldr (fun b acc => acc <<< 8 ||| b.toUInt64) 0

/-- Absorbs the whole eight-byte words of the input and returns the tail. -/
def absorbWords (s : State) : List UInt8 → State × List UInt8
  | b0 :: b1 :: b2 :: b3 :: b4 :: b5 :: b6 :: b7 :: rest =>
      absorbWords (absorb s (word [b0, b1, b2, b3, b4, b5, b6, b7])) rest
  | tail => (s, tail)

/-- `Hasher::finish`: the length byte and the tail, then three rounds. -/
def finish (s : State) (length : Nat) (tail : List UInt8) : UInt64 :=
  let s := absorb s ((length.toUInt64 &&& 0xff) <<< 56 ||| word tail)
  let s := compress (compress (compress { s with v2 := s.v2 ^^^ 0xff }))
  s.v0 ^^^ s.v1 ^^^ s.v2 ^^^ s.v3

end Sip

/-- SipHash-1-3 of a byte string. -/
def sipHash13 (k0 k1 : UInt64) (bytes : List UInt8) : UInt64 :=
  let (s, tail) := Sip.absorbWords (Sip.new k0 k1) bytes
  Sip.finish s bytes.length tail

/-- The bytes `Hash for str` writes: the UTF-8 bytes, then `0xFF`. -/
def strBytes (s : String) : List UInt8 := s.toUTF8.data.toList ++ [0xFF]

variable {AppId : Type}

namespace ClusterRoomHash

/-- `ClusterRoomHash::generate`; `hashApp` is what the app id's `Hash` writes,
and the room id is hashed through its `as_ref` text. -/
def generate (hashApp : AppId → List UInt8) (app : AppContext AppId) (room : RoomId) :
    ClusterRoomHash :=
  ⟨sipHash13 0 0 (hashApp app.app ++ strBytes room.name)⟩

end ClusterRoomHash

example :
    ClusterRoomHash.generate strBytes ⟨"app1"⟩ ⟨"same_room"⟩ ≠
      ClusterRoomHash.generate strBytes ⟨"app2"⟩ ⟨"same_room"⟩ := by
  decide

instance : Finite ClusterRoomHash :=
  Finite.of_injective (fun h : ClusterRoomHash => h.hash.val) fun a b h => by
    cases a; cases b; congr; exact UInt64.val_injective h

instance [Infinite AppId] : Infinite (AppContext AppId) :=
  Infinite.of_injective AppContext.mk fun _ _ => AppContext.mk.inj

/-- Infinitely many apps share 64-bit hashes: for every room some two distinct
apps get the same room hash, whatever the app id's `Hash` writes. -/
theorem generate_collides [Infinite AppId] (hashApp : AppId → List UInt8) (room : RoomId) :
    ∃ a₁ a₂ : AppContext AppId, a₁ ≠ a₂ ∧
      ClusterRoomHash.generate hashApp a₁ room = ClusterRoomHash.generate hashApp a₂ room :=
  Finite.exists_ne_map_eq_of_infinite fun a => ClusterRoomHash.generate hashApp a room

/-- The hash of the tenant's room names the room: the endpoints of two
tenants for one room name reach the same room of a reachable cluster exactly
when the two hashes are equal, and for every room name some two tenants have
equal hashes. -/
theorem tenants_share_room_iff_hashes_collide {Endpoint Feature SdnEvent Control SdnControl
    EndpointEvent : Type} [Infinite AppId] (hashApp : AppId → List UInt8) (room : RoomId) :
    (∃ a₁ a₂ : AppContext AppId, a₁ ≠ a₂ ∧
      ClusterRoomHash.generate hashApp a₁ room = ClusterRoomHash.generate hashApp a₂ room) ∧
    ∀ s : MediaCluster Endpoint Feature SdnEvent Control,
      MediaCluster.Reachable SdnControl EndpointEvent s → ∀ (a₁ a₂ : AppContext AppId) (i j : Nat),
        s.roomsMap.get? (ClusterRoomHash.generate hashApp a₁ room) = some i →
        s.roomsMap.get? (ClusterRoomHash.generate hashApp a₂ room) = some j →
        (i = j ↔ ClusterRoomHash.generate hashApp a₁ room = ClusterRoomHash.generate hashApp a₂ room) :=
  ⟨generate_collides hashApp room, fun _ hs _ _ _ _ hi hj => hs.registry.slot_eq_iff hi hj⟩

theorem tenants_share_room_iff_hashes_collide_same_room :
    Infinite String ∧
    ((∃ a₁ a₂ : AppContext String, a₁ ≠ a₂ ∧
      ClusterRoomHash.generate strBytes a₁ ⟨"same_room"⟩ =
        ClusterRoomHash.generate strBytes a₂ ⟨"same_room"⟩) ∧
    ∀ s : MediaCluster Nat Unit Unit Unit, MediaCluster.Reachable Unit Unit s →
      ∀ (a₁ a₂ : AppContext String) (i j : Nat),
        s.roomsMap.get? (ClusterRoomHash.generate strBytes a₁ ⟨"same_room"⟩) = some i →
        s.roomsMap.get? (ClusterRoomHash.generate strBytes a₂ ⟨"same_room"⟩) = some j →
        (i = j ↔ ClusterRoomHash.generate strBytes a₁ ⟨"same_room"⟩ =
          ClusterRoomHash.generate strBytes a₂ ⟨"same_room"⟩)) :=
  ⟨inferInstance, tenants_share_room_iff_hashes_collide strBytes ⟨"same_room"⟩⟩

/-- Two distinct apps, with 16-digit hex ids, whose rooms named like the
source's multi-tenancy test get the same hash; the pair comes from a birthday
search over such ids, and each hash is evaluated here. -/
theorem generate_same_room_collision :
    (⟨"53b935ba5a80cf0f"⟩ : AppContext String) ≠ ⟨"e4590acb90f4b3db"⟩ ∧
      ClusterRoomHash.generate strBytes ⟨"53b935ba5a80cf0f"⟩ ⟨"same_room"⟩ =
        ClusterRoomHash.generate strBytes ⟨"e4590acb90f4b3db"⟩ ⟨"same_room"⟩ :=
  have h₁ : (ClusterRoomHash.generate strBytes ⟨"53b935ba5a80cf0f"⟩ ⟨"same_room"⟩).hash =
      0x04b261cd4803e7dc := by decide
  have h₂ : (ClusterRoomHash.generate strBytes ⟨"e4590acb90f4b3db"⟩ ⟨"same_room"⟩).hash =
      0x04b261cd4803e7dc := by decide
  ⟨by simp, congrArg ClusterRoomHash.mk (h₁.trans h₂.symm)⟩

end MediaServer.Cluster.RoomHash
