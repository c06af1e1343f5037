import MediaServer.Collections.IndexMap
import MediaServer.Cluster.Types

/-!
# The channel publisher of a room

`RoomChannelPublisher` maps each published remote track to the pub/sub channel
of its `(peer, name)` pair, keeps the sources of every channel, and queues the
outputs for the room. Two indexes are kept: `tracks` from a track to its peer,
name and channel, and `tracksSource` from a channel to the set of its tracks.

## Implementation notes

`id_generator::gen_track_channel_id` and `MediaPacket::serialize` are outside
the source; both are parameters. A panic (`expect`, `assert!`) is an `error`
carrying its message.
-/

namespace MediaServer.Publisher

open Collections Cluster

/-- `media_track::Output<Endpoint>`, with the variants the publisher emits. -/
inductive Output (Endpoint : Type) where
  | endpoint (endpoints : List Endpoint) (event : ClusterEndpointEvent)
  | pubsub (control : Control)
  | onResourceEmpty
  deriving DecidableEq, Repr

/-- `FeedbackKind`. -/
inductive FeedbackKind where
  | bitrate (min max : UInt64)
  | keyFrameRequest
  deriving DecidableEq, Repr

/-- `FeedbackKind::try_from`: only kinds `0` and `1` decode. -/
def FeedbackKind.tryFrom (value : Feedback) : Except Unit FeedbackKind :=
  match value.kind with
  | 0 => .ok (.bitrate value.min value.max)
  | 1 => .ok .keyFrameRequest
  | _ => .error ()

/-- A remote track of an endpoint, the key of both indexes. -/
abbrev TrackKey (Endpoint : Type) := Endpoint × RemoteTrackId

/-- `RoomChannelPublisher<Endpoint>`; the instance counter `_c` is left out. -/
structure RoomChannelPublisher (Endpoint : Type) where
  room : ClusterRoomHash
  tracks : IndexMap (TrackKey Endpoint) (PeerId × TrackName × ChannelId)
  tracksSource : IndexMap ChannelId (IndexSet (TrackKey Endpoint))
  queue : List (Output Endpoint)

namespace RoomChannelPublisher

variable {Endpoint MediaPacket : Type}

/-- `RoomChannelPublisher::new`. -/
def new (room : ClusterRoomHash) : RoomChannelPublisher Endpoint :=
  ⟨room, .empty, .empty, []⟩

/-- The sources of a channel in set order, none for a channel without entry. -/
def sourcesOf (s : RoomChannelPublisher Endpoint) (channel : ChannelId) : List (TrackKey Endpoint) :=
  match s.tracksSource.get? channel with
  | some sources => sources.keys
  | none => []

theorem mem_sourcesOf {s : RoomChannelPublisher Endpoint} {channel : ChannelId}
    {key : TrackKey Endpoint} :
    key ∈ s.sourcesOf channel ↔
      ∃ sources, s.tracksSource.get? channel = some sources ∧ key ∈ sources.keys := by
  unfold sourcesOf
  split <;> simp_all

theorem sourcesOf_of_get? {s : RoomChannelPublisher Endpoint} {channel : ChannelId}
    {sources : IndexSet (TrackKey Endpoint)} (h : s.tracksSource.get? channel = some sources) :
    s.sourcesOf channel = sources.keys := by
  simp [sourcesOf, h]

theorem sourcesOf_congr {s s' : RoomChannelPublisher Endpoint} {channel : ChannelId}
    (h : s'.tracksSource.get? channel = s.tracksSource.get? channel) :
    s'.sourcesOf channel = s.sourcesOf channel := by
  simp [sourcesOf, h]

@[simp] theorem new_room (room : ClusterRoomHash) :
    (new room : RoomChannelPublisher Endpoint).room = room := rfl

@[simp] theorem new_queue (room : ClusterRoomHash) :
    (new room : RoomChannelPublisher Endpoint).queue = [] := rfl

@[simp] theorem new_tracks (room : ClusterRoomHash) :
    (new room : RoomChannelPublisher Endpoint).tracks = .empty := rfl

@[simp] theorem new_tracksSource (room : ClusterRoomHash) :
    (new room : RoomChannelPublisher Endpoint).tracksSource = .empty := rfl

@[simp] theorem sourcesOf_new (room : ClusterRoomHash) (channel : ChannelId) :
    (new room : RoomChannelPublisher Endpoint).sourcesOf channel = [] := rfl

/-- A channel lists each source once. -/
theorem sourcesOf_nodup (s : RoomChannelPublisher Endpoint) (channel : ChannelId) :
    (s.sourcesOf channel).Nodup := by
  unfold sourcesOf
  split
  · exact IndexMap.keys_nodup _
  · exact List.nodup_nil

variable [DecidableEq Endpoint]
variable (genTrackChannelId : ClusterRoomHash → PeerId → TrackName → ChannelId)
variable (serialize : MediaPacket → List UInt8)

/-- The output that one source of a channel receives for a decoded feedback. -/
def feedbackOutput (fb : FeedbackKind) (source : TrackKey Endpoint) : Output Endpoint :=
  match fb with
  | .bitrate min max => .endpoint [source.1] (.remoteTrack source.2 (.limitBitrate min max))
  | .keyFrameRequest => .endpoint [source.1] (.remoteTrack source.2 .requestKeyFrame)

/-- `on_track_feedback`: every source of the channel, in set order, gets the
decoded feedback. -/
def onTrackFeedback (s : RoomChannelPublisher Endpoint) (channel : ChannelId)
    (fb : Feedback) : RoomChannelPublisher Endpoint :=
  match FeedbackKind.tryFrom fb with
  | .error () => s
  | .ok fb =>
      match s.tracksSource.get? channel with
      | none => s
      | some sources => { s with queue := s.queue ++ sources.keys.map (feedbackOutput fb) }

omit [DecidableEq Endpoint] in
/-- Feedback only appends: one output per source for a decoded kind, none otherwise. -/
theorem onTrackFeedback_eq (s : RoomChannelPublisher Endpoint) (channel : ChannelId)
    (fb : Feedback) :
    s.onTrackFeedback channel fb =
      { s with queue := s.queue ++ match FeedbackKind.tryFrom fb with
          | .ok kind => (s.sourcesOf channel).map (feedbackOutput kind)
          | .error () => [] } := by
  unfold onTrackFeedback sourcesOf
  rcases FeedbackKind.tryFrom fb with ⟨⟨⟩⟩ | _ <;> cases s.tracksSource.get? channel <;> simp

/-- `on_track_publish`. The channel's entry is taken or created empty
(`entry(..).or_default()`); `PubStart` goes out while it is still empty. -/
def onTrackPublish (s : RoomChannelPublisher Endpoint) (endpoint : Endpoint)
    (track : RemoteTrackId) (peer : PeerId) (name : TrackName) : RoomChannelPublisher Endpoint :=
  let channelId := genTrackChannelId s.room peer name
  let sources := (s.tracksSource.get? channelId).getD IndexMap.empty
  { s with
    tracks := (s.tracks.insert (endpoint, track) (peer, name, channelId)).1
    tracksSource := (s.tracksSource.insert channelId (sources.insert (endpoint, track)).1).1
    queue := if sources.isEmpty then s.queue ++ [.pubsub ⟨channelId, .pubStart⟩] else s.queue }

section Publish

variable (s : RoomChannelPublisher Endpoint) (endpoint : Endpoint) (track : RemoteTrackId)
  (peer : PeerId) (name : TrackName)

@[simp] theorem onTrackPublish_room :
    (s.onTrackPublish genTrackChannelId endpoint track peer name).room = s.room := rfl

@[simp] theorem tracks_onTrackPublish (key : TrackKey Endpoint) :
    (s.onTrackPublish genTrackChannelId endpoint track peer name).tracks.get? key =
      if key = (endpoint, track) then some (peer, name, genTrackChannelId s.room peer name)
      else s.tracks.get? key := by
  simp [onTrackPublish]

theorem tracksSource_onTrackPublish (channel : ChannelId) :
    (s.onTrackPublish genTrackChannelId endpoint track peer name).tracksSource.get? channel =
      if channel = genTrackChannelId s.room peer name then
        some (((s.tracksSource.get? channel).getD IndexMap.empty).insert (endpoint, track)).1
      else s.tracksSource.get? channel := by
  simp only [onTrackPublish, IndexMap.get?_insert]
  split <;> simp_all

theorem mem_sourcesOf_onTrackPublish (channel : ChannelId) (key : TrackKey Endpoint) :
    key ∈ (s.onTrackPublish genTrackChannelId endpoint track peer name).sourcesOf channel ↔
      channel = genTrackChannelId s.room peer name ∧ key = (endpoint, track) ∨
        key ∈ s.sourcesOf channel := by
  unfold sourcesOf
  rw [tracksSource_onTrackPublish]
  by_cases hc : channel = genTrackChannelId s.room peer name
  · subst hc
    cases s.tracksSource.get? (genTrackChannelId s.room peer name) <;> simp
  · simp [hc]

theorem queue_onTrackPublish :
    (s.onTrackPublish genTrackChannelId endpoint track peer name).queue =
      s.queue ++ if s.sourcesOf (genTrackChannelId s.room peer name) = [] then
        [.pubsub ⟨genTrackChannelId s.room peer name, .pubStart⟩] else [] := by
  have hempty : ∀ c, ((s.tracksSource.get? c).getD IndexMap.empty).isEmpty =
      (s.sourcesOf c).isEmpty := fun c => by
    unfold sourcesOf
    split <;> simp_all [IndexMap.isEmpty_eq_keys]
  simp only [onTrackPublish, hempty, List.isEmpty_iff]
  split <;> simp_all
end Publish

/-- `on_track_data`: media of an unknown track is dropped. -/
def onTrackData (s : RoomChannelPublisher Endpoint) (endpoint : Endpoint)
    (track : RemoteTrackId) (media : MediaPacket) : RoomChannelPublisher Endpoint :=
  match s.tracks.get? (endpoint, track) with
  | none => s
  | some (_, _, channelId) =>
      { s with queue := s.queue ++ [.pubsub ⟨channelId, .pubData (serialize media)⟩] }

/-- Media only appends, and only a `PubData` on the track's channel. -/
theorem onTrackData_eq (s : RoomChannelPublisher Endpoint) (endpoint : Endpoint)
    (track : RemoteTrackId) (media : MediaPacket) :
    s.onTrackData serialize endpoint track media =
      { s with queue := s.queue ++ match s.tracks.get? (endpoint, track) with
          | some (_, _, channelId) => [.pubsub ⟨channelId, .pubData (serialize media)⟩]
          | none => [] } := by
  unfold onTrackData
  split <;> simp_all

/-- `on_track_unpublish`, with its three internal-invariant panics. -/
def onTrackUnpublish (s : RoomChannelPublisher Endpoint) (endpoint : Endpoint)
    (track : RemoteTrackId) : Except String (RoomChannelPublisher Endpoint) :=
  match s.tracks.swapRemove (endpoint, track) with
  | (_, none) => .ok s
  | (tracks, some (_, _, channelId)) =>
      match s.tracksSource.get? channelId with
      | none => .error "Should have track_source"
      | some sources =>
          match sources.swapRemove (endpoint, track) with
          | (_, false) => .error "Should remove source child on unpublish"
          | (sources, true) =>
              if sources.isEmpty then
                match s.tracksSource.swapRemove channelId with
                | (_, none) => .error "Should remove source channel on unpublish"
                | (tracksSource, some _) =>
                    .ok { s with tracks, tracksSource,
                                 queue := s.queue ++ [.pubsub ⟨channelId, .pubStop⟩] }
              else .ok { s with tracks, tracksSource := (s.tracksSource.insert channelId sources).1 }

section Unpublish

variable (s : RoomChannelPublisher Endpoint) (endpoint : Endpoint) (track : RemoteTrackId)

/-- What a successful unpublish of `key`, recorded on `channel`, does to the state. -/
structure Unpublished (key : TrackKey Endpoint) (channel : ChannelId)
    (s' : RoomChannelPublisher Endpoint) : Prop where
  room : s'.room = s.room
  tracks : ∀ k, s'.tracks.get? k = if k = key then none else s.tracks.get? k
  tracksSource_of_ne : ∀ c, c ≠ channel → s'.tracksSource.get? c = s.tracksSource.get? c
  sources : ∀ k, k ∈ s'.sourcesOf channel ↔ k ∈ s.sourcesOf channel ∧ k ≠ key
  entry : (s'.tracksSource.get? channel).isSome ↔ s'.sourcesOf channel ≠ []
  queue : s'.queue = s.queue ++
    if s'.sourcesOf channel = [] then [.pubsub ⟨channel, .pubStop⟩] else []

theorem onTrackUnpublish_of_none (h : s.tracks.get? (endpoint, track) = none) :
    s.onTrackUnpublish endpoint track = .ok s := by
  have h1 : s.tracks.swapRemove (endpoint, track) = ((s.tracks.swapRemove (endpoint, track)).1, none) :=
    Prod.ext rfl (by rw [IndexMap.swapRemove_snd, h])
  rw [onTrackUnpublish, h1]

/-- An unpublish of a track whose channel lists it succeeds, and no panic fires. -/
theorem onTrackUnpublish_spec {peer : PeerId} {name : TrackName} {channel : ChannelId}
    (h : s.tracks.get? (endpoint, track) = some (peer, name, channel))
    (hk : (endpoint, track) ∈ s.sourcesOf channel) :
    ∃ s', s.onTrackUnpublish endpoint track = .ok s' ∧ s.Unpublished (endpoint, track) channel s' := by
  obtain ⟨src, hsrc, hmem⟩ := mem_sourcesOf.mp hk
  have h1 : s.tracks.swapRemove (endpoint, track) =
      ((s.tracks.swapRemove (endpoint, track)).1, some (peer, name, channel)) :=
    Prod.ext rfl (by rw [IndexMap.swapRemove_snd, h])
  have h2 : src.swapRemove (endpoint, track) = ((src.swapRemove (endpoint, track)).1, true) :=
    Prod.ext rfl (by simp [IndexSet.swapRemove_snd, IndexSet.contains, hmem])
  have hold : ∀ k, k ∈ (src.swapRemove (endpoint, track)).1.keys ↔
      k ∈ s.sourcesOf channel ∧ k ≠ (endpoint, track) := fun k => by
    rw [IndexSet.mem_keys_swapRemove, sourcesOf_of_get? hsrc, and_comm]
  rw [onTrackUnpublish, h1]
  simp only [hsrc]
  rw [h2]
  dsimp only
  split
  · rename_i hempty
    have h3 : s.tracksSource.swapRemove channel = ((s.tracksSource.swapRemove channel).1, some src) :=
      Prod.ext rfl (by rw [IndexMap.swapRemove_snd, hsrc])
    rw [h3]
    dsimp only
    have hnil : ∀ k, ¬(k ∈ s.sourcesOf channel ∧ k ≠ (endpoint, track)) := fun k hk' => by
      rw [IndexMap.isEmpty_iff] at hempty
      exact List.not_mem_nil k (hempty ▸ (hold k).mpr hk')
    refine ⟨_, rfl, rfl, fun k => IndexMap.get?_swapRemove _ _ _, fun c hc => ?_, fun k => ?_, ?_, ?_⟩
    · simp [hc]
    · exact iff_of_false (by simp [sourcesOf]) (hnil k)
    · simp [sourcesOf]
    · simp [sourcesOf]
  · rename_i hne
    have hkeys : (src.swapRemove (endpoint, track)).1.keys ≠ [] :=
      fun he => hne ((IndexMap.isEmpty_iff _).mpr he)
    refine ⟨_, rfl, rfl, fun k => IndexMap.get?_swapRemove _ _ _, fun c hc => ?_, fun k => ?_, ?_, ?_⟩
    · simp [hc]
    all_goals simp only [sourcesOf, IndexMap.get?_insert, if_pos rfl]
    · exact hold k
    · simpa using hkeys
    · simp [hkeys]

end Unpublish

/-- `TaskSwitcherChild::is_empty`. -/
def isEmpty (s : RoomChannelPublisher Endpoint) : Bool :=
  s.tracks.isEmpty && s.tracksSource.isEmpty && s.queue.isEmpty

/-- `TaskSwitcherChild::empty_event`. -/
def emptyEvent (_ : RoomChannelPublisher Endpoint) : Output Endpoint := .onResourceEmpty

/-- `TaskSwitcherChild::pop_output`: the queue is first in, first out. -/
def popOutput (s : RoomChannelPublisher Endpoint) : RoomChannelPublisher Endpoint × Option (Output Endpoint) :=
  match s.queue with
  | [] => (s, none)
  | out :: queue => ({ s with queue }, some out)

omit [DecidableEq Endpoint] in
/-- A pop moves the head of the queue out and changes nothing else. -/
theorem popOutput_eq (s : RoomChannelPublisher Endpoint) :
    (s.popOutput.2.toList ++ s.popOutput.1.queue = s.queue) ∧
      s.popOutput.1 = { s with queue := s.popOutput.1.queue } := by
  rcases s with ⟨_, _, _, _ | ⟨_, _⟩⟩ <;> simp [popOutput]

/-- The assertions of `Drop for RoomChannelPublisher`. -/
def drop (s : RoomChannelPublisher Endpoint) : Except String Unit :=
  if s.queue.length ≠ 0 then .error "Queue not empty on drop"
  else if s.tracks.len ≠ 0 then .error "Tracks not empty on drop"
  else if s.tracksSource.len ≠ 0 then .error "Tracks source not empty on drop"
  else .ok ()

/-- The drop assertions hold exactly for an empty publisher. -/
theorem drop_eq_ok_iff (s : RoomChannelPublisher Endpoint) : s.drop = .ok () ↔ s.isEmpty = true := by
  simp only [drop, isEmpty, Bool.and_eq_true, ← IndexMap.len_eq_zero_iff, List.isEmpty_iff,
    ← List.length_eq_zero]
  split_ifs <;> simp_all

end RoomChannelPublisher

end MediaServer.Publisher
