import MediaServer.Publisher.Channels

/-!
# Publishing a live track again

`on_track_publish` overwrites the entry of a track that is already published
and adds the track to the source set of its new channel, but never takes it
out of the source set of the channel it was published on before. The
unpublish then removes it from the new channel only. The old channel keeps a
source that no track entry names: feedback on it still reaches the track, it
is never stopped, and the drop assertions fail.
-/

namespace MediaServer.Publisher.Republish

open Collections Cluster RoomChannelPublisher Run Channels

variable {Endpoint MediaPacket : Type} [DecidableEq Endpoint]
variable (genTrackChannelId : ClusterRoomHash → PeerId → TrackName → ChannelId)
variable (serialize : MediaPacket → List UInt8)

section Republish

variable (room : ClusterRoomHash) (endpoint : Endpoint) (track : RemoteTrackId) (peer : PeerId)
  (name name' : TrackName)

theorem republish_sources (channel : ChannelId) (k : TrackKey Endpoint) :
    k ∈ (((new room : RoomChannelPublisher Endpoint).onTrackPublish genTrackChannelId endpoint track
      peer name).onTrackPublish genTrackChannelId endpoint track peer name').sourcesOf channel ↔
      k = (endpoint, track) ∧
        (channel = genTrackChannelId room peer name' ∨ channel = genTrackChannelId room peer name) := by
  simp only [mem_sourcesOf_onTrackPublish, onTrackPublish_room, sourcesOf_new,
    List.not_mem_nil, or_false]
  constructor
  · rintro (⟨h, rfl⟩ | ⟨h, rfl⟩) <;> simp [h]
  · rintro ⟨rfl, h | h⟩ <;> simp [h]

/-- A second publish of a live track under another channel leaves the track
in the old channel's source set, also after it is unpublished, while its
entry names the new channel and then nothing. -/
theorem republish_keeps_old_source
    (hne : genTrackChannelId room peer name ≠ genTrackChannelId room peer name') :
    (endpoint, track) ∈ (((new room : RoomChannelPublisher Endpoint).onTrackPublish genTrackChannelId
      endpoint track peer name).onTrackPublish genTrackChannelId endpoint track peer name').sourcesOf
        (genTrackChannelId room peer name) ∧
    (((new room : RoomChannelPublisher Endpoint).onTrackPublish genTrackChannelId endpoint track
      peer name).onTrackPublish genTrackChannelId endpoint track peer name').tracks.get?
        (endpoint, track) = some (peer, name', genTrackChannelId room peer name') ∧
    ∃ s', (((new room : RoomChannelPublisher Endpoint).onTrackPublish genTrackChannelId endpoint track
      peer name).onTrackPublish genTrackChannelId endpoint track peer name').onTrackUnpublish
        endpoint track = .ok s' ∧
      (endpoint, track) ∈ s'.sourcesOf (genTrackChannelId room peer name) ∧
      s'.tracks.get? (endpoint, track) = none := by
  have hsrc := republish_sources genTrackChannelId room endpoint track peer name name'
  have h1 := (hsrc _ (endpoint, track)).mpr ⟨rfl, .inr rfl⟩
  have h2 : (((new room : RoomChannelPublisher Endpoint).onTrackPublish genTrackChannelId endpoint
      track peer name).onTrackPublish genTrackChannelId endpoint track peer name').tracks.get?
        (endpoint, track) = some (peer, name', genTrackChannelId room peer name') := by simp
  obtain ⟨s', hok, hu⟩ := onTrackUnpublish_spec _ endpoint track h2 ((hsrc _ _).mpr ⟨rfl, .inl rfl⟩)
  refine ⟨h1, h2, s', hok, ?_, by rw [hu.tracks]; simp⟩
  rwa [sourcesOf_congr (hu.tracksSource_of_ne _ hne)]

theorem republish_keeps_old_source_audio_video :
    nameLengthChannel ⟨1⟩ ⟨"peer1"⟩ ⟨"audio"⟩ ≠ nameLengthChannel ⟨1⟩ ⟨"peer1"⟩ ⟨"video_main"⟩ ∧
    ((2, ⟨3⟩) : TrackKey Nat) ∈ (((new ⟨1⟩ : RoomChannelPublisher Nat).onTrackPublish nameLengthChannel
      2 ⟨3⟩ ⟨"peer1"⟩ ⟨"audio"⟩).onTrackPublish nameLengthChannel 2 ⟨3⟩ ⟨"peer1"⟩
        ⟨"video_main"⟩).sourcesOf (nameLengthChannel ⟨1⟩ ⟨"peer1"⟩ ⟨"audio"⟩) :=
  have hne : nameLengthChannel ⟨1⟩ ⟨"peer1"⟩ ⟨"audio"⟩ ≠
      nameLengthChannel ⟨1⟩ ⟨"peer1"⟩ ⟨"video_main"⟩ := by decide
  ⟨hne, (republish_keeps_old_source nameLengthChannel ⟨1⟩ 2 ⟨3⟩ ⟨"peer1"⟩ ⟨"audio"⟩
    ⟨"video_main"⟩ hne).1⟩

/-- The balanced run: publish a track, publish it again under another name,
unpublish it, and pop until `pop_output` returns `None`. Afterwards the
publisher is not empty, the drop assertion on `tracks_source` fails, and the
old channel saw a `PubStart` and no `PubStop`. -/
theorem republish_leaks_after_drain
    (hne : genTrackChannelId room peer name ≠ genTrackChannelId room peer name') :
    ∃ s popped, run genTrackChannelId serialize (new room : RoomChannelPublisher Endpoint)
        [.trackPublish endpoint track peer name, .trackPublish endpoint track peer name',
          .trackUnpublish endpoint track, .popOutput, .popOutput, .popOutput, .popOutput] =
        .ok (s, popped) ∧
      s.popOutput.2 = none ∧ s.isEmpty = false ∧ s.drop = .error "Tracks source not empty on drop" ∧
      pubMarks (genTrackChannelId room peer name) popped = [true] := by
  let s₁ := (new room : RoomChannelPublisher Endpoint).onTrackPublish genTrackChannelId endpoint
    track peer name
  let s₂ := s₁.onTrackPublish genTrackChannelId endpoint track peer name'
  have hsrc := republish_sources genTrackChannelId room endpoint track peer name name'
  have h2 : s₂.tracks.get? (endpoint, track) = some (peer, name', genTrackChannelId room peer name') := by
    simp [s₂, s₁]
  obtain ⟨s₃, hok, hu⟩ := onTrackUnpublish_spec s₂ endpoint track h2 ((hsrc _ _).mpr ⟨rfl, .inl rfl⟩)
  have hs₁ : s₁.sourcesOf (genTrackChannelId room peer name') = [] :=
    List.eq_nil_iff_forall_not_mem.mpr fun k hk => by
      simp [s₁, mem_sourcesOf_onTrackPublish, Ne.symm hne] at hk
  have hs₃ : s₃.sourcesOf (genTrackChannelId room peer name') = [] :=
    List.eq_nil_iff_forall_not_mem.mpr fun k hk => by
      obtain ⟨hk, hne'⟩ := (hu.sources k).mp hk
      exact hne' ((hsrc _ k).mp hk).1
  have hq : s₃.queue = [.pubsub ⟨genTrackChannelId room peer name, .pubStart⟩,
      .pubsub ⟨genTrackChannelId room peer name', .pubStart⟩,
      .pubsub ⟨genTrackChannelId room peer name', .pubStop⟩] := by
    rw [hu.queue, if_pos hs₃, queue_onTrackPublish, queue_onTrackPublish]
    simp [s₁, hs₁]
  have hold : (s₃.tracksSource.get? (genTrackChannelId room peer name)).isSome := by
    rw [hu.tracksSource_of_ne _ hne]
    obtain ⟨_, h, _⟩ := mem_sourcesOf.mp ((hsrc _ (endpoint, track)).mpr ⟨rfl, .inr rfl⟩)
    simp [s₂, s₁, h]
  have htracks : s₃.tracks.len = 0 := by
    rw [IndexMap.len_eq_zero_iff, IndexMap.isEmpty_iff_get?]
    intro k
    rw [hu.tracks]
    split <;> simp_all [s₂, s₁]
  have hsources : s₃.tracksSource.len ≠ 0 := fun h => by
    rw [IndexMap.len_eq_zero_iff, IndexMap.isEmpty_iff_get?] at h
    simp [h] at hold
  have hdrain : run genTrackChannelId serialize s₃ [.popOutput, .popOutput, .popOutput, .popOutput] =
      .ok ({ s₃ with queue := [] }, s₃.queue) := by
    rw [← run_drain, hq]; rfl
  refine ⟨{ s₃ with queue := [] }, s₃.queue, ?_, rfl, ?_, ?_, ?_⟩
  · have hstep₁ : step genTrackChannelId serialize (new room : RoomChannelPublisher Endpoint)
        (.trackPublish endpoint track peer name) = .ok (s₁, none) := rfl
    have hstep₂ : step genTrackChannelId serialize s₁ (.trackPublish endpoint track peer name') =
        .ok (s₂, none) := rfl
    have hstep₃ : step genTrackChannelId serialize s₂ (.trackUnpublish endpoint track) =
        .ok (s₃, none) := by simp [step, hok, Except.map]
    rw [run_cons _ _ hstep₁, run_cons _ _ hstep₂, run_cons _ _ hstep₃, hdrain]
    rfl
  · simp only [isEmpty, Bool.and_eq_false_iff]
    exact .inl (.inr (by rwa [← Bool.not_eq_true, ← IndexMap.len_eq_zero_iff]))
  · simp [drop, htracks, hsources]
  · simp [hq, pubMarks, pubMark, hne, Ne.symm hne]

theorem republish_leaks_after_drain_audio_video :
    nameLengthChannel ⟨1⟩ ⟨"peer1"⟩ ⟨"audio"⟩ ≠ nameLengthChannel ⟨1⟩ ⟨"peer1"⟩ ⟨"video_main"⟩ ∧
    ∃ s popped, run nameLengthChannel (fun (_ : Unit) => []) (new ⟨1⟩ : RoomChannelPublisher Nat)
        [.trackPublish 2 ⟨3⟩ ⟨"peer1"⟩ ⟨"audio"⟩, .trackPublish 2 ⟨3⟩ ⟨"peer1"⟩ ⟨"video_main"⟩,
          .trackUnpublish 2 ⟨3⟩, .popOutput, .popOutput, .popOutput, .popOutput] = .ok (s, popped) ∧
      s.popOutput.2 = none ∧ s.isEmpty = false ∧ s.drop = .error "Tracks source not empty on drop" ∧
      pubMarks (nameLengthChannel ⟨1⟩ ⟨"peer1"⟩ ⟨"audio"⟩) popped = [true] :=
  have hne : nameLengthChannel ⟨1⟩ ⟨"peer1"⟩ ⟨"audio"⟩ ≠
      nameLengthChannel ⟨1⟩ ⟨"peer1"⟩ ⟨"video_main"⟩ := by decide
  ⟨hne, republish_leaks_after_drain nameLengthChannel (fun (_ : Unit) => []) ⟨1⟩ 2 ⟨3⟩ ⟨"peer1"⟩
    ⟨"audio"⟩ ⟨"video_main"⟩ hne⟩

end Republish

end MediaServer.Publisher.Republish
