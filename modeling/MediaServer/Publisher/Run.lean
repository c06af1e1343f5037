import MediaServer.Publisher.Model
import Mathlib.Data.List.Count

/-!
# Runs of the channel publisher

A room drives its publisher by a sequence of calls. `step` is one call and
`run` a sequence of them, collecting what `pop_output` returned. `Indexed` is
the invariant every reachable publisher keeps: each published track is listed
by the channel its entry names, that channel is the one of its `(peer, name)`
pair, and no channel keeps an empty source set. From it, `on_track_unpublish`
never panics.
-/

namespace MediaServer.Publisher.Run

open Collections Cluster RoomChannelPublisher

/-- A call of the room on its publisher. -/
inductive Call (Endpoint MediaPacket : Type) where
  | trackPublish (endpoint : Endpoint) (track : RemoteTrackId) (peer : PeerId) (name : TrackName)
  | trackUnpublish (endpoint : Endpoint) (track : RemoteTrackId)
  | trackData (endpoint : Endpoint) (track : RemoteTrackId) (media : MediaPacket)
  | trackFeedback (channel : ChannelId) (fb : Feedback)
  | popOutput

variable {Endpoint MediaPacket : Type} [DecidableEq Endpoint]
variable (genTrackChannelId : ClusterRoomHash → PeerId → TrackName → ChannelId)
variable (serialize : MediaPacket → List UInt8)

/-- One call: the next state and, for `pop_output`, the output returned. -/
def step (s : RoomChannelPublisher Endpoint) :
    Call Endpoint MediaPacket → Except String (RoomChannelPublisher Endpoint × Option (Output Endpoint))
  | .trackPublish endpoint track peer name =>
      .ok (s.onTrackPublish genTrackChannelId endpoint track peer name, none)
  | .trackUnpublish endpoint track => (s.onTrackUnpublish endpoint track).map (·, none)
  | .trackData endpoint track media => .ok (s.onTrackData serialize endpoint track media, none)
  | .trackFeedback channel fb => .ok (s.onTrackFeedback channel fb, none)
  | .popOutput => .ok s.popOutput

/-- A sequence of calls, with the outputs `pop_output` returned in order. -/
def run (s : RoomChannelPublisher Endpoint) :
    List (Call Endpoint MediaPacket) → Except String (RoomChannelPublisher Endpoint × List (Output Endpoint))
  | [] => .ok (s, [])
  | call :: calls =>
      match step genTrackChannelId serialize s call with
      | .error e => .error e
      | .ok (s', out) =>
          match run s' calls with
          | .error e => .error e
          | .ok (s'', outs) => .ok (s'', out.toList ++ outs)

theorem run_cons {s s' : RoomChannelPublisher Endpoint} {call : Call Endpoint MediaPacket}
    {out : Option (Output Endpoint)} (h : step genTrackChannelId serialize s call = .ok (s', out))
    (calls : List (Call Endpoint MediaPacket)) :
    run genTrackChannelId serialize s (call :: calls) =
      (run genTrackChannelId serialize s' calls).map fun r => (r.1, out.toList ++ r.2) := by
  simp only [run, h]
  cases run genTrackChannelId serialize s' calls <;> rfl

/-- Calling `pop_output` until it returns `None` yields the queue, in order. -/
theorem run_drain (s : RoomChannelPublisher Endpoint) :
    run genTrackChannelId serialize s (List.replicate (s.queue.length + 1) .popOutput) =
      .ok ({ s with queue := [] }, s.queue) := by
  obtain ⟨room, tracks, tracksSource, queue⟩ := s
  induction queue with
  | nil => rfl
  | cons out queue ih =>
      rw [List.length_cons, List.replicate_succ]
      unfold run
      simp only [step, popOutput]
      rw [ih]
      rfl

/-- The publishers a room can reach from `RoomChannelPublisher::new`. -/
inductive Reachable (room : ClusterRoomHash) : RoomChannelPublisher Endpoint → Prop
  | new : Reachable room (new room)
  | step {s s' : RoomChannelPublisher Endpoint} {call : Call Endpoint MediaPacket}
      {out : Option (Output Endpoint)} :
      Reachable room s → step genTrackChannelId serialize s call = .ok (s', out) → Reachable room s'

/-- The agreement of the two indexes that every reachable publisher keeps. -/
structure Indexed (s : RoomChannelPublisher Endpoint) : Prop where
  sourced : ∀ k p n c, s.tracks.get? k = some (p, n, c) → k ∈ s.sourcesOf c
  channel : ∀ k p n c, s.tracks.get? k = some (p, n, c) → c = genTrackChannelId s.room p n
  nonempty : ∀ c, (s.tracksSource.get? c).isSome → s.sourcesOf c ≠ []

variable {genTrackChannelId}

/-- Under the invariant a channel has an entry exactly when it has sources. -/
theorem Indexed.isSome_iff {s : RoomChannelPublisher Endpoint} (hs : Indexed genTrackChannelId s)
    (channel : ChannelId) : (s.tracksSource.get? channel).isSome ↔ s.sourcesOf channel ≠ [] := by
  refine ⟨hs.nonempty channel, fun h => ?_⟩
  cases hc : s.tracksSource.get? channel
  · exact absurd (by simp [sourcesOf, hc]) h
  · rfl

theorem Indexed.new (room : ClusterRoomHash) :
    Indexed genTrackChannelId (new room : RoomChannelPublisher Endpoint) :=
  ⟨fun _ _ _ _ h => by simp at h, fun _ _ _ _ h => by simp at h, fun _ h => by simp at h⟩

/-- The invariant reads only the two indexes and the room. -/
theorem Indexed.with_queue {s : RoomChannelPublisher Endpoint} (hs : Indexed genTrackChannelId s)
    (queue : List (Output Endpoint)) : Indexed genTrackChannelId { s with queue } :=
  ⟨hs.sourced, hs.channel, hs.nonempty⟩

theorem Indexed.publish {s : RoomChannelPublisher Endpoint} (hs : Indexed genTrackChannelId s)
    (endpoint : Endpoint) (track : RemoteTrackId) (peer : PeerId) (name : TrackName) :
    Indexed genTrackChannelId (s.onTrackPublish genTrackChannelId endpoint track peer name) := by
  refine ⟨fun k p n c h => ?_, fun k p n c h => ?_, fun c h => ?_⟩
  · rw [mem_sourcesOf_onTrackPublish]
    simp only [tracks_onTrackPublish] at h
    split at h
    · cases h; exact .inl ⟨rfl, ‹_›⟩
    · exact .inr (hs.sourced k p n c h)
  · simp only [tracks_onTrackPublish, onTrackPublish_room] at h ⊢
    split at h
    · cases h; rfl
    · exact hs.channel k p n c h
  · rw [tracksSource_onTrackPublish] at h
    split at h
    · exact List.ne_nil_of_mem ((mem_sourcesOf_onTrackPublish ..).mpr (.inl ⟨‹_›, rfl⟩))
    · obtain ⟨k, hk⟩ := List.exists_mem_of_ne_nil _ (hs.nonempty c h)
      exact List.ne_nil_of_mem ((mem_sourcesOf_onTrackPublish ..).mpr (.inr hk))

theorem Indexed.unpublished {s s' : RoomChannelPublisher Endpoint} {key : TrackKey Endpoint}
    {channel : ChannelId} (hs : Indexed genTrackChannelId s) (hu : s.Unpublished key channel s') :
    Indexed genTrackChannelId s' := by
  have hsrc : ∀ c, c ≠ channel → s'.sourcesOf c = s.sourcesOf c :=
    fun c hc => sourcesOf_congr (hu.tracksSource_of_ne c hc)
  refine ⟨fun k p n c h => ?_, fun k p n c h => ?_, fun c h => ?_⟩
  · rw [hu.tracks] at h
    split at h
    · cases h
    · by_cases hc : c = channel
      · subst hc; exact (hu.sources k).mpr ⟨hs.sourced k p n c h, ‹_›⟩
      · rw [hsrc c hc]; exact hs.sourced k p n c h
  · rw [hu.tracks] at h
    split at h
    · cases h
    · rw [hu.room]; exact hs.channel k p n c h
  · by_cases hc : c = channel
    · subst hc; exact hu.entry.mp h
    · rw [hsrc c hc]; rw [hu.tracksSource_of_ne c hc] at h; exact hs.nonempty c h

/-- From an indexed state every call succeeds and keeps the invariant. -/
theorem Indexed.exists_step {s : RoomChannelPublisher Endpoint} (hs : Indexed genTrackChannelId s)
    (call : Call Endpoint MediaPacket) :
    ∃ s' out, step genTrackChannelId serialize s call = .ok (s', out) ∧
      Indexed genTrackChannelId s' ∧ s'.room = s.room := by
  cases call with
  | trackPublish endpoint track peer name => exact ⟨_, _, rfl, hs.publish .., rfl⟩
  | trackUnpublish endpoint track =>
      cases h : s.tracks.get? (endpoint, track) with
      | none => exact ⟨s, none, by simp [step, onTrackUnpublish_of_none _ _ _ h, Except.map], hs, rfl⟩
      | some v =>
          obtain ⟨p, n, c⟩ := v
          obtain ⟨s', hok, hu⟩ := onTrackUnpublish_spec s endpoint track h (hs.sourced _ _ _ _ h)
          exact ⟨s', none, by simp [step, hok, Except.map], hs.unpublished hu, hu.room⟩
  | trackData endpoint track media =>
      exact ⟨_, _, rfl, by rw [onTrackData_eq]; exact hs.with_queue _, by rw [onTrackData_eq]⟩
  | trackFeedback channel fb =>
      exact ⟨_, _, rfl, by rw [onTrackFeedback_eq]; exact hs.with_queue _, by rw [onTrackFeedback_eq]⟩
  | popOutput =>
      refine ⟨s.popOutput.1, s.popOutput.2, rfl, ?_, by rw [(popOutput_eq s).2]⟩
      rw [(popOutput_eq s).2]; exact hs.with_queue _

variable (genTrackChannelId) in
/-- What one call does to a publisher whose indexes agree; an unpublish of a
published track is described by `Unpublished`. -/
inductive StepCase (s : RoomChannelPublisher Endpoint) :
    Call Endpoint MediaPacket → RoomChannelPublisher Endpoint → Option (Output Endpoint) → Prop
  | publish (endpoint : Endpoint) (track : RemoteTrackId) (peer : PeerId) (name : TrackName) :
      StepCase s (.trackPublish endpoint track peer name)
        (s.onTrackPublish genTrackChannelId endpoint track peer name) none
  | unpublishAbsent (endpoint : Endpoint) (track : RemoteTrackId)
      (h : s.tracks.get? (endpoint, track) = none) : StepCase s (.trackUnpublish endpoint track) s none
  | unpublish (endpoint : Endpoint) (track : RemoteTrackId) {peer : PeerId} {name : TrackName}
      {channel : ChannelId} {s' : RoomChannelPublisher Endpoint}
      (h : s.tracks.get? (endpoint, track) = some (peer, name, channel))
      (hu : s.Unpublished (endpoint, track) channel s') : StepCase s (.trackUnpublish endpoint track) s' none
  | data (endpoint : Endpoint) (track : RemoteTrackId) (media : MediaPacket) :
      StepCase s (.trackData endpoint track media)
        { s with queue := s.queue ++ match s.tracks.get? (endpoint, track) with
          | some (_, _, channelId) => [.pubsub ⟨channelId, .pubData (serialize media)⟩]
          | none => [] } none
  | feedback (channel : ChannelId) (fb : Feedback) :
      StepCase s (.trackFeedback channel fb)
        { s with queue := s.queue ++ match FeedbackKind.tryFrom fb with
          | .ok kind => (s.sourcesOf channel).map (feedbackOutput kind)
          | .error () => [] } none
  | popOutput : StepCase s .popOutput { s with queue := s.popOutput.1.queue } s.popOutput.2

/-- Every call that succeeds from an indexed state is one of the cases of `StepCase`. -/
theorem Indexed.stepCase {s s' : RoomChannelPublisher Endpoint} (hs : Indexed genTrackChannelId s)
    {call : Call Endpoint MediaPacket} {out : Option (Output Endpoint)}
    (hstep : step genTrackChannelId serialize s call = .ok (s', out)) :
    StepCase genTrackChannelId serialize s call s' out := by
  cases call with
  | trackPublish endpoint track peer name =>
      simp only [step, Except.ok.injEq, Prod.mk.injEq] at hstep
      obtain ⟨rfl, rfl⟩ := hstep
      exact .publish endpoint track peer name
  | trackUnpublish endpoint track =>
      cases ht : s.tracks.get? (endpoint, track) with
      | none =>
          simp [step, onTrackUnpublish_of_none _ _ _ ht, Except.map] at hstep
          obtain ⟨rfl, rfl⟩ := hstep
          exact .unpublishAbsent endpoint track ht
      | some v =>
          obtain ⟨p, n, c⟩ := v
          obtain ⟨s'', hok, hu⟩ := onTrackUnpublish_spec s endpoint track ht (hs.sourced _ _ _ _ ht)
          simp [step, hok, Except.map] at hstep
          obtain ⟨rfl, rfl⟩ := hstep
          exact .unpublish endpoint track ht hu
  | trackData endpoint track media =>
      simp only [step, Except.ok.injEq, Prod.mk.injEq] at hstep
      obtain ⟨rfl, rfl⟩ := hstep
      rw [onTrackData_eq]
      exact .data endpoint track media
  | trackFeedback channel fb =>
      simp only [step, Except.ok.injEq, Prod.mk.injEq] at hstep
      obtain ⟨rfl, rfl⟩ := hstep
      rw [onTrackFeedback_eq]
      exact .feedback channel fb
  | popOutput =>
      simp only [step, Except.ok.injEq] at hstep
      obtain ⟨rfl, rfl⟩ : s' = s.popOutput.1 ∧ out = s.popOutput.2 := by simp [hstep]
      rw [(popOutput_eq s).2]
      exact .popOutput

/-- What one call adds to the outputs sent so far: no data at all, or the one
`PubData` of a published track, on the channel its entry names. -/
theorem Indexed.step_appends {s s' : RoomChannelPublisher Endpoint} (hs : Indexed genTrackChannelId s)
    {call : Call Endpoint MediaPacket} {out : Option (Output Endpoint)}
    (hstep : step genTrackChannelId serialize s call = .ok (s', out)) :
    ∃ added, out.toList ++ s'.queue = s.queue ++ added ∧
      ((∀ c data, .pubsub ⟨c, .pubData data⟩ ∉ added) ∨
        ∃ k p n c data, s.tracks.get? k = some (p, n, c) ∧ added = [.pubsub ⟨c, .pubData data⟩]) := by
  cases hs.stepCase serialize hstep with
  | publish endpoint track peer name =>
      refine ⟨_, queue_onTrackPublish genTrackChannelId s endpoint track peer name, .inl fun c data => ?_⟩
      split <;> simp
  | unpublishAbsent => exact ⟨[], by simp, .inl fun _ _ => List.not_mem_nil _⟩
  | unpublish _ _ _ hu =>
      refine ⟨_, hu.queue, .inl fun c data => ?_⟩
      split <;> simp
  | data endpoint track media =>
      split
      · exact ⟨_, rfl, .inr ⟨_, _, _, _, _, ‹_›, rfl⟩⟩
      · exact ⟨[], rfl, .inl fun _ _ => List.not_mem_nil _⟩
  | feedback channel fb =>
      refine ⟨_, rfl, .inl fun c data => ?_⟩
      split
      · rename_i kind _
        cases kind <;> simp [feedbackOutput]
      · simp
  | popOutput => exact ⟨[], by rw [(popOutput_eq s).1, List.append_nil], .inl fun _ _ => List.not_mem_nil _⟩

/-- A property of the popped outputs and the state that every call keeps,
from an indexed state, holds after every run; and no run panics. -/
theorem Indexed.exists_run (P : List (Output Endpoint) → RoomChannelPublisher Endpoint → Prop)
    (hP : ∀ hist s call s' out, Indexed genTrackChannelId s → P hist s →
      step genTrackChannelId serialize s call = .ok (s', out) → P (hist ++ out.toList) s')
    {s : RoomChannelPublisher Endpoint} (hs : Indexed genTrackChannelId s)
    {hist : List (Output Endpoint)} (h : P hist s) (calls : List (Call Endpoint MediaPacket)) :
    ∃ s' popped, run genTrackChannelId serialize s calls = .ok (s', popped) ∧
      Indexed genTrackChannelId s' ∧ s'.room = s.room ∧ P (hist ++ popped) s' := by
  induction calls generalizing s hist with
  | nil => exact ⟨s, [], rfl, hs, rfl, by simpa using h⟩
  | cons call calls ih =>
      obtain ⟨s₁, out, hstep, hs₁, hroom₁⟩ := hs.exists_step serialize call
      obtain ⟨s₂, popped, hrun, hs₂, hroom₂, h₂⟩ := ih hs₁ (hP _ _ _ _ _ hs h hstep)
      refine ⟨s₂, out.toList ++ popped, by simp [run, hstep, hrun], hs₂, hroom₂.trans hroom₁, ?_⟩
      simpa using h₂

variable (genTrackChannelId)

theorem Reachable.indexed {room : ClusterRoomHash} {s : RoomChannelPublisher Endpoint}
    (h : Reachable genTrackChannelId serialize room s) :
    Indexed genTrackChannelId s ∧ s.room = room := by
  induction h with
  | new => exact ⟨Indexed.new room, rfl⟩
  | step _ hstep ih =>
      obtain ⟨s', out, hstep', hs', hroom⟩ := ih.1.exists_step serialize _
      rw [hstep] at hstep'
      cases hstep'
      exact ⟨hs', hroom.trans ih.2⟩

/-- In every reachable state a published track is listed by its channel's
source set, so no unpublish reaches one of its three panics. -/
theorem unpublish_never_panics {room : ClusterRoomHash} {s : RoomChannelPublisher Endpoint}
    (h : Reachable genTrackChannelId serialize room s) :
    (∀ k p n c, s.tracks.get? k = some (p, n, c) →
      ∃ sources, s.tracksSource.get? c = some sources ∧ k ∈ sources.keys) ∧
    ∀ endpoint track, ∃ s', s.onTrackUnpublish endpoint track = .ok s' := by
  have hs := (h.indexed genTrackChannelId serialize).1
  refine ⟨fun k p n c hk => mem_sourcesOf.mp (hs.sourced k p n c hk), fun endpoint track => ?_⟩
  obtain ⟨s', out, hstep, -⟩ := hs.exists_step serialize (.trackUnpublish endpoint track)
  simp only [step] at hstep
  cases hu : s.onTrackUnpublish endpoint track <;> simp_all [Except.map]

/-- A channel id derivation that tells track names of different lengths apart. -/
def nameLengthChannel (_ : ClusterRoomHash) (_ : PeerId) (name : TrackName) : ChannelId :=
  ⟨name.name.length.toUInt64⟩

/-- The publisher after track 3 of endpoint 2 was published as `audio`. -/
def publishedAudio : RoomChannelPublisher Nat :=
  (new ⟨1⟩ : RoomChannelPublisher Nat).onTrackPublish nameLengthChannel 2 ⟨3⟩ ⟨"peer1"⟩ ⟨"audio"⟩

/-- `publishedAudio` after the same track was published again as `video_main`. -/
def republishedVideo : RoomChannelPublisher Nat :=
  publishedAudio.onTrackPublish nameLengthChannel 2 ⟨3⟩ ⟨"peer1"⟩ ⟨"video_main"⟩

theorem unpublish_never_panics_republished :
    Reachable nameLengthChannel (fun (_ : Unit) => []) ⟨1⟩ republishedVideo ∧
    republishedVideo.tracks.get? (2, ⟨3⟩) =
      some (⟨"peer1"⟩, ⟨"video_main"⟩, nameLengthChannel ⟨1⟩ ⟨"peer1"⟩ ⟨"video_main"⟩) ∧
    ((∀ k p n c, republishedVideo.tracks.get? k = some (p, n, c) →
      ∃ sources, republishedVideo.tracksSource.get? c = some sources ∧ k ∈ sources.keys) ∧
      ∀ endpoint track, ∃ s', republishedVideo.onTrackUnpublish endpoint track = .ok s') ∧
    ∃ s, republishedVideo.onTrackUnpublish 2 ⟨3⟩ = .ok s ∧
      Reachable nameLengthChannel (fun (_ : Unit) => []) ⟨1⟩ s ∧
      (∀ k p n c, s.tracks.get? k = some (p, n, c) →
        ∃ sources, s.tracksSource.get? c = some sources ∧ k ∈ sources.keys) ∧
      ∀ endpoint track, ∃ s', s.onTrackUnpublish endpoint track = .ok s' := by
  have hr : Reachable nameLengthChannel (fun (_ : Unit) => []) ⟨1⟩ republishedVideo :=
    .step (.step .new (show step nameLengthChannel (fun (_ : Unit) => [])
        (new ⟨1⟩ : RoomChannelPublisher Nat) (.trackPublish 2 ⟨3⟩ ⟨"peer1"⟩ ⟨"audio"⟩) =
          .ok (publishedAudio, none) from rfl))
      (show step nameLengthChannel (fun (_ : Unit) => []) publishedAudio
        (.trackPublish 2 ⟨3⟩ ⟨"peer1"⟩ ⟨"video_main"⟩) = .ok (republishedVideo, none) from rfl)
  have h := unpublish_never_panics nameLengthChannel (fun (_ : Unit) => []) hr
  obtain ⟨s, hs⟩ := h.2 2 ⟨3⟩
  have hr' : Reachable nameLengthChannel (fun (_ : Unit) => []) ⟨1⟩ s :=
    .step hr (show step nameLengthChannel (fun (_ : Unit) => []) republishedVideo
      (.trackUnpublish 2 ⟨3⟩) = .ok (s, none) by simp [step, hs, Except.map])
  exact ⟨hr, rfl, h, s, hs, hr', unpublish_never_panics nameLengthChannel (fun (_ : Unit) => []) hr'⟩

section Feedback

/-- The output a source receives for a remote-track event. -/
def remoteTrackOutput (event : ClusterRemoteTrackEvent) (source : TrackKey Endpoint) :
    Output Endpoint :=
  .endpoint [source.1] (.remoteTrack source.2 event)

/-- `added` notifies each of `sources` exactly once with `event`, and nothing else. -/
def FansOut (sources : List (TrackKey Endpoint)) (event : ClusterRemoteTrackEvent)
    (added : List (Output Endpoint)) : Prop :=
  (∀ k, added.count (remoteTrackOutput event k) = if k ∈ sources then 1 else 0) ∧
    ∀ o ∈ added, ∃ k ∈ sources, o = remoteTrackOutput event k

theorem fansOut_map {sources : List (TrackKey Endpoint)} (h : sources.Nodup)
    (event : ClusterRemoteTrackEvent) :
    FansOut sources event (sources.map (remoteTrackOutput event)) := by
  have hinj : Function.Injective (@remoteTrackOutput Endpoint event) :=
    fun a b hab => by simpa [remoteTrackOutput, Prod.ext_iff] using hab
  refine ⟨fun k => ?_, fun o ho => ?_⟩
  · rw [List.count_map_of_injective _ _ hinj]
    split
    · exact List.count_eq_one_of_mem h ‹_›
    · exact @List.count_eq_zero_of_not_mem _ instBEqOfDecidableEq instLawfulBEq _ _ ‹_›
  · obtain ⟨k, hk, rfl⟩ := List.mem_map.mp ho
    exact ⟨k, hk, rfl⟩

/-- A feedback leaves both indexes alone and notifies each current source of
its channel once: a bitrate limit for kind `0`, a key-frame request for kind
`1`, nothing for other kinds or a channel without sources. -/
theorem onTrackFeedback_fans_out (s : RoomChannelPublisher Endpoint) (channel : ChannelId)
    (fb : Feedback) :
    (s.onTrackFeedback channel fb).tracks = s.tracks ∧
      (s.onTrackFeedback channel fb).tracksSource = s.tracksSource ∧
      ∃ added, (s.onTrackFeedback channel fb).queue = s.queue ++ added ∧
        (fb.kind = 0 → FansOut (s.sourcesOf channel) (.limitBitrate fb.min fb.max) added) ∧
        (fb.kind = 1 → FansOut (s.sourcesOf channel) .requestKeyFrame added) ∧
        (fb.kind ≠ 0 → fb.kind ≠ 1 → added = []) ∧
        (s.sourcesOf channel = [] → added = []) := by
  rw [onTrackFeedback_eq]
  refine ⟨rfl, rfl, _, rfl, fun h => ?_, fun h => ?_, fun h0 h1 => ?_, fun h => ?_⟩
  · simpa [FeedbackKind.tryFrom, h] using fansOut_map (s.sourcesOf_nodup channel) _
  · simpa [FeedbackKind.tryFrom, h] using fansOut_map (s.sourcesOf_nodup channel) _
  · simp [FeedbackKind.tryFrom, h0, h1]
  · split <;> simp [h]

end Feedback

end MediaServer.Publisher.Run
