import MediaServer.Publisher.Channels
import Mathlib.Data.List.Chain

/-!
# Runs that never publish a live track again

Publishing a track that is already published is the one call that lets the
two indexes drift apart. In a run without such a call a track is a source of
a channel exactly when its entry names that channel, so a run that ends with
every track unpublished holds no track and no source: draining the queue
leaves an empty publisher, and every channel saw as many stops as starts.
-/

namespace MediaServer.Publisher.Balanced

open Collections Cluster RoomChannelPublisher Run Channels

variable {Endpoint MediaPacket : Type} [DecidableEq Endpoint]

/-- Whether a call publishes (`true`) or unpublishes (`false`) the track `key`. -/
def keyMark (key : TrackKey Endpoint) : Call Endpoint MediaPacket → Option Bool
  | .trackPublish endpoint track _ _ => if (endpoint, track) = key then some true else none
  | .trackUnpublish endpoint track => if (endpoint, track) = key then some false else none
  | _ => none

/-- The publishes and unpublishes of `key` among `calls`, in order. -/
def keyMarks (key : TrackKey Endpoint) (calls : List (Call Endpoint MediaPacket)) : List Bool :=
  calls.filterMap (keyMark key)

/-- No publish follows a publish without an unpublish between them. -/
def NoRepublish (marks : List Bool) : Prop := marks.Chain' fun a b => a = true → b = false

/-- A track is a source of a channel exactly when its entry names that channel. -/
def Exact (s : RoomChannelPublisher Endpoint) : Prop :=
  ∀ k c, k ∈ s.sourcesOf c ↔ ∃ p n, s.tracks.get? k = some (p, n, c)

theorem keyMarks_cons (key : TrackKey Endpoint) (call : Call Endpoint MediaPacket)
    (calls : List (Call Endpoint MediaPacket)) :
    keyMarks key (call :: calls) = (keyMark key call).toList ++ keyMarks key calls := by
  simp only [keyMarks, List.filterMap_cons]
  cases keyMark key call <;> rfl

/-- Going past one call keeps the rest free of republishes, and keeps what
the last mark is. -/
theorem NoRepublish.of_cons {b : Bool} {o : Option Bool} {rest : List Bool}
    (h : NoRepublish (b :: (o.toList ++ rest))) :
    NoRepublish (o.getD b :: rest) ∧
      (b :: (o.toList ++ rest)).getLast (List.cons_ne_nil _ _) =
        (o.getD b :: rest).getLast (List.cons_ne_nil _ _) := by
  cases o with
  | none => exact ⟨h, rfl⟩
  | some m => exact ⟨h.tail, List.getLast_cons (List.cons_ne_nil _ _)⟩

section Exact

variable {genTrackChannelId : ClusterRoomHash → PeerId → TrackName → ChannelId}
  {s s' : RoomChannelPublisher Endpoint}

theorem Exact.new (room : ClusterRoomHash) : Exact (new room : RoomChannelPublisher Endpoint) :=
  fun k c => by simp

/-- Publishing a track that is not published keeps the indexes exact. -/
theorem Exact.publish (he : Exact s) {endpoint : Endpoint} {track : RemoteTrackId}
    (hfree : s.tracks.get? (endpoint, track) = none) (peer : PeerId) (name : TrackName) :
    Exact (s.onTrackPublish genTrackChannelId endpoint track peer name) := by
  intro k c
  rw [mem_sourcesOf_onTrackPublish, tracks_onTrackPublish]
  by_cases hk : k = (endpoint, track)
  · subst hk
    have hnot : (endpoint, track) ∉ s.sourcesOf c := fun hm => by
      obtain ⟨p, n, h⟩ := (he _ c).mp hm
      simp [hfree] at h
    simp [hnot, eq_comm]
  · simp [hk, he k c]

theorem Exact.unpublished (he : Exact s) {key : TrackKey Endpoint} {p : PeerId} {n : TrackName}
    {channel : ChannelId} (h : s.tracks.get? key = some (p, n, channel))
    (hu : s.Unpublished key channel s') : Exact s' := by
  intro k c
  rw [hu.tracks]
  by_cases hc : c = channel
  · subst hc
    rw [hu.sources, he k c]
    by_cases hk : k = key <;> simp [hk]
  · rw [sourcesOf_congr (hu.tracksSource_of_ne c hc), he k c]
    by_cases hk : k = key
    · subst hk; simp [h, Ne.symm hc]
    · simp [hk]

theorem Exact.with_queue (he : Exact s) (queue : List (Output Endpoint)) : Exact { s with queue } :=
  he

variable (serialize : MediaPacket → List UInt8)

/-- A call that publishes no published track keeps an indexed state exact,
and leaves a track published exactly when the call published it, or, for a
call not naming it, when it was published before. -/
theorem Exact.step (hs : Indexed genTrackChannelId s) (he : Exact s)
    {call : Call Endpoint MediaPacket} {out : Option (Output Endpoint)}
    (hfresh : ∀ k, keyMark k call = some true → s.tracks.get? k = none)
    (hstep : step genTrackChannelId serialize s call = .ok (s', out)) :
    Exact s' ∧ ∀ k, (s'.tracks.get? k).isSome = (keyMark k call).getD (s.tracks.get? k).isSome := by
  cases hs.stepCase serialize hstep with
  | publish endpoint track peer name =>
      refine ⟨he.publish (hfresh _ (by simp [keyMark])) peer name, fun k => ?_⟩
      by_cases hk : k = (endpoint, track)
      · simp [keyMark, hk]
      · simp [keyMark, hk, Ne.symm hk]
  | unpublishAbsent endpoint track ht =>
      refine ⟨he, fun k => ?_⟩
      by_cases hk : k = (endpoint, track)
      · subst hk; simp [keyMark, ht]
      · simp [keyMark, Ne.symm hk]
  | unpublish endpoint track ht hu =>
      refine ⟨he.unpublished ht hu, fun k => ?_⟩
      rw [hu.tracks]
      by_cases hk : k = (endpoint, track)
      · simp [keyMark, hk]
      · simp [keyMark, hk, Ne.symm hk]
  | data | feedback | popOutput => exact ⟨he.with_queue _, fun k => by simp [keyMark]⟩

/-- A run without republishes keeps an indexed state exact, and leaves a
track published exactly when the last call naming it published it. -/
theorem Exact.run (calls : List (Call Endpoint MediaPacket)) :
    ∀ s : RoomChannelPublisher Endpoint, Indexed genTrackChannelId s → Exact s →
      (∀ k, NoRepublish ((s.tracks.get? k).isSome :: keyMarks k calls)) →
      ∃ s' popped, run genTrackChannelId serialize s calls = .ok (s', popped) ∧
        Indexed genTrackChannelId s' ∧ s'.room = s.room ∧ Exact s' ∧
        ∀ k, (s'.tracks.get? k).isSome =
          ((s.tracks.get? k).isSome :: keyMarks k calls).getLast (List.cons_ne_nil _ _) := by
  induction calls with
  | nil => exact fun s hs he _ => ⟨s, [], rfl, hs, rfl, he, fun _ => rfl⟩
  | cons call calls ih =>
      intro s hs he hno
      simp only [keyMarks_cons] at hno
      obtain ⟨s₁, out, hstep, hs₁, hroom₁⟩ := hs.exists_step serialize call
      have hfresh : ∀ k, keyMark k call = some true → s.tracks.get? k = none := fun k hk => by
        have := hno k
        rw [hk] at this
        simp only [NoRepublish, Option.toList_some, List.singleton_append, List.chain'_cons] at this
        simpa using this.1
      obtain ⟨he₁, hst⟩ := he.step serialize hs hfresh hstep
      obtain ⟨s', popped, hrun, hs', hroom', he', hlast⟩ := ih s₁ hs₁ he₁ fun k => by
        rw [hst k]; exact (hno k).of_cons.1
      refine ⟨s', out.toList ++ popped, by simp [run_cons _ serialize hstep, hrun, Except.map], hs',
        hroom'.trans hroom₁, he', fun k => ?_⟩
      rw [hlast k, hst k, keyMarks_cons, (hno k).of_cons.2]

end Exact

/-! ### Runs without republishes -/

variable (genTrackChannelId : ClusterRoomHash → PeerId → TrackName → ChannelId)
  (serialize : MediaPacket → List UInt8)

/-- A run from `new` without republishes ends exact, in the same room, with
each track published exactly when the last call naming it published it. -/
theorem exact_of_run_new (room : ClusterRoomHash) (calls : List (Call Endpoint MediaPacket))
    (hno : ∀ k, NoRepublish (keyMarks k calls)) :
    ∃ s popped, run genTrackChannelId serialize (new room) calls = .ok (s, popped) ∧
      Indexed genTrackChannelId s ∧ s.room = room ∧ Exact s ∧
      ∀ k, (s.tracks.get? k).isSome = (false :: keyMarks k calls).getLast (List.cons_ne_nil _ _) :=
  Exact.run serialize calls (new room)
    (Indexed.new room : Indexed genTrackChannelId (new room : RoomChannelPublisher Endpoint))
    (Exact.new room) fun k =>
      List.chain'_cons'.mpr ⟨fun _ _ h => absurd h Bool.false_ne_true, hno k⟩

/-- In a run from `new` that never publishes a published track, the two
indexes agree exactly: a track is a source of a channel if and only if its
entry names that channel, which is the channel of its `(peer, name)` in the
room, and no channel keeps an empty source set. -/
theorem indexes_agree_without_republish (room : ClusterRoomHash)
    (calls : List (Call Endpoint MediaPacket)) (hno : ∀ k, NoRepublish (keyMarks k calls)) :
    ∃ s popped, run genTrackChannelId serialize (new room) calls = .ok (s, popped) ∧
      (∀ k c, k ∈ s.sourcesOf c ↔
        ∃ p n, s.tracks.get? k = some (p, n, c) ∧ c = genTrackChannelId room p n) ∧
      ∀ c, (s.tracksSource.get? c).isSome → s.sourcesOf c ≠ [] := by
  obtain ⟨s, popped, hrun, hs, hroom, he, -⟩ :=
    exact_of_run_new genTrackChannelId serialize room calls hno
  refine ⟨s, popped, hrun, fun k c => (he k c).trans ?_, hs.nonempty⟩
  constructor
  · rintro ⟨p, n, h⟩
    exact ⟨p, n, h, hroom ▸ hs.channel k p n c h⟩
  · rintro ⟨p, n, h, -⟩
    exact ⟨p, n, h⟩

/-- A channel id derivation that puts every track on channel 0. -/
def channelZero (_ : ClusterRoomHash) (_ : PeerId) (_ : TrackName) : ChannelId := ⟨0⟩

/-- A publish, a packet and the unpublish of one track. -/
def publishDataUnpublish : List (Call Nat Unit) :=
  [.trackPublish 2 ⟨3⟩ ⟨"peer1"⟩ ⟨"audio_main"⟩, .trackData 2 ⟨3⟩ (), .trackUnpublish 2 ⟨3⟩]

theorem keyMarks_publishDataUnpublish (k : TrackKey Nat) :
    keyMarks k publishDataUnpublish = if (2, ⟨3⟩) = k then [true, false] else [] := by
  by_cases hk : ((2, ⟨3⟩) : TrackKey Nat) = k <;> simp [keyMarks, keyMark, publishDataUnpublish, hk]

theorem noRepublish_publishDataUnpublish (k : TrackKey Nat) :
    NoRepublish (keyMarks k publishDataUnpublish) := by
  rw [keyMarks_publishDataUnpublish]
  split <;> simp [NoRepublish]

theorem indexes_agree_without_republish_publishDataUnpublish :
    (∀ k, NoRepublish (keyMarks k publishDataUnpublish)) ∧
    ∃ s popped, run channelZero (fun (_ : Unit) => []) (new ⟨1⟩) publishDataUnpublish =
        .ok (s, popped) ∧
      (∀ k c, k ∈ s.sourcesOf c ↔
        ∃ p n, s.tracks.get? k = some (p, n, c) ∧ c = channelZero ⟨1⟩ p n) ∧
      ∀ c, (s.tracksSource.get? c).isSome → s.sourcesOf c ≠ [] :=
  ⟨noRepublish_publishDataUnpublish, indexes_agree_without_republish channelZero
    (fun (_ : Unit) => []) ⟨1⟩ publishDataUnpublish noRepublish_publishDataUnpublish⟩

/-! ### Balanced runs drain to an empty publisher -/

/-- The starts (`true`) or stops (`false`) of a channel among some outputs. -/
theorem count_pubsub_eq_count_pubMarks (channel : ChannelId) (b : Bool)
    (outs : List (Output Endpoint)) :
    outs.count (.pubsub ⟨channel, if b then .pubStart else .pubStop⟩) =
      (pubMarks channel outs).count b := by
  induction outs with
  | nil => rfl
  | cons o outs ih =>
      simp only [pubMarks, List.filterMap_cons, List.count_cons] at ih ⊢
      rcases o with _ | ⟨c, control⟩ | _
      · simp_all [pubMark]
      · by_cases hc : c = channel <;> cases control <;> cases b <;> simp_all [pubMark]
      · simp_all [pubMark]

theorem count_pubPhases (n : Nat) :
    (pubPhases n).count true = (n + 1) / 2 ∧ (pubPhases n).count false = n / 2 := by
  induction n with
  | zero => exact ⟨rfl, rfl⟩
  | succ n ih =>
      rw [pubPhases_succ, List.count_append, List.count_append, ih.1, ih.2]
      by_cases h : n % 2 = 0 <;> simp [h] <;> omega

theorem getLast_false_of_getLast? {l : List Bool} (h : l.getLast? ≠ some true) :
    (false :: l).getLast (List.cons_ne_nil _ _) = false := by
  cases l with
  | nil => rfl
  | cons x xs =>
      rw [List.getLast_cons (List.cons_ne_nil _ _)]
      rw [List.getLast?_eq_getLast (x :: xs) (List.cons_ne_nil _ _)] at h
      simpa using h

/-- A run from `new` that never publishes a published track and leaves every
track unpublished drains to an empty publisher: after popping until
`pop_output` returns `None`, `is_empty()` holds and the drop succeeds; and
every channel saw as many `PubStop` as `PubStart` outputs. -/
theorem balanced_run_drains_empty (room : ClusterRoomHash)
    (calls : List (Call Endpoint MediaPacket)) (hno : ∀ k, NoRepublish (keyMarks k calls))
    (hend : ∀ k, (keyMarks k calls).getLast? ≠ some true) :
    ∃ s popped, run genTrackChannelId serialize (new room) calls = .ok (s, popped) ∧
      ∃ drained, run genTrackChannelId serialize s
          (List.replicate (s.queue.length + 1) .popOutput) = .ok (drained, s.queue) ∧
        drained.popOutput.2 = none ∧ drained.isEmpty = true ∧ drained.drop = .ok () ∧
        ∀ channel, (popped ++ s.queue).count (.pubsub ⟨channel, .pubStart⟩) =
          (popped ++ s.queue).count (.pubsub ⟨channel, .pubStop⟩) := by
  obtain ⟨s, popped, hrun, hs, -, he, hlast⟩ :=
    exact_of_run_new genTrackChannelId serialize room calls hno
  have htracks : ∀ k, s.tracks.get? k = none := fun k => by
    have h := hlast k
    rw [getLast_false_of_getLast? (hend k)] at h
    simpa using h
  have hsources : ∀ c, s.tracksSource.get? c = none := fun c => by
    have hnil : s.sourcesOf c = [] :=
      List.eq_nil_iff_forall_not_mem.mpr fun k hk => by simpa [htracks k] using (he k c).mp hk
    cases h : s.tracksSource.get? c
    · rfl
    · exact absurd hnil (hs.nonempty c (by simp [h]))
  have hempty : ({ s with queue := [] } : RoomChannelPublisher Endpoint).isEmpty = true := by
    simp [isEmpty, IndexMap.isEmpty_iff_get?, htracks, hsources]
  obtain ⟨s₂, popped₂, hrun₂, hphase⟩ :=
    @pubMarks_alternate_of_new Endpoint MediaPacket _ genTrackChannelId serialize room calls
  obtain ⟨rfl, rfl⟩ : s = s₂ ∧ popped = popped₂ := by
    rw [hrun] at hrun₂; cases hrun₂; exact ⟨rfl, rfl⟩
  refine ⟨s, popped, hrun, _, run_drain genTrackChannelId serialize s, rfl, hempty,
    (drop_eq_ok_iff _).mpr hempty, fun channel => ?_⟩
  obtain ⟨hph, hlast', -⟩ := hphase channel
  have heven : (pubMarks channel (popped ++ s.queue)).length % 2 = 0 := by
    have hno' : ¬ (pubMarks channel (popped ++ s.queue)).getLast? = some true := by
      rw [hlast', hsources channel]; simp
    rw [hph, getLast?_pubPhases] at hno'
    omega
  have hstart := count_pubsub_eq_count_pubMarks channel true (popped ++ s.queue)
  have hstop := count_pubsub_eq_count_pubMarks channel false (popped ++ s.queue)
  simp only [if_true, Bool.false_eq_true, if_false] at hstart hstop
  rw [hstart, hstop, hph, (count_pubPhases _).1, (count_pubPhases _).2]
  omega

theorem balanced_run_drains_empty_publishDataUnpublish :
    (∀ k, NoRepublish (keyMarks k publishDataUnpublish)) ∧
    (∀ k, (keyMarks k publishDataUnpublish).getLast? ≠ some true) ∧
    ∃ s popped, run channelZero (fun (_ : Unit) => []) (new ⟨1⟩) publishDataUnpublish =
        .ok (s, popped) ∧
      ∃ drained, run channelZero (fun (_ : Unit) => []) s
          (List.replicate (s.queue.length + 1) .popOutput) = .ok (drained, s.queue) ∧
        drained.popOutput.2 = none ∧ drained.isEmpty = true ∧ drained.drop = .ok () ∧
        ∀ channel, (popped ++ s.queue).count (.pubsub ⟨channel, .pubStart⟩) =
          (popped ++ s.queue).count (.pubsub ⟨channel, .pubStop⟩) :=
  have hend : ∀ k, (keyMarks k publishDataUnpublish).getLast? ≠ some true := fun k => by
    rw [keyMarks_publishDataUnpublish]
    split <;> decide
  ⟨noRepublish_publishDataUnpublish, hend, balanced_run_drains_empty channelZero
    (fun (_ : Unit) => []) ⟨1⟩ publishDataUnpublish noRepublish_publishDataUnpublish hend⟩

end MediaServer.Publisher.Balanced
