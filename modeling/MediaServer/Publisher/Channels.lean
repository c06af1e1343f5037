import MediaServer.Publisher.Run

/-!
# Channel start and stop

A channel is started with `PubStart` when its source set turns non-empty and
stopped with `PubStop` when it turns empty again. Seen from one channel, the
outputs of any run therefore alternate from a `PubStart`, and the last of
them is a `PubStart` exactly while the channel has sources. Data is sent only
for a published track, whose channel has sources, so every `PubData` falls
between a `PubStart` and the next `PubStop` of its channel.

## Implementation notes

The outputs of a run are what `pop_output` returned followed by what is still
queued; `pop_output` only moves outputs from the second list to the first.
-/

namespace MediaServer.Publisher.Channels

open Collections Cluster RoomChannelPublisher Run

variable {Endpoint MediaPacket : Type}

/-- The `PubStart` (`true`) or `PubStop` (`false`) that an output sends on
`channel`, if any. -/
def pubMark (channel : ChannelId) : Output Endpoint → Option Bool
  | .pubsub ⟨c, .pubStart⟩ => if c = channel then some true else none
  | .pubsub ⟨c, .pubStop⟩ => if c = channel then some false else none
  | _ => none

/-- The starts and stops of `channel` among `outs`, in order. -/
def pubMarks (channel : ChannelId) (outs : List (Output Endpoint)) : List Bool :=
  outs.filterMap (pubMark channel)

/-- `n` marks alternating from a start. -/
def pubPhases (n : Nat) : List Bool := (List.range n).map fun i => decide (i % 2 = 0)

@[simp] theorem pubMarks_append (channel : ChannelId) (l l' : List (Output Endpoint)) :
    pubMarks channel (l ++ l') = pubMarks channel l ++ pubMarks channel l' :=
  List.filterMap_append _ _ _

@[simp] theorem pubMarks_nil (channel : ChannelId) : pubMarks channel ([] : List (Output Endpoint)) = [] :=
  rfl

theorem pubMarks_single (channel c : ChannelId) (control : ChannelControl) :
    pubMarks channel [(.pubsub ⟨c, control⟩ : Output Endpoint)] =
      match control with
      | .pubStart => if c = channel then [true] else []
      | .pubStop => if c = channel then [false] else []
      | .pubData _ => [] := by
  cases control <;> by_cases h : c = channel <;> simp [pubMarks, pubMark, h]

theorem pubMarks_feedback (channel : ChannelId) (fb : FeedbackKind) (l : List (TrackKey Endpoint)) :
    pubMarks channel (l.map (feedbackOutput fb)) = [] := by
  simp only [pubMarks, List.filterMap_map]
  induction l with
  | nil => rfl
  | cons k l ih => cases fb <;> simp [feedbackOutput, pubMark, ih]

theorem pubPhases_succ (n : Nat) : pubPhases (n + 1) = pubPhases n ++ [decide (n % 2 = 0)] := by
  simp [pubPhases, List.range_succ]

theorem length_pubPhases (n : Nat) : (pubPhases n).length = n := by simp [pubPhases]

theorem getLast?_pubPhases (n : Nat) : (pubPhases n).getLast? = some true ↔ n % 2 = 1 := by
  cases n with
  | zero => simp [pubPhases]
  | succ n => rw [pubPhases_succ, List.getLast?_concat]; simp; omega

/-- Every `PubData` on `channel` among `outs` is sent while the channel is
started: the last start or stop on it before the data is a start. -/
def DataWhileStarted (channel : ChannelId) (outs : List (Output Endpoint)) : Prop :=
  ∀ pre data post, outs = pre ++ .pubsub ⟨channel, .pubData data⟩ :: post →
    (pubMarks channel pre).getLast? = some true

section DataWhileStarted

variable {channel : ChannelId} {l l' : List (Output Endpoint)}

theorem DataWhileStarted.nil : DataWhileStarted channel ([] : List (Output Endpoint)) :=
  fun pre _ _ h => by simp at h

theorem DataWhileStarted.append (h : DataWhileStarted channel l)
    (h' : ∀ pre data post, l' = pre ++ .pubsub ⟨channel, .pubData data⟩ :: post →
      (pubMarks channel (l ++ pre)).getLast? = some true) :
    DataWhileStarted channel (l ++ l') := by
  intro pre data post heq
  rcases List.append_eq_append_iff.mp heq with ⟨a, rfl, hl'⟩ | ⟨c, rfl, hc⟩
  · exact h' a data post hl'
  · cases c with
    | nil => simpa using h' [] data post hc.symm
    | cons x c =>
        obtain ⟨rfl, rfl⟩ := List.cons_eq_cons.mp hc
        exact h pre data c rfl

/-- Outputs without data on the channel keep every earlier data started. -/
theorem DataWhileStarted.append_of_no_data (h : DataWhileStarted channel l)
    (h' : ∀ data, .pubsub ⟨channel, .pubData data⟩ ∉ l') : DataWhileStarted channel (l ++ l') :=
  h.append fun _ data _ he => absurd (he ▸ List.mem_append_right _ (List.mem_cons_self _ _)) (h' data)

/-- Data sent on a started channel. -/
theorem DataWhileStarted.append_data (h : DataWhileStarted channel l)
    (hs : (pubMarks channel l).getLast? = some true) (data : List UInt8) :
    DataWhileStarted channel (l ++ [.pubsub ⟨channel, .pubData data⟩]) :=
  h.append fun pre _ _ he => by
    cases pre with
    | nil => simpa using hs
    | cons _ _ => simp at he

end DataWhileStarted

variable [DecidableEq Endpoint]

/-- For `channel`, the marks sent so far alternate from a start, and there are
an odd number of them exactly while the channel has sources. -/
def Phased (channel : ChannelId) (hist : List (Output Endpoint))
    (s : RoomChannelPublisher Endpoint) : Prop :=
  ∃ n, pubMarks channel (hist ++ s.queue) = pubPhases n ∧ (n % 2 = 1 ↔ s.sourcesOf channel ≠ [])

omit [DecidableEq Endpoint] in
theorem Phased.new (channel : ChannelId) (room : ClusterRoomHash) :
    Phased channel [] (new room : RoomChannelPublisher Endpoint) :=
  ⟨0, rfl, by simp⟩

omit [DecidableEq Endpoint] in
/-- A call that sends no mark on the channel and keeps it started or stopped. -/
theorem Phased.keep {channel : ChannelId} {hist hist' : List (Output Endpoint)}
    {s s' : RoomChannelPublisher Endpoint} (h : Phased channel hist s)
    (hq : pubMarks channel (hist' ++ s'.queue) = pubMarks channel (hist ++ s.queue))
    (hsrc : s'.sourcesOf channel ≠ [] ↔ s.sourcesOf channel ≠ []) : Phased channel hist' s' := by
  obtain ⟨n, hn, hodd⟩ := h
  exact ⟨n, hq.trans hn, hodd.trans hsrc.symm⟩

omit [DecidableEq Endpoint] in
/-- A call that starts a channel without sources, or stops one whose last source left. -/
theorem Phased.push {channel : ChannelId} {hist hist' : List (Output Endpoint)}
    {s s' : RoomChannelPublisher Endpoint} {b : Bool} (h : Phased channel hist s)
    (hq : pubMarks channel (hist' ++ s'.queue) = pubMarks channel (hist ++ s.queue) ++ [b])
    (hb : b = true ∧ s.sourcesOf channel = [] ∧ s'.sourcesOf channel ≠ [] ∨
      b = false ∧ s.sourcesOf channel ≠ [] ∧ s'.sourcesOf channel = []) :
    Phased channel hist' s' := by
  obtain ⟨n, hn, hodd⟩ := h
  have hb' : b = decide (n % 2 = 0) ∧ ((n + 1) % 2 = 1 ↔ s'.sourcesOf channel ≠ []) := by
    rcases hb with ⟨rfl, h0, h1⟩ | ⟨rfl, h0, h1⟩
    · have : n % 2 = 0 := by have := mt hodd.mp (not_not.mpr h0); omega
      exact ⟨by simp [this], fun _ => h1, fun _ => by omega⟩
    · have : n % 2 = 1 := hodd.mpr h0
      exact ⟨by simp [this], fun h => absurd h (by omega), fun h => absurd h1 h⟩
  exact ⟨n + 1, by rw [hq, hn, pubPhases_succ, hb'.1], hb'.2⟩

omit [DecidableEq Endpoint] in
/-- A phased channel with sources is started. -/
theorem Phased.started {channel : ChannelId} {hist : List (Output Endpoint)}
    {s : RoomChannelPublisher Endpoint} (h : Phased channel hist s) (hne : s.sourcesOf channel ≠ []) :
    (pubMarks channel (hist ++ s.queue)).getLast? = some true := by
  obtain ⟨n, hn, hodd⟩ := h
  rw [hn]
  exact (getLast?_pubPhases n).mpr (hodd.mpr hne)

variable {genTrackChannelId : ClusterRoomHash → PeerId → TrackName → ChannelId}
  {serialize : MediaPacket → List UInt8}

omit [DecidableEq Endpoint] in
theorem ne_nil_iff_of_mem_iff {l l' : List (TrackKey Endpoint)} (h : ∀ k, k ∈ l' ↔ k ∈ l) :
    l' ≠ [] ↔ l ≠ [] := by
  simp only [ne_eq, List.eq_nil_iff_forall_not_mem, h]

/-- Every call, from an indexed state, keeps every channel phased. -/
theorem Phased.step {channel : ChannelId} {hist : List (Output Endpoint)}
    {s s' : RoomChannelPublisher Endpoint} {call : Call Endpoint MediaPacket}
    {out : Option (Output Endpoint)} (hs : Indexed genTrackChannelId s) (h : Phased channel hist s)
    (hstep : step genTrackChannelId serialize s call = .ok (s', out)) :
    Phased channel (hist ++ out.toList) s' := by
  cases hs.stepCase serialize hstep with
  | publish endpoint track peer name =>
      have hq := queue_onTrackPublish genTrackChannelId s endpoint track peer name
      have hmem := mem_sourcesOf_onTrackPublish genTrackChannelId s endpoint track peer name channel
      by_cases hc : channel = genTrackChannelId s.room peer name ∧ s.sourcesOf channel = []
      · obtain ⟨hc, h0⟩ := hc
        refine h.push ?_ (.inl ⟨rfl, h0, List.ne_nil_of_mem ((hmem _).mpr (.inl ⟨hc, rfl⟩))⟩)
        subst hc
        simp [hq, h0, pubMarks_single]
      · refine h.keep ?_ ?_
        · rw [hq]
          split
          · have : genTrackChannelId s.room peer name ≠ channel :=
              fun he => hc ⟨he.symm, he ▸ ‹_›⟩
            simp [pubMarks_single, this]
          · simp
        · by_cases hc' : channel = genTrackChannelId s.room peer name
          · exact iff_of_true (List.ne_nil_of_mem ((hmem _).mpr (.inl ⟨hc', rfl⟩)))
              fun h0 => hc ⟨hc', h0⟩
          · exact ne_nil_iff_of_mem_iff fun k => by simp [hmem, hc']
  | unpublishAbsent => exact h.keep (by simp) Iff.rfl
  | @unpublish endpoint track p n c _ ht hu =>
      have hk := hs.sourced _ _ _ _ ht
      by_cases hc : channel = c
      · subst hc
        by_cases he : s'.sourcesOf channel = []
        · exact h.push (by simp [hu.queue, he, pubMarks_single])
            (.inr ⟨rfl, List.ne_nil_of_mem hk, he⟩)
        · exact h.keep (by simp [hu.queue, he]) (iff_of_true he (List.ne_nil_of_mem hk))
      · refine h.keep ?_ (by rw [sourcesOf_congr (hu.tracksSource_of_ne _ hc)])
        rw [hu.queue]
        split <;> simp [pubMarks_single, Ne.symm hc]
  | data endpoint track media =>
      refine h.keep ?_ Iff.rfl
      simp only [Option.toList, List.append_nil, pubMarks_append, List.append_right_inj]
      split <;> simp [pubMarks_single]
  | feedback c fb =>
      refine h.keep ?_ Iff.rfl
      simp only [Option.toList, List.append_nil, pubMarks_append, List.append_right_inj]
      split <;> simp [pubMarks_feedback]
  | popOutput => exact h.keep (by rw [List.append_assoc, (popOutput_eq s).1]) Iff.rfl

/-- Starts and stops alternate on every channel in every run from `new`. -/
theorem pubMarks_alternate_of_new (room : ClusterRoomHash) (calls : List (Call Endpoint MediaPacket)) :
    ∃ s popped, run genTrackChannelId serialize (new room) calls = .ok (s, popped) ∧ ∀ channel,
      pubMarks channel (popped ++ s.queue) =
          pubPhases (pubMarks channel (popped ++ s.queue)).length ∧
        ((pubMarks channel (popped ++ s.queue)).getLast? = some true ↔
          (s.tracksSource.get? channel).isSome) ∧
        ((s.tracksSource.get? channel).isSome → s.sourcesOf channel ≠ []) := by
  have hnew : Indexed genTrackChannelId (new room : RoomChannelPublisher Endpoint) := Indexed.new room
  obtain ⟨s, popped, hrun, hs, -, hP⟩ := hnew.exists_run serialize (fun hist s => ∀ c, Phased c hist s)
    (fun _ _ _ _ _ hs h hstep c => (h c).step hs hstep) (fun c => Phased.new c room) calls
  refine ⟨s, popped, hrun, fun channel => ?_⟩
  obtain ⟨n, hn, hodd⟩ := hP channel
  rw [List.nil_append] at hn
  rw [hn, length_pubPhases, getLast?_pubPhases, hodd, hs.isSome_iff]
  exact ⟨rfl, Iff.rfl, id⟩

variable (serialize) in
/-- Publishing tracks under one `(peer, name)` adds them to its channel and
starts the channel once if it had no sources. -/
theorem run_publish {s : RoomChannelPublisher Endpoint} (hs : Indexed genTrackChannelId s)
    (peer : PeerId) (name : TrackName) (ks : List (TrackKey Endpoint)) :
    ∃ s₁, run genTrackChannelId serialize s (ks.map fun k => .trackPublish k.1 k.2 peer name) =
        .ok (s₁, []) ∧ Indexed genTrackChannelId s₁ ∧ s₁.room = s.room ∧
      (∀ k, k ∈ s₁.sourcesOf (genTrackChannelId s.room peer name) ↔
        k ∈ ks ∨ k ∈ s.sourcesOf (genTrackChannelId s.room peer name)) ∧
      (∀ k, s₁.tracks.get? k =
        if k ∈ ks then some (peer, name, genTrackChannelId s.room peer name) else s.tracks.get? k) ∧
      pubMarks (genTrackChannelId s.room peer name) s₁.queue =
        pubMarks (genTrackChannelId s.room peer name) s.queue ++
          if s.sourcesOf (genTrackChannelId s.room peer name) = [] ∧ ks ≠ [] then [true] else [] := by
  induction ks generalizing s with
  | nil => exact ⟨s, rfl, hs, rfl, by simp, by simp, by simp⟩
  | cons k ks ih =>
      obtain ⟨s₁, hrun, hs₁, hroom, hmem, htracks, hq⟩ := ih (hs.publish k.1 k.2 peer name)
      simp only [onTrackPublish_room] at hroom hmem htracks hq
      refine ⟨s₁, by simp [run, Run.step, hrun], hs₁, hroom, fun k' => ?_,
        fun k' => ?_, ?_⟩
      · rw [hmem, mem_sourcesOf_onTrackPublish]
        simp only [true_and, Prod.mk.eta, List.mem_cons]
        exact or_left_comm.trans or_assoc.symm
      · rw [htracks, tracks_onTrackPublish]; by_cases h : k' = k <;> simp [h]
      · have hne : (s.onTrackPublish genTrackChannelId k.1 k.2 peer name).sourcesOf
            (genTrackChannelId s.room peer name) ≠ [] :=
          List.ne_nil_of_mem ((mem_sourcesOf_onTrackPublish ..).mpr (.inl ⟨rfl, rfl⟩))
        rw [hq, queue_onTrackPublish, pubMarks_append, List.append_assoc]
        congr 1
        by_cases h0 : s.sourcesOf (genTrackChannelId s.room peer name) = []
        · simp [h0, hne, pubMarks_single]
        · simp [h0, hne]

/-- One unpublish, on a channel whose sources all point back to it. -/
theorem unpublish_exact {s : RoomChannelPublisher Endpoint} (hs : Indexed genTrackChannelId s)
    {channel : ChannelId} (hex : ∀ k ∈ s.sourcesOf channel, ∃ p n, s.tracks.get? k = some (p, n, channel))
    (key : TrackKey Endpoint) :
    ∃ s', s.onTrackUnpublish key.1 key.2 = .ok s' ∧ Indexed genTrackChannelId s' ∧
      (∀ k ∈ s'.sourcesOf channel, ∃ p n, s'.tracks.get? k = some (p, n, channel)) ∧
      (∀ k, k ∈ s'.sourcesOf channel ↔ k ∈ s.sourcesOf channel ∧ k ≠ key) ∧
      pubMarks channel s'.queue = pubMarks channel s.queue ++
        if s.sourcesOf channel ≠ [] ∧ s'.sourcesOf channel = [] then [false] else [] := by
  cases ht : s.tracks.get? key with
  | none =>
      have hk : key ∉ s.sourcesOf channel := fun hk => by
        obtain ⟨p, n, h⟩ := hex key hk; simp [ht] at h
      refine ⟨s, onTrackUnpublish_of_none _ _ _ ht, hs, hex, fun k => ?_, by simp⟩
      exact ⟨fun h => ⟨h, fun he => hk (he ▸ h)⟩, And.left⟩
  | some v =>
      obtain ⟨p, n, c⟩ := v
      have hk := hs.sourced _ _ _ _ ht
      obtain ⟨s', hok, hu⟩ := onTrackUnpublish_spec s key.1 key.2 ht hk
      have hex' : ∀ k ∈ s'.sourcesOf channel, k ≠ key →
          ∃ p n, s'.tracks.get? k = some (p, n, channel) := fun k hk' hne => by
        rw [hu.tracks, if_neg hne]
        by_cases hc : channel = c
        · subst hc; exact hex k ((hu.sources k).mp hk').1
        · exact hex k (sourcesOf_congr (hu.tracksSource_of_ne _ hc) ▸ hk')
      by_cases hc : channel = c
      · subst hc
        refine ⟨s', hok, hs.unpublished hu, fun k hk' => hex' k hk' ((hu.sources k).mp hk').2,
          hu.sources, ?_⟩
        rw [hu.queue, pubMarks_append]
        congr 1
        by_cases he : s'.sourcesOf channel = [] <;> simp [he, pubMarks_single, List.ne_nil_of_mem hk]
      · have hsrc := sourcesOf_congr (hu.tracksSource_of_ne _ hc)
        have hkc : key ∉ s.sourcesOf channel := fun hkc => by
          obtain ⟨p', n', h⟩ := hex key hkc; simp [ht] at h; exact hc h.2.2.symm
        refine ⟨s', hok, hs.unpublished hu, fun k hk' => hex' k hk' ?_, fun k => ?_, ?_⟩
        · exact fun he => hkc (he ▸ hsrc ▸ hk')
        · rw [hsrc]; exact ⟨fun h => ⟨h, fun he => hkc (he ▸ h)⟩, And.left⟩
        · rw [hu.queue, hsrc]
          split <;> simp [pubMarks_single, Ne.symm hc]

variable (serialize) in
/-- Unpublishing tracks stops a channel whose sources all point back to it
exactly once, when its last source leaves. -/
theorem run_unpublish {s : RoomChannelPublisher Endpoint} (hs : Indexed genTrackChannelId s)
    {channel : ChannelId} (hex : ∀ k ∈ s.sourcesOf channel, ∃ p n, s.tracks.get? k = some (p, n, channel))
    (ks : List (TrackKey Endpoint)) :
    ∃ s₂, run genTrackChannelId serialize s (ks.map fun k => .trackUnpublish k.1 k.2) = .ok (s₂, []) ∧
      (∀ k, k ∈ s₂.sourcesOf channel ↔ k ∈ s.sourcesOf channel ∧ k ∉ ks) ∧
      pubMarks channel s₂.queue = pubMarks channel s.queue ++
        if s.sourcesOf channel ≠ [] ∧ s₂.sourcesOf channel = [] then [false] else [] := by
  induction ks generalizing s with
  | nil => exact ⟨s, rfl, by simp, by simp⟩
  | cons key ks ih =>
      obtain ⟨s', hok, hs', hex', hmem', hq'⟩ := unpublish_exact hs hex key
      obtain ⟨s₂, hrun, hmem, hq⟩ := ih hs' hex'
      refine ⟨s₂, by simp [run, Run.step, hok, hrun, Except.map], fun k => ?_, ?_⟩
      · rw [hmem, hmem']; simp [and_assoc, not_or]
      · have hsub : s.sourcesOf channel = [] → s'.sourcesOf channel = [] := fun h =>
          List.eq_nil_iff_forall_not_mem.mpr fun k hk => by simpa [h] using (hmem' k).mp hk
        have hsub' : s'.sourcesOf channel = [] → s₂.sourcesOf channel = [] := fun h =>
          List.eq_nil_iff_forall_not_mem.mpr fun k hk => by simpa [h] using (hmem k).mp hk
        rw [hq, hq', List.append_assoc]
        congr 1
        by_cases h0 : s.sourcesOf channel = []
        · simp [h0, hsub h0, hsub' (hsub h0)]
        · by_cases h1 : s'.sourcesOf channel = []
          · simp [h0, h1, hsub' h1]
          · simp [h0, h1]

variable (genTrackChannelId serialize)

/-- Concurrent publishers of one channel without sources start it once, and
unpublishing all of them, in any order, stops it once. -/
theorem concurrent_publishers_start_stop_once {room : ClusterRoomHash}
    {s : RoomChannelPublisher Endpoint} (h : Reachable genTrackChannelId serialize room s)
    (peer : PeerId) (name : TrackName) (ks ks' : List (TrackKey Endpoint))
    (hfree : s.sourcesOf (genTrackChannelId room peer name) = []) (hks : ks ≠ [])
    (hall : ∀ k, k ∈ ks' ↔ k ∈ ks) :
    ∃ s₁ s₂,
      run genTrackChannelId serialize s (ks.map fun k => .trackPublish k.1 k.2 peer name) =
        .ok (s₁, []) ∧
      run genTrackChannelId serialize s₁ (ks'.map fun k => .trackUnpublish k.1 k.2) = .ok (s₂, []) ∧
      pubMarks (genTrackChannelId room peer name) s₁.queue =
        pubMarks (genTrackChannelId room peer name) s.queue ++ [true] ∧
      pubMarks (genTrackChannelId room peer name) s₂.queue =
        pubMarks (genTrackChannelId room peer name) s₁.queue ++ [false] := by
  obtain ⟨hs, rfl⟩ := h.indexed
  obtain ⟨s₁, hrun₁, hs₁, -, hmem₁, htracks₁, hq₁⟩ := run_publish serialize hs peer name ks
  have hmem : ∀ k, k ∈ s₁.sourcesOf (genTrackChannelId s.room peer name) ↔ k ∈ ks := by
    simpa [hfree] using hmem₁
  have hex : ∀ k ∈ s₁.sourcesOf (genTrackChannelId s.room peer name),
      ∃ p n, s₁.tracks.get? k = some (p, n, genTrackChannelId s.room peer name) :=
    fun k hk => ⟨peer, name, by rw [htracks₁, if_pos ((hmem k).mp hk)]⟩
  obtain ⟨s₂, hrun₂, hmem₂, hq₂⟩ := run_unpublish serialize hs₁ hex ks'
  have hne : s₁.sourcesOf (genTrackChannelId s.room peer name) ≠ [] := by
    obtain ⟨k, hk⟩ := List.exists_mem_of_ne_nil ks hks
    exact List.ne_nil_of_mem ((hmem k).mpr hk)
  have hnil : s₂.sourcesOf (genTrackChannelId s.room peer name) = [] :=
    List.eq_nil_iff_forall_not_mem.mpr fun k hk => by
      rw [hmem₂, hmem, ← hall] at hk; exact hk.2 hk.1
  exact ⟨s₁, s₂, hrun₁, hrun₂, by simp [hq₁, hfree, hks], by simp [hq₂, hne, hnil]⟩

/-- On every channel the starts and stops of any run from `new` alternate
from a start, and the last is a start exactly while the channel has a
(non-empty) entry; several publishers of one channel start and stop it once. -/
theorem pubStart_pubStop_alternate (room : ClusterRoomHash) :
    (∀ calls : List (Call Endpoint MediaPacket), ∃ s popped,
      run genTrackChannelId serialize (new room) calls = .ok (s, popped) ∧ ∀ channel,
        pubMarks channel (popped ++ s.queue) =
            pubPhases (pubMarks channel (popped ++ s.queue)).length ∧
          ((pubMarks channel (popped ++ s.queue)).getLast? = some true ↔
            (s.tracksSource.get? channel).isSome) ∧
          ((s.tracksSource.get? channel).isSome → s.sourcesOf channel ≠ [])) ∧
    (∀ s : RoomChannelPublisher Endpoint, Reachable genTrackChannelId serialize room s →
      ∀ peer name (ks ks' : List (TrackKey Endpoint)),
        s.sourcesOf (genTrackChannelId room peer name) = [] → ks ≠ [] → (∀ k, k ∈ ks' ↔ k ∈ ks) →
        ∃ s₁ s₂,
          run genTrackChannelId serialize s (ks.map fun k => .trackPublish k.1 k.2 peer name) =
            .ok (s₁, []) ∧
          run genTrackChannelId serialize s₁ (ks'.map fun k => .trackUnpublish k.1 k.2) =
            .ok (s₂, []) ∧
          pubMarks (genTrackChannelId room peer name) s₁.queue =
            pubMarks (genTrackChannelId room peer name) s.queue ++ [true] ∧
          pubMarks (genTrackChannelId room peer name) s₂.queue =
            pubMarks (genTrackChannelId room peer name) s₁.queue ++ [false]) :=
  ⟨pubMarks_alternate_of_new room, fun _ h peer name ks ks' hfree hks hall =>
    concurrent_publishers_start_stop_once genTrackChannelId serialize h peer name ks ks' hfree hks hall⟩

/-! ### Data only on started channels -/

variable {genTrackChannelId serialize} in
/-- Every call, from an indexed state where the channel is phased, sends data
on the channel only while it is started: the data is that of a published
track, whose channel has sources. -/
theorem DataWhileStarted.step {channel : ChannelId} {hist : List (Output Endpoint)}
    {s s' : RoomChannelPublisher Endpoint} {call : Call Endpoint MediaPacket}
    {out : Option (Output Endpoint)} (hs : Indexed genTrackChannelId s) (hph : Phased channel hist s)
    (h : DataWhileStarted channel (hist ++ s.queue))
    (hstep : step genTrackChannelId serialize s call = .ok (s', out)) :
    DataWhileStarted channel (hist ++ out.toList ++ s'.queue) := by
  obtain ⟨added, hq, hno | ⟨k, p, n, c, data, hk, rfl⟩⟩ := hs.step_appends serialize hstep
  all_goals rw [List.append_assoc, hq, ← List.append_assoc]
  · exact h.append_of_no_data fun data => hno channel data
  · by_cases hc : c = channel
    · subst hc
      exact h.append_data (hph.started (List.ne_nil_of_mem (hs.sourced k p n c hk))) data
    · exact h.append_of_no_data fun _ => by simp [Ne.symm hc]

/-- In every run from `new`, the pub/sub fabric gets data on a channel only
while the channel is started: before each `PubData` on it, the last
`PubStart` or `PubStop` on it is a `PubStart`. -/
theorem pubData_only_while_started (room : ClusterRoomHash) (calls : List (Call Endpoint MediaPacket)) :
    ∃ s popped, run genTrackChannelId serialize (new room) calls = .ok (s, popped) ∧
      ∀ channel, DataWhileStarted channel (popped ++ s.queue) := by
  obtain ⟨s, popped, hrun, -, -, hP⟩ := (Indexed.new room).exists_run serialize
    (fun hist s => ∀ c, Phased c hist s ∧ DataWhileStarted c (hist ++ s.queue))
    (fun _ _ _ _ _ hs h hstep c => ⟨(h c).1.step hs hstep, (h c).2.step hs (h c).1 hstep⟩)
    (fun c => ⟨Phased.new c room, .nil⟩) calls
  exact ⟨s, popped, hrun, fun c => by simpa using (hP c).2⟩

end MediaServer.Publisher.Channels
