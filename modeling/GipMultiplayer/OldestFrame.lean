import GipMultiplayer.VoicePlaybackOrder

/-!
# The oldest frame of a jitter queue

`addRemoteFrame` evicts and `mixOneFrame` starts with the oldest frame of a
queue, which both find in one loop over the queue.  The loop compares sequences
on a circle, so it can go wrong in general; on sequences of a window of less
than half the circle it finds the one frame that all others are newer than, in
whatever order the queue holds them.

* `exists_oldest` — the loop ends at such a frame;
* `oldest_unique` — there is no other;
* `startPlayout_oldest`, `enqueue_oldest` — playout starts with it and a full
  queue gives it up;
* `oldest_frame_selected` — the law.
-/

namespace Voice

variable {base : UInt32} {jitter : List RemoteFrame} {oldest : RemoteFrame}

/-- Every other frame of the queue is newer. -/
def Oldest (jitter : List RemoteFrame) (oldest : RemoteFrame) : Prop :=
  oldest ∈ jitter ∧ ∀ f ∈ jitter, f ≠ oldest →
    isTeamVoiceSequenceNewer f.sequence oldest.sequence = true

/-- The loop ends inside a queue that is not empty. -/
theorem oldestFrom_lt {first : RemoteFrame} {index position size : Nat} {rest : List RemoteFrame}
    (hindex : index < size) (hsize : position + rest.length = size) :
    oldestFrom first index position rest < size := by
  induction rest generalizing first index position with
  | nil => exact hindex
  | cons candidate rest ih =>
      rw [List.length_cons] at hsize
      unfold oldestFrom
      split_ifs
      · exact ih (by omega) (by omega)
      · exact ih hindex (by omega)

theorem oldestIndex_lt (hne : jitter ≠ []) : oldestIndex jitter < jitter.length := by
  cases jitter with
  | nil => exact absurd rfl hne
  | cons first rest =>
      have hlength : 1 + rest.length = (first :: rest).length := by
        rw [List.length_cons]
        omega
      exact oldestFrom_lt (Nat.succ_pos _) hlength

/-- **The loop ends at the oldest frame** of a window. -/
theorem exists_oldest (hne : jitter ≠ []) (hdistinct : (jitter.map (·.sequence)).Nodup)
    (hwindow : ∀ f ∈ jitter, Serial.offset base f.sequence < Serial.half) :
    ∃ oldest, jitter[oldestIndex jitter]? = some oldest ∧ Oldest jitter oldest := by
  have hfound := List.getElem?_eq_getElem (oldestIndex_lt hne)
  obtain ⟨hmem, hle⟩ := oldestIndex_spec hwindow hfound
  refine ⟨_, hfound, hmem, ?_⟩
  intro f hf hother
  rw [isTeamVoiceSequenceNewer_eq, Serial.newer_iff (hwindow f hf) (hwindow _ hmem)]
  apply lt_of_le_of_ne (hle f hf)
  intro hoffset
  have hsame := Serial.offset_inj hoffset
  exact hother (List.inj_on_of_nodup_map hdistinct hf hmem hsame.symm)

/-- **It is the only one.** -/
theorem oldest_unique (hwindow : ∀ f ∈ jitter, Serial.offset base f.sequence < Serial.half)
    {f g : RemoteFrame} (hf : Oldest jitter f) (hg : Oldest jitter g) : f = g := by
  by_contra hne
  have hfg := hg.2 f hf.1 hne
  have hgf := hf.2 g hg.1 (Ne.symm hne)
  rw [isTeamVoiceSequenceNewer_eq, Serial.newer_iff (hwindow f hf.1) (hwindow g hg.1)] at hfg
  rw [isTeamVoiceSequenceNewer_eq, Serial.newer_iff (hwindow g hg.1) (hwindow f hf.1)] at hgf
  omega

/-! ## The two loops -/

/-- **Playout starts with the oldest frame.** -/
theorem startPlayout_oldest {config : ProcessorConfig} {now : Int} {speaker started : Speaker}
    (holdest : speaker.jitter[oldestIndex speaker.jitter]? = some oldest)
    (h : speaker.startPlayout config now = some started) :
    started.expectedsequence = oldest.sequence := by
  unfold Speaker.startPlayout at h
  rw [holdest] at h
  split_ifs at h
  rw [← Option.some.inj h]

/-- **A full queue gives the oldest frame up** for a newer one, and for no other. -/
theorem enqueue_oldest {config : ProcessorConfig} {now : Int} {speaker : Speaker}
    (holdest : speaker.jitter[oldestIndex speaker.jitter]? = some oldest)
    (hfull : config.jitterpackets ≤ speaker.jitter.length) (frame : RemoteFrame) :
    if isTeamVoiceSequenceNewer frame.sequence oldest.sequence = true then
      (oldest :: (speaker.enqueue config now frame).jitter).Perm (frame :: speaker.jitter)
    else speaker.enqueue config now frame = speaker := by
  unfold Speaker.enqueue
  rw [if_pos hfull, holdest]
  dsimp only
  by_cases hnewer : isTeamVoiceSequenceNewer frame.sequence oldest.sequence = true
  · rw [if_pos hnewer, if_pos hnewer]
    obtain ⟨hlt, rfl⟩ := List.getElem?_eq_some_iff.mp holdest
    have hset := List.set_perm_cons_eraseIdx hlt frame
    have hback := List.getElem_cons_eraseIdx_perm hlt
    exact (hset.cons _).trans ((List.Perm.swap _ _ _).trans (hback.cons frame))
  · rw [if_neg hnewer, if_neg hnewer]

/-! ## The law -/

/-- **The oldest frame is selected**, in whatever order a queue holds its
frames, when their sequences are distinct and lie in a window of fewer than
`2 ^ 31` consecutive values.  It is the only frame that every other one is newer
than, playout starts with it, and a full queue gives it up for a newer frame and
nothing else; and newer is a strict total order on the window. -/
theorem oldest_frame_selected (base : UInt32) (size : Nat) (hsize : size < 2 ^ 31)
    (jitter : List RemoteFrame) (hne : jitter ≠ [])
    (hdistinct : (jitter.map (·.sequence)).Nodup)
    (hwindow : ∀ f ∈ jitter, Serial.offset base f.sequence < size) :
    (∃ oldest, Oldest jitter oldest ∧ (∀ f, Oldest jitter f → f = oldest) ∧
      (∀ order : List RemoteFrame, order.Perm jitter →
        order[oldestIndex order]? = some oldest) ∧
      ∀ (config : ProcessorConfig) (now : Int) (speaker : Speaker), speaker.jitter.Perm jitter →
        (∀ started, speaker.startPlayout config now = some started →
          started.expectedsequence = oldest.sequence) ∧
        (config.jitterpackets ≤ speaker.jitter.length → ∀ frame,
          if isTeamVoiceSequenceNewer frame.sequence oldest.sequence = true then
            (oldest :: (speaker.enqueue config now frame).jitter).Perm (frame :: speaker.jitter)
          else speaker.enqueue config now frame = speaker)) ∧
      Serial.StrictTotalOn (fun a => Serial.offset base a < size)
        fun a b => isTeamVoiceSequenceNewer a b = true := by
  have hhalf : ∀ a, Serial.offset base a < size → Serial.offset base a < Serial.half := by
    intro a ha
    exact ha.trans hsize
  have hwindow' : ∀ f ∈ jitter, Serial.offset base f.sequence < Serial.half :=
    fun f hf => hhalf _ (hwindow f hf)
  obtain ⟨oldest, -, holdest⟩ := exists_oldest hne hdistinct hwindow'
  have hselected : ∀ order : List RemoteFrame, order.Perm jitter →
      order[oldestIndex order]? = some oldest := by
    intro order hperm
    have hne' : order ≠ [] := fun hnil => hne (List.nil_perm.mp (hnil ▸ hperm))
    obtain ⟨found, hfound, hmem, hothers⟩ := exists_oldest hne'
      ((hperm.map _).nodup_iff.mpr hdistinct) fun f hf => hwindow' f (hperm.mem_iff.mp hf)
    have hsame : found = oldest := by
      refine oldest_unique hwindow' ⟨hperm.mem_iff.mp hmem, ?_⟩ holdest
      intro f hf
      exact hothers f (hperm.mem_iff.mpr hf)
    rw [hfound, hsame]
  refine ⟨⟨oldest, holdest, ?_, hselected, ?_⟩, (Serial.strictTotal base).mono hhalf⟩
  · intro f hf
    exact oldest_unique hwindow' hf holdest
  · intro config now speaker hperm
    have hfound := hselected speaker.jitter hperm
    exact ⟨fun started hstarted => startPlayout_oldest hfound hstarted,
      fun hfull frame => enqueue_oldest hfound hfull frame⟩

/-- A queue across the wrap: in either order the oldest of `1`, `2 ^ 32 - 1` and
`0` is `2 ^ 32 - 1`. -/
theorem oldest_frame_selected_wrap :
    let frame (sequence : UInt32) : RemoteFrame := { sequence := sequence }
    ∃ oldest, oldest = frame 0xFFFFFFFF ∧
      Oldest [frame 1, frame 0xFFFFFFFF, frame 0] oldest ∧
      ∀ order : List RemoteFrame, order.Perm [frame 1, frame 0xFFFFFFFF, frame 0] →
        order[oldestIndex order]? = some oldest := by
  intro frame
  obtain ⟨⟨oldest, holdest, -, hselected, -⟩, -⟩ := oldest_frame_selected 0xFFFFFFFE 4 (by decide)
    [frame 1, frame 0xFFFFFFFF, frame 0] (List.cons_ne_nil _ _) (by decide) (by decide)
  have hfound := hselected _ (List.Perm.refl _)
  have hrun : [frame 1, frame 0xFFFFFFFF, frame 0][oldestIndex
      [frame 1, frame 0xFFFFFFFF, frame 0]]? = some (frame 0xFFFFFFFF) := by
    decide +kernel
  exact ⟨oldest, Option.some.inj (hfound.symm.trans hrun), holdest, hselected⟩

end Voice
