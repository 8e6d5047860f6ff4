import GipMultiplayer.VoiceConcealment
import GipMultiplayer.VoiceReception

/-!
# The speaker map inside the processor

Each public call, worker prelude and worker iteration of the processor is a run
of calls of the speaker map: an iteration observes the session, puts each frame
of its batch, mixes when a frame is due and cleans up.  What holds of the map in
every run therefore holds of the processor of every client.

* `Mirrors` — processor and map agree;
* `workerIteration_mirrored`, `run_mirrored` — an iteration, and any call, is a
  run of the map;
* `client_speakers` — the queues and counters of a client, in every run.
-/

namespace Voice

variable {α : Type}

/-- The map holds the records of the processor, under the same gates. -/
structure SameSpeakers (config : ProcessorConfig) (processor : Processor α) (w : SpeakerWorker) :
    Prop where
  config : processor.config = config
  enabled : w.enabled = processor.gate.enabled
  sessionepoch : w.sessionepoch = processor.gate.sessionepoch
  speakers : w.plain = processor.playback.speakers

/-- The worker of the map is in the loop the processor's is in. -/
structure InLoop (loop : WorkerLoop) (w : SpeakerWorker) : Prop where
  looping : w.looping = true
  observed : w.observedsessionepoch = loop.observedsessionepoch

/-- **Processor and map agree.** -/
structure Mirrors (config : ProcessorConfig) (processor : Processor α) (w : SpeakerWorker) :
    Prop extends SameSpeakers config processor w where
  looping : ∀ loop, processor.worker = .looping loop → InLoop loop w
  idle : (∀ loop, processor.worker ≠ .looping loop) → w.looping = false
  stopped : processor.gate.running = false → processor.worker = .none

/-- Nothing but the records and their counts differs. -/
structure SpeakerWorker.SameThread (s t : SpeakerWorker) : Prop where
  looping : t.looping = s.looping
  enabled : t.enabled = s.enabled
  sessionepoch : t.sessionepoch = s.sessionepoch
  observedsessionepoch : t.observedsessionepoch = s.observedsessionepoch

namespace SpeakerWorker

variable {config : ProcessorConfig} {w s t : SpeakerWorker} {frame : RemoteFrame}

theorem SameThread.refl (w : SpeakerWorker) : SameThread w w := ⟨rfl, rfl, rfl, rfl⟩

theorem SameThread.trans {u : SpeakerWorker} (h : SameThread s t) (h' : SameThread t u) :
    SameThread s u :=
  ⟨h'.1.trans h.1, h'.2.trans h.2, h'.3.trans h.3, h'.4.trans h.4⟩

theorem SameThread.count (w : SpeakerWorker) (admission : Admission) :
    SameThread w (w.count admission) :=
  ⟨count_looping _ _, count_enabled _ _, count_sessionepoch _ _, count_observedsessionepoch _ _⟩

theorem SameThread.putFrame (config : ProcessorConfig) (now : Int) (w : SpeakerWorker)
    (record : SpeakerRecord) (frame : RemoteFrame) :
    SameThread w (w.putFrame config now record frame) :=
  ⟨count_looping w _, count_enabled w _, count_sessionepoch w _, count_observedsessionepoch w _⟩

theorem SameThread.attempt (w : SpeakerWorker) (id : UInt64) (setupOk : Bool) :
    SameThread w (w.attempt id setupOk) := ⟨rfl, rfl, rfl, rfl⟩

/-- An admission is the worker's own affair. -/
theorem SameThread.adds {now : Int} {setupOk : Bool}
    (hadds : Adds config now setupOk w frame t) : SameThread w t := by
  cases hadds with
  | refused admission => exact .count w admission
  | setupFailed => exact (SameThread.attempt w _ _).trans (.count _ _)
  | current record => exact .putFrame config now w record frame
  | created record => exact (SameThread.attempt w _ _).trans (.putFrame ..)
  | reset old record => exact (SameThread.attempt w _ _).trans (.putFrame ..)

theorem reached_refl (w : SpeakerWorker) : Exec.Reached (step config) w w := ⟨[], rfl⟩

/-- The processor's loop over a batch. -/
def batchSpeakers (config : ProcessorConfig) (input : Iteration) (w : SpeakerWorker)
    (speakers : Speakers) (batch : List (RemoteFrame × Nat)) : Speakers :=
  batch.foldl (fun speakers item =>
    if item.1.sessionepoch = w.observedsessionepoch ∧ item.1.sessionepoch = w.sessionepoch ∧
        w.enabled then
      Voice.addRemoteFrame config (input.arrival item.2) (input.setupOk item.2) speakers item.1
    else speakers) speakers

/-- **A batch is a run of admissions.** -/
theorem batch_reached (config : ProcessorConfig) (input : Iteration)
    (batch : List (RemoteFrame × Nat)) (w : SpeakerWorker) (hlooping : w.looping = true) :
    ∃ t, Exec.Reached (step config) w t ∧ SameThread w t ∧
      t.plain = batchSpeakers config input w w.plain batch := by
  induction batch generalizing w with
  | nil => exact ⟨w, reached_refl w, .refl w, rfl⟩
  | cons item batch ih =>
      obtain ⟨frame, k⟩ := item
      have hstep : step config w (.processIncoming (input.arrival k) (input.setupOk k) frame) =
          some (if w.passes frame then
            w.addRemoteFrame config (input.arrival k) (input.setupOk k) frame else w) :=
        if_pos hlooping
      generalize hnext : (if w.passes frame then
        w.addRemoteFrame config (input.arrival k) (input.setupOk k) frame else w) = next at hstep
      have hthread : SameThread w next := by
        rw [← hnext]
        split_ifs
        · exact .adds (addRemoteFrame_adds config _ _ w frame)
        · exact .refl w
      have hplain : next.plain = if frame.sessionepoch = w.observedsessionepoch ∧
          frame.sessionepoch = w.sessionepoch ∧ w.enabled then
            Voice.addRemoteFrame config (input.arrival k) (input.setupOk k) w.plain frame
          else w.plain := by
        rw [← hnext]
        by_cases hpasses : w.passes frame = true
        · rw [if_pos hpasses, if_pos (of_decide_eq_true hpasses), plain_addRemoteFrame]
        · rw [if_neg hpasses, if_neg fun h => hpasses (decide_eq_true h)]
      obtain ⟨t, hreached, hsame, hspeakers⟩ := ih next (hthread.looping.trans hlooping)
      refine ⟨t, (Exec.Reached.tail (reached_refl w) hstep).trans hreached,
        hthread.trans hsame, ?_⟩
      rw [hspeakers, batchSpeakers, batchSpeakers, List.foldl_cons, hplain,
        hthread.observedsessionepoch, hthread.sessionepoch, hthread.enabled]

end SpeakerWorker

/-! ## A worker iteration -/

open SpeakerWorker (step)

variable {config : ProcessorConfig} {processor : Processor α} {loop : WorkerLoop}
  {w : SpeakerWorker}

/-- The worker notices a session as the map does. -/
theorem SameSpeakers.observeSession (h : SameSpeakers config processor w)
    (hloop : InLoop loop w) (input : Iteration)
    (heven : processor.gate.sessionepoch % 2 = 0) :
    SameSpeakers config (processor.observeSession loop input).1 w.observeSession ∧
      InLoop (processor.observeSession loop input).2 w.observeSession := by
  unfold Processor.observeSession SpeakerWorker.observeSession
  rw [h.sessionepoch, hloop.observed]
  by_cases hnew : processor.gate.sessionepoch ≠ loop.observedsessionepoch
  · rw [if_pos hnew, if_pos ⟨heven, hnew⟩]
    exact ⟨⟨h.config, h.enabled, h.sessionepoch, rfl⟩, hloop.looping, rfl⟩
  · rw [if_neg hnew, if_neg fun hold => hnew hold.2]
    exact ⟨h, hloop⟩

/-- Capture is no concern of the map. -/
theorem SameSpeakers.observeCapture (h : SameSpeakers config processor w)
    (hloop : InLoop loop w) :
    SameSpeakers config (processor.observeCapture loop).1 w ∧
      InLoop (processor.observeCapture loop).2 w := by
  unfold Processor.observeCapture
  dsimp only
  split_ifs
  · exact ⟨⟨h.config, h.enabled, h.sessionepoch, h.speakers⟩, hloop.looping, hloop.observed⟩
  · exact ⟨⟨h.config, h.enabled, h.sessionepoch, h.speakers⟩, hloop.looping, hloop.observed⟩
  · exact ⟨h, hloop⟩

theorem SameSpeakers.encodeCaptured (h : SameSpeakers config processor w)
    (hloop : InLoop loop w) (input : Iteration) :
    SameSpeakers config (processor.encodeCaptured loop input).1 w ∧
      InLoop (processor.encodeCaptured loop input).2 w := by
  have hobserved := (@encodeCaptured_playback _ processor loop input).2
  refine ⟨?_, hloop.looping, hloop.observed.trans hobserved.symm⟩
  unfold Processor.encodeCaptured
  split_ifs
  · exact ⟨h.config, h.enabled, h.sessionepoch, h.speakers⟩
  · exact ⟨h.config, h.enabled, h.sessionepoch, h.speakers⟩

/-- **The batch of an iteration is a run of admissions.** -/
theorem SameSpeakers.processIncoming (h : SameSpeakers config processor w)
    (hloop : InLoop loop w) (input : Iteration) :
    ∃ t, Exec.Reached (step config) w t ∧
      SameSpeakers config (processor.processIncoming input loop.observedsessionepoch) t ∧
      InLoop loop t := by
  obtain ⟨t, hreached, hthread, hplain⟩ :=
    SpeakerWorker.batch_reached config input processor.playback.incoming.zipIdx w hloop.looping
  refine ⟨t, hreached, ⟨h.config, hthread.enabled.trans h.enabled,
    hthread.sessionepoch.trans h.sessionepoch, ?_⟩, hthread.looping.trans hloop.looping,
    hthread.observedsessionepoch.trans hloop.observed⟩
  rw [hplain, SpeakerWorker.batchSpeakers, h.speakers, h.sessionepoch, h.enabled, hloop.observed]
  show _ = (List.foldl _ processor.playback.speakers processor.playback.incoming.zipIdx)
  rw [h.config]

/-- **The end of an iteration** is a mix, when one is due, and a cleanup. -/
theorem SameSpeakers.mixDue (h : SameSpeakers config processor w) (hloop : InLoop loop w)
    (input : Iteration) :
    ∃ t, Exec.Reached (step config) w t ∧
      SameSpeakers config (processor.mixDue loop input).1 t ∧
      InLoop (processor.mixDue loop input).2 t := by
  have hobserved := (@mixDue_playback _ processor loop input).1
  have hclean : ∀ (mixed : SpeakerWorker) (playback : Playback), mixed.looping = true →
      mixed.plain = playback.speakers → step config mixed (.cleanupSpeakers input.now) =
          some (mixed.cleanupSpeakers config input.now) ∧
        (mixed.cleanupSpeakers config input.now).plain =
          cleanupSpeakers config input.now playback.speakers := by
    intro mixed playback hlooping hplain
    exact ⟨if_pos hlooping, by rw [SpeakerWorker.plain_cleanupSpeakers, hplain]⟩
  by_cases hdue : loop.nextmix ≤ input.now
  · have hmix : step config w (.mixOneFrame input.now input.decode) =
        some (w.mixOneFrame config input.now input.decode) := if_pos hloop.looping
    have hplain : (w.mixOneFrame config input.now input.decode).plain =
        (mixOneFrame config input.now input.decode processor.playback).1.speakers := by
      rw [SpeakerWorker.plain_mixOneFrame, h.speakers, (mixOneFrame_playout _ _ _ _).1]
    obtain ⟨hcleanup, hspeakers⟩ := hclean (w.mixOneFrame config input.now input.decode)
      (mixOneFrame config input.now input.decode processor.playback).1 hloop.looping hplain
    refine ⟨_, (Exec.Reached.tail (SpeakerWorker.reached_refl w) hmix).tail hcleanup, ?_,
      hloop.looping, hloop.observed.trans hobserved.symm⟩
    unfold Processor.mixDue
    rw [if_pos hdue]
    refine ⟨h.config, h.enabled, h.sessionepoch, ?_⟩
    rw [hspeakers, h.config]
  · obtain ⟨hcleanup, hspeakers⟩ := hclean w processor.playback hloop.looping h.speakers
    refine ⟨_, Exec.Reached.tail (SpeakerWorker.reached_refl w) hcleanup, ?_,
      hloop.looping, hloop.observed.trans hobserved.symm⟩
    unfold Processor.mixDue
    rw [if_neg hdue]
    refine ⟨h.config, h.enabled, h.sessionepoch, ?_⟩
    rw [hspeakers, h.config]

/-- **An iteration of the worker is a run of the map.** -/
theorem workerIteration_mirrored (h : Mirrors config processor w) (input : Iteration) :
    ∃ t, Exec.Reached (step config) w t ∧
      Mirrors config (processor.workerIteration input) t := by
  have hgate := workerIteration_gate processor input
  cases hworker : processor.worker with
  | none =>
      refine ⟨w, SpeakerWorker.reached_refl w, ?_⟩
      unfold Processor.workerIteration
      rw [hworker]
      exact h
  | spawned =>
      refine ⟨w, SpeakerWorker.reached_refl w, ?_⟩
      unfold Processor.workerIteration
      rw [hworker]
      exact h
  | looping loop =>
      by_cases hrun : processor.gate.running = false ∨ processor.gate.sessionepoch % 2 ≠ 0
      · refine ⟨w, SpeakerWorker.reached_refl w, ?_⟩
        unfold Processor.workerIteration
        rw [hworker]
        simp only [if_pos hrun]
        exact h
      · obtain ⟨hrunning, heven⟩ := not_or.mp hrun
        have hobserve : step config w .observeSession = some w.observeSession :=
          if_pos (h.looping loop hworker).looping
        obtain ⟨hspeakers₁, hloop₁⟩ := h.toSameSpeakers.observeSession
          (h.looping loop hworker) input (not_not.mp heven)
        obtain ⟨hspeakers₂, hloop₂⟩ := hspeakers₁.observeCapture hloop₁
        obtain ⟨t₃, hreached₃, hspeakers₃, hloop₃⟩ := hspeakers₂.processIncoming hloop₂ input
        obtain ⟨hspeakers₄, hloop₄⟩ := hspeakers₃.encodeCaptured hloop₃ input
        obtain ⟨t₅, hreached₅, hspeakers₅, hloop₅⟩ := hspeakers₄.mixDue hloop₄ input
        refine ⟨t₅, ((Exec.Reached.tail (SpeakerWorker.reached_refl w) hobserve).trans
          hreached₃).trans hreached₅, ?_⟩
        have hiteration : ∃ last : Processor α × WorkerLoop,
            processor.workerIteration input = { last.1 with worker := .looping last.2 } ∧
              SameSpeakers config last.1 t₅ ∧ InLoop last.2 t₅ := by
          refine ⟨_, ?_, hspeakers₅, hloop₅⟩
          unfold Processor.workerIteration
          rw [hworker]
          exact if_neg hrun
        obtain ⟨last, hlast, hspeakers, hloop⟩ := hiteration
        have hstopped := congrArg Gate.running hgate
        rw [hlast] at hstopped ⊢
        refine ⟨⟨hspeakers.config, hspeakers.enabled, hspeakers.sessionepoch, hspeakers.speakers⟩,
          fun loop heq => ?_, fun hnone => absurd rfl (hnone last.2), fun hoff => ?_⟩
        · cases heq
          exact hloop
        · exact absurd (hstopped.symm.trans hoff) hrunning

/-! ## The other calls -/

/-- The worker of one processor is that of another, under the same switch. -/
structure SameWorker (processor processor' : Processor α) : Prop where
  worker : processor'.worker = processor.worker
  running : processor'.gate.running = processor.gate.running

/-- A call that leaves the worker alone. -/
theorem Mirrors.of_worker {processor' : Processor α} {t : SpeakerWorker}
    (h : Mirrors config processor w) (hsame : SameSpeakers config processor' t)
    (hworker : SameWorker processor processor') (hlooping : t.looping = w.looping)
    (hobserved : t.observedsessionepoch = w.observedsessionepoch) :
    Mirrors config processor' t := by
  refine ⟨hsame, fun loop heq => ?_, fun hnone => ?_, fun hoff => ?_⟩
  · have hloop := h.looping loop (hworker.worker ▸ heq)
    exact ⟨hlooping.trans hloop.looping, hobserved.trans hloop.observed⟩
  · exact hlooping.trans (h.idle (hworker.worker ▸ hnone))
  · exact hworker.worker.trans (h.stopped (hworker.running ▸ hoff))

/-- A call the map does not see. -/
theorem Mirrors.unseen {processor' : Processor α} (h : Mirrors config processor w)
    (hconfig : processor'.config = processor.config)
    (henabled : processor'.gate.enabled = processor.gate.enabled)
    (hepoch : processor'.gate.sessionepoch = processor.gate.sessionepoch)
    (hspeakers : processor'.playback.speakers = processor.playback.speakers)
    (hworker : SameWorker processor processor') :
    ∃ t, Exec.Reached (step config) w t ∧ Mirrors config processor' t := by
  refine ⟨w, SpeakerWorker.reached_refl w, h.of_worker ⟨hconfig.trans h.config, ?_, ?_, ?_⟩
    hworker rfl rfl⟩
  · exact h.enabled.trans henabled.symm
  · exact h.sessionepoch.trans hepoch.symm
  · exact h.speakers.trans hspeakers.symm

/-- A call that is one call of the map. -/
theorem reached_step {a : WorkerStep} {t : SpeakerWorker} (h : step config w a = some t) :
    Exec.Reached (step config) w t :=
  Exec.Reached.tail (SpeakerWorker.reached_refl w) h

/-- Every session, the empty one included, is a new epoch. -/
theorem setSession_mirrored (h : Mirrors config processor w) (sessionid : UInt64)
    (membershipgeneration : UInt32) (localplayerid : UInt64) :
    ∃ t, Exec.Reached (step config) w t ∧
      Mirrors config (processor.setSession sessionid membershipgeneration localplayerid) t := by
  refine ⟨{ w with sessionepoch := w.sessionepoch + 1 + 1 }, reached_step (a := .setSession) rfl,
    h.of_worker ⟨h.config, h.enabled, ?_, h.speakers⟩ ⟨rfl, rfl⟩ rfl rfl⟩
  exact congrArg (· + 1 + 1) h.sessionepoch

theorem setTransmitting_mirrored (h : Mirrors config processor w) (transmitting : Bool) :
    Mirrors config (processor.setTransmitting transmitting) w := by
  unfold Processor.setTransmitting
  split_ifs
  · exact h
  · exact h.of_worker ⟨h.config, h.enabled, h.sessionepoch, h.speakers⟩ ⟨rfl, rfl⟩ rfl rfl

theorem setEnabled_mirrored (h : Mirrors config processor w) (enabled : Bool) :
    ∃ t, Exec.Reached (step config) w t ∧ Mirrors config (processor.setEnabled enabled) t := by
  have hsame : w.enabled = enabled ↔ processor.gate.enabled = enabled := by rw [h.enabled]
  unfold Processor.setEnabled
  by_cases hold : processor.gate.enabled = enabled
  · rw [if_pos hold]
    exact ⟨w, SpeakerWorker.reached_refl w, h⟩
  · rw [if_neg hold]
    refine ⟨{ w with enabled := enabled, sessionepoch := w.sessionepoch + 1 + 1 },
      reached_step (a := .setEnabled enabled) (if_neg (mt hsame.mp hold)),
      h.of_worker ⟨h.config, rfl, ?_, h.speakers⟩ ⟨rfl, rfl⟩ rfl rfl⟩
    exact congrArg (· + 1 + 1) h.sessionepoch

theorem handleSessionPacket_mirrored (h : Mirrors config processor w) (packet : SessionPacket) :
    ∃ t, Exec.Reached (step config) w t ∧
      Mirrors config (processor.handleSessionPacket packet) t := by
  unfold Processor.handleSessionPacket
  split_ifs
  · exact ⟨w, SpeakerWorker.reached_refl w, h⟩
  · exact setSession_mirrored (setTransmitting_mirrored h false) 0 0 0
  · exact setSession_mirrored h _ _ _

theorem start_mirrored (h : Mirrors config processor w) (setupOk : Bool) :
    ∃ t, Exec.Reached (step config) w t ∧ Mirrors config (processor.start setupOk).1 t := by
  refine ⟨w, SpeakerWorker.reached_refl w, ?_⟩
  unfold Processor.start
  split_ifs with hrunning
  · exact h
  · exact h
  · have hnone := h.stopped (Bool.not_eq_true _ ▸ hrunning)
    refine ⟨⟨h.config, h.enabled, h.sessionepoch, h.speakers⟩, fun loop heq => ?_, fun _ => ?_,
      fun hoff => ?_⟩
    · cases heq
    · exact h.idle fun loop => by rw [hnone]; exact nofun
    · cases hoff

theorem stop_mirrored (h : Mirrors config processor w) :
    ∃ t, Exec.Reached (step config) w t ∧ Mirrors config processor.stop t :=
  ⟨{ w.clearWorkerState with looping := false }, reached_step (a := .stop) rfl,
    ⟨h.config, h.enabled, h.sessionepoch, rfl⟩, nofun, fun _ => rfl, fun _ => rfl⟩

theorem workerPrelude_mirrored (h : Mirrors config processor w) (now : Int) :
    ∃ t, Exec.Reached (step config) w t ∧ Mirrors config (processor.workerPrelude now) t := by
  unfold Processor.workerPrelude
  cases hworker : processor.worker with
  | none => exact ⟨w, SpeakerWorker.reached_refl w, h⟩
  | looping loop => exact ⟨w, SpeakerWorker.reached_refl w, h⟩
  | spawned =>
      have hidle : w.looping = false := h.idle fun loop => by rw [hworker]; exact nofun
      refine ⟨{ w with looping := true, observedsessionepoch := w.sessionepoch },
        reached_step (a := .workerLoop) (if_neg (by rw [hidle]; exact nofun)),
        ⟨h.config, h.enabled, h.sessionepoch, h.speakers⟩, fun loop heq => ?_, fun hnone => ?_,
        fun hoff => ?_⟩
      · cases heq
        exact ⟨rfl, h.sessionepoch⟩
      · exact absurd rfl (hnone _)
      · have hstopped := h.stopped hoff
        rw [hworker] at hstopped
        cases hstopped

theorem setControl_unseen (h : Mirrors config processor w) (speakerid : UInt64)
    (muted : Option Bool) (volume : Option ℚ) :
    ∃ t, Exec.Reached (step config) w t ∧ Mirrors config
      { processor with
        playback := (processor.playback.setControl processor.config speakerid muted volume).1 }
      t := by
  refine h.unseen rfl rfl rfl ?_ ⟨rfl, rfl⟩
  unfold Playback.setControl
  dsimp only
  split_ifs <;> rfl

/-- **Every call of a client is a run of the map.** -/
theorem run_mirrored {client : Client} (h : Mirrors config client.processor w) (clock : Nat)
    (call : ClientCall) :
    ∃ t, Exec.Reached (step config) w t ∧ Mirrors config (client.run clock call) t := by
  cases call with
  | start setupOk => exact start_mirrored h setupOk
  | stop => exact stop_mirrored h
  | setEnabled enabled => exact setEnabled_mirrored h enabled
  | setTransmitting transmitting =>
      exact ⟨w, SpeakerWorker.reached_refl w, setTransmitting_mirrored h transmitting⟩
  | setLocalMuted muted =>
      unfold Client.run Processor.setLocalMuted
      dsimp only
      split_ifs
      · exact h.unseen rfl rfl rfl rfl ⟨rfl, rfl⟩
      · exact h.unseen rfl rfl rfl rfl ⟨rfl, rfl⟩
  | setSession sessionid generation playerid =>
      exact setSession_mirrored h sessionid generation playerid
  | clearSession => exact setSession_mirrored h 0 0 0
  | handleSessionPacket control => exact handleSessionPacket_mirrored h control.packet
  | pushCaptured input =>
      unfold Client.run Processor.pushCaptured
      dsimp only
      split_ifs <;> exact h.unseen rfl rfl rfl rfl ⟨rfl, rfl⟩
  | workerPrelude now => exact workerPrelude_mirrored h now
  | workerIteration input => exact workerIteration_mirrored h input
  | popOutgoingPacket =>
      unfold Client.run Processor.popOutgoingPacket
      dsimp only
      split_ifs <;> exact h.unseen rfl rfl rfl rfl ⟨rfl, rfl⟩
  | popPlayback samplecount =>
      unfold Client.run Processor.popPlayback
      dsimp only
      split_ifs <;> exact h.unseen rfl rfl rfl rfl ⟨rfl, rfl⟩
  | pushIncomingPacket packet =>
      unfold Client.run Processor.pushIncomingPacket
      dsimp only
      split_ifs <;> exact h.unseen rfl rfl rfl rfl ⟨rfl, rfl⟩
  | setSpeakerMuted speakerid muted => exact setControl_unseen h speakerid (some muted) none
  | setSpeakerVolume speakerid volume => exact setControl_unseen h speakerid none (some volume)

/-- Before any call. -/
theorem Mirrors.start (requested : ProcessorConfig) :
    Mirrors (sanitizeConfig requested) (Processor.create requested : Processor α) {} :=
  ⟨⟨rfl, rfl, rfl, rfl⟩, nofun, fun _ => rfl, fun _ => rfl⟩

/-- Every run of a client is a run of the map. -/
theorem client_mirrored {requested : ProcessorConfig} {l : Listener}
    (h : Exec.Reached Listener.step (Listener.start requested) l) :
    ∃ w, Exec.Reached (step (sanitizeConfig requested)) {} w ∧
      Mirrors (sanitizeConfig requested) l.processor w := by
  refine h.invariant (fun l => ∃ w, Exec.Reached (step (sanitizeConfig requested)) {} w ∧
    Mirrors (sanitizeConfig requested) l.processor w)
    ⟨{}, SpeakerWorker.reached_refl _, .start _⟩ ?_
  rintro l call m ⟨w, hreached, hmirrors⟩ hstep
  obtain rfl := Option.some.inj hstep
  obtain ⟨t, hrun, ht⟩ := run_mirrored hmirrors l.clock call
  exact ⟨t, hreached.trans hrun, ht⟩

/-- **The speakers of a client**, in every run: a bounded map of bounded queues
with distinct sequences, and concealment counters in their bounds. -/
theorem client_speakers {requested : ProcessorConfig} {l : Listener}
    (h : Exec.Reached Listener.step (Listener.start requested) l) :
    l.processor.playback.speakers.keys.length ≤ (sanitizeConfig requested).maxspeakers ∧
      ∀ id speaker, l.processor.playback.speakers.lookup id = some speaker →
        speaker.jitter.length ≤ (sanitizeConfig requested).jitterpackets ∧
          (speaker.jitter.map (·.sequence)).Nodup ∧
          0 ≤ speaker.consecutivemissing ∧
          speaker.consecutivemissing ≤ (sanitizeConfig requested).maxplcframes := by
  obtain ⟨w, hreached, hmirrors⟩ := client_mirrored h
  obtain ⟨hmax, -⟩ := sanitizeConfig_maxplcframes requested
  have hinv := hreached.invariant (SpeakerWorker.Inv (sanitizeConfig requested))
    (SpeakerWorker.Inv.start _) fun _ _ _ hinv hstep => hinv.step hstep
  have hconceal := hreached.invariant (SpeakerWorker.ConcealInv (sanitizeConfig requested))
    (SpeakerWorker.ConcealInv.start _) fun _ _ _ hinv hstep => hinv.step hmax hstep
  rw [← hmirrors.speakers, SpeakerWorker.keys_plain]
  refine ⟨hinv.few, fun id speaker hspeaker => ?_⟩
  rw [SpeakerWorker.lookup_plain] at hspeaker
  obtain ⟨record, hrecord, rfl⟩ := Option.map_eq_some_iff.mp hspeaker
  obtain ⟨hroom, hdistinct, -⟩ := (hinv.records id record hrecord).queued
  obtain ⟨hlow, hhigh⟩ := (hconceal.records id record hrecord).missing
  exact ⟨hroom, hdistinct, hlow, hhigh⟩

end Voice
