import GipMultiplayer.VoiceReception

/-!
# Nothing is missed behind a sample

A listener writes down what has been offered to the speakers' records, and
calls that the sources of every sample a mix adds.  This file shows that it
misses nothing: each frame in a jitter queue, and so each frame a mix decodes,
is the frame of a downlink that has been written down.

* `Listener.Traced`, `Listener.step_traced` — what is written down stays complete;
* `Listener.Traced.decoded` — what an iteration decodes is behind its samples;
* `Listener.reached_traced` — nothing is missed in any run.
-/

namespace Voice

namespace Listener

variable {l : Listener}

/-- Every frame in a jitter queue comes from a downlink of that speaker that
has been written down as admitted. -/
def Offered (speakers : Speakers) (admitted : List Accepted) : Prop :=
  ∀ id speaker, speakers.lookup id = some speaker → ∀ f ∈ speaker.jitter,
    ∃ a ∈ admitted, a.frame = f ∧ a.packet.speakerid = id

/-- **Nothing has been missed**: what is written down runs beside the incoming
queue, and has every queued frame. -/
structure Traced (l : Listener) : Prop where
  queue : l.incoming.map Accepted.frame = l.processor.playback.incoming
  jitter : Offered l.processor.playback.speakers l.admitted

theorem addFrame_jitter (config : ProcessorConfig) (now : Int) (speaker : Speaker)
    (frame : RemoteFrame) :
    ∀ f ∈ (speaker.addFrame config now frame).jitter, f ∈ speaker.jitter ∨ f = frame := by
  intro f hf
  unfold Speaker.addFrame at hf
  split_ifs at hf
  · exact .inl hf
  · exact .inl hf
  · obtain ⟨highest, hashighest, heq⟩ := raiseHighest_eq speaker frame.sequence
    rw [heq] at hf
    unfold Speaker.enqueue at hf
    split_ifs at hf
    · split at hf
      · split_ifs at hf
        · exact List.mem_or_eq_of_mem_set hf
        · exact .inl hf
      · exact .inl hf
    · simpa using hf

theorem mix_jitter (config : ProcessorConfig) (now : Int) (speaker : Speaker) :
    (∀ f ∈ (speaker.mix config now).1.jitter, f ∈ speaker.jitter) ∧
      ∀ f, (speaker.mix config now).2 = some (.frame f) → f ∈ speaker.jitter := by
  have hstarted : ∀ started,
      (if speaker.playing then some speaker else speaker.startPlayout config now) =
        some started → started.jitter = speaker.jitter := by
    intro started heq
    split_ifs at heq
    · cases heq
      rfl
    · unfold Speaker.startPlayout at heq
      split_ifs at heq
      split at heq
      · cases heq
      · cases heq
        rfl
  unfold Speaker.mix
  dsimp only
  split
  · exact ⟨fun f hf => hf, fun f hf => by cases hf⟩
  · rename_i started heq
    have hjitter := hstarted started heq
    split_ifs
    · exact ⟨fun f hf => hjitter ▸ hf, fun f hf => by cases hf⟩
    · unfold Speaker.playSlot
      split
      · rename_i frame hfind
        refine ⟨fun f hf => hjitter ▸ List.mem_of_mem_eraseP hf, fun f hf => ?_⟩
        cases hf
        exact hjitter ▸ List.mem_of_find?_eq_some hfind
      · split_ifs
        · exact ⟨fun f hf => hjitter ▸ hf, fun f hf => by cases hf⟩
        · exact ⟨fun f hf => hjitter ▸ hf, fun f hf => by cases hf⟩

variable {speakers : Speakers} {admitted : List Accepted}

/-- What is forgotten with the speakers that have no record is not needed. -/
theorem Offered.present (h : Offered speakers admitted) :
    Offered speakers (Voice.present speakers admitted) := by
  intro id speaker hlookup f hf
  obtain ⟨a, ha, hframe, hid⟩ := h id speaker hlookup f hf
  refine ⟨a, mem_present.mpr ⟨ha, ?_⟩, hframe, hid⟩
  rw [hid]
  exact AList.lookup_isSome.mp (Option.isSome_iff_exists.mpr ⟨speaker, hlookup⟩)

/-- Records that come from others with no new frame. -/
theorem Offered.of_lookup (h : Offered speakers admitted) {speakers' : Speakers}
    (hlookup : ∀ id speaker, speakers'.lookup id = some speaker →
      ∃ before, speakers.lookup id = some before ∧ ∀ f ∈ speaker.jitter, f ∈ before.jitter) :
    Offered speakers' admitted := by
  intro id speaker hspeaker f hf
  obtain ⟨before, hbefore, hjitter⟩ := hlookup id speaker hspeaker
  exact h id before hbefore f (hjitter f hf)

theorem Offered.addRemoteFrame (h : Offered speakers admitted) (config : ProcessorConfig)
    (now : Int) (setupOk : Bool) {a : Accepted} (ha : a ∈ admitted) :
    Offered (Voice.addRemoteFrame config now setupOk speakers a.frame) admitted := by
  rcases addRemoteFrame_cases config now setupOk speakers a.frame with
    heq | ⟨before, heq, -, hbefore⟩
  · rw [heq]
    exact h
  · rw [heq]
    intro id speaker hlookup f hf
    rcases eq_or_ne id a.frame.speakerid with rfl | hne
    · rw [AList.lookup_insert, Option.some.injEq] at hlookup
      rw [← hlookup] at hf
      rcases addFrame_jitter config now before a.frame f hf with hold | rfl
      · rcases hbefore with ⟨hlookup', -⟩ | ⟨old, hreset, -⟩
        · exact h _ before hlookup' f hold
        · unfold resetSpeaker at hreset
          split_ifs at hreset
          cases hreset
          cases hold
      · exact ⟨a, ha, rfl, rfl⟩
    · rw [AList.lookup_insert_ne hne] at hlookup
      exact h id speaker hlookup f hf

/-- **The worker admits what has been written down.** -/
theorem Offered.processIncoming {p : Processor Sample} (input : Iteration)
    (observedsessionepoch : Nat) {incoming : List Accepted}
    (hqueue : incoming.map Accepted.frame = p.playback.incoming)
    (hall : ∀ a ∈ incoming, a.epoch = observedsessionepoch → a.epoch = p.gate.sessionepoch →
      p.gate.enabled = true → a ∈ admitted)
    (h : Offered p.playback.speakers admitted) :
    Offered (p.processIncoming input observedsessionepoch).playback.speakers admitted := by
  unfold Processor.processIncoming
  rw [← hqueue]
  show Offered (List.foldl _ p.playback.speakers (incoming.map Accepted.frame).zipIdx) admitted
  generalize p.playback.speakers = speakers at h
  generalize hstart : 0 = k
  clear hstart hqueue
  induction incoming generalizing speakers k with
  | nil => exact h
  | cons a rest ih =>
      rw [List.map_cons, List.zipIdx_cons, List.foldl_cons]
      refine ih (fun b hb => hall b (List.mem_cons_of_mem _ hb)) _ ?_ _
      dsimp only
      split_ifs with hcurrent
      · exact h.addRemoteFrame p.config _ _ (hall a List.mem_cons_self hcurrent.1 hcurrent.2.1
          hcurrent.2.2)
      · exact h

/-- **What a mix decodes is behind its samples.** -/
theorem Offered.decoded (h : Offered speakers admitted) (config : ProcessorConfig) (now : Int)
    {id : UInt64} {f : RemoteFrame} (hcall : (id, .frame f) ∈ decodeCalls config now speakers) :
    ∃ a ∈ calledFor (decodeCalls config now speakers) admitted, a.frame = f := by
  obtain ⟨item, hitem, hmix⟩ := List.mem_filterMap.mp hcall
  obtain ⟨decoding, hdecoding, heq⟩ := Option.map_eq_some_iff.mp hmix
  cases heq
  obtain ⟨a, ha, hframe, hid⟩ := h item.1 item.2 (AList.mem_lookup_iff.mpr hitem) f
    ((mix_jitter config now item.2).2 f hdecoding)
  refine ⟨a, List.mem_filter.mpr ⟨ha, ?_⟩, hframe⟩
  exact List.any_eq_true.mpr ⟨_, hcall, by simp [hid]⟩

/-- The last stage queues nothing. -/
theorem Offered.mixDue {p : Processor Sample} {loop : WorkerLoop} {input : Iteration}
    (h : Offered p.playback.speakers admitted) :
    Offered (p.mixDue loop input).1.playback.speakers admitted := by
  have hcleanup : ∀ speakers : Speakers, Offered speakers admitted →
      Offered (cleanupSpeakers p.config input.now speakers) admitted := by
    intro speakers hspeakers
    refine hspeakers.of_lookup fun id speaker hlookup => ⟨speaker, ?_, fun f hf => hf⟩
    exact AList.mem_lookup_iff.mpr (List.mem_of_mem_filter (AList.mem_lookup_iff.mp hlookup))
  unfold Processor.mixDue
  by_cases hdue : loop.nextmix ≤ input.now
  · rw [if_pos hdue]
    refine hcleanup _ ?_
    rw [(mixOneFrame_playout p.config input.now input.decode p.playback).1]
    refine h.of_lookup fun id speaker hlookup => ?_
    rw [lookup_mapSpeakers] at hlookup
    obtain ⟨before, hbefore, rfl⟩ := Option.map_eq_some_iff.mp hlookup
    exact ⟨before, hbefore, (mix_jitter p.config input.now before).1⟩
  · rw [if_neg hdue]
    exact hcleanup _ h

/-- **At the mix of an iteration nothing is missed**: what the queue hands on
is written down as the records are written. -/
theorem Traced.admits (h : Traced l) {loop mixing : WorkerLoop} {input : Iteration}
    {p q : Processor Sample} (hstages : Stages l loop input p q mixing) :
    Offered q.playback.speakers (l.workerIteration input).admitted := by
  have hbefore : Offered p.playback.speakers (present p.playback.speakers l.admitted) := by
    rcases hstages.speakers with hnone | ⟨hsame, -⟩
    · rw [hnone]
      exact fun id speaker hlookup => by cases hlookup
    · rw [hsame]
      exact h.jitter.present
  have hadmits : Offered q.playback.speakers
      (present p.playback.speakers l.admitted ++ l.taken l.processor.gate.sessionepoch) := by
    rw [hstages.admits]
    refine Offered.processIncoming input _
      (show l.incoming.map Accepted.frame = _ from ?_) ?_ ?_
    · rw [hstages.keeps.incoming, h.queue]
    · rw [hstages.gate]
      intro a ha hobserved hepoch henabled
      refine List.mem_append_right _ (List.mem_filter.mpr ⟨ha, ?_⟩)
      exact decide_eq_true ⟨hobserved, hepoch, henabled⟩
    · intro id speaker hlookup f hf
      obtain ⟨a, ha, hframe⟩ := hbefore id speaker hlookup f hf
      exact ⟨a, List.mem_append_left _ ha, hframe⟩
  rw [hstages.listener]
  exact hadmits.present

/-- **What an iteration decodes is behind its samples.** -/
theorem Traced.decoded (h : Traced l) {loop mixing : WorkerLoop} {input : Iteration}
    {p q : Processor Sample} (hstages : Stages l loop input p q mixing) {id : UInt64}
    {f : RemoteFrame}
    (hcall : (id, .frame f) ∈ (mixOneFrame q.config input.now input.decode q.playback).2) :
    ∃ a ∈ calledFor (mixOneFrame q.config input.now input.decode q.playback).2
      (l.workerIteration input).admitted, a.frame = f := by
  have hcalls : (mixOneFrame q.config input.now input.decode q.playback).2 =
      decodeCalls q.config input.now q.playback.speakers := by
    unfold mixOneFrame
    dsimp only
    split_ifs
    · rfl
    · split <;> rfl
  rw [hcalls] at hcall ⊢
  exact (h.admits hstages).decoded q.config input.now hcall

theorem Traced.worker (h : Traced l) (input : Iteration) :
    Traced (l.perform (.workerIteration input)) := by
  have hiteration : (l.workerIteration input).incoming.map Accepted.frame =
      (l.processor.workerIteration input).playback.incoming ∧
      Offered (l.processor.workerIteration input).playback.speakers
        (l.workerIteration input).admitted := by
    rcases workerIteration_cases l input with ⟨hsame, hlistener⟩ | ⟨loop, hworker, hrun⟩
    · rw [hsame, hlistener]
      exact ⟨h.queue, h.jitter⟩
    · obtain ⟨p, q, mixing, hstages⟩ := workerIteration_stages hworker hrun input
      have hran := workerIteration_ran hworker hrun input
      refine ⟨by rw [hran.queue, hran.incoming]; rfl, ?_⟩
      rw [hstages.processor]
      exact (h.admits hstages).mixDue
  exact ⟨hiteration.1, hiteration.2.present⟩

/-- A call that admits nothing: the records stay as they are or are gone. -/
theorem Traced.keeps {call : ClientCall} (h : Traced l)
    (hspeakers : (l.client.run l.clock call).playback.speakers = l.processor.playback.speakers ∨
      (l.client.run l.clock call).playback.speakers = ∅)
    (hqueue : (l.moves call).incoming.map Accepted.frame =
      (l.client.run l.clock call).playback.incoming)
    (hadmitted : (l.moves call).admitted = l.admitted) : Traced (l.perform call) := by
  have hoffered : Offered (l.client.run l.clock call).playback.speakers
      (l.moves call).admitted := by
    rw [hadmitted]
    rcases hspeakers with hsame | hnone
    · rw [hsame]
      exact h.jitter
    · rw [hnone]
      exact fun id speaker hlookup => by cases hlookup
  exact ⟨hqueue, hoffered.present⟩

/-- An accepted downlink is written down as its frame is queued. -/
theorem Traced.push (h : Traced l) (packet : DownlinkPacket) :
    Traced (l.perform (.pushIncomingPacket packet)) := by
  have hspeakers : (l.processor.pushIncomingPacket packet).1.playback.speakers =
      l.processor.playback.speakers := by
    unfold Processor.pushIncomingPacket
    split_ifs <;> rfl
  have hlength : l.processor.playback.incoming.length = l.incoming.length := by
    rw [← h.queue, List.length_map]
  refine h.keeps (.inl hspeakers) ?_ ?_
  · show (l.accept packet).incoming.map Accepted.frame =
      (l.processor.pushIncomingPacket packet).1.playback.incoming
    unfold accept Processor.pushIncomingPacket
    by_cases haccepts : l.processor.gate.accepts packet = true
    · simp only [haccepts, if_true, hlength, List.map_append]
      rw [← h.queue]
      split_ifs
      · rw [List.map_drop]
        rfl
      · rfl
    · simp only [haccepts, Bool.false_eq_true, if_false, h.queue]
  · show (l.accept packet).admitted = l.admitted
    unfold accept
    split_ifs <;> rfl

/-- **What is written down stays complete.** -/
theorem step_traced (h : Traced l) (call : ClientCall) : Traced (l.perform call) := by
  cases perform_effect l call with
  | idle _ hside hmoves =>
      refine h.keeps (.inl hside.speakers) ?_ (by rw [hmoves])
      rw [hmoves, hside.incoming, h.queue]
  | cut _ hcuts hmoves =>
      refine h.keeps ?_ ?_ (by rw [hmoves])
      · exact hcuts.worker.symm.imp (fun hnew => hnew.2.2.2) fun hended => hended.2
      · rw [hmoves, hcuts.incoming]
        rfl
  | started setupOk hcall hoff hrun =>
      subst hcall
      exact h.keeps (.inl (by rw [hrun])) (by rw [hrun]; exact h.queue) rfl
  | entered now hcall hworker capture loop hrun =>
      subst hcall
      exact h.keeps (.inl (by rw [hrun])) (by rw [hrun]; exact h.queue) rfl
  | worked input hcall => exact hcall ▸ h.worker input
  | popped samplecount hcall hsome =>
      subst hcall
      have hrun : (l.processor.popPlayback samplecount).1.playback.speakers =
          l.processor.playback.speakers ∧
          (l.processor.popPlayback samplecount).1.playback.incoming =
            l.processor.playback.incoming := by
        rw [Processor.popPlayback, if_neg hsome]
        exact ⟨rfl, rfl⟩
      have hmoves : l.moves (.popPlayback samplecount) =
          { l with sources := l.readable.drop samplecount } := if_neg hsome
      refine h.keeps (.inl hrun.1) ?_ (by rw [hmoves])
      rw [hmoves]
      exact h.queue.trans hrun.2.symm
  | pushed packet hcall => exact hcall ▸ h.push packet

/-- **In every run nothing is missed.** -/
theorem reached_traced {config : ProcessorConfig} (h : Exec.Reached step (start config) l) :
    Traced l := by
  refine h.invariant Traced ⟨rfl, fun id speaker hlookup => by cases hlookup⟩ ?_
  intro s call t hs hstep
  obtain rfl := Option.some.inj hstep
  exact step_traced hs call

end Listener

end Voice
