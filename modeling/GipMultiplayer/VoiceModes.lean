import GipMultiplayer.VoiceDevice

/-!
# Voice modes and the microphone

`NetworkManager` turns key events into transmissions of the voice client behind
its backend.  The mode lies in the manager, the transmission in the client and
the key nowhere, so a mode that is changed in the middle of a transmission does
not end it: after `VOICE_MODE_TOGGLE` has opened the microphone, push-to-talk
leaves it open with no key held.

* `NetworkManager.step` — a mode change, a key event, a backend, the client;
* `NetworkManager.Law` — when the microphone has to be closed;
* `NetworkManager.Careful` — push-to-talk is not set on a transmission, and no
  backend comes with one;
* `NetworkManager.microphone_closed` — the law holds along a run exactly then;
* `NetworkManager.microphone_left_open` — from toggle to push-to-talk.
-/

namespace Voice

/-! ## Voice clients -/

theorem setTransmitting_false (processor : Processor Sample) :
    (processor.setTransmitting false).gate.transmitting = false := by
  unfold Processor.setTransmitting
  split_ifs with hoff
  · exact hoff
  · rfl

/-- A session packet can only end a transmission. -/
theorem handleSessionPacket_transmitting (processor : Processor Sample) (packet : SessionPacket)
    (h : (processor.handleSessionPacket packet).gate.transmitting = true) :
    processor.gate.transmitting = true := by
  unfold Processor.handleSessionPacket at h
  split_ifs at h with hmalformed hdisabled
  · exact h
  · have hoff : (processor.setTransmitting false).gate.transmitting = true := h
    rw [setTransmitting_false] at hoff
    cases hoff
  · exact h

/-- Only `setTransmitting(true)` starts a transmission of the processor. -/
theorem run_transmitting (client : Client) (clock : Nat) {c : ClientCall}
    (hc : c ≠ .setTransmitting true) (h : (client.run clock c).gate.transmitting = true) :
    client.processor.gate.transmitting = true := by
  cases c with
  | setTransmitting transmitting =>
      cases transmitting with
      | true => exact absurd rfl hc
      | false =>
          rw [Client.run, setTransmitting_false] at h
          cases h
  | handleSessionPacket control => exact handleSessionPacket_transmitting _ _ h
  | start setupOk =>
      unfold Client.run Processor.start at h
      dsimp only at h
      split_ifs at h <;> exact h
  | setEnabled enabled =>
      unfold Client.run Processor.setEnabled at h
      dsimp only at h
      split_ifs at h <;> exact h
  | setLocalMuted muted =>
      unfold Client.run Processor.setLocalMuted at h
      dsimp only at h
      split_ifs at h <;> exact h
  | pushCaptured input =>
      unfold Client.run Processor.pushCaptured at h
      dsimp only at h
      split_ifs at h <;> exact h
  | workerPrelude now =>
      unfold Client.run Processor.workerPrelude at h
      dsimp only at h
      split at h <;> exact h
  | workerIteration input =>
      rwa [Client.run, workerIteration_gate] at h
  | popOutgoingPacket =>
      unfold Client.run Processor.popOutgoingPacket at h
      dsimp only at h
      split_ifs at h <;> exact h
  | popPlayback samplecount =>
      unfold Client.run Processor.popPlayback at h
      dsimp only at h
      split_ifs at h <;> exact h
  | pushIncomingPacket packet =>
      unfold Client.run Processor.pushIncomingPacket at h
      dsimp only at h
      split_ifs at h <;> exact h
  | stop => exact h
  | setSession sessionid membershipgeneration localplayerid => exact h
  | clearSession => exact h
  | setSpeakerMuted speakerid muted => exact h
  | setSpeakerVolume speakerid volume => exact h

namespace TeamVoice

variable {v w : TeamVoice}

/-- What does not start a transmission does not open the microphone. -/
theorem Via.closed (h : Via v w) :
    (w.processor.gate.transmitting = true → v.processor.gate.transmitting = true) ∧
      w.enabled = v.enabled := by
  induction h with
  | refl => exact ⟨id, rfl⟩
  | call _ hc ih =>
      refine ⟨fun hopen => ih.1 ?_, ih.2⟩
      exact run_transmitting _ _ hc hopen
  | fields _ hlistener henabled _ ih =>
      refine ⟨fun hopen => ih.1 ?_, henabled.trans ih.2⟩
      rwa [processor, hlistener] at hopen

/-- A client transmits only while it is enabled. -/
def Sound (v : TeamVoice) : Prop :=
  v.processor.gate.transmitting = true → v.enabled = true

theorem Via.sound (h : Via v w) (hsound : v.Sound) : w.Sound :=
  fun hopen => h.closed.2.trans (hsound (h.closed.1 hopen))

theorem setTransmitting_off (v : TeamVoice) :
    (v.call (.setTransmitting false)).processor.gate.transmitting = false :=
  setTransmitting_false v.processor

theorem setEnabled_off (v : TeamVoice) :
    (v.setEnabled false).processor.gate.transmitting = false :=
  setTransmitting_off _

theorem stopTransmitting_off (v : TeamVoice) :
    v.stopTransmitting.processor.gate.transmitting = false := by
  unfold stopTransmitting
  split_ifs with hoff
  · exact hoff
  · exact setTransmitting_off v

theorem setEnabled_sound (v : TeamVoice) (enabled : Bool) : (v.setEnabled enabled).Sound := by
  intro hopen
  cases enabled with
  | true => rfl
  | false =>
      rw [setEnabled_off] at hopen
      cases hopen

theorem startTransmitting_sound (hsound : v.Sound) : v.startTransmitting.Sound := by
  unfold startTransmitting
  split_ifs with hopen henabled
  · exact hsound
  · exact fun _ => henabled
  · exact hsound

/-- **Every call keeps it.** -/
theorem step_sound {c : TeamVoiceCall} (hsound : v.Sound) (h : step v c = some w) : w.Sound := by
  cases hc : c.isControl with
  | false => exact (step_via hc h).sound hsound
  | true =>
      cases c with
      | setEnabled enabled =>
          obtain rfl := Option.some.inj h
          exact setEnabled_sound v enabled
      | startTransmitting =>
          obtain rfl := Option.some.inj h
          exact startTransmitting_sound hsound
      | _ => cases hc

/-- A client that has been called transmits only while it is enabled. -/
theorem exec_sound {history : List TeamVoiceCall} (h : Exec.exec step .start history = some v) :
    v.Sound :=
  Exec.exec_invariant (fun _ _ _ => step_sound) (fun hopen => by cases hopen) h

end TeamVoice

/-! ## Backends -/

/-- What `initialize` of a voice client meets. -/
structure Devices where
  setupOk : Bool := true
  opened : Bool := true
  started : Bool := true

/-- The voice of a backend; a dedicated server does not use its client. -/
structure VoiceBackend where
  isDedicatedServer : Bool := false
  voiceClient : TeamVoice := .start

namespace VoiceBackend

def setVoiceEnabled (backend : VoiceBackend) (enabled : Bool) : VoiceBackend :=
  if backend.isDedicatedServer then backend
  else { backend with voiceClient := backend.voiceClient.setEnabled enabled }

def startVoiceTransmission (backend : VoiceBackend) (devices : Devices) : VoiceBackend :=
  if backend.isDedicatedServer then backend
  else
    let voiceClient :=
      if backend.voiceClient.initialized = false then
        (backend.voiceClient.initializeDevice devices.setupOk devices.opened devices.started).1
      else backend.voiceClient
    { backend with voiceClient := voiceClient.startTransmitting }

def stopVoiceTransmission (backend : VoiceBackend) : VoiceBackend :=
  if backend.isDedicatedServer then backend
  else { backend with voiceClient := backend.voiceClient.stopTransmitting }

def isVoiceTransmitting (backend : VoiceBackend) : Bool :=
  if backend.isDedicatedServer then false
  else backend.voiceClient.processor.gate.transmitting

variable {backend : VoiceBackend}

/-- The client of the backend transmits only while it is enabled. -/
def Sound (backend : VoiceBackend) : Prop :=
  backend.isVoiceTransmitting = true → backend.voiceClient.enabled = true

/-- A dedicated server does not transmit. -/
theorem closed_of_dedicated (h : backend.isDedicatedServer = true) :
    backend.isVoiceTransmitting = false := if_pos h

theorem sound_of_closed (h : backend.isVoiceTransmitting = false) : backend.Sound := by
  intro hopen
  rw [h] at hopen
  cases hopen

theorem sound_of_client (h : backend.voiceClient.Sound) : backend.Sound := by
  cases hdedicated : backend.isDedicatedServer with
  | true => exact sound_of_closed (closed_of_dedicated hdedicated)
  | false =>
      intro hopen
      rw [isVoiceTransmitting, hdedicated] at hopen
      exact h hopen

theorem Sound.client (h : backend.Sound) (hdedicated : backend.isDedicatedServer = false) :
    backend.voiceClient.Sound := by
  intro hopen
  apply h
  rw [isVoiceTransmitting, hdedicated]
  exact hopen

theorem stopVoiceTransmission_closed (backend : VoiceBackend) :
    backend.stopVoiceTransmission.isVoiceTransmitting = false := by
  cases hdedicated : backend.isDedicatedServer with
  | true =>
      rw [stopVoiceTransmission, if_pos hdedicated]
      exact closed_of_dedicated hdedicated
  | false =>
      simp only [stopVoiceTransmission, isVoiceTransmitting, hdedicated]
      exact TeamVoice.stopTransmitting_off _

theorem disable_closed (backend : VoiceBackend) :
    (backend.setVoiceEnabled false).isVoiceTransmitting = false := by
  cases hdedicated : backend.isDedicatedServer with
  | true =>
      rw [setVoiceEnabled, if_pos hdedicated]
      exact closed_of_dedicated hdedicated
  | false =>
      simp only [setVoiceEnabled, isVoiceTransmitting, hdedicated]
      exact TeamVoice.setEnabled_off _

/-- **To enable voice changes no transmission.** -/
theorem enable_isVoiceTransmitting (backend : VoiceBackend) :
    (backend.setVoiceEnabled true).isVoiceTransmitting = backend.isVoiceTransmitting := by
  cases hdedicated : backend.isDedicatedServer with
  | true => rw [setVoiceEnabled, if_pos hdedicated]
  | false =>
      simp only [setVoiceEnabled, isVoiceTransmitting, hdedicated]
      rfl

theorem enable_sound (backend : VoiceBackend) : (backend.setVoiceEnabled true).Sound := by
  cases hdedicated : backend.isDedicatedServer with
  | true =>
      rw [setVoiceEnabled, if_pos hdedicated]
      exact sound_of_closed (closed_of_dedicated hdedicated)
  | false =>
      rw [setVoiceEnabled, hdedicated]
      exact sound_of_client (TeamVoice.setEnabled_sound _ _)

theorem start_sound (h : backend.Sound) (devices : Devices) :
    (backend.startVoiceTransmission devices).Sound := by
  cases hdedicated : backend.isDedicatedServer with
  | true =>
      rw [startVoiceTransmission, if_pos hdedicated]
      exact h
  | false =>
      have hclient := h.client hdedicated
      rw [startVoiceTransmission, hdedicated]
      apply sound_of_client
      apply TeamVoice.startTransmitting_sound
      split_ifs
      · exact (TeamVoice.via_initializeDevice ..).sound hclient
      · exact hclient

/-- **What else reaches the client** does not open the microphone. -/
theorem voiceCall_closed {c : TeamVoiceCall} {w : TeamVoice} (hc : c.isControl = false)
    (h : TeamVoice.step backend.voiceClient c = some w)
    (hopen : { backend with voiceClient := w }.isVoiceTransmitting = true) :
    backend.isVoiceTransmitting = true ∧ w.enabled = backend.voiceClient.enabled := by
  obtain ⟨hclosed, henabled⟩ := (TeamVoice.step_via hc h).closed
  refine ⟨?_, henabled⟩
  cases hdedicated : backend.isDedicatedServer with
  | true =>
      have hclient : { backend with voiceClient := w }.isVoiceTransmitting = false :=
        closed_of_dedicated hdedicated
      rw [hclient] at hopen
      cases hopen
  | false =>
      simp only [isVoiceTransmitting, hdedicated] at hopen ⊢
      exact hclosed hopen

end VoiceBackend

/-! ## The manager -/

inductive VoiceChatMode
  | off
  | toggle
  | pushToTalk
deriving DecidableEq

/-- The manager, and whether the voice key is held: the last event of the key was
that it went down. -/
structure NetworkManager where
  voiceMode : VoiceChatMode := .pushToTalk
  backend : Option VoiceBackend := none
  keyHeld : Bool := false

/-- What can happen.  A backend is installed with the calls that its voice client
has had before, none or `setEnabled` by `wireBackend` or any other by the
caller of `useBackend`; `voiceCall` is what else reaches the client. -/
inductive VoiceAction
  | setVoiceMode (mode : VoiceChatMode)
  | handleVoiceKeyDown (devices : Devices)
  | handleVoiceKeyUp
  | removeBackend
  | installBackend (isDedicatedServer : Bool) (history : List TeamVoiceCall)
  | voiceCall (c : TeamVoiceCall)

namespace NetworkManager

/-- A call of the active backend, if there is one. -/
def call (s : NetworkManager) (f : VoiceBackend → VoiceBackend) : NetworkManager :=
  { s with backend := s.backend.map f }

def isVoiceTransmitting (s : NetworkManager) : Bool :=
  match s.backend with
  | some backend => backend.isVoiceTransmitting
  | none => false

def startVoiceTransmission (s : NetworkManager) (devices : Devices) : NetworkManager :=
  s.call fun backend => backend.startVoiceTransmission devices

def stopVoiceTransmission (s : NetworkManager) : NetworkManager :=
  s.call VoiceBackend.stopVoiceTransmission

/-- `setVoiceMode`. -/
def setVoiceMode (s : NetworkManager) (mode : VoiceChatMode) : NetworkManager :=
  let s := { s with voiceMode := mode }
  if mode = .off then
    s.call fun backend => backend.stopVoiceTransmission.setVoiceEnabled false
  else s.call fun backend => backend.setVoiceEnabled true

/-- `handleVoiceKeyDown`. -/
def handleVoiceKeyDown (s : NetworkManager) (devices : Devices) : NetworkManager :=
  match s.voiceMode with
  | .off => s
  | .pushToTalk => if s.isVoiceTransmitting = false then s.startVoiceTransmission devices else s
  | .toggle =>
      if s.isVoiceTransmitting then s.stopVoiceTransmission else s.startVoiceTransmission devices

/-- `handleVoiceKeyUp`. -/
def handleVoiceKeyUp (s : NetworkManager) : NetworkManager :=
  if s.voiceMode = .pushToTalk then
    if s.isVoiceTransmitting then s.stopVoiceTransmission else s
  else s

/-- One step. -/
def step (s : NetworkManager) : VoiceAction → Option NetworkManager
  | .setVoiceMode mode => some (s.setVoiceMode mode)
  | .handleVoiceKeyDown devices => some { s.handleVoiceKeyDown devices with keyHeld := true }
  | .handleVoiceKeyUp => some { s.handleVoiceKeyUp with keyHeld := false }
  | .removeBackend => some { s with backend := none }
  | .installBackend isDedicatedServer history =>
      (Exec.exec TeamVoice.step .start history).map fun voiceClient =>
        { s with backend := some { isDedicatedServer, voiceClient } }
  | .voiceCall c =>
      if c.isControl then none
      else
        s.backend.bind fun backend =>
          (TeamVoice.step backend.voiceClient c).map fun voiceClient =>
            { s with backend := some { backend with voiceClient := voiceClient } }

/-! ## The law -/

/-- The microphone has to be closed. -/
def Closed (s : NetworkManager) : Prop :=
  s.voiceMode = .off ∨ s.voiceMode = .pushToTalk ∧ s.keyHeld = false

/-- The client transmits only while it is enabled. -/
def Enabled (s : NetworkManager) : Prop := ∀ backend ∈ s.backend, backend.Sound

/-- **The law**: nothing is transmitted in the mode off, or in push-to-talk while
the key is not held, or by a client that is disabled. -/
structure Law (s : NetworkManager) : Prop where
  closed : s.Closed → s.isVoiceTransmitting = false
  enabled : s.Enabled

/-- The condition on a step: push-to-talk is set while the key is held or nothing
is transmitted, and a backend that is installed while the microphone has to be
closed does not transmit. -/
def Careful (s : NetworkManager) : VoiceAction → Prop
  | .setVoiceMode .pushToTalk => s.keyHeld = true ∨ s.isVoiceTransmitting = false
  | .installBackend isDedicatedServer history =>
      s.Closed → ∀ voiceClient, Exec.exec TeamVoice.step .start history = some voiceClient →
        VoiceBackend.isVoiceTransmitting { isDedicatedServer, voiceClient } = false
  | _ => True

/-! ## One step -/

variable {s t : NetworkManager} {a : VoiceAction}

/-- A call after which no backend transmits. -/
theorem call_closed {f : VoiceBackend → VoiceBackend}
    (hf : ∀ backend, (f backend).isVoiceTransmitting = false) :
    (s.call f).isVoiceTransmitting = false := by
  obtain ⟨mode, backend, held⟩ := s
  cases backend with
  | none => rfl
  | some backend => exact hf backend

theorem call_enabled {f : VoiceBackend → VoiceBackend} (h : s.Enabled)
    (hf : ∀ backend, backend.Sound → (f backend).Sound) : (s.call f).Enabled := by
  intro backend hbackend
  obtain ⟨before, hbefore, rfl⟩ := Option.map_eq_some_iff.mp hbackend
  exact hf before (h before hbefore)

theorem stop_enabled (h : s.Enabled) : s.stopVoiceTransmission.Enabled :=
  call_enabled h fun backend _ =>
    VoiceBackend.sound_of_closed backend.stopVoiceTransmission_closed

theorem start_enabled (h : s.Enabled) (devices : Devices) :
    (s.startVoiceTransmission devices).Enabled :=
  call_enabled h fun _ hsound => VoiceBackend.start_sound hsound devices

/-- What a call of the client is. -/
theorem step_voiceCall {c : TeamVoiceCall} (h : step s (.voiceCall c) = some t) :
    ∃ backend voiceClient, s.backend = some backend ∧ c.isControl = false ∧
      TeamVoice.step backend.voiceClient c = some voiceClient ∧
      t = { s with backend := some { backend with voiceClient := voiceClient } } := by
  simp only [step] at h
  split_ifs at h with hc
  obtain ⟨backend, hbackend, hcalled⟩ := Option.bind_eq_some_iff.mp h
  obtain ⟨voiceClient, hclient, rfl⟩ := Option.map_eq_some_iff.mp hcalled
  exact ⟨backend, voiceClient, hbackend, Bool.eq_false_of_not_eq_true hc, hclient, rfl⟩

/-- **A disabled client never transmits**, whatever the step. -/
theorem step_enabled (h : s.Enabled) (hstep : step s a = some t) : t.Enabled := by
  cases a with
  | setVoiceMode mode =>
      obtain rfl := Option.some.inj hstep
      unfold setVoiceMode
      dsimp only
      split_ifs with hoff
      · exact call_enabled h fun backend _ =>
          VoiceBackend.sound_of_closed (VoiceBackend.disable_closed _)
      · exact call_enabled h fun backend _ => backend.enable_sound
  | handleVoiceKeyDown devices =>
      obtain rfl := Option.some.inj hstep
      show (s.handleVoiceKeyDown devices).Enabled
      unfold handleVoiceKeyDown
      split
      · exact h
      · split_ifs
        · exact start_enabled h devices
        · exact h
      · split_ifs
        · exact stop_enabled h
        · exact start_enabled h devices
  | handleVoiceKeyUp =>
      obtain rfl := Option.some.inj hstep
      show s.handleVoiceKeyUp.Enabled
      unfold handleVoiceKeyUp
      split_ifs
      · exact stop_enabled h
      · exact h
      · exact h
  | removeBackend =>
      obtain rfl := Option.some.inj hstep
      intro backend hbackend
      cases hbackend
  | installBackend isDedicatedServer history =>
      obtain ⟨voiceClient, hclient, rfl⟩ := Option.map_eq_some_iff.mp hstep
      intro backend hbackend
      obtain rfl := Option.some.inj hbackend
      exact VoiceBackend.sound_of_client (TeamVoice.exec_sound hclient)
  | voiceCall c =>
      obtain ⟨backend, voiceClient, hbackend, hc, hcalled, rfl⟩ := step_voiceCall hstep
      intro after hafter
      obtain rfl := Option.some.inj hafter
      intro hopen
      obtain ⟨hbefore, henabled⟩ := VoiceBackend.voiceCall_closed hc hcalled hopen
      exact henabled.trans (h backend hbackend hbefore)

theorem closed_stop (s : NetworkManager) : s.stopVoiceTransmission.isVoiceTransmitting = false :=
  call_closed VoiceBackend.stopVoiceTransmission_closed

theorem handleVoiceKeyDown_voiceMode (s : NetworkManager) (devices : Devices) :
    (s.handleVoiceKeyDown devices).voiceMode = s.voiceMode := by
  unfold handleVoiceKeyDown
  split
  · rfl
  · split_ifs <;> rfl
  · split_ifs <;> rfl

theorem handleVoiceKeyUp_voiceMode (s : NetworkManager) :
    s.handleVoiceKeyUp.voiceMode = s.voiceMode := by
  unfold handleVoiceKeyUp
  split_ifs <;> rfl

/-- A key that goes up ends a transmission in push-to-talk. -/
theorem handleVoiceKeyUp_closed (hmode : s.voiceMode = .pushToTalk) :
    s.handleVoiceKeyUp.isVoiceTransmitting = false := by
  rw [handleVoiceKeyUp, if_pos hmode]
  split_ifs with hopen
  · exact closed_stop s
  · exact Bool.eq_false_of_not_eq_true hopen

/-- Push-to-talk leaves a transmission as it is. -/
theorem setVoiceMode_pushToTalk (s : NetworkManager) :
    (s.setVoiceMode .pushToTalk).isVoiceTransmitting = s.isVoiceTransmitting := by
  obtain ⟨mode, backend, held⟩ := s
  cases backend with
  | none => rfl
  | some backend => exact backend.enable_isVoiceTransmitting

/-- **One step keeps the microphone closed exactly when it is careful.** -/
theorem step_closed (h : s.Law) :
    (∀ t, step s a = some t → t.Closed → t.isVoiceTransmitting = false) ↔ s.Careful a := by
  cases a with
  | setVoiceMode mode =>
      cases mode with
      | off =>
          refine iff_of_true ?_ trivial
          rintro t ht -
          obtain rfl := Option.some.inj ht
          exact call_closed fun backend => VoiceBackend.disable_closed _
      | toggle =>
          refine iff_of_true ?_ trivial
          rintro t ht (hoff | ⟨hpush, -⟩)
          · obtain rfl := Option.some.inj ht
            cases hoff
          · obtain rfl := Option.some.inj ht
            cases hpush
      | pushToTalk =>
          have hopen := setVoiceMode_pushToTalk s
          constructor
          · intro hlaw
            cases hheld : s.keyHeld with
            | true => exact .inl hheld
            | false =>
                have hclosed := hlaw _ rfl (.inr ⟨rfl, hheld⟩)
                exact .inr (hopen.symm.trans hclosed)
          · rintro hcareful t ht hclosed
            obtain rfl := Option.some.inj ht
            rw [hopen]
            rcases hcareful with hheld | hquiet
            · rcases hclosed with hoff | ⟨-, hfree⟩
              · cases hoff
              · cases hheld.symm.trans hfree
            · exact hquiet
  | handleVoiceKeyDown devices =>
      refine iff_of_true ?_ trivial
      rintro t ht (hoff | ⟨-, hfree⟩)
      · obtain rfl := Option.some.inj ht
        have hmode : s.voiceMode = .off := (handleVoiceKeyDown_voiceMode s devices).symm.trans hoff
        show (s.handleVoiceKeyDown devices).isVoiceTransmitting = false
        rw [handleVoiceKeyDown, hmode]
        exact h.closed (.inl hmode)
      · obtain rfl := Option.some.inj ht
        cases hfree
  | handleVoiceKeyUp =>
      refine iff_of_true ?_ trivial
      rintro t ht hclosed
      obtain rfl := Option.some.inj ht
      show s.handleVoiceKeyUp.isVoiceTransmitting = false
      rcases hclosed with hoff | ⟨hpush, -⟩
      · have hmode : s.voiceMode = .off := (handleVoiceKeyUp_voiceMode s).symm.trans hoff
        rw [handleVoiceKeyUp, if_neg (by rw [hmode]; decide)]
        exact h.closed (.inl hmode)
      · exact handleVoiceKeyUp_closed ((handleVoiceKeyUp_voiceMode s).symm.trans hpush)
  | removeBackend =>
      refine iff_of_true ?_ trivial
      rintro t ht -
      obtain rfl := Option.some.inj ht
      rfl
  | installBackend isDedicatedServer history =>
      constructor
      · intro hlaw hclosed voiceClient hclient
        have hstep : step s (.installBackend isDedicatedServer history) =
            some { s with backend := some { isDedicatedServer, voiceClient } } := by
          simp only [step, hclient, Option.map_some]
        exact hlaw _ hstep hclosed
      · rintro hcareful t ht hclosed
        obtain ⟨voiceClient, hclient, rfl⟩ := Option.map_eq_some_iff.mp ht
        exact hcareful hclosed voiceClient hclient
  | voiceCall c =>
      refine iff_of_true ?_ trivial
      rintro t ht hclosed
      obtain ⟨backend, voiceClient, hbackend, hc, hcalled, rfl⟩ := step_voiceCall ht
      have hquiet := h.closed hclosed
      rw [isVoiceTransmitting, hbackend] at hquiet
      apply Bool.eq_false_of_not_eq_true
      intro hopen
      obtain ⟨hbefore, -⟩ := VoiceBackend.voiceCall_closed hc hcalled hopen
      cases hquiet.symm.trans hbefore

/-! ## Runs -/

theorem law_of_silent (h : s.isVoiceTransmitting = false) : s.Law where
  closed _ := h
  enabled := by
    intro backend hbackend
    apply VoiceBackend.sound_of_closed
    rw [isVoiceTransmitting, hbackend] at h
    exact h

/-- **No hot microphone**: from a state in which nothing is transmitted, the law
holds after every step of a run exactly when every step is careful; and in every
run a disabled client does not transmit. -/
theorem microphone_closed (s : NetworkManager) (hsilent : s.isVoiceTransmitting = false)
    (actions : List VoiceAction) :
    (Exec.Along step (fun s a => ∀ t, step s a = some t → t.Law) s actions ↔
        Exec.Along step Careful s actions) ∧
      ∀ t, Exec.exec step s actions = some t → t.Enabled := by
  constructor
  · apply Exec.along_congr (fun _ => True) Law
    · intro s a t _ _ hlaw hstep
      exact hlaw t hstep
    · intro s a hs _
      rw [← step_closed hs]
      constructor
      · intro hlaw t hstep hclosed
        exact (hlaw t hstep).closed hclosed
      · intro hclosed t hstep
        exact ⟨hclosed t hstep, step_enabled hs.enabled hstep⟩
    · exact law_of_silent hsilent
    · exact fun _ _ => trivial
  · intro t hrun
    exact Exec.exec_invariant (fun _ _ _ hs hstep => step_enabled hs hstep)
      (law_of_silent hsilent).enabled hrun

/-- A key press in push-to-talk on a backend that was just installed. -/
theorem microphone_closed_press :
    Exec.Along step (fun s a => ∀ t, step s a = some t → t.Law) {}
      [.installBackend false [.setEnabled true], .handleVoiceKeyDown {}, .handleVoiceKeyDown {},
        .handleVoiceKeyUp, .setVoiceMode .off] := by
  refine (microphone_closed {} rfl _).1.mpr ?_
  refine ⟨?_, fun _ _ => ⟨trivial, fun _ _ => ⟨trivial, fun _ _ => ⟨trivial, fun _ _ =>
    ⟨trivial, fun _ _ => trivial⟩⟩⟩⟩⟩
  intro _ voiceClient hclient
  obtain rfl := Option.some.inj hclient
  rfl

/-- **Push-to-talk leaves the microphone open.**  In the toggle mode a press opens
it and the release does not close it; push-to-talk is set, and no key is held. -/
theorem microphone_left_open :
    ¬ ∀ s : NetworkManager, s.isVoiceTransmitting = false → ∀ actions t,
      Exec.exec step s actions = some t → t.Law := by
  intro hall
  obtain ⟨t, hrun, hopen⟩ : ∃ t, Exec.exec step {}
      [.installBackend false [.setEnabled true], .setVoiceMode .toggle, .handleVoiceKeyDown {},
        .handleVoiceKeyUp, .setVoiceMode .pushToTalk] = some t ∧
      (decide (t.voiceMode = .pushToTalk) && !t.keyHeld && t.isVoiceTransmitting) = true :=
    Exec.exec_any (by decide +kernel)
  simp only [Bool.and_eq_true, decide_eq_true_eq, Bool.not_eq_true'] at hopen
  obtain ⟨⟨hmode, hfree⟩, htransmitting⟩ := hopen
  have hclosed := (hall {} rfl _ t hrun).closed (.inr ⟨hmode, hfree⟩)
  cases htransmitting.symm.trans hclosed

end NetworkManager

end Voice
