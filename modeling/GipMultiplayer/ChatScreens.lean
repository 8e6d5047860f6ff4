import GipMultiplayer.ChatAudience

/-!
# What reaches a screen

A chat message travels from a client to the host, through the host's checks to
its own history, and on to other clients, who filter the text once more.  The
text is made printable on the way.  The name of the sender travels apart: from
a join packet through the room list into every message of that player.

Around the host of `gameStep` stand the clients, each with the messages on
their way to it, its mute list and its history.

* `Screens.Fit` — text and names of everything on its way and of every history;
* `Screens.Fit.step` — one step keeps it, if a name that enters the room is fit;
* `screens_printable` — text on every screen, and names under the condition;
* `screens_unprintable` — a join whose name is a control character.
-/

namespace Lobby

open Voice (ConnectionId)

/-! ## Printable text -/

/-- Printable ASCII. -/
def Printable (bytes : Bytes) : Prop := ∀ c ∈ bytes, 32 ≤ c ∧ c ≤ 126

instance (bytes : Bytes) : Decidable (Printable bytes) :=
  inferInstanceAs (Decidable (∀ _ ∈ _, _))

/-- The text of a chat entry: one to `maxTextLength` printable characters. -/
def TextFit (text : Bytes) : Prop :=
  1 ≤ text.length ∧ text.length ≤ maxTextLength ∧ Printable text

instance (text : Bytes) : Decidable (TextFit text) :=
  inferInstanceAs (Decidable (_ ∧ _))

theorem Printable.append {left right : Bytes} (hleft : Printable left)
    (hright : Printable right) : Printable (left ++ right) :=
  List.forall_mem_append.mpr ⟨hleft, hright⟩

theorem sanitizeText_printable (text : Bytes) : Printable (sanitizeText text) := by
  intro c hc
  have hkept := (List.mem_filter.mp (List.mem_of_mem_take hc)).2
  simpa using hkept

/-- What passes the filter fits. -/
theorem sanitizeText_fit {text : Bytes} (h : sanitizeText text ≠ []) :
    TextFit (sanitizeText text) :=
  ⟨List.length_pos_of_ne_nil h, List.length_take_le .., sanitizeText_printable text⟩

/-- Fit text passes the filter as it is. -/
theorem sanitizeText_of_fit {text : Bytes} (h : TextFit text) : sanitizeText text = text := by
  have hfilter : text.filter (fun c => ¬ (c < 32 ∨ 126 < c)) = text := by
    refine List.filter_eq_self.mpr fun c hc => ?_
    have hprintable := h.2.2 c hc
    simpa using hprintable
  rw [sanitizeText, hfilter, List.take_of_length_le h.2.1]

/-- Digits are printable. -/
theorem decimal_printable (n : Nat) : Printable (decimal n) := by
  intro b hb
  obtain ⟨c, hc, rfl⟩ := List.mem_map.mp hb
  have hdigit := Nat.isDigit_of_mem_toDigits (by decide) le_rfl hc
  simp only [Char.isDigit, Bool.and_eq_true, decide_eq_true_eq] at hdigit
  have hlow : 48 ≤ c.toNat := UInt32.le_iff_toNat_le.mp hdigit.1
  have hhigh : c.toNat ≤ 57 := UInt32.le_iff_toNat_le.mp hdigit.2
  have hbyte : c.toNat.toUInt8.toNat = c.toNat :=
    Nat.mod_eq_of_lt (hhigh.trans_lt (by decide))
  rw [UInt8.le_iff_toNat_le, UInt8.le_iff_toNat_le, hbyte]
  exact ⟨le_trans (by decide) hlow, hhigh.trans (by decide)⟩

/-- Numbering a printable name keeps it printable. -/
theorem resolveName_printable {roomPlayers : List RoomPlayerInfo} {playerName : Bytes}
    (hname : Printable playerName) (attempts count : Nat) {finalName : Bytes}
    (hfinal : Printable finalName) :
    Printable (resolveName roomPlayers playerName attempts count finalName) := by
  induction attempts generalizing count finalName with
  | zero => exact hfinal
  | succ attempts ih =>
      unfold resolveName
      split_ifs
      · refine ih (count + 1) (hname.append ?_)
        exact List.forall_mem_cons.mpr ⟨by decide, decimal_printable count⟩
      · exact hfinal

theorem uniqueName_printable {playerName : Bytes} (hname : Printable playerName)
    (roomPlayers : List RoomPlayerInfo) : Printable (uniqueName roomPlayers playerName) :=
  resolveName_printable hname _ _ hname

/-! ## The system -/

/-- The chat of one client: what is on its way to it, its history and its mute
list. -/
structure Screen where
  inbox : List ChatMessage := []
  history : List ChatEntry := []
  muted : List UInt32 := []

/-- The host and the screens of its clients, by session. -/
structure Screens where
  game : Game
  client : ConnectionId → Screen := fun _ => {}

/-- The messages of some relays that go to a session. -/
def sentTo (c : ConnectionId) (relays : List Relay) : List ChatMessage :=
  relays.flatMap fun relay => (relay.recipients.filter (· == c)).map fun _ => relay.message

/-- `PACKET_CHAT_MESSAGE` in `onPacketReceived`, on a client: the text is
filtered once more, and everything is shown. -/
def clientChat (muted : List UInt32) (history : List ChatEntry) (message : ChatMessage) :
    List ChatEntry :=
  let message := { message with text := sanitizeText message.text }
  if message.text = [] then history else receive muted history message

/-- A client takes the first message of its inbox. -/
def Screen.read (screen : Screen) : Option Screen :=
  match screen.inbox with
  | [] => none
  | message :: rest =>
      some { screen with
        inbox := rest
        history := clientChat screen.muted screen.history message }

/-- A step of the host, a client taking a message, or a change to a client's
mute list. -/
inductive ScreenAction
  | host (env : Env) (action : GameAction)
  | read (c : ConnectionId)
  | mute (c : ConnectionId) (playerId : UInt32) (muted : Bool)

/-- One step.  What the host relays is sent to its recipients in order. -/
def screenStep (config : HostConfig) (s : Screens) : ScreenAction → Option Screens
  | .host env action =>
      (gameStep config s.game (env, action)).map fun game =>
        { game := game
          client := fun c => { s.client c with
            inbox := (s.client c).inbox ++ sentTo c (newRelays s.game.host game.host) } }
  | .read c =>
      (s.client c).read.map fun screen => { s with client := Function.update s.client c screen }
  | .mute c playerId muted =>
      let screen := s.client c
      some { s with
        client := Function.update s.client c { screen with
          muted := if muted then playerId :: screen.muted
            else screen.muted.filter (· ≠ playerId) } }

/-- The lobby as it starts, with nothing on any screen. -/
def startScreens (config : HostConfig) (env : Env) : Screens :=
  { game := startGame config env }

/-! ## Definitions of the law -/

/-- A message with fit text and a sender name of a kind. -/
def ChatMessage.Fit (P : Bytes → Prop) (message : ChatMessage) : Prop :=
  TextFit message.text ∧ P message.senderName

/-- An entry with fit text and a sender name of a kind. -/
def ChatEntry.Fit (P : Bytes → Prop) (entry : ChatEntry) : Prop :=
  TextFit entry.text ∧ P entry.senderName

/-- Everything on a screen, and everything that may come to one. -/
structure Screens.Fit (P : Bytes → Prop) (s : Screens) : Prop where
  names : ∀ rp ∈ s.game.host.roomPlayers, P rp.name
  relays : ∀ relay ∈ s.game.host.relayed, relay.message.Fit P
  inbox : ∀ c, ∀ message ∈ (s.client c).inbox, message.Fit P
  host : ∀ entry ∈ s.game.history, entry.Fit P
  clients : ∀ c, ∀ entry ∈ (s.client c).history, entry.Fit P

/-- The name a packet brings into the room, if it brings a player in. -/
def newName (config : HostConfig) (roomPlayers : List RoomPlayerInfo) : Packet → Option Bytes
  | .lobbyJoin senderId playerName _ =>
      if roomPlayers.any (·.id == senderId) ∨
          config.lobbyTeamSize.toNat * 2 ≤ roomPlayers.length then none
      else some playerName
  | _ => none

/-- The name that a step brings into the room. -/
def ScreenAction.newName (config : HostConfig) (s : Screens) : ScreenAction → Option Bytes
  | .host _ (.host .process) =>
      s.game.host.batch.head?.bind fun queued =>
        Lobby.newName config s.game.host.roomPlayers queued.packet
  | _ => none

/-- **The condition**: a player that the step brings into the room has a
printable name. -/
def BringsPrintable (config : HostConfig) (s : Screens) (a : ScreenAction) : Prop :=
  ∀ name ∈ a.newName config s, Printable name

instance (config : HostConfig) (s : Screens) (a : ScreenAction) :
    Decidable (BringsPrintable config s a) :=
  inferInstanceAs (Decidable (∀ name ∈ _, _))

variable {config : HostConfig} {env : Env} {s t : Host} {g g' : Game} {P : Bytes → Prop}

/-! ## The names of the room -/

/-- Only a join brings a name into the room. -/
theorem name_of_mem_roomAfter {roomPlayers : List RoomPlayerInfo} {packet : Packet}
    {rp : RoomPlayerInfo} (h : rp ∈ roomAfter config roomPlayers packet) :
    (∃ old ∈ roomPlayers, old.name = rp.name) ∨
      ∃ name ∈ newName config roomPlayers packet, rp.name = uniqueName roomPlayers name := by
  rcases roomAfter_cases h with
    ⟨old, hold, -, hname⟩ | ⟨playerName, password, rfl, hjoins, hname⟩
  · exact .inl ⟨old, hold, hname⟩
  · exact .inr ⟨playerName, if_neg hjoins, hname⟩

/-- A step of the host keeps the names of the room of a kind. -/
theorem step_names {a : Env × HostAction} (hstep : step config s a = some t)
    (hnew : a.2 = .process → ∀ queued ∈ s.batch.head?,
      ∀ name ∈ newName config s.roomPlayers queued.packet, P (uniqueName s.roomPlayers name))
    (h : ∀ rp ∈ s.roomPlayers, P rp.name) : ∀ rp ∈ t.roomPlayers, P rp.name := by
  intro rp hrp
  cases step_effect hstep with
  | processed queued rest action batch waiting room started =>
      rw [room] at hrp
      rcases name_of_mem_roomAfter hrp with ⟨old, hold, hname⟩ | ⟨name, hname, hunique⟩
      · exact hname ▸ h old hold
      · rw [hunique]
        exact hnew action queued (by rw [batch]; rfl) name hname
  | kicked playerId action waiting room started =>
      rw [room] at hrp
      exact h rp (List.mem_filter.mp hrp).1
  | arrived quiet waiting room started =>
      rw [room] at hrp
      exact h rp hrp

/-! ## Relays and history -/

/-- **What a step of the host relays**: at most the chat message it takes off
the queue, if it passes every check. -/
theorem step_relayed {a : Env × HostAction} (h : step config s a = some t) :
    t.relayed = s.relayed ∨ ∃ message origin rest,
      s.batch = ⟨.chatMessage message, origin⟩ :: rest ∧ Accepted a.1 s message ∧
        t.relayed = s.relayed ++
          [⟨origin, message.passedOn s.roomPlayers, relayChat s message⟩] := by
  by_cases hprocess : a.2 = .process
  · obtain ⟨env, action⟩ := a
    obtain rfl : action = .process := hprocess
    obtain ⟨⟨packet, origin⟩, rest, hbatch, rfl⟩ := process_performed h
    by_cases hpacket : ∃ message, packet = .chatMessage message
    · obtain ⟨message, rfl⟩ := hpacket
      have hcongr : Accepted env { s with synced := false, batch := rest } message ↔
          Accepted env s message := accepted_congr rfl rfl
      have hrelayed := @receiveChat_relayed env { s with synced := false, batch := rest }
        origin message
      by_cases haccepted : Accepted env s message
      · rw [if_pos (hcongr.mpr haccepted)] at hrelayed
        exact .inr ⟨message, origin, rest, hbatch, haccepted, hrelayed⟩
      · rw [if_neg (mt hcongr.mp haccepted), List.append_nil] at hrelayed
        exact .inl hrelayed
    · exact .inl (onPacketReceived_relayed fun message hchat => hpacket ⟨message, hchat⟩)
  · exact .inl (step_chat hprocess h).2

/-- A message that the host relays in a step is fit, if the names of the room
are. -/
theorem fit_of_newRelays {a : Env × HostAction} (hstep : step config s a = some t)
    (hnames : ∀ rp ∈ s.roomPlayers, P rp.name) {relay : Relay}
    (hrelay : relay ∈ newRelays s t) : relay.message.Fit P := by
  rcases step_relayed hstep with hsame | ⟨message, origin, rest, -, haccepted, hrelayed⟩
  · rw [newRelays, hsame, List.drop_length] at hrelay
    cases hrelay
  · rw [newRelays, hrelayed, List.drop_left] at hrelay
    rw [List.mem_singleton.mp hrelay]
    refine ⟨sanitizeText_fit haccepted.1, ?_⟩
    obtain ⟨rp, hrp, hid⟩ := List.any_eq_true.mp haccepted.2.1
    cases hsender : s.roomPlayers.find? (·.id == message.senderId) with
    | none => exact absurd hid (List.find?_eq_none.mp hsender rp hrp)
    | some sender =>
        show P (((s.roomPlayers.find? (·.id == message.senderId)).map (·.name)).getD [])
        rw [hsender]
        exact hnames sender (List.mem_of_find?_eq_some hsender)

theorem relayed_append_newRelays {a : Env × HostAction} (hstep : step config s a = some t) :
    t.relayed = s.relayed ++ newRelays s t := by
  rcases step_relayed hstep with hsame | ⟨message, origin, rest, -, -, hrelayed⟩
  · rw [newRelays, hsame, List.drop_length, List.append_nil]
  · rw [newRelays, hrelayed, List.drop_left]

/-- What is in the history after a message was in it before, or is that
message. -/
theorem mem_receive {muted : List UInt32} {history : List ChatEntry} {message : ChatMessage}
    {entry : ChatEntry} (h : entry ∈ receive muted history message) :
    entry ∈ history ∨ entry = message.shown := by
  unfold receive at h
  split_ifs at h
  · exact .inl h
  · have hmem := List.mem_of_mem_drop h
    rcases List.mem_append.mp hmem with hold | hnew
    · exact .inl hold
    · exact .inr (List.mem_singleton.mp hnew)

theorem mem_foldl_receive {muted : List UInt32} {messages : List ChatMessage}
    {history : List ChatEntry} {entry : ChatEntry}
    (h : entry ∈ messages.foldl (receive muted) history) :
    entry ∈ history ∨ ∃ message ∈ messages, entry = message.shown := by
  induction messages generalizing history with
  | nil => exact .inl h
  | cons message rest ih =>
      rcases ih h with hfirst | ⟨later, hlater, heq⟩
      · rcases mem_receive hfirst with hold | heq
        · exact .inl hold
        · exact .inr ⟨message, List.mem_cons_self, heq⟩
      · exact .inr ⟨later, List.mem_cons_of_mem _ hlater, heq⟩

/-- An entry of the host's history was there before, or is a message that the
step relays. -/
theorem mem_gameStep_history {a : Env × GameAction} (hstep : gameStep config g a = some g')
    {entry : ChatEntry} (h : entry ∈ g'.history) :
    entry ∈ g.history ∨
      ∃ relay ∈ newRelays g.host g'.host, entry = relay.message.shown := by
  rcases gameStep_host hstep with ⟨action, haction, hhost, hg'⟩ | ⟨hother, -⟩
  · have hsame : (handOn config g g'.host action).history = g.history → entry ∈ g.history := by
      intro hhistory
      rw [← hhistory, ← hg']
      exact h
    cases action with
    | process =>
        obtain ⟨queued, rest, hbatch, -⟩ := process_performed hhost
        rw [hg', (handOn_process hbatch hhost).2] at h
        rcases mem_foldl_receive h with hold | ⟨message, hmessage, heq⟩
        · exact .inl hold
        · obtain ⟨relay, hrelay, rfl⟩ := List.mem_map.mp (List.mem_filter.mp hmessage).1
          exact .inr ⟨relay, hrelay, heq⟩
    | kick playerId =>
        refine .inl (hsame ?_)
        unfold handOn kicked
        dsimp only
        split_ifs <;> rfl
    | _ => exact .inl (hsame rfl)
  · obtain ⟨env, action⟩ := a
    refine .inl ?_
    cases action with
    | host action => exact absurd rfl (hother action)
    | _ =>
        cases hstep
        exact h

/-- A client filters what was filtered, so a fit message stays as it is. -/
theorem mem_clientChat {muted : List UInt32} {history : List ChatEntry} {message : ChatMessage}
    (hfit : message.Fit P) {entry : ChatEntry} (h : entry ∈ clientChat muted history message) :
    entry ∈ history ∨ entry = message.shown := by
  unfold clientChat at h
  rw [sanitizeText_of_fit hfit.1] at h
  dsimp only at h
  split_ifs at h
  · exact .inl h
  · exact mem_receive h

theorem mem_sentTo {c : ConnectionId} {relays : List Relay} {message : ChatMessage}
    (h : message ∈ sentTo c relays) : ∃ relay ∈ relays, relay.message = message := by
  obtain ⟨relay, hrelay, hmem⟩ := List.mem_flatMap.mp h
  obtain ⟨-, -, heq⟩ := List.mem_map.mp hmem
  exact ⟨relay, hrelay, heq⟩

/-! ## Runs -/

/-- A change to one client leaves the others alone. -/
theorem Screens.Fit.update {s : Screens} (h : s.Fit P) {c : ConnectionId} {screen : Screen}
    (hinbox : ∀ message ∈ screen.inbox, message.Fit P)
    (hhistory : ∀ entry ∈ screen.history, entry.Fit P) :
    ({ s with client := Function.update s.client c screen } : Screens).Fit P where
  names := h.names
  relays := h.relays
  host := h.host
  inbox := (Function.forall_update_iff s.client
    (p := fun _ screen => ∀ message ∈ screen.inbox, message.Fit P)).mpr
      ⟨hinbox, fun d _ => h.inbox d⟩
  clients := (Function.forall_update_iff s.client
    (p := fun _ screen => ∀ entry ∈ screen.history, entry.Fit P)).mpr
      ⟨hhistory, fun d _ => h.clients d⟩

/-- **A step of the host** relays and shows fit messages only. -/
theorem Screens.Fit.host_step {s : Screens} (h : s.Fit P) {a : Env × GameAction}
    (hstep : gameStep config s.game a = some g')
    (hnew : ∀ name ∈ (ScreenAction.host a.1 a.2).newName config s,
      P (uniqueName s.game.host.roomPlayers name)) :
    ({ game := g'
       client := fun c => { s.client c with
        inbox := (s.client c).inbox ++ sentTo c (newRelays s.game.host g'.host) } } :
      Screens).Fit P := by
  have hrelays : ∀ relay ∈ newRelays s.game.host g'.host, relay.message.Fit P := by
    intro relay hrelay
    rcases gameStep_host hstep with ⟨action, -, hhost, -⟩ | ⟨-, hsame⟩
    · exact fit_of_newRelays hhost h.names hrelay
    · rw [hsame, newRelays, List.drop_length] at hrelay
      cases hrelay
  refine ⟨?_, ?_, ?_, ?_, h.clients⟩
  · rcases gameStep_host hstep with ⟨action, haction, hhost, -⟩ | ⟨-, hsame⟩
    · refine step_names hhost (fun hprocess queued hqueued name hname => hnew name ?_) h.names
      obtain rfl : action = .process := hprocess
      rw [haction]
      exact Option.mem_bind_iff.mpr ⟨queued, hqueued, hname⟩
    · dsimp only
      rw [hsame]
      exact h.names
  · rcases gameStep_host hstep with ⟨action, haction, hhost, -⟩ | ⟨-, hsame⟩
    · dsimp only
      rw [relayed_append_newRelays hhost]
      exact List.forall_mem_append.mpr ⟨h.relays, hrelays⟩
    · dsimp only
      rw [hsame]
      exact h.relays
  · intro c
    refine List.forall_mem_append.mpr ⟨h.inbox c, fun message hmessage => ?_⟩
    obtain ⟨relay, hrelay, rfl⟩ := mem_sentTo hmessage
    exact hrelays relay hrelay
  · intro entry hentry
    rcases mem_gameStep_history hstep hentry with hold | ⟨relay, hrelay, rfl⟩
    · exact h.host entry hold
    · exact hrelays relay hrelay

/-- **One step keeps every screen fit**, if the name it brings into the room
is. -/
theorem Screens.Fit.step {s t : Screens} (h : s.Fit P) {a : ScreenAction}
    (hstep : screenStep config s a = some t)
    (hnew : ∀ name ∈ a.newName config s, P (uniqueName s.game.host.roomPlayers name)) :
    t.Fit P := by
  cases a with
  | host env action =>
      obtain ⟨game, hgame, rfl⟩ := Option.map_eq_some_iff.mp hstep
      exact h.host_step hgame hnew
  | read c =>
      obtain ⟨screen, hread, rfl⟩ := Option.map_eq_some_iff.mp hstep
      unfold Screen.read at hread
      split at hread
      · cases hread
      · rename_i message rest hinbox
        cases hread
        have hfit : ∀ later ∈ message :: rest, later.Fit P := hinbox ▸ h.inbox c
        have hfirst := hfit message List.mem_cons_self
        refine h.update (fun later hlater => hfit later (List.mem_cons_of_mem _ hlater)) ?_
        intro entry hentry
        rcases mem_clientChat hfirst hentry with hold | rfl
        · exact h.clients c entry hold
        · exact hfirst
  | mute c playerId muted =>
      cases hstep
      exact h.update (h.inbox c) (h.clients c)

theorem startScreens_fit (P : Bytes → Prop) (config : HostConfig) (env : Env) :
    (startScreens config env).Fit P := by
  have hroom : (start config env).roomPlayers = [] := by
    unfold start
    split_ifs <;> rfl
  have hrelayed : (start config env).relayed = [] := by
    unfold start
    split_ifs <;> rfl
  refine ⟨?_, ?_, ?_, ?_, ?_⟩
  · intro rp hrp
    rw [show (startScreens config env).game.host.roomPlayers = [] from hroom] at hrp
    cases hrp
  · intro relay hrelay
    rw [show (startScreens config env).game.host.relayed = [] from hrelayed] at hrelay
    cases hrelay
  · intro c message hmessage
    cases hmessage
  · intro entry hentry
    cases hentry
  · intro c entry hentry
    cases hentry

/-- **What reaches a screen.**  In every run, the text of every entry on the
host's screen and on every client's is one to `maxTextLength` printable
characters, and filtering a relayed message again changes nothing.  If every
player brought into the room had a printable name, so has every entry. -/
theorem screens_printable {s : Screens} {actions : List ScreenAction}
    (h : Exec.exec (screenStep config) (startScreens config env) actions = some s) :
    (∀ entry, entry ∈ s.game.history ∨ (∃ c, entry ∈ (s.client c).history) →
        TextFit entry.text) ∧
      (∀ relay ∈ s.game.host.relayed,
        sanitizeText relay.message.text = relay.message.text) ∧
      (Exec.Along (screenStep config) (BringsPrintable config) (startScreens config env) actions →
        ∀ entry, entry ∈ s.game.history ∨ (∃ c, entry ∈ (s.client c).history) →
          Printable entry.senderName) := by
  have hfit : s.Fit fun _ => True :=
    Exec.Reached.invariant ⟨_, h⟩ (Screens.Fit fun _ => True) (startScreens_fit _ config env)
      fun s a t hs ht => hs.step ht fun _ _ => trivial
  refine ⟨?_, fun relay hrelay => sanitizeText_of_fit (hfit.relays relay hrelay).1, ?_⟩
  · rintro entry (hentry | ⟨c, hentry⟩)
    · exact (hfit.host entry hentry).1
    · exact (hfit.clients c entry hentry).1
  · intro halong
    have hprintable : s.Fit Printable :=
      Exec.ReachedAlong.invariant ⟨_, h, halong⟩ (Screens.Fit Printable)
        (startScreens_fit _ config env)
        fun s a t hs hbrings ht => hs.step ht fun name hname =>
          uniqueName_printable (hbrings name hname) _
    rintro entry (hentry | ⟨c, hentry⟩)
    · exact (hprintable.host entry hentry).2
    · exact (hprintable.clients c entry hentry).2

/-- A player named by a control character joins and writes. -/
def namedRun (name : Bytes) : List ScreenAction :=
  [.host {} (.host (.connect 11 true true)), .host {} (.host (.packet 11 (.lobbyJoin 5 name []))),
    .host {} (.host .beginUpdate), .host {} (.host .process),
    .host {} (.host (.packet 11 (.chatMessage { text := [104, 7, 105] }))),
    .host {} (.host .beginUpdate), .host {} (.host .process), .read 11]

/-- A printable name and its message reach the player's own screen. -/
theorem screens_printable_named :
    ∃ s, Exec.exec (screenStep { localNodeId := 100 }) (startScreens { localNodeId := 100 } {})
        (namedRun [65]) = some s ∧ (s.client 11).history = [⟨chatAll, 5, [65], [104, 105]⟩] ∧
      ∀ entry, entry ∈ s.game.history ∨ (∃ c, entry ∈ (s.client c).history) →
        Printable entry.senderName := by
  obtain ⟨s, hs, htest⟩ := @Exec.exec_any _ _ (screenStep { localNodeId := 100 })
    (startScreens { localNodeId := 100 } {}) (namedRun [65])
    (fun s => (s.client 11).history = [⟨chatAll, 5, [65], [104, 105]⟩]) (by decide +kernel)
  refine ⟨s, hs, of_decide_eq_true htest, (screens_printable hs).2.2 ?_⟩
  decide +kernel

/-- A name that is a control character reaches the screens of host and client. -/
theorem screens_unprintable :
    ¬ ∀ (config : HostConfig) (env : Env) (s : Screens) (actions : List ScreenAction),
      Exec.exec (screenStep config) (startScreens config env) actions = some s →
      ∀ entry, entry ∈ s.game.history ∨ (∃ c, entry ∈ (s.client c).history) →
        Printable entry.senderName := by
  intro hlaw
  obtain ⟨s, hs, htest⟩ := @Exec.exec_any _ _ (screenStep { localNodeId := 100 })
    (startScreens { localNodeId := 100 } {}) (namedRun [7])
    (fun s => (⟨chatAll, 5, [7], [104, 105]⟩ : ChatEntry) ∈ s.game.history ∧
      (⟨chatAll, 5, [7], [104, 105]⟩ : ChatEntry) ∈ (s.client 11).history) (by decide +kernel)
  have hprintable := hlaw _ _ s _ hs ⟨chatAll, 5, [7], [104, 105]⟩
    (.inl (of_decide_eq_true htest).1)
  exact absurd hprintable (by decide)

end Lobby
