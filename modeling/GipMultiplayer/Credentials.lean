import GipMultiplayer.Exec

/-!
# Saved credentials

The account side of `NetworkManager`.  Logging in and registering send a
request from a thread of its own and return; the reply is applied to
`sessionEmail`, `sessionToken`, the user name and the status as they are when it
arrives, and nothing in it says which request it answers.  A reply is applied in
two steps, `onAuthSuccess` and `setAuthResult`, and anything may come between.
The saved file is its plain text; encryption is left out.

* `Credentials` — the law: what is saved was issued for its email, and nothing
  comes back after a logout;
* `Alone` — the condition on each step;
* `credentials_belong` — the law in every run under the condition;
* `credentials_mixed` — a token is saved under another account's email.
-/

namespace Auth

/-- A `std::string`. -/
abbrev Bytes := List UInt8

/-- `AuthStatus`. -/
inductive AuthStatus
  | none
  | pending
  | success
  | fail
  deriving DecidableEq, Repr

/-- The packet a request sends: `gMasterUserLoginPacket`,
`gMasterUserTokenLoginPacket` or `gMasterUserRegisterPacket`. -/
inductive Kind
  | login
  | tokenLogin
  | register
  deriving DecidableEq, Repr

/-- A request in flight. -/
structure Request where
  id : Nat
  kind : Kind
  email : Bytes
  deriving DecidableEq, Repr

/-- A reply of the master; that to a registration has no user name. -/
structure Reply where
  success : Bool
  message : String := ""
  username : Bytes := []
  token : Bytes := []
  deriving DecidableEq, Repr

/-- The account side of `NetworkManager`.  `settling` has the replies whose
first half has been applied.  Written down for the laws: the pairs the master
has issued, the pairs saved, and whether a logout is the last thing the player
did. -/
structure Session where
  currentAuthStatus : AuthStatus := .none
  authMessageText : String := ""
  authUsername : Bytes := []
  sessionEmail : Bytes := []
  sessionToken : Bytes := []
  saved : Option Bytes := none
  nextId : Nat := 0
  inFlight : List Request := []
  settling : List (Request × Reply) := []
  issued : List (Bytes × Bytes) := []
  saves : List (Bytes × Bytes) := []
  loggedOut : Bool := false
  deriving DecidableEq, Repr

/-- `setAuthResult`. -/
def setAuthResult (s : Session) (status : AuthStatus) (message : String) (username : Bytes) :
    Session :=
  { s with
    authMessageText := message
    authUsername := if username ≠ [] then username else s.authUsername
    currentAuthStatus := status }

/-- `saveSession`. -/
def saveSession (s : Session) (email token : Bytes) : Session :=
  { s with saved := some (email ++ 10 :: token), saves := s.saves ++ [(email, token)] }

/-- `loadSession`: what stands before and after the first line break, if
neither is empty. -/
def loadSession (s : Session) : Option (Bytes × Bytes) :=
  match s.saved with
  | none => none
  | some payload =>
      let email := payload.takeWhile (· ≠ 10)
      let token := (payload.dropWhile (· ≠ 10)).drop 1
      if email = [] ∨ token = [] then none else some (email, token)

/-- `onAuthSuccess`. -/
def onAuthSuccess (s : Session) (username token : Bytes) : Session :=
  let s := { s with authUsername := if username ≠ [] then username else s.authUsername }
  if token = [] then s
  else
    let s := { s with sessionToken := token }
    if s.sessionEmail ≠ [] then saveSession s s.sessionEmail token else s

/-- `runAuthRequest`. -/
def runAuthRequest (s : Session) (pendingMessage : String) (kind : Kind) (email : Bytes) :
    Session :=
  let s := setAuthResult s .pending pendingMessage []
  { s with
    nextId := s.nextId + 1
    inFlight := s.inFlight ++ [⟨s.nextId, kind, email⟩]
    loggedOut := false }

/-- `loginUser`. -/
def loginUser (s : Session) (email : Bytes) : Session :=
  runAuthRequest { s with sessionEmail := email } "Logging in..." .login email

/-- `loginWithToken`. -/
def loginWithToken (s : Session) (email token : Bytes) : Session :=
  runAuthRequest { s with sessionEmail := email, sessionToken := token } "Logging in..."
    .tokenLogin email

/-- `registerUser`. -/
def registerUser (s : Session) (username email : Bytes) : Session :=
  runAuthRequest { s with sessionEmail := email, authUsername := username } "Registering..."
    .register email

/-- `autoLogin`. -/
def autoLogin (s : Session) : Session :=
  match loadSession s with
  | some (email, token) => loginWithToken s email token
  | none => s

/-- `logoutUser`, with `clearSession` and `clearAuthStatus`. -/
def logoutUser (s : Session) : Session :=
  setAuthResult
    { s with
      authUsername := []
      sessionEmail := []
      sessionToken := []
      saved := none
      loggedOut := true }
    .none "" []

/-- The first half of a reply: `onAuthSuccess`, where the handler calls it. -/
def answer (s : Session) (request : Request) (reply : Reply) : Session :=
  let s := { s with
    inFlight := s.inFlight.erase request
    settling := s.settling ++ [(request, reply)] }
  if reply.success then
    match request.kind with
    | .login | .tokenLogin => onAuthSuccess s reply.username reply.token
    | .register => if reply.token ≠ [] then onAuthSuccess s [] reply.token else s
  else s

/-- The master's side of a reply: a token it issues is issued for the email of
the request. -/
def issue (s : Session) (request : Request) (reply : Reply) : Session :=
  if reply.success ∧ reply.token ≠ [] then
    { s with issued := s.issued ++ [(request.email, reply.token)] }
  else s

/-- The second half of a reply: `setAuthResult`. -/
def settle (s : Session) (request : Request) (reply : Reply) : Session :=
  let s := { s with settling := s.settling.erase (request, reply) }
  if reply.success then
    setAuthResult s .success reply.message
      (match request.kind with
        | .login | .tokenLogin => reply.username
        | .register => [])
  else setAuthResult s .fail reply.message []

/-- What happens: a call of the game, a reply in its two halves, a connection
that fails, a request given up after fifteen seconds, or one whose connection is
closed. -/
inductive Action
  | loginUser (email : Bytes)
  | loginWithToken (email token : Bytes)
  | registerUser (username email : Bytes)
  | autoLogin
  | logoutUser
  | clearAuthStatus
  | answer (request : Request) (reply : Reply)
  | settle (request : Request) (reply : Reply)
  | connectionFailed (request : Request)
  | timeout (request : Request)
  | closed (request : Request)
  deriving DecidableEq, Repr

/-- One step. -/
def step (s : Session) : Action → Option Session
  | .loginUser email => some (loginUser s email)
  | .loginWithToken email token => some (loginWithToken s email token)
  | .registerUser username email => some (registerUser s username email)
  | .autoLogin => some (autoLogin s)
  | .logoutUser => some (logoutUser s)
  | .clearAuthStatus => some (setAuthResult s .none "" [])
  | .answer request reply =>
      if request ∈ s.inFlight then some (answer (issue s request reply) request reply) else none
  | .settle request reply =>
      if (request, reply) ∈ s.settling then some (settle s request reply) else none
  | .connectionFailed request =>
      if request ∈ s.inFlight then
        some (setAuthResult s .fail "Failed to connect to Master Server." [])
      else none
  | .timeout request =>
      if request ∈ s.inFlight then
        some (if s.currentAuthStatus = .pending then
          setAuthResult s .fail "Master Server did not respond." [] else s)
      else none
  | .closed request =>
      if request ∈ s.inFlight then some { s with inFlight := s.inFlight.erase request } else none

/-- The program as it starts, with what an earlier run has saved. -/
def start (saved : Option Bytes) : Session :=
  { saved := saved }

/-! ## The law -/

/-- **Saved credentials belong together and logout is final.** -/
structure Credentials (s : Session) : Prop where
  saves : ∀ pair ∈ s.saves, pair ∈ s.issued
  final : s.loggedOut = true →
    s.currentAuthStatus ≠ .success ∧ s.authUsername = [] ∧ s.saved = none

/-- Every request whose reply is still to come, or to be applied. -/
def Session.open (s : Session) : List Request :=
  s.inFlight ++ s.settling.map (·.1)

/-- **The condition of the law**: a request is started while others are open
only for the same email, and no request is open at a logout. -/
def Alone (s : Session) : Action → Prop
  | .loginUser email | .loginWithToken email _ | .registerUser _ email =>
      ∀ request ∈ s.open, request.email = email
  | .autoLogin => ∀ pair ∈ loadSession s, ∀ request ∈ s.open, request.email = pair.1
  | .logoutUser => s.open = []
  | _ => True

instance (s : Session) : (a : Action) → Decidable (Alone s a)
  | .loginUser _ | .loginWithToken _ _ | .registerUser _ _ =>
      inferInstanceAs (Decidable (∀ request ∈ s.open, _))
  | .autoLogin => inferInstanceAs (Decidable (∀ pair ∈ loadSession s, ∀ request ∈ s.open, _))
  | .logoutUser => inferInstanceAs (Decidable (_ = _))
  | .clearAuthStatus | .answer _ _ | .settle _ _ | .connectionFailed _ | .timeout _
  | .closed _ => .isTrue trivial

/-! ## The invariant -/

/-- **The invariant**: what was saved was issued, every open request is for the
current email, and after a logout nothing is open and nothing is left. -/
structure Inv (s : Session) : Prop where
  saves : ∀ pair ∈ s.saves, pair ∈ s.issued
  email : ∀ request ∈ s.open, request.email = s.sessionEmail
  closed : s.loggedOut = true → s.open = []
  final : s.loggedOut = true →
    s.currentAuthStatus ≠ .success ∧ s.authUsername = [] ∧ s.saved = none

variable {s t : Session}

theorem Inv.credentials (h : Inv s) : Credentials s :=
  ⟨h.saves, h.final⟩

theorem mem_open {request : Request} :
    request ∈ s.open ↔ request ∈ s.inFlight ∨ ∃ reply, (request, reply) ∈ s.settling := by
  simp [Session.open]

/-- Results without a name, other than success, leave a logout final. -/
theorem Inv.setAuthResult (h : Inv s) {status : AuthStatus} (message : String)
    (hstatus : status ≠ .success) : Inv (setAuthResult s status message []) := by
  refine ⟨h.saves, h.email, h.closed, fun hout => ⟨hstatus, ?_⟩⟩
  exact (h.final hout).2

/-- A request is started for an email that every open request has. -/
theorem Inv.runAuthRequest (h : Inv s) (message : String) (kind : Kind) {email : Bytes}
    (token username : Bytes) (halone : ∀ request ∈ s.open, request.email = email) :
    Inv (runAuthRequest
      { s with sessionEmail := email, sessionToken := token, authUsername := username }
      message kind email) := by
  refine ⟨h.saves, fun request hrequest => ?_, fun hout => (by cases hout),
    fun hout => by cases hout⟩
  rcases mem_open.mp hrequest with hflight | ⟨reply, hreply⟩
  · rcases List.mem_append.mp hflight with hold | hnew
    · exact halone request (mem_open.mpr (.inl hold))
    · rw [List.mem_singleton.mp hnew]
      rfl
  · exact halone request (mem_open.mpr (.inr ⟨reply, hreply⟩))

/-- What `onAuthSuccess` does to the saved pairs, and what it leaves. -/
theorem onAuthSuccess_spec (username token : Bytes) :
    (∀ pair ∈ (onAuthSuccess s username token).saves,
        pair ∈ s.saves ∨ (pair = (s.sessionEmail, token) ∧ token ≠ [])) ∧
      (onAuthSuccess s username token).issued = s.issued ∧
      (onAuthSuccess s username token).open = s.open ∧
      (onAuthSuccess s username token).sessionEmail = s.sessionEmail ∧
      (onAuthSuccess s username token).loggedOut = s.loggedOut := by
  unfold onAuthSuccess
  dsimp only
  by_cases htoken : token = []
  · rw [if_pos htoken]
    exact ⟨fun pair hpair => .inl hpair, rfl, rfl, rfl, rfl⟩
  · rw [if_neg htoken]
    by_cases hemail : s.sessionEmail = []
    · rw [if_neg (not_not.mpr hemail)]
      exact ⟨fun pair hpair => .inl hpair, rfl, rfl, rfl, rfl⟩
    · rw [if_pos hemail]
      refine ⟨fun pair hpair => ?_, rfl, rfl, rfl, rfl⟩
      rcases List.mem_append.mp hpair with hold | hnew
      · exact .inl hold
      · exact .inr ⟨List.mem_singleton.mp hnew, htoken⟩

/-- What the first half of a reply does to the saved pairs, and what it leaves. -/
theorem answer_spec (request : Request) (reply : Reply) :
    (∀ pair ∈ (answer s request reply).saves, pair ∈ s.saves ∨
        (pair = (s.sessionEmail, reply.token) ∧ reply.success = true ∧ reply.token ≠ [])) ∧
      (answer s request reply).issued = s.issued ∧
      (answer s request reply).open =
        s.inFlight.erase request ++ (s.settling ++ [(request, reply)]).map (·.1) ∧
      (answer s request reply).sessionEmail = s.sessionEmail ∧
      (answer s request reply).loggedOut = s.loggedOut := by
  have hsaved := fun username => @onAuthSuccess_spec { s with
    inFlight := s.inFlight.erase request
    settling := s.settling ++ [(request, reply)] } username reply.token
  unfold answer
  dsimp only
  by_cases hsuccess : reply.success = true
  · rw [if_pos hsuccess]
    cases request.kind with
    | login =>
        obtain ⟨hsaves, hrest⟩ := hsaved reply.username
        exact ⟨fun pair hpair => (hsaves pair hpair).imp_right fun h => ⟨h.1, hsuccess, h.2⟩, hrest⟩
    | tokenLogin =>
        obtain ⟨hsaves, hrest⟩ := hsaved reply.username
        exact ⟨fun pair hpair => (hsaves pair hpair).imp_right fun h => ⟨h.1, hsuccess, h.2⟩, hrest⟩
    | register =>
        dsimp only
        by_cases htoken : reply.token = []
        · rw [if_neg (not_not.mpr htoken)]
          exact ⟨fun pair hpair => .inl hpair, rfl, rfl, rfl, rfl⟩
        · rw [if_pos htoken]
          obtain ⟨hsaves, hrest⟩ := hsaved []
          exact ⟨fun pair hpair => (hsaves pair hpair).imp_right fun h => ⟨h.1, hsuccess, h.2⟩,
            hrest⟩
  · rw [if_neg hsuccess]
    exact ⟨fun pair hpair => .inl hpair, rfl, rfl, rfl, rfl⟩

/-- The first half of a reply to a request for the current email. -/
theorem Inv.answer (h : Inv s) {request : Request} (reply : Reply)
    (hrequest : request ∈ s.inFlight) : Inv (answer (issue s request reply) request reply) := by
  have hopen : request ∈ s.open := mem_open.mpr (.inl hrequest)
  have hemail : request.email = s.sessionEmail := h.email request hopen
  have hnone : s.loggedOut ≠ true := by
    intro hout
    rw [h.closed hout] at hopen
    cases hopen
  have hissue : (issue s request reply).saves = s.saves ∧
      (issue s request reply).sessionEmail = s.sessionEmail ∧
      (issue s request reply).loggedOut = s.loggedOut ∧
      (issue s request reply).inFlight = s.inFlight ∧
      (issue s request reply).settling = s.settling := by
    unfold issue
    split_ifs <;> exact ⟨rfl, rfl, rfl, rfl, rfl⟩
  obtain ⟨hsaves, hsession, hlogged, hflight, hsettling⟩ := hissue
  obtain ⟨hnew, hissued, hopened, hsame, hout⟩ :=
    @answer_spec (issue s request reply) request reply
  have hout' : (Auth.answer (issue s request reply) request reply).loggedOut ≠ true := by
    rw [hout, hlogged]
    exact hnone
  refine ⟨fun pair hpair => ?_, fun other hother => ?_, fun htrue => absurd htrue hout',
    fun htrue => absurd htrue hout'⟩
  · rw [hissued]
    rcases hnew pair hpair with hold | ⟨rfl, hsuccess, htoken⟩
    · rw [hsaves] at hold
      unfold issue
      split_ifs
      · exact List.mem_append_left _ (h.saves pair hold)
      · exact h.saves pair hold
    · rw [hsession, ← hemail]
      unfold issue
      rw [if_pos ⟨hsuccess, htoken⟩]
      exact List.mem_append_right _ List.mem_cons_self
  · rw [hsame, hsession]
    rw [hopened, hflight, hsettling] at hother
    rcases List.mem_append.mp hother with hold | hhalf
    · exact h.email other (mem_open.mpr (.inl (List.mem_of_mem_erase hold)))
    · rw [List.map_append, List.map_singleton] at hhalf
      rcases List.mem_append.mp hhalf with hold | hlast
      · exact h.email other (List.mem_append_right _ hold)
      · rw [List.mem_singleton.mp hlast]
        exact hemail

/-- The second half of a reply. -/
theorem Inv.settle (h : Inv s) {request : Request} {reply : Reply}
    (hreply : (request, reply) ∈ s.settling) : Inv (settle s request reply) := by
  have hopen : request ∈ s.open := mem_open.mpr (.inr ⟨reply, hreply⟩)
  have hnone : s.loggedOut ≠ true := by
    intro hout
    rw [h.closed hout] at hopen
    cases hopen
  have hemail : ∀ other ∈ s.inFlight ++ (s.settling.erase (request, reply)).map (·.1),
      other.email = s.sessionEmail := by
    intro other hother
    refine h.email other ?_
    rcases List.mem_append.mp hother with hflight | hhalf
    · exact List.mem_append_left _ hflight
    · obtain ⟨half, hmem, rfl⟩ := List.mem_map.mp hhalf
      exact List.mem_append_right _ (List.mem_map_of_mem (List.mem_of_mem_erase hmem))
  unfold Auth.settle
  dsimp only
  split_ifs
  · exact ⟨h.saves, hemail, fun hout => absurd hout hnone, fun hout => absurd hout hnone⟩
  · exact ⟨h.saves, hemail, fun hout => absurd hout hnone, fun hout => absurd hout hnone⟩

/-- **What each step under the condition keeps.** -/
theorem Inv.step {a : Action} (h : Inv s) (halone : Alone s a) (hstep : step s a = some t) :
    Inv t := by
  unfold Auth.step at hstep
  cases a with
  | loginUser email =>
      cases hstep
      exact h.runAuthRequest _ _ s.sessionToken s.authUsername halone
  | loginWithToken email token =>
      cases hstep
      exact h.runAuthRequest _ _ token s.authUsername halone
  | registerUser username email =>
      cases hstep
      exact h.runAuthRequest _ _ s.sessionToken username halone
  | autoLogin =>
      cases hstep
      unfold autoLogin
      cases hload : loadSession s with
      | none => exact h
      | some pair => exact h.runAuthRequest _ _ pair.2 s.authUsername (halone pair hload)
  | logoutUser =>
      cases hstep
      have hnone : s.open = [] := halone
      refine ⟨h.saves, fun request hrequest => ?_, fun _ => hnone, fun _ => ?_⟩
      · have hopen : request ∈ s.open := hrequest
        rw [hnone] at hopen
        cases hopen
      · exact ⟨by simp [logoutUser, Auth.setAuthResult], rfl, rfl⟩
  | clearAuthStatus =>
      cases hstep
      exact h.setAuthResult _ (by simp)
  | answer request reply =>
      dsimp only at hstep
      split_ifs at hstep with hrequest
      cases hstep
      exact h.answer reply hrequest
  | settle request reply =>
      dsimp only at hstep
      split_ifs at hstep with hreply
      cases hstep
      exact h.settle hreply
  | connectionFailed request =>
      dsimp only at hstep
      split_ifs at hstep
      cases hstep
      exact h.setAuthResult _ (by simp)
  | timeout request =>
      dsimp only at hstep
      split_ifs at hstep
      · cases hstep
        exact h.setAuthResult _ (by simp)
      · cases hstep
        exact h
  | closed request =>
      dsimp only at hstep
      split_ifs at hstep with hrequest
      cases hstep
      refine ⟨h.saves, fun other hother => h.email other ?_, fun hout => ?_, h.final⟩
      · rcases mem_open.mp hother with hflight | hhalf
        · exact mem_open.mpr (.inl (List.mem_of_mem_erase hflight))
        · exact mem_open.mpr (.inr hhalf)
      · have hopen : request ∈ s.open := mem_open.mpr (.inl hrequest)
        rw [h.closed hout] at hopen
        cases hopen

/-! ## Runs -/

/-- **Saved credentials belong together and logout is final**, in every run
whose steps meet the condition. -/
theorem credentials_belong {saved : Option Bytes} {s : Session}
    (h : Exec.ReachedAlong step Alone (start saved) s) : Credentials s := by
  refine (h.invariant Inv ?_ fun s a t hinv halone hstep => hinv.step halone hstep).credentials
  refine ⟨fun pair hpair => (by cases hpair), fun request hrequest => (by cases hrequest),
    fun hout => (by cases hout), fun hout => by cases hout⟩

/-- A login, its reply, and a logout. -/
theorem credentials_belong_login :
    ∃ s : Session, Credentials s ∧ s.saves = [([1], [9])] ∧ s.loggedOut = true := by
  let run : List Action :=
    [.loginUser [1], .answer ⟨0, .login, [1]⟩ { success := true, username := [65], token := [9] },
      .settle ⟨0, .login, [1]⟩ { success := true, username := [65], token := [9] }, .logoutUser]
  obtain ⟨s, hs, hout⟩ : ∃ s, Exec.exec step (start none) run = some s ∧
      decide (s.saves = [([1], [9])] ∧ s.loggedOut = true) = true :=
    Exec.exec_any (by decide)
  exact ⟨s, credentials_belong ⟨run, hs, by decide⟩, of_decide_eq_true hout⟩

/-- **Credentials are mixed.**  The player logs in to one account and, before
the reply, to another; the token of the first is saved with the email of the
second. -/
theorem credentials_mixed :
    ¬ ∀ (saved : Option Bytes) (s : Session), Exec.Reached step (start saved) s →
      Credentials s := by
  let run : List Action :=
    [.loginUser [1], .loginUser [2],
      .answer ⟨0, .login, [1]⟩ { success := true, username := [65], token := [9] }]
  obtain ⟨s, hs, hout⟩ : ∃ s, Exec.exec step (start none) run = some s ∧
      decide (s.saves = [([2], [9])] ∧ s.issued = [([1], [9])]) = true :=
    Exec.exec_any (by decide)
  obtain ⟨hsaves, hissued⟩ := of_decide_eq_true hout
  intro hlaw
  have hpair := (hlaw none s ⟨run, hs⟩).saves ([2], [9]) (by rw [hsaves]; simp)
  rw [hissued] at hpair
  exact absurd hpair (by decide)

/-- A reply that comes after the logout logs the player in again. -/
example : ∃ s ∈ Exec.exec step (start none)
    [.loginUser [1], .logoutUser,
      .answer ⟨0, .login, [1]⟩ { success := true, username := [65], token := [9] },
      .settle ⟨0, .login, [1]⟩ { success := true, username := [65], token := [9] }],
    s.loggedOut = true ∧ s.currentAuthStatus = .success ∧ s.authUsername = [65] := by
  decide

end Auth
