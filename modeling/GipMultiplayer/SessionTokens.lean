import GipMultiplayer.MasterAccounts

/-!
# Session tokens

A run of the accounts starts from the schema that `setup` leaves, with no
accounts and no sessions.  The law of session tokens has two parts: a token
that was handed out, was not revoked and was used within thirty days opens the
account it was handed out for, and after a logout `SESSIONS` holds no row for
the token.

The code misses both.  The query of a token login and the deletion of a logout
name a column `token` that only an older `SESSIONS` table has, so on a fresh
database neither statement prepares; and the result of the insertion in
`CreateSessionForUser` is not looked at, so a token is handed out even when
its row was refused.  Nothing else goes wrong:

* `Inv` — which rows stand in `SESSIONS`, and for which tokens;
* `tokenLaw_iff` — one request keeps the law exactly when it does not run into
  one of the two defects;
* `session_tokens` — the same for whole runs.
-/

namespace Master

open Sql (Value Table Row Refusal)

/-! ## The law -/

/-- `SESSIONS` as an older version created it, with the plain token beside its
hash. -/
def olderSessions : Table SessionColumn where
  key := .id
  columns := sessionsSchema.columns ++ [{ name := .token }]

/-- `SESSIONS` of a fresh database or of an older one. -/
def sessionsTable (older : Bool) : Table SessionColumn :=
  if older then olderSessions else sessionsSchema

/-- The accounts as `setup` leaves them, with no account and no session. -/
def start (older : Bool) (clock : Nat) : Accounts where
  db := some (setup (clock / second : Nat)
    { sessions := if older then some olderSessions else none })
  clock := clock

/-- The row is one of the token's. -/
def RowFor (crypto : Crypto) (token : Bytes) (row : Row SessionColumn) : Prop :=
  row .tokenHash = .text (hashSessionToken crypto token) ∨ row .token = .text token

/-- A token login presents a token that was handed out for its address, was
not revoked and is unexpired. -/
def PresentsLive (s : Accounts) (p : UserTokenLogin) : Prop :=
  ∃ i ∈ s.issued, i.presentedBy p = true ∧ i.live s.now = true

/-- **The law of session tokens** for one request. -/
def TokenLaw (crypto : Crypto) (s : Accounts) (a : Env × Request) : Prop :=
  match a.2 with
  | .tokenLogin p => PresentsLive s p → (tokenLogin crypto s.now s.db p).1.success = true
  | .logout p => ∀ d ∈ logout crypto s.db p, ∀ row ∈ d.sessions.rows, ¬ RowFor crypto p.token row
  | _ => True

/-- The request avoids the two defects: `SESSIONS` has the column `token` when
a token is used or a token with a row is revoked, and the row of a token that
is used went into `SESSIONS`. -/
def AvoidsDefects (crypto : Crypto) (older : Bool) (s : Accounts) (a : Env × Request) : Prop :=
  match a.2 with
  | .tokenLogin p => PresentsLive s p →
      older = true ∧
        ∃ i ∈ s.issued, i.presentedBy p = true ∧ i.live s.now = true ∧ i.stored = true
  | .logout p =>
      (∃ d ∈ s.db, ∃ row ∈ d.sessions.rows, RowFor crypto p.token row) → older = true
  | _ => True

instance (crypto : Crypto) (token : Bytes) (row : Row SessionColumn) :
    Decidable (RowFor crypto token row) :=
  inferInstanceAs (Decidable (_ ∨ _))

instance (s : Accounts) (p : UserTokenLogin) : Decidable (PresentsLive s p) :=
  inferInstanceAs (Decidable (∃ i ∈ s.issued, _))

instance (crypto : Crypto) (s : Accounts) : (a : Env × Request) → Decidable (TokenLaw crypto s a)
  | (_, .tokenLogin p) => inferInstanceAs (Decidable (PresentsLive s p → _))
  | (_, .logout p) => inferInstanceAs (Decidable (∀ d ∈ logout crypto s.db p, _))
  | (_, .register _) | (_, .login _ _) | (_, .prune) | (_, .tick _) => .isTrue trivial

instance (crypto : Crypto) (older : Bool) (s : Accounts) :
    (a : Env × Request) → Decidable (AvoidsDefects crypto older s a)
  | (_, .tokenLogin p) => inferInstanceAs (Decidable (PresentsLive s p → _ ∧ ∃ i ∈ s.issued, _))
  | (_, .logout p) =>
      inferInstanceAs (Decidable ((∃ d ∈ s.db, ∃ row ∈ d.sessions.rows, RowFor crypto p.token row) → _))
  | (_, .register _) | (_, .login _ _) | (_, .prune) | (_, .tick _) => .isTrue trivial

/-- The tokens that a request draws or presents. -/
def tokens (a : Env × Request) : List Bytes :=
  hex a.1.token.val ::
    match a.2 with
    | .tokenLogin p => [p.token]
    | .logout p => [p.token]
    | _ => []

/-! ## The invariant -/

/-- The row of a token that was handed out. -/
def BelongsTo (crypto : Crypto) (row : Row SessionColumn) (i : Issued) : Prop :=
  row .userId = .integer i.userId ∧
    row .tokenHash = .text (hashSessionToken crypto i.token) ∧
    row .lastUsed = .integer i.lastUse

/-- What the two tables hold, given the tokens handed out.  `T` is a set of
tokens without a collision of their hashes that has every token of the run. -/
structure Inv (crypto : Crypto) (older : Bool) (T : Bytes → Prop) (now : Int) (d : Database)
    (issued : List Issued) : Prop where
  users : d.users.WellFormed
  usersKey : d.users.key = .id
  usersColumns : d.users.columns = usersSchema.columns
  sessions : d.sessions.WellFormed
  sessionsKey : d.sessions.key = .id
  sessionsColumns : d.sessions.columns = (sessionsTable older).columns
  owner : ∀ i ∈ issued, ∃ user ∈ d.users.rows,
    user .id = .integer i.userId ∧ lower (user .email) = .text i.email
  token : ∀ i ∈ issued, T i.token ∧ i.token ≠ []
  kept : ∀ i ∈ issued, i.stored = true → i.live now = true →
    ∃ row ∈ d.sessions.rows, BelongsTo crypto row i
  origin : ∀ row ∈ d.sessions.rows, row .token = .null ∧
    ∃ i : Issued, BelongsTo crypto row i ∧ T i.token ∧ i.token ≠ [] ∧
      (older = true → i ∈ issued ∧ i.stored = true)

/-- A token stays expired. -/
theorem Issued.live_mono {i : Issued} {now later : Int} (h : now ≤ later)
    (hlive : i.live later = true) : i.live now = true := by
  simp only [Issued.live, decide_eq_true_eq] at hlive ⊢
  omega

/-- A session unused for thirty days is one of an expired token. -/
theorem unused_iff {crypto : Crypto} {row : Row SessionColumn} {i : Issued}
    (h : BelongsTo crypto row i) (now : Int) :
    unused now (row .lastUsed) = !i.live now := by
  rw [h.2.2, Bool.eq_iff_iff]
  simp only [unused, Issued.live, decide_eq_true_eq, Bool.not_eq_true', decide_eq_false_iff_not]
  omega

/-- Every column but `token` is always there. -/
theorem mem_sessionsTable {older : Bool} {c : SessionColumn} :
    c ∈ (sessionsTable older).names ↔ c ≠ .token ∨ older = true := by
  cases older <;> cases c <;> simp [sessionsTable, olderSessions, sessionsSchema, Table.names]

namespace Inv

variable {crypto : Crypto} {older : Bool} {T : Bytes → Prop} {now : Int} {d : Database}
  {issued : List Issued}

/-- A statement on `SESSIONS` prepares unless it names the missing column. -/
theorem prepares (h : Inv crypto older T now d issued) (cs : List SessionColumn) :
    d.sessions.prepares cs = true ↔ ∀ c ∈ cs, c ≠ .token ∨ older = true := by
  rw [Table.prepares_iff]
  simp only [Table.names, h.sessionsColumns]
  exact forall₂_congr fun c _ => mem_sessionsTable

/-- Every statement on `USERS` prepares. -/
theorem usersPrepares (h : Inv crypto older T now d issued) (cs : List UserColumn) :
    d.users.prepares cs = true := by
  rw [Table.prepares_iff]
  simp only [Table.names, h.usersColumns]
  intro c _
  cases c <;> simp [usersSchema]

/-- The hash of a token is unique in `SESSIONS`. -/
theorem eq_of_hash (h : Inv crypto older T now d issued) {row other : Row SessionColumn}
    (hrow : row ∈ d.sessions.rows) (hother : other ∈ d.sessions.rows) {hash : Bytes}
    (hhash : row .tokenHash = .text hash) (hsame : other .tokenHash = .text hash) :
    row = other := by
  have hcolumn : ({ name := .tokenHash, unique := true } : Sql.Column SessionColumn)
      ∈ d.sessions.columns := by
    rw [h.sessionsColumns]
    cases older <;> simp [sessionsTable, olderSessions, sessionsSchema]
  refine h.sessions.eq_of_unique hcolumn rfl hrow hother ?_ (hhash.trans hsame.symm)
  show row .tokenHash ≠ .null
  rw [hhash]
  exact Value.noConfusion

/-- Users with one id are one user. -/
theorem eq_of_id (h : Inv crypto older T now d issued) {user other : Row UserColumn}
    (huser : user ∈ d.users.rows) (hother : other ∈ d.users.rows)
    (hid : user .id = other .id) : user = other :=
  h.users.eq_of_key huser hother (by rw [h.usersKey]; exact hid)

/-! ## Small steps -/

/-- Time passes. -/
theorem later (h : Inv crypto older T now d issued) {later : Int} (hle : now ≤ later) :
    Inv crypto older T later d issued :=
  { h with kept := fun i hi hstored hlive => h.kept i hi hstored (Issued.live_mono hle hlive) }

/-- Pruning deletes no row of an unexpired token. -/
theorem prune (h : Inv crypto older T now d issued) :
    Inv crypto older T now (pruneExpiredSessions now d) issued := by
  have hprepares : d.sessions.prepares [.lastUsed] = true := (h.prepares _).mpr (by simp)
  rw [pruneExpiredSessions, if_pos hprepares]
  exact
    { h with
      sessions := h.sessions.delete _
      kept := by
        intro i hi hstored hlive
        obtain ⟨row, hrow, hbelongs⟩ := h.kept i hi hstored hlive
        refine ⟨row, Table.mem_rows_delete.mpr ⟨hrow, ?_⟩, hbelongs⟩
        rw [unused_iff hbelongs, hlive]
        rfl
      origin := fun row hrow => h.origin row (Table.mem_rows_delete.mp hrow).1 }

/-- What pruning leaves has been used within thirty days. -/
theorem pruned (h : Inv crypto older T now d issued) :
    ∀ row ∈ (pruneExpiredSessions now d).sessions.rows, unused now (row .lastUsed) = false := by
  have hprepares : d.sessions.prepares [.lastUsed] = true := (h.prepares _).mpr (by simp)
  rw [pruneExpiredSessions, if_pos hprepares]
  exact fun row hrow => (Table.mem_rows_delete.mp hrow).2

/-- The accounts change, but no row of `USERS` loses its id or its address. -/
theorem withUsers (h : Inv crypto older T now d issued) {users : Table UserColumn}
    (hwf : users.WellFormed) (hkey : users.key = .id)
    (hcolumns : users.columns = usersSchema.columns)
    (hkept : ∀ user ∈ d.users.rows, ∃ user' ∈ users.rows,
      user' .id = user .id ∧ user' .email = user .email) :
    Inv crypto older T now { d with users := users } issued :=
  { h with
    users := hwf
    usersKey := hkey
    usersColumns := hcolumns
    owner := by
      intro i hi
      obtain ⟨user, huser, hid, hemail⟩ := h.owner i hi
      obtain ⟨user', huser', hid', hemail'⟩ := hkept user huser
      exact ⟨user', huser', hid'.trans hid, by rw [hemail', hemail]⟩ }

/-- The upgrade of a password loses no id and no address. -/
theorem upgrade_kept (h : Inv crypto older T now d issued) (env : Env) (userId : Int)
    (password : Bytes) :
    ∀ user ∈ d.users.rows, ∃ user' ∈ (upgrade crypto env d userId password).users.rows,
      user' .id = user .id ∧ user' .email = user .email := by
  intro user huser
  unfold upgrade
  rw [if_pos (h.usersPrepares _)]
  dsimp only
  rw [Table.rows_update h.users]
  · refine ⟨_, List.mem_map_of_mem huser, ?_, ?_⟩
    · split
      · exact Row.assign_of_notMem (by simp) user
      · rfl
    · split
      · exact Row.assign_of_notMem (by simp) user
      · rfl
  · intro c hc hunique row _ _
    refine Row.assign_of_notMem ?_ row
    rw [h.usersColumns] at hc
    simp only [usersSchema, List.mem_cons, List.not_mem_nil, or_false] at hc
    rcases hc with rfl | rfl | rfl | rfl | rfl | rfl | rfl <;> simp_all

/-- The upgrade of a password keeps the invariant. -/
theorem upgrade (h : Inv crypto older T now d issued) (env : Env) (userId : Int)
    (password : Bytes) : Inv crypto older T now (upgrade crypto env d userId password) issued := by
  have hkept := h.upgrade_kept env userId password
  unfold Master.upgrade at hkept ⊢
  rw [if_pos (h.usersPrepares _)] at hkept ⊢
  obtain ⟨hcolumns, hkey, -⟩ := d.users.update_frame
    [ (.password, bindText (hashPasswordPBKDF2 crypto password (hex env.salt.val))),
      (.salt, bindText (hex env.salt.val)), (.algo, .text pbkdf2) ]
    fun row => sqlEq (row .id) (.integer userId)
  exact h.withUsers (h.users.update (by simp [h.usersKey]) _) (hkey.trans h.usersKey)
    (hcolumns.trans h.usersColumns) hkept

/-- The row that `CreateSessionForUser` inserts. -/
theorem newRow_belongs (h : Inv crypto older T now d issued) (i : Issued)
    (hlastUse : i.lastUse = now) :
    BelongsTo crypto (d.sessions.newRow now
      [(.userId, .integer i.userId), (.tokenHash, bindText (hashSessionToken crypto i.token))]) i ∧
    d.sessions.newRow now
      [(.userId, .integer i.userId), (.tokenHash, bindText (hashSessionToken crypto i.token))]
      .token = .null := by
  cases older <;>
    simp [BelongsTo, Table.newRow, h.sessionsKey, h.sessionsColumns, sessionsTable, olderSessions,
      sessionsSchema, Row.assign, Function.update, Sql.Default.eval, bindText, hashSessionToken,
      hlastUse]

/-- One more token is handed out; its row, when it was stored, is the only new
row. -/
theorem extend (h : Inv crypto older T now d issued) {i : Issued} {sessions : Table SessionColumn}
    (hT : T i.token) (hne : i.token ≠ [])
    (howner : ∃ user ∈ d.users.rows, user .id = .integer i.userId ∧ lower (user .email) = .text i.email)
    (hwf : sessions.WellFormed) (hkey : sessions.key = .id)
    (hcolumns : sessions.columns = (sessionsTable older).columns)
    (hrows : ∀ row ∈ d.sessions.rows, row ∈ sessions.rows)
    (hstored : i.stored = true → ∃ row ∈ sessions.rows, BelongsTo crypto row i)
    (hnew : ∀ row ∈ sessions.rows, row ∈ d.sessions.rows ∨
      i.stored = true ∧ BelongsTo crypto row i ∧ row .token = .null) :
    Inv crypto older T now { d with sessions := sessions } (issued ++ [i]) := by
  refine
    { h with
      sessions := hwf
      sessionsKey := hkey
      sessionsColumns := hcolumns
      owner := fun j hj => ?_
      token := fun j hj => ?_
      kept := fun j hj hjstored hlive => ?_
      origin := fun row hrow => ?_ }
  · rcases List.mem_append.mp hj with hj | hj
    · exact h.owner j hj
    · obtain rfl := List.mem_singleton.mp hj
      exact howner
  · rcases List.mem_append.mp hj with hj | hj
    · exact h.token j hj
    · obtain rfl := List.mem_singleton.mp hj
      exact ⟨hT, hne⟩
  · rcases List.mem_append.mp hj with hj | hj
    · obtain ⟨row, hrow, hbelongs⟩ := h.kept j hj hjstored hlive
      exact ⟨row, hrows row hrow, hbelongs⟩
    · obtain rfl := List.mem_singleton.mp hj
      exact hstored hjstored
  · rcases hnew row hrow with hold | ⟨hi, hbelongs, hnull⟩
    · obtain ⟨hnull, j, hbelongs, hTj, hj, hmem⟩ := h.origin row hold
      exact ⟨hnull, j, hbelongs, hTj, hj, fun ho =>
        ⟨List.mem_append_left _ (hmem ho).1, (hmem ho).2⟩⟩
    · exact ⟨hnull, i, hbelongs, hT, hne, fun _ => ⟨by simp, hi⟩⟩

/-- A new session belongs to the token that is handed out with it. -/
theorem create (h : Inv crypto older T now d issued) {env : Env} {userId : Int} {email : Bytes}
    (hT : T (hex env.token.val)) (hne : hex env.token.val ≠ [])
    (howner : ∃ user ∈ d.users.rows,
      user .id = .integer userId ∧ lower (user .email) = bindText email) :
    Inv crypto older T now (createSessionForUser crypto env now d userId).db
      (issued ++ (createSessionForUser crypto env now d userId).issue now userId email) := by
  rcases createSessionForUser_cases crypto env now d userId with
    ⟨hdb, hstored, htoken⟩ | ⟨id, sessions, hinsert, hcreated⟩
  · rw [hdb]
    simp only [List.mem_cons, List.not_mem_nil, or_false] at htoken
    rcases htoken with htoken | htoken
    · simpa [Created.issue, htoken] using h
    · simp only [Created.issue, htoken, hstored, List.isEmpty_iff, if_neg hne]
      exact h.extend hT hne howner h.sessions h.sessionsKey h.sessionsColumns (fun _ => id)
        (fun hs => by cases hs) fun row hrow => Or.inl hrow
  · rw [hcreated]
    have hwf := h.sessions.insert hinsert
    obtain ⟨-, -, rfl⟩ := Table.insert_ok hinsert
    obtain ⟨hbelongs, hnull⟩ := h.newRow_belongs
      { userId := userId, email := cString email, token := hex env.token.val, lastUse := now,
        stored := true } rfl
    simp only [Created.issue, List.isEmpty_iff, if_neg hne]
    refine h.extend hT hne howner hwf h.sessionsKey h.sessionsColumns
      (fun row hrow => List.mem_append_left _ hrow)
      (fun _ => ⟨_, List.mem_append_right _ (List.mem_singleton_self _), hbelongs⟩) ?_
    intro row hrow
    rcases List.mem_append.mp hrow with hold | hnew
    · exact Or.inl hold
    · obtain rfl := List.mem_singleton.mp hnew
      exact Or.inr ⟨rfl, hbelongs, hnull⟩

/-! ## A token login -/

/-- The session and the user that a token login finds. -/
structure Finds (crypto : Crypto) (d : Database) (p : UserTokenLogin)
    (session : Row SessionColumn) (user : Row UserColumn) : Prop where
  session_mem : session ∈ d.sessions.rows
  user_mem : user ∈ d.users.rows
  userId : session .userId = user .id
  email : lower (user .email) = bindText (toLower p.email)
  hash : session .tokenHash = .text (hashSessionToken crypto p.token)

/-- Without plain tokens in `SESSIONS`, a session is found by its hash. -/
theorem finds (h : Inv crypto older T now d issued) {p : UserTokenLogin}
    {session : Row SessionColumn} {user : Row UserColumn}
    (hfound : findSession crypto d p = some (session, user)) : Finds crypto d p session user := by
  obtain ⟨hsession, huser, hmatch⟩ := Table.selectJoin_some hfound
  have hnull : session .token = .null := (h.origin session hsession).1
  simp only [Bool.and_eq_true, Bool.or_eq_true, sqlEq_iff, hnull] at hmatch
  obtain ⟨⟨⟨-, hid⟩, -, hemail⟩, ⟨-, hhash⟩ | ⟨hne, -⟩⟩ := hmatch
  · exact ⟨hsession, huser, hid, hemail, by simpa [bindText, hashSessionToken] using hhash⟩
  · exact absurd rfl hne

variable {p : UserTokenLogin} {session : Row SessionColumn} {user : Row UserColumn}

/-- The token that a found session belongs to is the one presented. -/
theorem presentedBy_iff (h : Inv crypto older T now d issued)
    (hinj : ∀ t t', T t → T t' → hashSessionToken crypto t = hashSessionToken crypto t' → t = t')
    (hT : T p.token) (hemail : p.email ≠ []) (hfinds : Finds crypto d p session user)
    {i : Issued} (hi : i ∈ issued) {row : Row SessionColumn} (hrow : row ∈ d.sessions.rows)
    (hbelongs : BelongsTo crypto row i) : i.presentedBy p = true ↔ row = session := by
  simp only [Issued.presentedBy, Bool.and_eq_true, decide_eq_true_eq, Bool.not_eq_true',
    List.isEmpty_eq_false_iff]
  constructor
  · rintro ⟨-, htoken⟩
    exact h.eq_of_hash hrow hfinds.session_mem hbelongs.2.1 (htoken ▸ hfinds.hash)
  · rintro rfl
    obtain ⟨owner, howner, hid, hlower⟩ := h.owner i hi
    have hsame : owner = user :=
      h.eq_of_id howner hfinds.user_mem (hid.trans (hbelongs.1.symm.trans hfinds.userId))
    have hhash := hbelongs.2.1.symm.trans hfinds.hash
    refine ⟨⟨hemail, ?_⟩, ?_⟩
    · have hemails := hfinds.email.symm.trans (hsame ▸ hlower)
      exact Value.text.inj hemails
    · exact (hinj _ _ (h.token i hi).1 hT (Value.text.inj hhash)).symm

/-- Refreshing a session writes its time stamp and nothing else. -/
theorem refreshSession_rows (h : Inv crypto older T now d issued)
    (hfinds : Finds crypto d p session user) :
    ∃ f : Row SessionColumn → Row SessionColumn,
      (refreshSession crypto now d session p.token).sessions.rows = d.sessions.rows.map f ∧
      ∀ row ∈ d.sessions.rows, (∀ c, c ≠ .lastUsed → f row c = row c) ∧
        (row = session → f row .lastUsed = .integer now) ∧ (row ≠ session → f row = row) := by
  have hprepares : d.sessions.prepares [.lastUsed, .tokenHash, .id] = true :=
    (h.prepares _).mpr (by simp)
  have hkey : ∀ row ∈ d.sessions.rows,
      sqlEq (row .id) (.integer (columnInt64 (session .id))) = true ↔ row = session := by
    intro row hrow
    obtain ⟨n, hn, -⟩ := h.sessions.key_lt session hfinds.session_mem
    rw [h.sessionsKey] at hn
    rw [sqlEq_iff, hn]
    constructor
    · rintro ⟨-, hid⟩
      exact h.sessions.eq_of_key hrow hfinds.session_mem (by rw [h.sessionsKey, hid, hn]; rfl)
    · rintro rfl
      exact ⟨by simp [hn], hn⟩
  have hassign : ∀ c, c ≠ .lastUsed →
      Row.assign session [ (.lastUsed, .integer now),
        (.tokenHash, bindText (hashSessionToken crypto p.token)) ] c = session c := by
    intro c hc
    by_cases hhash : c = .tokenHash
    · subst hhash
      simp [Row.assign, bindText, hashSessionToken, hfinds.hash]
    · exact Row.assign_of_notMem (by simp [hc, hhash]) session
  refine ⟨fun row => if sqlEq (row .id) (.integer (columnInt64 (session .id))) then
    row.assign [ (.lastUsed, .integer now),
      (.tokenHash, bindText (hashSessionToken crypto p.token)) ] else row, ?_, ?_⟩
  · rw [refreshSession, if_pos hprepares]
    refine Table.rows_update h.sessions fun c hc hunique row hrow hp => ?_
    rw [(hkey row hrow).mp hp]
    refine hassign c.name fun hlast => ?_
    rw [h.sessionsColumns] at hc
    cases older <;> simp [sessionsTable, olderSessions, sessionsSchema] at hc <;>
      grind
  · intro row hrow
    by_cases hsession : row = session
    · subst hsession
      simp only [(hkey row hrow).mpr rfl, if_true]
      exact ⟨hassign, fun _ => by simp [Row.assign], fun hne => absurd rfl hne⟩
    · simp only [mt (hkey row hrow).mp hsession]
      exact ⟨fun _ _ => rfl, fun heq => absurd heq hsession, fun _ => rfl⟩

/-- Refreshing a session leaves everything but the rows of `SESSIONS` alone. -/
theorem refreshSession_frame (h : Inv crypto older T now d issued) (session : Row SessionColumn)
    (token : Bytes) :
    (refreshSession crypto now d session token).users = d.users ∧
      (refreshSession crypto now d session token).sessions.columns = d.sessions.columns ∧
      (refreshSession crypto now d session token).sessions.key = d.sessions.key ∧
      (refreshSession crypto now d session token).sessions.WellFormed := by
  unfold refreshSession
  split
  · obtain ⟨hcolumns, hkey, -⟩ := d.sessions.update_frame
      [ (.lastUsed, .integer now), (.tokenHash, bindText (hashSessionToken crypto token)) ]
      fun row => sqlEq (row .id) (.integer (columnInt64 (session .id)))
    exact ⟨rfl, hcolumns, hkey, h.sessions.update (by simp [h.sessionsKey]) _⟩
  · exact ⟨rfl, rfl, rfl, h.sessions⟩

/-- A token that is used stays what it is, but for its last use. -/
theorem use_eq (i : Issued) (now : Int) (p : UserTokenLogin) :
    (i.use now p).userId = i.userId ∧ (i.use now p).email = i.email ∧
      (i.use now p).token = i.token ∧ (i.use now p).stored = i.stored := by
  unfold Issued.use
  split <;> exact ⟨rfl, rfl, rfl, rfl⟩

/-- A successful token login keeps the invariant: it is a use of the tokens it
presents, and it refreshes the one row that belongs to them. -/
theorem use (h : Inv crypto true T now d issued)
    (hinj : ∀ t t', T t → T t' → hashSessionToken crypto t = hashSessionToken crypto t' → t = t')
    (hT : T p.token) (hemail : p.email ≠ []) (hfinds : Finds crypto d p session user)
    (hfresh : ∀ row ∈ d.sessions.rows, unused now (row .lastUsed) = false) :
    Inv crypto true T now (refreshSession crypto now d session p.token)
      (issued.map (Issued.use now p)) := by
  obtain ⟨f, hrows, hf⟩ := h.refreshSession_rows hfinds
  obtain ⟨husers, hcolumns, hkey, hwf⟩ := h.refreshSession_frame session p.token
  -- what a use does to a token and to its row
  have hbelongs : ∀ i ∈ issued, i.live now = true → ∀ row ∈ d.sessions.rows,
      BelongsTo crypto row i → BelongsTo crypto (f row) (i.use now p) := by
    intro i hi hlive row hrow hb
    obtain ⟨hsame, hused, hother⟩ := hf row hrow
    have hpresented := h.presentedBy_iff hinj hT hemail hfinds hi hrow hb
    by_cases hsession : row = session
    · have huse : i.use now p = { i with lastUse := now } := by
        simp [Issued.use, hpresented.mpr hsession, hlive]
      rw [huse]
      exact ⟨(hsame _ (by decide)).trans hb.1, (hsame _ (by decide)).trans hb.2.1, hused hsession⟩
    · have huse : i.use now p = i := by
        simp [Issued.use, mt hpresented.mp hsession]
      rw [huse, hother hsession]
      exact hb
  have hmem : ∀ i, i ∈ issued → i.use now p ∈ issued.map (Issued.use now p) := fun i hi =>
    List.mem_map_of_mem hi
  refine
    { users := husers ▸ h.users
      usersKey := husers ▸ h.usersKey
      usersColumns := husers ▸ h.usersColumns
      sessions := hwf
      sessionsKey := hkey.trans h.sessionsKey
      sessionsColumns := hcolumns.trans h.sessionsColumns
      owner := ?_, token := ?_, kept := ?_, origin := ?_ }
  · intro j hj
    obtain ⟨i, hi, rfl⟩ := List.mem_map.mp hj
    obtain ⟨huserId, hemail', -, -⟩ := use_eq i now p
    rw [husers, huserId, hemail']
    exact h.owner i hi
  · intro j hj
    obtain ⟨i, hi, rfl⟩ := List.mem_map.mp hj
    rw [(use_eq i now p).2.2.1]
    exact h.token i hi
  · intro j hj hstored hlive
    obtain ⟨i, hi, rfl⟩ := List.mem_map.mp hj
    have hilive : i.live now = true := by
      by_cases hpresented : (i.presentedBy p && i.live now) = true
      · exact (Bool.and_eq_true_iff.mp hpresented).2
      · rwa [Issued.use, if_neg hpresented] at hlive
    obtain ⟨row, hrow, hb⟩ := h.kept i hi ((use_eq i now p).2.2.2 ▸ hstored) hilive
    exact ⟨f row, hrows ▸ List.mem_map_of_mem hrow, hbelongs i hi hilive row hrow hb⟩
  · intro row' hrow'
    rw [hrows] at hrow'
    obtain ⟨row, hrow, rfl⟩ := List.mem_map.mp hrow'
    obtain ⟨hnull, i, hb, hTi, hne, hold⟩ := h.origin row hrow
    obtain ⟨hi, hstored⟩ := hold rfl
    have hilive : i.live now = true := by
      simpa [unused_iff hb] using hfresh row hrow
    refine ⟨((hf row hrow).1 _ (by decide)).trans hnull, i.use now p,
      hbelongs i hi hilive row hrow hb, ?_, ?_, fun _ => ⟨hmem i hi, ?_⟩⟩
    · rwa [(use_eq i now p).2.2.1]
    · rwa [(use_eq i now p).2.2.1]
    · rwa [(use_eq i now p).2.2.2]

/-! ## The requests -/

/-- The row that a registration inserts. -/
theorem newUser (h : Inv crypto older T now d issued) (username email password salt : Bytes) :
    d.users.newRow now
        [ (.username, bindText username), (.email, bindText email), (.password, bindText password),
          (.salt, bindText salt), (.algo, .text pbkdf2) ] .id = .integer d.users.nextRowid ∧
      d.users.newRow now
        [ (.username, bindText username), (.email, bindText email), (.password, bindText password),
          (.salt, bindText salt), (.algo, .text pbkdf2) ] .email = bindText email := by
  simp [Table.newRow, h.usersKey, Row.assign, Function.update]

/-- A registration keeps the invariant. -/
theorem register (h : Inv crypto older T now d issued) (env : Env)
    (hT : T (hex env.token.val)) (p : UserRegister) :
    ∃ d', (register crypto env now (some d) p).2.1 = some d' ∧
      Inv crypto older T now d' (issued ++ (register crypto env now (some d) p).2.2) := by
  rcases register_cases crypto env now (some d) p with ⟨-, hnone⟩ | ⟨d', userId, users, hd, hinsert, h'⟩
  · exact ⟨d, by rw [hnone], by rw [hnone]; simpa using h⟩
  · obtain rfl := Option.some.inj hd
    have hwf := h.users.insert hinsert
    obtain ⟨-, rfl, rfl⟩ := Table.insert_ok hinsert
    obtain ⟨hid, hemail⟩ := h.newUser p.username (toLower p.email)
      (hashPasswordPBKDF2 crypto p.password (hex env.salt.val)) (hex env.salt.val)
    rw [h']
    refine ⟨_, rfl, (h.withUsers hwf h.usersKey h.usersColumns fun user huser =>
      ⟨user, List.mem_append_left _ huser, rfl, rfl⟩).create hT (hex_ne_nil _) ?_⟩
    refine ⟨_, List.mem_append_right _ (List.mem_singleton_self _), hid, ?_⟩
    rw [hemail, lower_bindText]

/-- A password login keeps the invariant. -/
theorem login (h : Inv crypto older T now d issued) (env : Env) {clock : Nat}
    (hclock : now = (clock / second : Nat)) (hT : T (hex env.token.val)) (tracker : RateLimiter)
    (remoteAddress : Bytes) (p : UserLogin) :
    ∃ d', (login crypto env clock tracker (some d) remoteAddress p).db = some d' ∧
      Inv crypto older T now d'
        (issued ++ (login crypto env clock tracker (some d) remoteAddress p).issued) := by
  subst hclock
  rcases login_cases crypto env clock tracker (some d) remoteAddress p with
    ⟨-, hdb, hissued⟩ | ⟨d', row, hd, hrow, -, -, hdb, hissued⟩
  · exact ⟨d, hdb, by rw [hissued]; simpa using h⟩
  · obtain rfl := Option.some.inj hd
    rw [hdb, hissued]
    have hchecked : Inv crypto older T (clock / second : Nat)
        (verifyPassword crypto env d row p.password).2 issued := by
      rcases verifyPassword_db crypto env d row p.password with hv | ⟨-, hv⟩
      · rw [hv]
        exact h
      · rw [hv]
        exact h.upgrade env _ _
    obtain ⟨hmem, hlower⟩ := findUser_some hrow
    obtain ⟨n, hn, -⟩ := h.users.key_lt row hmem
    rw [h.usersKey] at hn
    have howner : ∃ user ∈ (verifyPassword crypto env d row p.password).2.users.rows,
        user .id = row .id ∧ user .email = row .email := by
      rcases verifyPassword_db crypto env d row p.password with hv | ⟨-, hv⟩
      · rw [hv]
        exact ⟨row, hmem, rfl, rfl⟩
      · rw [hv]
        exact h.upgrade_kept env _ _ row hmem
    obtain ⟨user, huser, hid, hemail⟩ := howner
    exact ⟨_, rfl, hchecked.create hT (hex_ne_nil _)
      ⟨user, huser, by rw [hid, hn]; rfl, by rw [hemail, hlower]⟩⟩

/-- A logout deletes the rows of its token, unless it has none or its statement
names the missing column. -/
theorem logout_eq (h : Inv crypto older T now d issued) (p : UserLogout) :
    Master.logout crypto (some d) p = some
      (if p.token ≠ [] ∧ older = true then
        { d with
          sessions := d.sessions.delete fun row =>
            sqlEq (row .tokenHash) (bindText (hashSessionToken crypto p.token)) ||
              sqlEq (row .token) (bindText p.token) }
      else d) := by
  have hprepares : d.sessions.prepares [.tokenHash, .token] = true ↔ older = true := by
    rw [h.prepares]
    simp
  by_cases hempty : p.token = []
  · simp [Master.logout, hempty]
  · by_cases holder : older = true
    · simp [Master.logout, hempty, hprepares.mpr holder, holder]
    · simp [Master.logout, hempty, mt hprepares.mp holder, holder]

/-- A logout keeps the invariant: it deletes the rows of its token, and the
token is revoked. -/
theorem logout (h : Inv crypto older T now d issued)
    (hinj : ∀ t t', T t → T t' → hashSessionToken crypto t = hashSessionToken crypto t' → t = t')
    (p : UserLogout) (hT : T p.token) :
    ∃ d', logout crypto (some d) p = some d' ∧
      Inv crypto older T now d' (issued.filter fun i => i.token ≠ p.token) := by
  have hfilter : ∀ i, i ∈ issued.filter (fun i => i.token ≠ p.token) ↔
      i ∈ issued ∧ i.token ≠ p.token := fun i => by simp
  by_cases hempty : p.token = []
  · have hall : issued.filter (fun i => i.token ≠ p.token) = issued :=
      List.filter_eq_self.mpr fun i hi => by simpa [hempty] using (h.token i hi).2
    exact ⟨d, by rw [h.logout_eq, if_neg fun hne => hne.1 hempty], by rw [hall]; exact h⟩
  -- a row of another token is not deleted
  have hother : ∀ row ∈ d.sessions.rows, ∀ i, BelongsTo crypto row i → T i.token →
      ((sqlEq (row .tokenHash) (bindText (hashSessionToken crypto p.token)) ||
        sqlEq (row .token) (bindText p.token)) = false ↔ i.token ≠ p.token) := by
    intro row hrow i hb hTi
    rw [hb.2.1, (h.origin row hrow).1, Bool.eq_false_iff]
    refine not_congr ⟨fun hmatch => hinj _ _ hTi hT ?_, fun heq => ?_⟩
    · simpa [bindText, hashSessionToken] using hmatch
    · simp [heq, bindText, hashSessionToken]
  cases older with
  | false =>
      refine ⟨d, by rw [h.logout_eq, if_neg fun hne => by cases hne.2], ?_⟩
      exact
        { h with
          owner := fun i hi => h.owner i ((hfilter i).mp hi).1
          token := fun i hi => h.token i ((hfilter i).mp hi).1
          kept := fun i hi => h.kept i ((hfilter i).mp hi).1
          origin := fun row hrow => by
            obtain ⟨hnull, i, hb, hTi, hne, -⟩ := h.origin row hrow
            exact ⟨hnull, i, hb, hTi, hne, fun ho => by cases ho⟩ }
  | true =>
      refine ⟨_, by rw [h.logout_eq, if_pos ⟨hempty, rfl⟩], ?_⟩
      exact
        { h with
          sessions := h.sessions.delete _
          owner := fun i hi => h.owner i ((hfilter i).mp hi).1
          token := fun i hi => h.token i ((hfilter i).mp hi).1
          kept := fun i hi hstored hlive => by
            obtain ⟨hold, hne⟩ := (hfilter i).mp hi
            obtain ⟨row, hrow, hb⟩ := h.kept i hold hstored hlive
            exact ⟨row, Table.mem_rows_delete.mpr
              ⟨hrow, (hother row hrow i hb (h.token i hold).1).mpr hne⟩, hb⟩
          origin := fun row hrow => by
            obtain ⟨hrow, hkept⟩ := Table.mem_rows_delete.mp hrow
            obtain ⟨hnull, i, hb, hTi, hne, hold⟩ := h.origin row hrow
            exact ⟨hnull, i, hb, hTi, hne, fun ho =>
              ⟨(hfilter i).mpr ⟨(hold ho).1, (hother row hrow i hb hTi).mp hkept⟩, (hold ho).2⟩⟩ }

/-- A token login succeeds exactly when `SESSIONS` has the column it names, and
it presents an unexpired token whose row was stored. -/
theorem tokenLogin_success_iff (h : Inv crypto older T now d issued)
    (hinj : ∀ t t', T t → T t' → hashSessionToken crypto t = hashSessionToken crypto t' → t = t')
    (hT : T p.token) :
    (tokenLogin crypto now (some d) p).1.success = true ↔ older = true ∧
      ∃ i ∈ issued, i.presentedBy p = true ∧ i.live now = true ∧ i.stored = true := by
  constructor
  · intro hsuccess
    rcases tokenLogin_cases crypto now d p with
      ⟨hfail, -⟩ | ⟨session, user, hemail, -, hprepares, hfound, -, -⟩
    · rw [hfail] at hsuccess
      cases hsuccess
    have holder : older = true := by
      simpa using (h.prune.prepares _).mp hprepares .token (by simp)
    have hfinds := h.prune.finds hfound
    obtain ⟨-, i, hb, -, -, hold⟩ := h.prune.origin session hfinds.session_mem
    obtain ⟨hi, hstored⟩ := hold holder
    refine ⟨holder, i, hi, ?_, ?_, hstored⟩
    · exact (h.prune.presentedBy_iff hinj hT hemail hfinds hi hfinds.session_mem hb).mpr rfl
    · simpa [unused_iff hb] using h.pruned session hfinds.session_mem
  · rintro ⟨rfl, i, hi, hpresented, hilive, hstored⟩
    simp only [Issued.presentedBy, Bool.and_eq_true, decide_eq_true_eq, Bool.not_eq_true',
      List.isEmpty_eq_false_iff] at hpresented
    obtain ⟨⟨hemail, hbound⟩, htoken⟩ := hpresented
    obtain ⟨row, hrow, hb⟩ := h.prune.kept i hi hstored hilive
    obtain ⟨user, huser, hid, hlower⟩ := h.prune.owner i hi
    have hfound : (findSession crypto (pruneExpiredSessions now d) p).isSome = true := by
      refine Table.selectJoin_isSome_iff.mpr ⟨row, hrow, user, huser, ?_⟩
      have hhash := hb.2.1
      rw [← htoken] at hhash
      simp [hb.1, hid, hlower, hhash, bindText, hbound, hashSessionToken]
    obtain ⟨⟨session, found⟩, hfound⟩ := Option.isSome_iff_exists.mp hfound
    have htokenNe : p.token ≠ [] := htoken ▸ (h.token i hi).2
    have hprepares : (pruneExpiredSessions now d).sessions.prepares
        [.id, .userId, .tokenHash, .token] = true := (h.prune.prepares _).mpr (by simp)
    simp [tokenLogin, toLower, hemail, htokenNe, h.usersPrepares, hprepares, hfound]

/-- After a logout no row is left for its token exactly when the deletion
names no missing column, or there was none before. -/
theorem logout_clears_iff (h : Inv crypto older T now d issued)
    (hinj : ∀ t t', T t → T t' → hashSessionToken crypto t = hashSessionToken crypto t' → t = t')
    (p : UserLogout) (hT : T p.token) :
    (∀ d', Master.logout crypto (some d) p = some d' →
      ∀ row ∈ d'.sessions.rows, ¬ RowFor crypto p.token row) ↔
    ((∃ row ∈ d.sessions.rows, RowFor crypto p.token row) → older = true) := by
  by_cases hempty : p.token = []
  · have hnone : ∀ row ∈ d.sessions.rows, ¬ RowFor crypto p.token row := by
      rintro row hrow (hhash | hplain)
      · obtain ⟨-, i, hb, hTi, hne, -⟩ := h.origin row hrow
        have hsame := Value.text.inj (hb.2.1.symm.trans hhash)
        exact hne ((hinj _ _ hTi hT hsame).trans hempty)
      · rw [(h.origin row hrow).1] at hplain
        cases hplain
    rw [h.logout_eq, if_neg fun hne => hne.1 hempty]
    constructor
    · rintro - ⟨row, hrow, hfor⟩
      exact absurd hfor (hnone row hrow)
    · rintro - d' hd'
      obtain rfl := Option.some.inj hd'
      exact hnone
  cases older with
  | false =>
      rw [h.logout_eq, if_neg fun hne => by cases hne.2]
      constructor
      · rintro hclear ⟨row, hrow, hfor⟩
        exact absurd hfor (hclear d rfl row hrow)
      · intro hnone d' hd' row hrow hfor
        obtain rfl := Option.some.inj hd'
        cases hnone ⟨row, hrow, hfor⟩
  | true =>
      refine iff_of_true (fun d' hd' row hrow hfor => ?_) fun _ => rfl
      rw [h.logout_eq, if_pos ⟨hempty, rfl⟩] at hd'
      obtain rfl := Option.some.inj hd'
      obtain ⟨hold, hkept⟩ := Table.mem_rows_delete.mp hrow
      rcases hfor with hhash | hplain
      · exact Bool.eq_false_iff.mp hkept (by simp [hhash, bindText, hashSessionToken])
      · rw [(h.origin row hold).1] at hplain
        cases hplain

end Inv

/-! ## Runs -/

/-- On a database without `USERS`, `setup` creates both tables and changes
nothing. -/
theorem start_db (older : Bool) (clock : Nat) :
    (start older clock).db = some { users := usersSchema, sessions := sessionsTable older } := by
  cases older <;> rfl

/-- The invariant of a state. -/
def Accounts.Inv (crypto : Crypto) (older : Bool) (T : Bytes → Prop) (s : Accounts) : Prop :=
  ∃ d, s.db = some d ∧ Master.Inv crypto older T s.now d s.issued

section

variable {crypto : Crypto} {older : Bool} {T : Bytes → Prop}

/-- The invariant holds at the start. -/
theorem inv_start (crypto : Crypto) (older : Bool) (T : Bytes → Prop) (clock : Nat) :
    (start older clock).Inv crypto older T := by
  refine ⟨_, start_db older clock, ?_⟩
  constructor <;> cases older <;>
    first
    | rfl
    | exact ⟨by simp [sessionsTable, sessionsSchema, olderSessions, usersSchema],
        by simp [sessionsTable, sessionsSchema, olderSessions, usersSchema],
        by simp [sessionsTable, sessionsSchema, olderSessions, usersSchema, Table.admits]⟩
    | simp [start, sessionsTable, sessionsSchema, olderSessions]

/-- Every request keeps the invariant. -/
theorem inv_step
    (hinj : ∀ t t', T t → T t' → hashSessionToken crypto t = hashSessionToken crypto t' → t = t')
    {s t : Accounts} {a : Env × Request} (h : s.Inv crypto older T) (hT : ∀ x ∈ tokens a, T x)
    (hstep : step crypto s a = some t) : t.Inv crypto older T := by
  obtain ⟨db, tracker, clock, issued⟩ := s
  obtain ⟨d, hd, hinv⟩ := h
  obtain rfl : db = some d := hd
  obtain rfl := Option.some.inj hstep
  obtain ⟨env, request⟩ := a
  have htoken : T (hex env.token.val) := hT _ List.mem_cons_self
  cases request with
  | register p =>
      obtain ⟨d', hd', h'⟩ := hinv.register env htoken p
      exact ⟨d', hd', h'⟩
  | login remoteAddress p =>
      obtain ⟨d', hd', h'⟩ := hinv.login env rfl htoken tracker remoteAddress p
      exact ⟨d', hd', h'⟩
  | tokenLogin p =>
      have hp : T p.token := hT _ (by simp [tokens])
      have hafter : ∀ d' issued',
          (tokenLogin crypto (clock / second : Nat) (some d) p).2 = some d' →
          (act crypto ⟨some d, tracker, clock, issued⟩ env (.tokenLogin p)).issued = issued' →
          Master.Inv crypto older T (clock / second : Nat) d' issued' →
          (act crypto ⟨some d, tracker, clock, issued⟩ env (.tokenLogin p)).Inv crypto older T := by
        rintro d' _ hdb rfl h'
        exact ⟨d', hdb, h'⟩
      rcases tokenLogin_cases crypto (clock / second : Nat) d p with
        ⟨hfail, hdb⟩ | ⟨session, user, hemail, -, hprepares, hfound, hsuccess, hdb⟩
      · simp only [List.mem_cons, List.not_mem_nil, or_false] at hdb
        rcases hdb with hdb | hdb
        · exact hafter d _ hdb (if_neg (Bool.eq_false_iff.mp hfail)) hinv
        · exact hafter _ _ hdb (if_neg (Bool.eq_false_iff.mp hfail)) hinv.prune
      · have holder : older = true := by
          simpa using (hinv.prune.prepares _).mp hprepares .token (by simp)
        subst holder
        exact hafter _ _ hdb (if_pos hsuccess)
          (hinv.prune.use hinj hp hemail (hinv.prune.finds hfound) hinv.pruned)
  | logout p =>
      obtain ⟨d', hd', h'⟩ := hinv.logout hinj p (hT _ (by simp [tokens]))
      exact ⟨d', hd', h'⟩
  | prune => exact ⟨_, rfl, hinv.prune⟩
  | tick ns =>
      refine ⟨d, rfl, hinv.later ?_⟩
      exact Int.ofNat_le.mpr (Nat.div_le_div_right (Nat.le_add_right _ _))

/-- One request keeps the law exactly when it avoids the two defects. -/
theorem tokenLaw_iff
    (hinj : ∀ t t', T t → T t' → hashSessionToken crypto t = hashSessionToken crypto t' → t = t')
    {s : Accounts} {a : Env × Request} (h : s.Inv crypto older T) (hT : ∀ x ∈ tokens a, T x) :
    TokenLaw crypto s a ↔ AvoidsDefects crypto older s a := by
  obtain ⟨db, tracker, clock, issued⟩ := s
  obtain ⟨d, hd, hinv⟩ := h
  obtain rfl : db = some d := hd
  obtain ⟨env, request⟩ := a
  cases request with
  | tokenLogin p =>
      exact imp_congr_right fun _ => hinv.tokenLogin_success_iff hinj (hT _ (by simp [tokens]))
  | logout p =>
      refine (hinv.logout_clears_iff hinj p (hT _ (by simp [tokens]))).trans ?_
      simp [AvoidsDefects]
  | register p => exact Iff.rfl
  | login remoteAddress p => exact Iff.rfl
  | prune => exact Iff.rfl
  | tick ns => exact Iff.rfl

end

/-- **The law of session tokens, as far as the code keeps it.**  Along every
run from the schema that `setup` leaves, with no two of its tokens sharing a
hash, the law holds exactly when every request avoids the two defects: it holds
as long as no unexpired token is presented and no token with a row revoked,
unless `SESSIONS` is an older table with the column `token` and the insertions
for the presented tokens were not refused. -/
theorem session_tokens (crypto : Crypto) (older : Bool) (clock : Nat)
    (as : List (Env × Request))
    (hcollision : ∀ a ∈ as, ∀ b ∈ as, ∀ t ∈ tokens a, ∀ t' ∈ tokens b,
      hashSessionToken crypto t = hashSessionToken crypto t' → t = t') :
    Exec.Along (step crypto) (TokenLaw crypto) (start older clock) as ↔
      Exec.Along (step crypto) (AvoidsDefects crypto older) (start older clock) as := by
  let T : Bytes → Prop := fun t => ∃ a ∈ as, t ∈ tokens a
  have hinj : ∀ t t', T t → T t' →
      hashSessionToken crypto t = hashSessionToken crypto t' → t = t' := by
    rintro t t' ⟨a, ha, hta⟩ ⟨b, hb, htb⟩ hhash
    exact hcollision a ha b hb t hta t' htb hhash
  refine Exec.along_congr (fun a => ∀ x ∈ tokens a, T x) (Accounts.Inv crypto older T) ?_ ?_
    (inv_start crypto older T clock) ?_
  · exact fun s a t h hT _ hstep => inv_step hinj h hT hstep
  · exact fun s a h hT => tokenLaw_iff hinj h hT
  · exact fun a ha x hx => ⟨a, ha, hx⟩

/-- The environment of a request that draws the bytes `n`. -/
def sampleEnv (n : UInt8) : Env where
  salt := ⟨List.replicate 16 n, rfl⟩
  token := ⟨List.replicate 32 n, rfl⟩

/-- The user `bob` with the address `b@x.y`. -/
def sampleUser : UserRegister where
  username := [98, 111, 98]
  email := [98, 64, 120, 46, 121]
  password := [112]

/-- A user registers, waits a day, uses the token and logs out with it. -/
def sampleRun : List (Env × Request) :=
  [ (sampleEnv 1, .register sampleUser),
    (sampleEnv 2, .tick (24 * 60 * 60 * second)),
    (sampleEnv 3, .tokenLogin
      { email := sampleUser.email, token := hex (List.replicate 32 1) }),
    (sampleEnv 4, .logout { token := hex (List.replicate 32 1) }) ]

/-- On an older database the law holds along the run of a whole session. -/
theorem session_tokens_older :
    Exec.Along (step sampleCrypto) (TokenLaw sampleCrypto) (start true 0) sampleRun :=
  (session_tokens sampleCrypto true 0 sampleRun (by decide +kernel)).mpr (by decide +kernel)

/-- On a fresh database the token of a registration does not open its
account. -/
theorem session_tokens_rejected :
    ¬ Exec.Along (step sampleCrypto) (TokenLaw sampleCrypto) (start false 0)
      (sampleRun.take 3) := by
  decide +kernel

end Master
