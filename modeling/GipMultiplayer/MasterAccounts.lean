import GipMultiplayer.Exec
import GipMultiplayer.Sql
import Mathlib.Data.List.AList
import Mathlib.Data.List.TakeWhile

/-!
# The accounts of the master server

The user accounts and login sessions of the master server: registration,
password login with the upgrade of older password formats, login with a
session token, logout, the pruning of unused sessions, and the schema that
`setup` leaves on a fresh or an older database.

The digest functions are parameters, and every request carries what its
environment decides: the random bytes it draws and whether the engine refuses
an insertion.  Beside the state of the server stands the list of the session
tokens it has handed out and not revoked, each with the time of its last use.

* `setup` — the tables and their migrations;
* `register`, `login`, `tokenLogin`, `logout`, `pruneExpiredSessions` — the
  requests;
* `step` — one request or the passing of time.
-/

namespace Master

open Sql (Value Table Row Refusal)

/-- A `std::string`. -/
abbrev Bytes := List UInt8

/-- `n` bytes of the random generator. -/
abbrev RandomBytes (n : Nat) := { bytes : Bytes // bytes.length = n }

/-! ## Text -/

/-- `std::tolower` in the C locale. -/
def toLowerByte (c : UInt8) : UInt8 := if 65 ≤ c ∧ c ≤ 90 then c + 32 else c

/-- A string with every character in lower case. -/
def toLower (text : Bytes) : Bytes := text.map toLowerByte

/-- The digits of `std::hex`. -/
def hexDigit (n : UInt8) : UInt8 := if n < 10 then 48 + n else 87 + n

/-- Two hexadecimal digits a byte. -/
def hex (bytes : Bytes) : Bytes := bytes.flatMap fun b => [hexDigit (b / 16), hexDigit (b % 16)]

/-- What is bound of a string whose length is not given: the part before its
first null. -/
def cString (text : Bytes) : Bytes := text.takeWhile (· ≠ 0)

/-- `sqlite3_bind_text` with length `-1`. -/
def bindText (text : Bytes) : Value := .text (cString text)

/-- `ColumnText`. -/
def columnText : Value → Bytes
  | .text bytes => bytes
  | .integer n => (toString n).toUTF8.toList
  | .null => []

/-- `sqlite3_column_int64` of an integer column. -/
def columnInt64 : Value → Int
  | .integer n => n
  | _ => 0

/-- The `LOWER` of the engine. -/
def lower : Value → Value
  | .text bytes => .text (toLower bytes)
  | v => v

/-- The `=` of the engine, which null never meets. -/
def sqlEq (a b : Value) : Bool := a ≠ .null && a = b

/-- `std::isalnum` in the C locale. -/
def isAlnum (c : UInt8) : Bool :=
  (48 ≤ c && c ≤ 57) || (65 ≤ c && c ≤ 90) || (97 ≤ c && c ≤ 122)

/-- `IsValidEmail`. -/
def isValidEmail (email : Bytes) : Bool :=
  if email.length < 3 || email.length > 100 then false
  else
    match email.findIdx? (· = 64) with
    | none => false
    | some position =>
        if position = 0 || position = email.length - 1 then false
        else
          match (email.drop position).findIdx? (· = 46) with
          | none => false
          | some offset => !(offset = 1 || position + offset = email.length - 1)

/-- `IsValidUsername`. -/
def isValidUsername (username : Bytes) : Bool :=
  if username.length < 3 || username.length > 20 then false
  else username.all fun c => isAlnum c || c = 95

/-- Lower case stays as it is. -/
theorem toLowerByte_toLowerByte (c : UInt8) : toLowerByte (toLowerByte c) = toLowerByte c := by
  unfold toLowerByte
  grind

/-- Only the null is the null in lower case. -/
theorem toLowerByte_eq_zero_iff (c : UInt8) : toLowerByte c = 0 ↔ c = 0 := by
  unfold toLowerByte
  grind

@[simp] theorem toLower_toLower (text : Bytes) : toLower (toLower text) = toLower text := by
  simp [toLower, toLowerByte_toLowerByte]

/-- What is bound of a string in lower case is in lower case. -/
theorem cString_toLower (text : Bytes) : cString (toLower text) = toLower (cString text) := by
  simp only [cString, toLower, List.takeWhile_map]
  congr 2
  funext c
  simp [toLowerByte_eq_zero_iff]

/-- An address bound in lower case is its own `LOWER`. -/
theorem lower_bindText (text : Bytes) :
    lower (bindText (toLower text)) = bindText (toLower text) := by
  simp [lower, bindText, cString_toLower]

/-- A hexadecimal digit is not the null. -/
theorem hexDigit_ne_zero {n : UInt8} (h : n < 16) : hexDigit n ≠ 0 := by
  unfold hexDigit
  grind

/-- A hexadecimal string is bound whole. -/
@[simp] theorem cString_hex (bytes : Bytes) : cString (hex bytes) = hex bytes := by
  rw [cString, List.takeWhile_eq_self_iff]
  intro c hc
  obtain ⟨b, -, hb⟩ := List.mem_flatMap.mp hc
  have hc' : c = hexDigit (b / 16) ∨ c = hexDigit (b % 16) := by simpa using hb
  rcases hc' with rfl | rfl
  · have h : b / 16 < 16 := by grind
    simpa using hexDigit_ne_zero h
  · have h : b % 16 < 16 := by grind
    simpa using hexDigit_ne_zero h

/-- A byte is read off its two digits. -/
theorem hexDigit_inj {a b : UInt8} (ha : a < 16) (hb : b < 16)
    (h : hexDigit a = hexDigit b) : a = b := by
  unfold hexDigit at h
  grind

/-- Bytes are read off their digits. -/
theorem hex_injective : Function.Injective hex := by
  intro a
  induction a with
  | nil =>
      intro b h
      cases b with
      | nil => rfl
      | cons y b => simp [hex] at h
  | cons x a ih =>
      intro b h
      cases b with
      | nil => simp [hex] at h
      | cons y b =>
          simp only [hex, List.flatMap_cons, List.cons_append, List.nil_append, List.cons.injEq]
            at h
          obtain ⟨hhigh, hlow, hrest⟩ := h
          have hdiv : x / 16 = y / 16 := hexDigit_inj (by grind) (by grind) hhigh
          have hmod : x % 16 = y % 16 := hexDigit_inj (by grind) (by grind) hlow
          have hxy : x = y := by grind
          rw [hxy, ih hrest]

/-- Random bytes spell a nonempty string. -/
theorem hex_ne_nil {n : Nat} (bytes : RandomBytes (n + 1)) : hex bytes.val ≠ [] := by
  obtain ⟨bytes, hlength⟩ := bytes
  cases bytes with
  | nil => simp at hlength
  | cons b bytes => simp [hex]

/-- Two values are equal in the engine when they are one value, not null. -/
@[simp] theorem sqlEq_iff {a b : Value} : sqlEq a b = true ↔ a ≠ .null ∧ a = b := by
  simp [sqlEq]

/-! ## Digests -/

/-- The digest functions of the cryptographic library. -/
structure Crypto where
  sha256 : Bytes → Bytes
  pbkdf2Hmac : (password salt : Bytes) → (iterations : Nat) → Bytes

/-- Digests of 32 bytes that keep short strings apart, to run the model with. -/
def sampleCrypto : Crypto where
  sha256 text := 1 :: (text ++ List.replicate 31 0).take 31
  pbkdf2Hmac password salt _ := 2 :: (salt ++ password ++ List.replicate 31 0).take 31

/-- `PBKDF2_ITERATIONS`. -/
def pbkdf2Iterations : Nat := 600000

/-- The value of a hexadecimal digit. -/
def hexValue? (c : UInt8) : Option Nat :=
  if 48 ≤ c ∧ c ≤ 57 then some (c.toNat - 48)
  else if 65 ≤ c ∧ c ≤ 70 then some (c.toNat - 55)
  else if 97 ≤ c ∧ c ≤ 102 then some (c.toNat - 87)
  else none

/-- `std::isspace` in the C locale. -/
def isSpace (c : UInt8) : Bool := c = 32 || (9 ≤ c && c ≤ 13)

/-- `strtol` to base 16 of at most two characters. -/
def strtol16 (text : Bytes) : Int :=
  let digits (text : Bytes) : Int :=
    ((text.map hexValue?).takeWhile (·.isSome)).foldl (fun acc d => 16 * acc + d.getD 0) 0
  match text.dropWhile isSpace with
  | 45 :: rest => -digits rest
  | 43 :: rest => digits rest
  | rest => digits rest

/-- The bytes that a salt spells; an odd last digit is dropped. -/
def saltBytes : Bytes → Bytes
  | a :: b :: rest => UInt8.ofInt (strtol16 [a, b]) :: saltBytes rest
  | _ => []

/-- `HashPasswordPBKDF2`. -/
def hashPasswordPBKDF2 (crypto : Crypto) (password saltHex : Bytes) : Bytes :=
  let salt := saltBytes saltHex
  hex (crypto.pbkdf2Hmac password (if salt.isEmpty then List.replicate 16 0 else salt)
    pbkdf2Iterations)

/-- `HashSessionToken`; also the hash of a password that older clients sent. -/
def hashSessionToken (crypto : Crypto) (rawToken : Bytes) : Bytes := hex (crypto.sha256 rawToken)

/-- `HashPasswordWithSalt`. -/
def hashPasswordWithSalt (crypto : Crypto) (clientHash salt : Bytes) : Bytes :=
  hex (crypto.sha256 (clientHash ++ 58 :: salt))

/-! ## The database -/

/-- The columns of `USERS`. -/
inductive UserColumn
  | id | username | email | password | salt | algo | regDate
  deriving DecidableEq, Repr

/-- The columns of `SESSIONS`; `token` is named by statements only. -/
inductive SessionColumn
  | id | userId | tokenHash | token | createdAt | lastUsed
  deriving DecidableEq, Repr

/-- The text `pbkdf2`. -/
def pbkdf2 : Bytes := [112, 98, 107, 100, 102, 50]

/-- `CREATE TABLE USERS`. -/
def usersSchema : Table UserColumn where
  key := .id
  columns :=
    [ { name := .id, unique := true }, { name := .username, unique := true },
      { name := .email, unique := true }, { name := .password },
      { name := .salt, default := .value (.text []) },
      { name := .algo, default := .value (.text pbkdf2) },
      { name := .regDate, default := .currentTimestamp } ]

/-- `CREATE TABLE SESSIONS`. -/
def sessionsSchema : Table SessionColumn where
  key := .id
  columns :=
    [ { name := .id, unique := true }, { name := .userId },
      { name := .tokenHash, unique := true },
      { name := .createdAt, default := .currentTimestamp },
      { name := .lastUsed, default := .currentTimestamp } ]

/-- The tables of the file `users.db` before `setup`. -/
structure DatabaseFile where
  users : Option (Table UserColumn) := none
  sessions : Option (Table SessionColumn) := none

/-- The open database. -/
structure Database where
  users : Table UserColumn
  sessions : Table SessionColumn

/-- Thirty days, in seconds. -/
def thirtyDays : Int := 30 * 24 * 60 * 60

/-- `last_used < datetime('now', '-30 days')`, which null never meets. -/
def unused (now : Int) : Value → Bool
  | .integer lastUsed => lastUsed < now - thirtyDays
  | _ => false

/-- `PruneExpiredSessions`. -/
def pruneExpiredSessions (now : Int) (db : Database) : Database :=
  if db.sessions.prepares [.lastUsed] then
    { db with sessions := db.sessions.delete fun row => unused now (row .lastUsed) }
  else db

/-- The database part of `gMasterServerApp::setup`. -/
def setup (now : Int) (file : DatabaseFile) : Database :=
  let users := file.users.getD usersSchema
  let sessions := file.sessions.getD sessionsSchema
  pruneExpiredSessions now
    { users := (users.addColumn .salt (.text [])).addColumn .algo (.text pbkdf2)
      sessions := sessions.addColumn .tokenHash (.text []) }

/-! ## The rate limiter -/

/-- A second of the clock, in nanoseconds. -/
def second : Nat := 1000000000

/-- `IpRateLimit`; no `lockoutUntil` is the earliest point of time. -/
structure IpRateLimit where
  failedAttempts : List Nat := []
  lockoutUntil : Option Nat := none
  deriving DecidableEq, Repr

/-- `RateLimiter::tracker`. -/
abbrev RateLimiter := AList (fun _ : Bytes => IpRateLimit)

/-- `RateLimiter::isLockedOut`: the message of a lockout. -/
def RateLimiter.isLockedOut (tracker : RateLimiter) (now : Nat) (ip : Bytes) : Option String :=
  match (tracker.lookup ip).bind (·.lockoutUntil) with
  | none => none
  | some lockoutUntil =>
      if now < lockoutUntil then
        some ("Too many failed attempts. Locked out for "
          ++ toString ((lockoutUntil - now) / second) ++ "s.")
      else none

/-- `RateLimiter::recordFailedAttempt`. -/
def RateLimiter.recordFailedAttempt (tracker : RateLimiter) (now : Nat) (ip : Bytes) :
    RateLimiter :=
  let entry := (tracker.lookup ip).getD {}
  let failedAttempts := entry.failedAttempts.filter (fun tp => ¬ (now - tp) / second > 60) ++ [now]
  tracker.insert ip
    (if failedAttempts.length ≥ 10 then
      { failedAttempts := [], lockoutUntil := some (now + 300 * second) }
    else { entry with failedAttempts := failedAttempts })

/-- `RateLimiter::recordSuccess`. -/
def RateLimiter.recordSuccess (tracker : RateLimiter) (ip : Bytes) : RateLimiter :=
  tracker.erase ip

/-! ## Packets -/

/-- `gMasterUserRegisterPacket`. -/
structure UserRegister where
  username : Bytes := []
  email : Bytes := []
  password : Bytes := []
  deriving DecidableEq, Repr

/-- `gMasterUserRegisterResPacket`; on the wire the message is but bytes. -/
structure UserRegisterRes (Text : Type := String) where
  success : Bool := false
  message : Text
  token : Bytes := []
  deriving DecidableEq, Repr

/-- `gMasterUserLoginPacket`. -/
structure UserLogin where
  email : Bytes := []
  password : Bytes := []
  deriving DecidableEq, Repr

/-- `gMasterUserLoginResPacket`; on the wire the message is but bytes. -/
structure UserLoginRes (Text : Type := String) where
  success : Bool := false
  message : Text
  username : Bytes := []
  token : Bytes := []
  deriving DecidableEq, Repr

/-- `gMasterUserTokenLoginPacket`. -/
structure UserTokenLogin where
  email : Bytes := []
  token : Bytes := []
  deriving DecidableEq, Repr

/-- `gMasterUserLogoutPacket`. -/
structure UserLogout where
  email : Bytes := []
  token : Bytes := []
  deriving DecidableEq, Repr

/-- What the environment decides in one request: the bytes drawn for a salt
and for a token, and whether the insertions are refused. -/
structure Env where
  salt : RandomBytes 16
  token : RandomBytes 32
  usersRefusal : Option Refusal := none
  sessionsRefusal : Option Refusal := none

/-- A token that was handed out and not revoked.  `email` is the address the
user gave, as it is bound; `stored` tells whether the row of the token went
into `SESSIONS`. -/
structure Issued where
  userId : Int
  email : Bytes
  token : Bytes
  lastUse : Int
  stored : Bool
  deriving DecidableEq, Repr

/-! ## The requests -/

/-- What `CreateSessionForUser` returns, with the database after it and, not
looked at by the code, whether the insertion happened. -/
structure Created where
  token : Bytes
  db : Database
  stored : Bool

/-- `CreateSessionForUser`. -/
def createSessionForUser (crypto : Crypto) (env : Env) (now : Int) (db : Database)
    (userId : Int) : Created :=
  if userId ≤ 0 then { token := [], db := db, stored := false }
  else
    let rawToken := hex env.token.val
    if db.sessions.prepares [.userId, .tokenHash] then
      match db.sessions.insert now
          [(.userId, .integer userId), (.tokenHash, bindText (hashSessionToken crypto rawToken))]
          env.sessionsRefusal with
      | .ok (_, sessions) =>
          { token := rawToken, db := { db with sessions := sessions }, stored := true }
      | .error _ => { token := rawToken, db := db, stored := false }
    else { token := [], db := db, stored := false }

/-- The record of a nonempty token that a reply hands out. -/
def Created.issue (created : Created) (now userId : Int) (email : Bytes) : List Issued :=
  if created.token.isEmpty then []
  else
    [{ userId := userId, email := cString email, token := created.token, lastUse := now,
       stored := created.stored }]

/-- The registration handler: the reply, the database after it and the token
handed out. -/
def register (crypto : Crypto) (env : Env) (now : Int) (db : Option Database)
    (p : UserRegister) : UserRegisterRes × Option Database × List Issued :=
  let email := toLower p.email
  if !isValidUsername p.username then
    ({ message := "Username must be 3-20 characters (letters, numbers, _)." }, db, [])
  else if !isValidEmail email then
    ({ message := "Invalid email address format." }, db, [])
  else if p.password.isEmpty then
    ({ message := "Password is required." }, db, [])
  else
    match db with
    | none => ({ message := "Database unavailable." }, none, [])
    | some d =>
        let salt := hex env.salt.val
        if d.users.prepares [.username, .email, .password, .salt, .algo] then
          match d.users.insert now
              [ (.username, bindText p.username), (.email, bindText email),
                (.password, bindText (hashPasswordPBKDF2 crypto p.password salt)),
                (.salt, bindText salt), (.algo, .text pbkdf2) ] env.usersRefusal with
          | .ok (userId, users) =>
              let created := createSessionForUser crypto env now { d with users := users } userId
              ({ success := true, message := "Registration successful!", token := created.token },
                some created.db, created.issue now userId email)
          | .error .constraint =>
              ({ message := "Username or Email already exists." }, some d, [])
          | .error .other => ({ message := "Database error." }, some d, [])
        else ({ message := "Database error." }, some d, [])

/-- The test of a password that is stored by PBKDF2. -/
def isPbkdf2 (salt algo : Bytes) : Bool := algo = pbkdf2 && !salt.isEmpty

/-- The tests of a password that an older version stored. -/
def legacyMatch (crypto : Crypto) (password salt storedPass : Bytes) : Bool :=
  if hashPasswordWithSalt crypto password salt = storedPass || storedPass = password then true
  else
    let clientHash := hashSessionToken crypto password
    hashPasswordWithSalt crypto clientHash salt = storedPass || storedPass = clientHash

/-- The upgrade of a row to PBKDF2. -/
def upgrade (crypto : Crypto) (env : Env) (db : Database) (userId : Int) (password : Bytes) :
    Database :=
  let newSalt := hex env.salt.val
  if db.users.prepares [.password, .salt, .algo, .id] then
    { db with
      users := db.users.update
        [ (.password, bindText (hashPasswordPBKDF2 crypto password newSalt)),
          (.salt, bindText newSalt), (.algo, .text pbkdf2) ]
        fun row => sqlEq (row .id) (.integer userId) }
  else db

/-- The check of a password against a row, with the database after it. -/
def verifyPassword (crypto : Crypto) (env : Env) (db : Database) (row : Row UserColumn)
    (password : Bytes) : Bool × Database :=
  let storedPass := columnText (row .password)
  let salt := columnText (row .salt)
  if isPbkdf2 salt (columnText (row .algo)) then
    (hashPasswordPBKDF2 crypto password salt = storedPass, db)
  else if legacyMatch crypto password salt storedPass then
    (true, upgrade crypto env db (columnInt64 (row .id)) password)
  else (false, db)

/-- The address of a session up to its first colon. -/
def clientIp (remoteAddress : Bytes) : Bytes := remoteAddress.takeWhile (· ≠ 58)

/-- The row that a password login looks at. -/
def findUser (db : Database) (email : Bytes) : Option (Row UserColumn) :=
  db.users.select fun row => sqlEq (lower (row .email)) (bindText email)

/-- What a password login leaves behind. -/
structure LoginOutcome where
  res : UserLoginRes
  tracker : RateLimiter
  db : Option Database
  issued : List Issued := []

/-- The password login handler. -/
def login (crypto : Crypto) (env : Env) (clock : Nat) (tracker : RateLimiter)
    (db : Option Database) (remoteAddress : Bytes) (p : UserLogin) : LoginOutcome :=
  let now : Int := (clock / second : Nat)
  let ip := clientIp remoteAddress
  let email := toLower p.email
  match tracker.isLockedOut clock ip with
  | some lockMsg => { res := { message := lockMsg }, tracker := tracker, db := db }
  | none =>
      if email.isEmpty || p.password.isEmpty then
        { res := { message := "Incorrect email or password." },
          tracker := tracker.recordFailedAttempt clock ip, db := db }
      else
        match db with
        | none => { res := { message := "Database unavailable." }, tracker := tracker, db := none }
        | some d =>
            if d.users.prepares [.id, .username, .password, .salt, .algo, .email] then
              match findUser d email with
              | some row =>
                  let userId := columnInt64 (row .id)
                  let checked := verifyPassword crypto env d row p.password
                  if checked.1 then
                    let created := createSessionForUser crypto env now checked.2 userId
                    { res :=
                        { success := true, message := "Login successful!",
                          username := columnText (row .username), token := created.token }
                      tracker := tracker.recordSuccess ip
                      db := some created.db
                      issued := created.issue now userId email }
                  else
                    { res := { message := "Incorrect email or password." },
                      tracker := tracker.recordFailedAttempt clock ip, db := some checked.2 }
              | none =>
                  { res := { message := "Incorrect email or password." },
                    tracker := tracker.recordFailedAttempt clock ip, db := some d }
            else { res := { message := "Database error." }, tracker := tracker, db := some d }

/-- The session and the user that a token login looks for. -/
def findSession (crypto : Crypto) (db : Database) (p : UserTokenLogin) :
    Option (Row SessionColumn × Row UserColumn) :=
  db.sessions.selectJoin db.users fun session user =>
    sqlEq (session .userId) (user .id) &&
    sqlEq (lower (user .email)) (bindText (toLower p.email)) &&
    (sqlEq (session .tokenHash) (bindText (hashSessionToken crypto p.token)) ||
      sqlEq (session .token) (bindText p.token))

/-- The refreshing of a session whose token was used. -/
def refreshSession (crypto : Crypto) (now : Int) (db : Database) (session : Row SessionColumn)
    (token : Bytes) : Database :=
  if db.sessions.prepares [.lastUsed, .tokenHash, .id] then
    { db with
      sessions := db.sessions.update
        [ (.lastUsed, .integer now), (.tokenHash, bindText (hashSessionToken crypto token)) ]
        fun row => sqlEq (row .id) (.integer (columnInt64 (session .id))) }
  else db

/-- The token login handler: the reply and the database after it. -/
def tokenLogin (crypto : Crypto) (now : Int) (db : Option Database) (p : UserTokenLogin) :
    UserLoginRes × Option Database :=
  if (toLower p.email).isEmpty || p.token.isEmpty then
    ({ message := "Invalid session token." }, db)
  else
    match db with
    | none => ({ message := "Database unavailable." }, none)
    | some d =>
        let d := pruneExpiredSessions now d
        if d.users.prepares [.username, .id, .email] &&
            d.sessions.prepares [.id, .userId, .tokenHash, .token] then
          match findSession crypto d p with
          | some (session, user) =>
              ({ success := true, message := "Auto-login successful!",
                 username := columnText (user .username), token := p.token },
                some (refreshSession crypto now d session p.token))
          | none => ({ message := "Session expired or invalid. Please log in." }, some d)
        else ({ message := "Database error." }, some d)

/-- The logout handler: the database after it. -/
def logout (crypto : Crypto) (db : Option Database) (p : UserLogout) : Option Database :=
  match db with
  | none => none
  | some d =>
      if p.token.isEmpty then some d
      else if d.sessions.prepares [.tokenHash, .token] then
        some { d with
          sessions := d.sessions.delete fun row =>
            sqlEq (row .tokenHash) (bindText (hashSessionToken crypto p.token)) ||
              sqlEq (row .token) (bindText p.token) }
      else some d

/-! ## The system -/

/-- The accounts of the master: its database, its rate limiter, the clock in
nanoseconds, and the tokens handed out. -/
structure Accounts where
  db : Option Database
  tracker : RateLimiter := ∅
  clock : Nat := 0
  issued : List Issued := []

/-- The second of the clock. -/
def Accounts.now (s : Accounts) : Int := (s.clock / second : Nat)

/-- What can happen to the accounts. -/
inductive Request
  | register (p : UserRegister)
  | login (remoteAddress : Bytes) (p : UserLogin)
  | tokenLogin (p : UserTokenLogin)
  | logout (p : UserLogout)
  | prune
  | tick (ns : Nat)

/-- The token is unexpired: at most thirty days have passed since its last
use. -/
def Issued.live (now : Int) (i : Issued) : Bool := now - i.lastUse ≤ thirtyDays

/-- A token login presents the token with the address of its user. -/
def Issued.presentedBy (p : UserTokenLogin) (i : Issued) : Bool :=
  !p.email.isEmpty && cString (toLower p.email) = i.email && p.token = i.token

/-- A token that a login has just used. -/
def Issued.use (now : Int) (p : UserTokenLogin) (i : Issued) : Issued :=
  if i.presentedBy p && i.live now then { i with lastUse := now } else i

/-- One request, in the environment that serves it. -/
def act (crypto : Crypto) (s : Accounts) (env : Env) : Request → Accounts
  | .register p =>
      let (_, db, issued) := register crypto env s.now s.db p
      { s with db := db, issued := s.issued ++ issued }
  | .login remoteAddress p =>
      let outcome := login crypto env s.clock s.tracker s.db remoteAddress p
      { s with db := outcome.db, tracker := outcome.tracker, issued := s.issued ++ outcome.issued }
  | .tokenLogin p =>
      let (res, db) := tokenLogin crypto s.now s.db p
      { s with
        db := db
        issued := if res.success then s.issued.map (Issued.use s.now p) else s.issued }
  | .logout p =>
      { s with
        db := logout crypto s.db p
        issued := s.issued.filter fun i => i.token ≠ p.token }
  | .prune => { s with db := s.db.map (pruneExpiredSessions s.now) }
  | .tick ns => { s with clock := s.clock + ns }

/-- The step function; every request is served. -/
def step (crypto : Crypto) (s : Accounts) (a : Env × Request) : Option Accounts :=
  some (act crypto s a.1 a.2)

/-! ## What a request can do -/

/-- A session is created by an insertion into `SESSIONS`, or the database is
left alone. -/
theorem createSessionForUser_cases (crypto : Crypto) (env : Env) (now : Int) (db : Database)
    (userId : Int) :
    ((createSessionForUser crypto env now db userId).db = db ∧
      (createSessionForUser crypto env now db userId).stored = false ∧
      (createSessionForUser crypto env now db userId).token ∈ [[], hex env.token.val]) ∨
    ∃ id sessions, db.sessions.insert now
        [ (.userId, .integer userId),
          (.tokenHash, bindText (hashSessionToken crypto (hex env.token.val))) ]
        env.sessionsRefusal = .ok (id, sessions) ∧
      createSessionForUser crypto env now db userId =
        { token := hex env.token.val, db := { db with sessions := sessions }, stored := true } := by
  by_cases hpos : userId ≤ 0
  · simp [createSessionForUser, hpos]
  by_cases hprepares : db.sessions.prepares [.userId, .tokenHash] = true
  · cases hinsert : db.sessions.insert now
        [ (.userId, .integer userId),
          (.tokenHash, bindText (hashSessionToken crypto (hex env.token.val))) ]
        env.sessionsRefusal with
    | error reason => simp [createSessionForUser, hpos, hprepares, hinsert]
    | ok result =>
        obtain ⟨id, sessions⟩ := result
        exact Or.inr ⟨id, sessions, rfl, by
          simp [createSessionForUser, hpos, hprepares, hinsert]⟩
  · simp [createSessionForUser, hpos, hprepares]

/-- Creating a session leaves `USERS` alone. -/
@[simp] theorem createSessionForUser_users (crypto : Crypto) (env : Env) (now : Int)
    (db : Database) (userId : Int) :
    (createSessionForUser crypto env now db userId).db.users = db.users := by
  rcases createSessionForUser_cases crypto env now db userId with ⟨h, _⟩ | ⟨_, _, _, h⟩
  · rw [h]
  · rw [h]

/-- A registration adds a row to `USERS` and creates a session for it, or it
fails without effect. -/
theorem register_cases (crypto : Crypto) (env : Env) (now : Int) (db : Option Database)
    (p : UserRegister) :
    ((register crypto env now db p).1.success = false ∧
      (register crypto env now db p).2 = (db, [])) ∨
    ∃ d userId users, db = some d ∧
      d.users.insert now
        [ (.username, bindText p.username), (.email, bindText (toLower p.email)),
          (.password, bindText (hashPasswordPBKDF2 crypto p.password (hex env.salt.val))),
          (.salt, bindText (hex env.salt.val)), (.algo, .text pbkdf2) ] env.usersRefusal
        = .ok (userId, users) ∧
      register crypto env now db p =
        ({ success := true, message := "Registration successful!",
           token := (createSessionForUser crypto env now { d with users := users } userId).token },
          some (createSessionForUser crypto env now { d with users := users } userId).db,
          (createSessionForUser crypto env now { d with users := users } userId).issue now userId
            (toLower p.email)) := by
  unfold register
  dsimp only
  split; · exact Or.inl ⟨rfl, rfl⟩
  split; · exact Or.inl ⟨rfl, rfl⟩
  split; · exact Or.inl ⟨rfl, rfl⟩
  cases db with
  | none => exact Or.inl ⟨rfl, rfl⟩
  | some d =>
      dsimp only
      split
      case isFalse => exact Or.inl ⟨rfl, rfl⟩
      case isTrue =>
        split
        case h_1 userId users hinsert => exact Or.inr ⟨d, userId, users, rfl, hinsert, rfl⟩
        case h_2 => exact Or.inl ⟨rfl, rfl⟩
        case h_3 => exact Or.inl ⟨rfl, rfl⟩

/-- `refreshSession` leaves `USERS` alone. -/
@[simp] theorem refreshSession_users (crypto : Crypto) (now : Int) (d : Database)
    (session : Row SessionColumn) (token : Bytes) :
    (refreshSession crypto now d session token).users = d.users := by
  unfold refreshSession
  split <;> rfl

/-- Pruning leaves `USERS` alone. -/
@[simp] theorem pruneExpiredSessions_users (now : Int) (d : Database) :
    (pruneExpiredSessions now d).users = d.users := by
  unfold pruneExpiredSessions
  split <;> rfl

/-- Checking a password leaves the database alone, or upgrades a row that is
not stored by PBKDF2. -/
theorem verifyPassword_db (crypto : Crypto) (env : Env) (db : Database) (row : Row UserColumn)
    (password : Bytes) :
    (verifyPassword crypto env db row password).2 = db ∨
      isPbkdf2 (columnText (row .salt)) (columnText (row .algo)) = false ∧
        (verifyPassword crypto env db row password).2 =
          upgrade crypto env db (columnInt64 (row .id)) password := by
  unfold verifyPassword
  dsimp only
  split
  case isTrue => exact Or.inl rfl
  case isFalse hp =>
    split
    · exact Or.inr ⟨Bool.eq_false_iff.mpr hp, rfl⟩
    · exact Or.inl rfl

/-- A password that does not match changes nothing. -/
theorem verifyPassword_of_mismatch {crypto : Crypto} {env : Env} {db : Database}
    {row : Row UserColumn} {password : Bytes}
    (h : (verifyPassword crypto env db row password).1 = false) :
    (verifyPassword crypto env db row password).2 = db := by
  unfold verifyPassword at h ⊢
  dsimp only at h ⊢
  split at h
  case isTrue hp => rw [if_pos hp]
  case isFalse hp =>
    rw [if_neg hp]
    split at h
    case isTrue => cases h
    case isFalse hl => rw [if_neg hl]

/-- A password login looks at a row of the address. -/
theorem findUser_some {db : Database} {email : Bytes} {row : Row UserColumn}
    (h : findUser db email = some row) :
    row ∈ db.users.rows ∧ lower (row .email) = bindText email := by
  obtain ⟨hrow, hmatch⟩ := Table.select_some h
  exact ⟨hrow, (sqlEq_iff.mp hmatch).2⟩

/-- A password login finds a row, checks the password and creates a session,
or it fails and leaves the database alone. -/
theorem login_cases (crypto : Crypto) (env : Env) (clock : Nat) (tracker : RateLimiter)
    (db : Option Database) (remoteAddress : Bytes) (p : UserLogin) :
    ((login crypto env clock tracker db remoteAddress p).res.success = false ∧
      (login crypto env clock tracker db remoteAddress p).db = db ∧
      (login crypto env clock tracker db remoteAddress p).issued = []) ∨
    ∃ d row, db = some d ∧ findUser d (toLower p.email) = some row ∧
      (verifyPassword crypto env d row p.password).1 = true ∧
      (login crypto env clock tracker db remoteAddress p).res.success = true ∧
      (login crypto env clock tracker db remoteAddress p).db =
        some (createSessionForUser crypto env (clock / second : Nat)
          (verifyPassword crypto env d row p.password).2 (columnInt64 (row .id))).db ∧
      (login crypto env clock tracker db remoteAddress p).issued =
        (createSessionForUser crypto env (clock / second : Nat)
          (verifyPassword crypto env d row p.password).2 (columnInt64 (row .id))).issue
          (clock / second : Nat) (columnInt64 (row .id)) (toLower p.email) := by
  unfold login
  dsimp only
  split
  case h_1 => exact Or.inl ⟨rfl, rfl, rfl⟩
  case h_2 =>
    split
    case isTrue => exact Or.inl ⟨rfl, rfl, rfl⟩
    case isFalse =>
      cases db with
      | none => exact Or.inl ⟨rfl, rfl, rfl⟩
      | some d =>
          dsimp only
          split
          case isFalse => exact Or.inl ⟨rfl, rfl, rfl⟩
          case isTrue =>
            split
            case h_2 => exact Or.inl ⟨rfl, rfl, rfl⟩
            case h_1 row hrow =>
              split
              case isTrue hmatch => exact Or.inr ⟨d, row, rfl, hrow, hmatch, rfl, rfl, rfl⟩
              case isFalse hmatch =>
                refine Or.inl ⟨rfl, ?_, rfl⟩
                rw [verifyPassword_of_mismatch (by simpa using hmatch)]

/-- A password login that gets to a row succeeds when the password matches it,
and leaves `USERS` as the check of the password does. -/
theorem login_of_found (crypto : Crypto) (env : Env) {clock : Nat} {tracker : RateLimiter}
    {d : Database} {remoteAddress : Bytes} {p : UserLogin} {row : Row UserColumn}
    (hlock : tracker.isLockedOut clock (clientIp remoteAddress) = none)
    (hemail : p.email ≠ []) (hpassword : p.password ≠ [])
    (hprepares : d.users.prepares [.id, .username, .password, .salt, .algo, .email] = true)
    (hrow : findUser d (toLower p.email) = some row) :
    (login crypto env clock tracker (some d) remoteAddress p).res.success =
        (verifyPassword crypto env d row p.password).1 ∧
      ∃ d', (login crypto env clock tracker (some d) remoteAddress p).db = some d' ∧
        d'.users = (verifyPassword crypto env d row p.password).2.users := by
  have hnonempty : ((toLower p.email).isEmpty || p.password.isEmpty) = false := by
    simp [toLower, hemail, hpassword]
  unfold login
  simp only [hlock, hnonempty, hprepares, hrow, if_true, Bool.false_eq_true, if_false]
  cases hmatch : (verifyPassword crypto env d row p.password).1 with
  | true => exact ⟨rfl, _, rfl, createSessionForUser_users _ _ _ _ _⟩
  | false => exact ⟨rfl, _, rfl, rfl⟩

/-- A password login without an address or a password fails. -/
theorem login_nonempty {crypto : Crypto} {env : Env} {clock : Nat} {tracker : RateLimiter}
    {db : Option Database} {remoteAddress : Bytes} {p : UserLogin}
    (h : (login crypto env clock tracker db remoteAddress p).res.success = true) :
    p.email ≠ [] ∧ p.password ≠ [] := by
  by_contra hempty
  have hnonempty : ((toLower p.email).isEmpty || p.password.isEmpty) = true := by
    by_cases hemail : p.email = []
    · simp [toLower, hemail]
    · simpa [toLower, hemail] using hempty
  unfold login at h
  dsimp only at h
  split at h
  · cases h
  · rw [if_pos hnonempty] at h
    cases h

/-- A token login finds a session and refreshes it, or it fails and at most
prunes. -/
theorem tokenLogin_cases (crypto : Crypto) (now : Int) (d : Database) (p : UserTokenLogin) :
    ((tokenLogin crypto now (some d) p).1.success = false ∧
      (tokenLogin crypto now (some d) p).2 ∈ [some d, some (pruneExpiredSessions now d)]) ∨
    ∃ session user, p.email ≠ [] ∧ p.token ≠ [] ∧
      (pruneExpiredSessions now d).sessions.prepares [.id, .userId, .tokenHash, .token] = true ∧
      findSession crypto (pruneExpiredSessions now d) p = some (session, user) ∧
      (tokenLogin crypto now (some d) p).1.success = true ∧
      (tokenLogin crypto now (some d) p).2 =
        some (refreshSession crypto now (pruneExpiredSessions now d) session p.token) := by
  unfold tokenLogin
  dsimp only
  split
  case isTrue => exact Or.inl ⟨rfl, by simp⟩
  case isFalse hempty =>
    split
    case isFalse => exact Or.inl ⟨rfl, by simp⟩
    case isTrue hprepares =>
      split
      case h_2 => exact Or.inl ⟨rfl, by simp⟩
      case h_1 session user hfound =>
        simp only [toLower, List.isEmpty_iff, List.map_eq_nil_iff, Bool.or_eq_true, not_or]
          at hempty
        exact Or.inr ⟨session, user, hempty.1, hempty.2, (Bool.and_eq_true_iff.mp hprepares).2,
          hfound, rfl, rfl⟩

end Master
