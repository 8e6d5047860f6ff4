import GipMultiplayer.LobbyRoom

/-!
# The search for a free name

A join whose name is taken gets a number behind it: the host tries the numbers
from one on until `nameExists` says no.  The loop has no bound of its own; its
counter is an `int`.

* `nameSearch` — the loop of the join handler;
* `nameSearch_eq` — it ends at the first candidate that no one has;
* `duplicate_name_resolved` — the law of the loop, for the name that the room
  gets.
-/

namespace Lobby

/-- The largest `int`. -/
def intMax : Nat := 2 ^ 31 - 1

/-- `nameExists`. -/
def nameExists (roomPlayers : List RoomPlayerInfo) (n : Bytes) : Bool :=
  roomPlayers.any (·.name == n)

/-- The variables of the loop. -/
structure NameSearch where
  finalName : Bytes
  duplicateCount : Nat := 1
  deriving DecidableEq, Repr

/-- The body of the loop; `none` where `duplicateCount++` overflows. -/
def NameSearch.next (playerName : Bytes) (s : NameSearch) : Option NameSearch :=
  if s.duplicateCount < intMax then
    some
      { finalName := playerName ++ 32 :: decimal s.duplicateCount
        duplicateCount := s.duplicateCount + 1 }
  else none

/-- The loop with so many tests of `nameExists` allowed: its variables when it
ends, and the tests it has made. -/
def nameSearch (roomPlayers : List RoomPlayerInfo) (playerName : Bytes) (allowed : Nat) :
    Option (NameSearch × Nat) :=
  WhileLoop.run (fun s => nameExists roomPlayers s.finalName) (NameSearch.next playerName) allowed
    { finalName := playerName }

variable {roomPlayers : List RoomPlayerInfo} {playerName : Bytes}

theorem nameExists_iff {n : Bytes} :
    nameExists roomPlayers n = true ↔ n ∈ roomPlayers.map (·.name) := by
  simp [nameExists, List.any_eq_true]

/-- The variables after so many rounds. -/
def NameSearch.after (playerName : Bytes) (rounds : Nat) : NameSearch :=
  { finalName := candidateName playerName rounds, duplicateCount := rounds + 1 }

/-- **The loop ends at the first free candidate**, as long as its counter holds
the number of names. -/
theorem nameSearch_eq {n : Nat} (hint : n < intMax)
    (htaken : ∀ k < n, candidateName playerName k ∈ roomPlayers.map (·.name))
    (hfree : candidateName playerName n ∉ roomPlayers.map (·.name)) :
    nameSearch roomPlayers playerName (n + 1) = some (NameSearch.after playerName n, n + 1) := by
  refine WhileLoop.run_of_path (NameSearch.after playerName) ?_ ?_ ?_
  · intro k hk
    have hcount : (NameSearch.after playerName k).duplicateCount < intMax := by
      show k + 1 < intMax
      omega
    exact if_pos hcount
  · intro k hk
    exact nameExists_iff.mpr (htaken k hk)
  · rw [← Bool.not_eq_true]
    intro hexists
    exact hfree (nameExists_iff.mp hexists)

/-- **The loop ends with a fresh name.**  In a room of fewer than `2 ^ 31 - 1`
players it makes at most one test more than there are players, and ends with a
name that no player has: the one that was asked for, or that one with a blank and
the smallest number behind it that makes it free.  It is the name of the room
after the join. -/
theorem duplicate_name_resolved (roomPlayers : List RoomPlayerInfo)
    (hroom : roomPlayers.length < 2 ^ 31 - 1) (playerName : Bytes) :
    ∃ s tests, tests ≤ roomPlayers.length + 1 ∧
      nameSearch roomPlayers playerName (roomPlayers.length + 1) = some (s, tests) ∧
      s.finalName ∉ roomPlayers.map (·.name) ∧
      (s.finalName = playerName ∨
        ∃ n > 0, s.finalName = playerName ++ 32 :: decimal n ∧
          playerName ∈ roomPlayers.map (·.name) ∧
          ∀ m, 0 < m → m < n →
            playerName ++ 32 :: decimal m ∈ roomPlayers.map (·.name)) ∧
      ∀ (config : HostConfig) (senderId : UInt32) (password : Bytes),
        roomPlayers.any (·.id == senderId) = false →
        roomPlayers.length < config.lobbyTeamSize.toNat * 2 →
        (roomAfter config roomPlayers (.lobbyJoin senderId playerName password)).map (·.name) =
          roomPlayers.map (·.name) ++ [s.finalName] := by
  obtain ⟨n, hn, hname, hfree, htaken⟩ := uniqueName_spec roomPlayers playerName
  have hint : n < intMax := by
    unfold intMax
    omega
  refine ⟨NameSearch.after playerName n, n + 1, by omega, ?_, hfree, ?_, ?_⟩
  · exact WhileLoop.run_mono (by omega) (nameSearch_eq hint htaken hfree)
  · cases n with
    | zero => exact .inl rfl
    | succ n =>
        refine .inr ⟨n + 1, Nat.succ_pos n, rfl, htaken 0 (Nat.succ_pos n), ?_⟩
        intro m hm hlt
        obtain ⟨k, rfl⟩ : ∃ k, m = k + 1 := ⟨m - 1, by omega⟩
        exact htaken (k + 1) hlt
  · intro config senderId password hunknown hroom
    have hfull : ¬ config.lobbyTeamSize.toNat * 2 ≤ roomPlayers.length := by omega
    have hknown : ¬ roomPlayers.any (·.id == senderId) = true := by
      rw [hunknown]
      exact Bool.false_ne_true
    unfold roomAfter
    dsimp only
    rw [if_neg hknown, if_neg hfull, List.map_append, hname]
    rfl

/-- A room where `A` and `A 1` are taken: the third `A` is `A 2`, after three
tests. -/
theorem duplicate_name_resolved_third :
    let room : List RoomPlayerInfo := [{ id := 1, name := [65, 32, 49] }, { id := 2, name := [65] }]
    ∃ s, nameSearch room [65] 3 = some (s, 3) ∧ s.finalName = [65, 32, 50] ∧
      s.finalName ∉ room.map (·.name) := by
  intro room
  obtain ⟨s, tests, -, hsearch, hfree, -, -⟩ := duplicate_name_resolved room (by decide) [65]
  have hrun : nameSearch room [65] 3 = some (⟨[65, 32, 50], 3⟩, 3) := by decide +kernel
  obtain ⟨rfl, rfl⟩ := Prod.mk.inj (Option.some.inj (hsearch.symm.trans hrun))
  exact ⟨_, hrun, rfl, hfree⟩

end Lobby
