import GipMultiplayer.Admission
import GipMultiplayer.RoomCodes

/-!
# Punch offers

What one side of a punch is told to try: the reflexive candidates that the other
side gathered, or the master's own observation of it, then its host candidates
under addresses that are not in the offer yet, cut so that a relayed candidate
still fits, and then that.

* `offerHosts_eq` — the host candidates of an offer are an admission by address;
* `OfferParts` — the parts of an offer and what each of them holds;
* `buildOffer_parts` — every offer has such parts;
* `offer_well_formed` — and so have the packets of a punch request.
-/

namespace Master

open Admission (admitted admitted_sublist admitted_fresh admitted_nodup admitted_complete)

variable {Address : Type} (inet : Inet Address)

/-- The address of a candidate as text. -/
def Candidate.readable (c : Candidate Address) : Bytes := inet.readable c.address

/-- The reflexive candidates of an offer before it is cut: those gathered, or the
observed address standing in for them. -/
def reflexiveOffer (observedIp : Bytes) (punchPort : UInt16)
    (gathered : List (Candidate Address)) : List (Candidate Address) :=
  if (gathered.filter (·.type = .reflexive)).isEmpty then
    match inet.fromText observedIp punchPort with
    | some address => [{ type := .reflexive, address := address }]
    | none => []
  else gathered.filter (·.type = .reflexive)

/-- The host candidates of an offer before it is cut. -/
def hostOffer (observedIp : Bytes) (punchPort : UInt16) (gathered : List (Candidate Address)) :
    List (Candidate Address) :=
  admitted (Candidate.readable inet) (·.type = .host)
    ((reflexiveOffer inet observedIp punchPort gathered).map (Candidate.readable inet)) gathered

/-- **The parts of an offer.**  The reflexive candidates come first, then the
host candidates, each group in the order in which it was gathered, and last the
relayed candidate if there is one. -/
structure OfferParts (observedIp : Bytes) (punchPort : UInt16)
    (gathered : List (Candidate Address)) (relayed : Option (Candidate Address))
    (offer reflexive hosts : List (Candidate Address)) : Prop where
  parts : offer = reflexive ++ hosts ++ relayed.toList
  size : offer.length ≤ inet.maxCandidates
  reflexive_type : ∀ c ∈ reflexive, c.type = .reflexive
  host_type : ∀ c ∈ hosts, c.type = .host
  reachable : (inet.fromText observedIp punchPort).isSome = true → 2 ≤ inet.maxCandidates →
    reflexive ≠ []
  hosts_differ : hosts.Pairwise fun a b => a.readable inet ≠ b.readable inet
  hosts_apart : ∀ h ∈ hosts, ∀ r ∈ reflexive, h.readable inet ≠ r.readable inet
  reflexive_gathered : reflexive.Sublist gathered ∨
    (∀ c ∈ gathered, c.type ≠ .reflexive) ∧
      ∃ address ∈ inet.fromText observedIp punchPort,
        reflexive = [{ type := .reflexive, address := address }]
  hosts_gathered : hosts.Sublist gathered
  reflexive_complete : reflexive.length + hosts.length ≠ inet.maxCandidates - 1 →
    (gathered.filter (·.type = .reflexive)).Sublist reflexive
  hosts_complete : reflexive.length + hosts.length ≠ inet.maxCandidates - 1 →
    ∀ c ∈ gathered, c.type = .host →
      ∃ offered ∈ reflexive ++ hosts, offered.readable inet = c.readable inet

variable {inet}

/-! ## The host candidates -/

/-- **The loop over the host candidates** admits them by address. -/
theorem offerHosts_eq (out gathered : List (Candidate Address)) :
    offerHosts inet out gathered =
      out ++ admitted (Candidate.readable inet) (·.type = .host)
        (out.map (Candidate.readable inet)) gathered := by
  induction gathered generalizing out with
  | nil => exact (List.append_nil out).symm
  | cons c rest ih =>
      have hknown : (c.type = .host && !out.any fun o =>
            inet.readable o.address = inet.readable c.address) = true ↔
          decide (c.type = .host) = true ∧
            c.readable inet ∉ out.map (Candidate.readable inet) := by
        simp [Candidate.readable]
      unfold offerHosts admitted
      by_cases h : decide (c.type = .host) = true ∧
          c.readable inet ∉ out.map (Candidate.readable inet)
      · rw [if_pos (hknown.mpr h), if_pos h, ih, List.map_append, List.append_assoc]
        rfl
      · rw [if_neg (mt hknown.mp h), if_neg h, ih]

variable {observedIp : Bytes} {punchPort : UInt16} {gathered : List (Candidate Address)}

/-- An offer is cut before the relayed candidate is added. -/
theorem buildOffer_eq (relayed : Option (Candidate Address)) :
    buildOffer inet observedIp punchPort gathered relayed =
      (reflexiveOffer inet observedIp punchPort gathered).take (inet.maxCandidates - 1) ++
        (hostOffer inet observedIp punchPort gathered).take (inet.maxCandidates - 1 -
          (reflexiveOffer inet observedIp punchPort gathered).length) ++ relayed.toList := by
  rw [← List.take_append]
  unfold buildOffer hostOffer
  rw [← offerHosts_eq]
  rfl

theorem hostOffer_type {c : Candidate Address}
    (h : c ∈ hostOffer inet observedIp punchPort gathered) : c.type = .host :=
  of_decide_eq_true (admitted_fresh h).1

/-- A gathered host candidate is offered, or another one with its address. -/
theorem hostOffer_complete {c : Candidate Address} (hc : c ∈ gathered)
    (hhost : c.type = .host) :
    ∃ offered ∈ reflexiveOffer inet observedIp punchPort gathered ++
      hostOffer inet observedIp punchPort gathered, offered.readable inet = c.readable inet := by
  have hcases : c.readable inet ∈ (reflexiveOffer inet observedIp punchPort gathered).map
        (Candidate.readable inet) ∨
      ∃ b ∈ hostOffer inet observedIp punchPort gathered, b.readable inet = c.readable inet :=
    admitted_complete hc (decide_eq_true hhost)
  rcases hcases with hknown | ⟨offered, hoffered, hkey⟩
  · obtain ⟨offered, hoffered, hkey⟩ := List.mem_map.mp hknown
    exact ⟨offered, List.mem_append_left _ hoffered, hkey⟩
  · exact ⟨offered, List.mem_append_right _ hoffered, hkey⟩

/-! ## The reflexive candidates -/

/-- The reflexive candidates are the gathered ones, or the stand-in. -/
theorem reflexiveOffer_cases (inet : Inet Address) (observedIp : Bytes) (punchPort : UInt16)
    (gathered : List (Candidate Address)) :
    reflexiveOffer inet observedIp punchPort gathered = gathered.filter (·.type = .reflexive) ∨
      (∀ c ∈ gathered, c.type ≠ .reflexive) ∧
        ∃ address ∈ inet.fromText observedIp punchPort,
          reflexiveOffer inet observedIp punchPort gathered =
            [{ type := .reflexive, address := address }] := by
  by_cases hnone : (gathered.filter (·.type = .reflexive)).isEmpty = true
  · have hempty := List.isEmpty_iff.mp hnone
    unfold reflexiveOffer
    rw [if_pos hnone]
    cases haddress : inet.fromText observedIp punchPort with
    | none => exact .inl hempty.symm
    | some address =>
        refine .inr ⟨?_, address, rfl, rfl⟩
        simpa using List.filter_eq_nil_iff.mp hempty
  · exact .inl (if_neg hnone)

theorem reflexiveOffer_type {c : Candidate Address}
    (h : c ∈ reflexiveOffer inet observedIp punchPort gathered) : c.type = .reflexive := by
  rcases reflexiveOffer_cases inet observedIp punchPort gathered with
    heq | ⟨-, address, -, heq⟩
  · rw [heq] at h
    exact of_decide_eq_true (List.mem_filter.mp h).2
  · rw [heq] at h
    rw [List.mem_singleton.mp h]

theorem reflexiveOffer_ne_nil (h : (inet.fromText observedIp punchPort).isSome = true) :
    reflexiveOffer inet observedIp punchPort gathered ≠ [] := by
  obtain ⟨address, haddress⟩ := Option.isSome_iff_exists.mp h
  unfold reflexiveOffer
  split_ifs with hnone
  · rw [haddress]
    exact List.cons_ne_nil _ _
  · intro hempty
    exact hnone (List.isEmpty_iff.mpr hempty)

/-! ## The offer -/

/-- Every offer has its parts. -/
theorem buildOffer_parts (hmax : 1 ≤ inet.maxCandidates) (observedIp : Bytes)
    (punchPort : UInt16) (gathered : List (Candidate Address))
    (relayed : Option (Candidate Address)) :
    ∃ reflexive hosts, OfferParts inet observedIp punchPort gathered relayed
      (buildOffer inet observedIp punchPort gathered relayed) reflexive hosts := by
  have hlengths : ∀ l m : List (Candidate Address), ∀ n,
      (l.take n).length + (m.take (n - l.length)).length = min n (l.length + m.length) := by
    intro l m n
    simp only [List.length_take]
    omega
  have hcases := reflexiveOffer_cases inet observedIp punchPort gathered
  refine ⟨_, _, buildOffer_eq relayed, ?_, ?_, ?_, ?_, ?_, ?_, ?_, ?_, ?_, ?_⟩
  · have hrelayed : relayed.toList.length ≤ 1 := by cases relayed <;> simp
    rw [buildOffer_eq, List.length_append, List.length_append, hlengths]
    omega
  · intro c hc
    exact reflexiveOffer_type (List.mem_of_mem_take hc)
  · intro c hc
    exact hostOffer_type (List.mem_of_mem_take hc)
  · intro hsome htwo hempty
    rcases List.take_eq_nil_iff.mp hempty with hzero | hnil
    · omega
    · exact reflexiveOffer_ne_nil hsome hnil
  · exact (List.pairwise_map.mp (admitted_nodup _ gathered)).sublist (List.take_sublist _ _)
  · intro h hh r hr heq
    apply (admitted_fresh (List.mem_of_mem_take hh)).2
    rw [heq]
    exact List.mem_map_of_mem (List.mem_of_mem_take hr)
  · rcases hcases with heq | ⟨hnone, address, haddress, heq⟩
    · refine .inl ((List.take_sublist _ _).trans ?_)
      rw [heq]
      exact List.filter_sublist
    · rw [heq]
      rcases Nat.eq_zero_or_pos (inet.maxCandidates - 1) with hzero | hpos
      · rw [hzero]
        exact .inl (List.nil_sublist _)
      · exact .inr ⟨hnone, address, haddress, List.take_of_length_le hpos⟩
  · exact (List.take_sublist _ _).trans (admitted_sublist _ gathered)
  · intro hfree
    rw [hlengths] at hfree
    rw [List.take_of_length_le (by omega)]
    rcases hcases with heq | ⟨hnone, -⟩
    · rw [heq]
    · have hempty : gathered.filter (·.type = .reflexive) = [] :=
        List.filter_eq_nil_iff.mpr fun c hc => by simpa using hnone c hc
      rw [hempty]
      exact List.nil_sublist _
  · intro hfree c hc hhost
    rw [hlengths] at hfree
    rw [List.take_of_length_le (by omega), List.take_of_length_le (by omega)]
    exact hostOffer_complete hc hhost

/-- **Offers are well formed.**  An offer is never longer than the limit, its
reflexive candidates come before its host candidates and the relayed one comes
last; its host candidates have addresses of their own; and a candidate that was
gathered is missing only from an offer that is full but for the relay.  A punch
request sends two such offers: the host is told what the client gathered, and
the client what the host registered. -/
theorem offer_well_formed (inet : Inet Address) (hmax : 1 ≤ inet.maxCandidates) :
    (∀ observedIp punchPort gathered relayed, ∃ reflexive hosts,
      OfferParts inet observedIp punchPort gathered relayed
        (buildOffer inet observedIp punchPort gathered relayed) reflexive hosts) ∧
      ∀ alive relayed client remote serverList p,
        ∀ sent ∈ punchRequest inet alive relayed client remote serverList p,
          ∃ target ∈ serverList, target.answersTo p.targetIdentifier = true ∧
            ∃ observedIp punchPort reflexive hosts, OfferParts inet observedIp punchPort
              (if sent.2.isHost then p.candidates else target.candidates) relayed
              sent.2.candidates reflexive hosts := by
  refine ⟨buildOffer_parts hmax, ?_⟩
  intro alive relayed client remote serverList p sent hsent
  unfold punchRequest at hsent
  cases hfound : serverList.find? (·.answersTo p.targetIdentifier) with
  | none =>
      rw [hfound] at hsent
      cases hsent
  | some target =>
      rw [hfound] at hsent
      have hanswers : target.answersTo p.targetIdentifier = true := by
        simpa using List.find?_some hfound
      refine ⟨target, List.mem_of_find?_eq_some hfound, hanswers, ?_⟩
      dsimp only at hsent
      split_ifs at hsent
      · rcases List.mem_cons.mp hsent with rfl | hlast
        · exact ⟨_, _, buildOffer_parts hmax _ _ p.candidates relayed⟩
        · rw [List.mem_singleton.mp hlast]
          exact ⟨_, _, buildOffer_parts hmax _ _ target.candidates relayed⟩
      · cases hsent

/-- A host behind a reflexive address that two of its networks repeat: the offer
names each address once and ends with the relay. -/
theorem offer_well_formed_sample :
    let candidate (type : CandidateType) (host : UInt8) (port : UInt16) :
        Candidate (Bytes × UInt16) := { type := type, address := ([host], port) }
    let gathered := [candidate .host 49 5, candidate .reflexive 50 5, candidate .host 50 5,
      candidate .host 49 5, candidate .host 51 5]
    ∃ reflexive hosts, OfferParts sampleInet [50] 5 gathered (some (candidate .relayed 57 9))
      [candidate .reflexive 50 5, candidate .host 49 5, candidate .host 51 5,
        candidate .relayed 57 9] reflexive hosts := by
  intro candidate gathered
  have hoffer : buildOffer sampleInet [50] 5 gathered (some (candidate .relayed 57 9)) =
      [candidate .reflexive 50 5, candidate .host 49 5, candidate .host 51 5,
        candidate .relayed 57 9] := by
    decide +kernel
  rw [← hoffer]
  exact (offer_well_formed sampleInet (by decide)).1 [50] 5 gathered _

end Master
