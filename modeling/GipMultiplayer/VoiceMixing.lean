import GipMultiplayer.TruncatedMean
import GipMultiplayer.VoicePlayback

/-!
# Mixing in machine integers

`mixFrames` adds `int16` samples in an `int32`, divides by the number of inputs
and clamps.  For up to 65536 inputs the sum never leaves the `int32`, so the
result is the truncated mean of the samples, and the clamp has nothing to do.

* `Mixer.mixFrames` — the function, on machine integers and with inputs that may
  be null;
* `Mixer.accumulate_toInt` — no overflow, after any number of inputs;
* `Mixer.toInt_mixSample` — the result is a truncated mean;
* `Mixer.mixFrames_refines` — `Voice.mixFrames` is the same on integers;
* `Mixer.mix_fair` — the law.
-/

namespace Voice

namespace Mixer

open TruncatedMean (mean)

/-- An input: a frame of samples, or null. -/
abbrev Input (samples : Nat) := Option (Vector Int16 samples)

variable {samples : Nat}

/-- What an input adds to a sample; null is silence. -/
def contribution (i : Fin samples) : Input samples → Int16
  | some input => input[i]
  | none => 0

/-- The loop over the inputs; `sum` wraps as an `int32` does. -/
def accumulate (i : Fin samples) (sum : Int32) : List (Input samples) → Int32
  | [] => sum
  | none :: inputs => accumulate i sum inputs
  | some input :: inputs => accumulate i (sum + input[i].toInt32) inputs

/-- The quotient before it is clamped. -/
def normalized (inputs : List (Input samples)) (i : Fin samples) : Int32 :=
  accumulate i 0 inputs / Int32.ofNat inputs.length

/-- The clamp. -/
def clamp (normalized : Int32) : Int32 := max (-32768) (min 32767 normalized)

/-- One sample of the output. -/
def mixSample (inputs : List (Input samples)) (i : Fin samples) : Int16 :=
  (clamp (normalized inputs i)).toInt16

/-- `gVoiceAudioProcessor::mixFrames`. -/
def mixFrames (inputs : List (Input samples)) : Vector Int16 samples :=
  if inputs = [] then Vector.replicate samples 0 else Vector.ofFn (mixSample inputs)

/-- What the inputs add to a sample. -/
def contributions (inputs : List (Input samples)) (i : Fin samples) : List Int :=
  inputs.map fun input => (contribution i input).toInt

variable {inputs : List (Input samples)} {i : Fin samples}

/-! ## The accumulator -/

/-- Samples are `int16`. -/
theorem contribution_range (i : Fin samples) (input : Input samples) :
    -2 ^ 15 ≤ (contribution i input).toInt ∧ (contribution i input).toInt < 2 ^ 15 :=
  ⟨Int16.le_toInt _, Int16.toInt_lt _⟩

/-- The loop from any sum that leaves room for the inputs. -/
theorem accumulate_toInt_from (sum : Int32) (before : Nat)
    (hbefore : -2 ^ 15 * (before : Int) ≤ sum.toInt ∧ sum.toInt ≤ (2 ^ 15 - 1) * (before : Int))
    (hsize : before + inputs.length ≤ 65536) :
    (accumulate i sum inputs).toInt = sum.toInt + (contributions inputs i).sum := by
  induction inputs generalizing sum before with
  | nil => exact (Int.add_zero _).symm
  | cons input inputs ih =>
      have hsum : (contributions (input :: inputs) i).sum =
          (contribution i input).toInt + (contributions inputs i).sum := rfl
      rw [List.length_cons] at hsize
      rw [hsum]
      cases input with
      | none =>
          have hzero : (contribution i (none : Input samples)).toInt = 0 := rfl
          rw [hzero, Int.zero_add]
          exact ih sum before hbefore (by omega)
      | some input =>
          obtain ⟨hlo, hhi⟩ := contribution_range i (some input)
          have hadd : (sum + input[i].toInt32).toInt =
              sum.toInt + (contribution i (some input)).toInt := by
            rw [Int32.toInt_add, Int16.toInt_toInt32]
            show (sum.toInt + (contribution i (some input)).toInt).bmod _ = _
            apply Int.bmod_eq_of_le <;> omega
          have hrest := ih (sum + input[i].toInt32) (before + 1) (by rw [hadd]; omega) (by omega)
          show (accumulate i (sum + input[i].toInt32) inputs).toInt = _
          rw [hrest, hadd, Int.add_assoc]

/-- **The accumulator never overflows**: after any number of inputs it is the
exact sum. -/
theorem accumulate_toInt (hsize : inputs.length ≤ 65536) (i : Fin samples) :
    (accumulate i 0 inputs).toInt = (contributions inputs i).sum := by
  have hzero : (0 : Int32).toInt = 0 := rfl
  have hroom : -2 ^ 15 * ((0 : Nat) : Int) ≤ (0 : Int32).toInt ∧
      (0 : Int32).toInt ≤ (2 ^ 15 - 1) * ((0 : Nat) : Int) := by
    rw [hzero]
    omega
  have hloop : (accumulate i 0 inputs).toInt = (0 : Int32).toInt + (contributions inputs i).sum :=
    accumulate_toInt_from 0 0 hroom (by omega)
  rwa [hzero, Int.zero_add] at hloop

/-! ## The result -/

/-- The quotient is the truncated mean. -/
theorem normalized_toInt (hne : inputs ≠ []) (hsize : inputs.length ≤ 65536) (i : Fin samples) :
    (normalized inputs i).toInt = mean (contributions inputs i) := by
  have hlength : (Int32.ofNat inputs.length).toInt = inputs.length :=
    Int32.toInt_ofNat_of_lt (by omega)
  have hpos := List.length_pos_iff.mpr hne
  have hdivisor : Int32.ofNat inputs.length ≠ -1 := by
    intro heq
    rw [heq] at hlength
    have hminus : (-1 : Int32).toInt = -1 := by decide
    omega
  rw [normalized, Int32.toInt_div_of_ne_right _ _ hdivisor, accumulate_toInt hsize, hlength]
  show _ = (contributions inputs i).sum.tdiv (contributions inputs i).length
  rw [contributions, List.length_map]

theorem contributions_ne_nil (hne : inputs ≠ []) (i : Fin samples) :
    contributions inputs i ≠ [] := by
  intro hnil
  exact hne (List.map_eq_nil_iff.mp hnil)

/-- The mean of samples is a sample. -/
theorem mean_range (hne : inputs ≠ []) (i : Fin samples) :
    -2 ^ 15 ≤ mean (contributions inputs i) ∧ mean (contributions inputs i) < 2 ^ 15 := by
  have hne' := contributions_ne_nil hne i
  constructor
  · apply TruncatedMean.le_mean hne'
    intro x hx
    obtain ⟨input, -, rfl⟩ := List.mem_map.mp hx
    exact (contribution_range i input).1
  · have hle : mean (contributions inputs i) ≤ 2 ^ 15 - 1 := by
      apply TruncatedMean.mean_le hne'
      intro x hx
      obtain ⟨input, -, rfl⟩ := List.mem_map.mp hx
      have hlt := (contribution_range i input).2
      omega
    omega

/-- A quotient that is a sample is not changed by the clamp. -/
theorem clamp_eq {n : Int32} (h : -2 ^ 15 ≤ n.toInt ∧ n.toInt < 2 ^ 15) : clamp n = n := by
  have hhi : min 32767 n = n := by
    show (if 32767 ≤ n then 32767 else n) = n
    split_ifs with hle
    · rw [Int32.le_iff_toInt_le] at hle
      apply Int32.toInt_inj.mp
      have hbound : (32767 : Int32).toInt = 32767 := by decide
      omega
    · rfl
  have hlo : -32768 ≤ n := by
    rw [Int32.le_iff_toInt_le]
    have hbound : (-32768 : Int32).toInt = -32768 := by decide
    omega
  rw [clamp, hhi]
  exact if_pos hlo

/-- **A sample of the output is the truncated mean** of what the inputs add. -/
theorem toInt_mixSample (hne : inputs ≠ []) (hsize : inputs.length ≤ 65536) (i : Fin samples) :
    clamp (normalized inputs i) = normalized inputs i ∧
      (mixSample inputs i).toInt = mean (contributions inputs i) := by
  obtain ⟨hlo, hhi⟩ := mean_range hne i
  have hmean := normalized_toInt hne hsize i
  have hclamp : clamp (normalized inputs i) = normalized inputs i :=
    clamp_eq (by rw [hmean]; exact ⟨hlo, hhi⟩)
  refine ⟨hclamp, ?_⟩
  rw [mixSample, hclamp, Int32.toInt_toInt16, hmean]
  apply Int.bmod_eq_of_le <;> omega

theorem getElem_mixFrames (hne : inputs ≠ []) (i : Fin samples) :
    (mixFrames inputs)[i] = mixSample inputs i := by
  unfold mixFrames
  rw [if_neg hne]
  exact Vector.getElem_ofFn _

theorem toInt_mixFrames (hne : inputs ≠ []) (hsize : inputs.length ≤ 65536) (i : Fin samples) :
    (mixFrames inputs)[i].toInt = mean (contributions inputs i) := by
  rw [getElem_mixFrames hne]
  exact (toInt_mixSample hne hsize i).2

/-- Some input is no louder than the mix. -/
theorem exists_le_mixFrames (hne : inputs ≠ []) (hsize : inputs.length ≤ 65536)
    (i : Fin samples) : ∃ input ∈ inputs, contribution i input ≤ (mixFrames inputs)[i] := by
  obtain ⟨x, hx, hle⟩ := TruncatedMean.exists_le_mean (contributions_ne_nil hne i)
  obtain ⟨input, hinput, rfl⟩ := List.mem_map.mp hx
  refine ⟨input, hinput, ?_⟩
  rw [Int16.le_iff_toInt_le, toInt_mixFrames hne hsize]
  exact hle

/-- Some input is no quieter than the mix. -/
theorem exists_ge_mixFrames (hne : inputs ≠ []) (hsize : inputs.length ≤ 65536)
    (i : Fin samples) : ∃ input ∈ inputs, (mixFrames inputs)[i] ≤ contribution i input := by
  obtain ⟨x, hx, hle⟩ := TruncatedMean.exists_ge_mean (contributions_ne_nil hne i)
  obtain ⟨input, hinput, rfl⟩ := List.mem_map.mp hx
  refine ⟨input, hinput, ?_⟩
  rw [Int16.le_iff_toInt_le, toInt_mixFrames hne hsize]
  exact hle

/-- The order of the inputs does not matter. -/
theorem mixFrames_perm {order : List (Input samples)} (h : order.Perm inputs)
    (hsize : inputs.length ≤ 65536) : mixFrames order = mixFrames inputs := by
  have hlength := h.length_eq
  by_cases hne : inputs = []
  · subst hne
    rw [h.eq_nil]
  · have hne' : order ≠ [] := by
      rintro rfl
      exact hne (List.length_eq_zero_iff.mp hlength.symm)
    apply Vector.ext
    intro k hk
    apply Int16.toInt_inj.mp
    have horder := toInt_mixFrames hne' (by omega) ⟨k, hk⟩
    have hinputs := toInt_mixFrames hne hsize ⟨k, hk⟩
    have hperm : (contributions order ⟨k, hk⟩).Perm (contributions inputs ⟨k, hk⟩) := h.map _
    calc (mixFrames order)[k].toInt = mean (contributions order ⟨k, hk⟩) := horder
      _ = mean (contributions inputs ⟨k, hk⟩) := TruncatedMean.mean_perm hperm
      _ = (mixFrames inputs)[k].toInt := hinputs.symm

/-- Louder inputs have no quieter mix. -/
theorem mixFrames_mono {louder : List (Input samples)} (hne : inputs ≠ [])
    (hsize : inputs.length ≤ 65536) (i : Fin samples)
    (h : List.Forall₂ (fun a b => (contribution i a).toInt ≤ (contribution i b).toInt) inputs
      louder) :
    (mixFrames inputs)[i].toInt ≤ (mixFrames louder)[i].toInt := by
  have hlength := h.length_eq
  have hne' : louder ≠ [] := by
    rintro rfl
    exact hne (List.length_eq_zero_iff.mp hlength)
  rw [toInt_mixFrames hne hsize, toInt_mixFrames hne' (by omega)]
  apply TruncatedMean.mean_mono
  exact List.forall₂_map_left_iff.mpr (List.forall₂_map_right_iff.mpr h)

/-- Replacing one input by a louder one. -/
theorem forall₂_set {R : Input samples → Input samples → Prop} (hrefl : ∀ a, R a a)
    {n : Nat} {a b : Input samples} (hget : inputs[n]? = some a) (h : R a b) :
    List.Forall₂ R inputs (inputs.set n b) := by
  rw [List.forall₂_iff_get]
  refine ⟨(List.length_set ..).symm, ?_⟩
  intro k hk hk'
  rcases eq_or_ne n k with rfl | hdiff
  · have hat : inputs[n] = a := List.getElem_eq_iff hk |>.mpr hget
    simpa [hat] using h
  · simpa [List.getElem_set, hdiff] using hrefl _

/-- A louder sample in one input. -/
theorem mixFrames_set (hne : inputs ≠ []) (hsize : inputs.length ≤ 65536) (i : Fin samples)
    {n : Nat} {input : Vector Int16 samples} {j : Fin samples} {sample : Int16}
    (hget : inputs[n]? = some (some input)) (hle : input[j] ≤ sample) :
    (mixFrames inputs)[i] ≤ (mixFrames (inputs.set n (some (input.set j sample))))[i] := by
  rw [Int16.le_iff_toInt_le]
  apply mixFrames_mono hne hsize
  refine forall₂_set (R := fun a b => (contribution i a).toInt ≤ (contribution i b).toInt)
    (fun _ => le_rfl) hget ?_
  show input[i].toInt ≤ (input.set j sample)[i].toInt
  rcases eq_or_ne j i with rfl | hdiff
  · have hset : (input.set j sample)[j] = sample := Vector.getElem_set_self _
    rw [hset]
    exact Int16.le_iff_toInt_le.mp hle
  · have hset : (input.set j sample)[i] = input[i] :=
      Vector.getElem_set_ne _ _ fun heq => hdiff (Fin.ext heq)
    rw [hset]

/-! ## The integer model -/

/-- An input as a list of integers; null has no samples. -/
def frame : Input samples → List Int
  | some input => input.toList.map Int16.toInt
  | none => []

theorem getD_frame (i : Fin samples) (input : Input samples) :
    (frame input).getD i 0 = (contribution i input).toInt := by
  cases input with
  | none => rfl
  | some input => simp [frame, contribution]

/-- **`Voice.mixFrames` is this function** on integers. -/
theorem mixFrames_refines (hsize : inputs.length ≤ 65536) :
    (mixFrames inputs).toList.map Int16.toInt = Voice.mixFrames (inputs.map frame) samples := by
  apply List.ext_getElem
  · simp [Voice.mixFrames]
  intro k hk hk'
  rw [List.length_map, Vector.length_toList] at hk
  by_cases hne : inputs = []
  · simp [hne, Voice.mixFrames, mixFrames]
  · obtain ⟨hlo, hhi⟩ := mean_range hne ⟨k, hk⟩
    have hmix := toInt_mixFrames hne hsize ⟨k, hk⟩
    have hsum : ((inputs.map frame).map fun input => input.getD k 0) =
        contributions inputs ⟨k, hk⟩ := by
      rw [List.map_map]
      exact List.map_congr_left fun input _ => getD_frame ⟨k, hk⟩ input
    have hmean : (contributions inputs ⟨k, hk⟩).sum.tdiv (inputs.map frame).length =
        mean (contributions inputs ⟨k, hk⟩) := by
      rw [mean, contributions, List.length_map, List.length_map]
    have hne' : inputs.map frame ≠ [] := fun hnil => hne (List.map_eq_nil_iff.mp hnil)
    have hright : (Voice.mixFrames (inputs.map frame) samples)[k] =
        mean (contributions inputs ⟨k, hk⟩) := by
      simp only [Voice.mixFrames, List.getElem_map, List.getElem_range, if_neg hne', hsum, hmean]
      omega
    rw [hright, List.getElem_map, Vector.getElem_toList]
    exact hmix

/-! ## The law -/

/-- **Mixing cannot overflow and is fair.** -/
theorem mix_fair (inputs : List (Input samples)) (hne : inputs ≠ [])
    (hsize : inputs.length ≤ 65536) (i : Fin samples) :
    (∀ n, (accumulate i 0 (inputs.take n)).toInt = (contributions (inputs.take n) i).sum) ∧
      (∃ input ∈ inputs, contribution i input ≤ (mixFrames inputs)[i]) ∧
      (∃ input ∈ inputs, (mixFrames inputs)[i] ≤ contribution i input) ∧
      clamp (normalized inputs i) = normalized inputs i ∧
      (∀ order : List (Input samples), order.Perm inputs → mixFrames order = mixFrames inputs) ∧
      ∀ (n : Nat) (input : Vector Int16 samples) (j : Fin samples) (sample : Int16),
        inputs[n]? = some (some input) → input[j] ≤ sample →
        (mixFrames inputs)[i] ≤ (mixFrames (inputs.set n (some (input.set j sample))))[i] := by
  refine ⟨?_, exists_le_mixFrames hne hsize i, exists_ge_mixFrames hne hsize i,
    (toInt_mixSample hne hsize i).1, fun _ h => mixFrames_perm h hsize,
    fun _ _ _ _ hget hle => mixFrames_set hne hsize i hget hle⟩
  intro n
  have hprefix : (inputs.take n).length ≤ inputs.length := List.length_take_le' n inputs
  exact accumulate_toInt (by omega) i

/-- Two speakers and a null: `(-3 + 32767) / 3`. -/
theorem mix_fair_three :
    let inputs : List (Input 1) := [some #v[-3], none, some #v[32767]]
    ((mixFrames inputs)[(0 : Fin 1)] = 10921) ∧
      clamp (normalized inputs 0) = normalized inputs 0 ∧
      mixFrames inputs.reverse = mixFrames inputs ∧
      (mixFrames inputs)[(0 : Fin 1)] ≤ (mixFrames [some #v[5], none, some #v[32767]])[(0 : Fin 1)] :=
  have hlaw := mix_fair [some #v[-3], none, some #v[32767]] (by decide) (by decide) (0 : Fin 1)
  ⟨by decide, hlaw.2.2.2.1, hlaw.2.2.2.2.1 _ (List.reverse_perm _),
    hlaw.2.2.2.2.2 0 #v[-3] 0 5 rfl (by decide)⟩

end Mixer

end Voice
