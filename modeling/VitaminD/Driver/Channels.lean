/-
The channels that a driver hands out. `PCAChannels.__getitem__` creates a channel when its slot is first asked for and
keeps it; a negative index names a slot from the end, but the channel created for it keeps the negative index, for which
there are no registers.

- **`channels_handed_out`**: after any sequence of requests, the channel got for an index is the one created by the
  first request for the same slot; a request outside -16 to 15 raises.
-/
import VitaminD.Driver.Frequency

namespace VitaminD.Driver

/-! ## Requests in a row -/

/-- `pca.channels[index]` for each index in turn -/
def takeAll (pca : PCA9685) : List ℤ → Except Exc (List PWMChannel × PCA9685)
  | [] => .ok ([], pca)
  | index :: rest => do
    let taken ← pca.getItem index
    let others ← takeAll taken.2 rest
    return (taken.1 :: others.1, others.2)

/-- the first request for the slot of an index -/
def firstFor (requests : List ℤ) (index : ℤ) : ℤ := (requests.find? fun i => i % 16 = index % 16).getD index

/-- every slot holds the channel of the first request for it -/
def Caches (pca : PCA9685) (requests : List ℤ) : Prop :=
  ∀ slot : Fin 16, pca.channels[slot] = (requests.find? fun i => i % 16 = (slot : ℤ)).map PWMChannel.mk

theorem caches_board : Caches board [] := by
  intro slot
  simp [board]

/-- one request: the slot is filled if it was empty -/
theorem getItem_caches {pca : PCA9685} {requests : List ℤ} (h : Caches pca requests) {index : ℤ}
    (hindex : -16 ≤ index ∧ index < 16) :
    ∃ pca', pca.getItem index = .ok (⟨firstFor (requests ++ [index]) index⟩, pca') ∧
      Caches pca' (requests ++ [index]) := by
  have hmod : ((index % 16).toNat : ℤ) = index % 16 := Int.toNat_of_nonneg (Int.emod_nonneg index (by decide))
  have hlt : (index % 16).toNat < 16 := by omega
  have hslot := h ⟨(index % 16).toNat, hlt⟩
  have hother (slot : Fin 16) (hne : index % 16 ≠ (slot : ℤ)) :
      (requests ++ [index]).find? (fun i => i % 16 = (slot : ℤ)) = requests.find? fun i => i % 16 = (slot : ℤ) := by
    rw [List.find?_append, List.find?_singleton, if_neg (by simpa using hne), Option.or_none]
  have hfirst : (requests ++ [index]).find? (fun i => i % 16 = index % 16) =
      (requests.find? fun i => i % 16 = index % 16).or (some index) := by
    rw [List.find?_append, List.find?_singleton, if_pos (by simp)]
  simp only [hmod] at hslot
  unfold PCA9685.getItem firstFor
  rw [if_pos hindex, hfirst]
  cases hfind : requests.find? fun i => i % 16 = index % 16 with
  | some first =>
    rw [hfind] at hslot
    refine ⟨pca, by simp only [hslot]; rfl, fun slot => ?_⟩
    by_cases hne : index % 16 = (slot : ℤ)
    · rw [h slot, ← hne, hfirst, hfind]
      rfl
    · rw [h slot, hother slot hne]
  | none =>
    rw [hfind] at hslot
    refine ⟨{ pca with channels := pca.channels.set (index % 16).toNat (some ⟨index⟩) }, by simp only [hslot]; rfl, ?_⟩
    intro slot
    by_cases hne : index % 16 = (slot : ℤ)
    · have heq : (index % 16).toNat = slot := by omega
      rw [← hne, hfirst, hfind]
      simp [heq]
    · have hne' : (index % 16).toNat ≠ slot := by omega
      rw [hother slot hne, ← h slot]
      simp [hne']

/-- later requests do not change the channel of an index that has been asked for -/
theorem firstFor_append {requests : List ℤ} {index : ℤ} (h : index ∈ requests) (later : List ℤ) :
    firstFor (requests ++ later) index = firstFor requests index := by
  unfold firstFor
  rw [List.find?_append]
  cases hfind : requests.find? fun i => i % 16 = index % 16 with
  | some first => rfl
  | none =>
    have hnot := List.find?_eq_none.1 hfind index h
    simp at hnot

theorem takeAll_caches {pca : PCA9685} {past requests : List ℤ} (h : Caches pca past)
    (hrequests : ∀ i ∈ requests, -16 ≤ i ∧ i < 16) :
    ∃ pca', takeAll pca requests = .ok (requests.map fun i => ⟨firstFor (past ++ requests) i⟩, pca') := by
  induction requests generalizing pca past with
  | nil => exact ⟨pca, rfl⟩
  | cons index rest ih =>
    obtain ⟨hindex, hrest⟩ := List.forall_mem_cons.1 hrequests
    obtain ⟨pca1, htaken, h1⟩ := getItem_caches h hindex
    obtain ⟨pca2, hothers⟩ := ih h1 hrest
    rw [List.append_assoc, List.singleton_append] at hothers
    have hmem : index ∈ past ++ [index] := List.mem_append_right past (List.mem_singleton.2 rfl)
    have hfirst := firstFor_append hmem rest
    rw [List.append_assoc, List.singleton_append] at hfirst
    refine ⟨pca2, ?_⟩
    rw [takeAll, htaken]
    simp only [bind, Except.bind, hothers, List.map_cons, hfirst]
    rfl

/-- a request for a slot that there is not -/
theorem takeAll_indexError {pca : PCA9685} {past requests : List ℤ} (h : Caches pca past)
    (hrequests : ¬∀ i ∈ requests, -16 ≤ i ∧ i < 16) : takeAll pca requests = .error (.other "IndexError") := by
  induction requests generalizing pca past with
  | nil => exact absurd (by simp) hrequests
  | cons index rest ih =>
    by_cases hindex : -16 ≤ index ∧ index < 16
    · obtain ⟨pca1, htaken, h1⟩ := getItem_caches h hindex
      have hrest := ih h1 fun hall => hrequests (List.forall_mem_cons.2 ⟨hindex, hall⟩)
      rw [takeAll, htaken]
      simp only [bind, Except.bind, hrest]
    · have hraise : pca.getItem index = .error (.other "IndexError") := if_neg hindex
      rw [takeAll, hraise]
      rfl

/-- **A slot belongs to the first index it is asked for by**, and only the indices of slots are answered. -/
theorem channels_handed_out (requests : List ℤ) :
    match takeAll board requests with
    | .ok (channels, _) => (∀ i ∈ requests, -16 ≤ i ∧ i < 16) ∧ channels = requests.map fun i => ⟨firstFor requests i⟩
    | .error e => ¬(∀ i ∈ requests, -16 ≤ i ∧ i < 16) ∧ e = .other "IndexError" := by
  by_cases h : ∀ i ∈ requests, -16 ≤ i ∧ i < 16
  · obtain ⟨pca, htaken⟩ := takeAll_caches caches_board h
    rw [htaken]
    exact ⟨h, rfl⟩
  · rw [takeAll_indexError caches_board h]
    exact ⟨h, rfl⟩

/-- -1 is asked for first, and 15 is then answered by its channel, which has no registers -/
example : (takeAll board [-1, 15]).toOption.map Prod.fst = some [⟨-1⟩, ⟨-1⟩] := by decide

end VitaminD.Driver
