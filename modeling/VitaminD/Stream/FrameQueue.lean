/-
What the clients of the camera get, whatever the order in which the camera, the feeder thread and the clients act.

- `frames_in_order`: every captured frame is in one place, taken, in the queue or in the camera's hand, and these follow
  each other in the order of capture; what a client has received is some of the captured frames, in order.
- `taken_fresh`: a frame that is taken is the oldest there is, at most two have been captured after it, and a frame that
  the camera drops is never the last one captured.
- `blocked_iff`: the camera hangs in `put` exactly if `get_nowait` has raised `Empty` on a full queue and no frame has
  been taken since.
-/
import VitaminD.Model.Picamera

namespace VitaminD.Stream

open Transitions BoundedQueue

variable {κ α : Type} {s t : Stream κ α} {a : StreamAct κ α} {acts : List (StreamAct κ α)}

/-! ## What a step can do -/

/-- the steps one by one, each with what it needs -/
inductive Steps : Stream κ α → StreamAct κ α → Stream κ α → Prop where
  | capture {s : Stream κ α} (x : α) (hcamera : s.camera = .capturing) :
    Steps s (.capture x) { s with camera := .checking x, captured := s.captured ++ [x] }
  | get {s : Stream κ α} {x : α} (hcamera : s.camera = .checking x) (hsem : s.frameQueue.sem = 0) :
    Steps s .full { s with camera := .getting x }
  | pass {s : Stream κ α} {x : α} (hcamera : s.camera = .checking x) (hsem : s.frameQueue.sem ≠ 0) :
    Steps s .full { s with camera := .putting x }
  | put {s : Stream κ α} {x : α} {q} (hcamera : s.camera = .putting x) (hq : s.frameQueue.put x = some q) :
    Steps s .put { s with camera := .capturing, frameQueue := q }
  | flush {s : Stream κ α} {q} (hq : s.frameQueue.flush = some q) : Steps s .flush { s with frameQueue := q }
  | acquire {s : Stream κ α} {p : Party κ} {q} (hq : s.frameQueue.acquire p = some q)
    (hcamera : p = .camera → ∃ x, s.camera = .getting x) : Steps s (.acquire p) { s with frameQueue := q }
  | recv {s : Stream κ α} {q} (hq : s.frameQueue.recv = some q) : Steps s .recv { s with frameQueue := q }
  | release {s : Stream κ α} {p : Party κ} {x : α} {q} (hq : s.frameQueue.release = some ((p, x), q)) :
    Steps s .release { s with frameQueue := q, taken := s.taken ++ [(p, x)] }
  | giveUp {s : Stream κ α} {q} (hq : s.frameQueue.giveUp = some q) : Steps s .giveUp { s with frameQueue := q }
  | unlock {s : Stream κ α} {p : Party κ} {r : Option α} {q} (hq : s.frameQueue.unlock = some ((p, r), q)) :
    Steps s .unlock { s with camera := afterGet p r s.camera, frameQueue := q }
  | refused {s : Stream κ α} {x : α} {c : κ} {y : Hold α} (hcamera : s.camera = .getting x)
    (hlock : s.frameQueue.rlock = some (.client c, y)) : Steps s .refused { s with camera := .putting x }

theorem step_steps (h : step s a = some t) : Steps s a t := by
  cases a with
  | capture x =>
    simp only [step] at h
    split at h
    · cases h
      exact .capture x ‹_›
    · cases h
  | full =>
    simp only [step] at h
    split at h
    · cases h
      split_ifs with hfull
      · exact .get ‹_› (full_iff.1 hfull)
      · exact .pass ‹_› (hfull ∘ full_iff.2)
    · cases h
  | put =>
    simp only [step] at h
    split at h
    · obtain ⟨q, hq, rfl⟩ := Option.map_eq_some_iff.1 h
      exact .put ‹_› hq
    · cases h
  | flush =>
    obtain ⟨q, hq, rfl⟩ := Option.map_eq_some_iff.1 h
    exact .flush hq
  | acquire p =>
    cases p with
    | camera =>
      simp only [step] at h
      split at h
      · obtain ⟨q, hq, rfl⟩ := Option.map_eq_some_iff.1 h
        exact .acquire hq fun _ => ⟨_, ‹_›⟩
      · cases h
    | client c =>
      obtain ⟨q, hq, rfl⟩ := Option.map_eq_some_iff.1 h
      exact .acquire hq fun hc => by cases hc
  | recv =>
    obtain ⟨q, hq, rfl⟩ := Option.map_eq_some_iff.1 h
    exact .recv hq
  | release =>
    obtain ⟨⟨⟨p, x⟩, q⟩, hq, rfl⟩ := Option.map_eq_some_iff.1 h
    exact .release hq
  | giveUp =>
    obtain ⟨q, hq, rfl⟩ := Option.map_eq_some_iff.1 h
    exact .giveUp hq
  | unlock =>
    obtain ⟨⟨⟨p, r⟩, q⟩, hq, rfl⟩ := Option.map_eq_some_iff.1 h
    exact .unlock hq
  | refused =>
    simp only [step] at h
    split at h
    · cases h
      exact .refused ‹_› ‹_›
    · cases h

/-! ## The invariant -/

/-- the queue counts its places, only a camera in `get_nowait` holds the reader lock for the camera, and every captured
frame is in one place -/
structure Inv (s : Stream κ α) : Prop where
  counted : s.frameQueue.Counted 2
  owned : ∀ y, s.frameQueue.rlock = some (.camera, y) → ∃ x, s.camera = .getting x
  history : s.captured = s.taken.map Prod.snd ++ s.frameQueue.items ++ s.camera.inHand

theorem inv_start : Inv (start : Stream κ α) := by
  refine ⟨counted_init, ?_, rfl⟩
  intro y h
  cases h

@[simp] theorem inHand_afterGet (p : Party κ) (r : Option α) (camera : Camera α) :
    (afterGet p r camera).inHand = camera.inHand := by
  cases p <;> cases r <;> cases camera <;> rfl

theorem counted_steps (hs : s.frameQueue.Counted 2) (h : Steps s a t) : t.frameQueue.Counted 2 := by
  cases h with
  | capture | get | pass | refused => exact hs
  | put _ hq => exact hs.put hq
  | flush hq => exact hs.of_same (flush_same hq)
  | acquire hq => exact hs.of_same (acquire_same hq)
  | recv hq => exact hs.of_same (recv_same hq)
  | release hq => exact hs.release hq
  | giveUp hq => exact hs.of_same (giveUp_same hq)
  | unlock hq => exact hs.of_same (unlock_same hq)

theorem owned_steps (hs : ∀ y, s.frameQueue.rlock = some (.camera, y) → ∃ x, s.camera = .getting x)
    (h : Steps s a t) : ∀ y, t.frameQueue.rlock = some (.camera, y) → ∃ x, t.camera = .getting x := by
  intro y hlock
  cases h with
  | capture x hcamera =>
    obtain ⟨z, hz⟩ := hs y hlock
    exact absurd (hcamera.symm.trans hz) (by simp)
  | get => exact ⟨_, rfl⟩
  | pass hcamera =>
    obtain ⟨z, hz⟩ := hs y hlock
    exact absurd (hcamera.symm.trans hz) (by simp)
  | put hcamera hq =>
    obtain ⟨-, rfl⟩ := put_iff.1 hq
    obtain ⟨z, hz⟩ := hs y hlock
    exact absurd (hcamera.symm.trans hz) (by simp)
  | flush hq =>
    obtain ⟨x, buffer, -, rfl⟩ := flush_iff.1 hq
    exact hs y hlock
  | acquire hq hcamera =>
    obtain ⟨-, rfl⟩ := acquire_iff.1 hq
    cases hlock
    exact hcamera rfl
  | recv hq =>
    obtain ⟨i, x, pipe, hi, -, rfl⟩ := recv_iff.1 hq
    cases hlock
    exact hs _ hi
  | release hq =>
    obtain ⟨hi, rfl⟩ := release_iff.1 hq
    cases hlock
    exact hs _ hi
  | giveUp hq =>
    obtain ⟨i, hi, -, rfl⟩ := giveUp_iff.1 hq
    cases hlock
    exact hs _ hi
  | unlock hq =>
    obtain ⟨-, rfl⟩ := unlock_iff.1 hq
    cases hlock
  | refused _ hlock' => cases hlock'.symm.trans hlock

theorem history_steps (hs : s.captured = s.taken.map Prod.snd ++ s.frameQueue.items ++ s.camera.inHand)
    (h : Steps s a t) : t.captured = t.taken.map Prod.snd ++ t.frameQueue.items ++ t.camera.inHand := by
  cases h with
  | capture x hcamera =>
    rw [hcamera] at hs
    simp [hs, Camera.inHand]
  | get hcamera | pass hcamera | refused hcamera =>
    rw [hcamera] at hs
    exact hs
  | put hcamera hq =>
    rw [hcamera] at hs
    simp [hs, put_items hq, Camera.inHand]
  | flush hq => simpa [(flush_same hq).items] using hs
  | acquire hq => simpa [(acquire_same hq).items] using hs
  | recv hq => simpa [(recv_same hq).items] using hs
  | release hq => simp [hs, release_items hq]
  | giveUp hq => simpa [(giveUp_same hq).items] using hs
  | unlock hq => simpa [(unlock_same hq).items] using hs

theorem inv_step (s : Stream κ α) (a : StreamAct κ α) (t : Stream κ α) (hs : Inv s) (h : step s a = some t) : Inv t :=
  have hsteps := step_steps h
  ⟨counted_steps hs.counted hsteps, owned_steps hs.owned hsteps, history_steps hs.history hsteps⟩

theorem inv_run (h : run step start acts = some s) : Inv s := run_inv inv_step inv_start h

/-! ## What the clients get -/

theorem inHand_length_le (camera : Camera α) : camera.inHand.length ≤ 1 := by
  cases camera <;> simp [Camera.inHand]

theorem Inv.receivedBy_sublist [DecidableEq κ] (hs : Inv s) (c : κ) : (s.receivedBy c).Sublist s.captured := by
  have htaken : (s.receivedBy c).Sublist (s.taken.map Prod.snd) := List.filter_sublist.map Prod.snd
  rw [hs.history, List.append_assoc]
  exact htaken.trans (List.sublist_append_left _ _)

/-- **No frame is lost, sent twice or overtaken.** Every captured frame is taken, in the queue or in the camera's hand,
in the order of capture, and each client has received some of them in that order. -/
theorem frames_in_order [DecidableEq κ] (h : run step start acts = some s) :
    s.captured = s.taken.map Prod.snd ++ s.frameQueue.items ++ s.camera.inHand ∧ s.frameQueue.items.length ≤ 2 ∧
      ∀ c, (s.receivedBy c).Sublist s.captured := by
  have hinv := inv_run h
  exact ⟨hinv.history, hinv.counted.length_le, hinv.receivedBy_sublist⟩

/-- two frames: client 0 gets the first while the second is on its way, and client 1 waits for the second -/
def session (x y : α) : List (StreamAct ℕ α) :=
  [.capture x, .full, .put, .flush, .acquire (.client 0), .recv, .capture y, .full, .release, .put, .unlock,
    .acquire (.client 1), .flush]

theorem frames_in_order_session : ∃ s : Stream ℕ ℕ, run step start (session 1 2) = some s ∧
    s.captured = [1, 2] ∧ s.captured = s.taken.map Prod.snd ++ s.frameQueue.items ++ s.camera.inHand :=
  have hrun : run step start (session 1 2) = some _ := rfl
  ⟨_, hrun, rfl, (frames_in_order hrun).1⟩

/-- what a release returns is the oldest frame not yet taken -/
theorem Inv.release (hs : Inv s) {p : Party κ} {x : α} {q} (hq : s.frameQueue.release = some ((p, x), q)) :
    s.captured = s.taken.map Prod.snd ++ x :: (q.items ++ s.camera.inHand) ∧
      (q.items ++ s.camera.inHand).length ≤ 2 ∧ (p = .camera → q.items ++ s.camera.inHand ≠ []) := by
  have hitems := release_items hq
  refine ⟨by rw [hs.history, hitems]; simp, ?_, ?_⟩
  · have hlength := hs.counted.length_le
    rw [hitems, List.length_cons] at hlength
    have hhand := inHand_length_le s.camera
    rw [List.length_append]
    omega
  · rintro rfl
    obtain ⟨z, hz⟩ := hs.owned _ (release_iff.1 hq).1
    simp [hz, Camera.inHand]

/-- **What is taken is fresh.** A frame that is taken is the oldest one not taken yet, at most two have been captured
after it, and the camera never drops the last frame captured. -/
theorem taken_fresh (hs : run step start acts = some s) (ht : step s .release = some t) :
    ∃ p x newer, t.taken = s.taken ++ [(p, x)] ∧ s.captured = s.taken.map Prod.snd ++ x :: newer ∧
      newer.length ≤ 2 ∧ (p = .camera → newer ≠ []) := by
  have hinv := inv_run hs
  cases step_steps ht with
  | release hq => exact ⟨_, _, _, rfl, hinv.release hq⟩

/-- client 0 is about to get the first frame, the second being captured already -/
theorem taken_fresh_session : ∃ s t : Stream ℕ ℕ, run step start ((session 1 2).take 8) = some s ∧
    step s .release = some t ∧ ∃ p x newer, t.taken = s.taken ++ [(p, x)] ∧
      s.captured = s.taken.map Prod.snd ++ x :: newer ∧ newer.length ≤ 2 ∧ (p = .camera → newer ≠ []) :=
  have hrun : run step start ((session 1 2).take 8) = some _ := rfl
  ⟨_, _, hrun, rfl, taken_fresh hrun rfl⟩

/-! ## When the camera hangs -/

/-- the camera waits in `put` for a place -/
def Blocked (s : Stream κ α) : Prop := s.frameQueue.sem = 0 ∧ ∃ x, s.camera = .putting x

/-- `get_nowait` raises `Empty` to the camera while the queue is full -/
def EmptyWhenFull (s : Stream κ α) (a : StreamAct κ α) : Prop :=
  s.frameQueue.sem = 0 ∧ (a = .refused ∨ a = .unlock ∧ s.frameQueue.rlock = some (.camera, .leaving none))

theorem blocked_step (s : Stream κ α) (a : StreamAct κ α) (t : Stream κ α) (hs : Inv s) (h : step s a = some t) :
    Blocked t ↔ EmptyWhenFull s a ∨ Blocked s ∧ a ≠ .release := by
  cases step_steps h with
  | capture x hcamera => simp [Blocked, EmptyWhenFull, hcamera]
  | get hcamera hsem => simp [Blocked, EmptyWhenFull, hcamera]
  | pass hcamera hsem => simp [Blocked, EmptyWhenFull, hsem]
  | put hcamera hq => simp [Blocked, EmptyWhenFull, (put_iff.1 hq).1.ne']
  | flush hq => simp [Blocked, EmptyWhenFull, (flush_same hq).sem]
  | acquire hq => simp [Blocked, EmptyWhenFull, (acquire_same hq).sem]
  | recv hq => simp [Blocked, EmptyWhenFull, (recv_same hq).sem]
  | release hq =>
    obtain ⟨-, rfl⟩ := release_iff.1 hq
    simp [Blocked, EmptyWhenFull]
  | giveUp hq => simp [Blocked, EmptyWhenFull, (giveUp_same hq).sem]
  | @unlock p r q hq =>
    have hsem := (unlock_same hq).sem
    obtain ⟨hlock, -⟩ := unlock_iff.1 hq
    cases p with
    | client c => cases r <;> simp [Blocked, EmptyWhenFull, hsem, hlock, afterGet]
    | camera =>
      obtain ⟨x, hx⟩ := hs.owned _ hlock
      cases r <;> simp [Blocked, EmptyWhenFull, hsem, hlock, hx, afterGet]
  | refused hcamera => simp [Blocked, EmptyWhenFull, hcamera]

/-- **When the camera hangs.** The camera waits in `put` exactly if `get_nowait` has raised `Empty` on a full queue and
no frame has been taken since. -/
theorem blocked_iff (h : run step start acts = some s) :
    Blocked s ↔ Since step EmptyWhenFull (· = .release) start acts := by
  refine run_since inv_step blocked_step inv_start ?_ h
  rintro ⟨hsem, -⟩
  cases hsem

/-- three frames while the feeder thread sleeps -/
def threeFrames : List (StreamAct ℕ ℕ) :=
  [.capture 1, .full, .put, .capture 2, .full, .put, .capture 3, .full, .acquire .camera, .giveUp, .unlock]

/-- the camera hangs on the third frame, though no client has ever come -/
theorem blocked_iff_threeFrames : ∃ s : Stream ℕ ℕ, run step start threeFrames = some s ∧ Blocked s ∧
    Since step EmptyWhenFull (· = .release) start threeFrames :=
  have hrun : run step start threeFrames = some _ := rfl
  have hblocked : Blocked _ := ⟨rfl, 3, rfl⟩
  ⟨_, hrun, hblocked, (blocked_iff hrun).1 hblocked⟩

end VitaminD.Stream
