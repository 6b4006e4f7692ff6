/-
The camera and its clients never lock each other up.

- `always_drains`: from everywhere a schedule in which one client gets frames, whichever it is, and none is captured,
  brings the camera back to capturing, with every frame taken and the reader lock free.
-/
import VitaminD.Stream.FrameQueue

namespace VitaminD.Stream

open Transitions BoundedQueue

variable {κ α : Type} {s t : Stream κ α} {acts : List (StreamAct κ α)} {c : κ}

/-- no frame is captured, and no other client takes the reader lock -/
def Helps (c : κ) : StreamAct κ α → Prop
  | .capture _ => False
  | .acquire (.client c') => c' = c
  | _ => True

theorem captured_step {a : StreamAct κ α} (ha : Helps c a) (h : step s a = some t) : t.captured = s.captured := by
  cases step_steps h with
  | capture => exact ha.elim
  | _ => rfl

/-- whoever holds the reader lock can release it -/
theorem settles (c : κ) (s : Stream κ α) : ∃ t, Reaches step (Helps c) s t ∧ t.frameQueue.rlock = none := by
  obtain ⟨camera, ⟨sem, buffer, pipe, rlock⟩, captured, taken⟩ := s
  rcases rlock with _ | ⟨p, _ | x | r⟩
  · exact ⟨_, .refl _, rfl⟩
  · cases pipe with
    | nil => exact ⟨_, ⟨[.giveUp, .unlock], by simp [Helps], rfl⟩, rfl⟩
    | cons x pipe => exact ⟨_, ⟨[.recv, .release, .unlock], by simp [Helps], rfl⟩, rfl⟩
  · exact ⟨_, ⟨[.release, .unlock], by simp [Helps], rfl⟩, rfl⟩
  · exact ⟨_, .single (a := .unlock) rfl trivial, rfl⟩

/-- a client gets a frame that is in the pipe -/
theorem takes (c : κ) (hlock : s.frameQueue.rlock = none) {x : α} {pipe : List α}
    (hpipe : s.frameQueue.pipe = x :: pipe) :
    ∃ t, Reaches step (Helps c) s t ∧ t.frameQueue.rlock = none ∧ t.frameQueue.pipe = pipe ∧
      t.frameQueue.buffer = s.frameQueue.buffer ∧ t.camera = s.camera := by
  obtain ⟨camera, ⟨sem, buffer, pipe, rlock⟩, captured, taken⟩ := s
  cases hlock
  cases hpipe
  refine ⟨_, ⟨[.acquire (.client c), .recv, .release, .unlock], ?_, rfl⟩, rfl, rfl, rfl, rfl⟩
  simp [Helps]

/-- a client can empty the pipe -/
theorem empties_pipe (c : κ) (hlock : s.frameQueue.rlock = none) :
    ∃ t, Reaches step (Helps c) s t ∧ t.frameQueue.rlock = none ∧ t.frameQueue.pipe = [] ∧
      t.frameQueue.buffer = s.frameQueue.buffer ∧ t.camera = s.camera := by
  generalize hpipe : s.frameQueue.pipe = pipe
  induction pipe generalizing s with
  | nil => exact ⟨s, .refl s, hlock, hpipe, rfl, rfl⟩
  | cons x pipe ih =>
    obtain ⟨t, ht, hlock, hpipe, hbuffer, hcamera⟩ := takes c hlock hpipe
    obtain ⟨u, hu, hlock, hpipe, hbuffer', hcamera'⟩ := ih hlock hpipe
    exact ⟨u, ht.trans hu, hlock, hpipe, hbuffer'.trans hbuffer, hcamera'.trans hcamera⟩

/-- the feeder can empty the buffer -/
theorem flushes (c : κ) (s : Stream κ α) :
    ∃ t, Reaches step (Helps c) s t ∧ t.frameQueue.buffer = [] ∧ t.frameQueue.rlock = s.frameQueue.rlock ∧
      t.camera = s.camera := by
  obtain ⟨camera, ⟨sem, buffer, pipe, rlock⟩, captured, taken⟩ := s
  induction buffer generalizing pipe with
  | nil => exact ⟨_, .refl _, rfl, rfl, rfl⟩
  | cons x buffer ih =>
    obtain ⟨t, ht, hbuffer, hlock, hcamera⟩ := ih (pipe ++ [x])
    exact ⟨t, .trans (.single (a := .flush) rfl trivial) ht, hbuffer, hlock, hcamera⟩

/-- a client can empty the queue -/
theorem empties (c : κ) (hlock : s.frameQueue.rlock = none) :
    ∃ t, Reaches step (Helps c) s t ∧ t.frameQueue.rlock = none ∧ t.frameQueue.items = [] ∧ t.camera = s.camera := by
  obtain ⟨t, ht, hbuffer, hlock', hcamera⟩ := flushes c s
  obtain ⟨u, hu, hlock, hpipe, hbuffer', hcamera'⟩ := empties_pipe c (hlock'.trans hlock)
  exact ⟨u, ht.trans hu, hlock, by simp [items, held, hlock, hpipe, hbuffer', hbuffer], hcamera'.trans hcamera⟩

/-- with an empty queue the camera can put what it has -/
theorem puts (c : κ) (hlock : s.frameQueue.rlock = none) (hitems : s.frameQueue.items = [])
    (hcount : s.frameQueue.Counted 2) :
    ∃ t, Reaches step (Helps c) s t ∧ t.frameQueue.rlock = none ∧ t.camera = .capturing := by
  obtain ⟨camera, ⟨sem, buffer, pipe, rlock⟩, captured, taken⟩ := s
  cases hlock
  obtain ⟨rfl, rfl⟩ : pipe = [] ∧ buffer = [] := by simpa [items, held] using hitems
  obtain rfl : sem = 2 := hcount
  cases camera with
  | capturing => exact ⟨_, .refl _, rfl, rfl⟩
  | checking x => exact ⟨_, ⟨[.full, .put], by simp [Helps], rfl⟩, rfl, rfl⟩
  | getting x => exact ⟨_, ⟨[.acquire .camera, .giveUp, .unlock, .put], by simp [Helps], rfl⟩, rfl, rfl⟩
  | putting x => exact ⟨_, ⟨[.put], by simp [Helps], rfl⟩, rfl, rfl⟩

/-- **Nothing locks up.** -/
theorem always_drains (c : κ) (h : run step start acts = some s) :
    ∃ t, Reaches step (Helps c) s t ∧ t.camera = .capturing ∧ t.frameQueue.rlock = none ∧
      t.taken.map Prod.snd = s.captured := by
  obtain ⟨t₁, h₁, hlock₁⟩ := settles c s
  obtain ⟨t₂, h₂, hlock₂, hitems₂, -⟩ := empties c hlock₁
  have hinv₂ : Inv t₂ := (h₁.trans h₂).keeps (fun s a t _ => inv_step s a t) (inv_run h)
  obtain ⟨t₃, h₃, hlock₃, hcamera₃⟩ := puts c hlock₂ hitems₂ hinv₂.counted
  obtain ⟨t, h₄, hlock, hitems, hcamera⟩ := empties c hlock₃
  have hreach := ((h₁.trans h₂).trans h₃).trans h₄
  have hinv : Inv t := hreach.keeps (fun s a t _ => inv_step s a t) (inv_run h)
  have hcaptured : t.captured = s.captured :=
    hreach.keeps (fun _ _ _ ha hu hstep => (captured_step ha hstep).trans hu) rfl
  refine ⟨t, hreach, hcamera.trans hcamera₃, hlock, ?_⟩
  have hhistory := hinv.history
  rw [hitems, hcamera, hcamera₃, hcaptured] at hhistory
  simpa [Camera.inHand] using hhistory.symm

/-- a camera that hangs is freed by the first client that comes -/
theorem always_drains_threeFrames : ∃ s t : Stream ℕ ℕ, run step start threeFrames = some s ∧ Blocked s ∧
    Reaches step (Helps 0) s t ∧ t.camera = .capturing ∧ t.taken.map Prod.snd = [1, 2, 3] := by
  have hrun : run step start threeFrames = some _ := rfl
  obtain ⟨t, hreach, hcamera, -, htaken⟩ := always_drains 0 hrun
  exact ⟨_, t, hrun, ⟨rfl, 3, rfl⟩, hreach, hcamera, htaken⟩

end VitaminD.Stream
