/-
A queue between processes as `multiprocessing.Queue(maxsize)` has it. A semaphore counts the places left. `put` takes a
place and leaves the item in the buffer of the putting process, which a feeder thread empties into a pipe. `get` takes
the reader lock, waits for the pipe to have something, receives it, gives the place back and releases the lock; a `get`
that does not wait, or has waited long enough, finds the pipe empty and releases the lock with nothing.

Each operation is here with the point at which it is done, `none` where it has to wait:
- `put_iff`, `flush_iff`, `acquire_iff`, `recv_iff`, `giveUp_iff`, `release_iff`, `unlock_iff`: what each does and when;
- `items`: a put adds at the end, a release takes from the front, and the others leave it as it is (`Same`);
- `Counted`: places left and items in the queue add up to the size, which every operation keeps.
-/
import Mathlib.Tactic

namespace VitaminD

/-- how far a reader with the lock has come -/
inductive Hold (α : Type) where
  | polling
  | received (item : α)
  /-- with an item, whose place has been given back, or with nothing -/
  | leaving (result : Option α)
deriving DecidableEq, Repr

/-- the places left, the items still in the buffer, those in the pipe, and the reader that holds the lock -/
structure BoundedQueue (ι α : Type) where
  sem : ℕ
  buffer : List α
  pipe : List α
  rlock : Option (ι × Hold α)
deriving DecidableEq, Repr

namespace BoundedQueue

variable {ι α : Type} {q q' : BoundedQueue ι α} {i : ι} {x : α} {n : ℕ} {r : Option α}

/-- an empty queue of a size -/
def init (maxsize : ℕ) : BoundedQueue ι α := ⟨maxsize, [], [], none⟩

def full (q : BoundedQueue ι α) : Bool := q.sem == 0

/-- `put` past the semaphore -/
def put (q : BoundedQueue ι α) (x : α) : Option (BoundedQueue ι α) :=
  if q.full then none else some { q with sem := q.sem - 1, buffer := q.buffer ++ [x] }

/-- the feeder thread sends the first item of the buffer -/
def flush (q : BoundedQueue ι α) : Option (BoundedQueue ι α) :=
  match q.buffer with
  | [] => none
  | x :: buffer => some { q with buffer := buffer, pipe := q.pipe ++ [x] }

/-- a reader takes the lock -/
def acquire (q : BoundedQueue ι α) (i : ι) : Option (BoundedQueue ι α) :=
  match q.rlock with
  | none => some { q with rlock := some (i, .polling) }
  | some _ => none

/-- the holder of the lock receives the first item of the pipe -/
def recv (q : BoundedQueue ι α) : Option (BoundedQueue ι α) :=
  match q.rlock, q.pipe with
  | some (i, .polling), x :: pipe => some { q with pipe := pipe, rlock := some (i, .received x) }
  | _, _ => none

/-- the holder of the lock finds the pipe empty -/
def giveUp (q : BoundedQueue ι α) : Option (BoundedQueue ι α) :=
  match q.rlock, q.pipe with
  | some (i, .polling), [] => some { q with rlock := some (i, .leaving none) }
  | _, _ => none

/-- the holder of the lock, who has received an item, gives its place back -/
def release (q : BoundedQueue ι α) : Option ((ι × α) × BoundedQueue ι α) :=
  match q.rlock with
  | some (i, .received x) => some ((i, x), { q with sem := q.sem + 1, rlock := some (i, .leaving (some x)) })
  | _ => none

/-- the holder of the lock releases it and returns the item, or raises `Empty` -/
def unlock (q : BoundedQueue ι α) : Option ((ι × Option α) × BoundedQueue ι α) :=
  match q.rlock with
  | some (i, .leaving r) => some ((i, r), { q with rlock := none })
  | _ => none

/-! ## What each operation does -/

@[simp] theorem full_iff : q.full = true ↔ q.sem = 0 := by simp [full]

theorem put_iff : q.put x = some q' ↔ 0 < q.sem ∧ { q with sem := q.sem - 1, buffer := q.buffer ++ [x] } = q' := by
  simp [put, Nat.pos_iff_ne_zero]

theorem flush_iff : q.flush = some q' ↔
    ∃ x buffer, q.buffer = x :: buffer ∧ { q with buffer := buffer, pipe := q.pipe ++ [x] } = q' := by
  unfold flush
  cases q.buffer <;> simp

theorem acquire_iff : q.acquire i = some q' ↔ q.rlock = none ∧ { q with rlock := some (i, .polling) } = q' := by
  unfold acquire
  cases q.rlock <;> simp

theorem recv_iff : q.recv = some q' ↔ ∃ i x pipe, q.rlock = some (i, .polling) ∧ q.pipe = x :: pipe ∧
    { q with pipe := pipe, rlock := some (i, .received x) } = q' := by
  obtain ⟨sem, buffer, pipe, rlock⟩ := q
  rcases rlock with _ | ⟨i, _ | y | r⟩ <;> cases pipe <;> simp [recv]

theorem giveUp_iff : q.giveUp = some q' ↔ ∃ i, q.rlock = some (i, .polling) ∧ q.pipe = [] ∧
    { q with rlock := some (i, .leaving none) } = q' := by
  obtain ⟨sem, buffer, pipe, rlock⟩ := q
  rcases rlock with _ | ⟨i, _ | y | r⟩ <;> cases pipe <;> simp [giveUp]

theorem release_iff : q.release = some ((i, x), q') ↔ q.rlock = some (i, .received x) ∧
    { q with sem := q.sem + 1, rlock := some (i, .leaving (some x)) } = q' := by
  obtain ⟨sem, buffer, pipe, rlock⟩ := q
  rcases rlock with _ | ⟨i, _ | y | r⟩ <;> simp [release, and_assoc]
  all_goals grind

theorem unlock_iff : q.unlock = some ((i, r), q') ↔ q.rlock = some (i, .leaving r) ∧ { q with rlock := none } = q' := by
  obtain ⟨sem, buffer, pipe, rlock⟩ := q
  rcases rlock with _ | ⟨i, _ | y | r⟩ <;> simp [unlock, and_assoc]

/-! ## What is in the queue -/

/-- the item that the holder of the lock has received and whose place it has not given back -/
def held (q : BoundedQueue ι α) : List α :=
  match q.rlock with
  | some (_, .received x) => [x]
  | _ => []

/-- everything that has a place, oldest first -/
def items (q : BoundedQueue ι α) : List α := q.held ++ q.pipe ++ q.buffer

/-- places left and items in the queue add up to its size -/
def Counted (n : ℕ) (q : BoundedQueue ι α) : Prop := q.sem + q.items.length = n

theorem counted_init : Counted n (init n : BoundedQueue ι α) := rfl

theorem Counted.length_le (h : Counted n q) : q.items.length ≤ n := by
  unfold Counted at h
  omega

/-- the same places left and the same items in the queue -/
structure Same (q q' : BoundedQueue ι α) : Prop where
  sem : q'.sem = q.sem
  items : q'.items = q.items

theorem flush_same (h : q.flush = some q') : Same q q' := by
  obtain ⟨x, buffer, hbuffer, rfl⟩ := flush_iff.1 h
  exact ⟨rfl, by simp [items, held, hbuffer]⟩

theorem acquire_same (h : q.acquire i = some q') : Same q q' := by
  obtain ⟨hlock, rfl⟩ := acquire_iff.1 h
  exact ⟨rfl, by simp [items, held, hlock]⟩

theorem recv_same (h : q.recv = some q') : Same q q' := by
  obtain ⟨i, x, pipe, hlock, hpipe, rfl⟩ := recv_iff.1 h
  exact ⟨rfl, by simp [items, held, hlock, hpipe]⟩

theorem giveUp_same (h : q.giveUp = some q') : Same q q' := by
  obtain ⟨i, hlock, -, rfl⟩ := giveUp_iff.1 h
  exact ⟨rfl, by simp [items, held, hlock]⟩

theorem unlock_same (h : q.unlock = some ((i, r), q')) : Same q q' := by
  obtain ⟨hlock, rfl⟩ := unlock_iff.1 h
  exact ⟨rfl, by simp [items, held, hlock]⟩

theorem put_items (h : q.put x = some q') : q'.items = q.items ++ [x] := by
  obtain ⟨-, rfl⟩ := put_iff.1 h
  simp [items, held]

theorem release_items (h : q.release = some ((i, x), q')) : q.items = x :: q'.items := by
  obtain ⟨hlock, rfl⟩ := release_iff.1 h
  simp [items, held, hlock]

theorem Counted.of_same (h : Counted n q) (hsame : Same q q') : Counted n q' := by
  rw [Counted, hsame.sem, hsame.items]
  exact h

theorem Counted.put (h : Counted n q) (hput : q.put x = some q') : Counted n q' := by
  have hitems := put_items hput
  obtain ⟨hsem, rfl⟩ := put_iff.1 hput
  unfold Counted at h ⊢
  rw [hitems, List.length_append, List.length_singleton]
  dsimp only
  omega

theorem Counted.release (h : Counted n q) (hrelease : q.release = some ((i, x), q')) : Counted n q' := by
  have hitems := release_items hrelease
  obtain ⟨-, rfl⟩ := release_iff.1 hrelease
  unfold Counted at h ⊢
  rw [hitems, List.length_cons] at h
  dsimp only
  omega

end BoundedQueue

end VitaminD
