/-
`picamera.py`: the camera process and the clients of `/video_feed`, with the frame queue between them.

The camera process runs `camera_worker`, whose loop ends in `put_latest_frame`; each client runs `generate_stream`. They
meet only in `frame_queue`, and take turns in any order: an action is what one of them, or the feeder thread of the
queue, does at once. A client that waits for a frame in vain (`queue.Empty` after a second) tries again, and one that is
sent its frame, or has gone away, holds nothing of the queue.
-/
import VitaminD.Core.BoundedQueue
import VitaminD.Core.Transitions

namespace VitaminD

/-! ## The camera, the clients and the queue -/

/-- where the camera process is -/
inductive Camera (α : Type) where
  | capturing
  /-- at `frame_queue.full()` -/
  | checking (jpegFrame : α)
  /-- in `frame_queue.get_nowait()` -/
  | getting (jpegFrame : α)
  /-- at `frame_queue.put(jpeg_frame)` -/
  | putting (jpegFrame : α)
deriving DecidableEq, Repr

/-- the frame that the camera process has not put yet -/
def Camera.inHand {α : Type} : Camera α → List α
  | capturing => []
  | checking jpegFrame | getting jpegFrame | putting jpegFrame => [jpegFrame]

/-- who gets from the queue -/
inductive Party (κ : Type) where
  | camera
  | client (c : κ)
deriving DecidableEq, Repr

/-- `captured` and `taken` are the history: nothing reads them -/
structure Stream (κ α : Type) where
  camera : Camera α
  frameQueue : BoundedQueue (Party κ) α
  captured : List α
  taken : List (Party κ × α)
deriving DecidableEq, Repr

inductive StreamAct (κ α : Type) where
  /-- a frame is captured and encoded, and `put_latest_frame` called with it -/
  | capture (jpegFrame : α)
  | full
  | put
  | flush
  | acquire (p : Party κ)
  | recv
  | release
  /-- the holder of the reader lock finds no frame -/
  | giveUp
  /-- the holder of the reader lock returns from `get`, or raises `Empty` -/
  | unlock
  /-- `get_nowait` finds the reader lock taken, and raises `Empty` -/
  | refused
deriving DecidableEq, Repr

namespace Stream

variable {κ α : Type}

/-- before the first frame, with `multiprocessing.Queue(maxsize=2)` -/
def start : Stream κ α := ⟨.capturing, .init 2, [], []⟩

/-- where a `get` that has ended leaves the camera: round the loop again, or out of it by `except queue.Empty: break` -/
def afterGet : Party κ → Option α → Camera α → Camera α
  | .camera, some _, .getting jpegFrame => .checking jpegFrame
  | .camera, none, .getting jpegFrame => .putting jpegFrame
  | _, _, camera => camera

def step (s : Stream κ α) : StreamAct κ α → Option (Stream κ α)
  | .capture jpegFrame =>
    match s.camera with
    | .capturing => some { s with camera := .checking jpegFrame, captured := s.captured ++ [jpegFrame] }
    | _ => none
  | .full =>
    match s.camera with
    | .checking jpegFrame =>
      some { s with camera := if s.frameQueue.full then .getting jpegFrame else .putting jpegFrame }
    | _ => none
  | .put =>
    match s.camera with
    | .putting jpegFrame =>
      (s.frameQueue.put jpegFrame).map fun q => { s with camera := .capturing, frameQueue := q }
    | _ => none
  | .flush => s.frameQueue.flush.map fun q => { s with frameQueue := q }
  | .acquire .camera =>
    match s.camera with
    | .getting _ => (s.frameQueue.acquire .camera).map fun q => { s with frameQueue := q }
    | _ => none
  | .acquire (.client c) => (s.frameQueue.acquire (.client c)).map fun q => { s with frameQueue := q }
  | .recv => s.frameQueue.recv.map fun q => { s with frameQueue := q }
  | .release => s.frameQueue.release.map fun (t, q) => { s with frameQueue := q, taken := s.taken ++ [t] }
  | .giveUp => s.frameQueue.giveUp.map fun q => { s with frameQueue := q }
  | .unlock => s.frameQueue.unlock.map fun ((p, r), q) => { s with camera := afterGet p r s.camera, frameQueue := q }
  | .refused =>
    match s.camera, s.frameQueue.rlock with
    | .getting jpegFrame, some (.client _, _) => some { s with camera := .putting jpegFrame }
    | _, _ => none

/-- the frames that a client has received, in order -/
def receivedBy [DecidableEq κ] (s : Stream κ α) (c : κ) : List α :=
  (s.taken.filter fun t => t.1 = .client c).map Prod.snd

end Stream

/-! ## The bytes of a stream -/

/-- the bytes of a text in ASCII -/
def ascii (text : String) : List UInt8 := text.toList.map fun c => c.toNat.toUInt8

/-- what `generate_stream` yields for a frame -/
def part (frame : List UInt8) : List UInt8 :=
  ascii "--frame\r\n" ++ (ascii "Content-Type: image/jpeg\r\n\r\n" ++ frame ++ ascii "\r\n")

/-- what a client is sent for its frames -/
def sent (frames : List (List UInt8)) : List UInt8 := frames.flatMap part

end VitaminD
