/-
`picamera.py`: how the camera process ends, and what `main` makes of it.

`camera_worker` is a program over the calls of Picamera2, OpenCV and the queues, each of which may raise. Its loop only
ends by an exception: one that a call raises, or one that comes from outside, as a Ctrl-C does. `main` looks once, three
seconds after it has started the process: it is given whether the process is alive, and what it finds in the status
queue. What has been put there is sent on by the feeder thread of the queue, so that some of it may not have come yet.
The web server itself is left out.
-/
import VitaminD.Core.Effects

namespace VitaminD.CameraWorker

open VitaminD.Effects

/-- a Python exception: whether `except Exception` catches it, the name of its type and its text -/
structure PyExc where
  isException : Bool
  name : String
  text : String
deriving DecidableEq, Repr

/-- `f"{type(exc).__name__}: {exc}"` -/
def PyExc.report (exc : PyExc) : String := exc.name ++ ": " ++ exc.text

/-- the calls of `camera_worker`; those of the loop are numbered by its turns -/
inductive WorkerCall where
  /-- `from picamera2 import Picamera2` -/
  | importPicamera2
  /-- `Picamera2()` -/
  | picamera2
  | createPreviewConfiguration
  | configure
  | start
  /-- `status_queue.put((kind, message))` -/
  | put (kind message : String)
  /-- `time.sleep(1)` -/
  | sleep
  | captureArray (turn : ℕ)
  | cvtColor (turn : ℕ)
  | imencode (turn : ℕ)
  /-- `put_latest_frame(encoded.tobytes())` -/
  | putLatestFrame (turn : ℕ)
  /-- `camera.stop()` -/
  | stop
deriving DecidableEq, Repr

/-- the object of the program says whether `camera` is in `locals()` -/
abbrev Worker (β : Type) : Type := Prog WorkerCall PyExc Bool β

/-- `while True:`, given what `imencode` answers turn by turn and the exception that comes after these turns -/
def loop (last : PyExc) : ℕ → List Bool → Worker Unit
  | _, [] => Prog.raise last
  | turn, ok :: oks => do
    Prog.call (.captureArray turn)
    Prog.call (.cvtColor turn)
    Prog.call (.imencode turn)
    if ok then Prog.call (.putLatestFrame turn)
    loop last (turn + 1) oks

/-- the `try` block of `camera_worker` -/
def body (oks : List Bool) (last : PyExc) : Worker Unit := do
  Prog.call .importPicamera2
  Prog.call .picamera2
  Prog.assign fun _ => true
  Prog.calls [.createPreviewConfiguration, .configure, .start, .put "ok" "Picamera2 camera started.", .sleep]
  loop last 0 oks

/-- `try: m except Exception as exc: h(exc)` -/
def exceptException {C σ α : Type} (m : Prog C PyExc σ α) (h : PyExc → Prog C PyExc σ α) : Prog C PyExc σ α :=
  fun F s t =>
    match m F s t with
    | ⟨.ok a, s', t'⟩ => ⟨.ok a, s', t'⟩
    | ⟨.error exc, s', t'⟩ => if exc.isException then h exc F s' t' else ⟨.error exc, s', t'⟩

section

variable {C σ α : Type} {F : C → Option PyExc} {s s' : σ} {t t' : List (Event C PyExc)} {m : Prog C PyExc σ α}

theorem exceptException_ok {a : α} (hm : m F s t = ⟨.ok a, s', t'⟩) (h : PyExc → Prog C PyExc σ α) :
    exceptException m h F s t = ⟨.ok a, s', t'⟩ := by
  rw [exceptException, hm]

theorem exceptException_error {exc : PyExc} (hm : m F s t = ⟨.error exc, s', t'⟩) (hexc : exc.isException = true)
    (h : PyExc → Prog C PyExc σ α) : exceptException m h F s t = h exc F s' t' := by
  rw [exceptException, hm]
  exact if_pos hexc

end

/-- the `finally` block of `camera_worker` -/
def stopCamera : Worker Unit := do
  let camera ← Prog.self
  if camera then Prog.call .stop

def cameraWorker (oks : List Bool) (last : PyExc) : Worker Unit :=
  Prog.tryFinally (exceptException (body oks last) fun exc => Prog.call (.put "error" exc.report)) stopCamera

/-! ## What main makes of it -/

/-- what has been put in the status queue, in the order in which the feeder thread sends it -/
def statuses (t : List (Event WorkerCall PyExc)) : List (String × String) :=
  t.filterMap fun ev =>
    match ev with
    | ⟨.put kind message, none⟩ => some (kind, message)
    | _ => none

def startupFailed (message : String) : PyExc := ⟨true, "RuntimeError", "Picamera2 startup failed: " ++ message⟩

def exited : PyExc := ⟨true, "RuntimeError",
  "Picamera2 process exited during startup. " ++
    "This usually means the installed Picamera2/libcamera stack crashed."⟩

/-- the loop over the status queue of a process that is gone -/
def drainDead : List (String × String) → PyExc
  | [] => exited
  | (kind, message) :: rest => if kind = "error" then startupFailed message else drainDead rest

/-- the loop over the status queue of a process that is alive: what is printed, and the exception it ends in -/
def drainAlive : List (String × String) → List String × Option PyExc
  | [] => ([], none)
  | (kind, message) :: rest =>
    if kind = "error" then ([], some (startupFailed message))
    else
      let r := drainAlive rest
      (message :: r.1, r.2)

/-- `get_local_ip`, given the address of the socket, or none if there is an `OSError` -/
def getLocalIp (sockname : Option String) : String := sockname.getD "라즈베리파이_IP주소"

def port : ℕ := 8000

def openThisAddress (sockname : Option String) : String :=
  "Open this address: http://" ++ getLocalIp sockname ++ ":" ++ toString port

/-- `main` up to the web server: what it prints, and the exception it raises instead of serving -/
def startup (sockname : Option String) (alive : Bool) (status : List (String × String)) : List String × Option PyExc :=
  if alive then
    match drainAlive status with
    | (lines, some exc) => (lines, some exc)
    | (lines, none) => (lines ++ [openThisAddress sockname], none)
  else ([], some (drainDead status))

end VitaminD.CameraWorker
