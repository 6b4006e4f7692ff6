/-
`testcamera.py`: the ways in which `main` tries to show the camera, one after the other: the frames of `v4l2-ctl`,
Picamera2 if it is asked for, and the video devices, each opened by OpenCV in a process of its own.

The process of a device puts messages in a queue of its own, whose feeder thread sends them on; `try_opencv_device` gets
the first of them, if it comes in time. A call returns or raises: what is said of a run in which `process.join()`
returns is said of one in which the process ends.
-/
import VitaminD.Model.CameraWorker
import VitaminD.Model.Testcamera

namespace VitaminD.Testcamera

open Effects CameraWorker

/-! ## The process of a device -/

def frameWidth : ℕ := 640
def frameHeight : ℕ := 480

def videoDevices : List String := ["/dev/video0", "/dev/video14", "/dev/video15", "/dev/video21", "/dev/video22"]

def runtimeError (text : String) : PyExc := ⟨true, "RuntimeError", text⟩

/-- what is put in the ready queue -/
inductive Message where
  | ready (device : String)
  | error (device report : String)
deriving DecidableEq, Repr

/-- the calls of `run_opencv_child`; those of the loop are numbered by its turns -/
inductive ChildCall where
  /-- `cv2.VideoCapture(device, cv2.CAP_V4L2)` -/
  | videoCapture (device : String)
  /-- `camera.set(cv2.CAP_PROP_FRAME_WIDTH, width)`, and so on -/
  | setFrameWidth (width : ℕ)
  | setFrameHeight (height : ℕ)
  | setFourcc (fourcc : String)
  | setBuffersize (size : ℕ)
  | isOpened
  | print (line : String)
  | read (turn : ℕ)
  /-- `ready_queue.put(message)` -/
  | put (message : Message)
  | imshow (turn : ℕ)
  | waitKey (turn : ℕ)
  | release
  | destroyAllWindows
deriving DecidableEq, Repr

abbrev Child (β : Type) : Type := Prog ChildCall PyExc Unit β

/-- what a turn of the loop answers: whether `read` has a frame, and whether the key is q -/
structure Turn where
  ok : Bool
  quit : Bool
deriving DecidableEq, Repr

def noFrames (device : String) : PyExc := runtimeError (device ++ " opened but did not return frames.")

/-- `while True:`, given what is answered turn by turn and the exception that comes after these turns -/
def showLoop (device : String) (last : PyExc) : ℕ → Bool → List Turn → Child Unit
  | _, _, [] => Prog.raise last
  | turn, firstFrame, answers :: rest => do
    Prog.call (.read turn)
    if answers.ok then
      if firstFrame then Prog.call (.put (.ready device))
      Prog.call (.imshow turn)
      Prog.call (.waitKey turn)
      if answers.quit then pure () else showLoop device last (turn + 1) false rest
    else Prog.raise (noFrames device)

/-- `show_opencv_device` with a ready queue, given what `isOpened` answers -/
def showOpencvDevice (device : String) (opened : Bool) (turns : List Turn) (last : PyExc) : Child Unit := do
  Prog.calls [.videoCapture device, .setFrameWidth frameWidth, .setFrameHeight frameHeight, .setFourcc "YUYV",
    .setBuffersize 1, .isOpened]
  if opened then
    Prog.call (.print ("OpenCV started with " ++ device ++ ". Press 'q' to quit."))
    Prog.tryFinally (showLoop device last 0 true turns) (Prog.calls [.release, .destroyAllWindows])
  else
    Prog.call .release
    Prog.raise (runtimeError ("Cannot open " ++ device ++ "."))

def runOpencvChild (device : String) (opened : Bool) (turns : List Turn) (last : PyExc) : Child Unit :=
  exceptException (showOpencvDevice device opened turns last) fun exc => Prog.call (.put (.error device exc.report))

/-- what has been put in the ready queue, in the order in which the feeder thread sends it -/
def messages (t : List (Event ChildCall PyExc)) : List Message :=
  t.filterMap fun ev =>
    match ev with
    | ⟨.put message, none⟩ => some message
    | _ => none

def empty : PyExc := ⟨true, "Empty", ""⟩

/-- what `ready_queue.get` makes of what has come when its time is over -/
def getReady : List Message → Except PyExc Message
  | [] => .error empty
  | message :: _ => .ok message

/-! ## Main -/

/-- whose frames are shown -/
inductive View where
  | raw
  | picamera2
deriving DecidableEq, Repr

/-- the calls of `main` and of what it calls in its own process; those of a loop are numbered by its turns -/
inductive MainCall where
  | print (line : String)
  /-- `media-ctl -p -d /dev/media0` -/
  | mediaCtlGraph
  /-- `vcgencmd get_camera` -/
  | vcgencmd
  /-- `media-ctl -d /dev/media0 --set-v4l2 ..` with `check=True` -/
  | mediaCtlSet
  /-- `subprocess.Popen(command, ..)` of `v4l2-ctl` -/
  | popen
  | readExact (turn : ℕ)
  | rawToBgr (turn : ℕ)
  /-- `process.terminate()`, `process.wait(timeout=2)` and `process.kill()` of `v4l2-ctl` -/
  | terminateCapture
  | waitCapture
  | killCapture
  | appRun
  | importPicamera2
  | picamera2
  | createPreviewConfiguration
  | configure
  | startCamera
  | sleep
  | captureArray (turn : ℕ)
  | cvtColor (turn : ℕ)
  | stopCamera
  | imshow (view : View) (turn : ℕ)
  | waitKey (view : View) (turn : ℕ)
  | destroyAllWindows (view : View)
  /-- `multiprocessing.Queue()`, `multiprocessing.Process(..)` and `process.start()` -/
  | start (device : String)
  | terminate (device : String)
  | join (device : String)
  /-- `process.join(2)` -/
  | joinFor (device : String) (seconds : ℕ)
deriving DecidableEq, Repr

/-- the object of the program is `last_error` -/
abbrev Main (β : Type) : Type := Prog MainCall PyExc (Option PyExc) β

/-- what the program finds -/
structure Setting where
  /-- `shutil.which("media-ctl")` -/
  mediaCtl : Bool
  /-- `os.path.exists("/dev/media0")`, and what `media-ctl -p` prints -/
  media0 : Bool
  mediaGraph : String
  /-- what `vcgencmd get_camera` says, if there is one: what it prints, or else its errors, stripped -/
  vcgencmd : Option String
  /-- `shutil.which("v4l2-ctl")` -/
  v4l2Ctl : Bool
  /-- `os.path.exists("/dev/video0")` in `show_v4l2_raw_imx219` -/
  video0 : Bool
  /-- `has_gui_display()` -/
  guiDisplay : Bool
  /-- the standard output of `v4l2-ctl` -/
  source : Source
  /-- whether the key is q, turn by turn -/
  quit : ℕ → Bool
  /-- the address of the socket in `get_local_ip` -/
  sockname : Option String
  /-- `USE_PICAMERA2` -/
  usePicamera2 : Bool
  /-- whether the key is q, turn by turn, and the exception that comes after these turns -/
  picameraQuits : List Bool
  picameraLast : PyExc
  /-- `os.path.exists(device)` in `print_camera_status` and `main` -/
  present : String → Bool
  /-- `ready_queue.get(timeout=timeout)` in `try_opencv_device` -/
  get : String → Except PyExc Message

/-- `needle in haystack` -/
def isIn (needle haystack : String) : Bool := decide (needle.toList <:+: haystack.toList)

def printCameraStatus (w : Setting) : Main Unit := do
  Prog.call (.print "Checking camera status...")
  if w.mediaCtl && w.media0 then
    Prog.call .mediaCtlGraph
    if isIn "imx219" w.mediaGraph && isIn "unicam-image" w.mediaGraph then
      Prog.call (.print "media-ctl: IMX219 sensor is connected to unicam.")
  let mediaGraph := if w.mediaCtl && w.media0 then w.mediaGraph else ""
  match w.vcgencmd with
  | none => pure ()
  | some status =>
    Prog.call .vcgencmd
    Prog.call (.print ("vcgencmd get_camera: " ++ status))
    if isIn "detected=0" status && isIn "libcamera interfaces=0" status && !isIn "imx219" mediaGraph then
      Prog.call (.print ("Camera is not detected by the OS. " ++
        "Check the CSI cable direction, camera module, and boot camera overlay settings."))
    else if isIn "detected=0" status && isIn "imx219" mediaGraph then
      Prog.call (.print "vcgencmd is not reliable here, but the IMX219 media graph is present.")
  let devices := videoDevices.filter w.present
  Prog.call (.print ("Existing video devices: " ++ if devices = [] then "none" else ", ".intercalate devices))

/-! ### The frames of v4l2-ctl -/

/-- the `finally` block of `iter_raw_frames` -/
def stopCapture : Main Unit := do
  Prog.call .terminateCapture
  Prog.tryExcept (Prog.call .waitCapture) (fun exc => exc.name == "TimeoutExpired") (Prog.call .killCapture)

/-- `for frame in iter_raw_frames():` from the first read on, given the frames that are still to come. The `finally`
block is run where the generator ends or raises, and its exceptions count; if the loop is left, it is run when the
generator is closed, and they are dropped. -/
def showRawLoop (quit : ℕ → Bool) : ℕ → List (List UInt8) → Main Unit
  | turn, [] => Prog.tryFinally (Prog.call (.readExact turn)) stopCapture
  | turn, _ :: frames => do
    Prog.tryCatch (Prog.calls [.readExact turn, .rawToBgr turn]) fun exc => Prog.tryFinally (Prog.raise exc) stopCapture
    Prog.tryCatch (Prog.calls [.imshow .raw turn, .waitKey .raw turn]) fun exc =>
      Prog.closing (Prog.raise exc) stopCapture
    if quit turn then Prog.closing (pure ()) stopCapture else showRawLoop quit (turn + 1) frames

/-- the loop of `show_v4l2_raw_imx219`, and what comes after it -/
def showRaw (w : Setting) : Main Unit := do
  if w.mediaCtl then Prog.call .mediaCtlSet
  Prog.call .popen
  showRawLoop w.quit 0 (iterRawFrames id w.source).1
  Prog.call (.destroyAllWindows .raw)

def showV4l2RawImx219Web (w : Setting) : Main Unit :=
  Prog.calls [.print "No GUI display found. Starting browser camera stream.", .print (openThisAddress w.sockname),
    .appRun]

def showV4l2RawImx219 (w : Setting) : Main Unit :=
  if !w.v4l2Ctl then Prog.raise (runtimeError "v4l2-ctl is not installed.")
  else if !w.video0 then Prog.raise (runtimeError "/dev/video0 does not exist.")
  else if !w.guiDisplay then showV4l2RawImx219Web w
  else do
    Prog.call (.print "V4L2 raw IMX219 capture started. Press 'q' to quit.")
    showRaw w

/-! ### Picamera2 -/

def picameraLoop (last : PyExc) : ℕ → List Bool → Main Unit
  | _, [] => Prog.raise last
  | turn, quit :: quits => do
    Prog.calls [.captureArray turn, .cvtColor turn, .imshow .picamera2 turn, .waitKey .picamera2 turn]
    if quit then pure () else picameraLoop last (turn + 1) quits

def showPicamera2 (w : Setting) : Main Unit := do
  Prog.calls [.importPicamera2, .picamera2, .createPreviewConfiguration, .configure, .startCamera, .sleep,
    .print "Picamera2 started. Press 'q' to quit."]
  Prog.tryFinally (picameraLoop w.picameraLast 0 w.picameraQuits)
    (Prog.calls [.stopCamera, .destroyAllWindows .picamera2])

/-! ### The devices -/

def noFrameInTime (device : String) : PyExc := runtimeError (device ++ " did not produce a frame within 8 seconds.")

/-- `try_opencv_device`, given what `ready_queue.get(timeout=timeout)` returns or raises -/
def tryOpencvDevice (device : String) (get : Except PyExc Message) : Main Unit := do
  Prog.call (.start device)
  let message ← exceptException (Prog.lift get) fun _ => do
    Prog.call (.terminate device)
    Prog.call (.joinFor device 2)
    Prog.raise (noFrameInTime device)
  match message with
  | .ready _ => Prog.call (.join device)
  | .error _ report =>
    Prog.call (.joinFor device 2)
    Prog.raise (runtimeError report)

def noBackend : PyExc := runtimeError
  ("No camera backend could produce frames. " ++
    "If vcgencmd says detected=0, this must be fixed at the OS/boot/hardware level first.")

/-- the loop over `VIDEO_DEVICES`; what is raised after it is raised from `last_error` -/
def tryDevices (w : Setting) : List String → Main Unit
  | [] => Prog.raise noBackend
  | device :: rest =>
    if w.present device then
      exceptException (tryOpencvDevice device (w.get device)) fun exc => do
        Prog.assign fun _ => some exc
        Prog.call (.print ("OpenCV failed with " ++ device ++ ": " ++ exc.report))
        tryDevices w rest
    else tryDevices w rest

def noGuiDisplay : PyExc := runtimeError "No GUI display is available for OpenCV fallback."

/-- `main` from `has_gui_display` on -/
def opencvFallback (w : Setting) : Main Unit :=
  if !w.guiDisplay then Prog.raise noGuiDisplay else tryDevices w videoDevices

/-- `main`; a way that returns ends it, and what follows an `except` block is written at the end of it -/
def main (w : Setting) : Main Unit := do
  printCameraStatus w
  exceptException (showV4l2RawImx219 w) fun exc => do
    Prog.call (.print ("V4L2 raw IMX219 failed: " ++ exc.report))
    if w.usePicamera2 then
      exceptException (showPicamera2 w) fun exc => do
        Prog.call (.print ("Picamera2 failed: " ++ exc.report))
        opencvFallback w
    else
      Prog.call (.print "Skipping Picamera2. Set USE_PICAMERA2=1 to try it.")
      opencvFallback w

end VitaminD.Testcamera
