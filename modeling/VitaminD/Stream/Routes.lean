/-
Which way of showing the camera `testcamera.py` ends up with, wherever an exception is raised in the process of a
device, and however much of its run, and of what it has put in the ready queue, comes before its parent's time is over.

- `device_tried`: a device is taken to work exactly if word of its first frame has come in time, and the parent then
  waits for the process to end; a report of an error is that of the exception that ended the process, which has released
  the camera before. Taken to return are the start of the process, its termination and the join of two seconds;
- `main_tries`: `main` returns exactly if one of the ways does, and tries the devices one by one up to the first that
  works; the frames of `v4l2-ctl` are a way that returns also if there are none. Taken to return are the calls for the
  status and for the processes of the devices, also the join that waits for the end of one, and no exception is one that
  `except Exception` lets pass.
-/
import VitaminD.Core.World
import VitaminD.Model.TestcameraRoutes
import VitaminD.Stream.RawFrames

namespace VitaminD.Testcamera

open Effects CameraWorker

variable {device : String} {F : ChildCall → Option PyExc} {opened : Bool} {turns : List Turn} {last : PyExc}
  {t : List (Event ChildCall PyExc)}

/-! ## What is put in the ready queue -/

theorem mem_messages {message : Message} : message ∈ messages t ↔ ⟨.put message, none⟩ ∈ t := by
  unfold messages
  rw [List.mem_filterMap]
  constructor
  · intro ⟨⟨call, raised⟩, hev, h⟩
    split at h
    · cases h
      simp_all
    · cases h
  · exact fun h => ⟨_, h, rfl⟩

/-- a call that puts nothing but word of the first frame -/
def Plainly (device : String) (c : ChildCall) : Prop := ∀ message, c = .put message → message = .ready device

theorem safe_call (c : ChildCall) (hc : Plainly device c) :
    Prog.Safe (fun _ => True) (fun ev => Plainly device ev.call) (Prog.call c : Child Unit) :=
  Prog.Safe.call c fun _ => hc

/-- the rest of a turn -/
theorem safe_shown (turn : ℕ) (answers : Turn) {m : Child Unit}
    (hm : Prog.Safe (fun _ => True) (fun ev => Plainly device ev.call) m) :
    Prog.Safe (fun _ => True) (fun ev => Plainly device ev.call) (do
      Prog.call (.imshow turn)
      Prog.call (.waitKey turn)
      if answers.quit then pure () else m) :=
  (safe_call _ (by simp [Plainly])).bind fun _ => (safe_call _ (by simp [Plainly])).bind fun _ =>
    Prog.Safe.ite (Prog.Safe.pure ()) hm

theorem safe_showLoop (turn : ℕ) (firstFrame : Bool) (turns : List Turn) :
    Prog.Safe (fun _ => True) (fun ev => Plainly device ev.call) (showLoop device last turn firstFrame turns) := by
  induction turns generalizing turn firstFrame with
  | nil => exact Prog.Safe.raise last
  | cons answers rest ih =>
    have hshown := safe_shown turn answers (ih (turn + 1) false)
    refine (safe_call _ (by simp [Plainly])).bind fun _ => Prog.Safe.ite ?_ (Prog.Safe.raise _)
    exact Prog.Safe.ite ((safe_call _ (by simp [Plainly])).bind fun _ => hshown) hshown

/-- word of the first frame is put exactly if the first read has one, and the put returns -/
theorem ready_mem_showLoop (s : Unit) (ht : ⟨.put (.ready device), none⟩ ∉ t) :
    ⟨.put (.ready device), none⟩ ∈ (showLoop device last 0 true turns F s t).trace ↔
      (turns.head?.map Turn.ok = some true ∧ F (.read 0) = none) ∧ F (.put (.ready device)) = none := by
  cases turns with
  | nil => simpa [showLoop, Prog.raise] using ht
  | cons answers rest =>
    rw [showLoop, Prog.call_bind]
    cases hread : F (.read 0) with
    | some e => simp [ht]
    | none =>
      cases hok : answers.ok with
      | false => simp [ht, Prog.raise, hok]
      | true =>
        simp only [if_true]
        rw [Prog.call_bind]
        cases hput : F (.put (.ready device)) with
        | some e => simp [ht]
        | none =>
          have hrest : Prog.Safe (fun _ => True) (fun ev => Plainly device ev.call)
              (showLoop device last 1 false rest) := safe_showLoop 1 false rest
          obtain ⟨u, hu, -⟩ := (safe_shown 0 answers hrest).adds F s
            (t ++ [⟨.read 0, none⟩] ++ [⟨.put (.ready device), none⟩])
          simp only [hu]
          simp [hok]

/-! ## The camera of a device -/

/-- the calls before the loop, of a camera that is opened -/
def opening (device : String) : List ChildCall :=
  [.videoCapture device, .setFrameWidth frameWidth, .setFrameHeight frameHeight, .setFourcc "YUYV", .setBuffersize 1,
    .isOpened, .print ("OpenCV started with " ++ device ++ ". Press 'q' to quit.")]

/-- the loop is reached -/
def Opens (F : ChildCall → Option PyExc) (device : String) (opened : Bool) : Prop :=
  opened = true ∧ ∀ c ∈ opening device, F c = none

/-- the loop is run, and the camera released after it, or there are only calls that come before the loop -/
theorem showOpencvDevice_cases (F : ChildCall → Option PyExc) (device : String) (opened : Bool) (turns : List Turn)
    (last : PyExc) :
    Opens F device opened ∧ (showOpencvDevice device opened turns last F () []).trace =
        (Prog.calls [.release, .destroyAllWindows] F ()
          (showLoop device last 0 true turns F () (Prog.returned (opening device))).trace).trace ∨
      ¬Opens F device opened ∧ ∀ ev ∈ (showOpencvDevice device opened turns last F () []).trace,
        ev.call ∈ opening device ∨ ev.call = .release := by
  cases opened with
  | true =>
    have hshow : showOpencvDevice device true turns last = (do
        Prog.calls (opening device)
        Prog.tryFinally (showLoop device last 0 true turns) (Prog.calls [.release, .destroyAllWindows])) := by
      simp [showOpencvDevice, opening, Prog.calls]
    rw [hshow]
    by_cases h : ∀ c ∈ opening device, F c = none
    · rw [Prog.bind_ok F () [] (Prog.calls_ok F () [] _ h), Prog.tryFinally_trace]
      exact Or.inl ⟨⟨rfl, h⟩, rfl⟩
    · obtain ⟨e, u, hrun, hu⟩ := Prog.calls_error F () [] _ h
      rw [Prog.bind_error F () [] hrun]
      exact Or.inr ⟨fun hopens => h hopens.2, fun ev hev => Or.inl (hu ev (by simpa using hev))⟩
  | false =>
    have hsafe : Prog.Safe (fun _ => True) (fun ev => ev.call ∈ opening device ∨ ev.call = .release)
        (showOpencvDevice device false turns last) :=
      (Prog.Safe.calls _ fun c hc _ => Or.inl (by simp [opening] at hc ⊢; tauto)).bind fun _ =>
        (Prog.Safe.call _ fun _ => Or.inr rfl).bind fun _ => Prog.Safe.raise _
    obtain ⟨u, hu, hall⟩ := hsafe.adds F () []
    rw [hu]
    exact Or.inr ⟨by simp [Opens], fun ev hev => hall ev (by simpa using hev)⟩

/-- word of the first frame is put exactly if the camera opens, its first read has a frame, and the put returns -/
theorem ready_mem_showOpencvDevice :
    ⟨.put (.ready device), none⟩ ∈ (showOpencvDevice device opened turns last F () []).trace ↔
      Opens F device opened ∧ (turns.head?.map Turn.ok = some true ∧ F (.read 0) = none) ∧
        F (.put (.ready device)) = none := by
  rcases showOpencvDevice_cases F device opened turns last with ⟨hopens, htrace⟩ | ⟨hopens, htrace⟩
  · have hnot : ⟨.put (.ready device), none⟩ ∉ Prog.returned (E := PyExc) (opening device) := by
      simp [Prog.returned, opening]
    obtain ⟨u, hu, hcall⟩ := Prog.calls_adds [.release, .destroyAllWindows] F ()
      (showLoop device last 0 true turns F () (Prog.returned (opening device))).trace
    have hlast : ⟨.put (.ready device), none⟩ ∉ u := fun hmem => by simpa using hcall _ hmem
    rw [htrace, hu, List.mem_append, or_iff_left hlast, ready_mem_showLoop () hnot]
    exact (and_iff_right hopens).symm
  · refine iff_of_false (fun hmem => ?_) fun h => hopens h.1
    simpa [opening] using htrace _ hmem

/-- a camera that has been read is released -/
theorem release_mem_showOpencvDevice {o : Option PyExc}
    (h : ⟨.read 0, o⟩ ∈ (showOpencvDevice device opened turns last F () []).trace) :
    ⟨.release, F .release⟩ ∈ (showOpencvDevice device opened turns last F () []).trace := by
  rcases showOpencvDevice_cases F device opened turns last with ⟨-, htrace⟩ | ⟨-, htrace⟩
  · rw [htrace]
    exact Prog.calls_reach [] [.destroyAllWindows] .release F () _ (by simp)
  · simpa [opening] using htrace _ h

theorem safe_showOpencvDevice (device : String) (opened : Bool) (turns : List Turn) (last : PyExc) :
    Prog.Safe (fun _ => True) (fun ev => Plainly device ev.call) (showOpencvDevice device opened turns last) := by
  refine (Prog.Safe.calls _ (by simp [Plainly])).bind fun _ => Prog.Safe.ite ?_ ?_
  · exact (safe_call _ (by simp [Plainly])).bind fun _ =>
      (safe_showLoop 0 true turns).tryFinally (Prog.Safe.calls _ (by simp [Plainly]))
  · exact (safe_call _ (by simp [Plainly])).bind fun _ => Prog.Safe.raise _

/-! ## What the parent gets -/

/-- a run of the process of a device, the part of it that comes before the time of the parent is over, and what the
feeder thread has sent by then -/
structure Attempt (device : String) where
  raises : ChildCall → Option PyExc
  opened : Bool
  turns : List Turn
  last : PyExc
  seen : List (Event ChildCall PyExc)
  seen_isPrefix : seen <+: (runOpencvChild device opened turns last raises () []).trace
  sent : List Message
  sent_isPrefix : sent <+: messages seen

/-- what `show_opencv_device` does in the process -/
def Attempt.shown (c : Attempt device) : Result ChildCall PyExc Unit Unit :=
  showOpencvDevice device c.opened c.turns c.last c.raises () []

/-- word of the first frame has come in time -/
def Attempt.Works (c : Attempt device) : Prop := .ready device ∈ c.sent

/-- what `run_opencv_child` makes of the end of `show_opencv_device` -/
def childReport (F : ChildCall → Option PyExc) (device : String) : Except PyExc Unit → List (Event ChildCall PyExc)
  | .ok _ => []
  | .error exc =>
    if exc.isException then [⟨.put (.error device exc.report), F (.put (.error device exc.report))⟩] else []

theorem runOpencvChild_trace (F : ChildCall → Option PyExc) (device : String) (opened : Bool) (turns : List Turn)
    (last : PyExc) : (runOpencvChild device opened turns last F () []).trace =
      (showOpencvDevice device opened turns last F () []).trace ++
        childReport F device (showOpencvDevice device opened turns last F () []).value := by
  unfold runOpencvChild exceptException
  rcases showOpencvDevice device opened turns last F () [] with ⟨exc | _, s, t⟩
  · by_cases hexc : exc.isException
    · simp [hexc, Prog.call_trace, childReport]
    · simp [hexc, childReport]
  · simp [childReport]

/-- what `show_opencv_device` puts is word of the first frame -/
theorem Attempt.shown_put (c : Attempt device) {message : Message} (h : ⟨.put message, none⟩ ∈ c.shown.trace) :
    message = .ready device := by
  obtain ⟨u, hu, hall⟩ := (safe_showOpencvDevice device c.opened c.turns c.last).adds c.raises () []
  rw [shown, hu] at h
  exact hall _ (by simpa using h) message rfl

/-- what the parent may see after that: the report of the exception that ended the process -/
theorem Attempt.seen_cases (c : Attempt device) : c.seen <+: c.shown.trace ∨ ∃ exc o, c.shown.value = .error exc ∧
    exc.isException = true ∧ c.seen = c.shown.trace ++ [⟨.put (.error device exc.report), o⟩] := by
  have hseen : c.seen <+: c.shown.trace ++ childReport c.raises device c.shown.value :=
    runOpencvChild_trace c.raises device c.opened c.turns c.last ▸ c.seen_isPrefix
  cases hvalue : c.shown.value with
  | ok => exact Or.inl (by simpa [hvalue, childReport] using hseen)
  | error exc =>
    by_cases hexc : exc.isException
    · simp only [hvalue, childReport, hexc, if_true] at hseen
      rcases World.prefix_append_cases hseen with h | ⟨v, hv, hpre⟩
      · exact Or.inl h
      · rcases List.prefix_cons_iff.1 hpre with rfl | ⟨v', rfl, hv'⟩
        · exact Or.inl (by simp [hv])
        · obtain rfl := List.prefix_nil.1 hv'
          exact Or.inr ⟨exc, _, rfl, hexc, hv⟩
    · exact Or.inl (by simpa [hvalue, childReport, hexc] using hseen)

/-- what has come has been put -/
theorem Attempt.put_of_sent (c : Attempt device) {message : Message} (h : message ∈ c.sent) :
    ⟨.put message, none⟩ ∈ c.seen := mem_messages.1 (c.sent_isPrefix.subset h)

theorem Attempt.Works.shown {c : Attempt device} (h : c.Works) : ⟨.put (.ready device), none⟩ ∈ c.shown.trace := by
  have hput := c.put_of_sent h
  rcases c.seen_cases with hseen | ⟨exc, o, -, -, hseen⟩
  · exact hseen.subset hput
  · rw [hseen] at hput
    simpa using hput

/-- the parent gets word of the first frame, or else the report of an exception, or else nothing -/
inductive Attempt.Outcome (c : Attempt device) : Except PyExc Message → Prop
  | works : c.Works → c.Outcome (.ok (.ready device))
  | reports (exc : PyExc) : ¬c.Works → c.shown.value = .error exc → exc.isException = true →
      c.seen = c.shown.trace ++ [⟨.put (.error device exc.report), none⟩] → .error device exc.report ∈ c.sent →
      c.Outcome (.ok (.error device exc.report))
  | silent : c.sent = [] → c.Outcome (.error empty)

theorem Attempt.outcome (c : Attempt device) : c.Outcome (getReady c.sent) := by
  cases hsent : c.sent with
  | nil => exact .silent hsent
  | cons message rest =>
    have hmem : message ∈ c.sent := by simp [hsent]
    -- what comes first was put before the loop was left, or is the report
    have hworks (hput : ⟨.put message, none⟩ ∈ c.shown.trace) : c.Outcome (.ok message) := by
      obtain rfl := c.shown_put hput
      exact .works hmem
    rcases c.seen_cases with hseen | ⟨exc, o, hvalue, hexc, hseen⟩
    · exact hworks (hseen.subset (c.put_of_sent hmem))
    · have hmessages : messages c.seen = messages c.shown.trace ++ messages [⟨.put (.error device exc.report), o⟩] := by
        rw [hseen, messages, List.filterMap_append]
        rfl
      have hpre := c.sent_isPrefix
      cases hm : messages c.shown.trace with
      | cons message' rest' =>
        rw [hsent, hmessages, hm, List.cons_append, List.cons_prefix_cons] at hpre
        obtain rfl := hpre.1
        exact hworks (mem_messages.1 (by simp [hm]))
      | nil =>
        cases o with
        | some e =>
          have hnone : messages c.seen = [] := by rw [hmessages, hm]; rfl
          rw [hsent, hnone] at hpre
          simp at hpre
        | none =>
          have hlast : messages c.seen = [.error device exc.report] := by rw [hmessages, hm]; rfl
          have hnot : ¬c.Works := fun h => by simpa [hlast] using c.sent_isPrefix.subset h
          rw [hsent, hlast, List.cons_prefix_cons] at hpre
          obtain rfl := hpre.1
          exact .reports exc hnot hvalue hexc hseen hmem

/-! ## What is made of a device -/

variable {G : MainCall → Option PyExc}

/-- the process of a device can be started and terminated, and the join of two seconds returns -/
def Calm (G : MainCall → Option PyExc) (device : String) : Prop :=
  ∀ call ∈ [.start device, .joinFor device 2, .terminate device], G call = none

theorem tryOpencvDevice_ready (hG : Calm G device) (s : Option PyExc) (t : List (Event MainCall PyExc)) :
    tryOpencvDevice device (.ok (.ready device)) G s t =
      Prog.call (.join device) G s (t ++ Prog.returned [.start device]) := by
  simp [Calm] at hG
  simp [tryOpencvDevice, hG, exceptException, Prog.bind_apply, Prog.returned, Prog.call]

theorem tryOpencvDevice_error (hG : Calm G device) (report : String) (s : Option PyExc)
    (t : List (Event MainCall PyExc)) :
    tryOpencvDevice device (.ok (.error device report)) G s t =
      ⟨.error (runtimeError report), s, t ++ Prog.returned [.start device, .joinFor device 2]⟩ := by
  simp [Calm] at hG
  simp [tryOpencvDevice, Prog.call, hG, exceptException, Prog.bind_apply, Prog.returned, Prog.raise]

theorem tryOpencvDevice_empty (hG : Calm G device) (s : Option PyExc) (t : List (Event MainCall PyExc)) :
    tryOpencvDevice device (.error empty) G s t =
      ⟨.error (noFrameInTime device), s,
        t ++ Prog.returned [.start device, .terminate device, .joinFor device 2]⟩ := by
  simp [Calm] at hG
  simp [tryOpencvDevice, Prog.call, hG, exceptException, Prog.bind_apply, Prog.returned, Prog.raise, empty]

/-- **What is made of a device.** It works exactly if word of its first frame has come in time; what is left then is to
wait for its process to end. -/
theorem device_tried (c : Attempt device) (hG : Calm G device) (s : Option PyExc) (t : List (Event MainCall PyExc)) :
    (c.Works ∧ (Opens c.raises device c.opened ∧ c.turns.head?.map Turn.ok = some true ∧ c.raises (.read 0) = none) ∧
      tryOpencvDevice device (getReady c.sent) G s t =
        Prog.call (.join device) G s (t ++ Prog.returned [.start device])) ∨
    (¬c.Works ∧ ∃ exc, c.shown.value = .error exc ∧ exc.isException = true ∧ .error device exc.report ∈ c.sent ∧
      (∀ o, ⟨.read 0, o⟩ ∈ c.seen → ⟨.release, c.raises .release⟩ ∈ c.seen) ∧
      tryOpencvDevice device (getReady c.sent) G s t =
        ⟨.error (runtimeError exc.report), s, t ++ Prog.returned [.start device, .joinFor device 2]⟩) ∨
    (c.sent = [] ∧
      tryOpencvDevice device (getReady c.sent) G s t =
        ⟨.error (noFrameInTime device), s,
          t ++ Prog.returned [.start device, .terminate device, .joinFor device 2]⟩) := by
  have houtcome := c.outcome
  generalize getReady c.sent = got at houtcome ⊢
  cases houtcome with
  | works hworks =>
    obtain ⟨hopens, hread, -⟩ := ready_mem_showOpencvDevice.1 hworks.shown
    exact Or.inl ⟨hworks, ⟨hopens, hread⟩, tryOpencvDevice_ready hG s t⟩
  | reports exc hworks hvalue hexc hseen hsent =>
    refine Or.inr (Or.inl ⟨hworks, exc, hvalue, hexc, hsent, fun o ho => ?_, tryOpencvDevice_error hG exc.report s t⟩)
    rw [hseen] at ho ⊢
    have hread : ⟨.read 0, o⟩ ∈ c.shown.trace := by simpa using ho
    exact List.mem_append_left _ (release_mem_showOpencvDevice hread)
  | silent hsilent => exact Or.inr (Or.inr ⟨hsilent, tryOpencvDevice_empty hG s t⟩)

/-- a camera that gives one frame and no more: word of it is put, and then a report -/
theorem messages_oneFrame (device : String) :
    messages (runOpencvChild device true [⟨true, false⟩, ⟨false, false⟩] ⟨false, "KeyboardInterrupt", ""⟩
      (fun _ => none) () []).trace = [.ready device, .error device (noFrames device).report] := by
  simp [runOpencvChild, showOpencvDevice, showLoop, exceptException, Prog.tryFinally, Prog.calls, Prog.call,
    Prog.raise, Prog.bind_apply, messages, noFrames, runtimeError]

/-- such a camera, with word of the frame sent in time, and of nothing else -/
def oneFrame (device : String) : Attempt device where
  raises := fun _ => none
  opened := true
  turns := [⟨true, false⟩, ⟨false, false⟩]
  last := ⟨false, "KeyboardInterrupt", ""⟩
  seen := (runOpencvChild device true [⟨true, false⟩, ⟨false, false⟩] ⟨false, "KeyboardInterrupt", ""⟩
    (fun _ => none) () []).trace
  seen_isPrefix := List.prefix_rfl
  sent := [.ready device]
  sent_isPrefix := ⟨[.error device (noFrames device).report], (messages_oneFrame device).symm⟩

/-- its failure is not noticed -/
theorem device_tried_oneFrame : (oneFrame "/dev/video14").shown.value = .error (noFrames "/dev/video14") ∧
    (tryOpencvDevice "/dev/video14" (getReady (oneFrame "/dev/video14").sent) (fun _ => none) none []).value =
      .ok () := by
  refine ⟨rfl, ?_⟩
  have hworks : (oneFrame "/dev/video14").Works := List.mem_singleton.2 rfl
  rcases device_tried (oneFrame "/dev/video14") (G := fun _ => none) (fun _ _ => rfl) none []
    with ⟨-, -, h⟩ | ⟨h, -⟩ | ⟨h, -⟩
  · rw [h]
    rfl
  · exact absurd hworks h
  · cases h

/-! ## The ways that come first -/

/-- the device whose process a call starts -/
def startedBy : MainCall → Option String
  | .start device => some device
  | _ => none

/-- the frame of `v4l2-ctl` that a call shows -/
def shownBy : MainCall → Option ℕ
  | .imshow .raw turn => some turn
  | _ => none

/-- the devices whose processes have been started, in order -/
def startedIn (t : List (Event MainCall PyExc)) : List String := t.filterMap fun ev => startedBy ev.call

/-- the frames of `v4l2-ctl` that have been shown, in order -/
def shownIn (t : List (Event MainCall PyExc)) : List ℕ :=
  t.filterMap fun ev => if ev.raised = none then shownBy ev.call else none

@[simp] theorem startedIn_append (t u : List (Event MainCall PyExc)) :
    startedIn (t ++ u) = startedIn t ++ startedIn u := List.filterMap_append

@[simp] theorem shownIn_append (t u : List (Event MainCall PyExc)) : shownIn (t ++ u) = shownIn t ++ shownIn u :=
  List.filterMap_append

@[simp] theorem startedIn_print (line : String) (o : Option PyExc) (t : List (Event MainCall PyExc)) :
    startedIn (⟨.print line, o⟩ :: t) = startedIn t := rfl

@[simp] theorem shownIn_print (line : String) (t : List (Event MainCall PyExc)) :
    shownIn (⟨.print line, none⟩ :: t) = shownIn t := rfl

@[simp] theorem startedIn_nil : startedIn [] = [] := rfl

@[simp] theorem shownIn_nil : shownIn [] = [] := rfl

/-- a way of showing the camera: no device is opened, these frames of `v4l2-ctl` have been shown if it returns, and the
next way is tried if it raises -/
def Shows (frames : List ℕ) (v : Except PyExc Unit) (u : List (Event MainCall PyExc)) : Prop :=
  startedIn u = [] ∧ (v = .ok () → shownIn u = frames) ∧ ∀ exc, v = .error exc → exc.isException = true

section Ways

variable {m c : Main Unit} {frames frames' : List ℕ}

theorem Shows.append {v' : Except PyExc Unit} {u u' : List (Event MainCall PyExc)} (h : Shows frames (.ok ()) u)
    (h' : Shows frames' v' u') : Shows (frames ++ frames') v' (u ++ u') := by
  refine ⟨by simp [h.1, h'.1], fun hv => ?_, h'.2.2⟩
  rw [shownIn_append, h.2.1 rfl, h'.2.1 hv]

/-- a way that raises shows what it likes -/
theorem Shows.raised {v : Except PyExc Unit} {u u' : List (Event MainCall PyExc)} (h : startedIn u = [])
    (h' : Shows frames v u') (hv : v ≠ .ok ()) : Shows frames' v (u ++ u') :=
  ⟨by simp [h, h'.1], fun hok => absurd hok hv, h'.2.2⟩

theorem shows_bind {f : Unit → Main Unit} (hm : Prog.Ends G m (Shows frames))
    (hf : Prog.Ends G (f ()) (Shows frames')) : Prog.Ends G (m >>= f) (Shows (frames ++ frames')) :=
  hm.bind (fun _ _ hu => hf.imp fun _ _ hu' => hu.append hu') fun _ _ hu => ⟨hu.1, nofun, hu.2.2⟩

theorem shows_finally (hm : Prog.Ends G m (Shows frames)) (hc : Prog.Ends G c (Shows [])) :
    Prog.Ends G (Prog.tryFinally m c) (Shows frames) := by
  refine hm.tryFinally hc (fun v u u' hu hu' => ?_) fun v u e u' hu hu' => hu'.raised hu.1 nofun
  exact ⟨by simp [hu.1, hu'.1], fun hv => by simp [hu.2.1 hv, hu'.2.1 rfl], hu.2.2⟩

/-- nothing is opened or shown, whether it returns or raises -/
def Silent (v : Except PyExc Unit) (u : List (Event MainCall PyExc)) : Prop :=
  startedIn u = [] ∧ shownIn u = [] ∧ ∀ exc, v = .error exc → exc.isException = true

theorem Silent.append {v v' : Except PyExc Unit} {u u' : List (Event MainCall PyExc)} (h : Silent v u)
    (h' : Silent v' u') : Silent v' (u ++ u') :=
  ⟨by simp [h.1, h'.1], by simp [h.2.1, h'.2.1], h'.2.2⟩

theorem Silent.shows {v : Except PyExc Unit} {u : List (Event MainCall PyExc)} (h : Silent v u) : Shows [] v u :=
  ⟨h.1, fun _ => h.2.1, h.2.2⟩

variable (hG : ∀ call exc, G call = some exc → exc.isException = true)

include hG

theorem shows_call {call : MainCall} (hcall : startedBy call = none) :
    Prog.Ends G (Prog.call call : Main Unit) (Shows (shownBy call).toList) := by
  refine Prog.Ends.call (fun _ => ⟨?_, fun _ => ?_, nofun⟩) fun exc hexc => ⟨?_, nofun, ?_⟩
  · simp [startedIn, hcall]
  · cases h : shownBy call <;> simp [shownIn, h]
  · simp [startedIn, hcall]
  · rintro _ ⟨⟩
    exact hG call exc hexc

theorem shows_calls (cs : List MainCall) (hcs : ∀ call ∈ cs, startedBy call = none) :
    Prog.Ends G (Prog.calls cs : Main Unit) (Shows (cs.filterMap shownBy)) := by
  induction cs with
  | nil => exact Prog.Ends.pure ⟨rfl, fun _ => rfl, nofun⟩
  | cons call cs ih =>
    obtain ⟨hcall, hcs⟩ := List.forall_mem_cons.1 hcs
    have h := shows_bind (shows_call hG hcall) (f := fun _ => Prog.calls cs) (ih hcs)
    cases hshown : shownBy call <;> simpa [Prog.calls, hshown] using h

theorem silent_call {call : MainCall} (hstarted : startedBy call = none) (hshown : shownBy call = none) :
    Prog.Ends G (Prog.call call : Main Unit) Silent := by
  refine Prog.Ends.call (fun _ => ⟨?_, ?_, nofun⟩) fun exc hexc => ⟨?_, rfl, ?_⟩
  · simp [startedIn, hstarted]
  · simp [shownIn, hshown]
  · simp [startedIn, hstarted]
  · rintro _ ⟨⟩
    exact hG call exc hexc

theorem silent_stopCapture : Prog.Ends G stopCapture Silent := by
  refine (silent_call hG rfl rfl).bind (fun _ u hu => ?_) fun _ _ hu => hu
  refine (silent_call hG rfl rfl).tryExcept (fun _ u' hu' => hu.append hu') (fun _ u' hu' _ => ?_)
    fun _ u' hu' _ => hu.append hu'
  exact (silent_call hG rfl rfl).imp fun _ _ hu'' => hu.append (hu'.append hu'')

/-- a step of the loop, where what it raises is followed by the end of the capture -/
theorem shows_step (cs : List MainCall) (hcs : ∀ call ∈ cs, startedBy call = none) {h : PyExc → Main Unit}
    (hh : ∀ exc, h exc = Prog.tryFinally (Prog.raise exc) stopCapture ∨
      h exc = Prog.closing (Prog.raise exc) stopCapture) :
    Prog.Ends G (Prog.tryCatch (Prog.calls cs) h) (Shows (cs.filterMap shownBy)) := by
  refine (shows_calls hG cs hcs).tryCatch (fun _ _ hu => hu) fun exc u hu => ?_
  have hraise : Prog.Ends G (Prog.raise exc : Main Unit) fun v u => v = .error exc ∧ u = [] :=
    Prog.Ends.raise ⟨rfl, rfl⟩
  have hexc := hu.2.2 exc rfl
  rcases hh exc with hh | hh <;> rw [hh]
  · refine hraise.tryFinally (silent_stopCapture hG) ?_ ?_
    · rintro _ _ u' ⟨rfl, rfl⟩ hu'
      exact ⟨by simp [hu.1, hu'.1], nofun, by rintro _ ⟨⟩; exact hexc⟩
    · rintro _ _ e u' ⟨rfl, rfl⟩ hu'
      exact ⟨by simp [hu.1, hu'.1], nofun, hu'.2.2⟩
  · refine hraise.closing (silent_stopCapture hG) ?_
    rintro _ _ w u' ⟨rfl, rfl⟩ hu'
    exact ⟨by simp [hu.1, hu'.1], nofun, by rintro _ ⟨⟩; exact hexc⟩

/-- the turns from one on, of so many frames, up to the first at which the key is q -/
def untilQuit (quit : ℕ → Bool) : ℕ → ℕ → List ℕ
  | _, 0 => []
  | turn, n + 1 => turn :: if quit turn then [] else untilQuit quit (turn + 1) n

theorem shows_showRawLoop (quit : ℕ → Bool) (turn : ℕ) (fs : List (List UInt8)) :
    Prog.Ends G (showRawLoop quit turn fs) (Shows (untilQuit quit turn fs.length)) := by
  induction fs generalizing turn with
  | nil => exact shows_finally (shows_call hG rfl) ((silent_stopCapture hG).imp fun _ _ hu => hu.shows)
  | cons f fs ih =>
    have hread := shows_step hG [.readExact turn, .rawToBgr turn] (by simp [startedBy]) fun _ => Or.inl rfl
    have hshow := shows_step hG [.imshow .raw turn, .waitKey .raw turn] (by simp [startedBy])
      fun _ => Or.inr rfl
    have hrest : Prog.Ends G
        (if quit turn then Prog.closing (pure ()) stopCapture else showRawLoop quit (turn + 1) fs : Main Unit)
        (Shows (if quit turn then [] else untilQuit quit (turn + 1) fs.length)) := by
      split_ifs
      · refine (Prog.Ends.pure (P := fun v u => v = .ok () ∧ u = []) ⟨rfl, rfl⟩).closing (silent_stopCapture hG) ?_
        rintro _ _ w u' ⟨rfl, rfl⟩ hu'
        exact ⟨hu'.1, fun _ => hu'.2.1, nofun⟩
      · exact ih (turn + 1)
    exact shows_bind hread (shows_bind hshow hrest)

theorem shows_showRaw (w : Setting) : Prog.Ends G (showRaw w)
    (Shows (untilQuit w.quit 0 (w.source.data.length / rawFrameBytes))) := by
  obtain ⟨frames, hblocks, hframes⟩ : ∃ frames, Blocks w.source.data frames ∧ iterRawFrames id w.source = _ :=
    iterRawFrames_blocks w.source
  have hloop := shows_showRawLoop hG w.quit 0 (iterRawFrames id w.source).1
  rw [hframes, List.length_map, hblocks.length_eq] at hloop
  have hrest : Prog.Ends G (do
      Prog.call .popen
      showRawLoop w.quit 0 (iterRawFrames id w.source).1
      Prog.call (.destroyAllWindows .raw) : Main Unit)
      (Shows (untilQuit w.quit 0 (w.source.data.length / rawFrameBytes))) := by
    have hshow := shows_bind hloop (f := fun _ => Prog.call (.destroyAllWindows .raw)) (shows_call hG rfl)
    rw [show shownBy (.destroyAllWindows .raw) = none from rfl, Option.toList_none, List.append_nil] at hshow
    rw [hframes]
    exact shows_bind (shows_call hG rfl) hshow
  unfold showRaw
  exact Prog.Ends.ite (fun _ => shows_bind (shows_call hG rfl) hrest) fun _ => hrest

/-- the frames of `v4l2-ctl` that are shown if that way returns: with a display every whole one, up to the key q -/
def rawFramesShown (w : Setting) : List ℕ :=
  if w.guiDisplay then untilQuit w.quit 0 (w.source.data.length / rawFrameBytes) else []

theorem shows_showV4l2RawImx219 (w : Setting) :
    Prog.Ends G (showV4l2RawImx219 w) (Shows (rawFramesShown w)) := by
  have hraise (text : String) (frames : List ℕ) :
      Prog.Ends G (Prog.raise (runtimeError text) : Main Unit) (Shows frames) :=
    Prog.Ends.raise ⟨rfl, nofun, by rintro _ ⟨⟩; rfl⟩
  unfold showV4l2RawImx219 rawFramesShown
  refine Prog.Ends.ite (fun _ => hraise _ _) fun _ => Prog.Ends.ite (fun _ => hraise _ _) fun _ => ?_
  cases w.guiDisplay with
  | false => exact shows_calls hG _ (by simp [startedBy])
  | true => exact shows_bind (shows_call hG rfl) (shows_showRaw hG w)

theorem shows_picameraLoop {last : PyExc} (hlast : last.isException = true) (turn : ℕ) (quits : List Bool) :
    Prog.Ends G (picameraLoop last turn quits) (Shows []) := by
  induction quits generalizing turn with
  | nil => exact Prog.Ends.raise ⟨rfl, nofun, by rintro _ ⟨⟩; exact hlast⟩
  | cons quit quits ih =>
    refine shows_bind (shows_calls hG _ (by simp [startedBy])) (Prog.Ends.ite (fun _ => ?_) fun _ => ih (turn + 1))
    exact Prog.Ends.pure ⟨rfl, fun _ => rfl, nofun⟩

theorem shows_showPicamera2 {w : Setting} (hlast : w.picameraLast.isException = true) :
    Prog.Ends G (showPicamera2 w) (Shows []) :=
  shows_bind (shows_calls hG _ (by simp [startedBy]))
    (shows_finally (shows_picameraLoop hG hlast 0 _) (shows_calls hG _ (by simp [startedBy])))

end Ways

/-! ## The devices, one by one -/

/-- why a device that does not work is given up -/
def Attempt.failure (c : Attempt device) : PyExc :=
  match getReady c.sent with
  | .ok (.error _ report) => runtimeError report
  | _ => noFrameInTime device

theorem Attempt.tried (c : Attempt device) (hG : Calm G device) (hjoin : G (.join device) = none) (s : Option PyExc)
    (t : List (Event MainCall PyExc)) : ∃ u, startedIn u = [device] ∧ shownIn u = [] ∧
      (c.Works ∧ tryOpencvDevice device (getReady c.sent) G s t = ⟨.ok (), s, t ++ u⟩ ∨
        ¬c.Works ∧ tryOpencvDevice device (getReady c.sent) G s t = ⟨.error c.failure, s, t ++ u⟩ ∧
          c.failure.isException = true) := by
  have houtcome := c.outcome
  unfold failure
  generalize getReady c.sent = got at houtcome ⊢
  cases houtcome with
  | works hworks =>
    refine ⟨Prog.returned [.start device, .join device], rfl, rfl, Or.inl ⟨hworks, ?_⟩⟩
    rw [tryOpencvDevice_ready hG]
    simp [Prog.call, hjoin, Prog.returned]
  | reports exc hworks => exact ⟨_, by rfl, by rfl, Or.inr ⟨hworks, tryOpencvDevice_error hG exc.report s t, rfl⟩⟩
  | silent hsilent =>
    exact ⟨_, by rfl, by rfl, Or.inr ⟨by simp [Works, hsilent], tryOpencvDevice_empty hG s t, rfl⟩⟩

/-- the calls for the status and for the processes of the devices return, and nothing is raised that `except Exception`
lets pass -/
structure Undisturbed (w : Setting) (G : MainCall → Option PyExc) : Prop where
  print : ∀ line, G (.print line) = none
  mediaCtlGraph : G .mediaCtlGraph = none
  vcgencmd : G .vcgencmd = none
  device : ∀ device, Calm G device
  join : ∀ device, G (.join device) = none
  isException : ∀ call exc, G call = some exc → exc.isException = true
  picameraLast : w.picameraLast.isException = true

variable {w : Setting} {children : (device : String) → Attempt device}

/-- a device that is there works, or the next one is tried -/
theorem tryDevices_cons (hG : Undisturbed w G) (hget : ∀ device, w.get device = getReady (children device).sent)
    (hpresent : w.present device = true) (devices : List String) (s : Option PyExc) (t : List (Event MainCall PyExc)) :
    ∃ u, startedIn u = [device] ∧ shownIn u = [] ∧
      ((children device).Works ∧ tryDevices w (device :: devices) G s t = ⟨.ok (), s, t ++ u⟩ ∨
        ¬(children device).Works ∧ tryDevices w (device :: devices) G s t =
          tryDevices w devices G (some (children device).failure) (t ++ u)) := by
  rw [tryDevices, if_pos hpresent, hget]
  obtain ⟨u, hu, hshown, ⟨hworks, hrun⟩ | ⟨hworks, hrun, hexc⟩⟩ :=
    (children device).tried (hG.device device) (hG.join device) s t
  · exact ⟨u, hu, hshown, Or.inl ⟨hworks, exceptException_ok hrun _⟩⟩
  · let line := "OpenCV failed with " ++ device ++ ": " ++ (children device).failure.report
    refine ⟨u ++ [⟨.print line, none⟩], by simp [hu], by simp [hshown], Or.inr ⟨hworks, ?_⟩⟩
    rw [exceptException_error hrun hexc]
    simp [Prog.bind_apply, Prog.call, hG.print, line]

/-- **The devices**, one by one up to the first that works. -/
theorem tryDevices_spec (hG : Undisturbed w G) (hget : ∀ device, w.get device = getReady (children device).sent)
    (devices : List String) (s : Option PyExc) (t : List (Event MainCall PyExc)) : ∃ u, shownIn u = [] ∧
      ((∃ failed device rest s', devices.filter w.present = failed ++ device :: rest ∧
        (∀ d ∈ failed, ¬(children d).Works) ∧ (children device).Works ∧ startedIn u = failed ++ [device] ∧
          tryDevices w devices G s t = ⟨.ok (), s', t ++ u⟩) ∨
      ((∀ d ∈ devices.filter w.present, ¬(children d).Works) ∧ startedIn u = devices.filter w.present ∧
        tryDevices w devices G s t = ⟨.error noBackend,
          ((devices.filter w.present).getLast?.map fun d => (children d).failure).or s, t ++ u⟩)) := by
  induction devices generalizing s t with
  | nil => exact ⟨[], rfl, Or.inr ⟨by simp, rfl, by simp [tryDevices, Prog.raise]⟩⟩
  | cons device devices ih =>
    by_cases hpresent : w.present device
    · obtain ⟨u, hu, hshown, ⟨hworks, hrun⟩ | ⟨hworks, hrun⟩⟩ := tryDevices_cons hG hget hpresent devices s t
      · refine ⟨u, hshown, Or.inl ⟨[], device, devices.filter w.present, s, ?_, by simp, hworks, hu, hrun⟩⟩
        simp [hpresent]
      · obtain ⟨v, hvshown, hv⟩ := ih (some (children device).failure) (t ++ u)
        refine ⟨u ++ v, by simp [hshown, hvshown], ?_⟩
        rw [hrun, List.filter_cons_of_pos hpresent, startedIn_append, hu, ← List.append_assoc]
        rcases hv with ⟨failed, found, rest, s', hfilter, hfailed, hfound, hv, hnext⟩ | ⟨hfailed, hv, hnext⟩
        · refine Or.inl ⟨device :: failed, found, rest, s', by rw [hfilter]; rfl, ?_, hfound, by rw [hv]; rfl, hnext⟩
          exact List.forall_mem_cons.2 ⟨hworks, hfailed⟩
        · refine Or.inr ⟨List.forall_mem_cons.2 ⟨hworks, hfailed⟩, by rw [hv]; rfl, ?_⟩
          rw [hnext, List.getLast?_cons]
          cases (devices.filter w.present).getLast? <;> simp
    · simpa [tryDevices, hpresent] using ih s t

/-! ## Main -/

/-- it returns, having opened and shown nothing -/
def Passes (v : Except PyExc Unit) (u : List (Event MainCall PyExc)) : Prop :=
  v = .ok () ∧ startedIn u = [] ∧ shownIn u = []

theorem passes_call {call : MainCall} (hcall : G call = none) (hstarted : startedBy call = none)
    (hshown : shownBy call = none) : Prog.Ends G (Prog.call call : Main Unit) Passes :=
  Prog.Ends.call (fun _ => ⟨rfl, by simp [startedIn, hstarted], by simp [shownIn, hshown]⟩)
    fun exc hexc => absurd (hcall.symm.trans hexc) nofun

theorem passes_bind {m : Main Unit} {f : Unit → Main Unit} (hm : Prog.Ends G m Passes)
    (hf : Prog.Ends G (f ()) Passes) : Prog.Ends G (m >>= f) Passes :=
  hm.bind (fun _ _ hu => hf.imp fun _ _ hu' => ⟨hu'.1, by simp [hu.2.1, hu'.2.1], by simp [hu.2.2, hu'.2.2]⟩)
    fun _ _ hu => nomatch hu.1

/-- a step that is left out in one case -/
theorem passes_if {p : Prop} [Decidable p] {m : Main Unit} {f : Unit → Main Unit} (hm : Prog.Ends G m Passes)
    (hf : Prog.Ends G (f ()) Passes) : Prog.Ends G (if p then m >>= f else f ()) Passes :=
  Prog.Ends.ite (fun _ => passes_bind hm hf) fun _ => hf

theorem passes_printCameraStatus (hG : Undisturbed w G) : Prog.Ends G (printCameraStatus w) Passes := by
  have hprint (line : String) : Prog.Ends G (Prog.call (.print line) : Main Unit) Passes :=
    passes_call (hG.print line) rfl rfl
  have hgraph : Prog.Ends G (Prog.call .mediaCtlGraph : Main Unit) Passes := passes_call hG.mediaCtlGraph rfl rfl
  have hvcgencmd : Prog.Ends G (Prog.call .vcgencmd : Main Unit) Passes := passes_call hG.vcgencmd rfl rfl
  unfold printCameraStatus
  refine passes_bind (hprint _) ?_
  cases w.vcgencmd with
  | none => exact Prog.Ends.ite (fun _ => passes_bind hgraph (passes_if (hprint _) (hprint _))) fun _ => hprint _
  | some status =>
    have hstatus (p p' : Prop) [Decidable p] [Decidable p'] (line line' line'' last : String) :
        Prog.Ends G (do
          Prog.call .vcgencmd
          Prog.call (.print line)
          if p then Prog.call (.print line') else if p' then Prog.call (.print line'')
          Prog.call (.print last) : Main Unit) Passes :=
      passes_bind hvcgencmd (passes_bind (hprint _)
        (Prog.Ends.ite (fun _ => passes_bind (hprint _) (hprint _)) fun _ => passes_if (hprint _) (hprint _)))
    exact Prog.Ends.ite (fun _ => passes_bind hgraph (passes_if (hprint _) (hstatus _ _ _ _ _ _)))
      fun _ => hstatus _ _ _ _ _ _

/-- the way of `v4l2-ctl` returns -/
def RawReturns (w : Setting) (G : MainCall → Option PyExc) : Prop := (showV4l2RawImx219 w G none []).value = .ok ()

/-- without an exception it does, however few frames there are -/
theorem rawReturns_of_calm (hG : ∀ call, G call = none) (hctl : w.v4l2Ctl = true) (hvideo : w.video0 = true) :
    RawReturns w G := by
  have hcalls (cs : List MainCall) : Prog.Ends G (Prog.calls cs : Main Unit) fun v _ => v = .ok () :=
    ⟨.ok (), _, fun s t => Prog.calls_ok G s t cs fun call _ => hG call, rfl⟩
  have hcall (call : MainCall) : Prog.Ends G (Prog.call call : Main Unit) fun v _ => v = .ok () :=
    Prog.Ends.call (fun _ => rfl) fun exc hexc => absurd ((hG call).symm.trans hexc) nofun
  have hbind {m : Main Unit} {f : Unit → Main Unit} (hm : Prog.Ends G m fun v _ => v = .ok ())
      (hf : Prog.Ends G (f ()) fun v _ => v = .ok ()) : Prog.Ends G (m >>= f) fun v _ => v = .ok () :=
    hm.bind (fun _ _ _ => hf) fun _ _ hv => nomatch hv
  have hstop : Prog.Ends G stopCapture fun v _ => v = .ok () :=
    hbind (hcall _) ((hcall _).tryExcept (fun _ _ _ => rfl) (fun _ _ hv => nomatch hv) fun _ _ hv => nomatch hv)
  have hloop (turn : ℕ) (fs : List (List UInt8)) : Prog.Ends G (showRawLoop w.quit turn fs) fun v _ => v = .ok () := by
    have hstep (cs : List MainCall) (h : PyExc → Main Unit) :
        Prog.Ends G (Prog.tryCatch (Prog.calls cs) h) fun v _ => v = .ok () :=
      (hcalls cs).tryCatch (fun _ _ _ => rfl) fun _ _ hv => nomatch hv
    induction fs generalizing turn with
    | nil => exact (hcall _).tryFinally hstop (fun _ _ _ hv _ => hv) fun _ _ _ _ _ hv => nomatch hv
    | cons f fs ih =>
      refine hbind (hstep _ _) (hbind (hstep _ _) (Prog.Ends.ite (fun _ => ?_) fun _ => ih (turn + 1)))
      have hpure : Prog.Ends G (pure () : Main Unit) fun v _ => v = .ok () := Prog.Ends.pure rfl
      exact hpure.closing hstop fun _ _ _ _ hv _ => hv
  have hraw : Prog.Ends G (showRaw w) fun v _ => v = .ok () :=
    Prog.Ends.ite (fun _ => hbind (hcall _) (hbind (hcall _) (hbind (hloop 0 _) (hcall _))))
      fun _ => hbind (hcall _) (hbind (hloop 0 _) (hcall _))
  have hway : Prog.Ends G (showV4l2RawImx219 w) fun v _ => v = .ok () := by
    unfold showV4l2RawImx219
    rw [hctl, if_neg (by decide), hvideo, if_neg (by decide)]
    exact Prog.Ends.ite (fun _ => hcalls _) fun _ => hbind (hcall _) hraw
  obtain ⟨v, u, hrun, hv⟩ := hway
  rw [RawReturns, hrun]
  exact hv

/-- Picamera2 is asked for, and its way returns -/
def PicameraReturns (w : Setting) (G : MainCall → Option PyExc) : Prop :=
  w.usePicamera2 = true ∧ (showPicamera2 w G none []).value = .ok ()

/-- `main` is over with one of the first two ways, or falls back on OpenCV -/
theorem main_cases (hG : Undisturbed w G) : ∃ u, startedIn u = [] ∧
    ((RawReturns w G ∧ shownIn u = rawFramesShown w ∨ PicameraReturns w G ∧ ¬RawReturns w G) ∧
        main w G none [] = ⟨.ok (), none, u⟩ ∨
      ¬RawReturns w G ∧ ¬PicameraReturns w G ∧ main w G none [] = opencvFallback w G none u) := by
  obtain ⟨-, u₀, hrun₀, rfl, hu₀, hshown₀⟩ := passes_printCameraStatus hG
  obtain ⟨v, u₁, hrun₁, hu₁, hshown₁, hexc₁⟩ := shows_showV4l2RawImx219 hG.isException w
  rw [main, Prog.bind_ok G none [] (hrun₀ none []), List.nil_append]
  cases v with
  | ok =>
    have hraw : RawReturns w G := by rw [RawReturns, hrun₁]
    refine ⟨u₀ ++ u₁, by simp [hu₀, hu₁], Or.inl ⟨Or.inl ⟨hraw, ?_⟩, exceptException_ok (hrun₁ none u₀) _⟩⟩
    simp [hshown₀, hshown₁]
  | error exc =>
    have hraw : ¬RawReturns w G := by
      rw [RawReturns, hrun₁]
      exact nofun
    let t := u₀ ++ u₁ ++ [⟨.print ("V4L2 raw IMX219 failed: " ++ exc.report), none⟩]
    have ht : startedIn t = [] := by simp [t, hu₀, hu₁]
    rw [exceptException_error (hrun₁ none u₀) (hexc₁ exc rfl), Prog.call_ok_bind (hG.print _)]
    by_cases hasked : w.usePicamera2 = true
    · obtain ⟨v, u₂, hrun₂, hu₂, -, hexc₂⟩ := shows_showPicamera2 hG.isException hG.picameraLast
      rw [if_pos hasked]
      cases v with
      | ok =>
        have hpicamera : PicameraReturns w G := ⟨hasked, by rw [hrun₂]⟩
        exact ⟨t ++ u₂, by simp [ht, hu₂],
          Or.inl ⟨Or.inr ⟨hpicamera, hraw⟩, exceptException_ok (hrun₂ none t) _⟩⟩
      | error exc =>
        have hpicamera : ¬PicameraReturns w G := by
          rw [PicameraReturns, hrun₂]
          exact nofun
        let line := "Picamera2 failed: " ++ exc.report
        rw [exceptException_error (hrun₂ none t) (hexc₂ exc rfl), Prog.call_ok_bind (hG.print line)]
        exact ⟨t ++ u₂ ++ [⟨.print line, none⟩], by simp [ht, hu₂], Or.inr ⟨hraw, hpicamera, rfl⟩⟩
    · let line := "Skipping Picamera2. Set USE_PICAMERA2=1 to try it."
      rw [if_neg hasked, Prog.call_ok_bind (hG.print line)]
      exact ⟨t ++ [⟨.print line, none⟩], by simp [ht], Or.inr ⟨hraw, fun h => hasked h.1, rfl⟩⟩

/-- **Which way `main` ends up with.** It returns exactly if one works, and without a device being opened if one of the
first two returns; the devices are tried one by one, in their order, up to the first that works. -/
theorem main_tries (hG : Undisturbed w G) (hget : ∀ device, w.get device = getReady (children device).sent) :
    (RawReturns w G → (main w G none []).value = .ok () ∧ startedIn (main w G none []).trace = [] ∧
      shownIn (main w G none []).trace = rawFramesShown w) ∧
    (PicameraReturns w G → (main w G none []).value = .ok () ∧ startedIn (main w G none []).trace = []) ∧
    (¬RawReturns w G → ¬PicameraReturns w G →
      (w.guiDisplay = false →
        (main w G none []).value = .error noGuiDisplay ∧ startedIn (main w G none []).trace = []) ∧
      (w.guiDisplay = true →
        (∃ failed device rest, videoDevices.filter w.present = failed ++ device :: rest ∧
          (∀ d ∈ failed, ¬(children d).Works) ∧ (children device).Works ∧
            (main w G none []).value = .ok () ∧ startedIn (main w G none []).trace = failed ++ [device]) ∨
        ((∀ d ∈ videoDevices.filter w.present, ¬(children d).Works) ∧ (main w G none []).value = .error noBackend ∧
          (main w G none []).state = (videoDevices.filter w.present).getLast?.map (fun d => (children d).failure) ∧
            startedIn (main w G none []).trace = videoDevices.filter w.present))) := by
  obtain ⟨u, hu, ⟨⟨hraw, hshown⟩ | ⟨hpicamera, hraw⟩, hrun⟩ | ⟨hraw, hpicamera, hrun⟩⟩ := main_cases hG
  · rw [hrun]
    exact ⟨fun _ => ⟨rfl, hu, hshown⟩, fun _ => ⟨rfl, hu⟩, fun h => absurd hraw h⟩
  · rw [hrun]
    exact ⟨fun h => absurd h hraw, fun _ => ⟨rfl, hu⟩, fun _ h => absurd hpicamera h⟩
  · rw [hrun]
    refine ⟨fun h => absurd h hraw, fun h => absurd h hpicamera, fun _ _ => ⟨?_, ?_⟩⟩
    · intro hgui
      simp [opencvFallback, hgui, Prog.raise, hu]
    · intro hgui
      obtain ⟨v, -, hv⟩ := tryDevices_spec hG hget videoDevices none u
      simp only [opencvFallback, hgui, Bool.not_true, Bool.false_eq_true, if_false]
      rcases hv with ⟨failed, device, rest, s', hfilter, hfailed, hworks, hv, hnext⟩ | ⟨hfailed, hv, hnext⟩
      · exact Or.inl ⟨failed, device, rest, hfilter, hfailed, hworks, by rw [hnext], by rw [hnext]; simp [hu, hv]⟩
      · exact Or.inr ⟨hfailed, by rw [hnext], by rw [hnext]; simp, by rw [hnext]; simp [hu, hv]⟩

/-- a camera that gives a frame, with word of it put but not sent in time -/
def notHeard (device : String) : Attempt device := { oneFrame device with sent := [], sent_isPrefix := List.nil_prefix }

def twoDevices (device : String) : Attempt device :=
  if device = "/dev/video0" then notHeard device else oneFrame device

/-- a display, two devices and no `v4l2-ctl` -/
def withDisplay : Setting where
  mediaCtl := true
  media0 := true
  mediaGraph := "imx219 10-0010, unicam-image"
  vcgencmd := some "supported=1 detected=0, libcamera interfaces=0"
  v4l2Ctl := false
  video0 := true
  guiDisplay := true
  source := ⟨[], fun _ => 0⟩
  quit := fun _ => false
  sockname := none
  usePicamera2 := false
  picameraQuits := []
  picameraLast := ⟨true, "RuntimeError", ""⟩
  present := fun device => device == "/dev/video0" || device == "/dev/video14"
  get := fun device => getReady (twoDevices device).sent

/-- the second device works; with a `v4l2-ctl` that ends without a frame, no device is opened and nothing is shown -/
theorem main_tries_withDisplay : (main withDisplay (fun _ => none) none []).value = .ok () ∧
    startedIn (main { withDisplay with v4l2Ctl := true } (fun _ => none) none []).trace = [] ∧
      shownIn (main { withDisplay with v4l2Ctl := true } (fun _ => none) none []).trace = [] := by
  have hG (w : Setting) (hw : w.picameraLast.isException = true) : Undisturbed w fun _ => none :=
    ⟨fun _ => rfl, rfl, rfl, fun _ _ _ => rfl, fun _ => rfl, nofun, hw⟩
  have hget (device : String) : withDisplay.get device = getReady (twoDevices device).sent := rfl
  constructor
  · obtain ⟨-, -, h⟩ := main_tries (hG withDisplay rfl) hget
    rcases (h (by unfold RawReturns; exact nofun) nofun).2 rfl with ⟨failed, device, rest, -, -, -, hvalue, -⟩ | ⟨h, -⟩
    · exact hvalue
    · have hworks : (twoDevices "/dev/video14").Works := List.mem_singleton.2 rfl
      exact absurd hworks (h _ (by decide))
  · have hraw : RawReturns { withDisplay with v4l2Ctl := true } fun _ => none :=
      rawReturns_of_calm (fun _ => rfl) rfl rfl
    obtain ⟨h, -⟩ := main_tries (hG { withDisplay with v4l2Ctl := true } rfl) hget
    exact (h hraw).2

end VitaminD.Testcamera
