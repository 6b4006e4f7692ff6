/-
How the camera process ends, wherever an exception is raised in it.

- `camera_stopped`: the camera is stopped, once and as the last thing, exactly if `Picamera2()` has returned;
- `startup_reports`: at whatever point of its run `main` looks at the process, alive or dead, and however much of what
  has been put in the status queue has been sent, `main` serves exactly if the process is alive and no report of an
  error has come, and the error it raises otherwise is that report, if it has come.
-/
import VitaminD.Core.World
import VitaminD.Model.CameraWorker

namespace VitaminD.CameraWorker

open VitaminD.Effects VitaminD.World

variable {F : WorkerCall → Option PyExc} {oks : List Bool} {last : PyExc}

/-! ## The try block -/

/-- the program only ends by an exception -/
def NeverReturns (m : Worker Unit) : Prop := ∀ F s t, ∃ exc, (m F s t).value = .error exc

theorem NeverReturns.bind {α : Type} (m : Worker α) {f : α → Worker Unit} (hf : ∀ a, NeverReturns (f a)) :
    NeverReturns (m >>= f) := by
  intro F s t
  rw [Prog.bind_apply]
  rcases m F s t with ⟨exc | a, s', t'⟩
  · exact ⟨exc, rfl⟩
  · exact hf a F s' t'

theorem loop_neverReturns (turn : ℕ) (oks : List Bool) : NeverReturns (loop last turn oks) := by
  induction oks generalizing turn with
  | nil => exact fun F s t => ⟨last, rfl⟩
  | cons ok oks ih =>
    refine .bind _ fun _ => .bind _ fun _ => .bind _ fun _ => ?_
    cases ok with
    | true => exact .bind _ fun _ => ih (turn + 1)
    | false => exact ih (turn + 1)

/-- the calls of the loop -/
def InLoop : WorkerCall → Prop
  | .captureArray _ | .cvtColor _ | .imencode _ | .putLatestFrame _ => True
  | _ => False

theorem safe_loop (turn : ℕ) (oks : List Bool) :
    Prog.Safe (· = true) (fun ev => InLoop ev.call) (loop last turn oks) := by
  induction oks generalizing turn with
  | nil => exact Prog.Safe.raise last
  | cons ok oks ih =>
    refine (Prog.Safe.call _ fun _ => trivial).bind fun _ => (Prog.Safe.call _ fun _ => trivial).bind fun _ =>
      (Prog.Safe.call _ fun _ => trivial).bind fun _ => ?_
    cases ok with
    | true => exact (Prog.Safe.call _ fun _ => trivial).bind fun _ => ih (turn + 1)
    | false => exact (Prog.Safe.pure ()).bind fun _ => ih (turn + 1)

/-- word of the start -/
def word : String × String := ("ok", "Picamera2 camera started.")

/-- the calls between `Picamera2()` and the loop -/
def opening : List WorkerCall :=
  [.createPreviewConfiguration, .configure, .start, .put "ok" "Picamera2 camera started.", .sleep]

theorem statuses_append (t u : List (Event WorkerCall PyExc)) : statuses (t ++ u) = statuses t ++ statuses u :=
  List.filterMap_append

theorem statuses_loop {t : List (Event WorkerCall PyExc)} (h : ∀ ev ∈ t, InLoop ev.call) : statuses t = [] := by
  refine List.filterMap_eq_nil_iff.2 fun ev hev => ?_
  obtain ⟨call, raised⟩ := ev
  have hcall := h _ hev
  cases call with
  | put => exact absurd hcall id
  | _ => rfl

/-- a line that got as far as it did has put no more than the whole of it -/
theorem statuses_follows {cs : List WorkerCall} {t : List (Event WorkerCall PyExc)} (h : Follows cs t) :
    (statuses t).Sublist (statuses (Prog.returned cs)) := by
  induction h with
  | stop cs => exact List.nil_sublist _
  | raised c e cs => cases c <;> exact List.nil_sublist _
  | @cons c cs t h ih =>
    have hcons (u : List (Event WorkerCall PyExc)) : statuses (⟨c, none⟩ :: u) = statuses [⟨c, none⟩] ++ statuses u :=
      statuses_append [_] u
    show (statuses (⟨c, none⟩ :: t)).Sublist (statuses (⟨c, none⟩ :: Prog.returned cs))
    rw [hcons t, hcons (Prog.returned cs)]
    exact ih.append_left _

/-- the `try` block once there is a camera: word of the start is put at most once, and nothing else -/
theorem working_spec (F : WorkerCall → Option PyExc) (oks : List Bool) (last : PyExc)
    (t : List (Event WorkerCall PyExc)) :
    ∃ exc w, (do Prog.calls opening; loop last 0 oks : Worker Unit) F true t = ⟨.error exc, true, t ++ w⟩ ∧
      (∀ ev ∈ w, ev.call ≠ .stop) ∧ (statuses w).Sublist [word] := by
  have hstop : ∀ c ∈ opening, c ≠ .stop := by decide
  by_cases h : ∀ c ∈ opening, F c = none
  · rw [Prog.bind_ok F true t (Prog.calls_ok F true t opening h)]
    rcases hr : loop last 0 oks F true (t ++ Prog.returned opening) with ⟨v, s, t'⟩
    obtain ⟨rfl, u, rfl, hu⟩ := safe_loop 0 oks F true _ _ _ _ hr rfl
    obtain ⟨exc, hexc⟩ := (loop_neverReturns 0 oks : NeverReturns (loop last 0 oks)) F true (t ++ Prog.returned opening)
    rw [hr] at hexc
    obtain rfl : v = .error exc := hexc
    refine ⟨exc, Prog.returned opening ++ u, by rw [List.append_assoc], fun ev hev hev' => ?_, ?_⟩
    · rcases List.mem_append.1 hev with hev | hev
      · exact hstop _ (Prog.call_mem_of_mem_returned hev) hev'
      · have hcall : InLoop ev.call := hu ev hev
        rw [hev'] at hcall
        exact hcall
    · rw [statuses_append, statuses_loop hu, List.append_nil]
      exact List.Sublist.refl _
  · obtain ⟨exc, u, hrun, -⟩ := Prog.calls_error F true t opening h
    obtain ⟨u', hu', hfollows⟩ := Follows.calls opening F true t
    rw [hrun] at hu'
    obtain rfl : u = u' := List.append_cancel_left hu'
    rw [Prog.bind_error F true t hrun]
    exact ⟨exc, u, rfl, fun ev hev => hstop _ (hfollows.mem hev), statuses_follows hfollows⟩

/-- where the `try` block ends: whether there is a camera, what has not been called, and what has been put -/
theorem body_spec (F : WorkerCall → Option PyExc) (oks : List Bool) (last : PyExc) :
    ∃ exc camera u, body oks last F false [] = ⟨.error exc, camera, u⟩ ∧ (camera = true ↔ ⟨.picamera2, none⟩ ∈ u) ∧
      (∀ ev ∈ u, ev.call ≠ .stop) ∧ (statuses u).Sublist [word] := by
  cases himport : F .importPicamera2 with
  | some e =>
    have hbody : body oks last F false [] = ⟨.error e, false, [⟨.importPicamera2, some e⟩]⟩ := by
      simp [body, Prog.bind_apply, Prog.call, himport]
    exact ⟨e, false, _, hbody, by simp, by simp, List.nil_sublist _⟩
  | none =>
    cases hcamera : F .picamera2 with
    | some e =>
      have hbody : body oks last F false [] =
          ⟨.error e, false, [⟨.importPicamera2, none⟩, ⟨.picamera2, some e⟩]⟩ := by
        simp [body, Prog.bind_apply, Prog.call, himport, hcamera]
      exact ⟨e, false, _, hbody, by simp, by simp, List.nil_sublist _⟩
    | none =>
      have hbody : body oks last F false [] =
          (do Prog.calls opening; loop last 0 oks : Worker Unit) F true
            [⟨.importPicamera2, none⟩, ⟨.picamera2, none⟩] := by
        simp [body, opening, Prog.bind_apply, Prog.call, himport, hcamera]
      obtain ⟨exc, w, hrun, hstop, hstatuses⟩ :=
        working_spec F oks last [⟨.importPicamera2, none⟩, ⟨.picamera2, none⟩]
      exact ⟨exc, true, _, hbody.trans hrun, by simp, by simpa using hstop, hstatuses⟩

/-! ## How the process ends -/

theorem stopCamera_trace (camera : Bool) (t : List (Event WorkerCall PyExc)) :
    (stopCamera F camera t).trace = t ++ if camera then [⟨.stop, F .stop⟩] else [] := by
  cases camera with
  | false => simp [stopCamera, Prog.bind_apply]
  | true => exact Prog.call_trace F true t .stop

/-- what the `except` block adds to the trace -/
def reported (F : WorkerCall → Option PyExc) (exc : PyExc) : List (Event WorkerCall PyExc) :=
  if exc.isException then [⟨.put "error" exc.report, F (.put "error" exc.report)⟩] else []

/-- after the `try` block: a report if `except Exception` catches, and a stop if there is a camera -/
theorem cameraWorker_trace (F : WorkerCall → Option PyExc) (oks : List Bool) (last : PyExc) :
    ∃ exc u, (body oks last F false []).value = .error exc ∧ (∀ ev ∈ u, ev.call ≠ .stop) ∧
      (statuses u).Sublist [word] ∧ (cameraWorker oks last F false []).trace =
        u ++ reported F exc ++ if ⟨.picamera2, none⟩ ∈ u then [⟨.stop, F .stop⟩] else [] := by
  obtain ⟨exc, camera, u, hbody, hcamera, hstop, hstatuses⟩ := body_spec F oks last
  refine ⟨exc, u, by rw [hbody], hstop, hstatuses, ?_⟩
  rw [cameraWorker, Prog.tryFinally_trace, stopCamera_trace]
  simp only [exceptException, hbody, ← hcamera, reported]
  by_cases hexc : exc.isException
  · simp only [hexc, if_true]
    rw [Prog.call_trace, Prog.call_state]
  · simp [hexc]

/-- **When the camera is stopped.** Once and as the last thing if `Picamera2()` has returned, and else not at all. -/
theorem camera_stopped (F : WorkerCall → Option PyExc) (oks : List Bool) (last : PyExc) :
    ∃ u, (∀ ev ∈ u, ev.call ≠ .stop) ∧ (cameraWorker oks last F false []).trace =
      if ⟨.picamera2, none⟩ ∈ (cameraWorker oks last F false []).trace then u ++ [⟨.stop, F .stop⟩] else u := by
  obtain ⟨exc, u, -, hu, -, htrace⟩ := cameraWorker_trace F oks last
  have hmem : (⟨.picamera2, none⟩ : Event WorkerCall PyExc) ∈ (cameraWorker oks last F false []).trace ↔
      ⟨.picamera2, none⟩ ∈ u := by
    rw [htrace, reported]
    split_ifs <;> simp [*]
  refine ⟨u ++ reported F exc, fun ev hev => ?_, ?_⟩
  · rcases List.mem_append.1 hev with hev | hev
    · exact hu ev hev
    · simp_all [reported]
  · rw [if_congr hmem rfl rfl, htrace]
    split_ifs <;> simp

/-! ## What main reports -/

theorem mem_statuses {t : List (Event WorkerCall PyExc)} {kind message : String} :
    (kind, message) ∈ statuses t ↔ ⟨.put kind message, none⟩ ∈ t := by
  unfold statuses
  rw [List.mem_filterMap]
  constructor
  · intro ⟨⟨call, raised⟩, hev, h⟩
    split at h
    · cases h
      simp_all
    · cases h
  · exact fun h => ⟨_, h, rfl⟩

/-- the report in the status queue, if one is put and the put returns -/
theorem statuses_reported (F : WorkerCall → Option PyExc) (exc : PyExc) :
    (statuses (reported F exc)).Sublist (if exc.isException then [("error", exc.report)] else []) := by
  unfold reported
  split_ifs
  · cases F (.put "error" exc.report) with
    | none => exact List.Sublist.refl _
    | some e => exact List.nil_sublist _
  · exact List.nil_sublist _

/-- what `main` may find: word of the start, and after it a report, each at most once -/
theorem status_cases {α : Type} {a b : α} {l : List α} (h : l.Sublist [a, b]) :
    l = [] ∨ l = [b] ∨ l = [a] ∨ l = [a, b] := by
  have h' : l = [] ∨ l = [b] ∨ ∃ r, l = a :: r ∧ (r = [] ∨ r = [b]) := by
    simpa [List.sublist_cons_iff, or_assoc] using h
  rcases h' with rfl | rfl | ⟨r, rfl, rfl | rfl⟩ <;> simp

/-- **What main makes of the camera process**, at whatever point t of its run it looks, and whatever has been sent by
then of what has been put. -/
theorem startup_reports (F : WorkerCall → Option PyExc) (oks : List Bool) (last : PyExc)
    {t : List (Event WorkerCall PyExc)} (h : t <+: (cameraWorker oks last F false []).trace)
    {status : List (String × String)} (hsent : status <+: statuses t) (sockname : Option String) (alive : Bool) :
    ∃ exc, (body oks last F false []).value = .error exc ∧
      (("error", exc.report) ∈ status → exc.isException = true ∧ ⟨.put "error" exc.report, none⟩ ∈ t) ∧
      (startup sockname alive status).2 = (if ("error", exc.report) ∈ status then some (startupFailed exc.report)
        else if alive then none else some exited) ∧
      (startup sockname alive status).1 =
        (if alive = true ∧ word ∈ status then ["Picamera2 camera started."] else []) ++
          if alive = true ∧ ("error", exc.report) ∉ status then [openThisAddress sockname] else [] := by
  obtain ⟨exc, u, hexc, -, hu, htrace⟩ := cameraWorker_trace F oks last
  have hstop : statuses (if ⟨.picamera2, none⟩ ∈ u then [⟨.stop, F .stop⟩] else []) = [] := by
    split_ifs <;> rfl
  have hstatus : status.Sublist ([word] ++ if exc.isException then [("error", exc.report)] else []) := by
    refine (hsent.trans (h.filterMap _)).sublist.trans ?_
    show (statuses (cameraWorker oks last F false []).trace).Sublist _
    rw [htrace, statuses_append, statuses_append, hstop, List.append_nil]
    exact hu.append (statuses_reported F exc)
  refine ⟨exc, hexc, fun hreport => ⟨?_, mem_statuses.1 (hsent.subset hreport)⟩, ?_⟩
  · by_contra hnot
    simpa [hnot, word] using hstatus.subset hreport
  · have hcases : status.Sublist [word, ("error", exc.report)] := by
      refine hstatus.trans ?_
      split_ifs <;> simp
    rcases status_cases hcases with rfl | rfl | rfl | rfl <;> cases alive <;>
      simp [startup, drainAlive, drainDead, word]

/-- `Picamera2()` raises -/
def noCamera : WorkerCall → Option PyExc
  | .picamera2 => some ⟨true, "RuntimeError", "Camera __init__ sequence did not complete."⟩
  | _ => none

/-- the report is put in time, and sent in time or not -/
theorem startup_reports_noCamera :
    (startup none false (statuses (cameraWorker [] ⟨false, "KeyboardInterrupt", ""⟩ noCamera false []).trace)).2 =
        some (startupFailed "RuntimeError: Camera __init__ sequence did not complete.") ∧
      (startup none true []).1 = [openThisAddress none] := by
  have hlast (exc : PyExc) (hexc : (body [] ⟨false, "KeyboardInterrupt", ""⟩ noCamera false []).value = .error exc) :
      exc = ⟨true, "RuntimeError", "Camera __init__ sequence did not complete."⟩ := (Except.error.inj hexc).symm
  obtain ⟨exc, hexc, -, hraised, -⟩ :=
    startup_reports noCamera [] ⟨false, "KeyboardInterrupt", ""⟩ List.prefix_rfl List.prefix_rfl none false
  obtain ⟨exc', hexc', -, -, hprinted⟩ :=
    startup_reports noCamera [] ⟨false, "KeyboardInterrupt", ""⟩ List.prefix_rfl List.nil_prefix none true
  obtain rfl := hlast exc hexc
  constructor
  · rw [hraised, if_pos (by decide)]
    rfl
  · simpa using hprinted

end VitaminD.CameraWorker
