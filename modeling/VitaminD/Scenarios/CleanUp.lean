/-
What is released when `main` of either program ends. The `try ... finally` of both encloses the spinning only: the
constructor stands before it, and in `finally` the calls of `destroy_node` stand before `rclpy.shutdown`.

- `cleanedUp_iff`: for every placement of exceptions, everything acquired is released exactly when `rclpy.init` raised,
  or the constructor completed and all of `destroy_node` returned. What happens while spinning does not matter;
- `servoWrite_leaks`: one servo write that raises in `destroy_node` leaves the board and rclpy as they are.
-/
import VitaminD.Model.ServoNode
import VitaminD.Model.SubGazeErrorNode

namespace VitaminD.CleanUp

open VitaminD.Effects

/-! ## Acquired and released -/

section Trace

variable {α : Type}

/-- some call for op has returned -/
def Returned (tr : Trace α) (op : Op α) : Prop := ∃ ev ∈ tr, ev.call.op = op ∧ ev.raised = none

/-- op has been called, whatever came of it -/
def Called (tr : Trace α) (op : Op α) : Prop := ∃ ev ∈ tr, ev.call.op = op

instance [DecidableEq α] (tr : Trace α) (op : Op α) : Decidable (Returned tr op) :=
  inferInstanceAs (Decidable (∃ ev ∈ tr, ev.call.op = op ∧ ev.raised = none))

instance [DecidableEq α] (tr : Trace α) (op : Op α) : Decidable (Called tr op) :=
  inferInstanceAs (Decidable (∃ ev ∈ tr, ev.call.op = op))

/-- what the run has acquired, it has gone on to release -/
def CleanedUp (tr : Trace α) : Prop :=
  (Returned tr .rclpyInit → Called tr .rclpyShutdown) ∧ (Returned tr .pca9685 → Called tr .deinit)

/-- rclpy is shut down exactly when every call of the line before it returns -/
theorem called_shutdown_iff {σ : Type} (F : Site α → Option Exc) (s : σ) (t : Trace α) (cs : List (Site α))
    (ht : ¬ Called t .rclpyShutdown) (hcs : ∀ c ∈ cs, c.op ≠ .rclpyShutdown) :
    Called (Prog.calls (cs ++ [⟨.shutdown, .rclpyShutdown⟩]) F s t).trace .rclpyShutdown ↔ ∀ c ∈ cs, F c = none := by
  constructor
  · intro hcalled
    by_contra hnot
    obtain ⟨e, t', heq, hmem⟩ := Prog.calls_stop F s t cs [⟨.shutdown, .rclpyShutdown⟩] hnot
    rw [heq] at hcalled
    obtain ⟨ev, hev, hop⟩ := hcalled
    rcases List.mem_append.1 hev with hev | hev
    · exact ht ⟨ev, hev, hop⟩
    · exact hcs _ (hmem ev hev) hop
  · intro hall
    exact ⟨_, Prog.calls_reach cs [] ⟨.shutdown, .rclpyShutdown⟩ F s t hall, rfl⟩

/-- the trace once `rclpy.init` has returned -/
def started : Trace α := [⟨⟨.start, .rclpyInit⟩, none⟩]

/-- a run in which `rclpy.init` raises has acquired nothing -/
theorem cleanedUp_main_iff (F : Site α → Option Exc) (session : Py α Unit Unit) :
    CleanedUp ((do Prog.call ⟨.start, .rclpyInit⟩; session : Py α Unit Unit) F () []).trace ↔
      F ⟨.start, .rclpyInit⟩ ≠ none ∨ CleanedUp (session F () started).trace := by
  cases hinit : F ⟨.start, .rclpyInit⟩ with
  | some e =>
    have hcall : (Prog.call ⟨.start, .rclpyInit⟩ : Py α Unit Unit) F () [] =
        ⟨.error e, (), [⟨⟨.start, .rclpyInit⟩, some e⟩]⟩ := by simp [Prog.call, hinit]
    rw [Prog.bind_error F () [] hcall]
    simp [CleanedUp, Returned]
  | none =>
    have hcall : (Prog.call ⟨.start, .rclpyInit⟩ : Py α Unit Unit) F () [] = ⟨.ok (), (), started⟩ := by
      simp [Prog.call, hinit, started]
    rw [Prog.bind_ok F () [] hcall]
    simp

theorem not_called_started {t : Trace α} (h : ∀ ev ∈ t, ev.call.op ≠ .rclpyShutdown) :
    ¬ Called (started ++ t) .rclpyShutdown := by
  rintro ⟨ev, hev, hop⟩
  rcases List.mem_append.1 hev with hev | hev
  · rw [List.mem_singleton.1 hev] at hop
    cases hop
  · exact h ev hev hop

/-- rclpy stays up when nothing after `rclpy.init` shuts it down -/
theorem not_cleanedUp {t : Trace α} (h : ∀ ev ∈ t, ev.call.op ≠ .rclpyShutdown) : ¬ CleanedUp (started ++ t) :=
  fun hclean => not_called_started h (hclean.1 ⟨_, List.mem_append_left t (List.mem_singleton.2 rfl), rfl, rfl⟩)

/-- what a line of calls does not call, it does not return from -/
theorem not_returned_calls {σ : Type} (F : Site α → Option Exc) (s : σ) {t : Trace α} {cs : List (Site α)} {op : Op α}
    (ht : ∀ ev ∈ t, ev.call.op ≠ op) (hcs : ∀ c ∈ cs, c.op ≠ op) : ¬ Returned (Prog.calls cs F s t).trace op := by
  rintro ⟨ev, hev, hop, -⟩
  obtain ⟨u, hu, hline⟩ := Prog.calls_adds cs F s t
  rw [hu] at hev
  rcases List.mem_append.1 hev with hev | hev
  · exact ht ev hev hop
  · exact hcs _ (hline ev hev) hop

/-- a run that gets to the line of calls in front of `rclpy.shutdown` -/
theorem cleanedUp_calls_iff {σ : Type} (F : Site α → Option Exc) (s : σ) {t : Trace α} (cs : List (Site α))
    (ht : ∀ ev ∈ t, ev.call.op ≠ .rclpyShutdown) (hcs : ∀ c ∈ cs, c.op ≠ .rclpyShutdown)
    (hboard : (∀ c ∈ cs, F c = none) →
      Returned (Prog.calls (cs ++ [⟨.shutdown, .rclpyShutdown⟩]) F s (started ++ t)).trace .pca9685 →
        Called (Prog.calls (cs ++ [⟨.shutdown, .rclpyShutdown⟩]) F s (started ++ t)).trace .deinit) :
    CleanedUp (Prog.calls (cs ++ [⟨.shutdown, .rclpyShutdown⟩]) F s (started ++ t)).trace ↔ ∀ c ∈ cs, F c = none := by
  have hiff := called_shutdown_iff F s (started ++ t) cs (not_called_started ht) hcs
  constructor
  · intro hclean
    obtain ⟨u, hu, -⟩ := Prog.calls_adds (cs ++ [⟨.shutdown, .rclpyShutdown⟩]) F s (started ++ t)
    refine hiff.1 (hclean.1 ⟨⟨⟨.start, .rclpyInit⟩, none⟩, ?_, rfl, rfl⟩)
    rw [hu]
    simp [started]
  · exact fun hall => ⟨fun _ => hiff.2 hall, hboard hall⟩

end Trace

/-! ## The servo node -/

section Servo

variable {α : Type}

theorem servo_initCalls_ne (p : ServoParams α) : ∀ c ∈ ServoNode.initCalls p, c.op ≠ .rclpyShutdown := by
  simp [ServoNode.initCalls, ServoNode.initOps, ServoNode.parameterOps, ServoNode.setupOps, ServoNode.declared,
    ServoNode.floats]

theorem servo_destroyCalls_ne (p : ServoParams α) : ∀ c ∈ ServoNode.destroyCalls p, c.op ≠ .rclpyShutdown := by
  simp [ServoNode.destroyCalls]

variable [Zero α] [Sub α] [Mul α] [LT α] [DecidableLT α] [PyAbs α] (F : Site α → Option Exc) (p : ServoParams α)
  (msgs : List (Vector3 α))

/-- a constructor that does not complete releases nothing -/
theorem servo_failed (importError : Bool) (h : importError = true ∨ ¬ ∀ c ∈ ServoNode.initCalls p, F c = none) :
    ¬ CleanedUp (ServoNode.session importError p msgs F () started).trace := by
  obtain ⟨e, t', heq, hmem⟩ := ServoNode.init_error F p () started importError h
  rw [ServoNode.session, Prog.bind_error F () started heq]
  exact not_cleanedUp fun ev hev => servo_initCalls_ne p _ (hmem ev hev)

/-- past the constructor it depends on `destroy_node` alone -/
theorem servo_completed (h : ∀ c ∈ ServoNode.initCalls p, F c = none) :
    CleanedUp (ServoNode.session false p msgs F () started).trace ↔ ∀ c ∈ ServoNode.destroyCalls p, F c = none := by
  rw [ServoNode.session_trace F p msgs started h, ServoNode.shutdownCalls]
  obtain ⟨-, u, hu, hturns⟩ := ServoNode.spun_spec F p msgs started
  rw [hu, List.append_assoc]
  refine cleanedUp_calls_iff F _ _ ?_ (servo_destroyCalls_ne p) ?_
  · intro ev hev
    rcases List.mem_append.1 hev with hev | hev
    · exact servo_initCalls_ne p _ (Prog.call_mem_of_mem_returned hev)
    · exact (hturns ev hev).ne id
  · intro hall _
    -- `deinit` is the third call of `destroy_node`
    refine ⟨_, Prog.calls_reach [⟨.shutdown, .angle .pan p.panCenterAngle⟩, ⟨.shutdown, .angle .tilt p.tiltCenterAngle⟩]
      [⟨.shutdown, .destroyNode⟩, ⟨.shutdown, .rclpyShutdown⟩] ⟨.shutdown, .deinit⟩ F _ _ ?_, rfl⟩
    intro c hc
    refine hall c ?_
    simp only [ServoNode.destroyCalls, List.mem_cons, List.not_mem_nil, or_false] at hc ⊢
    exact hc.imp_right Or.inl

theorem servo_cleanedUp_iff (importError : Bool) :
    CleanedUp (ServoNode.main importError p msgs F () []).trace ↔
      F ⟨.start, .rclpyInit⟩ ≠ none ∨
        (importError = false ∧ ∀ c ∈ ServoNode.initCalls p, F c = none) ∧
          ∀ c ∈ ServoNode.destroyCalls p, F c = none := by
  refine (cleanedUp_main_iff F _).trans (or_congr_right ?_)
  by_cases h : importError = false ∧ ∀ c ∈ ServoNode.initCalls p, F c = none
  · obtain ⟨rfl, hF⟩ := h
    rw [servo_completed F p msgs hF, and_iff_right ⟨rfl, hF⟩]
  · have hfail : importError = true ∨ ¬ ∀ c ∈ ServoNode.initCalls p, F c = none := by
      rwa [not_and_or, Bool.not_eq_false] at h
    exact iff_of_false (servo_failed F p msgs importError hfail) fun hcon => h hcon.1

end Servo

/-! ## The filter node -/

section FilterNode

variable {α : Type}

theorem filter_initCalls_ne (p : FilterParams α) (op : Op α) (hop : op = .rclpyShutdown ∨ op = .pca9685) :
    ∀ c ∈ SubGazeErrorNode.initCalls p, c.op ≠ op := by
  rcases hop with rfl | rfl <;>
    simp [SubGazeErrorNode.initCalls, SubGazeErrorNode.setupOps, SubGazeErrorNode.connectOps, SubGazeErrorNode.declared]

variable [Zero α] [One α] [OfNat α 2] [Add α] [Sub α] [Mul α] [LE α] [DecidableLE α] [PyMath α]
  (F : Site α → Option Exc) (p : FilterParams α) (msgs : List (Vector3 α))

theorem filter_failed (h : (∀ node, SubGazeErrorNode.filters p.cutoffFrequency p.samplingFrequency ≠ .ok node) ∨
    ¬ ∀ c ∈ SubGazeErrorNode.initCalls p, F c = none) :
    ¬ CleanedUp (SubGazeErrorNode.session p msgs F () started).trace := by
  obtain ⟨e, t', heq, hmem⟩ := SubGazeErrorNode.init_error F p () started h
  rw [SubGazeErrorNode.session, Prog.bind_error F () started heq]
  exact not_cleanedUp fun ev hev => filter_initCalls_ne p _ (Or.inl rfl) _ (hmem ev hev)

theorem filter_completed (h : ∀ c ∈ SubGazeErrorNode.initCalls p, F c = none) {node : SubGazeErrorNode α}
    (hnode : SubGazeErrorNode.filters p.cutoffFrequency p.samplingFrequency = .ok node) :
    CleanedUp (SubGazeErrorNode.session p msgs F () started).trace ↔ F ⟨.shutdown, .destroyNode⟩ = none := by
  rw [SubGazeErrorNode.session_trace F p msgs started h hnode, SubGazeErrorNode.shutdownCalls]
  obtain ⟨u, hu, hturns⟩ := SubGazeErrorNode.spun_trace F p node msgs started
  rw [hu, List.append_assoc]
  have hne (op : Op α) (hop : op = .rclpyShutdown ∨ op = .pca9685) :
      ∀ ev ∈ Prog.returned (SubGazeErrorNode.initCalls p) ++ u, ev.call.op ≠ op := by
    intro ev hev
    rcases List.mem_append.1 hev with hev | hev
    · exact filter_initCalls_ne p op hop _ (Prog.call_mem_of_mem_returned hev)
    · exact (hturns ev hev).ne (by rcases hop with rfl | rfl <;> exact id)
  have hiff := cleanedUp_calls_iff F (SubGazeErrorNode.spun F p node msgs started).state [⟨.shutdown, .destroyNode⟩]
    (hne _ (Or.inl rfl)) (by simp) ?_
  · simpa using hiff
  · -- this program opens no board
    intro _ hreturned
    refine absurd hreturned (not_returned_calls F _ ?_ (by simp))
    intro ev hev
    rcases List.mem_append.1 hev with hev | hev
    · rw [List.mem_singleton.1 hev]
      intro h
      cases h
    · exact hne _ (Or.inr rfl) ev hev

theorem filter_cleanedUp_iff :
    CleanedUp (SubGazeErrorNode.main p msgs F () []).trace ↔
      F ⟨.start, .rclpyInit⟩ ≠ none ∨
        (ButterworthLowPassFilter.Accepts p.cutoffFrequency p.samplingFrequency ∧
          ∀ c ∈ SubGazeErrorNode.initCalls p, F c = none) ∧ F ⟨.shutdown, .destroyNode⟩ = none := by
  refine (cleanedUp_main_iff F _).trans (or_congr_right ?_)
  rw [← SubGazeErrorNode.filters_accepts_iff]
  by_cases h : (∃ node, SubGazeErrorNode.filters p.cutoffFrequency p.samplingFrequency = .ok node) ∧
      ∀ c ∈ SubGazeErrorNode.initCalls p, F c = none
  · obtain ⟨⟨node, hnode⟩, hF⟩ := h
    rw [filter_completed F p msgs hF hnode, and_iff_right ⟨⟨node, hnode⟩, hF⟩]
  · have hfail : (∀ node, SubGazeErrorNode.filters p.cutoffFrequency p.samplingFrequency ≠ .ok node) ∨
        ¬ ∀ c ∈ SubGazeErrorNode.initCalls p, F c = none := by
      rwa [not_and_or, not_exists] at h
    exact iff_of_false (filter_failed F p msgs hfail) fun hcon => h hcon.1

end FilterNode

/-! ## Main result -/

/-- **Clean-up stops at the constructor and at `destroy_node`.** For every placement of exceptions in either program,
what was acquired is released exactly when `rclpy.init` raised, or the constructor completed and every call of
`destroy_node` returned. Numbers are of any type with the operations: NaN, overflow and rounding are not excluded, and
the filter's constructor may raise in its divisions and in `math`. -/
theorem cleanedUp_iff {α β : Type} [Zero α] [Sub α] [Mul α] [LT α] [DecidableLT α] [PyAbs α] [Zero β] [One β]
    [OfNat β 2] [Add β] [Sub β] [Mul β] [LE β] [DecidableLE β] [PyMath β] :
    (∀ (F : Site α → Option Exc) (importError : Bool) (p : ServoParams α) (msgs : List (Vector3 α)),
      CleanedUp (ServoNode.main importError p msgs F () []).trace ↔
        F ⟨.start, .rclpyInit⟩ ≠ none ∨
          (importError = false ∧ ∀ c ∈ ServoNode.initCalls p, F c = none) ∧
            ∀ c ∈ ServoNode.destroyCalls p, F c = none) ∧
    (∀ (F : Site β → Option Exc) (p : FilterParams β) (msgs : List (Vector3 β)),
      CleanedUp (SubGazeErrorNode.main p msgs F () []).trace ↔
        F ⟨.start, .rclpyInit⟩ ≠ none ∨
          (ButterworthLowPassFilter.Accepts p.cutoffFrequency p.samplingFrequency ∧
            ∀ c ∈ SubGazeErrorNode.initCalls p, F c = none) ∧ F ⟨.shutdown, .destroyNode⟩ = none) :=
  ⟨fun F importError p msgs => servo_cleanedUp_iff F p msgs importError,
    fun F p msgs => filter_cleanedUp_iff F p msgs⟩

/-- the placement in which the pan servo refuses the recentring of `destroy_node` -/
def recentreFault (c : Site ℚ) : Option Exc :=
  match c with
  | ⟨.shutdown, .angle .pan _⟩ => some (.osError "OSError")
  | _ => none

/-- nothing else raises, and still neither the board nor rclpy is released -/
theorem servoWrite_leaks :
    Returned (ServoNode.main false ServoParams.default [] recentreFault () []).trace .rclpyInit ∧
      Returned (ServoNode.main false ServoParams.default [] recentreFault () []).trace .pca9685 ∧
        ¬ Called (ServoNode.main false ServoParams.default [] recentreFault () []).trace .rclpyShutdown ∧
          ¬ Called (ServoNode.main false ServoParams.default [] recentreFault () []).trace .deinit := by
  decide

end VitaminD.CleanUp
