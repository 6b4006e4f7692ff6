/-
`SubGazeErrorNode` of `sub_gaze_error_node.py`: two filters with the same frequencies, one for each component of the
gaze error. The callback publishes the filtered components with the z component as received.
-/
import VitaminD.Core.Machine
import VitaminD.Model.ButterworthLowPassFilter
import VitaminD.Model.Calls

namespace VitaminD

open VitaminD.Effects VitaminD.Machine

/-! ## Model -/

/-- the parameters the node declares -/
structure FilterParams (α : Type) where
  inputTopic : String
  outputTopic : String
  samplingFrequency : α
  cutoffFrequency : α
deriving DecidableEq, Repr

/-- the values `declare_parameter` falls back to -/
def FilterParams.default {α : Type} [Field α] : FilterParams α where
  inputTopic := "/gaze_error"
  outputTopic := "/gaze_error_cmd"
  samplingFrequency := 30
  cutoffFrequency := 1

structure SubGazeErrorNode (α : Type) where
  xFilter : ButterworthLowPassFilter α
  yFilter : ButterworthLowPassFilter α
deriving DecidableEq, Repr

namespace SubGazeErrorNode

variable {α σ : Type}

def map {β : Type} (g : α → β) (node : SubGazeErrorNode α) : SubGazeErrorNode β :=
  ⟨node.xFilter.map g, node.yFilter.map g⟩

/-- the names in the order of their declaration -/
def declared : List String := ["input_topic", "output_topic", "sampling_frequency", "cutoff_frequency"]

section Constructor

variable [Zero α] [One α] [OfNat α 2] [Add α] [Sub α] [Mul α] [LE α] [DecidableLE α] [PyMath α]

/-- the filters of the constructor -/
def filters (cutoffFrequency samplingFrequency : α) :
    Except Exc (SubGazeErrorNode α) := do
  let xFilter ← ButterworthLowPassFilter.init cutoffFrequency samplingFrequency
  let yFilter ← ButterworthLowPassFilter.init cutoffFrequency samplingFrequency
  return { xFilter, yFilter }

/-- the constructor -/
def init (p : FilterParams α) : Py α σ (SubGazeErrorNode α) := do
  Prog.call ⟨.construct, .superInit "sub_gaze_error_node"⟩
  Prog.calls (declared.map fun name => ⟨.construct, .declareParameter name⟩)
  let inputTopic ← readParameter "input_topic" p.inputTopic
  let outputTopic ← readParameter "output_topic" p.outputTopic
  let samplingFrequency ← readFloat "sampling_frequency" p.samplingFrequency
  let cutoffFrequency ← readFloat "cutoff_frequency" p.cutoffFrequency
  let node ← Prog.lift (filters cutoffFrequency samplingFrequency)
  Prog.call ⟨.construct, .createPublisher outputTopic 10⟩
  Prog.call ⟨.construct, .createSubscription inputTopic 10⟩
  Prog.call ⟨.construct, .info⟩
  return node

end Constructor

section Callback

variable [Add α] [Sub α] [Mul α]

/-- what `gaze_error_callback` publishes, and the node with both filters updated -/
def filterMsg (node : SubGazeErrorNode α) (msg : Vector3 α) : Vector3 α × SubGazeErrorNode α :=
  let x := node.xFilter.update msg.x
  let y := node.yFilter.update msg.y
  (⟨x.1, y.1, msg.z⟩, ⟨x.2, y.2⟩)

/-- the callback on the message of the i-th turn -/
def gazeErrorCallback (i : ℕ) (msg : Vector3 α) : Py α (SubGazeErrorNode α) Unit := do
  let node ← Prog.self
  let (cmdMsg, node') := node.filterMsg msg
  Prog.assign fun _ => node'
  Prog.call ⟨.spin i, .publish cmdMsg⟩
  Prog.call ⟨.spin i, .info⟩

end Callback

section Main

variable [Zero α] [One α] [OfNat α 2] [Add α] [Sub α] [Mul α] [LE α] [DecidableLE α] [PyMath α]

/-- `main` once `rclpy.init` has returned -/
def session (p : FilterParams α) (msgs : List (Vector3 α)) : Py α Unit Unit := do
  let node ← init p
  Prog.within node (spinUntilInterrupt gazeErrorCallback msgs do
    Prog.call ⟨.shutdown, .destroyNode⟩
    Prog.call ⟨.shutdown, .rclpyShutdown⟩)

def main (p : FilterParams α) (msgs : List (Vector3 α)) : Py α Unit Unit := do
  Prog.call ⟨.start, .rclpyInit⟩
  session p msgs

end Main

/-! ## The callback as a machine -/

section Machine

variable [Add α] [Sub α] [Mul α]

/-- both filters are updated before any call that could raise -/
theorem gazeErrorCallback_apply (F : Site α → Option Exc) (i : ℕ) (msg : Vector3 α) (node : SubGazeErrorNode α)
    (t : Trace α) :
    gazeErrorCallback i msg F node t =
      Prog.calls [⟨.spin i, .publish (node.filterMsg msg).1⟩, ⟨.spin i, .info⟩] F (node.filterMsg msg).2 t := by
  have h : gazeErrorCallback i msg = (do
      let node ← Prog.self
      Prog.assign fun _ => (node.filterMsg msg).2
      Prog.calls [⟨.spin i, .publish (node.filterMsg msg).1⟩, ⟨.spin i, .info⟩]) := by
    simp [gazeErrorCallback, Prog.calls]
  rw [h]
  rfl

theorem gazeErrorCallback_state (F : Site α → Option Exc) (i : ℕ) (msg : Vector3 α) (node : SubGazeErrorNode α)
    (t : Trace α) : (gazeErrorCallback i msg F node t).state = (node.filterMsg msg).2 := by
  rw [gazeErrorCallback_apply, Prog.calls_state]

/-- each published component is that of its own filter -/
theorem contains_x :
    Contains (filterMsg : SubGazeErrorNode α → Vector3 α → Vector3 α × SubGazeErrorNode α)
      ButterworthLowPassFilter.update (fun _ => True) xFilter Vector3.x Vector3.x where
  inv _ _ _ := trivial
  next _ _ _ := rfl
  out _ _ _ := rfl

theorem contains_y :
    Contains (filterMsg : SubGazeErrorNode α → Vector3 α → Vector3 α × SubGazeErrorNode α)
      ButterworthLowPassFilter.update (fun _ => True) yFilter Vector3.y Vector3.y where
  inv _ _ _ := trivial
  next _ _ _ := rfl
  out _ _ _ := rfl

/-- a callback calls nothing outside its turn -/
theorem safe_gazeErrorCallback (i : ℕ) (msg : Vector3 α) :
    Prog.Safe (fun _ : SubGazeErrorNode α => True) OfTurn (gazeErrorCallback i msg) := by
  refine Prog.Safe.self_bind fun node _ => (Prog.Safe.assign _ ?_).bind fun _ => ?_
  · exact fun _ _ => trivial
  · exact (Prog.Safe.call _ fun _ => ⟨trivial, i, rfl⟩).bind fun _ => Prog.Safe.call _ fun _ => ⟨trivial, i, rfl⟩

end Machine

/-! ## The constructor as a straight line of calls -/

/-- the calls made before the filters are built -/
def setupOps : List (Op α) :=
  Op.superInit "sub_gaze_error_node" :: declared.map Op.declareParameter ++
    [Op.getParameter "input_topic", Op.getParameter "output_topic", Op.getParameter "sampling_frequency",
      Op.float "sampling_frequency", Op.getParameter "cutoff_frequency", Op.float "cutoff_frequency"]

/-- the calls made after -/
def connectOps (p : FilterParams α) : List (Op α) :=
  [.createPublisher p.outputTopic 10, .createSubscription p.inputTopic 10, .info]

def initCalls (p : FilterParams α) : List (Site α) := (setupOps ++ connectOps p).map fun op => ⟨.construct, op⟩

section Construction

variable [Zero α] [One α] [OfNat α 2] [Add α] [Sub α] [Mul α] [LE α] [DecidableLE α] [PyMath α]

theorem init_eq (p : FilterParams α) :
    (init p : Py α σ (SubGazeErrorNode α)) = (do
      Prog.calls (setupOps.map fun op => ⟨.construct, op⟩)
      let node ← Prog.lift (filters p.cutoffFrequency p.samplingFrequency)
      Prog.calls ((connectOps p).map fun op => ⟨.construct, op⟩)
      return node) := by
  simp [init, setupOps, connectOps, declared, Prog.calls, readParameter, readFloat]

/-- the constructor's filters are accepted together, with the frequencies of one -/
theorem filters_ok_iff (fc fs : α) (node : SubGazeErrorNode α) :
    filters fc fs = .ok node ↔
      ButterworthLowPassFilter.init fc fs = .ok node.xFilter ∧
        ButterworthLowPassFilter.init fc fs = .ok node.yFilter := by
  unfold filters
  cases h : ButterworthLowPassFilter.init fc fs with
  | error e => simp [bind, Except.bind]
  | ok f =>
    obtain ⟨x, y⟩ := node
    simp [bind, Except.bind, pure, Except.pure]

theorem filters_accepts_iff (fc fs : α) :
    (∃ node, filters fc fs = .ok node) ↔ ButterworthLowPassFilter.Accepts fc fs := by
  constructor
  · rintro ⟨node, hnode⟩
    exact ⟨node.xFilter, ((filters_ok_iff fc fs node).1 hnode).1⟩
  · rintro ⟨f, hf⟩
    exact ⟨⟨f, f⟩, (filters_ok_iff fc fs ⟨f, f⟩).2 ⟨hf, hf⟩⟩

variable (F : Site α → Option Exc) (p : FilterParams α) (s : σ) (t : Trace α)

/-- a construction none of whose calls raises, with frequencies that the filter accepts, makes them all -/
theorem init_ok (h : ∀ c ∈ initCalls p, F c = none) {node : SubGazeErrorNode α}
    (hnode : filters p.cutoffFrequency p.samplingFrequency = .ok node) :
    init p F s t = ⟨.ok node, s, t ++ Prog.returned (initCalls p)⟩ := by
  rw [initCalls, List.map_append, List.forall_mem_append] at h
  rw [init_eq, Prog.bind_ok F s t (Prog.calls_ok F s t _ h.1), hnode,
    Prog.bind_ok F s _ (Prog.lift_apply F s _ (.ok node)), Prog.bind_ok F s _ (Prog.calls_ok F s _ _ h.2)]
  simp [initCalls, Prog.returned]

/-- a construction that fails has made only calls of the constructor -/
theorem init_error (h : (∀ node, filters p.cutoffFrequency p.samplingFrequency ≠ .ok node) ∨
    ¬ ∀ c ∈ initCalls p, F c = none) :
    ∃ e t', init p F s t = ⟨.error e, s, t ++ t'⟩ ∧ ∀ ev ∈ t', ev.call ∈ initCalls p := by
  rw [init_eq]
  simp only [initCalls, List.map_append, List.mem_append] at h ⊢
  rcases Prog.calls_bind_cases F s t (setupOps.map fun op => ⟨.construct, op⟩) _ with
    ⟨hsetup, heq⟩ | ⟨e, t', heq, hmem⟩
  · rw [heq]
    cases hf : filters p.cutoffFrequency p.samplingFrequency with
    | error e =>
      refine ⟨e, _, rfl, ?_⟩
      intro ev hev
      exact Or.inl (Prog.call_mem_of_mem_returned hev)
    | ok node =>
      rw [Prog.bind_ok F s _ (Prog.lift_apply F s _ (.ok node))]
      rcases Prog.calls_bind_cases F s _ ((connectOps p).map fun op => ⟨.construct, op⟩) _ with
        ⟨hconnect, -⟩ | ⟨e, t', heq', hmem⟩
      · rcases h with h | h
        · exact absurd hf (h node)
        · exact absurd (fun c hc => hc.elim (hsetup c) (hconnect c)) h
      · refine ⟨e, _, heq'.trans (by rw [List.append_assoc]), ?_⟩
        intro ev hev
        rcases List.mem_append.1 hev with hev | hev
        · exact Or.inl (Prog.call_mem_of_mem_returned hev)
        · exact Or.inr (hmem ev hev)
  · exact ⟨e, t', heq, fun ev hev => Or.inl (hmem ev hev)⟩

end Construction

/-! ## The shutdown as a straight line of calls -/

/-- every call of a shutdown that completes -/
def shutdownCalls : List (Site α) := [⟨.shutdown, .destroyNode⟩, ⟨.shutdown, .rclpyShutdown⟩]

section Spinning

variable [Add α] [Sub α] [Mul α]

/-- the node as spinning leaves it, and the trace until then -/
def spun (F : Site α → Option Exc) (p : FilterParams α) (node : SubGazeErrorNode α) (msgs : List (Vector3 α))
    (t : Trace α) : Result (Site α) Exc (SubGazeErrorNode α) Unit :=
  spin gazeErrorCallback 0 msgs F node (t ++ Prog.returned (initCalls p))

/-- spinning adds to the trace of the constructor only calls of its turns -/
theorem spun_trace (F : Site α → Option Exc) (p : FilterParams α) (node : SubGazeErrorNode α) (msgs : List (Vector3 α))
    (t : Trace α) : Prog.Adds OfTurn (t ++ Prog.returned (initCalls p)) (spun F p node msgs t).trace :=
  (safe_spin (fun i _ => ⟨trivial, i, rfl⟩) safe_gazeErrorCallback 0 msgs F node _ _ _ _ rfl trivial).2

/-- however it ends, spinning leaves the node where some number of the messages brings it -/
theorem spun_state (F : Site α → Option Exc) (p : FilterParams α) (node : SubGazeErrorNode α) (msgs : List (Vector3 α))
    (t : Trace α) : ∃ n, (spun F p node msgs t).state = final filterMsg node (msgs.take n) :=
  spin_state (fun i msg node t => gazeErrorCallback_state F i msg node t) 0 msgs node _

end Spinning

/-- a run whose construction completes: the constructor, the spinning, and the shutdown from where it ended -/
theorem session_trace [Zero α] [One α] [OfNat α 2] [Add α] [Sub α] [Mul α] [LE α] [DecidableLE α] [PyMath α]
    (F : Site α → Option Exc) (p : FilterParams α) (msgs : List (Vector3 α)) (t : Trace α)
    (h : ∀ c ∈ initCalls p, F c = none) {node : SubGazeErrorNode α}
    (hnode : filters p.cutoffFrequency p.samplingFrequency = .ok node) :
    (session p msgs F () t).trace =
      (Prog.calls shutdownCalls F (spun F p node msgs t).state (spun F p node msgs t).trace).trace := by
  have hshutdown : (Prog.calls shutdownCalls : Py α (SubGazeErrorNode α) Unit) = (do
      Prog.call ⟨.shutdown, .destroyNode⟩
      Prog.call ⟨.shutdown, .rclpyShutdown⟩) := by
    simp [shutdownCalls, Prog.calls]
  rw [session, Prog.bind_ok F () t (init_ok F p () t h hnode), hshutdown]
  exact spinUntilInterrupt_trace _ _ _ F node _

end SubGazeErrorNode

end VitaminD
