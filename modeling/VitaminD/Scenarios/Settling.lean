/-
The two nodes connected: what the filter node publishes is what the servo node receives, in order and without loss. An
error that stays at v from some message on, after any history, is filtered to v in the limit, so that the published
errors end up on one side of the deadzone for good; from there on the axis rests, or runs into its limit and stays.

- `settling`: both axes, for every filter configuration the constructor accepts;
- `servoAt_interleaved`: in any interleaving of the two nodes' callbacks, with any number of messages under way between
  them, the servo node is where the messages delivered so far have brought it.
-/
import VitaminD.Core.Channel
import VitaminD.Filter.Refinement
import VitaminD.Model.SubGazeErrorNode
import VitaminD.Servo.Refinement

namespace VitaminD.Settling

open VitaminD.Machine VitaminD.Saturation VitaminD.ServoNode VitaminD.SubGazeErrorNode Filter Topology

/-! ## One axis -/

/-- what an error that stays at v brings an angle to -/
def Settles (deadzone minAngle maxAngle v : ℝ) (angle : ℕ → ℝ) : Prop :=
  (|v| < deadzone → ∃ M, ∀ n ≥ M, angle n = angle M) ∧
    (deadzone < |v| → ∃ M, ∀ n ≥ M, angle n = if 0 < v then minAngle else maxAngle)

section Axis

variable {deadzone gain lo hi v : ℝ} (θ : ℝ) {y : ℕ → ℝ}

/-- errors that tend to v inside the deadzone -/
theorem integrate_rests (h : lo ≤ hi) (hy : Tendsto y atTop (𝓝 v)) (hv : |v| < deadzone) :
    ∃ M, ∀ n ≥ M, stateAt (integrate lo hi) θ (fun n => deadband deadzone (y n) * gain) n =
      stateAt (integrate lo hi) θ (fun n => deadband deadzone (y n) * gain) M := by
  obtain ⟨N, hN⟩ := eventually_atTop.1 (hy.abs.eventually_lt_const hv)
  refine eventually_constant θ _ h fun n (hn : N ≤ n) => ?_
  rw [deadband_of_lt (hN n hn), zero_mul]

/-- errors that tend to v above the deadzone -/
theorem integrate_falls (hgain : 0 < gain) (hdeadzone : 0 < deadzone) (hy : Tendsto y atTop (𝓝 v))
    (hv : deadzone < v) :
    ∃ M, ∀ n ≥ M, stateAt (integrate lo hi) θ (fun n => deadband deadzone (y n) * gain) n = lo := by
  -- from some sample on the errors stay above a c between the deadzone and v, so each step falls by c * gain or more
  obtain ⟨c, hc, hcv⟩ := exists_between hv
  obtain ⟨N, hN⟩ := eventually_atTop.1 (hy.eventually_const_lt hcv)
  refine eventually_low θ _ (mul_pos (hdeadzone.trans hc) hgain) fun n (hn : N ≤ n) => ?_
  have hyc := hN n hn
  rw [deadband_of_ge (hc.le.trans (hyc.le.trans (le_abs_self _)))]
  gcongr

/-- errors that tend to v below the deadzone -/
theorem integrate_rises (h : lo ≤ hi) (hgain : 0 < gain) (hdeadzone : 0 < deadzone) (hy : Tendsto y atTop (𝓝 v))
    (hv : deadzone < -v) :
    ∃ M, ∀ n ≥ M, stateAt (integrate lo hi) θ (fun n => deadband deadzone (y n) * gain) n = hi := by
  obtain ⟨c, hc, hcv⟩ := exists_between hv
  obtain ⟨N, hN⟩ := eventually_atTop.1 (hy.eventually_lt_const (lt_neg.1 hcv))
  refine eventually_high θ _ h (mul_pos (hdeadzone.trans hc) hgain) fun n (hn : N ≤ n) => ?_
  have hyc := hN n hn
  rw [deadband_of_ge (hc.le.trans ((lt_neg.1 hyc).le.trans (neg_le_abs _))), ← neg_mul]
  gcongr

/-- errors that tend to v settle the integrator they drive -/
theorem integrate_settles (h : lo ≤ hi) (hgain : 0 < gain) (hdeadzone : 0 < deadzone) (hy : Tendsto y atTop (𝓝 v)) :
    Settles deadzone lo hi v (stateAt (integrate lo hi) θ fun n => deadband deadzone (y n) * gain) := by
  refine ⟨integrate_rests θ h hy, fun hv => ?_⟩
  by_cases hpos : 0 < v
  · rw [if_pos hpos]
    rw [abs_of_pos hpos] at hv
    exact integrate_falls θ hgain hdeadzone hy hv
  · rw [if_neg hpos]
    rw [abs_of_nonpos (not_lt.1 hpos)] at hv
    exact integrate_rises θ h hgain hdeadzone hy hv

end Axis

/-! ## The published errors -/

/-- what an accepted constructor builds -/
theorem filters_fresh {fc fs : ℝ} {sub : SubGazeErrorNode ℝ} (hsub : filters fc fs = .ok sub) :
    ∃ k, 0 < k ∧ sub.xFilter = ButterworthLowPassFilter.fresh k ∧ sub.yFilter = ButterworthLowPassFilter.fresh k := by
  obtain ⟨hx, hy⟩ := (filters_ok_iff fc fs sub).1 hsub
  obtain ⟨hfc, hfs, hx⟩ := (ButterworthLowPassFilter.init_ok_iff fc fs _).1 hx
  obtain ⟨-, -, hy⟩ := (ButterworthLowPassFilter.init_ok_iff fc fs _).1 hy
  exact ⟨_, ButterworthLowPassFilter.halfStep_pos hfc hfs, hx, hy⟩

/-- the filter whose output an axis of the servo node follows -/
def filterOf : Axis → SubGazeErrorNode ℝ → ButterworthLowPassFilter ℝ
  | .pan, sub => sub.xFilter
  | .tilt, sub => sub.yFilter

theorem contains_error (axis : Axis) :
    Contains filterMsg ButterworthLowPassFilter.update (fun _ => True) (filterOf axis) axis.error axis.error := by
  cases axis with
  | pan => exact contains_x
  | tilt => exact contains_y

/-- a component that stays at v is published as what tends to v -/
theorem published_tendsto {fc fs : ℝ} {sub : SubGazeErrorNode ℝ} (hsub : filters fc fs = .ok sub) (axis : Axis)
    (msgs : ℕ → Vector3 ℝ) {N : ℕ} {v : ℝ} (hv : ∀ n ≥ N, axis.error (msgs n) = v) :
    Tendsto (fun n => axis.error (outAt filterMsg sub msgs n)) atTop (𝓝 v) := by
  obtain ⟨k, hk, hx, hy⟩ := filters_fresh hsub
  have hfresh : filterOf axis sub = .fresh k := by
    cases axis with
    | pan => exact hx
    | tilt => exact hy
  have hout := ButterworthLowPassFilter.outAt_fresh_tendsto hk (fun n => axis.error (msgs n)) hv
  refine hout.congr ?_
  intro n
  rw [(contains_error axis).outAt trivial, hfresh]

/-! ## Main results -/

/-- the servo node after n messages of the filter node -/
noncomputable def servoAt (sub : SubGazeErrorNode ℝ) (p : ServoParams ℝ) (msgs : ℕ → Vector3 ℝ) (n : ℕ) :
    ServoNode ℝ := stateAt handle (start p) (outAt filterMsg sub msgs) n

/-- either axis -/
theorem angle_settles {fc fs : ℝ} {sub : SubGazeErrorNode ℝ} (hsub : filters fc fs = .ok sub) (axis : Axis)
    (p : ServoParams ℝ) (h : axis.minAngle p ≤ axis.maxAngle p) (hgain : 0 < axis.gain p) (hdeadzone : 0 < p.deadzone)
    (msgs : ℕ → Vector3 ℝ) {N : ℕ} {v : ℝ} (hv : ∀ n ≥ N, axis.error (msgs n) = v) :
    Settles p.deadzone (axis.minAngle p) (axis.maxAngle p) v fun n => axis.angle (servoAt sub p msgs n) := by
  have hangle : (fun n => axis.angle (servoAt sub p msgs n)) =
      stateAt (integrate (axis.minAngle p) (axis.maxAngle p)) (axis.angle (start p))
        fun n => deadband p.deadzone (axis.error (outAt filterMsg sub msgs n)) * axis.gain p :=
    funext fun n => (tracks p axis).stateAt rfl _ n
  rw [hangle]
  exact integrate_settles _ h hgain hdeadzone (published_tendsto hsub axis msgs hv)

/-- **The pipeline settles.** An error component that stays at v from some message on, after any history, brings its
axis to rest if it is inside the deadzone, and onto the limit against its sign if it is outside. -/
theorem settling {fc fs : ℝ} {sub : SubGazeErrorNode ℝ} (hsub : filters fc fs = .ok sub) (p : ServoParams ℝ)
    (hdeadzone : 0 < p.deadzone) (msgs : ℕ → Vector3 ℝ) (N : ℕ) (v : ℝ) :
    (p.panMinAngle ≤ p.panMaxAngle → 0 < p.panGain → (∀ n ≥ N, (msgs n).x = v) →
        Settles p.deadzone p.panMinAngle p.panMaxAngle v fun n => (servoAt sub p msgs n).panAngle) ∧
      (p.tiltMinAngle ≤ p.tiltMaxAngle → 0 < p.tiltGain → (∀ n ≥ N, (msgs n).y = v) →
        Settles p.deadzone p.tiltMinAngle p.tiltMaxAngle v fun n => (servoAt sub p msgs n).tiltAngle) :=
  ⟨fun hpan hgain hv => angle_settles hsub .pan p hpan hgain hdeadzone msgs hv,
    fun htilt hgain hv => angle_settles hsub .tilt p htilt hgain hdeadzone msgs hv⟩

/-- errors that jump from side to side, and then stay outside the deadzone of 2 on the pan axis and inside it on the
tilt axis -/
def jumping (n : ℕ) : Vector3 ℝ := if n = 0 then ⟨-45, 35, 0⟩ else if n = 1 then ⟨7, -75, 0⟩ else ⟨10, -1, 0⟩

theorem jumping_of_le {n : ℕ} (hn : 2 ≤ n) : jumping n = ⟨10, -1, 0⟩ := by
  rw [jumping, if_neg (by omega), if_neg (by omega)]

theorem filters_one_four : filters (1 : ℝ) 4 = .ok ⟨.fresh 1, .fresh 1⟩ := by
  have hinit : ButterworthLowPassFilter.init (1 : ℝ) 4 = _ := ButterworthLowPassFilter.init_ok one_pos (by norm_num)
  rw [ButterworthLowPassFilter.halfStep_one_four] at hinit
  exact (filters_ok_iff 1 4 _).2 ⟨hinit, hinit⟩

/-- a filter of 1 Hz at 4 Hz, in front of a servo node with the defaults: the pan axis ends up on its lower limit, and
the tilt axis at rest -/
theorem settling_one_four :
    filters (1 : ℝ) 4 = .ok ⟨.fresh 1, .fresh 1⟩ ∧
      (∃ M, ∀ n ≥ M, (servoAt ⟨.fresh 1, .fresh 1⟩ ServoParams.default jumping n).panAngle = 20) ∧
      ∃ M, ∀ n ≥ M, (servoAt ⟨.fresh 1, .fresh 1⟩ ServoParams.default jumping n).tiltAngle =
        (servoAt ⟨.fresh 1, .fresh 1⟩ ServoParams.default jumping M).tiltAngle := by
  have hdeadzone : 0 < (ServoParams.default : ServoParams ℝ).deadzone := by norm_num [ServoParams.default]
  have hpan := (settling filters_one_four ServoParams.default hdeadzone jumping 2 10).1
    (by norm_num [ServoParams.default]) (by norm_num [ServoParams.default]) fun n hn => by rw [jumping_of_le hn]
  have htilt := (settling filters_one_four ServoParams.default hdeadzone jumping 2 (-1)).2
    (by norm_num [ServoParams.default]) (by norm_num [ServoParams.default]) fun n hn => by rw [jumping_of_le hn]
  obtain ⟨M, hM⟩ := hpan.2 (by norm_num [ServoParams.default])
  refine ⟨filters_one_four, ⟨M, fun n hn => ?_⟩, htilt.1 (by norm_num [ServoParams.default])⟩
  refine (hM n hn).trans ?_
  rw [if_pos (by norm_num)]
  rfl

/-- **Interleaving does not matter.** In any interleaving of the two nodes' callbacks, with any number of messages
under way, the servo node is where the messages delivered to it so far have brought it. -/
theorem servoAt_interleaved (sub : SubGazeErrorNode ℝ) (p : ServoParams ℝ) (msgs : ℕ → Vector3 ℝ)
    (turns : List Channel.Turn) :
    (Channel.run filterMsg handle msgs sub (start p) turns).receiver =
      servoAt sub p msgs (Channel.run filterMsg handle msgs sub (start p) turns).delivered :=
  (Channel.run_inOrder filterMsg handle msgs sub (start p) turns).receiver

end VitaminD.Settling
