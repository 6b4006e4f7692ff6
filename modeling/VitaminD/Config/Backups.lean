/-
What becomes of the configuration as it was before the scripts. Both scripts copy the file before they change it, under
a name that has the second in it.

- `original_kept`: whatever fails in `fix_imx219_camera.sh`, the file is as it was or its first copy is there, if the
  two copies are made in different seconds; and a run that exits with 0 has kept the original exactly if the seconds are
  different or the first script had nothing to change.
-/
import VitaminD.Config.Overlay
import VitaminD.Core.Hoare

namespace VitaminD.CameraScripts

open VitaminD.Effects VitaminD.Hoare

variable {F : Script × Command → Option ℕ} {d d' : Disk} {second second' : ℕ} {installed : Line → Bool}
  {f : TextFile Char} {script : Script}

/-- the copy of that second is f -/
def Kept (second : ℕ) (f : TextFile Char) (d : Disk) : Prop := d.backups second = some f

/-- nothing has been changed yet, or the copy is there -/
def Safe (second : ℕ) (f : TextFile Char) (d : Disk) : Prop := d.config = some f ∨ Kept second f d

/-! ## Step by step -/

theorem edit_keeps (command : Command) (change : TextFile Char → TextFile Char) :
    Triple (fun w => Kept second f w.1) (under F (edit script command change)) (fun _ w => Kept second f w.1)
      (fun _ w => Safe second f w.1) :=
  Triple.command _ _ (fun _ hd => hd) fun _ hd => Or.inr hd

theorem grep_keeps (kind : Line → Bool) :
    Triple (fun w => Kept second f w.1) (under F (grep kind)) (fun _ w => Kept second f w.1)
      (fun _ w => Safe second f w.1) := fun _ hw => hw

theorem setAutoDetect_keeps (l : Line) :
    Triple (fun w => Kept second f w.1) (under F (setAutoDetect script l)) (fun _ w => Kept second f w.1)
      (fun _ w => Safe second f w.1) := by
  rw [setAutoDetect, under_bind]
  refine (grep_keeps _).bind fun any => ?_
  cases any with
  | true => exact edit_keeps _ _
  | false => exact edit_keeps _ _

/-- the copy is made first -/
theorem backUp_keeps : Triple (fun w => w.1.config = some f) (under F (backUp script second))
    (fun _ w => Kept second f w.1) (fun _ w => Safe second f w.1) := by
  refine Triple.command (P := fun d : Disk => d.config = some f) (Q := Kept second f) (R := Safe second f) _ _
    (fun d hd => ?_) fun d hd => Or.inl hd
  simp [Kept, hd]

theorem backUp_other (hne : second ≠ second') :
    Triple (fun w => Kept second f w.1) (under F (backUp script second')) (fun _ w => Kept second f w.1)
      (fun _ w => Safe second f w.1) := by
  refine Triple.command _ _ (fun d hd => ?_) fun d hd => Or.inr hd
  simpa [Kept, hne] using hd

theorem repair_keeps : Triple (fun w => w.1.config = some f) (under F (repairCameraStack second))
    (fun _ w => Kept second f w.1) (fun _ w => Safe second f w.1) := by
  rw [repairCameraStack, under_bind]
  refine (Triple.calls (P := fun d : Disk => d.config = some f) (R := Safe second f) _ fun _ hd => Or.inl hd).bind
    fun _ => ?_
  refine Triple.self (P := fun d : Disk => d.config = some f) fun d hd => ?_
  rw [if_pos (by rw [hd]; rfl), under_bind]
  refine (backUp_keeps.pre fun w hw => by rw [hw]; exact hd).bind fun _ => ?_
  rw [under_bind]
  refine (setAutoDetect_keeps _).bind fun _ => ?_
  rw [under_bind]
  refine (grep_keeps _).bind fun any => ?_
  cases any with
  | true => exact Triple.pure fun _ hw => hw
  | false => exact edit_keeps _ _

/-- the second copy is another -/
theorem configure_keeps (hne : second ≠ second') (args : List Line) :
    Triple (fun w => Kept second f w.1) (under F (configureCameraOverlay second' installed args))
      (fun _ w => Kept second f w.1) (fun _ w => Safe second f w.1) := by
  have hraise (e : ℕ) (g : Unit → Shell Unit) : Triple (fun w => Kept second f w.1) (under F (Prog.raise e >>= g))
      (fun _ w => Kept second f w.1) (fun _ w => Safe second f w.1) := fun _ hw => Or.inr hw
  unfold configureCameraOverlay
  split
  · rename_i sensor
    refine Triple.self (P := Kept second f) fun d hd => ?_
    refine Triple.pre (P := fun w => Kept second f w.1) ?_ fun w hw => by rw [hw]; exact hd
    by_cases hnone : d.config.isNone = true
    · simp only [hnone, if_true]
      exact hraise 1 _
    by_cases hinstalled : installed sensor = true
    · simp only [hnone, hinstalled, Bool.not_true, Bool.false_eq_true, if_false]
      rw [under_bind]
      refine (backUp_other hne).bind fun _ => ?_
      rw [under_bind]
      refine (setAutoDetect_keeps _).bind fun _ => ?_
      rw [under_bind]
      exact (edit_keeps _ _).bind fun _ => edit_keeps _ _
    · simp only [hnone, hinstalled, Bool.not_false, Bool.false_eq_true, if_false, if_true]
      rw [under_bind]
      refine (Triple.call (P := Kept second f) (R := Safe second f) _ (fun _ hd => hd) fun _ hd => Or.inr hd).bind
        fun _ => ?_
      exact hraise 1 _
  · exact fun _ hw => Or.inr hw

theorem fix_keeps (hne : second ≠ second') :
    Triple (fun w => w.1.config = some f) (under F (fixImx219Camera second second' installed))
      (fun _ w => Kept second f w.1) (fun _ w => Safe second f w.1) := by
  rw [fixImx219Camera, under_bind]
  refine (Triple.call (P := fun d : Disk => d.config = some f) (R := Safe second f) _ (fun _ hd => hd)
    fun _ hd => Or.inl hd).bind fun _ => ?_
  rw [under_bind]
  exact repair_keeps.bind fun _ => configure_keeps hne _

/-! ## Runs that exit with 0 -/

/-- what `repair_camera_stack.sh` makes of the file -/
def repaired (f : TextFile Char) : TextFile Char :=
  let g := withAutoDetect autoDetectOn f
  if g.any vc4Overlay then g else g.append "dtoverlay=vc4-kms-v3d".toList

theorem repairCameraStack_ok {t t' : List (Event (Script × Command) ℕ)} (hf : d.config = some f)
    (h : repairCameraStack second F d t = ⟨.ok (), d', t'⟩) :
    d' = ⟨some (repaired f), Function.update d.backups second (some f)⟩ := by
  obtain ⟨_, d₁, t₁, hcalls, h⟩ := bind_ok_iff.1 h
  have hstate := Prog.calls_state F d t
    [(.repairCameraStack, .aptUpdate), (.repairCameraStack, .aptInstall), (.repairCameraStack, .usermod)]
  rw [hcalls] at hstate
  obtain rfl : d = d₁ := hstate.symm
  rw [Prog.bind_ok F d t₁ (Prog.self_apply F d t₁), if_pos (by rw [hf]; rfl)] at h
  obtain ⟨_, d₂, t₂, hbackUp, h⟩ := bind_ok_iff.1 h
  obtain rfl := command_ok hbackUp
  obtain ⟨_, d₃, t₃, hset, h⟩ := bind_ok_iff.1 h
  obtain rfl := setAutoDetect_ok (by exact hf) hset
  obtain ⟨any, d₄, t₄, hgrep, h⟩ := bind_ok_iff.1 h
  cases hgrep
  cases hany : (withAutoDetect autoDetectOn f).any vc4Overlay with
  | true =>
    simp only [Option.any_some, hany, Bool.not_true, Bool.false_eq_true, if_false] at h
    cases h
    simp [repaired, hany, hf]
  | false =>
    simp only [Option.any_some, hany, Bool.not_false, if_true] at h
    obtain rfl := command_ok h
    simp [repaired, hany, hf]

theorem fixImx219Camera_ok {t t' : List (Event (Script × Command) ℕ)} (hf : d.config = some f)
    (h : fixImx219Camera second second' installed F d t = ⟨.ok (), d', t'⟩) :
    d' = ⟨some (withOverlay "imx219".toList (repaired f)),
      Function.update (Function.update d.backups second (some f)) second' (some (repaired f))⟩ := by
  obtain ⟨_, d₁, t₁, hcall, h⟩ := bind_ok_iff.1 h
  have hstate := Prog.call_state F d t (.fixImx219Camera, .cd)
  rw [hcall] at hstate
  obtain rfl : d = d₁ := hstate.symm
  obtain ⟨_, d₂, t₂, hrepair, hconfigure⟩ := bind_ok_iff.1 h
  obtain rfl := repairCameraStack_ok hf hrepair
  obtain ⟨sensor, g, hsensor, -, hg, rfl⟩ := configureCameraOverlay_ok hconfigure
  cases hsensor
  cases hg
  rfl

/-- **When the original is kept.** -/
theorem original_kept (F : Script × Command → Option ℕ) (second second' : ℕ) (installed : Line → Bool)
    (hf : d.config = some f) :
    let r := fixImx219Camera second second' installed F d []
    (second ≠ second' → r.state.config = some f ∨ r.state.backups second = some f) ∧
      (r.value = .ok () → (r.state.backups second = some f ↔ second ≠ second' ∨ repaired f = f)) := by
  intro r
  constructor
  · intro hne
    have h : Outcome (fun _ w => Kept second f w.1) (fun _ w => Safe second f w.1)
        (under F (fixImx219Camera second second' installed) (d, [])) := fix_keeps hne (d, []) hf
    unfold under at h
    rcases hr : r with ⟨e | _, d', t'⟩
    · rw [show fixImx219Camera second second' installed F d [] = _ from hr] at h
      exact h
    · rw [show fixImx219Camera second second' installed F d [] = _ from hr] at h
      exact Or.inr h
  · intro hok
    rcases hr : r with ⟨v, d', t'⟩
    rw [hr] at hok
    obtain rfl : v = .ok () := hok
    obtain rfl := fixImx219Camera_ok hf hr
    by_cases hne : second = second'
    · subst hne
      simp
    · simp [hne]

/-- both copies in one second: the second is made over the first, and the original is gone -/
theorem original_kept_same_second :
    (fixImx219Camera 0 0 (fun _ => true) (fun _ => none) ⟨some otherCamera, fun _ => none⟩ []).state.backups 0 ≠
      some otherCamera := by
  intro hkept
  have h := (original_kept (fun _ => none) 0 0 (fun _ => true) (d := ⟨some otherCamera, fun _ => none⟩) rfl).2 rfl
  rcases h.1 hkept with hne | hrepaired
  · exact hne rfl
  · exact absurd hrepaired (by decide)

end VitaminD.CameraScripts
