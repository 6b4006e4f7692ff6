/-
What `configure_camera_overlay.sh` makes of the configuration when it exits with 0. `grep` is taken to answer.

- `configured_iff`: for a sensor that the script knows, the file says what it should, and nothing else of it is
  changed, exactly if the file is `Finished`: it was empty or ended in a line break, or its unfinished last line is an
  overlay that goes while auto detection was set before;
- `reconfigured_iff`: if the file is `Finished`, the script can be run again for another sensor, as if it had not been
  run before, exactly if it knows the first sensor.
-/
import VitaminD.Model.CameraScripts

namespace VitaminD.CameraScripts

open VitaminD.Effects

/-! ## The edits -/

/-- what the `if grep ... else ... fi` makes of the file -/
def withAutoDetect (l : Line) (f : TextFile Char) : TextFile Char :=
  if f.any autoDetect then f.rewrite autoDetect l else f.append l

/-- the file before the last command of the script -/
def cleared (f : TextFile Char) : TextFile Char := (withAutoDetect autoDetectOff f).delete cameraOverlay

/-- what the script makes of the file -/
def withOverlay (sensor : Line) (f : TextFile Char) : TextFile Char := (cleared f).append (overlayOf sensor)

section Commands

variable {α β : Type} {F : Script × Command → Option ℕ} {d d' : Disk} {t t' : List (Event (Script × Command) ℕ)}
  {script : Script} {command : Command}

theorem bind_ok_iff {m : Shell α} {g : α → Shell β} {b : β} :
    (m >>= g) F d t = ⟨.ok b, d', t'⟩ ↔ ∃ a d₁ t₁, m F d t = ⟨.ok a, d₁, t₁⟩ ∧ g a F d₁ t₁ = ⟨.ok b, d', t'⟩ := by
  rw [Prog.bind_apply]
  rcases m F d t with ⟨e | a, d₁, t₁⟩ <;> simp

/-- a command that returns has done what it does -/
theorem command_ok {c : Script × Command} {g : Disk → Disk}
    (h : (do Prog.call c; Prog.assign g : Shell Unit) F d t = ⟨.ok (), d', t'⟩) : d' = g d := by
  obtain ⟨_, d₁, t₁, hcall, hassign⟩ := bind_ok_iff.1 h
  have hstate := Prog.call_state F d t c
  rw [hcall] at hstate
  obtain rfl : d₁ = d := hstate
  cases hassign
  rfl

theorem setAutoDetect_ok {l : Line} {f : TextFile Char} (hf : d.config = some f)
    (h : setAutoDetect script l F d t = ⟨.ok (), d', t'⟩) : d' = { d with config := some (withAutoDetect l f) } := by
  have hgrep : grep autoDetect F d t = ⟨.ok (f.any autoDetect), d, t⟩ := by
    simp [grep, Prog.bind_apply, hf]
  rw [setAutoDetect, Prog.bind_ok F d t hgrep] at h
  unfold withAutoDetect
  split_ifs at h ⊢ with hany
  · simpa [hf] using command_ok h
  · simpa [hf] using command_ok h

/-- **What the script does when it exits with 0.** -/
theorem configureCameraOverlay_ok {second : ℕ} {installed : Line → Bool} {args : List Line}
    (h : configureCameraOverlay second installed args F d t = ⟨.ok (), d', t'⟩) :
    ∃ sensor f, args = [sensor] ∧ installed sensor = true ∧ d.config = some f ∧
      d' = ⟨some (withOverlay sensor f), Function.update d.backups second (some f)⟩ := by
  unfold configureCameraOverlay at h
  split at h
  · rename_i sensor
    refine ⟨sensor, ?_⟩
    rw [Prog.bind_ok F d t (Prog.self_apply F d t)] at h
    cases hf : d.config with
    | none => simp [hf, Prog.bind_apply, Prog.raise] at h
    | some f =>
      by_cases hinstalled : installed sensor = true
      · simp only [hf, hinstalled, Option.isNone_some, Bool.not_true, Bool.false_eq_true, if_false] at h
        obtain ⟨_, d₁, t₁, hbackUp, h⟩ := bind_ok_iff.1 h
        obtain rfl := command_ok hbackUp
        obtain ⟨_, d₂, t₂, hset, h⟩ := bind_ok_iff.1 h
        obtain rfl := setAutoDetect_ok (by exact hf) hset
        obtain ⟨_, d₃, t₃, hdelete, happend⟩ := bind_ok_iff.1 h
        obtain rfl := command_ok hdelete
        obtain rfl := command_ok happend
        exact ⟨f, rfl, hinstalled, rfl, by simp [withOverlay, cleared, hf]⟩
      · simp only [hf, hinstalled, Option.isNone_some, Bool.not_false, Bool.false_eq_true, if_false, if_true] at h
        obtain ⟨_, d₁, t₁, -, h⟩ := bind_ok_iff.1 h
        obtain ⟨_, d₂, t₂, hraise, -⟩ := bind_ok_iff.1 h
        cases hraise
  · cases h

end Commands

/-! ## Lines -/

theorem autoDetect_off : autoDetect autoDetectOff = true := by decide

/-- the two kinds of lines have different first letters -/
theorem autoDetect_of_cameraOverlay {l : Line} (h : cameraOverlay l = true) : autoDetect l = false := by
  obtain ⟨s, -, hs⟩ := List.any_eq_true.1 h
  cases l with
  | nil => cases hs
  | cons c l =>
    obtain rfl : 'd' = c := (List.cons_prefix_cons.1 (List.isPrefixOf_iff_prefix.1 hs)).1
    rfl

theorem cameraOverlay_of_autoDetect {l : Line} (h : autoDetect l = true) : cameraOverlay l = false := by
  by_contra hl
  rw [Bool.not_eq_false] at hl
  rw [autoDetect_of_cameraOverlay hl] at h
  cases h

/-- lines that the script has nothing to do with -/
def other (l : Line) : Bool := !autoDetect l && !cameraOverlay l

/-- g is f with auto detection off, the overlay of the sensor and no other, and nothing else changed -/
structure Configured (sensor : Line) (f g : TextFile Char) : Prop where
  autoDetect : ∀ l ∈ g.lines, CameraScripts.autoDetect l = true → l = autoDetectOff
  off : autoDetectOff ∈ g.lines
  overlay : g.lines.filter cameraOverlay = [overlayOf sensor]
  others : g.lines.filter other = f.lines.filter other
  rest : g.rest = []

variable {sensor : Line} {f : TextFile Char}

/-- a line that is neither rewritten nor deleted stays where it is -/
theorem filter_other_rewrite (lines : List Line) :
    (lines.map fun l => if autoDetect l then autoDetectOff else l).filter other = lines.filter other := by
  induction lines with
  | nil => rfl
  | cons l lines ih =>
    rw [List.map_cons, List.filter_cons, List.filter_cons, ih]
    cases hl : autoDetect l with
    | true => simp [other, hl, autoDetect_off]
    | false => simp

theorem filter_other_delete (lines : List Line) :
    (lines.filter fun l => !cameraOverlay l).filter other = lines.filter other := by
  rw [List.filter_filter]
  congr 1
  funext l
  cases h : cameraOverlay l <;> simp [other, h]

/-! ## What the file says afterwards -/

/-- the lines that are left and rewritten before the overlay is added, every one of them finished -/
structure Cleared (f g : TextFile Char) : Prop where
  autoDetect : ∀ l ∈ g.lines, CameraScripts.autoDetect l = true → l = autoDetectOff
  off : autoDetectOff ∈ g.lines
  overlay : ∀ l ∈ g.lines, cameraOverlay l = false
  others : g.lines.filter other = f.lines.filter other
  rest : g.rest = []

theorem Cleared.append_eq {g : TextFile Char} (h : Cleared f g) (sensor : Line) :
    g.append (overlayOf sensor) = ⟨g.lines ++ [overlayOf sensor], []⟩ := by
  simp [TextFile.append, h.rest]

theorem Cleared.autoDetect_append {g : TextFile Char} (h : Cleared f g) (sensor : Line) :
    ∀ l ∈ (g.append (overlayOf sensor)).lines, CameraScripts.autoDetect l = true → l = autoDetectOff := by
  intro l hl hkind
  rw [h.append_eq, List.mem_append, List.mem_singleton] at hl
  rcases hl with hl | rfl
  · exact h.autoDetect l hl hkind
  · cases hkind

theorem Cleared.configured {g : TextFile Char} (h : Cleared f g) (hsensor : cameraOverlay (overlayOf sensor) = true) :
    Configured sensor f (g.append (overlayOf sensor)) := by
  refine ⟨h.autoDetect_append sensor, ?_, ?_, ?_, rfl⟩
  · rw [h.append_eq]
    exact List.mem_append_left _ h.off
  · have hnone : g.lines.filter cameraOverlay = [] := List.filter_eq_nil_iff.2 fun l hl => by simp [h.overlay l hl]
    rw [h.append_eq, List.filter_append, hnone]
    simp [hsensor]
  · rw [h.append_eq, List.filter_append, h.others]
    simp [other, hsensor]

theorem any_lines (hany : f.any autoDetect = true) (hrest : autoDetect f.rest = false) :
    ∃ l ∈ f.lines, autoDetect l = true := by
  rcases TextFile.any_iff.1 hany with h | ⟨-, h⟩
  · exact h
  · rw [hrest] at h
    cases h

/-- with the setting there already, and the rest of the file empty or an overlay that goes -/
theorem cleared_of_any (hany : f.any autoDetect = true) (hrest : f.rest = [] ∨ cameraOverlay f.rest = true) :
    Cleared f (cleared f) := by
  have hauto : autoDetect f.rest = false := by
    rcases hrest with h | h
    · rw [h]; rfl
    · exact autoDetect_of_cameraOverlay h
  rw [cleared, withAutoDetect, if_pos hany]
  constructor
  · intro l hl hkind
    exact TextFile.mem_rewrite_lines (List.mem_filter.1 hl).1 hkind
  · obtain ⟨l, hl, hkind⟩ := any_lines hany hauto
    refine List.mem_filter.2 ⟨List.mem_map.2 ⟨l, hl, by simp [hkind]⟩, ?_⟩
    rw [cameraOverlay_of_autoDetect autoDetect_off]
    rfl
  · intro l hl
    simpa using (List.mem_filter.1 hl).2
  · rw [TextFile.delete, filter_other_delete, TextFile.rewrite, filter_other_rewrite]
  · rcases hrest with h | h <;> simp [TextFile.delete, TextFile.rewrite, hauto, h]

/-- with the setting to add, on a line of its own -/
theorem cleared_of_not_any (hany : f.any autoDetect = false) (hrest : f.rest = []) : Cleared f (cleared f) := by
  have hnone : ∀ l ∈ f.lines, autoDetect l = false := by
    intro l hl
    by_contra hkind
    rw [Bool.not_eq_false] at hkind
    rw [TextFile.any_of_mem hl hkind] at hany
    cases hany
  have hoff : cameraOverlay autoDetectOff = false := cameraOverlay_of_autoDetect autoDetect_off
  rw [cleared, withAutoDetect, if_neg (by simp [hany])]
  constructor
  · intro l hl hkind
    have hmem := (List.mem_filter.1 hl).1
    simp only [TextFile.append, hrest, List.nil_append, List.mem_append, List.mem_singleton] at hmem
    rcases hmem with hmem | hmem
    · rw [hnone l hmem] at hkind
      cases hkind
    · exact hmem
  · simp [TextFile.delete, TextFile.append, hrest, hoff]
  · intro l hl
    simpa using (List.mem_filter.1 hl).2
  · rw [TextFile.delete, filter_other_delete]
    simp [TextFile.append, hrest, other, autoDetect_off]
  · rfl

/-- the file is empty or ends in a line break, or it ends in an overlay that goes -/
def Finished (f : TextFile Char) : Prop := f.rest = [] ∨ f.any autoDetect = true ∧ cameraOverlay f.rest = true

theorem cleared_of_finished (h : Finished f) : Cleared f (cleared f) := by
  unfold Finished at h
  cases hany : f.any autoDetect with
  | true => exact cleared_of_any hany (h.imp_right And.right)
  | false =>
    rw [hany] at h
    exact cleared_of_not_any hany (h.resolve_right fun h => by cases h.1)

/-- with the setting still to add, it lands on the rest of the file -/
theorem not_off_mem (hany : f.any autoDetect = false) (hrest : f.rest ≠ []) :
    autoDetectOff ∉ (withOverlay sensor f).lines := by
  intro hmem
  simp only [withOverlay, cleared, withAutoDetect, hany, Bool.false_eq_true, if_false, TextFile.append, TextFile.delete,
    List.mem_append, List.mem_filter, List.mem_singleton] at hmem
  rcases hmem with ⟨hmem | hmem, -⟩ | hmem
  · rw [TextFile.any_of_mem hmem autoDetect_off] at hany
    cases hany
  · exact hrest (List.append_left_eq_self.1 hmem.symm)
  · have hkind := autoDetect_off
    rw [hmem] at hkind
    cases hkind

/-- with the setting there, the overlay lands on the rest of the file -/
theorem not_overlay_mem (hsensor : cameraOverlay (overlayOf sensor) = true) (hany : f.any autoDetect = true)
    (hrest : f.rest ≠ []) (hkind : cameraOverlay f.rest = false) : overlayOf sensor ∉ (withOverlay sensor f).lines := by
  intro hmem
  rw [withOverlay, cleared, withAutoDetect, if_pos hany] at hmem
  rcases List.mem_append.1 hmem with hmem | hmem
  · simpa [hsensor] using (List.mem_filter.1 hmem).2
  · -- whatever the rest has become, it is not empty
    have hnil : ((f.rewrite autoDetect autoDetectOff).delete cameraOverlay).rest = [] :=
      List.append_left_eq_self.1 (List.mem_singleton.1 hmem).symm
    have hoff : cameraOverlay autoDetectOff = false := cameraOverlay_of_autoDetect autoDetect_off
    simp only [TextFile.delete, TextFile.rewrite] at hnil
    split_ifs at hnil with h₁ h₂ h₂
    · rw [hoff] at h₂
      cases h₂
    · cases hnil
    · rw [hkind] at h₂
      cases h₂
    · exact hrest hnil

theorem configured_withOverlay_iff (hsensor : cameraOverlay (overlayOf sensor) = true) (f : TextFile Char) :
    Configured sensor f (withOverlay sensor f) ↔ Finished f := by
  constructor
  · intro h
    by_cases hrest : f.rest = []
    · exact Or.inl hrest
    right
    cases hany : f.any autoDetect with
    | false => exact absurd h.off (not_off_mem hany hrest)
    | true =>
      refine ⟨rfl, ?_⟩
      by_contra hkind
      rw [Bool.not_eq_true] at hkind
      have hmem : overlayOf sensor ∈ (withOverlay sensor f).lines.filter cameraOverlay := by
        rw [h.overlay]
        exact List.mem_singleton_self _
      exact not_overlay_mem hsensor hany hrest hkind (List.mem_filter.1 hmem).1
  · exact fun h => (cleared_of_finished h).configured hsensor

variable {F : Script × Command → Option ℕ} {d : Disk} {second : ℕ} {installed : Line → Bool} {args : List Line}

/-- a board set up for another camera -/
def otherCamera : TextFile Char := ⟨["camera_auto_detect=1".toList, "dtoverlay=ov5647".toList], []⟩

/-- what has been configured needs no more than the old overlay deleted, if that is known -/
theorem cleared_withOverlay (h : Cleared f (cleared f)) (sensor : Line) :
    cleared (withOverlay sensor f) =
      ⟨(cleared f).lines ++ [overlayOf sensor].filter fun l => !cameraOverlay l, []⟩ := by
  have heq := h.append_eq sensor
  have hoff : autoDetectOff ∈ ((cleared f).append (overlayOf sensor)).lines := by
    rw [heq]
    exact List.mem_append_left _ h.off
  have hkeep : (cleared f).lines.filter (fun l => !cameraOverlay l) = (cleared f).lines :=
    List.filter_eq_self.2 fun l hl => by simp [h.overlay l hl]
  rw [cleared, withOverlay, withAutoDetect, if_pos (TextFile.any_of_mem hoff autoDetect_off),
    TextFile.rewrite_eq_self rfl (h.autoDetect_append sensor), heq, TextFile.delete, List.filter_append, hkeep,
    ite_self]

theorem withOverlay_withOverlay_iff (h : Finished f) (sensor sensor' : Line) :
    withOverlay sensor' (withOverlay sensor f) = withOverlay sensor' f ↔ cameraOverlay (overlayOf sensor) = true := by
  have hcleared := cleared_of_finished h
  rw [withOverlay, cleared_withOverlay hcleared, withOverlay, hcleared.append_eq]
  cases hkind : cameraOverlay (overlayOf sensor) <;> simp [TextFile.append, hkind]

/-- **When the script can be run again.** Running it for another sensor gives what it would have given at first exactly
if it knows the overlay that it is to replace. -/
theorem reconfigured_iff {F' F'' : Script × Command → Option ℕ} {d' d'' d₀ : Disk} {second' second'' : ℕ}
    {sensor sensor' : Line} {t t' t'' : List (Event (Script × Command) ℕ)} {f : TextFile Char}
    (hf : d.config = some f) (hfinished : Finished f)
    (h : configureCameraOverlay second installed [sensor] F d [] = ⟨.ok (), d', t⟩)
    (h' : configureCameraOverlay second' installed [sensor'] F' d' [] = ⟨.ok (), d'', t'⟩)
    (h₀ : configureCameraOverlay second'' installed [sensor'] F'' d [] = ⟨.ok (), d₀, t''⟩) :
    d''.config = d₀.config ↔ cameraOverlay (overlayOf sensor) = true := by
  obtain ⟨_, g, hargs, -, hg, rfl⟩ := configureCameraOverlay_ok h
  obtain ⟨_, g', hargs', -, hg', rfl⟩ := configureCameraOverlay_ok h'
  obtain ⟨_, g₀, hargs₀, -, hg₀, rfl⟩ := configureCameraOverlay_ok h₀
  cases hargs
  cases hargs'
  cases hargs₀
  cases hf.symm.trans hg
  cases hf.symm.trans hg₀
  cases hg'
  rw [Option.some_inj]
  exact withOverlay_withOverlay_iff hfinished _ _

/-- the script for one of the sensors, with every command returning -/
def runFor (sensor : String) (d : Disk) : Result (Script × Command) ℕ Disk Unit :=
  configureCameraOverlay 0 (fun _ => true) [sensor.toList] (fun _ => none) d []

/-- from the first version of the camera to the second and back -/
theorem reconfigured_iff_otherCamera :
    (runFor "ov5647" (runFor "imx219" ⟨some otherCamera, fun _ => none⟩).state).state.config =
      (runFor "ov5647" ⟨some otherCamera, fun _ => none⟩).state.config := by
  have hfinished : Finished otherCamera := Or.inl rfl
  have h : runFor "imx219" ⟨some otherCamera, fun _ => none⟩ = ⟨.ok (), _, _⟩ := rfl
  have h' : runFor "ov5647" (runFor "imx219" ⟨some otherCamera, fun _ => none⟩).state = ⟨.ok (), _, _⟩ := rfl
  have h₀ : runFor "ov5647" ⟨some otherCamera, fun _ => none⟩ = ⟨.ok (), _, _⟩ := rfl
  rw [h', h₀]
  exact (reconfigured_iff (f := otherCamera) rfl hfinished h h' h₀).2 (by decide)

end VitaminD.CameraScripts
