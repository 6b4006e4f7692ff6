/-
The shell scripts that set up the camera: `configure_camera_overlay.sh`, `repair_camera_stack.sh` and
`fix_imx219_camera.sh`, as far as they touch `/boot/firmware/config.txt`. What they print is left out.

All three run under `set -e`: they are programs over commands that may fail, and a command that fails leaves the files
as they are and ends the script with its status. `grep` in a condition only asks; `date` gives the second.
-/
import VitaminD.Core.Effects
import VitaminD.Core.TextFile

namespace VitaminD.CameraScripts

open VitaminD.Effects

abbrev Line : Type := List Char

/-! ## Kinds of lines -/

/-- `^camera_auto_detect=` -/
def autoDetect (l : Line) : Bool := "camera_auto_detect=".toList.isPrefixOf l

/-- the alternatives of `sed -i '/^dtoverlay=\(...\)/d'` -/
def sensors : List String :=
  ["ov5647", "imx219", "imx258", "imx290", "imx296", "imx378", "imx477", "imx519", "ov2311", "ov7251", "ov9281"]

/-- `^dtoverlay=` and one of the sensors -/
def cameraOverlay (l : Line) : Bool := sensors.any fun s => ("dtoverlay=".toList ++ s.toList).isPrefixOf l

/-- `^dtoverlay=vc4-kms-v3d` -/
def vc4Overlay (l : Line) : Bool := "dtoverlay=vc4-kms-v3d".toList.isPrefixOf l

def autoDetectOff : Line := "camera_auto_detect=0".toList

def autoDetectOn : Line := "camera_auto_detect=1".toList

/-- `dtoverlay=$SENSOR` -/
def overlayOf (sensor : Line) : Line := "dtoverlay=".toList ++ sensor

/-! ## The scripts -/

/-- the files of `/boot/firmware`: the configuration, if there is one, and its copies by their second -/
structure Disk where
  config : Option (TextFile Char)
  backups : ℕ → Option (TextFile Char)

inductive Script where
  | repairCameraStack
  | configureCameraOverlay
  | fixImx219Camera
deriving DecidableEq, Repr

inductive Command where
  /-- `cd /home/vitamind/vitamin_d` -/
  | cd
  | aptUpdate
  | aptInstall
  | usermod
  /-- `ls ... | grep ... | sed ... | sort` -/
  | listOverlays
  | cp
  | sedAutoDetect
  | teeAutoDetect
  | teeVc4
  | sedOverlays
  | teeOverlay
deriving DecidableEq, Repr

/-- a script that ends with a status if a command fails -/
abbrev Shell (β : Type) : Type := Prog (Script × Command) ℕ Disk β

/-- `sudo cp "$CONFIG_FILE" "${CONFIG_FILE}.bak.$(date +%Y%m%d%H%M%S)"` -/
def backUp (script : Script) (second : ℕ) : Shell Unit := do
  Prog.call (script, .cp)
  Prog.assign fun disk => { disk with backups := Function.update disk.backups second disk.config }

/-- a command that edits the configuration -/
def edit (script : Script) (command : Command) (change : TextFile Char → TextFile Char) : Shell Unit := do
  Prog.call (script, command)
  Prog.assign fun disk => { disk with config := disk.config.map change }

/-- `grep -q` on the configuration -/
def grep (kind : Line → Bool) : Shell Bool := do
  let disk ← Prog.self
  return disk.config.any (·.any kind)

/-- the lines with `camera_auto_detect=`, or a new one -/
def setAutoDetect (script : Script) (l : Line) : Shell Unit := do
  if ← grep autoDetect then edit script .sedAutoDetect (·.rewrite autoDetect l)
  else edit script .teeAutoDetect (·.append l)

def repairCameraStack (second : ℕ) : Shell Unit := do
  Prog.calls [(.repairCameraStack, .aptUpdate), (.repairCameraStack, .aptInstall), (.repairCameraStack, .usermod)]
  let disk ← Prog.self
  if disk.config.isSome then
    backUp .repairCameraStack second
    setAutoDetect .repairCameraStack autoDetectOn
    if !(← grep vc4Overlay) then edit .repairCameraStack .teeVc4 (·.append "dtoverlay=vc4-kms-v3d".toList)

/-- `installed` says for which sensors there is an overlay file -/
def configureCameraOverlay (second : ℕ) (installed : Line → Bool) (args : List Line) : Shell Unit := do
  match args with
  | [sensor] =>
    let disk ← Prog.self
    if disk.config.isNone then Prog.raise 1
    if !installed sensor then
      Prog.call (.configureCameraOverlay, .listOverlays)
      Prog.raise 1
    backUp .configureCameraOverlay second
    setAutoDetect .configureCameraOverlay autoDetectOff
    edit .configureCameraOverlay .sedOverlays (·.delete cameraOverlay)
    edit .configureCameraOverlay .teeOverlay (·.append (overlayOf sensor))
  | _ => Prog.raise 2

/-- the seconds are those in which the two scripts make their copies -/
def fixImx219Camera (second second' : ℕ) (installed : Line → Bool) : Shell Unit := do
  Prog.call (.fixImx219Camera, .cd)
  repairCameraStack second
  configureCameraOverlay second' installed ["imx219".toList]

end VitaminD.CameraScripts
