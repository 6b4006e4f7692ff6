/-
`testcamera.py`: the frames of `v4l2-ctl`, read from its standard output. The process itself, how it is started and how
it is terminated, is left out.

The pipe to `v4l2-ctl` is not buffered, so a read returns what has arrived, up to what is asked for: `arrives` says how
much that is, read by read.
-/
import VitaminD.Core.Registers
import VitaminD.Model.Picamera

namespace VitaminD.Testcamera

open Registers

/-! ## The pipe -/

/-- what the process still writes before it closes the pipe, and how many bytes more than one have arrived at each of
the reads to come -/
structure Source where
  data : List UInt8
  arrives : ℕ → ℕ

/-- `stream.read(n)`: waits for a byte, and returns none only at the end -/
def Source.read (s : Source) (n : ℕ) : List UInt8 × Source :=
  let k := min n (s.arrives 0 + 1)
  (s.data.take k, ⟨s.data.drop k, fun i => s.arrives (i + 1)⟩)

theorem Source.read_append (s : Source) (n : ℕ) : (s.read n).1 ++ (s.read n).2.data = s.data :=
  List.take_append_drop _ _

theorem Source.length_read_le (s : Source) (n : ℕ) : (s.read n).1.length ≤ n := by
  simp only [Source.read, List.length_take]
  omega

/-- an empty chunk is the end -/
theorem Source.read_eq_nil {s : Source} {n : ℕ} (hn : n ≠ 0) (h : (s.read n).1 = []) : s.data = [] := by
  have hk : min n (s.arrives 0 + 1) ≠ 0 := by omega
  simpa [Source.read, hk] using h

/-- the `while remaining > 0` loop -/
def readExact (s : Source) (remaining : ℕ) : List UInt8 × Source :=
  if remaining = 0 then ([], s)
  else
    let chunk := s.read remaining
    if chunk.1 = [] then ([], chunk.2)
    else
      let rest := readExact chunk.2 (remaining - chunk.1.length)
      (chunk.1 ++ rest.1, rest.2)
termination_by remaining
decreasing_by
  rename_i hremaining hchunk
  have hlength : 0 < (s.read remaining).1.length := List.length_pos_of_ne_nil hchunk
  omega

/-- however the bytes arrive, as many are read as are asked for and there are -/
theorem readExact_eq (s : Source) (n : ℕ) :
    (readExact s n).1 = s.data.take n ∧ (readExact s n).2.data = s.data.drop n := by
  fun_induction readExact s n with
  | case1 s => simp
  | case2 s n hn chunk hchunk =>
    have hdata := Source.read_eq_nil hn hchunk
    simp [chunk, Source.read, hdata]
  | case3 s n hn chunk hchunk rest ih =>
    obtain ⟨htake, hdrop⟩ := ih
    have happend := s.read_append n
    have hle := s.length_read_le n
    simp only [rest, chunk] at *
    rw [htake, hdrop, ← happend]
    exact ⟨by rw [List.take_append, List.take_of_length_le hle], by
      rw [List.drop_append, List.drop_of_length_le hle, List.nil_append]⟩

/-! ## Frames -/

def rawWidth : ℕ := 640
def rawHeight : ℕ := 480
def rawFrameBytes : ℕ := rawWidth * rawHeight * 2

/-- `np.frombuffer(raw_bytes, dtype=np.uint16)`, low byte first -/
def samples : List UInt8 → List ℕ
  | low :: high :: rest => word low high :: samples rest
  | _ => []

/-- `np.right_shift(raw, 2).clip(0, 255).astype(np.uint8)` -/
def bayer8bit (raw : List UInt8) : List UInt8 := (samples raw).map fun w => UInt8.ofNat (min (w >>> 2) 255)

variable {β : Type} (cvtColor : List UInt8 → β) (imencode : β → Option (List UInt8))

/-- the frame of as many bytes as it has, row by row, or the text of the `RuntimeError` -/
def rawToBgr (rawBytes : List UInt8) : Except String β :=
  if rawBytes.length ≠ rawFrameBytes then
    .error ("Unexpected raw frame size: " ++ toString rawBytes.length ++ ", expected " ++ toString rawFrameBytes ++ ".")
  else .ok (cvtColor (bayer8bit rawBytes))

/-- the frames that are yielded, and the error that ends them if one does -/
def iterRawFrames (s : Source) : List β × Option String :=
  let rawBytes := readExact s rawFrameBytes
  if rawBytes.1.length ≠ rawFrameBytes then ([], none)
  else
    match rawToBgr cvtColor rawBytes.1 with
    | .error text => ([], some text)
    | .ok frame =>
      let rest := iterRawFrames rawBytes.2
      (frame :: rest.1, rest.2)
termination_by s.data.length
decreasing_by
  rename_i hlength
  obtain ⟨htake, hdrop⟩ := readExact_eq s rawFrameBytes
  rw [not_ne_iff, htake, List.length_take] at hlength
  rw [hdrop, List.length_drop]
  have hpos : 0 < rawFrameBytes := by decide
  omega

/-- the bytes of `generate_raw_stream`, which yields the frames that can be encoded as `generate_stream` does -/
def generateRawStream (s : Source) : List UInt8 :=
  (iterRawFrames cvtColor s).1.flatMap fun frame =>
    match imencode frame with
    | none => []
    | some encoded => part encoded

end VitaminD.Testcamera
