/-
What `generate_raw_stream` makes of the bytes of `v4l2-ctl`.

- `iterRawFrames_blocks`: in whatever chunks the bytes arrive, the frames are the blocks of `RAW_FRAME_BYTES` bytes one
  after the other, an incomplete one at the end is passed over, and no error is raised;
- `Blocks.unique`: which blocks these are is settled by the bytes;
- `raw_stream_read_back`: from the pipe to the screen, where the last frame is not shown: no boundary follows it.
-/
import VitaminD.Model.Testcamera
import VitaminD.Stream.Multipart

namespace VitaminD.Testcamera

variable {β : Type} {cvtColor : List UInt8 → β} {imencode : β → Option (List UInt8)}

/-- the blocks of some bytes: whole frames, and less than a frame -/
structure Blocks (data : List UInt8) (frames : List (List UInt8)) : Prop where
  whole : ∀ f ∈ frames, f.length = rawFrameBytes
  rest : ∃ tail, tail.length < rawFrameBytes ∧ data = frames.flatten ++ tail

theorem Blocks.unique {data : List UInt8} {frames frames' : List (List UInt8)} (h : Blocks data frames)
    (h' : Blocks data frames') : frames = frames' := by
  induction frames generalizing data frames' with
  | nil =>
    obtain ⟨-, tail, htail, hdata⟩ := h
    cases frames' with
    | nil => rfl
    | cons f frames' =>
      obtain ⟨hwhole, tail', -, hdata'⟩ := h'
      have hlength := congrArg List.length (hdata.symm.trans hdata')
      simp only [List.flatten_nil, List.nil_append, List.flatten_cons, List.length_append] at hlength
      have := hwhole f List.mem_cons_self
      omega
  | cons f frames ih =>
    obtain ⟨hwhole, tail, htail, hdata⟩ := h
    have hf := hwhole f List.mem_cons_self
    cases frames' with
    | nil =>
      obtain ⟨-, tail', htail', hdata'⟩ := h'
      have hlength := congrArg List.length (hdata.symm.trans hdata')
      simp only [List.flatten_nil, List.nil_append, List.flatten_cons, List.length_append] at hlength
      omega
    | cons f' frames' =>
      obtain ⟨hwhole', tail', htail', hdata'⟩ := h'
      have heq := hdata.symm.trans hdata'
      rw [List.flatten_cons, List.flatten_cons, List.append_assoc, List.append_assoc] at heq
      obtain ⟨rfl, hrest⟩ := List.append_inj heq (hf.trans (hwhole' f' List.mem_cons_self).symm)
      rw [ih ⟨fun g hg => hwhole g (List.mem_cons_of_mem _ hg), tail, htail, rfl⟩
        ⟨fun g hg => hwhole' g (List.mem_cons_of_mem _ hg), tail', htail', hrest⟩]

/-- how many there are -/
theorem Blocks.length_eq {data : List UInt8} {frames : List (List UInt8)} (h : Blocks data frames) :
    frames.length = data.length / rawFrameBytes := by
  obtain ⟨hwhole, tail, htail, rfl⟩ := h
  have hpos : 0 < rawFrameBytes := by decide
  have hflatten : frames.flatten.length = frames.length * rawFrameBytes := by
    rw [List.length_flatten, List.map_congr_left hwhole, List.map_const', List.sum_replicate, smul_eq_mul]
  rw [List.length_append, hflatten, Nat.add_comm, Nat.add_mul_div_right _ _ hpos, Nat.div_eq_of_lt htail, Nat.zero_add]

theorem rawToBgr_ok {rawBytes : List UInt8} (h : rawBytes.length = rawFrameBytes) :
    rawToBgr cvtColor rawBytes = .ok (cvtColor (bayer8bit rawBytes)) := if_neg (not_ne_iff.2 h)

/-- **The frames do not depend on the chunks.** -/
theorem iterRawFrames_blocks (s : Source) : ∃ frames, Blocks s.data frames ∧
    iterRawFrames cvtColor s = (frames.map fun f => cvtColor (bayer8bit f), none) := by
  fun_induction iterRawFrames cvtColor s with
  | case1 s rawBytes hshort =>
    refine ⟨[], ⟨by simp, s.data, ?_, rfl⟩, rfl⟩
    simp only [rawBytes, (readExact_eq s rawFrameBytes).1, List.length_take] at hshort
    omega
  | case2 s rawBytes hfull text herror =>
    rw [rawToBgr_ok (not_ne_iff.1 hfull)] at herror
    cases herror
  | case3 s rawBytes hfull frame hframe rest ih =>
    obtain ⟨frames, ⟨hwhole, tail, htail, hdata⟩, hrest⟩ := ih
    rw [not_ne_iff] at hfull
    rw [rawToBgr_ok hfull] at hframe
    cases hframe
    refine ⟨rawBytes.1 :: frames, ⟨List.forall_mem_cons.2 ⟨hfull, hwhole⟩, tail, htail, ?_⟩, ?_⟩
    · obtain ⟨htake, hdrop⟩ := readExact_eq s rawFrameBytes
      rw [List.flatten_cons, List.append_assoc, ← hdata, hdrop, htake, List.take_append_drop]
    · simp only [rest, hrest, List.map_cons]

/-- what is sent are the frames that can be encoded -/
theorem generateRawStream_eq (s : Source) :
    generateRawStream cvtColor imencode s = sent ((iterRawFrames cvtColor s).1.filterMap imencode) := by
  unfold generateRawStream
  generalize (iterRawFrames cvtColor s).1 = frames
  induction frames with
  | nil => rfl
  | cons frame frames ih =>
    rw [List.flatMap_cons, ih]
    cases h : imencode frame with
    | none => rw [List.filterMap_cons_none h, List.nil_append]
    | some encoded => rw [List.filterMap_cons_some h, sent, sent, List.flatMap_cons]

/-- **From the pipe to the screen.** Whatever the chunks, every whole frame that can be encoded is sent, and a client is
shown all of these but the last, if the delimiter is in none of them. -/
theorem raw_stream_read_back (cvtColor : List UInt8 → β) (imencode : β → Option (List UInt8)) (s : Source) :
    ∃ frames, Blocks s.data frames ∧
      generateRawStream cvtColor imencode s = sent (frames.filterMap fun f => imencode (cvtColor (bayer8bit f))) ∧
      ((∀ encoded ∈ frames.filterMap fun f => imencode (cvtColor (bayer8bit f)), Plain encoded) →
        shown (generateRawStream cvtColor imencode s) =
          (frames.filterMap fun f => imencode (cvtColor (bayer8bit f))).dropLast) := by
  obtain ⟨frames, hblocks, hframes⟩ : ∃ frames, Blocks s.data frames ∧ iterRawFrames cvtColor s = _ :=
    iterRawFrames_blocks s
  have hsent : generateRawStream cvtColor imencode s =
      sent (frames.filterMap fun f => imencode (cvtColor (bayer8bit f))) := by
    rw [generateRawStream_eq, hframes, List.filterMap_map]
    rfl
  refine ⟨frames, hblocks, hsent, fun hplain => ?_⟩
  rw [hsent]
  exact shown_sent_open hplain

/-- a black frame, a white one and a byte -/
def blackAndWhite : List UInt8 :=
  [List.replicate rawFrameBytes 0, List.replicate rawFrameBytes 255].flatten ++ [7]

/-- an encoder that keeps the first pixel, as the second of two bytes -/
def firstPixel (frame : List UInt8) : Option (List UInt8) := frame.head?.map fun pixel => [0xFF, pixel]

/-- read by twos, both frames are sent, and the black one is shown -/
theorem raw_stream_read_back_two :
    generateRawStream id firstPixel ⟨blackAndWhite, fun _ => 1⟩ = sent [[0xFF, 0], [0xFF, 255]] ∧
      shown (generateRawStream id firstPixel ⟨blackAndWhite, fun _ => 1⟩) = [[0xFF, 0]] := by
  have hblocks : Blocks blackAndWhite [List.replicate rawFrameBytes 0, List.replicate rawFrameBytes 255] := by
    refine ⟨?_, [7], by decide, rfl⟩
    simp
  obtain ⟨frames, hframes, hsent, hshown⟩ := raw_stream_read_back id firstPixel ⟨blackAndWhite, fun _ => 1⟩
  obtain rfl : frames = _ := hframes.unique hblocks
  refine ⟨hsent, hshown fun encoded hencoded hinfix => ?_⟩
  obtain ⟨f, -, hf⟩ := List.mem_filterMap.1 hencoded
  obtain ⟨pixel, -, rfl⟩ := Option.map_eq_some_iff.1 hf
  exact absurd hinfix.length_le (show ¬9 ≤ 4 by decide)

end VitaminD.Testcamera
