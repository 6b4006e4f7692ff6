/-
What a browser makes of the bytes of `/video_feed`. The response is `multipart/x-mixed-replace; boundary=frame` without
lengths, so a part ends where the next delimiter, a line break and `--frame`, is seen.

- `read_back_iff`: once a boundary follows them, the frames are read back as they were sent exactly if the delimiter is
  in none of them, with the line break before it;
- `shown_sent_open`: before that, the last one is not shown;
- `shown_of_cut`: whatever part of the stream has arrived, what is shown are the first frames sent, and all of those
  whose delimiter has arrived;
- `watched_in_order`: from the camera to the screen, in every schedule and wherever the connection is cut.
-/
import VitaminD.Core.Delimited
import VitaminD.Stream.FrameQueue

namespace VitaminD

open Delimited

/-! ## Reading a stream -/

/-- the delimiter is a line break and this -/
def boundary : List UInt8 := ascii "--frame"

/-- a line break, of which 13 is the first byte, and the boundary -/
def delimiter : List UInt8 := 13 :: ascii "\n--frame"

/-- what follows the boundary in a part, up to the frame -/
def header : List UInt8 := ascii "\r\nContent-Type: image/jpeg\r\n\r\n"

/-- the frames that a client can show when these bytes have arrived: the complete parts that have the header, with the
line break before the first boundary understood -/
def shown (bytes : List UInt8) : List (List UInt8) :=
  (complete 13 (ascii "\n--frame") (ascii "\r\n" ++ bytes)).filterMap (·.dropPrefix? header)

/-- no delimiter is in a frame, or begins right before it -/
def Plain (frame : List UInt8) : Prop := ¬delimiter <:+: ascii "\r\n" ++ frame

variable {frame bytes : List UInt8} {frames : List (List UInt8)}

theorem plain_iff : Plain frame ↔ ¬delimiter <:+: header ++ frame := by
  have hcrlf : ascii "\r\n" = [13, 10] := by decide
  have hdelimiter : delimiter = [13, 10, 45, 45, 102, 114, 97, 109, 101] := by decide
  have hheader : header = [13, 10, 67, 111, 110, 116, 101, 110, 116, 45, 84, 121, 112, 101, 58, 32, 105, 109, 97, 103,
    101, 47, 106, 112, 101, 103, 13, 10, 13, 10] := by decide
  simp [Plain, hcrlf, hdelimiter, hheader, List.infix_cons_iff]

/-! ## Reading back -/

/-- a part, seen from the line break before it -/
theorem crlf_part (rest : List UInt8) :
    ascii "\r\n" ++ (part frame ++ rest) = delimiter ++ (header ++ frame ++ (ascii "\r\n" ++ rest)) := by
  have hopen : ascii "\r\n" ++ (ascii "--frame\r\n" ++ ascii "Content-Type: image/jpeg\r\n\r\n") =
      delimiter ++ header := by decide
  simp only [part, ← List.append_assoc] at hopen ⊢
  rw [hopen]

/-- the pieces of a stream up to a boundary are what was before it and its parts, whatever follows the boundary -/
theorem complete_sent {p : List UInt8} (hp : ¬delimiter <:+: p) (hframes : ∀ f ∈ frames, Plain f) (tail : List UInt8) :
    complete 13 (ascii "\n--frame") (p ++ (ascii "\r\n" ++ (sent frames ++ (boundary ++ tail)))) =
      p :: (frames.map (header ++ ·) ++ complete 13 (ascii "\n--frame") tail) := by
  have hc : (13 : UInt8) ∉ ascii "\n--frame" := by decide
  induction frames generalizing p with
  | nil =>
    have hlast : ascii "\r\n" ++ (sent [] ++ (boundary ++ tail)) = delimiter ++ tail := by
      rw [show sent [] = [] from rfl, List.nil_append, ← List.append_assoc]
      rfl
    rw [hlast, ← List.append_assoc, delimiter, complete_append hc hp, List.map_nil, List.nil_append]
  | cons f frames ih =>
    rw [List.forall_mem_cons] at hframes
    have hnext := ih (plain_iff.1 hframes.1) hframes.2
    have hsent : ascii "\r\n" ++ (sent (f :: frames) ++ (boundary ++ tail)) =
        delimiter ++ (header ++ f ++ (ascii "\r\n" ++ (sent frames ++ (boundary ++ tail)))) := by
      rw [← crlf_part]
      simp [sent]
    rw [hsent, ← List.append_assoc, delimiter, complete_append hc hp, hnext]
    rfl

/-- the frames before a boundary are shown, and what is complete after it -/
theorem shown_sent_append (hframes : ∀ f ∈ frames, Plain f) (tail : List UInt8) :
    shown (sent frames ++ (boundary ++ tail)) =
      frames ++ (complete 13 (ascii "\n--frame") tail).filterMap (·.dropPrefix? header) := by
  have hnil : ¬delimiter <:+: [] := by decide
  have hcomplete := complete_sent hnil hframes tail
  rw [List.nil_append] at hcomplete
  have hheader : ∀ f : List UInt8, (header ++ f).dropPrefix? header = some f :=
    fun f => List.dropPrefix?_append_of_beq f (by simp)
  rw [shown, hcomplete, List.filterMap_cons_none (by decide), List.filterMap_append, List.filterMap_map]
  simp [hheader]

theorem shown_sent (hframes : ∀ f ∈ frames, Plain f) : shown (sent frames ++ boundary) = frames := by
  have h := shown_sent_append hframes []
  rwa [complete_nil, List.filterMap_nil, List.append_nil, List.append_nil] at h

/-- the delimiter does not end in a line break -/
theorem infix_of_infix_crlf (h : delimiter <:+: bytes ++ ascii "\r\n") : delimiter <:+: bytes := by
  have hlast (c : UInt8) (hc : c ≠ 101) (p : List UInt8) (h : delimiter <:+: p ++ [c]) : delimiter <:+: p := by
    rcases List.infix_concat_iff.1 h with h | h
    · obtain ⟨t, ht⟩ := h
      have hend := congrArg List.getLast? ht
      rw [List.getLast?_append, List.getLast?_concat, show delimiter.getLast? = some 101 by decide] at hend
      exact absurd (Option.some.inj hend).symm hc
    · exact h
  have hcrlf : bytes ++ ascii "\r\n" = bytes ++ [13] ++ [10] := by simp [ascii]
  rw [hcrlf] at h
  exact hlast 13 (by decide) bytes (hlast 10 (by decide) _ h)

/-- without a boundary after it the last frame is not shown -/
theorem shown_sent_open (hframes : ∀ f ∈ frames, Plain f) : shown (sent frames) = frames.dropLast := by
  rcases List.eq_nil_or_concat frames with rfl | ⟨frames, last, rfl⟩
  · have hnone : complete 13 (ascii "\n--frame") (ascii "\r\n" ++ sent []) = [] :=
      complete_of_not_isInfix (by decide)
    rw [shown, hnone]
    rfl
  rw [List.concat_eq_append, List.forall_mem_append] at hframes
  have hlast : Plain last := hframes.2 last (List.mem_singleton.2 rfl)
  have hpart : part last = boundary ++ (header ++ last ++ ascii "\r\n") := by
    have hopen : ascii "--frame\r\n" ++ ascii "Content-Type: image/jpeg\r\n\r\n" = boundary ++ header := by decide
    rw [part, ← List.append_assoc, ← List.append_assoc, hopen]
    simp
  have hnone : complete 13 (ascii "\n--frame") (header ++ last ++ ascii "\r\n") = [] :=
    complete_of_not_isInfix fun hinfix => plain_iff.1 hlast (infix_of_infix_crlf hinfix)
  rw [List.concat_eq_append, List.dropLast_concat, sent, List.flatMap_append, List.flatMap_singleton, hpart,
    ← sent, shown_sent_append hframes.1, hnone, List.filterMap_nil, List.append_nil]

/-- nothing is shown that has the delimiter in it -/
theorem plain_of_mem_shown (h : frame ∈ shown bytes) : Plain frame := by
  obtain ⟨p, hp, hdrop⟩ := List.mem_filterMap.1 h
  obtain ⟨h', rfl, hbeq⟩ := List.dropPrefix?_eq_some_iff.1 hdrop
  obtain rfl : h' = header := beq_iff_eq.1 hbeq
  exact plain_iff.2 (not_isInfix_of_mem_complete hp)

/-- **When a stream is read back.** -/
theorem read_back_iff (frames : List (List UInt8)) :
    shown (sent frames ++ boundary) = frames ↔ ∀ f ∈ frames, Plain f :=
  ⟨fun h _ hf => plain_of_mem_shown (h.symm ▸ hf), shown_sent⟩

/-! ## Streams that are still coming -/

theorem shown_mono {bytes' : List UInt8} (h : bytes <+: bytes') : shown bytes <+: shown bytes' :=
  (complete_mono ((List.prefix_append_right_inj _).2 h)).filterMap _

/-- **What is shown of a stream that is cut anywhere.** -/
theorem shown_of_cut (hframes : ∀ f ∈ frames, Plain f) (hcut : bytes <+: sent frames) :
    shown bytes <+: frames ∧ ∀ k, sent (frames.take k) ++ boundary <+: bytes → frames.take k <+: shown bytes := by
  constructor
  · have h := shown_mono (hcut.trans (List.prefix_append _ boundary))
    rwa [shown_sent hframes] at h
  · intro k hk
    have h := shown_mono hk
    rwa [shown_sent fun f hf => hframes f (List.mem_of_mem_take hf)] at h

/-! ## From the camera to the screen -/

/-- **What a client shows was captured, in that order.** -/
theorem watched_in_order {κ : Type} [DecidableEq κ] {s : Stream κ (List UInt8)}
    {acts : List (StreamAct κ (List UInt8))} (hrun : Transitions.run Stream.step Stream.start acts = some s)
    (hplain : ∀ f ∈ s.captured, Plain f) (c : κ) (hcut : bytes <+: sent (s.receivedBy c)) :
    shown bytes <+: s.receivedBy c ∧ (shown bytes).Sublist s.captured ∧
      ∀ k, sent ((s.receivedBy c).take k) ++ boundary <+: bytes → (s.receivedBy c).take k <+: shown bytes := by
  have hreceived := (Stream.inv_run hrun).receivedBy_sublist c
  obtain ⟨hshown, hall⟩ := shown_of_cut (fun f hf => hplain f (hreceived.subset hf)) hcut
  exact ⟨hshown, hshown.sublist.trans hreceived, hall⟩

/-- client 0 gets two frames, and the connection is cut within the second part: the first frame is shown -/
theorem watched_in_order_session : ∃ s : Stream ℕ (List UInt8),
    Transitions.run Stream.step Stream.start ((Stream.session [0xFF, 0xD8] [0xFF, 0xD9]).take 11 ++
        [.flush, .acquire (.client 0), .recv, .release, .unlock]) = some s ∧
      s.receivedBy 0 = [[0xFF, 0xD8], [0xFF, 0xD9]] ∧ [[0xFF, 0xD8]] <+: shown ((sent (s.receivedBy 0)).take 50) ∧
      shown ((sent (s.receivedBy 0)).take 50) <+: s.receivedBy 0 := by
  have hplain : ∀ f ∈ ([[0xFF, 0xD8], [0xFF, 0xD9]] : List (List UInt8)), Plain f := by
    unfold Plain
    decide
  have hrun : Transitions.run Stream.step Stream.start
      ((Stream.session ([0xFF, 0xD8] : List UInt8) [0xFF, 0xD9]).take 11 ++
        [.flush, .acquire (.client 0), .recv, .release, .unlock]) = some _ := rfl
  obtain ⟨hshown, -, hall⟩ := watched_in_order hrun hplain 0 (List.take_prefix 50 _)
  exact ⟨_, hrun, rfl, hall 1 (by decide), hshown⟩

end VitaminD
