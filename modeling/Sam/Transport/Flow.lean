import Sam.Transport.Frame

/-!
# A stream and the messages on it (`sam-transport/src/frame.rs`)

A write can fail after some of the bytes of a frame.  Then its message never arrives, and neither
does anything the writer would have written after it.

* `WriteResult`, `sendBytes` — `send_frame` with the result of its writes; `SendSpec` is all that
  can come of it.
* `Flow` — the messages a reader has read, those that wait for it, and those whose frames were
  begun.  Writing (`sent`, `failed`) and reading (`read`) keep it.
-/

namespace Sam

variable {α : Type}

/-- All the bytes of a frame are written, or the write fails after some of them. -/
inductive WriteResult where
  | whole
  | failed (error : TransportError) (bytes : Nat)

/-- `send_frame`, with this result of its writes: its error, and the bytes written. -/
def sendBytes (codec : Codec α) (message : α) (result : WriteResult) :
    Option TransportError × List UInt8 :=
  match sendFrame codec DEFAULT_MAX_FRAME_SIZE message with
  | .error error => (some error, [])
  | .ok bytes =>
    match result with
    | .whole => (none, bytes)
    | .failed error n => (some error, bytes.dropLast.take n)

/-- What `send_frame` does. -/
inductive SendSpec (codec : Codec α) (message : α) : Option TransportError × List UInt8 → Prop where
  | whole (hfit : Fits codec DEFAULT_MAX_FRAME_SIZE message) :
      SendSpec codec message (none, frames codec [message])
  | nothing (error : TransportError) : SendSpec codec message (some error, [])
  | part (error : TransportError) (bytes missing : List UInt8)
      (hfit : Fits codec DEFAULT_MAX_FRAME_SIZE message) (hm : missing ≠ [])
      (hb : bytes ++ missing = frames codec [message]) : SendSpec codec message (some error, bytes)

variable {codec : Codec α} {message : α} {done queued written more later : List α}
  {missing : List UInt8} {writing writing' : Prop}

theorem frames_singleton : frames codec [message] = frame codec message := List.append_nil _

theorem frames_append : frames codec (written ++ more) =
    frames codec written ++ frames codec more :=
  List.flatMap_append

/-- What has not been written does not arrive. -/
theorem take_unwritten (unread missing : List UInt8) (n : Nat) :
    (unread ++ missing).take (min n unread.length) = unread.take n ∧
      (unread ++ missing).drop (min n unread.length) = unread.drop n ++ missing := by
  have hle : min n unread.length ≤ unread.length := Nat.min_le_right ..
  rw [List.take_append_of_le_length hle, List.drop_append_of_le_length hle]
  exact ⟨List.take_eq_take_min.symm, congrArg (· ++ missing) List.drop_eq_drop_min.symm⟩

/-- A message that does not fit is not written. -/
theorem sendFrame_cases (codec : Codec α) (message : α) :
    (∃ error, sendFrame codec DEFAULT_MAX_FRAME_SIZE message = .error error) ∨
      Fits codec DEFAULT_MAX_FRAME_SIZE message ∧
        sendFrame codec DEFAULT_MAX_FRAME_SIZE message = .ok (frame codec message) := by
  by_cases hfit : Fits codec DEFAULT_MAX_FRAME_SIZE message
  · exact .inr ⟨hfit, sendFrame_fits (by decide) hfit⟩
  · refine .inl ⟨.frameTooLarge (codec.toBytes message).length DEFAULT_MAX_FRAME_SIZE, ?_⟩
    have hlarge : DEFAULT_MAX_FRAME_SIZE < (codec.toBytes message).length := Nat.not_le.mp hfit
    simp only [sendFrame, validateSize, if_pos hlarge]

theorem sendBytes_spec (codec : Codec α) (message : α) (result : WriteResult) :
    SendSpec codec message (sendBytes codec message result) := by
  unfold sendBytes
  rcases sendFrame_cases codec message with ⟨error, he⟩ | ⟨hfit, hok⟩
  · simp only [he]
    exact .nothing error
  · simp only [hok]
    cases result with
    | whole =>
      rw [← frames_singleton]
      exact .whole hfit
    | failed error n =>
      -- the last byte at least is missing
      refine .part error _ ((frame codec message).dropLast.drop n ++ (frame codec message).drop
        ((frame codec message).length - 1)) hfit ?_ ?_
      · intro hnil
        have hlast := (List.append_eq_nil_iff.mp hnil).2
        rw [List.drop_eq_nil_iff] at hlast
        have hpos : 4 ≤ (frame codec message).length := by
          rw [frame, List.length_append, length_toBeBytes]
          exact Nat.le_add_right 4 _
        omega
      · rw [← List.append_assoc, List.take_append_drop, List.dropLast_eq_take,
          List.take_append_drop,
          frames_singleton]

/-- Only a write that succeeds has no error. -/
theorem sendBytes_whole {result : WriteResult} (h : (sendBytes codec message result).1 = none) :
    result = .whole := by
  unfold sendBytes at h
  split at h
  · cases h
  · cases result with
    | whole => rfl
    | failed => cases h

/-- The reader has read `done`, and `queued` waits for it; `written` are the messages whose frames
    were begun, and `missing` bytes of the last one are not written.  While the writer is there
    everything is whole. -/
structure Flow (codec : Codec α) (writing : Prop) (done queued written : List α)
    (missing : List UInt8) : Prop where
  fits : ∀ message ∈ written, Fits codec DEFAULT_MAX_FRAME_SIZE message
  order : ∃ (present : List α) (lost : Option α), written = done ++ present ++ lost.toList ∧
    present <+: queued ∧ (lost.isSome → missing ≠ []) ∧
    (writing → present = queued ∧ lost = none ∧ missing = [])

namespace Flow

theorem new : Flow codec writing [] [] [] [] where
  fits _ hm := by cases hm
  order := ⟨[], none, rfl, List.prefix_rfl, fun h => (by cases h), fun _ => ⟨rfl, rfl, rfl⟩⟩

theorem imp (hf : Flow codec writing done queued written missing) (h : writing' → writing) :
    Flow codec writing' done queued written missing := by
  obtain ⟨present, lost, hw, hp, hcut, hwhole⟩ := hf.order
  exact ⟨hf.fits, present, lost, hw, hp, hcut, fun hwriting => hwhole (h hwriting)⟩

/-- While the writer is there nothing is missing. -/
theorem whole (hf : Flow codec writing done queued written missing) (h : writing) :
    missing = [] := by
  obtain ⟨present, lost, -, -, -, hwhole⟩ := hf.order
  exact (hwhole h).2.2

/-- A frame is written. -/
theorem sent (hf : Flow codec writing done queued written missing) (h : writing)
    (hfit : Fits codec DEFAULT_MAX_FRAME_SIZE message) :
    Flow codec writing done (queued ++ [message]) (written ++ [message]) missing := by
  obtain ⟨present, lost, hw, -, -, hwhole⟩ := hf.order
  obtain ⟨rfl, rfl, rfl⟩ := hwhole h
  refine ⟨?_, present ++ [message], none, ?_, List.prefix_rfl, fun h => (by cases h),
    fun _ => ⟨rfl, rfl, rfl⟩⟩
  · intro m hm
    rcases List.mem_append.mp hm with hm | hm
    · exact hf.fits m hm
    · rwa [List.mem_singleton.mp hm]
  · rw [hw, Option.toList_none, List.append_nil, List.append_nil, List.append_assoc]

/-- A write fails, and the writer goes; what it still has to say is not heard. -/
theorem failed (hf : Flow codec writing done queued written missing) (h : writing)
    {error : TransportError} {bytes : List UInt8}
    (hspec : SendSpec codec message (some error, bytes)) (hgone : ¬ writing') :
    ∃ more missing', bytes ++ missing' = frames codec more ∧
      ∀ unheard, Flow codec writing' done (queued ++ unheard) (written ++ more) missing' := by
  obtain ⟨present, lost, hw, -, -, hwhole⟩ := hf.order
  obtain ⟨rfl, rfl, rfl⟩ := hwhole h
  rw [Option.toList_none, List.append_nil] at hw
  cases hspec with
  | nothing =>
    refine ⟨[], [], rfl, fun unheard => ⟨?_, present, none, ?_, List.prefix_append _ _,
      fun h => (by cases h), fun h => absurd h hgone⟩⟩
    · rw [List.append_nil]
      exact hf.fits
    · rw [hw, Option.toList_none]
  | part _ _ missing' hfit hm hb =>
    refine ⟨[message], missing', hb, fun unheard => ⟨?_, present, some message, ?_,
      List.prefix_append _ _, fun _ => hm, fun h => absurd h hgone⟩⟩
    · intro m hmem
      rcases List.mem_append.mp hmem with hmem | hmem
      · exact hf.fits m hmem
      · rwa [List.mem_singleton.mp hmem]
    · rw [hw, Option.toList_some]

/-- The reader takes the next message written; it is the next one that waits, for the frame of a
    message that does not arrive is not whole. -/
theorem read (hf : Flow codec writing done queued written missing)
    (hnext : written = done ++ message :: later) (hend : later = [] → missing = []) :
    ∃ queued', queued = message :: queued' ∧
      Flow codec writing (done ++ [message]) queued' written missing := by
  obtain ⟨present, lost, hw, ⟨rest, hrest⟩, hcut, hwhole⟩ := hf.order
  rw [hnext, List.append_assoc, List.append_cancel_left_eq] at hw
  cases present with
  | nil =>
    cases lost with
    | none => cases hw
    | some m =>
      obtain ⟨-, hlater⟩ := List.cons.inj hw
      exact absurd (hend hlater) (hcut rfl)
  | cons m present =>
    obtain ⟨rfl, hlater⟩ := List.cons.inj hw
    refine ⟨present ++ rest, hrest.symm, hf.fits, present, lost, ?_, List.prefix_append _ _, hcut,
      fun h => ?_⟩
    · rw [hnext, hlater]
      simp
    · obtain ⟨hpresent, hlost, hmissing⟩ := hwhole h
      refine ⟨?_, hlost, hmissing⟩
      rw [← hrest, List.cons_append] at hpresent
      exact (List.cons.inj hpresent).2

/-- What has been read is forgotten. -/
theorem forget (hf : Flow codec writing done queued (done ++ written) missing) :
    Flow codec writing [] queued written missing := by
  obtain ⟨present, lost, hw, hp, hcut, hwhole⟩ := hf.order
  rw [List.append_assoc, List.append_cancel_left_eq] at hw
  exact ⟨fun m hm => hf.fits m (List.mem_append_right _ hm), present, lost, hw, hp, hcut, hwhole⟩

end Flow

end Sam
