import Sam.Transport.Postcard

/-!
# Delivery over a framed stream (`sam-transport/src/frame.rs`)

The connection types around `send_frame` and `receive_frame`, on a stream whose incoming bytes
arrive in chunks of any size until it is closed.

* `FramedConnection`, `FramedReader`, `FramedWriter` — the unsplit connection and its halves.
* `receiveFrame` — `receive_frame` awaited to its end; `receiveFrame_eq`: the chunks do not matter,
  the outcome is that of one poll with all the bytes there.
* `framed_delivery` — every message is sent whole or not at all, what is received are the messages
  whose frames arrived whole and then the end of the stream, and on any bytes a message received
  accounts for exactly its frame.
-/

namespace Sam

variable {α : Type}

/-- The incoming half of a stream: the bytes that have arrived, and the chunks that will before the
    stream is closed. -/
structure Incoming where
  arrived : List UInt8
  coming : List (List UInt8)

/-- All the bytes not read yet. -/
def Incoming.bytes (incoming : Incoming) : List UInt8 := incoming.arrived ++ incoming.coming.flatten

/-- A duplex stream; `written` is everything written to it. -/
structure Duplex where
  incoming : Incoming
  written : List UInt8

structure FramedConnection where
  stream : Duplex
  maxFrameSize : Nat

structure FramedReader where
  reader : Incoming
  maxFrameSize : Nat

structure FramedWriter where
  writer : List UInt8
  maxFrameSize : Nat

/-- `receive_frame` awaited: polled on the bytes there are, again after each chunk that arrives, and
    a last time when the stream is closed. -/
def awaitFrame (codec : Codec α) (maximum : Nat) :
    Receiving → List UInt8 → List (List UInt8) → Except TransportError α × Incoming
  | receiving, arrived, [] =>
    match poll codec maximum true receiving arrived with
    | (.ready result, rest) => (result, ⟨rest, []⟩)
    | (.pending _, rest) => (.error (.io .unexpectedEof), ⟨rest, []⟩)
  | receiving, arrived, chunk :: coming =>
    match poll codec maximum false receiving arrived with
    | (.ready result, rest) => (result, ⟨rest, chunk :: coming⟩)
    | (.pending receiving, rest) => awaitFrame codec maximum receiving (rest ++ chunk) coming

/-- `receive_frame`. -/
def receiveFrame (codec : Codec α) (maximum : Nat) (reader : Incoming) :
    Except TransportError α × Incoming :=
  awaitFrame codec maximum .start reader.arrived reader.coming

/-- `send_frame`. -/
def writeFrame (codec : Codec α) (maximum : Nat) (writer : List UInt8) (message : α) :
    Except TransportError Unit × List UInt8 :=
  match sendFrame codec maximum message with
  | .ok bytes => (.ok (), writer ++ bytes)
  | .error error => (.error error, writer)

namespace FramedConnection

/-- `FramedConnection::into_split`. -/
def intoSplit (c : FramedConnection) : FramedReader × FramedWriter :=
  (⟨c.stream.incoming, c.maxFrameSize⟩, ⟨c.stream.written, c.maxFrameSize⟩)

/-- `FramedConnection::send`. -/
def send (codec : Codec α) (c : FramedConnection) (message : α) :
    Except TransportError Unit × FramedConnection :=
  let (result, written) := writeFrame codec c.maxFrameSize c.stream.written message
  (result, { c with stream := { c.stream with written := written } })

/-- `FramedConnection::receive`. -/
def receive (codec : Codec α) (c : FramedConnection) : Except TransportError α × FramedConnection :=
  let (result, incoming) := receiveFrame codec c.maxFrameSize c.stream.incoming
  (result, { c with stream := { c.stream with incoming := incoming } })

end FramedConnection

/-- `FramedReader::receive`. -/
def FramedReader.receive (codec : Codec α) (r : FramedReader) :
    Except TransportError α × FramedReader :=
  let (result, reader) := receiveFrame codec r.maxFrameSize r.reader
  (result, { r with reader := reader })

/-- `FramedWriter::send`. -/
def FramedWriter.send (codec : Codec α) (w : FramedWriter) (message : α) :
    Except TransportError Unit × FramedWriter :=
  let (result, writer) := writeFrame codec w.maxFrameSize w.writer message
  (result, { w with writer := writer })

/-! ## Chunks do not matter -/

variable {codec : Codec α} {maximum : Nat} {closed : Bool}

theorem readExact_append {need : Nat} {bytes available : List UInt8}
    (h : need ≤ bytes.length + available.length) (more : List UInt8) :
    readExact need bytes (available ++ more) =
      ((readExact need bytes available).1, (readExact need bytes available).2 ++ more) := by
  have hle : need - bytes.length ≤ available.length := by omega
  unfold readExact
  rw [List.take_append_of_le_length hle, List.drop_append_of_le_length hle]

/-- A poll of a closed stream is never pending. -/
theorem poll_closed (r : Receiving) (available : List UInt8) :
    ∃ result rest, poll codec maximum true r available = (.ready result, rest) := by
  have hpayload : ∀ n bytes available,
      ∃ result rest, pollPayload codec true n bytes available = (.ready result, rest) := by
    intro n bytes available
    unfold pollPayload
    dsimp only
    split
    · exact ⟨_, _, rfl⟩
    · split
      · exact ⟨_, _, rfl⟩
      · exact ⟨_, _, rfl⟩
  cases r with
  | payload n bytes => exact hpayload n bytes available
  | length bytes =>
    unfold poll
    dsimp only
    split
    · exact ⟨_, _, rfl⟩
    · split
      · exact ⟨_, _, rfl⟩
      · exact hpayload _ _ _

/-- What a poll of an open stream says about a poll with more bytes: the same if it was ready,
    and otherwise the poll goes on from where it stopped. -/
def Continues (codec : Codec α) (maximum : Nat) (closed : Bool) (more : List UInt8)
    (p : Poll α × List UInt8) (q : Poll α × List UInt8) : Prop :=
  match p.1 with
  | .ready result => q = (.ready result, p.2 ++ more)
  | .pending r => q = poll codec maximum closed r (p.2 ++ more)

theorem readExact_full {need : Nat} {bytes available : List UInt8}
    (h : ¬ (readExact need bytes available).1.length < need) :
    need ≤ bytes.length + available.length := by
  unfold readExact at h
  rw [List.length_append, List.length_take] at h
  omega

/-- With too little there, everything is taken. -/
theorem readExact_short {need : Nat} {bytes available : List UInt8}
    (h : (readExact need bytes available).1.length < need) (more : List UInt8) :
    readExact need bytes available = (bytes ++ available, []) ∧
      readExact need bytes (available ++ more) = readExact need (bytes ++ available) more := by
  have hlt : bytes.length + available.length < need := by
    unfold readExact at h
    rw [List.length_append, List.length_take] at h
    omega
  have hle : available.length ≤ need - bytes.length := by omega
  have hsub : need - bytes.length - available.length = need - (bytes ++ available).length := by
    rw [List.length_append]
    omega
  unfold readExact
  rw [List.take_of_length_le hle, List.drop_of_length_le hle, List.take_append, List.drop_append,
    List.take_of_length_le hle, List.drop_of_length_le hle, hsub, List.append_assoc,
    List.nil_append]
  exact ⟨rfl, rfl⟩

theorem pollPayload_continues (n : Nat) (bytes available more : List UInt8) :
    Continues codec maximum closed more (pollPayload codec false n bytes available)
      (pollPayload codec closed n bytes (available ++ more)) := by
  by_cases hshort : (readExact n bytes available).1.length < n
  · obtain ⟨htaken, hgoes⟩ := readExact_short hshort more
    rw [htaken] at hshort
    unfold pollPayload
    rw [hgoes, htaken]
    simp only [if_pos hshort]
    rfl
  · have happend := readExact_append (readExact_full hshort) more
    unfold pollPayload
    rw [happend]
    simp only [if_neg hshort]
    cases codec.fromBytes (readExact n bytes available).1 with
    | some message => rfl
    | none => rfl

/-- **A poll with more bytes** is the poll without them, continued. -/
theorem poll_continues (r : Receiving) (available more : List UInt8) :
    Continues codec maximum closed more (poll codec maximum false r available)
      (poll codec maximum closed r (available ++ more)) := by
  cases r with
  | payload n bytes => exact pollPayload_continues n bytes available more
  | length bytes =>
    by_cases hshort : (readExact 4 bytes available).1.length < 4
    · obtain ⟨htaken, hgoes⟩ := readExact_short hshort more
      rw [htaken] at hshort
      have hpoll : poll codec maximum false (.length bytes) available =
          (.pending (.length (bytes ++ available)), []) := by
        rw [poll, htaken]
        simp only [if_pos hshort]
        rfl
      rw [hpoll]
      show poll codec maximum closed (.length bytes) (available ++ more) =
        poll codec maximum closed (.length (bytes ++ available)) ([] ++ more)
      rw [poll, poll, hgoes, List.nil_append]
    · have happend := readExact_append (readExact_full hshort) more
      rw [poll, poll, happend]
      simp only [if_neg hshort]
      cases validateSize (fromBeBytes (readExact 4 bytes available).1) maximum with
      | error e => rfl
      | ok => exact pollPayload_continues _ [] _ more

/-- **Only the bytes matter**, not the chunks they arrive in. -/
theorem awaitFrame_eq (r : Receiving) (arrived : List UInt8) (coming : List (List UInt8)) :
    let (result, rest) := awaitFrame codec maximum r arrived coming
    poll codec maximum true r (arrived ++ coming.flatten) = (.ready result, rest.bytes) := by
  induction coming generalizing r arrived with
  | nil =>
    have hclosed : ∃ result rest, poll codec maximum true r arrived = (.ready result, rest) :=
      poll_closed r arrived
    obtain ⟨result, rest, h⟩ := hclosed
    simp only [awaitFrame, h, List.flatten_nil, List.append_nil, Incoming.bytes]
  | cons chunk coming ih =>
    have hcont : Continues codec maximum true (chunk :: coming).flatten
        (poll codec maximum false r arrived)
        (poll codec maximum true r (arrived ++ (chunk :: coming).flatten)) :=
      poll_continues r arrived _
    unfold Continues at hcont
    unfold awaitFrame
    cases hp : poll codec maximum false r arrived with
    | mk outcome rest =>
      rw [hp] at hcont
      cases outcome with
      | ready result => exact hcont
      | pending r' =>
        dsimp only at hcont ⊢
        rw [hcont, List.flatten_cons, ← List.append_assoc]
        exact ih r' (rest ++ chunk)

/-! ## One frame -/

/-- The message encodes within the limit, and its length is a `u32`. -/
def Sendable (codec : Codec α) (maximum : Nat) (message : α) : Prop :=
  (codec.toBytes message).length ≤ maximum ∧ (codec.toBytes message).length < 2 ^ 32

instance (codec : Codec α) (maximum : Nat) (message : α) :
    Decidable (Sendable codec maximum message) :=
  inferInstanceAs (Decidable (_ ∧ _))

/-- **A message is sent whole or not at all.** -/
theorem writeFrame_eq (codec : Codec α) (maximum : Nat) (writer : List UInt8) (message : α) :
    writeFrame codec maximum writer message =
      if Sendable codec maximum message then (.ok (), writer ++ frame codec message)
      else (.error (.frameTooLarge (codec.toBytes message).length maximum), writer) := by
  unfold writeFrame sendFrame validateSize
  by_cases hle : (codec.toBytes message).length > maximum
  · simp only [if_pos hle]
    rw [if_neg fun h => absurd h.1 (Nat.not_le.mpr hle)]
  · simp only [if_neg hle]
    by_cases hlt : (codec.toBytes message).length < 2 ^ 32
    · simp only [if_pos hlt]
      rw [if_pos ⟨Nat.not_lt.mp hle, hlt⟩]
      rfl
    · simp only [if_neg hlt]
      rw [if_neg fun h => hlt h.2]

theorem readExact_left (bytes rest : List UInt8) :
    readExact bytes.length [] (bytes ++ rest) = (bytes, rest) := by
  unfold readExact
  rw [List.length_nil, Nat.sub_zero, List.take_left, List.drop_left, List.nil_append]

/-- A whole frame is received and nothing else is taken. -/
theorem poll_frame {message : α} (h : Sendable codec maximum message) (rest : List UInt8) :
    poll codec maximum true .start (frame codec message ++ rest) =
      (.ready (.ok message), rest) := by
  have hheader : readExact 4 [] (frame codec message ++ rest) =
      (toBeBytes (codec.toBytes message).length, codec.toBytes message ++ rest) := by
    rw [frame, List.append_assoc]
    exact readExact_left (toBeBytes (codec.toBytes message).length) _
  have hpayload := readExact_left (codec.toBytes message) rest
  rw [Receiving.start, poll, hheader]
  simp only [length_toBeBytes, lt_irrefl, if_false]
  rw [fromBeBytes_toBeBytes h.2, validateSize, if_neg (Nat.not_lt.mpr h.1)]
  simp only [pollPayload, hpayload, lt_irrefl, if_false, codec.fromBytes_toBytes]

theorem readExact_all {need : Nat} {available : List UInt8} (h : available.length ≤ need) :
    readExact need [] available = (available, []) := by
  unfold readExact
  rw [List.length_nil, Nat.sub_zero, List.take_of_length_le h, List.drop_of_length_le h,
    List.nil_append]

/-- A frame cut short is the end of the stream. -/
theorem poll_partial {message : α} (h : Sendable codec maximum message) {cut : Nat}
    (hcut : cut < (frame codec message).length) :
    poll codec maximum true .start ((frame codec message).take cut) =
      (.ready (.error (.io .unexpectedEof)), []) := by
  have hlength : (frame codec message).length = 4 + (codec.toBytes message).length := by
    rw [frame, List.length_append, length_toBeBytes]
  by_cases hfour : cut < 4
  · -- not even the length is there
    have hshort : ((frame codec message).take cut).length < 4 := by
      rw [List.length_take]
      omega
    rw [Receiving.start, poll, readExact_all hshort.le]
    simp only [if_pos hshort, if_true]
  · have htake : (frame codec message).take cut =
        toBeBytes (codec.toBytes message).length ++ (codec.toBytes message).take (cut - 4) := by
      rw [frame, List.take_append, length_toBeBytes, List.take_of_length_le]
      rw [length_toBeBytes]
      omega
    have hshort : ((codec.toBytes message).take (cut - 4)).length <
        (codec.toBytes message).length := by
      rw [List.length_take]
      omega
    have hheader := readExact_left (toBeBytes (codec.toBytes message).length)
      ((codec.toBytes message).take (cut - 4))
    rw [length_toBeBytes] at hheader
    rw [Receiving.start, poll, htake, hheader]
    simp only [length_toBeBytes, lt_irrefl, if_false]
    rw [fromBeBytes_toBeBytes h.2, validateSize, if_neg (Nat.not_lt.mpr h.1)]
    simp only [pollPayload, readExact_all hshort.le, if_pos hshort, if_true]

/-- **A message received accounts for exactly its frame**, whatever the bytes are. -/
theorem poll_message {bytes rest : List UInt8} {message : α}
    (h : poll codec maximum true .start bytes = (.ready (.ok message), rest)) :
    ∃ header payload, bytes = header ++ payload ++ rest ∧ header.length = 4 ∧
      payload.length = fromBeBytes header ∧ fromBeBytes header ≤ maximum ∧
      codec.fromBytes payload = some message := by
  have hfirst : readExact 4 [] bytes = (bytes.take 4, bytes.drop 4) :=
    readExact_eq (Nat.zero_le 4)
  rw [Receiving.start, poll, hfirst] at h
  dsimp only at h
  split at h
  · cases h
  · rename_i hfour
    split at h
    · cases h
    · rename_i hvalid
      have hmax : fromBeBytes (bytes.take 4) ≤ maximum := by
        unfold validateSize at hvalid
        split at hvalid
        · cases hvalid
        · rename_i hle
          exact Nat.not_lt.mp hle
      have hsecond : readExact (fromBeBytes (bytes.take 4)) [] (bytes.drop 4) = _ :=
        readExact_eq (Nat.zero_le _)
      unfold pollPayload at h
      rw [hsecond] at h
      dsimp only at h
      split at h
      · cases h
      · rename_i hpayload
        split at h
        · rename_i m hm
          cases h
          refine ⟨bytes.take 4, _, ?_, ?_, ?_, hmax, hm⟩
          · rw [List.append_assoc, List.nil_append, List.take_append_drop, List.take_append_drop]
          · rw [List.length_take] at hfour ⊢
            omega
          · rw [List.length_take] at hpayload ⊢
            omega
        · cases h

/-! ## Sequences of calls -/

/-- The messages whose whole frames lie within the first `cut` bytes of their stream. -/
def delivered (codec : Codec α) : Nat → List α → List α
  | _, [] => []
  | cut, message :: later =>
    if (frame codec message).length ≤ cut then
      message :: delivered codec (cut - (frame codec message).length) later
    else []

theorem delivered_isPrefix (codec : Codec α) (cut : Nat) (messages : List α) :
    delivered codec cut messages <+: messages := by
  induction messages generalizing cut with
  | nil => exact List.prefix_rfl
  | cons message later ih =>
    unfold delivered
    split
    · exact List.cons_prefix_cons.mpr ⟨rfl, ih _⟩
    · exact List.nil_prefix

/-- A message is delivered exactly when its frame ends within the cut. -/
theorem lt_delivered_iff (codec : Codec α) (cut : Nat) (messages : List α) {i : Nat}
    (hi : i < messages.length) :
    i < (delivered codec cut messages).length ↔
      (frames codec (messages.take (i + 1))).length ≤ cut := by
  induction messages generalizing cut i with
  | nil => cases hi
  | cons message later ih =>
    have hframes : (frames codec ((message :: later).take (i + 1))).length =
        (frame codec message).length + (frames codec (later.take i)).length := by
      rw [List.take_succ_cons, frames, List.flatMap_cons, List.length_append]
      rfl
    rw [hframes]
    unfold delivered
    split
    · rename_i hle
      cases i with
      | zero =>
        simp [frames, hle]
      | succ i =>
        rw [List.length_cons, Nat.succ_lt_succ_iff, ih _ (Nat.succ_lt_succ_iff.mp hi)]
        omega
    · rename_i hgt
      constructor
      · intro h
        cases h
      · intro h
        omega

/-- The answers of consecutive calls, and the state they leave. -/
def calls {σ ι ρ : Type} (f : σ → ι → ρ × σ) : σ → List ι → List ρ × σ
  | s, [] => ([], s)
  | s, i :: is => ((f s i).1 :: (calls f (f s i).2 is).1, (calls f (f s i).2 is).2)

/-- Calls through a view of the state are calls on the view. -/
theorem calls_map {σ τ ι ρ : Type} {f : σ → ι → ρ × σ} {g : τ → ι → ρ × τ} (view : σ → τ)
    (h : ∀ s i, g (view s) i = ((f s i).1, view (f s i).2)) (s : σ) (is : List ι) :
    calls g (view s) is = ((calls f s is).1, view (calls f s is).2) := by
  induction is generalizing s with
  | nil => rfl
  | cons i is ih => simp only [calls, h, ih]

theorem receiveFrame_eq (codec : Codec α) (maximum : Nat) (reader : Incoming) :
    poll codec maximum true .start reader.bytes =
      (.ready (receiveFrame codec maximum reader).1, (receiveFrame codec maximum reader).2.bytes) :=
  awaitFrame_eq .start reader.arrived reader.coming

/-- `receive_frame` answered with the end of the stream. -/
def endOfStream : Except TransportError α := .error (.io .unexpectedEof)

/-- An exhausted stream stays at its end. -/
theorem calls_receive_end (n : Nat) {reader : Incoming} (h : reader.bytes = []) :
    (calls (fun r (_ : Unit) => receiveFrame codec maximum r) reader (List.replicate n ())).1 =
      List.replicate n endOfStream := by
  induction n generalizing reader with
  | zero => rfl
  | succ n ih =>
    have heq := receiveFrame_eq codec maximum reader
    rw [h] at heq
    obtain ⟨hresult, hrest⟩ := Prod.mk.inj heq
    rw [List.replicate_succ, List.replicate_succ, calls, ih hrest.symm]
    rw [← Poll.ready.inj hresult]
    rfl

/-- Further answers do not matter to the first `n`. -/
theorem take_append_replicate_succ {β : Type} (l : List β) (x : β) (n : Nat) :
    (l ++ List.replicate (n + 1) x).take n = (l ++ List.replicate n x).take n := by
  rw [List.replicate_succ', ← List.append_assoc, List.take_append_of_le_length]
  rw [List.length_append, List.length_replicate]
  omega

/-- **Receiving from a cut stream of frames**: the messages delivered, then the end of
    the stream. -/
theorem calls_receive {messages : List α}
    (hs : ∀ message ∈ messages, Sendable codec maximum message)
    (cut n : Nat) {reader : Incoming} (h : reader.bytes = (frames codec messages).take cut) :
    (calls (fun r (_ : Unit) => receiveFrame codec maximum r) reader (List.replicate n ())).1 =
      ((delivered codec cut messages).map Except.ok ++ List.replicate n endOfStream).take n := by
  induction n generalizing reader messages cut with
  | zero => rfl
  | succ n ih =>
    have hend : ∀ {r : Incoming}, r.bytes = [] → delivered codec cut messages = [] →
        (calls (fun r (_ : Unit) => receiveFrame codec maximum r) r (List.replicate (n + 1) ())).1 =
          ((delivered codec cut messages).map Except.ok ++ List.replicate (n + 1) endOfStream).take
            (n + 1) := by
      intro r hr hd
      rw [hd, calls_receive_end (n + 1) hr, List.map_nil, List.nil_append, List.take_of_length_le]
      rw [List.length_replicate]
    cases messages with
    | nil => exact hend (by rw [h]; exact List.take_nil) rfl
    | cons message later =>
      have hframes : frames codec (message :: later) =
          frame codec message ++ frames codec later := by
        rw [frames, List.flatMap_cons]
        rfl
      have hsend := hs message List.mem_cons_self
      have heq := receiveFrame_eq codec maximum reader
      by_cases hle : (frame codec message).length ≤ cut
      · have hbytes : reader.bytes =
            frame codec message ++ (frames codec later).take
              (cut - (frame codec message).length) := by
          rw [h, hframes, List.take_append, List.take_of_length_le hle]
        rw [hbytes, poll_frame hsend] at heq
        obtain ⟨hresult, hrest⟩ := Prod.mk.inj heq
        have hlater := ih (fun m hm => hs m (List.mem_cons_of_mem _ hm)) _ hrest.symm
        rw [List.replicate_succ, calls, hlater, ← Poll.ready.inj hresult]
        rw [delivered, if_pos hle, List.map_cons, List.cons_append, List.take_succ_cons,
          take_append_replicate_succ]
      · have hbytes : reader.bytes = (frame codec message).take cut := by
          rw [h, hframes, List.take_append_of_le_length (Nat.le_of_not_le hle)]
        rw [hbytes, poll_partial hsend (Nat.lt_of_not_le hle)] at heq
        obtain ⟨hresult, hrest⟩ := Prod.mk.inj heq
        rw [List.replicate_succ, calls, calls_receive_end n hrest.symm, ← Poll.ready.inj hresult]
        rw [delivered, if_neg hle, List.map_nil, List.nil_append, List.take_of_length_le]
        · rfl
        · rw [List.length_replicate]

/-! ## Connections -/

/-- What the two ends of a framed stream with one limit do, split or not. -/
structure Delivers (codec : Codec α) (maximum : Nat) : Prop where
  /-- One message is written as one whole frame, or refused with nothing written. -/
  sends : ∀ (c : FramedConnection) (message : α), c.maxFrameSize = maximum →
    c.send codec message =
      if Sendable codec maximum message then
        (.ok (),
          { c with stream := { c.stream with written := c.stream.written ++ frame codec message } })
      else (.error (.frameTooLarge (codec.toBytes message).length maximum), c)
  /-- Sending on the split connection gives the same answers and writes the same bytes. -/
  splitSends : ∀ (c : FramedConnection) (messages : List α),
    calls (FramedWriter.send codec) c.intoSplit.2 messages =
      ((calls (FramedConnection.send codec) c messages).1,
        (calls (FramedConnection.send codec) c messages).2.intoSplit.2)
  /-- From the bytes of `messages`, cut anywhere and in any chunks, come exactly the messages sent
      whose frames are whole, in order, and then the end of the stream. -/
  receives : ∀ (sender receiver : FramedConnection) (messages : List α) (cut n : Nat),
    sender.maxFrameSize = maximum → sender.stream.written = [] → receiver.maxFrameSize = maximum →
    receiver.stream.incoming.bytes =
      ((calls (FramedConnection.send codec) sender messages).2.stream.written).take cut →
    let sent := messages.filter fun message => Sendable codec maximum message
    (calls (fun c (_ : Unit) => c.receive codec) receiver (List.replicate n ())).1 =
      ((delivered codec cut sent).map Except.ok ++ List.replicate n endOfStream).take n
  /-- These are the messages whose frames end within the cut, in the order sent. -/
  whole : ∀ (sent : List α) (cut : Nat), delivered codec cut sent <+: sent ∧
    ∀ i, i < sent.length → (i < (delivered codec cut sent).length ↔
      (frames codec (sent.take (i + 1))).length ≤ cut)
  /-- The end of the stream counts as the peer going away. -/
  disconnect : ∀ error, (endOfStream : Except TransportError α) = .error error →
    isDisconnect error = true
  /-- Receiving on the split connection gives the same answers. -/
  splitReceives : ∀ (c : FramedConnection) (n : Nat),
    (calls (fun r (_ : Unit) => FramedReader.receive codec r) c.intoSplit.1
      (List.replicate n ())).1 =
      (calls (fun c (_ : Unit) => c.receive codec) c (List.replicate n ())).1
  /-- A message received, from whatever bytes, accounts for exactly one frame within the limit. -/
  consumes : ∀ (c : FramedConnection) (message : α) (c' : FramedConnection),
    c.maxFrameSize = maximum → c.receive codec = (.ok message, c') →
    ∃ header payload, c.stream.incoming.bytes = header ++ payload ++ c'.stream.incoming.bytes ∧
      header.length = 4 ∧ payload.length = fromBeBytes header ∧ fromBeBytes header ≤ maximum ∧
      codec.fromBytes payload = some message

theorem send_eq (c : FramedConnection) (message : α) :
    c.send codec message =
      if Sendable codec c.maxFrameSize message then
        (.ok (),
          { c with stream := { c.stream with written := c.stream.written ++ frame codec message } })
      else (.error (.frameTooLarge (codec.toBytes message).length c.maxFrameSize), c) := by
  unfold FramedConnection.send
  rw [writeFrame_eq]
  by_cases hs : Sendable codec c.maxFrameSize message
  · rw [if_pos hs, if_pos hs]
  · rw [if_neg hs, if_neg hs]

/-- The frames of the messages that fit follow one another. -/
theorem calls_send (c : FramedConnection) (messages : List α) :
    (calls (FramedConnection.send codec) c messages).2.stream.written =
      c.stream.written ++
        frames codec (messages.filter fun message => Sendable codec c.maxFrameSize message) := by
  induction messages generalizing c with
  | nil => exact (List.append_nil _).symm
  | cons message later ih =>
    rw [calls, ih, send_eq]
    by_cases hs : Sendable codec c.maxFrameSize message
    · rw [if_pos hs, List.filter_cons_of_pos (by simpa using hs), frames, frames,
        List.flatMap_cons, List.append_assoc]
    · rw [if_neg hs, List.filter_cons_of_neg (by simpa using hs)]

/-- A connection receives by reading from its stream. -/
theorem calls_connection_receive (c : FramedConnection) (is : List Unit) :
    (calls (fun c (_ : Unit) => FramedConnection.receive codec c) c is).1 =
      (calls (fun r (_ : Unit) => receiveFrame codec c.maxFrameSize r) c.stream.incoming is).1 := by
  induction is generalizing c with
  | nil => rfl
  | cons i is ih =>
    rw [calls, calls, ih]
    rfl

/-- **Framed delivery.** -/
theorem framed_delivery (codec : Codec α) (maximum : Nat) : Delivers codec maximum where
  sends c message hmax := by
    rw [send_eq, hmax]
  splitSends c messages :=
    calls_map (fun c : FramedConnection => c.intoSplit.2) (fun _ _ => rfl) c messages
  receives sender receiver messages cut n hs hw hr h := by
    intro sent
    rw [calls_send, hw, hs, List.nil_append] at h
    rw [calls_connection_receive, hr]
    apply calls_receive _ cut n h
    intro message hm
    simpa using (List.mem_filter.mp hm).2
  whole sent cut := ⟨delivered_isPrefix codec cut sent, fun _ hi =>
    lt_delivered_iff codec cut sent hi⟩
  disconnect error h := by
    cases h
    rfl
  splitReceives c n :=
    congrArg Prod.fst
      (calls_map (fun c : FramedConnection => c.intoSplit.1) (fun _ _ => rfl) c
        (List.replicate n ()))
  consumes c message c' hmax h := by
    have heq := receiveFrame_eq codec maximum c.stream.incoming
    unfold FramedConnection.receive at h
    rw [hmax] at h
    obtain ⟨hresult, hrest⟩ := Prod.mk.inj h
    replace hresult : (receiveFrame codec maximum c.stream.incoming).1 = .ok message := hresult
    rw [hresult] at heq
    rw [← hrest]
    exact poll_message heq

/-- The second of three messages is too long to be sent, the stream ends inside the frame of the
    third, and what there is arrives in three pieces: the receiver gets the first message and
    nothing else. -/
theorem framed_delivery_demo :
    let navigation : ApplicationId := ⟨"navigation"⟩
    let messages : List ApplicationToSam := [.modeReady navigation ⟨1⟩,
      .modeRejected navigation ⟨1⟩ "busy with something else",
      .modeCommitted navigation ⟨1⟩ .standby]
    let sender : FramedConnection := ⟨⟨⟨[], []⟩, []⟩, 20⟩
    let bytes :=
      (calls (FramedConnection.send Postcard.codec) sender messages).2.stream.written.take 30
    let receiver : FramedConnection :=
      ⟨⟨⟨bytes.take 3, [(bytes.drop 3).take 20, bytes.drop 23]⟩, []⟩, 20⟩
    (calls (fun c (_ : Unit) => c.receive Postcard.codec) receiver (List.replicate 3 ())).1 =
      [.ok (.modeReady navigation ⟨1⟩), endOfStream, endOfStream] := by
  intro navigation messages sender bytes receiver
  have hbytes : receiver.stream.incoming.bytes = bytes := by decide +kernel
  have hdelivered : delivered Postcard.codec 30
      (messages.filter fun message => Sendable Postcard.codec 20 message) =
        [.modeReady navigation ⟨1⟩] := by decide +kernel
  rw [(framed_delivery Postcard.codec 20).receives sender receiver messages 30 3 rfl rfl rfl hbytes,
    hdelivered]
  rfl

end Sam
