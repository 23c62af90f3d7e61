import PacketLink.Proofs.Packet.Fragments
import PacketLink.Write.Request

/-!
# What a write request is made of

`WriteRequest.Valid` says that a request was cut from a message for its layout and that it has gone
no further than its packets. `create_valid` gives it for a new request, and `submitNext_eq` says
that a valid request that is not at its end always submits its next packet: encoding cannot fail.
-/

namespace PacketLink

namespace WriteRequest

/-- The message that a request carries. -/
def message (request : WriteRequest) : Message := ⟨request.kind, joined request.fragments⟩

/-- A request that was cut from a message for packets of `layout`, and its progress. -/
structure Valid (layout : Layout) (request : WriteRequest) : Prop where
  layout_eq : request.layout = layout
  cut : ∃ (size : ChunkSize) (sent : Message),
    layout.chunkSize request.maxPacketSize = .ok size ∧ request.kind = sent.kind ∧
      request.fragments = sent.fragments size
  pending_sentCount : request.status = .pending → request.sentCount = 0
  inFlight_sentCount : request.status = .inFlight → request.sentCount < request.fragments.length

variable {layout : Layout} {request : WriteRequest} {status : WriteStatus}

/-- The phase is that of the status. -/
lemma phase_eq (same : request.status = status) : request.phase = status.phase := by
  rw [phase, same]

/-- A request has settled when its status says so. -/
lemma isSettled_eq (same : request.status = status) : request.isSettled = status.isSettled := by
  rw [isSettled, same]

/-- A request waits when its status says so. -/
lemma phase_eq_pending_iff : request.phase = .pending ↔ request.status = .pending := by
  unfold phase
  cases request.status with
  | settled result => cases result <;> simp [WriteStatus.phase]
  | _ => simp [WriteStatus.phase]

/-- A request in flight has the status of one. -/
lemma status_of_isInFlight (flying : request.isInFlight = true) : request.status = .inFlight := by
  unfold isInFlight at flying
  split at flying
  · assumption
  · cases flying

section Create

variable {id : Nat} {maxPacketSize maxPacketCount : Number} {signal : Option String}
  {sent : Message}

/-- What a new request is. -/
lemma create_eq
    (created : create id layout maxPacketSize maxPacketCount signal sent = .ok request) :
    ∃ size, layout.chunkSize maxPacketSize = .ok size ∧
      request =
        { id, layout, maxPacketSize, signal, kind := sent.kind, fragments := sent.fragments size,
          status := .pending, sentCount := 0 } := by
  unfold create at created
  split at created
  · cases created
  · rename_i size chunk
    dsimp only at created
    split at created
    · cases created
    · cases created
      exact ⟨size, chunk, rfl⟩

/-- A request is created from a valid cut of its message. -/
lemma create_valid
    (created : create id layout maxPacketSize maxPacketCount signal sent = .ok request) :
    request.Valid layout := by
  obtain ⟨size, chunk, rfl⟩ := create_eq created
  exact ⟨rfl, ⟨size, sent, chunk, rfl, rfl⟩, fun _ => rfl, fun h => by cases h⟩

/-- A request waits when it is created. -/
lemma create_pending
    (created : create id layout maxPacketSize maxPacketCount signal sent = .ok request) :
    request.status = .pending := by
  obtain ⟨size, chunk, rfl⟩ := create_eq created
  rfl

/-- A request keeps the signal that it is created with. -/
lemma create_signal
    (created : create id layout maxPacketSize maxPacketCount signal sent = .ok request) :
    request.signal = signal := by
  obtain ⟨size, chunk, rfl⟩ := create_eq created
  rfl

/-- A new request carries the message that it was created for. -/
lemma create_message
    (created : create id layout maxPacketSize maxPacketCount signal sent = .ok request) :
    request.message = sent := by
  obtain ⟨size, chunk, rfl⟩ := create_eq created
  simp [message]

end Create

namespace Valid

/-- The fragments of a valid request are those of one message. -/
lemma framed (valid : request.Valid layout) : Framed request.kind request.fragments := by
  obtain ⟨size, message, _, kind, fragments⟩ := valid.cut
  rw [kind, fragments]
  exact message.framed_fragments size

/-- Every fragment of a valid request can be written with a counter value in range. -/
lemma encode_fragment (valid : request.Valid layout) {i counter : Nat} {f : Fragment}
    (get : request.fragments[i]? = some f) (range : counter < layout.counterSpace) :
    (f.stamp counter).encode request.layout request.maxPacketSize =
      .ok (f.wire layout counter) := by
  obtain ⟨size, message, chunk, _, fragments⟩ := valid.cut
  rw [fragments] at get
  rw [valid.layout_eq]
  exact Message.encode_fragment chunk get range

/-- The layout and the fragments of a request never change, so only its progress matters. -/
lemma amend (valid : request.Valid layout) (status : WriteStatus) (sentCount : Nat)
    (pending : status = .pending → sentCount = 0)
    (inFlight : status = .inFlight → sentCount < request.fragments.length) :
    ({ request with status, sentCount } : WriteRequest).Valid layout :=
  ⟨valid.layout_eq, valid.cut, pending, inFlight⟩

/-- A valid request stays so when it settles. -/
lemma settle (valid : request.Valid layout) (result : WriteResult) :
    ({ request with status := .settled result } : WriteRequest).Valid layout :=
  valid.amend (.settled result) request.sentCount (fun h => by cases h) fun h => by cases h

/-- A valid request stays so when it is started. -/
lemma start (valid : request.Valid layout) (pending : request.status = .pending) :
    ({ request with status := .inFlight } : WriteRequest).Valid layout :=
  valid.amend .inFlight request.sentCount (fun h => by cases h) fun _ =>
    valid.pending_sentCount pending ▸ valid.framed.length_pos

/-- A request that has not settled has a packet that was not accepted yet. -/
lemma sentCount_lt (valid : request.Valid layout) (unsettled : request.isSettled = false) :
    request.sentCount < request.fragments.length := by
  cases status : request.status with
  | pending => exact valid.pending_sentCount status ▸ valid.framed.length_pos
  | inFlight => exact valid.inFlight_sentCount status
  | settled => cases (isSettled_eq status).symm.trans unsettled

end Valid

/-- A valid request that is not at its end submits its next packet. -/
lemma submitNext_eq (valid : request.Valid layout) {i : Nat} {f : Fragment} {counter : Counter}
    (count : request.sentCount = i) (get : request.fragments[i]? = some f)
    (space : counter.space = layout.counterSpace) :
    request.submitNext counter =
      ⟨request, counter.advance 1,
        [.log (.submitting i counter.value (f.wire layout counter.value).length),
          .submit i (f.wire layout counter.value)]⟩ := by
  subst count
  have range : counter.value < layout.counterSpace := space ▸ counter.value_lt
  simp only [submitNext, Counter.next, get, valid.encode_fragment get range]

/-- A valid pending request can be started, and then submits its first packet. -/
lemma start_eq (valid : request.Valid layout) (pending : request.status = .pending) {f : Fragment}
    {counter : Counter} (get : request.fragments[0]? = some f)
    (space : counter.space = layout.counterSpace) :
    request.start counter = .ok
      ⟨{ request with status := .inFlight }, counter.advance 1,
        [.log (.started request.fragments.length),
          .log (.submitting 0 counter.value (f.wire layout counter.value).length),
          .submit 0 (f.wire layout counter.value)]⟩ := by
  have none_sent := valid.pending_sentCount pending
  simp only [start, pending, submitNext_eq (valid.start pending) none_sent get space]

end WriteRequest

end PacketLink
