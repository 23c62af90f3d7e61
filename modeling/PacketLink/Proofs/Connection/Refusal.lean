import PacketLink.Proofs.Connection.Reachable
import PacketLink.Proofs.Control.Codec

/-!
# Why a send is refused

What is sent can be refused for a field of a control message, for a connection that is closed, for
the packet size of the transport, and for the number of packets, and a cause counts only when none
before it applies. Main statement: `sendContent_eq_error_iff`, by which a send is refused for these
causes and for no others.
-/

namespace PacketLink

/-! ## Cutting a message -/

section Create

variable {layout : Layout} {maxPacketSize maxPacketCount : Number} {message : Message}

/-- Why a message cannot be cut into packets of at most `maxPacketSize` bytes. -/
inductive WriteRequest.Refuses (layout : Layout) (maxPacketSize maxPacketCount : Number)
    (message : Message) : CreateError → Prop
  | notInteger (broken : ¬maxPacketSize.IsInteger) :
    Refuses layout maxPacketSize maxPacketCount message
      (.invalidArgument (.maxPacketSizeNotInteger maxPacketSize))
  /-- The header leaves no room for payload. -/
  | noRoom {bytes : Int} (integer : maxPacketSize = .ofInt bytes)
    (tight : bytes ≤ layout.headerBytes) :
    Refuses layout maxPacketSize maxPacketCount message
      (.invalidArgument (.chunkSizeTooSmall maxPacketSize layout.headerBytes))
  /-- More packets are counted for the payload than are allowed. -/
  | tooMany (chunk : ChunkSize)
    (integer : maxPacketSize = .ofInt (layout.headerBytes + chunk.val))
    (many : maxPacketCount.below (chunk.packetCount message.payload.length : Nat) = true) :
    Refuses layout maxPacketSize maxPacketCount message
      (.tooManyPackets (chunk.packetCount message.payload.length) maxPacketCount)

/-- A request is not created exactly for the causes of a refusal. -/
lemma WriteRequest.create_eq_error_iff (id : Nat) (signal : Option String) {cause : CreateError} :
    create id layout maxPacketSize maxPacketCount signal message = .error cause ↔
      Refuses layout maxPacketSize maxPacketCount message cause := by
  constructor
  · intro failed
    obtain broken | ⟨bytes, rfl, tight⟩ | ⟨chunk, rfl⟩ := layout.room_cases maxPacketSize
    · rw [create, Layout.chunkSize_of_broken broken] at failed
      cases failed
      exact .notInteger broken
    · rw [create, Layout.chunkSize_of_tight tight] at failed
      cases failed
      exact .noRoom rfl tight
    · rw [create, Layout.chunkSize_ofInt] at failed
      dsimp only at failed
      split at failed
      · rename_i many
        cases failed
        exact .tooMany chunk rfl many
      · cases failed
  · intro refuses
    cases refuses with
    | notInteger broken => rw [create, Layout.chunkSize_of_broken broken]
    | noRoom integer tight =>
      subst integer
      rw [create, Layout.chunkSize_of_tight tight]
    | tooMany chunk integer many =>
      subst integer
      rw [create, Layout.chunkSize_ofInt]
      dsimp only
      rw [if_pos many]

end Create

namespace Connection

/-! ## Sending -/

/-- The numbers that the fields of what is sent are to hold; only control messages have any. -/
def fieldsOf : Message ⊕ ControlMessage → List Number
  | .inl _ => []
  | .inr message => message.fields

/-- Why what is sent is refused. -/
inductive Refuses (c : Connection) (maxPacketSize : Number) (content : Message ⊕ ControlMessage) :
    SendError → Prop
  /-- The first field that is not to hold a 16-bit number. -/
  | field {before after : List Number} {value : Number}
    (fields : fieldsOf content = before ++ value :: after)
    (fit : ∀ value ∈ before, ControlMessage.Fits value) (misfit : ¬ControlMessage.Fits value) :
    Refuses c maxPacketSize content (.field ⟨value⟩)
  | closed (fit : ∀ value ∈ fieldsOf content, ControlMessage.Fits value)
    (closed : c.closed = true) : Refuses c maxPacketSize content .closed
  /-- The message, or the one that carries the control message, cannot be cut. -/
  | create {message : Message} {cause : CreateError} (opened : c.closed = false)
    (carries : messageOf? content = some message)
    (refuses : WriteRequest.Refuses c.layout maxPacketSize c.maxPacketCount message cause) :
    Refuses c maxPacketSize content (.create cause)

variable {c : Connection} {id : Nat} {maxPacketSize : Number} {content : Message ⊕ ControlMessage}
  {message : Message} {signal : Option String} {aborted : Bool} {cause : SendError}

/-- What is sent is a message when all its fields fit. -/
lemma exists_messageOf?_iff :
    (∃ message, messageOf? content = some message) ↔
      ∀ value ∈ fieldsOf content, ControlMessage.Fits value := by
  cases content with
  | inl message => exact ⟨fun _ => nofun, fun _ => ⟨message, rfl⟩⟩
  | inr message =>
    rw [fieldsOf, ← ControlMessage.exists_encode_iff]
    dsimp only [messageOf?]
    cases message.encode with
    | ok payload => exact ⟨fun _ => ⟨payload, rfl⟩, fun _ => ⟨_, rfl⟩⟩
    | error cause =>
      constructor
      · rintro ⟨_, carries⟩
        cases carries
      · rintro ⟨_, written⟩
        cases written

/-- Content that can be carried is sent as the message that carries it. -/
lemma sendContent_eq (carries : messageOf? content = some message) :
    c.sendContent id maxPacketSize content signal aborted =
      c.send id maxPacketSize message signal aborted := by
  cases content with
  | inl other =>
    cases carries
    rfl
  | inr other =>
    dsimp only [messageOf?] at carries
    dsimp only [sendContent, sendControlMessage]
    cases written : other.encode with
    | ok payload =>
      rw [written] at carries
      cases carries
      rfl
    | error overflow =>
      rw [written] at carries
      cases carries

/-- A closed connection sends nothing. -/
lemma send_of_closed (closed : c.closed = true) :
    c.send id maxPacketSize message signal aborted = .error .closed := if_pos closed

/-- An open connection refuses a message exactly when no request is created from it. -/
lemma send_eq_error_iff (opened : c.closed = false) :
    c.send id maxPacketSize message signal aborted = .error cause ↔
      ∃ e, cause = .create e ∧
        WriteRequest.Refuses c.layout maxPacketSize c.maxPacketCount message e := by
  simp only [send, opened, ← WriteRequest.create_eq_error_iff id signal]
  cases WriteRequest.create id c.layout maxPacketSize c.maxPacketCount signal message with
  | ok r => simp
  | error e => simp [eq_comm]

/-- A field that does not fit is all that a control message is looked at for. -/
lemma sendContent_of_misfit {before after : List Number} {value : Number}
    (fields : fieldsOf content = before ++ value :: after)
    (fit : ∀ value ∈ before, ControlMessage.Fits value) (misfit : ¬ControlMessage.Fits value) :
    c.sendContent id maxPacketSize content signal aborted = .error (.field ⟨value⟩) := by
  cases content with
  | inl message =>
    have length := congrArg List.length fields
    simp [fieldsOf] at length
  | inr message =>
    have failed : message.encode = .error ⟨value⟩ :=
      ControlMessage.encode_eq_error_iff.mpr ⟨before, after, fields, fit, misfit⟩
    dsimp only [sendContent, sendControlMessage]
    rw [failed]

/-- When nothing carries what is sent, one of its fields is the first that does not fit. -/
lemma exists_misfit (unwritten : messageOf? content = none) :
    ∃ before value after, fieldsOf content = before ++ value :: after ∧
      (∀ value ∈ before, ControlMessage.Fits value) ∧ ¬ControlMessage.Fits value := by
  cases content with
  | inl message => cases unwritten
  | inr message =>
    dsimp only [messageOf?] at unwritten
    cases written : message.encode with
    | ok payload =>
      rw [written] at unwritten
      cases unwritten
    | error overflow =>
      obtain ⟨before, after, fields, fit, misfit⟩ := ControlMessage.encode_eq_error_iff.mp written
      exact ⟨before, overflow.value, after, fields, fit, misfit⟩

/-- A send is refused for the first cause that applies, and for nothing else. -/
theorem sendContent_eq_error_iff :
    c.sendContent id maxPacketSize content signal aborted = .error cause ↔
      c.Refuses maxPacketSize content cause := by
  constructor
  · intro failed
    cases carries : messageOf? content with
    | none =>
      obtain ⟨before, value, after, fields, fit, misfit⟩ := exists_misfit carries
      rw [sendContent_of_misfit fields fit misfit] at failed
      cases failed
      exact .field fields fit misfit
    | some message =>
      rw [sendContent_eq carries] at failed
      by_cases closed : c.closed = true
      · rw [send_of_closed closed] at failed
        cases failed
        exact .closed (exists_messageOf?_iff.mp ⟨message, carries⟩) closed
      · have opened : c.closed = false := by simpa using closed
        obtain ⟨e, rfl, refuses⟩ := (send_eq_error_iff opened).mp failed
        exact .create opened carries refuses
  · intro refuses
    cases refuses with
    | field fields fit misfit => exact sendContent_of_misfit fields fit misfit
    | closed fit closed =>
      obtain ⟨message, carries⟩ := exists_messageOf?_iff.mpr fit
      rw [sendContent_eq carries]
      exact send_of_closed closed
    | create opened carries refuses =>
      rw [sendContent_eq carries]
      exact (send_eq_error_iff opened).mpr ⟨_, rfl, refuses⟩

end Connection

end PacketLink
