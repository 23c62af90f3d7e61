import PacketLink.Proofs.Connection.Trace
import PacketLink.Proofs.Reassembly.Following

/-!
# What a connection makes of packets

`takeAll` is a connection that takes packets one after the other, and `received` the messages that
it emits for them. `receive_wire` says what one packet does: its kind alone decides which stream it
goes to. `takeAll_block` says that the first packets of a message, with successive counters, give
the message when they are all of it and nothing else, whatever the stream held before.
-/

namespace PacketLink

/-- The message that an event delivers. -/
def Event.received? : Event → Option Message
  | .messageReceived data => some ⟨.data, data⟩
  | .controlReceived payload => some ⟨.control, payload⟩
  | _ => none

namespace Connection

/-- The event that an effect emits. -/
def Effect.event? : Effect → Option Event
  | .emit event => some event
  | _ => none

/-- The events that a connection emits, in order. -/
def events (trace : List Effect) : List Event := trace.filterMap Effect.event?

/-- The messages that a connection delivers, in order. -/
def received (trace : List Effect) : List Message := (events trace).filterMap Event.received?

/-- A connection that takes packets one after the other, with all that it asks for. -/
def takeAll (c : Connection) : List Bytes → Connection × List Effect
  | [] => (c, [])
  | packet :: packets =>
    let turn := (c.receive packet).1
    let later := turn.connection.takeAll packets
    (later.1, turn.effects ++ later.2)

/-- The events in a trace are those in its parts. -/
@[simp] lemma events_append (trace later : List Effect) :
    events (trace ++ later) = events trace ++ events later := List.filterMap_append

/-- The messages in a trace are those in its parts. -/
@[simp] lemma received_append (trace later : List Effect) :
    received (trace ++ later) = received trace ++ received later := by simp [received]

/-- Without packets nothing is taken. -/
@[simp] lemma takeAll_nil (c : Connection) : c.takeAll [] = (c, []) := rfl

/-- Packets are taken in two parts, one after the other. -/
lemma takeAll_append (c : Connection) (packets later : List Bytes) :
    c.takeAll (packets ++ later) =
      (((c.takeAll packets).1.takeAll later).1,
        (c.takeAll packets).2 ++ ((c.takeAll packets).1.takeAll later).2) := by
  induction packets generalizing c with
  | nil => simp
  | cons packet packets ih => simp [takeAll, ih]

/-- The last packet is taken after the others. -/
lemma takeAll_snoc (c : Connection) (packets : List Bytes) (packet : Bytes) :
    c.takeAll (packets ++ [packet]) =
      (((c.takeAll packets).1.receive packet).1.connection,
        (c.takeAll packets).2 ++ ((c.takeAll packets).1.receive packet).1.effects) := by
  simp [takeAll_append, takeAll]

/-- Whether an effect is a record or an event. -/
def Effect.isReport : Effect → Bool
  | .log _ => true
  | .emit _ => true
  | _ => false

/-- What a connection asks for when it takes a packet is recorded or emitted. -/
lemma report_receive (c : Connection) (packet : Bytes) :
    ∀ effect ∈ (c.receive packet).1.effects, effect.isReport = true := by
  unfold receive
  split
  · rename_i packet _
    cases (c.inbound packet.kind).receive packet with
    | mk r outcome =>
      cases outcome with
      | pending => simp [ask, announce, Effect.isReport]
      | complete data => simp [ask, announce, Effect.isReport]
      | error error data => cases data <;> simp [ask, announce, report, Effect.isReport]
  · simp [ask, report, Effect.isReport]

/-- Taking packets hands nothing over. -/
lemma quiet_takeAll (c : Connection) (packets : List Bytes) : Quiet (c.takeAll packets).2 := by
  induction packets generalizing c with
  | nil => simp [Quiet]
  | cons packet packets ih =>
    intro effect mem
    obtain first | later := List.mem_append.mp mem
    · exact quiet_receive c packet effect first
    · exact ih _ effect later

/-- Taking packets does not change the requests. -/
@[simp] lemma requests_takeAll (c : Connection) (packets : List Bytes) :
    (c.takeAll packets).1.requests = c.requests := by
  induction packets generalizing c with
  | nil => rfl
  | cons packet packets ih =>
    rw [takeAll, ih, connection_receive]

/-- Taking packets does not change the layout. -/
@[simp] lemma layout_takeAll (c : Connection) (packets : List Bytes) :
    (c.takeAll packets).1.layout = c.layout := by
  induction packets generalizing c with
  | nil => rfl
  | cons packet packets ih =>
    rw [takeAll, ih, connection_receive]

/-! ## Streams -/

/-- The stream that is set is the one of its kind. -/
@[simp] lemma inbound_setInbound (c : Connection) (kind : Kind) (r : Reassembler) :
    (c.setInbound kind r).inbound kind = r := by
  cases kind <;> rfl

/-- Of two streams of one kind that are set the second stays. -/
@[simp] lemma setInbound_setInbound (c : Connection) (kind : Kind) (r r' : Reassembler) :
    (c.setInbound kind r).setInbound kind r' = c.setInbound kind r' := by
  cases kind <;> rfl

/-- Setting a stream to what it is changes nothing. -/
@[simp] lemma setInbound_inbound (c : Connection) (kind : Kind) :
    c.setInbound kind (c.inbound kind) = c := by
  cases kind <;> rfl

/-- Setting a stream does not change the layout. -/
@[simp] lemma layout_setInbound (c : Connection) (kind : Kind) (r : Reassembler) :
    (c.setInbound kind r).layout = c.layout := by
  cases kind <;> rfl

/-- Setting the stream of one kind leaves the other alone. -/
lemma inbound_setInbound_of_ne (c : Connection) {kind other : Kind} (apart : other ≠ kind)
    (r : Reassembler) : (c.setInbound kind r).inbound other = c.inbound other := by
  cases kind <;> cases other <;> first | rfl | exact absurd rfl apart

/-- A message is received when the stream of its kind answers with it. -/
lemma received_announce (kind : Kind) (outcome : Reception) :
    received (announce kind outcome) = (outcome.data?.map (Message.mk kind)).toList := by
  cases outcome with
  | pending => rfl
  | complete data => cases kind <;> rfl
  | error error data => cases data <;> cases kind <;> rfl

/-- A packet goes to the stream of its kind, and what it completes is delivered. -/
lemma receive_wire (c : Connection) {counter : Nat} (range : counter < c.layout.counterSpace)
    (f : Fragment) :
    (c.receive (f.wire c.layout counter)).1.connection =
        c.setInbound f.kind ((c.inbound f.kind).receive (f.stamp counter)).1 ∧
      received (c.receive (f.wire c.layout counter)).1.effects =
        (((c.inbound f.kind).receive (f.stamp counter)).2.data?.map
          (Message.mk f.kind)).toList := by
  rw [← received_announce, receive, Packet.decode_wire range]
  exact ⟨rfl, rfl⟩

/-! ## Messages -/

/-- The packets of the first fragments of a message, with counters that count up from `start`. -/
def packetsFrom (layout : Layout) (start : Nat) (fragments : List Fragment) : List Bytes :=
  fragments.mapIdx fun i f => f.wire layout ((start + i) % layout.counterSpace)

/-- A connection whose streams are for packets of its own layout and let messages of up to
`maxMessageSize` bytes pass. -/
structure Accepting (maxMessageSize : Number) (c : Connection) : Prop where
  layout_eq : ∀ kind, (c.inbound kind).layout = c.layout
  limit_eq : ∀ kind, (c.inbound kind).maxMessageSize = maxMessageSize

/-- A receiver that accepts does so wherever its streams stand. -/
lemma Accepting.setProgress {maxMessageSize : Number} {c : Connection}
    (accepting : Accepting maxMessageSize c) (kind : Kind) (progress : Option Progress) :
    Accepting maxMessageSize (c.setInbound kind { c.inbound kind with progress }) := by
  refine ⟨fun other => ?_, fun other => ?_⟩ <;> by_cases same : other = kind
  · rw [same, inbound_setInbound, layout_setInbound]
    exact accepting.layout_eq kind
  · rw [inbound_setInbound_of_ne _ same, layout_setInbound]
    exact accepting.layout_eq other
  · rw [same, inbound_setInbound]
    exact accepting.limit_eq kind
  · rw [inbound_setInbound_of_ne _ same]
    exact accepting.limit_eq other

/-- The first packets of a message give the message when they are all of it, and nothing else. -/
lemma takeAll_block {maxMessageSize : Number} {c : Connection}
    (accepting : Accepting maxMessageSize c) {kind : Kind} {fragments : List Fragment}
    (framed : Framed kind fragments)
    (fits : maxMessageSize.below (totalLength fragments : Nat) = false) (start : Nat) {count : Nat}
    (bound : count ≤ fragments.length) :
    let taken := c.takeAll (packetsFrom c.layout start (fragments.take count))
    (∃ progress, taken.1 = c.setInbound kind { c.inbound kind with progress } ∧
      (count ≠ 0 → count ≠ fragments.length →
        progress = some (.awaiting fragments count ((start + count) % c.layout.counterSpace)))) ∧
    received taken.2 =
      if count = fragments.length then [⟨kind, joined fragments⟩] else [] := by
  induction count with
  | zero =>
    have := framed.length_pos
    refine ⟨⟨(c.inbound kind).progress, ?_, fun h => absurd rfl h⟩, ?_⟩
    · exact (setInbound_inbound c kind).symm
    · rw [if_neg (by omega)]
      rfl
  | succ count ih =>
    obtain ⟨⟨progress, taken, held⟩, none⟩ := ih (Nat.le_of_succ_le bound)
    have get := List.getElem?_eq_getElem bound
    have range := Nat.mod_lt (start + count) c.layout.counterSpace_pos
    have kind_eq := framed.kind_eq get
    let holding := c.setInbound kind { c.inbound kind with progress }
    have same : holding.layout = c.layout := layout_setInbound ..
    have next := holding.receive_wire (by rwa [same]) fragments[count]
    have followed := Reassembler.receive_following (r := { c.inbound kind with progress }) framed
      get (by rwa [accepting.layout_eq]) (by rwa [accepting.limit_eq])
      fun begun => held begun (Nat.ne_of_lt bound)
    rw [kind_eq, inbound_setInbound, layout_setInbound, followed.1, followed.2,
      setInbound_setInbound] at next
    rw [packetsFrom, mapIdx_take_succ get, takeAll_snoc, ← packetsFrom, taken]
    dsimp only
    rw [received_append, none, if_neg (Nat.ne_of_lt bound), next.1, next.2, List.nil_append]
    refine ⟨⟨_, rfl, fun _ more => ?_⟩, ?_⟩
    · rw [Reassembler.following, if_neg more, accepting.layout_eq, Nat.mod_add_mod, Nat.add_assoc]
    · split <;> rfl

end Connection

end PacketLink
