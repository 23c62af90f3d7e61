import PacketLink.Proofs.Network.Exchange

/-!
# Links that lose nothing

On a link that carries both ways each connection emits the messages of the other one in the order
of sending, and no framing error, however the endpoints hold and release the packets. Once nothing
is left to do and nothing is held, every message has arrived and every request is completed
(`Duplex.lossless`).
-/

namespace PacketLink

open Connection (Path answers called calls events handedOver_of_inFlight packets wholePackets)

namespace Message

/-- The event of a message gives the message back. -/
@[simp] lemma received?_delivery (message : Message) :
    message.delivery.received? = some message := by
  obtain ⟨_ | _, _⟩ := message <;> rfl

/-- The events of messages give the messages back, in order. -/
lemma filterMap_received?_delivery (messages : List Message) :
    (messages.map delivery).filterMap Event.received? = messages := by
  simp [List.filterMap_map]

/-- No message is delivered by a framing error. -/
lemma delivery_ne_framingError (message : Message) (kind : Option Kind) (error : FramingError) :
    message.delivery ≠ .framingError kind error := by
  obtain ⟨_ | _, _⟩ := message <;> exact Event.noConfusion

end Message

/-- Messages are delivered by events about what a connection takes. -/
lemma filterMap_received?_filter (events : List Event) :
    (events.filter Event.isInbound).filterMap Event.received? =
      events.filterMap Event.received? := by
  rw [List.filterMap_filter]
  refine List.filterMap_congr fun event _ => ?_
  cases event <;> rfl

namespace Connection.Steady

variable {layout : Layout} {inputs : List Connection.Input} {trace : List Connection.Effect}
  {c : Connection}

/-- A connection that has heard the outcomes of all its packets, and no rejection, has a free
slot. -/
lemma active_eq_none (steady : c.Steady layout inputs trace) (unhindered : Unhindered inputs trace)
    (answered : called trace ⊆ answers inputs) : c.active = none := by
  obtain ⟨_, _, path⟩ := steady.path
  obtain ⟨start, shape⟩ := path.shape
  cases active : c.active with
  | none => rfl
  | some k =>
    -- the request in the slot waits for the packet behind those that were accepted
    obtain ⟨r, get, flying⟩ := steady.wellFormed.inFlight_of_active active
    have handed : (k, r.sentCount) ∈ called trace := by
      rw [shape.mem_called get, handedOver_of_inFlight flying]
      exact Nat.lt_succ_self _
    obtain ⟨s, get', counts⟩ := steady.heard k r.sentCount (answered handed)
    obtain rfl := Option.some.inj (get.symm.trans get')
    obtain lt | settled | ⟨fault, rejected, _⟩ := counts
    · exact absurd lt (Nat.lt_irrefl _)
    · cases (r.isSettled_eq flying).symm.trans settled
    · cases unhindered.accepted _ rejected

/-- With a free slot every request is completed, with as many packets as its message needs. -/
lemma completed (steady : c.Steady layout inputs trace) (unhindered : Unhindered inputs trace)
    {maxPacketSize : Number} (sized : c.Sized maxPacketSize) (free : c.active = none)
    {r : WriteRequest} (mem : r ∈ c.requests) :
    ∃ size, layout.chunkSize maxPacketSize = .ok size ∧
      r.status = .settled (.completed (size.packetCount r.message.payload.length)) := by
  obtain ⟨_, _, path⟩ := steady.path
  obtain ⟨k, get⟩ := List.mem_iff_getElem?.mp mem
  have settled : r.isSettled = true :=
    steady.wellFormed.isSettled get (by simp [free]) (by simp [steady.atRest free])
  obtain ⟨size, sent, chunk, _, fragments⟩ := (steady.wellFormed.valid get).cut
  have layout_eq : c.layout = layout := path.layout_eq
  rw [layout_eq, sized r mem] at chunk
  refine ⟨size, chunk, ?_⟩
  cases status : r.status with
  | settled result =>
    have count : r.fragments.length = size.packetCount r.message.payload.length := by
      rw [WriteRequest.message, fragments, Message.joined_fragments, Message.length_fragments]
    rw [(path.going_taking unhindered).1.completed get status, count]
  | _ => cases (r.isSettled_eq status).symm.trans settled

/-- A connection that takes a first part of the packets of some requests emits the first of their
messages, and all of them when it takes all packets. -/
lemma inbound_of_packets (steady : c.Steady layout inputs trace)
    (unhindered : Unhindered inputs trace) {maxMessageSize : Number}
    (limit : ∀ kind, (c.inbound kind).maxMessageSize = maxMessageSize)
    {requests : List WriteRequest}
    (valid : ∀ {k : Nat} {r : WriteRequest}, requests[k]? = some r → r.Valid layout)
    (fits : ∀ {k : Nat} {r : WriteRequest}, requests[k]? = some r →
      maxMessageSize.below (totalLength r.fragments : Nat) = false) {start : Nat → Nat}
    (first : packets inputs <+: wholePackets layout start requests) :
    (events trace).filter Event.isInbound <+: requests.map (·.message.delivery) ∧
      (packets inputs = wholePackets layout start requests →
        (events trace).filter Event.isInbound = requests.map (·.message.delivery)) := by
  obtain ⟨maxPacketCount, maxMessageSize', path⟩ := steady.path
  have taking := (path.going_taking unhindered).2
  obtain rfl : maxMessageSize' = maxMessageSize :=
    (path.maxMessageSize_eq .data).symm.trans (limit .data)
  have idle : (Connection.new layout maxPacketCount maxMessageSize').Idle maxMessageSize' :=
    ⟨⟨fun kind => by cases kind <;> rfl, fun kind => by cases kind <;> rfl⟩,
      fun kind => by cases kind <;> rfl⟩
  rw [taking.events_eq]
  refine ⟨?_, fun all => ?_⟩
  · obtain ⟨m, taken⟩ := idle.takeAll_of_prefix valid fits start first
    rw [taken, List.map_take]
    exact List.take_prefix ..
  · have taken := (idle.takeAll_requests valid fits start requests.length).2
    rw [List.take_length] at taken
    rw [all]
    exact taken

end Connection.Steady

namespace Network.Carries

variable {d : Duplex} {n : Network} {side : Side} {x : Node}

section Direction

variable (carries : Carries d n) (sound : Sound (fun _ => d.layout) [] n)
  (get : n.nodes[side.place]? = some x)
include carries sound get

/-- What a connection emits about what it takes is, or is to be, the first of the messages of the
other one, and all of them once these have all been delivered. -/
lemma inbound_isPrefix
    (fits : ∀ message ∈ n.sentAt side.place,
      (d.limits side.other).maxMessageSize.below (message.payload.length : Nat) = false) :
    (events (n.asked side.other.place)).filter Event.isInbound <+:
        (n.sentAt side.place).map Message.delivery ∧
      (x.connection.active = none → n.waiting side.place = [] →
        (events (n.asked side.other.place)).filter Event.isInbound =
          (n.sentAt side.place).map Message.delivery) := by
  obtain ⟨y, getOther, isNode⟩ := (carries.lane side.other).node
  have steady := sound.steady get
  obtain ⟨_, _, path⟩ := steady.path
  obtain ⟨start, shape⟩ := path.shape
  have layout : x.connection.layout = d.layout := path.layout_eq
  have messages : x.connection.requests.map (·.message) = n.sentAt side.place := path.messages_eq
  have valid {k : Nat} {r : WriteRequest} (get : x.connection.requests[k]? = some r) :
      r.Valid d.layout := layout ▸ steady.wellFormed.valid get
  have room {k : Nat} {r : WriteRequest} (get : x.connection.requests[k]? = some r) :
      (d.limits side.other).maxMessageSize.below (totalLength r.fragments : Nat) = false := by
    have mem : r.message ∈ n.sentAt side.place :=
      messages ▸ List.mem_map_of_mem (List.mem_of_getElem? get)
    simpa [WriteRequest.message] using fits _ mem
  obtain ⟨first, all⟩ := shape.packets_prefix steady.wellFormed steady.atRest
    (path.going_taking (carries.lane side).unhindered).1
  rw [layout] at first all
  -- the packets that arrived and those that wait are the ones handed over
  have flow : packets (n.inputs side.other.place) ++ (n.waiting side.place).map (·.data) =
      (calls (n.asked side.place)).map (·.packet) := by
    rw [(carries.lane side).taken, ← List.map_append, (carries.lane side).flow, submissions,
      List.map_map]
    rfl
  have inbound := (sound.steady getOther).inbound_of_packets (carries.lane side.other).unhindered
    isNode.limit_eq valid room (((flow ▸ List.prefix_append ..) :).trans first)
  have same : x.connection.requests.map (·.message.delivery) =
      (n.sentAt side.place).map Message.delivery := by rw [← messages, List.map_map]; rfl
  rw [same] at inbound
  refine ⟨inbound.1, fun free gone => inbound.2 ?_⟩
  rw [gone, List.map_nil, List.append_nil] at flow
  rw [flow, all free]

/-- When nothing is left to do and nothing is held, all packets were delivered and the connection
has heard of it. -/
lemma atRest (rest : n.tasks = []) (released : ∀ side : Side, n.held side.place = []) :
    x.connection.active = none ∧ n.waiting side.place = [] := by
  have waiting (side : Side) : n.waiting side.place = [] := by
    have delivers := (carries.lane side).delivers
    rw [due, rest] at delivers
    rw [waiting, released, List.append_nil]
    exact List.eq_nil_of_length_eq_zero delivers.symm
  refine ⟨(sound.steady get).active_eq_none (carries.lane side).unhindered fun call mem => ?_,
    waiting side⟩
  have balanced := sound.balanced (carries.length_nodes.symm ▸ side.place_lt)
  -- nobody is left to hear of an outcome
  have empty (s : Station) (mem : s ∈ n.stations) : s.senders = [] := by
    obtain ⟨i, get⟩ := List.mem_iff_getElem?.mp mem
    obtain ⟨side, rfl⟩ := Side.exists_place
      (carries.length_stations ▸ (List.getElem?_eq_some_iff.mp get).1)
    have gone := waiting side
    rw [Network.waiting, awaiting_of_get get, held_of_get get, List.append_eq_nil_iff] at gone
    rw [Station.senders, gone.1, gone.2]
    rfl
  have senders : n.senders = [] := by
    rw [Network.senders, List.flatMap_eq_nil_iff.mpr empty, rest]
    rfl
  rw [senders] at balanced
  simpa using balanced.subset mem

end Direction

end Network.Carries

open Network

/-- However sends, holds, releases and turns of the loop follow each other on a link that loses
nothing, no connection ever emits a framing error, and each one emits messages of the other one in
the order of sending. Once nothing is left to do and nothing is held, every message has arrived and
every request is completed with the number of packets that its message takes. -/
theorem Duplex.lossless (d : Duplex) (steps : List DuplexStep)
    (fits : ∀ side : Side, ∀ message ∈ (d.run steps).sentAt side.place,
      (d.limits side.other).maxMessageSize.below (message.payload.length : Nat) = false) :
    let n := d.run steps
    (∀ (side : Side) (kind : Option Kind) (error : FramingError),
        .framingError kind error ∉ n.emitted side.place) ∧
      (∀ side : Side, n.receivedAt side.other.place <+: n.sentAt side.place) ∧
      (n.tasks = [] → (∀ side : Side, n.held side.place = []) → ∀ side : Side,
        n.receivedAt side.other.place = n.sentAt side.place ∧
          (n.requestsAt side.place).map (·.message) = n.sentAt side.place ∧
          ∀ r ∈ n.requestsAt side.place, ∃ size count,
            d.layout.chunkSize d.maxPacketSize = .ok size ∧
              r.status = .settled (.completed count) ∧
              count = size.packetCount r.message.payload.length ∧
              (r.message.payload.length < Binary64.exactLimit →
                size.countPackets (r.message.payload.length : Nat) = (count : Nat))) := by
  intro n
  obtain ⟨carries, sound⟩ : Carries d n ∧ Sound (fun _ => d.layout) [] n := Carries.run d steps
  have emitted (side : Side) : n.emitted side.place <+: events (n.asked side.place) :=
    (carries.lane side).emits ▸ List.prefix_append ..
  have first (side : Side) : (n.emitted side.other.place).filter Event.isInbound <+:
      (n.sentAt side.place).map Message.delivery := by
    obtain ⟨x, get, _⟩ := (carries.lane side).node
    exact ((emitted side.other).filter _).trans
      (carries.inbound_isPrefix sound get (fits side)).1
  have received (side : Side) : n.receivedAt side.place =
      ((n.emitted side.place).filter Event.isInbound).filterMap Event.received? :=
    (filterMap_received?_filter _).symm
  refine ⟨fun side kind error mem => ?_, fun side => ?_, fun rest released side => ?_⟩
  · have first := first side.other
    rw [Side.other_other] at first
    obtain ⟨message, _, same⟩ :=
      List.mem_map.mp (first.subset (List.mem_filter.mpr ⟨mem, rfl⟩))
    exact message.delivery_ne_framingError kind error same
  · rw [received, ← Message.filterMap_received?_delivery (n.sentAt side.place)]
    exact (first side).filterMap _
  · obtain ⟨x, get, isNode⟩ := (carries.lane side).node
    obtain ⟨free, gone⟩ := carries.atRest sound get rest released
    obtain ⟨_, _, path⟩ := (sound.steady get).path
    rw [requestsAt_of_get get]
    refine ⟨?_, path.messages_eq, fun r mem => ?_⟩
    · have all : n.emitted side.other.place = events (n.asked side.other.place) := by
        have emits := (carries.lane side.other).emits
        rwa [upcoming, rest, List.filterMap_nil, List.append_nil] at emits
      have inbound := (carries.inbound_isPrefix sound get (fits side)).2 free gone
      rw [received, all, inbound, Message.filterMap_received?_delivery]
    · obtain ⟨size, chunk, completed⟩ :=
        (sound.steady get).completed (carries.lane side).unhindered isNode.sized free mem
      exact ⟨size, _, chunk, completed, rfl, size.countPackets_ofNat⟩

/-- Each end holds a packet of a message that the other one waits for, and lets it go while further
messages are sent: all of them arrive, an empty one among them. -/
theorem Duplex.lossless_crossing :
    let d : Duplex := ⟨Setting.narrow.layout, 2, fun _ => ⟨100, 100⟩⟩
    let steps : List DuplexStep :=
      [.hold .near, .send .near "first" none (.inl ⟨.data, [1, 2, 3]⟩),
        .send .far "second" none (.inl ⟨.control, [4, 5]⟩), .hold .far, .turn, .turn, .turn,
        .release .near, .turn, .send .near "third" (some "stop") (.inl ⟨.control, []⟩), .turn,
        .resume .near, .turn, .resume .far] ++
      List.replicate 24 .turn
    let n := d.run steps
    (∀ side : Side, ∀ message ∈ n.sentAt side.place,
        (d.limits side.other).maxMessageSize.below (message.payload.length : Nat) = false) ∧
      n.tasks = [] ∧ (∀ side : Side, n.held side.place = []) ∧
      (∀ side : Side, n.receivedAt side.other.place = n.sentAt side.place) ∧
      n.receivedAt 1 = [⟨.data, [1, 2, 3]⟩, ⟨.control, []⟩] ∧
      n.receivedAt 0 = [⟨.control, [4, 5]⟩] := by
  intro d steps n
  have fits (side : Side) : ∀ message ∈ n.sentAt side.place,
      (d.limits side.other).maxMessageSize.below (message.payload.length : Nat) = false := by
    cases side <;> decide +kernel
  have rest : n.tasks = [] := List.eq_nil_of_length_eq_zero (by decide +kernel)
  have released (side : Side) : n.held side.place = [] := by
    cases side <;> exact List.eq_nil_of_length_eq_zero (by decide +kernel)
  have arrived := (d.lossless steps fits).2.2 rest released
  exact ⟨fits, rest, released, fun side => (arrived side).1, by decide +kernel, by decide +kernel⟩

end PacketLink
