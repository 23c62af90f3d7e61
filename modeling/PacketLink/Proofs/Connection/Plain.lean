import PacketLink.Proofs.Connection.Trace

/-!
# Turns that only go ahead

A connection that is neither started, reset nor closed, whose requests nobody cancels, asks for
plain effects only, and its requests are all cut for the packet size that the transport has.
`Turn.Plain` says so of a turn: of a send, of the outcome of a submission and of a packet that
arrives.
-/

namespace PacketLink

/-- Whether an effect is something else than the end of a request that was cancelled. -/
def WriteRequest.Effect.isPlain : WriteRequest.Effect → Bool
  | .settle (.cancelled _) => false
  | _ => true

/-- A turn of a request for packets of at most `maxPacketSize` bytes that does not cancel it. -/
structure WriteRequest.Turn.Plain (maxPacketSize : Number) (turn : WriteRequest.Turn) : Prop where
  isPlain_eq : ∀ effect ∈ turn.effects, effect.isPlain = true
  size_eq : turn.request.maxPacketSize = maxPacketSize

namespace WriteRequest.Turn.Plain

variable {maxPacketSize : Number} {r : WriteRequest}

/-- The next packet is cut for the size of its request. -/
lemma submitNext (size : r.maxPacketSize = maxPacketSize) (counter : Counter) :
    (r.submitNext counter).Plain maxPacketSize := by
  unfold WriteRequest.submitNext
  dsimp only
  split
  · exact ⟨by simp, size⟩
  · split
    · exact ⟨by simp [Effect.isPlain], size⟩
    · exact ⟨by simp [settle, Effect.isPlain], size⟩

/-- A request that is started hands over a packet of its size. -/
lemma start {counter : Counter} {turn : WriteRequest.Turn}
    (size : r.maxPacketSize = maxPacketSize) (started : r.start counter = .ok turn) :
    turn.Plain maxPacketSize := by
  unfold WriteRequest.start at started
  split at started
  · cases started
    have next := submitNext (r := { r with status := .inFlight }) size counter
    exact ⟨List.forall_mem_cons.mpr ⟨rfl, next.isPlain_eq⟩, next.size_eq⟩
  · cases started

/-- An outcome leads at most to another packet of that size. -/
lemma conclude (size : r.maxPacketSize = maxPacketSize) (counter : Counter) (index : Nat)
    (outcome : Outcome) : (r.conclude counter index outcome).Plain maxPacketSize := by
  unfold WriteRequest.conclude
  split
  · cases outcome with
    | rejected fault =>
      dsimp only
      split
      · exact ⟨by simp [settle, Effect.isPlain], size⟩
      · exact ⟨by simp, size⟩
    | accepted =>
      dsimp only
      split
      · exact ⟨by simp [settle, Effect.isPlain], size⟩
      · exact submitNext (r := { r with sentCount := r.sentCount + 1 }) size counter
  · exact ⟨by simp [Effect.isPlain], size⟩

end WriteRequest.Turn.Plain

namespace Connection

/-- Whether an effect neither changes where packets are taken, nor starts anything over, nor ends a
request that was cancelled. -/
def Effect.isPlain : Effect → Bool
  | .subscribe => false
  | .unsubscribe => false
  | .log .reset => false
  | .log .closed => false
  | .resolve _ (.cancelled _) => false
  | _ => true

/-- All requests are for packets of at most `maxPacketSize` bytes. -/
def Sized (maxPacketSize : Number) (c : Connection) : Prop :=
  ∀ r ∈ c.requests, r.maxPacketSize = maxPacketSize

/-- A turn that asks for plain effects only and leaves all requests at one packet size. -/
structure Turn.Plain (maxPacketSize : Number) (turn : Turn) : Prop where
  isPlain_eq : ∀ effect ∈ turn.effects, effect.isPlain = true
  sized : turn.connection.Sized maxPacketSize

namespace Turn.Plain

variable {maxPacketSize : Number} {c : Connection} {k : Nat} {r : WriteRequest}

/-- Doing nothing hands nothing over. -/
lemma stay (sized : c.Sized maxPacketSize) : (stay c).Plain maxPacketSize :=
  ⟨fun _ mem => (by cases mem), sized⟩

/-- Two turns are plain if each of them is. -/
lemma andThen {turn : Turn} {next : Connection → Turn} (plain : turn.Plain maxPacketSize)
    (later : ∀ {c : Connection}, c.Sized maxPacketSize → (next c).Plain maxPacketSize) :
    (turn.andThen next).Plain maxPacketSize := by
  unfold Turn.andThen
  split
  · exact plain
  · have next := later plain.sized
    exact ⟨List.forall_mem_append.mpr ⟨plain.isPlain_eq, next.isPlain_eq⟩, next.sized⟩

/-- What a plain effect of a request leads to is plain. -/
lemma relay {effect : WriteRequest.Effect} (plain : effect.isPlain = true) (k : Nat) :
    ∀ asked ∈ Connection.relay k effect, asked.isPlain = true := by
  cases effect with
  | settle result =>
    cases result with
    | cancelled => cases plain
    | _ => simp [Connection.relay, Effect.isPlain]
  | _ => simp [Connection.relay, Effect.isPlain]

/-- A plain turn of a request is one of its connection. -/
lemma update (sized : c.Sized maxPacketSize) {turn : WriteRequest.Turn}
    (plain : turn.Plain maxPacketSize) (k : Nat) : (update c k turn).Plain maxPacketSize := by
  refine ⟨fun effect mem => ?_, fun r mem => ?_⟩
  · obtain ⟨asked, here, mem⟩ := List.mem_flatMap.mp mem
    exact relay (plain.isPlain_eq asked here) k effect mem
  · obtain mem | rfl := List.mem_or_eq_of_mem_set mem
    · exact sized r mem
    · exact plain.size_eq

/-- Starting the requests of a queue is plain. -/
lemma startFrom (queue : List Nat) (sized : c.Sized maxPacketSize) :
    (startFrom queue c).Plain maxPacketSize := by
  induction queue generalizing c with
  | nil => exact stay sized
  | cons k queue ih =>
    unfold Connection.startFrom
    split
    · exact stay sized
    · split
      · exact ih sized
      · rename_i request get
        split
        · exact ih sized
        · split
          · rename_i turn started
            have plain : turn.Plain maxPacketSize :=
              .start (sized request (List.mem_of_getElem? get)) started
            have begun := update (c := { c with queue }) sized plain k
            dsimp only
            split
            · exact begun.andThen ih
            · exact begun.andThen fun {c} sized => stay (c := { c with active := some k }) sized
          · exact ⟨fun _ mem => (by cases mem), sized⟩

/-- A plain turn of a request leads to plain ones behind it. -/
lemma advance (sized : c.Sized maxPacketSize) {turn : WriteRequest.Turn}
    (plain : turn.Plain maxPacketSize) (k : Nat) : (advance c k turn).Plain maxPacketSize := by
  unfold Connection.advance
  dsimp only
  split
  · refine (update sized plain k).andThen fun {c} sized => startFrom _ ?_
    exact fun r mem => sized r (requests_vacate c k ▸ mem)
  · exact update sized plain k

/-- An outcome of a submission leads to a plain turn. -/
lemma conclude (sized : c.Sized maxPacketSize) (k index : Nat) (outcome : Outcome) :
    (c.conclude k index outcome).Plain maxPacketSize := by
  unfold Connection.conclude
  split
  · rename_i request get
    have plain : (request.conclude c.counter index outcome).Plain maxPacketSize :=
      .conclude (sized request (List.mem_of_getElem? get)) ..
    dsimp only
    split
    · exact update sized plain k
    · exact advance sized plain k
  · exact stay sized

/-- A message that is sent without an aborted signal. -/
lemma send (sized : c.Sized maxPacketSize) {id : Nat} {message : Message} {signal : Option String}
    {turn : Turn} (sent : c.send id maxPacketSize message signal false = .ok turn) :
    turn.Plain maxPacketSize := by
  unfold Connection.send at sent
  split at sent
  · cases sent
  · split at sent
    · rename_i request created
      cases sent
      obtain ⟨size, _, same⟩ := WriteRequest.create_eq created
      refine andThen (stay fun r mem => ?_) fun sized => startFrom _ sized
      obtain mem | mem := List.mem_append.mp mem
      · exact sized r mem
      · rw [List.mem_singleton.mp mem, same]
    · cases sent

/-- A packet that arrives. -/
lemma receive (sized : c.Sized maxPacketSize) (bytes : Bytes) :
    (c.receive bytes).1.Plain maxPacketSize := by
  have emits (kind : Kind) (outcome : Reception) :
      ∀ effect ∈ announce kind outcome, effect.isPlain = true := by
    cases outcome with
    | error error data => cases data <;> simp [announce, report, Effect.isPlain]
    | _ => simp [announce, Effect.isPlain]
  refine ⟨?_, ?_⟩
  · unfold Connection.receive
    split
    · exact List.forall_mem_cons.mpr ⟨rfl, emits _ _⟩
    · simp [ask, report, Effect.isPlain]
  · rw [connection_receive]
    exact sized

end Turn.Plain

end Connection

end PacketLink
