import PacketLink.Proofs.Connection.Flight
import PacketLink.Proofs.Network.Books

/-!
# Connections in a network

In a network in which nothing but connections and endpoints acts, every connection runs as a path of
moves, from what it was told to what it asked for. `Sound` says so, with the books of the network,
and every operation of the network and every turn of the loop keeps it. A connection is told only
outcomes of packets that it has handed over, each of them once, which is what its moves need.
-/

namespace PacketLink

open Connection (Input Path Turn.Carried calls called answers)

/-- A connection for packets of `layout` that got where it is by moves and has come to rest. -/
structure Connection.Steady (layout : Layout) (inputs : List Input)
    (trace : List Connection.Effect) (c : Connection) : Prop where
  atRest : c.AtRest
  path : ∃ maxPacketCount maxMessageSize,
    Path (.new layout maxPacketCount maxMessageSize) inputs trace c
  heard : Connection.Heard c inputs

namespace Connection.Steady

variable {layout : Layout} {inputs later : List Input} {trace : List Connection.Effect}
  {c : Connection}

/-- A connection that is steady is well-formed. -/
lemma wellFormed (steady : c.Steady layout inputs trace) : c.WellFormed := by
  obtain ⟨_, _, path⟩ := steady.path
  exact path.wellFormed (Connection.wellFormed_new _ _ _)

/-- A turn that hears only answers for packets that were handed over. -/
lemma carried (steady : c.Steady layout inputs trace) {turn : Connection.Turn}
    (carried : Turn.Carried c later turn) (awaited : answers later ⊆ called trace) :
    turn.connection.Steady layout (inputs ++ later) (trace ++ turn.effects) := by
  obtain ⟨maxPacketCount, maxMessageSize, path⟩ := steady.path
  obtain ⟨start, shape⟩ := path.shape
  exact ⟨carried.atRest, ⟨maxPacketCount, maxMessageSize, path.trans carried.path⟩,
    steady.heard.path carried.path fun mem => shape.started_of_called (awaited mem)⟩

end Connection.Steady

namespace Network

variable {layouts : Nat → Layout} {n n' : Network} {node : Nat} {x : Node}
  {loose loose' : List Sender}

/-! ## Turns of connections -/

section SettleTurn

/-- What holds after the connection is put in its place and is kept by every effect, behind those
that were carried out before it, holds after the turn. -/
lemma settleTurn_prefix_induction (n : Network) (node : Nat) (turn : Connection.Turn)
    {motive : List Connection.Effect → Network → Prop}
    (start : motive [] (n.setConnection node turn.connection))
    (step : ∀ {done effect n}, done ++ [effect] <+: turn.effects → motive done n →
      motive (done ++ [effect]) (perform node n effect)) :
    motive turn.effects (n.settleTurn node turn) := by
  have fold (effects done : List Connection.Effect) (n : Network)
      (split : done ++ effects = turn.effects) (h : motive done n) :
      motive (done ++ effects) (effects.foldl (perform node) n) := by
    induction effects generalizing done n with
    | nil => simpa using h
    | cons effect effects ih =>
      have split' : (done ++ [effect]) ++ effects = turn.effects := by simpa using split
      have later := ih (done ++ [effect]) _ split' (step ⟨effects, split'⟩ h)
      rwa [List.append_assoc] at later
  exact fold turn.effects [] _ rfl start

/-- What holds after the connection is put in its place and is kept by every effect holds after the
turn. -/
lemma settleTurn_induction (n : Network) (node : Nat) (turn : Connection.Turn)
    {motive : List Connection.Effect → Network → Prop}
    (start : motive [] (n.setConnection node turn.connection))
    (step : ∀ {done effect n}, effect ∈ turn.effects → motive done n →
      motive (done ++ [effect]) (perform node n effect)) :
    motive turn.effects (n.settleTurn node turn) :=
  settleTurn_prefix_induction n node turn start fun first =>
    step (first.subset (List.mem_append_right _ (List.mem_singleton_self _)))

/-- A connection is put in the place of another one, and only there. -/
lemma getElem?_setConnection (get : n.nodes[node]? = some x) (connection : Connection)
    (other : Nat) :
    (n.setConnection node connection).nodes[other]? =
      if node = other then some { x with connection } else n.nodes[other]? := by
  simp only [setConnection, modifyNode, List.getElem?_modify]
  split
  · rename_i same
    simp [← same, get]
  · simp

/-- The effects of a turn change no connection. -/
lemma nodes_settleTurn (turn : Connection.Turn) :
    (n.settleTurn node turn).nodes = (n.setConnection node turn.connection).nodes :=
  settleTurn_induction n node turn
    (motive := fun _ n' => n'.nodes = (n.setConnection node turn.connection).nodes) rfl
    fun _ same => (nodes_perform _).trans same

/-- A turn is noticed as its effects, with at most some records. -/
lemma lookBack_settleTurn {α : Type} {f : Observation → Option α}
    (unlogged : ∀ path record, f (.logged path record) = none) (get : n.nodes[node]? = some x)
    (turn : Connection.Turn) :
    (n.settleTurn node turn).lookBack f =
      n.lookBack f ++ turn.effects.filterMap fun effect => f (.asked node effect) := by
  have both := settleTurn_induction n node turn
    (motive := fun done n' => n'.nodes[node]? = some { x with connection := turn.connection } ∧
      n'.lookBack f = n.lookBack f ++ done.filterMap fun effect => f (.asked node effect))
    ⟨(getElem?_setConnection get ..).trans (if_pos rfl), (List.append_nil _).symm⟩
    fun {done effect n'} _ ⟨get', same⟩ => ⟨by rwa [nodes_perform], by
      rw [lookBack_perform unlogged get', same, List.filterMap_append, List.append_assoc]
      cases h : f (.asked node effect) <;> simp [h]⟩
  exact both.2

/-- Nobody tells a connection anything during a turn. -/
lemma inputs_settleTurn (get : n.nodes[node]? = some x) (turn : Connection.Turn) (other : Nat) :
    (n.settleTurn node turn).inputs other = n.inputs other := by
  rw [inputs, lookBack_settleTurn (fun _ _ => rfl) get]
  simp [Observation.input?, inputs]

/-- What a connection asked for goes on with the effects of its turn. -/
lemma asked_settleTurn (get : n.nodes[node]? = some x) (turn : Connection.Turn) (other : Nat) :
    (n.settleTurn node turn).asked other =
      n.asked other ++ if node = other then turn.effects else [] := by
  rw [asked, lookBack_settleTurn (fun _ _ => rfl) get, asked]
  by_cases same : node = other <;> simp [Observation.asked?, same]

/-- A turn keeps to the frame. -/
lemma Frame.settleTurn (n : Network) (node : Nat) (turn : Connection.Turn) :
    Frame n (n.settleTurn node turn) :=
  settleTurn_induction n node turn (motive := fun _ n' => Frame n n')
    (.modifyNode n node fun _ => rfl) fun _ frame => frame.trans (.perform ..)

/-- A turn keeps the books. -/
lemma Booked.settleTurn (booked : Booked loose n) (get : n.nodes[node]? = some x)
    (turn : Connection.Turn) : Booked loose (n.settleTurn node turn) := by
  have both := settleTurn_induction n node turn
    (motive := fun _ n' => n'.nodes[node]? = some { x with connection := turn.connection } ∧
      Booked loose n')
    ⟨(getElem?_setConnection get ..).trans (if_pos rfl),
      booked.of_senders (.modifyNode n node fun _ => rfl) (fun _ => rfl) (fun _ => rfl)
        fun _ => .refl _⟩
    fun {done effect n'} _ ⟨get', booked'⟩ =>
      ⟨by rwa [nodes_perform], booked'.perform get' effect⟩
  exact both.2

end SettleTurn

/-- Without errands nothing happens. -/
@[simp] lemma finish_nil (n : Network) : n.finish [] = n := by
  unfold finish runAll
  rfl

/-- Cancelling a request of a connection is a turn of it. -/
lemma cancelRequest_eq (get : n.nodes[node]? = some x) (k : Nat) :
    (n.cancelRequest (.node node k)).1 = n.settleTurn node (x.connection.cancel k).1 := by
  simp only [cancelRequest, cancelOwned, get]
  split <;> exact finish_nil _

/-- Where there is no connection there is nothing to cancel. -/
lemma cancelRequest_of_none (missing : n.nodes[node]? = none) (k : Nat) :
    (n.cancelRequest (.node node k)).1 = n := by
  simp [cancelRequest, cancelOwned, missing]

/-- The packet size limit of the transport of a node. -/
def maxPacketSizeAt (n : Network) (x : Node) : Number :=
  (n.stations[x.station]?.map (·.endpoint.maxPacketSize)).getD .nan

/-- What becomes of the connection at a node when something is sent on it. -/
def sendAt (n : Network) (x : Node) (signal : Option String) (content : Message ⊕ ControlMessage) :
    Except SendError Connection.Turn :=
  x.connection.sendContent (n.requestCount + 1) (n.maxPacketSizeAt x) content signal
    (signal.any n.aborted.contains)

/-- What is sent is a turn of the connection, unless it is refused. -/
lemma send_cases (get : n.nodes[node]? = some x) (name : String) (signal : Option String)
    (content : Message ⊕ ControlMessage) :
    (n.send node name signal content).1 = n ∨
      ∃ requestCount handles turn, n.sendAt x signal content = .ok turn ∧
        (n.send node name signal content).1 =
          ({ n with requestCount, handles }.observe (.sent node content)).settleTurn node turn := by
  simp only [send, get]
  split
  · exact .inl rfl
  · rename_i turn sent
    let place := x.connection.requests.length
    refine .inr ⟨n.requestCount + 1, n.handles ++ [Handle.mk name (.node node place)], turn, sent,
      ?_⟩
    split <;> rfl

/-! ## Sound networks -/

/-- A network whose books are right and whose connections all run as paths of moves. -/
structure Sound (layouts : Nat → Layout) (loose : List Sender) (n : Network) : Prop
    extends Booked loose n where
  steady : ∀ {node : Nat} {x : Node}, n.nodes[node]? = some x →
    x.connection.Steady (layouts node) (n.inputs node) (n.asked node)

namespace Sound

/-- A change that leaves the connections and the history alone. -/
lemma of_senders (sound : Sound layouts loose n) (frame : Frame n n')
    (history : n'.history = n.history)
    (nodes : ∀ {node : Nat} {x' : Node}, n'.nodes[node]? = some x' →
      ∃ x, n.nodes[node]? = some x ∧ x'.connection = x.connection)
    (senders : ∀ node, ((loose' ++ n'.senders).filterMap (Sender.packet? node)).Perm
      ((loose ++ n.senders).filterMap (Sender.packet? node))) : Sound layouts loose' n' := by
  have asked (node : Nat) : n'.asked node = n.asked node := by
    rw [asked, lookBack, history, asked, lookBack]
  have inputs (node : Nat) : n'.inputs node = n.inputs node := by
    rw [inputs, lookBack, history, inputs, lookBack]
  refine ⟨sound.toBooked.of_senders frame (fun _ => by rw [asked]) (fun _ => by rw [inputs])
    senders, fun {node x'} get => ?_⟩
  obtain ⟨x, get, same⟩ := nodes get
  rw [asked, inputs, same]
  exact sound.steady get

/-- A connection carries out a turn, after it was told something. -/
lemma settleTurn (sound : Sound layouts loose n) (get : n.nodes[node]? = some x)
    {turn : Connection.Turn}
    {later : List Input} (carried : Turn.Carried x.connection later turn)
    (awaited : answers later ⊆ called (n.asked node)) (booked : Booked loose' n')
    (nodes : n'.nodes = n.nodes) (asked : ∀ node, n'.asked node = n.asked node)
    (inputs : ∀ other, n'.inputs other = n.inputs other ++ if node = other then later else []) :
    Sound layouts loose' (n'.settleTurn node turn) := by
  have get' : n'.nodes[node]? = some x := nodes ▸ get
  refine ⟨booked.settleTurn get' turn, fun {other x'} getOther => ?_⟩
  rw [nodes_settleTurn, getElem?_setConnection get'] at getOther
  rw [asked_settleTurn get', inputs_settleTurn get', asked, inputs]
  split at getOther
  · rename_i same
    cases getOther
    subst same
    simpa using (sound.steady get).carried carried awaited
  · rename_i apart
    rw [nodes] at getOther
    simpa [apart] using sound.steady getOther

/-- A connection carries out a turn that nobody told it anything for. -/
lemma settleTurn_silent (sound : Sound layouts loose n) (get : n.nodes[node]? = some x)
    {turn : Connection.Turn} (carried : Turn.Carried x.connection [] turn) :
    Sound layouts loose (n.settleTurn node turn) :=
  sound.settleTurn get carried (List.nil_subset _) sound.toBooked rfl (fun _ => rfl)
    fun _ => by simp

/-- A connection takes a packet. -/
lemma take (sound : Sound layouts loose n) (get : n.nodes[node]? = some x) (data : Bytes) :
    Sound layouts loose
      ((n.observe (.taken node data)).settleTurn node (x.connection.receive data).1) := by
  refine sound.settleTurn get (Connection.receive_carried (sound.steady get).1 data)
    (List.nil_subset _) (sound.toBooked.observe (fun _ => rfl) fun other input mem => ?_) rfl
    (fun _ => ?_) fun other => ?_
  · rw [Observation.eq_packet_of_taken mem]
    rfl
  · simp [Observation.asked?]
  · rw [inputs_observe, Observation.input?]
    split <;> rfl

/-- A connection hears an outcome that it waits for. -/
lemma answer {k index : Nat} (sound : Sound layouts (.request node k index :: loose) n)
    (get : n.nodes[node]? = some x) (outcome : Outcome) :
    Sound layouts loose ((n.observe (.answered node k index outcome)).settleTurn node
      (x.connection.conclude k index outcome)) := by
  have steady := sound.steady get
  have waits : (called (n.asked node)).Perm (answers (n.inputs node) ++
      (k, index) :: (loose ++ n.senders).filterMap (Sender.packet? node)) := by
    simpa [Sender.packet?] using sound.balanced (List.getElem?_eq_some_iff.mp get).1
  obtain ⟨r, request, due⟩ :
      ∃ r, x.connection.requests[k]? = some r ∧ (r.status = .inFlight → index = r.sentCount) := by
    -- no packet is handed over twice, so this one was not answered before
    obtain ⟨_, _, path⟩ := steady.path
    obtain ⟨start, shape⟩ := path.shape
    refine path.due (waits.mem_iff.mpr (by simp)) fun heard => ?_
    have once := (waits.nodup_iff.mp shape.nodup_called)
    exact (List.nodup_append.mp once).2.2 _ heard _ (List.mem_cons_self ..) rfl
  refine sound.settleTurn get
    (Connection.conclude_carried steady.wellFormed steady.1 request due outcome)
    (fun _ mem => ?_) (sound.toBooked.of_frame (.observe ..) fun {other} bound => ?_) rfl
    (fun _ => ?_) fun other => ?_
  · cases List.mem_singleton.mp mem
    exact waits.mem_iff.mpr (by simp)
  · have balanced := sound.balanced bound
    rw [asked_observe, inputs_observe, senders_observe]
    by_cases here : node = other
    · subst here
      simpa [Observation.asked?, Observation.input?, answers, Connection.Input.answer?] using waits
    · simpa [Observation.asked?, Observation.input?, Sender.packet?, here] using balanced
  · simp [Observation.asked?]
  · rw [inputs_observe, Observation.input?]
    split <;> rfl

/-! ### Operations on connections -/

/-- A connection that begins to listen leaves the network sound. -/
lemma startNode (sound : Sound layouts loose n) (node : Nat) :
    Sound layouts loose (n.startNode node).1 := by
  unfold Network.startNode
  split
  · rename_i x get
    split
    · exact sound.settleTurn_silent get (Connection.start_carried (sound.steady get).1 ‹_›)
    · exact sound
  · exact sound

/-- A connection that is closed leaves the network sound. -/
lemma closeNode (sound : Sound layouts loose n) (node : Nat) :
    Sound layouts loose (n.closeNode node) := by
  unfold Network.closeNode
  split
  · rename_i x get
    have steady := sound.steady get
    exact sound.settleTurn_silent get (Connection.close_carried steady.wellFormed steady.1)
  · exact sound

/-- A connection that is reset leaves the network sound. -/
lemma resetNode (sound : Sound layouts loose n) (node : Nat) :
    Sound layouts loose (n.resetNode node) := by
  unfold Network.resetNode
  split
  · rename_i x get
    exact sound.settleTurn_silent get (Connection.reset_carried (sound.steady get).wellFormed)
  · exact sound

/-- A request that is cancelled leaves the network sound. -/
lemma cancelRequest (sound : Sound layouts loose n) (node k : Nat) :
    Sound layouts loose (n.cancelRequest (.node node k)).1 := by
  cases get : n.nodes[node]? with
  | none =>
    rw [cancelRequest_of_none get]
    exact sound
  | some x =>
    have steady := sound.steady get
    rw [cancelRequest_eq get]
    exact sound.settleTurn_silent get (Connection.cancel_carried steady.wellFormed steady.1 k)

/-- A signal that is aborted leaves the network sound. -/
lemma abort (sound : Sound layouts loose n) (signal : String) :
    Sound layouts loose (n.abort signal) := by
  have each (handles : List Handle) {n : Network} (sound : Sound layouts loose n) :
      Sound layouts loose (handles.foldl (abortOne signal) n) := by
    induction handles generalizing n with
    | nil => exact sound
    | cons handle handles ih =>
      refine ih ?_
      unfold abortOne
      cases handle.owner with
      | bench bench => simpa [request?, sound.benches_eq] using sound
      | node node k =>
        split
        · split
          · exact sound.cancelRequest node k
          · exact sound
        · exact sound
  exact each n.handles
    (sound.of_senders ⟨rfl, rfl, rfl, rfl, rfl, rfl⟩ rfl (fun get => ⟨_, get, rfl⟩)
      fun _ => .refl _)

/-- A message that is sent leaves the network sound, also when it is refused. -/
lemma send (sound : Sound layouts loose n) (node : Nat) (name : String) (signal : Option String)
    (content : Message ⊕ ControlMessage) :
    Sound layouts loose (n.send node name signal content).1 := by
  cases get : n.nodes[node]? with
  | none => simpa [Network.send, get] using sound
  | some x =>
    have steady := sound.steady get
    obtain same | ⟨requestCount, handles, turn, sent, same⟩ :=
      send_cases get name signal content <;> rw [same]
    · exact sound
    · have carried : Turn.Carried x.connection
          ((Connection.messageOf? content).toList.map .send) turn :=
        Connection.sendContent_carried steady.wellFormed steady.1 sent
      have asked (other : Nat) :
          ({ n with requestCount, handles }.observe (.sent node content)).asked other =
            n.asked other := lookBack_unseen _ rfl
      have told (other : Nat) :
          ({ n with requestCount, handles }.observe (.sent node content)).inputs other =
            n.inputs other ++ if node = other then
              (Connection.messageOf? content).toList.map .send else [] := by
        refine (inputs_observe ..).trans ?_
        rw [Observation.input?]
        split
        · cases Connection.messageOf? content <;> rfl
        · rfl
      refine sound.settleTurn get carried (by
          cases Connection.messageOf? content <;> exact List.nil_subset _)
        (sound.toBooked.of_senders ⟨rfl, rfl, rfl, rfl, rfl, rfl⟩ (fun other => by rw [asked])
          (fun other => answers_observe _ _ _ fun input mem => ?_) fun _ => .refl _) rfl asked told
      obtain ⟨_, rfl⟩ := Observation.eq_send_of_sent mem
      rfl

/-! ### Endpoints -/

/-- An endpoint may change in everything but the submissions that it has. -/
lemma modifyStation (sound : Sound layouts loose n) (i : Nat) {f : Station → Station}
    (same : ∀ s, (f s).senders = s.senders) : Sound layouts loose (n.modifyStation i f) := by
  refine sound.of_senders (.modifyStation ..) rfl (fun get => ⟨_, get, rfl⟩) fun node => ?_
  cases get : n.stations[i]? with
  | none =>
    rw [Network.modifyStation, List.modify_eq_self (List.getElem?_eq_none_iff.mp get)]
  | some s =>
    exact ((senders_modifyStation get [] [] (by rw [same])).append_left loose).filterMap _

/-- An endpoint may change in everything but in what waits there. -/
lemma setEndpoint (sound : Sound layouts loose n) {i : Nat} {s : Station}
    (get : n.stations[i]? = some s)
    {endpoint : Endpoint Sender} (awaiting : endpoint.awaiting = s.endpoint.awaiting)
    (held : endpoint.held = s.endpoint.held) : Sound layouts loose (n.setEndpoint i endpoint) := by
  refine sound.of_senders (.modifyStation ..) rfl (fun get => ⟨_, get, rfl⟩) fun node => ?_
  refine ((senders_modifyStation get [] [] ?_).append_left loose).filterMap _
  simp [Station.senders, awaiting, held]

/-- A submission leaves an endpoint, and its sender is on the current operation's hands. -/
lemma takeFrom (sound : Sound layouts loose n) {i : Nat} {s : Station}
    (get : n.stations[i]? = some s)
    (endpoint : Endpoint Sender) (sender : Sender)
    (senders : s.senders.Perm (sender :: Station.senders { s with endpoint })) :
    Sound layouts (sender :: loose) (n.setEndpoint i endpoint) := by
  refine sound.of_senders (.modifyStation ..) rfl (fun get => ⟨_, get, rfl⟩) fun node => ?_
  have moved := senders_modifyStation (f := fun s => { s with endpoint }) get [sender] []
    senders.symm
  refine List.Perm.filterMap _ ?_
  exact List.perm_middle.symm.trans (moved.append_left loose)

/-- Whoever is on the current operation's hands is left to a later turn. -/
lemma later {sender : Sender} {task : Task} (sound : Sound layouts (sender :: loose) n)
    (waits : task.sender? = some sender) : Sound layouts loose (n.later task) := by
  refine sound.of_senders (.later ..) rfl (fun get => ⟨_, get, rfl⟩) fun node => ?_
  rw [senders_later, waits]
  refine List.Perm.filterMap _ ?_
  rw [← List.append_assoc]
  exact List.perm_append_singleton ..

/-- A record of nothing that a connection asked for or was told. -/
lemma observe (sound : Sound layouts loose n) {o : Observation}
    (asked : ∀ node, o.asked? node = none)
    (input : ∀ node, o.input? node = none) : Sound layouts loose (n.observe o) := by
  refine ⟨sound.toBooked.observe asked fun node _ mem => ?_, fun {node x} get => ?_⟩
  · rw [input] at mem
    cases mem
  · simpa [asked, input] using sound.steady get

/-! ### Deliveries -/

/-- A handler that takes a packet leaves the network sound and does not fail. -/
lemma giveTo (sound : Sound layouts loose n) (data : Bytes) (handler : Handler) :
    Sound layouts loose (n.giveTo data handler).1 ∧ (n.giveTo data handler).2 = none := by
  unfold Network.giveTo
  cases handler with
  | node node =>
    dsimp only
    split
    · exact ⟨sound.take ‹_› data, rfl⟩
    · exact ⟨sound, rfl⟩
  | named handler => simpa [sound.handlers_eq] using sound

/-- A visit of handlers leaves the network sound, and none of them fails. -/
lemma visit (sound : Sound layouts loose n) (station : Nat) (data : Bytes) (visits number : Nat) :
    Sound layouts loose (visit station data visits number n).1 ∧
      (Network.visit station data visits number n).2 = none := by
  induction visits generalizing number n with
  | zero => exact ⟨sound, rfl⟩
  | succ visits ih =>
    unfold Network.visit
    split
    · exact ⟨sound, rfl⟩
    · rename_i registered handler _
      obtain ⟨given, fine⟩ := sound.giveTo data handler
      cases result : n.giveTo data handler with
      | mk n' fault =>
        rw [result] at given fine
        cases fine
        exact ih given _

/-- A delivery leaves the network sound, and no handler fails. -/
lemma deliver (sound : Sound layouts loose n) (station : Nat) (submission : Submission Sender) :
    Sound layouts loose (n.deliver station submission).1 ∧
      (n.deliver station submission).2 = none := by
  unfold Network.deliver
  split
  · exact ⟨sound, rfl⟩
  · rename_i s get
    dsimp only
    have asked := sound.setEndpoint get (s.endpoint.awaiting_askDrop submission.data)
      (s.endpoint.held_askDrop submission.data)
    split
    · exact ⟨asked, rfl⟩
    · split
      · exact (asked.observe (fun _ => rfl) fun _ => rfl).visit ..
      · exact ⟨asked, rfl⟩

/-- A release of one submission leaves the network sound and does not fail. -/
lemma releaseOne (sound : Sound layouts (submission.sender :: loose) n) (station : Nat)
    (error : Option String) :
    Sound layouts loose (n.releaseOne station submission error).1 ∧
      (n.releaseOne station submission error).2 = none := by
  unfold Network.releaseOne
  cases error with
  | some message => exact ⟨sound.later rfl, rfl⟩
  | none =>
    obtain ⟨delivered, fine⟩ := sound.deliver station submission
    cases result : n.deliver station submission with
    | mk n' fault =>
      rw [result] at delivered fine
      cases fine
      exact ⟨delivered.later rfl, rfl⟩

/-- So does the release of the oldest one that is held, whether there is one or not. -/
lemma release (sound : Sound layouts loose n) (station : Nat) (error : Option String) :
    Sound layouts loose (n.release station error).1 ∧
      ∃ released, (n.release station error).2 = .ok released := by
  unfold Network.release
  cases get : n.stations[station]? with
  | none => exact ⟨sound, false, rfl⟩
  | some s =>
    dsimp only [Option.bind_some, Endpoint.takeHeld]
    cases held : s.endpoint.held with
    | nil => exact ⟨sound, false, rfl⟩
    | cons oldest rest =>
      have taken := sound.takeFrom get { s.endpoint with held := rest } oldest.sender
        (by simp [Station.senders, held, List.perm_middle])
      obtain ⟨released, fine⟩ := taken.releaseOne station error
      dsimp only
      cases result : (n.setEndpoint station { s.endpoint with held := rest }).releaseOne station
          oldest error with
      | mk n' fault =>
        rw [result] at released fine
        cases fine
        exact ⟨released, true, rfl⟩

/-- Releases one after the other leave the network sound. -/
lemma releaseAll (sound : Sound layouts loose n) (station count : Nat) :
    Sound layouts loose (releaseAll station count n).1 := by
  induction count generalizing n with
  | zero => exact sound
  | succ count ih =>
    unfold Network.releaseAll
    obtain ⟨next, released, fine⟩ := sound.release station none
    cases result : n.release station none with
    | mk n' answer =>
      rw [result] at next fine
      cases fine
      cases released with
      | false => exact next
      | true => exact ih next

/-- The release of everything that is held leaves the network sound. -/
lemma resume (sound : Sound layouts loose n) (station : Nat) :
    Sound layouts loose (n.resume station).1 := by
  have stopped : Sound layouts loose (n.modifyEndpoint station (·.stopHolding)) :=
    sound.modifyStation station fun _ => rfl
  unfold Network.resume
  dsimp only
  split
  · exact stopped.releaseAll ..
  · exact stopped

/-! ### Turns of the loop -/

/-- A listener that takes an event leaves the network sound. -/
lemma tell (sound : Sound layouts loose n) (node : Nat) (event : Event) (listener : Listener) :
    Sound layouts loose (n.tell node event listener).1 := by
  unfold Network.tell
  split
  · exact sound
  · split
    · cases listener with
      | named place => simpa [sound.listeners_eq] using sound
      | once ordinal waiter =>
        dsimp only
        have left : Frame n (n.modifyNode node fun x =>
            { x with listeners := x.listeners.remove (event.name, .once ordinal waiter) }) :=
          .modifyNode _ _ fun _ => rfl
        refine sound.of_senders (left.trans (.later ..)) rfl
          (fun {j x'} get => ?_) fun _ => ?_
        · simp only [Network.later, modifyNode, List.getElem?_modify] at get
          obtain ⟨x, found, rfl⟩ := Option.map_eq_some_iff.mp get
          exact ⟨x, found, by split <;> rfl⟩
        · rw [senders_later]
          exact (List.append_nil _).symm ▸ List.Perm.refl _
    · exact sound

/-- All listeners of an event leave the network sound. -/
lemma tellAll (sound : Sound layouts loose n) (node : Nat) (event : Event)
    (listeners : List Listener) :
    Sound layouts loose (n.tellAll node event listeners).1 := by
  have told : Sound layouts loose ((n, none) : Network × Option Fault).1 := sound
  unfold Network.tellAll
  generalize ((n, none) : Network × Option Fault) = start at told
  induction listeners generalizing start with
  | nil => exact told
  | cons listener listeners ih => exact ih _ (told.tell node event listener)

/-- The outcome that somebody waited for leaves the network sound. -/
lemma conclude {sender : Sender} (sound : Sound layouts (sender :: loose) n) (outcome : Outcome) :
    Sound layouts loose (n.conclude outcome sender) := by
  have drop (idle : ∀ node < n.nodes.length, sender.packet? node = none) : Sound layouts loose n :=
    ⟨sound.toBooked.of_frame (.refl n) fun bound => by
      simpa [idle _ bound] using sound.balanced bound, sound.steady⟩
  cases sender with
  | caller station ordinal =>
    exact (drop fun _ _ => rfl).observe (fun _ => rfl) fun _ => rfl
  | request node k index =>
    cases get : n.nodes[node]? with
    | none =>
      have missing := List.getElem?_eq_none_iff.mp get
      simp only [Network.conclude, get]
      exact drop fun other bound => if_neg (by omega)
    | some x =>
      simp only [Network.conclude, get]
      exact sound.answer get outcome
  | hand owner index =>
    unfold Network.conclude
    simpa [hand?, sound.hands_eq] using drop fun _ _ => rfl

/-- A task is taken from the queue, and whoever it is about is on the current operation's hands. -/
lemma dequeue {task : Task} {tasks : List Task} (sound : Sound layouts loose n)
    (waits : n.tasks = task :: tasks) :
    Sound layouts (task.sender?.toList ++ loose) { n with tasks } := by
  refine sound.of_senders ⟨rfl, rfl, rfl, rfl, rfl, rfl⟩ rfl (fun get => ⟨_, get, rfl⟩) fun _ => ?_
  refine List.Perm.filterMap _ ?_
  simp only [senders, waits]
  cases sender : task.sender? with
  | none => simp [sender]
  | some sender' =>
    simp only [Option.toList_some, List.filterMap_cons, sender, List.cons_append, List.nil_append]
    rw [← List.append_assoc, ← List.append_assoc]
    exact List.perm_middle.symm

/-- Every task leaves the network sound. -/
lemma carryOut {task : Task} {tasks : List Task} (sound : Sound layouts loose n)
    (waits : n.tasks = task :: tasks) : Sound layouts loose ({ n with tasks }.carryOut task) := by
  have begun := sound.dequeue waits
  unfold Network.carryOut
  cases task with
  | deliver station =>
    dsimp only
    cases get : n.stations[station]? with
    | none => exact begun
    | some s =>
      dsimp only [Option.bind_some, Endpoint.takeAwaiting]
      cases awaiting : s.endpoint.awaiting with
      | nil => exact begun
      | cons oldest rest =>
        have taken := begun.takeFrom get { s.endpoint with awaiting := rest } oldest.sender
          (by simp [Station.senders, awaiting])
        obtain ⟨delivered, fine⟩ := taken.deliver station oldest
        dsimp only
        cases result : ({ n with tasks }.setEndpoint station
            { s.endpoint with awaiting := rest }).deliver station oldest with
        | mk n' fault =>
          rw [result] at delivered fine
          cases fine
          exact delivered.later rfl
  | release sender outcome => exact begun.later rfl
  | conclude sender outcome => exact begun.conclude outcome
  | emit node event listeners =>
    have told := (begun.observe (o := .emitted node event) (fun _ => rfl) fun _ => rfl).tellAll node
      event listeners
    dsimp only
    split
    · exact told.observe (fun _ => rfl) fun _ => rfl
    · exact told
  | resolve owner result => exact begun.observe (fun _ => rfl) fun _ => rfl
  | await node waiter event => exact begun.observe (fun _ => rfl) fun _ => rfl

/-- Every turn of the loop keeps a network sound. -/
lemma turn (sound : Sound layouts loose n) (turned : n.turn = some n') :
    Sound layouts loose n' := by
  unfold Network.turn at turned
  split at turned
  · cases turned
  · cases turned
    exact sound.carryOut ‹_›

end Sound

end Network

end PacketLink
