import PacketLink.Proofs.Link.Roster
import PacketLink.Proofs.Network.Duplex

/-!
# Handlers that only take packets

On a link whose handlers neither fail nor change who is registered, a packet that is delivered goes
to every handler of the peer once, in the order of registration. `Cabled` says what the two ends of
such a link are, and `Aside` that a network has changed in nothing but what connections received and
what could be seen of the packets. Main statement: `Cabled.deliver_eq`.
-/

namespace PacketLink

/-- What could be seen of a packet on its way. -/
inductive Passage where
  /-- It went from a station to its peer. -/
  | delivered (station : Nat) (submission : Submission Sender)
  /-- A handler took it. -/
  | given (handler : Handler) (data : Bytes)

/-- What could be seen of a packet when this was noticed, if anything. -/
def Observation.passage? : Observation → Option Passage
  | .delivered station submission => some (.delivered station submission)
  | .handled _ handler data => some (.given (.named handler) data)
  | .taken node data => some (.given (.node node) data)
  | _ => none

/-- The outcome that a caller saw of the submission with its ordinal at a station. -/
def Observation.verdict? : Observation → Option (Nat × Nat × Outcome)
  | .concluded station ordinal outcome => some (station, ordinal, outcome)
  | _ => none

/-- The outcome that a caller will see of the submission with its ordinal at a station. -/
def Task.verdict? : Task → Option (Nat × Nat × Outcome)
  | .release (.caller station ordinal) outcome => some (station, ordinal, outcome)
  | .conclude (.caller station ordinal) outcome => some (station, ordinal, outcome)
  | _ => none

/-- Whether a task delivers an event to the listeners of a connection. -/
def Task.isEmission : Task → Bool
  | .emit .. => true
  | _ => false

/-- Whether a task can come up while nobody but callers submits. -/
def Task.isPlain : Task → Bool
  | .deliver station => station < 2
  | .release (.caller ..) _ => true
  | .conclude (.caller ..) _ => true
  | .emit .. => true
  | _ => false

/-- A turn of a connection that has nothing to send: it begins or ends to listen, if anything. -/
structure Connection.Turn.Passive (turn : Connection.Turn) : Prop where
  empty : turn.connection.queue = []
  free : turn.connection.active = none
  quiet : ∀ effect ∈ turn.effects,
    effect = .subscribe ∨ effect = .unsubscribe ∨ effect.isReport = true

namespace Connection

variable {c : Connection}

/-- Without a request in the slot or in the queue there is nothing to cancel. -/
lemma cancelAll_of_idle (empty : c.queue = []) (free : c.active = none) :
    c.cancelAll = stay c := by
  have same : { c with queue := [] } = c := by rw [← empty]
  rw [cancelAll, empty, same, cancelEach_nil, stay_andThen, free, Option.toList_none,
    cancelEach_nil]

/-- Closing a connection that has nothing to send only ends its listening. -/
lemma close_of_idle (empty : c.queue = []) (free : c.active = none) : c.close.Passive := by
  rw [close]
  split
  · exact ⟨empty, free, List.forall_mem_nil _⟩
  · have retired : ({ c with closed := true, listening := false } : Connection).cancelAll =
        stay { c with closed := true, listening := false } := cancelAll_of_idle empty free
    rw [andThen_eq rfl]
    dsimp only [ask]
    rw [retired, stay_andThen]
    refine ⟨empty, free, List.forall_mem_append.mpr ⟨?_, ?_⟩⟩
    · split <;> simp
    · simp [Effect.isReport]

end Connection

/-- A connection that has nothing to send and that nobody listens to. -/
structure Node.Idle (x : Node) : Prop where
  deaf : x.listeners.entries = []
  empty : x.connection.queue = []
  free : x.connection.active = none

namespace Network

/-- Whoever takes the packets that arrive at a station. -/
def takers (n : Network) (station : Nat) : List Handler :=
  ((n.stations[station]?).map (·.handlers.members)).getD []

/-- A handler can take packets. -/
def Knows (n : Network) : Handler → Prop
  | .node node => node < n.nodes.length
  | .named handler => handler ∈ n.handlers.map (·.name)

/-- Nothing about the packets on the link has changed but that `passages` were seen. -/
structure Still (passages : List Passage) (n n' : Network) : Prop where
  endpoint_eq : ∀ i, n'.endpoint? i = n.endpoint? i
  callerCount_eq : n'.callerCount = n.callerCount
  passages_eq :
    n'.lookBack Observation.passage? = n.lookBack Observation.passage? ++ passages
  verdicts_eq : n'.lookBack Observation.verdict? = n.lookBack Observation.verdict?
  tasks : ∃ emissions, n'.tasks = n.tasks ++ emissions ∧
    ∀ task ∈ emissions, task.isEmission = true

/-- Nothing has changed but what connections received, and that `passages` were seen. -/
structure Aside (passages : List Passage) (n n' : Network) : Prop
    extends Still passages n n' where
  stations_eq : n'.stations = n.stations
  handlers_eq : n'.handlers = n.handlers
  handlerStations_eq : n'.handlerStations = n.handlerStations
  length_nodes : n'.nodes.length = n.nodes.length
  idle : (∀ x ∈ n.nodes, x.Idle) → ∀ x ∈ n'.nodes, x.Idle

variable {n n' n'' : Network} {passages further : List Passage} {node : Nat} {x : Node}

namespace Still

/-- Where nothing happens nothing is seen. -/
lemma refl (n : Network) : Still [] n n :=
  ⟨fun _ => rfl, rfl, (List.append_nil _).symm, rfl, [], (List.append_nil _).symm,
    List.forall_mem_nil _⟩

/-- What is seen in two steps is seen in one after the other. -/
lemma trans (first : Still passages n n') (second : Still further n' n'') :
    Still (passages ++ further) n n'' := by
  obtain ⟨emissions, tasks, emit⟩ := first.tasks
  obtain ⟨emissions', tasks', emit'⟩ := second.tasks
  refine ⟨fun i => (second.endpoint_eq i).trans (first.endpoint_eq i),
    second.callerCount_eq.trans first.callerCount_eq, ?_,
    second.verdicts_eq.trans first.verdicts_eq, emissions ++ emissions', ?_,
    List.forall_mem_append.mpr ⟨emit, emit'⟩⟩
  · rw [second.passages_eq, first.passages_eq, List.append_assoc]
  · rw [tasks', tasks, List.append_assoc]

/-- Registering and removing handlers concerns no packet. -/
lemma modifyHandlers (n : Network) (station : Nat) (f : Roster Handler → Roster Handler) :
    Still [] n (n.modifyStation station fun s => { s with handlers := f s.handlers }) := by
  refine ⟨fun i => ?_, rfl, (List.append_nil _).symm, rfl, [], (List.append_nil _).symm,
    List.forall_mem_nil _⟩
  simp only [endpoint?, modifyStation, List.getElem?_modify]
  cases n.stations[i]? with
  | none => rfl
  | some s => by_cases here : station = i <;> simp [here]

/-- Registering a handler concerns no packet. -/
lemma handle (n : Network) (station : Nat) (handler : String) (mode : HandlerMode) :
    Still [] n (n.handle station handler mode) := by
  have known : Still [] n { n with
      handlers := if n.handlers.any (·.name = handler) then n.handlers
        else n.handlers ++ [NamedHandler.mk handler station mode]
      handlerStations := (handler, station) :: n.handlerStations } :=
    ⟨fun _ => rfl, rfl, (List.append_nil _).symm, rfl, [], (List.append_nil _).symm,
      List.forall_mem_nil _⟩
  exact known.trans (.modifyHandlers _ station (·.add (.named handler)))

/-- Removing a handler concerns no packet. -/
lemma unhandle (n : Network) (handler : String) : Still [] n (n.unhandle handler) := by
  unfold Network.unhandle
  split
  · exact .modifyHandlers n _ (·.remove (.named handler))
  · exact .refl n

end Still

namespace Aside

/-- Where nothing happens nothing has changed. -/
lemma refl (n : Network) : Aside [] n n := ⟨.refl n, rfl, rfl, rfl, rfl, id⟩

/-- What is seen in two steps is seen in one after the other. -/
lemma trans (first : Aside passages n n') (second : Aside further n' n'') :
    Aside (passages ++ further) n n'' :=
  ⟨first.toStill.trans second.toStill, second.stations_eq.trans first.stations_eq,
    second.handlers_eq.trans first.handlers_eq,
    second.handlerStations_eq.trans first.handlerStations_eq,
    second.length_nodes.trans first.length_nodes, second.idle ∘ first.idle⟩

/-- What is observed is seen of a packet, or concerns none of them. -/
lemma observe (n : Network) {o : Observation} (seen : o.passage?.toList = passages)
    (unheard : o.verdict? = none) : Aside passages n (n.observe o) :=
  ⟨⟨fun _ => rfl, rfl, seen ▸ lookBack_observe .., lookBack_unseen _ unheard, [],
    (List.append_nil _).symm, List.forall_mem_nil _⟩, rfl, rfl, rfl, rfl, id⟩

/-- An event that is left for its listeners concerns no packet. -/
lemma emit (n : Network) (node : Nat) (event : Event) (listeners : List Listener) :
    Aside [] n (n.later (.emit node event listeners)) :=
  ⟨⟨fun _ => rfl, rfl, (List.append_nil _).symm, rfl, [.emit node event listeners], rfl,
    List.forall_mem_singleton.mpr rfl⟩, rfl, rfl, rfl, rfl, id⟩

/-- A connection without anything to send is put in the place of another one. -/
lemma setConnection (n : Network) (node : Nat) {connection : Connection}
    (empty : connection.queue = []) (free : connection.active = none) :
    Aside [] n (n.setConnection node connection) := by
  refine ⟨⟨fun _ => rfl, rfl, (List.append_nil _).symm, rfl, [], (List.append_nil _).symm,
    List.forall_mem_nil _⟩, rfl, rfl, rfl, List.length_modify .., fun idle x mem => ?_⟩
  obtain ⟨i, get⟩ := List.mem_iff_getElem?.mp mem
  rw [Network.setConnection, modifyNode, List.getElem?_modify] at get
  obtain ⟨y, there, rfl⟩ := Option.map_eq_some_iff.mp get
  have before := idle y (List.mem_of_getElem? there)
  split
  · exact ⟨before.deaf, empty, free⟩
  · exact before

/-- Reports of a connection concern no packet on the link. -/
lemma perform (n : Network) {effect : Connection.Effect} (report : effect.isReport = true) :
    Aside [] n (perform node n effect) := by
  unfold Network.perform
  split
  · exact refl n
  · have asked : Aside [] n (n.observe (.asked node effect)) := observe n rfl rfl
    cases effect with
    | log entry => exact asked.trans (observe _ rfl rfl)
    | emit event => exact asked.trans (emit ..)
    | _ => cases report

/-- A connection takes a packet. -/
lemma take (n : Network) (node : Nat) (idle : x.Idle) (data : Bytes) :
    Aside [.given (.node node) data] n
      ((n.observe (.taken node data)).settleTurn node (x.connection.receive data).1) := by
  have same := x.connection.connection_receive data
  have empty : (x.connection.receive data).1.connection.queue = [] := by
    rw [same]
    exact idle.empty
  have free : (x.connection.receive data).1.connection.active = none := by
    rw [same]
    exact idle.free
  have taken : Aside [.given (.node node) data] n (n.observe (.taken node data)) :=
    observe n rfl rfl
  have settled : Aside [] (n.observe (.taken node data))
      ((n.observe (.taken node data)).settleTurn node (x.connection.receive data).1) :=
    settleTurn_induction _ node _
      (motive := fun _ n' => Aside [] (n.observe (.taken node data)) n')
      (setConnection _ node empty free)
      fun mem aside => aside.trans (perform _ (x.connection.report_receive data _ mem))
  exact taken.trans settled

end Aside

/-! ## The two ends of a link -/

/-- A link whose handlers only take packets, and on which nobody but callers submits. -/
structure Cabled (n : Network) : Prop where
  station : ∀ side : Side, ∃ s, n.stations[side.place]? = some s ∧ s.peer = some side.other.place
  roster : ∀ s ∈ n.stations, s.handlers.Lawful ∧ ∀ handler ∈ s.handlers.members, n.Knows handler
  record : ∀ h ∈ n.handlers, h.mode = .record
  idle : ∀ x ∈ n.nodes, x.Idle
  plain : ∀ task ∈ n.tasks, task.isPlain = true

namespace Cabled

/-- A link stays as it is when connections receive something. -/
lemma aside (cabled : n.Cabled) (aside : Aside passages n n') : n'.Cabled := by
  obtain ⟨emissions, tasks, emit⟩ := aside.tasks
  refine ⟨?_, fun s mem => ?_, ?_, aside.idle cabled.idle, ?_⟩
  · rw [aside.stations_eq]
    exact cabled.station
  · rw [aside.stations_eq] at mem
    obtain ⟨lawful, known⟩ := cabled.roster s mem
    refine ⟨lawful, fun handler member => ?_⟩
    have before := known handler member
    cases handler with
    | node node =>
      rw [Knows, aside.length_nodes]
      exact before
    | named handler =>
      rw [Knows, aside.handlers_eq]
      exact before
  · rw [aside.handlers_eq]
    exact cabled.record
  · rw [tasks]
    refine List.forall_mem_append.mpr ⟨cabled.plain, fun task mem => ?_⟩
    have emission := emit task mem
    cases task with
    | emit => rfl
    | _ => cases emission

/-- Who is registered does not depend on what has been seen. -/
lemma observe (cabled : n.Cabled) (o : Observation) : (n.observe o).Cabled :=
  ⟨cabled.station, cabled.roster, cabled.record, cabled.idle, cabled.plain⟩

/-- A task of a link may be left for later. -/
lemma later (cabled : n.Cabled) {task : Task} (plain : task.isPlain = true) :
    (n.later task).Cabled := by
  refine ⟨cabled.station, cabled.roster, cabled.record, cabled.idle, ?_⟩
  exact List.forall_mem_append.mpr ⟨cabled.plain, List.forall_mem_singleton.mpr plain⟩

/-- A task of a link may be taken. -/
lemma dequeue (cabled : n.Cabled) {task : Task} {tasks : List Task}
    (waits : n.tasks = task :: tasks) : Cabled { n with tasks } :=
  { cabled with plain := fun _ mem => cabled.plain _ (waits ▸ List.mem_cons_of_mem task mem) }

/-- A station may change in everything but its peer, as long as its roster stays in order. -/
lemma modifyStation (cabled : n.Cabled) (station : Nat) {f : Station → Station}
    (peer : ∀ s, (f s).peer = s.peer) (roster : ∀ s ∈ n.stations,
      (f s).handlers.Lawful ∧ ∀ handler ∈ (f s).handlers.members, n.Knows handler) :
    (n.modifyStation station f).Cabled := by
  have lookup (i : Nat) : (n.modifyStation station f).stations[i]? =
      (n.stations[i]?).map fun s => if station = i then f s else s := List.getElem?_modify ..
  refine ⟨fun side => ?_, fun s mem => ?_, cabled.record, cabled.idle, cabled.plain⟩
  · obtain ⟨s, get, same⟩ := cabled.station side
    refine ⟨_, by rw [lookup, get, Option.map_some], ?_⟩
    split
    · exact (peer s).trans same
    · exact same
  · obtain ⟨i, get⟩ := List.mem_iff_getElem?.mp mem
    rw [lookup, Option.map_eq_some_iff] at get
    obtain ⟨s, there, rfl⟩ := get
    have mem := List.mem_of_getElem? there
    split
    · exact roster s mem
    · exact cabled.roster s mem

/-- A link stays one whatever changes in an endpoint. -/
lemma modifyEndpoint (cabled : n.Cabled) (station : Nat) (f : Endpoint Sender → Endpoint Sender) :
    (n.modifyEndpoint station f).Cabled :=
  cabled.modifyStation station (fun _ => rfl) cabled.roster

/-- There is room for every handler of a station in a visit. -/
lemma length_members_lt (cabled : n.Cabled) {s : Station} (mem : s ∈ n.stations) :
    s.handlers.members.length < n.visitLimit := by
  obtain ⟨lawful, known⟩ := cabled.roster s mem
  have covered : s.handlers.members ⊆
      n.handlers.map (fun h => Handler.named h.name) ++
        (List.range n.nodes.length).map Handler.node := by
    intro handler member
    have known := known handler member
    cases handler with
    | node node => exact List.mem_append_right _ (List.mem_map_of_mem (List.mem_range.mpr known))
    | named name =>
      obtain ⟨h, here, rfl⟩ := List.mem_map.mp known
      exact List.mem_append_left _ (List.mem_map.mpr ⟨h, here, rfl⟩)
  have bound := (List.subperm_of_subset lawful.nodup covered).length_le
  rw [List.length_append, List.length_map, List.length_map, List.length_range] at bound
  rw [visitLimit]
  omega

/-! ## Deliveries -/

/-- A handler that is known takes a packet and does not fail. -/
lemma giveTo_eq (cabled : n.Cabled) (data : Bytes) {handler : Handler} (known : n.Knows handler) :
    ∃ n', n.giveTo data handler = (n', none) ∧ Aside [.given handler data] n n' := by
  cases handler with
  | node node =>
    obtain ⟨x, get⟩ : ∃ x, n.nodes[node]? = some x := ⟨_, List.getElem?_eq_getElem known⟩
    refine ⟨_, ?_, .take n node (cabled.idle x (List.mem_of_getElem? get)) data⟩
    simp only [giveTo, get]
  | named name =>
    obtain ⟨h, mem, same⟩ := List.mem_map.mp known
    obtain ⟨h', found⟩ : ∃ h', n.handlers.find? (·.name = name) = some h' :=
      Option.isSome_iff_exists.mp (List.find?_isSome.mpr ⟨h, mem, by simpa using same⟩)
    have mode := cabled.record h' (List.mem_of_find?_eq_some found)
    refine ⟨n.observe (.handled h'.home name data), ?_, .observe n rfl rfl⟩
    simp only [giveTo, found, mode]

/-- A visit gives the packet to every handler that it has not come to yet. -/
lemma visit_eq (cabled : n.Cabled) {station : Nat} (data : Bytes) {s : Station}
    (before : List (Nat × Handler)) {rest : List (Nat × Handler)} (number : Nat) {visits : Nat}
    (get : n.stations[station]? = some s) (split : s.handlers.entries = before ++ rest)
    (passed : ∀ entry ∈ before, entry.1 < number) (ahead : ∀ entry ∈ rest, number ≤ entry.1)
    (room : rest.length < visits) :
    ∃ n', visit station data visits number n = (n', none) ∧
      Aside (rest.map fun entry => .given entry.2 data) n n' := by
  induction rest generalizing n before number visits with
  | nil =>
    have none := Roster.memberFrom_of_split split passed ahead
    obtain ⟨visits, rfl⟩ := Nat.exists_eq_succ_of_ne_zero (Nat.ne_of_gt room)
    exact ⟨n, by simp [visit, get, none], .refl n⟩
  | cons entry rest ih =>
    obtain ⟨registered, handler⟩ := entry
    have next := Roster.memberFrom_of_split split passed ahead
    obtain ⟨visits, rfl⟩ := Nat.exists_eq_succ_of_ne_zero (Nat.ne_of_gt (Nat.zero_lt_of_lt room))
    obtain ⟨lawful, known⟩ := cabled.roster s (List.mem_of_getElem? get)
    have member : handler ∈ s.handlers.members := by simp [Roster.members, split]
    obtain ⟨given, gave, aside⟩ := cabled.giveTo_eq data (known handler member)
    -- the entries behind this one have larger numbers
    have sorted := lawful.sorted
    rw [split, List.pairwise_append] at sorted
    obtain ⟨_, behind, across⟩ := sorted
    obtain ⟨n', visited, after⟩ := ih (cabled.aside aside) (before ++ [(registered, handler)])
      (registered + 1) (aside.stations_eq ▸ get)
      (by rw [split, List.append_assoc]; rfl)
      (List.forall_mem_append.mpr
        ⟨fun entry mem => Nat.lt_succ_of_lt (across entry mem _ (List.mem_cons_self ..)),
          List.forall_mem_singleton.mpr (Nat.lt_succ_self _)⟩)
      (List.pairwise_cons.mp behind).1 (Nat.lt_of_succ_lt_succ room)
    refine ⟨n', ?_, aside.trans after⟩
    simp only [visit, get, Option.bind_some, next, List.head?_cons, gave, visited]

/-- A packet that leaves is dropped, or goes to everybody who takes the packets of the peer. -/
lemma deliver_eq (cabled : n.Cabled) {side : Side} {s : Station}
    (get : n.stations[side.place]? = some s) (submission : Submission Sender) :
    ∃ n', n.deliver side.place submission = (n', none) ∧
      Aside (if (s.endpoint.askDrop submission.data).1 then []
          else .delivered side.place submission ::
            (n.takers side.other.place).map (.given · submission.data))
        (n.setEndpoint side.place (s.endpoint.askDrop submission.data).2) n' := by
  obtain ⟨s', get', peer⟩ := cabled.station side
  obtain rfl := Option.some.inj (get'.symm.trans get)
  obtain ⟨far, there, _⟩ := cabled.station side.other
  have asked := cabled.modifyEndpoint side.place fun _ => (s'.endpoint.askDrop submission.data).2
  by_cases dropped : (s'.endpoint.askDrop submission.data).1 = true
  · refine ⟨n.setEndpoint side.place (s'.endpoint.askDrop submission.data).2, ?_, ?_⟩
    · simp only [deliver, get, dropped, if_true]
    · rw [if_pos dropped]
      exact .refl _
  · -- the packet is seen to leave, and then visits the handlers of the peer
    have far_get : (n.setEndpoint side.place (s'.endpoint.askDrop submission.data).2).stations[
        side.other.place]? = some far := by
      rw [getElem?_setEndpoint get, if_neg (Side.other_ne side), there]
    have takers : n.takers side.other.place = far.handlers.entries.map (·.2) := by
      rw [Network.takers, there]
      rfl
    have left := asked.observe (.delivered side.place submission)
    have room := left.length_members_lt (List.mem_of_getElem? far_get)
    rw [Roster.members, List.length_map] at room
    obtain ⟨n', visited, aside⟩ := left.visit_eq submission.data [] 0 far_get rfl
      (List.forall_mem_nil _) (fun _ _ => Nat.zero_le _) room
    refine ⟨n', ?_, ?_⟩
    · simp only [deliver, get, dropped, if_false, peer, Bool.false_eq_true]
      exact visited
    · rw [if_neg dropped, takers, List.map_map]
      exact (Aside.observe _ rfl rfl).trans aside

/-- Nobody listens to the events of a connection. -/
lemma tellAll_eq (cabled : n.Cabled) (node : Nat) (event : Event) (listeners : List Listener) :
    n.tellAll node event listeners = (n, none) :=
  tellAll_of_deaf (fun x get => (cabled.idle x (List.mem_of_getElem? get)).deaf) event listeners

/-! ## Registrations -/

/-- Whatever could take packets still can. -/
lemma knows_mono {handlers : List NamedHandler} {nodes : List Node}
    (kept : n.handlers.map (·.name) ⊆ handlers.map (·.name))
    (grown : n.nodes.length ≤ nodes.length) {handler : Handler} (known : n.Knows handler) :
    Knows { n with handlers, nodes } handler := by
  cases handler with
  | node node => exact Nat.lt_of_lt_of_le known grown
  | named name => exact kept known

/-- A handler that can take packets may be registered. -/
lemma addHandler (cabled : n.Cabled) (station : Nat) {handler : Handler}
    (known : n.Knows handler) :
    (n.modifyStation station fun s => { s with handlers := s.handlers.add handler }).Cabled := by
  refine cabled.modifyStation station (fun _ => rfl) fun s mem => ?_
  obtain ⟨lawful, members⟩ := cabled.roster s mem
  refine ⟨lawful.add handler, fun other member => ?_⟩
  obtain member | rfl := Roster.mem_add.mp member
  · exact members other member
  · exact known

/-- A handler may be removed. -/
lemma removeHandler (cabled : n.Cabled) (station : Nat) (handler : Handler) :
    (n.modifyStation station fun s => { s with handlers := s.handlers.remove handler }).Cabled := by
  refine cabled.modifyStation station (fun _ => rfl) fun s mem => ?_
  obtain ⟨lawful, members⟩ := cabled.roster s mem
  refine ⟨lawful.remove handler, fun other member => members other ?_⟩
  have kept : other ∈ (s.handlers.remove handler).members := member
  rw [Roster.members_remove] at kept
  exact (List.mem_filter.mp kept).1

/-- Registering a handler that records what it takes leaves a link one. -/
lemma handle (cabled : n.Cabled) (station : Nat) (handler : String) :
    (n.handle station handler .record).Cabled ∧ Still [] n (n.handle station handler .record) := by
  let handlers := if n.handlers.any (·.name = handler) then n.handlers
    else n.handlers ++ [NamedHandler.mk handler station .record]
  have kept : n.handlers ⊆ handlers := by
    intro h mem
    simp only [handlers]
    split
    · exact mem
    · exact List.mem_append_left _ mem
  have named : handler ∈ handlers.map (·.name) := by
    simp only [handlers]
    split
    · rename_i here
      obtain ⟨h, mem, same⟩ := List.any_eq_true.mp here
      exact List.mem_map.mpr ⟨h, mem, by simpa using same⟩
    · simp
  let n₁ : Network :=
    { n with handlers, handlerStations := (handler, station) :: n.handlerStations }
  have registered : n₁.Cabled := by
    refine ⟨cabled.station, fun s mem => ?_, fun h mem => ?_, cabled.idle, cabled.plain⟩
    · obtain ⟨lawful, known⟩ := cabled.roster s mem
      exact ⟨lawful, fun handler member =>
        knows_mono (List.map_subset _ kept) (Nat.le_refl _) (known handler member)⟩
    · have mem : h ∈ handlers := mem
      simp only [handlers] at mem
      split at mem
      · exact cabled.record h mem
      · obtain mem | new := List.mem_append.mp mem
        · exact cabled.record h mem
        · rw [List.mem_singleton.mp new]
  exact ⟨registered.addHandler station named, .handle n station handler .record⟩

/-- Removing a handler leaves a link one. -/
lemma unhandle (cabled : n.Cabled) (handler : String) :
    (n.unhandle handler).Cabled ∧ Still [] n (n.unhandle handler) := by
  refine ⟨?_, .unhandle n handler⟩
  unfold Network.unhandle
  split
  · exact cabled.removeHandler ..
  · exact cabled

/-- A connection that has nothing to send may be added. -/
lemma addNode (cabled : n.Cabled) (station : Nat) {connection : Connection}
    (empty : connection.queue = []) (free : connection.active = none) (logPath : List String) :
    (n.addNode station connection logPath).Cabled ∧
      Still [] n (n.addNode station connection logPath) := by
  refine ⟨⟨cabled.station, fun s mem => ?_, cabled.record, ?_, cabled.plain⟩, fun _ => rfl, rfl,
    (List.append_nil _).symm, rfl, [], (List.append_nil _).symm, List.forall_mem_nil _⟩
  · obtain ⟨lawful, known⟩ := cabled.roster s mem
    refine ⟨lawful, fun handler member => ?_⟩
    exact knows_mono (List.Subset.refl _) (by simp) (known handler member)
  · exact List.forall_mem_append.mpr
      ⟨cabled.idle, List.forall_mem_singleton.mpr ⟨rfl, empty, free⟩⟩

/-- A connection that has nothing to send listens, or listens no more. -/
lemma settleTurn (cabled : n.Cabled) (node : Nat) {turn : Connection.Turn}
    (passive : turn.Passive) :
    (n.settleTurn node turn).Cabled ∧ Still [] n (n.settleTurn node turn) := by
  have placed := Aside.setConnection n node passive.empty passive.free
  refine settleTurn_induction n node turn (motive := fun _ n' => n'.Cabled ∧ Still [] n n')
    ⟨cabled.aside placed, placed.toStill⟩ fun {_ effect n'} mem ⟨cabled', still⟩ => ?_
  obtain rfl | rfl | report := passive.quiet effect mem
  · unfold perform
    split
    · exact ⟨cabled', still⟩
    · rename_i x get
      have asked := Aside.observe n' (o := .asked node .subscribe) rfl rfl
      have known : n'.Knows (.node node) := (List.getElem?_eq_some_iff.mp get).1
      exact ⟨(cabled'.aside asked).addHandler x.station known,
        (still.trans asked.toStill).trans (Still.modifyHandlers _ x.station (·.add _))⟩
  · unfold perform
    split
    · exact ⟨cabled', still⟩
    · rename_i x get
      have asked := Aside.observe n' (o := .asked node .unsubscribe) rfl rfl
      exact ⟨(cabled'.aside asked).removeHandler x.station _,
        (still.trans asked.toStill).trans (Still.modifyHandlers _ x.station (·.remove _))⟩
  · have aside : Aside [] n' (perform node n' effect) := .perform n' report
    exact ⟨cabled'.aside aside, still.trans aside.toStill⟩

/-- Starting a connection is a turn of it, unless there is none or it is closed. -/
lemma startNode_eq (cabled : n.Cabled) (node : Nat) :
    (n.startNode node).1 = n ∨ ∃ turn : Connection.Turn, turn.Passive ∧
      (n.startNode node).1 = n.settleTurn node turn := by
  unfold Network.startNode
  cases get : n.nodes[node]? with
  | none => exact .inl rfl
  | some x =>
    have idle := cabled.idle x (List.mem_of_getElem? get)
    cases started : x.connection.start with
    | error cause => exact .inl (by simp only [started])
    | ok turn =>
      refine .inr ⟨turn, ?_, by simp only [started]⟩
      unfold Connection.start at started
      split at started
      · cases started
      · split at started <;> cases started
        · exact ⟨idle.empty, idle.free, List.forall_mem_nil _⟩
        · refine ⟨idle.empty, idle.free, ?_⟩
          simp [Connection.ask, Connection.Effect.isReport]

/-- Closing a connection is a turn of it, unless there is none. -/
lemma closeNode_eq (cabled : n.Cabled) (node : Nat) :
    n.closeNode node = n ∨ ∃ turn : Connection.Turn, turn.Passive ∧
      n.closeNode node = n.settleTurn node turn := by
  unfold Network.closeNode
  cases get : n.nodes[node]? with
  | none => exact .inl rfl
  | some x =>
    have idle := cabled.idle x (List.mem_of_getElem? get)
    exact .inr ⟨_, Connection.close_of_idle idle.empty idle.free, rfl⟩

/-- A connection may begin to listen. -/
lemma startNode (cabled : n.Cabled) (node : Nat) :
    (n.startNode node).1.Cabled ∧ Still [] n (n.startNode node).1 := by
  obtain same | ⟨turn, passive, same⟩ := cabled.startNode_eq node
  · rw [same]
    exact ⟨cabled, .refl n⟩
  · rw [same]
    exact cabled.settleTurn node passive

/-- A connection may be closed. -/
lemma closeNode (cabled : n.Cabled) (node : Nat) :
    (n.closeNode node).Cabled ∧ Still [] n (n.closeNode node) := by
  obtain same | ⟨turn, passive, same⟩ := cabled.closeNode_eq node
  · rw [same]
    exact ⟨cabled, .refl n⟩
  · rw [same]
    exact cabled.settleTurn node passive

end Cabled

end Network

end PacketLink
