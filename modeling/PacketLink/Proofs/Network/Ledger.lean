import PacketLink.Proofs.Network.Parcel

/-!
# Ledgers

Callers submit packets at both ends of a link while its endpoints are told to fail, to hold, to drop
and to release, handlers come and go, and the loop turns. `Ledger` runs such a link beside the list
of its parcels, and `Ledger.Exact` says that the list accounts for everything: for what the
endpoints recorded and still have, for the outcomes of the calls and for what the handlers took.
Main statement: `Ledger.postings_run`, by which there is one parcel for each call.
-/

namespace PacketLink

/-- What can be done with a link at its two ends. -/
inductive LinkControl where
  | submit (side : Side) (data : Bytes)
  | failNext (side : Side) (message : String)
  | setMaxPacketSize (side : Side) (size : Number)
  /-- Whatever a rule answers from now on, a rule for some places answers so, too. -/
  | setDrop (side : Side) (rule : Option DropRule)
  | hold (side : Side)
  /-- Release the oldest submission that is held, with an error if there is one. -/
  | release (side : Side) (error : Option String)
  | resume (side : Side)
  /-- Register a handler that records what it takes. -/
  | handle (side : Side) (handler : String)
  | unhandle (handler : String)
  /-- Add a connection, which may listen but sends nothing. -/
  | connect (side : Side) (layout : Layout) (limits : Limits)
  | start (node : Nat)
  | close (node : Nat)
  /-- One turn of the event loop. -/
  | turn

namespace LinkControl

/-- What a control does to the network. -/
def apply (n : Network) : LinkControl → Network
  | submit side data => (n.submitAsCaller side.place data).1
  | failNext side message => n.modifyEndpoint side.place (·.failNext message)
  | setMaxPacketSize side size => n.modifyEndpoint side.place (·.setMaxPacketSize size)
  | setDrop side rule => n.modifyEndpoint side.place (·.setDrop rule)
  | hold side => n.modifyEndpoint side.place (·.hold)
  | release side error => (n.release side.place error).1
  | resume side => (n.resume side.place).1
  | handle side handler => n.handle side.place handler .record
  | unhandle handler => n.unhandle handler
  | connect side layout limits => n.addNode side.place (limits.connection layout) []
  | start node => (n.startNode node).1
  | close node => n.closeNode node
  | turn => n.turn.getD n

/-- The failure that is planned at `side`. -/
def plan? (side : Side) : LinkControl → Option String
  | failNext other message => if other = side then some message else none
  | _ => none

/-- The call that submits a packet, with what the endpoint has for it. -/
def posting? (n : Network) : LinkControl → Option Posting
  | submit side data => (n.endpoint? side.place).map (·.posting side data)
  | _ => none

/-- The calls that submit packets, in order. -/
def postings : Network → List LinkControl → List Posting
  | _, [] => []
  | n, control :: controls => (control.posting? n).toList ++ postings (control.apply n) controls

/-- One more control makes its call after those of the others. -/
lemma postings_concat (n : Network) (controls : List LinkControl) (control : LinkControl) :
    postings n (controls ++ [control]) =
      postings n controls ++ (control.posting? (controls.foldl apply n)).toList := by
  induction controls generalizing n with
  | nil => simp [postings]
  | cons first controls ih => simp [postings, ih]

end LinkControl

namespace Network

/-- What becomes of a packet that leaves `station`. -/
def departure (n : Network) (station : Nat) (data : Bytes) : Fate :=
  match n.stations[station]? with
  | some s =>
    if (s.endpoint.askDrop data).1 then .dropped
    else .delivered ((s.peer.map n.takers).getD [])
  | none => .dropped

/-- What becomes of a packet that is released. -/
def releaseFate (n : Network) (station : Nat) (error : Option String) (data : Bytes) : Fate :=
  match error with
  | some message => .returned message
  | none => n.departure station data

end Network

namespace Parcel

/-- The parcels after at most `count` releases. -/
def releaseAll (station : Nat) : Nat → Network → List Parcel → List Parcel
  | 0, _, parcels => parcels
  | count + 1, n, parcels =>
    if (n.held station).isEmpty then parcels
    else releaseAll station count (n.release station none).1
      (settle station .held (n.releaseFate station none) parcels)

/-- What a control means for the parcels. -/
def apply (n : Network) (parcels : List Parcel) : LinkControl → List Parcel
  | .submit side data =>
    parcels ++ ((n.endpoint? side.place).map (·.parcel side data n.callerCount)).toList
  | .release side error => settle side.place .held (n.releaseFate side.place error) parcels
  | .resume side =>
    releaseAll side.place (n.held side.place).length
      (n.modifyEndpoint side.place (·.stopHolding)) parcels
  | .turn =>
    match n.tasks.head? with
    | some (.deliver station) => settle station .awaiting (n.departure station) parcels
    | _ => parcels
  | _ => parcels

/-- A submission is one more parcel. -/
lemma apply_submit {n : Network} {side : Side} {e : Endpoint Sender} {parcels : List Parcel}
    {data : Bytes} (get : n.endpoint? side.place = some e) :
    apply n parcels (.submit side data) = parcels ++ [e.parcel side data n.callerCount] := by
  simp [apply, get]

/-- Releases make no calls. -/
lemma map_toPosting_releaseAll (station count : Nat) (n : Network) (parcels : List Parcel) :
    (releaseAll station count n parcels).map (·.toPosting) = parcels.map (·.toPosting) := by
  induction count generalizing n parcels with
  | zero => rfl
  | succ count ih =>
    rw [releaseAll]
    split
    · rfl
    · rw [ih, map_toPosting_settle]

/-- A control adds the call that it makes, if any, behind the others. -/
lemma map_toPosting_apply (n : Network) (parcels : List Parcel) (control : LinkControl) :
    (apply n parcels control).map (·.toPosting) =
      parcels.map (·.toPosting) ++ (control.posting? n).toList := by
  cases control with
  | submit side data =>
    rw [apply, List.map_append, LinkControl.posting?]
    cases n.endpoint? side.place <;> rfl
  | release side error => simp [apply, map_toPosting_settle, LinkControl.posting?]
  | resume side => simp [apply, map_toPosting_releaseAll, LinkControl.posting?]
  | turn =>
    rw [apply]
    split <;> simp [map_toPosting_settle, LinkControl.posting?]
  | _ => exact (List.append_nil _).symm

/-- Releases change only parcels that wait. -/
lemma getElem?_releaseAll {station i : Nat} (count : Nat) {n : Network} {parcels : List Parcel}
    {p : Parcel} (get : parcels[i]? = some p) (done : p.fate.isWaiting = false) :
    (releaseAll station count n parcels)[i]? = some p := by
  induction count generalizing n parcels with
  | zero => exact get
  | succ count ih =>
    rw [releaseAll]
    split
    · exact get
    · exact ih (getElem?_settle rfl get done)

/-- A control changes only parcels that wait. -/
lemma getElem?_apply {n : Network} {parcels : List Parcel} {i : Nat} {p : Parcel}
    (get : parcels[i]? = some p) (done : p.fate.isWaiting = false) (control : LinkControl) :
    (apply n parcels control)[i]? = some p := by
  cases control with
  | submit side data =>
    rw [apply, List.getElem?_append_left (List.getElem?_eq_some_iff.mp get).1]
    exact get
  | release side error => exact getElem?_settle rfl get done
  | resume side => exact getElem?_releaseAll _ get done
  | turn =>
    rw [apply]
    split
    · exact getElem?_settle rfl get done
    · exact get
  | _ => exact get

end Parcel

/-- A link and the parcels that were submitted on it. -/
structure Ledger where
  network : Network
  parcels : List Parcel

namespace Ledger

/-- A new link. -/
def start (maxPacketSize : Number) : Ledger := ⟨Network.empty.addLink maxPacketSize, []⟩

/-- A control at work on the link and on the list of its parcels. -/
def apply (l : Ledger) (control : LinkControl) : Ledger :=
  ⟨control.apply l.network, Parcel.apply l.network l.parcels control⟩

/-- A new link after some controls. -/
def run (maxPacketSize : Number) (controls : List LinkControl) : Ledger :=
  controls.foldl apply (start maxPacketSize)

variable (maxPacketSize : Number) (controls : List LinkControl)

/-- The last control is applied to the run of those before it. -/
lemma run_concat (control : LinkControl) :
    run maxPacketSize (controls ++ [control]) = (run maxPacketSize controls).apply control :=
  List.foldl_concat ..

/-- The parcels do not take part in what happens to the link. -/
lemma network_run : (run maxPacketSize controls).network =
    controls.foldl LinkControl.apply (Network.empty.addLink maxPacketSize) := by
  induction controls using List.reverseRecOn with
  | nil => rfl
  | append_singleton controls control ih =>
    rw [run_concat, List.foldl_concat, ← ih]
    rfl

/-- There is one parcel for each call, in order. -/
lemma postings_run : (run maxPacketSize controls).parcels.map (·.toPosting) =
    LinkControl.postings (Network.empty.addLink maxPacketSize) controls := by
  induction controls using List.reverseRecOn with
  | nil => rfl
  | append_singleton controls control ih =>
    rw [run_concat, apply, Parcel.map_toPosting_apply, ih, network_run,
      LinkControl.postings_concat]

/-- Whatever comes later changes only parcels that wait. -/
lemma getElem?_foldl {l : Ledger} {i : Nat} {p : Parcel} (get : l.parcels[i]? = some p)
    (done : p.fate.isWaiting = false) (controls : List LinkControl) :
    (controls.foldl apply l).parcels[i]? = some p := by
  induction controls generalizing l with
  | nil => exact get
  | cons control controls ih => exact ih (Parcel.getElem?_apply get done control)

end Ledger

/-- The parcels account for everything that these controls of a new link have led to. -/
structure Ledger.Exact (maxPacketSize : Number) (controls : List LinkControl) (l : Ledger) :
    Prop where
  network_eq : l.network = controls.foldl LinkControl.apply (Network.empty.addLink maxPacketSize)
  /-- There is one parcel for each call, in order. -/
  postings : l.parcels.map (·.toPosting) =
    LinkControl.postings (Network.empty.addLink maxPacketSize) controls
  ordinals : l.parcels.map (·.ordinal) = List.range l.parcels.length
  fated : ∀ p ∈ l.parcels, p.Fated
  /-- A parcel that waits no more stays as it is. -/
  lasting : ∀ earlier later : List LinkControl, controls = earlier ++ later →
    ∀ (i : Nat) (p : Parcel), (Ledger.run maxPacketSize earlier).parcels[i]? = some p →
      p.fate.isWaiting = false → l.parcels[i]? = some p
  /-- What the endpoints recorded, what they have, and the failures that are still planned. -/
  agrees : ∀ side : Side, ∃ e, l.network.endpoint? side.place = some e ∧
    e.Agrees (controls.filterMap (·.plan? side)) l.parcels side.place
  heldCount : ∀ side : Side, (l.network.held side.place).length =
    l.parcels.countP (·.waits side.place .held)
  /-- The outcomes that callers heard or will hear: one for each parcel that does not wait, accepted
  when the packet was delivered or dropped, and rejected otherwise. -/
  verdicts : (l.network.lookBack Observation.verdict? ++
    l.network.tasks.filterMap Task.verdict?).Perm (l.parcels.filterMap (·.verdict?))
  /-- What was seen of packets: those that were delivered, one after the other, each once. -/
  passages : ∃ order : List Parcel, order.Perm (l.parcels.filter (·.isDelivered)) ∧
    l.network.lookBack Observation.passage? = order.flatMap (·.passages)

namespace Network

variable {n : Network} {side : Side} {s : Station} {e : Endpoint Sender}

/-! ## Departures -/

/-- At an end of a link a packet is dropped by the rule or goes to everybody at the other end. -/
lemma departure_of_get (get : n.stations[side.place]? = some s)
    (peer : s.peer = some side.other.place) (data : Bytes) :
    n.departure side.place data =
      if (s.endpoint.askDrop data).1 then .dropped
      else .delivered (n.takers side.other.place) := by
  simp [departure, get, peer]

/-- A packet that leaves waits no more. -/
lemma isFinal_departure (n : Network) (station : Nat) (data : Bytes) :
    (n.departure station data).isFinal = true := by
  unfold departure
  split
  · split <;> rfl
  · rfl

/-- A packet that is released waits no more, with an error or without. -/
lemma isFinal_releaseFate (n : Network) (station : Nat) (error : Option String) (data : Bytes) :
    (n.releaseFate station error data).isFinal = true := by
  cases error with
  | none => exact isFinal_departure ..
  | some => rfl

/-- A packet that leaves is accepted, and so is one that is released without an error. -/
lemma outcome?_of_departure {p : Parcel} {station : Nat} {data : Bytes}
    (leaves : p.fate = n.departure station data) : p.outcome? = some .accepted := by
  unfold departure at leaves
  unfold Parcel.outcome?
  split at leaves
  · split at leaves <;> rw [leaves]
  · rw [leaves]

/-- Whatever changes in an endpoint, the same handlers take packets there. -/
lemma takers_modifyEndpoint (n : Network) (station other : Nat)
    (f : Endpoint Sender → Endpoint Sender) :
    (n.modifyEndpoint station f).takers other = n.takers other := by
  simp only [takers, modifyEndpoint, modifyStation, List.getElem?_modify]
  cases n.stations[other]? with
  | none => rfl
  | some s => by_cases here : station = other <;> simp [here]

/-- What becomes of a packet does not depend on what else the endpoint has. -/
lemma departure_setEndpoint (get : n.stations[side.place]? = some s)
    (peer : s.peer = some side.other.place) (same : e.drop = s.endpoint.drop) (data : Bytes) :
    (n.setEndpoint side.place e).departure side.place data = n.departure side.place data := by
  have get' := (getElem?_setEndpoint get e side).trans (if_pos rfl)
  rw [departure_of_get get' peer, departure_of_get get peer, Endpoint.askDrop_congr data same,
    setEndpoint, takers_modifyEndpoint]

/-- What becomes of a packet that is released does not depend on what else the endpoint has. -/
lemma releaseFate_setEndpoint (get : n.stations[side.place]? = some s)
    (peer : s.peer = some side.other.place) (same : e.drop = s.endpoint.drop)
    (error : Option String) (data : Bytes) :
    (n.setEndpoint side.place e).releaseFate side.place error data =
      n.releaseFate side.place error data := by
  cases error with
  | none => exact departure_setEndpoint get peer same data
  | some => rfl

/-- No handler gets a packet twice. -/
lemma Cabled.nodup_takers (cabled : n.Cabled) (station : Nat) : (n.takers station).Nodup := by
  unfold takers
  cases get : n.stations[station]? with
  | none => exact .nil
  | some s => exact (cabled.roster s (List.mem_of_getElem? get)).1.nodup

/-- A packet that leaves goes to no handler twice. -/
lemma Cabled.nodup_departure (cabled : n.Cabled) {station : Nat} {data : Bytes}
    {handlers : List Handler} (leaves : n.departure station data = .delivered handlers) :
    handlers.Nodup := by
  unfold departure at leaves
  split at leaves
  · rename_i s _
    split at leaves
    · cases leaves
    · cases leaves
      cases s.peer with
      | none => exact .nil
      | some peer => exact cabled.nodup_takers peer
  · cases leaves

/-- A packet that is released goes to no handler twice. -/
lemma Cabled.nodup_releaseFate (cabled : n.Cabled) {station : Nat} {error : Option String}
    {data : Bytes} {handlers : List Handler}
    (leaves : n.releaseFate station error data = .delivered handlers) : handlers.Nodup := by
  cases error with
  | none => exact cabled.nodup_departure leaves
  | some => cases leaves

end Network

end PacketLink
