import PacketLink.Proofs.Network.Custody

/-!
# What is set at the two ends of a link

Which packets an endpoint takes, which it discards and who takes those that arrive depends on what
it was told before. `Abides` says that a step sets nothing anew: it leaves the size limits and the
registrations as they are, and asks the drop rules about the packets that leave, one by one. Main
statement: `Ledger.settings_run`, by which the limit is the one that was set last, the drop rule is
the one that was set last behind the answers that it has given, and a handler is registered where
the registrations and removals of its name have left it.
-/

namespace PacketLink

/-! ## What was told -/

/-- The rule that is left when `count` packets were asked about. -/
def DropRule.skip (count : Nat) : DropRule → DropRule
  | firstByte b => firstByte b
  | places answers => places (answers.drop count)

/-- Where the handler of a name is registered. -/
structure Registration where
  /-- The end of the latest registration. -/
  last : Option Side
  /-- The ends at which the handler takes packets. -/
  places : List Side

namespace LinkControl

/-- The limit that is set at `side`. -/
def limit? (side : Side) : LinkControl → Option Number
  | setMaxPacketSize other size => if other = side then some size else none
  | _ => none

/-- The rule that is set at `side`, or that there is none from now on. -/
def rule? (side : Side) : LinkControl → Option (Option DropRule)
  | setDrop other rule => if other = side then some rule else none
  | _ => none

/-- Whether a control sets a limit or a rule or concerns the registration of a handler. -/
def isSetting : LinkControl → Bool
  | setMaxPacketSize .. | setDrop .. | handle .. | unhandle .. => true
  | _ => false

/-- What a control makes of the registration of the handler of a name. A removal concerns the end
of the latest registration, wherever else the handler is registered. -/
def register (name : String) (r : Registration) : LinkControl → Registration
  | handle side handler => if handler = name then ⟨some side, side :: r.places⟩ else r
  | unhandle handler =>
    if handler = name then { r with places := r.places.filter fun side => r.last ≠ some side }
    else r
  | _ => r

/-- The limit that was set last at `side`. -/
def limit (maxPacketSize : Number) (side : Side) (controls : List LinkControl) : Number :=
  (controls.filterMap (·.limit? side)).getLast?.getD maxPacketSize

/-- Where the handler of a name is registered after some controls. -/
def registration (name : String) (controls : List LinkControl) : Registration :=
  controls.foldl (register name) ⟨none, []⟩

end LinkControl

/-- The packet has left its endpoint for the peer, which the drop rule was asked about. -/
def Fate.departs : Fate → Bool
  | delivered _ | dropped => true
  | _ => false

/-- The number of packets that have left the endpoint at `side`. -/
def Parcel.departures (side : Side) (parcels : List Parcel) : Nat :=
  parcels.countP fun p => p.side = side && p.fate.departs

namespace DropRule

variable (rule : DropRule)

/-- A rule that was asked about nothing is as it was. -/
@[simp] lemma skip_zero : rule.skip 0 = rule := by
  cases rule <;> rfl

/-- A rule that was asked about some packets and then about more was asked about all of them. -/
@[simp] lemma skip_skip (count more : Nat) :
    (rule.skip count).skip more = rule.skip (count + more) := by
  cases rule with
  | firstByte => rfl
  | places answers => simp [skip]

/-- A rule that was asked about a packet goes on with the next one. -/
lemma ask_snd (data : Bytes) : (rule.ask data).2 = rule.skip 1 := by
  cases rule with
  | firstByte => rfl
  | places answers => cases answers <;> rfl

end DropRule

/-- An endpoint that asks about a packet keeps what its rule leaves. -/
lemma Endpoint.drop_askDrop (e : Endpoint Sender) (data : Bytes) :
    (e.askDrop data).2.drop = e.drop.map (·.skip 1) := by
  unfold askDrop
  cases rule : e.drop with
  | none => simpa using rule
  | some rule => simp [DropRule.ask_snd]

/-! ## Packets that leave -/

namespace Parcel

variable {side : Side} {parcels : List Parcel} {fate : Fate} {p : Parcel}

/-- A parcel that has not left counts for nothing. -/
lemma departures_concat (unsent : p.fate.departs = false) :
    departures side (parcels ++ [p]) = departures side parcels := by
  simp [departures, unsent]

/-- A packet that waits has not left. -/
lemma departs_of_isWaiting (waits : fate.isWaiting = true) : fate.departs = false := by
  cases fate <;> first | rfl | cases waits

/-- Of the parcel that is settled it is known now whether it has left. -/
lemma departures_settle {station : Nat} {waiting : Fate} {find : Bytes → Fate}
    (waits : waiting.isWaiting = true) {oldest : Submission Sender}
    {rest : List (Submission Sender)}
    (queue : oldest :: rest = (parcels.filter (·.waits station waiting)).map (·.submission)) :
    departures side (settle station waiting find parcels) = departures side parcels +
      if side.place = station ∧ (find oldest.data).departs then 1 else 0 := by
  obtain ⟨before, p, after, rfl, here, rfl, earlier⟩ := exists_split queue
  obtain ⟨rfl, rfl⟩ : p.side.place = station ∧ p.fate = waiting := by
    simpa [Parcel.waits] using here
  have unsent := departs_of_isWaiting waits
  rw [settle_eq here earlier]
  simp only [departures, List.countP_append, List.countP_cons, unsent, Bool.and_false,
    Bool.false_eq_true, if_false, submission, Side.place_inj]
  by_cases same : side = p.side
  · subst same
    cases (find p.data).departs <;> simp [Nat.add_assoc]
  · simp [same, Ne.symm same]

end Parcel

namespace Network

/-- The size limit of the endpoint at `station`. -/
def limit? (n : Network) (station : Nat) : Option Number :=
  (n.endpoint? station).map (·.maxPacketSize)

/-- Nothing is set anew: the limits and the registrations of named handlers stay, and every drop
rule goes on behind the packets that have left its endpoint. -/
structure Abides (n : Network) (parcels : List Parcel) (n' : Network) (parcels' : List Parcel) :
    Prop where
  limit_eq : ∀ side : Side, n'.limit? side.place = n.limit? side.place
  rule_eq : ∀ side : Side, ∃ asked,
    Parcel.departures side parcels' = Parcel.departures side parcels + asked ∧
      n'.dropRule side.place = (n.dropRule side.place).map (·.skip asked)
  handlerStations_eq : n'.handlerStations = n.handlerStations
  named_iff : ∀ station name, .named name ∈ n'.takers station ↔ .named name ∈ n.takers station

variable {n n' n'' : Network} {parcels parcels' parcels'' : List Parcel} {side : Side}

/-- Changing the roster of one station changes who takes packets there. -/
lemma takers_modifyHandlers (n : Network) (station other : Nat)
    (f : Roster Handler → Roster Handler) :
    (n.modifyStation station fun s => { s with handlers := f s.handlers }).takers other =
      if station = other then ((n.stations[other]?).map fun s => (f s.handlers).members).getD []
      else n.takers other := by
  simp only [takers, modifyStation, List.getElem?_modify]
  cases n.stations[other]? with
  | none => simp
  | some s => by_cases here : station = other <;> simp [here]

/-- A change of a roster that the handler of a name does not notice. -/
lemma named_modifyHandlers (n : Network) (station other : Nat) {name : String}
    {f : Roster Handler → Roster Handler}
    (same : ∀ roster, .named name ∈ (f roster).members ↔ .named name ∈ roster.members) :
    .named name ∈ (n.modifyStation station fun s =>
      { s with handlers := f s.handlers }).takers other ↔ .named name ∈ n.takers other := by
  rw [takers_modifyHandlers, takers]
  split
  · cases n.stations[other]? with
    | none => exact Iff.rfl
    | some s => exact same s.handlers
  · rfl

namespace Abides

/-- Where nothing happens nothing is set anew. -/
lemma refl (n : Network) (parcels : List Parcel) : Abides n parcels n parcels :=
  ⟨fun _ => rfl, fun side => ⟨0, rfl, by simp⟩, rfl, fun _ _ => Iff.rfl⟩

/-- Two steps that set nothing anew are one. -/
lemma trans (first : Abides n parcels n' parcels') (second : Abides n' parcels' n'' parcels'') :
    Abides n parcels n'' parcels'' := by
  refine ⟨fun side => (second.limit_eq side).trans (first.limit_eq side), fun side => ?_,
    second.handlerStations_eq.trans first.handlerStations_eq,
    fun station name => (second.named_iff station name).trans (first.named_iff station name)⟩
  obtain ⟨asked, departed, rule⟩ := first.rule_eq side
  obtain ⟨more, departed', rule'⟩ := second.rule_eq side
  refine ⟨asked + more, by rw [departed', departed, Nat.add_assoc], ?_⟩
  rw [rule', rule, Option.map_map]
  exact congrArg (Option.map · _) (funext fun rule => rule.skip_skip asked more)

/-- A change that concerns no endpoint and no handler. -/
lemma of_same (stations : n'.stations = n.stations)
    (handlerStations : n'.handlerStations = n.handlerStations) :
    Abides n parcels n' parcels := by
  have endpoint (i : Nat) : n'.endpoint? i = n.endpoint? i := by
    rw [endpoint?, stations, endpoint?]
  refine ⟨fun side => ?_, fun side => ⟨0, rfl, ?_⟩, handlerStations, fun station name => ?_⟩
  · rw [limit?, endpoint, limit?]
  · rw [dropRule, endpoint, dropRule]
    simp
  · rw [takers, stations, takers]

/-- What connections receive and what is seen of packets sets nothing. -/
lemma aside {passages : List Passage} (aside : Aside passages n n') :
    Abides n parcels n' parcels := of_same aside.stations_eq aside.handlerStations_eq

/-- A task that is left for later sets nothing. -/
lemma later (n : Network) (task : Task) : Abides n parcels (n.later task) parcels :=
  of_same rfl rfl

/-- A record sets nothing. -/
lemma observe (n : Network) (o : Observation) : Abides n parcels (n.observe o) parcels :=
  of_same rfl rfl

/-- An endpoint keeps its limit, and its drop rule was asked `asked` times. -/
lemma modifyEndpoint {f : Endpoint Sender → Endpoint Sender} (asked : Nat)
    (keeps : ∀ e, n.endpoint? side.place = some e →
      (f e).maxPacketSize = e.maxPacketSize ∧ (f e).drop = e.drop.map (·.skip asked))
    (departed : ∀ other, Parcel.departures other parcels' =
      Parcel.departures other parcels + if other = side then asked else 0) :
    Abides n parcels (n.modifyEndpoint side.place f) parcels' := by
  refine ⟨fun other => ?_, fun other => ⟨_, departed other, ?_⟩, rfl, fun station name => ?_⟩
  · by_cases here : other = side
    · subst here
      rw [limit?, endpoint?_modifyEndpoint, limit?]
      cases get : n.endpoint? other.place with
      | none => rfl
      | some e => exact congrArg some (keeps e get).1
    · rw [limit?, endpoint?_modifyEndpoint_of_ne _ (by simp [Ne.symm here]), limit?]
  · by_cases here : other = side
    · subst here
      rw [dropRule, endpoint?_modifyEndpoint, dropRule, if_pos rfl]
      cases get : n.endpoint? other.place with
      | none => rfl
      | some e => exact (keeps e get).2
    · rw [dropRule, endpoint?_modifyEndpoint_of_ne _ (by simp [Ne.symm here]), dropRule,
        if_neg here]
      simp
  · rw [takers_modifyEndpoint]

/-- An endpoint changes in something else. -/
lemma modifyEndpoint_of_same {f : Endpoint Sender → Endpoint Sender}
    (keeps : ∀ e, n.endpoint? side.place = some e →
      (f e).maxPacketSize = e.maxPacketSize ∧ (f e).drop = e.drop)
    (same : ∀ other, Parcel.departures other parcels' = Parcel.departures other parcels) :
    Abides n parcels (n.modifyEndpoint side.place f) parcels' := by
  refine modifyEndpoint 0 (fun e get => ?_) fun other => by simpa using same other
  obtain ⟨limit, rule⟩ := keeps e get
  exact ⟨limit, by simp [rule]⟩

/-- A change of a roster that no named handler notices. -/
lemma modifyHandlers {station : Nat} {f : Roster Handler → Roster Handler}
    (same : ∀ roster name, .named name ∈ (f roster).members ↔ .named name ∈ roster.members) :
    Abides n parcels
      (n.modifyStation station fun s => { s with handlers := f s.handlers }) parcels := by
  have endpoint := (Still.modifyHandlers n station f).endpoint_eq
  refine ⟨fun side => ?_, fun side => ⟨0, rfl, ?_⟩, rfl, fun other name =>
    named_modifyHandlers n station other (same · name)⟩
  · rw [limit?, endpoint, limit?]
  · rw [dropRule, endpoint, dropRule]
    simp

/-- A connection begins or ends to listen. -/
lemma settleTurn (node : Nat) {turn : Connection.Turn} (passive : turn.Passive) :
    Abides n parcels (n.settleTurn node turn) parcels := by
  refine settleTurn_induction n node turn
    (motive := fun _ n' => Abides n parcels n' parcels) (of_same rfl rfl)
    fun {_ effect n'} mem abides => abides.trans ?_
  obtain rfl | rfl | report := passive.quiet effect mem
  · unfold perform
    split
    · exact refl ..
    · have adds (roster : Roster Handler) (name : String) :
          .named name ∈ (roster.add (.node node)).members ↔ .named name ∈ roster.members := by
        simp [Roster.mem_add]
      exact (observe ..).trans (modifyHandlers adds)
  · unfold perform
    split
    · exact refl ..
    · have removes (roster : Roster Handler) (name : String) :
          .named name ∈ (roster.remove (.node node)).members ↔ .named name ∈ roster.members := by
        simp [Roster.members_remove]
      exact (observe ..).trans (modifyHandlers removes)
  · exact aside (.perform n' report)

end Abides

/-! ## Releases and turns -/

variable {plans : Side → List String} {hand : List Task} {s : Station}

/-- An endpoint is replaced by one with the same limit and the same rule. -/
lemma Abides.setEndpoint {e e' : Endpoint Sender} (get : n.endpoint? side.place = some e)
    (limit : e'.maxPacketSize = e.maxPacketSize) (rule : e'.drop = e.drop)
    (same : ∀ other, Parcel.departures other parcels' = Parcel.departures other parcels) :
    Abides n parcels (n.setEndpoint side.place e') parcels' := by
  refine modifyEndpoint_of_same (fun old there => ?_) same
  obtain rfl := Option.some.inj (get.symm.trans there)
  exact ⟨limit, rule⟩

/-- Whoever leaves has been asked about. -/
lemma departs_departure (n : Network) (station : Nat) (data : Bytes) :
    (n.departure station data).departs = true := by
  unfold departure
  split
  · split <;> rfl
  · rfl

namespace Custody

/-- The oldest submission that waits somewhere is taken and leaves for the peer. -/
lemma abides_deliver (custody : Custody plans hand [] n parcels)
    (get : n.stations[side.place]? = some s) {waiting : Fate} (waits : waiting.isWaiting = true)
    {oldest : Submission Sender} {rest : List (Submission Sender)}
    (queue : oldest :: rest = (parcels.filter (·.waits side.place waiting)).map (·.submission))
    {e : Endpoint Sender} (limit : e.maxPacketSize = s.endpoint.maxPacketSize)
    (rule : e.drop = s.endpoint.drop) :
    ∃ n', (n.setEndpoint side.place e).deliver side.place oldest = (n', none) ∧
      Abides n parcels n'
        (Parcel.settle side.place waiting (n.departure side.place) parcels) := by
  have endpoint : n.endpoint? side.place = some s.endpoint := by
    rw [endpoint?, get, Option.map_some]
  have get' : (n.setEndpoint side.place e).stations[side.place]? =
      some { s with endpoint := e } := (getElem?_setEndpoint get e side).trans (if_pos rfl)
  obtain ⟨n', delivered, aside⟩ :=
    (custody.cabled.modifyEndpoint side.place fun _ => e).deliver_eq get' oldest
  refine ⟨n', delivered, .trans (.setEndpoint endpoint limit rule fun _ => rfl)
    (.trans (.modifyEndpoint 1 (fun old there => ?_) fun other => ?_) (.aside aside))⟩
  · rw [endpoint?, get', Option.map_some] at there
    cases there
    exact ⟨Endpoint.maxPacketSize_askDrop .., Endpoint.drop_askDrop ..⟩
  · rw [Parcel.departures_settle waits queue]
    simp [departs_departure]

/-- The oldest submission that is held is released. -/
lemma abides_release (custody : Custody plans [] [] n parcels) (side : Side)
    (error : Option String) :
    Abides n parcels (n.release side.place error).1
      (Parcel.settle side.place .held (n.releaseFate side.place error) parcels) := by
  obtain ⟨s, get, _, endpoint, agrees⟩ := custody.station_get side
  cases held : s.endpoint.held with
  | nil =>
    have none : (n.held side.place).isEmpty = true := by
      rw [held_of_get get, held, List.isEmpty_nil]
    rw [custody.settle_held none]
    simpa [Network.release, get, Endpoint.takeHeld, held] using Abides.refl n parcels
  | cons oldest rest =>
    let e : Endpoint Sender := { s.endpoint with held := rest }
    have queue := held.symm.trans agrees.held
    have takeHeld : s.endpoint.takeHeld = some (oldest, e) := by
      simp only [Endpoint.takeHeld, held, e]
    simp only [Network.release, get, Option.bind_some, takeHeld]
    cases error with
    | some message =>
      have kept (other : Side) : Parcel.departures other (Parcel.settle side.place .held
          (n.releaseFate side.place (some message)) parcels) = Parcel.departures other parcels := by
        rw [Parcel.departures_settle rfl queue]
        simp [releaseFate, Fate.departs]
      have taken : Abides n parcels (n.setEndpoint side.place e)
          (Parcel.settle side.place .held (n.releaseFate side.place (some message)) parcels) :=
        .setEndpoint endpoint rfl rfl kept
      exact taken.trans (.later ..)
    | none =>
      obtain ⟨n', delivered, left⟩ := custody.abides_deliver get (e := e) rfl queue rfl rfl
      simp only [Network.releaseOne, delivered]
      exact left.trans (.later ..)

/-- Releasing submissions one after the other sets nothing anew. -/
lemma abides_releaseAll (custody : Custody plans [] [] n parcels) (side : Side) (count : Nat) :
    Abides n parcels (Network.releaseAll side.place count n).1
      (Parcel.releaseAll side.place count n parcels) := by
  induction count generalizing n parcels with
  | zero => exact .refl ..
  | succ count ih =>
    obtain ⟨n', released, custody'⟩ := custody.release side none
    have first := custody.abides_release side none
    rw [released] at first
    rw [Network.releaseAll, Parcel.releaseAll, released]
    cases none : (n.held side.place).isEmpty with
    | true =>
      rw [custody.settle_held none] at first
      exact first
    | false => exact first.trans (ih custody')

/-- Releasing everything that is held sets nothing anew but that nothing is held from now on. -/
lemma abides_resume (custody : Custody plans [] [] n parcels) (side : Side) :
    Abides n parcels (n.resume side.place).1 (Parcel.apply n parcels (.resume side)) := by
  rw [custody.cabled.resume_eq side]
  have stopping : Abides n parcels (n.modifyEndpoint side.place (·.stopHolding)) parcels :=
    .modifyEndpoint_of_same (fun _ _ => ⟨rfl, rfl⟩) fun _ => rfl
  exact stopping.trans (custody.stopHolding.abides_releaseAll side _)

/-- A submission sets nothing anew, and its packet has not left yet. -/
lemma abides_submit (custody : Custody plans [] [] n parcels) (side : Side) (data : Bytes) :
    Abides n parcels (n.submitAsCaller side.place data).1
      (Parcel.apply n parcels (.submit side data)) := by
  obtain ⟨s, get, _, endpoint, _⟩ := custody.station_get side
  have unsent : (s.endpoint.parcel side data n.callerCount).fate.departs = false := by
    simp only [Endpoint.parcel, Posting.fate]
    split
    · split
      · rfl
      · split <;> rfl
    · rfl
  let counted : Network := { n with callerCount := n.callerCount + 1 }
  have counts : Abides n parcels counted parcels := .of_same rfl rfl
  have posted := counts.trans (.setEndpoint endpoint (Endpoint.maxPacketSize_submit ..)
    (Endpoint.drop_submit s.endpoint ⟨data, .caller side.place n.callerCount⟩)
    fun _ => Parcel.departures_concat unsent)
  rw [Parcel.apply_submit endpoint]
  simp only [submitAsCaller, Network.submit, get]
  split
  · exact posted.trans (.later ..)
  · exact posted
  · exact posted.trans (.later ..)

/-- The oldest task is carried out. -/
lemma abides_turn (custody : Custody plans [] [] n parcels) :
    Abides n parcels (n.turn.getD n) (Parcel.apply n parcels .turn) := by
  rw [Parcel.apply]
  cases waits : n.tasks with
  | nil => simpa [Network.turn, waits] using Abides.refl n parcels
  | cons task tasks =>
    have taken := custody.dequeue waits
    have plain := custody.cabled.plain task (waits ▸ List.mem_cons_self ..)
    have dequeued : Abides n parcels { n with tasks } parcels := .of_same rfl rfl
    simp only [Network.turn, waits, Option.getD_some, List.head?_cons]
    cases task with
    | deliver station =>
      obtain ⟨side, rfl⟩ := Side.exists_place (of_decide_eq_true plain)
      obtain ⟨s, get, _, _, agrees⟩ := taken.station_get side
      obtain ⟨oldest, rest, awaiting⟩ := custody.exists_awaiting waits get
      let e : Endpoint Sender := { s.endpoint with awaiting := rest }
      obtain ⟨n', delivered, left⟩ :=
        taken.abides_deliver get (e := e) rfl (awaiting.symm.trans agrees.awaiting) rfl rfl
      have takeAwaiting : s.endpoint.takeAwaiting = some (oldest, e) := by
        simp only [Endpoint.takeAwaiting, awaiting, e]
      simp only [carryOut, get, Option.bind_some, takeAwaiting, delivered]
      exact (dequeued.trans left).trans (.later ..)
    | emit node event listeners =>
      have seen := taken.cabled.observe (.emitted node event)
      simp only [carryOut, seen.tellAll_eq]
      exact dequeued.trans (.observe ..)
    | release sender outcome => exact dequeued.trans (.later ..)
    | conclude sender outcome =>
      cases sender with
      | caller station ordinal => exact dequeued.trans (.observe ..)
      | _ => cases plain
    | _ => cases plain

/-- Everything else that can be done at the two ends sets nothing anew. -/
lemma abides_apply (custody : Custody plans [] [] n parcels) {control : LinkControl}
    (unset : control.isSetting = false) :
    Abides n parcels (control.apply n) (Parcel.apply n parcels control) := by
  cases control with
  | submit side data => exact custody.abides_submit side data
  | failNext side message =>
    exact .modifyEndpoint_of_same (f := (·.failNext message)) (fun _ _ => ⟨rfl, rfl⟩) fun _ => rfl
  | hold side =>
    exact .modifyEndpoint_of_same (f := (·.hold)) (fun _ _ => ⟨rfl, rfl⟩) fun _ => rfl
  | release side error => exact custody.abides_release side error
  | resume side => exact custody.abides_resume side
  | connect side layout limits => exact .of_same rfl rfl
  | start node =>
    obtain same | ⟨turn, passive, same⟩ := custody.cabled.startNode_eq node
    · rw [LinkControl.apply, same]
      exact .refl ..
    · rw [LinkControl.apply, same]
      exact .settleTurn node passive
  | close node =>
    obtain same | ⟨turn, passive, same⟩ := custody.cabled.closeNode_eq node
    · rw [LinkControl.apply, same]
      exact .refl ..
    · rw [LinkControl.apply, same]
      exact .settleTurn node passive
  | turn => exact custody.abides_turn
  | _ => cases unset

/-! ## Controls that set something -/

/-- The limit at an end is what a control sets it to, and stays otherwise. -/
lemma limit_apply (custody : Custody plans [] [] n parcels) (control : LinkControl) (side : Side) :
    (control.apply n).limit? side.place = (control.limit? side).or (n.limit? side.place) := by
  cases control with
  | setMaxPacketSize other size =>
    obtain ⟨s, _, _, endpoint, _⟩ := custody.station_get side
    by_cases here : other = side
    · subst here
      simp [LinkControl.apply, LinkControl.limit?, limit?, endpoint?_modifyEndpoint, endpoint,
        Endpoint.setMaxPacketSize]
    · simp [LinkControl.apply, LinkControl.limit?, limit?, endpoint?_modifyEndpoint_of_ne, here]
  | setDrop other rule =>
    by_cases here : other = side
    · subst here
      rw [LinkControl.apply, limit?, endpoint?_modifyEndpoint, Option.map_map]
      rfl
    · simp [LinkControl.apply, LinkControl.limit?, limit?, endpoint?_modifyEndpoint_of_ne, here]
  | handle other handler =>
    rw [LinkControl.apply, limit?, (Still.handle n other.place handler .record).endpoint_eq]
    rfl
  | unhandle handler =>
    rw [LinkControl.apply, limit?, (Still.unhandle n handler).endpoint_eq]
    rfl
  | _ => exact (custody.abides_apply rfl).limit_eq side

/-- A drop rule that is set is the one that holds. -/
lemma rule_apply_of_set (custody : Custody plans [] [] n parcels) {control : LinkControl}
    {rule : Option DropRule} (set : control.rule? side = some rule) :
    (control.apply n).dropRule side.place = rule ∧ Parcel.apply n parcels control = parcels := by
  cases control with
  | setDrop other drop =>
    obtain ⟨here, rfl⟩ : other = side ∧ drop = rule := by
      simpa [LinkControl.rule?] using set
    subst here
    obtain ⟨s, _, _, endpoint, _⟩ := custody.station_get other
    exact ⟨by simp [LinkControl.apply, dropRule, endpoint?_modifyEndpoint, endpoint,
      Endpoint.setDrop], rfl⟩
  | _ => cases set

/-- Otherwise the drop rule goes on behind the packets that leave. -/
lemma rule_apply_of_unset (custody : Custody plans [] [] n parcels) {control : LinkControl}
    (unset : control.rule? side = none) :
    ∃ asked, Parcel.departures side (Parcel.apply n parcels control) =
        Parcel.departures side parcels + asked ∧
      (control.apply n).dropRule side.place = (n.dropRule side.place).map (·.skip asked) := by
  have still (same : (control.apply n).endpoint? side.place = n.endpoint? side.place) :
      (control.apply n).dropRule side.place = (n.dropRule side.place).map (·.skip 0) := by
    rw [dropRule, same, dropRule]
    simp
  cases control with
  | setMaxPacketSize other size =>
    refine ⟨0, rfl, ?_⟩
    by_cases here : other = side
    · subst here
      rw [LinkControl.apply, dropRule, endpoint?_modifyEndpoint, dropRule]
      cases n.endpoint? other.place <;> simp [Endpoint.setMaxPacketSize]
    · exact still (endpoint?_modifyEndpoint_of_ne _ (by simp [here]) _)
  | setDrop other rule =>
    have apart : other ≠ side := by simpa [LinkControl.rule?] using unset
    exact ⟨0, rfl, still (endpoint?_modifyEndpoint_of_ne _ (by simp [apart]) _)⟩
  | handle other handler =>
    exact ⟨0, rfl, still ((Still.handle n other.place handler .record).endpoint_eq _)⟩
  | unhandle handler => exact ⟨0, rfl, still ((Still.unhandle n handler).endpoint_eq _)⟩
  | _ => exact (custody.abides_apply rfl).rule_eq side

end Custody

/-- The handler of a name is registered so. -/
structure Registered (name : String) (r : Registration) (n : Network) : Prop where
  last_eq : n.handlerStations.lookup name = r.last.map (·.place)
  named_iff : ∀ side : Side, .named name ∈ n.takers side.place ↔ side ∈ r.places

namespace Registered

variable {name : String} {r : Registration}

/-- A handler is registered where it was while nothing is set anew. -/
lemma abides (registered : Registered name r n) (abides : Abides n parcels n' parcels') :
    Registered name r n' :=
  ⟨abides.handlerStations_eq ▸ registered.last_eq,
    fun side => (abides.named_iff _ name).trans (registered.named_iff side)⟩

/-- A change in an endpoint is none for its handlers. -/
lemma modifyEndpoint (registered : Registered name r n) (station : Nat)
    (f : Endpoint Sender → Endpoint Sender) : Registered name r (n.modifyEndpoint station f) := by
  refine ⟨registered.last_eq, fun side => ?_⟩
  rw [← registered.named_iff side, takers_modifyEndpoint]

/-- A handler of another name is registered or removed. -/
lemma modifyHandlers (registered : Registered name r n) (station : Nat)
    {f : Roster Handler → Roster Handler}
    (same : ∀ roster, .named name ∈ (f roster).members ↔ .named name ∈ roster.members) :
    Registered name r (n.modifyStation station fun s => { s with handlers := f s.handlers }) :=
  ⟨registered.last_eq, fun side =>
    (named_modifyHandlers n station side.place same).trans (registered.named_iff side)⟩

/-- A registration adds the end to those at which the handler takes packets. -/
lemma handle (registered : Registered name r n) (cabled : n.Cabled) (side : Side)
    (handler : String) :
    Registered name (LinkControl.register name r (.handle side handler))
      (n.handle side.place handler .record) := by
  have takers (other : Nat) : (n.handle side.place handler .record).takers other =
      if side.place = other then
        ((n.stations[other]?).map fun s => (s.handlers.add (.named handler)).members).getD []
      else n.takers other := takers_modifyHandlers _ _ _ (·.add (.named handler))
  have last : (n.handle side.place handler .record).handlerStations =
      (handler, side.place) :: n.handlerStations := rfl
  obtain ⟨s, get, _⟩ := cabled.station side
  have here : n.takers side.place = s.handlers.members := by rw [Network.takers, get]; rfl
  by_cases same : handler = name
  · subst same
    rw [LinkControl.register, if_pos rfl]
    refine ⟨by simp [last], fun other => ?_⟩
    rw [takers, List.mem_cons, ← registered.named_iff other]
    by_cases apart : side = other
    · subst apart
      simp [get, Roster.mem_add, here, or_comm]
    · simp [apart, Ne.symm apart]
  · rw [LinkControl.register, if_neg same]
    refine ⟨?_, fun other => ?_⟩
    · rw [last, List.lookup_cons, beq_false_of_ne (Ne.symm same)]
      exact registered.last_eq
    · rw [takers, ← registered.named_iff other]
      by_cases apart : side = other
      · subst apart
        simp [get, Roster.mem_add, here, Ne.symm same]
      · simp [apart]

/-- A removal concerns the end of the latest registration. -/
lemma unhandle (registered : Registered name r n) (handler : String) :
    Registered name (LinkControl.register name r (.unhandle handler)) (n.unhandle handler) := by
  unfold Network.unhandle
  by_cases same : handler = name
  · subst same
    rw [LinkControl.register, if_pos rfl, registered.last_eq]
    obtain ⟨last, places⟩ := r
    cases last with
    | none => exact ⟨registered.last_eq, fun other => by simp [registered.named_iff other]⟩
    | some side =>
      have takers (other : Nat) : (n.modifyStation side.place fun s =>
            { s with handlers := s.handlers.remove (.named handler) }).takers other =
          if side.place = other then
            ((n.stations[other]?).map fun s => (s.handlers.remove (.named handler)).members).getD []
          else n.takers other := takers_modifyHandlers _ _ _ (·.remove (.named handler))
      refine ⟨registered.last_eq, fun other => ?_⟩
      dsimp only [Option.map_some]
      rw [takers]
      by_cases apart : side = other
      · subst apart
        cases n.stations[side.place]? <;> simp [Roster.members_remove]
      · simp [apart, registered.named_iff other]
  · rw [LinkControl.register, if_neg same]
    have kept (roster : Roster Handler) :
        .named name ∈ (roster.remove (.named handler)).members ↔ .named name ∈ roster.members := by
      simp [Roster.members_remove, Ne.symm same]
    split
    · exact registered.modifyHandlers _ kept
    · exact registered

/-- Every control does to the handler of a name what it means for it. -/
lemma apply (registered : Registered name r n) (custody : Custody plans [] [] n parcels)
    (control : LinkControl) : Registered name (control.register name r) (control.apply n) := by
  cases control with
  | setMaxPacketSize side size =>
    exact registered.modifyEndpoint side.place (·.setMaxPacketSize size)
  | setDrop side rule => exact registered.modifyEndpoint side.place (·.setDrop rule)
  | handle side handler => exact registered.handle custody.cabled side handler
  | unhandle handler => exact registered.unhandle handler
  | _ => exact registered.abides (custody.abides_apply rfl)

end Registered

end Network

namespace Ledger

variable (maxPacketSize : Number) (controls : List LinkControl)

/-- The limit at an end is the one that was set last, or that of the new link. -/
lemma limit_run (side : Side) : (run maxPacketSize controls).network.limit? side.place =
    some (LinkControl.limit maxPacketSize side controls) := by
  induction controls using List.reverseRecOn with
  | nil => cases side <;> rfl
  | append_singleton controls control ih =>
    have custody := custody_run maxPacketSize controls
    rw [run_concat]
    refine (custody.limit_apply control side).trans ?_
    rw [ih, LinkControl.limit, LinkControl.limit, List.filterMap_append]
    cases set : control.limit? side <;> simp [set]

/-- While no rule is set, the drop rule goes on behind the packets that leave. -/
lemma rule_run_append (side : Side) (later : List LinkControl)
    (unset : ∀ control ∈ later, control.rule? side = none) :
    ∃ asked, Parcel.departures side (run maxPacketSize (controls ++ later)).parcels =
        Parcel.departures side (run maxPacketSize controls).parcels + asked ∧
      (run maxPacketSize (controls ++ later)).network.dropRule side.place =
        ((run maxPacketSize controls).network.dropRule side.place).map (·.skip asked) := by
  induction later using List.reverseRecOn with
  | nil => exact ⟨0, by simp, by simp⟩
  | append_singleton later control ih =>
    obtain ⟨before, last⟩ := List.forall_mem_append.mp unset
    obtain ⟨asked, departed, rule⟩ := ih before
    have custody := custody_run maxPacketSize (controls ++ later)
    obtain ⟨more, departed', rule'⟩ :=
      custody.rule_apply_of_unset (last control (List.mem_singleton_self _))
    rw [← List.append_assoc, run_concat]
    refine ⟨asked + more, departed'.trans (by rw [departed, Nat.add_assoc]), rule'.trans ?_⟩
    rw [rule, Option.map_map]
    exact congrArg (Option.map · _) (funext fun rule => rule.skip_skip asked more)

/-- After some controls a handler is registered where these have left it. -/
lemma registered_run (name : String) : Network.Registered name
    (LinkControl.registration name controls) (run maxPacketSize controls).network := by
  induction controls using List.reverseRecOn with
  | nil =>
    refine ⟨rfl, fun side => ?_⟩
    have nobody : (run maxPacketSize []).network.takers side.place = [] := by cases side <;> rfl
    simp [nobody, LinkControl.registration]
  | append_singleton controls control ih =>
    rw [run_concat, LinkControl.registration, List.foldl_concat]
    exact ih.apply (custody_run maxPacketSize controls) control

/-- Whatever is done at the two ends of a link, each endpoint has the limit that was set last and
the drop rule that was set last, which was asked since then about the packets that have left, one
by one. A handler takes packets where the registrations and removals of its name have left it. -/
theorem settings_run :
    let l := run maxPacketSize controls
    (∀ side : Side, l.network.limit? side.place =
      some (LinkControl.limit maxPacketSize side controls)) ∧
    (∀ side : Side, (∀ control ∈ controls, control.rule? side = none) →
      l.network.dropRule side.place = none) ∧
    (∀ (side : Side) (earlier later : List LinkControl) (rule : Option DropRule),
      controls = earlier ++ .setDrop side rule :: later →
      (∀ control ∈ later, control.rule? side = none) →
        ∃ asked, Parcel.departures side l.parcels =
            Parcel.departures side (run maxPacketSize earlier).parcels + asked ∧
          l.network.dropRule side.place = rule.map (·.skip asked)) ∧
    ∀ (side : Side) (name : String), .named name ∈ l.network.takers side.place ↔
      side ∈ (LinkControl.registration name controls).places := by
  refine ⟨limit_run maxPacketSize controls, fun side unset => ?_,
    fun side earlier later rule split unset => ?_,
    fun side name => (registered_run maxPacketSize controls name).named_iff side⟩
  · obtain ⟨_, _, same⟩ := rule_run_append maxPacketSize [] side controls unset
    refine same.trans ?_
    cases side <;> rfl
  · have custody := custody_run maxPacketSize earlier
    have sets : (LinkControl.setDrop side rule).rule? side = some rule := if_pos rfl
    obtain ⟨set, still⟩ := custody.rule_apply_of_set sets
    obtain ⟨asked, departed, same⟩ :=
      rule_run_append maxPacketSize (earlier ++ [.setDrop side rule]) side later unset
    rw [run_concat, List.append_assoc, List.singleton_append, ← split] at departed same
    have parcels : ((run maxPacketSize earlier).apply (.setDrop side rule)).parcels =
        (run maxPacketSize earlier).parcels := still
    have first : ((run maxPacketSize earlier).apply (.setDrop side rule)).network.dropRule
        side.place = rule := set
    rw [parcels] at departed
    rw [first] at same
    exact ⟨asked, departed, same⟩

/-- One packet was asked about since the rule was set, and the removal concerns the later end. -/
example :
    let n := (run (.ofNat 2) [.setMaxPacketSize .near (.ofNat 5),
      .setDrop .near (some (.places [true, false, true])), .submit .near [1, 2, 3], .turn,
      .handle .near "h", .handle .far "h", .unhandle "h"]).network
    n.limit? 0 = some (.ofNat 5) ∧ n.dropRule 0 = some (.places [false, true]) ∧
      n.takers 0 = [.named "h"] ∧ n.takers 1 = [] :=
  ⟨rfl, rfl, rfl, rfl⟩

end Ledger

end PacketLink
