import PacketLink.Proofs.Network.Traffic
import PacketLink.Script.Session

/-!
# Who is delivered before whom

A session may be told anything between any two turns of the event loop. Whatever that is, packets
come to the peer of an endpoint in the order of submission, but for those that were held and were
released while an earlier one awaited its turn. Only a submission that stays held when everything is
to be released and a handler fails can be passed otherwise. Main statement:
`Session.delivered_order`.
-/

namespace PacketLink.Script

/-- What can happen in a session. -/
inductive Move where
  | call (step : Step)
  /-- One turn of the event loop. -/
  | turn

namespace Session

/-- What a move does to a session. -/
def move (s : Session) : Move → Session
  | .call step => (s.apply step).1
  | .turn => { s with network := s.network.turn.getD s.network }

/-- A new session after some moves. -/
def run (moves : List Move) : Session := moves.foldl move .new

/-- The submissions of callers on their way from a station, after some moves. -/
def traffic (moves : List Move) (station : Nat) : Traffic := (run moves).network.traffic station

/-- A handler fails when the endpoint of `station` is to release everything. -/
def Fails (s : Session) (move : Move) (station : Nat) : Prop :=
  ∃ endpoint, move = .call (.resume endpoint) ∧ s.station? endpoint = some station ∧
    (s.network.resume station).2.isSome = true

/-- The submission `x` stayed held when the endpoint of `station` was to release everything and a
handler failed. -/
def LeftBehind (moves : List Move) (station x : Nat) : Prop :=
  ∃ earlier move later, moves = earlier ++ move :: later ∧ (run earlier).Fails move station ∧
    x ∈ (traffic (earlier ++ [move]) station).held

/-- The submission `x` was left behind so before `y` came to the peer of `station`. -/
def LeftBehindBefore (moves : List Move) (station x y : Nat) : Prop :=
  ∃ earlier later, moves = earlier ++ later ∧ LeftBehind earlier station x ∧
    y ∉ (traffic earlier station).delivered

/-- The submission `y` was held, and it was released while `x` awaited its turn at `station`. -/
def Overtakes (moves : List Move) (station y x : Nat) : Prop :=
  ∃ earlier move later, moves = earlier ++ move :: later ∧
    y ∈ (traffic earlier station).held ∧
    y ∈ (traffic (earlier ++ [move]) station).delivered ∧
    x ∈ (traffic (earlier ++ [move]) station).awaiting

/-! ## Moves -/

section Calls

open Network (Conveys Spares)

variable (s : Session) {failed : Nat → Prop}

/-- What moves the traffic along at every station does so at the one that is named, if there is one.
-/
lemma conveys_atStation {name : String} {run : Network → Nat → Network × Answer}
    (conveys : ∀ station, s.station? name = some station →
      Conveys failed s.network (run s.network station).1) :
    Conveys failed s.network (s.atStation name run).1.network := by
  unfold atStation
  split
  · exact conveys _ ‹_›
  · exact (Spares.refl _).conveys

/-- What moves the traffic along at every node does so at the one that is named, if there is one. -/
lemma conveys_atNode {name : String} {run : Network → Nat → Network × Answer}
    (conveys : ∀ node, Conveys failed s.network (run s.network node).1) :
    Conveys failed s.network (s.atNode name run).1.network := by
  unfold atNode
  split
  · exact conveys _
  · exact (Spares.refl _).conveys

/-- What spares callers for every request does so for the one that is named. -/
lemma conveys_withOwner {name : String} {run : Network → Owner → Network × Answer}
    (spares : ∀ owner, Spares s.network (run s.network owner).1) :
    Conveys failed s.network (s.withOwner name run).1.network := by
  unfold withOwner
  split
  · exact (spares _).conveys
  · exact (Spares.refl _).conveys

/-- Creating a request moves no submission of a caller. -/
lemma conveys_create (name : String) (options : RequestOptions) :
    Conveys failed s.network (s.create name options).1.network := by
  unfold create
  split
  · exact (Spares.refl _).conveys
  · exact (Spares.addBench ..).conveys

/-- Creating a connection moves no submission of a caller. -/
lemma conveys_connect (name endpoint : String) (options : ConnectionOptions) :
    Conveys failed s.network (s.connect name endpoint options).1.network := by
  have added (n : Network) (station : Nat) (connection : Connection) (path : List String) :
      Spares n (n.addNode station connection path) := ⟨fun _ => rfl, rfl, rfl⟩
  unfold connect
  split
  · exact (added ..).conveys
  · exact (Spares.refl _).conveys
  · exact (Spares.refl _).conveys

/-- A call moves the submissions of callers along, and fails only where a handler does. -/
lemma conveys_apply (step : Step) :
    Conveys (s.Fails (.call step)) s.network (s.apply step).1.network := by
  have unchanged : Spares s.network s.network := .refl _
  cases step with
  | link first second size => exact (Spares.addLink ..).conveys
  | endpoint name size peer => exact (Spares.addStation ..).conveys
  | maxPacketSize name =>
    refine s.conveys_atStation fun station _ => ?_
    split <;> exact unchanged.conveys
  | setMaxPacketSize name size =>
    exact s.conveys_atStation fun station _ =>
      (Spares.modifyEndpoint _ station (f := (·.setMaxPacketSize size)) fun e _ => rfl).conveys
  | failNext name message =>
    exact s.conveys_atStation fun station _ =>
      (Spares.modifyEndpoint _ station (f := (·.failNext _)) fun e _ => rfl).conveys
  | hold name => exact s.conveys_atStation fun station _ => .hold ..
  | resume name =>
    refine s.conveys_atStation fun station there => .resume _ _ fun fails => ?_
    exact ⟨name, rfl, there, fails⟩
  | release name error =>
    refine s.conveys_atStation fun station _ => ?_
    have released : Conveys (s.Fails (.call (.release name error))) s.network
      (s.network.release station error).1 := .release ..
    split <;>
    · rename_i result
      rw [result] at released
      exact released
  | drop name rule =>
    exact s.conveys_atStation fun station _ =>
      (Spares.modifyEndpoint _ station (f := (·.setDrop rule)) fun e _ => rfl).conveys
  | submit name data => exact s.conveys_atStation fun station _ => .submitAsCaller ..
  | handle name handler mode =>
    exact s.conveys_atStation fun station _ => (Spares.of_still (.handle ..)).conveys
  | unhandle handler => exact (Spares.of_still (.unhandle ..)).conveys
  | counter name format skip =>
    unfold apply
    dsimp only
    split
    · exact ⟨fun _ => .stay _, .refl _⟩
    · exact unchanged.conveys
  | peek name =>
    unfold apply
    dsimp only
    split <;> exact unchanged.conveys
  | create name options => exact s.conveys_create name options
  | startRequest request counter modes =>
    unfold apply
    dsimp only
    split
    · exact s.conveys_withOwner fun owner => .startRequest ..
    · exact unchanged.conveys
  | answer request outcome =>
    unfold apply
    dsimp only
    split
    · exact (Spares.answerOldest ..).conveys
    · exact unchanged.conveys
  | cancel request =>
    refine s.conveys_withOwner fun owner => ?_
    have cancelled := Spares.cancelRequest s.network owner
    split <;>
    · rename_i result
      rw [result] at cancelled
      exact cancelled
  | abort signal => exact (Spares.abort ..).conveys
  | connection name endpoint options => exact s.conveys_connect name endpoint options
  | start name => exact s.conveys_atNode fun node => (Spares.startNode ..).conveys
  | close name => exact s.conveys_atNode fun node => (Spares.closeNode ..).conveys
  | reset name => exact s.conveys_atNode fun node => (Spares.resetNode ..).conveys
  | send name request content signal =>
    exact s.conveys_atNode fun node => (Spares.send ..).conveys
  | receive name data => exact s.conveys_atNode fun node => .receive ..
  | listen name listener event mode =>
    exact s.conveys_atNode fun node => ⟨fun _ => .stay _, .refl _⟩
  | unlisten listener => exact (Spares.unlisten ..).conveys
  | awaitEvent name waiter event =>
    exact s.conveys_atNode fun node => ⟨fun _ => .stay _, .refl _⟩
  | idle => exact unchanged.conveys

/-- Every move moves the submissions of callers along. -/
lemma conveys_move (move : Move) :
    Conveys (s.Fails move) s.network (s.move move).network := by
  cases move with
  | call step => exact s.conveys_apply step
  | turn => exact .turn _

end Calls

/-! ## Runs -/

variable (moves : List Move) (station : Nat) {x y : Nat}

/-- The last move is made in the session of those before it. -/
lemma run_concat (move : Move) : run (moves ++ [move]) = (run moves).move move :=
  List.foldl_concat ..

/-- The event loop comes to rest by turns. -/
lemma exists_run_settle (limit : Nat) :
    ∃ turns, { run moves with network := (run moves).network.settleWithin limit } =
      run (moves ++ turns) := by
  induction limit generalizing moves with
  | zero => exact ⟨[], by rw [List.append_nil]; rfl⟩
  | succ limit ih =>
    cases next : (run moves).network.turn with
    | none => exact ⟨[], by simp [Network.settleWithin, next]⟩
    | some n =>
      have turned : run (moves ++ [.turn]) = { run moves with network := n } := by
        rw [run_concat, move, next, Option.getD_some]
      obtain ⟨turns, same⟩ := ih (moves ++ [.turn])
      rw [turned, List.append_assoc] at same
      refine ⟨.turn :: turns, ?_⟩
      rw [Network.settleWithin, next]
      exact same

/-- Whatever a script does is such a run. -/
lemma exists_run_eq (steps : List (Step × Bool)) :
    ∃ moves, steps.foldl (fun s step => (s.step step.1 step.2).1) .new = run moves := by
  induction steps using List.reverseRecOn with
  | nil => exact ⟨[], rfl⟩
  | append_singleton steps step ih =>
    obtain ⟨moves, before⟩ := ih
    have called : run (moves ++ [.call step.1]) = ((run moves).apply step.1).1 := run_concat ..
    rw [List.foldl_concat, before, Session.step]
    dsimp only
    rw [← called]
    split
    · obtain ⟨turns, same⟩ := exists_run_settle (moves ++ [.call step.1]) turnLimit
      exact ⟨moves ++ [.call step.1] ++ turns, same⟩
    · exact ⟨_, rfl⟩

/-- One more move is one step of the traffic. -/
lemma step_run (move : Move) :
    Traffic.Step ((run moves).Fails move station) (traffic moves station)
      (traffic (moves ++ [move]) station) := by
  rw [traffic, traffic, run_concat]
  exact ((run moves).conveys_move move).step station

/-- What was seen of packets in a session are whole visits. -/
lemma visited_run : Network.Visited .empty (run moves).network := by
  induction moves using List.reverseRecOn with
  | nil => exact .refl _
  | append_singleton moves move ih =>
    rw [run_concat]
    exact ih.trans ((run moves).conveys_move move).visited

/-- In every session the submissions of callers are where they can be. -/
lemma orderly_run : (traffic moves station).Orderly := by
  induction moves using List.reverseRecOn with
  | nil => exact ⟨.nil, .nil, fun _ => Nat.zero_le _, fun _ _ => rfl⟩
  | append_singleton moves move ih => exact ih.step (step_run moves station move)

/-- A submission that was left behind stays one that was. -/
lemma LeftBehind.snoc {moves : List Move} {station x : Nat} (behind : LeftBehind moves station x)
    (move : Move) : LeftBehind (moves ++ [move]) station x := by
  obtain ⟨earlier, first, later, rfl, fails, held⟩ := behind
  exact ⟨earlier, first, later ++ [move], by simp, fails, held⟩

/-- A submission that is held is in nobody's way unless it was left behind. -/
lemma clear_run : (traffic moves station).Clear (LeftBehind moves station) := by
  induction moves using List.reverseRecOn with
  | nil => exact ⟨fun _ _ held => (by cases held), fun _ held => by cases held⟩
  | append_singleton moves move ih =>
    obtain ⟨of_open, of_lt⟩ := ih.step (orderly_run moves station) (step_run moves station move)
    have behind {x : Nat} (left : LeftBehind moves station x ∨ (run moves).Fails move station ∧
        x ∈ (traffic (moves ++ [move]) station).held) : LeftBehind (moves ++ [move]) station x := by
      obtain before | ⟨fails, held⟩ := left
      · exact before.snoc move
      · exact ⟨moves, move, [], rfl, fails, held⟩
    exact ⟨fun opens x held => behind (of_open opens x held),
      fun x held y awaits lt => behind (of_lt x held y awaits lt)⟩

/-- What has come to the peer stays in its order. -/
lemma exists_sent_run (later : List Move) :
    ∃ sent, (traffic (moves ++ later) station).delivered =
      (traffic moves station).delivered ++ sent := by
  induction later using List.reverseRecOn with
  | nil => exact ⟨[], by rw [List.append_nil, List.append_nil]⟩
  | append_singleton later move ih =>
    obtain ⟨sent, before⟩ := ih
    obtain ⟨sent', after⟩ := (step_run (moves ++ later) station move).exists_sent
    exact ⟨sent ++ sent', by rw [← List.append_assoc, after, before, List.append_assoc]⟩

variable {moves} {station}

/-- A submission that was left behind before stays one that was. -/
lemma LeftBehindBefore.snoc (behind : LeftBehindBefore moves station x y) (move : Move) :
    LeftBehindBefore (moves ++ [move]) station x y := by
  obtain ⟨earlier, later, rfl, behind, waits⟩ := behind
  exact ⟨earlier, later ++ [move], by simp, behind, waits⟩

/-- What has overtaken another one stays one that has. -/
lemma Overtakes.snoc (overtakes : Overtakes moves station y x) (move : Move) :
    Overtakes (moves ++ [move]) station y x := by
  obtain ⟨earlier, first, later, rfl, held, leaves, awaits⟩ := overtakes
  exact ⟨earlier, first, later ++ [move], by simp, held, leaves, awaits⟩

/-- Whoever overtakes another one comes to the peer first. -/
lemma Overtakes.idxOf_lt (overtakes : Overtakes moves station y x) :
    (traffic moves station).delivered.idxOf y < (traffic moves station).delivered.idxOf x := by
  obtain ⟨earlier, move, later, rfl, _, leaves, awaits⟩ := overtakes
  have waits := (orderly_run (earlier ++ [move]) station).notMem_delivered (.inr awaits)
  obtain ⟨sent, after⟩ := exists_sent_run (earlier ++ [move]) station later
  rw [List.append_assoc, List.singleton_append] at after
  rw [after]
  exact Traffic.idxOf_lt_of_append leaves waits

/-- Whoever comes to the peer before an earlier submission has overtaken it, if that was not left
behind. -/
lemma overtakes_of_idxOf_lt (lt : x < y) (leaves : y ∈ (traffic moves station).delivered)
    (has : (traffic moves station).Has x)
    (first : (traffic moves station).delivered.idxOf y <
      (traffic moves station).delivered.idxOf x) :
    Overtakes moves station y x ∨ LeftBehindBefore moves station x y := by
  induction moves using List.reverseRecOn with
  | nil => cases leaves
  | append_singleton moves move ih =>
    have step := step_run moves station move
    have orderly := orderly_run moves station
    by_cases before : y ∈ (traffic moves station).delivered
    · have old := Nat.lt_trans lt (orderly.lt_next (.inr (.inr before)))
      refine (ih before (step.has old has) ?_).imp (·.snoc move) (·.snoc move)
      obtain ⟨sent, after⟩ := step.exists_sent
      rw [after, List.idxOf_append_of_mem before] at first
      by_cases also : x ∈ (traffic moves station).delivered
      · rwa [List.idxOf_append_of_mem also] at first
      · have last : ((traffic moves station).delivered ++ []).idxOf y <
            ((traffic moves station).delivered ++ []).idxOf x :=
          Traffic.idxOf_lt_of_append before also
        rwa [List.append_nil] at last
    · obtain ⟨held, awaits⟩ | ⟨awaited, behind⟩ :=
        step.overtakes orderly lt leaves before has first
      · exact .inl ⟨moves, move, [], rfl, held, leaves, awaits⟩
      · -- the earlier one stays held while the later one has its turn
        have left := (clear_run moves station).of_lt x behind y awaited lt
        exact .inr ⟨moves, [move], rfl, left, before⟩

variable (moves station)

/-- Whatever happens in a session, each submission of a caller comes to the peer at most once. Of
two that do, a later one comes first when it overtakes the earlier one, and otherwise only when that
was left held by a release of everything in which a handler failed. What was seen of packets are
whole visits, so handlers take packets in the same order. -/
theorem delivered_order :
    (∃ visits : List Visit,
      (run moves).network.lookBack Observation.passage? = visits.flatMap (·.passages)) ∧
    ((run moves).network.delivered station).Nodup ∧
    ∀ x y, x < y →
      x ∈ (run moves).network.delivered station → y ∈ (run moves).network.delivered station →
      (Overtakes moves station y x →
        ((run moves).network.delivered station).idxOf y <
          ((run moves).network.delivered station).idxOf x) ∧
      (¬Overtakes moves station y x → ¬LeftBehindBefore moves station x y →
        ((run moves).network.delivered station).idxOf x <
          ((run moves).network.delivered station).idxOf y) := by
  refine ⟨visited_run moves, (orderly_run moves station).nodup_delivered,
    fun x y lt first second => ⟨Overtakes.idxOf_lt, fun alone fine => ?_⟩⟩
  by_contra behind
  have apart : ((run moves).network.delivered station).idxOf y ≠
      ((run moves).network.delivered station).idxOf x :=
    fun same => Nat.ne_of_gt lt ((List.idxOf_inj second).mp same)
  obtain overtakes | left := overtakes_of_idxOf_lt lt second (.inr (.inr first))
    (Nat.lt_of_le_of_ne (Nat.le_of_not_lt behind) apart)
  · exact alone overtakes
  · exact fine left

/-- A packet that was held overtakes one that awaits its turn, when it is released at once. And one
that is accepted comes before one that stays held, when a handler has failed. -/
theorem delivered_overtaken :
    let linked (mode : HandlerMode) : List Move :=
      [.call (.link "a" "b" (.ofNat 2)), .call (.handle "b" "h" mode)]
    let released := (run (linked .record ++ [.call (.submit "a" [1]), .call (.hold "a"),
      .call (.submit "a" [2]), .call (.resume "a"), .turn])).network
    let stuck := (run (linked (.fail "no") ++ [.call (.hold "a"), .call (.submit "a" [1]),
      .call (.submit "a" [2]), .call (.resume "a"), .call (.submit "a" [3]), .turn,
      .call (.release "a" none)])).network
    (released.lookBack Observation.passage? =
        [.delivered 0 ⟨[2], .caller 0 1⟩, .given (.named "h") [2],
          .delivered 0 ⟨[1], .caller 0 0⟩, .given (.named "h") [1]] ∧
      0 ∈ released.delivered 0 ∧ 1 ∈ released.delivered 0 ∧
      ¬(released.delivered 0).idxOf 0 < (released.delivered 0).idxOf 1) ∧
    stuck.delivered 0 = [0, 2, 1] :=
  ⟨⟨rfl, by decide +kernel⟩, by decide +kernel⟩

end Session

end PacketLink.Script
