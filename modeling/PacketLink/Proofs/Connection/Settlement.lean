import PacketLink.Proofs.Connection.Run
import PacketLink.Proofs.Connection.Stream

/-!
# What is announced about requests

`outcomes` are the outcomes that the write-settled events announce for a request. On any path they
are what the request has come to: one outcome from the moment when it settles, and no other one
before or after (`Path.result?_toList`). `Effect.place?` is the request that an effect is about, and
`Move.of_place?` says which requests a move is about, so that nothing is asked for about a settled
request but to record outcomes that come too late (`Path.ignored_of_settled`).
-/

namespace PacketLink

/-- The outcome of a request that has settled. -/
def WriteRequest.result? (r : WriteRequest) : Option WriteResult :=
  match r.status with
  | .settled result => some result
  | _ => none

/-- The outcome that an event announces for the request in place `k`. -/
def Event.outcome? (k : Nat) : Event → Option WriteResult
  | .writeSettled j result => if j = k then some result else none
  | _ => none

namespace WriteRequest

variable {r : WriteRequest} {result : WriteResult}

/-- A request has a result once it has settled with it. -/
lemma result?_eq_some : r.result? = some result ↔ r.status = .settled result := by
  unfold result?
  split <;> simp_all

/-- A request that has not settled has no result. -/
lemma result?_eq_none (unsettled : r.isSettled = false) : r.result? = none := by
  unfold result?
  split
  · rename_i status
    cases (r.isSettled_eq status).symm.trans unsettled
  · rfl

/-- A request that has settled has a result. -/
lemma exists_result (settled : r.isSettled = true) : ∃ result, r.result? = some result := by
  cases status : r.status with
  | settled result => exact ⟨result, result?_eq_some.mpr status⟩
  | pending => cases (r.isSettled_eq status).symm.trans settled
  | inFlight => cases (r.isSettled_eq status).symm.trans settled

end WriteRequest

namespace Connection

/-- The place of the request that an effect is about. -/
def Effect.place? : Effect → Option Nat
  | .writeLog k _ => some k
  | .submit k _ _ => some k
  | .resolve k _ => some k
  | .emit (.writeSettled k _) => some k
  | _ => none

/-- The outcomes that were announced for the request in place `k`, in order. -/
def outcomes (trace : List Effect) (k : Nat) : List WriteResult :=
  (events trace).filterMap (Event.outcome? k)

/-- The outcome of the request in place `k`, if there is a request and it has settled. -/
def result? (c : Connection) (k : Nat) : Option WriteResult :=
  c.requests[k]?.bind WriteRequest.result?

variable {c c' : Connection} {inputs : List Input} {trace effects : List Effect} {j k : Nat}
  {r s : WriteRequest} {result : WriteResult}

/-- The outcomes in a trace are those in its parts. -/
@[simp] lemma outcomes_append (trace later : List Effect) (k : Nat) :
    outcomes (trace ++ later) k = outcomes trace k ++ outcomes later k := by
  simp [outcomes]

/-- A settlement tells one outcome, that of its own request. -/
lemma outcomes_settlement (j : Nat) (r : WriteRequest) (result : WriteResult) (k : Nat) :
    outcomes (settlement j r result) k = if j = k then [result] else [] := by
  have same : outcomes (settlement j r result) k =
      (Event.outcome? k (.writeSettled j result)).toList := by
    simp only [outcomes, events, settlement, WriteRequest.settle, List.flatMap_cons,
      List.flatMap_nil, relay, List.cons_append, List.nil_append, List.filterMap_cons,
      List.filterMap_nil, Effect.event?]
    split <;> simp_all
  rw [same, Event.outcome?]
  split <;> rfl

/-- A start is about the request that is started. -/
lemma place?_of_starts {effect : Effect} (starts : effect.starts k = true) :
    effect.place? = some k := by
  cases effect with
  | writeLog j entry =>
    cases entry with
    | started => exact congrArg some (of_decide_eq_true starts)
    | _ => cases starts
  | _ => cases starts

/-- What a connection asks for when it takes a packet is about no request. -/
lemma place?_receive (c : Connection) (bytes : Bytes) :
    ∀ effect ∈ (c.receive bytes).1.effects, effect.place? = none := by
  unfold receive
  split
  · rename_i packet _
    dsimp only
    cases ((c.inbound packet.kind).receive packet).2 with
    | error error data =>
      cases data <;> cases packet.kind <;> simp [ask, announce, report, delivery, Effect.place?]
    | _ => cases packet.kind <;> simp [ask, announce, delivery, Effect.place?]
  · simp [ask, report, Effect.place?]

/-- Nothing is announced about a request by effects that are about something else. -/
lemma outcomes_eq_nil (apart : ∀ effect ∈ effects, effect.place? ≠ some k) :
    outcomes effects k = [] := by
  rw [outcomes, List.filterMap_eq_nil_iff]
  intro event mem
  obtain ⟨effect, asked, emits⟩ := List.mem_filterMap.mp mem
  cases effect with
  | emit event' =>
    cases emits
    cases event with
    | writeSettled j result => exact if_neg fun same => apart _ asked (congrArg some same)
    | _ => rfl
  | _ => cases emits

/-- The result in a place is that of the request there. -/
lemma result?_eq (get : c.requests[k]? = some r) : c.result? k = r.result? := by
  rw [result?, get, Option.bind_some]

/-- The results depend on the requests alone. -/
lemma result?_congr (requests : c'.requests = c.requests) (k : Nat) :
    c'.result? k = c.result? k := by
  rw [result?, requests, result?]

/-- Replacing a request changes the result in its place alone. -/
lemma result?_setRequest (get : c.requests[j]? = some r) (s : WriteRequest) (k : Nat) :
    (c.setRequest j s).result? k = if k = j then s.result? else c.result? k := by
  rw [result?, getElem?_setRequest get]
  split <;> rfl

/-- A new request adds its own result, if it has one. -/
lemma result?_concat (r : WriteRequest) (k : Nat) :
    Connection.result? { c with requests := c.requests ++ [r], queue := c.queue ++ [j] } k =
      if c.requests.length = k then r.result? else c.result? k := by
  unfold result?
  split
  · rename_i new
    simp [← new]
  · rename_i old
    rw [List.getElem?_append]
    split
    · rfl
    · rename_i beyond
      rw [List.getElem?_eq_none (by simp; omega), List.getElem?_eq_none (by omega)]

/-- One request settles, and this is announced. -/
lemma result?_settleRequest (get : c.requests[j]? = some r) (unsettled : r.isSettled = false)
    (sentCount : Nat) (result : WriteResult) (s : WriteRequest) (k : Nat) :
    ((c.settleRequest j r sentCount result).result? k).toList =
      (c.result? k).toList ++ outcomes (settlement j s result) k := by
  rw [settleRequest, result?_congr (requests_vacate ..), result?_setRequest get,
    outcomes_settlement]
  by_cases here : k = j
  · rw [if_pos here, if_pos here.symm, here, result?_eq get, WriteRequest.result?_eq_none unsettled]
    rfl
  · rw [if_neg here, if_neg (Ne.symm here), List.append_nil]

/-- A move tells the result that a request has come to by it, and no other. -/
lemma Move.result?_toList (move : Move c inputs effects c') (i : Nat) :
    (c'.result? i).toList = (c.result? i).toList ++ outcomes effects i := by
  -- a request that goes on has no outcome before or after
  have going {k : Nat} {r s : WriteRequest} (get : c.requests[k]? = some r)
      (before : r.isSettled = false) (after : s.isSettled = false) :
      ((c.setRequest k s).result? i).toList = (c.result? i).toList ++ [] := by
    rw [result?_setRequest get, List.append_nil]
    split
    · rename_i here
      rw [here, result?_eq get, WriteRequest.result?_eq_none before,
        WriteRequest.result?_eq_none after]
    · rfl
  cases move with
  | @join r _ _ pending =>
    rw [result?_concat]
    split
    · rename_i new
      rw [WriteRequest.result?_eq_none (r.isSettled_eq pending), result?,
        List.getElem?_eq_none (Nat.le_of_eq new)]
      rfl
    · exact (List.append_nil _).symm
  | @refuse r =>
    rw [result?_concat, outcomes_settlement]
    split
    · rename_i new
      rw [result?, List.getElem?_eq_none (Nat.le_of_eq new)]
      rfl
    · exact (List.append_nil _).symm
  | launch _ _ get pending => exact going get (WriteRequest.isSettled_eq pending) rfl
  | follow get flying =>
    have unsettled := WriteRequest.isSettled_eq flying
    exact going get unsettled unsettled
  | complete get flying =>
    exact result?_settleRequest get (WriteRequest.isSettled_eq flying) ..
  | @fail k r fault told get flying =>
    exact result?_settleRequest get (WriteRequest.isSettled_eq flying) r.sentCount
      (.failed (.submit ⟨r.sentCount, fault, told⟩) r.sentCount) r i
  | cancel get unsettled => exact result?_settleRequest get unsettled ..
  | retire =>
    rw [outcomes_eq_nil (by split <;> simp [Effect.place?]), List.append_nil]
    rfl
  | take bytes =>
    have apart : ∀ effect ∈ (c.receive bytes).1.effects, effect.place? ≠ some i :=
      fun effect mem about => by cases (place?_receive c bytes effect mem).symm.trans about
    have same : (c.receive bytes).1.connection.requests = c.requests := by rw [connection_receive]
    rw [outcomes_eq_nil apart, List.append_nil, result?_congr same]
  | _ => exact (List.append_nil _).symm

/-- What is announced about a request is its outcome, once it has one. -/
lemma Path.result?_toList (path : Path c inputs effects c') (k : Nat) :
    (c'.result? k).toList = (c.result? k).toList ++ outcomes effects k := by
  induction path with
  | rest => exact (List.append_nil _).symm
  | step _ move ih => rw [move.result?_toList, ih, outcomes_append, List.append_assoc]

/-- A settled request was announced with its outcome, and only once. -/
lemma Path.outcomes_eq {layout : Layout} {maxPacketCount maxMessageSize : Number}
    (path : Path (new layout maxPacketCount maxMessageSize) inputs trace c)
    (get : c.requests[k]? = some r) (settled : r.status = .settled result) :
    outcomes trace k = [result] := by
  have announced := path.result?_toList k
  rw [result?_eq get, WriteRequest.result?_eq_some.mpr settled] at announced
  exact announced.symm

/-! ## What effects are about -/

/-- What a settlement asks for is about the request that settles. -/
lemma place?_settlement (k : Nat) (r : WriteRequest) (result : WriteResult) :
    ∀ effect ∈ settlement k r result, effect.place? = some k := by
  simp [settlement, WriteRequest.settle, relay, Effect.place?]

/-- What a submission asks for is about the request that submits. -/
lemma place?_submission (c : Connection) (k i : Nat) (f : Fragment) :
    ∀ effect ∈ c.submission k i f, effect.place? = some k := by
  simp [submission, Effect.place?]

/-- No move removes a request. -/
lemma Move.length_le (move : Move c inputs effects c') :
    c.requests.length ≤ c'.requests.length := by
  have messages := congrArg List.length move.messages_eq
  simp only [List.length_map, List.length_append] at messages
  omega

/-- What a move is about: a new request that is refused, or an old one that has not settled, unless
an outcome for it came too late. -/
lemma Move.of_place? (move : Move c inputs effects c') {effect : Effect} (mem : effect ∈ effects)
    (about : effect.place? = some k) :
    k = c.requests.length ∧ k < c'.requests.length ∨
      ∃ r, c.requests[k]? = some r ∧
        (r.isSettled = true →
          ∃ index phase, effect = .writeLog k (.outcomeIgnored index phase)) := by
  have busy {j : Nat} {s : WriteRequest} (get : c.requests[j]? = some s)
      (unsettled : s.isSettled = false) (same : effect.place? = some j) :
      ∃ r, c.requests[k]? = some r ∧
        (r.isSettled = true →
          ∃ index phase, effect = .writeLog k (.outcomeIgnored index phase)) := by
    obtain rfl := Option.some.inj (same.symm.trans about)
    exact ⟨s, get, fun settled => by cases unsettled.symm.trans settled⟩
  cases move with
  | refuse =>
    obtain rfl := Option.some.inj ((place?_settlement _ _ _ effect mem).symm.trans about)
    exact .inl ⟨rfl, by simp⟩
  | launch _ _ get pending =>
    have unsettled := WriteRequest.isSettled_eq pending
    obtain rfl | mem := List.mem_cons.mp mem
    · exact .inr (busy get unsettled rfl)
    · exact .inr (busy get unsettled (place?_submission _ _ _ _ effect mem))
  | follow get flying =>
    exact .inr (busy get (WriteRequest.isSettled_eq flying)
      (place?_submission _ _ _ _ effect mem))
  | complete get flying =>
    exact .inr (busy get (WriteRequest.isSettled_eq flying)
      (place?_settlement _ _ _ effect mem))
  | fail _ get flying =>
    have unsettled := WriteRequest.isSettled_eq flying
    obtain rfl | mem := List.mem_cons.mp mem
    · exact .inr (busy get unsettled rfl)
    · exact .inr (busy get unsettled (place?_settlement _ _ _ effect mem))
  | cancel get unsettled => exact .inr (busy get unsettled (place?_settlement _ _ _ effect mem))
  | note _ get =>
    obtain rfl := List.mem_singleton.mp mem
    cases about
    exact .inr ⟨_, get, fun _ => ⟨_, _, rfl⟩⟩
  | take bytes => cases (place?_receive c bytes effect mem).symm.trans about
  | restart | drain =>
    obtain rfl := List.mem_singleton.mp mem
    cases about
  | listen =>
    obtain rfl | mem := List.mem_cons.mp mem
    · cases about
    · obtain rfl := List.mem_singleton.mp mem
      cases about
  | retire =>
    split at mem
    · obtain rfl := List.mem_singleton.mp mem
      cases about
    · cases mem
  | join | skip | strand => cases mem

/-- Whatever a connection has asked for is about requests that it has. -/
lemma Path.place?_lt {layout : Layout} {maxPacketCount maxMessageSize : Number}
    (path : Path (new layout maxPacketCount maxMessageSize) inputs trace c) {effect : Effect}
    (mem : effect ∈ trace) (about : effect.place? = some k) : k < c.requests.length := by
  induction path with
  | rest => cases mem
  | step _ move ih =>
    obtain mem | mem := List.mem_append.mp mem
    · exact Nat.lt_of_lt_of_le (ih mem) move.length_le
    · obtain ⟨_, new⟩ | ⟨r, get, _⟩ := move.of_place? mem about
      · exact new
      · exact Nat.lt_of_lt_of_le (List.getElem?_eq_some_iff.mp get).1 move.length_le

/-- All that a connection still asks for about a settled request is a record of an outcome that came
too late. -/
lemma Path.ignored_of_settled (path : Path c inputs effects c') (get : c.requests[k]? = some r)
    (settled : r.isSettled = true) {effect : Effect} (mem : effect ∈ effects)
    (about : effect.place? = some k) :
    ∃ index phase, effect = .writeLog k (.outcomeIgnored index phase) := by
  induction path with
  | rest => cases mem
  | step path move ih =>
    obtain mem | mem := List.mem_append.mp mem
    · exact ih mem
    · obtain ⟨r', get', ahead⟩ := path.ahead get
      obtain rfl := ahead.settled settled
      obtain ⟨rfl, _⟩ | ⟨s, get'', ignored⟩ := move.of_place? mem about
      · rw [List.getElem?_eq_none (Nat.le_refl _)] at get'
        cases get'
      · obtain rfl := Option.some.inj (get'.symm.trans get'')
        exact ignored settled

end Connection

end PacketLink
