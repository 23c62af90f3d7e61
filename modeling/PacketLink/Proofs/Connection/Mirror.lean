import PacketLink.Proofs.Connection.Omission

/-!
# Turns without some requests

Left alone, the omitted requests make no difference: an operation on a connection, and the same
operation on the connection without them, are two turns of which the second is the first without
them, as long as none of them is started (`Turn.Skips`). There is one lemma for each operation in
`Turn.Mirrors`. An operation on an omitted request is matched by a turn that does nothing
(`cancel_omitted`, `conclude_omitted`, `enqueue_omitted`), because a connection at rest has nothing
to start when such a request leaves the queue.
-/

namespace PacketLink.Connection

/-- A turn without the omitted requests. -/
def Turn.without (omitted : Omitted) (turn : Turn) : Turn :=
  ⟨turn.connection.without omitted, traceWithout omitted turn.effects, turn.refused⟩

/-- A turn that goes through and starts no omitted request. -/
structure Turn.Skips (omitted : Omitted) (turn : Turn) : Prop where
  refused_eq : turn.refused = none
  unstarted : Unstarted omitted turn.effects

/-- A turn `turn'` is `turn` without the omitted requests, and none of them comes into the slot. -/
structure Turn.Mirrors (omitted : Omitted) (turn turn' : Turn) : Prop where
  without_eq : turn.without omitted = turn'
  apart : turn.connection.Apart omitted

variable {omitted : Omitted} {c : Connection} {j k : Nat} {r : WriteRequest}

/-! ## Connections -/

namespace Apart

/-- The slot is free without the omitted requests exactly if it is. -/
lemma active_eq_none (apart : c.Apart omitted) :
    (c.without omitted).active = none ↔ c.active = none := by
  constructor
  · intro free
    cases active : c.active with
    | none => rfl
    | some k =>
      have left : omitted.place? k = none := by simpa [without, active] using free
      exact absurd left (apart.slot active)
  · intro free
    rw [without, free, Option.bind_none]

/-- The slot is taken without the omitted requests exactly if it is. -/
lemma isSome_active (apart : c.Apart omitted) :
    (c.without omitted).active.isSome = c.active.isSome := by
  rw [Bool.eq_iff_iff, Option.isSome_iff_ne_none, Option.isSome_iff_ne_none, ne_eq,
    apart.active_eq_none]

/-- A request that stays is in the slot at its new place exactly if it is. -/
lemma active_eq_some (kept : omitted.place? k = some j) :
    (c.without omitted).active = some j ↔ c.active = some k := by
  rw [without, Option.bind_eq_some_iff]
  constructor
  · rintro ⟨i, active, here⟩
    rw [active, Omitted.place?_injective here kept]
  · intro active
    exact ⟨k, active, kept⟩

/-- A request that stays is found at its new place. -/
lemma getElem?_without (kept : omitted.place? k = some j) :
    (c.without omitted).requests[j]? = c.requests[k]? :=
  Omitted.getElem?_remaining kept

/-- A connection at rest is so without the omitted requests. -/
lemma atRest (apart : c.Apart omitted) (rest : c.AtRest) : (c.without omitted).AtRest := by
  intro free
  have empty := rest (apart.active_eq_none.mp free)
  rw [without, empty, List.filterMap_nil]

/-- Replacing a request keeps the omitted ones out of the slot. -/
lemma setRequest (apart : c.Apart omitted) (k : Nat) (r : WriteRequest) :
    (c.setRequest k r).Apart omitted :=
  ⟨by simpa [Connection.setRequest] using apart.bound, apart.slot⟩

/-- Vacating the slot keeps the omitted requests out of it. -/
lemma vacate (apart : c.Apart omitted) (k : Nat) : (c.vacate k).Apart omitted := by
  refine ⟨by simpa using apart.bound, fun {j} active => ?_⟩
  rw [active_vacate] at active
  split at active
  · cases active
  · exact apart.slot active

end Apart

/-- Whatever is in the slot is there without the omitted requests, too. -/
lemma toList_active (c : Connection) :
    (c.without omitted).active.toList = c.active.toList.filterMap omitted.place? := by
  unfold without
  cases c.active with
  | none => rfl
  | some k => cases place : omitted.place? k <;> simp [place]

/-- A request that stays is replaced at its new place. -/
lemma without_setRequest (kept : omitted.place? k = some j) (r : WriteRequest) :
    (c.setRequest k r).without omitted = (c.without omitted).setRequest j r := by
  simp only [without, setRequest, Omitted.remaining_set kept]

/-- Replacing an omitted request cannot be seen without it. -/
lemma without_setRequest_of_none (left : omitted.place? k = none) (r : WriteRequest) :
    (c.setRequest k r).without omitted = c.without omitted := by
  simp only [without, setRequest, Omitted.remaining_set_of_none left]

/-- A request that stays leaves the slot or the queue at its new place. -/
lemma without_vacate (kept : omitted.place? k = some j) :
    (c.vacate k).without omitted = (c.without omitted).vacate j := by
  have slot := Apart.active_eq_some (c := c) kept
  unfold vacate
  by_cases here : c.active = some k
  · rw [if_pos here, if_pos (slot.mpr here)]
    rfl
  · rw [if_neg here, if_neg (mt slot.mp here)]
    simp only [without, Omitted.filterMap_place?_filter kept]

/-- An omitted request leaves the queue unseen. -/
lemma without_vacate_of_none (apart : c.Apart omitted) (left : omitted.place? k = none) :
    (c.vacate k).without omitted = c.without omitted := by
  rw [vacate_of_idle fun active => apart.slot active left]
  simp only [without, Omitted.filterMap_place?_filter_of_none left]

/-- A request that is not omitted goes behind the queue. -/
lemma without_join (kept : omitted.place? k = some j) (c : Connection) :
    Connection.without omitted { c with queue := c.queue ++ [k] } =
      { c.without omitted with queue := (c.without omitted).queue ++ [j] } := by
  simp only [without, List.filterMap_append, List.filterMap_cons_some kept, List.filterMap_nil]

/-- An omitted request joins the queue unseen. -/
lemma without_join_of_none (left : omitted.place? k = none) (c : Connection) :
    Connection.without omitted { c with queue := c.queue ++ [k] } = c.without omitted := by
  simp only [without, List.filterMap_append, List.filterMap_cons_none left, List.filterMap_nil,
    List.append_nil]

/-- The last request is left out. -/
lemma without_concat (wf : c.WellFormed) (r : WriteRequest) :
    Connection.without ⟨c.requests.length, 1⟩ { c with requests := c.requests ++ [r] } = c := by
  have before {k : Nat} (lt : k < c.requests.length) :
      Omitted.place? ⟨c.requests.length, 1⟩ k = some k :=
    Omitted.place?_eq_some.mpr (.inl ⟨lt, rfl⟩)
  have requests : Omitted.remaining ⟨c.requests.length, 1⟩ (c.requests ++ [r]) = c.requests := by
    simp [Omitted.remaining]
  have queue : c.queue.filterMap (Omitted.place? ⟨c.requests.length, 1⟩) = c.queue := by
    rw [List.filterMap_congr fun k mem => before (wf.lt_length mem), List.filterMap_some]
  have active : c.active.bind (Omitted.place? ⟨c.requests.length, 1⟩) = c.active := by
    cases active : c.active with
    | none => rfl
    | some k => exact before (wf.active_lt_length active)
  simp only [without, requests, queue, active]

/-- A packet is taken in the same way without the omitted requests. -/
lemma receive_without (c : Connection) (bytes : Bytes) :
    (c.without omitted).receive bytes =
      ({ (c.receive bytes).1 with
          connection := (c.receive bytes).1.connection.without omitted },
        (c.receive bytes).2) := by
  have layout : (c.without omitted).layout = c.layout := rfl
  have inbound (kind : Kind) : (c.without omitted).inbound kind = c.inbound kind := by
    cases kind <;> rfl
  unfold receive
  rw [layout]
  cases Packet.decode c.layout bytes with
  | error cause => rfl
  | ok packet =>
    dsimp only
    rw [inbound]
    cases packet.kind <;> rfl

/-! ## Effects -/

/-- What a request that stays asks for is asked for from its new place. -/
lemma traceWithout_relay (kept : omitted.place? k = some j) (effects : List WriteRequest.Effect) :
    traceWithout omitted (effects.flatMap (relay k)) = effects.flatMap (relay j) := by
  induction effects with
  | nil => rfl
  | cons effect effects ih =>
    have first : traceWithout omitted (relay k effect) = relay j effect := by
      cases effect <;> simp [traceWithout, relay, Effect.without, Event.without, kept]
    rw [List.flatMap_cons, traceWithout_append, first, ih, List.flatMap_cons]

/-- What an omitted request asks for is left out. -/
lemma traceWithout_relay_of_none (left : omitted.place? k = none)
    (effects : List WriteRequest.Effect) :
    traceWithout omitted (effects.flatMap (relay k)) = [] := by
  induction effects with
  | nil => rfl
  | cons effect effects ih =>
    have first : traceWithout omitted (relay k effect) = [] := by
      cases effect <;> simp [traceWithout, relay, Effect.without, Event.without, left]
    rw [List.flatMap_cons, traceWithout_append, first, ih, List.append_nil]

/-- The start of a request is on record. -/
lemma wasStarted_of_start {counter : Counter} {turn : WriteRequest.Turn}
    (started : r.start counter = .ok turn) (k : Nat) :
    wasStarted (turn.effects.flatMap (relay k)) k = true := by
  unfold WriteRequest.start at started
  split at started
  · cases started
    simp [relay, wasStarted, Effect.starts]
  · cases started

/-! ## Starting the next request -/

section StartFrom

variable {queue : List Nat} {turn : WriteRequest.Turn}

/-- With a request in the slot no other one is started. -/
lemma startFrom_of_busy (busy : c.active.isSome = true) :
    startFrom queue c = stay { c with queue } := by
  cases queue with
  | nil => rfl
  | cons k queue => rw [startFrom, if_pos busy]

/-- A request that has settled is passed over. -/
lemma startFrom_pass (free : ¬c.active.isSome = true)
    (idle : ∀ {r : WriteRequest}, c.requests[k]? = some r → r.isSettled = true) :
    startFrom (k :: queue) c = startFrom queue c := by
  rw [startFrom, if_neg free]
  cases get : c.requests[k]? with
  | none => rfl
  | some r => exact if_pos (idle get)

/-- Another one is started and takes the slot, unless it settles at once. -/
lemma startFrom_start (free : ¬c.active.isSome = true) (get : c.requests[k]? = some r)
    (unsettled : r.isSettled = false) (started : r.start c.counter = .ok turn) :
    startFrom (k :: queue) c =
      (update { c with queue } k turn).andThen fun c =>
        if turn.request.isSettled then startFrom queue c else stay { c with active := some k } := by
  rw [startFrom, if_neg free, get]
  dsimp only
  rw [if_neg (by simp [unsettled]), started]
  dsimp only
  split <;> rfl

/-- A request that was started before breaks the operation off. -/
lemma startFrom_refused (free : ¬c.active.isSome = true) (get : c.requests[k]? = some r)
    (unsettled : r.isSettled = false) {cause : InvalidState}
    (refused : r.start c.counter = .error cause) :
    startFrom (k :: queue) c = ⟨{ c with queue, active := some k }, [], some cause⟩ := by
  rw [startFrom, if_neg free, get]
  dsimp only
  rw [if_neg (by simp [unsettled]), refused]

end StartFrom

/-! ## Turns -/

/-- A turn that skips the omitted requests does so in both of its parts. -/
lemma Turn.Skips.andThen {turn : Turn} {next : Connection → Turn}
    (skips : (turn.andThen next).Skips omitted) :
    turn.Skips omitted ∧ (next turn.connection).Skips omitted := by
  obtain ⟨refused, unstarted⟩ := skips
  cases done : turn.refused with
  | some cause =>
    rw [Turn.andThen, done] at refused
    cases done.symm.trans refused
  | none =>
    rw [andThen_eq done] at refused unstarted
    obtain ⟨first, later⟩ := unstarted_append.mp unstarted
    exact ⟨⟨done, first⟩, ⟨refused, later⟩⟩

namespace Turn.Mirrors

/-- Doing nothing is the same without the omitted requests. -/
lemma stay (apart : c.Apart omitted) :
    (stay c).Mirrors omitted (stay (c.without omitted)) := ⟨rfl, apart⟩

/-- One turn after another. -/
lemma andThen {turn turn' : Turn} {next next' : Connection → Turn}
    (skips : (turn.andThen next).Skips omitted)
    (first : turn.Skips omitted → turn.Mirrors omitted turn')
    (later : turn.connection.Apart omitted → (next turn.connection).Skips omitted →
      (next turn.connection).Mirrors omitted (next' (turn.connection.without omitted))) :
    (turn.andThen next).Mirrors omitted (turn'.andThen next') := by
  obtain ⟨before, after⟩ := skips.andThen
  obtain ⟨rfl, apart⟩ := first before
  obtain ⟨same, apart'⟩ := later apart after
  have done : (turn.without omitted).refused = none := before.refused_eq
  rw [andThen_eq before.refused_eq, andThen_eq done]
  refine ⟨?_, apart'⟩
  rw [show (turn.without omitted).connection = turn.connection.without omitted from rfl, ← same]
  exact congrArg (Turn.mk _ · _) (traceWithout_append _ _)

/-- A request that stays does the same without the omitted ones. -/
lemma update (kept : omitted.place? k = some j) (apart : c.Apart omitted)
    (turn : WriteRequest.Turn) :
    (update c k turn).Mirrors omitted (update (c.without omitted) j turn) := by
  have apart' := apart.setRequest k turn.request
  refine ⟨?_, apart'.bound, apart'.slot⟩
  unfold Connection.update Turn.without
  dsimp only
  rw [traceWithout_relay kept, ← without_setRequest kept]
  rfl

/-- A request that is not omitted takes the slot. -/
lemma take (kept : omitted.place? k = some j) (apart : c.Apart omitted) :
    (Connection.stay { c with active := some k }).Mirrors omitted
      (Connection.stay { c.without omitted with active := some j }) := by
  refine ⟨?_, apart.bound, fun {i} active => ?_⟩
  · simp only [Turn.without, Connection.stay, ask, Connection.without, kept, Option.bind_some]
    rfl
  · cases active
    rw [kept]
    exact Option.some_ne_none j

/-- Starting the requests of a queue passes over the omitted ones. -/
lemma startFrom (queue : List Nat) (apart : c.Apart omitted)
    (skips : (startFrom queue c).Skips omitted) :
    (Connection.startFrom queue c).Mirrors omitted
      (Connection.startFrom (queue.filterMap omitted.place?) (c.without omitted)) := by
  induction queue generalizing c with
  | nil => exact ⟨rfl, apart.bound, apart.slot⟩
  | cons k queue ih =>
    by_cases busy : c.active.isSome = true
    · rw [startFrom_of_busy busy, startFrom_of_busy (apart.isSome_active.trans busy)]
      exact ⟨rfl, apart.bound, apart.slot⟩
    · have busy' : ¬(c.without omitted).active.isSome = true := by rwa [apart.isSome_active]
      by_cases waits : ∃ request, c.requests[k]? = some request ∧ request.isSettled = false
      case neg =>
        -- the request is passed over, and so it is without the omitted ones
        have idle {r : WriteRequest} (get : c.requests[k]? = some r) : r.isSettled = true := by
          cases settled : r.isSettled with
          | true => rfl
          | false => exact absurd ⟨r, get, settled⟩ waits
        rw [startFrom_pass busy idle] at skips ⊢
        cases place : omitted.place? k with
        | none =>
          rw [List.filterMap_cons_none place]
          exact ih apart skips
        | some j =>
          rw [List.filterMap_cons_some place, startFrom_pass busy' fun get' =>
            idle ((Apart.getElem?_without place).symm.trans get')]
          exact ih apart skips
      case pos =>
        obtain ⟨request, get, unsettled⟩ := waits
        cases start : request.start c.counter with
        | error cause =>
          rw [startFrom_refused busy get unsettled start] at skips
          cases skips.refused_eq
        | ok turn =>
          rw [startFrom_start busy get unsettled start] at skips ⊢
          cases place : omitted.place? k with
          | none =>
            -- no omitted request is started
            have begun := wasStarted_of_start start k
            cases begun.symm.trans (skips.andThen.1.unstarted k place)
          | some j =>
            have get' := (Apart.getElem?_without (c := c) place).trans get
            rw [List.filterMap_cons_some place, startFrom_start busy' get' unsettled start]
            have first := update (c := { c with queue }) place ⟨apart.bound, apart.slot⟩ turn
            refine andThen skips (fun _ => first) fun apart skips => ?_
            split
            · rw [if_pos ‹_›] at skips
              exact ih apart skips
            · exact take place apart

/-- Starting what waits passes over the omitted requests. -/
lemma pump (apart : c.Apart omitted) (skips : c.pump.Skips omitted) :
    c.pump.Mirrors omitted (c.without omitted).pump :=
  startFrom c.queue apart skips

/-- Going on behind a request that stays is the same without the omitted ones. -/
lemma proceed (kept : omitted.place? k = some j) (apart : c.Apart omitted)
    (skips : (c.proceed k).Skips omitted) :
    (c.proceed k).Mirrors omitted ((c.without omitted).proceed j) := by
  have next := pump (apart.vacate k) skips
  rwa [without_vacate kept] at next

/-- A turn of a request that stays has the same consequences without the omitted ones. -/
lemma advance (kept : omitted.place? k = some j) (apart : c.Apart omitted)
    (turn : WriteRequest.Turn) (skips : (advance c k turn).Skips omitted) :
    (Connection.advance c k turn).Mirrors omitted
      (Connection.advance (c.without omitted) j turn) := by
  have first := update kept apart turn
  unfold Connection.advance at skips ⊢
  dsimp only at skips ⊢
  split
  · rename_i settled
    rw [if_pos settled] at skips
    exact andThen skips (fun _ => first) fun apart skips => proceed kept apart skips
  · exact first

/-- Cancelling a request that stays is the same without the omitted ones. -/
lemma cancel (kept : omitted.place? k = some j) (apart : c.Apart omitted)
    (skips : (c.cancel k).1.Skips omitted) :
    (c.cancel k).1.Mirrors omitted ((c.without omitted).cancel j).1 := by
  unfold Connection.cancel at skips ⊢
  rw [Apart.getElem?_without kept]
  split
  · rename_i r effects cancelled
    rw [cancelled] at skips
    exact advance kept apart _ skips
  · exact stay apart

/-- Nothing comes of it when an omitted request is cancelled. -/
lemma cancel_omitted (left : omitted.place? k = none) (apart : c.Apart omitted) (rest : c.AtRest)
    (skips : (c.cancel k).1.Skips omitted) :
    (c.cancel k).1.Mirrors omitted (Connection.stay (c.without omitted)) := by
  cases get : c.requests[k]? with
  | none =>
    rw [cancel_of_none get]
    exact stay apart
  | some r =>
    rw [cancel_eq get] at skips ⊢
    split
    · exact stay apart
    · rename_i unsettled
      rw [if_neg unsettled, advance_eq rfl] at skips
      -- it leaves the queue, where something waits behind the slot or nothing at all
      have still : (c.without omitted).pump = Connection.stay (c.without omitted) :=
        pump_eq_stay (apart.atRest rest)
      rw [advance_eq rfl, ← still, ← stay_andThen (c.without omitted) Connection.pump]
      dsimp only at skips ⊢
      refine andThen skips (fun _ => ⟨?_, (apart.setRequest k _).vacate k⟩) pump
      unfold Turn.without
      dsimp only [ask]
      rw [traceWithout_relay_of_none left, without_vacate_of_none (apart.setRequest k _) left,
        without_setRequest_of_none left]
      rfl

/-- An outcome for a request that stays means the same without the omitted ones. -/
lemma conclude (kept : omitted.place? k = some j) (apart : c.Apart omitted) (index : Nat)
    (outcome : Outcome) (skips : (c.conclude k index outcome).Skips omitted) :
    (c.conclude k index outcome).Mirrors omitted
      ((c.without omitted).conclude j index outcome) := by
  unfold Connection.conclude at skips ⊢
  rw [Apart.getElem?_without kept]
  split
  · rename_i r get
    rw [get] at skips
    dsimp only at skips ⊢
    split
    · exact update kept apart _
    · rename_i unsettled
      rw [if_neg unsettled] at skips
      exact advance kept apart _ skips
  · exact stay apart

/-- Nothing comes of it when an outcome for an omitted request is too late. -/
lemma conclude_omitted (left : omitted.place? k = none) (apart : c.Apart omitted)
    (late : ∀ {r : WriteRequest}, c.requests[k]? = some r → r.isInFlight = false) (index : Nat)
    (outcome : Outcome) :
    (c.conclude k index outcome).Mirrors omitted (Connection.stay (c.without omitted)) := by
  cases get : c.requests[k]? with
  | none =>
    rw [Connection.conclude, get]
    exact stay apart
  | some r =>
    rw [conclude_late get (late get)]
    refine ⟨?_, apart⟩
    simp [Turn.without, ask, Connection.stay, traceWithout, Effect.without, left]

/-- Cancelling one request after another, where nothing ever waits behind a free slot. -/
lemma cancelEach (rested : Connection → Prop) (atRest : ∀ {c}, rested c → c.AtRest)
    (kept : ∀ {c} (k : Nat), rested c → rested (c.cancel k).1.connection) (ks : List Nat)
    (rest : rested c) (apart : c.Apart omitted) (skips : (cancelEach ks c).Skips omitted) :
    (Connection.cancelEach ks c).Mirrors omitted
      (Connection.cancelEach (ks.filterMap omitted.place?) (c.without omitted)) := by
  induction ks generalizing c with
  | nil => exact stay apart
  | cons k ks ih =>
    rw [cancelEach_cons] at skips ⊢
    cases place : omitted.place? k with
    | none =>
      rw [List.filterMap_cons_none place,
        ← stay_andThen (c.without omitted) (Connection.cancelEach _)]
      exact andThen skips (cancel_omitted place apart (atRest rest)) (ih (kept k rest))
    | some j =>
      rw [List.filterMap_cons_some place, cancelEach_cons]
      exact andThen skips (cancel place apart) (ih (kept k rest))

/-- Cancelling every request is the same without the omitted ones. -/
lemma cancelAll (apart : c.Apart omitted) (skips : c.cancelAll.Skips omitted) :
    c.cancelAll.Mirrors omitted (c.without omitted).cancelAll := by
  have each {c : Connection} (ks : List Nat) (empty : c.queue = []) (apart : c.Apart omitted) :=
    cancelEach (·.queue = []) (fun empty _ => empty) (fun k empty => (cancel_quiet empty k).2) ks
      empty apart
  have aside : Connection.Apart omitted { c with queue := [] } := ⟨apart.bound, apart.slot⟩
  refine andThen skips (each c.queue rfl aside) fun apart' skips' => ?_
  have empty := (cancelEach_quiet c.queue (c := { c with queue := [] }) rfl).2
  rw [toList_active]
  exact each _ empty apart' skips'

/-! ### Sending -/

/-- Queueing a new request is the same without the omitted ones. -/
lemma enqueue (apart : c.Apart omitted) (r : WriteRequest) (aborted : Bool)
    (skips : (c.enqueue r aborted).Skips omitted) :
    (c.enqueue r aborted).Mirrors omitted ((c.without omitted).enqueue r aborted) := by
  have kept : omitted.place? c.requests.length = some (c.without omitted).requests.length :=
    Omitted.place?_length apart.bound
  have created : Connection.without omitted { c with requests := c.requests ++ [r] } =
      { c.without omitted with requests := (c.without omitted).requests ++ [r] } := by
    simp only [Connection.without, Omitted.remaining_concat apart.bound]
  have bound : omitted.first + omitted.count ≤ (c.requests ++ [r]).length := by
    have := apart.bound
    simp only [List.length_append]
    omega
  have grown : Connection.Apart omitted { c with requests := c.requests ++ [r] } :=
    ⟨bound, apart.slot⟩
  unfold Connection.enqueue at skips ⊢
  dsimp only at skips ⊢
  refine andThen skips (fun skips => ?_) fun apart skips => ?_
  · cases aborted with
    | false =>
      rw [if_neg (by decide), if_neg (by decide), ← created]
      exact stay grown
    | true =>
      rw [if_pos rfl, stay_andThen] at skips
      rw [if_pos rfl, if_pos rfl, stay_andThen, stay_andThen, ← created]
      exact cancel kept grown skips
  · rw [← without_join kept]
    exact pump ⟨apart.bound, apart.slot⟩ skips

/-- A new request that is omitted, and is not started, leaves the others alone. -/
lemma enqueue_omitted (wf : c.WellFormed) (rest : c.AtRest) (r : WriteRequest) (aborted : Bool)
    (skips : (c.enqueue r aborted).Skips ⟨c.requests.length, 1⟩) :
    (c.enqueue r aborted).Mirrors ⟨c.requests.length, 1⟩ (Connection.stay c) := by
  have left : Omitted.place? ⟨c.requests.length, 1⟩ c.requests.length = none :=
    Omitted.place?_eq_none.mpr ⟨Nat.le_refl _, Nat.lt_succ_self _⟩
  have created : Connection.without ⟨c.requests.length, 1⟩
      { c with requests := c.requests ++ [r] } = c := without_concat wf r
  have grown : Connection.Apart ⟨c.requests.length, 1⟩
      { c with requests := c.requests ++ [r] } := by
    refine ⟨by simp, fun active => ?_⟩
    rw [Omitted.place?_eq_some.mpr (.inl ⟨wf.active_lt_length active, rfl⟩)]
    exact Option.some_ne_none _
  have still : c.pump = Connection.stay c := pump_eq_stay rest
  rw [← still, ← stay_andThen c Connection.pump]
  unfold Connection.enqueue at skips ⊢
  dsimp only at skips ⊢
  refine andThen skips (fun skips => ?_) fun apart skips => ?_
  · cases aborted with
    | false =>
      have alone := stay grown
      rwa [created] at alone
    | true =>
      rw [if_pos rfl, stay_andThen] at skips
      have alone := cancel_omitted left grown rest skips
      rw [created] at alone
      rwa [if_pos rfl, stay_andThen]
  · rw [← without_join_of_none left]
    exact pump ⟨apart.bound, apart.slot⟩ skips

/-- A message is sent without the omitted requests as it is with them. -/
lemma send (apart : c.Apart omitted) {id : Nat} {maxPacketSize : Number} {message : Message}
    {signal : Option String} {aborted : Bool} {turn : Turn}
    (sent : c.send id maxPacketSize message signal aborted = .ok turn)
    (skips : turn.Skips omitted) :
    ∃ turn', (c.without omitted).send id maxPacketSize message signal aborted = .ok turn' ∧
      turn.Mirrors omitted turn' := by
  obtain ⟨r, created, opened, rfl⟩ := send_eq sent
  refine ⟨_, ?_, enqueue apart r aborted skips⟩
  have opened' : (c.without omitted).closed = false := opened
  have created' : WriteRequest.create id (c.without omitted).layout maxPacketSize
      (c.without omitted).maxPacketCount signal message = .ok r := created
  rw [Connection.send, if_neg (by simp [opened']), created']

/-- A message is refused without the omitted requests for the same reason. -/
lemma send_refused {id : Nat} {maxPacketSize : Number} {message : Message}
    {signal : Option String} {aborted : Bool} {cause : SendError}
    (refused : c.send id maxPacketSize message signal aborted = .error cause) :
    (c.without omitted).send id maxPacketSize message signal aborted = .error cause := by
  have closed : (c.without omitted).closed = c.closed := rfl
  have layout : (c.without omitted).layout = c.layout := rfl
  have count : (c.without omitted).maxPacketCount = c.maxPacketCount := rfl
  unfold Connection.send at refused ⊢
  rw [closed, layout, count]
  split at refused
  · rename_i ended
    rw [if_pos ended]
    exact refused
  · rename_i opened
    rw [if_neg opened]
    split at refused
    · cases refused
    · exact refused

/-! ### The life of a connection -/

/-- A reset is the same without the omitted requests. -/
lemma reset (apart : c.Apart omitted) (skips : c.reset.Skips omitted) :
    c.reset.Mirrors omitted (c.without omitted).reset :=
  andThen skips (cancelAll apart) fun apart _ => ⟨rfl, apart.bound, apart.slot⟩

/-- Closing is the same without the omitted requests. -/
lemma close (apart : c.Apart omitted) (skips : c.close.Skips omitted) :
    c.close.Mirrors omitted (c.without omitted).close := by
  have closed : (c.without omitted).closed = c.closed := rfl
  unfold Connection.close at skips ⊢
  rw [closed]
  split
  · exact stay apart
  · rename_i opened
    rw [if_neg opened] at skips
    refine andThen skips (fun _ => ⟨?_, apart.bound, apart.slot⟩) fun apart skips =>
      andThen skips (cancelAll apart) fun apart _ => ⟨rfl, apart.bound, apart.slot⟩
    have listening : (c.without omitted).listening = c.listening := rfl
    rw [listening]
    cases c.listening <;> rfl

/-- Beginning to listen is the same without the omitted requests. -/
lemma start (apart : c.Apart omitted) {turn : Turn} (started : c.start = .ok turn) :
    ∃ turn', (c.without omitted).start = .ok turn' ∧ turn.Mirrors omitted turn' := by
  have closed : (c.without omitted).closed = c.closed := rfl
  have listening : (c.without omitted).listening = c.listening := rfl
  unfold Connection.start at started ⊢
  rw [closed, listening]
  split at started
  · cases started
  · rename_i opened
    rw [if_neg opened]
    split at started
    · rename_i listens
      cases started
      exact ⟨_, if_pos listens, stay apart⟩
    · rename_i deaf
      cases started
      exact ⟨_, if_neg deaf, rfl, apart.bound, apart.slot⟩

/-- A closed connection refuses to listen without the omitted requests, too. -/
lemma start_refused {cause : InvalidState} (refused : c.start = .error cause) :
    (c.without omitted).start = .error cause := by
  have closed : (c.without omitted).closed = c.closed := rfl
  unfold Connection.start at refused ⊢
  rw [closed]
  split at refused
  · rename_i ended
    rw [if_pos ended]
    exact refused
  · split at refused <;> cases refused

/-- Packets that arrive mean the same without the omitted requests. -/
lemma receive (apart : c.Apart omitted) (bytes : Bytes) :
    (c.receive bytes).1.Mirrors omitted ((c.without omitted).receive bytes).1 := by
  have about : ∀ effect ∈ (c.receive bytes).1.effects, ∀ k, effect.place? = some k →
      omitted.place? k = some k := fun effect mem k about => by
    cases (place?_receive c bytes effect mem).symm.trans about
  refine ⟨?_, ?_⟩
  · rw [receive_without, Turn.without, traceWithout_eq_self about]
  · rw [connection_receive]
    exact ⟨apart.bound, apart.slot⟩

end Turn.Mirrors

end PacketLink.Connection
