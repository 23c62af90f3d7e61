import PacketLink.Proofs.Connection.Settlement

/-!
# Leaving requests out

`Omitted` is a block of places in the order of sending. A connection, a trace and an operation are
looked at without the requests in these places: `place?` says where the other requests stand then,
and `without` what is left. `Turn.Mirrors` says of two turns that one is the other without the
omitted requests, and that these take no part in what comes next.
-/

namespace PacketLink

/-- Places in the order of sending that are left out: `count` of them, from `first` on. -/
structure Omitted where
  first : Nat
  count : Nat

namespace Omitted

/-- Where the request in place `k` stands without the omitted ones, unless it is one of them. -/
def place? (omitted : Omitted) (k : Nat) : Option Nat :=
  if k < omitted.first then some k
  else if k < omitted.first + omitted.count then none
  else some (k - omitted.count)

/-- A list without the items in the omitted places. -/
def remaining {α : Type} (omitted : Omitted) (items : List α) : List α :=
  items.take omitted.first ++ items.drop (omitted.first + omitted.count)

variable {omitted : Omitted} {i j k : Nat}

/-- The omitted places are in a row. -/
lemma place?_eq_none :
    omitted.place? k = none ↔ omitted.first ≤ k ∧ k < omitted.first + omitted.count := by
  unfold place?
  split
  · simp; omega
  · split
    · simp; omega
    · simp; omega

/-- A place before the omitted ones stays, and one behind them comes forward. -/
lemma place?_eq_some : omitted.place? k = some j ↔
    k < omitted.first ∧ j = k ∨ omitted.first + omitted.count ≤ k ∧ j + omitted.count = k := by
  unfold place?
  split
  · simp; omega
  · split
    · simp; omega
    · simp; omega

/-- Different requests stand in different places. -/
lemma place?_injective (here : omitted.place? i = some k) (there : omitted.place? j = some k) :
    i = j := by
  rw [place?_eq_some] at here there
  omega

/-- Taking a place that stays out of a list takes its new one out of what remains. -/
lemma filterMap_place?_filter (kept : omitted.place? k = some j) (ks : List Nat) :
    (ks.filter (· ≠ k)).filterMap omitted.place? =
      (ks.filterMap omitted.place?).filter (· ≠ j) := by
  rw [List.filterMap_filter, List.filter_filterMap]
  refine List.filterMap_congr fun i _ => ?_
  by_cases same : i = k
  · simp [same, kept, Option.filter]
  · cases place : omitted.place? i with
    | none => simp
    | some i' =>
      have apart : i' ≠ j := fun h => same (place?_injective place (h ▸ kept))
      simp [same, apart, Option.filter]

/-- Taking an omitted place out of a list cannot be seen in what remains. -/
lemma filterMap_place?_filter_of_none (left : omitted.place? k = none) (ks : List Nat) :
    (ks.filter (· ≠ k)).filterMap omitted.place? = ks.filterMap omitted.place? := by
  rw [List.filterMap_filter]
  refine List.filterMap_congr fun i _ => ?_
  by_cases same : i = k
  · simp [same, left]
  · simp [same]

section Remaining

variable {α : Type} {items : List α}

/-- What stays is found at its new place. -/
lemma getElem?_remaining (kept : omitted.place? k = some j) :
    (omitted.remaining items)[j]? = items[k]? := by
  rw [place?_eq_some] at kept
  rw [remaining, List.getElem?_append, List.length_take, List.getElem?_take, List.getElem?_drop]
  obtain ⟨before, rfl⟩ | ⟨behind, rfl⟩ := kept
  · split
    · rfl
    · rw [List.getElem?_eq_none (by omega), List.getElem?_eq_none (by omega)]
  · rw [if_neg (by omega)]
    by_cases bound : omitted.first ≤ items.length
    · congr 1
      omega
    · rw [List.getElem?_eq_none (by omega), List.getElem?_eq_none (by omega)]

/-- A place that is left over is that of an item that is not left out. -/
lemma exists_place? (omitted : Omitted) (j : Nat) : ∃ k, omitted.place? k = some j := by
  by_cases before : j < omitted.first
  · exact ⟨j, place?_eq_some.mpr (.inl ⟨before, rfl⟩)⟩
  · exact ⟨j + omitted.count, place?_eq_some.mpr (.inr ⟨by omega, rfl⟩)⟩

/-- What stays is replaced at its new place. -/
lemma remaining_set (kept : omitted.place? k = some j) (item : α) :
    omitted.remaining (items.set k item) = (omitted.remaining items).set j item := by
  apply List.ext_getElem?
  intro i
  obtain ⟨i', kept'⟩ := omitted.exists_place? i
  have same : j = i ↔ k = i' := by
    constructor
    · rintro rfl
      exact place?_injective kept kept'
    · rintro rfl
      exact Option.some.inj (kept.symm.trans kept')
  have length : (j < (omitted.remaining items).length) ↔ k < items.length := by
    rw [← not_iff_not, Nat.not_lt, Nat.not_lt, ← List.getElem?_eq_none_iff,
      getElem?_remaining kept, List.getElem?_eq_none_iff]
  rw [getElem?_remaining kept', List.getElem?_set, List.getElem?_set, getElem?_remaining kept']
  simp only [same, length]

/-- Replacing what is omitted cannot be seen in what remains. -/
lemma remaining_set_of_none (left : omitted.place? k = none) (item : α) :
    omitted.remaining (items.set k item) = omitted.remaining items := by
  apply List.ext_getElem?
  intro i
  obtain ⟨i', kept⟩ := omitted.exists_place? i
  rw [getElem?_remaining kept, getElem?_remaining kept, List.getElem?_set_ne]
  rintro rfl
  cases left.symm.trans kept

/-- The next place, once all omitted ones have been given away. -/
lemma place?_length (bound : omitted.first + omitted.count ≤ items.length) :
    omitted.place? items.length = some (omitted.remaining items).length := by
  rw [place?_eq_some, remaining, List.length_append, List.length_take, List.length_drop]
  omega

/-- What is added behind the omitted places remains. -/
lemma remaining_concat (bound : omitted.first + omitted.count ≤ items.length) (item : α) :
    omitted.remaining (items ++ [item]) = omitted.remaining items ++ [item] := by
  rw [remaining, List.take_append_of_le_length (by omega), List.drop_append_of_le_length bound,
    ← List.append_assoc]
  rfl

/-- Without the omitted places the others are the first places of all. -/
lemma filterMap_place?_range {n : Nat} (bound : omitted.first + omitted.count ≤ n) :
    (List.range n).filterMap omitted.place? = List.range (n - omitted.count) := by
  induction n, bound using Nat.le_induction with
  | base =>
    rw [List.range_add, List.filterMap_append, Nat.add_sub_cancel]
    have before : (List.range omitted.first).filterMap omitted.place? =
        List.range omitted.first := by
      rw [List.filterMap_congr fun k mem => place?_eq_some.mpr
        (.inl ⟨List.mem_range.mp mem, rfl⟩), List.filterMap_some]
    have left : ((List.range omitted.count).map (omitted.first + ·)).filterMap omitted.place? =
        [] := by
      rw [List.filterMap_eq_nil_iff]
      intro k mem
      obtain ⟨i, below, rfl⟩ := List.mem_map.mp mem
      have := List.mem_range.mp below
      exact place?_eq_none.mpr ⟨by omega, by omega⟩
    rw [before, left, List.append_nil]
  | succ n bound ih =>
    have kept : omitted.place? n = some (n - omitted.count) :=
      place?_eq_some.mpr (.inr ⟨bound, by omega⟩)
    rw [List.range_succ, List.filterMap_append, ih, List.filterMap_cons_some kept,
      List.filterMap_nil, Nat.sub_add_comm (by omega), List.range_succ]

end Remaining

end Omitted

/-- An event without the omitted requests. -/
def Event.without (omitted : Omitted) : Event → Option Event
  | .writeSettled k result => (omitted.place? k).map (.writeSettled · result)
  | event => some event

namespace Connection

/-- An effect without the omitted requests. -/
def Effect.without (omitted : Omitted) : Effect → Option Effect
  | .writeLog k entry => (omitted.place? k).map (.writeLog · entry)
  | .submit k index packet => (omitted.place? k).map (.submit · index packet)
  | .resolve k result => (omitted.place? k).map (.resolve · result)
  | .emit event => (event.without omitted).map .emit
  | effect => some effect

/-- A trace without the omitted requests. -/
def traceWithout (omitted : Omitted) (trace : List Effect) : List Effect :=
  trace.filterMap (Effect.without omitted)

/-- An operation without the omitted requests, unless it is about one of them. -/
def Operation.without (omitted : Omitted) : Operation → Option Operation
  | .cancel k => (omitted.place? k).map .cancel
  | .conclude k index outcome => (omitted.place? k).map (.conclude · index outcome)
  | operation => some operation

/-- A connection without the omitted requests. -/
def without (omitted : Omitted) (c : Connection) : Connection :=
  { c with
    requests := omitted.remaining c.requests
    queue := c.queue.filterMap omitted.place?
    active := c.active.bind omitted.place? }

/-- None of the omitted requests is started in a trace. -/
def Unstarted (omitted : Omitted) (trace : List Effect) : Prop :=
  ∀ k, omitted.place? k = none → wasStarted trace k = false

/-- The omitted requests are there, and none of them is in the slot. -/
structure Apart (omitted : Omitted) (c : Connection) : Prop where
  bound : omitted.first + omitted.count ≤ c.requests.length
  slot : ∀ {k : Nat}, c.active = some k → omitted.place? k ≠ none

variable {omitted : Omitted} {c : Connection} {trace later : List Effect} {i j k : Nat}

/-- What is left of a trace is left of its parts. -/
@[simp] lemma traceWithout_append (trace later : List Effect) :
    traceWithout omitted (trace ++ later) =
      traceWithout omitted trace ++ traceWithout omitted later :=
  List.filterMap_append

/-- Nothing is left out or moved of a trace about requests that keep their places. -/
lemma traceWithout_eq_self (kept : ∀ effect ∈ trace, ∀ k, effect.place? = some k →
    omitted.place? k = some k) : traceWithout omitted trace = trace := by
  rw [traceWithout, List.filterMap_congr (g := some) fun effect mem => ?_, List.filterMap_some]
  cases effect with
  | emit event =>
    cases event with
    | writeSettled k => simp [Effect.without, Event.without, kept _ mem k rfl]
    | _ => rfl
  | writeLog k | submit k | resolve k => simp [Effect.without, kept _ mem k rfl]
  | _ => rfl

/-- What is left out is about an omitted request. -/
lemma Effect.place?_of_without {effect : Effect} (left : effect.without omitted = none) :
    ∃ k, effect.place? = some k ∧ omitted.place? k = none := by
  cases effect with
  | emit event =>
    cases event with
    | writeSettled k => exact ⟨k, rfl, by simpa [Effect.without, Event.without] using left⟩
    | _ => cases left
  | writeLog k | submit k | resolve k => exact ⟨k, rfl, by simpa [Effect.without] using left⟩
  | _ => cases left

/-- A trace starts no omitted request exactly if none of its parts does. -/
lemma unstarted_append :
    Unstarted omitted (trace ++ later) ↔ Unstarted omitted trace ∧ Unstarted omitted later := by
  simp only [Unstarted, wasStarted_append, Bool.or_eq_false_iff, ← forall_and]

/-- A packet was handed over when the transport was called with it. -/
lemma mem_called : (k, i) ∈ called trace ↔ ∃ packet, .submit k i packet ∈ trace := by
  simp only [called, calls, List.mem_map, List.mem_filterMap]
  constructor
  · rintro ⟨_, ⟨effect, mem, call⟩, same⟩
    cases effect with
    | submit =>
      cases call
      cases same
      exact ⟨_, mem⟩
    | _ => cases call
  · rintro ⟨packet, mem⟩
    exact ⟨_, ⟨_, mem, rfl⟩, rfl⟩

/-- What is left of a trace are the calls of the requests that are not omitted. -/
lemma mem_called_traceWithout (kept : omitted.place? k = some j) :
    (j, i) ∈ called (traceWithout omitted trace) ↔ (k, i) ∈ called trace := by
  simp only [mem_called, traceWithout, List.mem_filterMap]
  constructor
  · rintro ⟨packet, effect, mem, left⟩
    cases effect with
    | submit k' i' packet' =>
      obtain ⟨j', kept', same⟩ := Option.map_eq_some_iff.mp left
      cases same
      obtain rfl := Omitted.place?_injective kept kept'
      exact ⟨packet, mem⟩
    | writeLog | resolve | emit =>
      obtain ⟨_, _, same⟩ := Option.map_eq_some_iff.mp left
      cases same
    | _ => cases left
  · rintro ⟨packet, mem⟩
    exact ⟨packet, _, mem, by rw [Effect.without, kept]; rfl⟩

/-- The packets of the calls are the same when no omitted request has made one. -/
lemma map_packet_calls (uncalled : ∀ k i, omitted.place? k = none → (k, i) ∉ called trace) :
    (calls (traceWithout omitted trace)).map (·.packet) = (calls trace).map (·.packet) := by
  have packets (trace : List Effect) : (calls trace).map (·.packet) =
      trace.filterMap fun effect => effect.call?.map (·.packet) := List.map_filterMap
  rw [packets, packets, traceWithout, List.filterMap_filterMap]
  refine List.filterMap_congr fun effect mem => ?_
  cases effect with
  | submit k i packet =>
    cases place : omitted.place? k with
    | none => exact absurd (mem_called.mpr ⟨packet, mem⟩) (uncalled k i place)
    | some j => simp [Effect.without, place, Effect.call?]
  | emit event => cases left : event.without omitted <;> simp [Effect.without, left, Effect.call?]
  | writeLog k | resolve k =>
    cases place : omitted.place? k <;> simp [Effect.without, place, Effect.call?]
  | _ => rfl

/-- What is left of a trace emits the events that are left. -/
lemma events_traceWithout (omitted : Omitted) (trace : List Effect) :
    events (traceWithout omitted trace) = (events trace).filterMap (Event.without omitted) := by
  rw [events, traceWithout, events, List.filterMap_filterMap, List.filterMap_filterMap]
  refine List.filterMap_congr fun effect _ => ?_
  cases effect with
  | emit event => cases left : event.without omitted <;> simp [Effect.without, left, Effect.event?]
  | writeLog k | submit k | resolve k =>
    cases place : omitted.place? k <;> simp [Effect.without, place, Effect.event?]
  | _ => rfl

end Connection

end PacketLink
