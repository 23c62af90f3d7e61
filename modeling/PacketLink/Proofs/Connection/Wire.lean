import Mathlib.Data.List.Nodup
import PacketLink.Proofs.Connection.Trace

/-!
# The shape of the wire

The calls of the transport are one block for each request, in the order of sending: the first
`handedOver` packets of the request, with counters that count up from the number of calls since the
last reset. `Shape` says so of a connection and its trace, and `Path.shape` that it holds after
any number of moves.
-/

namespace PacketLink.Connection

/-- The numbered calls that hand over `fragments` of the request in place `k`, when the first of
them has the number `start`. -/
def block (layout : Layout) (start k : Nat) (fragments : List Fragment) : List (Nat × Call) :=
  fragments.mapIdx fun i f =>
    (start + i, ⟨k, i, f.wire layout ((start + i) % layout.counterSpace)⟩)

/-- The calls that the request in place `k` should have made. -/
def blockOf (c : Connection) (trace : List Effect) (start : Nat → Nat) (k : Nat) :
    List (Nat × Call) :=
  c.requests[k]?.elim [] fun r =>
    block c.layout (start k) k (r.fragments.take (handedOver trace k r))

/-- The calls in a trace are blocks, and the connection goes on where they end. -/
structure Shape (c : Connection) (trace : List Effect) (start : Nat → Nat) : Prop where
  numberedCalls_eq : numberedCalls 0 trace =
    (List.range c.requests.length).flatMap (blockOf c trace start)
  value_eq : c.counter.value = callsSinceReset 0 trace % c.layout.counterSpace
  next_eq : ∀ {k : Nat} {r : WriteRequest}, c.requests[k]? = some r → r.status = .inFlight →
    start k + r.sentCount + 1 = callsSinceReset 0 trace
  lt_length : ∀ {k : Nat}, wasStarted trace k = true → k < c.requests.length
  started : ∀ {k : Nat}, c.active = some k → wasStarted trace k = true
  handedOver_eq_zero : ∀ {k : Nat} {r : WriteRequest}, c.requests[k]? = some r →
    wasStarted trace k = false → handedOver trace k r = 0
  handedOver_le : ∀ {k : Nat} {r : WriteRequest}, c.requests[k]? = some r →
    handedOver trace k r ≤ r.fragments.length
  waiting : ∀ {j k : Nat}, j ∈ c.queue → j ≤ k → wasStarted trace k = false
  behind : ∀ {j k : Nat}, c.active = some j → j < k → wasStarted trace k = false

/-! ## Blocks -/

section Blocks

variable {α : Type} {f g : Nat → List α} {n k : Nat}

/-- Only the block in place `k` changes, and the ones behind it are empty. -/
lemma flatMap_range_snoc {x : α} (bound : k < n) (same : ∀ j, j ≠ k → g j = f j)
    (more : g k = f k ++ [x]) (empty : ∀ j, k < j → f j = []) :
    (List.range n).flatMap g = (List.range n).flatMap f ++ [x] := by
  induction n with
  | zero => exact absurd bound (Nat.not_lt_zero k)
  | succ n ih =>
    rw [List.range_succ, List.flatMap_append, List.flatMap_append, List.flatMap_singleton,
      List.flatMap_singleton]
    obtain rfl | earlier := Nat.eq_or_lt_of_le (Nat.le_of_lt_succ bound)
    · have before : (List.range k).flatMap g = (List.range k).flatMap f :=
        List.flatMap_congr fun j mem => same j (Nat.ne_of_lt (List.mem_range.mp mem))
      rw [before, more, List.append_assoc]
    · rw [ih earlier, same n (Nat.ne_of_gt earlier), empty n earlier, List.append_nil,
        List.append_nil]

/-- Empty blocks may be added at the end. -/
lemma flatMap_range_grow {m : Nat} (le : n ≤ m) (same : ∀ j, j < n → g j = f j)
    (empty : ∀ j, n ≤ j → j < m → g j = []) :
    (List.range m).flatMap g = (List.range n).flatMap f := by
  induction m, le using Nat.le_induction with
  | base => exact List.flatMap_congr fun j mem => same j (List.mem_range.mp mem)
  | succ m le ih =>
    rw [List.range_succ, List.flatMap_append, ih fun j after before => empty j after (by omega),
      List.flatMap_singleton, empty m le (Nat.lt_succ_self m), List.append_nil]

end Blocks

/-! ## Moves and blocks -/

section Moves

variable {c c' : Connection} {trace effects : List Effect} {inputs : List Input}
  {start : Nat → Nat}

/-- A new connection has the shape of an empty trace. -/
lemma shape_new (layout : Layout) (maxPacketCount maxMessageSize : Number) (start : Nat → Nat) :
    Shape (new layout maxPacketCount maxMessageSize) [] start := by
  refine ⟨rfl, (Nat.zero_mod _).symm, fun get => ?_, fun started => ?_, fun active => ?_,
    fun get => ?_, fun get => ?_, fun mem => ?_, fun active => ?_⟩
  · cases get
  · cases started
  · cases active
  · cases get
  · cases get
  · cases mem
  · cases active

/-- A quiet trace hands over nothing more. -/
lemma handedOver_of_quiet (quiet : Quiet effects) (k : Nat) (r : WriteRequest) :
    handedOver (trace ++ effects) k r = handedOver trace k r := by
  simp [handedOver, quiet.wasStarted_eq]

/-! ### Handing a packet over -/

/-- The connection when packet `i` of the request in place `k` has been handed over, while `queue`
is left to wait. -/
def handOver (c : Connection) (queue : List Nat) (k i : Nat) (r : WriteRequest) : Connection :=
  { c.setRequest k { r with status := .inFlight, sentCount := i } with
    queue, active := some k, counter := c.counter.advance 1 }

/-- The request in place `k`, which no started request follows, is about to hand over its packet
`i`, and `log` records no more than its start. -/
structure Handing (c : Connection) (trace : List Effect) (start : Nat → Nat) (k i : Nat)
    (r : WriteRequest) (f : Fragment) (log : List Effect) : Prop where
  get : c.requests[k]? = some r
  next : r.fragments[i]? = some f
  count : handedOver trace k r = i
  goesOn : i = 0 ∨ start k + i = callsSinceReset 0 trace
  alone : ∀ {j : Nat} {s : WriteRequest}, c.requests[j]? = some s → s.status = .inFlight → j = k
  behind : ∀ {j : Nat}, k < j → wasStarted trace j = false
  silent : ∀ n, numberedCalls n log = []
  kept : ∀ n, callsSinceReset n log = n
  others : ∀ {j : Nat}, j ≠ k → wasStarted log j = false
  started : wasStarted (trace ++ log) k = true

/-- The numbers of the first packets of the requests, when packet `i` of the request in place `k`
gets the next number. -/
def numberedFrom (start : Nat → Nat) (trace : List Effect) (k i : Nat) : Nat → Nat :=
  Function.update start k (callsSinceReset 0 trace - i)

namespace Handing

variable {k i j : Nat} {r : WriteRequest} {f : Fragment} {log : List Effect}

/-- The next packet has the number of the next call. -/
lemma numberedFrom_self (handing : Handing c trace start k i r f log) :
    numberedFrom start trace k i k + i = callsSinceReset 0 trace := by
  have goesOn := handing.goesOn
  rw [numberedFrom, Function.update_self]
  omega

/-- Handing a packet over starts no other request. -/
lemma wasStarted_eq (handing : Handing c trace start k i r f log) (apart : j ≠ k) :
    wasStarted (trace ++ (log ++ c.submission k i f)) j = wasStarted trace j := by
  have others := handing.others apart
  rw [wasStarted_append, wasStarted_append, others]
  simp [submission, wasStarted, Effect.starts]

/-- The request of a packet that is handed over was started. -/
lemma wasStarted_self (handing : Handing c trace start k i r f log) :
    wasStarted (trace ++ (log ++ c.submission k i f)) k = true := by
  rw [← List.append_assoc, wasStarted_append, handing.started, Bool.true_or]

/-- The other requests have handed over what they had. -/
lemma handedOver_eq (handing : Handing c trace start k i r f log) (apart : j ≠ k)
    (s : WriteRequest) :
    handedOver (trace ++ (log ++ c.submission k i f)) j s = handedOver trace j s := by
  simp only [handedOver, handing.wasStarted_eq apart]

/-- Handing a packet over is one more call. -/
lemma callsSinceReset_eq (handing : Handing c trace start k i r f log) :
    callsSinceReset 0 (trace ++ (log ++ c.submission k i f)) = callsSinceReset 0 trace + 1 := by
  rw [callsSinceReset_append, callsSinceReset_append, handing.kept]
  rfl

/-- The packet is added to the block of its request, and no block is behind that one. -/
lemma numberedCalls_eq (handing : Handing c trace start k i r f log)
    (shape : Shape c trace start) {queue : List Nat} :
    numberedCalls 0 (trace ++ (log ++ c.submission k i f)) =
      (List.range (c.handOver queue k i r).requests.length).flatMap
        (blockOf (c.handOver queue k i r) (trace ++ (log ++ c.submission k i f))
          (numberedFrom start trace k i)) := by
  have bound := (List.getElem?_eq_some_iff.mp handing.get).1
  have lookup := getElem?_setRequest handing.get { r with status := .inFlight, sentCount := i }
  have called : numberedCalls 0 (trace ++ (log ++ c.submission k i f)) =
      numberedCalls 0 trace ++ [(callsSinceReset 0 trace,
        ⟨k, i, f.wire c.layout (callsSinceReset 0 trace % c.layout.counterSpace)⟩)] := by
    rw [numberedCalls_append, numberedCalls_append, handing.silent, handing.kept, submission,
      shape.value_eq]
    rfl
  have length : (c.handOver queue k i r).requests.length = c.requests.length := List.length_set
  rw [called, shape.numberedCalls_eq, length]
  refine (flatMap_range_snoc bound (fun j apart => ?_) ?_ fun j later => ?_).symm
  · have same : numberedFrom start trace k i j = start j := Function.update_of_ne apart ..
    simp only [blockOf, handOver, lookup, if_neg apart, same, handing.handedOver_eq apart]
    rfl
  · -- a block that goes on keeps the number of its first packet, and an empty one has none
    have before : block c.layout (numberedFrom start trace k i k) k (r.fragments.take i) =
        block c.layout (start k) k (r.fragments.take i) := by
      obtain rfl | goesOn := handing.goesOn
      · rfl
      · rw [show numberedFrom start trace k i k = start k by
          have := handing.numberedFrom_self
          omega]
    simp only [blockOf, handOver, lookup, if_true, handing.get, Option.elim, handing.count]
    rw [← before, ← handing.numberedFrom_self]
    exact mapIdx_take_succ handing.next _
  · unfold blockOf
    cases get' : c.requests[j]? with
    | none => rfl
    | some s =>
      rw [Option.elim, shape.handedOver_eq_zero get' (handing.behind later), List.take_zero]
      rfl

end Handing

namespace Shape

/-- A move that asks for no call leaves the blocks alone when every old request has handed over as
much as before and every new one nothing. -/
lemma quiet (shape : Shape c trace start) (quiet : Quiet effects) (layout : c'.layout = c.layout)
    (counter : c'.counter = c.counter) (grows : c.requests.length ≤ c'.requests.length)
    (old : ∀ {k : Nat} {r' : WriteRequest}, c'.requests[k]? = some r' → k < c.requests.length →
      ∃ r, c.requests[k]? = some r ∧ r'.fragments = r.fragments ∧
        handedOver trace k r' = handedOver trace k r ∧
        (r'.status = .inFlight → r' = r))
    (new : ∀ {k : Nat} {r' : WriteRequest}, c'.requests[k]? = some r' → c.requests.length ≤ k →
      handedOver trace k r' = 0 ∧ r'.status ≠ .inFlight)
    (queue : ∀ {k : Nat}, k ∈ c'.queue → k ∈ c.queue ∨ c.requests.length ≤ k)
    (active : ∀ {k : Nat}, c'.active = some k → c.active = some k) :
    Shape c' (trace ++ effects) start := by
  have started (k : Nat) : wasStarted (trace ++ effects) k = wasStarted trace k := by
    simp [quiet.wasStarted_eq]
  refine ⟨?_, ?_, fun {k r'} get flying => ?_, fun {k} h => ?_, fun {k} h => ?_,
    fun {k r'} get h => ?_, fun {k r'} get => ?_, fun {j k} mem le => ?_, fun h later => ?_⟩
  · rw [numberedCalls_append, quiet.numberedCalls_eq, List.append_nil, shape.numberedCalls_eq]
    refine (flatMap_range_grow grows (fun k bound => ?_) fun k le bound => ?_).symm
    · have get' := List.getElem?_eq_getElem (Nat.lt_of_lt_of_le bound grows)
      obtain ⟨r, get, fragments, count, _⟩ := old get' bound
      simp only [blockOf, get, get', Option.elim, layout, fragments, handedOver_of_quiet quiet,
        count]
    · have get' := List.getElem?_eq_getElem bound
      simp only [blockOf, get', Option.elim, handedOver_of_quiet quiet, (new get' le).1,
        List.take_zero]
      rfl
  · rw [callsSinceReset_append, quiet.callsSinceReset_eq, counter, layout]
    exact shape.value_eq
  · rw [callsSinceReset_append, quiet.callsSinceReset_eq]
    by_cases bound : k < c.requests.length
    · obtain ⟨r, get, _, _, same⟩ := old get bound
      obtain rfl := same flying
      exact shape.next_eq get flying
    · exact absurd flying (new get (Nat.le_of_not_lt bound)).2
  · exact Nat.lt_of_lt_of_le (shape.lt_length (started k ▸ h)) grows
  · rw [started]
    exact shape.started (active h)
  · rw [handedOver_of_quiet quiet]
    by_cases bound : k < c.requests.length
    · obtain ⟨r, get, _, count, _⟩ := old get bound
      rw [count]
      exact shape.handedOver_eq_zero get (started k ▸ h)
    · exact (new get (Nat.le_of_not_lt bound)).1
  · rw [handedOver_of_quiet quiet]
    by_cases bound : k < c.requests.length
    · obtain ⟨r, get, fragments, count, _⟩ := old get bound
      rw [fragments, count]
      exact shape.handedOver_le get
    · rw [(new get (Nat.le_of_not_lt bound)).1]
      exact Nat.zero_le _
  · rw [started]
    obtain mem | before := queue mem
    · exact shape.waiting mem le
    · cases h : wasStarted trace k with
      | false => rfl
      | true =>
        have := shape.lt_length h
        omega
  · rw [started]
    exact shape.behind (active h) later

/-- A move that asks for no call and leaves the requests alone. -/
lemma quiet_of_same (shape : Shape c trace start) (quiet : Quiet effects)
    (layout : c'.layout = c.layout) (counter : c'.counter = c.counter)
    (requests : c'.requests = c.requests) (queue : ∀ {k : Nat}, k ∈ c'.queue → k ∈ c.queue)
    (active : c'.active = c.active) : Shape c' (trace ++ effects) start := by
  refine shape.quiet quiet layout counter (by rw [requests]) (fun {k r'} get _ => ?_)
    (fun {k r'} get le => ?_) (fun mem => .inl (queue mem)) fun h => by rwa [active] at h
  · exact ⟨r', requests ▸ get, rfl, rfl, fun _ => rfl⟩
  · rw [requests, List.getElem?_eq_none le] at get
    cases get

/-- A new request has handed nothing over. -/
lemma append (shape : Shape c trace start) (quiet : Quiet effects) {r : WriteRequest}
    (none : handedOver trace c.requests.length r = 0) (waits : r.status ≠ .inFlight) :
    Shape { c with requests := c.requests ++ [r], queue := c.queue ++ [c.requests.length] }
      (trace ++ effects) start := by
  refine shape.quiet quiet rfl rfl (by simp) (fun {k r'} get bound => ?_)
    (fun {k r'} get le => ?_) (fun {k} mem => ?_) id
  · rw [List.getElem?_append_left bound] at get
    exact ⟨r', get, rfl, rfl, fun _ => rfl⟩
  · obtain get | ⟨rfl, rfl⟩ := getElem?_concat_cases get
    · exact absurd (List.getElem?_eq_some_iff.mp get).1 (Nat.not_lt.mpr le)
    · exact ⟨none, waits⟩
  · obtain mem | mem := List.mem_append.mp mem
    · exact .inl mem
    · exact .inr (Nat.le_of_eq (List.mem_singleton.mp mem).symm)

/-- A request that settles has handed over as much as before. -/
lemma settleRequest (shape : Shape c trace start) (quiet : Quiet effects) {k sentCount : Nat}
    {r : WriteRequest} {result : WriteResult} (get : c.requests[k]? = some r)
    (same : handedOver trace k { r with status := .settled result, sentCount } =
      handedOver trace k r) :
    Shape (c.settleRequest k r sentCount result) (trace ++ effects) start := by
  have lookup := getElem?_setRequest get { r with status := .settled result, sentCount }
  refine shape.quiet quiet ?_ ?_ ?_ (fun {j s} get' bound => ?_) (fun {j s} get' le => ?_)
    (fun {j} mem => ?_) fun {j} active => ?_ <;>
    simp only [Connection.settleRequest, requests_vacate, layout_vacate, counter_vacate,
      queue_vacate, active_vacate, lookup] at *
  · rfl
  · rfl
  · exact Nat.le_of_eq List.length_set.symm
  · split at get'
    · rename_i here
      cases get'
      exact ⟨r, here ▸ get, rfl, here ▸ same, fun h => by cases h⟩
    · exact ⟨s, get', rfl, rfl, fun _ => rfl⟩
  · have := (List.getElem?_eq_some_iff.mp get).1
    rw [if_neg (by omega), List.getElem?_eq_none le] at get'
    cases get'
  · split at mem
    · exact .inl mem
    · exact .inl (List.mem_filter.mp mem).1
  · split at active
    · cases active
    · exact active

/-- The request in place `k`, which no started request follows, hands over its packet `i`. -/
lemma call (shape : Shape c trace start) {k i : Nat} {r : WriteRequest} {f : Fragment}
    {log : List Effect} (handing : Handing c trace start k i r f log)
    (space : c.counter.space = c.layout.counterSpace) {queue : List Nat}
    (waiting : ∀ {j : Nat}, j ∈ queue → k < j) :
    Shape (c.handOver queue k i r) (trace ++ (log ++ c.submission k i f))
      (numberedFrom start trace k i) := by
  have bound := (List.getElem?_eq_some_iff.mp handing.get).1
  have lookup := getElem?_setRequest handing.get { r with status := .inFlight, sentCount := i }
  have elsewhere {j : Nat} (apart : j ≠ k) := handing.wasStarted_eq apart
  refine ⟨handing.numberedCalls_eq shape, ?_, fun {j s} get' flying => ?_, fun {j} h => ?_,
    fun {j} h => ?_, fun {j s} get' h => ?_, fun {j s} get' => ?_, fun {j j'} mem le => ?_,
    fun {j j'} h later => ?_⟩
  · rw [handing.callsSinceReset_eq]
    change (c.counter.value + 1) % c.counter.space = _ % c.layout.counterSpace
    rw [shape.value_eq, space, Nat.mod_add_mod]
  · rw [handing.callsSinceReset_eq]
    rw [handOver, lookup] at get'
    split at get'
    · rename_i same
      cases get'
      rw [same, handing.numberedFrom_self]
    · exact absurd (handing.alone get' flying) ‹_›
  · by_cases same : j = k
    · rw [same]
      simpa [handOver, setRequest] using bound
    · simpa [handOver, setRequest] using shape.lt_length (elsewhere same ▸ h)
  · cases h
    exact handing.wasStarted_self
  · rw [handOver, lookup] at get'
    split at get'
    · rename_i same
      rw [same, handing.wasStarted_self] at h
      cases h
    · rename_i apart
      rw [elsewhere apart] at h
      rw [handing.handedOver_eq apart]
      exact shape.handedOver_eq_zero get' h
  · rw [handOver, lookup] at get'
    split at get'
    · cases get'
      exact (List.getElem?_eq_some_iff.mp handing.next).1
    · rename_i apart
      rw [handing.handedOver_eq apart]
      exact shape.handedOver_le get'
  · have later := Nat.lt_of_lt_of_le (waiting mem) le
    rw [elsewhere (Nat.ne_of_gt later)]
    exact handing.behind later
  · cases h
    rw [elsewhere (Nat.ne_of_gt later)]
    exact handing.behind later

/-- Starting over leaves the calls alone; the next one has the number zero. -/
lemma restart (shape : Shape c trace start) (wf : c.WellFormed) (free : c.active = none) :
    Shape { c.resetInbound with counter := c.counter.reset } (trace ++ [.log .reset]) start := by
  have started (k : Nat) : wasStarted (trace ++ [.log .reset]) k = wasStarted trace k := by
    simp [wasStarted, Effect.starts]
  have handed (k : Nat) (r : WriteRequest) :
      handedOver (trace ++ [.log .reset]) k r = handedOver trace k r := by
    simp only [handedOver, started]
  refine ⟨?_, ?_, fun get flying => ?_, fun h => ?_, fun h => ?_, fun get h => ?_,
    fun get => ?_, fun mem le => ?_, fun h => ?_⟩
  · have same : blockOf { c.resetInbound with counter := c.counter.reset }
        (trace ++ [.log .reset]) start = blockOf c trace start := by
      funext k
      simp only [blockOf, handed]
      rfl
    rw [numberedCalls_append, same]
    simpa [numberedCalls, Effect.call?, resetInbound] using shape.numberedCalls_eq
  · simp [callsSinceReset, Effect.count, Counter.reset]
  · -- nothing is in flight, so no number has to follow another one
    have active := wf.active_of_inFlight get flying
    rw [free] at active
    cases active
  · exact shape.lt_length (started _ ▸ h)
  · exact (started _).trans (shape.started h)
  · exact (handed _ _).trans (shape.handedOver_eq_zero get (started _ ▸ h))
  · exact handed _ _ ▸ shape.handedOver_le get
  · exact (started _).trans (shape.waiting mem le)
  · exact fun later => (started _).trans (shape.behind h later)

end Shape

/-- Every move keeps the calls in blocks. -/
lemma Move.shape (move : Move c inputs effects c') (wf : c.WellFormed)
    (shape : Shape c trace start) : ∃ start', Shape c' (trace ++ effects) start' := by
  cases move with
  | join _ _ pending =>
    exact ⟨start, shape.append (by simp [Quiet]) (handedOver_of_pending pending ..)
      (by simp [pending])⟩
  | refuse _ _ pending =>
    refine ⟨start, shape.append (quiet_settlement _ _ _) ?_ (by simp)⟩
    have fresh : wasStarted trace c.requests.length = false := by
      cases h : wasStarted trace c.requests.length with
      | false => rfl
      | true => exact absurd (shape.lt_length h) (Nat.lt_irrefl _)
    exact if_neg (by simp [fresh])
  | skip head get _ =>
    exact ⟨start, shape.quiet_of_same (by simp [Quiet]) rfl rfl rfl
      (fun mem => head ▸ List.mem_cons_of_mem _ mem) rfl⟩
  | @launch k r f queue free head get pending next =>
    have sorted := head ▸ wf.sorted
    have unsent := (wf.valid get).pending_sentCount pending
    have handing : Handing c trace start k 0 r f [.writeLog k (.started r.fragments.length)] := {
      get, next
      count := handedOver_of_pending pending ..
      goesOn := .inl rfl
      alone := fun get' flying => by cases free.symm.trans (wf.active_of_inFlight get' flying)
      behind := fun later => shape.waiting (head ▸ List.mem_cons_self ..) (Nat.le_of_lt later)
      silent := fun _ => rfl
      kept := fun _ => rfl
      others := fun apart => by simpa [wasStarted, Effect.starts] using Ne.symm apart
      started := by simp [wasStarted, Effect.starts] }
    have begun := shape.call handing wf.space_eq fun mem =>
      (List.pairwise_cons.mp sorted).1 _ mem
    -- nothing of a pending request was sent
    have same : ({ r with status := .inFlight, sentCount := 0 } : WriteRequest) =
        { r with status := .inFlight } := by rw [← unsent]
    rw [handOver, same] at begun
    exact ⟨_, begun⟩
  | @follow k r f get flying next =>
    have active := wf.active_of_inFlight get flying
    have handing : Handing c trace start k (r.sentCount + 1) r f [] := {
      get, next
      count := handedOver_of_inFlight flying ..
      goesOn := .inr (shape.next_eq get flying)
      alone := fun get' flying' =>
        Option.some.inj ((wf.active_of_inFlight get' flying').symm.trans active)
      behind := shape.behind active
      silent := fun _ => rfl
      kept := fun _ => rfl
      others := fun _ => rfl
      started := by simpa using shape.started active }
    have gone := shape.call handing wf.space_eq (wf.active_lt active)
    rw [handOver, ← active, ← flying] at gone
    exact ⟨_, gone⟩
  | complete get flying last =>
    refine ⟨start, shape.settleRequest (quiet_settlement _ _ _) get ?_⟩
    rw [handedOver_of_inFlight flying, last]
    rfl
  | fail _ get flying =>
    refine ⟨start, shape.settleRequest ?_ get ?_⟩
    · refine List.forall_mem_cons.mpr ⟨rfl, quiet_settlement _ _ _⟩
    · rw [handedOver_of_inFlight flying]
      rfl
  | strand =>
    exact ⟨start, shape.quiet_of_same (by simp [Quiet]) rfl rfl rfl id rfl⟩
  | @cancel k r get unsettled =>
    refine ⟨start, shape.settleRequest (quiet_settlement _ _ _) get ?_⟩
    cases status : r.status with
    | pending =>
      have waits := shape.waiting (wf.mem_of_pending get status) (Nat.le_refl k)
      rw [handedOver_of_pending status]
      exact if_neg (by simp [waits])
    | inFlight =>
      have begun := shape.started (wf.active_of_inFlight get status)
      rw [handedOver_of_inFlight status]
      exact if_pos begun
    | settled result => cases (r.isSettled_eq status).symm.trans unsettled
  | restart free empty => exact ⟨start, shape.restart wf free⟩
  | listen =>
    exact ⟨start, shape.quiet_of_same (by simp [Quiet, Effect.isQuiet]) rfl rfl rfl id rfl⟩
  | retire =>
    refine ⟨start, shape.quiet_of_same ?_ rfl rfl rfl id rfl⟩
    split <;> simp [Quiet, Effect.isQuiet]
  | drain =>
    exact ⟨start, shape.quiet_of_same (by simp [Quiet, Effect.isQuiet]) rfl rfl rfl id rfl⟩
  | take bytes =>
    rw [connection_receive]
    exact ⟨start, shape.quiet_of_same (quiet_receive c bytes) rfl rfl rfl id rfl⟩
  | note =>
    exact ⟨start, shape.quiet_of_same (by simp [Quiet, Effect.isQuiet]) rfl rfl rfl id rfl⟩

/-- The calls of a connection are blocks after any number of moves. -/
theorem Path.shape {layout : Layout} {maxPacketCount maxMessageSize : Number}
    (path : Path (new layout maxPacketCount maxMessageSize) inputs trace c) :
    ∃ start, Shape c trace start := by
  induction path with
  | rest => exact ⟨fun _ => 0, shape_new layout maxPacketCount maxMessageSize _⟩
  | step path move ih =>
    obtain ⟨start, shape⟩ := ih
    exact move.shape (path.wellFormed (wellFormed_new _ _ _)) shape

end Moves

/-! ## Calls and requests -/

section Calls

variable {layout : Layout} {start k : Nat} {fragments : List Fragment}

/-- A block is the calls for the packets of one request, in order. -/
lemma map_block (layout : Layout) (start k : Nat) (fragments : List Fragment) :
    (block layout start k fragments).map (fun call => (call.2.request, call.2.index)) =
      (List.range fragments.length).map (k, ·) := by
  apply List.ext_getElem <;> simp [block]

/-- A call of a block hands over the packet of its index with its number as the counter. -/
lemma mem_block {number : Nat} {call : Call}
    (mem : (number, call) ∈ block layout start k fragments) :
    call.request = k ∧ number = start + call.index ∧ ∃ f, fragments[call.index]? = some f ∧
      call.packet = f.wire layout (number % layout.counterSpace) := by
  obtain ⟨i, bound, same⟩ := List.mem_mapIdx.mp mem
  cases same
  exact ⟨rfl, rfl, _, List.getElem?_eq_getElem bound, rfl⟩

namespace Shape

variable {c : Connection} {trace : List Effect} {start : Nat → Nat}

/-- A call hands over a packet of its request, which the count of the request covers. -/
lemma of_mem (shape : Shape c trace start) {number : Nat} {call : Call}
    (mem : (number, call) ∈ numberedCalls 0 trace) :
    ∃ r f, c.requests[call.request]? = some r ∧ r.fragments[call.index]? = some f ∧
      call.index < handedOver trace call.request r ∧ number = start call.request + call.index ∧
      call.packet = f.wire c.layout (number % c.layout.counterSpace) := by
  rw [shape.numberedCalls_eq] at mem
  obtain ⟨k, _, mem⟩ := List.mem_flatMap.mp mem
  unfold blockOf at mem
  cases get : c.requests[k]? with
  | none =>
    rw [get] at mem
    cases mem
  | some r =>
    rw [get] at mem
    obtain ⟨rfl, number_eq, f, next, packet⟩ := mem_block mem
    rw [List.getElem?_take] at next
    split at next
    · exact ⟨r, f, get, next, ‹_›, number_eq, packet⟩
    · cases next

/-- A packet that the count of a request covers was handed over. -/
lemma mem_of_lt (shape : Shape c trace start) {i : Nat} {r : WriteRequest} {f : Fragment}
    (get : c.requests[k]? = some r) (next : r.fragments[i]? = some f)
    (lt : i < handedOver trace k r) :
    (start k + i, ⟨k, i, f.wire c.layout ((start k + i) % c.layout.counterSpace)⟩) ∈
      numberedCalls 0 trace := by
  rw [shape.numberedCalls_eq, List.mem_flatMap]
  refine ⟨k, List.mem_range.mpr (List.getElem?_eq_some_iff.mp get).1, ?_⟩
  obtain ⟨bound, rfl⟩ := List.getElem?_eq_some_iff.mp next
  rw [blockOf, get, Option.elim, block, List.mem_mapIdx]
  exact ⟨i, by simpa using ⟨lt, bound⟩, by simp⟩

/-- The calls are one block for each place. -/
lemma called_eq_flatMap (shape : Shape c trace start) :
    called trace = (List.range c.requests.length).flatMap fun k =>
      c.requests[k]?.elim [] fun r => (List.range (handedOver trace k r)).map (k, ·) := by
  rw [called, ← map_snd_numberedCalls 0, List.map_map, shape.numberedCalls_eq, List.map_flatMap]
  refine List.flatMap_congr fun k mem => ?_
  have get := List.getElem?_eq_getElem (List.mem_range.mp mem)
  simp only [blockOf, get, Option.elim]
  refine (map_block ..).trans ?_
  rw [List.length_take, Nat.min_eq_left (shape.handedOver_le get)]

/-- The calls are one block for each request, in the order of sending. -/
lemma called_eq (shape : Shape c trace start) :
    called trace =
      (c.requests.mapIdx fun k r => (List.range (handedOver trace k r)).map (k, ·)).flatten := by
  rw [shape.called_eq_flatMap, List.flatMap]
  congr 1
  apply List.ext_getElem
  · simp
  · intro k bound _
    have bound : k < c.requests.length := by simpa using bound
    simp [List.getElem?_eq_getElem bound]

/-- A packet that was handed over is one that the count of its request covers. -/
lemma of_mem_called (shape : Shape c trace start) {i : Nat} (mem : (k, i) ∈ called trace) :
    ∃ r, c.requests[k]? = some r ∧ i < handedOver trace k r := by
  rw [shape.called_eq_flatMap, List.mem_flatMap] at mem
  obtain ⟨j, _, mem⟩ := mem
  cases get : c.requests[j]? with
  | none => simp [get] at mem
  | some r =>
    rw [get, Option.elim, List.mem_map] at mem
    obtain ⟨_, lt, same⟩ := mem
    cases same
    exact ⟨r, get, List.mem_range.mp lt⟩

/-- The packets below the count of a request are those that it has handed over. -/
lemma mem_called (shape : Shape c trace start) {r : WriteRequest} (get : c.requests[k]? = some r)
    {i : Nat} : (k, i) ∈ called trace ↔ i < handedOver trace k r := by
  refine ⟨fun mem => ?_, fun lt => ?_⟩
  · obtain ⟨r', get', lt⟩ := shape.of_mem_called mem
    cases get.symm.trans get'
    exact lt
  · rw [shape.called_eq_flatMap, List.mem_flatMap]
    refine ⟨k, List.mem_range.mpr (List.getElem?_eq_some_iff.mp get).1, ?_⟩
    simpa [get] using lt

/-- No packet is handed over twice. -/
lemma nodup_called (shape : Shape c trace start) : (called trace).Nodup := by
  rw [shape.called_eq_flatMap, List.nodup_flatMap]
  have block_fst {k : Nat} {pair : Nat × Nat}
      (mem : pair ∈ c.requests[k]?.elim [] fun r =>
        (List.range (handedOver trace k r)).map (k, ·)) : pair.1 = k := by
    cases get : c.requests[k]? with
    | none => simp [get] at mem
    | some r =>
      simp only [get, Option.elim, List.mem_map] at mem
      obtain ⟨_, _, rfl⟩ := mem
      rfl
  refine ⟨fun k _ => ?_, List.nodup_range.imp fun apart => ?_⟩
  · cases c.requests[k]? with
    | none => exact .nil
    | some r => exact List.nodup_range.map fun _ _ same => congrArg Prod.snd same
  · exact fun pair first second => apart ((block_fst first).symm.trans (block_fst second))

end Shape

end Calls

end PacketLink.Connection
