import Mathlib.Data.List.Induction
import PacketLink.Proofs.Connection.Ahead
import PacketLink.Proofs.Connection.Run

/-!
# One request in flight

Between two operations the slot of a connection and the call that its transport has still to answer
belong together. `Heard` says that an answer was heard for a packet that counts as accepted, for a
request that has settled, or by a rejection that says nothing, which strands the request: it stays
in flight. So the request in flight waits for exactly one answer, or it is stranded and waits for
none (`Run.Sound.hangsOn`). Main statement: `Run.single_flight`, by which no request waits but
behind the one whose call has still to be answered, or behind a stranded one. The run of
`Run.stranding_stalls` comes to the latter.
-/

namespace PacketLink.Connection

/-- The packet `i` of the request in place `k` was rejected with a fault that says nothing. -/
def Strands (inputs : List Input) (k i : Nat) : Prop :=
  ∃ fault, .outcome k i (.rejected fault) ∈ inputs ∧ fault.message? = none

/-- What an answer for the packet `i` of the request in place `k` has come to: it counts for the
request, the request has settled, or the answer says nothing. -/
def Counts (c : Connection) (inputs : List Input) (k i : Nat) : Prop :=
  ∃ r, c.requests[k]? = some r ∧
    (i < r.sentCount ∨ r.isSettled = true ∨ Strands inputs k i)

/-- Every answer that was heard counts. -/
def Heard (c : Connection) (inputs : List Input) : Prop :=
  ∀ k i, (k, i) ∈ answers inputs → Counts c inputs k i

variable {c c' : Connection} {inputs later : List Input} {effects : List Effect} {k i : Nat}
  {r : WriteRequest}

/-- What was rejected stays so whatever else is heard. -/
lemma Strands.append (strands : Strands inputs k i) : Strands (inputs ++ later) k i := by
  obtain ⟨fault, mem, mute⟩ := strands
  exact ⟨fault, List.mem_append_left _ mem, mute⟩

/-- What was rejected later was rejected. -/
lemma Strands.of_later (strands : Strands later k i) : Strands (inputs ++ later) k i := by
  obtain ⟨fault, mem, mute⟩ := strands
  exact ⟨fault, List.mem_append_right _ mem, mute⟩

/-- What counted still counts after a path. -/
lemma Counts.path (counts : Counts c inputs k i) (path : Path c later effects c') :
    Counts c' (inputs ++ later) k i := by
  obtain ⟨r, get, counts⟩ := counts
  obtain ⟨r', get', ahead⟩ := path.ahead get
  refine ⟨r', get', ?_⟩
  obtain lt | settled | strands := counts
  · exact .inl (Nat.lt_of_lt_of_le lt ahead.sentCount_le)
  · exact .inr (.inl (ahead.settled settled ▸ settled))
  · exact .inr (.inr strands.append)

/-- An answer for a request that was started counts after the move that hears it. -/
lemma Move.heard (move : Move c inputs effects c') (mem : (k, i) ∈ answers inputs)
    (here : c.requests[k]? = some r) (started : r.status ≠ .pending) : Counts c' inputs k i := by
  cases move with
  | follow get flying =>
    cases List.mem_singleton.mp mem
    exact ⟨_, (getElem?_setRequest get _ _).trans (if_pos rfl), .inl (Nat.lt_succ_self _)⟩
  | complete get | fail _ get =>
    cases List.mem_singleton.mp mem
    rw [Counts, settleRequest, requests_vacate]
    exact ⟨_, (getElem?_setRequest get _ _).trans (if_pos rfl), .inr (.inl rfl)⟩
  | strand mute get =>
    cases List.mem_singleton.mp mem
    exact ⟨_, get, .inr (.inr ⟨_, List.mem_singleton_self _, mute⟩)⟩
  | @note _ _ s _ get late =>
    cases List.mem_singleton.mp mem
    obtain rfl := Option.some.inj (here.symm.trans get)
    refine ⟨r, here, .inr (.inl ?_)⟩
    unfold WriteRequest.isInFlight at late
    cases status : r.status with
    | pending => exact absurd status started
    | inFlight => simp [status] at late
    | settled result => exact r.isSettled_eq status
  | _ => cases mem

/-- An answer for a request that was started counts after the path on which it is heard. -/
lemma Path.heard (path : Path c inputs effects c') (mem : (k, i) ∈ answers inputs)
    (here : c.requests[k]? = some r) (started : r.status ≠ .pending) : Counts c' inputs k i := by
  induction path with
  | rest => cases mem
  | step path move ih =>
    rw [answers, List.filterMap_append, List.mem_append] at mem
    obtain ⟨s, there, ahead⟩ := path.ahead here
    obtain mem | mem := mem
    · exact (ih mem).path (.single move)
    · obtain ⟨t, get, counts⟩ :=
        move.heard mem there fun pending => started (ahead.pending pending ▸ pending)
      exact ⟨t, get, counts.imp_right (Or.imp_right Strands.of_later)⟩

/-- What counted still counts after a path on which only answers for started requests are heard. -/
lemma Heard.path (heard : Heard c inputs) (path : Path c later effects c')
    (started : ∀ {k i : Nat}, (k, i) ∈ answers later →
      ∃ r, c.requests[k]? = some r ∧ r.status ≠ .pending) : Heard c' (inputs ++ later) := by
  intro k i mem
  rw [answers, List.filterMap_append, List.mem_append] at mem
  obtain mem | mem := mem
  · exact (heard k i mem).path path
  · obtain ⟨r, get, begun⟩ := started mem
    obtain ⟨s, last, counts⟩ := path.heard mem get begun
    exact ⟨s, last, counts.imp_right (Or.imp_right Strands.of_later)⟩

/-- A packet that was handed over belongs to a request that was started. -/
lemma Shape.started_of_called {start : Nat → Nat} {trace : List Effect}
    (shape : Shape c trace start) (mem : (k, i) ∈ called trace) :
    ∃ r, c.requests[k]? = some r ∧ r.status ≠ .pending := by
  obtain ⟨r, get, lt⟩ := shape.of_mem_called mem
  refine ⟨r, get, fun pending => ?_⟩
  rw [handedOver_of_pending pending] at lt
  exact Nat.not_lt_zero i lt

namespace Run

variable {layout : Layout} {maxPacketCount maxMessageSize : Number} {run run' : Run}

/-- The calls for the request in place `k` that have not been answered, in order. -/
def unanswered (run : Run) (k : Nat) : List (Nat × Nat) :=
  (called run.trace).filter fun call => call.1 = k ∧ run.Awaits call.1 call.2

/-- Of the calls for the request in place `k` only the one for its packet `i` has not been answered;
or none, as that packet was rejected with a fault that says nothing. -/
def HangsOn (run : Run) (k i : Nat) : Prop :=
  run.unanswered k = [(k, i)] ∨ run.unanswered k = [] ∧ Strands run.inputs k i

/-- What was heard counts whatever happens next. -/
lemma Sound.heard (sound : Sound layout maxPacketCount maxMessageSize run) {turn : Turn}
    (advances : run.Advances run' inputs turn) (heard : Heard run.connection run.inputs) :
    Heard run'.connection run'.inputs := by
  rw [advances.connection_eq, advances.inputs_eq]
  refine heard.path advances.carried.path fun mem => ?_
  -- what is awaited was handed over
  obtain ⟨start, shape⟩ := sound.path.shape
  exact shape.started_of_called (advances.awaited mem).1

/-- In every run each answer that was heard counts. -/
lemma heard_of (operations : List Operation) :
    let run := of (new layout maxPacketCount maxMessageSize) operations
    Heard run.connection run.inputs := by
  induction operations using List.reverseRec with
  | nil => exact fun k i mem => by cases mem
  | append_singleton operations operation ih =>
    obtain ⟨_, _, advances⟩ := (sound_of operations).advances operation
    rw [of_append]
    exact (sound_of operations).heard advances ih

/-- The request in flight waits for the answer to the packet behind those that count, and for no
other, or that answer has been heard and says nothing. -/
lemma Sound.hangsOn (sound : Sound layout maxPacketCount maxMessageSize run)
    (heard : Heard run.connection run.inputs) (get : run.connection.requests[k]? = some r)
    (flying : r.status = .inFlight) : run.HangsOn k r.sentCount := by
  obtain ⟨start, shape⟩ := sound.path.shape
  have handed (i : Nat) : (k, i) ∈ called run.trace ↔ i < r.sentCount + 1 := by
    rw [shape.mem_called get, handedOver_of_inFlight flying]
  have answered (i : Nat) (lt : i < r.sentCount) : (k, i) ∈ answers run.inputs :=
    List.mem_filterMap.mpr ⟨_, sound.path.answered.accepted get lt, rfl⟩
  -- all packets below the count were answered
  have open_ {call : Nat × Nat} : call ∈ run.unanswered k ↔
      call = (k, r.sentCount) ∧ (k, r.sentCount) ∉ answers run.inputs := by
    obtain ⟨j, i⟩ := call
    simp only [unanswered, List.mem_filter, decide_eq_true_eq, Prod.mk.injEq]
    constructor
    · rintro ⟨_, rfl, mem, unheard⟩
      have above := mt (answered i) unheard
      have below := (handed i).mp mem
      obtain rfl : i = r.sentCount := by omega
      exact ⟨⟨rfl, rfl⟩, unheard⟩
    · rintro ⟨⟨rfl, rfl⟩, unheard⟩
      have mem := (handed r.sentCount).mpr (Nat.lt_succ_self _)
      exact ⟨mem, rfl, mem, unheard⟩
  by_cases mem : (k, r.sentCount) ∈ answers run.inputs
  · refine .inr ⟨List.eq_nil_iff_forall_not_mem.mpr fun call waits => (open_.mp waits).2 mem, ?_⟩
    obtain ⟨s, get', counts⟩ := heard k r.sentCount mem
    obtain rfl := Option.some.inj (get.symm.trans get')
    obtain lt | settled | strands := counts
    · exact absurd lt (Nat.lt_irrefl _)
    · cases (r.isSettled_eq flying).symm.trans settled
    · exact strands
  · have once : (run.unanswered k).Nodup := shape.nodup_called.filter _
    refine .inl (List.perm_singleton.mp
      ((List.perm_ext_iff_of_nodup once (List.nodup_singleton _)).mpr fun call => ?_))
    rw [open_, List.mem_singleton]
    exact and_iff_left mem

/-- Between two operations the slot holds exactly the request in flight. Just one of its calls is
still to be answered, the one for the packet behind those that count; or none is, as that packet was
rejected with a fault that says nothing. With a free slot nothing waits and every request has
settled; else every request that has not settled is behind such a call. -/
theorem single_flight (layout : Layout) (maxPacketCount maxMessageSize : Number)
    (operations : List Operation) :
    let run := of (new layout maxPacketCount maxMessageSize) operations
    (∀ k, run.connection.active = some k ↔
        ∃ r, run.connection.requests[k]? = some r ∧ r.status = .inFlight) ∧
      (∀ k, run.connection.active = some k → ∃ r, run.connection.requests[k]? = some r ∧
        run.HangsOn k r.sentCount) ∧
      (run.connection.active = none →
        run.connection.queue = [] ∧ ∀ r ∈ run.connection.requests, r.isSettled = true) ∧
      ∀ k r, run.connection.requests[k]? = some r → r.isSettled = false →
        ∃ j ≤ k, run.connection.active = some j ∧ ∃ i, run.HangsOn j i := by
  intro run
  have sound : Sound layout maxPacketCount maxMessageSize run := sound_of operations
  have wf := sound.wellFormed
  have inFlight {k : Nat} (active : run.connection.active = some k) :
      ∃ r, run.connection.requests[k]? = some r ∧ run.HangsOn k r.sentCount := by
    obtain ⟨r, get, flying⟩ := wf.inFlight_of_active active
    exact ⟨r, get, sound.hangsOn (heard_of operations) get flying⟩
  have slot (k : Nat) : run.connection.active = some k ↔
      ∃ r, run.connection.requests[k]? = some r ∧ r.status = .inFlight :=
    ⟨wf.inFlight_of_active, fun ⟨r, get, flying⟩ => wf.active_of_inFlight get flying⟩
  refine ⟨slot, fun k => inFlight, fun free => ⟨sound.atRest free, fun r mem => ?_⟩,
    fun k r get unsettled => ?_⟩
  · obtain ⟨k, get⟩ := List.mem_iff_getElem?.mp mem
    exact wf.isSettled get (by simp [free]) (by simp [sound.atRest free])
  · -- a pending request waits behind the slot, and another one is in it
    cases status : r.status with
    | pending =>
      have waits := wf.mem_of_pending get status
      cases active : run.connection.active with
      | none => simp [sound.atRest active] at waits
      | some j =>
        obtain ⟨s, _, hangs⟩ := inFlight active
        exact ⟨j, Nat.le_of_lt (wf.active_lt active waits), rfl, s.sentCount, hangs⟩
    | inFlight =>
      have active := wf.active_of_inFlight get status
      obtain ⟨s, _, hangs⟩ := inFlight active
      exact ⟨k, Nat.le_refl k, active, s.sentCount, hangs⟩
    | settled result => cases (r.isSettled_eq status).symm.trans unsettled

/-- Two messages, after the first of which the transport rejects its packet with a record that has
no text. -/
def stranding : List Operation :=
  [.send 1 3 ⟨.data, [1]⟩ none,
    .conclude 0 0 (.rejected (.value (.record [("toString", .number 1)]))),
    .send 2 3 ⟨.data, [2]⟩ none]

/-- The first request stays in the slot with no call to be answered, and the second one waits behind
it. -/
theorem stranding_stalls :
    let run := of (new .default 4096 1048576) stranding
    run.connection.active = some 0 ∧ run.unanswered 0 = [] ∧ called run.trace = [(0, 0)] ∧
      run.connection.queue = [1] := by
  decide +kernel

end Run

end PacketLink.Connection
