import PacketLink.Proofs.Connection.Flight
import PacketLink.Proofs.Connection.Inbound
import PacketLink.Proofs.Connection.Parallel

/-!
# What a reset makes of a connection

No operation changes what a connection was created with: `blank` is a connection created once more
in the same way, and every move keeps it (`Path.blank_eq`). After a reset nothing else is left of an
open connection but its settled requests and whether it listens. So it goes on as a new connection
does, from which the old requests are left out, whatever becomes of the packets that these have
handed over. Main statement: `Run.reset_renews`.
-/

namespace PacketLink.Connection

variable {c c' : Connection} {inputs : List Input} {effects : List Effect}

/-! ## What a connection was created with -/

/-- A connection that was created in the same way. -/
def blank (c : Connection) : Connection :=
  { c.frame.resetInbound with listening := false, closed := false }

/-- The blank connection depends on the frame alone. -/
lemma blank_congr {c' : Connection} (frame : c'.frame = c.frame) : c'.blank = c.blank := by
  rw [blank, frame, blank]

/-- A stream may go on, as long as a reset makes the same of it. -/
lemma blank_setInbound (c : Connection) (kind : Kind) (r : Reassembler)
    (same : r.reset = (c.inbound kind).reset) : (c.setInbound kind r).blank = c.blank := by
  cases kind with
  | data =>
    show { c.blank with data := r.reset } = c.blank
    rw [same]
    rfl
  | control =>
    show { c.blank with control := r.reset } = c.blank
    rw [same]
    rfl

/-- No move changes what a connection was created with. -/
lemma Move.blank_eq (move : Move c inputs effects c') : c'.blank = c.blank := by
  cases move with
  | complete | fail | cancel => exact blank_congr (frame_vacate ..)
  | take bytes =>
    unfold receive
    cases Packet.decode c.layout bytes with
    | error cause => rfl
    | ok packet =>
      exact blank_setInbound c packet.kind _
        (congrArg Reassembler.reset (Reassembler.receive_fst (c.inbound packet.kind) packet) :)
  | _ => rfl

/-- Nothing changes what a connection was created with. -/
lemma Path.blank_eq (path : Path c inputs effects c') : c'.blank = c.blank := by
  induction path with
  | rest => rfl
  | step _ move ih => exact move.blank_eq.trans ih

/-! ## Resetting -/

/-- A counter that is reset is that of a new connection. -/
lemma reset_start {layout : Layout} {counter : Counter}
    (space : counter.space = layout.counterSpace) :
    counter.reset = .start layout := by
  obtain ⟨_, value, value_lt⟩ := counter
  obtain rfl := space
  rfl

/-- A reset leaves a new connection behind, but for the settled requests, and what it listens to. -/
lemma reset_eq (wf : c.WellFormed) :
    c.reset.connection =
      { c.blank with
        requests := c.requests.map .cancelled, listening := c.listening, closed := c.closed } := by
  obtain ⟨done, path, free, empty⟩ := cancelAll_path wf
  have requests := cancelAll_requests wf
  have counter := reset_start (path.wellFormed wf).space_eq
  have keeps : c.cancelAll.connection.frame = c.frame := Turn.Keeps.cancelAll c
  rw [reset, andThen_eq done]
  generalize c.cancelAll.connection = d at *
  calc { d.resetInbound with counter := d.counter.reset }
    _ = { d.frame.resetInbound with requests := c.requests.map .cancelled } := by
      simp only [frame, resetInbound, counter, free, empty, requests]
    _ = { c.frame.resetInbound with requests := c.requests.map .cancelled } := by rw [keeps]

namespace Run

variable {layout : Layout} {maxPacketCount maxMessageSize : Number} {run run' : Run} {k : Nat}
  {r : WriteRequest}

/-- What has to happen to a new connection before it is compared with a run: the signals that were
aborted are, and it is started if the connection of the run listens. -/
def opening (run : Run) : List Operation :=
  run.aborted.reverse.map .abort ++ if run.connection.listening then [.start] else []

/-- An abort means nothing to a connection without requests. -/
lemma foldl_abort (signals : List String) (empty : run.connection.requests = []) :
    (signals.reverse.map .abort).foldl apply run =
      { run with aborted := signals ++ run.aborted } := by
  induction signals with
  | nil => rfl
  | cons signal signals ih =>
    rw [List.reverse_cons, List.map_append, List.foldl_append, ih]
    simp [apply, signalled, empty, absorb, stay, ask]

/-- After the opening of a run a new connection listens if that of the run does, and has done
nothing else. -/
lemma of_opening (run : Run) :
    let begun := of (new layout maxPacketCount maxMessageSize) run.opening
    begun.connection =
        { new layout maxPacketCount maxMessageSize with listening := run.connection.listening } ∧
      begun.aborted = run.aborted ∧ called begun.trace = [] ∧ begun.inputs = [] := by
  intro begun
  have same : begun = (if run.connection.listening then [Operation.start] else []).foldl apply
      ((run.aborted.reverse.map .abort).foldl apply
        (begin (new layout maxPacketCount maxMessageSize))) := List.foldl_append
  rw [same, foldl_abort run.aborted rfl]
  have all : run.aborted ++ [] = run.aborted := List.append_nil _
  cases run.connection.listening with
  | false => exact ⟨rfl, all, rfl, rfl⟩
  | true => exact ⟨rfl, all, rfl, rfl⟩

/-- After a reset, a run goes on as a new connection does, without the old requests. -/
lemma mirrors_reset (sound : Sound layout maxPacketCount maxMessageSize run)
    (heard : Heard run.connection run.inputs) (opened : run.connection.closed = false) :
    Mirrors ⟨0, run.connection.requests.length⟩ (run.apply .reset).trace
      (of (new layout maxPacketCount maxMessageSize) run.opening).trace (run.apply .reset)
      (of (new layout maxPacketCount maxMessageSize) run.opening) := by
  obtain ⟨connection, aborted, uncalled, unheard⟩ :=
    @of_opening layout maxPacketCount maxMessageSize run
  generalize of (new layout maxPacketCount maxMessageSize) run.opening = begun at *
  have renewed : (run.apply .reset).connection =
      { new layout maxPacketCount maxMessageSize with
        requests := run.connection.requests.map .cancelled
        listening := run.connection.listening } := by
    have same := reset_eq sound.wellFormed
    rw [sound.path.blank_eq, opened] at same
    exact same
  have length : (run.apply .reset).connection.requests.length = run.connection.requests.length := by
    rw [renewed, List.length_map]
  have behind {k j : Nat} (kept : Omitted.place? ⟨0, run.connection.requests.length⟩ k = some j) :
      run.connection.requests.length ≤ k := by
    have := Omitted.place?_eq_some.mp kept
    dsimp only at this
    omega
  refine ⟨?_, ⟨?_, fun active => ?_⟩, aborted, ⟨[], (List.append_nil _).symm,
    (List.append_nil _).symm⟩, fun {k j} kept i => ?_, fun {k j} kept i => ?_⟩
  · rw [connection, renewed]
    simp [without, Omitted.remaining, new]
  · rw [length, Nat.zero_add]
  · rw [renewed] at active
    cases active
  · rw [uncalled]
    refine iff_of_false (fun mem => ?_) List.not_mem_nil
    obtain ⟨packet, mem⟩ := mem_called.mp mem
    have := (sound.apply .reset).path.place?_lt mem rfl
    have := behind kept
    omega
  · rw [unheard]
    refine iff_of_false (fun mem => ?_) List.not_mem_nil
    have mem : (k, i) ∈ answers (run.inputs ++ []) := mem
    rw [List.append_nil] at mem
    obtain ⟨r, get, _⟩ := heard k i mem
    have := (List.getElem?_eq_some_iff.mp get).1
    have := behind kept
    omega

/-- A reset makes a new connection of one that is open. The requests sent before have settled when
it returns, those that had not as cancelled with the counts that they had, and each of them is
announced once over the whole run. From then on, whatever happens and whatever is reported about the
packets that they have handed over, the connection asks for the same as a new one to which the same
happens: the same packets go to the transport, the other requests have the same outcomes, the same
events are emitted, and the bytes of a packet get the same answer. Only that outcomes for the old
requests are ignored is on record besides. The new connection listens if the old one did, and the
same signals are aborted. -/
theorem reset_renews (layout : Layout) (maxPacketCount maxMessageSize : Number)
    (before after : List Operation)
    (opened : (of (new layout maxPacketCount maxMessageSize) before).connection.closed = false) :
    let earlier := of (new layout maxPacketCount maxMessageSize) before
    let omitted : Omitted := ⟨0, earlier.connection.requests.length⟩
    let renewed := earlier.apply .reset
    let run := of (new layout maxPacketCount maxMessageSize) (before ++ .reset :: after)
    let begun := of (new layout maxPacketCount maxMessageSize) earlier.opening
    let fresh := of (new layout maxPacketCount maxMessageSize)
      (earlier.opening ++ after.filterMap (Operation.without omitted))
    (renewed.connection.requests = earlier.connection.requests.map .cancelled ∧
        ∀ (k : Nat) (r : WriteRequest), renewed.connection.requests[k]? = some r →
          run.connection.requests[k]? = some r ∧
            ∃ result, r.status = .settled result ∧ outcomes renewed.trace k = [result] ∧
              outcomes run.trace k = [result]) ∧
      (begun.connection =
          { new layout maxPacketCount maxMessageSize with
            listening := earlier.connection.listening } ∧
        begun.aborted = earlier.aborted) ∧
      ∃ later, run.trace = renewed.trace ++ later ∧
        fresh.trace = begun.trace ++ traceWithout omitted later ∧
        (∀ effect ∈ later, effect.without omitted = none →
          ∃ k index phase, effect = .writeLog k (.outcomeIgnored index phase)) ∧
        (calls (traceWithout omitted later)).map (·.packet) = (calls later).map (·.packet) ∧
        fresh.connection = run.connection.without omitted ∧
        ∀ bytes, (fresh.connection.receive bytes).2 = (run.connection.receive bytes).2 := by
  intro earlier omitted renewed run begun fresh
  have sound : Sound layout maxPacketCount maxMessageSize earlier := sound_of before
  have soundRenewed : Sound layout maxPacketCount maxMessageSize renewed := sound.apply .reset
  have soundRun : Sound layout maxPacketCount maxMessageSize run := sound_of _
  have run_eq : after.foldl apply renewed = run :=
    (of_append (new layout maxPacketCount maxMessageSize) before (.reset :: after)).symm
  have fresh_eq : (after.filterMap (Operation.without omitted)).foldl apply begun = fresh :=
    (of_append ..).symm
  have requests : renewed.connection.requests = earlier.connection.requests.map .cancelled :=
    congrArg Connection.requests (reset_eq sound.wellFormed)
  have isSettled {k : Nat} {r : WriteRequest} (get : renewed.connection.requests[k]? = some r) :
      r.isSettled = true := by
    rw [requests, List.getElem?_map] at get
    obtain ⟨s, _, rfl⟩ := Option.map_eq_some_iff.mp get
    exact s.isSettled_cancelled
  obtain ⟨inputs, later, path, trace⟩ := soundRenewed.onward after
  rw [run_eq] at path trace
  -- the old requests have settled, so nothing but late outcomes concerns them
  have ignored {effect : Effect} {k : Nat} (mem : effect ∈ later) (about : effect.place? = some k)
      (left : omitted.place? k = none) :
      ∃ index phase, effect = .writeLog k (.outcomeIgnored index phase) := by
    have old : k < renewed.connection.requests.length := by
      have := Omitted.place?_eq_none.mp left
      dsimp only [omitted] at this
      rw [requests, List.length_map]
      omega
    have get := List.getElem?_eq_getElem old
    exact path.ignored_of_settled get (isSettled get) mem about
  have unstarted : Unstarted omitted later := by
    intro k left
    rw [wasStarted, List.any_eq_false]
    intro effect mem starts
    obtain ⟨index, phase, rfl⟩ := ignored mem (place?_of_starts starts) left
    cases starts
  have spares : Spares omitted renewed.trace (after.foldl apply renewed) := by
    intro all same
    rw [run_eq, trace] at same
    exact List.append_cancel_left same ▸ unstarted
  have mirrors := (mirrors_reset sound (heard_of before) opened).foldl soundRenewed after spares
  rw [run_eq, fresh_eq] at mirrors
  obtain ⟨all, same, fresh_trace⟩ := mirrors.trace_eq
  obtain rfl := List.append_cancel_left (trace.symm.trans same)
  obtain ⟨connection, aborted, _⟩ := @of_opening layout maxPacketCount maxMessageSize earlier
  refine ⟨⟨requests, fun k r get => ?_⟩, ⟨connection, aborted⟩, later, trace, fresh_trace,
    fun effect mem left => ?_, ?_, mirrors.connection_eq, fun bytes => ?_⟩
  · obtain ⟨r', there, ahead⟩ := path.ahead get
    obtain rfl := ahead.settled (isSettled get)
    obtain ⟨result, settled⟩ := WriteRequest.exists_result (isSettled get)
    rw [WriteRequest.result?_eq_some] at settled
    exact ⟨there, result, settled, soundRenewed.path.outcomes_eq get settled,
      soundRun.path.outcomes_eq there settled⟩
  · obtain ⟨k, about, left⟩ := Effect.place?_of_without left
    exact ⟨k, ignored mem about left⟩
  · refine map_packet_calls fun k i left mem => ?_
    obtain ⟨packet, mem⟩ := mem_called.mp mem
    obtain ⟨_, _, same⟩ := ignored mem rfl left
    cases same
  · rw [mirrors.connection_eq, receive_without]

/-- One message is in flight, a second one waits, and a third has arrived in part. -/
def midway : List Operation :=
  [.start, .send 1 3 ⟨.data, [1, 2, 3]⟩ none, .send 2 3 ⟨.data, [4]⟩ none, .receive [64, 1]]

/-- What happens after a reset: the old packet is answered, and two more messages follow. -/
def resumed : List Operation :=
  [.conclude 0 0 .accepted, .send 3 3 ⟨.data, [5]⟩ none, .conclude 2 0 .accepted,
    .send 4 3 ⟨.data, [6]⟩ none]

/-- A reset in the middle of everything is followed by what a new connection does. -/
theorem reset_renews_midway :
    let earlier := of (new .default 4096 1048576) midway
    let renewed := earlier.apply .reset
    let run := of (new .default 4096 1048576) (midway ++ .reset :: resumed)
    let fresh := of (new .default 4096 1048576)
      [.start, .send 3 3 ⟨.data, [5]⟩ none, .conclude 0 0 .accepted,
        .send 4 3 ⟨.data, [6]⟩ none]
    earlier.connection.closed = false ∧
      fresh.connection = run.connection.without ⟨0, 2⟩ ∧
      (calls renewed.trace).map (·.packet) = [[64, 1, 2]] ∧
      (calls run.trace).map (·.packet) = [[64, 1, 2], [96, 5], [100, 6]] ∧
      (calls fresh.trace).map (·.packet) = [[96, 5], [100, 6]] := by
  intro earlier renewed run fresh
  have opened : earlier.connection.closed = false := by decide +kernel
  have two : earlier.connection.requests.length = 2 := by decide +kernel
  have unaborted : earlier.aborted = [] := by decide +kernel
  have listens : earlier.connection.listening = true := by decide +kernel
  have begins : earlier.opening = [.start] := by rw [opening, unaborted, listens]; rfl
  obtain ⟨_, _, _, _, _, _, _, same, _⟩ :=
    reset_renews .default 4096 1048576 midway resumed opened
  rw [two, begins] at same
  exact ⟨opened, same, by decide +kernel, by decide +kernel, by decide +kernel⟩

end Run

end PacketLink.Connection
