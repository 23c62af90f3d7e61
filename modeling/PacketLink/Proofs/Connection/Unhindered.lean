import PacketLink.Proofs.Connection.Flight
import PacketLink.Proofs.Connection.Inbound
import PacketLink.Proofs.Connection.Plain
import PacketLink.Proofs.Connection.Stream

/-!
# Connections that nothing hinders

A connection that asks for plain effects only and hears of accepted packets only is unhindered. On
its path requests do nothing but complete, one after the other, each of them waiting for an outcome
(`Path.going`); and the two inbound streams are what a connection has that does nothing but take the
same packets (`Path.taking`).
-/

namespace PacketLink

/-- Whether an event is about what a connection takes. -/
def Event.isInbound : Event → Bool
  | .writeSettled .. => false
  | _ => true

namespace Connection

/-- The bytes that an input brings. -/
def Input.packet? : Input → Option Bytes
  | .packet bytes => some bytes
  | _ => none

/-- The packets that arrived, in order. -/
def packets (inputs : List Input) : List Bytes := inputs.filterMap Input.packet?

/-- Whether an input is the outcome of a packet that was rejected. -/
def Input.isRejection : Input → Bool
  | .outcome _ _ (.rejected _) => true
  | _ => false

/-- No packet is rejected, and apart from a start the connection asks for plain effects only. -/
structure Unhindered (inputs : List Input) (trace : List Effect) : Prop where
  accepted : ∀ input ∈ inputs, input.isRejection = false
  plain : ∀ effect ∈ trace, effect = .subscribe ∨ effect.isPlain = true

/-- A run that is unhindered is so in each of its parts. -/
lemma Unhindered.of_append {inputs later : List Input} {trace asked : List Effect}
    (unhindered : Unhindered (inputs ++ later) (trace ++ asked)) :
    Unhindered inputs trace ∧ Unhindered later asked := by
  obtain ⟨accepted, plain⟩ := unhindered
  rw [List.forall_mem_append] at accepted plain
  exact ⟨⟨accepted.1, plain.1⟩, accepted.2, plain.2⟩

/-- The end of a request that was cancelled is not plain. -/
lemma Unhindered.not_cancelled {inputs : List Input} {k n : Nat} {r : WriteRequest}
    (unhindered : Unhindered inputs (settlement k r (.cancelled n))) : False := by
  have asked : .resolve k (.cancelled n) ∈ settlement k r (.cancelled n) := by
    simp [settlement, WriteRequest.settle, relay]
  obtain same | plain := unhindered.plain _ asked
  · cases same
  · cases plain

variable {c c' fresh : Connection} {inputs input : List Input} {trace effects : List Effect}

/-! ## Requests -/

/-- Requests that settle are completed, and no more than one packet waits for its outcome: only
while a request is in the slot. -/
structure Going (c : Connection) (inputs : List Input) (trace : List Effect) : Prop where
  completed : ∀ {k : Nat} {r : WriteRequest} {result : WriteResult},
    c.requests[k]? = some r → r.status = .settled result → result = .completed r.fragments.length
  calls_le : (calls trace).length ≤ (answers inputs).length + c.active.toList.length

namespace Going

/-- A move for which a call needs an outcome, or the slot that it takes. -/
lemma step (going : Going c inputs trace)
    (completed : ∀ {k : Nat} {r : WriteRequest} {result : WriteResult},
      c'.requests[k]? = some r → r.status = .settled result →
        result = .completed r.fragments.length)
    (balance : (calls effects).length + c.active.toList.length ≤
      (answers input).length + c'.active.toList.length) :
    Going c' (inputs ++ input) (trace ++ effects) := by
  refine ⟨completed, ?_⟩
  have calls_le := going.calls_le
  have heard : answers (inputs ++ input) = answers inputs ++ answers input :=
    List.filterMap_append
  rw [calls_append, heard, List.length_append, List.length_append]
  omega

/-- A move without a call that leaves the requests alone. -/
lemma quiet (going : Going c inputs trace) (quiet : Quiet effects)
    (requests : c'.requests = c.requests) (active : c'.active = c.active) :
    Going c' (inputs ++ input) (trace ++ effects) := by
  have none : calls effects = [] := List.map_eq_nil_iff.mp quiet.called_eq
  refine going.step (fun get => going.completed (requests ▸ get)) ?_
  rw [none, active, List.length_nil]
  omega

/-- A move that replaces one request. -/
lemma set (going : Going c inputs trace) {k : Nat} {r s : WriteRequest}
    (get : c.requests[k]? = some r) (requests : c'.requests = (c.setRequest k s).requests)
    (completed : ∀ {result : WriteResult},
      s.status = .settled result → result = .completed s.fragments.length)
    (balance : (calls effects).length + c.active.toList.length ≤
      (answers input).length + c'.active.toList.length) :
    Going c' (inputs ++ input) (trace ++ effects) := by
  refine going.step (fun {j t result} get' settled => ?_) balance
  rw [requests, getElem?_setRequest get] at get'
  split at get'
  · cases get'
    exact completed settled
  · exact going.completed get' settled

end Going

/-- On the way of an unhindered connection requests do nothing but complete. -/
lemma Move.going (move : Move c input effects c') (wf : c.WellFormed)
    (unhindered : Unhindered input effects) (going : Going c inputs trace) :
    Going c' (inputs ++ input) (trace ++ effects) := by
  cases move with
  | join _ _ pending =>
    refine going.step (fun get settled => ?_) (Nat.le_refl _)
    obtain get | ⟨_, rfl⟩ := getElem?_concat_cases get
    · exact going.completed get settled
    · cases pending.symm.trans settled
  | refuse => exact (unhindered.not_cancelled).elim
  | cancel => exact (unhindered.not_cancelled).elim
  | launch free _ get pending _ =>
    refine going.set get rfl (fun settled => by cases settled) ?_
    rw [free]
    exact Nat.le_refl _
  | follow get flying _ =>
    exact going.set get rfl (fun settled => by cases flying.symm.trans settled) (Nat.le_refl _)
  | complete get flying _ =>
    refine going.set get (requests_vacate _ _) (fun settled => by cases settled; rfl) ?_
    rw [wf.active_of_inFlight get flying]
    exact Nat.le_add_right 1 _
  | fail | strand => cases unhindered.accepted _ (List.mem_singleton_self _)
  | restart => cases unhindered.plain _ (List.mem_singleton_self _) <;> contradiction
  | skip => exact going.quiet (by simp [Quiet]) rfl rfl
  | listen => exact going.quiet (by simp [Quiet, Effect.isQuiet]) rfl rfl
  | retire =>
    refine going.quiet ?_ rfl rfl
    split <;> simp [Quiet, Effect.isQuiet]
  | drain => exact going.quiet (by simp [Quiet, Effect.isQuiet]) rfl rfl
  | take bytes =>
    rw [connection_receive]
    exact going.quiet (quiet_receive c bytes) rfl rfl
  | note => exact going.quiet (by simp [Quiet, Effect.isQuiet]) rfl rfl

/-! ## Inbound streams -/

/-- The inbound streams are what `fresh` has after taking the packets that arrived, and the events
about them what it emits. -/
structure Taking (fresh c : Connection) (inputs : List Input) (trace : List Effect) : Prop where
  inbound_eq : ∀ kind, c.inbound kind = (fresh.takeAll (packets inputs)).1.inbound kind
  events_eq : (events trace).filter Event.isInbound = events (fresh.takeAll (packets inputs)).2

/-- What concerns no packet leaves the receiver as it is. -/
lemma Taking.quiet (taking : Taking fresh c inputs trace) (none : packets input = [])
    (inbound : c'.inbound = c.inbound)
    (events_eq : (events effects).filter Event.isInbound = []) :
    Taking fresh c' (inputs ++ input) (trace ++ effects) := by
  have same : packets (inputs ++ input) = packets inputs := by
    rw [packets, List.filterMap_append]
    exact (congrArg (packets inputs ++ ·) none).trans (List.append_nil _)
  refine ⟨fun kind => ?_, ?_⟩
  · rw [same, inbound]
    exact taking.inbound_eq kind
  · rw [same, events_append, List.filter_append, events_eq, List.append_nil]
    exact taking.events_eq

/-- Connections with the same inbound streams take a packet in the same way. -/
lemma receive_congr {d : Connection} (layout : c.layout = d.layout)
    (inbound : ∀ kind, c.inbound kind = d.inbound kind) (bytes : Bytes) :
    (c.receive bytes).1.effects = (d.receive bytes).1.effects ∧
      ∀ kind, (c.receive bytes).1.connection.inbound kind =
        (d.receive bytes).1.connection.inbound kind := by
  unfold receive
  rw [layout]
  cases Packet.decode d.layout bytes with
  | error cause =>
    refine ⟨rfl, fun kind => ?_⟩
    calc c.resetInbound.inbound kind
      _ = (c.inbound kind).reset := inbound_resetInbound c kind
      _ = (d.inbound kind).reset := by rw [inbound]
      _ = d.resetInbound.inbound kind := (inbound_resetInbound d kind).symm
  | ok packet =>
    simp only [inbound]
    refine ⟨rfl, fun kind => ?_⟩
    by_cases same : kind = packet.kind
    · subst same
      exact (inbound_setInbound ..).trans (inbound_setInbound ..).symm
    · exact (inbound_setInbound_of_ne _ same _).trans
        ((inbound kind).trans (inbound_setInbound_of_ne _ same _).symm)

/-- No move changes how large an inbound message may be. -/
lemma Move.maxMessageSize_eq (move : Move c input effects c') (kind : Kind) :
    (c'.inbound kind).maxMessageSize = (c.inbound kind).maxMessageSize := by
  have unchanged {d d' : Connection} (same : d'.inbound = d.inbound) :
      (d'.inbound kind).maxMessageSize = (d.inbound kind).maxMessageSize := by rw [same]
  cases move with
  | complete | fail | cancel => exact unchanged (inbound_vacate ..)
  | restart | drain => cases kind <;> rfl
  | take bytes =>
    unfold receive
    cases Packet.decode c.layout bytes with
    | error cause => cases kind <;> rfl
    | ok packet =>
      by_cases same : kind = packet.kind
      · rw [same]
        refine (congrArg (·.maxMessageSize) (inbound_setInbound ..)).trans ?_
        exact congrArg (·.maxMessageSize) (Reassembler.receive_fst _ packet)
      · exact congrArg (·.maxMessageSize) (inbound_setInbound_of_ne _ same _)
  | _ => exact unchanged (inbound_congr rfl rfl)

/-- Nothing changes the limit for messages. -/
lemma Path.maxMessageSize_eq (path : Path c inputs effects c') (kind : Kind) :
    (c'.inbound kind).maxMessageSize = (c.inbound kind).maxMessageSize := by
  induction path with
  | rest => rfl
  | step _ move ih => exact (move.maxMessageSize_eq kind).trans ih

/-- What a packet leads to is about what the connection takes. -/
lemma filter_events_receive (c : Connection) (bytes : Bytes) :
    (events (c.receive bytes).1.effects).filter Event.isInbound =
      events (c.receive bytes).1.effects := by
  have announced (kind : Kind) (outcome : Reception) :
      (events (announce kind outcome)).filter Event.isInbound =
        events (announce kind outcome) := by
    cases outcome with
    | pending => rfl
    | complete data => cases kind <;> rfl
    | error error data => cases data <;> cases kind <;> rfl
  unfold receive
  split
  · exact announced _ _
  · rfl

/-- An unhindered move leaves a receiver that has taken what arrived. -/
lemma Move.taking (move : Move c input effects c') (layout : c.layout = fresh.layout)
    (unhindered : Unhindered input effects) (taking : Taking fresh c inputs trace) :
    Taking fresh c' (inputs ++ input) (trace ++ effects) := by
  cases move with
  | take bytes =>
    have same : packets (inputs ++ [.packet bytes]) = packets inputs ++ [bytes] :=
      List.filterMap_append
    have taken := receive_congr (d := (fresh.takeAll (packets inputs)).1)
      (layout.trans (layout_takeAll ..).symm) taking.inbound_eq bytes
    refine ⟨fun kind => ?_, ?_⟩
    · rw [same, takeAll_snoc]
      exact taken.2 kind
    · rw [same, takeAll_snoc, events_append, events_append, List.filter_append, taking.events_eq,
        filter_events_receive, taken.1]
  | complete | fail | cancel => exact taking.quiet rfl (inbound_vacate ..) rfl
  | restart | drain => cases unhindered.plain _ (List.mem_singleton_self _) <;> contradiction
  | retire =>
    refine taking.quiet rfl (inbound_congr rfl rfl) ?_
    split <;> rfl
  | _ => exact taking.quiet rfl (inbound_congr rfl rfl) rfl

section Path

variable {layout : Layout} {maxPacketCount maxMessageSize : Number}

/-- The way of an unhindered connection since it was created. -/
lemma Path.going_taking
    (path : Path (new layout maxPacketCount maxMessageSize) inputs trace c)
    (unhindered : Unhindered inputs trace) :
    Going c inputs trace ∧
      Taking (new layout maxPacketCount maxMessageSize) c inputs trace := by
  induction path with
  | rest => exact ⟨⟨fun get => (by cases get), Nat.le_refl _⟩, fun _ => rfl, rfl⟩
  | step path move ih =>
    obtain ⟨before, now⟩ := unhindered.of_append
    obtain ⟨going, taking⟩ := ih before
    exact ⟨move.going (path.wellFormed (wellFormed_new _ _ _)) now going,
      move.taking path.layout_eq now taking⟩

end Path

end Connection

end PacketLink
