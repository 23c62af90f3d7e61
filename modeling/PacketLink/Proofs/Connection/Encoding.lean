import PacketLink.Proofs.Connection.Settlement

/-!
# Writing packets never fails

A request that is started by hand may be given a counter for another layout, and then it may come to
a packet that cannot be written. A connection never does: its requests are cut for its own layout,
which also bounds its counter, so what they fail of is always a rejected submission.
`Path.forall_writes` says that no failure to write is recorded, `Path.told` that the outcomes
that are told are those that the requests have come to, and `Path.failsByRejection` of what the
failed ones have failed. Main statement: `Run.always_writes`.
-/

namespace PacketLink

/-- If a request has failed, its next packet was rejected. -/
def WriteRequest.FailsByRejection (r : WriteRequest) : Prop :=
  ∀ cause sentCount, r.status = .settled (.failed cause sentCount) →
    sentCount = r.sentCount ∧ sentCount < r.fragments.length ∧
      ∃ fault told, cause = .submit ⟨sentCount, fault, told⟩

/-- What is sent by a valid request has at most the size that the request was cut for. -/
lemma WriteRequest.Valid.atLeast_length {layout : Layout} {r : WriteRequest}
    (valid : r.Valid layout) {packet : Packet} {data : Bytes}
    (written : packet.encode r.layout r.maxPacketSize = .ok data) :
    r.maxPacketSize.AtLeast data.length := by
  obtain ⟨size, _, chunk, _⟩ := valid.cut
  obtain ⟨bytes, integer, _⟩ := Layout.chunkSize_eq_ok chunk
  refine (Number.not_below_iff ?_ _).mp (Packet.below_length_of_encode written)
  intro nan
  rw [nan] at integer
  cases integer

namespace Connection

/-- Whether an effect records nothing but packets that could be written. -/
def Effect.writes : Effect → Bool
  | .writeLog _ (.encodeFailed ..) => false
  | _ => true

/-- The outcome that an effect tells, and of the request in which place. -/
def Effect.told? : Effect → Option (Nat × WriteResult)
  | .resolve k result => some (k, result)
  | .emit (.writeSettled k result) => some (k, result)
  | _ => none

variable {c c' : Connection} {inputs : List Input} {effects trace : List Effect} {k : Nat}
  {r : WriteRequest} {result : WriteResult} {effect : Effect}

/-! ## What is recorded and told -/

/-- No settlement is due to a packet that could not be written. -/
lemma writes_settlement (k : Nat) (r : WriteRequest) (result : WriteResult) :
    ∀ effect ∈ settlement k r result, effect.writes = true := by
  simp [settlement, WriteRequest.settle, relay, Effect.writes]

/-- A packet that is submitted could be written. -/
lemma writes_submission (c : Connection) (k i : Nat) (f : Fragment) :
    ∀ effect ∈ c.submission k i f, effect.writes = true := by
  simp [submission, Effect.writes]

/-- An effect that is about no request records no failure and tells no outcome. -/
lemma Effect.of_place?_none (none : effect.place? = none) :
    effect.writes = true ∧ effect.told? = Option.none := by
  cases effect with
  | emit event => cases event <;> first | exact ⟨rfl, rfl⟩ | cases none
  | writeLog => cases none
  | resolve => cases none
  | _ => exact ⟨rfl, rfl⟩

/-- No move records a packet that could not be written. -/
lemma Move.forall_writes (move : Move c inputs effects c') :
    ∀ effect ∈ effects, effect.writes = true := by
  cases move with
  | refuse | complete | cancel => exact writes_settlement _ _ _
  | launch => exact List.forall_mem_cons.mpr ⟨rfl, writes_submission _ _ _ _⟩
  | follow => exact writes_submission _ _ _ _
  | fail => exact List.forall_mem_cons.mpr ⟨rfl, writes_settlement _ _ _⟩
  | retire => split <;> simp [Effect.writes]
  | take bytes =>
    exact fun effect mem => (Effect.of_place?_none (place?_receive c bytes effect mem)).1
  | _ => simp [Effect.writes]

/-- Every packet of a run could be written. -/
lemma Path.forall_writes (path : Path c inputs effects c') :
    ∀ effect ∈ effects, effect.writes = true := by
  induction path with
  | rest => exact fun effect mem => by cases mem
  | step _ move ih => exact List.forall_mem_append.mpr ⟨ih, move.forall_writes⟩

/-- A settlement tells one outcome, that of its request. -/
lemma told_settlement {j : Nat} (mem : effect ∈ settlement j r result) {result' : WriteResult}
    (told : effect.told? = some (k, result')) : k = j ∧ result' = result := by
  simp only [settlement, WriteRequest.settle, relay, List.flatMap_cons, List.flatMap_nil,
    List.cons_append, List.nil_append, List.mem_cons, List.not_mem_nil, or_false] at mem
  obtain rfl | rfl | rfl := mem <;> simp_all [Effect.told?]

/-- The outcome of a request that has just settled is the one that it settled with. -/
lemma result?_settleRequest_self (get : c.requests[k]? = some r) (sentCount : Nat)
    (result : WriteResult) : (c.settleRequest k r sentCount result).result? k = some result := by
  rw [settleRequest, result?_congr (requests_vacate ..), result?_setRequest get, if_pos rfl]
  rfl

/-- An outcome that a move tells is the one that the request has come to. -/
lemma Move.told (move : Move c inputs effects c') (mem : effect ∈ effects)
    (told : effect.told? = some (k, result)) : c'.result? k = some result := by
  have silent (quiet : effect.told? = none) : c'.result? k = some result := by
    cases quiet.symm.trans told
  cases move with
  | refuse =>
    obtain ⟨rfl, rfl⟩ := told_settlement mem told
    rw [result?_concat, if_pos rfl]
    rfl
  | complete get =>
    obtain ⟨rfl, rfl⟩ := told_settlement mem told
    exact result?_settleRequest_self get ..
  | fail _ get =>
    obtain rfl | mem := List.mem_cons.mp mem
    · cases told
    · obtain ⟨rfl, rfl⟩ := told_settlement mem told
      exact result?_settleRequest_self get ..
  | cancel get =>
    obtain ⟨rfl, rfl⟩ := told_settlement mem told
    exact result?_settleRequest_self get ..
  | take bytes => exact silent (Effect.of_place?_none (place?_receive c bytes effect mem)).2
  | launch | follow | restart | listen | note | drain =>
    refine silent ?_
    simp only [submission, List.mem_cons, List.not_mem_nil, or_false] at mem
    obtain rfl | rfl | rfl := mem <;> rfl
  | retire =>
    split at mem
    · obtain rfl := List.mem_singleton.mp mem
      cases told
    · cases mem
  | join | skip | strand => cases mem

/-- What a request has come to stays so. -/
lemma Move.result?_kept (move : Move c inputs effects c') (before : c.result? k = some result) :
    c'.result? k = some result := by
  have told := move.result?_toList k
  rw [before] at told
  cases after : c'.result? k with
  | none => simp [after] at told
  | some result' =>
    rw [after] at told
    exact congrArg some (List.cons.inj told).1

/-- An outcome that was told is the one that the request has. -/
lemma Path.told (path : Path c inputs effects c') (mem : effect ∈ effects)
    (told : effect.told? = some (k, result)) : c'.result? k = some result := by
  induction path with
  | rest => cases mem
  | step _ move ih =>
    obtain mem | mem := List.mem_append.mp mem
    · exact move.result?_kept (ih mem)
    · exact move.told mem told

/-! ## Failed requests -/

/-- Nothing but a rejected packet makes a request fail. -/
lemma Move.failsByRejection (move : Move c inputs effects c') (wf : c.WellFormed)
    (before : ∀ {k : Nat} {r : WriteRequest}, c.requests[k]? = some r → r.FailsByRejection)
    (get : c'.requests[k]? = some r) : r.FailsByRejection := by
  have new {s : WriteRequest} (fails : s.FailsByRejection)
      (get : (c.requests ++ [s])[k]? = some r) : r.FailsByRejection := by
    obtain get | ⟨-, rfl⟩ := getElem?_concat_cases get
    · exact before get
    · exact fails
  have set {j : Nat} {s s' : WriteRequest} (old : c.requests[j]? = some s)
      (fails : s'.FailsByRejection) (get : (c.setRequest j s').requests[k]? = some r) :
      r.FailsByRejection := by
    rw [getElem?_setRequest old] at get
    split at get
    · exact Option.some.inj get ▸ fails
    · exact before get
  cases move with
  | join _ _ pending => exact new (fun _ _ failed => by cases pending.symm.trans failed) get
  | refuse => exact new (fun _ _ failed => by cases failed) get
  | launch _ _ old => exact set old (fun _ _ failed => by cases failed) get
  | follow old flying => exact set old (fun _ _ failed => by cases flying.symm.trans failed) get
  | complete old =>
    rw [settleRequest, requests_vacate] at get
    exact set old (fun _ _ failed => by cases failed) get
  | fail _ old flying =>
    rw [settleRequest, requests_vacate] at get
    refine set old (fun _ _ failed => ?_) get
    cases failed
    exact ⟨rfl, (wf.valid old).inFlight_sentCount flying, _, _, rfl⟩
  | cancel old =>
    rw [settleRequest, requests_vacate] at get
    exact set old (fun _ _ failed => by cases failed) get
  | take bytes =>
    rw [connection_receive] at get
    exact before get
  | _ => exact before get

variable {layout : Layout} {maxPacketCount maxMessageSize : Number}

/-- In every run a request fails only when its next packet is rejected. -/
lemma Path.failsByRejection
    (path : Path (new layout maxPacketCount maxMessageSize) inputs trace c) :
    ∀ {k : Nat} {r : WriteRequest}, c.requests[k]? = some r → r.FailsByRejection := by
  induction path with
  | rest => exact fun get => by cases get
  | step path move ih =>
    exact fun get => move.failsByRejection (path.wellFormed (wellFormed_new _ _ _)) ih get

/-! ## Runs -/

/-- Whatever a connection was told to do, no packet failed to be written, the next packet of every
request that has not settled can be written with any counter of the connection, every packet that
was handed over is the writing of a fragment of its request within the size that the request was
cut for, and a request fails only of a rejected submission, of the first packet that was not
accepted. -/
theorem Run.always_writes (layout : Layout) (maxPacketCount maxMessageSize : Number)
    (operations : List Operation) :
    let run := of (new layout maxPacketCount maxMessageSize) operations
    (∀ k index cause, .writeLog k (.encodeFailed index cause) ∉ run.trace) ∧
      run.connection.counter.value < layout.counterSpace ∧
      (∀ (k : Nat) (r : WriteRequest), run.connection.requests[k]? = some r →
        r.isSettled = false → ∃ f, r.fragments[r.sentCount]? = some f ∧
          ∀ number < layout.counterSpace,
            ∃ packet, (f.stamp number).encode r.layout r.maxPacketSize = .ok packet) ∧
      (∀ call ∈ calls run.trace, ∃ r f number,
        run.connection.requests[call.request]? = some r ∧ r.fragments[call.index]? = some f ∧
          number < layout.counterSpace ∧
          (f.stamp number).encode r.layout r.maxPacketSize = .ok call.packet ∧
          r.maxPacketSize.AtLeast call.packet.length) ∧
      ∀ k cause sentCount, .resolve k (.failed cause sentCount) ∈ run.trace ∨
          .emit (.writeSettled k (.failed cause sentCount)) ∈ run.trace ∨
          run.connection.result? k = some (.failed cause sentCount) →
        ∃ r fault told, run.connection.requests[k]? = some r ∧ sentCount = r.sentCount ∧
          sentCount < r.fragments.length ∧ cause = .submit ⟨sentCount, fault, told⟩ := by
  intro run
  have sound : Sound layout maxPacketCount maxMessageSize run := sound_of operations
  have layout_eq : run.connection.layout = layout := sound.path.layout_eq
  obtain ⟨start, shape⟩ := sound.path.shape
  refine ⟨fun k index cause mem => ?_, ?_, fun k r get unsettled => ?_, fun call mem => ?_,
    fun k cause sentCount told => ?_⟩
  · cases sound.path.forall_writes _ mem
  · rw [← layout_eq, ← sound.wellFormed.space_eq]
    exact run.connection.counter.value_lt
  · have valid := sound.wellFormed.valid get
    have next := List.getElem?_eq_getElem (valid.sentCount_lt unsettled)
    rw [layout_eq] at valid
    exact ⟨_, next, fun number range => ⟨_, valid.encode_fragment next range⟩⟩
  · rw [← map_snd_numberedCalls 0] at mem
    obtain ⟨⟨number, call⟩, numbered, rfl⟩ := List.mem_map.mp mem
    obtain ⟨r, f, get, next, -, -, packet⟩ := shape.of_mem numbered
    have valid := sound.wellFormed.valid get
    have range := Nat.mod_lt number run.connection.layout.counterSpace_pos
    have written := valid.encode_fragment next range
    rw [← packet] at written
    exact ⟨r, f, _, get, next, layout_eq ▸ range, written, valid.atLeast_length written⟩
  · have settled : run.connection.result? k = some (.failed cause sentCount) := by
      obtain resolved | emitted | settled := told
      · exact sound.path.told resolved rfl
      · exact sound.path.told emitted rfl
      · exact settled
    obtain ⟨r, get, failed⟩ := Option.bind_eq_some_iff.mp settled
    obtain ⟨count, bound, fault, spoken, same⟩ :=
      sound.path.failsByRejection get _ _ (WriteRequest.result?_eq_some.mp failed)
    exact ⟨r, fault, spoken, get, count, bound, same⟩

end Connection

end PacketLink
