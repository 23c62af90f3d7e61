import PacketLink.Proofs.Connection.Mirror

/-!
# Runs side by side

A run and the run without some of its requests go on side by side: `Run.Mirrors` relates them, and
every operation keeps the relation as long as it starts none of the omitted requests
(`Run.Mirrors.apply`). An operation that is about an omitted request has no counterpart in the other
run. What either run asked for before the comparison begins does not matter.
-/

namespace PacketLink.Connection.Run

/-- Since they had asked for `past` and `past'`, the run `run'` is `run` without the omitted
requests. -/
structure Mirrors (omitted : Omitted) (past past' : List Effect) (run run' : Run) : Prop where
  connection_eq : run'.connection = run.connection.without omitted
  apart : run.connection.Apart omitted
  aborted_eq : run'.aborted = run.aborted
  trace_eq : ∃ later, run.trace = past ++ later ∧ run'.trace = past' ++ traceWithout omitted later
  called_iff : ∀ {k j : Nat}, omitted.place? k = some j →
    ∀ i, (k, i) ∈ called run.trace ↔ (j, i) ∈ called run'.trace
  answers_iff : ∀ {k j : Nat}, omitted.place? k = some j →
    ∀ i, (k, i) ∈ answers run.inputs ↔ (j, i) ∈ answers run'.inputs

/-- Since a run had asked for `past`, none of the omitted requests was started. -/
def Spares (omitted : Omitted) (past : List Effect) (run : Run) : Prop :=
  ∀ later, run.trace = past ++ later → Unstarted omitted later

/-- The operation, or none. -/
def applyAny (run : Run) (operation : Option Operation) : Run := operation.elim run run.apply

variable {layout : Layout} {maxPacketCount maxMessageSize : Number} {omitted : Omitted}
  {past past' : List Effect} {run run' : Run} {turn turn' : Turn} {inputs inputs' : List Input}
  {j k : Nat}

/-- Messages that are sent answer nothing. -/
lemma answers_sends (messages : List Message) : answers (messages.map .send) = [] := by
  rw [answers, List.filterMap_map, List.filterMap_eq_nil_iff]
  intro message _
  rfl

/-- What was spared to the end was spared up to any point. -/
lemma Spares.earlier {next : Run} {more : List Effect} (spares : Spares omitted past next)
    (trace : next.trace = run.trace ++ more) : Spares omitted past run := by
  intro later trace'
  rw [trace', List.append_assoc] at trace
  exact (unstarted_append.mp (spares _ trace)).1

namespace Mirrors

/-- A turn within a run that spares the omitted requests skips them. -/
lemma skips (mirrors : Mirrors omitted past past' run run') (done : turn.refused = none)
    {next : Run} (spares : Spares omitted past next)
    (trace : next.trace = run.trace ++ turn.effects) : turn.Skips omitted := by
  obtain ⟨later, trace', _⟩ := mirrors.trace_eq
  rw [trace', List.append_assoc] at trace
  exact ⟨done, (unstarted_append.mp (spares _ trace)).2⟩

/-- A call waits for its answer with the omitted requests exactly if it does without them. -/
lemma awaits_iff (mirrors : Mirrors omitted past past' run run') (kept : omitted.place? k = some j)
    (i : Nat) : run.Awaits k i ↔ run'.Awaits j i := by
  rw [Awaits, Awaits, mirrors.called_iff kept, mirrors.answers_iff kept]

/-- Both runs take a turn. -/
lemma absorb (mirrors : Mirrors omitted past past' run run') (turns : turn.Mirrors omitted turn')
    (heard : ∀ {k j : Nat}, omitted.place? k = some j →
      ∀ i, (k, i) ∈ answers inputs ↔ (j, i) ∈ answers inputs') :
    Mirrors omitted past past' (run.absorb inputs turn) (run'.absorb inputs' turn') := by
  obtain ⟨rfl, apart⟩ := turns
  obtain ⟨later, trace, trace'⟩ := mirrors.trace_eq
  refine ⟨rfl, apart, mirrors.aborted_eq, ⟨later ++ turn.effects, ?_, ?_⟩, fun kept i => ?_,
    fun kept i => ?_⟩
  · rw [Run.absorb, trace, List.append_assoc]
  · rw [Run.absorb, trace', traceWithout_append, List.append_assoc]
    rfl
  · simp only [Run.absorb, called_append, List.mem_append, mirrors.called_iff kept]
    rw [← mem_called_traceWithout kept]
    rfl
  · simp only [Run.absorb, answers, List.filterMap_append, List.mem_append]
    exact or_congr (mirrors.answers_iff kept i) (heard kept i)

/-- Both runs take a turn in which they hear of no outcome. -/
lemma absorb_quiet (mirrors : Mirrors omitted past past' run run')
    (turns : turn.Mirrors omitted turn') (unheard : answers inputs = []) :
    Mirrors omitted past past' (run.absorb inputs turn) (run'.absorb inputs turn') := by
  refine mirrors.absorb turns fun _ i => ?_
  rw [unheard]
  exact iff_of_false List.not_mem_nil List.not_mem_nil

/-- Only the first run takes a turn, about omitted requests. -/
lemma absorb_alone (mirrors : Mirrors omitted past past' run run')
    (turns : turn.Mirrors omitted (stay (run.connection.without omitted)))
    (heard : ∀ {k j : Nat}, omitted.place? k = some j → ∀ i, (k, i) ∉ answers inputs) :
    Mirrors omitted past past' (run.absorb inputs turn) run' := by
  rw [← mirrors.connection_eq] at turns
  rw [← absorb_stay run']
  exact mirrors.absorb turns fun kept i => iff_of_false (heard kept i) List.not_mem_nil

/-- The requests of a signal are the same ones without those that are omitted. -/
lemma signalled_eq (mirrors : Mirrors omitted past past' run run') (signal : String) :
    run'.signalled signal = (run.signalled signal).filterMap omitted.place? := by
  have length : run'.connection.requests.length =
      run.connection.requests.length - omitted.count := by
    have := mirrors.apart.bound
    rw [mirrors.connection_eq, without, Omitted.remaining, List.length_append, List.length_take,
      List.length_drop]
    omega
  rw [signalled, signalled, length, ← Omitted.filterMap_place?_range mirrors.apart.bound,
    List.filterMap_filter, List.filter_filterMap]
  refine List.filterMap_congr fun k _ => ?_
  cases place : omitted.place? k with
  | none => simp
  | some j =>
    simp [Option.filter, mirrors.connection_eq, Apart.getElem?_without place]

/-- A send that goes through does so in both runs. -/
lemma send (mirrors : Mirrors omitted past past' run run')
    (sound : Sound layout maxPacketCount maxMessageSize run) {id : Nat} {maxPacketSize : Number}
    {message : Message} {signal : Option String}
    (sent : run.connection.send id maxPacketSize message signal (signal.any run.aborted.contains) =
      .ok turn)
    (spares : Spares omitted past (run.absorb inputs turn)) (unheard : answers inputs = []) :
    ∃ turn', (run.connection.without omitted).send id maxPacketSize message signal
        (signal.any run.aborted.contains) = .ok turn' ∧
      Mirrors omitted past past' (run.absorb inputs turn) (run'.absorb inputs turn') := by
  have done := (send_carried sound.wellFormed sound.atRest sent).refused_eq
  have skips := mirrors.skips done spares rfl
  obtain ⟨turn', sent', turns⟩ := Turn.Mirrors.send mirrors.apart sent skips
  exact ⟨turn', sent', mirrors.absorb_quiet turns unheard⟩

/-- An abort cancels the requests of the signal in both runs, in the same order. -/
lemma abort (mirrors : Mirrors omitted past past' run run')
    (sound : Sound layout maxPacketCount maxMessageSize run) (signal : String)
    (spares : Spares omitted past (run.apply (.abort signal))) :
    Mirrors omitted past past' (run.apply (.abort signal)) (run'.apply (.abort signal)) := by
  have wf := sound.wellFormed
  have rest := sound.atRest
  have skips := mirrors.skips
    (cancelEach_carried (run.signalled signal) wf rest).refused_eq spares rfl
  have kept {c : Connection} (k : Nat) (rested : c.WellFormed ∧ c.AtRest) :
      (c.cancel k).1.connection.WellFormed ∧ (c.cancel k).1.connection.AtRest := by
    have carried := cancel_carried rested.1 rested.2 k
    exact ⟨carried.path.wellFormed rested.1, carried.atRest⟩
  have turns := Turn.Mirrors.cancelEach (fun c => c.WellFormed ∧ c.AtRest) And.right kept
    (run.signalled signal) ⟨wf, rest⟩ mirrors.apart skips
  have aborting : Mirrors omitted past past' { run with aborted := signal :: run.aborted }
      { run' with aborted := signal :: run'.aborted } :=
    { mirrors with aborted_eq := congrArg (signal :: ·) mirrors.aborted_eq }
  simp only [Run.apply]
  rw [mirrors.connection_eq, mirrors.signalled_eq]
  exact aborting.absorb_quiet turns rfl

/-- An outcome is awaited in both runs or in neither. -/
lemma conclude (mirrors : Mirrors omitted past past' run run')
    (sound : Sound layout maxPacketCount maxMessageSize run) (kept : omitted.place? k = some j)
    (index : Nat) (outcome : Outcome)
    (spares : Spares omitted past (run.apply (.conclude k index outcome))) :
    Mirrors omitted past past' (run.apply (.conclude k index outcome))
      (run'.apply (.conclude j index outcome)) := by
  simp only [Run.apply, ← mirrors.awaits_iff kept] at spares ⊢
  split
  · rename_i awaits
    rw [if_pos awaits] at spares
    obtain ⟨r, get, due⟩ := sound.path.due awaits.1 awaits.2
    have done := (conclude_carried sound.wellFormed sound.atRest get due outcome).refused_eq
    have skips := mirrors.skips done spares rfl
    rw [mirrors.connection_eq]
    refine mirrors.absorb (Turn.Mirrors.conclude kept mirrors.apart index outcome skips)
      fun {k' j'} kept' i => ?_
    have same : k' = k ↔ j' = j := by
      constructor
      · rintro rfl
        exact Option.some.inj (kept'.symm.trans kept)
      · rintro rfl
        exact Omitted.place?_injective kept' kept
    simp [answers, Input.answer?, same]
  · exact mirrors

/-- An outcome for an omitted request is too late. -/
lemma conclude_omitted (mirrors : Mirrors omitted past past' run run')
    (sound : Sound layout maxPacketCount maxMessageSize run) (left : omitted.place? k = none)
    (index : Nat) (outcome : Outcome) :
    Mirrors omitted past past' (run.apply (.conclude k index outcome)) run' := by
  simp only [Run.apply]
  split
  · have late {r : WriteRequest} (get : run.connection.requests[k]? = some r) :
        r.isInFlight = false := by
      cases status : r.status with
      | inFlight =>
        exact absurd left (mirrors.apart.slot (sound.wellFormed.active_of_inFlight get status))
      | _ => simp [WriteRequest.isInFlight, status]
    refine mirrors.absorb_alone
      (Turn.Mirrors.conclude_omitted left mirrors.apart late index outcome) fun kept i mem => ?_
    cases List.mem_singleton.mp mem
    cases left.symm.trans kept
  · exact mirrors

/-- An operation, and its counterpart. -/
lemma apply (mirrors : Mirrors omitted past past' run run')
    (sound : Sound layout maxPacketCount maxMessageSize run) (operation : Operation)
    (spares : Spares omitted past (run.apply operation)) :
    Mirrors omitted past past' (run.apply operation)
      (run'.applyAny (operation.without omitted)) := by
  have wf := sound.wellFormed
  have rest := sound.atRest
  have apart := mirrors.apart
  cases operation with
  | send id maxPacketSize message signal =>
    simp only [applyAny, Operation.without, Option.elim, Run.apply] at spares ⊢
    rw [mirrors.connection_eq, mirrors.aborted_eq]
    cases sent : run.connection.send id maxPacketSize message signal
        (signal.any run.aborted.contains) with
    | error cause =>
      rw [Turn.Mirrors.send_refused sent]
      exact mirrors
    | ok turn =>
      rw [sent] at spares
      obtain ⟨turn', sent', next⟩ := mirrors.send sound sent spares rfl
      rw [sent']
      exact next
  | sendControlMessage id maxPacketSize message signal =>
    simp only [applyAny, Operation.without, Option.elim, Run.apply] at spares ⊢
    rw [mirrors.connection_eq, mirrors.aborted_eq]
    unfold Connection.sendControlMessage at spares ⊢
    cases encoded : message.encode with
    | error cause => exact mirrors
    | ok payload =>
      rw [encoded] at spares
      dsimp only at spares ⊢
      cases sent : run.connection.send id maxPacketSize ⟨.control, payload⟩ signal
          (signal.any run.aborted.contains) with
      | error cause =>
        rw [Turn.Mirrors.send_refused sent]
        exact mirrors
      | ok turn =>
        rw [sent] at spares
        obtain ⟨turn', sent', next⟩ := mirrors.send sound sent spares (answers_sends _)
        rw [sent']
        exact next
  | cancel k =>
    have skips := mirrors.skips (cancel_carried wf rest k).refused_eq spares rfl
    cases place : omitted.place? k with
    | none =>
      simp only [applyAny, Operation.without, place, Option.map_none, Option.elim]
      refine mirrors.absorb_alone (Turn.Mirrors.cancel_omitted place apart rest skips) ?_
      exact fun _ i => List.not_mem_nil
    | some j =>
      simp only [applyAny, Operation.without, place, Option.map_some, Option.elim, Run.apply]
      rw [mirrors.connection_eq]
      exact mirrors.absorb_quiet (Turn.Mirrors.cancel place apart skips) rfl
  | abort signal => exact mirrors.abort sound signal spares
  | start =>
    simp only [applyAny, Operation.without, Option.elim, Run.apply]
    rw [mirrors.connection_eq]
    cases started : run.connection.start with
    | error cause =>
      rw [Turn.Mirrors.start_refused started]
      exact mirrors
    | ok turn =>
      obtain ⟨turn', started', turns⟩ := Turn.Mirrors.start apart started
      rw [started']
      exact mirrors.absorb_quiet turns rfl
  | close =>
    have skips := mirrors.skips (close_carried wf rest).refused_eq spares rfl
    simp only [applyAny, Operation.without, Option.elim, Run.apply]
    rw [mirrors.connection_eq]
    exact mirrors.absorb_quiet (Turn.Mirrors.close apart skips) rfl
  | reset =>
    have skips := mirrors.skips (reset_carried wf).refused_eq spares rfl
    simp only [applyAny, Operation.without, Option.elim, Run.apply]
    rw [mirrors.connection_eq]
    exact mirrors.absorb_quiet (Turn.Mirrors.reset apart skips) rfl
  | receive bytes =>
    simp only [applyAny, Operation.without, Option.elim, Run.apply]
    rw [mirrors.connection_eq]
    exact mirrors.absorb_quiet (Turn.Mirrors.receive apart bytes) rfl
  | conclude k index outcome =>
    cases place : omitted.place? k with
    | none =>
      simp only [applyAny, Operation.without, place, Option.map_none, Option.elim]
      exact mirrors.conclude_omitted sound place index outcome
    | some j =>
      simp only [applyAny, Operation.without, place, Option.map_some, Option.elim]
      exact mirrors.conclude sound place index outcome spares

/-- Any number of operations, and their counterparts. -/
lemma foldl (mirrors : Mirrors omitted past past' run run')
    (sound : Sound layout maxPacketCount maxMessageSize run) (operations : List Operation)
    (spares : Spares omitted past (operations.foldl Run.apply run)) :
    Mirrors omitted past past' (operations.foldl Run.apply run)
      ((operations.filterMap (Operation.without omitted)).foldl Run.apply run') := by
  induction operations generalizing run run' with
  | nil => exact mirrors
  | cons operation operations ih =>
    have sound' := sound.apply operation
    obtain ⟨_, _, _, trace⟩ := sound'.onward operations
    have next := ih (mirrors.apply sound operation (spares.earlier trace)) sound' spares
    rw [List.filterMap_cons]
    cases left : operation.without omitted with
    | none =>
      rw [left] at next
      exact next
    | some operation' =>
      rw [left] at next
      exact next

end Mirrors

end PacketLink.Connection.Run
