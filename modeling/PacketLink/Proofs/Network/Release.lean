import PacketLink.Proofs.Network.Traffic

/-!
# Submissions that are released

A submission that was released is settled when its outcome is on its way, first as a release and
then as a conclusion (`Network.outcomes`). A delivery brings no outcome on its way, whatever the
handlers of the peer do, and it fails only with the error of a handler (`Foreseen.deliver`).
`Releases` says which submissions were taken off those that are held and which outcomes are on their
way since, and `Released` and `Resumed` how a release and a resumption can end. Main statement:
`released_or_lost`, by which the submission at whose delivery a handler fails is lost.
-/

namespace PacketLink

/-- The outcome that a task brings to a sender, now or a turn later. -/
def Task.outcome? : Task → Option (Sender × Outcome)
  | .release sender outcome => some (sender, outcome)
  | .conclude sender outcome => some (sender, outcome)
  | _ => none

/-- The outcome of a submission that is released, with an error or without. -/
def Outcome.ofRelease : Option String → Outcome
  | none => .accepted
  | some message => .rejected (.error message)

namespace Network

/-- The outcomes that are on their way, in order. -/
def outcomes (n : Network) : List (Sender × Outcome) := n.tasks.filterMap Task.outcome?

/-- Some handler fails with `fault` whenever it takes a packet. -/
def Fails (n : Network) (fault : Fault) : Prop :=
  ∃ h ∈ n.handlers, ∃ message, h.mode = .fail message ∧ fault = .error message

/-- What has happened since `n` has failed only with the error of a handler, and has brought no
handler that fails. -/
structure Foreseen (n : Network) (result : Network × Option Fault) : Prop where
  fails : ∀ fault ∈ result.2, n.Fails fault
  kept : ∀ {fault}, result.1.Fails fault → n.Fails fault

/-- The submissions of `taken` were taken off those that are held at `station`, oldest first, and
the outcomes of `settled` are on their way since. Nothing else has changed about submissions, and no
handler that fails was added. -/
structure Releases (station : Nat) (taken : List (Submission Sender))
    (settled : List (Sender × Outcome)) (n n' : Network) : Prop where
  held_eq : ∀ other, n.held other = (if other = station then taken else []) ++ n'.held other
  awaiting_eq : ∀ other, n'.awaiting other = n.awaiting other
  outcomes_eq : n'.outcomes = n.outcomes ++ settled
  verdicts_eq : n'.lookBack Observation.verdict? = n.lookBack Observation.verdict?
  kept : ∀ {fault}, n'.Fails fault → n.Fails fault

/-- How the release of one submission can end. -/
inductive Released (station : Nat) (error : Option String) (n : Network) :
    Network → Except Fault Bool → Prop
  /-- There was none. -/
  | nothing (empty : n.held station = []) : Released station error n n (.ok false)
  | settled {oldest : Submission Sender} {n' : Network}
    (releases : Releases station [oldest] [(oldest.sender, .ofRelease error)] n n') :
    Released station error n n' (.ok true)
  /-- A handler has failed, and the submission has no outcome. -/
  | lost {lost : Submission Sender} {n' : Network} {fault : Fault} (delivers : error = none)
    (fails : n.Fails fault) (releases : Releases station [lost] [] n n') :
    Released station error n n' (.error fault)

/-- The outcome of a submission that was delivered. -/
def accepted (submission : Submission Sender) : Sender × Outcome := (submission.sender, .accepted)

/-- How the release of all submissions can end. -/
inductive Resumed (station : Nat) (n : Network) : Network → Option Fault → Prop
  | settled {n' : Network} (empty : n'.held station = [])
    (releases : Releases station (n.held station) ((n.held station).map accepted) n n') :
    Resumed station n n' none
  /-- A handler has failed. The submission of the packet that it took has no outcome, and those
  behind it are still held. -/
  | lost (gone : List (Submission Sender)) {lost : Submission Sender} {n' : Network}
    {fault : Fault} (fails : n.Fails fault)
    (releases : Releases station (gone ++ [lost]) (gone.map accepted) n n') :
    Resumed station n n' (some fault)

variable {n n' n'' : Network} {station : Nat} {s : Station} {e : Endpoint Sender}
  {taken taken' : List (Submission Sender)} {settled settled' : List (Sender × Outcome)}
  {passages : List Passage}

/-- What is held at a station is held at its endpoint. -/
lemma held_eq (n : Network) (station : Nat) :
    n.held station = ((n.endpoint? station).map (·.held)).getD [] := by
  rw [held, endpoint?, Option.map_map]
  rfl

/-- An outcome that is left for later is the last on its way. -/
lemma outcomes_later (n : Network) (task : Task) :
    (n.later task).outcomes = n.outcomes ++ task.outcome?.toList := by
  rw [outcomes, later, List.filterMap_append, outcomes]
  cases h : task.outcome? <;> simp [h]

/-! ## Failures -/

namespace Foreseen

/-- Where no handler is added none that fails is. -/
lemma of_handlers (same : n'.handlers = n.handlers) : n.Foreseen (n', none) :=
  ⟨fun _ mem => (by cases mem), fun ⟨h, mem, mode⟩ => ⟨h, same ▸ mem, mode⟩⟩

/-- What was foreseen in the middle was foreseen before. -/
lemma trans {result : Network × Option Fault} (first : n.Foreseen (n', none))
    (second : n'.Foreseen result) : n.Foreseen result :=
  ⟨fun fault mem => first.kept (second.fails fault mem), first.kept ∘ second.kept⟩

/-- Removing a handler adds none. -/
lemma unhandle (n : Network) (handler : String) : n.Foreseen (n.unhandle handler, none) := by
  unfold Network.unhandle
  split
  · exact of_handlers rfl
  · exact of_handlers rfl

/-- A handler that is added only takes packets. -/
lemma handle (n : Network) (station : Nat) (handler : String) :
    n.Foreseen (n.handle station handler .record, none) := by
  refine ⟨fun _ mem => (by cases mem), fun ⟨h, mem, message, mode, same⟩ => ?_⟩
  have known : h ∈ if n.handlers.any (·.name = handler) then n.handlers
      else n.handlers ++ [NamedHandler.mk handler station .record] := mem
  split at known
  · exact ⟨h, known, message, mode, same⟩
  · obtain old | new := List.mem_append.mp known
    · exact ⟨h, old, message, mode, same⟩
    · rw [List.mem_singleton.mp new] at mode
      cases mode

/-- A handler fails with its own error or not at all. -/
lemma giveTo (n : Network) (data : Bytes) (handler : Handler) :
    n.Foreseen (n.giveTo data handler) := by
  unfold Network.giveTo
  cases handler with
  | node node =>
    dsimp only
    split
    · exact of_handlers ((Frame.observe n _).trans (.settleTurn ..)).handlers_eq
    · exact of_handlers rfl
  | named handler =>
    dsimp only
    split
    · exact of_handlers rfl
    · rename_i h found
      have seen : n.Foreseen (n.observe (.handled h.home handler data), none) := of_handlers rfl
      split
      · exact seen
      · exact seen.trans (.unhandle ..)
      · exact seen.trans (.unhandle ..)
      · exact seen.trans (.handle ..)
      · rename_i message mode
        refine ⟨fun fault mem => ?_, seen.kept⟩
        cases mem
        exact ⟨h, List.mem_of_find?_eq_some found, message, mode, rfl⟩

/-- A visit fails with the error of one of the handlers. -/
lemma visit (station : Nat) (data : Bytes) (visits number : Nat) (n : Network) :
    n.Foreseen (Network.visit station data visits number n) := by
  induction visits generalizing n number with
  | zero => exact of_handlers rfl
  | succ visits ih =>
    rw [Network.visit]
    split
    · exact of_handlers rfl
    · rename_i handler _
      have given := giveTo n data handler
      split
      · rename_i result
        rwa [result] at given
      · rename_i result
        rw [result] at given
        exact given.trans (ih ..)

/-- Only a handler fails a delivery. -/
lemma deliver (n : Network) (station : Nat) (submission : Submission Sender) :
    n.Foreseen (n.deliver station submission) := by
  unfold Network.deliver
  split
  · exact of_handlers rfl
  · dsimp only
    split
    · exact of_handlers rfl
    · split
      · refine trans ?_ (visit ..)
        exact of_handlers rfl
      · exact of_handlers rfl

end Foreseen

/-! ## Submissions and outcomes -/

namespace Releases

/-- Where nothing happens nothing is released. -/
lemma refl (n : Network) (station : Nat) : Releases station [] [] n n :=
  ⟨fun _ => by simp, fun _ => rfl, (List.append_nil _).symm, rfl, id⟩

/-- What is released in two steps is released in one after the other. -/
lemma trans (first : Releases station taken settled n n')
    (second : Releases station taken' settled' n' n'') :
    Releases station (taken ++ taken') (settled ++ settled') n n'' := by
  refine ⟨fun other => ?_, fun other => (second.awaiting_eq other).trans (first.awaiting_eq other),
    ?_, second.verdicts_eq.trans first.verdicts_eq, first.kept ∘ second.kept⟩
  · rw [first.held_eq, second.held_eq]
    split <;> simp
  · rw [second.outcomes_eq, first.outcomes_eq, List.append_assoc]

/-- Where nothing is changed but what was seen, nothing is released. -/
lemma of_still (still : Still passages n n') (kept : ∀ {fault}, n'.Fails fault → n.Fails fault) :
    Releases station [] [] n n' := by
  obtain ⟨emissions, tasks, emit⟩ := still.tasks
  have none : emissions.filterMap Task.outcome? = [] := by
    refine List.filterMap_eq_nil_iff.mpr fun task mem => ?_
    have emission := emit task mem
    cases task with
    | emit => rfl
    | _ => cases emission
  refine ⟨fun other => ?_, fun other => ?_, ?_, still.verdicts_eq, kept⟩
  · rw [Network.held_eq n', still.endpoint_eq, Network.held_eq]
    simp
  · rw [Network.awaiting_eq n', still.endpoint_eq, Network.awaiting_eq]
  · rw [outcomes, tasks, List.filterMap_append, none, outcomes]

/-- The oldest submissions are taken off those that an endpoint holds. -/
lemma modifyEndpoint (there : n.endpoint? station = some e)
    {f : Endpoint Sender → Endpoint Sender} (held : e.held = taken ++ (f e).held)
    (awaiting : (f e).awaiting = e.awaiting) :
    Releases station taken [] n (n.modifyEndpoint station f) := by
  refine ⟨fun other => ?_, fun other => ?_, (List.append_nil _).symm, rfl, id⟩
  · by_cases here : other = station
    · subst here
      simp [Network.held_eq, endpoint?_modifyEndpoint, there, held]
    · simp [Network.held_eq, endpoint?_modifyEndpoint_of_ne n (Ne.symm here), here]
  · by_cases here : other = station
    · subst here
      simp [Network.awaiting_eq, endpoint?_modifyEndpoint, there, awaiting]
    · simp [Network.awaiting_eq, endpoint?_modifyEndpoint_of_ne n (Ne.symm here)]

/-- A delivery takes off nothing and settles nothing. -/
lemma deliver (releases : Releases station taken settled n n') (submission : Submission Sender) :
    Releases station taken settled n (n'.deliver station submission).1 := by
  have foreseen := Foreseen.deliver n' station submission
  cases get : n'.stations[station]? with
  | none =>
    simp only [Network.deliver, get]
    exact releases
  | some s =>
    obtain ⟨visits, -, still⟩ := still_deliver get submission
    obtain ⟨drop, asked⟩ := s.endpoint.exists_askDrop submission.data
    rw [asked] at still
    have replaced : Releases station [] [] n' (n'.setEndpoint station { s.endpoint with drop }) :=
      modifyEndpoint (endpoint?_of_get get) rfl rfl
    have delivered := releases.trans (replaced.trans (of_still still foreseen.kept))
    rwa [List.append_nil, List.append_nil, List.append_nil, List.append_nil] at delivered

/-- The outcome of a submission is on its way. -/
lemma settle (releases : Releases station taken settled n n') (sender : Sender)
    (outcome : Outcome) :
    Releases station taken (settled ++ [(sender, outcome)]) n
      (n'.later (.release sender outcome)) := by
  refine ⟨releases.held_eq, releases.awaiting_eq, ?_, releases.verdicts_eq, releases.kept⟩
  rw [outcomes_later, releases.outcomes_eq, List.append_assoc]
  rfl

end Releases

namespace Resumed

/-- Where nothing is held a release of everything is done. -/
lemma of_empty (empty : n.held station = []) : Resumed station n n none :=
  .settled empty (by rw [empty]; exact .refl n station)

/-- Submissions that were settled before the others. -/
lemma prepend {fault? : Option Fault} (resumed : Resumed station n' n'' fault?)
    (releases : Releases station taken (taken.map accepted) n n') :
    Resumed station n n'' fault? := by
  have split : n.held station = taken ++ n'.held station := by
    rw [releases.held_eq, if_pos rfl]
  cases resumed with
  | settled empty later =>
    refine .settled empty ?_
    rw [split, List.map_append]
    exact releases.trans later
  | lost gone fails later =>
    have longer := releases.trans later
    rw [← List.append_assoc, ← List.map_append] at longer
    exact .lost (taken ++ gone) (releases.kept fails) longer

end Resumed

/-! ## Releases -/

/-- A release comes to one of its three ends. -/
lemma released_release (n : Network) (station : Nat) (error : Option String) :
    Released station error n (n.release station error).1 (n.release station error).2 := by
  cases get : n.stations[station]? with
  | none =>
    simp only [release, get, Option.bind_none]
    exact .nothing (by simp [held, get])
  | some s =>
    cases held : s.endpoint.held with
    | nil =>
      simp only [release, get, Option.bind_some, Endpoint.takeHeld, held]
      exact .nothing (by simp [Network.held, get, held])
    | cons oldest rest =>
      let e : Endpoint Sender := { s.endpoint with held := rest }
      have off : Releases station [oldest] [] n (n.setEndpoint station e) :=
        .modifyEndpoint (endpoint?_of_get get) held rfl
      have takeHeld : s.endpoint.takeHeld = some (oldest, e) := by
        simp only [Endpoint.takeHeld, held, e]
      simp only [release, get, Option.bind_some, takeHeld]
      cases error with
      | some message => exact .settled (off.settle _ _)
      | none =>
        have delivered := off.deliver oldest
        have foreseen := Foreseen.deliver (n.setEndpoint station e) station oldest
        simp only [releaseOne]
        cases result : (n.setEndpoint station e).deliver station oldest with
        | mk n' fault =>
          rw [result] at delivered foreseen
          cases fault with
          | none => exact .settled (delivered.settle _ _)
          | some fault => exact .lost rfl (off.kept (foreseen.fails fault rfl)) delivered

/-- The releases go on until nothing is held or a handler fails. -/
lemma resumed_releaseAll {count : Nat} (enough : (n.held station).length ≤ count) :
    Resumed station n (releaseAll station count n).1 (releaseAll station count n).2 := by
  induction count generalizing n with
  | zero => exact .of_empty (List.length_eq_zero_iff.mp (Nat.le_zero.mp enough))
  | succ count ih =>
    have released := released_release n station none
    rw [releaseAll]
    cases result : n.release station none with
    | mk n' answer =>
      rw [result] at released
      cases released with
      | nothing empty => exact .of_empty empty
      | lost _ fails releases => exact .lost [] fails releases
      | @settled oldest n' releases =>
        have split : n.held station = oldest :: n'.held station := by
          simpa using releases.held_eq station
        have fewer : (n'.held station).length ≤ count := by
          rw [split] at enough
          exact Nat.le_of_succ_le_succ enough
        exact (ih fewer).prepend releases

/-- A release of everything comes to one of its two ends. -/
lemma resumed_resume (n : Network) (station : Nat) :
    Resumed station n (n.resume station).1 (n.resume station).2 := by
  cases get : n.stations[station]? with
  | none =>
    have nobody : n.resume station = (n, none) := by
      have same (f : Station → Station) : n.stations.modify station f = n.stations :=
        List.modify_eq_self (List.getElem?_eq_none_iff.mp get)
      simp only [resume, Network.modifyEndpoint, modifyStation, same, get]
    rw [nobody]
    exact .of_empty (by simp [held, get])
  | some s =>
    let stopped := n.modifyEndpoint station (·.stopHolding)
    have get' : stopped.stations[station]? =
        some { s with endpoint := s.endpoint.stopHolding } := by
      simp [stopped, Network.modifyEndpoint, modifyStation, get]
    have resumed : n.resume station = releaseAll station s.endpoint.held.length stopped := by
      rw [resume, get']
      rfl
    have stops : Releases station [] [] n stopped :=
      .modifyEndpoint (endpoint?_of_get get) rfl rfl
    have enough : (stopped.held station).length ≤ s.endpoint.held.length := by
      rw [held, get']
      exact Nat.le_refl _
    rw [resumed]
    exact (resumed_releaseAll enough).prepend stops

/-- Whatever is held and whatever the handlers do: a release takes off the oldest submission with an
outcome on its way, and so does a resumption with all of them, unless a handler fails. Then the
submission whose packet it took is off and has no outcome, and those behind it are still held. -/
theorem released_or_lost (n : Network) (station : Nat) :
    (∀ error, Released station error n (n.release station error).1 (n.release station error).2) ∧
      Resumed station n (n.resume station).1 (n.resume station).2 :=
  ⟨released_release n station, resumed_resume n station⟩

/-- Two submissions are held, and a handler of the peer fails. -/
def parked : Network :=
  let linked := ((empty.addLink 3).handle 1 "h" (.fail "no")).modifyEndpoint 0 (·.hold)
  ((linked.submitAsCaller 0 [1]).1.submitAsCaller 0 [2]).1

/-- The first submission is neither held nor settled, nothing is left to be done that would settle
it, and the second one is still held, after a resumption as after a release. -/
theorem released_or_lost_parked :
    let resumed := parked.resume 0
    let released := parked.release 0 none
    parked.held 0 = [⟨[1], .caller 0 0⟩, ⟨[2], .caller 0 1⟩] ∧
      (resumed.2 = some (.error "no") ∧ resumed.1.held 0 = [⟨[2], .caller 0 1⟩] ∧
        resumed.1.tasks = [] ∧ resumed.1.lookBack Observation.verdict? = []) ∧
      released.2 = .error (.error "no") ∧ released.1.held 0 = [⟨[2], .caller 0 1⟩] ∧
        released.1.tasks = [] ∧ released.1.lookBack Observation.verdict? = [] :=
  ⟨rfl, ⟨rfl, rfl, rfl, rfl⟩, rfl, rfl, rfl, rfl⟩

end Network

end PacketLink
