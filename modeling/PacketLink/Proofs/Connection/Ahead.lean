import PacketLink.Proofs.Connection.Trace

/-!
# Requests only go ahead

`WriteRequest.Ahead` is what the life of a request can be: its count grows, what has settled stays
as it is, and nothing becomes pending again. `Path.ahead` says that moves lead every request ahead,
and `Move.of_mem_called` which requests a move hands a packet over for: a pending one its first
packet, and the one in flight its next packet when the one before was accepted. So a settled request
hands nothing over any more (`Path.not_mem_called`).
-/

namespace PacketLink

/-- A request `r'` is what `r` may become. -/
structure WriteRequest.Ahead (r r' : WriteRequest) : Prop where
  signal_eq : r'.signal = r.signal
  sentCount_le : r.sentCount ≤ r'.sentCount
  pending : r'.status = .pending → r' = r
  settled : r.isSettled = true → r' = r

namespace WriteRequest.Ahead

variable {r r' r'' : WriteRequest}

/-- A request is where it is. -/
lemma refl (r : WriteRequest) : r.Ahead r := ⟨rfl, Nat.le_refl _, fun _ => rfl, fun _ => rfl⟩

/-- A request that gets ahead twice has got ahead. -/
lemma trans (first : r.Ahead r') (second : r'.Ahead r'') : r.Ahead r'' := by
  refine ⟨second.signal_eq.trans first.signal_eq,
    Nat.le_trans first.sentCount_le second.sentCount_le, fun pending => ?_, fun settled => ?_⟩
  · obtain rfl := second.pending pending
    exact first.pending pending
  · obtain rfl := first.settled settled
    exact second.settled settled

/-- A request that has not settled goes on to anything but a pending one. -/
lemma of_unsettled (unsettled : r.isSettled = false) {status : WriteStatus} {sentCount : Nat}
    (le : r.sentCount ≤ sentCount) (busy : status ≠ .pending) :
    r.Ahead { r with status, sentCount } :=
  ⟨rfl, le, fun pending => absurd pending busy, fun settled => by simp [unsettled] at settled⟩

end WriteRequest.Ahead

namespace Connection

variable {c c' : Connection} {inputs : List Input} {effects : List Effect} {k i : Nat}
  {r s : WriteRequest}

/-- When one request is replaced by what it may become, every request has become what it may. -/
lemma exists_setRequest {may : WriteRequest → WriteRequest → Prop} (refl : ∀ t, may t t)
    (get : c.requests[i]? = some s) {s' : WriteRequest} (step : may s s')
    (here : c.requests[k]? = some r) :
    ∃ r', (c.setRequest i s').requests[k]? = some r' ∧ may r r' := by
  rw [getElem?_setRequest get]
  split
  · rename_i same
    obtain rfl : s = r := Option.some.inj (get.symm.trans (same ▸ here))
    exact ⟨s', rfl, step⟩
  · exact ⟨r, here, refl r⟩

/-- A move takes no request back. -/
lemma Move.ahead (move : Move c inputs effects c') (here : c.requests[k]? = some r) :
    ∃ r', c'.requests[k]? = some r' ∧ r.Ahead r' := by
  have behind (new : WriteRequest) : (c.requests ++ [new])[k]? = some r := by
    rw [List.getElem?_append_left (List.getElem?_eq_some_iff.mp here).1]
    exact here
  have set {j : Nat} {s s' : WriteRequest} (get : c.requests[j]? = some s) (ahead : s.Ahead s') :
      ∃ r', (c.setRequest j s').requests[k]? = some r' ∧ r.Ahead r' :=
    exists_setRequest .refl get ahead here
  cases move with
  | join => exact ⟨r, behind _, .refl r⟩
  | refuse => exact ⟨r, behind _, .refl r⟩
  | launch _ _ get pending =>
    exact set get (.of_unsettled (WriteRequest.isSettled_eq pending) (Nat.le_refl _) (by simp))
  | follow get flying =>
    exact set get (.of_unsettled (WriteRequest.isSettled_eq flying) (Nat.le_succ _)
      (by simp [flying]))
  | complete get flying =>
    rw [settleRequest, requests_vacate]
    exact set get (.of_unsettled (WriteRequest.isSettled_eq flying) (Nat.le_succ _) (by simp))
  | fail _ get flying =>
    rw [settleRequest, requests_vacate]
    exact set get (.of_unsettled (WriteRequest.isSettled_eq flying) (Nat.le_refl _) (by simp))
  | cancel get unsettled =>
    rw [settleRequest, requests_vacate]
    exact set get (.of_unsettled unsettled (Nat.le_refl _) (by simp))
  | take bytes =>
    rw [connection_receive]
    exact ⟨r, here, .refl r⟩
  | _ => exact ⟨r, here, .refl r⟩

/-- Nothing takes a request back. -/
lemma Path.ahead (path : Path c inputs effects c') (here : c.requests[k]? = some r) :
    ∃ r', c'.requests[k]? = some r' ∧ r.Ahead r' := by
  induction path with
  | rest => exact ⟨r, here, .refl r⟩
  | step _ move ih =>
    obtain ⟨s, there, first⟩ := ih
    obtain ⟨t, get, second⟩ := move.ahead there
    exact ⟨t, get, first.trans second⟩

/-- A request that was there before has only gone ahead. -/
lemma Path.exists_ahead (path : Path c inputs effects c') (old : k < c.requests.length)
    (get : c'.requests[k]? = some r) : ∃ s, c.requests[k]? = some s ∧ s.Ahead r := by
  have here := List.getElem?_eq_getElem old
  obtain ⟨t, there, ahead⟩ := path.ahead here
  obtain rfl := Option.some.inj (there.symm.trans get)
  exact ⟨_, here, ahead⟩

/-- Without a send, every request was there before. -/
lemma Path.exists_ahead_of_unsent (path : Path c inputs effects c') (unsent : sends inputs = [])
    (get : c'.requests[k]? = some r) : ∃ s, c.requests[k]? = some s ∧ s.Ahead r := by
  have bound := (List.getElem?_eq_some_iff.mp get).1
  rw [path.length_eq unsent] at bound
  exact path.exists_ahead bound get

/-- What a move hands over is the first packet of a pending request, or the packet behind one that
was accepted. -/
lemma Move.of_mem_called (move : Move c inputs effects c') (mem : (k, i) ∈ called effects) :
    ∃ r, c.requests[k]? = some r ∧
      (r.status = .pending ∧ i = 0 ∨
        r.status = .inFlight ∧ i = r.sentCount + 1 ∧
          inputs = [.outcome k r.sentCount .accepted]) := by
  have silent (quiet : Quiet effects) : False := by
    rw [quiet.called_eq] at mem
    cases mem
  cases move with
  | launch _ _ get pending =>
    cases List.mem_singleton.mp mem
    exact ⟨_, get, .inl ⟨pending, rfl⟩⟩
  | follow get flying =>
    cases List.mem_singleton.mp mem
    exact ⟨_, get, .inr ⟨flying, rfl, rfl⟩⟩
  | refuse | complete | cancel => exact (silent (quiet_settlement _ _ _)).elim
  | fail =>
    exact (silent (List.forall_mem_cons.mpr ⟨rfl, quiet_settlement _ _ _⟩)).elim
  | retire =>
    refine (silent ?_).elim
    split <;> simp [Quiet, Effect.isQuiet]
  | take bytes => exact (silent (quiet_receive c bytes)).elim
  | _ => cases mem

/-- A settled request hands nothing over any more. -/
lemma Path.not_mem_called (path : Path c inputs effects c') (here : c.requests[k]? = some r)
    (settled : r.isSettled = true) : (k, i) ∉ called effects := by
  induction path with
  | rest => exact fun mem => by cases mem
  | step path move ih =>
    rw [called_append, List.mem_append, not_or]
    refine ⟨ih, fun mem => ?_⟩
    obtain ⟨s, there, ahead⟩ := path.ahead here
    obtain rfl := ahead.settled settled
    obtain ⟨t, get, status⟩ := move.of_mem_called mem
    obtain rfl := Option.some.inj (there.symm.trans get)
    obtain ⟨pending, _⟩ | ⟨flying, _⟩ := status
    · cases (WriteRequest.isSettled_eq pending).symm.trans settled
    · cases (WriteRequest.isSettled_eq flying).symm.trans settled

end Connection

end PacketLink
