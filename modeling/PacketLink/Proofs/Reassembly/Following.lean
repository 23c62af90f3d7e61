import PacketLink.Proofs.Packet.Fragments
import PacketLink.Proofs.Reassembly.Reception

/-!
# Following a message

What a reassembler does with the packets of one whole message that come with successive counter
values. `Progress.awaiting` is what it holds once some of them have arrived. `accept_awaiting` adds
the next one; `receive_first` and `receive_next` say the same of a packet that begins a message,
whatever was held before, and of one that goes on with it. `receive_astray` says that a later one
with another counter than the expected one ends the message.
-/

namespace PacketLink

/-- The first `i` fragments have arrived, and the next one has to carry the counter `expected`. -/
def Progress.awaiting (fragments : List Fragment) (i expected : Nat) : Progress where
  chunks := ((fragments.take i).map (·.payload)).reverse
  receivedBytes := totalLength (fragments.take i)
  expected := expected

namespace Progress

variable {fragments : List Fragment} {i : Nat}

/-- A message in progress has the content of its first fragments. -/
lemma data_awaiting (fragments : List Fragment) (i expected : Nat) :
    (awaiting fragments i expected).data = joined (fragments.take i) := by
  rw [data, awaiting, List.reverse_reverse, joined]

/-- One more fragment has arrived. -/
lemma awaiting_succ (h : i < fragments.length) (counter expected : Nat) :
    awaiting fragments (i + 1) expected =
      { chunks := fragments[i].payload :: (awaiting fragments i counter).chunks
        receivedBytes :=
          (awaiting fragments i counter).receivedBytes + fragments[i].payload.length
        expected := expected } := by
  simp only [awaiting, totalLength, List.take_succ_eq_append_getElem h, List.map_append,
    List.map_cons, List.map_nil, List.reverse_append, List.reverse_singleton,
    List.singleton_append, List.sum_append, List.sum_singleton]

end Progress

namespace Reassembler

variable {r : Reassembler} {kind : Kind} {fragments : List Fragment} {f : Fragment}
  {i counter : Nat}

/-- Adding the next fragment of a message to what is held of it. -/
lemma accept_awaiting (framed : Framed kind fragments) (get : fragments[i]? = some f)
    (range : counter < r.layout.counterSpace) :
    r.accept (.awaiting fragments i counter) (f.stamp counter) =
      if r.maxMessageSize.below (totalLength (fragments.take (i + 1)) : Nat) then
        (r.reset, .error (.messageTooLarge r.maxMessageSize
          (totalLength (fragments.take (i + 1)) : Nat)) none)
      else if i + 1 = fragments.length then (r.reset, .complete (joined fragments))
      else
        ({ r with
            progress :=
              some (.awaiting fragments (i + 1) ((counter + 1) % r.layout.counterSpace)) },
          .pending) := by
  obtain ⟨bound, rfl⟩ := List.getElem?_eq_some_iff.mp get
  have grown := Progress.awaiting_succ bound counter ((counter + 1) % r.layout.counterSpace)
  have size : (Progress.awaiting fragments i counter).receivedBytes +
      fragments[i].payload.length = totalLength (fragments.take (i + 1)) :=
    (congrArg Progress.receivedBytes grown).symm
  have chunks : (Progress.awaiting fragments i counter).data ++ fragments[i].payload =
      joined (fragments.take (i + 1)) := by
    rw [Progress.data_awaiting, List.take_succ_eq_append_getElem bound]
    simp only [joined, List.map_append, List.flatten_append, List.map_cons, List.map_nil,
      List.flatten_singleton]
  have waits : (Progress.awaiting fragments i counter).expected = .ofNat counter := rfl
  rw [size] at grown
  rw [accept_eq rfl range, Fragment.payload_stamp, Fragment.isLast_stamp, framed.isLast_eq get,
    size, chunks, waits, ← grown, if_neg (not_not_intro rfl)]
  simp only [decide_eq_true_eq]
  split
  · rfl
  · split
    · rename_i whole
      rw [List.take_of_length_le (Nat.le_of_eq whole.symm)]
    · rfl

/-- The next fragment of a message goes on with what is held of it, if it does not begin it. -/
lemma basis_stamp (framed : Framed kind fragments) (get : fragments[i]? = some f) :
    r.basis (f.stamp counter) =
      if i = 0 then some (.awaiting fragments 0 counter) else r.progress := by
  rw [basis, Fragment.isFirst_stamp, framed.isFirst_eq get]
  simp only [decide_eq_true_eq]
  rfl

/-- A first fragment begins a message, whatever was held before. -/
lemma receive_first (framed : Framed kind fragments) (get : fragments[0]? = some f) :
    r.receive (f.stamp counter) =
      if r.progress.isSome then
        ((r.accept (.awaiting fragments 0 counter) (f.stamp counter)).1,
          interrupted (r.accept (.awaiting fragments 0 counter) (f.stamp counter)).2)
      else r.accept (.awaiting fragments 0 counter) (f.stamp counter) := by
  have first : (f.stamp counter).isFirst = true := framed.isFirst_eq get
  have start : Progress.beginWith (f.stamp counter) = .awaiting fragments 0 counter := rfl
  rw [receive, first]
  cases r.progress with
  | none => simp [start]
  | some _ => simp [start]

/-- A later fragment is added to what is held. -/
lemma receive_later (framed : Framed kind fragments) (get : fragments[i]? = some f)
    (later : i ≠ 0) {progress : Progress} (held : r.progress = some progress) :
    r.receive (f.stamp counter) = r.accept progress (f.stamp counter) := by
  have first : (f.stamp counter).isFirst = false := by
    rw [Fragment.isFirst_stamp, framed.isFirst_eq get, decide_eq_false later]
  rw [receive, first, held]

/-- What a reassembler holds after fragment `i` of a message that it has followed so far. -/
def following (r : Reassembler) (fragments : List Fragment) (i counter : Nat) : Option Progress :=
  if i + 1 = fragments.length then none
  else some (.awaiting fragments (i + 1) ((counter + 1) % r.layout.counterSpace))

/-- A fragment that begins a message or goes on with what is held is accepted like the next fragment
of its message. -/
lemma receive_next (framed : Framed kind fragments) (get : fragments[i]? = some f) (counter : Nat)
    (held : i ≠ 0 → r.progress = some (.awaiting fragments i counter)) :
    (r.receive (f.stamp counter)).1 =
        (r.accept (.awaiting fragments i counter) (f.stamp counter)).1 ∧
      (r.receive (f.stamp counter)).2.data? =
        (r.accept (.awaiting fragments i counter) (f.stamp counter)).2.data? := by
  have goes_on : r.basis (f.stamp counter) = some (.awaiting fragments i counter) := by
    rw [basis_stamp framed get]
    split
    · rename_i begins
      rw [begins]
    · rename_i later
      exact held later
  obtain ⟨taken, answered⟩ := receive_eq r (f.stamp counter)
  rw [goes_on] at taken answered
  rw [receive_fst, taken, accept_fst]
  exact ⟨rfl, answered⟩

/-- A reassembler that has followed a message within its limit follows it one fragment further, and
answers with the message when that was the last one. -/
lemma receive_following (framed : Framed kind fragments) (get : fragments[i]? = some f)
    (range : counter < r.layout.counterSpace)
    (fits : r.maxMessageSize.below (totalLength fragments : Nat) = false)
    (held : i ≠ 0 → r.progress = some (.awaiting fragments i counter)) :
    (r.receive (f.stamp counter)).1 = { r with progress := r.following fragments i counter } ∧
      (r.receive (f.stamp counter)).2.data? =
        if i + 1 = fragments.length then some (joined fragments) else none := by
  have small := Number.not_below_of_le (totalLength_take_le fragments (i + 1)) fits
  have step := accept_awaiting (r := r) framed get range
  have next := receive_next framed get counter held
  rw [small] at step
  simp only [Bool.false_eq_true, if_false] at step
  rw [next.1, next.2, step, following]
  split <;> exact ⟨rfl, rfl⟩

/-- A reassembler that holds what it has followed of a message within its limit, and nothing of
another one, follows it one fragment further without an error. -/
lemma receive_fitting (framed : Framed kind fragments) (get : fragments[i]? = some f)
    (range : counter < r.layout.counterSpace)
    (fits : r.maxMessageSize.below (totalLength fragments : Nat) = false)
    (held : r.progress = if i = 0 then none else some (.awaiting fragments i counter)) :
    r.receive (f.stamp counter) =
      ({ r with progress := r.following fragments i counter },
        if i + 1 = fragments.length then .complete (joined fragments) else .pending) := by
  have small := Number.not_below_of_le (totalLength_take_le fragments (i + 1)) fits
  have step := accept_awaiting (r := r) framed get range
  rw [small] at step
  simp only [Bool.false_eq_true, if_false] at step
  have accepted : r.receive (f.stamp counter) =
      r.accept (.awaiting fragments i counter) (f.stamp counter) := by
    by_cases begins : i = 0
    · subst begins
      rw [receive_first framed get, held]
      rfl
    · rw [if_neg begins] at held
      exact receive_later framed get begins held
  rw [accepted, step, following]
  split <;> rfl

/-- Whatever its limit, a reassembler that has followed a message follows it one fragment further or
drops it, and answers with nothing but the message after the last one. -/
lemma receive_next_cases (framed : Framed kind fragments) (get : fragments[i]? = some f)
    (range : counter < r.layout.counterSpace)
    (held : i ≠ 0 → r.progress = some (.awaiting fragments i counter)) :
    (∃ progress, (r.receive (f.stamp counter)).1 = { r with progress } ∧
        (progress = none ∨ progress = r.following fragments i counter)) ∧
      ∀ data, (r.receive (f.stamp counter)).2.data? = some data →
        data = joined fragments ∧ i + 1 = fragments.length := by
  have next := receive_next framed get counter held
  rw [next.1, next.2, accept_awaiting framed get range]
  split
  · exact ⟨⟨none, rfl, .inl rfl⟩, fun _ answer => by cases answer⟩
  · split
    · rename_i last
      exact ⟨⟨none, rfl, .inl rfl⟩, fun _ answer => by cases answer; exact ⟨rfl, last⟩⟩
    · rename_i more
      refine ⟨⟨_, rfl, .inr ?_⟩, fun _ answer => by cases answer⟩
      rw [following, if_neg more]

/-- A later fragment that does not carry the counter that the reassembler waits for leaves it with
nothing. -/
lemma receive_astray (framed : Framed kind fragments) (get : fragments[i]? = some f)
    (later : i ≠ 0)
    (astray : ∀ progress, r.progress = some progress →
      (Number.ofNat counter).same progress.expected = false) :
    (r.receive (f.stamp counter)).1 = { r with progress := none } ∧
      (r.receive (f.stamp counter)).2.data? = none := by
  obtain ⟨taken, answered⟩ := receive_eq r (f.stamp counter)
  rw [basis_stamp framed get, if_neg later] at taken answered
  rw [receive_fst, taken, answered]
  cases held : r.progress with
  | none => exact ⟨rfl, rfl⟩
  | some progress =>
    simp only [Option.bind_some, accept, Fragment.counter_stamp, astray progress held]
    exact ⟨rfl, rfl⟩

end Reassembler

end PacketLink
