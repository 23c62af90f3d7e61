import PacketLink.Proofs.Connection.Operations

/-!
# The frame of a connection

The frame of a connection is what is left without its requests and its counter: the configuration,
the inbound streams, and whether it listens and is closed. Sending, cancelling and the outcomes of
submissions keep the frame.
-/

namespace PacketLink.Connection

/-- A connection without its requests, its counter at the start. -/
def frame (c : Connection) : Connection :=
  { c with requests := [], queue := [], active := none, counter := .start c.layout }

/-- The frame does not depend on what is in the slot or in the queue. -/
lemma frame_vacate (c : Connection) (k : Nat) : (c.vacate k).frame = c.frame := by
  unfold vacate
  split <;> rfl

/-- A turn from `c` that changes nothing but the requests and the counter. -/
def Turn.Keeps (c : Connection) (turn : Turn) : Prop := turn.connection.frame = c.frame

namespace Turn.Keeps

variable {c : Connection}

/-- What two turns leave alone is left alone by both. -/
lemma andThen {turn : Turn} {next : Connection → Turn} (keeps : turn.Keeps c)
    (then_keeps : ∀ c, (next c).Keeps c) : (turn.andThen next).Keeps c := by
  unfold Turn.andThen
  split
  · exact keeps
  · exact (then_keeps turn.connection).trans keeps

/-- What a request does changes nothing else of its connection. -/
lemma update (c : Connection) (k : Nat) (turn : WriteRequest.Turn) : (update c k turn).Keeps c :=
  rfl

/-- Starting the requests of a queue changes nothing else. -/
lemma startFrom (queue : List Nat) (c : Connection) : (startFrom queue c).Keeps c := by
  induction queue generalizing c with
  | nil => rfl
  | cons k queue ih =>
    unfold Connection.startFrom
    split
    · rfl
    · split
      · exact ih c
      · split
        · exact ih c
        · split
          · rename_i turn _
            have started : (Connection.update { c with queue } k turn).Keeps c := rfl
            dsimp only
            split
            · exact started.andThen ih
            · exact started.andThen fun _ => rfl
          · rfl

/-- Going on behind a request that has settled changes nothing else. -/
lemma proceed (c : Connection) (k : Nat) : (c.proceed k).Keeps c :=
  (startFrom ..).trans (frame_vacate c k)

/-- A turn of one request with what follows from it changes nothing else. -/
lemma advance (c : Connection) (k : Nat) (turn : WriteRequest.Turn) :
    (advance c k turn).Keeps c := by
  unfold Connection.advance
  dsimp only
  split
  · exact (update ..).andThen fun c => proceed c k
  · exact update ..

/-- Cancelling a request changes nothing else. -/
lemma cancel (c : Connection) (k : Nat) : (c.cancel k).1.Keeps c := by
  unfold Connection.cancel
  split
  · exact advance ..
  · rfl

/-- Cancelling one request after the other changes nothing else. -/
lemma cancelEach (ks : List Nat) (c : Connection) : (cancelEach ks c).Keeps c := by
  induction ks generalizing c with
  | nil => rfl
  | cons k ks ih =>
    rw [cancelEach_cons]
    exact (cancel c k).andThen ih

/-- Cancelling every request changes nothing else. -/
lemma cancelAll (c : Connection) : c.cancelAll.Keeps c := by
  have queued : (Connection.cancelEach c.queue { c with queue := [] }).Keeps c := cancelEach ..
  exact queued.andThen fun _ => cancelEach ..

/-- An outcome of a submission changes nothing else. -/
lemma conclude (c : Connection) (k index : Nat) (outcome : Outcome) :
    (c.conclude k index outcome).Keeps c := by
  unfold Connection.conclude
  split
  · dsimp only
    split
    · exact update ..
    · exact advance ..
  · rfl

/-- Queueing a request changes nothing else. -/
lemma enqueue (c : Connection) (request : WriteRequest) (aborted : Bool) :
    (c.enqueue request aborted).Keeps c := by
  unfold Connection.enqueue
  have created : (stay { c with requests := c.requests ++ [request] }).Keeps c := rfl
  refine andThen ?_ fun c => startFrom ..
  split
  · exact created.andThen fun c => cancel c _
  · exact created

/-- Sending a message changes nothing else. -/
lemma send {id : Nat} {maxPacketSize : Number} {message : Message} {signal : Option String}
    {aborted : Bool} {turn : Turn}
    (sent : c.send id maxPacketSize message signal aborted = .ok turn) : turn.Keeps c := by
  obtain ⟨r, _, _, rfl⟩ := send_eq sent
  exact enqueue ..

end Turn.Keeps

end PacketLink.Connection
