import PacketLink.Counter
import PacketLink.Fragmentation
import PacketLink.Packet.Codec
import PacketLink.Write.Log

/-!
# Write requests

A write request is one outbound message on its way through a link. It is cut into fragments when it
is created. Once started it submits one packet at a time: the next one is stamped with a counter and
submitted when the previous submission was accepted. It settles once, as completed, failed or
cancelled, and never changes after that. Every operation answers with the request it leaves behind
and with effects for the environment, in order; a submission or a settlement is always the last of
them, so that the environment may call back at once.
-/

namespace PacketLink

/-- The one outcome of a write request. -/
inductive WriteResult where
  | completed (packetCount : Nat)
  | failed (cause : WriteFailure) (sentCount : Nat)
  | cancelled (sentCount : Nat)

/-- Where a write request stands; a settled one knows its outcome. -/
inductive WriteStatus where
  | pending
  | inFlight
  | settled (result : WriteResult)

namespace WriteStatus

def phase : WriteStatus → Phase
  | pending => .pending
  | inFlight => .inFlight
  | settled (.completed _) => .completed
  | settled (.failed ..) => .failed
  | settled (.cancelled _) => .cancelled

def isSettled : WriteStatus → Bool
  | settled _ => true
  | _ => false

end WriteStatus

/-- Why a write request cannot be created. -/
inductive CreateError where
  | invalidArgument (cause : InvalidArgument)
  | tooManyPackets (packetCount : Nat) (limit : Number)
  deriving DecidableEq

def CreateError.message : CreateError → String
  | invalidArgument cause => cause.message
  | tooManyPackets packetCount limit =>
    s!"Message needs {packetCount} packets, more than the limit of {limit.text}"

/-- What the transport says about a submission. -/
inductive Outcome where
  | accepted
  | rejected (fault : Fault)

/-- One message on its way, cut into the fragments that are still to be stamped. -/
structure WriteRequest where
  id : Nat
  kind : Kind
  fragments : List Fragment
  /-- Most bytes of a packet, header included. -/
  maxPacketSize : Number
  layout : Layout
  /-- The abort signal that cancels the request. -/
  signal : Option String
  status : WriteStatus
  /-- Number of packets that the transport has accepted. -/
  sentCount : Nat

namespace WriteRequest

/-- What a write request asks of its environment. -/
inductive Effect where
  | log (entry : WriteLog)
  /-- Hand the packet with this index to the transport. -/
  | submit (index : Nat) (packet : Bytes)
  /-- The request has its outcome. -/
  | settle (result : WriteResult)

/-- What an operation leaves behind and asks for. -/
structure Turn where
  request : WriteRequest
  counter : Counter
  effects : List Effect

/-- Cut a message into a new pending request. -/
def create (id : Nat) (layout : Layout) (maxPacketSize maxPacketCount : Number)
    (signal : Option String) (message : Message) : Except CreateError WriteRequest :=
  match layout.chunkSize maxPacketSize with
  | .error cause => .error (.invalidArgument cause)
  | .ok size =>
    let count := size.packetCount message.payload.length
    if maxPacketCount.below count then
      .error (.tooManyPackets count maxPacketCount)
    else
      .ok {
        id, layout, maxPacketSize, signal
        kind := message.kind
        fragments := message.fragments size
        status := .pending
        sentCount := 0 }

variable (request : WriteRequest)

def phase : Phase := request.status.phase

def isSettled : Bool := request.status.isSettled

def isInFlight : Bool :=
  match request.status with
  | .inFlight => true
  | _ => false

/-- Settle with an outcome. -/
def settle (result : WriteResult) : WriteRequest × List Effect :=
  let status := WriteStatus.settled result
  ({ request with status },
    [.log (.settled status.phase request.sentCount), .settle result])

/-- Draw a counter for the next packet and submit it. -/
def submitNext (counter : Counter) : Turn :=
  let index := request.sentCount
  let (value, counter) := counter.next
  match request.fragments[index]? with
  | none => ⟨request, counter, []⟩
  | some fragment =>
    match (fragment.stamp value).encode request.layout request.maxPacketSize with
    | .ok packet =>
      ⟨request, counter, [.log (.submitting index value packet.length), .submit index packet]⟩
    | .error cause =>
      let (settled, effects) := request.settle (.failed (.encode cause) request.sentCount)
      ⟨settled, counter, .log (.encodeFailed index cause) :: effects⟩

/-- Begin transmission; only a pending request can be started. -/
def start (counter : Counter) : Except InvalidState Turn :=
  match request.status with
  | .pending =>
    let turn := submitNext { request with status := .inFlight } counter
    .ok { turn with effects := .log (.started request.fragments.length) :: turn.effects }
  | status => .error (.startRequest request.id status.phase)

/-- Cancel a request that has not settled. -/
def cancel : Option (WriteRequest × List Effect) :=
  if request.isSettled then none else some (request.settle (.cancelled request.sentCount))

/-- Take note of what became of the submission of packet `index`. A rejection with a fault that says
nothing changes nothing, so that the request stays in flight without a submission. -/
def conclude (counter : Counter) (index : Nat) (outcome : Outcome) : Turn :=
  if request.isInFlight then
    match outcome with
    | .rejected fault =>
      if told : fault.message?.isSome then
        let cause : SubmitError := ⟨index, fault, told⟩
        let (settled, effects) := request.settle (.failed (.submit cause) request.sentCount)
        ⟨settled, counter, .log (.submitFailed cause) :: effects⟩
      else ⟨request, counter, []⟩
    | .accepted =>
      let request := { request with sentCount := request.sentCount + 1 }
      if request.sentCount = request.fragments.length then
        let (settled, effects) := request.settle (.completed request.fragments.length)
        ⟨settled, counter, effects⟩
      else request.submitNext counter
  else
    ⟨request, counter, [.log (.outcomeIgnored index request.phase)]⟩

end WriteRequest

end PacketLink
