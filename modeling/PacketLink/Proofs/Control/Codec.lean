import PacketLink.Control.Codec
import PacketLink.Proofs.Number.Natural

/-!
# The control codec

A control payload is a command followed by the bytes of its fields. `encode_of_fields` and
`encode_of_misfit` say what encoding does with fields that fit and with the first one that does not,
and `exists_fields` that the bytes after a command are those of fields as soon as there are as many
as the command has. So encoding and decoding are inverse to each other (`decode_eq_ok_iff`), and
`decode_eq_error_iff` says for what a payload is refused. Main statement: `payload_bijection`.
-/

namespace PacketLink

namespace Command

variable {code : UInt8} {command : Command}

/-- Number of fields of a payload with this command. -/
def fieldCount : Command → Nat
  | connectionRequest => 3
  | connectionConfirm => 2
  | error => 0
  | disconnect => 0

/-- A message is its command and two bytes for each field. -/
lemma size_eq (command : Command) : command.size = 1 + 2 * command.fieldCount := by
  cases command <;> rfl

/-- Each command has a code of its own. -/
lemma ofCode?_eq_some_iff : ofCode? code = some command ↔ code = command.code := by
  refine ⟨fun known => ?_, fun same => same ▸ ofCode?_code command⟩
  unfold ofCode? at known
  split at known <;> cases known <;> rfl

/-- The codes of the commands are the least ones. -/
lemma code_le (command : Command) : command.code.toNat ≤ 3 := by
  cases command <;> decide

/-- Every code above those is unknown. -/
lemma ofCode?_eq_none_iff : ofCode? code = none ↔ 3 < code.toNat := by
  constructor
  · intro unknown
    -- a code up to three would be that of a command
    by_contra small
    have other (command : Command) : code.toNat ≠ command.code.toNat := fun same => by
      rw [ofCode?_eq_some_iff.mpr (UInt8.toNat_inj.mp same)] at unknown
      cases unknown
    have request : code.toNat ≠ 0 := other .connectionRequest
    have confirm : code.toNat ≠ 1 := other .connectionConfirm
    have error : code.toNat ≠ 2 := other .error
    have disconnect : code.toNat ≠ 3 := other .disconnect
    omega
  · intro large
    cases known : ofCode? code with
    | none => rfl
    | some command =>
      rw [ofCode?_eq_some_iff.mp known] at large
      exact absurd large (Nat.not_lt.mpr command.code_le)

end Command

namespace ControlMessage

variable {message : ControlMessage} {command : Command} {data : Bytes} {values : List Nat}
  {value : Number}

/-- A number that a field can hold. -/
def Fits (value : Number) : Prop := ∃ n < fieldSpace, value = .ofNat n

/-- The bytes of fields that hold `values`. -/
def body (values : List Nat) : Bytes := (values.map (Bytes.bigEndian 2)).flatten

/-- The body is written field by field. -/
lemma body_cons (n : Nat) (values : List Nat) :
    body (n :: values) = Bytes.bigEndian 2 n ++ body values := rfl

/-! ## Fields -/

/-- A value that fits is written in two bytes. -/
lemma encodeField_ofNat {n : Nat} (small : n < fieldSpace) :
    encodeField (.ofNat n) = .ok (Bytes.bigEndian 2 n) := by
  simp [encodeField, small]

/-- A value that does not fit is not written. -/
lemma encodeField_of_misfit (misfit : ¬Fits value) : encodeField value = .error ⟨value⟩ := by
  unfold encodeField
  split
  · rename_i n read
    rw [if_neg fun small => misfit ⟨n, small, Number.toNat?_eq_some_iff.mp read⟩]
  · rfl

/-- Values that fit are all written. -/
lemma mapM_encodeField (small : ∀ n ∈ values, n < fieldSpace) :
    (values.map Number.ofNat).mapM encodeField = .ok (values.map (Bytes.bigEndian 2)) := by
  induction values with
  | nil => rfl
  | cons n values ih =>
    obtain ⟨first, rest⟩ := List.forall_mem_cons.mp small
    rw [List.map_cons, List.mapM_cons, encodeField_ofNat first, ih rest]
    rfl

/-- The first value that does not fit is the one that is reported. -/
lemma mapM_encodeField_of_misfit (small : ∀ n ∈ values, n < fieldSpace) (misfit : ¬Fits value)
    (after : List Number) :
    (values.map Number.ofNat ++ value :: after).mapM encodeField = .error ⟨value⟩ := by
  induction values with
  | nil =>
    rw [List.map_nil, List.nil_append, List.mapM_cons, encodeField_of_misfit misfit]
    rfl
  | cons n values ih =>
    obtain ⟨first, rest⟩ := List.forall_mem_cons.mp small
    rw [List.map_cons, List.cons_append, List.mapM_cons, encodeField_ofNat first, ih rest]
    rfl

/-- Either all fields fit or there is a first one that does not. -/
lemma fits_or_misfit (fields : List Number) :
    (∃ values : List Nat, (∀ n ∈ values, n < fieldSpace) ∧ fields = values.map .ofNat) ∨
      ∃ (values : List Nat) (value : Number) (after : List Number),
        (∀ n ∈ values, n < fieldSpace) ∧ ¬Fits value ∧
          fields = values.map .ofNat ++ value :: after := by
  induction fields with
  | nil => exact .inl ⟨[], List.forall_mem_nil _, rfl⟩
  | cons field fields ih =>
    by_cases fits : Fits field
    · obtain ⟨n, small, rfl⟩ := fits
      obtain ⟨values, rest, rfl⟩ | ⟨values, value, after, rest, misfit, rfl⟩ := ih
      · exact .inl ⟨n :: values, List.forall_mem_cons.mpr ⟨small, rest⟩, rfl⟩
      · exact .inr ⟨n :: values, value, after, List.forall_mem_cons.mpr ⟨small, rest⟩, misfit, rfl⟩
    · exact .inr ⟨[], field, fields, List.forall_mem_nil _, fits, rfl⟩

/-- The body has two bytes for each value. -/
lemma length_body (values : List Nat) : (body values).length = 2 * values.length := by
  induction values with
  | nil => rfl
  | cons n values ih =>
    rw [body_cons, List.length_append, Bytes.length_bigEndian, List.length_cons, ih]
    omega

/-- The bytes after a command, two for each field, are those of fields. -/
lemma exists_fields {count : Nat} {bytes : Bytes} (length : bytes.length = 2 * count) :
    ∃ values, values.length = count ∧ (∀ n ∈ values, n < fieldSpace) ∧ bytes = body values := by
  induction count generalizing bytes with
  | zero => exact ⟨[], rfl, List.forall_mem_nil _, List.length_eq_zero_iff.mp length⟩
  | succ count ih =>
    obtain ⟨high, low, bytes, rfl⟩ : ∃ high low rest, bytes = high :: low :: rest := by
      match bytes, length with
      | high :: low :: rest, _ => exact ⟨high, low, rest, rfl⟩
    have rest : bytes.length = 2 * count := by
      rw [List.length_cons, List.length_cons] at length
      omega
    obtain ⟨values, count_eq, small, rfl⟩ := ih rest
    have first : Bytes.ofBigEndian [high, low] < Nat.pow 256 2 := Bytes.ofBigEndian_lt [high, low]
    refine ⟨Bytes.ofBigEndian [high, low] :: values, congrArg _ count_eq,
      List.forall_mem_cons.mpr ⟨first, small⟩, ?_⟩
    have field : Bytes.bigEndian 2 (Bytes.ofBigEndian [high, low]) = [high, low] :=
      Bytes.bigEndian_ofBigEndian [high, low]
    rw [body_cons, field]
    rfl

/-- Each field is read where it was written. -/
lemma uint16At_body (code : UInt8) (small : ∀ n ∈ values, n < fieldSpace) {i n : Nat}
    (get : values[i]? = some n) : Bytes.uint16At (code :: body values) (1 + 2 * i) = n := by
  rw [Bytes.uint16At, Nat.add_comm, List.drop_succ_cons]
  induction values generalizing i with
  | nil => cases get
  | cons m values ih =>
    obtain ⟨first, rest⟩ := List.forall_mem_cons.mp small
    rw [body_cons]
    cases i with
    | zero =>
      obtain rfl : m = n := by simpa using get
      rw [Nat.mul_zero, List.drop_zero, List.take_left' (Bytes.length_bigEndian 2 m)]
      exact Bytes.ofBigEndian_bigEndian first
    | succ i =>
      rw [Nat.mul_succ, Nat.add_comm, ← List.drop_drop,
        List.drop_left' (Bytes.length_bigEndian 2 m)]
      exact ih rest (by simpa using get)

/-! ## Messages -/

/-- A message is its command with its fields. -/
lemma eq_of_fields {other : ControlMessage} (command : message.command = other.command)
    (fields : message.fields = other.fields) : message = other := by
  cases message <;> cases other <;> cases command
  · rename_i c c'
    obtain ⟨_, _, _⟩ := c
    obtain ⟨_, _, _⟩ := c'
    simpa [ControlMessage.fields] using fields
  · simpa [ControlMessage.fields] using fields
  · rfl
  · rfl

/-- A message has the fields of its command. -/
lemma length_fields (message : ControlMessage) :
    message.fields.length = message.command.fieldCount := by
  cases message <;> rfl

/-- What is read as a command is a message of it. -/
@[simp] lemma command_read (command : Command) (data : Bytes) :
    (read command data).command = command := by
  cases command <;> rfl

/-- The fields that are read are those that were written. -/
lemma fields_read (code : UInt8) (small : ∀ n ∈ values, n < fieldSpace)
    (count : values.length = command.fieldCount) :
    (read command (code :: body values)).fields = values.map .ofNat := by
  have field {i n : Nat} (get : values[i]? = some n) :
      Bytes.uint16At (code :: body values) (1 + 2 * i) = n := uint16At_body code small get
  cases command with
  | connectionRequest =>
    obtain ⟨a, b, c, rfl⟩ := List.length_eq_three.mp count
    simp [read, fields, field (i := 0) rfl, field (i := 1) rfl, field (i := 2) rfl]
  | connectionConfirm =>
    obtain ⟨a, b, rfl⟩ := List.length_eq_two.mp count
    simp [read, fields, field (i := 0) rfl, field (i := 1) rfl]
  | error | disconnect =>
    rw [List.length_eq_zero_iff.mp count]
    rfl

/-! ## What is written -/

/-- A message whose values fit is its code and then its body. -/
lemma encode_of_fields (small : ∀ n ∈ values, n < fieldSpace)
    (fields : message.fields = values.map .ofNat) :
    message.encode = .ok (message.command.code :: body values) := by
  rw [encode, fields, mapM_encodeField small]
  rfl

/-- The first field that does not fit is reported. -/
lemma encode_of_misfit (small : ∀ n ∈ values, n < fieldSpace) (misfit : ¬Fits value)
    {after : List Number} (fields : message.fields = values.map .ofNat ++ value :: after) :
    message.encode = .error ⟨value⟩ := by
  rw [encode, fields, mapM_encodeField_of_misfit small misfit]
  rfl

/-- Exactly the messages whose values all fit are written. -/
lemma encode_eq_ok_iff : message.encode = .ok data ↔
    ∃ values : List Nat, (∀ n ∈ values, n < fieldSpace) ∧ message.fields = values.map .ofNat ∧
      data = message.command.code :: body values := by
  constructor
  · intro written
    obtain ⟨values, small, fields⟩ | ⟨values, value, after, small, misfit, fields⟩ :=
      fits_or_misfit message.fields
    · rw [encode_of_fields small fields] at written
      cases written
      exact ⟨values, small, fields, rfl⟩
    · rw [encode_of_misfit small misfit fields] at written
      cases written
  · rintro ⟨values, small, fields, rfl⟩
    exact encode_of_fields small fields

/-! ## What is read -/

/-- What begins with a command is read if it has just the size of the command. -/
lemma decode_cons (command : Command) (bytes : Bytes) :
    decode (command.code :: bytes) =
      if bytes.length + 1 < command.size then .error (.truncated command (bytes.length + 1))
      else if command.size < bytes.length + 1 then
        .error (.trailingBytes command (bytes.length + 1))
      else .ok (read command (command.code :: bytes)) := by
  simp only [decode, Command.ofCode?_code, List.length_cons]

/-- What becomes of a payload: it is empty, begins with no command, or is too short, too long or
just right for its command. -/
lemma decode_cases (data : Bytes) :
    (data = [] ∧ decode data = .error .empty) ∨
      (∃ code bytes, data = code :: bytes ∧ 3 < code.toNat ∧
        decode data = .error (.unknownCommand code)) ∨
      ∃ command bytes, data = Command.code command :: bytes ∧
        ((data.length < command.size ∧ decode data = .error (.truncated command data.length)) ∨
          (command.size < data.length ∧
            decode data = .error (.trailingBytes command data.length)) ∨
          (data.length = command.size ∧ decode data = .ok (read command data))) := by
  match data with
  | [] => exact .inl ⟨rfl, rfl⟩
  | code :: bytes =>
    right
    cases known : Command.ofCode? code with
    | none =>
      left
      exact ⟨code, bytes, rfl, Command.ofCode?_eq_none_iff.mp known, by simp [decode, known]⟩
    | some command =>
      right
      obtain rfl := Command.ofCode?_eq_some_iff.mp known
      refine ⟨command, bytes, rfl, ?_⟩
      rw [decode_cons, List.length_cons]
      obtain short | same | long := Nat.lt_trichotomy (bytes.length + 1) command.size
      · exact .inl ⟨short, if_pos short⟩
      · exact .inr (.inr ⟨same, by rw [same, if_neg (Nat.lt_irrefl _), if_neg (Nat.lt_irrefl _)]⟩)
      · exact .inr (.inl ⟨long, by rw [if_neg (Nat.lt_asymm long), if_pos long]⟩)

/-- A payload is read as the message that it is written for, and nothing else is read. -/
lemma decode_eq_ok_iff : decode data = .ok message ↔ message.encode = .ok data := by
  rw [encode_eq_ok_iff]
  constructor
  · intro decoded
    obtain ⟨_, same⟩ | ⟨_, _, _, _, same⟩ | ⟨command, bytes, rfl, outcome⟩ := decode_cases data
    · cases same.symm.trans decoded
    · cases same.symm.trans decoded
    · obtain ⟨_, same⟩ | ⟨_, same⟩ | ⟨size, same⟩ := outcome <;> cases same.symm.trans decoded
      have length : bytes.length = 2 * command.fieldCount := by
        rw [command.size_eq, List.length_cons] at size
        omega
      obtain ⟨values, count, small, rfl⟩ := exists_fields length
      exact ⟨values, small, fields_read _ small count, by rw [command_read]⟩
  · rintro ⟨values, small, fields, rfl⟩
    have count : values.length = message.command.fieldCount := by
      simpa [fields] using message.length_fields
    have size := message.command.size_eq
    have length := length_body values
    rw [decode_cons, if_neg (by omega), if_neg (by omega)]
    congr 1
    exact eq_of_fields (command_read ..) ((fields_read _ small count).trans fields.symm)

/-! ## Both directions -/

/-- A message is written when all its fields fit. -/
lemma exists_encode_iff : (∃ data, message.encode = .ok data) ↔
    ∀ value ∈ message.fields, Fits value := by
  constructor
  · rintro ⟨data, written⟩
    obtain ⟨values, small, fields, _⟩ := encode_eq_ok_iff.mp written
    rw [fields, List.forall_mem_map]
    exact fun n mem => ⟨n, small n mem, rfl⟩
  · intro fit
    obtain ⟨values, small, fields⟩ | ⟨values, value, after, small, misfit, fields⟩ :=
      fits_or_misfit message.fields
    · exact ⟨_, encode_of_fields small fields⟩
    · exact absurd (fit value (by simp [fields])) misfit

/-- Why a message is not written: its first field that does not fit. -/
lemma encode_eq_error_iff {cause : FieldOverflow} : message.encode = .error cause ↔
    ∃ (before after : List Number), message.fields = before ++ cause.value :: after ∧
      (∀ value ∈ before, Fits value) ∧ ¬Fits cause.value := by
  constructor
  · intro failed
    obtain ⟨values, small, fields⟩ | ⟨values, value, after, small, misfit, fields⟩ :=
      fits_or_misfit message.fields
    · cases (encode_of_fields small fields).symm.trans failed
    · cases (encode_of_misfit small misfit fields).symm.trans failed
      refine ⟨_, after, fields, ?_, misfit⟩
      rw [List.forall_mem_map]
      exact fun n mem => ⟨n, small n mem, rfl⟩
  · rintro ⟨before, after, fields, fit, misfit⟩
    obtain ⟨values, small, rfl⟩ | ⟨values, value, rest, _, other, rfl⟩ := fits_or_misfit before
    · exact encode_of_misfit small misfit fields
    · exact absurd (fit value (by simp)) other

/-- What is wrong with a payload. -/
def Refuses (data : Bytes) : ControlDecodeError → Prop
  | .empty => data = []
  | .unknownCommand code => data.head? = some code ∧ 3 < code.toNat
  | .truncated command got =>
    data.head? = some command.code ∧ got = data.length ∧ got < command.size
  | .trailingBytes command got =>
    data.head? = some command.code ∧ got = data.length ∧ command.size < got

/-- A payload is refused for what is wrong with it, and for nothing else. -/
lemma decode_eq_error_iff {cause : ControlDecodeError} :
    decode data = .error cause ↔ Refuses data cause := by
  constructor
  · intro failed
    obtain ⟨rfl, same⟩ | ⟨code, bytes, rfl, large, same⟩ | ⟨command, bytes, rfl, outcome⟩ :=
      decode_cases data
    · cases same.symm.trans failed
      rfl
    · cases same.symm.trans failed
      exact ⟨rfl, large⟩
    · obtain ⟨short, same⟩ | ⟨long, same⟩ | ⟨_, same⟩ := outcome <;>
        cases same.symm.trans failed
      · exact ⟨rfl, rfl, short⟩
      · exact ⟨rfl, rfl, long⟩
  · intro wrong
    cases cause with
    | empty =>
      obtain rfl : data = [] := wrong
      rfl
    | unknownCommand code =>
      obtain ⟨head, large⟩ := wrong
      obtain ⟨bytes, rfl⟩ := List.head?_eq_some_iff.mp head
      simp [decode, Command.ofCode?_eq_none_iff.mpr large]
    | truncated command got =>
      obtain ⟨head, rfl, short⟩ := wrong
      obtain ⟨bytes, rfl⟩ := List.head?_eq_some_iff.mp head
      rw [decode_cons]
      exact if_pos short
    | trailingBytes command got =>
      obtain ⟨head, rfl, long⟩ := wrong
      obtain ⟨bytes, rfl⟩ := List.head?_eq_some_iff.mp head
      rw [decode_cons]
      exact (if_neg (Nat.lt_asymm long)).trans (if_pos long)

/-- A payload of the length of its command is read. -/
lemma exists_decode_iff : (∃ message, decode data = .ok message) ↔
    ∃ command : Command, data.head? = some command.code ∧ data.length = command.size := by
  constructor
  · rintro ⟨message, decoded⟩
    obtain ⟨_, same⟩ | ⟨_, _, _, _, same⟩ | ⟨command, bytes, rfl, outcome⟩ := decode_cases data
    · cases same.symm.trans decoded
    · cases same.symm.trans decoded
    · obtain ⟨_, same⟩ | ⟨_, same⟩ | ⟨size, same⟩ := outcome
      · cases same.symm.trans decoded
      · cases same.symm.trans decoded
      · exact ⟨command, rfl, size⟩
  · rintro ⟨command, head, size⟩
    obtain ⟨bytes, rfl⟩ := List.head?_eq_some_iff.mp head
    rw [List.length_cons] at size
    exact ⟨_, by rw [decode_cons, size, if_neg (Nat.lt_irrefl _), if_neg (Nat.lt_irrefl _)]⟩

/-- Encoding and decoding are inverse to each other between the messages whose fields fit in 16 bits
and the payloads of the length of their command. A message is written exactly when all its fields
fit, and otherwise its first field that does not is reported; a payload is refused exactly for what
is wrong with it; and no two messages are written alike. -/
theorem payload_bijection :
    (∀ message : ControlMessage,
      (∃ data, message.encode = .ok data) ↔ ∀ value ∈ message.fields, Fits value) ∧
      (∀ (message : ControlMessage) (cause : FieldOverflow), message.encode = .error cause ↔
        ∃ before after, message.fields = before ++ cause.value :: after ∧
          (∀ value ∈ before, Fits value) ∧ ¬Fits cause.value) ∧
      (∀ (data : Bytes) (message : ControlMessage),
        decode data = .ok message ↔ message.encode = .ok data) ∧
      (∀ data : Bytes, (∃ message, decode data = .ok message) ↔
        ∃ command : Command, data.head? = some command.code ∧ data.length = command.size) ∧
      (∀ (data : Bytes) (cause : ControlDecodeError),
        decode data = .error cause ↔ Refuses data cause) ∧
      ∀ (message other : ControlMessage) (data : Bytes),
        message.encode = .ok data → other.encode = .ok data → message = other := by
  refine ⟨fun _ => exists_encode_iff, fun _ _ => encode_eq_error_iff, fun _ _ => decode_eq_ok_iff,
    fun _ => exists_decode_iff, fun _ _ => decode_eq_error_iff,
    fun message other data written written' => ?_⟩
  have read := decode_eq_ok_iff.mpr written
  exact Except.ok.inj (read.symm.trans (decode_eq_ok_iff.mpr written'))

end ControlMessage

end PacketLink
