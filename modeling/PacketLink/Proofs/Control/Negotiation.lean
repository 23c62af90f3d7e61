import PacketLink.Proofs.Control.Codec

/-!
# Negotiation

Two peers settle on a version that both of them speak and on a packet size that both of them take.
`Capabilities.Speaks` and `Capabilities.Takes` say of one peer what it speaks and takes. For fields
that fit in 16 bits the answer is made of natural numbers (`negotiate_ofNat`), so the two version
ranges meet exactly when the greater lower end is not above the smaller upper one
(`exists_speaks_iff`). Main statement: `negotiate_best`.
-/

namespace PacketLink

namespace Capabilities

/-- A peer speaks every whole version from its lowest to its highest one. -/
def Speaks (peer : Capabilities) (version : Number) : Prop :=
  version.IsInteger ∧ version.below peer.minVersion = false ∧
    peer.maxVersion.below version = false

/-- A peer takes packets of every size up to its limit. -/
def Takes (peer : Capabilities) (size : Number) : Prop := peer.maxPacketSize.below size = false

/-- Every field of a peer's capabilities can be written. -/
def Fits (peer : Capabilities) : Prop :=
  ∀ value ∈ (ControlMessage.connectionRequest peer).fields, ControlMessage.Fits value

/-- The capabilities with these natural numbers. -/
def ofNats (low high size : Nat) : Capabilities := ⟨.ofNat low, .ofNat high, .ofNat size⟩

variable {low high size low' high' size' : Nat} {peer : Capabilities} {version : Number}

/-- The values of a request that fits are natural numbers. -/
lemma Fits.exists_nats (fits : peer.Fits) : ∃ low high size, low < fieldSpace ∧
    high < fieldSpace ∧ size < fieldSpace ∧ peer = ofNats low high size := by
  obtain ⟨minVersion, maxVersion, maxPacketSize⟩ := peer
  obtain ⟨low, low_lt, rfl⟩ := fits minVersion (by simp [ControlMessage.fields])
  obtain ⟨high, high_lt, rfl⟩ := fits maxVersion (by simp [ControlMessage.fields])
  obtain ⟨size, size_lt, rfl⟩ := fits maxPacketSize (by simp [ControlMessage.fields])
  exact ⟨low, high, size, low_lt, high_lt, size_lt, rfl⟩

/-- What is read from bytes can be written. -/
lemma fits_of_decode {data : Bytes}
    (decoded : ControlMessage.decode data = .ok (.connectionRequest peer)) : peer.Fits :=
  ControlMessage.exists_encode_iff.mp ⟨data, ControlMessage.decode_eq_ok_iff.mp decoded⟩

/-! ## Natural numbers -/

/-- Two peers agree on the greatest version of both and on the smaller packet size. -/
lemma negotiate_ofNat (low high size low' high' size' : Nat) :
    (ofNats low high size).negotiate (ofNats low' high' size') =
      if min high high' < max low low' then none
      else some (.connectionConfirm (.ofNat (min high high')) (.ofNat (min size size'))) := by
  simp only [negotiate, ofNats, Number.min_ofNat, Number.max_ofNat, Number.below_ofNat,
    decide_eq_true_eq]

/-- The versions of a range between natural numbers are natural. -/
lemma speaks_iff : (ofNats low high size).Speaks version ↔
    ∃ v : Nat, version = .ofNat v ∧ low ≤ v ∧ v ≤ high := by
  constructor
  · rintro ⟨whole, above, under⟩
    obtain ⟨z, read⟩ := Option.isSome_iff_exists.mp whole
    obtain rfl := Number.eq_ofInt read
    have above : (low : Int) ≤ z := by simpa [ofNats] using above
    -- nothing below zero is as high as a natural number
    obtain ⟨v, rfl⟩ := Int.eq_ofNat_of_zero_le (Int.le_trans (Int.natCast_nonneg low) above)
    rw [Number.ofInt_natCast] at under ⊢
    have under : v ≤ high := by simpa [ofNats] using under
    exact ⟨v, rfl, Int.ofNat_le.mp above, under⟩
  · rintro ⟨v, rfl, above, under⟩
    refine ⟨by simp [Number.IsInteger], ?_, ?_⟩
    · simpa [ofNats] using above
    · simpa [ofNats] using under

/-- The versions that two peers speak lie between the greater lower end and the smaller upper
one. -/
lemma speaks_both_iff :
    (ofNats low high size).Speaks version ∧ (ofNats low' high' size').Speaks version ↔
      ∃ v : Nat, version = .ofNat v ∧ max low low' ≤ v ∧ v ≤ min high high' := by
  rw [speaks_iff, speaks_iff]
  constructor
  · rintro ⟨⟨v, rfl, above, under⟩, v', same, above', under'⟩
    obtain rfl := Number.ofNat_injective same
    exact ⟨v, rfl, max_le above above', le_min under under'⟩
  · rintro ⟨v, rfl, above, under⟩
    obtain ⟨above, above'⟩ := max_le_iff.mp above
    obtain ⟨under, under'⟩ := le_min_iff.mp under
    exact ⟨⟨v, rfl, above, under⟩, v, rfl, above', under'⟩

/-- Some version is spoken by both when the ranges overlap. -/
lemma exists_speaks_iff :
    (∃ version, (ofNats low high size).Speaks version ∧ (ofNats low' high' size').Speaks version) ↔
      max low low' ≤ min high high' := by
  constructor
  · rintro ⟨version, both⟩
    obtain ⟨v, -, above, under⟩ := speaks_both_iff.mp both
    exact above.trans under
  · intro meet
    exact ⟨_, speaks_both_iff.mpr ⟨_, rfl, meet, le_rfl⟩⟩

/-- The smaller limit is the largest size that both peers take. -/
lemma takes_min (low high size low' high' size' : Nat) :
    (ofNats low high size).Takes (.ofNat (min size size')) ∧
      (ofNats low' high' size').Takes (.ofNat (min size size')) ∧
      ∀ other, (ofNats low high size).Takes other → (ofNats low' high' size').Takes other →
        (Number.ofNat (min size size')).below other = false := by
  refine ⟨by simp [Takes, ofNats], by simp [Takes, ofNats], fun other takes takes' => ?_⟩
  rcases Nat.le_total size size' with le | le
  · rw [Nat.min_eq_left le]
    exact takes
  · rw [Nat.min_eq_right le]
    exact takes'

/-! ## The answer -/

/-- A confirmation whose fields fit is written, and it is read back. -/
lemma exists_encode_confirm {version packetSize : Nat} (version_lt : version < fieldSpace)
    (packetSize_lt : packetSize < fieldSpace) :
    let answer := ControlMessage.connectionConfirm (.ofNat version) (.ofNat packetSize)
    ∃ payload, answer.encode = .ok payload ∧ ControlMessage.decode payload = .ok answer := by
  intro answer
  have fit : ∀ value ∈ answer.fields, ControlMessage.Fits value := by
    intro value mem
    simp only [answer, ControlMessage.fields, List.mem_cons, List.not_mem_nil, or_false] at mem
    rcases mem with rfl | rfl
    · exact ⟨version, version_lt, rfl⟩
    · exact ⟨packetSize, packetSize_lt, rfl⟩
  obtain ⟨payload, written⟩ := ControlMessage.exists_encode_iff.mpr fit
  exact ⟨payload, written, ControlMessage.decode_eq_ok_iff.mpr written⟩

/-- Two peers whose fields fit in 16 bits, one of which has made its request in bytes, find no
answer exactly when there is no version that both speak. Otherwise the answer has the highest
version that both speak and the largest packet size that both take, and it can be written and is
read back. It is the same whoever has made the request. -/
theorem negotiate_best {data : Bytes} {request supported : Capabilities}
    (decoded : ControlMessage.decode data = .ok (.connectionRequest request))
    (fits : supported.Fits) :
    (request.negotiate supported = none ↔
      ¬∃ version, request.Speaks version ∧ supported.Speaks version) ∧
    (∀ answer, request.negotiate supported = some answer → ∃ version packetSize,
      answer = .connectionConfirm version packetSize ∧
      (request.Speaks version ∧ supported.Speaks version ∧
        ∀ other, request.Speaks other → supported.Speaks other → version.below other = false) ∧
      (request.Takes packetSize ∧ supported.Takes packetSize ∧
        ∀ other, request.Takes other → supported.Takes other → packetSize.below other = false) ∧
      ∃ payload, answer.encode = .ok payload ∧ ControlMessage.decode payload = .ok answer) ∧
    supported.negotiate request = request.negotiate supported := by
  obtain ⟨low, high, size, low_lt, high_lt, size_lt, rfl⟩ := (fits_of_decode decoded).exists_nats
  obtain ⟨low', high', size', low_lt', high_lt', size_lt', rfl⟩ := fits.exists_nats
  rw [exists_speaks_iff, negotiate_ofNat, negotiate_ofNat, not_le]
  refine ⟨?_, fun answer answered => ?_, ?_⟩
  · split_ifs with apart
    · exact iff_of_true rfl apart
    · exact iff_of_false (by simp) apart
  · split_ifs at answered with apart
    obtain rfl := Option.some.inj answered
    have meet : max low low' ≤ min high high' := not_lt.mp apart
    obtain ⟨speaks, speaks'⟩ := speaks_both_iff.mpr ⟨min high high', rfl, meet, le_rfl⟩
    refine ⟨_, _, rfl, ⟨speaks, speaks', fun other here here' => ?_⟩,
      takes_min low high size low' high' size', ?_⟩
    · obtain ⟨v, rfl, -, under⟩ := speaks_both_iff.mp ⟨here, here'⟩
      rw [Number.below_ofNat, decide_eq_false_iff_not]
      exact not_lt.mpr under
    · exact exists_encode_confirm (lt_of_le_of_lt (min_le_left ..) high_lt)
        (lt_of_le_of_lt (min_le_left ..) size_lt)
  · rw [min_comm high' high, max_comm low' low, min_comm size' size]

/-- The ranges of the two peers have one version in common, which ends the one and begins the
other. -/
theorem negotiate_best_touching :
    let data : Bytes := [0, 0, 2, 0, 5, 0, 23]
    let request : Capabilities := ⟨2, 5, 23⟩
    let supported : Capabilities := ⟨5, 9, 20⟩
    (ControlMessage.decode data = .ok (.connectionRequest request) ∧ supported.Fits) ∧
      request.negotiate supported = some (.connectionConfirm 5 20) ∧
      supported.negotiate request = some (.connectionConfirm 5 20) ∧
      (request.Speaks 5 ∧ supported.Speaks 5) ∧ (request.Takes 20 ∧ supported.Takes 20) ∧
      ∃ payload, (ControlMessage.connectionConfirm 5 20).encode = .ok payload := by
  intro data request supported
  have decoded : ControlMessage.decode data = .ok (.connectionRequest request) := by
    decide +kernel
  have fits : supported.Fits := by
    intro value mem
    simp only [ControlMessage.fields, List.mem_cons, List.not_mem_nil, or_false] at mem
    rcases mem with rfl | rfl | rfl
    · exact ⟨5, by decide, rfl⟩
    · exact ⟨9, by decide, rfl⟩
    · exact ⟨20, by decide, rfl⟩
  have answer : request.negotiate supported = some (.connectionConfirm 5 20) := by decide +kernel
  obtain ⟨-, best, same⟩ := negotiate_best decoded fits
  obtain ⟨_, _, confirms, ⟨speaks, speaks', -⟩, ⟨takes, takes', -⟩, payload, written, -⟩ :=
    best _ answer
  cases confirms
  exact ⟨⟨decoded, fits⟩, answer, same.trans answer, ⟨speaks, speaks'⟩, ⟨takes, takes'⟩, payload,
    written⟩

end Capabilities

end PacketLink
