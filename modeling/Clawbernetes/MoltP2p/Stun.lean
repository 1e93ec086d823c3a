import Clawbernetes.Library.Addresses
import Clawbernetes.Library.ByteReads

/-!
# Answers of STUN servers

`parse_stun_response` of `nat.rs` looks for a mapped address among the attributes of a binding
response. All lengths come from the datagram: every attribute has its own, and the header declares
that of all attributes. A read outside the datagram is a panic, which is `none`; the errors are
those of `P2pError::Discovery`, given by their texts.

`parseStunResponse_isSome` says that no datagram makes the parser panic. A `BindingSuccess` is a
response with foreign attributes before a mapped address, and `stun_decoding` says that it is
decoded when the datagram has the declared length and refused when it is shorter.
-/

set_option autoImplicit false
set_option relaxedAutoImplicit false

namespace Clawbernetes.MoltP2p.Stun

open Library.Addresses Library.ByteReads

/-! ### Parsing -/

/-- A byte in hexadecimal digits. -/
def hexByte (byte : UInt8) : String :=
  String.ofList [Nat.digitChar (byte.toNat / 16), Nat.digitChar (byte.toNat % 16)]

/-- A `u16` in big-endian bytes, as `from_be_bytes` reads it. -/
def readU16 (bytes : List UInt8) (start : ℕ) : Option UInt16 := (readBe 2 bytes start).map .ofNat

/-- A `u32` in big-endian bytes, as `from_be_bytes` reads it. -/
def readU32 (bytes : List UInt8) (start : ℕ) : Option UInt32 := (readBe 4 bytes start).map .ofNat

/-- `parse_xor_mapped_address`. -/
def parseXorMappedAddress (data : List UInt8) : Option (Except String SocketAddr) :=
  if data.length < 8 then some (.error "XOR-MAPPED-ADDRESS too short")
  else do
    let family ← data[1]?
    let xorPort ← readU16 data 2
    let port := xorPort ^^^ 0x2112
    if family = 1 then
      let xorAddr ← readU32 data 4
      return .ok ⟨.v4 (.ofNat (xorAddr ^^^ 0x2112a442).toNat), port⟩
    else if family = 2 then return .error "IPv6 XOR-MAPPED-ADDRESS not supported"
    else return .error ("Unknown address family: " ++ toString family.toNat)

/-- `parse_mapped_address`. -/
def parseMappedAddress (data : List UInt8) : Option (Except String SocketAddr) :=
  if data.length < 8 then some (.error "MAPPED-ADDRESS too short")
  else do
    let family ← data[1]?
    let port ← readU16 data 2
    if family = 1 then
      let first ← data[4]?
      let second ← data[5]?
      let third ← data[6]?
      let fourth ← data[7]?
      return .ok ⟨.v4 ⟨first, second, third, fourth⟩, port⟩
    else return .error ("Unknown address family: " ++ toString family.toNat)

/-- A length up to the next multiple of four, whose lowest two bits are cleared. -/
def padded (length : ℕ) : ℕ := (length + 3) / 4 * 4

/-- The loop over the attributes from an offset on, in a datagram that declares a length. Every
round ends the loop or moves the offset by four bytes at least. -/
def attributeLoop (response : List UInt8) (msgLen offset : ℕ) : Option (Except String SocketAddr) :=
  if offset + 4 ≤ 20 + msgLen then
    (readU16 response offset).bind fun attrType ↦
      (readU16 response (offset + 2)).bind fun attrLen ↦
        if response.length < offset + 4 + attrLen.toNat then
          some (.error "No mapped address in STUN response")
        else if attrType = 0x0020 then
          (slice response (offset + 4) (offset + 4 + attrLen.toNat)).bind parseXorMappedAddress
        else if attrType = 0x0001 then
          (slice response (offset + 4) (offset + 4 + attrLen.toNat)).bind parseMappedAddress
        else attributeLoop response msgLen (offset + (4 + padded attrLen.toNat))
  else some (.error "No mapped address in STUN response")
termination_by 20 + msgLen - offset

/-- `parse_stun_response`. -/
def parseStunResponse (response : List UInt8) : Option (Except String SocketAddr) :=
  if response.length < 20 then some (.error "STUN response too short")
  else do
    let high ← response[0]?
    let low ← response[1]?
    if high ≠ 0x01 ∨ low ≠ 0x01 then
      return .error ("Unexpected STUN message type: " ++ hexByte high ++ hexByte low)
    else
      let cookie ← slice response 4 8
      if cookie ≠ [0x21, 0x12, 0xa4, 0x42] then return .error "Invalid STUN magic cookie"
      else
        let msgLen ← readU16 response 2
        if response.length < 20 + msgLen.toNat then return .error "STUN response truncated"
        else attributeLoop response msgLen.toNat 20

/-! ### Reads stay within the datagram -/

variable {response : List UInt8}

/-- A `u16` is read within a byte string. -/
theorem readU16_of_le (data : List UInt8) (start : ℕ) (hfits : start + 2 ≤ data.length) :
    ∃ value, readU16 data start = some value := by
  obtain ⟨value, hvalue⟩ := readBe_of_le hfits
  exact ⟨.ofNat value, by rw [readU16, hvalue, Option.map_some]⟩

/-- A `u32` is read within a byte string. -/
theorem readU32_of_le (data : List UInt8) (start : ℕ) (hfits : start + 4 ≤ data.length) :
    ∃ value, readU32 data start = some value := by
  obtain ⟨value, hvalue⟩ := readBe_of_le hfits
  exact ⟨.ofNat value, by rw [readU32, hvalue, Option.map_some]⟩

/-- The value of an attribute is read within its bounds. -/
theorem parseXorMappedAddress_isSome (data : List UInt8) : (parseXorMappedAddress data).isSome := by
  unfold parseXorMappedAddress
  by_cases hshort : data.length < 8
  · rw [if_pos hshort]
    rfl
  · rw [if_neg hshort]
    obtain ⟨port, hport⟩ := readU16_of_le data 2 (by omega)
    obtain ⟨address, haddress⟩ := readU32_of_le data 4 (by omega)
    rw [List.getElem?_eq_getElem (show 1 < data.length by omega), hport, haddress]
    simp only [Option.bind_eq_bind, Option.bind_some]
    split_ifs <;> rfl

/-- The value of a legacy attribute is read within its bounds. -/
theorem parseMappedAddress_isSome (data : List UInt8) : (parseMappedAddress data).isSome := by
  unfold parseMappedAddress
  by_cases hshort : data.length < 8
  · rw [if_pos hshort]
    rfl
  · rw [if_neg hshort]
    obtain ⟨port, hport⟩ := readU16_of_le data 2 (by omega)
    rw [List.getElem?_eq_getElem (show 1 < data.length by omega), hport,
      List.getElem?_eq_getElem (show 4 < data.length by omega),
      List.getElem?_eq_getElem (show 5 < data.length by omega),
      List.getElem?_eq_getElem (show 6 < data.length by omega),
      List.getElem?_eq_getElem (show 7 < data.length by omega)]
    simp only [Option.bind_eq_bind, Option.bind_some]
    split_ifs <;> rfl

/-- The loop stays within a datagram that has the declared length. -/
theorem attributeLoop_isSome {msgLen : ℕ} (hlength : 20 + msgLen ≤ response.length) (offset : ℕ) :
    (attributeLoop response msgLen offset).isSome := by
  induction hrounds : 20 + msgLen - offset using Nat.strong_induction_on generalizing offset with
  | h rounds ih =>
    rw [attributeLoop]
    split_ifs with hoffset
    · obtain ⟨attrType, htype⟩ := readU16_of_le response offset (by omega)
      obtain ⟨attrLen, hlen⟩ := readU16_of_le response (offset + 2) (by omega)
      rw [htype, hlen, Option.bind_some, Option.bind_some]
      split_ifs with hshort hxor hplain
      · rfl
      · obtain ⟨value, hvalue, -⟩ :=
          slice_of_le (Nat.le_add_right (offset + 4) _) (not_lt.mp hshort)
        rw [hvalue]
        exact parseXorMappedAddress_isSome value
      · obtain ⟨value, hvalue, -⟩ :=
          slice_of_le (Nat.le_add_right (offset + 4) _) (not_lt.mp hshort)
        rw [hvalue]
        exact parseMappedAddress_isSome value
      · exact ih _ (by omega) _ rfl
    · rfl

/-- No datagram makes the parser read outside of it. -/
theorem parseStunResponse_isSome (response : List UInt8) : (parseStunResponse response).isSome := by
  unfold parseStunResponse
  by_cases hshort : response.length < 20
  · rw [if_pos hshort]
    rfl
  · rw [if_neg hshort]
    obtain ⟨msgLen, hmsgLen⟩ := readU16_of_le response 2 (by omega)
    obtain ⟨cookie, hcookie, -⟩ :=
      slice_of_le (show 4 ≤ 8 by omega) (show 8 ≤ response.length by omega)
    rw [List.getElem?_eq_getElem (show 0 < response.length by omega),
      List.getElem?_eq_getElem (show 1 < response.length by omega), hcookie, hmsgLen]
    simp only [Option.bind_eq_bind, Option.bind_some]
    split_ifs with htype hmagic htruncated
    · rfl
    · rfl
    · rfl
    · exact attributeLoop_isSome (not_lt.mp htruncated) 20

/-! ### Binding responses -/

/-- An attribute that is no mapped address, with its padding. -/
structure ForeignAttribute where
  attrType : UInt16
  value : List UInt8
  padding : List UInt8
  foreign : attrType ≠ 0x0001 ∧ attrType ≠ 0x0020
  aligned : value.length + padding.length = padded value.length

/-- The bytes of an attribute. -/
def ForeignAttribute.bytes (attr : ForeignAttribute) : List UInt8 :=
  beBytes 2 attr.attrType.toNat ++ (beBytes 2 attr.value.length ++ (attr.value ++ attr.padding))

/-- The two attributes of a mapped address. -/
inductive MappedForm where
  | xorMapped
  | mapped

/-- The type of the attribute. -/
def MappedForm.attrType : MappedForm → UInt16
  | xorMapped => 0x0020
  | mapped => 0x0001

/-- The value of the attribute for an address and a port. -/
def MappedForm.value (form : MappedForm) (address : Ipv4Addr) (port : UInt16) : List UInt8 :=
  match form with
  | xorMapped => [0, 1] ++ (beBytes 2 (port ^^^ 0x2112).toNat ++
      beBytes 4 (UInt32.ofNat address.toNat ^^^ 0x2112a442).toNat)
  | mapped => [0, 1] ++ (beBytes 2 port.toNat ++
      [address.first, address.second, address.third, address.fourth])

/-- A binding success response: foreign attributes, the mapped address and any further bytes, where
the declared length covers the attributes up to the mapped address. -/
structure BindingSuccess where
  transactionId : List UInt8
  attributes : List ForeignAttribute
  form : MappedForm
  address : Ipv4Addr
  port : UInt16
  further : List UInt8
  declared : UInt16
  transactionId_length : transactionId.length = 12
  covers : (attributes.flatMap ForeignAttribute.bytes).length + 12 ≤ declared.toNat

namespace BindingSuccess

/-- The bytes of the foreign attributes. -/
def foreign (message : BindingSuccess) : List UInt8 :=
  message.attributes.flatMap ForeignAttribute.bytes

/-- The bytes of the attribute with the mapped address. -/
def mapped (message : BindingSuccess) : List UInt8 :=
  beBytes 2 message.form.attrType.toNat ++
    (beBytes 2 8 ++ message.form.value message.address message.port)

/-- The header: the type, the declared length, the magic cookie and the transaction. -/
def header (message : BindingSuccess) : List UInt8 :=
  [0x01, 0x01] ++ (beBytes 2 message.declared.toNat ++
    ([0x21, 0x12, 0xa4, 0x42] ++ message.transactionId))

/-- The datagram. -/
def bytes (message : BindingSuccess) : List UInt8 :=
  message.header ++ (message.foreign ++ (message.mapped ++ message.further))

end BindingSuccess

/-! ### Decoding -/

/-- A `u16` is read back at its place. -/
theorem readU16_append (front rest : List UInt8) (value : UInt16) :
    readU16 (front ++ (beBytes 2 value.toNat ++ rest)) front.length = some value := by
  rw [readU16, readBe_append front rest value.toNat_lt, Option.map_some, UInt16.ofNat_toNat]

/-- A `u32` is read back at its place. -/
theorem readU32_append (front rest : List UInt8) (value : UInt32) :
    readU32 (front ++ (beBytes 4 value.toNat ++ rest)) front.length = some value := by
  rw [readU32, readBe_append front rest value.toNat_lt, Option.map_some, UInt32.ofNat_toNat]

/-- The value of an attribute with a mapped address has eight bytes. -/
theorem length_value (form : MappedForm) (address : Ipv4Addr) (port : UInt16) :
    (form.value address port).length = 8 := by
  cases form with
  | xorMapped => simp [MappedForm.value]
  | mapped => simp [MappedForm.value]

/-- An address and a port are decoded from their bytes under the magic cookie. -/
theorem parseXorMappedAddress_value (address : Ipv4Addr) (port : UInt16) :
    parseXorMappedAddress (MappedForm.xorMapped.value address port) =
      some (.ok ⟨.v4 address, port⟩) := by
  have hlength := length_value .xorMapped address port
  have hfamily : (MappedForm.xorMapped.value address port)[1]? = some 1 := rfl
  have hport : readU16 (MappedForm.xorMapped.value address port) 2 = some (port ^^^ 0x2112) :=
    readU16_append [0, 1] _ (port ^^^ 0x2112)
  have haddress : readU32 (MappedForm.xorMapped.value address port) 4 =
      some (UInt32.ofNat address.toNat ^^^ 0x2112a442) := by
    have hread := readU32_append ([0, 1] ++ beBytes 2 (port ^^^ 0x2112).toNat) []
      (UInt32.ofNat address.toNat ^^^ 0x2112a442)
    rw [List.append_nil, List.append_assoc] at hread
    exact hread
  have hword : (UInt32.ofNat address.toNat).toNat = address.toNat := by
    rw [UInt32.toNat_ofNat', Nat.mod_eq_of_lt address.toNat_lt]
  unfold parseXorMappedAddress
  rw [if_neg (by rw [hlength]; decide), hfamily, hport, haddress]
  simp only [Option.bind_eq_bind, Option.bind_some, if_true, UInt16.xor_assoc, UInt16.xor_self,
    UInt16.xor_zero, UInt32.xor_assoc, UInt32.xor_self, UInt32.xor_zero, hword,
    Ipv4Addr.ofNat_toNat]
  rfl

/-- An address and a port are decoded from their plain bytes. -/
theorem parseMappedAddress_value (address : Ipv4Addr) (port : UInt16) :
    parseMappedAddress (MappedForm.mapped.value address port) = some (.ok ⟨.v4 address, port⟩) := by
  have hlength := length_value .mapped address port
  have hfamily : (MappedForm.mapped.value address port)[1]? = some 1 := rfl
  have hport : readU16 (MappedForm.mapped.value address port) 2 = some port :=
    readU16_append [0, 1] _ port
  unfold parseMappedAddress
  rw [if_neg (by rw [hlength]; decide), hfamily, hport]
  rfl

/-- An attribute of either form is decoded. -/
theorem parse_value (form : MappedForm) (address : Ipv4Addr) (port : UInt16) :
    (if form.attrType = 0x0020 then parseXorMappedAddress (form.value address port)
      else if form.attrType = 0x0001 then parseMappedAddress (form.value address port)
      else none) = some (.ok ⟨.v4 address, port⟩) := by
  cases form with
  | xorMapped => exact parseXorMappedAddress_value address port
  | mapped => exact parseMappedAddress_value address port

/-- The bytes of an attribute take its padded length behind its type and its length. -/
theorem ForeignAttribute.length_bytes (attr : ForeignAttribute) :
    attr.bytes.length = 4 + padded attr.value.length := by
  rw [bytes, List.length_append, List.length_append, List.length_append, length_beBytes,
    length_beBytes, attr.aligned]
  omega

/-- The type and the length of an attribute are read at its place. -/
theorem read_header (front rest : List UInt8) (attrType attrLen : UInt16) :
    readU16 (front ++ (beBytes 2 attrType.toNat ++ (beBytes 2 attrLen.toNat ++ rest)))
        front.length = some attrType ∧
      readU16 (front ++ (beBytes 2 attrType.toNat ++ (beBytes 2 attrLen.toNat ++ rest)))
        (front.length + 2) = some attrLen := by
  refine ⟨readU16_append front _ attrType, ?_⟩
  have hread := readU16_append (front ++ beBytes 2 attrType.toNat) rest attrLen
  rw [List.length_append, length_beBytes, List.append_assoc] at hread
  exact hread

/-- The loop passes over a foreign attribute. -/
theorem attributeLoop_foreign {msgLen : ℕ} (front rest : List UInt8) (attr : ForeignAttribute)
    (hsmall : attr.value.length < 2 ^ 16) (hwithin : front.length + 4 ≤ 20 + msgLen) :
    attributeLoop (front ++ (attr.bytes ++ rest)) msgLen front.length =
      attributeLoop (front ++ (attr.bytes ++ rest)) msgLen (front.length + attr.bytes.length) := by
  have hlen : (UInt16.ofNat attr.value.length).toNat = attr.value.length := by
    rw [UInt16.toNat_ofNat', Nat.mod_eq_of_lt hsmall]
  have hbytes : front ++ (attr.bytes ++ rest) = front ++ (beBytes 2 attr.attrType.toNat ++
      (beBytes 2 (UInt16.ofNat attr.value.length).toNat ++
        (attr.value ++ attr.padding ++ rest))) := by
    rw [hlen, ForeignAttribute.bytes, List.append_assoc, List.append_assoc, List.append_assoc]
  obtain ⟨htype, hlength⟩ := read_header front (attr.value ++ attr.padding ++ rest) attr.attrType
    (.ofNat attr.value.length)
  have hpresent :
      ¬(front ++ (attr.bytes ++ rest)).length < front.length + 4 + attr.value.length := by
    rw [List.length_append, List.length_append, attr.length_bytes, ← attr.aligned]
    omega
  rw [← hbytes] at htype hlength
  rw [attributeLoop, if_pos hwithin, htype, hlength, Option.bind_some, Option.bind_some, hlen,
    if_neg hpresent, if_neg attr.foreign.2, if_neg attr.foreign.1, attr.length_bytes]

/-- The loop passes over all foreign attributes. -/
theorem attributeLoop_foreigns {msgLen : ℕ} (front rest : List UInt8)
    (attributes : List ForeignAttribute)
    (hwithin : front.length + (attributes.flatMap ForeignAttribute.bytes).length ≤ 20 + msgLen)
    (hsmall : msgLen < 2 ^ 16) (hfront : 20 ≤ front.length) :
    attributeLoop (front ++ (attributes.flatMap ForeignAttribute.bytes ++ rest)) msgLen
      front.length =
      attributeLoop (front ++ (attributes.flatMap ForeignAttribute.bytes ++ rest)) msgLen
        (front.length + (attributes.flatMap ForeignAttribute.bytes).length) := by
  induction attributes generalizing front with
  | nil => rfl
  | cons attr attributes ih =>
    rw [List.flatMap_cons] at hwithin ⊢
    rw [List.length_append] at hwithin ⊢
    have hlength := attr.length_bytes
    have hvalue : attr.value.length ≤ padded attr.value.length := by
      rw [← attr.aligned]
      exact Nat.le_add_right _ _
    have hrest := ih (front ++ attr.bytes) (by rw [List.length_append]; omega)
      (by rw [List.length_append]; omega)
    rw [List.length_append, List.append_assoc] at hrest
    rw [List.append_assoc, attributeLoop_foreign front _ attr (by omega) (by omega),
      ← Nat.add_assoc]
    exact hrest

namespace BindingSuccess

variable (message : BindingSuccess)

/-- The loop decodes the mapped address. -/
theorem attributeLoop_mapped (msgLen : ℕ) (front : List UInt8)
    (hwithin : front.length + 4 ≤ 20 + msgLen) :
    attributeLoop (front ++ (message.mapped ++ message.further)) msgLen front.length =
      some (.ok ⟨.v4 message.address, message.port⟩) := by
  have hvalue := length_value message.form message.address message.port
  have height : (8 : UInt16).toNat = 8 := rfl
  have hbytes : front ++ (message.mapped ++ message.further) =
      front ++ (beBytes 2 message.form.attrType.toNat ++ (beBytes 2 (8 : UInt16).toNat ++
        (message.form.value message.address message.port ++ message.further))) := by
    rw [mapped, List.append_assoc, List.append_assoc, height]
  have hslice := slice_append (front ++ (beBytes 2 message.form.attrType.toNat ++ beBytes 2 8))
    (message.form.value message.address message.port) message.further
  rw [List.length_append, List.length_append, length_beBytes, length_beBytes, hvalue,
    List.append_assoc, List.append_assoc] at hslice
  obtain ⟨htype, hlength⟩ := read_header front
    (message.form.value message.address message.port ++ message.further) message.form.attrType 8
  have hpresent : ¬(front ++ (message.mapped ++ message.further)).length <
      front.length + 4 + (8 : UInt16).toNat := by
    rw [hbytes]
    simp only [List.length_append, length_beBytes, hvalue, height]
    omega
  have hparsed := parse_value message.form message.address message.port
  rw [← hbytes] at htype hlength
  rw [attributeLoop, if_pos hwithin, htype, hlength, Option.bind_some, Option.bind_some,
    if_neg hpresent, hbytes, height, hslice, Option.bind_some, Option.bind_some]
  cases hform : message.form with
  | xorMapped =>
    rw [hform] at hparsed
    exact hparsed
  | mapped =>
    rw [hform] at hparsed
    exact hparsed

/-- The header has twenty bytes. -/
theorem length_header : message.header.length = 20 := by
  simp only [header, List.length_append, List.length_cons, List.length_nil, length_beBytes,
    message.transactionId_length]

/-- The parser takes the header, unless the datagram is shorter than declared. -/
theorem parse_bytes : parseStunResponse message.bytes =
    if message.bytes.length < 20 + message.declared.toNat then
      some (.error "STUN response truncated")
    else attributeLoop message.bytes message.declared.toNat 20 := by
  have hheader := message.length_header
  have hlong : ¬message.bytes.length < 20 := by
    rw [bytes, List.length_append]
    omega
  have hdeclared : readU16 message.bytes 2 = some message.declared := by
    have hread := readU16_append [0x01, 0x01] ([0x21, 0x12, 0xa4, 0x42] ++ message.transactionId ++
      (message.foreign ++ (message.mapped ++ message.further))) message.declared
    rw [bytes, header]
    simp only [List.append_assoc] at hread ⊢
    exact hread
  have hcookie : slice message.bytes 4 8 = some [0x21, 0x12, 0xa4, 0x42] := by
    have hslice := slice_append ([0x01, 0x01] ++ beBytes 2 message.declared.toNat)
      [0x21, 0x12, 0xa4, 0x42]
      (message.transactionId ++ (message.foreign ++ (message.mapped ++ message.further)))
    rw [List.length_append, length_beBytes] at hslice
    rw [bytes, header]
    simp only [List.append_assoc] at hslice ⊢
    exact hslice
  have hhigh : message.bytes[0]? = some 0x01 := rfl
  have hlow : message.bytes[1]? = some 0x01 := rfl
  unfold parseStunResponse
  rw [if_neg hlong, hhigh, hlow, hcookie, hdeclared]
  rfl

end BindingSuccess

/-- No datagram makes the parser read outside of it. A binding success response is decoded to its
address and port exactly when the datagram has the declared length, and a shorter one is refused. -/
theorem stun_decoding :
    (∀ response, (parseStunResponse response).isSome) ∧
      ∀ message : BindingSuccess,
        (parseStunResponse message.bytes = some (.ok ⟨.v4 message.address, message.port⟩) ↔
          message.declared.toNat ≤
            message.foreign.length + message.mapped.length + message.further.length) ∧
        (message.foreign.length + message.mapped.length + message.further.length <
          message.declared.toNat →
            parseStunResponse message.bytes = some (.error "STUN response truncated")) := by
  refine ⟨parseStunResponse_isSome, fun message ↦ ?_⟩
  have hheader := message.length_header
  have hlength : message.bytes.length =
      20 + (message.foreign.length + message.mapped.length + message.further.length) := by
    simp only [BindingSuccess.bytes, List.length_append, hheader]
    omega
  rw [message.parse_bytes]
  split_ifs with htruncated
  · refine ⟨iff_of_false (fun hparsed ↦ ?_) (by omega), fun _ ↦ rfl⟩
    cases hparsed
  · refine ⟨iff_of_true ?_ (by omega), fun hcut ↦ absurd hcut (by omega)⟩
    have hcovers := message.covers
    have hskipped := attributeLoop_foreigns message.header (message.mapped ++ message.further)
      message.attributes (by omega) message.declared.toNat_lt (by omega)
    have hwithin :
        (message.header ++ message.foreign).length + 4 ≤ 20 + message.declared.toNat := by
      rw [List.length_append, BindingSuccess.foreign]
      omega
    have hdecoded := message.attributeLoop_mapped message.declared.toNat
      (message.header ++ message.foreign) hwithin
    rw [hheader] at hskipped
    rw [List.length_append, hheader, List.append_assoc] at hdecoded
    exact hskipped.trans hdecoded

/-- A response with a mapped address and nothing behind it, which declares four bytes more. -/
def cutResponse : BindingSuccess where
  transactionId := [1, 2, 3, 4, 5, 6, 7, 8, 9, 10, 11, 12]
  attributes := []
  form := .xorMapped
  address := ⟨192, 0, 2, 1⟩
  port := 32853
  further := []
  declared := 16
  transactionId_length := rfl
  covers := by decide

/-- A datagram that is shorter than declared is refused. -/
theorem cut_response_refused :
    parseStunResponse cutResponse.bytes = some (.error "STUN response truncated") ∧
      parseStunResponse cutResponse.bytes ≠
        some (.ok ⟨.v4 cutResponse.address, cutResponse.port⟩) := by
  have hrefused :
      parseStunResponse cutResponse.bytes = some (.error "STUN response truncated") := by
    rw [cutResponse.parse_bytes]
    exact if_pos (by decide)
  refine ⟨hrefused, ?_⟩
  rw [hrefused]
  intro hparsed
  cases hparsed

end Clawbernetes.MoltP2p.Stun
