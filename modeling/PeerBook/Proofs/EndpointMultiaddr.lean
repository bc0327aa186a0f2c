import Mathlib
import PeerBook.Proofs.MultiaddrTranscoding
import PeerBook.Proofs.NormalForm

/-!
# Endpoints through a multiaddress library

An endpoint is written as a multiaddress `/ip4/<address>/tcp/<port>` or
`/ip6/<address>/tcp/<port>`, after its address is unmapped and stripped of its zone, and an
endpoint is read back from the first `ip4` or `ip6` value and the first `tcp` value of a
multiaddress. For any library that meets `Library.Transcodes` the two meet: every endpoint with
a valid address gives a multiaddress, and the text of that multiaddress reads back as the
endpoint's normal form. What is read is always in normal form, so writing and reading is the
identity on it. The command line's library meets the contract (`transcodes_library`).

Main statement: `endpointOf_text_ofEndpoint`.
-/

namespace PeerBook.IpAddr

@[simp]
theorem isValid_unmap (address : IpAddr) : address.unmap.isValid = address.isValid := by
  cases address with
  | absent => rfl
  | v4 octets => rfl
  | v6 groups zone =>
      cases carried : carriedOctets? groups with
      | none => simp [unmap, carried]
      | some octets => simp [unmap, carried, isValid]

@[simp]
theorem is4_withoutZone (address : IpAddr) : address.withoutZone.is4 = address.is4 := by
  cases address <;> rfl

theorem zone_unmap {address : IpAddr} (noZone : address.zone = "") : address.unmap.zone = "" := by
  cases address with
  | absent => rfl
  | v4 octets => rfl
  | v6 groups zone =>
      cases carried : carriedOctets? groups with
      | none => simpa [unmap, carried] using noZone
      | some octets => simp [unmap, carried, IpAddr.zone]

theorem isValid_of_parse? {text : String} {address : IpAddr} (parsed : parse? text = some address) :
    address.isValid = true := by
  simp only [parse?] at parsed
  split at parsed
  · obtain ⟨octets, -, rfl⟩ := Option.map_eq_some_iff.mp parsed
    rfl
  · unfold v6Of? at parsed
    split at parsed
    · obtain ⟨groups, -, rfl⟩ := Option.map_eq_some_iff.mp parsed
      rfl
    · split at parsed
      · cases parsed
      · obtain ⟨groups, -, rfl⟩ := Option.map_eq_some_iff.mp parsed
        rfl
  · cases parsed

/-- An address read from a text without `%` has no zone. -/
theorem zone_of_parse? {text : String} {address : IpAddr} (parsed : parse? text = some address)
    (noPercent : '%' ∉ text.toList) : address.zone = "" := by
  have whole : text.toList.span (· != '%') = (text.toList, []) := by
    rw [List.span_eq_takeWhile_dropWhile, List.takeWhile_eq_self_iff.mpr,
      List.dropWhile_eq_nil_iff.mpr] <;>
    · intro c member
      have notPercent : c ≠ '%' := fun same => noPercent (same ▸ member)
      simpa using notPercent
  simp only [parse?] at parsed
  split at parsed
  · obtain ⟨octets, -, rfl⟩ := Option.map_eq_some_iff.mp parsed
    rfl
  · rw [v6Of?, whole] at parsed
    obtain ⟨groups, -, rfl⟩ := Option.map_eq_some_iff.mp parsed
    rfl
  · cases parsed

end PeerBook.IpAddr

namespace PeerBook.Multiaddr

variable {Address : Type}

theorem ofEndpoint_eq (library : Library Address) (endpoint : Endpoint) :
    ofEndpoint library endpoint =
      library.read ("/" ++ (if endpoint.addr.normalize.is4 then "ip4" else "ip6") ++ "/" ++
        endpoint.addr.normalize.render ++ "/tcp/" ++ toString endpoint.port.toNat) := by
  simp only [ofEndpoint, IpAddr.normalize, IpAddr.is4_withoutZone]

/-- Reading an endpoint from a text whose values are known. -/
theorem endpointOf_of_values {library : Library Address} {text host portText : String}
    {address : Address} {ip : IpAddr} {port : Nat} (read : library.read text = .ok address)
    (hosted : (library.valueFor address "ip4" <|> library.valueFor address "ip6") = some host)
    (ported : library.valueFor address "tcp" = some portText)
    (parsed : IpAddr.parse? host = some ip)
    (numbered : Numeral.readNatReported (.fixed 10) 16 portText = .ok port) :
    endpointOf library text = .ok ⟨ip.unmap, port.toUInt16⟩ := by
  simp [endpointOf, read, hosted, ported, parsed, numbered, Except.mapError, bind, Except.bind,
    pure, Except.pure]

/-- Every step of reading an endpoint that succeeds. -/
theorem endpointOf_eq_ok {library : Library Address} {text : String} {endpoint : Endpoint}
    (read : endpointOf library text = .ok endpoint) :
    ∃ address host portText ip port, library.read text = .ok address ∧
      (library.valueFor address "ip4" <|> library.valueFor address "ip6") = some host ∧
      library.valueFor address "tcp" = some portText ∧ IpAddr.parse? host = some ip ∧
      Numeral.readNatReported (.fixed 10) 16 portText = .ok port ∧
      endpoint = ⟨ip.unmap, port.toUInt16⟩ := by
  unfold endpointOf at read
  cases reading : library.read text with
  | error reason => simp [reading, Except.mapError, bind, Except.bind] at read
  | ok address =>
      simp only [reading, Except.mapError, bind, Except.bind] at read
      split at read
      · next host hosted =>
          split at read
          · next portText ported =>
              split at read
              · next ip parsed =>
                  cases numbering : Numeral.readNatReported (.fixed 10) 16 portText with
                  | error refusal =>
                      simp [numbering] at read
                  | ok port =>
                      simp only [numbering, pure, Except.pure, Except.ok.injEq] at read
                      exact ⟨address, host, portText, ip, port, rfl, hosted, ported, parsed,
                        numbering, read.symm⟩
              · cases read
          · cases read
      · cases read

/-- The text of an address component and a port, both of which the library gives back unchanged,
reads as a multiaddress whose own text reads back as the address and the port. -/
theorem endpointOf_host_tcp {library : Library Address} (transcodes : library.Transcodes)
    {name host : String} {ip : IpAddr} {port : Nat} (address : name = "ip4" ∨ name = "ip6")
    (hostSolid : '/' ∉ host.toList) (kept : library.transcode name host = some host)
    (parsed : IpAddr.parse? host = some ip) (fits : port < 65536) :
    ∃ multiaddr,
      library.read ("/" ++ name ++ "/" ++ host ++ "/tcp/" ++ toString port) = .ok multiaddr ∧
      endpointOf library (library.text multiaddr) = .ok ⟨ip.unmap, port.toUInt16⟩ := by
  obtain ⟨multiaddr, read, written, values⟩ := transcodes.readsHostTcp address hostSolid
    (slash_not_mem_toString port) kept (transcodes.tcp port fits)
  -- The host is the first `ip4` value, else the first `ip6` value: here the only address value.
  have hosted : (library.valueFor multiaddr "ip4" <|> library.valueFor multiaddr "ip6") =
      some host := by
    rcases address with rfl | rfl <;> simp [values]
  have ported : library.valueFor multiaddr "tcp" = some (toString port) := by
    have notTcp : "tcp" ≠ name := by rcases address with rfl | rfl <;> decide
    simp [values, notTcp]
  refine ⟨multiaddr, read, ?_⟩
  rw [written, endpointOf_of_values read hosted ported parsed (readNatReported_toString fits)]

/-- An endpoint with a valid address is written as a multiaddress whose text reads back as the
endpoint's normal form. -/
theorem endpointOf_text_ofEndpoint_of_isValid {library : Library Address}
    (transcodes : library.Transcodes) {endpoint : Endpoint} (valid : endpoint.addr.isValid = true) :
    ∃ address, ofEndpoint library endpoint = .ok address ∧
      endpointOf library (library.text address) = .ok endpoint.normalize := by
  have fits : endpoint.port.toNat < 65536 := endpoint.port.toNat_lt
  have sameNormal : endpoint.normalize = ⟨endpoint.addr.normalize, endpoint.port⟩ := rfl
  rw [ofEndpoint_eq, sameNormal]
  cases normal : endpoint.addr.normalize with
  | absent =>
      have normalValid := IpAddr.isValid_normalize endpoint.addr
      rw [normal, IpAddr.isValid_unmap, valid] at normalValid
      cases normalValid
  | v4 octets =>
      obtain ⟨address, read, readBack⟩ := endpointOf_host_tcp transcodes (.inl rfl)
        (slash_not_mem_of_chars (IpAddr.octetsText_chars octets) (by decide))
        (transcodes.ip4 octets) (IpAddr.parse?_octetsText octets) fits
      refine ⟨address, by simpa [IpAddr.is4, IpAddr.render] using read, ?_⟩
      simpa [IpAddr.unmap] using readBack
  | v6 groups zone =>
      -- A normal form carries no zone and no IPv4 address.
      have noZone : zone = "" := by
        simpa [normal, IpAddr.zone] using IpAddr.zone_normalize endpoint.addr
      have notCarried : IpAddr.carriedOctets? groups = none := by
        simpa [normal, IpAddr.isMapped] using IpAddr.isMapped_normalize endpoint.addr
      subst noZone
      have rendered : (IpAddr.v6 groups "").render = IpAddr.groupsText groups.toList := by
        simp [IpAddr.render, notCarried]
      obtain ⟨address, read, readBack⟩ := endpointOf_host_tcp transcodes (.inr rfl)
        (slash_not_mem_of_chars (IpAddr.groupsText_chars groups.toList) (by decide))
        (transcodes.ip6 groups notCarried) (IpAddr.parse?_groupsText groups) fits
      refine ⟨address, by simpa [IpAddr.is4, rendered] using read, ?_⟩
      simpa [IpAddr.unmap, notCarried] using readBack

/-- What is read from a multiaddress is a valid endpoint in normal form. -/
theorem normalize_of_endpointOf {library : Library Address} (transcodes : library.Transcodes)
    {text : String} {endpoint : Endpoint} (read : endpointOf library text = .ok endpoint) :
    endpoint.normalize = endpoint ∧ endpoint.addr.isValid = true := by
  obtain ⟨address, host, portText, ip, port, reading, hosted, -, parsed, -, rfl⟩ :=
    endpointOf_eq_ok read
  -- The host is the first `ip4` value, else the first `ip6` value; neither has a zone.
  have noPercent : '%' ∉ host.toList := by
    cases first : library.valueFor address "ip4" with
    | some value =>
        rw [first] at hosted
        cases hosted
        exact transcodes.unzoned reading (.inl rfl) first
    | none =>
        rw [first] at hosted
        exact transcodes.unzoned reading (.inr rfl) hosted
  refine ⟨?_, ?_⟩
  · rw [Endpoint.normalize_eq_self_iff]
    exact ⟨IpAddr.isMapped_unmap ip, IpAddr.zone_unmap (IpAddr.zone_of_parse? parsed noPercent)⟩
  · rw [IpAddr.isValid_unmap]
    exact IpAddr.isValid_of_parse? parsed

/-- For any multiaddress library that meets `Library.Transcodes`, every endpoint with a valid
address is written as a multiaddress whose text reads back as the endpoint unmapped and without
zone. What is read is always in that form, so writing it and reading it back gives it again. -/
theorem endpointOf_text_ofEndpoint (library : Library Address) (transcodes : library.Transcodes) :
    (∀ endpoint : Endpoint, endpoint.addr.isValid = true →
      ∃ address, ofEndpoint library endpoint = .ok address ∧
        endpointOf library (library.text address) =
          .ok ⟨endpoint.addr.unmap.withoutZone, endpoint.port⟩) ∧
    ∀ text endpoint, endpointOf library text = .ok endpoint →
      endpoint.normalize = endpoint ∧
        ∃ address, ofEndpoint library endpoint = .ok address ∧
          endpointOf library (library.text address) = .ok endpoint := by
  refine ⟨fun endpoint valid => endpointOf_text_ofEndpoint_of_isValid transcodes valid, ?_⟩
  intro text endpoint read
  obtain ⟨normal, valid⟩ := normalize_of_endpointOf transcodes read
  obtain ⟨address, written, readBack⟩ := endpointOf_text_ofEndpoint_of_isValid transcodes valid
  rw [normal] at readBack
  exact ⟨normal, address, written, readBack⟩

/-- Through the command line's library, an IPv4 address written as a zoned mapped IPv6 address
comes back as plain IPv4. -/
theorem endpointOf_text_ofEndpoint_of_zoned_mapped :
    Multiaddr.library.Transcodes ∧
      (IpAddr.v6 (IpAddr.mappedGroups (IpAddr.octets 192 0 2 1)) "eth0").isValid = true ∧
      ∃ address,
        ofEndpoint Multiaddr.library
            ⟨.v6 (IpAddr.mappedGroups (IpAddr.octets 192 0 2 1)) "eth0", 8333⟩ = .ok address ∧
        endpointOf Multiaddr.library (Multiaddr.library.text address) =
          .ok ⟨.v4 (IpAddr.octets 192 0 2 1), 8333⟩ := by
  obtain ⟨address, written, readBack⟩ :=
    (endpointOf_text_ofEndpoint Multiaddr.library transcodes_library).1
      ⟨.v6 (IpAddr.mappedGroups (IpAddr.octets 192 0 2 1)) "eth0", 8333⟩ rfl
  have plain :
      (IpAddr.v6 (IpAddr.mappedGroups (IpAddr.octets 192 0 2 1)) "eth0").unmap.withoutZone =
        .v4 (IpAddr.octets 192 0 2 1) := by decide
  rw [plain] at readBack
  exact ⟨transcodes_library, rfl, address, written, readBack⟩

end PeerBook.Multiaddr
