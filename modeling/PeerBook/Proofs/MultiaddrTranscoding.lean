import Mathlib
import PeerBook.Multiaddr
import PeerBook.Proofs.AddressText

/-!
# The command line's multiaddress library

The library the command line reads and writes endpoints with meets what endpoints rely on
(`transcodes_library`). Its transcoders read a value by its protocol's kind and write what they
read, so the texts of IPv4 and IPv6 addresses and of ports come back as they were written. A
text `/<ip4 or ip6>/<value>/tcp/<port>` is cut at its slashes and read component by component,
and its text is written back from the two values read. Every `ip4` or `ip6` component of a
multiaddress read from a text holds an address of its protocol, written without a zone.
-/

namespace PeerBook.Multiaddr

/-! ## Reading a path of pieces -/

/-- A text of pieces after slashes, none holding a slash and the text not ending in one, is
read piece by piece. -/
theorem parse_eq_of_toList {text : String} {pieces : List String}
    (chars : text.toList = '/' :: ['/'].intercalate (pieces.map String.toList))
    (nonEmpty : pieces ≠ []) (noSlash : ∀ piece ∈ pieces, '/' ∉ piece.toList)
    (ends : ∀ c ∈ text.toList.getLast?, c ≠ '/') :
    parse text = ((componentsOf pieces).map Multiaddr.mk).mapError (ParseError.mk text) := by
  have kept : String.ofList (text.toList.reverse.dropWhile (· == '/')).reverse = text := by
    cases last : text.toList.reverse with
    | nil =>
        rw [List.reverse_eq_nil_iff, chars] at last
        cases last
    | cons c rest =>
        have notSlash : c ≠ '/' := ends c (by rw [← List.head?_reverse, last]; rfl)
        rw [List.dropWhile_cons_of_neg (by simpa using notSlash), ← last, List.reverse_reverse,
          String.ofList_toList]
  have cut : (text.toList.splitOn '/').map String.ofList = "" :: pieces := by
    obtain ⟨first, rest, rfl⟩ := List.exists_cons_of_ne_nil nonEmpty
    have joined : text.toList = ['/'].intercalate ([] :: (first :: rest).map String.toList) := by
      rw [chars, List.map_cons, List.intercalate_cons_cons]
      rfl
    have slashFree : ∀ piece ∈ [] :: (first :: rest).map String.toList, '/' ∉ piece := by
      intro piece member
      rcases List.mem_cons.mp member with rfl | mapped
      · simp
      · obtain ⟨original, listed, rfl⟩ := List.mem_map.mp mapped
        exact noSlash original listed
    rw [joined, List.splitOn_intercalate '/' slashFree (List.cons_ne_nil _ _)]
    simp [Function.comp_def]
  obtain ⟨first, rest, rfl⟩ := List.exists_cons_of_ne_nil nonEmpty
  simp only [parse, kept, cut]
  cases componentsOf (first :: rest) <;> rfl

/-- What is read from a text is read from the pieces between its slashes. -/
theorem exists_componentsOf_of_parse {text : String} {address : Multiaddr}
    (read : parse text = .ok address) :
    ∃ pieces, componentsOf pieces = .ok address.components := by
  simp only [parse] at read
  split at read
  · cases read
  · next pieces _ _ =>
      cases reading : componentsOf pieces with
      | error fault => simp [reading] at read
      | ok components =>
          simp only [reading, Except.ok.injEq] at read
          subst read
          exact ⟨pieces, reading⟩
  · cases read

theorem componentsOf_cons_value {name piece : String} {protocol : Protocol} {value : Value}
    (rest : List String) (named : Protocol.ofName? name = some protocol)
    (valued : protocol.kind ≠ .none) (notPath : protocol.kind ≠ .path)
    (read : readValue protocol.kind piece = .ok value) :
    componentsOf (name :: piece :: rest) = (componentsOf rest).map (⟨protocol, some value⟩ :: ·) := by
  simp [componentsOf, named, valued, notPath, read]

/-! ## Values -/

theorem readNatReported_toString {port : Nat} (fits : port < 65536) :
    Numeral.readNatReported (.fixed 10) 16 (toString port) = .ok port := by
  have read := Numeral.readNat_toString (by rw [Nat.pow_eq]; omega : port < Nat.pow 2 16)
  simp only [Numeral.readNatReported, read]
  rfl

theorem readValue_octetsText (octets : Vector UInt8 4) :
    readValue .ip4 (IpAddr.octetsText octets) = .ok (.ip4 octets) := by
  simp [readValue, IpAddr.parseUnzoned?, IpAddr.parse?_octetsText]

theorem readValue_groupsText (groups : Vector UInt16 8) :
    readValue .ip6 (IpAddr.groupsText groups.toList) = .ok (.ip6 groups) := by
  simp [readValue, IpAddr.parseUnzoned?, IpAddr.parse?_groupsText]

theorem readValue_toString {port : Nat} (fits : port < 65536) :
    readValue .port (toString port) = .ok (.number port) := by
  simp only [readValue, readNatReported_toString fits]

theorem exists_number_of_readValue {text : String} {value : Value}
    (read : readValue .port text = .ok value) : ∃ port, value = .number port := by
  simp only [readValue] at read
  split at read
  · cases read
    exact ⟨_, rfl⟩
  · cases read

theorem ne_empty_of_readValue {text : String} {value : Value}
    (read : readValue .port text = .ok value) : text ≠ "" := by
  rintro rfl
  simp [readValue, Numeral.readNatReported, Numeral.readNat, Except.mapError] at read

/-- A text made only of digits and one separator other than `/` holds no slash. -/
theorem slash_not_mem_of_chars {text : String} {separator : Char}
    (only : ∀ c ∈ text.toList, (Numeral.digitValue c).isSome ∨ c = separator)
    (notSlash : separator ≠ '/') : '/' ∉ text.toList := by
  intro slash
  rcases only '/' slash with digit | same
  · exact (IpAddr.ne_of_digitValue_isSome digit).2.2.2 rfl
  · exact notSlash same.symm

theorem slash_not_mem_toString (port : Nat) : '/' ∉ (toString port).toList := by
  intro slash
  rw [Nat.toString_eq_repr, Nat.toList_repr] at slash
  exact (IpAddr.ne_of_digitValue_isSome
    (Numeral.digitValue_isSome_of_mem_toDigits (by omega) slash)).2.2.2 rfl

/-! ## An address and a port -/

/-- The text of an address component and a port reads as those two components. -/
theorem parse_host_tcp {name hostText portText : String} {kind : ValueKind} {value : Value}
    {port : Nat} (named : Protocol.ofName? name = some ⟨name, kind⟩) (valued : kind ≠ .none)
    (notPath : kind ≠ .path) (nameSolid : '/' ∉ name.toList) (hostSolid : '/' ∉ hostText.toList)
    (portSolid : '/' ∉ portText.toList) (read : readValue kind hostText = .ok value)
    (readPort : readValue .port portText = .ok (.number port)) :
    parse ("/" ++ name ++ "/" ++ hostText ++ "/tcp/" ++ portText) =
      .ok ⟨[⟨⟨name, kind⟩, some value⟩, ⟨⟨"tcp", .port⟩, some (.number port)⟩]⟩ := by
  have chars : ("/" ++ name ++ "/" ++ hostText ++ "/tcp/" ++ portText).toList =
      '/' :: ['/'].intercalate ([name, hostText, "tcp", portText].map String.toList) := by
    simp [List.intercalate_cons_cons]
  have noSlash : ∀ piece ∈ [name, hostText, "tcp", portText], '/' ∉ piece.toList := by
    simp [nameSolid, hostSolid, portSolid]
  -- The text ends with the port, which is not empty and holds no slash.
  have ends : ∀ c ∈ ("/" ++ name ++ "/" ++ hostText ++ "/tcp/" ++ portText).toList.getLast?,
      c ≠ '/' := by
    intro c last
    have portChars : portText.toList ≠ [] :=
      fun empty => ne_empty_of_readValue readPort (String.toList_eq_nil_iff.mp empty)
    rw [String.toList_append, List.getLast?_append_of_ne_nil _ portChars] at last
    rintro rfl
    exact portSolid (List.mem_of_getLast? last)
  have tcpNamed : Protocol.ofName? "tcp" = some ⟨"tcp", .port⟩ := by decide
  rw [parse_eq_of_toList chars (List.cons_ne_nil _ _) noSlash ends,
    componentsOf_cons_value _ named valued notPath read,
    componentsOf_cons_value _ tcpNamed (by decide) (by decide) readPort]
  rfl

theorem render_host_tcp {name : String} {kind : ValueKind} {value : Value} {port : Nat}
    (notPath : kind ≠ .path) :
    render ⟨[⟨⟨name, kind⟩, some value⟩, ⟨⟨"tcp", .port⟩, some (.number port)⟩]⟩ =
      "/" ++ name ++ "/" ++ value.render ++ "/tcp/" ++ toString port := by
  apply String.toList_inj.mp
  simp [render, notPath, Value.render]

theorem valueOf?_host_tcp (name : String) (kind : ValueKind) (value : Value) (port : Nat)
    (protocol : String) :
    valueOf? ⟨[⟨⟨name, kind⟩, some value⟩, ⟨⟨"tcp", .port⟩, some (.number port)⟩]⟩ protocol =
      if protocol = name then some value
      else if protocol = "tcp" then some (.number port) else none := by
  by_cases isName : protocol = name
  · subst isName
    simp [valueOf?]
  · by_cases isTcp : protocol = "tcp"
    · subst isTcp
      simp [valueOf?, isName, Ne.symm isName]
    · simp [valueOf?, isName, isTcp, Ne.symm isName, Ne.symm isTcp]

/-! ## Transcoders -/

theorem transcode_eq_some {name value shown : String}
    (transcoded : library.transcode name value = some shown) :
    ∃ protocol read, Protocol.ofName? name = some protocol ∧
      readValue protocol.kind value = .ok read ∧ read.render = shown := by
  simp only [library, Option.bind_eq_some_iff, Option.map_eq_some_iff] at transcoded
  obtain ⟨protocol, named, read, reads, rendered⟩ := transcoded
  cases reading : readValue protocol.kind value with
  | error fault => simp [reading, Except.toOption] at reads
  | ok found =>
      simp only [reading, Except.toOption, Option.some.injEq] at reads
      subst reads
      exact ⟨protocol, found, named, reading, rendered⟩

theorem readsHostTcp_library {name value port shownValue shownPort : String}
    (address : name = "ip4" ∨ name = "ip6") (valueSolid : '/' ∉ value.toList)
    (portSolid : '/' ∉ port.toList) (transcoded : library.transcode name value = some shownValue)
    (portTranscoded : library.transcode "tcp" port = some shownPort) :
    ∃ multiaddr, library.read ("/" ++ name ++ "/" ++ value ++ "/tcp/" ++ port) = .ok multiaddr ∧
      library.text multiaddr = "/" ++ name ++ "/" ++ shownValue ++ "/tcp/" ++ shownPort ∧
      ∀ protocol, library.valueFor multiaddr protocol =
        if protocol = name then some shownValue
        else if protocol = "tcp" then some shownPort else none := by
  obtain ⟨protocol, read, named, reads, rendered⟩ := transcode_eq_some transcoded
  obtain ⟨tcp, readPort, tcpNamed, readsPort, renderedPort⟩ := transcode_eq_some portTranscoded
  obtain rfl : tcp = ⟨"tcp", .port⟩ := Option.some.inj (tcpNamed.symm.trans (by decide))
  obtain ⟨number, rfl⟩ := exists_number_of_readValue readsPort
  -- The address protocol is the one its name gives, with an address as its value.
  obtain ⟨kind, rfl, valued, notPath, nameSolid⟩ : ∃ kind, protocol = ⟨name, kind⟩ ∧
      kind ≠ .none ∧ kind ≠ .path ∧ '/' ∉ name.toList := by
    rcases address with rfl | rfl
    · exact ⟨.ip4, Option.some.inj (named.symm.trans (by decide)), by decide, by decide, by decide⟩
    · exact ⟨.ip6, Option.some.inj (named.symm.trans (by decide)), by decide, by decide, by decide⟩
  have parsed := parse_host_tcp named valued notPath nameSolid valueSolid portSolid reads readsPort
  refine ⟨⟨[⟨⟨name, kind⟩, some read⟩, ⟨⟨"tcp", .port⟩, some (.number number)⟩]⟩,
    by simp [library, parsed, Except.mapError], ?_, ?_⟩
  · simp only [library]
    rw [render_host_tcp notPath, rendered, ← renderedPort]
    rfl
  · intro other
    simp only [library, valueOf?_host_tcp]
    split_ifs <;> simp [rendered, ← renderedPort]

/-! ## Address values carry no zone -/

/-- A component of an address protocol holds an address of that protocol. -/
def AddressValued (component : Component) : Prop :=
  (component.protocol.name = "ip4" → ∃ octets, component.value = some (.ip4 octets)) ∧
    (component.protocol.name = "ip6" → ∃ groups, component.value = some (.ip6 groups))

/-- A protocol named `ip4` or `ip6` carries an address of its kind. -/
theorem kind_of_ofName? {name : String} {protocol : Protocol}
    (named : Protocol.ofName? name = some protocol) :
    (protocol.name = "ip4" → protocol.kind = .ip4) ∧
      (protocol.name = "ip6" → protocol.kind = .ip6) := by
  have table : ∀ known ∈ protocols, (known.name = "ip4" → known.kind = .ip4) ∧
      (known.name = "ip6" → known.kind = .ip6) := by decide
  unfold Protocol.ofName? at named
  split at named
  · cases named
    exact ⟨by decide, by decide⟩
  · exact table protocol (List.mem_of_find?_eq_some named)

theorem addressValued_of_read {name : String} {protocol : Protocol} {value : Option Value}
    (named : Protocol.ofName? name = some protocol)
    (read : protocol.kind = .ip4 ∨ protocol.kind = .ip6 →
      ∃ piece found, readValue protocol.kind piece = .ok found ∧ value = some found) :
    AddressValued ⟨protocol, value⟩ := by
  obtain ⟨isIp4, isIp6⟩ := kind_of_ofName? named
  constructor
  · intro nameIp4
    obtain ⟨piece, found, reads, rfl⟩ := read (.inl (isIp4 nameIp4))
    rw [isIp4 nameIp4] at reads
    simp only [readValue] at reads
    split at reads <;> (try split at reads) <;> cases reads <;> exact ⟨_, rfl⟩
  · intro nameIp6
    obtain ⟨piece, found, reads, rfl⟩ := read (.inr (isIp6 nameIp6))
    rw [isIp6 nameIp6] at reads
    simp only [readValue] at reads
    split at reads <;> cases reads <;> exact ⟨_, rfl⟩

theorem addressValued_cons {component : Component} {rest : Except Fault (List Component)}
    {components : List Component} (first : AddressValued component)
    (others : ∀ {found}, rest = .ok found → ∀ other ∈ found, AddressValued other)
    (read : rest.map (component :: ·) = .ok components) :
    ∀ each ∈ components, AddressValued each := by
  cases rest with
  | error fault => cases read
  | ok found =>
      cases read
      intro each member
      rcases List.mem_cons.mp member with rfl | later
      · exact first
      · exact others rfl each later

/-- Every component read from pieces holds an address of its protocol, if it is an address
protocol: the induction follows the reading of the pieces. -/
theorem addressValued_of_componentsOf {pieces : List String} {components : List Component}
    (read : componentsOf pieces = .ok components) :
    ∀ component ∈ components, AddressValued component := by
  revert components
  fun_induction componentsOf pieces with
  | case1 =>
      intro components read
      cases read
      simp
  | case3 piece more protocol named noValue induction =>
      intro components read
      exact addressValued_cons (addressValued_of_read named fun address => by
        rcases address with kind | kind <;> simp [kind] at noValue) induction read
  | case5 piece protocol named valued next more isPath value found =>
      -- The reading of the path's value is left unnamed by the induction principle.
      rename_i reads
      intro components read
      cases read
      intro component member
      rcases List.mem_singleton.mp member with rfl
      exact addressValued_of_read named fun _ => ⟨_, found, reads, rfl⟩
  | case7 piece protocol named valued next more notPath found reads induction =>
      intro components read
      exact addressValued_cons (addressValued_of_read named fun _ => ⟨next, found, reads, rfl⟩)
        induction read
  -- The other cases refuse the pieces.
  | case2 | case4 | case6 | case8 =>
      intro components read
      cases read

theorem percent_not_mem_octetsText (octets : Vector UInt8 4) :
    '%' ∉ (IpAddr.octetsText octets).toList := by
  intro percent
  rcases IpAddr.octetsText_chars octets '%' percent with digit | dot
  · exact (IpAddr.ne_of_digitValue_isSome digit).2.2.1 rfl
  · cases dot

theorem percent_not_mem_render_v6 (groups : Vector UInt16 8) :
    '%' ∉ (IpAddr.v6 groups "").render.toList := by
  cases carried : IpAddr.carriedOctets? groups with
  | some octets =>
      have prefixFree : '%' ∉ "::ffff:".toList := by decide
      simpa [IpAddr.render, carried, prefixFree] using percent_not_mem_octetsText octets
  | none =>
      have noZone : ("" : String).isEmpty = true := rfl
      simp only [IpAddr.render, carried, noZone, if_true]
      intro percent
      rcases IpAddr.groupsText_chars groups.toList '%' percent with digit | colon
      · exact (IpAddr.ne_of_digitValue_isSome digit).2.2.1 rfl
      · cases colon

theorem unzoned_library {text : String} {address : Multiaddr} {protocol value : String}
    (read : library.read text = .ok address) (named : protocol = "ip4" ∨ protocol = "ip6")
    (valued : library.valueFor address protocol = some value) : '%' ∉ value.toList := by
  have parsed : parse text = .ok address := by
    simp only [library] at read
    cases parsing : parse text with
    | error problem => simp [parsing, Except.mapError] at read
    | ok found => simpa [parsing, Except.mapError] using read
  obtain ⟨pieces, components⟩ := exists_componentsOf_of_parse parsed
  simp only [library, valueOf?, Option.map_eq_some_iff, Option.bind_eq_some_iff] at valued
  obtain ⟨found, ⟨component, first, holds⟩, rfl⟩ := valued
  have member := List.mem_of_find?_eq_some first
  have sameName : component.protocol.name = protocol := by
    simpa using List.find?_some first
  obtain ⟨ofIp4, ofIp6⟩ := addressValued_of_componentsOf components component member
  rcases named with rfl | rfl
  · obtain ⟨octets, holdsIp4⟩ := ofIp4 sameName
    rw [holds] at holdsIp4
    cases holdsIp4
    exact percent_not_mem_octetsText octets
  · obtain ⟨groups, holdsIp6⟩ := ofIp6 sameName
    rw [holds] at holdsIp6
    cases holdsIp6
    exact percent_not_mem_render_v6 groups

/-- The command line's library meets what endpoints rely on. -/
theorem transcodes_library : library.Transcodes where
  readsHostTcp := readsHostTcp_library
  ip4 octets := by
    have named : Protocol.ofName? "ip4" = some ⟨"ip4", .ip4⟩ := by decide
    simp only [library, named, Option.bind_some, readValue_octetsText]
    rfl
  ip6 groups notCarried := by
    have named : Protocol.ofName? "ip6" = some ⟨"ip6", .ip6⟩ := by decide
    simp only [library, named, Option.bind_some, readValue_groupsText]
    simp [Except.toOption, Value.render, IpAddr.render, notCarried]
  tcp port fits := by
    have named : Protocol.ofName? "tcp" = some ⟨"tcp", .port⟩ := by decide
    simp only [library, named, Option.bind_some, readValue_toString fits]
    rfl
  unzoned := unzoned_library

end PeerBook.Multiaddr
