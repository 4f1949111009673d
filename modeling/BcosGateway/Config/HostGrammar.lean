import BcosGateway.Config.HostAndPort

/-! The grammar of a host, `a:p` or `[a]:p`, and the hosts on which the parser departs from it. -/

namespace BcosGateway.GatewayConfig

open Split

variable (boost : BoostReaders)

inductive Written (host : StdString) (address : IPAddress) (port : Int) : Prop where
  | v4 (a p : StdString) (form : host = a ++ 58 :: p) (reads : boost.makeAddress a = some address)
      (family : address.isV6 = false) (integer : boost.lexicalCast p = some port)
      (least : 1025 ≤ port) (most : port ≤ 65535)
  | v6 (a p : StdString) (form : host = 91 :: (a ++ 93 :: 58 :: p))
      (reads : boost.makeAddress a = some address) (family : address.isV6 = true)
      (integer : boost.lexicalCast p = some port) (least : 1025 ≤ port) (most : port ≤ 65535)

def Conforms (host : StdString) : Prop :=
  ∀ endpoint,
    (∃ address port, Written boost host address port ∧ ∃ result : NodeIPEndpoint,
      hostAndPort2Endpoint boost host endpoint = (.ok (), result) ∧
      result.address = address.text ∧ result.port.toNat = port) ∨
    ((¬ ∃ address port, Written boost host address port) ∧
      ∃ exception, hostAndPort2Endpoint boost host endpoint = (.error (.thrown exception), endpoint))

inductive Misread (host : StdString) : Prop where
  /-- There is no second field. -/
  | noSeparator (bracket : 93 ∉ host) (colon : 58 ∉ host)
  /-- Brackets, all in one place, begin or end the host. -/
  | emptyField (front brackets back : StdString) (form : host = front ++ (brackets ++ back))
      (filled : brackets ≠ []) (all : ∀ character ∈ brackets, character = 93)
      (front_free : 93 ∉ front) (back_free : 93 ∉ back) (empty : front = [] ∨ back = [])
  /-- The first two fields between colons are read, and the host has a further colon, a NUL, or
      an integer that is not a port. -/
  | plain (ip colons rest : StdString) (address : IPAddress) (value : Int)
      (form : host = ip ++ (colons ++ rest)) (bracket : 93 ∉ host) (ip_free : 58 ∉ ip)
      (filled : colons ≠ []) (all : ∀ character ∈ colons, character = 58)
      (begins : rest.head? ≠ some 58)
      (reads : Reads boost ip (rest.takeWhile (· != 58)) address value)
      (flaw : colons ≠ [58] ∨ 58 ∈ rest ∨ 0 ∈ ip ∨ value < 0 ∨ 65535 < value)
  /-- The two fields are read without their first characters, which are others than the grammar
      has, or there is a further bracket, a NUL, an integer that is not a port or an address of
      the other family. -/
  | bracketed (first second : UInt8) (ip brackets rest : StdString) (address : IPAddress)
      (value : Int) (form : host = first :: (ip ++ (brackets ++ second :: rest)))
      (filled : brackets ≠ []) (all : ∀ character ∈ brackets, character = 93)
      (front_free : 93 ∉ first :: ip) (back_free : 93 ∉ second :: rest)
      (reads : Reads boost (cString ip) (cString rest) address value)
      (flaw : first ≠ 91 ∨ second ≠ 58 ∨ brackets ≠ [93] ∨ 0 ∈ ip ∨ 0 ∈ rest ∨
        value < 0 ∨ 65535 < value ∨ address.isV6 = false)

variable {boost}

section Fields

variable {a p : StdString} {address : IPAddress} {port : Int}
  (reads : boost.makeAddress a = some address) (integer : boost.lexicalCast p = some port)

include reads integer

theorem v4_fields (family : address.isV6 = false) :
    93 ∉ a ++ 58 :: p ∧ split (isAnyOf ":") (a ++ 58 :: p) = [a, p] ∧ 58 ∉ p ∧ cString a = a := by
  have a_plain := boost.v4_text a address reads family
  have p_plain := boost.integer_text p port integer
  have a_free : 58 ∉ a := fun member => (a_plain 58 member).1 rfl
  have p_free : 58 ∉ p := fun member => (p_plain 58 member).1 rfl
  refine ⟨?_, ?_, p_free, cString_plain fun member => (a_plain 0 member).2.2 rfl⟩
  · intro member
    rcases List.mem_append.mp member with member | member
    · exact (a_plain 93 member).2.1 rfl
    · rcases List.mem_cons.mp member with same | member
      · exact absurd same (by decide)
      · exact (p_plain 93 member).2.1 rfl
  · have free := free_beq.mpr p_free
    rw [isAnyOf_colon, split_field_one (free_beq.mpr a_free) (by decide) free.begins,
      split_free free]

theorem v6_fields (family : address.isV6 = true) :
    split (isAnyOf "]") (91 :: (a ++ 93 :: 58 :: p)) = [91 :: a, 58 :: p] ∧
      cString a = a ∧ cString p = p := by
  obtain ⟨_, a_plain⟩ := boost.v6_text a address reads family
  have p_plain := boost.integer_text p port integer
  refine ⟨?_, cString_plain fun member => (a_plain 0 member).2 rfl,
    cString_plain fun member => (p_plain 0 member).2.2 rfl⟩
  have front_free : 93 ∉ 91 :: a := by
    intro member
    rcases List.mem_cons.mp member with same | member
    · exact absurd same (by decide)
    · exact (a_plain 93 member).1 rfl
  have back_free : 93 ∉ 58 :: p := by
    intro member
    rcases List.mem_cons.mp member with same | member
    · exact absurd same (by decide)
    · exact (p_plain 93 member).2.1 rfl
  exact split_brackets (List.cons_ne_nil 93 []) (by simp) front_free back_free

end Fields

/-- A host of the grammar is accepted. -/
theorem parse_written {host : StdString} {address : IPAddress} {port : Int}
    (written : Written boost host address port) :
    parse boost host = .ok ⟨address.text, narrow port⟩ := by
  cases written with
  | v4 a p form reads family integer least most =>
    obtain ⟨bracket, fields, _, whole⟩ := v4_fields reads integer family
    rw [form, parse_plain (whole_of_bracket bracket) fields]
    exact finish_reads ⟨whole.symm ▸ reads, integer, (narrow_port least most).2⟩ _
  | v6 a p form reads family integer least most =>
    obtain ⟨fields, a_whole, p_whole⟩ := v6_fields reads integer family
    rw [form, parse_bracketed fields, a_whole, p_whole]
    exact finish_reads ⟨a_whole.symm ▸ reads, integer, (narrow_port least most).2⟩ _

theorem conforms_iff {host : StdString} :
    Conforms boost host ↔
      (∃ address port, Written boost host address port) ∨
        ∃ exception, parse boost host = .error (.thrown exception) := by
  constructor
  · intro conforms
    rcases conforms ⟨"", 0⟩ with ⟨address, port, written, _⟩ | ⟨_, exception, ran⟩
    · exact .inl ⟨address, port, written⟩
    · right
      rw [hostAndPort2Endpoint] at ran
      cases parsed : parse boost host with
      | ok endpoint => simp [parsed] at ran
      | error stopped => exact ⟨exception, by simpa [parsed] using ran⟩
  · intro outcome endpoint
    rcases outcome with ⟨address, port, written⟩ | ⟨exception, thrown⟩
    · have range : 1025 ≤ port ∧ port ≤ 65535 := by
        cases written with
        | v4 a p form reads family integer least most => exact ⟨least, most⟩
        | v6 a p form reads family integer least most => exact ⟨least, most⟩
      refine .inl ⟨address, port, written, ⟨address.text, narrow port⟩, ?_, rfl,
        (narrow_port range.1 range.2).1⟩
      rw [hostAndPort2Endpoint, parse_written written]
    · refine .inr ⟨?_, exception, ?_⟩
      · rintro ⟨address, port, written⟩
        rw [parse_written written] at thrown
        cases thrown
      · rw [hostAndPort2Endpoint, thrown]

theorem least_of_valid {value : Int} (valid : isValidPort (narrow value).toNat = true)
    (positive : 0 ≤ value) (most : value ≤ 65535) : 1025 ≤ value := by
  have low : value % 2 ^ 16 = value := by omega
  have fits : value.toNat < 65536 := by omega
  rw [narrow, low, UInt16.toNat_ofNat_of_lt' fits, isValidPort] at valid
  simp only [Bool.not_eq_true', Bool.or_eq_false_iff, decide_eq_false_iff_not] at valid
  omega

theorem Reads.plain_written {ip colons rest : StdString} {address : IPAddress} {value : Int}
    (reads : Reads boost ip (rest.takeWhile (· != 58)) address value) (ip_free : 58 ∉ ip)
    (sound : ¬ (colons ≠ [58] ∨ 58 ∈ rest ∨ 0 ∈ ip ∨ value < 0 ∨ 65535 < value)) :
    Written boost (ip ++ (colons ++ rest)) address value := by
  simp only [not_or, not_not, not_lt] at sound
  obtain ⟨rfl, rest_free, ip_plain, positive, most⟩ := sound
  have field : rest.takeWhile (· != 58) = rest := by
    rw [List.takeWhile_eq_self_iff]
    intro character member
    exact bne_iff_ne.mpr fun same => rest_free (same ▸ member)
  have made := reads.address
  rw [cString_plain ip_plain] at made
  have family : address.isV6 = false := by
    rw [Bool.eq_false_iff]
    exact fun v6 => ip_free (boost.v6_text ip address made v6).1
  exact .v4 ip rest rfl made family (field ▸ reads.integer)
    (least_of_valid reads.port positive most) most

theorem Reads.bracketed_written {first second : UInt8} {ip brackets rest : StdString}
    {address : IPAddress} {value : Int}
    (reads : Reads boost (cString ip) (cString rest) address value)
    (sound : ¬ (first ≠ 91 ∨ second ≠ 58 ∨ brackets ≠ [93] ∨ 0 ∈ ip ∨ 0 ∈ rest ∨
      value < 0 ∨ 65535 < value ∨ address.isV6 = false)) :
    Written boost (first :: (ip ++ (brackets ++ second :: rest))) address value := by
  simp only [not_or, not_not, not_lt, Bool.not_eq_false] at sound
  obtain ⟨rfl, rfl, rfl, ip_plain, rest_plain, positive, most, family⟩ := sound
  have made := reads.address
  have integer := reads.integer
  rw [cString_plain ip_plain, cString_plain ip_plain] at made
  rw [cString_plain rest_plain] at integer
  exact .v6 ip rest rfl made family integer (least_of_valid reads.port positive most) most

section Kinds

variable {host : StdString} (unwritten : ¬ ∃ address port, Written boost host address port)
  (unthrown : ¬ ∃ exception, parse boost host = .error (.thrown exception))

include unwritten unthrown

theorem misread_of_no_bracket (bracket : 93 ∉ host) : Misread boost host := by
  rcases field_cases (· == (58 : UInt8)) host with
    free | ⟨ip, colons, rest, form, ip_free, filled, all, begins⟩
  · exact .noSeparator bracket (free_beq.mp free)
  rw [free_beq] at ip_free
  rw [begins_beq] at begins
  simp only [beq_iff_eq] at all
  obtain ⟨fields, colon⟩ := split_colons ip_free filled all begins
  rw [← form] at colon
  by_cases read : ∃ address value, Reads boost ip (rest.takeWhile (· != 58)) address value
  · obtain ⟨address, value, reads⟩ := read
    refine .plain ip colons rest address value form bracket ip_free filled all begins reads ?_
    by_contra sound
    exact unwritten ⟨address, value, form ▸ reads.plain_written ip_free sound⟩
  · obtain ⟨exception, refused⟩ := finish_refuses read host
    exact absurd ⟨exception, (parse_plain (whole_of_bracket bracket) colon).trans refused⟩ unthrown

theorem misread_of_one_place {front brackets back : StdString}
    (form : host = front ++ (brackets ++ back)) (filled : brackets ≠ [])
    (all : ∀ character ∈ brackets, character = 93) (front_free : 93 ∉ front)
    (back_free : 93 ∉ back) : Misread boost host := by
  have fields := split_brackets filled all front_free back_free
  rw [← form] at fields
  match front, back with
  | [], back => exact .emptyField [] brackets back form filled all front_free back_free (.inl rfl)
  | front, [] => exact .emptyField front brackets [] form filled all front_free back_free (.inr rfl)
  | first :: ip, second :: rest =>
    by_cases read : ∃ address value, Reads boost (cString ip) (cString rest) address value
    · obtain ⟨address, value, reads⟩ := read
      refine .bracketed first second ip brackets rest address value form filled all
        front_free back_free reads ?_
      by_contra sound
      exact unwritten ⟨address, value, form ▸ reads.bracketed_written sound⟩
    · obtain ⟨exception, refused⟩ := finish_refuses read host
      exact absurd ⟨exception, (parse_bracketed fields).trans refused⟩ unthrown

end Kinds

/-- A host that the parser neither accepts by the grammar nor refuses is one of the kinds. -/
theorem misread_of_not_conforms {host : StdString} (unlike : ¬ Conforms boost host) :
    Misread boost host := by
  rw [conforms_iff, not_or] at unlike
  obtain ⟨unwritten, unthrown⟩ := unlike
  rcases field_cases (· == (93 : UInt8)) host with
    free | ⟨front, brackets, tail, form, front_free, filled, all, tail_begins⟩
  · exact misread_of_no_bracket unwritten unthrown (free_beq.mp free)
  rcases field_cases (· == (93 : UInt8)) tail with
    free | ⟨middle, more, rest, rfl, middle_free, more_filled, more_all, begins⟩
  · rw [free_beq] at front_free free
    simp only [beq_iff_eq] at all
    exact misread_of_one_place unwritten unthrown form filled all front_free free
  · have fields : split (isAnyOf "]") host =
        front :: middle :: split (· == (93 : UInt8)) rest := by
      rw [form, isAnyOf_bracket, split_field front_free filled all tail_begins,
        split_field middle_free more_filled more_all begins]
    obtain ⟨back, others, behind⟩ :
        ∃ back others, split (· == (93 : UInt8)) rest = back :: others :=
      List.exists_cons_of_ne_nil (split_ne_nil rest)
    rw [behind] at fields
    exact absurd (parse_manyFields fields) unthrown

theorem parse_of_plain {host ip colons rest : StdString} {address : IPAddress} {value : Int}
    (form : host = ip ++ (colons ++ rest)) (bracket : 93 ∉ host) (ip_free : 58 ∉ ip)
    (filled : colons ≠ []) (all : ∀ character ∈ colons, character = 58)
    (begins : rest.head? ≠ some 58)
    (reads : Reads boost ip (rest.takeWhile (· != 58)) address value) :
    parse boost host = .ok ⟨address.text, narrow value⟩ := by
  obtain ⟨fields, colon⟩ := split_colons ip_free filled all begins
  rw [← form] at colon
  rw [parse_plain (whole_of_bracket bracket) colon]
  exact finish_reads reads host

/-- What is read of a host without brackets is sound when the host is in the grammar. -/
theorem sound_of_plain {ip colons rest : StdString} {address found : IPAddress}
    {value port : Int} (bracket : 93 ∉ ip ++ (colons ++ rest)) (ip_free : 58 ∉ ip)
    (filled : colons ≠ []) (all : ∀ character ∈ colons, character = 58)
    (begins : rest.head? ≠ some 58)
    (reads : Reads boost ip (rest.takeWhile (· != 58)) address value)
    (written : Written boost (ip ++ (colons ++ rest)) found port) :
    ¬ (colons ≠ [58] ∨ 58 ∈ rest ∨ 0 ∈ ip ∨ value < 0 ∨ 65535 < value) := by
  cases written with
  | v4 a p form made family integer least most =>
    obtain ⟨_, fields, p_free, whole⟩ := v4_fields made integer family
    obtain ⟨others, colon⟩ := split_colons ip_free filled all begins
    rw [form, fields] at colon
    obtain ⟨rfl, tail⟩ := List.cons.inj colon
    have port_text : p = rest.takeWhile (· != 58) := (List.cons.inj tail).1
    have same : colons ++ rest = 58 :: p := List.append_cancel_left form
    obtain ⟨first, more, rfl⟩ := List.exists_cons_of_ne_nil filled
    obtain ⟨rfl, behind⟩ := List.cons.inj (List.cons_append ▸ same)
    -- the text of the port is not longer than what follows the colons
    have short : p.length ≤ rest.length := by
      rw [port_text]
      exact (List.takeWhile_prefix _).length_le
    have none_more : more = [] := by
      have sizes := congrArg List.length behind
      rw [List.length_append] at sizes
      exact List.length_eq_zero_iff.mp (by omega)
    subst none_more
    have rest_text : rest = p := behind
    have value_port : value = port := by
      have read := reads.integer
      rw [← port_text, integer] at read
      exact (Option.some.inj read).symm
    have a_plain : 0 ∉ a := by
      rw [← whole]
      exact zero_not_mem_cString a
    simp only [not_or, not_not, not_lt]
    exact ⟨trivial, rest_text ▸ p_free, a_plain, by omega, by omega⟩
  | v6 a p form made family integer least most =>
    rw [form] at bracket
    exact absurd (by simp) bracket

theorem parse_of_bracketed {host ip brackets rest : StdString} {first second : UInt8}
    {address : IPAddress} {value : Int}
    (form : host = first :: (ip ++ (brackets ++ second :: rest))) (filled : brackets ≠ [])
    (all : ∀ character ∈ brackets, character = 93) (front_free : 93 ∉ first :: ip)
    (back_free : 93 ∉ second :: rest)
    (reads : Reads boost (cString ip) (cString rest) address value) :
    parse boost host = .ok ⟨address.text, narrow value⟩ := by
  have fields := split_brackets filled all front_free back_free
  rw [List.cons_append, ← form] at fields
  rw [parse_bracketed fields]
  exact finish_reads reads host

theorem sound_of_bracketed {ip brackets rest : StdString} {first second : UInt8}
    {address found : IPAddress} {value port : Int} (filled : brackets ≠ [])
    (all : ∀ character ∈ brackets, character = 93) (front_free : 93 ∉ first :: ip)
    (back_free : 93 ∉ second :: rest)
    (reads : Reads boost (cString ip) (cString rest) address value)
    (written : Written boost (first :: (ip ++ (brackets ++ second :: rest))) found port) :
    ¬ (first ≠ 91 ∨ second ≠ 58 ∨ brackets ≠ [93] ∨ 0 ∈ ip ∨ 0 ∈ rest ∨
      value < 0 ∨ 65535 < value ∨ address.isV6 = false) := by
  cases written with
  | v4 a p form made family integer least most =>
    obtain ⟨bracket, _⟩ := v4_fields made integer family
    rw [← form] at bracket
    obtain ⟨character, more, rfl⟩ := List.exists_cons_of_ne_nil filled
    have is : character = 93 := all character List.mem_cons_self
    exact absurd (by simp [is]) bracket
  | v6 a p form made family integer least most =>
    obtain ⟨fields, a_whole, p_whole⟩ := v6_fields made integer family
    have split_host := split_brackets filled all front_free back_free
    rw [List.cons_append, form, fields] at split_host
    obtain ⟨front, behind⟩ := List.cons.inj split_host
    obtain ⟨rfl, rfl⟩ := List.cons.inj front
    obtain ⟨rfl, rfl⟩ := List.cons.inj (List.cons.inj behind).1
    have one : brackets = [93] := by
      have tail := List.append_cancel_left (List.cons.inj form).2
      exact List.append_cancel_right (tail : brackets ++ 58 :: p = [93] ++ 58 :: p)
    have value_port : value = port := by
      have read := reads.integer
      rw [p_whole, integer] at read
      exact (Option.some.inj read).symm
    have same : address = found := by
      have read := reads.address
      rw [a_whole, a_whole, made] at read
      exact (Option.some.inj read).symm
    have a_plain : 0 ∉ a := by
      rw [← a_whole]
      exact zero_not_mem_cString a
    have p_plain : 0 ∉ p := by
      rw [← p_whole]
      exact zero_not_mem_cString p
    simp only [not_or, not_not, not_lt, Bool.not_eq_false]
    exact ⟨trivial, trivial, one, a_plain, p_plain, by omega, by omega, same ▸ family⟩

theorem not_conforms_of_misread {host : StdString} (misread : Misread boost host) :
    ¬ Conforms boost host := by
  have faulty (fault : parse boost host = .error (.fault .outOfBounds)) :
      ¬ Conforms boost host := by
    rw [conforms_iff]
    rintro (⟨address, port, written⟩ | ⟨exception, thrown⟩)
    · rw [parse_written written] at fault
      cases fault
    · rw [thrown] at fault
      cases fault
  have accepted {endpoint : NodeIPEndpoint} (ran : parse boost host = .ok endpoint)
      (unwritten : ∀ address port, ¬ Written boost host address port) :
      ¬ Conforms boost host := by
    rw [conforms_iff]
    rintro (⟨address, port, written⟩ | ⟨exception, thrown⟩)
    · exact unwritten address port written
    · rw [thrown] at ran
      cases ran
  cases misread with
  | noSeparator bracket colon => exact faulty (parse_noSeparator bracket colon)
  | emptyField front brackets back form filled all front_free back_free empty =>
    have fields := split_brackets filled all front_free back_free
    rw [← form] at fields
    exact faulty (parse_emptyField fields empty)
  | plain ip colons rest address value form bracket ip_free filled all begins reads flaw =>
    apply accepted (parse_of_plain form bracket ip_free filled all begins reads)
    intro found port written
    subst form
    exact sound_of_plain bracket ip_free filled all begins reads written flaw
  | bracketed first second ip brackets rest address value form filled all front_free back_free
      reads flaw =>
    apply accepted (parse_of_bracketed form filled all front_free back_free reads)
    intro found port written
    subst form
    exact sound_of_bracketed filled all front_free back_free reads written flaw

/-- The parser follows its grammar on a host exactly when the host is of none of the kinds that
    it misreads. -/
theorem hostAndPort2Endpoint_iff (boost : BoostReaders) (host : StdString) :
    Conforms boost host ↔ ¬ Misread boost host := by
  constructor
  · exact fun conforms misread => not_conforms_of_misread misread conforms
  · intro sound
    by_contra unlike
    exact sound (misread_of_not_conforms unlike)

/-! Readers that read as those of boost do on dotted addresses, `::1` and decimal integers. -/

def isDigit (character : UInt8) : Bool := 48 ≤ character && character ≤ 57

def decimal (text : StdString) : Option Nat :=
  if !text.isEmpty && text.all isDigit then
    some (text.foldl (fun value character => 10 * value + (character.toNat - 48)) 0)
  else none

def castInt (text : StdString) : Option Int :=
  let value : Option Int := match text with
    | 45 :: digits => (decimal digits).map Int.negOfNat
    | 43 :: digits => (decimal digits).map Int.ofNat
    | digits => (decimal digits).map Int.ofNat
  value.filter fun value => -2 ^ 31 ≤ value && value < 2 ^ 31

def isDotted (text : StdString) : Bool :=
  text.all (fun character => isDigit character || character == 46) &&
    (text.splitOn 46).length == 4 &&
    (text.splitOn 46).all fun field => (decimal field).any (· ≤ 255)

def readAddress (text : StdString) : Option IPAddress :=
  if text = asciiString "::1" then some ⟨true, "::1"⟩
  else if isDotted text then
    some ⟨false, String.ofList (text.map fun character => Char.ofNat character.toNat)⟩
  else none

theorem digit_plain {character : UInt8} (digit : isDigit character = true) :
    character ≠ 58 ∧ character ≠ 93 ∧ character ≠ 0 := by
  refine ⟨?_, ?_, ?_⟩ <;> rintro rfl <;> exact absurd digit (by decide)

theorem decimal_plain {text : StdString} {value : Nat} (read : decimal text = some value) :
    ∀ character ∈ text, character ≠ 58 ∧ character ≠ 93 ∧ character ≠ 0 := by
  rw [decimal] at read
  split at read
  · rename_i digits
    rw [Bool.and_eq_true] at digits
    exact fun character member => digit_plain (List.all_eq_true.mp digits.2 character member)
  · cases read

theorem castInt_plain {text : StdString} {value : Int} (read : castInt text = some value) :
    ∀ character ∈ text, character ≠ 58 ∧ character ≠ 93 ∧ character ≠ 0 := by
  obtain ⟨read, _⟩ := Option.filter_eq_some_iff.mp read
  split at read
  · obtain ⟨digits, read, _⟩ := Option.map_eq_some_iff.mp read
    exact List.forall_mem_cons.mpr ⟨by decide, decimal_plain read⟩
  · obtain ⟨digits, read, _⟩ := Option.map_eq_some_iff.mp read
    exact List.forall_mem_cons.mpr ⟨by decide, decimal_plain read⟩
  · obtain ⟨digits, read, _⟩ := Option.map_eq_some_iff.mp read
    exact decimal_plain read

def readers : BoostReaders where
  makeAddress := readAddress
  lexicalCast := castInt
  v4_text text address read family character member := by
    rw [readAddress] at read
    split_ifs at read with v6 dotted
    · cases read
      cases family
    · rw [isDotted, Bool.and_eq_true, Bool.and_eq_true] at dotted
      have shape := List.all_eq_true.mp dotted.1.1 character member
      rcases Bool.or_eq_true_iff.mp shape with digit | dot
      · exact digit_plain digit
      · rw [beq_iff_eq.mp dot]
        decide
  v6_text text address read family := by
    rw [readAddress] at read
    split_ifs at read with v6 dotted
    · subst v6
      have plain : (asciiString "::1").all (fun character => character != 93 && character != 0) =
        true := by decide
      refine ⟨by decide, fun character member => ?_⟩
      simpa using List.all_eq_true.mp plain character member
    · cases read
      cases family
  integer_text text value read := castInt_plain read

/-- The port is narrowed before it is checked, and a second field is read without there being
    one. -/
theorem wrapped_port :
    hostAndPort2Endpoint readers (asciiString "127.0.0.1:66570") ⟨"", 0⟩ =
        (.ok (), ⟨"127.0.0.1", 1034⟩) ∧
      hostAndPort2Endpoint readers (asciiString "127.0.0.1") ⟨"", 0⟩ =
        (.error (.fault .outOfBounds), ⟨"", 0⟩) ∧
      ¬ Conforms readers (asciiString "127.0.0.1:66570") := by
  refine ⟨by decide +kernel, by decide +kernel, not_conforms_of_misread ?_⟩
  exact .plain (asciiString "127.0.0.1") [58] (asciiString "66570") ⟨false, "127.0.0.1"⟩ 66570
    (by decide) (by decide) (by decide) (by decide) (by simp) (by decide)
    ⟨by decide +kernel, by decide +kernel, by decide +kernel⟩ (by decide)

end BcosGateway.GatewayConfig
