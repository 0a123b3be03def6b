import PortRelease.Text.Utf8
/-!
# Text in octets and back

A text that was encoded is decoded to itself, strictly and leniently: the scan of its octets finds its characters and
nothing else (`scan_encode`).

Nothing else is decoded strictly: octets that are scanned as a character are those that encode it (`octets_of_next`), for
the ranges that a lead octet announces leave out whatever is no character (`Announced`). So octets are a text just if they
encode one, and they encode that one (`decode_eq_ok_iff`).
-/

namespace PortRelease.Utf8

/-! ## Octets -/

/-- What a lead octet announces is read off its value. -/
theorem next_of_lead {octet : Nat} (small : octet < 256) {lead : Lead} (leads : lead? octet = some lead)
    (rest : List UInt8) :
    next (UInt8.ofNat octet) rest = continueChar 1 lead.bits lead.owed lead.low lead.high rest := by
  have value : (UInt8.ofNat octet).toNat = octet := by
    rw [UInt8.toNat_ofNat']
    omega
  rw [next, value, leads]

/-- An octet in its range adds its six bits to a character that still owes some. -/
theorem continueChar_tail {tail low high : Nat} (small : tail < 64) (above : low ≤ tail + 128)
    (below : tail + 128 ≤ high) (taken bits owed : Nat) (rest : List UInt8) :
    continueChar taken bits (owed + 1) low high (UInt8.ofNat (tail + 128) :: rest) =
      continueChar (taken + 1) (bits * 64 + tail) owed 0x80 0xBF rest := by
  have octet : (UInt8.ofNat (tail + 128)).toNat = tail + 128 := by
    rw [UInt8.toNat_ofNat']
    omega
  rw [continueChar, octet, if_pos ⟨above, below⟩, Nat.add_sub_cancel]

theorem continueChar_last {tail : Nat} (small : tail < 64) (taken bits owed : Nat) (rest : List UInt8) :
    continueChar taken bits (owed + 1) 0x80 0xBF (UInt8.ofNat (tail + 128) :: rest) =
      continueChar (taken + 1) (bits * 64 + tail) owed 0x80 0xBF rest :=
  continueChar_tail small (by omega) (by omega) taken bits owed rest

/-! ## Lead octets

Beside its own bits a lead octet says what the second octet may be, so that neither a shorter form nor a surrogate is
meant. -/

theorem lead?_of_one {v : Nat} (small : v ≤ 127) : lead? v = some ⟨0, v, 0x80, 0xBF⟩ := by
  rw [lead?, if_pos small]

theorem lead?_of_two {v : Nat} (large : 127 < v) (small : v ≤ 2047) :
    lead? (v / 64 % 32 + 192) = some ⟨1, v / 64, 0x80, 0xBF⟩ := by
  have bits : v / 64 % 32 + 192 - 0xC0 = v / 64 := by omega
  rw [lead?, if_neg (by omega), if_pos (by omega), bits]

theorem lead?_of_three {v : Nat} (large : 2047 < v) (small : v ≤ 65535) (valid : v < 0xD800 ∨ 0xDFFF < v) :
    ∃ low high, lead? (v / 4096 % 16 + 224) = some ⟨2, v / 4096, low, high⟩ ∧
      low ≤ v / 64 % 64 + 128 ∧ v / 64 % 64 + 128 ≤ high := by
  by_cases least : v / 4096 = 0
  · exact ⟨0xA0, 0xBF, by simp [lead?, least], by omega, by omega⟩
  by_cases surrogates : v / 4096 = 13
  · exact ⟨0x80, 0x9F, by simp [lead?, surrogates], by omega, by omega⟩
  · have bits : v / 4096 % 16 + 224 - 0xE0 = v / 4096 := by omega
    refine ⟨0x80, 0xBF, ?_, by omega, by omega⟩
    rw [lead?, if_neg (by omega), if_neg (by omega), if_neg (by omega), if_neg (by omega), if_pos (by omega), bits]

theorem lead?_of_four {v : Nat} (large : 65535 < v) (small : v < 0x110000) :
    ∃ low high, lead? (v / 262144 % 8 + 240) = some ⟨3, v / 262144, low, high⟩ ∧
      low ≤ v / 4096 % 64 + 128 ∧ v / 4096 % 64 + 128 ≤ high := by
  by_cases least : v / 262144 = 0
  · exact ⟨0x90, 0xBF, by simp [lead?, least], by omega, by omega⟩
  by_cases greatest : v / 262144 = 4
  · exact ⟨0x80, 0x8F, by simp [lead?, greatest], by omega, by omega⟩
  · have bits : v / 262144 % 8 + 240 - 0xF0 = v / 262144 := by omega
    refine ⟨0x80, 0xBF, ?_, by omega, by omega⟩
    rw [lead?, if_neg (by omega), if_neg (by omega), if_neg (by omega), if_neg (by omega), if_neg (by omega),
      if_neg (by omega), if_pos (by omega), bits]

/-! ## Characters and texts -/

/-- **The octets of a character are scanned as that character.** -/
theorem next_encoded (c : Char) (rest : List UInt8) :
    ∃ octet more, String.utf8EncodeChar c = octet :: more ∧ next octet (more ++ rest) = (.char c, rest) := by
  have back : Char.ofNat c.val.toNat = c := Char.ofNat_toNat c
  have valid : c.val.toNat < 0xD800 ∨ 0xDFFF < c.val.toNat ∧ c.val.toNat < 0x110000 := c.valid
  rw [String.utf8EncodeChar.eq_1]
  generalize c.val.toNat = v at back valid
  have last : v % 64 < 64 := Nat.mod_lt v (by decide)
  have last_but_one : v / 64 % 64 < 64 := Nat.mod_lt _ (by decide)
  by_cases one : v ≤ 127
  · rw [if_pos one]
    refine ⟨_, _, rfl, ?_⟩
    rw [next_of_lead (by omega) (lead?_of_one one), List.nil_append, continueChar, back]
  by_cases two : v ≤ 2047
  · have value : v / 64 * 64 + v % 64 = v := by omega
    rw [if_neg one, if_pos two]
    refine ⟨_, _, rfl, ?_⟩
    rw [next_of_lead (by omega) (lead?_of_two (by omega) two), List.cons_append, List.nil_append,
      continueChar_last last, value, continueChar, back]
  by_cases three : v ≤ 65535
  · obtain ⟨low, high, leads, above, below⟩ := lead?_of_three (Nat.lt_of_not_le two) three (by omega)
    have value : (v / 4096 * 64 + v / 64 % 64) * 64 + v % 64 = v := by omega
    rw [if_neg one, if_neg two, if_pos three]
    refine ⟨_, _, rfl, ?_⟩
    rw [next_of_lead (by omega) leads, List.cons_append, List.cons_append, List.nil_append,
      continueChar_tail last_but_one above below, continueChar_last last, value, continueChar, back]
  · obtain ⟨low, high, leads, above, below⟩ := lead?_of_four (Nat.lt_of_not_le three) (by omega)
    have second : v / 4096 % 64 < 64 := Nat.mod_lt _ (by decide)
    have value : ((v / 262144 * 64 + v / 4096 % 64) * 64 + v / 64 % 64) * 64 + v % 64 = v := by omega
    rw [if_neg one, if_neg two, if_neg three]
    refine ⟨_, _, rfl, ?_⟩
    rw [next_of_lead (by omega) leads, List.cons_append, List.cons_append, List.cons_append, List.nil_append,
      continueChar_tail second above below, continueChar_last last_but_one, continueChar_last last, value,
      continueChar, back]

/-- **The octets of a text are scanned as its characters.** -/
theorem scan_encode (s : Text) : scan (encode s) = s.map .char := by
  induction s with
  | nil => simp [encode, scan]
  | cons c s ih =>
    obtain ⟨octet, more, octets, first⟩ := next_encoded c (encode s)
    have encoded : encode (c :: s) = octet :: (more ++ encode s) := by
      simp [encode, octets]
    rw [encoded, scan, first, ih, List.map_cons]

theorem collect_chars (index : Nat) (s : Text) : collect index (s.map .char) = .ok s := by
  induction s generalizing index with
  | nil => rfl
  | cons c s ih =>
    rw [List.map_cons, collect, ih]
    rfl

/-- **Strict decoding takes encoding back.** -/
theorem decode_encode (s : Text) : decode (encode s) = .ok s := by
  rw [decode, scan_encode, collect_chars]

/-- **Lenient decoding takes encoding back.** -/
theorem decodeLenient_encode (s : Text) : decodeLenient (encode s) = s := by
  rw [decodeLenient, scan_encode, List.map_map]
  exact List.map_id s

/-! ## Octets that are a text -/

theorem toNat_ofNat {v : Nat} (valid : v < 0xD800 ∨ 0xDFFF < v ∧ v < 0x110000) : (Char.ofNat v).val.toNat = v := by
  have is_char : v.isValidChar := valid
  rw [Char.ofNat, dif_pos is_char]
  exact UInt32.toNat_ofNatLT ..

/-- The octets of the character with a value, when they are one; and so on for two, three and four. -/
theorem encode_one {v : Nat} (small : v ≤ 127) : String.utf8EncodeChar (Char.ofNat v) = [UInt8.ofNat v] := by
  rw [String.utf8EncodeChar.eq_1, toNat_ofNat (by omega), if_pos small]

theorem encode_two {v : Nat} (large : 127 < v) (small : v ≤ 2047) :
    String.utf8EncodeChar (Char.ofNat v) = [UInt8.ofNat (v / 64 % 32 + 192), UInt8.ofNat (v % 64 + 128)] := by
  rw [String.utf8EncodeChar.eq_1, toNat_ofNat (by omega), if_neg (by omega), if_pos small]

theorem encode_three {v : Nat} (large : 2047 < v) (small : v ≤ 65535) (valid : v < 0xD800 ∨ 0xDFFF < v) :
    String.utf8EncodeChar (Char.ofNat v) =
      [UInt8.ofNat (v / 4096 % 16 + 224), UInt8.ofNat (v / 64 % 64 + 128), UInt8.ofNat (v % 64 + 128)] := by
  rw [String.utf8EncodeChar.eq_1, toNat_ofNat (by omega), if_neg (by omega), if_neg (by omega), if_pos small]

theorem encode_four {v : Nat} (large : 65535 < v) (small : v < 0x110000) :
    String.utf8EncodeChar (Char.ofNat v) =
      [UInt8.ofNat (v / 262144 % 8 + 240), UInt8.ofNat (v / 4096 % 64 + 128), UInt8.ofNat (v / 64 % 64 + 128),
        UInt8.ofNat (v % 64 + 128)] := by
  rw [String.utf8EncodeChar.eq_1, toNat_ofNat (by omega), if_neg (by omega), if_neg (by omega), if_neg (by omega)]

variable {taken bits owed low high : Nat} {octets rest : List UInt8} {c : Char}

/-- A character that owes nothing is the one with the bits that were read. -/
theorem eq_of_continueChar_zero (whole : continueChar taken bits 0 low high octets = (.char c, rest)) :
    c = Char.ofNat bits ∧ rest = octets := by
  cases whole
  exact ⟨rfl, rfl⟩

/-- A character that owes an octet has one next, in its range, and it adds six bits. -/
theorem exists_tail_of_continueChar (least : 0x80 ≤ low) (greatest : high ≤ 0xBF)
    (whole : continueChar taken bits (owed + 1) low high octets = (.char c, rest)) :
    ∃ tail more, octets = UInt8.ofNat (tail + 128) :: more ∧ tail < 64 ∧ low ≤ tail + 128 ∧ tail + 128 ≤ high ∧
      continueChar (taken + 1) (bits * 64 + tail) owed 0x80 0xBF more = (.char c, rest) := by
  cases octets with
  | nil => cases whole
  | cons octet more =>
    rw [continueChar] at whole
    split at whole
    next within =>
      have octet_eq : octet = UInt8.ofNat (octet.toNat - 128 + 128) := by
        rw [Nat.sub_add_cancel (by omega), UInt8.ofNat_toNat]
      exact ⟨octet.toNat - 128, more, congrArg (· :: more) octet_eq, by omega, by omega, by omega, whole⟩
    next => cases whole

/-- What a lead octet can announce. The range of the second octet excludes overlong forms, surrogates and values that
are too large. -/
inductive Announced (octet : Nat) : Lead → Prop
  | one {low high : Nat} (small : octet ≤ 127) : Announced octet ⟨0, octet, low, high⟩
  | two {bits : Nat} (value : octet = bits + 192) (large : 2 ≤ bits) (small : bits < 32) :
    Announced octet ⟨1, bits, 0x80, 0xBF⟩
  | three {bits low high : Nat} (value : octet = bits + 224) (small : bits < 16) (least : 0x80 ≤ low)
    (greatest : high ≤ 0xBF)
    (valid : ∀ tail, low ≤ tail + 128 → tail + 128 ≤ high →
      32 ≤ bits * 64 + tail ∧ (bits * 64 + tail < 864 ∨ 896 ≤ bits * 64 + tail)) :
    Announced octet ⟨2, bits, low, high⟩
  | four {bits low high : Nat} (value : octet = bits + 240) (small : bits < 8) (least : 0x80 ≤ low)
    (greatest : high ≤ 0xBF)
    (valid : ∀ tail, low ≤ tail + 128 → tail + 128 ≤ high → 16 ≤ bits * 64 + tail ∧ bits * 64 + tail < 272) :
    Announced octet ⟨3, bits, low, high⟩

theorem announced_of_lead? {octet : Nat} {lead : Lead} (leads : lead? octet = some lead) : Announced octet lead := by
  unfold lead? at leads
  repeat' split at leads
  all_goals cases leads
  · exact .one (by omega)
  · exact .two (by omega) (by omega) (by omega)
  · exact .three (by omega) (by omega) (by omega) (by omega) (by omega)
  · exact .three (by omega) (by omega) (by omega) (by omega) (by omega)
  · exact .three (by omega) (by omega) (by omega) (by omega) (by omega)
  · exact .four (by omega) (by omega) (by omega) (by omega) (by omega)
  · exact .four (by omega) (by omega) (by omega) (by omega) (by omega)
  · exact .four (by omega) (by omega) (by omega) (by omega) (by omega)

/-- **What is scanned as a character are its octets.** -/
theorem octets_of_next {octet : UInt8} (whole : next octet octets = (.char c, rest)) :
    octet :: octets = String.utf8EncodeChar c ++ rest := by
  rw [next] at whole
  split at whole
  next lead leads =>
    -- each octet is what its part of the value is encoded as
    cases announced_of_lead? leads with
    | one small =>
      obtain ⟨rfl, rfl⟩ := eq_of_continueChar_zero whole
      rw [encode_one small, UInt8.ofNat_toNat]
      rfl
    | @two bits value large small =>
      dsimp only at whole
      obtain ⟨tail, more, rfl, few, -, -, whole⟩ := exists_tail_of_continueChar (by omega) (by omega) whole
      obtain ⟨rfl, rfl⟩ := eq_of_continueChar_zero whole
      have first : (bits * 64 + tail) / 64 % 32 + 192 = octet.toNat := by omega
      have second : (bits * 64 + tail) % 64 = tail := by omega
      rw [encode_two (by omega) (by omega), first, second, UInt8.ofNat_toNat]
      rfl
    | @three bits _ _ value small least greatest valid =>
      dsimp only at whole
      obtain ⟨tail, more, rfl, few, above, below, whole⟩ := exists_tail_of_continueChar least greatest whole
      obtain ⟨last, more, rfl, few_last, -, -, whole⟩ := exists_tail_of_continueChar (by omega) (by omega) whole
      obtain ⟨rfl, rfl⟩ := eq_of_continueChar_zero whole
      have in_range := valid tail above below
      have first : ((bits * 64 + tail) * 64 + last) / 4096 % 16 + 224 = octet.toNat := by omega
      have second : ((bits * 64 + tail) * 64 + last) / 64 % 64 = tail := by omega
      have third : ((bits * 64 + tail) * 64 + last) % 64 = last := by omega
      rw [encode_three (by omega) (by omega) (by omega), first, second, third, UInt8.ofNat_toNat]
      rfl
    | @four bits _ _ value small least greatest valid =>
      dsimp only at whole
      obtain ⟨tail, more, rfl, few, above, below, whole⟩ := exists_tail_of_continueChar least greatest whole
      obtain ⟨next, more, rfl, few_next, -, -, whole⟩ := exists_tail_of_continueChar (by omega) (by omega) whole
      obtain ⟨last, more, rfl, few_last, -, -, whole⟩ := exists_tail_of_continueChar (by omega) (by omega) whole
      obtain ⟨rfl, rfl⟩ := eq_of_continueChar_zero whole
      have in_range := valid tail above below
      generalize value_eq : ((bits * 64 + tail) * 64 + next) * 64 + last = v
      have first : v / 262144 % 8 + 240 = octet.toNat := by omega
      have second : v / 4096 % 64 = tail := by omega
      have third : v / 64 % 64 = next := by omega
      have fourth : v % 64 = last := by omega
      rw [encode_four (by omega) (by omega), first, second, third, fourth, UInt8.ofNat_toNat]
      rfl
  next => cases whole

theorem encode_of_scan {s : Text} : ∀ {octets : List UInt8}, scan octets = s.map .char → octets = encode s := by
  induction s with
  | nil =>
    intro octets scanned
    cases octets with
    | nil => rfl
    | cons octet octets =>
      rw [scan] at scanned
      cases scanned
  | cons c s ih =>
    intro octets scanned
    cases octets with
    | nil =>
      rw [scan] at scanned
      cases scanned
    | cons octet octets =>
      rw [scan, List.map_cons] at scanned
      obtain ⟨first, later⟩ := List.cons.inj scanned
      have here : octet :: octets = String.utf8EncodeChar c ++ (next octet octets).2 :=
        octets_of_next (Prod.ext first rfl)
      rw [here, ih later]
      rfl

theorem chars_of_collect {pieces : List Piece} {s : Text} : ∀ {index : Nat},
    collect index pieces = .ok s → pieces = s.map .char := by
  induction pieces generalizing s with
  | nil =>
    intro index whole
    cases whole
    rfl
  | cons piece pieces ih =>
    intro index whole
    cases piece with
    | char c =>
      rw [collect] at whole
      cases later : collect (index + c.utf8Size) pieces with
      | ok more =>
        rw [later] at whole
        cases whole
        rw [List.map_cons, ih later]
      | error fault =>
        rw [later] at whole
        cases whole
    | malformed size => cases whole
    | truncated => cases whole

/-- **Octets are decoded to a text just if they are its octets.** -/
theorem decode_eq_ok_iff {octets : List UInt8} {s : Text} : decode octets = .ok s ↔ octets = encode s := by
  constructor
  · exact fun whole => encode_of_scan (chars_of_collect whole)
  · rintro rfl
    exact decode_encode s

end PortRelease.Utf8
