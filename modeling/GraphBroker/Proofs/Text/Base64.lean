import GraphBroker.Record.Stored

namespace GraphBroker.Text.Base64

/-!
# Base64 reads back

What is written in Base64 reads back as the same bytes.  It holds no blanks, so
that trimming leaves it as it is.
-/

/-! ## Digits -/

/-- The character of a digit is read as the digit. -/
theorem digitValue?_digitChar :
    ∀ digit, digit < 64 → digitValue? (digitChar digit) = some digit := by
  decide

/-- No digit is written as padding. -/
theorem digitChar_ne_padding :
    ∀ digit, digit < 64 → digitChar digit ≠ '=' := by
  decide

/-- No digit is written as a blank. -/
theorem isBlank_digitChar :
    ∀ digit, digit < 64 → isBlank (digitChar digit) = false := by
  decide

/-! ## Groups -/

/-- What is encoded is put after what is written already. -/
theorem encodeOnto_eq_append
    (written : List Char)
    (bytes : List UInt8) :
    encodeOnto written bytes = written.reverse ++ encodeOnto [] bytes := by
  match bytes with
  | [] | [a] | [a, b] =>
      simp [encodeOnto]
  | a :: b :: c :: rest =>
      rw [encodeOnto, encodeOnto_eq_append, encodeOnto, encodeOnto_eq_append [_, _, _, _]]
      simp

/-- Four digits, the last of which is no padding, stand for three bytes. -/
theorem decodeOnto?_group
    (found : List UInt8)
    {a b c d : Nat}
    (aBound : a < 64)
    (bBound : b < 64)
    (cBound : c < 64)
    (dBound : d < 64)
    (rest : List Char) :
    decodeOnto? found (digitChar a :: digitChar b :: digitChar c :: digitChar d :: rest) =
      decodeOnto?
        (UInt8.ofNat (c % 4 * 64 + d) :: UInt8.ofNat (b % 16 * 16 + c / 4)
          :: UInt8.ofNat (a * 4 + b / 16) :: found)
        rest := by
  have noPadding := digitChar_ne_padding d dBound
  rw [decodeOnto?]
  · simp [digitValue?_digitChar, aBound, bBound, cBound, dBound]
  · intro _ padding
    exact absurd padding noPadding
  · intro padding
    exact absurd padding noPadding

/-- A byte is what its value makes. -/
theorem byte_of_value
    {byte : UInt8}
    {value : Nat}
    (same : value = byte.toNat) :
    UInt8.ofNat value = byte := by
  rw [same]
  exact UInt8.ofNat_toNat

/-- What is written is read back after the bytes already found. -/
theorem decodeOnto?_encodeOnto
    (found bytes : List UInt8) :
    decodeOnto? found (encodeOnto [] bytes) = some (found.reverse ++ bytes) := by
  match bytes with
  | [] =>
      simp [encodeOnto, decodeOnto?]
  | [a] =>
      have aBound := a.toNat_lt
      have first : UInt8.ofNat (a.toNat / 4 * 4 + a.toNat % 4 * 16 / 16) = a :=
        byte_of_value (by omega)
      have noneLeft : a.toNat % 4 * 16 % 16 = 0 := by omega
      have leading := digitValue?_digitChar (a.toNat / 4) (by omega)
      have trailing := digitValue?_digitChar (a.toNat % 4 * 16) (by omega)
      simp only [encodeOnto, List.reverse_cons, List.reverse_nil, List.nil_append,
        List.cons_append, decodeOnto?, leading, trailing, noneLeft, first, beq_self_eq_true,
        if_true, Option.bind_eq_bind, Option.bind_some]
  | [a, b] =>
      have aBound := a.toNat_lt
      have bBound := b.toNat_lt
      have noPadding := digitChar_ne_padding (b.toNat % 16 * 4) (by omega)
      have first :
          UInt8.ofNat (a.toNat / 4 * 4 + (a.toNat % 4 * 16 + b.toNat / 16) / 16) = a :=
        byte_of_value (by omega)
      have second :
          UInt8.ofNat
            ((a.toNat % 4 * 16 + b.toNat / 16) % 16 * 16 + b.toNat % 16 * 4 / 4) = b :=
        byte_of_value (by omega)
      have noneLeft : b.toNat % 16 * 4 % 4 = 0 := by omega
      have leading := digitValue?_digitChar (a.toNat / 4) (by omega)
      have middle := digitValue?_digitChar (a.toNat % 4 * 16 + b.toNat / 16) (by omega)
      have trailing := digitValue?_digitChar (b.toNat % 16 * 4) (by omega)
      simp only [encodeOnto, List.reverse_cons, List.reverse_nil, List.nil_append,
        List.cons_append]
      rw [decodeOnto?]
      · simp only [leading, middle, trailing, noneLeft, first, second, beq_self_eq_true, if_true,
          Option.bind_eq_bind, Option.bind_some, List.reverse_cons, List.append_assoc,
          List.cons_append, List.nil_append]
      · exact noPadding
  | a :: b :: c :: rest =>
      have aBound := a.toNat_lt
      have bBound := b.toNat_lt
      have cBound := c.toNat_lt
      have first :
          UInt8.ofNat (a.toNat / 4 * 4 + (a.toNat % 4 * 16 + b.toNat / 16) / 16) = a :=
        byte_of_value (by omega)
      have second :
          UInt8.ofNat
            ((a.toNat % 4 * 16 + b.toNat / 16) % 16 * 16 +
              (b.toNat % 16 * 4 + c.toNat / 64) / 4) = b :=
        byte_of_value (by omega)
      have third :
          UInt8.ofNat ((b.toNat % 16 * 4 + c.toNat / 64) % 4 * 64 + c.toNat % 64) = c :=
        byte_of_value (by omega)
      have remaining := decodeOnto?_encodeOnto (c :: b :: a :: found) rest
      rw [encodeOnto, encodeOnto_eq_append]
      simp only [List.reverse_cons, List.reverse_nil, List.nil_append, List.cons_append]
      rw [decodeOnto?_group found (by omega) (by omega) (by omega) (by omega), first, second,
        third, remaining]
      simp

/-- The bytes are read back from their written form. -/
theorem decode?_encode
    (bytes : List UInt8) :
    decode? (encode bytes) = some bytes := by
  simpa [decode?, encode] using decodeOnto?_encodeOnto [] bytes

/-! ## Nothing else is read -/

/-- Only characters of one byte are digits. -/
theorem ascii_of_digitValue?
    {c : Char}
    {digit : Nat}
    (read : digitValue? c = some digit) :
    c.toNat < 128 := by
  by_cases ascii : c.toNat < 128
  · exact ascii
  · have outside : ∀ last : Char, last.toNat < 128 → ¬ c ≤ last := by
      intro last bound below
      have ordered : c.toNat ≤ last.toNat := below
      omega
    have notPlus : c ≠ '+' := fun same => outside '+' (by decide) (same ▸ Std.le_refl _)
    have notSlash : c ≠ '/' := fun same => outside '/' (by decide) (same ▸ Std.le_refl _)
    simp [digitValue?, outside 'Z' (by decide), outside 'z' (by decide), outside '9' (by decide),
      notPlus, notSlash] at read

/-- A character stands for the digit that is written with it. -/
theorem eq_digitChar_of_digitValue?
    {c : Char}
    {digit : Nat}
    (read : digitValue? c = some digit) :
    digit < 64 ∧ c = digitChar digit := by
  have written : ∀ code, code < 128 →
      ((digitValue? (Char.ofNat code)).all fun digit =>
        digit < 64 && Char.ofNat code == digitChar digit) = true := by
    decide
  have known := written c.toNat (ascii_of_digitValue? read)
  rw [Char.ofNat_toNat, read] at known
  simpa using known

section

variable {a b c d : Nat}

/-- The last byte by itself is two digits and two paddings. -/
theorem encodeOnto_one
    (aBound : a < 64)
    (noneLeft : b % 16 = 0)
    (bBound : b < 64) :
    encodeOnto [] [UInt8.ofNat (a * 4 + b / 16)] = [digitChar a, digitChar b, '=', '='] := by
  have value : (UInt8.ofNat (a * 4 + b / 16)).toNat = a * 4 + b / 16 :=
    UInt8.toNat_ofNat_of_lt' (show a * 4 + b / 16 < 256 by omega)
  have first : (a * 4 + b / 16) / 4 = a := by omega
  have second : (a * 4 + b / 16) % 4 * 16 = b := by omega
  simp only [encodeOnto, value, first, second, List.reverse_cons, List.reverse_nil,
    List.nil_append, List.cons_append]

/-- The last two bytes are three digits and one padding. -/
theorem encodeOnto_two
    (aBound : a < 64)
    (bBound : b < 64)
    (cBound : c < 64)
    (noneLeft : c % 4 = 0) :
    encodeOnto [] [UInt8.ofNat (a * 4 + b / 16), UInt8.ofNat (b % 16 * 16 + c / 4)] =
      [digitChar a, digitChar b, digitChar c, '='] := by
  have value : (UInt8.ofNat (a * 4 + b / 16)).toNat = a * 4 + b / 16 :=
    UInt8.toNat_ofNat_of_lt' (show a * 4 + b / 16 < 256 by omega)
  have next : (UInt8.ofNat (b % 16 * 16 + c / 4)).toNat = b % 16 * 16 + c / 4 :=
    UInt8.toNat_ofNat_of_lt' (show b % 16 * 16 + c / 4 < 256 by omega)
  have first : (a * 4 + b / 16) / 4 = a := by omega
  have second : (a * 4 + b / 16) % 4 * 16 + (b % 16 * 16 + c / 4) / 16 = b := by omega
  have third : (b % 16 * 16 + c / 4) % 16 * 4 = c := by omega
  simp only [encodeOnto, value, next, first, second, third, List.reverse_cons, List.reverse_nil,
    List.nil_append, List.cons_append]

/-- Three bytes are four digits, before what the rest is encoded as. -/
theorem encodeOnto_three
    (aBound : a < 64)
    (bBound : b < 64)
    (cBound : c < 64)
    (dBound : d < 64)
    (rest : List UInt8) :
    encodeOnto []
        (UInt8.ofNat (a * 4 + b / 16) :: UInt8.ofNat (b % 16 * 16 + c / 4)
          :: UInt8.ofNat (c % 4 * 64 + d) :: rest) =
      digitChar a :: digitChar b :: digitChar c :: digitChar d :: encodeOnto [] rest := by
  have value : (UInt8.ofNat (a * 4 + b / 16)).toNat = a * 4 + b / 16 :=
    UInt8.toNat_ofNat_of_lt' (show a * 4 + b / 16 < 256 by omega)
  have next : (UInt8.ofNat (b % 16 * 16 + c / 4)).toNat = b % 16 * 16 + c / 4 :=
    UInt8.toNat_ofNat_of_lt' (show b % 16 * 16 + c / 4 < 256 by omega)
  have last : (UInt8.ofNat (c % 4 * 64 + d)).toNat = c % 4 * 64 + d :=
    UInt8.toNat_ofNat_of_lt' (show c % 4 * 64 + d < 256 by omega)
  have first : (a * 4 + b / 16) / 4 = a := by omega
  have second : (a * 4 + b / 16) % 4 * 16 + (b % 16 * 16 + c / 4) / 16 = b := by omega
  have third : (b % 16 * 16 + c / 4) % 16 * 4 + (c % 4 * 64 + d) / 64 = c := by omega
  have fourth : (c % 4 * 64 + d) % 64 = d := by omega
  rw [encodeOnto, encodeOnto_eq_append]
  simp only [value, next, last, first, second, third, fourth, List.reverse_cons,
    List.reverse_nil, List.nil_append, List.cons_append]

end

/-- What is read after the bytes already found is a written form of the bytes that follow. -/
theorem encoded_of_decodeOnto?
    {found bytes : List UInt8}
    {chars : List Char}
    (read : decodeOnto? found chars = some bytes) :
    ∃ later, bytes = found.reverse ++ later ∧ chars = encodeOnto [] later := by
  fun_induction decodeOnto? found chars with
  | case1 found =>
      exact ⟨[], by simpa using read.symm, rfl⟩
  | case2 found first second =>
      obtain ⟨a, isFirst, next⟩ := Option.bind_eq_some_iff.mp read
      obtain ⟨b, isSecond, last⟩ := Option.bind_eq_some_iff.mp next
      obtain ⟨aBound, rfl⟩ := eq_digitChar_of_digitValue? isFirst
      obtain ⟨bBound, rfl⟩ := eq_digitChar_of_digitValue? isSecond
      split at last
      · next noneLeft =>
          refine ⟨[UInt8.ofNat (a * 4 + b / 16)], by simpa using last.symm, ?_⟩
          exact (encodeOnto_one aBound (by simpa using noneLeft) bBound).symm
      · cases last
  | case3 found first second third =>
      obtain ⟨a, isFirst, next⟩ := Option.bind_eq_some_iff.mp read
      obtain ⟨b, isSecond, more⟩ := Option.bind_eq_some_iff.mp next
      obtain ⟨c, isThird, last⟩ := Option.bind_eq_some_iff.mp more
      obtain ⟨aBound, rfl⟩ := eq_digitChar_of_digitValue? isFirst
      obtain ⟨bBound, rfl⟩ := eq_digitChar_of_digitValue? isSecond
      obtain ⟨cBound, rfl⟩ := eq_digitChar_of_digitValue? isThird
      split at last
      · next noneLeft =>
          refine ⟨[UInt8.ofNat (a * 4 + b / 16), UInt8.ofNat (b % 16 * 16 + c / 4)],
            by simpa using last.symm, ?_⟩
          exact (encodeOnto_two aBound bBound cBound (by simpa using noneLeft)).symm
      · cases last
  | case4 found _ _ _ _ rest _ _ a b c d isFourth isThird isSecond isFirst inductionHypothesis =>
      obtain ⟨aBound, rfl⟩ := eq_digitChar_of_digitValue? isFirst
      obtain ⟨bBound, rfl⟩ := eq_digitChar_of_digitValue? isSecond
      obtain ⟨cBound, rfl⟩ := eq_digitChar_of_digitValue? isThird
      obtain ⟨dBound, rfl⟩ := eq_digitChar_of_digitValue? isFourth
      obtain ⟨later, rfl, rfl⟩ := inductionHypothesis read
      refine ⟨UInt8.ofNat (a * 4 + b / 16) :: UInt8.ofNat (b % 16 * 16 + c / 4)
        :: UInt8.ofNat (c % 4 * 64 + d) :: later, by simp, ?_⟩
      exact (encodeOnto_three aBound bBound cBound dBound later).symm
  | case5 | case6 =>
      cases read

/-- A text is read as some bytes if it is their written form. -/
theorem decode?_eq_some_iff
    {text : String}
    {bytes : List UInt8} :
    decode? text = some bytes ↔ text = encode bytes := by
  constructor
  · intro read
    obtain ⟨later, rfl, written⟩ := encoded_of_decodeOnto? read
    rw [← String.ofList_toList (s := text), written]
    rfl
  · rintro rfl
    exact decode?_encode bytes

/-! ## The alphabet -/

/-- A written form holds digits and padding only. -/
theorem digit_of_mem_encodeOnto
    {bytes : List UInt8}
    {c : Char}
    (member : c ∈ encodeOnto [] bytes) :
    c = '=' ∨ ∃ digit, digit < 64 ∧ c = digitChar digit := by
  have digit {value : Nat} (bound : value < 64) (same : c = digitChar value) :
      c = '=' ∨ ∃ digit, digit < 64 ∧ c = digitChar digit :=
    Or.inr ⟨value, bound, same⟩
  match bytes with
  | [] =>
      cases member
  | [a] =>
      have aBound := a.toNat_lt
      simp only [encodeOnto, List.mem_reverse, List.mem_cons, List.not_mem_nil, or_false] at member
      rcases member with padding | padding | second | first
      · exact Or.inl padding
      · exact Or.inl padding
      · exact digit (by omega) second
      · exact digit (by omega) first
  | [a, b] =>
      have aBound := a.toNat_lt
      have bBound := b.toNat_lt
      simp only [encodeOnto, List.mem_reverse, List.mem_cons, List.not_mem_nil, or_false] at member
      rcases member with padding | third | second | first
      · exact Or.inl padding
      · exact digit (by omega) third
      · exact digit (by omega) second
      · exact digit (by omega) first
  | a :: b :: d :: rest =>
      have aBound := a.toNat_lt
      have bBound := b.toNat_lt
      have dBound := d.toNat_lt
      rw [encodeOnto, encodeOnto_eq_append] at member
      rcases List.mem_append.mp member with here | later
      · simp only [List.mem_reverse, List.mem_cons, List.not_mem_nil, or_false] at here
        rcases here with fourth | third | second | first
        · exact digit (by omega) fourth
        · exact digit (by omega) third
        · exact digit (by omega) second
        · exact digit (by omega) first
      · exact digit_of_mem_encodeOnto later

/-- The written form of some bytes begins with a digit. -/
theorem encodeOnto_eq_cons
    {bytes : List UInt8}
    (nonempty : bytes ≠ []) :
    ∃ digit rest, digit < 64 ∧ encodeOnto [] bytes = digitChar digit :: rest := by
  match bytes with
  | [] =>
      exact absurd rfl nonempty
  | [a] =>
      have aBound := a.toNat_lt
      exact ⟨a.toNat / 4, [digitChar (a.toNat % 4 * 16), '=', '='], by omega, rfl⟩
  | [a, b] =>
      have aBound := a.toNat_lt
      exact ⟨a.toNat / 4,
        [digitChar (a.toNat % 4 * 16 + b.toNat / 16), digitChar (b.toNat % 16 * 4), '='],
        by omega, rfl⟩
  | a :: b :: c :: rest =>
      have aBound := a.toNat_lt
      rw [encodeOnto, encodeOnto_eq_append]
      exact ⟨a.toNat / 4, _, by omega, rfl⟩

/-- Nothing that is encoded has blanks in it. -/
theorem isBlank_of_mem_encode
    {bytes : List UInt8}
    {c : Char}
    (member : c ∈ (encode bytes).toList) :
    isBlank c = false := by
  rw [encode, String.toList_ofList] at member
  rcases digit_of_mem_encodeOnto member with rfl | ⟨digit, bound, rfl⟩
  · decide
  · exact isBlank_digitChar digit bound

/-! ## Trimming -/

/-- Only the blanks before the first other character are dropped. -/
theorem dropWhile_isBlank_append
    {before chars : List Char}
    (blank : ∀ c ∈ before, isBlank c = true)
    (shown : ∀ c ∈ chars, isBlank c = false)
    (rest : List Char)
    (nonempty : chars ≠ []) :
    (before ++ chars ++ rest).dropWhile isBlank = chars ++ rest := by
  rw [List.append_assoc, List.dropWhile_append_of_pos blank]
  cases chars with
  | nil =>
      exact absurd rfl nonempty
  | cons first others =>
      simp [shown first (by simp)]

/-- Trimming takes away the blanks around characters none of which is blank. -/
theorem trimChars_append
    {before chars after : List Char}
    (blankBefore : ∀ c ∈ before, isBlank c = true)
    (shown : ∀ c ∈ chars, isBlank c = false)
    (blankAfter : ∀ c ∈ after, isBlank c = true) :
    trimChars (before ++ chars ++ after) = chars := by
  unfold trimChars
  by_cases nonempty : chars = []
  · have blank : ∀ c ∈ before ++ after, isBlank c = true := by
      intro c member
      exact (List.mem_append.mp member).elim (blankBefore c) (blankAfter c)
    have dropped : (before ++ after ++ []).dropWhile isBlank = [].dropWhile isBlank :=
      List.dropWhile_append_of_pos blank
    simp only [List.append_nil, List.dropWhile_nil] at dropped
    simp [nonempty, dropped]
  · have blankReversed : ∀ c ∈ after.reverse, isBlank c = true :=
      fun c member => blankAfter c (List.mem_reverse.mp member)
    have shownReversed : ∀ c ∈ chars.reverse, isBlank c = false :=
      fun c member => shown c (List.mem_reverse.mp member)
    have dropped := dropWhile_isBlank_append blankReversed shownReversed [] (by simpa using nonempty)
    simp only [List.append_nil] at dropped
    rw [dropWhile_isBlank_append blankBefore shown after nonempty, List.reverse_append, dropped,
      List.reverse_reverse]

/-- Nothing is trimmed off what is encoded. -/
theorem trim_encode
    (bytes : List UInt8) :
    trim (encode bytes) = encode bytes := by
  have noBlank : ∀ c ∈ ([] : List Char), isBlank c = true := by simp
  have shown : ∀ c ∈ (encode bytes).toList, isBlank c = false :=
    fun c member => isBlank_of_mem_encode member
  have trimmed := trimChars_append noBlank shown noBlank
  simp only [List.nil_append, List.append_nil] at trimmed
  rw [trim, trimmed, String.ofList_toList]

end GraphBroker.Text.Base64
