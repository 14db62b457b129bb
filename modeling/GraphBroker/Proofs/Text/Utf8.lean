import GraphBroker.Text.Utf8

namespace GraphBroker.Text.Utf8

/-!
# UTF-8 reads back

The bytes of a character are read as that character, wherever they stand, so that
the bytes of a text are read as its characters without a hole.
-/

variable {found : List (Option Char)}

/-! ## First bytes -/

/-- A byte below 128 is a character. -/
theorem step_one
    {value : Nat}
    (bound : value < 128) :
    Reading.step ⟨found, none⟩ (UInt8.ofNat value) = ⟨some (Char.ofNat value) :: found, none⟩ := by
  have first : ∀ value, value < 128 → UInt8.ofNat value < 0x80 := by decide
  have small : value < 256 := by omega
  simp only [Reading.step, Reading.start, first value bound, if_true, UInt8.toNat_ofNat_of_lt' small]

/-- The first byte of two waits for one more. -/
theorem step_two
    {value : Nat}
    (least : 2 ≤ value)
    (bound : value < 32) :
    Reading.step ⟨found, none⟩ (UInt8.ofNat (value + 192)) = ⟨found, some ⟨value, 1, 0x80, 0xBF⟩⟩ := by
  have first : ∀ value, value < 32 → 2 ≤ value →
      ¬ UInt8.ofNat (value + 192) < 0x80 ∧ ¬ UInt8.ofNat (value + 192) < 0xC2 ∧
        UInt8.ofNat (value + 192) < 0xE0 := by
    decide
  obtain ⟨notOne, noHole, two⟩ := first value bound least
  have small : value + 192 < 256 := by omega
  simp only [Reading.step, Reading.start, notOne, noHole, two, if_true, if_false,
    UInt8.toNat_ofNat_of_lt' small, Nat.add_sub_cancel]

/-- The first byte of three waits for two more, of which the next is limited. -/
theorem step_three
    {value : Nat}
    (bound : value < 16) :
    Reading.step ⟨found, none⟩ (UInt8.ofNat (value + 224)) =
      ⟨found,
        some ⟨value, 2, if value = 0 then 0xA0 else 0x80, if value = 13 then 0x9F else 0xBF⟩⟩ := by
  have first : ∀ value, value < 16 →
      ¬ UInt8.ofNat (value + 224) < 0x80 ∧ ¬ UInt8.ofNat (value + 224) < 0xC2 ∧
        ¬ UInt8.ofNat (value + 224) < 0xE0 ∧ UInt8.ofNat (value + 224) < 0xF0 ∧
        (UInt8.ofNat (value + 224) == 0xE0) = decide (value = 0) ∧
        (UInt8.ofNat (value + 224) == 0xED) = decide (value = 13) := by
    decide
  obtain ⟨notOne, noHole, notTwo, three, least, surrogate⟩ := first value bound
  have small : value + 224 < 256 := by omega
  simp only [Reading.step, Reading.start, notOne, noHole, notTwo, three, least, surrogate, if_true, if_false,
    UInt8.toNat_ofNat_of_lt' small, Nat.add_sub_cancel, decide_eq_true_eq]

/-- The first byte of four waits for three more, of which the next is limited. -/
theorem step_four
    {value : Nat}
    (bound : value < 5) :
    Reading.step ⟨found, none⟩ (UInt8.ofNat (value + 240)) =
      ⟨found,
        some ⟨value, 3, if value = 0 then 0x90 else 0x80, if value = 4 then 0x8F else 0xBF⟩⟩ := by
  have first : ∀ value, value < 5 →
      ¬ UInt8.ofNat (value + 240) < 0x80 ∧ ¬ UInt8.ofNat (value + 240) < 0xC2 ∧
        ¬ UInt8.ofNat (value + 240) < 0xE0 ∧ ¬ UInt8.ofNat (value + 240) < 0xF0 ∧
        UInt8.ofNat (value + 240) < 0xF5 ∧
        (UInt8.ofNat (value + 240) == 0xF0) = decide (value = 0) ∧
        (UInt8.ofNat (value + 240) == 0xF4) = decide (value = 4) := by
    decide
  obtain ⟨notOne, noHole, notTwo, notThree, four, least, greatest⟩ := first value bound
  have small : value + 240 < 256 := by omega
  simp only [Reading.step, Reading.start, notOne, noHole, notTwo, notThree, four, least, greatest, if_true,
    if_false, UInt8.toNat_ofNat_of_lt' small, Nat.add_sub_cancel, decide_eq_true_eq]

/-! ## Further bytes -/

/-- A byte that may follow goes on with the character begun. -/
theorem step_of_continuation
    {code owed value : Nat}
    {low high : UInt8}
    (atLeast : low.toNat ≤ value + 128)
    (atMost : value + 128 ≤ high.toNat) :
    Reading.step ⟨found, some ⟨code, owed, low, high⟩⟩ (UInt8.ofNat (value + 128)) =
      if owed ≤ 1 then ⟨some (Char.ofNat (code * 64 + value)) :: found, none⟩
      else ⟨found, some ⟨code * 64 + value, owed - 1, 0x80, 0xBF⟩⟩ := by
  have small : value + 128 < 256 := by
    have highest := high.toNat_lt
    omega
  have byte : (UInt8.ofNat (value + 128)).toNat = value + 128 := UInt8.toNat_ofNat_of_lt' small
  have follows : low ≤ UInt8.ofNat (value + 128) ∧ UInt8.ofNat (value + 128) ≤ high := by
    rw [UInt8.le_iff_toNat_le, UInt8.le_iff_toNat_le, byte]
    exact ⟨atLeast, atMost⟩
  simp only [Reading.step, follows, decide_true, Bool.and_self, if_true, byte,
    Nat.add_sub_cancel]

/-- The bytes of a character are read as that character. -/
theorem foldl_utf8EncodeChar
    (c : Char) :
    (String.utf8EncodeChar c).foldl Reading.step ⟨found, none⟩ = ⟨some c :: found, none⟩ := by
  have bounds : c.toNat < 0xD800 ∨ (0xDFFF < c.toNat ∧ c.toNat < 0x110000) := c.valid
  have same : Char.ofNat c.toNat = c := Char.ofNat_toNat c
  unfold String.utf8EncodeChar
  rw [show c.val.toNat = c.toNat from rfl]
  generalize c.toNat = v at bounds same ⊢
  simp only
  split
  · next one =>
      simp only [List.foldl_cons, List.foldl_nil]
      rw [step_one (by omega), same]
  split
  · next notOne two =>
      have value : v / 64 % 32 * 64 + v % 64 = v := by omega
      simp only [List.foldl_cons, List.foldl_nil]
      rw [step_two (by omega) (by omega), step_of_continuation (by simp) (by simp; omega),
        if_pos (by omega), value, same]
  split
  · next notOne notTwo three =>
      have value : (v / 4096 % 16 * 64 + v / 64 % 64) * 64 + v % 64 = v := by omega
      have low : (if v / 4096 % 16 = 0 then 0xA0 else 0x80 : UInt8).toNat ≤ v / 64 % 64 + 128 := by
        split
        · show 160 ≤ _
          omega
        · show 128 ≤ _
          omega
      have high : v / 64 % 64 + 128 ≤ (if v / 4096 % 16 = 13 then 0x9F else 0xBF : UInt8).toNat := by
        split
        · show _ ≤ 159
          omega
        · show _ ≤ 191
          omega
      simp only [List.foldl_cons, List.foldl_nil]
      rw [step_three (by omega), step_of_continuation low high, if_neg (by omega),
        step_of_continuation (by simp) (by simp; omega), if_pos (by omega), value, same]
  · next notOne notTwo notThree =>
      have value :
          ((v / 262144 % 8 * 64 + v / 4096 % 64) * 64 + v / 64 % 64) * 64 + v % 64 = v := by
        omega
      have low : (if v / 262144 % 8 = 0 then 0x90 else 0x80 : UInt8).toNat ≤ v / 4096 % 64 + 128 := by
        split
        · show 144 ≤ _
          omega
        · show 128 ≤ _
          omega
      have high : v / 4096 % 64 + 128 ≤ (if v / 262144 % 8 = 4 then 0x8F else 0xBF : UInt8).toNat := by
        split
        · show _ ≤ 143
          omega
        · show _ ≤ 191
          omega
      simp only [List.foldl_cons, List.foldl_nil]
      rw [step_four (by omega), step_of_continuation low high, if_neg (by omega),
        step_of_continuation (by simp) (by simp; omega), if_neg (by omega),
        step_of_continuation (by simp) (by simp; omega), if_pos (by omega), value, same]

/-! ## Texts -/

/-- Reading the bytes of characters finds the characters, one by one. -/
theorem foldl_encodeChars
    (chars : List Char) :
    (encodeChars chars).foldl Reading.step ⟨found, none⟩ =
      ⟨(chars.map some).reverse ++ found, none⟩ := by
  induction chars generalizing found with
  | nil =>
      rfl
  | cons c rest inductionHypothesis =>
      have later : (encodeChars rest).foldl Reading.step ⟨some c :: found, none⟩ =
          ⟨(rest.map some).reverse ++ some c :: found, none⟩ :=
        inductionHypothesis
      simp only [encodeChars, List.flatMap_cons, List.foldl_append]
      rw [foldl_utf8EncodeChar]
      simpa [encodeChars] using later

/-- The bytes of some characters are read as these characters. -/
theorem units_encodeChars
    (chars : List Char) :
    units (encodeChars chars) = chars.map some := by
  simp [units, foldl_encodeChars, Reading.finish]

/-- Units without a hole are a text. -/
theorem mapM_id_map_some
    (chars : List Char) :
    (chars.map some).mapM id = some chars := by
  induction chars with
  | nil =>
      rfl
  | cons c rest inductionHypothesis =>
      rw [List.map_cons, List.mapM_cons, inductionHypothesis]
      rfl

/-- The text is read back from its bytes. -/
theorem decode?_encode
    (text : String) :
    decode? (encode text) = some text := by
  rw [decode?, encode, units_encodeChars, mapM_id_map_some, Option.map_some,
    String.ofList_toList]

/-- A text that is written is read back, also by the reader that replaces what is no text. -/
theorem decodeLossy_encode
    (text : String) :
    decodeLossy (encode text) = text := by
  rw [decodeLossy, encode, units_encodeChars, List.map_map]
  exact (congrArg String.ofList (List.map_id _)).trans String.ofList_toList

/-! ## Nothing else is read without a hole -/

/-- The reading goes on to the end of some bytes without a hole. -/
def Seamless (reading : Reading) (bytes : List UInt8) : Prop :=
  none ∉ (bytes.foldl Reading.step reading).finish

/-- What has been found stays found. -/
theorem found_start
    {unit : Option Char}
    (present : unit ∈ found)
    (byte : UInt8) :
    unit ∈ (Reading.start found byte).found := by
  unfold Reading.start
  simp only
  repeat' split
  all_goals simp [present]

/-- What was found stays found when a byte is read. -/
theorem found_step
    {reading : Reading}
    {unit : Option Char}
    (present : unit ∈ reading.found)
    (byte : UInt8) :
    unit ∈ (Reading.step reading byte).found := by
  unfold Reading.step
  split
  · exact found_start present byte
  · split
    · dsimp only
      split
      · simp [present]
      · exact present
    · exact found_start (by simp [present]) byte

/-- What was found stays found to the end. -/
theorem found_finish
    {reading : Reading}
    {unit : Option Char}
    (present : unit ∈ reading.found)
    (bytes : List UInt8) :
    unit ∈ (bytes.foldl Reading.step reading).finish := by
  induction bytes generalizing reading with
  | nil =>
      unfold Reading.finish
      simp only [List.foldl_nil]
      split <;> simp [present]
  | cons byte rest inductionHypothesis =>
      exact inductionHypothesis (found_step present byte)

namespace Seamless

variable {code owed : Nat} {low high : UInt8} {bytes : List UInt8}

/-- A character begun goes on with a byte that may follow. -/
theorem continued
    (seamless : Seamless ⟨found, some ⟨code, owed, low, high⟩⟩ bytes)
    (above : 128 ≤ low.toNat) :
    ∃ value rest, bytes = UInt8.ofNat (value + 128) :: rest ∧
      low.toNat ≤ value + 128 ∧ value + 128 ≤ high.toNat ∧
      Seamless
        (if owed ≤ 1 then ⟨some (Char.ofNat (code * 64 + value)) :: found, none⟩
          else ⟨found, some ⟨code * 64 + value, owed - 1, 0x80, 0xBF⟩⟩)
        rest := by
  cases bytes with
  | nil =>
      exact absurd (by simp [Reading.finish]) seamless
  | cons byte rest =>
      by_cases follows : low.toNat ≤ byte.toNat ∧ byte.toNat ≤ high.toNat
      · have value : byte.toNat - 128 + 128 = byte.toNat := by omega
        have same : UInt8.ofNat (byte.toNat - 128 + 128) = byte := by
          rw [value, UInt8.ofNat_toNat]
        rw [← value] at follows
        refine ⟨byte.toNat - 128, rest, by rw [same], follows.1, follows.2, ?_⟩
        rw [← step_of_continuation follows.1 follows.2, same]
        exact seamless
      · have stops : ¬ (low ≤ byte ∧ byte ≤ high) := by
          rwa [UInt8.le_iff_toNat_le, UInt8.le_iff_toNat_le]
        have hole : none ∈ (Reading.step ⟨found, some ⟨code, owed, low, high⟩⟩ byte).found := by
          simp only [Reading.step, Bool.and_eq_true, decide_eq_true_eq, stops, if_false]
          exact found_start (by simp) byte
        exact absurd (found_finish hole rest) seamless

/-- A byte that begins no character is a hole. -/
theorem first
    {byte : UInt8}
    (seamless : Seamless ⟨found, none⟩ (byte :: bytes)) :
    byte.toNat < 128 ∨ (194 ≤ byte.toNat ∧ byte.toNat < 245) := by
  by_cases inside : byte.toNat < 128 ∨ (194 ≤ byte.toNat ∧ byte.toNat < 245)
  · exact inside
  · have hole : none ∈ (Reading.step ⟨found, none⟩ byte).found := by
      simp only [Reading.step, Reading.start, UInt8.lt_iff_toNat_lt, UInt8.reduceToNat]
      by_cases below : byte.toNat < 194
      · rw [if_neg (by omega), if_pos below]
        simp
      · rw [if_neg (by omega), if_neg below, if_neg (by omega), if_neg (by omega),
          if_neg (by omega)]
        simp
    exact absurd (found_finish hole bytes) seamless

end Seamless

/-! ## The bytes of a character by its number -/

section

variable {value : Nat}

/-- A valid code is the code of its character. -/
theorem toNat_ofNat_of_isValidChar
    (valid : value.isValidChar) :
    (Char.ofNat value).val.toNat = value := by
  rw [Char.ofNat, dif_pos valid]
  rfl

/-- The one byte of a code below 128. -/
theorem utf8EncodeChar_one
    (most : value < 128) :
    String.utf8EncodeChar (Char.ofNat value) = [UInt8.ofNat value] := by
  have valid : value.isValidChar := Or.inl (by omega)
  simp only [String.utf8EncodeChar, toNat_ofNat_of_isValidChar valid]
  rw [if_pos (by omega)]

/-- The two bytes of a code below 2048. -/
theorem utf8EncodeChar_two
    (least : 128 ≤ value)
    (most : value < 2048) :
    String.utf8EncodeChar (Char.ofNat value) =
      [UInt8.ofNat (value / 64 + 192), UInt8.ofNat (value % 64 + 128)] := by
  have valid : value.isValidChar := Or.inl (by omega)
  have lead : value / 64 % 32 = value / 64 := by omega
  simp only [String.utf8EncodeChar, toNat_ofNat_of_isValidChar valid]
  rw [if_neg (by omega), if_pos (by omega), lead]

/-- The three bytes of a code below 65536. -/
theorem utf8EncodeChar_three
    (least : 2048 ≤ value)
    (most : value < 65536)
    (valid : value.isValidChar) :
    String.utf8EncodeChar (Char.ofNat value) =
      [UInt8.ofNat (value / 4096 + 224), UInt8.ofNat (value / 64 % 64 + 128),
       UInt8.ofNat (value % 64 + 128)] := by
  have lead : value / 4096 % 16 = value / 4096 := by omega
  simp only [String.utf8EncodeChar, toNat_ofNat_of_isValidChar valid]
  rw [if_neg (by omega), if_neg (by omega), if_pos (by omega), lead]

/-- The four bytes of a code beyond. -/
theorem utf8EncodeChar_four
    (least : 65536 ≤ value)
    (most : value < 1114112) :
    String.utf8EncodeChar (Char.ofNat value) =
      [UInt8.ofNat (value / 262144 + 240), UInt8.ofNat (value / 4096 % 64 + 128),
       UInt8.ofNat (value / 64 % 64 + 128), UInt8.ofNat (value % 64 + 128)] := by
  have valid : value.isValidChar := Or.inr (by omega)
  have lead : value / 262144 % 8 = value / 262144 := by omega
  simp only [String.utf8EncodeChar, toNat_ofNat_of_isValidChar valid]
  rw [if_neg (by omega), if_neg (by omega), if_neg (by omega), lead]

end

/-! ## Without a hole, bytes are those of characters -/

namespace Seamless

variable {bytes : List UInt8}

/-- Bytes read without a hole after the first byte of two continue one character. -/
theorem two
    {value : Nat}
    (least : 2 ≤ value)
    (most : value < 32)
    (seamless : Seamless ⟨found, some ⟨value, 1, 0x80, 0xBF⟩⟩ bytes) :
    ∃ c rest later, UInt8.ofNat (value + 192) :: bytes = String.utf8EncodeChar c ++ rest ∧
      Seamless ⟨later, none⟩ rest := by
  obtain ⟨second, rest, rfl, _, atMost, later⟩ := seamless.continued (by decide)
  have bound : second ≤ 63 := by simpa using atMost
  have lead : (value * 64 + second) / 64 = value := by omega
  have last : (value * 64 + second) % 64 = second := by omega
  refine ⟨Char.ofNat (value * 64 + second), rest, _, ?_, later⟩
  rw [utf8EncodeChar_two (by omega) (by omega), lead, last]
  rfl

/-- Bytes read without a hole after the first byte of three continue one character. -/
theorem three
    {value : Nat}
    (most : value < 16)
    (seamless :
      Seamless
        ⟨found,
          some ⟨value, 2, if value = 0 then 0xA0 else 0x80, if value = 13 then 0x9F else 0xBF⟩⟩
        bytes) :
    ∃ c rest later, UInt8.ofNat (value + 224) :: bytes = String.utf8EncodeChar c ++ rest ∧
      Seamless ⟨later, none⟩ rest := by
  obtain ⟨second, _, rfl, low, high, goes⟩ := seamless.continued (by split <;> decide)
  obtain ⟨third, rest, rfl, _, atMost, later⟩ := goes.continued (by decide)
  have bound : third ≤ 63 := by simpa using atMost
  -- The bounds on the second byte keep out what two bytes suffice for, and the surrogates.
  have second_bound : second < 64 ∧ (value = 0 → 32 ≤ second) ∧ (value = 13 → second < 32) := by
    refine ⟨?_, ?_, ?_⟩
    · split at high
      · have : second + 128 ≤ 159 := high
        omega
      · have : second + 128 ≤ 191 := high
        omega
    · intro least
      rw [if_pos least] at low
      have : 160 ≤ second + 128 := low
      omega
    · intro surrogate
      rw [if_pos surrogate] at high
      have : second + 128 ≤ 159 := high
      omega
  obtain ⟨secondBound, notTwo, notSurrogate⟩ := second_bound
  have valid : ((value * 64 + second) * 64 + third).isValidChar := by
    unfold Nat.isValidChar
    omega
  have lead : ((value * 64 + second) * 64 + third) / 4096 = value := by omega
  have middle : ((value * 64 + second) * 64 + third) / 64 % 64 = second := by omega
  have last : ((value * 64 + second) * 64 + third) % 64 = third := by omega
  refine ⟨Char.ofNat ((value * 64 + second) * 64 + third), rest, _, ?_, later⟩
  rw [utf8EncodeChar_three (by omega) (by omega) valid, lead, middle, last]
  rfl

/-- Bytes read without a hole after the first byte of four continue one character. -/
theorem four
    {value : Nat}
    (most : value < 5)
    (seamless :
      Seamless
        ⟨found,
          some ⟨value, 3, if value = 0 then 0x90 else 0x80, if value = 4 then 0x8F else 0xBF⟩⟩
        bytes) :
    ∃ c rest later, UInt8.ofNat (value + 240) :: bytes = String.utf8EncodeChar c ++ rest ∧
      Seamless ⟨later, none⟩ rest := by
  obtain ⟨second, _, rfl, low, high, goes⟩ := seamless.continued (by split <;> decide)
  obtain ⟨third, _, rfl, _, thirdMost, more⟩ := goes.continued (by decide)
  obtain ⟨fourth, rest, rfl, _, fourthMost, later⟩ := more.continued (by decide)
  have thirdBound : third ≤ 63 := by simpa using thirdMost
  have fourthBound : fourth ≤ 63 := by simpa using fourthMost
  -- The bounds on the second byte keep out what three bytes suffice for, and what is too great.
  have second_bound : second < 64 ∧ (value = 0 → 16 ≤ second) ∧ (value = 4 → second < 16) := by
    refine ⟨?_, ?_, ?_⟩
    · split at high
      · have : second + 128 ≤ 143 := high
        omega
      · have : second + 128 ≤ 191 := high
        omega
    · intro least
      rw [if_pos least] at low
      have : 144 ≤ second + 128 := low
      omega
    · intro greatest
      rw [if_pos greatest] at high
      have : second + 128 ≤ 143 := high
      omega
  obtain ⟨secondBound, notThree, notGreater⟩ := second_bound
  have lead : (((value * 64 + second) * 64 + third) * 64 + fourth) / 262144 = value := by omega
  have next : (((value * 64 + second) * 64 + third) * 64 + fourth) / 4096 % 64 = second := by omega
  have middle : (((value * 64 + second) * 64 + third) * 64 + fourth) / 64 % 64 = third := by omega
  have last : (((value * 64 + second) * 64 + third) * 64 + fourth) % 64 = fourth := by omega
  refine ⟨Char.ofNat (((value * 64 + second) * 64 + third) * 64 + fourth), rest, _, ?_, later⟩
  rw [utf8EncodeChar_four (by omega) (by omega), lead, next, middle, last]
  rfl

/-- A reading without a hole begins with the bytes of a character. -/
theorem char
    {byte : UInt8}
    (seamless : Seamless ⟨found, none⟩ (byte :: bytes)) :
    ∃ c rest later, byte :: bytes = String.utf8EncodeChar c ++ rest ∧
      Seamless ⟨later, none⟩ rest := by
  have goes : Seamless (Reading.step ⟨found, none⟩ byte) bytes := seamless
  rcases seamless.first with one | ⟨begins, ends⟩
  · rw [← UInt8.ofNat_toNat (x := byte), step_one one] at goes
    refine ⟨Char.ofNat byte.toNat, bytes, _, ?_, goes⟩
    rw [utf8EncodeChar_one one, UInt8.ofNat_toNat]
    rfl
  · have same (base : Nat) (atLeast : base ≤ byte.toNat) :
        byte = UInt8.ofNat (byte.toNat - base + base) := by
      rw [Nat.sub_add_cancel atLeast, UInt8.ofNat_toNat]
    by_cases isTwo : byte.toNat < 224
    · rw [same 192 (by omega)] at goes ⊢
      rw [step_two (by omega) (by omega)] at goes
      exact goes.two (by omega) (by omega)
    · by_cases isThree : byte.toNat < 240
      · rw [same 224 (by omega)] at goes ⊢
        rw [step_three (by omega)] at goes
        exact goes.three (by omega)
      · rw [same 240 (by omega)] at goes ⊢
        rw [step_four (by omega)] at goes
        exact goes.four (by omega)

/-- What is read without a hole are the bytes of some characters. -/
theorem encoded
    {found : List (Option Char)}
    {bytes : List UInt8}
    (seamless : Seamless ⟨found, none⟩ bytes) :
    ∃ chars, bytes = encodeChars chars := by
  match bytes with
  | [] =>
      exact ⟨[], rfl⟩
  | byte :: others =>
      obtain ⟨c, rest, later, split, goes⟩ := seamless.char
      have shorter : rest.length < (byte :: others).length := by
        have nonempty : (String.utf8EncodeChar c).length ≠ 0 := by
          simp [String.length_utf8EncodeChar, Char.utf8Size_pos, Nat.ne_of_gt]
        have lengths := congrArg List.length split
        rw [List.length_append] at lengths
        omega
      obtain ⟨chars, same⟩ := goes.encoded
      exact ⟨c :: chars, by rw [split, same]; rfl⟩
termination_by bytes.length
decreasing_by exact shorter

end Seamless

/-- Units with a hole are no text. -/
theorem mapM_id_of_hole
    {units : List (Option Char)}
    (hole : none ∈ units) :
    units.mapM id = none := by
  induction units with
  | nil =>
      cases hole
  | cons unit rest inductionHypothesis =>
      rw [List.mapM_cons]
      cases unit with
      | none =>
          rfl
      | some c =>
          have later : none ∈ rest := by simpa using hole
          rw [inductionHypothesis later]
          rfl

/-- Bytes are read as a text if they are the bytes of that text. -/
theorem decode?_eq_some_iff
    {bytes : List UInt8}
    {text : String} :
    decode? bytes = some text ↔ bytes = encode text := by
  constructor
  · intro read
    have seamless : Seamless ⟨[], none⟩ bytes := by
      intro hole
      rw [decode?, units, mapM_id_of_hole hole] at read
      cases read
    obtain ⟨chars, rfl⟩ := seamless.encoded
    have same := read.symm.trans (by simpa [encode] using decode?_encode (String.ofList chars))
    rw [Option.some.inj same, encode, String.toList_ofList]
  · rintro rfl
    exact decode?_encode text

/-- The number of bytes of a text. -/
theorem length_encode
    (text : String) :
    (encode text).length = text.utf8ByteSize := by
  rw [← String.size_toByteArray, ← String.utf8Encode_toList]
  simp [List.utf8Encode, encode, encodeChars]

/-- The bytes of a text that is put together are those of its parts. -/
theorem encode_append
    (first second : String) :
    encode (first ++ second) = encode first ++ encode second := by
  simp [encode, encodeChars]

/-! ## The bytes below 128 -/

/-- A byte below 128 stands for one character alone. -/
theorem eq_of_mem_utf8EncodeChar
    {c : Char}
    {byte : UInt8}
    (member : byte ∈ String.utf8EncodeChar c)
    (small : byte.toNat < 128) :
    c = Char.ofNat byte.toNat := by
  have large (number : Nat) (atLeast : 128 ≤ number) (most : number < 256) :
      byte ≠ UInt8.ofNat number := by
    rintro rfl
    rw [UInt8.toNat_ofNat_of_lt' most] at small
    omega
  rw [← Char.ofNat_toNat c] at member
  have valid := c.valid
  by_cases one : c.toNat < 128
  · rw [utf8EncodeChar_one one, List.mem_singleton] at member
    rw [member, UInt8.toNat_ofNat_of_lt' (by exact Nat.lt_trans one (by decide)), Char.ofNat_toNat]
  · exfalso
    by_cases two : c.toNat < 2048
    · rw [utf8EncodeChar_two (by omega) two] at member
      simp only [List.mem_cons, List.not_mem_nil, or_false] at member
      rcases member with same | same <;> exact large _ (by omega) (by omega) same
    · by_cases three : c.toNat < 65536
      · rw [utf8EncodeChar_three (by omega) three valid] at member
        simp only [List.mem_cons, List.not_mem_nil, or_false] at member
        rcases member with same | same | same <;> exact large _ (by omega) (by omega) same
      · have most : c.toNat < 1114112 := by
          rcases valid with low | ⟨-, high⟩
          · exact Nat.lt_trans low (by decide)
          · exact high
        rw [utf8EncodeChar_four (by omega) most] at member
        simp only [List.mem_cons, List.not_mem_nil, or_false] at member
        rcases member with same | same | same | same <;> exact large _ (by omega) (by omega) same

/-- A byte below 128 in a text is one of its characters. -/
theorem mem_of_mem_encode
    {text : String}
    {byte : UInt8}
    (member : byte ∈ encode text)
    (small : byte.toNat < 128) :
    Char.ofNat byte.toNat ∈ text.toList := by
  obtain ⟨c, inText, inChar⟩ := List.mem_flatMap.mp member
  exact eq_of_mem_utf8EncodeChar inChar small ▸ inText

end GraphBroker.Text.Utf8
