import GraphBroker.Json.Printer
import GraphBroker.Json.Token

namespace GraphBroker.Json

/-!
# The tokens of written documents

A document is written one character after the other, and its characters are read
one after the other.  While it is being written, what has been read is always
either a sequence of whole tokens or such a sequence and a number at its end that
might go on, which the next comma or bracket shows to be complete.
-/

/-- What has been read once some characters have been read. -/
def Scan.through (scan : Scan) (chars : List Char) : Scan :=
  chars.foldl (fun scan c => scan.step (some c)) scan

namespace Scan

@[simp]
theorem through_nil
    (scan : Scan) :
    scan.through [] = scan :=
  rfl

@[simp]
theorem through_cons
    (scan : Scan)
    (c : Char)
    (rest : List Char) :
    scan.through (c :: rest) = (scan.step (some c)).through rest :=
  rfl

@[simp]
theorem through_append
    (scan : Scan)
    (first second : List Char) :
    scan.through (first ++ second) = (scan.through first).through second :=
  List.foldl_append

end Scan

/-- What has been read of characters that come newest first. -/
def scanOf (written : List Char) : Scan :=
  written.foldr (fun c scan => scan.step (some c)) Scan.start

@[simp]
theorem scanOf_cons
    (c : Char)
    (written : List Char) :
    scanOf (c :: written) = (scanOf written).step (some c) :=
  rfl

/-- Characters written onto others are scanned after them. -/
theorem scanOf_reverseAux
    (chars written : List Char) :
    scanOf (chars.reverseAux written) = (scanOf written).through chars := by
  induction chars generalizing written with
  | nil =>
      rfl
  | cons c rest inductionHypothesis =>
      exact inductionHypothesis (c :: written)

/--
Whole tokens have been read, newest first.  The last may be a number that is still
being read.
-/
inductive Rests : List Token → Scan → Prop where
  | closed (tokens : List Token) :
      Rests tokens ⟨tokens, .none⟩
  | numeral {tokens : List Token} {numeral : Numeral}
      (whole : numeral.phase = .zero ∨ numeral.phase = .whole) :
      Rests (.number numeral.value? :: tokens) ⟨tokens, .numeral numeral⟩

namespace Rests

variable {tokens : List Token} {scan : Scan}

/-- A scan at rest ends with the tokens that it has found. -/
theorem finish
    (rests : Rests tokens scan) :
    scan.finish = tokens.reverse := by
  cases rests with
  | closed =>
      rfl
  | numeral whole =>
      rcases whole with zero | whole
      · simp [Scan.finish, Numeral.complete, zero]
      · simp [Scan.finish, Numeral.complete, whole]

/-- A comma or a closing bracket ends a number and is a token by itself. -/
theorem step
    (rests : Rests tokens scan)
    {c : Char}
    (delimits : c = ',' ∨ c = ']' ∨ c = '\x7d') :
    scan.step (some c) = Scan.begin ⟨tokens, .none⟩ c := by
  cases rests with
  | closed =>
      rfl
  | @numeral others numeral whole =>
      have noDigit : Numeral.digit? c = none := by
        rcases delimits with rfl | rfl | rfl <;> decide
      have ends : numeral.afterWhole c = .ends := by
        rcases delimits with rfl | rfl | rfl <;> rfl
      have moved : numeral.move c = .ends := by
        rcases whole with zero | whole
        · simp only [Numeral.move, zero, noDigit, ends]
        · simp only [Numeral.move, whole, noDigit, ends]
      simp only [Scan.step, moved, Scan.emit]

end Rests

/-! ## Numbers -/

/-- The character of a digit is read as the digit. -/
theorem digit?_digitChar :
    ∀ digit, digit < 10 → Numeral.digit? (Nat.digitChar digit) = some digit := by
  decide

/-- Digits that stay within a bound so far go on to do so, or the last is left over. -/
theorem absorb_append
    {bound start value : Nat}
    {digits : List Nat}
    (read : Numeral.absorb bound start digits = (value, 0))
    (digit : Nat)
    (within : value * 10 + digit ≤ bound) :
    Numeral.absorb bound start (digits ++ [digit]) = (value * 10 + digit, 0) := by
  induction digits generalizing start with
  | nil =>
      cases read
      simp [Numeral.absorb, Nat.not_lt.mpr within]
  | cons first rest inductionHypothesis =>
      simp only [List.cons_append, Numeral.absorb] at read ⊢
      split at read
      · cases read
      · next notBeyond =>
          rw [if_neg notBeyond]
          exact inductionHypothesis read

/-- The digits of a positive number are read as a numeral with its value. -/
theorem through_toDigits
    {tokens : List Token}
    {scan : Scan}
    {negative : Bool}
    (begins :
      ∀ digit, 0 < digit → digit < 10 →
        scan.step (some (Nat.digitChar digit)) =
          ⟨tokens, .numeral ⟨negative, .whole, [digit], [], false, []⟩⟩)
    {value : Nat}
    (positive : 0 < value) :
    ∃ digits,
      scan.through (Nat.toDigits 10 value) =
          ⟨tokens, .numeral ⟨negative, .whole, digits, [], false, []⟩⟩ ∧
        ∀ bound, value ≤ bound → Numeral.absorb bound 0 digits.reverse = (value, 0) := by
  induction value using Nat.strongRecOn with
  | ind value inductionHypothesis =>
      by_cases single : value < 10
      · refine ⟨[value], ?_, ?_⟩
        · rw [Nat.toDigits_of_lt_base single]
          exact begins value positive single
        · intro bound within
          simp [Numeral.absorb, Nat.not_lt.mpr within]
      -- All digits but the last are those of a tenth of the number.
      · obtain ⟨digits, read, absorbed⟩ :=
          inductionHypothesis (value / 10) (by omega) (by omega)
        have last := digit?_digitChar (value % 10) (by omega)
        refine ⟨value % 10 :: digits, ?_, ?_⟩
        · rw [Nat.toDigits_of_base_le (by decide) (by omega), Scan.through_append, read]
          simp [Scan.step, Numeral.move, last]
        · intro bound within
          have whole : value / 10 * 10 + value % 10 = value := by omega
          have before := absorbed bound (by omega)
          have after := absorb_append before (value % 10) (by omega)
          rw [whole] at after
          simpa using after

/-- A digit begins a number. -/
theorem begin_digitChar
    (tokens : List Token)
    {digit : Nat}
    (bound : digit < 10) :
    Scan.begin ⟨tokens, .none⟩ (Nat.digitChar digit) =
      ⟨tokens,
        .numeral ⟨false, if digit = 0 then .zero else .whole, [digit], [], false, []⟩⟩ := by
  have numeral : ∀ digit, digit < 10 →
      Numeral.begin? (Nat.digitChar digit) =
        some ⟨false, if digit = 0 then .zero else .whole, [digit], [], false, []⟩ := by
    decide
  have special : ∀ digit, digit < 10 →
      isSpace (Nat.digitChar digit) = false ∧
        ['"', ',', ':', '[', ']', '\x7b', '\x7d', 'n', 't', 'f'].all
          (Nat.digitChar digit != ·) := by
    decide
  obtain ⟨noSpace, other⟩ := special digit bound
  simp only [List.all_cons, Bool.and_eq_true, bne_iff_ne, ne_eq] at other
  simp [Scan.begin, noSpace, other, numeral digit bound]

/-- A digit after a sign begins the whole part of a number, if it is not zero. -/
theorem move_digitChar
    {digit : Nat}
    (positive : 0 < digit)
    (bound : digit < 10) :
    Numeral.move ⟨true, .sign, [], [], false, []⟩ (Nat.digitChar digit) =
      .grows ⟨true, .whole, [digit], [], false, []⟩ := by
  obtain ⟨below, rfl⟩ := Nat.exists_eq_succ_of_ne_zero (Nat.ne_of_gt positive)
  simp [Numeral.move, digit?_digitChar _ bound]

/-- What a numeral without a fraction and an exponent stands for. -/
theorem value?_of_absorbed
    (negative : Bool)
    (phase : Numeral.Phase)
    {digits : List Nat}
    {value : Nat}
    (absorbed : Numeral.absorb Numeral.significandBound 0 digits.reverse = (value, 0)) :
    (⟨negative, phase, digits, [], false, []⟩ : Numeral).value? =
      some (Numeral.integer ⟨negative, phase, digits, [], false, []⟩ value) := by
  simp [Numeral.value?, absorbed]

/-- A number without a fraction. -/
def Number.Integral : Number → Prop
  | .real _ => False
  | .natural _ | .negative _ => True

/-- A written integer is read as that integer. -/
theorem rests_number
    {tokens : List Token}
    {written : List Char}
    (start : scanOf written = ⟨tokens, .none⟩)
    {value : Number}
    (integral : value.Integral) :
    Rests (.number (some value) :: tokens) (scanOf (value.chars.reverseAux written)) := by
  rw [scanOf_reverseAux, start]
  cases value with
  | real value =>
      cases integral
  | natural value =>
      by_cases zero : value = 0
      · subst zero
        let numeral : Numeral := ⟨false, .zero, [0], [], false, []⟩
        have rests : Rests (.number numeral.value? :: tokens) ⟨tokens, .numeral numeral⟩ :=
          Rests.numeral (Or.inl rfl)
        exact rests
      · have positive : 0 < value.toNat := by
          rw [Nat.pos_iff_ne_zero]
          intro same
          exact zero (UInt64.toNat_inj.mp same)
        have begins : ∀ digit, 0 < digit → digit < 10 →
            Scan.step ⟨tokens, .none⟩ (some (Nat.digitChar digit)) =
              ⟨tokens, .numeral ⟨false, .whole, [digit], [], false, []⟩⟩ := by
          intro digit positive bound
          have begun := begin_digitChar tokens bound
          rwa [if_neg (Nat.ne_of_gt positive)] at begun
        obtain ⟨digits, read, absorbed⟩ := through_toDigits begins positive
        have within : value.toNat ≤ Numeral.significandBound := Nat.le_pred_of_lt value.toNat_lt
        have stands := value?_of_absorbed false .whole (absorbed _ within)
        have same : Numeral.integer ⟨false, .whole, digits, [], false, []⟩ value.toNat =
            .natural value := by
          simp [Numeral.integer]
        rw [same] at stands
        have rests : Rests _ ⟨tokens, .numeral ⟨false, .whole, digits, [], false, []⟩⟩ :=
          Rests.numeral (Or.inr rfl)
        rw [stands] at rests
        rw [Number.chars, Number.naturalChars, read]
        exact rests
  | negative below =>
      have begins : ∀ digit, 0 < digit → digit < 10 →
          Scan.step ⟨tokens, .numeral ⟨true, .sign, [], [], false, []⟩⟩
              (some (Nat.digitChar digit)) =
            ⟨tokens, .numeral ⟨true, .whole, [digit], [], false, []⟩⟩ := by
        intro digit positive bound
        simp only [Scan.step, move_digitChar positive bound]
      obtain ⟨digits, read, absorbed⟩ := through_toDigits begins (Nat.succ_pos below.val)
      have within : below.val + 1 ≤ Numeral.significandBound := by
        have bound := below.isLt
        simp only [negativeCount, Numeral.significandBound, UInt64.size] at bound ⊢
        omega
      have stands := value?_of_absorbed true .whole (absorbed _ within)
      have same : Numeral.integer ⟨true, .whole, digits, [], false, []⟩ (below.val + 1) =
          .negative below := by
        have fits : 0 < below.val + 1 ∧ below.val + 1 ≤ negativeCount := ⟨by omega, below.isLt⟩
        simp only [Numeral.integer, if_true, dif_pos fits, Nat.add_sub_cancel]
      rw [same] at stands
      have rests : Rests _ ⟨tokens, .numeral ⟨true, .whole, digits, [], false, []⟩⟩ :=
        Rests.numeral (Or.inr rfl)
      rw [stands] at rests
      have signed : Scan.step ⟨tokens, .none⟩ (some '-') =
          ⟨tokens, .numeral ⟨true, .sign, [], [], false, []⟩⟩ :=
        rfl
      rw [Number.chars, Number.naturalChars, Scan.through_cons, signed, read]
      exact rests

/-! ## Texts -/

/-- A text as far as it has been read, its characters newest first. -/
abbrev opened (chars : List Char) : OpenText :=
  ⟨chars, true, none, .plain⟩

/-- The escape of a control character is scanned as the character. -/
theorem through_escape_control
    {tokens : List Token}
    {chars : List Char}
    {c : Char}
    (control : c.toNat < 0x20) :
    Scan.through ⟨tokens, .text (opened chars)⟩ (escapeChar c) =
      ⟨tokens, .text (opened (c :: chars))⟩ := by
  by_cases backspace : c = '\x08'
  · subst backspace
    rfl
  by_cases tab : c = '\t'
  · subst tab
    rfl
  by_cases newline : c = '\n'
  · subst newline
    rfl
  by_cases formFeed : c = '\x0c'
  · subst formFeed
    rfl
  by_cases carriageReturn : c = '\r'
  · subst carriageReturn
    rfl
  have hexadecimal : ∀ digit, digit < 16 →
      OpenText.hexValue? (lowerHexDigit digit) = some digit := by
    decide
  have noQuote : c ≠ '"' := by
    rintro rfl
    exact absurd control (by decide)
  have noBackslash : c ≠ '\\' := by
    rintro rfl
    exact absurd control (by decide)
  have upper := hexadecimal (c.toNat / 16) (by omega)
  have lower := hexadecimal (c.toNat % 16) (by omega)
  have value : c.toNat / 16 * 16 + c.toNat % 16 = c.toNat := by omega
  have written : escapeChar c =
      ['\\', 'u', '0', '0', lowerHexDigit (c.toNat / 16), lowerHexDigit (c.toNat % 16)] := by
    simp only [escapeChar, noQuote, noBackslash, control, backspace, tab, newline, formFeed,
      carriageReturn, if_true, if_false]
  rw [written]
  have prefixed : Scan.through ⟨tokens, .text (opened chars)⟩ ['\\', 'u', '0', '0'] =
      ⟨tokens, .text { opened chars with part := .code 2 0 }⟩ :=
    rfl
  have notSurrogate : ¬ (0xD800 ≤ c.toNat ∧ c.toNat < 0xDC00) := by omega
  have notLow : ¬ (0xDC00 ≤ c.toNat ∧ c.toNat < 0xE000) := by omega
  calc
    _ = (Scan.through ⟨tokens, .text (opened chars)⟩ ['\\', 'u', '0', '0']).through
          [lowerHexDigit (c.toNat / 16), lowerHexDigit (c.toNat % 16)] := rfl
    _ = ⟨tokens, .text (opened (c :: chars))⟩ := by
          simp [prefixed, Scan.step, Scan.stepText, upper, lower, value, OpenText.pushCode,
            notSurrogate, notLow, OpenText.push]

/-- A character is written so that it is read as that character. -/
theorem through_escapeChar
    (tokens : List Token)
    (chars : List Char)
    (c : Char) :
    Scan.through ⟨tokens, .text (opened chars)⟩ (escapeChar c) =
      ⟨tokens, .text (opened (c :: chars))⟩ := by
  by_cases quote : c = '"'
  · subst quote
    rfl
  by_cases backslash : c = '\\'
  · subst backslash
    rfl
  by_cases control : c.toNat < 0x20
  · exact through_escape_control control
  · simp [escapeChar, quote, backslash, control, Scan.step, Scan.stepText, OpenText.push]

/-- A written text is read as that text. -/
theorem through_textChars
    (tokens : List Token)
    (text : String) :
    Scan.through ⟨tokens, .none⟩ (textChars text) = ⟨.text (some text) :: tokens, .none⟩ := by
  have inside (chars rest : List Char) :
      Scan.through ⟨tokens, .text (opened chars)⟩ (rest.flatMap escapeChar) =
        ⟨tokens, .text (opened (rest.reverse ++ chars))⟩ := by
    induction rest generalizing chars with
    | nil =>
        rfl
    | cons c rest inductionHypothesis =>
        rw [List.flatMap_cons, Scan.through_append, through_escapeChar, inductionHypothesis]
        simp
  have begun : Scan.step ⟨tokens, .none⟩ (some '"') = ⟨tokens, .text (opened [])⟩ := rfl
  rw [textChars, Scan.through_cons, begun, Scan.through_append, inside]
  simp [Scan.step, Scan.stepText, Scan.emit, OpenText.close]

/-! ## Documents -/

namespace Document

/--
A document whose written form says all of it: every part has a value, every number
is an integer, every member has a key and every container is closed.
-/
inductive Legible : Document → Prop where
  | null :
      Legible .null
  | flag (value : Bool) :
      Legible (.flag value)
  | number {value : Number} (integral : value.Integral) :
      Legible (.number value)
  | text (value : String) :
      Legible (.text value)
  | list {items : List Document} (legible : ∀ item ∈ items, Legible item) :
      Legible (.list items true)
  | table {members : List (Option String × Document)}
      (keyed : ∀ member ∈ members, member.1 ≠ none)
      (legible : ∀ member ∈ members, Legible member.2) :
      Legible (.table members true)

mutual

/-- The tokens of a document after those already there, which come newest first. -/
def tokensOnto (tokens : List Token) : Document → List Token
  | .null => .null :: tokens
  | .flag value => .flag value :: tokens
  | .number value => .number (some value) :: tokens
  | .text value => .text (some value) :: tokens
  | .list items _ => .closeList :: itemTokensOnto (.openList :: tokens) true items
  | .table members _ => .closeTable :: memberTokensOnto (.openTable :: tokens) true members
  | .unreadable _ => tokens

def itemTokensOnto (tokens : List Token) (first : Bool) : List Document → List Token
  | [] => tokens
  | item :: rest =>
      let separated := if first then tokens else .comma :: tokens
      itemTokensOnto (tokensOnto separated item) false rest

def memberTokensOnto
    (tokens : List Token)
    (first : Bool) :
    List (Option String × Document) → List Token
  | [] => tokens
  | (key, value) :: rest =>
      let separated := if first then tokens else .comma :: tokens
      let keyed := .colon :: .text (some (key.getD "")) :: separated
      memberTokensOnto (tokensOnto keyed value) false rest

end

/-- Where an item or a member may be written: behind the opening bracket, or behind another. -/
def Follows (tokens : List Token) (first : Bool) (scan : Scan) : Prop :=
  if first then scan = ⟨tokens, .none⟩ else Rests tokens scan

/-- A scan before a member or an item is at rest. -/
theorem Follows.rests
    {tokens : List Token}
    {first : Bool}
    {scan : Scan}
    (follows : Follows tokens first scan) :
    Rests tokens scan := by
  cases first with
  | true =>
      obtain rfl : scan = ⟨tokens, .none⟩ := follows
      exact .closed tokens
  | false =>
      exact follows

/-- A comma stands before every item and every member but the first. -/
theorem Follows.separated
    {tokens : List Token}
    {first : Bool}
    {written : List Char}
    (follows : Follows tokens first (scanOf written)) :
    scanOf (if first then written else ',' :: written) =
      ⟨if first then tokens else .comma :: tokens, .none⟩ := by
  cases first with
  | true =>
      exact follows
  | false =>
      have rests : Rests tokens (scanOf written) := follows
      exact rests.step (Or.inl rfl)

/-- Items that are written are read as their tokens, if each of them is. -/
theorem rests_items
    {items : List Document}
    (read :
      ∀ item ∈ items, ∀ {tokens written},
        scanOf written = ⟨tokens, .none⟩ →
        Rests (tokensOnto tokens item) (scanOf (writeOnto written item)))
    {tokens : List Token}
    {written : List Char}
    {first : Bool}
    (follows : Follows tokens first (scanOf written)) :
    Rests (itemTokensOnto tokens first items) (scanOf (writeItemsOnto written first items)) := by
  induction items generalizing tokens written first with
  | nil =>
      exact follows.rests
  | cons item rest inductionHypothesis =>
      have here := read item (by simp) follows.separated
      exact inductionHypothesis (fun other member => read other (by simp [member])) here

/-- The members of a table are scanned as their tokens when each of their documents is. -/
theorem rests_members
    {members : List (Option String × Document)}
    (read :
      ∀ member ∈ members, ∀ {tokens written},
        scanOf written = ⟨tokens, .none⟩ →
        Rests (tokensOnto tokens member.2) (scanOf (writeOnto written member.2)))
    {tokens : List Token}
    {written : List Char}
    {first : Bool}
    (follows : Follows tokens first (scanOf written)) :
    Rests (memberTokensOnto tokens first members)
      (scanOf (writeMembersOnto written first members)) := by
  induction members generalizing tokens written first with
  | nil =>
      exact follows.rests
  | cons member rest inductionHypothesis =>
      obtain ⟨key, value⟩ := member
      have keyed : scanOf (':' :: (textChars (key.getD "")).reverseAux
          (if first then written else ',' :: written)) =
            ⟨.colon :: .text (some (key.getD "")) :: if first then tokens else .comma :: tokens,
              .none⟩ := by
        rw [scanOf_cons, scanOf_reverseAux, follows.separated, through_textChars]
        rfl
      have here := read (key, value) (by simp) keyed
      exact inductionHypothesis (fun other member => read other (by simp [member])) here

/-- A document that is written is read as its tokens. -/
theorem Legible.rests
    {document : Document}
    (legible : document.Legible)
    {tokens : List Token}
    {written : List Char}
    (start : scanOf written = ⟨tokens, .none⟩) :
    Rests (tokensOnto tokens document) (scanOf (writeOnto written document)) := by
  induction legible generalizing tokens written with
  | null =>
      simp only [writeOnto, scanOf_cons, start, tokensOnto]
      exact .closed _
  | flag value =>
      cases value <;> simp only [writeOnto, scanOf_cons, start, tokensOnto] <;> exact .closed _
  | number integral =>
      exact rests_number start integral
  | text value =>
      rw [writeOnto, scanOf_reverseAux, start, through_textChars]
      exact .closed _
  | list legible read =>
      have opened : Follows (.openList :: tokens) true (scanOf ('[' :: written)) := by
        simp only [Follows, scanOf_cons, start, if_true]
        rfl
      have inside := rests_items read opened
      rw [writeOnto, scanOf_cons, inside.step (Or.inr (Or.inl rfl))]
      exact .closed _
  | table keyed legible read =>
      have opened : Follows (.openTable :: tokens) true (scanOf ('\x7b' :: written)) := by
        simp only [Follows, scanOf_cons, start, if_true]
        rfl
      have inside := rests_members read opened
      rw [writeOnto, scanOf_cons, inside.step (Or.inr (Or.inr rfl))]
      exact .closed _

/-- The tokens of a written document are those of the document. -/
theorem Legible.tokens_chars
    {document : Document}
    (legible : document.Legible) :
    tokens (document.chars.map some) = (tokensOnto [] document).reverse := by
  have rests : Rests (tokensOnto [] document) (scanOf (writeOnto [] document)) :=
    legible.rests rfl
  rw [← rests.finish, tokens, chars, List.foldl_map, List.foldl_reverse]
  rfl

end Document

end GraphBroker.Json
