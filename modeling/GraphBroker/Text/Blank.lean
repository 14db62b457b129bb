namespace GraphBroker.Text

/-!
# Blank characters and trimming

The blank characters are those with the Unicode property `White_Space`.  A text
is blank when it holds no other character; trimming removes the blank
characters at both ends and nothing else.
-/

/-- The characters with the Unicode property `White_Space`. -/
def isBlank (c : Char) : Bool :=
  let code := c.toNat
  (0x09 ≤ code && code ≤ 0x0D) || code == 0x20 || code == 0x85 || code == 0xA0
    || code == 0x1680 || (0x2000 ≤ code && code ≤ 0x200A) || code == 0x2028
    || code == 0x2029 || code == 0x202F || code == 0x205F || code == 0x3000

/-- Remove the blank characters at both ends. -/
def trimChars (chars : List Char) : List Char :=
  ((chars.dropWhile isBlank).reverse.dropWhile isBlank).reverse

/-- Remove the blank characters at both ends of a text. -/
def trim (text : String) : String :=
  String.ofList (trimChars text.toList)

/-- A text without any character that shows. -/
def IsBlank (text : String) : Prop :=
  ∀ c ∈ text.toList, isBlank c = true

instance (text : String) : Decidable (IsBlank text) :=
  List.decidableBAll (fun c => isBlank c = true) text.toList

end GraphBroker.Text
