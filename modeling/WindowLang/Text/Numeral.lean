namespace WindowLang.Text

/-!
# Numerals

A numeral is a nonempty run of ASCII digits. Where the language wants an
unsigned integer, one plus sign may stand before the digits, leading zeros are
allowed, and the value fits 32 bits.
-/

/-- The characters are a nonempty run of ASCII digits. -/
def isNumeral (characters : List Char) : Bool :=
  !characters.isEmpty && characters.all Char.isDigit

/-- The text without one plus sign in front. -/
def dropPlus : List Char → List Char
  | '+' :: rest => rest
  | characters => characters

/-- The number as a 32-bit word, if it fits. -/
def word? (number : Nat) : Option UInt32 :=
  if bound : number < UInt32.size then
    some (UInt32.ofNatLT number bound)
  else
    none

/-- The unsigned integer that a text writes in decimal. -/
def readUnsigned? (text : String) : Option UInt32 :=
  let digits := dropPlus text.toList
  if isNumeral digits then word? (Nat.ofDigitChars 10 digits 0) else none

/-- The decimal digits of an unsigned integer, without leading zeros. -/
def writeUnsigned (number : UInt32) : String :=
  toString number.toNat

/-- A number fits a 32-bit word exactly when it is below the word's size. -/
theorem word?_eq_some_iff
    {number : Nat}
    {word : UInt32} :
    word? number = some word ↔ word.toNat = number := by
  unfold word?
  split
  · rename_i bound
    constructor
    · rintro ⟨rfl⟩
      rfl
    · rintro rfl
      simp
  · rename_i bound
    constructor
    · intro impossible
      simp at impossible
    · rintro rfl
      exact absurd word.toNat_lt_size bound

theorem toList_writeUnsigned (number : UInt32) :
    (writeUnsigned number).toList = Nat.toDigits 10 number.toNat := by
  rw [writeUnsigned, Nat.toString_eq_ofList_toDigits, String.toList_ofList]

/-- The digits of a number are a numeral. -/
theorem isNumeral_writeUnsigned (number : UInt32) :
    isNumeral (writeUnsigned number).toList = true := by
  have allDigits : ∀ c ∈ Nat.toDigits 10 number.toNat, c.isDigit = true :=
    fun c member => Nat.isDigit_of_mem_toDigits (by decide) (by decide) member
  rw [toList_writeUnsigned]
  simpa [isNumeral] using allDigits

/-- A numeral has no sign. -/
theorem dropPlus_of_isNumeral
    {characters : List Char}
    (numeral : isNumeral characters = true) :
    dropPlus characters = characters := by
  unfold dropPlus
  split
  · simp [isNumeral] at numeral
  · rfl

/-- A number is read back from its decimal digits. -/
theorem readUnsigned?_writeUnsigned (number : UInt32) :
    readUnsigned? (writeUnsigned number) = some number := by
  have numeral := isNumeral_writeUnsigned number
  simp only [readUnsigned?, dropPlus_of_isNumeral numeral, numeral, if_true]
  rw [toList_writeUnsigned, Nat.ofDigitChars_ten_toDigits]
  exact word?_eq_some_iff.2 rfl

end WindowLang.Text
