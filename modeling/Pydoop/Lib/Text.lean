import Mathlib.Data.List.Basic

/-! Python text at the byte level: a `str` is a sequence of Unicode scalar values, encoded to and
decoded from UTF-8 strictly, as `PyUnicode_AsUTF8String` and `PyUnicode_FromStringAndSize` do,
and `str.strip()` with no argument. -/

namespace PyText

/-- The UTF-8 encoding of a string. -/
def utf8 (s : String) : List UInt8 := s.toByteArray.data.toList

theorem utf8_inj {a b : String} (same : utf8 a = utf8 b) : a = b :=
  String.toByteArray_inj.mp (ByteArray.ext (Array.toList_inj.mp same))

/-- Strict UTF-8 decoding: `none` where Python raises `UnicodeDecodeError`. -/
def decodeUtf8 (bs : List UInt8) : Option String := String.fromUTF8? ⟨bs.toArray⟩

@[simp] theorem decodeUtf8_utf8 (s : String) : decodeUtf8 (utf8 s) = some s := by
  unfold decodeUtf8 utf8 String.fromUTF8?
  simp only [Array.toArray_toList]
  split
  · rfl
  · rename_i invalid
    exact absurd s.isValidUTF8 invalid

theorem utf8_ofList (chars : List Char) :
    utf8 (String.ofList chars) = chars.flatMap String.utf8EncodeChar := by
  simp [utf8, String.toByteArray_ofList, List.utf8Encode]

theorem utf8EncodeChar_ascii {c : Char} (ascii : c.toNat < 128) :
    String.utf8EncodeChar c = [c.toUInt8] := by
  apply String.utf8EncodeChar_eq_singleton
  rw [Char.utf8Size_eq_one_iff, UInt32.le_iff_toNat_le]
  exact Nat.le_of_lt_succ ascii

theorem utf8_ofList_ascii (chars : List Char) (ascii : ∀ c ∈ chars, c.toNat < 128) :
    utf8 (String.ofList chars) = chars.map Char.toUInt8 := by
  rw [utf8_ofList]
  induction chars with
  | nil => rfl
  | cons c rest ih =>
    rw [List.flatMap_cons, utf8EncodeChar_ascii (ascii c (by simp)),
      ih (fun c' member => ascii c' (by simp [member]))]
    rfl

/-- `str.isspace()` for one character: the characters `str.strip()` removes by default. -/
def isSpace (c : Char) : Bool :=
  c.toNat ∈ [0x09, 0x0A, 0x0B, 0x0C, 0x0D, 0x1C, 0x1D, 0x1E, 0x1F, 0x20, 0x85, 0xA0, 0x1680,
    0x2000, 0x2001, 0x2002, 0x2003, 0x2004, 0x2005, 0x2006, 0x2007, 0x2008, 0x2009, 0x200A,
    0x2028, 0x2029, 0x202F, 0x205F, 0x3000]

/-- `str.strip()`: leading and trailing whitespace removed. -/
def strip (s : String) : String :=
  String.ofList ((s.toList.dropWhile isSpace).reverse.dropWhile isSpace).reverse

theorem strip_of_unspaced {s : String} (unspaced : ∀ c ∈ s.toList, isSpace c = false) :
    strip s = s := by
  have kept : ∀ l : List Char, (∀ c ∈ l, isSpace c = false) → l.dropWhile isSpace = l := by
    intro l none
    cases l with
    | nil => rfl
    | cons c rest => exact List.dropWhile_cons_of_neg (by simp [none c List.mem_cons_self])
  have reversed : ∀ c ∈ s.toList.reverse, isSpace c = false :=
    fun c member => unspaced c (List.mem_reverse.mp member)
  rw [strip, kept _ unspaced, kept _ reversed, List.reverse_reverse, String.ofList_toList]

/-- `int(s)` of a `str` in base 10: surrounding whitespace stripped, then an optional sign and
decimal digits with single underscores between them, which is what `String.toNat?` reads. The
digits are the ASCII ones; `int` also reads the other Unicode decimal digits. -/
def pyInt? (s : String) : Option Int :=
  match (strip s).toList with
  | '+' :: digits => (String.ofList digits).toNat?.map Int.ofNat
  | _ => (strip s).toInt?

theorem isSpace_of_isDigit {c : Char} (digit : c.isDigit = true) : isSpace c = false := by
  simp only [Char.isDigit, Bool.and_eq_true, decide_eq_true_eq] at digit
  have low : 48 ≤ c.toNat := digit.1
  have high : c.toNat ≤ 57 := digit.2
  simp only [isSpace, List.mem_cons, List.not_mem_nil, or_false, decide_eq_false_iff_not]
  omega

/-- The last `width` lowercase hexadecimal digits of `n`. -/
def hexDigits : Nat → Nat → List Char
  | 0, _ => []
  | width + 1, n => hexDigits width (n / 16) ++ [Nat.digitChar (n % 16)]

/-- One character of `repr` of a `str` quoted with `quote`, as `unicode_repr` writes it.
`isprintable` is `Py_UNICODE_ISPRINTABLE`, which the Unicode database decides; only the
characters past ASCII consult it. -/
def reprChar (isprintable : Char → Bool) (quote c : Char) : List Char :=
  if c = quote ∨ c = '\\' then ['\\', c]
  else if c = '\t' then ['\\', 't']
  else if c = '\n' then ['\\', 'n']
  else if c = '\r' then ['\\', 'r']
  else if c.toNat < 0x20 ∨ c.toNat = 0x7f then '\\' :: 'x' :: hexDigits 2 c.toNat
  else if c.toNat < 0x7f then [c]
  else if isprintable c then [c]
  else if c.toNat ≤ 0xff then '\\' :: 'x' :: hexDigits 2 c.toNat
  else if c.toNat ≤ 0xffff then '\\' :: 'u' :: hexDigits 4 c.toNat
  else '\\' :: 'U' :: hexDigits 8 c.toNat

/-- `repr` of a `str`: in single quotes, or in double quotes when it holds a single quote and no
double quote. -/
def reprStr (isprintable : Char → Bool) (s : List Char) : String :=
  let quote := if '\'' ∈ s ∧ '"' ∉ s then '"' else '\''
  String.ofList (quote :: s.flatMap (reprChar isprintable quote) ++ [quote])

example : reprStr (fun _ => true) "it's\n\x01é".toList = "\"it's\\n\\x01é\"" := by decide
example : reprStr (fun _ => false) "'\"\x85".toList = "'\\'\"\\x85'" := by decide

end PyText
