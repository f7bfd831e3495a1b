import ThemedCss.Value

/-!
# Bytes

* `Bytes.ofBase64?`: the bytes that a text in base 64 stands for;
* `Bytes.text?`: the text that bytes spell;
* `Bytes.literal`: the spelling of bytes;
* **`Bytes.value`**: bytes as a value.
-/

namespace ThemedCss.Bytes

/-- The six bits that a letter of base 64 stands for. -/
def sixBits? (c : Char) : Option Nat :=
  if 'A' ≤ c ∧ c ≤ 'Z' then some (c.toNat - 65)
  else if 'a' ≤ c ∧ c ≤ 'z' then some (c.toNat - 71)
  else if '0' ≤ c ∧ c ≤ '9' then some (c.toNat + 4)
  else if c = '+' then some 62
  else if c = '/' then some 63
  else none

/-- The bytes behind a part of a group of four letters: how many letters it had, how many signs
that fill it up, and the bits that are left of it. What is no letter is skipped, and the signs that
fill a group up end the text. -/
def decode (letters pads left : Nat) : Text → Option (List Nat)
  | [] => if letters = 0 then some [] else none
  | c :: t =>
    if c = '=' then
      if letters < 2 then decode letters pads left t
      else if 4 ≤ letters + pads + 1 then some []
      else decode letters (pads + 1) left t
    else match sixBits? c with
      | none => decode letters pads left t
      | some bits =>
        match letters with
        | 0 => decode 1 0 bits t
        | 1 => (decode 2 0 (bits % 16) t).map ((left * 4 + bits / 16) :: ·)
        | 2 => (decode 3 0 (bits % 4) t).map ((left * 16 + bits / 4) :: ·)
        | _ => (decode 0 0 0 t).map ((left * 64 + bits) :: ·)

/-- The bytes that a text in base 64 stands for; it must be ASCII. -/
def ofBase64? (t : Text) : Option (List Nat) :=
  if t.all fun c => c.toNat < 128 then decode 0 0 0 t else none

/-- The text that bytes spell in UTF-8. -/
def text? (bytes : List Nat) : Option Text :=
  (String.fromUTF8? ⟨(bytes.map UInt8.ofNat).toArray⟩).map String.toList

/-- The spelling of one byte between two quotes. -/
def quotedByte (quote : Char) (n : Nat) : Text :=
  let c := Char.ofNat n
  if c = '\t' ∨ c = '\n' ∨ c = '\r' ∨ c = '\\' ∨ c = quote then Text.quotedChar quote c
  else if 0x20 ≤ n ∧ n < 0x7f then [c]
  else "\\x" ++ Text.hexDigits 2 n

/-- The spelling of bytes. -/
def literal (bytes : List Nat) : Text :=
  let quote := Text.quoteOf (bytes.map Char.ofNat)
  'b' :: quote :: bytes.flatMap (quotedByte quote) ++ [quote]

/-- Bytes as a value. -/
def value (bytes : List Nat) : Scalar :=
  .special
    { kind := .bytes
      text := literal bytes
      literal := literal bytes
      isEmpty := bytes.isEmpty
      bytes := bytes }

end ThemedCss.Bytes
