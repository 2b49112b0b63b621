/-!
# Quoted text

The form in which names and paths appear inside an inspected value: between double quotes, with
the quote, the backslash and the control characters escaped.
-/

namespace FirstCall.Text

def hexadecimal (number : Nat) : String :=
  String.ofList (Nat.toDigits 16 number)

def escape (c : Char) : List Char :=
  if c = '"' then ['\\', '"']
  else if c = '\\' then ['\\', '\\']
  else if c = '\n' then ['\\', 'n']
  else if c = '\t' then ['\\', 't']
  else if c = '\r' then ['\\', 'r']
  else if c = '\x00' then ['\\', '0']
  else if c.toNat < 0x20 ∨ (0x7f ≤ c.toNat ∧ c.toNat < 0xa0) then
    ['\\', 'u', '\x7b'] ++ Nat.toDigits 16 c.toNat ++ ['\x7d']
  else [c]

def quote (text : String) : String :=
  String.ofList ('"' :: text.toList.flatMap escape ++ ['"'])

def bracketed (items : List String) : String :=
  "[" ++ String.intercalate ", " items ++ "]"

/-- A record with its name and its fields in order. -/
def record (name : String) (fields : List (String × String)) : String :=
  let parts := fields.map fun (label, value) => label ++ ": " ++ value
  name ++ " \x7b " ++ String.intercalate ", " parts ++ " \x7d"

def wrapped (name value : String) : String :=
  name ++ "(" ++ value ++ ")"

def optional (value : Option String) : String :=
  match value with
  | none => "None"
  | some text => wrapped "Some" text

end FirstCall.Text
