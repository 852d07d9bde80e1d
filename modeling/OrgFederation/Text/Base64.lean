namespace OrgFederation.Text.Base64

/-- The sixty-four digits in order of value. -/
def alphabet : List Char :=
  "ABCDEFGHIJKLMNOPQRSTUVWXYZabcdefghijklmnopqrstuvwxyz0123456789+/".toList

/-- The digit of a value below sixty-four. -/
def digit (value : Nat) : Char :=
  alphabet.getD value '='

/-- The value of a digit. -/
def value? (letter : Char) : Option Nat :=
  alphabet.findIdx? (· == letter)

/-- Three bytes become four digits, and a short last group is padded. -/
def encode : List UInt8 → List Char
  | [] => []
  | [first] =>
      let word := first.toNat * 65536
      [digit (word / 262144), digit (word / 4096 % 64), '=', '=']
  | [first, second] =>
      let word := first.toNat * 65536 + second.toNat * 256
      [digit (word / 262144), digit (word / 4096 % 64), digit (word / 64 % 64), '=']
  | first :: second :: third :: rest =>
      let word := first.toNat * 65536 + second.toNat * 256 + third.toNat
      digit (word / 262144) :: digit (word / 4096 % 64) :: digit (word / 64 % 64) ::
        digit (word % 64) :: encode rest

/-- A padded last group must leave no bit over. -/
def decodeGroup? (first second third fourth : Char) : Option (List UInt8) := do
  let high ← value? first
  let low ← value? second
  if third == '=' && fourth == '=' then
    if low % 16 == 0 then some [UInt8.ofNat (high * 4 + low / 16)] else none
  else
    let third ← value? third
    if fourth == '=' then
      if third % 4 == 0 then
        some [UInt8.ofNat (high * 4 + low / 16), UInt8.ofNat (low % 16 * 16 + third / 4)]
      else
        none
    else
      let fourth ← value? fourth
      some [UInt8.ofNat (high * 4 + low / 16), UInt8.ofNat (low % 16 * 16 + third / 4),
        UInt8.ofNat (third % 4 * 64 + fourth)]

/-- Every group but the last holds four digits without padding. -/
def decode? : List Char → Option (List UInt8)
  | [] => some []
  | first :: second :: third :: fourth :: rest => do
      let group ← decodeGroup? first second third fourth
      if fourth == '=' && !rest.isEmpty then none
      else do
        let others ← decode? rest
        return group ++ others
  | _ => none

end OrgFederation.Text.Base64
