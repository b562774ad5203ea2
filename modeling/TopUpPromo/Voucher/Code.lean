/-!
# Voucher codes

A voucher code is a prefix followed by eight characters from the alphabet `A`–`Z`, `0`–`9`.
A deterministic source numbers its codes: code `n` writes `n` in base 36 over that alphabet
(so `A` is the digit zero), left-padded with `A` to eight characters.

## Main definitions

- `codeAlphabet`, `codeLength`, `IsCodeOf`.
- `numberedCode`: the code of a number.
-/

namespace TopUpPromo
namespace Voucher

/-- The characters of a code's body, in digit order. -/
def codeAlphabet : List Char := "ABCDEFGHIJKLMNOPQRSTUVWXYZ0123456789".toList

/-- The number of characters after the prefix. -/
def codeLength : Nat := 8

def base36 (n : Nat) : List Char :=
  if _small : n < 36 then [codeAlphabet.getD n 'A']
  else base36 (n / 36) ++ [codeAlphabet.getD (n % 36) 'A']
termination_by n
decreasing_by omega

/-- The code numbered `n`: the prefix, then `n` in base 36 padded with `A` to eight
characters. -/
def numberedCode (pref : String) (n : Nat) : String :=
  let ds := base36 n
  pref ++ String.ofList (List.replicate (codeLength - ds.length) 'A' ++ ds)

/-- Whether `code` is `pref` followed by eight characters of the alphabet. -/
def IsCodeOf (pref code : String) : Bool :=
  pref.isPrefixOf code &&
    let body := code.toList.drop pref.length
    body.length == codeLength && body.all (codeAlphabet.contains ·)

end Voucher
end TopUpPromo
