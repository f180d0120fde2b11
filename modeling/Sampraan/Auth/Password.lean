import Sampraan.Backend.Environment
import Sampraan.Library.Base64

/-! `verifyPassword` of `auth/password.ts`. -/

namespace Sampraan.Auth

open Backend Library

/-- The functions of Node and of the language that `password.ts` calls. `number` is `Number(text)`
where that is an integer; `scrypt` takes the password, the salt, the length of the key and `N`,
`r`, `p`, and throws when it gives `none`. -/
structure PasswordLibrary where
  normalizeNFKC : String → String
  number : String → Option ℤ
  scrypt : String → Bytes → ℕ → ℕ → ℕ → ℕ → Option Bytes

/-- The bounds on `N`, `r` and `p` of a stored hash. -/
def acceptableCost (n r p : ℤ) : Bool :=
  decide (1024 ≤ n ∧ n ≤ 1048576 ∧ 1 ≤ r ∧ r ≤ 64 ∧ 1 ≤ p ∧ p ≤ 8 ∧ n * r ≤ 1048576)

def derives (lib : PasswordLibrary) (password saltB64 hashB64 : String) (n r p : ℤ) : Bool :=
  let expected := Base64.ofText hashB64
  lib.scrypt (lib.normalizeNFKC password) (Base64.ofText saltB64) expected.length n.toNat r.toNat
    p.toNat == some expected

def verifyPassword (lib : PasswordLibrary) (password : String) (stored : Option String) : Bool :=
  match stored with
  | none => false
  | some stored =>
    match (stored.toList.splitOn '$').map String.ofList with
    | ["scrypt", nStr, rStr, pStr, saltB64, hashB64] =>
      match lib.number nStr, lib.number rStr, lib.number pStr with
      | some n, some r, some p =>
        acceptableCost n r p && derives lib password saltB64 hashB64 n r p
      | _, _, _ => false
    | _ => false

end Sampraan.Auth
