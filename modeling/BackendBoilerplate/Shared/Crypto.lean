import BackendBoilerplate.Lib.JsString
import BackendBoilerplate.Shared.Errors

/-!
`CryptoService`: phone numbers at rest. The stored form is three hex parts
joined by colons, `iv:authTag:encrypted`. The cipher itself is Node's and stays
a parameter; everything around it is the service's own code.
-/
namespace BackendBoilerplate
open JavaScript

/-- Node's AES-256-GCM and its lossy UTF-8 decoder. Both cipher directions answer
nothing where Node throws: a key, IV or tag of a refused length, a tag that
does not verify. -/
structure NodeCrypto where
  gcmSeal : (key iv plaintext : List UInt8) → Option (List UInt8 × List UInt8)
  gcmOpen : (key iv authTag ciphertext : List UInt8) → Option (List UInt8)
  utf8Decode : List UInt8 → String

structure CryptoService where
  node : NodeCrypto
  encryptionKey : List UInt8

def hexDigit (n : UInt8) : Char := (Nat.digitChar n.toNat)

/-- `buffer.toString('hex')`: two lowercase digits a byte. -/
def toHex (bytes : List UInt8) : List Char :=
  bytes.flatMap fun b => [hexDigit (b / 16), hexDigit (b % 16)]

def hexValue (c : Char) : Option UInt8 :=
  if '0' ≤ c ∧ c ≤ '9' then some (UInt8.ofNat (c.toNat - '0'.toNat))
  else if 'a' ≤ c ∧ c ≤ 'f' then some (UInt8.ofNat (c.toNat - 'a'.toNat + 10))
  else if 'A' ≤ c ∧ c ≤ 'F' then some (UInt8.ofNat (c.toNat - 'A'.toNat + 10))
  else none

/-- `Buffer.from(text, 'hex')`: decoding stops at the first invalid pair. -/
def fromHex : List Char → List UInt8
  | a :: b :: rest =>
      match hexValue a, hexValue b with
      | some hi, some lo => (hi * 16 + lo) :: fromHex rest
      | _, _ => []
  | _ => []

/-- `decipher.update(text, 'hex', ..)`: where `Buffer.from` drops an odd digit, it throws. -/
def cipherInput (text : List Char) : Option (List UInt8) :=
  if utf16Length text % 2 = 0 then some (fromHex text) else none

/-- `Buffer.from(text, 'utf-8')`. -/
def utf8Bytes (text : String) : List UInt8 := text.toUTF8.data.toList

namespace CryptoService

/-- The constructor measures the key as a string and keeps its bytes. -/
def construct (node : NodeCrypto) (key : Option String) : Except JsError CryptoService :=
  match key with
  | none => .error (.error "ENCRYPTION_KEY must be exactly 32 bytes")
  | some key =>
      if utf16Length key.toList ≠ 32 then .error (.error "ENCRYPTION_KEY must be exactly 32 bytes")
      else .ok ⟨node, utf8Bytes key⟩

/-- The IV is the `randomBytes(16)` of this call. -/
def encrypt (c : CryptoService) (iv : List UInt8) (plaintext : String) :
    Except JsError String :=
  if plaintext = "" then .ok ""
  else
    match c.node.gcmSeal c.encryptionKey iv (utf8Bytes plaintext) with
    | some (encrypted, authTag) =>
        .ok (String.ofList (toHex iv ++ [':'] ++ toHex authTag ++ [':'] ++ toHex encrypted))
    | none => .error (.error "Encryption failed")

def decrypt (c : CryptoService) (ciphertext : String) : Except JsError String :=
  if ciphertext = "" then .ok ""
  else
    match ciphertext.toList.splitOn ':' with
    | [iv, authTag, encrypted] =>
        match (cipherInput encrypted).bind
            (c.node.gcmOpen c.encryptionKey (fromHex iv) (fromHex authTag)) with
        | some plaintext => .ok (c.node.utf8Decode plaintext)
        | none => .error (.error "Decryption failed")
    | _ => .error (.error "Decryption failed")

/-- Every error of either direction is one of the two that the service rethrows. -/
theorem decrypt_error (c : CryptoService) (ciphertext : String) (e : JsError)
    (h : c.decrypt ciphertext = .error e) : e = .error "Decryption failed" := by
  unfold decrypt at h
  split at h
  · cases h
  · split at h
    · split at h
      · cases h
      · exact (Except.error.inj h).symm
    · exact (Except.error.inj h).symm

end CryptoService
end BackendBoilerplate
