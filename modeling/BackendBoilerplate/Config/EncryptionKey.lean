import BackendBoilerplate.Config.EnvValidation
import BackendBoilerplate.Shared.ConstantTime
import BackendBoilerplate.Shared.Sealing

/-!
The encryption key. The schema and the constructor both ask for 32 code units, and the
cipher asks for 32 bytes: a key with another character than those of ASCII starts the
application, and then no phone can be encrypted.
-/
namespace BackendBoilerplate
open JavaScript

/-- AES-256-GCM takes keys of 32 bytes, under any IV but an empty one, and no others. -/
def NodeCrypto.Aes256 (node : NodeCrypto) : Prop :=
  ∀ key iv plaintext, iv ≠ [] → ((node.gcmSeal key iv plaintext).isSome ↔ key.length = 32)

namespace CryptoService

/-- The cipher takes the key, and so every text is encrypted. -/
structure KeyWorks (c : CryptoService) : Prop where
  bytes : c.encryptionKey.length = 32
  encrypts : ∀ iv plaintext, iv.length = 16 → plaintext ≠ "" → (c.encrypt iv plaintext).isOk

variable {c : CryptoService}

theorem encrypt_isOk (aes : c.node.Aes256) {iv : List UInt8} (hiv : iv ≠ []) {plaintext : String}
    (hne : plaintext ≠ "") :
    (c.encrypt iv plaintext).isOk ↔ c.encryptionKey.length = 32 := by
  rw [← aes c.encryptionKey iv (utf8Bytes plaintext) hiv, encrypt, if_neg hne]
  cases c.node.gcmSeal c.encryptionKey iv (utf8Bytes plaintext) with
  | none => exact iff_of_false Bool.false_ne_true Bool.false_ne_true
  | some res => exact iff_of_true rfl rfl

/-- A key of another length works for nothing. -/
theorem keyWorks_iff (aes : c.node.Aes256) : c.KeyWorks ↔ c.encryptionKey.length = 32 := by
  refine ⟨KeyWorks.bytes, fun bytes => ⟨bytes, fun iv plaintext hiv hne => ?_⟩⟩
  refine (encrypt_isOk aes ?_ hne).mpr bytes
  rintro rfl
  cases hiv

theorem construct_eq {node : NodeCrypto} {key : String} (h : utf16Length key.toList = 32) :
    construct node (some key) = .ok ⟨node, utf8Bytes key⟩ := by
  rw [construct, if_neg (not_not.mpr h)]

end CryptoService

/-- The key of an accepted environment is constructed, and works exactly if it is ASCII. -/
theorem encryption_key_works_iff (node : NodeCrypto) (aes : node.Aes256)
    (parseUrl : String → Option String) (vars : EnvVars) (accepted : vars.Accepted parseUrl) :
    ∃ key c, vars "ENCRYPTION_KEY" = some key ∧
      CryptoService.construct node (vars "ENCRYPTION_KEY") = .ok c ∧
        (c.KeyWorks ↔ ∀ char ∈ key.toList, char.toNat < 0x80) := by
  obtain ⟨key, hkey, hlength⟩ := accepted.encryptionKey
  refine ⟨key, ⟨node, utf8Bytes key⟩, hkey, hkey ▸ CryptoService.construct_eq hlength, ?_⟩
  have hbytes : (utf8Bytes key).length = utf8Length key.toList := by
    rw [← length_utf8Bytes, String.ofList_toList]
  rw [CryptoService.keyWorks_iff aes, ← utf8Length_eq_iff, hlength, hbytes]

/-! Two environments that differ in one character of their keys. -/

/-- The variables without a default. -/
def startedWith (key : String) : EnvVars := fun name =>
  [("DATABASE_URL", "postgresql://localhost:5432/backend_dev"),
    ("JWT_ACCESS_SECRET", "local-dev-access-secret-0123456789"),
    ("JWT_REFRESH_SECRET", "local-dev-refresh-secret-0123456789"),
    ("ENCRYPTION_KEY", key)].lookup name

theorem NodeCrypto.plain_aes256 : NodeCrypto.plain.Aes256 := by
  intro key iv plaintext hiv
  simp [NodeCrypto.plain, hiv]

theorem encryption_key_works_iff_ascii :
    ∃ key c, startedWith "0123456789abcdef0123456789abcdef" "ENCRYPTION_KEY" = some key ∧
      CryptoService.construct .plain
        (startedWith "0123456789abcdef0123456789abcdef" "ENCRYPTION_KEY") = .ok c ∧
          (c.KeyWorks ↔ ∀ char ∈ key.toList, char.toNat < 0x80) :=
  encryption_key_works_iff .plain NodeCrypto.plain_aes256 some
    (startedWith "0123456789abcdef0123456789abcdef") (by decide +kernel)

/-- With an umlaut in it, the key starts the application and encrypts no phone. -/
theorem encryption_key_fails_umlaut :
    (startedWith "0123456789äbcdef0123456789abcdef").Accepted some ∧
      CryptoService.construct .plain
          (startedWith "0123456789äbcdef0123456789abcdef" "ENCRYPTION_KEY") =
        .ok ⟨.plain, utf8Bytes "0123456789äbcdef0123456789abcdef"⟩ ∧
      (utf8Bytes "0123456789äbcdef0123456789abcdef").length = 33 ∧
      CryptoService.encrypt ⟨.plain, utf8Bytes "0123456789äbcdef0123456789abcdef"⟩
          (List.replicate 16 1) "+82-10-1234-5678" =
        .error (.error "Encryption failed") := by
  refine ⟨by decide +kernel, rfl, by decide +kernel, by decide +kernel⟩

end BackendBoilerplate
