import BackendBoilerplate.Shared.Crypto
import Mathlib.Data.List.Infix

/-!
What `encrypt` stores and what `decrypt` accepts. A stored text always comes back,
whatever is in it; but `decrypt` takes more than `encrypt` makes: its hex decoder is
lenient, it measures neither the IV nor the tag, and Node checks a short tag only as
far as it goes.
-/
namespace BackendBoilerplate
open JavaScript

/-- The digits of `buffer.toString('hex')`. -/
def lowerHexDigits : List Char := "0123456789abcdef".toList

/-- A digit is read as its value, and a lowercase digit is the one that its value is
written as. -/
theorem hexDigit_spec {n : UInt8} (h : n < 16) :
    hexDigit n ∈ lowerHexDigits ∧ hexValue (hexDigit n) = some n := by
  have all : ∀ k < 16, hexDigit (UInt8.ofNat k) ∈ lowerHexDigits ∧
      hexValue (hexDigit (UInt8.ofNat k)) = some (UInt8.ofNat k) := by decide
  have hn := all n.toNat (UInt8.lt_iff_toNat_lt.mp h)
  rwa [UInt8.ofNat_toNat] at hn

theorem hexDigit_of_mem {c : Char} (h : c ∈ lowerHexDigits) :
    ∃ n : UInt8, n < 16 ∧ hexValue c = some n ∧ hexDigit n = c := by
  have all : lowerHexDigits.Forall fun c => ∃ k < 16, UInt8.ofNat k < 16 ∧
      hexValue c = some (UInt8.ofNat k) ∧ hexDigit (UInt8.ofNat k) = c := by decide
  obtain ⟨k, -, hn⟩ := List.forall_iff_forall_mem.mp all c h
  exact ⟨UInt8.ofNat k, hn⟩

/-- A byte is put together from its two digits. -/
theorem byte_of_digits (b : UInt8) : b / 16 < 16 ∧ b % 16 < 16 ∧ b / 16 * 16 + b % 16 = b := by
  have hb := b.toNat_lt
  refine ⟨UInt8.lt_iff_toNat_lt.mpr ?_, UInt8.lt_iff_toNat_lt.mpr ?_, UInt8.toNat_inj.mp ?_⟩
  · rw [UInt8.toNat_div]
    change b.toNat / 16 < 16
    omega
  · rw [UInt8.toNat_mod]
    change b.toNat % 16 < 16
    omega
  · rw [UInt8.toNat_add, UInt8.toNat_mul, UInt8.toNat_div, UInt8.toNat_mod]
    change (b.toNat / 16 * 16 % 256 + b.toNat % 16) % 256 = b.toNat
    omega

/-- A byte is taken apart into its two digits. -/
theorem digits_of_byte {hi lo : UInt8} (hhi : hi < 16) (hlo : lo < 16) :
    (hi * 16 + lo) / 16 = hi ∧ (hi * 16 + lo) % 16 = lo := by
  have hhi' : hi.toNat < 16 := UInt8.lt_iff_toNat_lt.mp hhi
  have hlo' : lo.toNat < 16 := UInt8.lt_iff_toNat_lt.mp hlo
  have hsum : (hi * 16 + lo).toNat = hi.toNat * 16 + lo.toNat := by
    rw [UInt8.toNat_add, UInt8.toNat_mul]
    change (hi.toNat * 16 % 256 + lo.toNat) % 256 = _
    omega
  refine ⟨UInt8.toNat_inj.mp ?_, UInt8.toNat_inj.mp ?_⟩
  · rw [UInt8.toNat_div, hsum]
    change (hi.toNat * 16 + lo.toNat) / 16 = _
    omega
  · rw [UInt8.toNat_mod, hsum]
    change (hi.toNat * 16 + lo.toNat) % 16 = _
    omega

@[simp] theorem toHex_nil : toHex [] = [] := rfl

@[simp] theorem toHex_cons (b : UInt8) (bytes : List UInt8) :
    toHex (b :: bytes) = hexDigit (b / 16) :: hexDigit (b % 16) :: toHex bytes := rfl

@[simp] theorem length_toHex (bytes : List UInt8) : (toHex bytes).length = 2 * bytes.length := by
  induction bytes with
  | nil => rfl
  | cons b bytes ih =>
      rw [toHex_cons, List.length_cons, List.length_cons, ih, List.length_cons]
      omega

theorem toHex_lower {bytes : List UInt8} : ∀ c ∈ toHex bytes, c ∈ lowerHexDigits := by
  induction bytes with
  | nil => exact nofun
  | cons b bytes ih =>
      obtain ⟨hhi, hlo, -⟩ := byte_of_digits b
      intro c hc
      rw [toHex_cons, List.mem_cons, List.mem_cons] at hc
      rcases hc with rfl | rfl | hc
      · exact (hexDigit_spec hhi).1
      · exact (hexDigit_spec hlo).1
      · exact ih c hc

/-- Decoding inverts encoding. -/
@[simp] theorem fromHex_toHex (bytes : List UInt8) : fromHex (toHex bytes) = bytes := by
  induction bytes with
  | nil => rfl
  | cons b bytes ih =>
      obtain ⟨hhi, hlo, hb⟩ := byte_of_digits b
      rw [toHex_cons, fromHex, (hexDigit_spec hhi).2, (hexDigit_spec hlo).2]
      simp only [hb, ih]

/-- Encoding inverts decoding on lowercase digits, in pairs. -/
theorem toHex_fromHex : {text : List Char} → (∀ c ∈ text, c ∈ lowerHexDigits) →
    text.length % 2 = 0 → toHex (fromHex text) = text
  | [], _, _ => rfl
  | [_], _, even => by simp at even
  | a :: b :: rest, lower, even => by
      obtain ⟨hi, hhi, ha, hda⟩ := hexDigit_of_mem (lower a (by simp))
      obtain ⟨lo, hlo, hb, hdb⟩ := hexDigit_of_mem (lower b (by simp))
      obtain ⟨hquot, hrem⟩ := digits_of_byte hhi hlo
      have hrest : toHex (fromHex rest) = rest :=
        toHex_fromHex (fun c hc => lower c (by simp [hc])) <| by
          rw [List.length_cons, List.length_cons] at even
          omega
      rw [fromHex, ha, hb]
      simp only [toHex_cons, hquot, hrem, hda, hdb, hrest]

theorem utf16Length_lower {text : List Char} (lower : ∀ c ∈ text, c ∈ lowerHexDigits) :
    utf16Length text = text.length := by
  have all : lowerHexDigits.Forall fun c => c.toNat < 0x10000 := by decide
  induction text with
  | nil => rfl
  | cons c text ih =>
      have hrest := ih fun c hc => lower c (List.mem_cons_of_mem _ hc)
      have hc := List.forall_iff_forall_mem.mp all c (lower c List.mem_cons_self)
      rw [utf16Length, List.map_cons, List.sum_cons, if_pos hc, List.length_cons, Nat.add_comm]
      exact congrArg (· + 1) hrest

@[simp] theorem cipherInput_toHex (bytes : List UInt8) : cipherInput (toHex bytes) = some bytes := by
  rw [cipherInput, utf16Length_lower toHex_lower, length_toHex, if_pos (by omega), fromHex_toHex]

theorem colon_notMem_toHex (bytes : List UInt8) : ':' ∉ toHex bytes := by
  intro h
  exact absurd (toHex_lower _ h) (by decide)

theorem utf8Bytes_eq_nil {text : String} (h : utf8Bytes text = []) : text = "" := by
  refine String.toByteArray_inj.mp (ByteArray.ext (Array.toList_inj.mp ?_))
  exact h

/-- What Node documents of AES-256-GCM, and of UTF-8. A text is sealed under a key of 32
bytes and any IV but an empty one. It is opened by what it was sealed as; a tag may have
one of seven lengths, and is checked as far as it goes. -/
structure NodeCrypto.Gcm (node : NodeCrypto) : Prop where
  seals : ∀ key iv plaintext, key.length = 32 → iv ≠ [] →
    ∃ encrypted authTag, node.gcmSeal key iv plaintext = some (encrypted, authTag)
  lengths : ∀ key iv plaintext encrypted authTag,
    node.gcmSeal key iv plaintext = some (encrypted, authTag) →
      encrypted.length = plaintext.length ∧ authTag.length = 16
  opens : ∀ key iv authTag encrypted plaintext,
    node.gcmOpen key iv authTag encrypted = some plaintext ↔
      authTag.length ∈ [4, 8, 12, 13, 14, 15, 16] ∧
        ∃ full, node.gcmSeal key iv plaintext = some (encrypted, full) ∧ authTag <+: full
  decodes : ∀ text, node.utf8Decode (utf8Bytes text) = text

/-- `iv:authTag:encrypted`, with a whole IV and a whole tag in lowercase digits. -/
def StoredForm (stored : String) : Prop :=
  ∃ iv authTag encrypted, stored.toList.splitOn ':' = [iv, authTag, encrypted] ∧
    iv.length = 32 ∧ authTag.length = 32 ∧ ∀ c ∈ iv ++ authTag, c ∈ lowerHexDigits

namespace CryptoService
variable {c : CryptoService} {iv : List UInt8} {text : String}

/-- The text of three parts. -/
def framed (iv authTag encrypted : List UInt8) : String :=
  String.ofList (toHex iv ++ [':'] ++ toHex authTag ++ [':'] ++ toHex encrypted)

@[simp] theorem splitOn_framed (iv authTag encrypted : List UInt8) :
    (framed iv authTag encrypted).toList.splitOn ':' =
      [toHex iv, toHex authTag, toHex encrypted] := by
  rw [framed, String.toList_ofList]
  simp only [List.append_assoc, List.cons_append, List.nil_append]
  rw [List.splitOn_append_cons_self_of_not_mem (colon_notMem_toHex iv),
    List.splitOn_append_cons_self_of_not_mem (colon_notMem_toHex authTag),
    List.splitOn_eq_singleton (colon_notMem_toHex encrypted)]

theorem encrypt_of_ne (h : text ≠ "") :
    c.encrypt iv text =
      match c.node.gcmSeal c.encryptionKey iv (utf8Bytes text) with
      | some (encrypted, authTag) => .ok (framed iv authTag encrypted)
      | none => .error (.error "Encryption failed") := by
  rw [encrypt, if_neg h]
  rfl

theorem framed_ne_empty (iv authTag encrypted : List UInt8) : framed iv authTag encrypted ≠ "" := by
  intro h
  have hparts := congrArg List.length (splitOn_framed iv authTag encrypted)
  rw [h] at hparts
  cases hparts.symm.trans (by decide : ("".toList.splitOn ':').length = 1)

/-- What is in three parts is decrypted from what they decode to. -/
theorem decrypt_framed (authTag encrypted : List UInt8) :
    c.decrypt (framed iv authTag encrypted) =
      match c.node.gcmOpen c.encryptionKey iv authTag encrypted with
      | some plaintext => .ok (c.node.utf8Decode plaintext)
      | none => .error (.error "Decryption failed") := by
  rw [decrypt, if_neg (framed_ne_empty iv authTag encrypted), splitOn_framed]
  cases hopen : c.node.gcmOpen c.encryptionKey iv authTag encrypted <;>
    simp only [cipherInput_toHex, fromHex_toHex, Option.bind_some, hopen]

variable (gcm : c.node.Gcm)
include gcm

/-- What is sealed comes back. -/
theorem decrypt_of_encrypt {stored : String} (h : c.encrypt iv text = .ok stored) :
    c.decrypt stored = .ok text := by
  by_cases hempty : text = ""
  · rw [encrypt, if_pos hempty] at h
    obtain rfl := Except.ok.inj h
    rw [hempty]
    rfl
  · rw [encrypt_of_ne hempty] at h
    split at h
    · next encrypted authTag hseal =>
        obtain rfl := Except.ok.inj h
        obtain ⟨-, htag⟩ := gcm.lengths _ _ _ _ _ hseal
        have hopen : c.node.gcmOpen c.encryptionKey iv authTag encrypted =
            some (utf8Bytes text) := by
          rw [gcm.opens, htag]
          exact ⟨by decide, authTag, hseal, List.prefix_rfl⟩
        rw [decrypt_framed, hopen]
        simp only [gcm.decodes]
    · cases h

/-- Every text is sealed and comes back, and is stored in its form. -/
theorem decrypt_encrypt (key : c.encryptionKey.length = 32) (hiv : iv.length = 16) (text : String) :
    ∃ stored, c.encrypt iv text = .ok stored ∧ c.decrypt stored = .ok text ∧
      (text ≠ "" → stored ≠ "" ∧ StoredForm stored) := by
  by_cases hempty : text = ""
  · subst hempty
    exact ⟨"", rfl, rfl, fun h => absurd rfl h⟩
  · have hne : iv ≠ [] := by
      rintro rfl
      cases hiv
    obtain ⟨encrypted, authTag, hseal⟩ := gcm.seals _ iv (utf8Bytes text) key hne
    obtain ⟨-, htag⟩ := gcm.lengths _ _ _ _ _ hseal
    have hencrypt : c.encrypt iv text = .ok (framed iv authTag encrypted) := by
      rw [encrypt_of_ne hempty, hseal]
    refine ⟨framed iv authTag encrypted, hencrypt, decrypt_of_encrypt gcm hencrypt,
      fun _ => ⟨framed_ne_empty _ _ _, ?_⟩⟩
    refine ⟨_, _, _, splitOn_framed iv authTag encrypted, ?_, ?_, ?_⟩
    · rw [length_toHex, hiv]
    · rw [length_toHex, htag]
    · intro d hd
      cases List.mem_append.mp hd with
      | inl h => exact toHex_lower d h
      | inr h => exact toHex_lower d h

omit gcm

/-- The IV that a stored text begins with. -/
def ivOf (stored : String) : List UInt8 := fromHex ((stored.toList.splitOn ':').headD [])

/-- All that is decrypted from this text is what it is the encryption of, under its IV. -/
def OnlyEncrypted (c : CryptoService) (stored : String) : Prop :=
  ∀ text, c.decrypt stored = .ok text →
    (ivOf stored).length = 16 ∧ c.encrypt (ivOf stored) text = .ok stored

/-- Three parts that open under the key, to `plaintext`. -/
def Opens (c : CryptoService) (stored : String) (plaintext : List UInt8) : Prop :=
  ∃ iv authTag encrypted bytes, stored.toList.splitOn ':' = [iv, authTag, encrypted] ∧
    cipherInput encrypted = some bytes ∧
      c.node.gcmOpen c.encryptionKey (fromHex iv) (fromHex authTag) bytes = some plaintext

/-- A whole IV, a whole tag and at least one byte, in pairs of lowercase digits. -/
def Canonical (stored : String) : Prop :=
  ∃ iv authTag encrypted, stored.toList.splitOn ':' = [iv, authTag, encrypted] ∧
    iv.length = 32 ∧ authTag.length = 32 ∧ encrypted.length % 2 = 0 ∧ encrypted ≠ [] ∧
      ∀ c ∈ iv ++ authTag ++ encrypted, c ∈ lowerHexDigits

/-- A canonical text is the three parts that its bytes are written as. -/
theorem canonical_iff {stored : String} :
    Canonical stored ↔ ∃ iv authTag encrypted : List UInt8,
      stored = framed iv authTag encrypted ∧ iv.length = 16 ∧ authTag.length = 16 ∧
        encrypted ≠ [] := by
  constructor
  · rintro ⟨iv, authTag, encrypted, hparts, hiv, htag, heven, hne, hlower⟩
    have hi : toHex (fromHex iv) = iv :=
      toHex_fromHex (fun d hd => hlower d (by simp [hd])) (by rw [hiv])
    have ht : toHex (fromHex authTag) = authTag :=
      toHex_fromHex (fun d hd => hlower d (by simp [hd])) (by rw [htag])
    have he : toHex (fromHex encrypted) = encrypted :=
      toHex_fromHex (fun d hd => hlower d (by simp [hd])) heven
    refine ⟨fromHex iv, fromHex authTag, fromHex encrypted, ?_, ?_, ?_, ?_⟩
    · have hjoined : List.intercalate [':'] (stored.toList.splitOn ':') = stored.toList :=
        List.intercalate_splitOn ':'
      rw [framed, hi, ht, he, ← String.ofList_toList (s := stored), ← hjoined, hparts]
      simp [List.intercalate]
    · have := congrArg List.length hi
      rw [length_toHex, hiv] at this
      omega
    · have := congrArg List.length ht
      rw [length_toHex, htag] at this
      omega
    · intro hnil
      rw [hnil] at he
      exact hne he.symm
  · rintro ⟨iv, authTag, encrypted, rfl, hiv, htag, hne⟩
    refine ⟨_, _, _, splitOn_framed iv authTag encrypted, ?_, ?_, ?_, ?_, ?_⟩
    · rw [length_toHex, hiv]
    · rw [length_toHex, htag]
    · rw [length_toHex]
      omega
    · intro hnil
      have := congrArg List.length hnil
      rw [length_toHex, List.length_nil] at this
      exact hne (List.length_eq_zero_iff.mp (by omega))
    · intro d hd
      simp only [List.mem_append] at hd
      rcases hd with (h | h) | h <;> exact toHex_lower d h

theorem opens_framed {authTag encrypted plaintext : List UInt8} :
    c.Opens (framed iv authTag encrypted) plaintext ↔
      c.node.gcmOpen c.encryptionKey iv authTag encrypted = some plaintext := by
  constructor
  · rintro ⟨iv', authTag', encrypted', bytes, hparts, hinput, hopen⟩
    rw [splitOn_framed] at hparts
    obtain ⟨rfl, rfl, rfl⟩ : toHex iv = iv' ∧ toHex authTag = authTag' ∧
        toHex encrypted = encrypted' := by simpa using hparts
    rw [cipherInput_toHex] at hinput
    obtain rfl := Option.some.inj hinput
    rwa [fromHex_toHex, fromHex_toHex] at hopen
  · intro hopen
    refine ⟨_, _, _, encrypted, splitOn_framed iv authTag encrypted, cipherInput_toHex _, ?_⟩
    rwa [fromHex_toHex, fromHex_toHex]

/-- A text that opens is decrypted. -/
theorem Opens.decrypt {stored : String} {plaintext : List UInt8} (h : c.Opens stored plaintext) :
    c.decrypt stored = .ok (c.node.utf8Decode plaintext) := by
  obtain ⟨iv, authTag, encrypted, bytes, hparts, hinput, hopen⟩ := h
  have hne : stored ≠ "" := by
    rintro rfl
    have := congrArg List.length hparts
    cases this.symm.trans (by decide : ("".toList.splitOn ':').length = 1)
  rw [CryptoService.decrypt, if_neg hne, hparts]
  simp only [hinput, Option.bind_some, hopen]

/-- A text that is decrypted opens, unless it is empty. -/
theorem opens_of_decrypt {stored : String} (hne : stored ≠ "") (h : c.decrypt stored = .ok text) :
    ∃ plaintext, c.Opens stored plaintext ∧ text = c.node.utf8Decode plaintext := by
  rw [CryptoService.decrypt, if_neg hne] at h
  split at h
  · next iv authTag encrypted hparts =>
      split at h
      · next plaintext hopen =>
          obtain ⟨bytes, hinput, hopen⟩ := Option.bind_eq_some_iff.mp hopen
          exact ⟨plaintext, ⟨iv, authTag, encrypted, bytes, hparts, hinput, hopen⟩,
            (Except.ok.inj h).symm⟩
      · cases h
  · cases h

/-- `decrypt` takes nothing but encryptions exactly where every text that opens is
canonical and seals a text. -/
theorem decrypts_only_encrypted_iff (c : CryptoService) (gcm : c.node.Gcm) (stored : String)
    (hne : stored ≠ "") :
    c.OnlyEncrypted stored ↔
      ∀ plaintext, c.Opens stored plaintext →
        Canonical stored ∧ ∃ text, plaintext = utf8Bytes text := by
  constructor
  · intro only plaintext hopens
    obtain ⟨hiv, hencrypt⟩ := only _ hopens.decrypt
    have htext : c.node.utf8Decode plaintext ≠ "" := by
      intro hempty
      rw [hempty] at hencrypt
      exact hne (Except.ok.inj hencrypt).symm
    rw [encrypt_of_ne htext] at hencrypt
    split at hencrypt
    · next encrypted authTag hseal =>
        obtain ⟨hlen, htag⟩ := gcm.lengths _ _ _ _ _ hseal
        have hstored := Except.ok.inj hencrypt
        refine ⟨canonical_iff.mpr ⟨_, _, _, hstored.symm, hiv, htag, ?_⟩,
          c.node.utf8Decode plaintext, ?_⟩
        · rintro rfl
          exact htext (utf8Bytes_eq_nil (List.length_eq_zero_iff.mp hlen.symm))
        · have hopen : c.node.gcmOpen c.encryptionKey (ivOf stored) authTag encrypted =
              some (utf8Bytes (c.node.utf8Decode plaintext)) := by
            rw [gcm.opens, htag]
            exact ⟨by decide, authTag, hseal, List.prefix_rfl⟩
          rw [← hstored, opens_framed, hopen] at hopens
          exact (Option.some.inj hopens).symm
    · cases hencrypt
  · intro canonical text hdecrypt
    obtain ⟨plaintext, hopens, rfl⟩ := opens_of_decrypt hne hdecrypt
    obtain ⟨hcanonical, text, rfl⟩ := canonical plaintext hopens
    obtain ⟨iv, authTag, encrypted, rfl, hiv, htag, hbytes⟩ := canonical_iff.mp hcanonical
    rw [opens_framed, gcm.opens] at hopens
    obtain ⟨-, full, hseal, hprefix⟩ := hopens
    obtain ⟨hlen, hfull⟩ := gcm.lengths _ _ _ _ _ hseal
    obtain rfl : authTag = full := hprefix.eq_of_length (htag.trans hfull.symm)
    have hivOf : ivOf (framed iv authTag encrypted) = iv := by
      rw [ivOf, splitOn_framed, List.headD_cons, fromHex_toHex]
    have htext : text ≠ "" := by
      rintro rfl
      exact hbytes (List.length_eq_zero_iff.mp hlen)
    rw [hivOf, gcm.decodes, encrypt_of_ne htext, hseal]
    exact ⟨hiv, rfl⟩

omit gcm

/-! A cipher to evaluate on: the plaintext as it is, under a tag that is always the same. -/

def plainTag : List UInt8 := List.replicate 16 7

end CryptoService

def NodeCrypto.plain : NodeCrypto where
  gcmSeal key iv plaintext :=
    if key.length = 32 ∧ iv ≠ [] then some (plaintext, CryptoService.plainTag) else none
  gcmOpen key iv authTag ciphertext :=
    if key.length = 32 ∧ iv ≠ [] ∧ authTag.length ∈ [4, 8, 12, 13, 14, 15, 16] ∧
      authTag <+: CryptoService.plainTag then some ciphertext else none
  utf8Decode bytes := (String.fromUTF8? ⟨bytes.toArray⟩).getD ""

theorem NodeCrypto.plain_gcm : NodeCrypto.plain.Gcm where
  seals key iv plaintext hkey hiv := ⟨_, _, if_pos ⟨hkey, hiv⟩⟩
  lengths key iv plaintext encrypted authTag h := by
    simp only [plain] at h
    split at h
    · obtain ⟨rfl, rfl⟩ := Prod.mk.inj (Option.some.inj h)
      exact ⟨rfl, rfl⟩
    · cases h
  opens key iv authTag encrypted plaintext := by
    simp only [plain]
    constructor
    · intro h
      split at h
      · next hopen =>
          obtain rfl := Option.some.inj h
          obtain ⟨hkey, hiv, hlen, hprefix⟩ := hopen
          exact ⟨hlen, CryptoService.plainTag, if_pos ⟨hkey, hiv⟩, hprefix⟩
      · cases h
    · rintro ⟨hlen, full, hseal, hprefix⟩
      split at hseal
      · next hsealed =>
          obtain ⟨rfl, rfl⟩ := Prod.mk.inj (Option.some.inj hseal)
          exact if_pos ⟨hsealed.1, hsealed.2, hlen, hprefix⟩
      · cases hseal
  decodes text := by
    simp only [plain]
    rw [show (⟨(utf8Bytes text).toArray⟩ : ByteArray) = text.toByteArray from rfl,
      String.fromUTF8?, dif_pos text.isValidUTF8]
    rfl

namespace CryptoService

def plain : CryptoService := ⟨.plain, List.replicate 32 1⟩

/-- The encryption of "hi" under an IV of ones. -/
def storedHi : String := framed (List.replicate 16 1) plainTag (utf8Bytes "hi")

theorem decrypts_only_encrypted_iff_storedHi : plain.OnlyEncrypted storedHi :=
  (decrypts_only_encrypted_iff plain NodeCrypto.plain_gcm storedHi (framed_ne_empty _ _ _)).mpr
    fun plaintext hopens => by
      rw [storedHi, opens_framed] at hopens
      obtain rfl : utf8Bytes "hi" = plaintext := Option.some.inj hopens
      exact ⟨canonical_iff.mpr ⟨_, _, _, rfl, by decide, by decide, by decide⟩, "hi", rfl⟩

/-- The same text with a quarter of its tag. -/
def shortenedHi : String := framed (List.replicate 16 1) (plainTag.take 4) (utf8Bytes "hi")

/-- It is decrypted, and no encryption. -/
theorem decrypts_shortened_tag :
    plain.decrypt shortenedHi = .ok "hi" ∧ ¬ plain.OnlyEncrypted shortenedHi := by
  have hdecrypt : plain.decrypt shortenedHi = .ok "hi" := by
    rw [shortenedHi, decrypt_framed]
    exact congrArg Except.ok (NodeCrypto.plain_gcm.decodes "hi")
  refine ⟨hdecrypt, fun only => ?_⟩
  obtain ⟨-, hencrypt⟩ := only "hi" hdecrypt
  rw [encrypt_of_ne (by decide)] at hencrypt
  have hframed : framed (ivOf shortenedHi) plainTag (utf8Bytes "hi") = shortenedHi :=
    Except.ok.inj hencrypt
  have hparts := congrArg (fun stored => stored.toList.splitOn ':') hframed
  simp only [shortenedHi, splitOn_framed, List.cons.injEq] at hparts
  exact absurd (congrArg List.length hparts.2.1) (by decide)

end CryptoService
end BackendBoilerplate
